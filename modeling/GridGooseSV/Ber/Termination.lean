import GridGooseSV.Ber.Length

/-!
# Indefinite lengths end

The search for the end of an indefinite length passes over at least one octet at every turn and
does not go past the limit, so it is over within a turn for every octet that is left.
-/

namespace GridGooseSV.BerDecoder

variable {memory : Memory} {buffer : Nat} {maxBufPos : Int}

theorem lengthOctets_indefinite {first second : Nat → Traced Access (Option Nat)} {bufPos : Nat}
    (same : first (bufPos + 1) = second (bufPos + 1)) :
    lengthOctets memory buffer maxBufPos first bufPos =
      lengthOctets memory buffer maxBufPos second bufPos := by
  unfold lengthOctets
  refine Traced.bind_congr (Traced.bind_congr ?_)
  rw [value_int, same]

theorem decodeLengthRecursive_indefinite {first second : Nat → Traced Access (Option Nat)}
    {bufPos : Nat} (same : first (bufPos + 1) = second (bufPos + 1)) :
    decodeLengthRecursive memory buffer maxBufPos first bufPos =
      decodeLengthRecursive memory buffer maxBufPos second bufPos := by
  unfold decodeLengthRecursive
  rw [lengthOctets_indefinite same]

/-- Any fuel that is enough for the octets that are left is as good as any other. -/
theorem indefiniteLoop_enough (maxDepth : Nat) {fuel other bufPos : Nat} (length depth : Nat)
    (enough : maxBufPos ≤ bufPos + fuel) (enoughOther : maxBufPos ≤ bufPos + other) :
    indefiniteLoop memory buffer maxBufPos maxDepth fuel bufPos length depth =
      indefiniteLoop memory buffer maxBufPos maxDepth other bufPos length depth := by
  induction fuel generalizing other bufPos length depth with
  | zero =>
      cases other with
      | zero => rfl
      | succ other => rw [indefiniteLoop, indefiniteLoop, if_neg (by omega)]
  | succ fuel ih =>
      cases other with
      | zero => rw [indefiniteLoop, indefiniteLoop, if_neg (by omega)]
      | succ other =>
          unfold indefiniteLoop
          by_cases inside : (bufPos : Int) < maxBufPos
          · rw [if_pos inside, if_pos inside]
            refine Traced.bind_congr ?_
            by_cases ended : (endOfContents memory buffer maxBufPos bufPos).value
            · rw [if_pos ended, if_pos ended]
            · rw [if_neg ended, if_neg ended]
              -- The length, the tag and the position behind it.
              refine Traced.bind_congr (Traced.bind_congr (Traced.bind_congr
                (Traced.bind_congr (Traced.bind_congr ?_))))
              generalize (if (memory.read (buffer + bufPos)).value &&& 0x1f = 0x1f then 1
                else 0) = more
              simp only [value_int]
              have nested : decodeLengthRecursive memory buffer maxBufPos
                  (fun start => if depth + 1 > maxDepth then pure none
                    else indefiniteLoop memory buffer maxBufPos maxDepth fuel start 0 (depth + 1))
                  (bufPos + 1 + more) =
                decodeLengthRecursive memory buffer maxBufPos
                  (fun start => if depth + 1 > maxDepth then pure none
                    else indefiniteLoop memory buffer maxBufPos maxDepth other start 0 (depth + 1))
                  (bufPos + 1 + more) := by
                apply decodeLengthRecursive_indefinite
                rw [@ih other (bufPos + 1 + more + 1) 0 (depth + 1) (by omega) (by omega)]
              rw [nested]
              refine Traced.bind_congr ?_
              rcases decoded : (decodeLengthRecursive memory buffer maxBufPos
                (fun start => if depth + 1 > maxDepth then pure none
                  else indefiniteLoop memory buffer maxBufPos maxDepth other start 0 (depth + 1))
                (bufPos + 1 + more)).value with _ | ⟨start, size⟩
              · rfl
              · obtain ⟨_, _, octets⟩ := decodeLengthRecursive_eq_some.mp decoded
                have later := lengthOctets_advances octets
                refine Traced.bind_congr (Traced.bind_congr ?_)
                rw [value_int]
                exact ih _ _ (by omega) (by omega)
          · rw [if_neg inside, if_neg inside]

/-- The search for the end of an indefinite length is over before its fuel is. -/
theorem settles_indefiniteLoop (maxDepth bufPos length depth : Nat) :
    Settles (fun fuel => indefiniteLoop memory buffer maxBufPos maxDepth fuel bufPos length depth)
      (maxBufPos - bufPos).toNat :=
  fun _ enough => indefiniteLoop_enough maxDepth length depth (by omega) (by omega)

end GridGooseSV.BerDecoder
