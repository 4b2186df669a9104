import GridGooseSV.Foundation.Traced
import GridGooseSV.Foundation.Numeral
import GridGooseSV.Foundation.Paired
import GridGooseSV.Foundation.Memory
import GridGooseSV.Foundation.Tlv
import GridGooseSV.Foundation.EventQueue
import GridGooseSV.Foundation.Runs
import GridGooseSV.Foundation.Ledger
import GridGooseSV.Foundation.Episodes
import GridGooseSV.Foundation.Ranges
import GridGooseSV.Foundation.Rescale
import GridGooseSV.Foundation.Format
import GridGooseSV.Foundation.Buffer
import GridGooseSV.Foundation.TwosComplement
import GridGooseSV.Foundation.Simulation
import GridGooseSV.Foundation.Base128
import GridGooseSV.Foundation.Decimal
import GridGooseSV.Foundation.Chain
import GridGooseSV.Common.LinkedList
import GridGooseSV.Common.Timestamp
import GridGooseSV.Mms.Value
import GridGooseSV.Mms.Integer
import GridGooseSV.Mms.Data
import GridGooseSV.Ber.Encoder
import GridGooseSV.Ber.Decoder
import GridGooseSV.Ber.Length
import GridGooseSV.Ber.Integer
import GridGooseSV.Ber.Bounds
import GridGooseSV.Ber.Termination
import GridGooseSV.Ber.Indefinite
import GridGooseSV.Ber.Framing
import GridGooseSV.Ber.Definite
import GridGooseSV.Ber.Compression
import GridGooseSV.Ber.Primitive
import GridGooseSV.Ber.ObjectIdentifier
import GridGooseSV.Mms.Encoder
import GridGooseSV.Goose.Subscriber
import GridGooseSV.Goose.DataSet
import GridGooseSV.Goose.Carried
import GridGooseSV.Goose.Creation
import GridGooseSV.Goose.Updating
import GridGooseSV.Goose.Acceptance
import GridGooseSV.Goose.Receiver
import GridGooseSV.Goose.Events
import GridGooseSV.Goose.Pdu
import GridGooseSV.Goose.Delivery
import GridGooseSV.Goose.Frame
import GridGooseSV.Goose.Header
import GridGooseSV.Goose.Undelivered
import GridGooseSV.Goose.Filter
import GridGooseSV.Goose.Validity
import GridGooseSV.Goose.Bounds
import GridGooseSV.Goose.Publisher
import GridGooseSV.Goose.Encoded
import GridGooseSV.Mms.LengthPass
import GridGooseSV.Goose.Publishing
import GridGooseSV.Goose.Limits
import GridGooseSV.Goose.Storing
import GridGooseSV.Goose.Diagnosis
import GridGooseSV.Goose.RoundTrip
import GridGooseSV.Goose.Stream
import GridGooseSV.Goose.Separation
import GridGooseSV.Goose.Sequence
import GridGooseSV.Goose.Replay
import GridGooseSV.Goose.History
import GridGooseSV.Goose.Completeness
import GridGooseSV.Goose.Untagged
import GridGooseSV.Goose.Observer
import GridGooseSV.Goose.Freshness
import GridGooseSV.Goose.Retransmission
import GridGooseSV.Goose.Reads
import GridGooseSV.Goose.Admission
import GridGooseSV.Goose.OwnOctets
import GridGooseSV.Goose.DataReach
import GridGooseSV.Goose.Reach
import GridGooseSV.Goose.Termination
import GridGooseSV.Goose.Nesting
import GridGooseSV.Goose.Ownership
import GridGooseSV.Goose.Numbering
import GridGooseSV.Sv.Publisher
import GridGooseSV.Sv.Subscriber
import GridGooseSV.Sv.Asdu
import GridGooseSV.Sv.Handover
import GridGooseSV.Sv.Fields
import GridGooseSV.Sv.Isolation
import GridGooseSV.Sv.Frame
import GridGooseSV.Sv.Bounds
import GridGooseSV.Sv.Sample
import GridGooseSV.Sv.Patching
import GridGooseSV.Sv.Setup
import GridGooseSV.Sv.Limits
import GridGooseSV.Sv.Commuting
import GridGooseSV.Sv.Delivery
import GridGooseSV.Sv.Selection
import GridGooseSV.Sv.Publishing
import GridGooseSV.Sv.RoundTrip
import GridGooseSV.Sv.Addressing
import GridGooseSV.Sv.Counter
import GridGooseSV.Sv.DataBlock
import GridGooseSV.Common.Tagging
import GridGooseSV.Common.Medium
import GridGooseSV.Common.UtcTime
import GridGooseSV.Common.Resolution
import GridGooseSV.Common.Text
import GridGooseSV.Mms.Printer
import GridGooseSV.Mms.Printing
import GridGooseSV.Apps.SvSubscriber
import GridGooseSV.Apps.SvPublisher
import GridGooseSV.Apps.SvSampling
import GridGooseSV.Apps.SvAgreement
import GridGooseSV.Apps.GoosePublisher
import GridGooseSV.Apps.GooseSchedule
import GridGooseSV.Apps.GooseFrames
import GridGooseSV.Apps.GooseNumbering
import GridGooseSV.Apps.GooseBursts
import GridGooseSV.Apps.GooseReceiver
import GridGooseSV.Apps.GooseAgreement
import GridGooseSV.Apps.GooseCadence
import GridGooseSV.Apps.GooseSupervision
import GridGooseSV.Common.GeneralizedTime
import GridGooseSV.Common.Receivers
import GridGooseSV.Foundation.Ownership
import GridGooseSV.Common.Sessions
import GridGooseSV.Common.Lifetimes
import GridGooseSV.Apps.Lifecycle
