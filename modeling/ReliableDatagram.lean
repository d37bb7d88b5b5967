import ReliableDatagram.SeqId
import ReliableDatagram.SeqMap
import ReliableDatagram.Acknowledgment
import ReliableDatagram.ReceiptWindow
import ReliableDatagram.Time
import ReliableDatagram.Capacity
import ReliableDatagram.Arena
import ReliableDatagram.Table
import ReliableDatagram.Transition
import ReliableDatagram.Word
import ReliableDatagram.Segment
import ReliableDatagram.WireUnit
import ReliableDatagram.WireUnit.Encoding
import ReliableDatagram.Config
import ReliableDatagram.RoundTrip
import ReliableDatagram.SendEvent
import ReliableDatagram.Statistics
import ReliableDatagram.Sender
import ReliableDatagram.Receiver
import ReliableDatagram.Link
import ReliableDatagram.Peer
import ReliableDatagram.Blank
import ReliableDatagram.Toml.Value
import ReliableDatagram.Toml.Reader
import ReliableDatagram.Toml.Text
import ReliableDatagram.Toml.Number
import ReliableDatagram.Toml.Moment
import ReliableDatagram.Toml.Table
import ReliableDatagram.Toml.Document
import ReliableDatagram.Config.Document
import ReliableDatagram.Proofs.SeqOrder
import ReliableDatagram.Proofs.SeqMap
import ReliableDatagram.Proofs.ReceiptWindow
import ReliableDatagram.Proofs.ReceiptWindow.Trail
import ReliableDatagram.Proofs.Transition
import ReliableDatagram.Proofs.WireUnit
import ReliableDatagram.Proofs.WireUnit.Canonical
import ReliableDatagram.Proofs.WireUnit.Prefixes
import ReliableDatagram.Proofs.Table.Agreement
import ReliableDatagram.Proofs.Table.Contents
import ReliableDatagram.Proofs.Table.Consistency
import ReliableDatagram.Proofs.Table.Registration
import ReliableDatagram.Proofs.Table.Ledger
import ReliableDatagram.Proofs.Table.Refinement
import ReliableDatagram.Proofs.Table.AllOrNone
import ReliableDatagram.Proofs.Table.Walks
import ReliableDatagram.Proofs.Sender.Runs
import ReliableDatagram.Proofs.Sender.Moves
import ReliableDatagram.Proofs.Sender.Conservation
import ReliableDatagram.Proofs.Sender.Acknowledging
import ReliableDatagram.Proofs.Sender.Tracing
import ReliableDatagram.Proofs.Sender.Room
import ReliableDatagram.Proofs.Sender.HalfSpace
import ReliableDatagram.Proofs.Sender.Confirming
import ReliableDatagram.Proofs.Sender.Bounds
import ReliableDatagram.Proofs.Sender.Keeping
import ReliableDatagram.Proofs.Sender.Sending
import ReliableDatagram.Proofs.Sender.Visiting
import ReliableDatagram.Proofs.Sender.Reach
import ReliableDatagram.Proofs.Sender.Effect
import ReliableDatagram.Proofs.Sender.Batches
import ReliableDatagram.Proofs.Sender.Accounting
import ReliableDatagram.Proofs.Sender.Naming
import ReliableDatagram.Proofs.Sender.Wraparound
import ReliableDatagram.Proofs.Sender.Deeds
import ReliableDatagram.Proofs.Sender.Chronicle
import ReliableDatagram.Proofs.Sender.Discipline
import ReliableDatagram.Proofs.Sender.Expiry
import ReliableDatagram.Proofs.Sender.Sampling
import ReliableDatagram.Proofs.Sender.Retransmitting
import ReliableDatagram.Proofs.Sender.Eviction
import ReliableDatagram.Proofs.Receiver.Ingestion
import ReliableDatagram.Proofs.Receiver.Delivery
import ReliableDatagram.Proofs.Receiver.Positions
import ReliableDatagram.Proofs.Receiver.Receipts
import ReliableDatagram.Proofs.Receiver.Reporting
import ReliableDatagram.Proofs.Receiver.Accounting
import ReliableDatagram.Proofs.Receiver.Following
import ReliableDatagram.Proofs.Receiver.Completeness
import ReliableDatagram.Proofs.Receiver.Consecutive
import ReliableDatagram.Proofs.Receiver.Lag
import ReliableDatagram.Proofs.Receiver.Recovery
import ReliableDatagram.Proofs.Receiver.Effect
import ReliableDatagram.Proofs.Peer.Framing
import ReliableDatagram.Proofs.Peer.Operations
import ReliableDatagram.Proofs.Peer.Outbox
import ReliableDatagram.Proofs.Peer.Runs
import ReliableDatagram.Proofs.Peer.Rounds
import ReliableDatagram.Proofs.Peer.Owing
import ReliableDatagram.Proofs.Peer.Failures
import ReliableDatagram.Proofs.Peer.Hiding
import ReliableDatagram.Proofs.Network.Runs
import ReliableDatagram.Proofs.Network.Standing
import ReliableDatagram.Proofs.Network.Confirmations
import ReliableDatagram.Proofs.Network.Silence
