import TlsClient.ByteQueue
import TlsClient.Cipher.RecordLayer
import TlsClient.Config
import TlsClient.KeyExchange.Basic
import TlsClient.Proofs.Cipher.Reopening
import TlsClient.Proofs.Connection.Alerts
import TlsClient.Proofs.Connection.Arrival
import TlsClient.Proofs.Connection.Authentication
import TlsClient.Proofs.Connection.Boundaries
import TlsClient.Proofs.Connection.Chunking
import TlsClient.Proofs.Connection.Closing
import TlsClient.Proofs.Connection.Coverage
import TlsClient.Proofs.Connection.Failure
import TlsClient.Proofs.Connection.KeyChange
import TlsClient.Proofs.Wire.Messages
import TlsClient.Record.Deframer
import TlsClient.Record.Joiner
import TlsClient.Stream
import TlsClient.Proofs.Record.Streams
import TlsClient.Proofs.Session.Flowing
import TlsClient.Proofs.Connection.Writing
import TlsClient.Proofs.Connection.Keying
import TlsClient.Proofs.Connection.Passing
import TlsClient.Proofs.Connection.Reading
import TlsClient.Proofs.Connection.KeyedAlerts
import TlsClient.Proofs.Connection.Overflow
import TlsClient.Proofs.Connection.Completing
import TlsClient.Proofs.Connection.Holding
import TlsClient.Proofs.Connection.Outcome
import TlsClient.Proofs.Stream.Moving
import TlsClient.Proofs.Stream.Looping
import TlsClient.Proofs.Stream.Turning
import TlsClient.Proofs.Stream.Reading
import TlsClient.Proofs.Stream.Returning
import TlsClient.Proofs.Connection.Declining
import TlsClient.Proofs.Stream.Ending
import TlsClient.Proofs.Stream.Alerting
import TlsClient.Proofs.KeySchedule
import TlsClient.Proofs.Session.Numbering
import TlsClient.Proofs.Connection.Offering
import TlsClient.Proofs.Connection.Answering
import TlsClient.Proofs.Stage.Elements
import TlsClient.Proofs.Connection.Lasting
import TlsClient.Proofs.Connection.Departing
import TlsClient.Proofs.Cipher.Authenticity
import TlsClient.Proofs.Stage.Mirroring
import TlsClient.Proofs.Connection.Mirroring
import TlsClient.Proofs.Connection.Forgeries
import TlsClient.Proofs.Connection.Occurrences
import TlsClient.Proofs.Connection.Transparency
import TlsClient.Proofs.Stage.Provided
import TlsClient.Proofs.Stage.External
import TlsClient.Proofs.Connection.Encounters
import TlsClient.Proofs.Connection.Lossless
import TlsClient.Proofs.Connection.Blameless
import TlsClient.Proofs.KeyExchange.Accepting
import TlsClient.Proofs.KeyExchange.Password
import TlsClient.Proofs.Connection.Advancing
import TlsClient.Proofs.Connection.Bounding
import TlsClient.Proofs.Checked
import TlsClient.Proofs.KeyExchange.Agreeing
import TlsClient.Proofs.Cipher.Opening
import TlsClient.Proofs.Expansion
import TlsClient.Proofs.KeyExchange.Interpreting
import TlsClient.Proofs.Queueing
import TlsClient.Proofs.Record.Cutting
import TlsClient.Proofs.Record.Assembling
import TlsClient.Proofs.Record.Rejoining
import TlsClient.Proofs.Record.Settling
import TlsClient.Proofs.Wire.Listing
