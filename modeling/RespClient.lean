import RespClient.Connection.Printer
import RespClient.Main
import RespClient.Socket.Answering
import RespClient.Socket.Recorded
import RespClient.Socket.Scripted
import RespClient.Transport.Stream
import RespClient.Proofs.Socket.Faultless
import RespClient.Proofs.Transport.Delivery
import RespClient.Proofs.Transport.Queue
import RespClient.Proofs.Transport.Ending
import RespClient.Proofs.Transport.Lockstep
import RespClient.Proofs.Transport.Faults
import RespClient.Proofs.Decimal.Gathering
import RespClient.Proofs.Reply.Numeral
import RespClient.Proofs.Reply.Grammar
import RespClient.Proofs.Reply.Decoding
import RespClient.Proofs.Reply.Verdict
import RespClient.Proofs.Reply.HeaderNumber
import RespClient.Proofs.Reply.Composition
import RespClient.Proofs.Reply.Conversion
import RespClient.Proofs.Connection.Exchange
import RespClient.Proofs.Connection.Alignment
import RespClient.Proofs.Connection.Awaiting
import RespClient.Proofs.Connection.Breaking
import RespClient.Proofs.Batch.Settling
import RespClient.Proofs.Batch.Acting
import RespClient.Proofs.Batch.Transaction
import RespClient.Proofs.Batch.Pipelining
import RespClient.Proofs.PubSub.Push
import RespClient.Proofs.Session.Calls
import RespClient.Proofs.Session.Breaking
import RespClient.Proofs.Connection.Counting
import RespClient.Proofs.Batch.Counting
import RespClient.Proofs.Session.Standing
import RespClient.Proofs.PubSub.Notice
import RespClient.Proofs.PubSub.Server
import RespClient.Proofs.PubSub.Broker
import RespClient.Proofs.PubSub.Listening
import RespClient.Proofs.PubSub.Course
import RespClient.Proofs.PubSub.Dialogue
import RespClient.Proofs.PubSub.Pacing
import RespClient.Proofs.PubSub.Leaving
import RespClient.Proofs.PubSub.Returning
import RespClient.Proofs.PubSub.Refused
import RespClient.Proofs.Transport.Calls
import RespClient.Proofs.Connection.Traffic
import RespClient.Proofs.Batch.Ending
import RespClient.Proofs.Batch.Traffic
import RespClient.Proofs.Command.Requests
import RespClient.Proofs.PubSub.Written
import RespClient.Proofs.PubSub.Delivery
import RespClient.Proofs.Reply.Finality
import RespClient.Proofs.Transport.Resuming
import RespClient.Proofs.Transport.LineLimit
import RespClient.Proofs.PubSub.Agreement
import RespClient.Proofs.PubSub.Classification
import RespClient.Proofs.Reply.ServerErrors
import RespClient.Proofs.Config.RoundTrip
import RespClient.Proofs.Reply.Flaws
import RespClient.Proofs.Reply.Failing
import RespClient.Proofs.Connection.Handshake
import RespClient.Proofs.Config.Redaction
import RespClient.Proofs.Transport.Drawing
import RespClient.Proofs.Reply.Footprint
import RespClient.Proofs.Reply.Effort
import RespClient.Proofs.Reply.Layout
import RespClient.Proofs.Transport.Checks
import RespClient.Proofs.Transport.Cursor
import RespClient.Proofs.Transport.Window
import RespClient.Proofs.Transport.Simulation
import RespClient.Proofs.Transport.Account
import RespClient.Proofs.Transport.Bounds
