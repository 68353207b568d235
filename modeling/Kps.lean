import Kps.Address
import Kps.CancelCredit
import Kps.Certhash
import Kps.CloseReasons
import Kps.Datagrams
import Kps.Establishment
import Kps.Go.Adverts
import Kps.Go.CancelRead
import Kps.Go.EndOfStream
import Kps.Go.FlowRefinement
import Kps.Go.Retirement
import Kps.Identity
import Kps.Lib.Bytes
import Kps.Lib.Credit
import Kps.Lib.Ledger
import Kps.Lib.Lockstep
import Kps.Lib.Run
import Kps.Lib.Table
import Kps.Lib.Threads
import Kps.Lib.Weights
import Kps.Lib.Word64
import Kps.Offer
import Kps.QuicCodes
import Kps.Replies
import Kps.Routing
import Kps.Rust.CloseState
import Kps.Rust.Drops
import Kps.Rust.EndOfStream
import Kps.Rust.MidStream
import Kps.Rust.OpenStream
import Kps.Rust.PollWrite
import Kps.Rust.ReadSide
import Kps.Rust.SharedCredit
import Kps.Rust.Shutdown
import Kps.Rust.Slots
import Kps.Rust.Terminals
import Kps.Streams
import Kps.Ts.Accord
import Kps.Ts.Bound
import Kps.Ts.ByteStream
import Kps.Ts.CreditReturns
import Kps.Ts.Demux
import Kps.Ts.Desk
import Kps.Ts.NoBlame
import Kps.Ts.Opening
import Kps.Ts.SendBuffer
import Kps.Ts.WireStream
import Kps.Wire.Interop
