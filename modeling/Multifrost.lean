import Multifrost.Bindings.FrameOverflow
import Multifrost.Bindings.FrameRoundTrip
import Multifrost.Bindings.LiveStart
import Multifrost.Bindings.LockContents
import Multifrost.Bindings.LockDeadline
import Multifrost.Bindings.LockVerdicts
import Multifrost.Bindings.MetricsBooks
import Multifrost.Bindings.Origin
import Multifrost.Bindings.OwnRouter
import Multifrost.Bindings.Percentiles
import Multifrost.Bindings.Ports
import Multifrost.Bindings.Readable
import Multifrost.Bindings.Split
import Multifrost.Bindings.StartStop
import Multifrost.Golang.Safety.Answers
import Multifrost.Golang.Safety.PendingProgress
import Multifrost.Golang.Safety.Startup
import Multifrost.JavaScript.Safety.Answers
import Multifrost.JavaScript.Safety.Echo
import Multifrost.JavaScript.Safety.FailedConnect
import Multifrost.JavaScript.Safety.Settled
import Multifrost.JavaScript.Safety.Startup
import Multifrost.Network.Failures
import Multifrost.Network.Order
import Multifrost.Network.Queries
import Multifrost.Php.Safety.Answers
import Multifrost.Php.Safety.Echo
import Multifrost.Python.Safety.Answers
import Multifrost.Python.Safety.Normalize
import Multifrost.Python.Safety.SocketClosed
import Multifrost.Router.Safety.Addressing
import Multifrost.Router.Safety.Agreement
import Multifrost.Router.Safety.Disposal
import Multifrost.Router.Safety.Disposition
import Multifrost.Router.Safety.Identity
import Multifrost.Router.Safety.Ownership
import Multifrost.Router.Safety.RegisterAck
import Multifrost.Router.Safety.Rejection
import Multifrost.Router.Safety.TargetClass
import Multifrost.Rust.Safety.CallEcho
import Multifrost.Rust.Safety.ControlFrames
import Multifrost.Rust.Safety.Correlation
import Multifrost.Rust.Safety.ErrorBody
import Multifrost.Rust.Safety.LockExpiry
import Multifrost.Rust.Safety.OneRouter
import Multifrost.Rust.Safety.PendingEntries
import Multifrost.Rust.Safety.ServiceReplies
import Multifrost.Rust.Safety.Stop
import Multifrost.Rust.Safety.Stranded
