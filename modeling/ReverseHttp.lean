import ReverseHttp.Transition
import ReverseHttp.MachineInt
import ReverseHttp.Flow
import ReverseHttp.CreditLedger
import ReverseHttp.Wire
import ReverseHttp.BodyQueue
import ReverseHttp.StreamIsolation
import ReverseHttp.NetHttp
import ReverseHttp.Forward
import ReverseHttp.InterimResponse
import ReverseHttp.HeaderBlocks
import ReverseHttp.WriteResults
import ReverseHttp.GracefulDrain
import ReverseHttp.WorkerResponse
import ReverseHttp.ServeStream
import ReverseHttp.InitialWindow
import ReverseHttp.Framing
import ReverseHttp.FrameLoop
import ReverseHttp.CancelWatch
import ReverseHttp.StreamClosure
import ReverseHttp.StreamRegistry
import ReverseHttp.TunnelTeardown
import ReverseHttp.ResetWaiters
import ReverseHttp.ReaderWakeup
import ReverseHttp.ShutdownDrain
import ReverseHttp.PoolShutdown
import ReverseHttp.TunnelCredit
import ReverseHttp.WriteDeadlock
import ReverseHttp.ContentLength
import ReverseHttp.RequestBody
import ReverseHttp.BufferPool
import ReverseHttp.Dispatch
import ReverseHttp.HeaderCodec
import ReverseHttp.FrameLimits
import ReverseHttp.History
import ReverseHttp.MaxFrameSize
import ReverseHttp.AfterReset
import ReverseHttp.StalledTransport
import ReverseHttp.FirstMin
import ReverseHttp.Selector
import ReverseHttp.BodyFifo
import ReverseHttp.CompletedBody
import ReverseHttp.WindowOverflow
import ReverseHttp.Fragmentation
import ReverseHttp.ForwardedHeader
import ReverseHttp.RequestTarget
import ReverseHttp.HandlerDraft
import ReverseHttp.Relay
import ReverseHttp.ResponseEvents
import ReverseHttp.TunnelResponse
import ReverseHttp.RequestHead
import ReverseHttp.HandlerBody
import ReverseHttp.TunnelRequest
import ReverseHttp.WorkerSet
import ReverseHttp.ProxyShutdown
import ReverseHttp.Watchdog
