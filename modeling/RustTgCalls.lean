import RustTgCalls.Library.Transition
import RustTgCalls.Library.Lacing
import RustTgCalls.Library.Delimited
import RustTgCalls.Library.LittleEndian
import RustTgCalls.Library.Ogg
import RustTgCalls.Library.Ivf
import RustTgCalls.Library.Pull
import RustTgCalls.Library.FairMutex
import RustTgCalls.Library.Watch
import RustTgCalls.Library.DropOldest
import RustTgCalls.Library.Counter
import RustTgCalls.Library.Fairness
import RustTgCalls.Library.Deadline
import RustTgCalls.Library.Json
import RustTgCalls.Library.JsonRecord
import RustTgCalls.Library.Argv
import RustTgCalls.Models
import RustTgCalls.Io.ShellReader
import RustTgCalls.Io.ShellClose
import RustTgCalls.Io.ExitNotice
import RustTgCalls.Media.FrameReader
import RustTgCalls.Media.OggDemux
import RustTgCalls.Media.OggArbitrary
import RustTgCalls.Media.IvfDemux
import RustTgCalls.Wrtc.Remote
import RustTgCalls.Wrtc.RemoteSchema
import RustTgCalls.Wrtc.Transport
import RustTgCalls.Wrtc.Closing
import RustTgCalls.Wrtc.Authentication
import RustTgCalls.Wrtc.Workers
import RustTgCalls.Wrtc.Reconnect
import RustTgCalls.Wrtc.Rejection
import RustTgCalls.Wrtc.Candidates
import RustTgCalls.Wrtc.Datagrams
import RustTgCalls.Instances.GroupCall
import RustTgCalls.Instances.Gating
import RustTgCalls.Media.StreamerTasks
import RustTgCalls.Media.Pacing
import RustTgCalls.Instances.Barrier
import RustTgCalls.Instances.RtmpCall
import RustTgCalls.Instances.RtmpProcess
import RustTgCalls.Instances.RtmpPosition
import RustTgCalls.Instances.RtmpErrors
import RustTgCalls.Instances.RtmpSeek
import RustTgCalls.Client
import RustTgCalls.Creations
import RustTgCalls.Utils.Dispatcher
import RustTgCalls.Utils.RingBuf
import RustTgCalls.Wrtc.Signaling
import RustTgCalls.Wrtc.LocalSchema
import RustTgCalls.Wrtc.Factory
import RustTgCalls.Wrtc.RtpSender
import RustTgCalls.Wrtc.SendTime
import RustTgCalls.Wrtc.Announced
import RustTgCalls.Wrtc.MediaClock
import RustTgCalls.Wrtc.Keepalive
import RustTgCalls.Wrtc.Monitor
import RustTgCalls.Wrtc.FactoryMonitor
import RustTgCalls.Wrtc.MonitorStop
import RustTgCalls.Wrtc.Reports
import RustTgCalls.Wrtc.KeepaliveSends
import RustTgCalls.Media.Playing
import RustTgCalls.Media.Delivery
import RustTgCalls.Media.EndOfStream
import RustTgCalls.Media.OggLoss
import RustTgCalls.Media.Deadlines
import RustTgCalls.Media.ShellSource
import RustTgCalls.Media.ShellFlags
import RustTgCalls.Media.ShellOutput
import RustTgCalls.Media.ShellSeek
import RustTgCalls.Media.Opening
import RustTgCalls.Media.Feed
import RustTgCalls.Instances.Connection
import RustTgCalls.Instances.SetSource
import RustTgCalls.Instances.Toggling
import RustTgCalls.Instances.CloseHooks
import RustTgCalls.Instances.Filing
import RustTgCalls.Instances.Registering
import RustTgCalls.Instances.EndReport
import RustTgCalls.Instances.SilentStart
import RustTgCalls.Instances.Airing
import RustTgCalls.Instances.Position
import RustTgCalls.Instances.Custody
import RustTgCalls.Instances.Retirement
import RustTgCalls.Instances.Call
import RustTgCalls.Instances.Upgrades
import RustTgCalls.Facade
import RustTgCalls.Reaping
import RustTgCalls.EventDelivery
import RustTgCalls.ClientClose
import RustTgCalls.Isolation
import RustTgCalls.Wrtc.InFlight
import RustTgCalls.Wrtc.CertPool
import RustTgCalls.Instances.Broadcast
import RustTgCalls.Instances.Completion
import RustTgCalls.Instances.Stopping
import RustTgCalls.Instances.LipSync
