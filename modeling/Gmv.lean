import Gmv.Library.ClockedRuns
import Gmv.Library.CyclicCounter
import Gmv.Library.Decimal
import Gmv.Library.Framing
import Gmv.Library.KeyedLocks
import Gmv.Library.KeysetPaging
import Gmv.Library.TableMirror
import Gmv.Session.Associations
import Gmv.Session.AuthBatches
import Gmv.Session.AuthCapacity
import Gmv.Session.AuthInvalidation
import Gmv.Session.BroadcastWait
import Gmv.Session.CallIndex
import Gmv.Session.CatalogNotify
import Gmv.Session.CatalogProgress
import Gmv.Session.CatalogRoundTrip
import Gmv.Session.CloseDeadlines
import Gmv.Session.ClosingReuse
import Gmv.Session.DeviceMap
import Gmv.Session.DeviceReset
import Gmv.Session.ForcedRemoval
import Gmv.Session.InviteOutcome
import Gmv.Session.InviteStop
import Gmv.Session.LifetimeTimers
import Gmv.Session.PtzCommand
import Gmv.Session.ReconnectTimers
import Gmv.Session.RecordCompleteness
import Gmv.Session.RecoveryPaging
import Gmv.Session.RequestFailure
import Gmv.Session.Rtpmap
import Gmv.Session.SetupExclusion
import Gmv.Session.SipWaiters
import Gmv.Session.SnSequence
import Gmv.Session.SnapshotQuota
import Gmv.Session.SsrcAllocation
import Gmv.Session.StaleExpiry
import Gmv.Session.StreamReuse
import Gmv.Session.StreamWait
import Gmv.Session.TestStorage
import Gmv.Stream.AacRates
import Gmv.Stream.AdtsFraming
import Gmv.Stream.AnnexBSplitters
import Gmv.Stream.AvccPassthrough
import Gmv.Stream.ByteConservation
import Gmv.Stream.DamagedUnits
import Gmv.Stream.Delivery
import Gmv.Stream.FlvTags
import Gmv.Stream.FormatChoice
import Gmv.Stream.Hvcc
import Gmv.Stream.InputTimeout
import Gmv.Stream.InputWatch
import Gmv.Stream.KeyframeGate
import Gmv.Stream.MediaPairing
import Gmv.Stream.Mp4Recorder
import Gmv.Stream.Packetization
import Gmv.Stream.ParameterSets
import Gmv.Stream.Players
import Gmv.Stream.ReorderConservation
import Gmv.Stream.SignIn
import Gmv.Stream.TalkFrames
import Gmv.Stream.TalkManager
import Gmv.Stream.TcpFraming
import Gmv.Stream.TimelinePacing
import Gmv.Stream.UnknownStream
import Gmv.Stream.WatchedStream
