import Uam.HoverThrust
import Uam.ThrustLimits
import Uam.ObserverErrors
import Uam.SubscriptionInterval
import Uam.OrbInstances
import Uam.OrbSet
import Uam.PositionFailsafe
import Uam.PositionStartup
import Uam.PositionRecovery
import Uam.RateLanded
import Uam.RateFreshness
import Uam.ArmCache
import Uam.TakeoffSequencing
import Uam.JointFreshness
import Uam.SetpointSmoothness
import Uam.OrbDelivery
import Uam.ParamReload
import Uam.FlashFailure
import Uam.DatamanRequests
import Uam.MissionBuffers
import Uam.MissionAborts
import Uam.MissionClients
import Uam.MissionItemRoundTrip
import Uam.FtpReplies
import Uam.FtpConfinement
import Uam.St24Safety
import Uam.SumdDecoding
import Uam.SbusRoundTrip
import Uam.NavStateSafety
import Uam.FailsafeOutputs
import Uam.GeofenceUpload
import Uam.GeofenceChecks
import Uam.FeasibilityLanding
import Uam.MissionLookAhead
import Uam.MissionLandStart
import Uam.AirmodeMixing
import Uam.SensorVoting
import Uam.LogRing
import Uam.MicroRtpsFraming
import Uam.SplitterTransparency
import Uam.WorkQueue
import Uam.IntrusiveSortedList
import Uam.BlockingQueue
import Uam.LockstepRounds
import Uam.HrtCallouts
import Uam.UavcanRoundTrip
import Uam.CanBootloader
import Uam.SerialBootloader
import Uam.StatustextHandler
