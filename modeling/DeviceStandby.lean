import DeviceStandby.Allow.Document
import DeviceStandby.Allow.Exempted
import DeviceStandby.Allow.Grants
import DeviceStandby.Allow.Mirror
import DeviceStandby.Allow.Pending
import DeviceStandby.Allow.Visible
import DeviceStandby.Config.DebugMode
import DeviceStandby.Config.Numbers
import DeviceStandby.Core.TimeProvider
import DeviceStandby.Lib.AssocMap
import DeviceStandby.Lib.BitMask
import DeviceStandby.Lib.Feed
import DeviceStandby.Lib.Json
import DeviceStandby.Lib.JsonAccess
import DeviceStandby.Lib.OrderedSet
import DeviceStandby.Lib.Transition
import DeviceStandby.Service.AppState
import DeviceStandby.Service.CommonEvents
import DeviceStandby.Service.Connection
import DeviceStandby.Service.Dependencies
import DeviceStandby.Service.Entitled
import DeviceStandby.Service.Kits
import DeviceStandby.Service.Listeners
import DeviceStandby.Service.Notification
import DeviceStandby.Service.RestoreLoop
import DeviceStandby.Service.ShellDump
import DeviceStandby.Service.Subscriber
import DeviceStandby.Service.TimeObserver
import DeviceStandby.Service.Wire
import DeviceStandby.State.Blocked
import DeviceStandby.State.Detection
import DeviceStandby.State.EmptyIntervals
import DeviceStandby.State.Energy
import DeviceStandby.State.FallAsleep
import DeviceStandby.State.HalfHour
import DeviceStandby.State.Hold
import DeviceStandby.State.MaintTimeOut
import DeviceStandby.State.Observed
import DeviceStandby.State.Requests
import DeviceStandby.State.ScreenOn
import DeviceStandby.State.SleepPhases
import DeviceStandby.State.StandbyLock
import DeviceStandby.Strategy.Adapter
import DeviceStandby.Strategy.AllowList
import DeviceStandby.Strategy.BgTasks
import DeviceStandby.Strategy.Firewall
import DeviceStandby.Strategy.Isolation
import DeviceStandby.Strategy.Maintenance
import DeviceStandby.Strategy.ManagerDeath
import DeviceStandby.Strategy.ProxySync
import DeviceStandby.Strategy.Rebuild
import DeviceStandby.Strategy.Startup
