import IotDashboard.Automation.RuleRaces
import IotDashboard.Network.HttpSession
import IotDashboard.Devices.TopicIsolation
import IotDashboard.Api.DeviceWrites
import IotDashboard.Api.Deletion
import IotDashboard.Api.Dispatch
import IotDashboard.Api.History
import IotDashboard.Api.Identity
import IotDashboard.Api.Silence
import IotDashboard.Database.DeviceRepository
import IotDashboard.Database.Resumption
import IotDashboard.Database.SensorWrites
import IotDashboard.Database.Isolation
import IotDashboard.Security.SessionLifetime
import IotDashboard.Security.TokenKinds
import IotDashboard.Security.FreshLogin
import IotDashboard.Security.Authenticity
import IotDashboard.Security.TokenVerification
import IotDashboard.Security.StoredHashes
import IotDashboard.Common.Types
import IotDashboard.Automation.RuleEngine
import IotDashboard.Network.Segmentation
import IotDashboard.Api.DeviceEvents
import IotDashboard.Api.TopicTable
import IotDashboard.Flutter.WebSocketLink
import IotDashboard.Flutter.Resubscription
import IotDashboard.Api.QueryParams
import IotDashboard.Api.Startup
import IotDashboard.Api.StoreCalls
import IotDashboard.Api.MessageRaces
import IotDashboard.Api.Reregistration
import IotDashboard.Api.RuleConditions
import IotDashboard.Api.RequestBodies
import IotDashboard.Devices.StaleTimeouts
import IotDashboard.Flutter.RuleRoundTrip
import IotDashboard.Network.BrokerSession
import IotDashboard.Devices.TopicRouting
import IotDashboard.Devices.StatusChanges
import IotDashboard.Database.DeviceRecords
import IotDashboard.Database.Retention
import IotDashboard.Database.SensorQueries
import IotDashboard.Network.WriteBuffers
import IotDashboard.Flutter.Dashboard
import IotDashboard.Security.Base64Loops
import IotDashboard.Flutter.SensorRepository
import IotDashboard.Flutter.SensorsPage
import IotDashboard.Api.Answers
import IotDashboard.Api.ClientIsolation
import IotDashboard.Api.WireDelivery
import IotDashboard.Api.Locking
import IotDashboard.Devices.MonitorControl
import IotDashboard.Devices.PollLifecycle
import IotDashboard.Network.ServerLifecycle
import IotDashboard.Api.Lifecycle
import IotDashboard.Devices.Fleet
import IotDashboard.Api.QuietRoutes
import IotDashboard.Api.FleetHistory
import IotDashboard.Devices.IssuedCommands
import IotDashboard.Api.CommandHistory
import IotDashboard.Api.LiveStatus
import IotDashboard.Api.AuthCalls
import IotDashboard.Api.SessionHistory
import IotDashboard.Flutter.DeviceRepository
import IotDashboard.Flutter.DeviceDirectory
