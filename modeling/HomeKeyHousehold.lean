import HomeKeyHousehold.Library.Keyed
import HomeKeyHousehold.Library.Window
import HomeKeyHousehold.Library.Run
import HomeKeyHousehold.Library.Decimal
import HomeKeyHousehold.Library.Binary64
import HomeKeyHousehold.Library.Numerals
import HomeKeyHousehold.Library.Json
import HomeKeyHousehold.Library.JsonRoundTrip
import HomeKeyHousehold.Library.Calendar
import HomeKeyHousehold.Library.Python
import HomeKeyHousehold.Const
import HomeKeyHousehold.Models
import HomeKeyHousehold.Command
import HomeKeyHousehold.Mqtt
import HomeKeyHousehold.FirmwareVerifier
import HomeKeyHousehold.Household
import HomeKeyHousehold.IdealMac
import HomeKeyHousehold.Replay
import HomeKeyHousehold.NonceReuse
import HomeKeyHousehold.NonceTracking
import HomeKeyHousehold.ActionBinding
import HomeKeyHousehold.Library.Announcer
import HomeKeyHousehold.Coordinator
import HomeKeyHousehold.Rejection
import HomeKeyHousehold.LockView
import HomeKeyHousehold.Attribution
import HomeKeyHousehold.LockCauses
import HomeKeyHousehold.Direct
import HomeKeyHousehold.DirectPoller
import HomeKeyHousehold.LockCommand
import HomeKeyHousehold.CommandDelivery
import HomeKeyHousehold.Isolation
import HomeKeyHousehold.Replacement
import HomeKeyHousehold.Record
import HomeKeyHousehold.Naming
import HomeKeyHousehold.NamedTap
import HomeKeyHousehold.Redelivery
import HomeKeyHousehold.Sentinel
import HomeKeyHousehold.Feeds
import HomeKeyHousehold.Transports
import HomeKeyHousehold.Credential
import HomeKeyHousehold.Connect
import HomeKeyHousehold.ConfigFlow
import HomeKeyHousehold.OptionsFlow
import HomeKeyHousehold.Library.Retention
import HomeKeyHousehold.Backup
import HomeKeyHousehold.BackupWindows
import HomeKeyHousehold.BackupEntry
import HomeKeyHousehold.BackupRuns
import HomeKeyHousehold.BackupFiling
import HomeKeyHousehold.Restore
import HomeKeyHousehold.RestoreTargets
import HomeKeyHousehold.BackupHouseholds
import HomeKeyHousehold.Library.Loop
import HomeKeyHousehold.BackupButton
import HomeKeyHousehold.BackupSensor
import HomeKeyHousehold.Replies
import HomeKeyHousehold.BackupService
import HomeKeyHousehold.BackupSchedule
import HomeKeyHousehold.Availability
import HomeKeyHousehold.Outage
import HomeKeyHousehold.Robustness
import HomeKeyHousehold.TopicIdentity
import HomeKeyHousehold.Overlap
import HomeKeyHousehold.SampleOrder
import HomeKeyHousehold.GuestReads
import HomeKeyHousehold.Unloading
import HomeKeyHousehold.Registry
import HomeKeyHousehold.Library.Joined
import HomeKeyHousehold.Inbound
import HomeKeyHousehold.Households
import HomeKeyHousehold.DeliveryOrder
import HomeKeyHousehold.UniqueId
import HomeKeyHousehold.KeyFile
import HomeKeyHousehold.CommandChannel
import HomeKeyHousehold.GuestViews
import HomeKeyHousehold.Library.Logged
import HomeKeyHousehold.Pinning
import HomeKeyHousehold.SensorOptions
import HomeKeyHousehold.Library.Redaction
import HomeKeyHousehold.Diagnostics
import HomeKeyHousehold.KeyRecords
import HomeKeyHousehold.Library.Text
import HomeKeyHousehold.KeyDerivation
import HomeKeyHousehold.TopicGrammar
import HomeKeyHousehold.StateMerge
import HomeKeyHousehold.BackupStorage
import HomeKeyHousehold.PendingCauses
import HomeKeyHousehold.EntrySetup
import HomeKeyHousehold.Library.Polling
import HomeKeyHousehold.Confirmation
import HomeKeyHousehold.Discovery
import HomeKeyHousehold.Recovery
import HomeKeyHousehold.GuestControl
import HomeKeyHousehold.DirectTrust
import HomeKeyHousehold.SetupFlow
import HomeKeyHousehold.OptionsForm
import HomeKeyHousehold.DirectSetup
import HomeKeyHousehold.NodeEmulator
import HomeKeyHousehold.Stamps
import HomeKeyHousehold.SecurityFindings
import HomeKeyHousehold.Subscriptions
import HomeKeyHousehold.BackupSaves
import HomeKeyHousehold.EntityRestart
import HomeKeyHousehold.LockAnswers
