import EsphomeHost.Ble.Advertising
import EsphomeHost.Ble.Broadcast
import EsphomeHost.Ble.HostRegistry
import EsphomeHost.Ble.HostThread
import EsphomeHost.Ble.Uuid
import EsphomeHost.Ble.UuidRoundTrip
import EsphomeHost.Bthome.Advertiser
import EsphomeHost.Bthome.Encoder
import EsphomeHost.Can.SocketCan
import EsphomeHost.Client.Action
import EsphomeHost.Client.Address
import EsphomeHost.Client.Attempts
import EsphomeHost.Client.Base
import EsphomeHost.Client.BleClient
import EsphomeHost.Client.ConfiguredUuid
import EsphomeHost.Client.DisconnectTimer
import EsphomeHost.Client.Enabled
import EsphomeHost.Client.Keeps
import EsphomeHost.Client.LinkActions
import EsphomeHost.Client.Lookup
import EsphomeHost.Client.Queues
import EsphomeHost.Client.Run
import EsphomeHost.Client.Sensors
import EsphomeHost.Client.Teardown
import EsphomeHost.Client.WriteActions
import EsphomeHost.Gatt.Agent
import EsphomeHost.Gatt.Attributes
import EsphomeHost.Gatt.ConfigDescriptor
import EsphomeHost.Gatt.Discovery
import EsphomeHost.Gatt.Established
import EsphomeHost.Gatt.GapService
import EsphomeHost.Gatt.Notifications
import EsphomeHost.Gatt.Results
import EsphomeHost.Gatt.Routing
import EsphomeHost.Gatt.Session
import EsphomeHost.Gatt.Tree
import EsphomeHost.Gatt.Worker
import EsphomeHost.Gpio.AlertThread
import EsphomeHost.Gpio.OutputLevel
import EsphomeHost.Gpio.Pin
import EsphomeHost.Gpio.Registration
import EsphomeHost.Lib.Base64
import EsphomeHost.Lib.Buffer
import EsphomeHost.Lib.CString
import EsphomeHost.Lib.Conditional
import EsphomeHost.Lib.Cut
import EsphomeHost.Lib.DropOldest
import EsphomeHost.Lib.Edits
import EsphomeHost.Lib.EventStream
import EsphomeHost.Lib.Keyed
import EsphomeHost.Lib.LastWrite
import EsphomeHost.Lib.Lease
import EsphomeHost.Lib.Ltv
import EsphomeHost.Lib.Machine
import EsphomeHost.Lib.Mask
import EsphomeHost.Lib.Memory
import EsphomeHost.Lib.NumberedPath
import EsphomeHost.Lib.Occupancy
import EsphomeHost.Lib.OffsetStore
import EsphomeHost.Lib.Owned
import EsphomeHost.Lib.Replace
import EsphomeHost.Lib.StableSort
import EsphomeHost.Lib.Strtol
import EsphomeHost.Mqtt.Backend
import EsphomeHost.Patch.Meaning
import EsphomeHost.Patch.Runs
import EsphomeHost.Patch.Script
import EsphomeHost.Proxy.Accounting
import EsphomeHost.Proxy.Advertisement
import EsphomeHost.Proxy.Attribution
import EsphomeHost.Proxy.Batch
import EsphomeHost.Proxy.Connection
import EsphomeHost.Proxy.Effect
import EsphomeHost.Proxy.Handlers
import EsphomeHost.Proxy.Machine
import EsphomeHost.Proxy.Moves
import EsphomeHost.Proxy.Paths
import EsphomeHost.Proxy.Payload
import EsphomeHost.Proxy.PendingDisconnect
import EsphomeHost.Proxy.Rejected
import EsphomeHost.Proxy.Requests
import EsphomeHost.Proxy.Services
import EsphomeHost.Proxy.Streaming
import EsphomeHost.Proxy.Subscription
import EsphomeHost.Server.Advertisement
import EsphomeHost.Server.Build
import EsphomeHost.Server.Cccd
import EsphomeHost.Server.Centrals
import EsphomeHost.Server.Config
import EsphomeHost.Server.DescriptorValue
import EsphomeHost.Server.Discovered
import EsphomeHost.Server.Effect
import EsphomeHost.Server.Reached
import EsphomeHost.Server.Registration
import EsphomeHost.Server.SetValueActions
import EsphomeHost.Server.State
import EsphomeHost.Server.ToCode
import EsphomeHost.Server.Tree
import EsphomeHost.Server.UuidText
import EsphomeHost.Server.Values
import EsphomeHost.Spi.Mode
import EsphomeHost.Spi.Transfer
import EsphomeHost.Sysfs.Sensors
import EsphomeHost.Tracker.AdPayload
import EsphomeHost.Tracker.Agreement
import EsphomeHost.Tracker.Bdaddr
import EsphomeHost.Tracker.DbusScanner
import EsphomeHost.Tracker.DevicePath
import EsphomeHost.Tracker.IBeacon
import EsphomeHost.Tracker.Intake
import EsphomeHost.Tracker.LeMeta
import EsphomeHost.Tracker.Loop
import EsphomeHost.Tracker.Promotion
import EsphomeHost.Tracker.Rssi
import EsphomeHost.Tracker.Scanner
import EsphomeHost.Tracker.Signals
import EsphomeHost.Web.Accepted
import EsphomeHost.Web.Auth
import EsphomeHost.Web.DeferredQueue
import EsphomeHost.Web.EventSource
import EsphomeHost.Web.Lifecycle
import EsphomeHost.Web.Params
import EsphomeHost.Web.Request
import EsphomeHost.Web.Response
import EsphomeHost.Web.RoundTrip
import EsphomeHost.Web.Segmentation
import EsphomeHost.Web.SseFrame
