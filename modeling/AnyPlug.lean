import AnyPlug.Foundations.FixedCodec
import AnyPlug.Foundations.Framing
import AnyPlug.Foundations.Utf8
import AnyPlug.Foundations.Utf8RoundTrip
import AnyPlug.Foundations.Batching
import AnyPlug.Foundations.Transition
import AnyPlug.Foundations.Lease
import AnyPlug.Foundations.Decimal
import AnyPlug.Foundations.Radix
import AnyPlug.Foundations.KotlinText
import AnyPlug.Foundations.BoundedQueue
import AnyPlug.Foundations.LastWriter
import AnyPlug.Foundations.Pipeline
import AnyPlug.Foundations.Swap
import AnyPlug.Foundations.SharedCell
import AnyPlug.Foundations.ScriptText
import AnyPlug.Core.Error
import AnyPlug.Core.Protocol
import AnyPlug.Core.Urb
import AnyPlug.Core.Frame
import AnyPlug.Core.Wire
import AnyPlug.Core.Layout
import AnyPlug.Core.Reply
import AnyPlug.Core.Crypto
import AnyPlug.Core.Hex
import AnyPlug.Core.Pool
import AnyPlug.Core.Descriptor
import AnyPlug.Core.DescriptorTree
import AnyPlug.Core.DescriptorRoundTrip
import AnyPlug.Core.DescriptorSpans
import AnyPlug.Server.Usb
import AnyPlug.Server.Rusb
import AnyPlug.Server.Claim
import AnyPlug.Server.Batcher
import AnyPlug.Server.BatcherRuns
import AnyPlug.Server.UrbLoop
import AnyPlug.Server.Bounds
import AnyPlug.Server.Stall
import AnyPlug.Server.Session
import AnyPlug.Server.Exclusive
import AnyPlug.Server.Busid
import AnyPlug.Server.Api
import AnyPlug.Server.SessionLoop
import AnyPlug.Server.Config
import AnyPlug.Server.Bandwidth
import AnyPlug.Server.Identity
import AnyPlug.Server.Allowlist
import AnyPlug.Server.CryptoStream
import AnyPlug.Server.Tunnel
import AnyPlug.Server.KeyExchange
import AnyPlug.Client.Forwarding
import AnyPlug.Client.Exchange
import AnyPlug.Client.DeviceList
import AnyPlug.Client.Import
import AnyPlug.Client.Limits
import AnyPlug.Client.Reconnect
import AnyPlug.Client.Backoff
import AnyPlug.Client.SelfImport
import AnyPlug.Client.AutoConnect
import AnyPlug.Client.Daemon
import AnyPlug.Client.Status
import AnyPlug.Android.Server
import AnyPlug.Android.Client
import AnyPlug.Android.Handshake
import AnyPlug.Android.Endpoint
import AnyPlug.Android.Concurrent
import AnyPlug.Android.Exclusive
import AnyPlug.Android.Service
import AnyPlug.Android.WakeLock
import AnyPlug.Android.Advertisement
import AnyPlug.Android.LastKnown
import AnyPlug.Android.ServerList
import AnyPlug.Android.Discovery
import AnyPlug.Android.Runner
import AnyPlug.Web.Scan
import AnyPlug.Android.Advertiser
import AnyPlug.Android.DiscoveryLife
import AnyPlug.Android.SubnetScan
import AnyPlug.Web.WebSocket
