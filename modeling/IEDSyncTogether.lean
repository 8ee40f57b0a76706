import IEDSyncTogether.Adapter.Freshness
import IEDSyncTogether.Adapter.Sender
import IEDSyncTogether.Capture.Canonical
import IEDSyncTogether.Capture.Completion
import IEDSyncTogether.Capture.ScanRun
import IEDSyncTogether.Capture.SingleFlight
import IEDSyncTogether.Config.Load
import IEDSyncTogether.Network.Destinations
import IEDSyncTogether.Network.FieldLookup
import IEDSyncTogether.Network.Receiver
import IEDSyncTogether.Pipeline.Display
import IEDSyncTogether.Pipeline.Heartbeat
import IEDSyncTogether.Render.Attachment
import IEDSyncTogether.Render.Correction
import IEDSyncTogether.Render.Repair
import IEDSyncTogether.Service.Binding
import IEDSyncTogether.Service.Mitigation
import IEDSyncTogether.Service.Staleness
import IEDSyncTogether.State.Canonical
import IEDSyncTogether.State.Floats
import IEDSyncTogether.State.WholeTokens
import IEDSyncTogether.Network.MutualDiscovery
import IEDSyncTogether.Network.PeerTable
import IEDSyncTogether.Pipeline.Agreement
import IEDSyncTogether.Adapter.TickQueue
import IEDSyncTogether.Network.SharedSecret
import IEDSyncTogether.Network.Convergence
import IEDSyncTogether.Pipeline.Plugin
import IEDSyncTogether.Service.Lifecycle
