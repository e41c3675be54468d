import Pipane.Server.FrameConnection.Delivery
import Pipane.Shared.JsonlSync.Batches
import Pipane.Server.WsHandler.Deliverability
import Pipane.Server.WsHandler.Revisions
import Pipane.Client.WorkspaceBackendClient.Presence
import Pipane.Client.WsAgentAdapter.CommitSafety
import Pipane.Client.WsAgentAdapter.Recovery
import Pipane.Server.WsHandler.ControlOperations.Receipts
import Pipane.Client.WsAgentAdapter.Prompt.Target
import Pipane.Client.WsAgentAdapter.Prompt.AtMostOnce
import Pipane.Client.WsAgentAdapter.InitialSync
import Pipane.Rendezvous.RendezvousHub.Delegation
import Pipane.Rendezvous.TrustStore.Durability
import Pipane.Rendezvous.TrustStore.Reload
import Pipane.Rendezvous.TrustStore.Tickets
import Pipane.Server.ProcessPool.Correlation
import Pipane.Server.SessionActor.Steering
import Pipane.Server.WsHandler.ExtensionStatus
import Pipane.Server.WsHandler.Commands.Guarantees
import Pipane.Client.WebSocketFrameTransport.SingleCarrier
import Pipane.Server.FrameRouter.Demultiplexing
import Pipane.Server.SessionToolPaths.Evidence
import Pipane.Server.SessionPath.Confinement
import Pipane.Server.IceServers.Agreement
import Pipane.Server.LocalBackendApi.Uploads.Bound
import Pipane.Server.PiRpcProtocol
import Pipane.Client.SessionPicker.Rows
import Pipane.Server.SessionJsonl.ToolCallTimings.Inherited
import Pipane.Server.LocalSettings.Patch.Frame
import Pipane.Server.FrameConnection.Accounting
import Pipane.Server.WorktreeName
import Pipane.Client.SessionStateCache.Interleaving
import Pipane.Client.WsAgentAdapter.SessionCache
import Pipane.Client.WsAgentAdapter.Steering.Removal
import Pipane.Rendezvous.TrustStore.SignedPayloads
import Pipane.Server.WsHandler.CloneSession
import Pipane.Server.LocalSettings.ExternalEdits
import Pipane.Server.BackendWebRtc.Isolation
import Pipane.Server.SessionIndex.Transparency
