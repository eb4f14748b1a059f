import Notif.Types
import Notif.Subscribe
import Notif.Handshake
import Notif.WsUrl
import Notif.EventLog
import Notif.Listeners
import Notif.Senders
import Notif.Delivery
import Notif.AckFrames
import Notif.Backpressure
import Notif.AgentManagement.State
import Notif.AgentManagement.Permissions
import Notif.AgentManagement.Chat
import Notif.AgentManagement.Runtime
import Notif.AgentManagement.Deadlock
import Notif.AgentManagement.PermissionStore
import Notif.AgentManagement.Replies
import Notif.AgentManagement.ChatStore
import Notif.AgentManagement.Transcripts
import Notif.AgentManagement.Sessions
