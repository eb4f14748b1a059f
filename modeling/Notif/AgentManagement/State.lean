-- The data of the agent-management app (`examples/agent-management/src/lib.rs`): the permission
-- requests, agents and chat sessions it keeps in its `AppState` behind tokio mutexes, the
-- payloads it emits through the notif.sh client, and what a run records of its effects.
import Mathlib.Data.List.AList
import Notif.Types

namespace agent_management

open serde_json (Value)

/-! ## The types of `lib.rs` -/

/-- A `HashMap<String, β>`: at most one value per key. Its iteration order is unspecified; the
model's is the association list's. Updates through `get_mut` are an `insert` of the new value. -/
abbrev HashMap (β : Type) := AList (fun _ : String => β)

section
variable {β : Type} {P : String → β → Prop} {m : HashMap β} {k : String}

/-- A property of every entry of a map survives the insert of an entry that has it. -/
theorem HashMap.forall_lookup_insert {v : β} (hm : ∀ s b, m.lookup s = some b → P s b)
    (hv : P k v) : ∀ s b, (m.insert k v).lookup s = some b → P s b := by
  intro s b h
  by_cases hs : s = k
  · subst hs
    rw [AList.lookup_insert] at h
    cases h
    exact hv
  · rw [AList.lookup_insert_ne hs] at h
    exact hm s b h

/-- The same property survives every erase. -/
theorem HashMap.forall_lookup_erase (hm : ∀ s b, m.lookup s = some b → P s b) :
    ∀ s b, (m.erase k).lookup s = some b → P s b := by
  intro s b h
  by_cases hs : s = k
  · subst hs
    rw [AList.lookup_erase] at h
    cases h
  · rw [AList.lookup_erase_ne hs] at h
    exact hm s b h

end

/-- `PermissionRequest`, with the fields the app reads or sets (`tool_name` and `tool_input` are
only carried to the front end). -/
structure PermissionRequest where
  id : Option String
  session_id : Option String
  cwd : Option String
  deriving Repr, DecidableEq

/-- `SessionInfo`, a row of `get_sessions`. -/
structure SessionInfo where
  session_id : String
  cwd : Option String
  queue_count : Nat
  deriving Repr, DecidableEq

/-- `AgentStatus`. -/
inductive AgentStatus where
  | Idle
  | Busy
  | Offline
  deriving Repr, DecidableEq

/-- `Agent`, with the fields the app reads or writes (the discovery fields `description`,
`hostname`, `tags`, `executor` and `project` are only carried to the front end). -/
structure Agent where
  name : String
  status : Option AgentStatus
  active_session_id : Option String
  deriving Repr, DecidableEq

/-- `ChatMessage`. -/
structure ChatMessage where
  id : String
  session_id : String
  agent : String
  content : String
  is_user : Bool
  timestamp : String
  kind : Option String
  pr_url : Option String
  cost_usd : Option Float
  deriving Repr

/-- `ChatSession`. -/
structure ChatSession where
  session_id : String
  agent : String
  messages : List ChatMessage
  status : String
  created_at : String
  deriving Repr

/-- `BadgeCounts`. -/
structure BadgeCounts where
  permissions : Nat
  agents_busy : Nat
  deriving Repr, DecidableEq

/-- `AgentEvent`, with the fields `handle_agent_event` reads (`error` only goes to the front
end). -/
structure AgentEvent where
  session_id : Option String
  agent : Option String
  kind : Option String
  message : Option String
  result : Option String
  pr : Option Value
  cost_usd : Option Float
  timestamp : Option String
  deriving Repr

/-! ## The state -/

/-- `AppState`: the maps and the active chat session behind their mutexes (the client is the
broker, outside the model; `selected_agent`, `current_view` and `window_visible` belong to
commands the model leaves out). -/
structure AppState where
  queues : HashMap (List PermissionRequest)
  active : HashMap PermissionRequest
  agents : HashMap Agent
  chat_sessions : HashMap ChatSession
  active_chat_session : Option String

/-- `AppState::new`. -/
def AppState.new : AppState := ⟨∅, ∅, ∅, ∅, none⟩

/-- The mutexes of `AppState` that the modelled tasks lock. -/
inductive Lock where
  | queues
  | active
  | agents
  | chat_sessions
  | active_chat_session
  deriving Repr, DecidableEq

/-! ## What leaves the app -/

/-- `client.emit(topic, data).await.map_err(|e| e.to_string())`: unit once the broker took the
message, else the error's text. The broker is outside the model, so any outcome may come. -/
abbrev EmitResult := Except String Unit

/-- What a run records: each request pushed on a queue, made active or removed from `active`,
each `client.emit` with whether it returned `Ok`, and each agent event `handle_agent_event`
turned into a chat message. -/
inductive Obs where
  | enqueued (session_id : String) (request : PermissionRequest)
  | activated (session_id : String) (request : PermissionRequest)
  | removed (session_id : String) (request : PermissionRequest)
  | emitted (topic : String) (data : Value) (ok : Bool)
  | handled (session_id : String) (message : ChatMessage)

/-- The `json!` payload of `respond_permission`; serde_json's default map keeps the keys
sorted. -/
def permissionResponse (session_id decision : String) (message : Option String) : Value :=
  if decision = "allow" then
    .Object [("hookSpecificOutput", .Object [
        ("decision", .Object [("behavior", .String "allow")]),
        ("hookEventName", .String "PermissionRequest")]),
      ("session_id", .String session_id)]
  else
    .Object [("hookSpecificOutput", .Object [
        ("decision", .Object [("behavior", .String "deny"),
          ("message", .String (message.getD "Denied by user"))]),
        ("hookEventName", .String "PermissionRequest")]),
      ("session_id", .String session_id)]

/-- The session a payload is for: its `session_id` text. -/
def payloadSession (data : Value) : Option String :=
  (serde_json.get data "session_id").bind serde_json.as_str

theorem payloadSession_permissionResponse (session_id decision : String)
    (message : Option String) :
    payloadSession (permissionResponse session_id decision message) = some session_id := by
  unfold permissionResponse
  split <;> rfl

end agent_management
