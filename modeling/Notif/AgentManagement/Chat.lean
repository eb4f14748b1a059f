-- The agent and chat side of the app as futures: the agent and chat commands, and the loops of
-- the agent and session subscriptions with `handle_agent_event`.
import Notif.AgentManagement.State

namespace agent_management

open serde_json (Value)

/-! ## `discover_agents` and `get_agents` -/

/-- The await points of `discover_agents`. -/
inductive DiscoverAgents where
  /-- At `client.emit("agents.discover", json!({})).await`. -/
  | start
  | done (ret : Except String Unit)

def DiscoverAgents.poll (emit : EmitResult) :
    DiscoverAgents → Option (DiscoverAgents × List Obs)
  | .start => some (.done emit, [.emitted "agents.discover" (.Object []) emit.toBool])
  | .done _ => none

/-- The await points of `get_agents`. -/
inductive GetAgents where
  | start
  | done (ret : List Agent)

def GetAgents.poll (st : AppState) : GetAgents → Option GetAgents
  | .start => some (.done (st.agents.entries.map (·.2)))
  | .done _ => none

/-! ## `send_prompt` -/

/-- The arguments of `send_prompt` and what its body draws: two v4 uuids as text and two
readings of `chrono::Utc::now().to_rfc3339()`. -/
structure SendPromptCall where
  agent_name : String
  prompt : String
  session_uuid : String
  message_uuid : String
  timestamp : String
  created_at : String

/-- `format!("sess_{}", &uuid[..12])`. -/
def SendPromptCall.session_id (c : SendPromptCall) : String := "sess_" ++ c.session_uuid.take 12

def SendPromptCall.topic (c : SendPromptCall) : String :=
  "agents." ++ c.agent_name ++ ".session.create"

def SendPromptCall.message (c : SendPromptCall) : Value :=
  .Object [("agent", .String c.agent_name), ("kind", .String "prompt"),
    ("prompt", .String c.prompt), ("session_id", .String c.session_id)]

/-- The user's message that opens the session. -/
def SendPromptCall.userMessage (c : SendPromptCall) : ChatMessage where
  id := c.message_uuid
  session_id := c.session_id
  agent := c.agent_name
  content := c.prompt
  is_user := true
  timestamp := c.timestamp
  kind := none
  pr_url := none
  cost_usd := none

def SendPromptCall.chat_session (c : SendPromptCall) : ChatSession where
  session_id := c.session_id
  agent := c.agent_name
  messages := [c.userMessage]
  status := "running"
  created_at := c.created_at

/-- The await points of `send_prompt`. -/
inductive SendPrompt where
  /-- At `client.emit(&topic, message).await`. -/
  | start
  /-- Emitted, at `state.chat_sessions.lock().await`. -/
  | sessions_locking
  /-- Session recorded, at `state.active_chat_session.lock().await`. -/
  | active_chat_session_locking
  | done (ret : Except String String)

/-- The prompt is emitted first; only then is the session recorded, then made active. -/
def SendPrompt.poll (c : SendPromptCall) (st : AppState) (emit : EmitResult) :
    SendPrompt → Option (SendPrompt × AppState × List Obs)
  | .start =>
    let next := match emit with
      | .ok () => SendPrompt.sessions_locking
      | .error e => .done (.error e)
    some (next, st, [.emitted c.topic c.message emit.toBool])
  | .sessions_locking =>
    some (.active_chat_session_locking,
      { st with chat_sessions := st.chat_sessions.insert c.session_id c.chat_session }, [])
  | .active_chat_session_locking =>
    some (.done (.ok c.session_id), { st with active_chat_session := some c.session_id }, [])
  | .done _ => none

/-! ## `send_followup` and `cancel_session` -/

/-- The arguments of `send_followup` and what its body draws: a v4 uuid as text and a reading
of the clock. -/
structure SendFollowupCall where
  session_id : String
  message : String
  message_uuid : String
  timestamp : String

def SendFollowupCall.msg (c : SendFollowupCall) (agent_name : String) : Value :=
  .Object [("agent", .String agent_name), ("kind", .String "resume"),
    ("prompt", .String c.message), ("session_id", .String c.session_id)]

def SendFollowupCall.userMessage (c : SendFollowupCall) (agent_name : String) : ChatMessage where
  id := c.message_uuid
  session_id := c.session_id
  agent := agent_name
  content := c.message
  is_user := true
  timestamp := c.timestamp
  kind := none
  pr_url := none
  cost_usd := none

/-- The await points of `send_followup`. -/
inductive SendFollowup where
  | start
  /-- At `client.emit(&topic, msg).await`, with the session's agent. -/
  | emitting (agent_name : String)
  /-- Emitted, at the second `state.chat_sessions.lock().await`. -/
  | sessions_locking (agent_name : String)
  | done (ret : Except String Unit)

def SendFollowup.poll (c : SendFollowupCall) (st : AppState) (emit : EmitResult) :
    SendFollowup → Option (SendFollowup × AppState × List Obs)
  | .start =>
    let next := match st.chat_sessions.lookup c.session_id with
      | some session => SendFollowup.emitting session.agent
      | none => .done (.error "Session not found")
    some (next, st, [])
  | .emitting agent_name =>
    let next := match emit with
      | .ok () => SendFollowup.sessions_locking agent_name
      | .error e => .done (.error e)
    some (next, st, [.emitted ("agents." ++ agent_name ++ ".session.message")
      (c.msg agent_name) emit.toBool])
  | .sessions_locking agent_name =>
    let st' := match st.chat_sessions.lookup c.session_id with
      | some session =>
        let session := { session with messages := session.messages ++ [c.userMessage agent_name],
                                      status := "running" }
        { st with chat_sessions := st.chat_sessions.insert c.session_id session }
      | none => st
    some (.done (.ok ()), st', [])
  | .done _ => none

/-- The await points of `cancel_session`. -/
inductive CancelSession where
  | start
  /-- At `client.emit(&topic, msg).await`, with the session's agent. -/
  | emitting (agent_name : String)
  | done (ret : Except String Unit)

def CancelSession.poll (session_id : String) (st : AppState) (emit : EmitResult) :
    CancelSession → Option (CancelSession × List Obs)
  | .start =>
    match st.chat_sessions.lookup session_id with
    | some session => some (.emitting session.agent, [])
    | none => some (.done (.error "Session not found"), [])
  | .emitting agent_name =>
    some (.done emit, [.emitted ("agents." ++ agent_name ++ ".session.cancel")
      (.Object [("agent", .String agent_name), ("kind", .String "cancel"),
        ("session_id", .String session_id)]) emit.toBool])
  | .done _ => none

/-! ## The chat session queries -/

/-- The await points of `get_chat_sessions`. -/
inductive GetChatSessions where
  | start
  | done (ret : List ChatSession)

def GetChatSessions.poll (st : AppState) : GetChatSessions → Option GetChatSessions
  | .start => some (.done (st.chat_sessions.entries.map (·.2)))
  | .done _ => none

/-- The await points of `get_active_chat_session`. -/
inductive GetActiveChatSession where
  | start
  /-- Holding `active_chat_session`, at `state.chat_sessions.lock().await`. -/
  | id_locked (id : String)
  | done (ret : Option ChatSession)

def GetActiveChatSession.poll (st : AppState) : GetActiveChatSession → Option GetActiveChatSession
  | .start =>
    match st.active_chat_session with
    | some id => some (.id_locked id)
    | none => some (.done none)
  | .id_locked id => some (.done (st.chat_sessions.lookup id))
  | .done _ => none

/-- The await points of `set_active_chat_session`. -/
inductive SetActiveChatSession where
  | start
  | done

def SetActiveChatSession.poll (session_id : Option String) (st : AppState) :
    SetActiveChatSession → Option (SetActiveChatSession × AppState)
  | .start => some (.done, { st with active_chat_session := session_id })
  | .done => none

/-! ## `start_agent_subscription` -/

/-- The await points of the agent subscription's loop. -/
inductive AgentSubscription where
  /-- At `stream.next().await`. -/
  | waiting
  /-- At `state.agents.lock().await`, with a decoded agent. -/
  | agents_locking (agent : Agent)

/-- The loop body on an `Ok(event)`, where `decoded` is
`serde_json::from_value::<Agent>(event.data)`. -/
def AgentSubscription.receive (decoded : Except serde_json.Error Agent) :
    AgentSubscription → Option AgentSubscription
  | .waiting =>
    match decoded with
    | .ok agent => some (.agents_locking agent)
    | .error _ => some .waiting
  | .agents_locking _ => none

/-- `agents.insert(agent_name, agent)`. -/
def AgentSubscription.poll (st : AppState) :
    AgentSubscription → Option (AgentSubscription × AppState)
  | .waiting => none
  | .agents_locking agent => some (.waiting, { st with agents := st.agents.insert agent.name agent })

/-! ## `start_session_subscription` and `handle_agent_event` -/

/-- The chat message `handle_agent_event` builds from an event, with a fresh uuid and the clock
for an event without a timestamp. -/
def chatMessageOf (event : AgentEvent) (session_id agent_name kind uuid now : String) :
    ChatMessage where
  id := uuid
  session_id := session_id
  agent := agent_name
  content := ((event.message.orElse fun _ => event.result).getD "")
  is_user := false
  timestamp := event.timestamp.getD now
  kind := some kind
  pr_url := event.pr.bind fun p => (serde_json.get p "url").bind serde_json.as_str
  cost_usd := event.cost_usd

/-- A session's status after an event of `kind`. -/
def sessionStatus (kind status : String) : String :=
  match kind with
  | "started" | "progress" | "output" => "running"
  | "completed" => "completed"
  | "failed" => "failed"
  | "blocked" => "blocked"
  | _ => status

/-- An agent's status after an event of `kind`. -/
def agentStatus (kind : String) (status : Option AgentStatus) : Option AgentStatus :=
  match kind with
  | "started" | "progress" | "output" | "blocked" => some .Busy
  | "completed" | "failed" => some .Idle
  | _ => status

/-- An agent's active session after an event of `kind` for `session_id`. -/
def agentActiveSession (kind session_id : String) : Option String :=
  match kind with
  | "completed" | "failed" => none
  | _ => some session_id

/-- The await points of the session subscription's loop. -/
inductive SessionSubscription where
  /-- At `stream.next().await`. -/
  | waiting
  /-- In `handle_agent_event`, at `state.chat_sessions.lock().await`. -/
  | sessions_locking (session_id agent_name kind : String) (chat_message : ChatMessage)
  /-- In `handle_agent_event`, at `state.agents.lock().await`. -/
  | agents_locking (session_id agent_name kind : String)

/-- The loop body on an `Ok(event)`, where `decoded` is
`serde_json::from_value::<AgentEvent>(event.data)`: an event without a session is dropped. -/
def SessionSubscription.receive (decoded : Except serde_json.Error AgentEvent)
    (uuid now : String) : SessionSubscription → Option SessionSubscription
  | .waiting =>
    match decoded with
    | .ok event =>
      match event.session_id with
      | some session_id =>
        let agent_name := event.agent.getD ""
        let kind := event.kind.getD ""
        some (.sessions_locking session_id agent_name kind
          (chatMessageOf event session_id agent_name kind uuid now))
      | none => some .waiting
    | .error _ => some .waiting
  | _ => none

/-- The message goes to the session if the session is there, and nowhere otherwise. -/
def SessionSubscription.poll (st : AppState) :
    SessionSubscription → Option (SessionSubscription × AppState × List Obs)
  | .waiting => none
  | .sessions_locking session_id agent_name kind chat_message =>
    let st' := match st.chat_sessions.lookup session_id with
      | some session =>
        let session := { session with messages := session.messages ++ [chat_message],
                                      status := sessionStatus kind session.status }
        { st with chat_sessions := st.chat_sessions.insert session_id session }
      | none => st
    let next := if agent_name.isEmpty then SessionSubscription.waiting
      else .agents_locking session_id agent_name kind
    some (next, st', [.handled session_id chat_message])
  | .agents_locking session_id agent_name kind =>
    let st' := match st.agents.lookup agent_name with
      | some agent =>
        let agent := { agent with status := agentStatus kind agent.status,
                                  active_session_id := agentActiveSession kind session_id }
        { st with agents := st.agents.insert agent_name agent }
      | none => st
    some (.waiting, st', [])

end agent_management
