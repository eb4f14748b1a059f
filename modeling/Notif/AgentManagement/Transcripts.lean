-- The chat transcripts. Under every interleaving of the app's tasks, every chat session was
-- opened by a `send_prompt` whose create message the broker took: it belongs to that call's agent
-- and starts with that call's prompt, whatever `send_followup` and `handle_agent_event` push on it
-- afterwards; and its status is always one the app gives. The session loop never opens a session,
-- and nothing ever removes one: of the maps of `AppState`, only `active` loses entries.
import Notif.AgentManagement.PermissionStore
import Notif.AgentManagement.Replies

namespace agent_management

/-! ## What a poll does to the chat sessions -/

/-- The statuses a chat session can be given: `"running"` when it is created or followed up,
and the four `handle_agent_event` sets. -/
def sessionStatuses : List String := ["running", "completed", "failed", "blocked"]

theorem sessionStatus_mem {status : String} (kind : String) (h : status ∈ sessionStatuses) :
    sessionStatus kind status ∈ sessionStatuses := by
  unfold sessionStatus
  split <;> first | exact h | simp [sessionStatuses]

/-- What a poll does to `chat_sessions`: nothing; `send_prompt` records its new session; or
`send_followup` or `handle_agent_event` push a message on a session that is there and set its
status. -/
theorem Task.poll_chat_sessions {t t' : Task} {st st' : AppState} {e : EmitResult}
    {obs : List Obs} (h : t.poll st e = some (t', st', obs)) :
    st'.chat_sessions = st.chat_sessions ∨
    (∃ c, t = .send_prompt c .sessions_locking ∧
      st'.chat_sessions = st.chat_sessions.insert c.session_id c.chat_session) ∨
    (∃ s session m status, st.chat_sessions.lookup s = some session ∧
      (status = "running" ∨ ∃ kind, status = sessionStatus kind session.status) ∧
      st'.chat_sessions = st.chat_sessions.insert s
        { session with messages := session.messages ++ [m], status := status }) := by
  cases t <;> rename_i pc <;> cases pc <;>
    simp only [Task.poll, GetSessions.poll, GetCurrentPermission.poll, RespondPermission.poll,
      GetBadgeCounts.poll, DiscoverAgents.poll, GetAgents.poll, SendPrompt.poll,
      SendFollowup.poll, CancelSession.poll, GetChatSessions.poll, GetActiveChatSession.poll,
      SetActiveChatSession.poll, PermissionSubscription.poll, AgentSubscription.poll,
      SessionSubscription.poll, Option.map_some', Option.map_none', reduceCtorEq] at h <;>
    (try split at h) <;>
    simp only [Option.some.injEq, Prod.mk.injEq, reduceCtorEq, Option.map_some'] at h <;>
    obtain ⟨-, rfl, -⟩ := h <;> (try split) <;>
    first
    | exact .inl rfl
    | exact .inr (.inl ⟨_, rfl, rfl⟩)
    | exact .inr (.inr ⟨_, _, _, _, by assumption, .inl rfl, rfl⟩)
    | exact .inr (.inr ⟨_, _, _, _, by assumption, .inr ⟨_, rfl⟩, rfl⟩)

/-- `send_prompt` goes on to record its session only once the broker took its create message. -/
theorem Task.poll_to_sessions_locking {t : Task} {c : SendPromptCall} {st st' : AppState}
    {e : EmitResult} {obs : List Obs}
    (h : t.poll st e = some (.send_prompt c .sessions_locking, st', obs)) :
    Obs.emitted c.topic c.message true ∈ obs := by
  cases t with
  | send_prompt c' pc =>
    obtain ⟨⟨pc', st'', obs'⟩, hp, hr⟩ := Option.map_eq_some'.mp h
    cases hr
    cases pc <;>
      simp only [SendPrompt.poll, Option.some.injEq, Prod.mk.injEq, reduceCtorEq, false_and] at hp
    obtain ⟨hpc, -, rfl⟩ := hp
    cases e
    · cases hpc
    · exact List.mem_singleton_self _
  | _ => obtain ⟨_, -, hr⟩ := Option.map_eq_some'.mp h; cases hr

/-! ## The invariant -/

/-- The session under `s` was opened by the `send_prompt` call `c`, whose create message the
broker took: it is `c`'s session, for `c`'s agent, and its first message is `c`'s prompt. -/
def OpenedBy (log : List Obs) (s : String) (session : ChatSession) (c : SendPromptCall) : Prop :=
  c.session_id = s ∧ Obs.emitted c.topic c.message true ∈ log ∧ session.agent = c.agent_name ∧
    session.messages.head? = some c.userMessage

/-- The session under `s` was opened by a `send_prompt` the broker took, and its status is one
the app gives. -/
def SessionOpened (log : List Obs) (s : String) (session : ChatSession) : Prop :=
  (∃ c, OpenedBy log s session c) ∧ session.status ∈ sessionStatuses

section
variable {log : List Obs} {s : String} {session : ChatSession}

theorem SessionOpened.mono (h : SessionOpened log s session) (obs : List Obs) :
    SessionOpened (log ++ obs) s session :=
  let ⟨⟨c, hs, he, ha, hm⟩, hst⟩ := h
  ⟨⟨c, hs, List.mem_append_left obs he, ha, hm⟩, hst⟩

theorem SessionOpened.push (h : SessionOpened log s session) (m : ChatMessage) {status : String}
    (hst : status ∈ sessionStatuses) :
    SessionOpened log s { session with messages := session.messages ++ [m], status := status } := by
  obtain ⟨⟨c, hs, he, ha, hm⟩, -⟩ := h
  refine ⟨⟨c, hs, he, ha, ?_⟩, hst⟩
  obtain ⟨rest, hrest⟩ : ∃ rest, session.messages = c.userMessage :: rest :=
    List.head?_eq_some_iff.mp hm
  simp [hrest]

theorem SendPromptCall.chat_session_opened {c : SendPromptCall}
    (he : Obs.emitted c.topic c.message true ∈ log) :
    SessionOpened log c.session_id c.chat_session :=
  ⟨⟨c, rfl, he, rfl, rfl⟩, by simp [SendPromptCall.chat_session, sessionStatuses]⟩

end

/-- Every chat session was opened by a `send_prompt` the broker took, and every `send_prompt`
about to record its session has had its create message taken. -/
structure Transcripts (w : World) : Prop where
  sessions : ∀ s session, w.app.chat_sessions.lookup s = some session →
    SessionOpened w.log s session
  pending : ∀ c, Task.send_prompt c .sessions_locking ∈ w.tasks →
    Obs.emitted c.topic c.message true ∈ w.log

theorem Transcripts.init : Transcripts World.init := by
  refine ⟨fun _ _ h => ?_, fun c hc => ?_⟩
  · simp [World.init, AppState.new] at h
  · simp [World.init] at hc

theorem Transcripts.poll {w : World} {k : Nat} {t t' : Task} {app : AppState} {obs : List Obs}
    {e : EmitResult} (hs : Transcripts w) (ht : w.tasks[k]? = some t)
    (hp : t.poll w.app e = some (t', app, obs)) :
    Transcripts ⟨app, w.tasks.set k t', w.log ++ obs⟩ := by
  have hold : ∀ s session, w.app.chat_sessions.lookup s = some session →
      SessionOpened (w.log ++ obs) s session :=
    fun s session h => (hs.sessions s session h).mono obs
  refine ⟨?_, fun c hc => ?_⟩
  · rcases Task.poll_chat_sessions hp with
      hc | ⟨c, rfl, hc⟩ | ⟨s, session, m, status, hl, hst, hc⟩ <;> simp only [hc]
    · exact hold
    · exact HashMap.forall_lookup_insert hold (SendPromptCall.chat_session_opened
        (List.mem_append_left obs (hs.pending c (List.getElem?_mem ht))))
    · refine HashMap.forall_lookup_insert hold ((hold s session hl).push m ?_)
      rcases hst with rfl | ⟨kind, rfl⟩
      · simp [sessionStatuses]
      · exact sessionStatus_mem kind (hs.sessions s session hl).2
  · rcases List.mem_or_eq_of_mem_set hc with hc | hc
    · exact List.mem_append_left obs (hs.pending c hc)
    · exact List.mem_append_right _ (Task.poll_to_sessions_locking (hc ▸ hp))

theorem Transcripts.step {w w' : World} {a : Act} (hs : Transcripts w) (h : w.step a = some w') :
    Transcripts w' := by
  cases a with
  | invoke c =>
    obtain rfl := World.step_invoke h
    refine ⟨hs.sessions, fun c' hc => (List.mem_append.mp hc).elim (hs.pending c') fun he => ?_⟩
    cases c <;> cases List.mem_singleton.mp he
  | poll k e =>
    obtain ⟨t, t', app, obs, ht, -, hp, rfl⟩ := World.step_poll h
    exact hs.poll ht hp
  | deliver k d =>
    obtain ⟨t, t', ht, hr, rfl⟩ := World.step_deliver h
    refine ⟨hs.sessions, fun c hc =>
      (List.mem_or_eq_of_mem_set hc).elim (hs.pending c) fun he => ?_⟩
    subst he
    rcases t with _ | _ | _ | _ | _ | _ | _ | _ | _ | _ | _ | _ | pc | pc | pc <;>
      rcases d with _ | _ | _ <;> simp only [Task.receive, reduceCtorEq] at hr <;>
      obtain ⟨pc', -, hpc⟩ := Option.map_eq_some'.mp hr <;> cases hpc

/-! ## Every run -/

theorem Transcripts.run {acts : List Act} {w : World} (h : World.init.run acts = some w) :
    Transcripts w :=
  World.run_induction Transcripts (fun _ _ _ hs h => hs.step h) acts Transcripts.init h

/-- Under every run of the app, every chat session was opened by a `send_prompt` whose
`agents.<agent>.session.create` message the broker took: it is kept under that call's session id,
belongs to that call's agent and starts with that call's prompt as a user message; and its status
is `"running"`, `"completed"`, `"failed"` or `"blocked"`. -/
theorem chat_sessions_open_with_their_prompt {acts : List Act} {w : World}
    (h : World.init.run acts = some w) (s : String) (session : ChatSession)
    (hs : w.app.chat_sessions.lookup s = some session) :
    (∃ c : SendPromptCall, c.session_id = s ∧ Obs.emitted c.topic c.message true ∈ w.log ∧
      session.agent = c.agent_name ∧ session.messages.head? = some c.userMessage) ∧
    session.status ∈ ["running", "completed", "failed", "blocked"] :=
  (Transcripts.run h).sessions s session hs

/-- A prompt is sent and recorded, and the agent's reply is pushed on its session. -/
theorem prompt_opens_the_session_its_reply_joins :
    ∃ w session, World.init.run [.invoke (.send_prompt samplePrompt), .poll 3 (.ok ()),
        .poll 3 (.ok ()), .poll 3 (.ok ()), .deliver 2 (.session (.ok sampleReply)
          "1b2c3d4e-5f6a-4b7c-8d9e-0f1a2b3c4d5e" "2025-01-01T00:00:01+00:00"),
        .poll 2 (.ok ())] = some w ∧
      w.app.chat_sessions.lookup samplePrompt.session_id = some session ∧
      session.messages.length = 2 ∧
      (∃ c : SendPromptCall, c.session_id = samplePrompt.session_id ∧
        Obs.emitted c.topic c.message true ∈ w.log ∧ session.agent = c.agent_name ∧
        session.messages.head? = some c.userMessage) ∧
      session.status ∈ ["running", "completed", "failed", "blocked"] :=
  ⟨_, _, rfl, rfl, rfl, @chat_sessions_open_with_their_prompt [.invoke (.send_prompt samplePrompt),
    .poll 3 (.ok ()), .poll 3 (.ok ()), .poll 3 (.ok ()), .deliver 2 (.session (.ok sampleReply)
      "1b2c3d4e-5f6a-4b7c-8d9e-0f1a2b3c4d5e" "2025-01-01T00:00:01+00:00"), .poll 2 (.ok ())]
    _ rfl _ _ rfl⟩

/-! ## What the app never removes -/

/-- What a poll does to `agents`: nothing, or an insert. -/
theorem Task.poll_agents {t t' : Task} {st st' : AppState} {e : EmitResult} {obs : List Obs}
    (h : t.poll st e = some (t', st', obs)) :
    st'.agents = st.agents ∨ ∃ n agent, st'.agents = st.agents.insert n agent := by
  cases t <;> rename_i pc <;> cases pc <;>
    simp only [Task.poll, GetSessions.poll, GetCurrentPermission.poll, RespondPermission.poll,
      GetBadgeCounts.poll, DiscoverAgents.poll, GetAgents.poll, SendPrompt.poll,
      SendFollowup.poll, CancelSession.poll, GetChatSessions.poll, GetActiveChatSession.poll,
      SetActiveChatSession.poll, PermissionSubscription.poll, AgentSubscription.poll,
      SessionSubscription.poll, Option.map_some', Option.map_none', reduceCtorEq] at h <;>
    (try split at h) <;>
    simp only [Option.some.injEq, Prod.mk.injEq, reduceCtorEq, Option.map_some'] at h <;>
    obtain ⟨-, rfl, -⟩ := h <;> (try split) <;>
    first
    | exact .inl rfl
    | exact .inr ⟨_, _, rfl⟩

/-- A map that is unchanged or has one more insert keeps its keys. -/
theorem keys_subset_of_insert {β : Type} {m m' : HashMap β}
    (h : m' = m ∨ ∃ k v, m' = m.insert k v) : ∀ s ∈ m, s ∈ m' := by
  rcases h with rfl | ⟨k, v, rfl⟩
  · exact fun _ hs => hs
  · exact fun _ hs => (AList.mem_insert _).2 (.inr hs)

/-- Every key of `queues`, `agents` and `chat_sessions` in `st` is still there in `st'`. -/
def KeysKept (st st' : AppState) : Prop :=
  (∀ s ∈ st.queues, s ∈ st'.queues) ∧ (∀ n ∈ st.agents, n ∈ st'.agents) ∧
    ∀ s ∈ st.chat_sessions, s ∈ st'.chat_sessions

theorem KeysKept.refl (st : AppState) : KeysKept st st :=
  ⟨fun _ h => h, fun _ h => h, fun _ h => h⟩

theorem KeysKept.trans {st₁ st₂ st₃ : AppState} (h₁ : KeysKept st₁ st₂) (h₂ : KeysKept st₂ st₃) :
    KeysKept st₁ st₃ :=
  ⟨fun s h => h₂.1 s (h₁.1 s h), fun n h => h₂.2.1 n (h₁.2.1 n h),
    fun s h => h₂.2.2 s (h₁.2.2 s h)⟩

/-- A poll removes no key of `queues`, `agents` or `chat_sessions`. -/
theorem Task.poll_keysKept {t t' : Task} {st st' : AppState} {e : EmitResult} {obs : List Obs}
    (h : t.poll st e = some (t', st', obs)) : KeysKept st st' := by
  refine ⟨keys_subset_of_insert ?_, keys_subset_of_insert (Task.poll_agents h),
    keys_subset_of_insert ?_⟩
  · rcases Task.poll_store h with ⟨hq, -⟩ | ⟨s, r, rest, -, -, hq, -⟩ | ⟨-, -, -, -, hq, -⟩ |
      ⟨s, r, -, hq, -⟩
    · exact .inl hq
    · exact .inr ⟨_, _, hq⟩
    · exact .inl hq
    · exact .inr ⟨_, _, hq⟩
  · rcases Task.poll_chat_sessions h with hc | ⟨c, -, hc⟩ | ⟨s, session, m, status, -, -, hc⟩
    · exact .inl hc
    · exact .inr ⟨_, _, hc⟩
    · exact .inr ⟨_, _, hc⟩

theorem World.step_keysKept {w w' : World} {a : Act} (h : w.step a = some w') :
    KeysKept w.app w'.app := by
  cases a with
  | invoke c => obtain rfl := World.step_invoke h; exact .refl _
  | poll k e =>
    obtain ⟨t, t', app, obs, -, -, hp, rfl⟩ := World.step_poll h
    exact Task.poll_keysKept hp
  | deliver k d => obtain ⟨-, -, -, -, rfl⟩ := World.step_deliver h; exact .refl _

/-- Under every run of the app, from any state, no key of `queues`, `agents` or
`chat_sessions` is ever removed: a session whose queue empties keeps its entry, and nothing
deletes a chat session or an agent. Only `active` loses entries. -/
theorem queues_agents_and_chat_sessions_only_grow {w w' : World} (acts : List Act)
    (h : w.run acts = some w') :
    (∀ s ∈ w.app.queues, s ∈ w'.app.queues) ∧ (∀ n ∈ w.app.agents, n ∈ w'.app.agents) ∧
      ∀ s ∈ w.app.chat_sessions, s ∈ w'.app.chat_sessions :=
  World.run_induction (fun w'' => KeysKept w.app w''.app)
    (fun _ _ _ hk hs => hk.trans (World.step_keysKept hs)) acts (.refl _) h

/-- A recorded session keeps its entry while the agent's reply is pushed on it. -/
theorem session_outlives_its_reply :
    ∃ w w', World.init.run [.invoke (.send_prompt samplePrompt), .poll 3 (.ok ()),
        .poll 3 (.ok ()), .poll 3 (.ok ())] = some w ∧
      w.run [.deliver 2 (.session (.ok sampleReply) "1b2c3d4e-5f6a-4b7c-8d9e-0f1a2b3c4d5e"
        "2025-01-01T00:00:01+00:00"), .poll 2 (.ok ())] = some w' ∧
      samplePrompt.session_id ∈ w.app.chat_sessions ∧
      ((∀ s ∈ w.app.queues, s ∈ w'.app.queues) ∧ (∀ n ∈ w.app.agents, n ∈ w'.app.agents) ∧
        ∀ s ∈ w.app.chat_sessions, s ∈ w'.app.chat_sessions) :=
  ⟨_, _, rfl, rfl, by decide, queues_agents_and_chat_sessions_only_grow
    [.deliver 2 (.session (.ok sampleReply) "1b2c3d4e-5f6a-4b7c-8d9e-0f1a2b3c4d5e"
      "2025-01-01T00:00:01+00:00"), .poll 2 (.ok ())] rfl⟩

end agent_management
