-- The chat store. Under every interleaving of the app's tasks, every chat session is kept under
-- its own id and holds only messages for that session, and every agent is kept under its own
-- name: `send_prompt`, `send_followup` and `handle_agent_event` write a session's messages under
-- its id only, and the agent loop and `handle_agent_event` write an agent under its name only.
import Notif.AgentManagement.Replies

namespace agent_management

/-! ## The invariant -/

/-- The session kept under `s` is the session `s`, and each of its messages is for `s`. -/
def SessionFiled (s : String) (session : ChatSession) : Prop :=
  session.session_id = s ∧ ∀ m ∈ session.messages, m.session_id = s

/-- A message for the session, pushed onto it, keeps it filed. -/
theorem SessionFiled.push {s : String} {session : ChatSession} {m : ChatMessage} (status : String)
    (hs : SessionFiled s session) (hm : m.session_id = s) :
    SessionFiled s { session with messages := session.messages ++ [m], status := status } :=
  ⟨hs.1, fun m' h => (List.mem_append.mp h).elim (hs.2 m') fun h => List.mem_singleton.mp h ▸ hm⟩

/-- Every chat session is kept under its own id with only its own messages, and every agent
under its own name. -/
structure ChatFiling (st : AppState) : Prop where
  sessions : ∀ s session, st.chat_sessions.lookup s = some session → SessionFiled s session
  agents : ∀ n agent, st.agents.lookup n = some agent → agent.name = n

theorem ChatFiling.of_eq {st st' : AppState} (hst : ChatFiling st)
    (hc : st'.chat_sessions = st.chat_sessions) (ha : st'.agents = st.agents) : ChatFiling st' :=
  ⟨hc ▸ hst.sessions, ha ▸ hst.agents⟩

/-- The message the session loop is about to store is for the session it stores it under. -/
def Task.chatFiled : Task → Prop
  | .session_subscription (.sessions_locking session_id _ _ chat_message) =>
    chat_message.session_id = session_id
  | _ => True

/-! ## What each poll does to it -/

section
variable {st st' : AppState} {e : EmitResult} {obs : List Obs}

theorem SendPrompt.poll_chatFiling {c : SendPromptCall} {pc pc' : SendPrompt}
    (h : pc.poll c st e = some (pc', st', obs)) (hst : ChatFiling st) : ChatFiling st' := by
  cases pc <;> simp only [SendPrompt.poll, Option.some.injEq, Prod.mk.injEq, reduceCtorEq] at h <;>
    obtain ⟨-, rfl, -⟩ := h
  · exact hst
  · exact ⟨HashMap.forall_lookup_insert hst.sessions
      ⟨rfl, fun m hm => by rw [List.mem_singleton.mp hm]; rfl⟩, hst.agents⟩
  · exact hst.of_eq rfl rfl

theorem SendFollowup.poll_chatFiling {c : SendFollowupCall} {pc pc' : SendFollowup}
    (h : pc.poll c st e = some (pc', st', obs)) (hst : ChatFiling st) : ChatFiling st' := by
  cases pc <;> simp only [SendFollowup.poll, Option.some.injEq, Prod.mk.injEq, reduceCtorEq] at h <;>
    obtain ⟨-, rfl, -⟩ := h
  · exact hst
  · exact hst
  · split
    · rename_i session hs
      exact ⟨HashMap.forall_lookup_insert hst.sessions ((hst.sessions _ session hs).push _ rfl),
        hst.agents⟩
    · exact hst

theorem SessionSubscription.poll_chatFiling {pc pc' : SessionSubscription}
    (h : pc.poll st = some (pc', st', obs)) (hst : ChatFiling st)
    (hpc : (Task.session_subscription pc).chatFiled) :
    ChatFiling st' ∧ (Task.session_subscription pc').chatFiled := by
  cases pc with
  | waiting => cases h
  | sessions_locking s agent_name kind chat_message =>
    simp only [SessionSubscription.poll, Option.some.injEq, Prod.mk.injEq] at h
    obtain ⟨rfl, rfl, -⟩ := h
    refine ⟨?_, by split <;> trivial⟩
    split
    · rename_i session hs
      exact ⟨HashMap.forall_lookup_insert hst.sessions ((hst.sessions s session hs).push _ hpc),
        hst.agents⟩
    · exact hst
  | agents_locking s agent_name kind =>
    simp only [SessionSubscription.poll, Option.some.injEq, Prod.mk.injEq] at h
    obtain ⟨rfl, rfl, -⟩ := h
    refine ⟨?_, trivial⟩
    split
    · rename_i agent ha
      exact ⟨hst.sessions, HashMap.forall_lookup_insert hst.agents (hst.agents _ agent ha)⟩
    · exact hst

theorem AgentSubscription.poll_chatFiling {pc pc' : AgentSubscription}
    (h : pc.poll st = some (pc', st')) (hst : ChatFiling st) : ChatFiling st' := by
  cases pc with
  | waiting => cases h
  | agents_locking agent =>
    simp only [AgentSubscription.poll, Option.some.injEq, Prod.mk.injEq] at h
    obtain ⟨-, rfl⟩ := h
    exact ⟨hst.sessions, HashMap.forall_lookup_insert hst.agents rfl⟩

/-- A poll keeps the chat store filed: the commands and loops that write a session write its own
messages under its id, those that write an agent keep its name as its key, and the others leave
both maps alone. -/
theorem Task.poll_chatFiling {t t' : Task} (h : t.poll st e = some (t', st', obs))
    (hst : ChatFiling st) (ht : t.chatFiled) : ChatFiling st' ∧ t'.chatFiled := by
  cases t with
  | send_prompt c pc =>
    obtain ⟨⟨pc', st'', obs'⟩, hp, hr⟩ := Option.map_eq_some'.mp h
    cases hr
    exact ⟨SendPrompt.poll_chatFiling hp hst, trivial⟩
  | send_followup c pc =>
    obtain ⟨⟨pc', st'', obs'⟩, hp, hr⟩ := Option.map_eq_some'.mp h
    cases hr
    exact ⟨SendFollowup.poll_chatFiling hp hst, trivial⟩
  | session_subscription pc =>
    obtain ⟨⟨pc', st'', obs'⟩, hp, hr⟩ := Option.map_eq_some'.mp h
    cases hr
    exact SessionSubscription.poll_chatFiling hp hst ht
  | agent_subscription pc =>
    obtain ⟨⟨pc', st''⟩, hp, hr⟩ := Option.map_eq_some'.mp h
    cases hr
    exact ⟨AgentSubscription.poll_chatFiling hp hst, trivial⟩
  | get_current_permission _ pc | respond_permission _ _ _ pc | permission_subscription pc =>
    -- the permission store's tasks change `queues` and `active` only
    obtain ⟨⟨pc', st'', obs'⟩, hp, hr⟩ := Option.map_eq_some'.mp h
    cases hr
    refine ⟨hst.of_eq ?_ ?_, trivial⟩ <;> cases pc <;>
      simp only [GetCurrentPermission.poll, RespondPermission.poll, PermissionSubscription.poll]
        at hp <;> (try split at hp) <;> cases hp <;> rfl
  | set_active_chat_session s pc =>
    obtain ⟨⟨pc', st''⟩, hp, hr⟩ := Option.map_eq_some'.mp h
    cases hr
    refine ⟨hst.of_eq ?_ ?_, trivial⟩ <;> cases pc <;>
      simp only [SetActiveChatSession.poll] at hp <;> cases hp <;> rfl
  | _ =>
    obtain ⟨_, -, hr⟩ := Option.map_eq_some'.mp h
    cases hr
    exact ⟨hst, trivial⟩

end

/-- The session loop only takes up an event for the session the event names. -/
theorem SessionSubscription.receive_chatFiled {pc pc' : SessionSubscription}
    {decoded : Except serde_json.Error AgentEvent} {uuid now : String}
    (h : pc.receive decoded uuid now = some pc') : (Task.session_subscription pc').chatFiled := by
  cases pc with
  | waiting =>
    simp only [SessionSubscription.receive] at h
    split at h
    · split at h <;> cases h <;> trivial
    · cases h; trivial
  | _ => cases h

theorem Task.receive_chatFiled {t t' : Task} {d : Delivery} (h : t.receive d = some t') :
    t'.chatFiled := by
  cases t <;> cases d <;> simp only [Task.receive, reduceCtorEq] at h <;>
    obtain ⟨pc', hpc, rfl⟩ := Option.map_eq_some'.mp h
  · trivial
  · trivial
  · exact SessionSubscription.receive_chatFiled hpc

/-! ## Every run -/

/-- The chat store is filed, and every message a task is about to store is for its session. -/
structure ChatStore (w : World) : Prop where
  filing : ChatFiling w.app
  pending : ∀ t ∈ w.tasks, t.chatFiled

theorem ChatStore.init : ChatStore World.init := by
  refine ⟨⟨fun _ _ h => ?_, fun _ _ h => ?_⟩, fun t ht => ?_⟩
  · simp [World.init, AppState.new] at h
  · simp [World.init, AppState.new] at h
  · simp only [World.init, List.mem_cons, List.not_mem_nil, or_false] at ht
    rcases ht with rfl | rfl | rfl <;> trivial

theorem ChatStore.step {w w' : World} {a : Act} (hs : ChatStore w) (h : w.step a = some w') :
    ChatStore w' := by
  cases a with
  | invoke c =>
    obtain rfl := World.step_invoke h
    refine ⟨hs.filing, fun t ht => (List.mem_append.mp ht).elim (hs.pending t) fun he => ?_⟩
    rw [List.mem_singleton.mp he]
    cases c <;> trivial
  | poll k e =>
    obtain ⟨t, t', app, obs, ht, -, hp, rfl⟩ := World.step_poll h
    have hpoll := Task.poll_chatFiling hp hs.filing (hs.pending t (List.getElem?_mem ht))
    exact ⟨hpoll.1, fun u hu => (List.mem_or_eq_of_mem_set hu).elim (hs.pending u)
      fun he => he ▸ hpoll.2⟩
  | deliver k d =>
    obtain ⟨t, t', ht, hr, rfl⟩ := World.step_deliver h
    exact ⟨hs.filing, fun u hu => (List.mem_or_eq_of_mem_set hu).elim (hs.pending u)
      fun he => he ▸ Task.receive_chatFiled hr⟩

theorem ChatStore.run {acts : List Act} {w : World} (h : World.init.run acts = some w) :
    ChatStore w :=
  World.run_induction ChatStore (fun _ _ _ hs h => hs.step h) acts ChatStore.init h

/-- Under every run of the app, every chat session is kept under its own id and holds only
messages for that session, and every agent is kept under its own name. -/
theorem chat_sessions_and_agents_are_kept_under_their_own_ids {acts : List Act} {w : World}
    (h : World.init.run acts = some w) :
    (∀ s session, w.app.chat_sessions.lookup s = some session →
      session.session_id = s ∧ ∀ m ∈ session.messages, m.session_id = s) ∧
    ∀ n agent, w.app.agents.lookup n = some agent → agent.name = n :=
  ⟨(ChatStore.run h).filing.sessions, (ChatStore.run h).filing.agents⟩

/-- A prompt is sent and recorded, and the agent's reply is stored with it. -/
theorem prompt_and_reply_are_kept_under_the_session :
    ∃ w, World.init.run [.invoke (.send_prompt samplePrompt), .poll 3 (.ok ()), .poll 3 (.ok ()),
        .poll 3 (.ok ()), .deliver 2 (.session (.ok sampleReply)
          "1b2c3d4e-5f6a-4b7c-8d9e-0f1a2b3c4d5e" "2025-01-01T00:00:01+00:00"),
        .poll 2 (.ok ())] = some w ∧
      ∀ s session, w.app.chat_sessions.lookup s = some session →
        session.session_id = s ∧ ∀ m ∈ session.messages, m.session_id = s := by
  obtain ⟨w, hw⟩ : ∃ w, World.init.run [.invoke (.send_prompt samplePrompt), .poll 3 (.ok ()),
      .poll 3 (.ok ()), .poll 3 (.ok ()), .deliver 2 (.session (.ok sampleReply)
        "1b2c3d4e-5f6a-4b7c-8d9e-0f1a2b3c4d5e" "2025-01-01T00:00:01+00:00"),
      .poll 2 (.ok ())] = some w := ⟨_, rfl⟩
  exact ⟨w, hw, (chat_sessions_and_agents_are_kept_under_their_own_ids hw).1⟩

end agent_management
