-- Agent replies. `send_prompt` emits the prompt before it records the session, and
-- `handle_agent_event` drops an event for a session that is not recorded. An agent's reply that
-- the session subscription handles between the two is lost from the chat.
import Notif.AgentManagement.Runtime

namespace agent_management

/-- The chat message the session subscription makes of an event for `session_id`. -/
def replyOf (event : AgentEvent) (session_id uuid now : String) : ChatMessage :=
  chatMessageOf event session_id (event.agent.getD "") (event.kind.getD "") uuid now

/-- The loop's await point after its `chat_sessions` step on an event. -/
def afterChat (event : AgentEvent) (session_id : String) : SessionSubscription :=
  if (event.agent.getD "").isEmpty then .waiting
  else .agents_locking session_id (event.agent.getD "") (event.kind.getD "")

/-- From any state where the new session is not recorded and neither `chat_sessions` nor
`active_chat_session` is held: `send_prompt`'s emit returns, the session subscription then
handles an event for the new session, and `send_prompt` goes on. The event was handled after the
prompt was emitted, yet the session ends up with the user's message alone. -/
theorem reply_before_the_session_is_recorded_is_lost (w : World) (c : SendPromptCall) (k : Nat)
    (event : AgentEvent) (uuid now : String)
    (hk : w.tasks[k]? = some (.session_subscription .waiting))
    (hc : w.free .chat_sessions = true) (ha : w.free .active_chat_session = true)
    (hs : w.app.chat_sessions.lookup c.session_id = none)
    (he : event.session_id = some c.session_id) :
    ∃ w', w.run [.invoke (.send_prompt c), .poll w.tasks.length (.ok ()),
        .deliver k (.session (.ok event) uuid now), .poll k (.ok ()),
        .poll w.tasks.length (.ok ()), .poll w.tasks.length (.ok ())] = some w' ∧
      w'.log = w.log ++ [.emitted c.topic c.message true,
        .handled c.session_id (replyOf event c.session_id uuid now)] ∧
      (w'.app.chat_sessions.lookup c.session_id).map (·.messages) = some [c.userMessage] ∧
      w'.tasks[w.tasks.length]? = some (.send_prompt c (.done (.ok c.session_id))) := by
  have hkn : k < w.tasks.length := (List.getElem?_eq_some_iff.mp hk).1
  let n := w.tasks.length
  let msg := replyOf event c.session_id uuid now
  let ts₁ := (w.tasks ++ [Task.send_prompt c .start]).set n (.send_prompt c .sessions_locking)
  let ts₂ := ts₁.set k (.session_subscription (.sessions_locking c.session_id (event.agent.getD "")
    (event.kind.getD "") msg))
  let ts₃ := ts₂.set k (.session_subscription (afterChat event c.session_id))
  have hc' : ∀ t ∈ ts₂, Lock.chat_sessions ∉ t.holds :=
    not_held_set (not_held_set (not_held_append (World.free_iff.mp hc) (by simp [Task.holds]))
      (by simp [Task.holds])) (by simp [Task.holds])
  have h₁ : World.step ⟨w.app, w.tasks ++ [.send_prompt c .start], w.log⟩ (.poll n (.ok ())) =
      some ⟨w.app, ts₁, w.log ++ [.emitted c.topic c.message true]⟩ :=
    World.step_poll_of (List.getElem?_concat_length w.tasks (Task.send_prompt c .start))
      (fun l hl => by cases hl) rfl
  have h₂ : World.step ⟨w.app, ts₁, w.log ++ [.emitted c.topic c.message true]⟩
      (.deliver k (.session (.ok event) uuid now)) =
      some ⟨w.app, ts₂, w.log ++ [.emitted c.topic c.message true]⟩ := by
    have : ts₁[k]? = some (.session_subscription .waiting) := by
      rw [List.getElem?_set_ne (by omega), List.getElem?_append_left hkn, hk]
    simp [World.step, this, Task.receive, SessionSubscription.receive, he, ts₂, msg, replyOf]
  have h₃ : World.step ⟨w.app, ts₂, w.log ++ [.emitted c.topic c.message true]⟩ (.poll k (.ok ())) =
      some ⟨w.app, ts₃, w.log ++ [.emitted c.topic c.message true] ++ [.handled c.session_id msg]⟩ :=
    World.step_poll_of (List.getElem?_set_self (by simp [ts₁]; omega))
      (fun l hl => by cases hl; exact World.free_iff.mpr hc')
      (by simp [Task.poll, SessionSubscription.poll, hs, afterChat])
  have hn : ∀ (x y : Task), ((ts₁.set k x).set k y)[n]? = some (.send_prompt c .sessions_locking) := by
    intro x y
    rw [List.getElem?_set_ne (by omega), List.getElem?_set_ne (by omega),
      List.getElem?_set_self (by simp)]
  let app₄ : AppState :=
    { w.app with chat_sessions := w.app.chat_sessions.insert c.session_id c.chat_session }
  let ts₄ := ts₃.set n (.send_prompt c .active_chat_session_locking)
  let log₃ := w.log ++ [.emitted c.topic c.message true] ++ [.handled c.session_id msg]
  have h₄ : World.step ⟨w.app, ts₃, log₃⟩ (.poll n (.ok ())) = some ⟨app₄, ts₄, log₃ ++ []⟩ :=
    World.step_poll_of (hn _ _)
      (fun l hl => by cases hl; exact World.free_iff.mpr (not_held_set hc' (by simp [Task.holds])))
      rfl
  have ha' : ∀ t ∈ ts₄, Lock.active_chat_session ∉ t.holds :=
    not_held_set (not_held_set (not_held_set (not_held_set
      (not_held_append (World.free_iff.mp ha) (by simp [Task.holds])) (by simp [Task.holds]))
      (by simp [Task.holds])) (by simp [Task.holds])) (by simp [Task.holds])
  have h₅ : World.step ⟨app₄, ts₄, log₃ ++ []⟩ (.poll n (.ok ())) =
      some ⟨{ app₄ with active_chat_session := some c.session_id },
        ts₄.set n (.send_prompt c (.done (.ok c.session_id))), log₃ ++ [] ++ []⟩ :=
    World.step_poll_of (List.getElem?_set_self (by simp [ts₃, ts₂, ts₁]))
      (fun l hl => by cases hl; exact World.free_iff.mpr ha') rfl
  have h₀ : w.step (.invoke (.send_prompt c)) =
      some ⟨w.app, w.tasks ++ [.send_prompt c .start], w.log⟩ := rfl
  have hrun : w.run [.invoke (.send_prompt c), .poll n (.ok ()),
      .deliver k (.session (.ok event) uuid now), .poll k (.ok ()), .poll n (.ok ()),
      .poll n (.ok ())] = some ⟨{ app₄ with active_chat_session := some c.session_id },
        ts₄.set n (.send_prompt c (.done (.ok c.session_id))), log₃ ++ [] ++ []⟩ := by
    simp only [World.run, h₀, h₁, h₂, h₃, h₄, h₅, Option.some_bind]
  refine ⟨_, hrun, by simp [log₃], by simp [app₄, AList.lookup_insert, SendPromptCall.chat_session],
    List.getElem?_set_self (by simp [ts₄, ts₃, ts₂, ts₁])⟩

/-- A prompt to the agent `coder`. -/
def samplePrompt : SendPromptCall :=
  ⟨"coder", "fix the build", "3f2b8c1e-9d4a-4e7b-a1c2-5d6e7f8a9b0c",
    "7c6d5e4f-3a2b-4c1d-9e8f-0a1b2c3d4e5f", "2025-01-01T00:00:00+00:00",
    "2025-01-01T00:00:00+00:00"⟩

/-- The agent's first output in the new session. -/
def sampleReply : AgentEvent :=
  ⟨some "sess_3f2b8c1e-9d4", some "coder", some "output", some "Looking at the build", none, none,
    none, none⟩

theorem first_reply_to_a_new_prompt_is_lost :
    ∃ w', World.init.run [.invoke (.send_prompt samplePrompt), .poll 3 (.ok ()),
        .deliver 2 (.session (.ok sampleReply) "1b2c3d4e-5f6a-4b7c-8d9e-0f1a2b3c4d5e"
          "2025-01-01T00:00:01+00:00"), .poll 2 (.ok ()), .poll 3 (.ok ()), .poll 3 (.ok ())] =
        some w' ∧
      (w'.app.chat_sessions.lookup "sess_3f2b8c1e-9d4").map (·.messages) =
        some [samplePrompt.userMessage] := by
  obtain ⟨w', h, -, h₁, -⟩ := reply_before_the_session_is_recorded_is_lost World.init samplePrompt 2
    sampleReply "1b2c3d4e-5f6a-4b7c-8d9e-0f1a2b3c4d5e" "2025-01-01T00:00:01+00:00" rfl rfl rfl rfl rfl
  exact ⟨w', h, h₁⟩

end agent_management
