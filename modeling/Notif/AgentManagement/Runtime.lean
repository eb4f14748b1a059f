-- The app as a system of tasks: the futures of the invoked commands and of the three
-- subscription loops share one `AppState`. A poll runs one task to its next `.await`; it takes
-- the lock it waits for only when no task holds it. The tokio mutexes hand a freed lock to
-- their oldest waiter; the model lets any waiter take it, so it has every run the app has.
import Notif.AgentManagement.Permissions
import Notif.AgentManagement.Chat

namespace agent_management

/-! ## Commands and tasks -/

/-- A command the front end invokes, with its arguments. -/
inductive Command where
  | get_sessions
  | get_current_permission (session_id : String)
  | respond_permission (session_id decision : String) (message : Option String)
  | get_badge_counts
  | discover_agents
  | get_agents
  | send_prompt (call : SendPromptCall)
  | send_followup (call : SendFollowupCall)
  | cancel_session (session_id : String)
  | get_chat_sessions
  | get_active_chat_session
  | set_active_chat_session (session_id : Option String)

/-- A running future: an invoked command or a subscription loop, at one of its await points. -/
inductive Task where
  | get_sessions (pc : GetSessions)
  | get_current_permission (session_id : String) (pc : GetCurrentPermission)
  | respond_permission (session_id decision : String) (message : Option String)
      (pc : RespondPermission)
  | get_badge_counts (pc : GetBadgeCounts)
  | discover_agents (pc : DiscoverAgents)
  | get_agents (pc : GetAgents)
  | send_prompt (call : SendPromptCall) (pc : SendPrompt)
  | send_followup (call : SendFollowupCall) (pc : SendFollowup)
  | cancel_session (session_id : String) (pc : CancelSession)
  | get_chat_sessions (pc : GetChatSessions)
  | get_active_chat_session (pc : GetActiveChatSession)
  | set_active_chat_session (session_id : Option String) (pc : SetActiveChatSession)
  | permission_subscription (pc : PermissionSubscription)
  | agent_subscription (pc : AgentSubscription)
  | session_subscription (pc : SessionSubscription)

/-- The future of an invoked command, not yet polled. -/
def Command.start : Command → Task
  | .get_sessions => .get_sessions .start
  | .get_current_permission s => .get_current_permission s .start
  | .respond_permission s d m => .respond_permission s d m .start
  | .get_badge_counts => .get_badge_counts .start
  | .discover_agents => .discover_agents .start
  | .get_agents => .get_agents .start
  | .send_prompt c => .send_prompt c .start
  | .send_followup c => .send_followup c .start
  | .cancel_session s => .cancel_session s .start
  | .get_chat_sessions => .get_chat_sessions .start
  | .get_active_chat_session => .get_active_chat_session .start
  | .set_active_chat_session s => .set_active_chat_session s .start

/-- The lock whose `lock().await` the task's next poll takes. -/
def Task.needs : Task → Option Lock
  | .get_sessions .start => some .queues
  | .get_sessions .queues_locked => some .active
  | .get_current_permission _ .start => some .active
  | .get_current_permission _ .active_locked => some .queues
  | .respond_permission _ _ _ .start => some .active
  | .get_badge_counts .start => some .queues
  | .get_badge_counts .queues_locked => some .active
  | .get_badge_counts .active_locked => some .agents
  | .get_agents .start => some .agents
  | .send_prompt _ .sessions_locking => some .chat_sessions
  | .send_prompt _ .active_chat_session_locking => some .active_chat_session
  | .send_followup _ .start => some .chat_sessions
  | .send_followup _ (.sessions_locking _) => some .chat_sessions
  | .cancel_session _ .start => some .chat_sessions
  | .get_chat_sessions .start => some .chat_sessions
  | .get_active_chat_session .start => some .active_chat_session
  | .get_active_chat_session (.id_locked _) => some .chat_sessions
  | .set_active_chat_session _ .start => some .active_chat_session
  | .permission_subscription (.queues_locking _ _) => some .queues
  | .agent_subscription (.agents_locking _) => some .agents
  | .session_subscription (.sessions_locking _ _ _ _) => some .chat_sessions
  | .session_subscription (.agents_locking _ _ _) => some .agents
  | _ => none

/-- The locks whose guards the task keeps across its current await point. -/
def Task.holds : Task → List Lock
  | .get_sessions .queues_locked => [.queues]
  | .get_current_permission _ .active_locked => [.active]
  | .get_badge_counts .queues_locked => [.queues]
  | .get_badge_counts .active_locked => [.queues, .active]
  | .get_active_chat_session (.id_locked _) => [.active_chat_session]
  | _ => []

/-- One poll of a task: its new await point, the new state and what it recorded; `none` for a
finished command and for a loop waiting for its stream. `emit` is the outcome of the emit the
task awaits, if it awaits one. -/
def Task.poll (st : AppState) (emit : EmitResult) : Task → Option (Task × AppState × List Obs)
  | .get_sessions pc => (pc.poll st).map fun pc => (.get_sessions pc, st, [])
  | .get_current_permission s pc =>
    (pc.poll s st).map fun r => (.get_current_permission s r.1, r.2)
  | .respond_permission s d m pc =>
    (pc.poll s d m st emit).map fun r => (.respond_permission s d m r.1, r.2)
  | .get_badge_counts pc => (pc.poll st).map fun pc => (.get_badge_counts pc, st, [])
  | .discover_agents pc => (pc.poll emit).map fun r => (.discover_agents r.1, st, r.2)
  | .get_agents pc => (pc.poll st).map fun pc => (.get_agents pc, st, [])
  | .send_prompt c pc => (pc.poll c st emit).map fun r => (.send_prompt c r.1, r.2)
  | .send_followup c pc => (pc.poll c st emit).map fun r => (.send_followup c r.1, r.2)
  | .cancel_session s pc => (pc.poll s st emit).map fun r => (.cancel_session s r.1, st, r.2)
  | .get_chat_sessions pc => (pc.poll st).map fun pc => (.get_chat_sessions pc, st, [])
  | .get_active_chat_session pc =>
    (pc.poll st).map fun pc => (.get_active_chat_session pc, st, [])
  | .set_active_chat_session s pc =>
    (pc.poll s st).map fun r => (.set_active_chat_session s r.1, r.2, [])
  | .permission_subscription pc => (pc.poll st).map fun r => (.permission_subscription r.1, r.2)
  | .agent_subscription pc => (pc.poll st).map fun r => (.agent_subscription r.1, r.2, [])
  | .session_subscription pc => (pc.poll st).map fun r => (.session_subscription r.1, r.2)

/-- An item a subscription's stream yields: the event's id and data as `from_value` decodes
them, and for the session loop the uuid and clock reading `handle_agent_event` draws. -/
inductive Delivery where
  | permission (event_id : String) (decoded : Except serde_json.Error PermissionRequest)
  | agent (decoded : Except serde_json.Error Agent)
  | session (decoded : Except serde_json.Error AgentEvent) (uuid now : String)

/-- A loop waiting at `stream.next().await` takes an item of its own stream. -/
def Task.receive : Task → Delivery → Option Task
  | .permission_subscription pc, .permission event_id decoded =>
    (pc.receive event_id decoded).map .permission_subscription
  | .agent_subscription pc, .agent decoded => (pc.receive decoded).map .agent_subscription
  | .session_subscription pc, .session decoded uuid now =>
    (pc.receive decoded uuid now).map .session_subscription
  | _, _ => none

/-! ## The system -/

/-- The app: its state, its tasks by index, and what it has recorded. -/
structure World where
  app : AppState
  tasks : List Task
  log : List Obs

/-- The app once `run`'s setup has spawned the three subscription loops. -/
def World.init : World :=
  ⟨AppState.new, [.permission_subscription .waiting, .agent_subscription .waiting,
    .session_subscription .waiting], []⟩

/-- A step of the app: the front end invokes a command, a task is polled, or a loop's stream
yields an item. -/
inductive Act where
  | invoke (c : Command)
  | poll (i : Nat) (emit : EmitResult)
  | deliver (i : Nat) (d : Delivery)

/-- No task holds the lock. -/
def World.free (w : World) (l : Lock) : Bool := w.tasks.all fun t => l ∉ t.holds

/-- One step; `none` when it cannot be taken. -/
def World.step (w : World) : Act → Option World
  | .invoke c => some { w with tasks := w.tasks ++ [c.start] }
  | .poll i emit =>
    match w.tasks[i]? with
    | some t =>
      if t.needs.all w.free then
        (t.poll w.app emit).map fun r => ⟨r.2.1, w.tasks.set i r.1, w.log ++ r.2.2⟩
      else none
    | none => none
  | .deliver i d =>
    (w.tasks[i]?.bind fun t => t.receive d).map fun t => { w with tasks := w.tasks.set i t }

/-- A run: the steps in order, `none` as soon as one cannot be taken. -/
def World.run (w : World) : List Act → Option World
  | [] => some w
  | a :: as => (w.step a).bind fun w' => w'.run as

theorem World.run_append (w : World) (as bs : List Act) :
    w.run (as ++ bs) = (w.run as).bind fun w' => w'.run bs := by
  induction as generalizing w with
  | nil => rfl
  | cons a as ih =>
    show ((w.step a).bind fun w' => w'.run (as ++ bs)) = _
    simp only [ih, World.run, Option.bind_assoc]

/-- A property that every step keeps holds after every run. -/
theorem World.run_induction (P : World → Prop) (hstep : ∀ w a w', P w → w.step a = some w' → P w') :
    ∀ {w w' : World} (acts : List Act), P w → w.run acts = some w' → P w'
  | w, w', [], hw, h => by cases h; exact hw
  | w, w', a :: as, hw, h => by
    obtain ⟨w₁, h₁, h₂⟩ := Option.bind_eq_some.mp h
    exact World.run_induction P hstep as (hstep w a w₁ hw h₁) h₂

/-! ## What one step does -/

section
variable {w w' : World} {i : Nat} {t : Task}

theorem World.free_iff {l : Lock} : w.free l = true ↔ ∀ t ∈ w.tasks, l ∉ t.holds := by
  simp [World.free]

theorem World.step_invoke {c : Command} (h : w.step (.invoke c) = some w') :
    w' = { w with tasks := w.tasks ++ [c.start] } := by
  cases h; rfl

theorem World.step_poll {emit : EmitResult} (h : w.step (.poll i emit) = some w') :
    ∃ t t' app obs, w.tasks[i]? = some t ∧ (∀ l, t.needs = some l → w.free l = true) ∧
      t.poll w.app emit = some (t', app, obs) ∧ w' = ⟨app, w.tasks.set i t', w.log ++ obs⟩ := by
  simp only [World.step] at h
  split at h
  · rename_i t ht
    split at h
    · obtain ⟨⟨t', app, obs⟩, hp, rfl⟩ := Option.map_eq_some'.mp h
      exact ⟨t, t', app, obs, ht, fun l hl => by simp_all, hp, rfl⟩
    · cases h
  · cases h

theorem World.step_deliver {d : Delivery} (h : w.step (.deliver i d) = some w') :
    ∃ t t', w.tasks[i]? = some t ∧ t.receive d = some t' ∧
      w' = { w with tasks := w.tasks.set i t' } := by
  simp only [World.step, Option.map_eq_some', Option.bind_eq_some] at h
  obtain ⟨t', ⟨t, ht, hr⟩, rfl⟩ := h
  exact ⟨t, t', ht, hr, rfl⟩

/-- A poll of a task whose lock is free, as the step function takes it. -/
theorem World.step_poll_of {t' : Task} {app : AppState} {obs : List Obs}
    {e : EmitResult} (hk : w.tasks[i]? = some t) (hfree : ∀ l, t.needs = some l → w.free l = true)
    (hp : t.poll w.app e = some (t', app, obs)) :
    w.step (.poll i e) = some ⟨app, w.tasks.set i t', w.log ++ obs⟩ := by
  have hall : t.needs.all w.free = true := by
    cases hn : t.needs with
    | none => rfl
    | some l => exact hfree l hn
  simp [World.step, hk, hall, hp]

/-- A lock no task holds stays unheld when a task is replaced by one that does not hold it. -/
theorem not_held_set {tasks : List Task} {l : Lock} {k : Nat} {t' : Task}
    (h : ∀ t ∈ tasks, l ∉ t.holds) (ht' : l ∉ t'.holds) : ∀ t ∈ tasks.set k t', l ∉ t.holds :=
  fun t ht => (List.mem_or_eq_of_mem_set ht).elim (h t) fun e => e ▸ ht'

/-- The same when a task is added. -/
theorem not_held_append {tasks : List Task} {l : Lock} {t' : Task}
    (h : ∀ t ∈ tasks, l ∉ t.holds) (ht' : l ∉ t'.holds) : ∀ t ∈ tasks ++ [t'], l ∉ t.holds :=
  fun t ht => (List.mem_append.mp ht).elim (h t) fun e => List.mem_singleton.mp e ▸ ht'

/-- A task is only ever changed by its own polls and items. -/
theorem World.step_other (ht : w.tasks[i]? = some t) (a : Act)
    (hi : ∀ e, a ≠ .poll i e) (hd : ∀ d, a ≠ .deliver i d) (h : w.step a = some w') :
    w'.tasks[i]? = some t := by
  cases a with
  | invoke c =>
    rw [World.step_invoke h, List.getElem?_append_left (List.getElem?_eq_some_iff.mp ht).1, ht]
  | poll j e =>
    obtain ⟨-, t', -, -, -, -, -, rfl⟩ := World.step_poll h
    have hji : j ≠ i := fun hji => hi e (by rw [hji])
    rwa [List.getElem?_set_ne hji]
  | deliver j d' =>
    obtain ⟨-, t', -, -, rfl⟩ := World.step_deliver h
    have hji : j ≠ i := fun hji => hd d' (by rw [hji])
    rwa [List.getElem?_set_ne hji]

end

/-! ## Locks are exclusive -/

theorem Command.start_holds (c : Command) : c.start.holds = [] := by
  cases c <;> rfl

theorem Task.receive_holds {t t' : Task} {d : Delivery} (h : t.receive d = some t') :
    t'.holds = [] := by
  rcases t with _ | _ | _ | _ | _ | _ | _ | _ | _ | _ | _ | _ | pc | pc | pc <;>
    rcases d with _ | _ | _ <;> simp only [Task.receive, reduceCtorEq] at h <;>
    obtain ⟨pc', -, rfl⟩ := Option.map_eq_some'.mp h <;> rfl

/-- A poll takes no lock but the one it waits for. -/
theorem Task.poll_holds {t t' : Task} {st st' : AppState} {emit : EmitResult} {obs : List Obs}
    (h : t.poll st emit = some (t', st', obs)) {l : Lock} (hl : l ∈ t'.holds) :
    l ∈ t.holds ∨ t.needs = some l := by
  cases t <;> rename_i pc <;> cases pc <;>
    simp only [Task.poll, GetSessions.poll, GetCurrentPermission.poll, RespondPermission.poll,
      GetBadgeCounts.poll, DiscoverAgents.poll, GetAgents.poll, SendPrompt.poll,
      SendFollowup.poll, CancelSession.poll, GetChatSessions.poll, GetActiveChatSession.poll,
      SetActiveChatSession.poll, PermissionSubscription.poll, AgentSubscription.poll,
      SessionSubscription.poll, Option.map_some', Option.map_none', reduceCtorEq] at h <;>
    (try split at h) <;>
    simp only [Option.some.injEq, Prod.mk.injEq, reduceCtorEq, Option.map_some'] at h <;>
    obtain ⟨rfl, -⟩ := h <;>
    -- a task holds two locks at most: the one this poll takes is the one it needed
    rcases hl with _ | ⟨_, _ | ⟨_, ⟨⟩⟩⟩ <;>
    first | exact .inr rfl | exact .inl (.head _)

theorem List.getElem?_set_eq_some {α : Type} {l : List α} {k j : Nat} {a b : α}
    (h : (l.set k a)[j]? = some b) : (j = k ∧ b = a) ∨ (j ≠ k ∧ l[j]? = some b) := by
  rw [List.getElem?_set] at h
  split_ifs at h with hk
  · exact .inl ⟨hk.symm, (Option.some.inj h).symm⟩
  · exact .inr ⟨Ne.symm hk, h⟩

theorem List.getElem?_concat_eq_some {α : Type} {l : List α} {j : Nat} {a b : α}
    (h : (l ++ [a])[j]? = some b) : l[j]? = some b ∨ (j = l.length ∧ b = a) := by
  by_cases hj : j < l.length
  · exact .inl (by rwa [List.getElem?_append_left hj] at h)
  · rw [List.getElem?_append_right (by omega)] at h
    rcases hk : j - l.length with _ | n <;> rw [hk] at h
    · exact .inr ⟨by omega, (Option.some.inj h).symm⟩
    · simp at h

/-- No two tasks hold one lock. -/
def Exclusive (tasks : List Task) : Prop :=
  ∀ (l : Lock) (i j : Nat) (ti tj : Task), tasks[i]? = some ti → tasks[j]? = some tj →
    l ∈ ti.holds → l ∈ tj.holds → i = j

/-- A task that takes only locks it holds or that no task holds keeps the locks exclusive. -/
theorem Exclusive.set {tasks : List Task} {k : Nat} {t t' : Task} (hx : Exclusive tasks)
    (ht : tasks[k]? = some t) (ht' : ∀ l ∈ t'.holds, l ∈ t.holds ∨ ∀ u ∈ tasks, l ∉ u.holds) :
    Exclusive (tasks.set k t') := by
  have side : ∀ j tj l, j ≠ k → tasks[j]? = some tj → l ∈ t'.holds → l ∈ tj.holds → k = j :=
    fun j tj l _ hj hl hlj => (ht' l hl).elim (fun hl => hx l k j t tj ht hj hl hlj)
      fun hfree => absurd hlj (hfree tj (List.getElem?_mem hj))
  intro l i j ti tj hi hj hli hlj
  rcases List.getElem?_set_eq_some hi with ⟨rfl, rfl⟩ | ⟨hik, hi'⟩ <;>
    rcases List.getElem?_set_eq_some hj with ⟨rfl, rfl⟩ | ⟨hjk, hj'⟩
  · rfl
  · exact side j tj l hjk hj' hli hlj
  · exact (side i ti l hik hi' hlj hli).symm
  · exact hx l i j ti tj hi' hj' hli hlj

theorem World.Exclusive_step {w w' : World} {a : Act} (hx : Exclusive w.tasks)
    (h : w.step a = some w') : Exclusive w'.tasks := by
  cases a with
  | invoke c =>
    rw [World.step_invoke h]
    intro l i j ti tj hi hj hli hlj
    rcases List.getElem?_concat_eq_some hi with hi | ⟨-, rfl⟩
    · rcases List.getElem?_concat_eq_some hj with hj | ⟨-, rfl⟩
      · exact hx l i j ti tj hi hj hli hlj
      · simp [Command.start_holds] at hlj
    · simp [Command.start_holds] at hli
  | poll k e =>
    obtain ⟨t, t', app, obs, ht, hfree, hp, rfl⟩ := World.step_poll h
    refine hx.set ht fun l hl => (Task.poll_holds hp hl).imp id fun hn => ?_
    exact World.free_iff.mp (hfree l hn)
  | deliver k d =>
    obtain ⟨t, t', ht, hr, rfl⟩ := World.step_deliver h
    exact hx.set ht fun l hl => by simp [Task.receive_holds hr] at hl

theorem World.init_exclusive : Exclusive World.init.tasks := by
  intro l i j ti tj hi _ hli _
  simp only [World.init, List.getElem?_cons, List.getElem?_nil] at hi
  split_ifs at hi <;> cases hi <;> simp [Task.holds] at hli

end agent_management
