-- Lock order. `get_sessions` (and `get_badge_counts`) lock `queues` then `active`, while
-- `get_current_permission` locks `active` then `queues`. Two such commands, each past its first
-- `lock().await`, wait for each other for ever: no later step of the app frees either. Every
-- other task takes the mutexes in one order (`queues`, `active`, `agents`, then
-- `active_chat_session`, `chat_sessions`), so every cycle of waiting tasks passes through
-- `get_current_permission`, and every other waiting task waits for one the app can poll.
import Notif.AgentManagement.Runtime

namespace agent_management

open Relation

/-! ## A deadlock stays -/

/-- Tasks `i` and `j` are `ti` and `tj`, each waits at a `lock().await` for a lock the other
holds, and neither is a subscription loop taking stream items. -/
structure Deadlock (tasks : List Task) (i j : Nat) (ti tj : Task) : Prop where
  ne : i ≠ j
  at_i : tasks[i]? = some ti
  at_j : tasks[j]? = some tj
  waits_i : ∃ l, ti.needs = some l ∧ l ∈ tj.holds
  waits_j : ∃ l, tj.needs = some l ∧ l ∈ ti.holds
  deaf_i : ∀ d, ti.receive d = none
  deaf_j : ∀ d, tj.receive d = none

section
variable {w w' : World} {i j : Nat} {ti tj : Task}

/-- A task waiting for a lock that another task holds cannot be polled. -/
theorem World.step_poll_blocked {t u : Task} {k m : Nat} {l : Lock} (hk : w.tasks[k]? = some t)
    (hm : w.tasks[m]? = some u) (hn : t.needs = some l) (hl : l ∈ u.holds) (e : EmitResult) :
    w.step (.poll k e) = none := by
  have hfree : w.free l = false := by
    simpa [World.free] using ⟨u, List.getElem?_mem hm, hl⟩
  simp [World.step, hk, hn, hfree]

theorem Deadlock.symm (hd : Deadlock w.tasks i j ti tj) : Deadlock w.tasks j i tj ti :=
  ⟨hd.ne.symm, hd.at_j, hd.at_i, hd.waits_j, hd.waits_i, hd.deaf_j, hd.deaf_i⟩

theorem Deadlock.poll_none (hd : Deadlock w.tasks i j ti tj) (e : EmitResult) :
    w.step (.poll i e) = none := by
  obtain ⟨l, hn, hl⟩ := hd.waits_i
  exact World.step_poll_blocked hd.at_i hd.at_j hn hl e

theorem Deadlock.deliver_none (hd : Deadlock w.tasks i j ti tj) (d : Delivery) :
    w.step (.deliver i d) = none := by
  simp [World.step, hd.at_i, hd.deaf_i d]

/-- The task at `i` of a deadlock is left where it is by every step. -/
theorem Deadlock.stays (hd : Deadlock w.tasks i j ti tj) {a : Act} (h : w.step a = some w') :
    w'.tasks[i]? = some ti :=
  World.step_other hd.at_i a (fun e he => by rw [he, hd.poll_none e] at h; cases h)
    (fun d hd' => by rw [hd', hd.deliver_none d] at h; cases h) h

theorem Deadlock.step (hd : Deadlock w.tasks i j ti tj) {a : Act} (h : w.step a = some w') :
    Deadlock w'.tasks i j ti tj :=
  ⟨hd.ne, hd.stays h, hd.symm.stays h, hd.waits_i, hd.waits_j, hd.deaf_i, hd.deaf_j⟩

/-- No run out of a deadlock frees it. -/
theorem Deadlock.run (hd : Deadlock w.tasks i j ti tj) (acts : List Act)
    (h : w.run acts = some w') : Deadlock w'.tasks i j ti tj :=
  World.run_induction (fun w => Deadlock w.tasks i j ti tj) (fun _ _ _ hd hs => hd.step hs)
    acts hd h

end

/-! ## Two commands that lock in opposite orders -/

/-- The two commands, invoked on a state where neither lock is held and the session has no
active request, each take their first lock. -/
theorem queues_then_active_meets_active_then_queues (w : World) (session_id : String)
    (hq : w.free .queues = true) (ha : w.free .active = true)
    (hs : w.app.active.lookup session_id = none) :
    ∃ w', w.run [.invoke .get_sessions, .invoke (.get_current_permission session_id),
        .poll w.tasks.length (.ok ()), .poll (w.tasks.length + 1) (.ok ())] = some w' ∧
      Deadlock w'.tasks w.tasks.length (w.tasks.length + 1) (.get_sessions .queues_locked)
        (.get_current_permission session_id .active_locked) := by
  set n := w.tasks.length
  let gs : Task := .get_sessions .start
  let gcp : Task := .get_current_permission session_id .start
  have h₂ : w.run [.invoke .get_sessions, .invoke (.get_current_permission session_id)] =
      some ⟨w.app, w.tasks ++ [gs] ++ [gcp], w.log⟩ := rfl
  have hq : ∀ t ∈ w.tasks ++ [gs] ++ [gcp], Lock.queues ∉ t.holds :=
    not_held_append (not_held_append (World.free_iff.mp hq) (by simp [gs, Task.holds]))
      (by simp [gcp, Task.holds])
  have h₃ : World.step ⟨w.app, w.tasks ++ [gs] ++ [gcp], w.log⟩ (.poll n (.ok ())) =
      some ⟨w.app, (w.tasks ++ [gs] ++ [gcp]).set n (.get_sessions .queues_locked), w.log ++ []⟩ :=
    have hk : (w.tasks ++ [gs] ++ [gcp])[n]? = some gs := by
      rw [List.append_assoc, List.getElem?_append_right (le_refl _), Nat.sub_self]; rfl
    World.step_poll_of hk (fun l hl => by cases hl; exact World.free_iff.mpr hq) rfl
  have ha : ∀ t ∈ (w.tasks ++ [gs] ++ [gcp]).set n (.get_sessions .queues_locked),
      Lock.active ∉ t.holds :=
    not_held_set (not_held_append (not_held_append (World.free_iff.mp ha)
      (by simp [gs, Task.holds])) (by simp [gcp, Task.holds])) (by simp [Task.holds])
  have h₄ : World.step ⟨w.app, (w.tasks ++ [gs] ++ [gcp]).set n (.get_sessions .queues_locked),
      w.log ++ []⟩ (.poll (n + 1) (.ok ())) =
      some ⟨w.app, ((w.tasks ++ [gs] ++ [gcp]).set n (.get_sessions .queues_locked)).set (n + 1)
        (.get_current_permission session_id .active_locked), w.log ++ [] ++ []⟩ := by
    have hk : ((w.tasks ++ [gs] ++ [gcp]).set n (.get_sessions .queues_locked))[n + 1]? =
        some gcp := by
      rw [List.getElem?_set_ne (by omega), List.append_assoc,
        List.getElem?_append_right (by omega), Nat.add_sub_cancel_left]; rfl
    exact World.step_poll_of hk (fun l hl => by cases hl; exact World.free_iff.mpr ha)
      (by simp [gcp, Task.poll, GetCurrentPermission.poll, hs])
  have hrun := World.run_append w [.invoke .get_sessions,
    .invoke (.get_current_permission session_id)] [.poll n (.ok ()), .poll (n + 1) (.ok ())]
  rw [h₂, Option.some_bind, World.run, h₃, Option.some_bind, World.run, h₄] at hrun
  refine ⟨_, hrun,
    ⟨by omega, ?_, ?_, ⟨.active, rfl, by simp [Task.holds]⟩, ⟨.queues, rfl, by simp [Task.holds]⟩,
      fun d => by cases d <;> rfl, fun d => by cases d <;> rfl⟩⟩
  · rw [List.getElem?_set_ne (by omega), List.getElem?_set_self (by simp [n])]
  · rw [List.getElem?_set_self (by simp [n])]

/-- From any state where neither `queues` nor `active` is held and the session has no active
request, the front end invoking `get_sessions` and `get_current_permission` and each being
polled once leaves them waiting for each other; after that, whatever the app does, neither is
ever polled again. -/
theorem get_sessions_and_get_current_permission_wait_forever (w : World) (session_id : String)
    (hq : w.free .queues = true) (ha : w.free .active = true)
    (hs : w.app.active.lookup session_id = none) :
    ∃ w', w.run [.invoke .get_sessions, .invoke (.get_current_permission session_id),
        .poll w.tasks.length (.ok ()), .poll (w.tasks.length + 1) (.ok ())] = some w' ∧
      ∀ acts w'', w'.run acts = some w'' →
        w''.tasks[w.tasks.length]? = some (.get_sessions .queues_locked) ∧
        w''.tasks[w.tasks.length + 1]? = some (.get_current_permission session_id .active_locked) ∧
        ∀ e, w''.step (.poll w.tasks.length e) = none ∧
          w''.step (.poll (w.tasks.length + 1) e) = none := by
  obtain ⟨w', hrun, hd⟩ := queues_then_active_meets_active_then_queues w session_id hq ha hs
  refine ⟨w', hrun, fun acts w'' h => ?_⟩
  have hd' := hd.run acts h
  exact ⟨hd'.at_i, hd'.at_j, fun e => ⟨hd'.poll_none e, hd'.symm.poll_none e⟩⟩

theorem get_sessions_and_get_current_permission_wait_forever_from_the_start :
    ∃ w', World.init.run [.invoke .get_sessions, .invoke (.get_current_permission "default"),
        .poll 3 (.ok ()), .poll 4 (.ok ())] = some w' ∧
      ∀ acts w'', w'.run acts = some w'' →
        w''.tasks[3]? = some (.get_sessions .queues_locked) ∧
        w''.tasks[4]? = some (.get_current_permission "default" .active_locked) ∧
        ∀ e, w''.step (.poll 3 e) = none ∧ w''.step (.poll 4 e) = none :=
  get_sessions_and_get_current_permission_wait_forever World.init "default" rfl rfl rfl

/-! ## One order for every other task -/

/-- The order in which the tasks take the mutexes, all but `get_current_permission`. -/
def Lock.rank : Lock → Nat
  | .queues => 0
  | .active => 1
  | .agents => 2
  | .active_chat_session => 3
  | .chat_sessions => 4

/-- A task that holds a lock waits for a lock of higher rank, unless it is
`get_current_permission` holding `active` (it then waits for `queues`). -/
theorem Task.holds_rank_lt {t : Task} {l : Lock} (hl : l ∈ t.holds) :
    (∃ s, t = .get_current_permission s .active_locked) ∨
      ∃ l', t.needs = some l' ∧ l.rank < l'.rank := by
  unfold Task.holds at hl
  split at hl <;> simp only [List.mem_cons, List.mem_singleton, List.not_mem_nil, or_false] at hl
  all_goals first
    | exact .inl ⟨_, rfl⟩
    | (rcases hl with rfl | rfl <;> exact .inr ⟨_, rfl, by decide⟩)

/-- Only `get_sessions` and `get_badge_counts` hold `queues` across an await. -/
theorem Task.holds_queues {t : Task} (hl : Lock.queues ∈ t.holds) :
    t = .get_sessions .queues_locked ∨ t = .get_badge_counts .queues_locked ∨
      t = .get_badge_counts .active_locked := by
  unfold Task.holds at hl
  split at hl <;> simp_all

/-- A task that holds a lock is at a `lock().await`, and a poll that finds its lock free always
goes on. -/
theorem Task.poll_of_holds {t : Task} {l : Lock} (hl : l ∈ t.holds) (st : AppState)
    (e : EmitResult) : ∃ r, t.poll st e = some r := by
  unfold Task.holds at hl
  split at hl
  all_goals first
    | exact absurd hl (List.not_mem_nil _)
    | simp only [Task.poll, GetSessions.poll, GetCurrentPermission.poll, GetBadgeCounts.poll,
        GetActiveChatSession.poll, Option.map_some']
      try split
      all_goals exact ⟨_, rfl⟩

/-- Task `i` waits at a `lock().await` for a lock that task `j` holds. -/
def WaitsFor (tasks : List Task) (i j : Nat) : Prop :=
  ∃ ti tj l, tasks[i]? = some ti ∧ tasks[j]? = some tj ∧ ti.needs = some l ∧ l ∈ tj.holds

/-- The rank of the lock task `i` waits for (0 when it waits for none). -/
def needRank (tasks : List Task) (i : Nat) : Nat :=
  ((tasks[i]?.bind Task.needs).map Lock.rank).getD 0

section
variable {tasks : List Task} {i j : Nat}

/-- Waiting for a task raises the rank, unless that task is `get_current_permission` holding
`active`. -/
theorem WaitsFor.rank_lt (h : WaitsFor tasks i j) :
    (∃ s, tasks[j]? = some (.get_current_permission s .active_locked)) ∨
      needRank tasks i < needRank tasks j := by
  obtain ⟨ti, tj, l, hi, hj, hn, hl⟩ := h
  rcases Task.holds_rank_lt hl with ⟨s, rfl⟩ | ⟨l', hn', hlt⟩
  · exact .inl ⟨s, hj⟩
  · exact .inr (by simpa [needRank, hi, hj, hn, hn'] using hlt)

/-- Along a chain of waiting tasks the rank rises, or the chain passes through
`get_current_permission` holding `active`. -/
theorem WaitsFor.path (h : TransGen (WaitsFor tasks) i j) :
    needRank tasks i < needRank tasks j ∨
      ∃ k s, tasks[k]? = some (.get_current_permission s .active_locked) ∧
        TransGen (WaitsFor tasks) i k ∧ ReflTransGen (WaitsFor tasks) k j := by
  induction h with
  | single hij =>
    exact (WaitsFor.rank_lt hij).elim (fun ⟨s, hs⟩ => .inr ⟨_, s, hs, .single hij, .refl⟩) .inl
  | tail hib hbc ih =>
    rcases WaitsFor.rank_lt hbc with ⟨s, hs⟩ | hlt
    · exact .inr ⟨_, s, hs, hib.tail hbc, .refl⟩
    · rcases ih with h | ⟨k, s, hk, hik, hkb⟩
      · exact .inl (h.trans hlt)
      · exact .inr ⟨k, s, hk, hik, hkb.tail hbc⟩

end

/-- Whatever tasks the app runs, every cycle of tasks each waiting at a `lock().await` for a
lock the next one holds passes from a `get_current_permission` holding `active` to a
`get_sessions` or `get_badge_counts` holding `queues`: the deadlock of the two opposite orders
is the only one the locks allow. -/
theorem lock_cycles_pass_through_get_current_permission {tasks : List Task} {i : Nat}
    (h : TransGen (WaitsFor tasks) i i) :
    ∃ k j s, tasks[k]? = some (.get_current_permission s .active_locked) ∧ WaitsFor tasks k j ∧
      (tasks[j]? = some (.get_sessions .queues_locked) ∨
        tasks[j]? = some (.get_badge_counts .queues_locked) ∨
        tasks[j]? = some (.get_badge_counts .active_locked)) ∧
      TransGen (WaitsFor tasks) i k ∧ ReflTransGen (WaitsFor tasks) j i := by
  rcases WaitsFor.path h with hlt | ⟨k, s, hk, hik, hki⟩
  · exact absurd hlt (lt_irrefl _)
  -- the cycle leaves `k` for a task holding the `queues` that `k` waits for
  obtain ⟨j, hkj, hjk⟩ := TransGen.head'_iff.mp (TransGen.trans_right hki hik)
  obtain ⟨tk, tj, l, hk', hj, hn, hl⟩ := hkj
  cases hk.symm.trans hk'
  cases hn
  refine ⟨k, j, s, hk, ⟨_, tj, _, hk, hj, rfl, hl⟩, ?_, hik, hjk.trans hki⟩
  rcases Task.holds_queues hl with rfl | rfl | rfl <;> simp [hj]

/-- `get_sessions` holding `queues` and `get_current_permission` holding `active` wait for each
other. -/
theorem get_sessions_and_get_current_permission_close_a_cycle :
    TransGen (WaitsFor [.get_sessions .queues_locked,
        .get_current_permission "default" .active_locked]) 0 0 ∧
      ∃ k j s, [Task.get_sessions .queues_locked,
          .get_current_permission "default" .active_locked][k]? =
          some (.get_current_permission s .active_locked) ∧
        WaitsFor [.get_sessions .queues_locked,
          .get_current_permission "default" .active_locked] k j ∧
        ([Task.get_sessions .queues_locked,
            .get_current_permission "default" .active_locked][j]? =
            some (.get_sessions .queues_locked) ∨
          [Task.get_sessions .queues_locked,
            .get_current_permission "default" .active_locked][j]? =
            some (.get_badge_counts .queues_locked) ∨
          [Task.get_sessions .queues_locked,
            .get_current_permission "default" .active_locked][j]? =
            some (.get_badge_counts .active_locked)) ∧
        TransGen (WaitsFor [.get_sessions .queues_locked,
          .get_current_permission "default" .active_locked]) 0 k ∧
        ReflTransGen (WaitsFor [.get_sessions .queues_locked,
          .get_current_permission "default" .active_locked]) j 0 :=
  have h : TransGen (WaitsFor [.get_sessions .queues_locked,
      .get_current_permission "default" .active_locked]) 0 0 :=
    @TransGen.tail _ _ 0 1 0 (.single ⟨_, _, .active, rfl, rfl, rfl, .head _⟩)
      ⟨_, _, .queues, rfl, rfl, rfl, .head _⟩
  ⟨h, lock_cycles_pass_through_get_current_permission h⟩

/-- In every state of the app, a task waiting for a lock that another task holds waits, through
a chain of lock holders, for a task the app can poll at once, or for a `get_current_permission`
holding `active`. -/
theorem blocked_tasks_wait_for_a_task_that_can_run {w : World} {i : Nat} {t : Task} {l : Lock}
    (ht : w.tasks[i]? = some t) (hn : t.needs = some l) (hl : w.free l = false) :
    ∃ k, TransGen (WaitsFor w.tasks) i k ∧
      ((∀ e, ∃ w', w.step (.poll k e) = some w') ∨
        ∃ s, w.tasks[k]? = some (.get_current_permission s .active_locked)) := by
  obtain ⟨tj, htj, hlj⟩ : ∃ tj ∈ w.tasks, l ∈ tj.holds := by simpa [World.free] using hl
  obtain ⟨j, hj⟩ := List.getElem?_of_mem htj
  have hij : WaitsFor w.tasks i j := ⟨t, tj, l, ht, hj, hn, hlj⟩
  rcases Task.holds_rank_lt hlj with ⟨s, rfl⟩ | ⟨l', hn', hlt⟩
  · exact ⟨j, .single hij, .inr ⟨s, hj⟩⟩
  cases hf : w.free l'
  · -- the holder waits in turn, for a lock of higher rank
    obtain ⟨k, hjk, hk⟩ := blocked_tasks_wait_for_a_task_that_can_run hj hn' hf
    exact ⟨k, .head hij hjk, hk⟩
  · refine ⟨j, .single hij, .inl fun e => ?_⟩
    obtain ⟨⟨t', app, obs⟩, hp⟩ := Task.poll_of_holds hlj w.app e
    exact ⟨_, World.step_poll_of hj (fun l hl => by cases hn'.symm.trans hl; exact hf) hp⟩
termination_by 5 - l.rank
decreasing_by
  have : l'.rank ≤ 4 := by cases l' <;> decide
  omega

/-- `get_badge_counts` waits for the `queues` that `get_sessions` holds, and `get_sessions` can
take `active` at once. -/
theorem get_badge_counts_waits_for_get_sessions :
    [Task.get_sessions .queues_locked, .get_badge_counts .start][1]? =
        some (.get_badge_counts .start) ∧
      Task.needs (.get_badge_counts .start) = some .queues ∧
      World.free ⟨AppState.new, [.get_sessions .queues_locked, .get_badge_counts .start], []⟩
        .queues = false ∧
      ∃ k, TransGen (WaitsFor [.get_sessions .queues_locked, .get_badge_counts .start]) 1 k ∧
        ((∀ e, ∃ w', World.step ⟨AppState.new, [.get_sessions .queues_locked,
            .get_badge_counts .start], []⟩ (.poll k e) = some w') ∨
          ∃ s, [Task.get_sessions .queues_locked, .get_badge_counts .start][k]? =
            some (.get_current_permission s .active_locked)) :=
  ⟨rfl, rfl, rfl, blocked_tasks_wait_for_a_task_that_can_run
    (w := ⟨AppState.new, [.get_sessions .queues_locked, .get_badge_counts .start], []⟩)
    rfl rfl rfl⟩

end agent_management
