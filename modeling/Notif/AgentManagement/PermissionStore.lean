-- The permission store. Under every interleaving of the permission subscription with
-- `get_current_permission` and `respond_permission`, a session's requests pass from its queue to
-- `active` one at a time in arrival order and none is lost or duplicated by the store, and
-- every request in it is filed under its own session with an id. But `respond_permission` emits a
-- response whether or not it removed a request, and removes the request before the emit that may
-- fail.
import Notif.AgentManagement.Runtime

namespace agent_management

/-! ## What a run records of the store -/

/-- The records that concern the permission store. -/
def Obs.isStore : Obs → Bool
  | .enqueued _ _ | .activated _ _ | .removed _ _ => true
  | _ => false

/-- The requests pushed on the session's queue, in order. -/
def enqueuedFor (s : String) (log : List Obs) : List PermissionRequest :=
  log.filterMap fun
    | .enqueued s' r => if s' = s then some r else none
    | _ => none

/-- The requests made active for the session, in order. -/
def activatedFor (s : String) (log : List Obs) : List PermissionRequest :=
  log.filterMap fun
    | .activated s' r => if s' = s then some r else none
    | _ => none

/-- The requests `respond_permission` removed from the session's entry of `active`, in order. -/
def removedFor (s : String) (log : List Obs) : List PermissionRequest :=
  log.filterMap fun
    | .removed s' r => if s' = s then some r else none
    | _ => none

/-- What a poll does to the permission store: nothing, or one of three changes. -/
theorem Task.poll_store {t t' : Task} {st st' : AppState} {e : EmitResult} {obs : List Obs}
    (h : t.poll st e = some (t', st', obs)) :
    (st'.queues = st.queues ∧ st'.active = st.active ∧ (∀ o ∈ obs, o.isStore = false) ∧
      ∀ s, t' = .get_current_permission s .active_locked → st.active.lookup s = none) ∨
    (∃ s r rest, t = .get_current_permission s .active_locked ∧
      st.queues.lookup s = some (r :: rest) ∧ st'.queues = st.queues.insert s rest ∧
      st'.active = st.active.insert s r ∧ obs = [.activated s r] ∧
      t' = .get_current_permission s (.done (some r))) ∨
    (∃ s d m, t = .respond_permission s d m .start ∧ st'.queues = st.queues ∧
      st'.active = st.active.erase s ∧ obs = (st.active.lookup s).toList.map (.removed s) ∧
      t' = .respond_permission s d m .emitting) ∨
    (∃ s r, t = .permission_subscription (.queues_locking s r) ∧
      st'.queues = st.queues.insert s ((st.queues.lookup s).getD [] ++ [r]) ∧
      st'.active = st.active ∧ obs = [.enqueued s r] ∧ t' = .permission_subscription .waiting) := by
  cases t <;> rename_i pc <;> cases pc <;>
    simp only [Task.poll, GetSessions.poll, GetCurrentPermission.poll, RespondPermission.poll,
      GetBadgeCounts.poll, DiscoverAgents.poll, GetAgents.poll, SendPrompt.poll,
      SendFollowup.poll, CancelSession.poll, GetChatSessions.poll, GetActiveChatSession.poll,
      SetActiveChatSession.poll, PermissionSubscription.poll, AgentSubscription.poll,
      SessionSubscription.poll, Option.map_some', Option.map_none', reduceCtorEq] at h <;>
    (try split at h) <;>
    simp only [Option.some.injEq, Prod.mk.injEq, reduceCtorEq, Option.map_some'] at h <;>
    obtain ⟨rfl, rfl, rfl⟩ := h <;> (try split) <;>
    first
    | exact .inl ⟨rfl, rfl, by simp only [List.forall_mem_cons, List.not_mem_nil, false_implies,
        implies_true, Obs.isStore, and_self], fun _ h => by cases h <;> assumption⟩
    | exact .inr (.inl ⟨_, _, _, rfl, by assumption, rfl, rfl, rfl, rfl⟩)
    | exact .inr (.inr (.inl ⟨_, _, _, rfl, rfl, rfl, rfl, rfl⟩))
    | exact .inr (.inr (.inr ⟨_, _, rfl, rfl, rfl, rfl, rfl⟩))

section
variable (s : String)

@[simp] theorem enqueuedFor_append (l₁ l₂ : List Obs) :
    enqueuedFor s (l₁ ++ l₂) = enqueuedFor s l₁ ++ enqueuedFor s l₂ := List.filterMap_append ..

@[simp] theorem activatedFor_append (l₁ l₂ : List Obs) :
    activatedFor s (l₁ ++ l₂) = activatedFor s l₁ ++ activatedFor s l₂ := List.filterMap_append ..

@[simp] theorem removedFor_append (l₁ l₂ : List Obs) :
    removedFor s (l₁ ++ l₂) = removedFor s l₁ ++ removedFor s l₂ := List.filterMap_append ..

theorem storeFor_of_not_store {obs : List Obs} (h : ∀ o ∈ obs, o.isStore = false) :
    enqueuedFor s obs = [] ∧ activatedFor s obs = [] ∧ removedFor s obs = [] := by
  refine ⟨?_, ?_, ?_⟩ <;> refine List.filterMap_eq_nil_iff.mpr fun o ho => ?_ <;>
    have := h o ho <;> cases o <;> first | rfl | cases this

@[simp] theorem enqueuedFor_enqueued (s' : String) (r : PermissionRequest) :
    enqueuedFor s [.enqueued s' r] = if s' = s then [r] else [] := by
  simp only [enqueuedFor, List.filterMap_cons, List.filterMap_nil]
  split_ifs <;> rfl

@[simp] theorem activatedFor_activated (s' : String) (r : PermissionRequest) :
    activatedFor s [.activated s' r] = if s' = s then [r] else [] := by
  simp only [activatedFor, List.filterMap_cons, List.filterMap_nil]
  split_ifs <;> rfl

@[simp] theorem removedFor_removed (s' : String) (r : Option PermissionRequest) :
    removedFor s (r.toList.map (.removed s')) = if s' = s then r.toList else [] := by
  cases r <;> simp only [removedFor, Option.toList, List.map, List.filterMap_cons,
    List.filterMap_nil] <;> split_ifs <;> rfl

/-! Each kind of record is invisible to the other two lists. -/

@[simp] theorem enqueuedFor_activated (s' : String) (r : PermissionRequest) :
    enqueuedFor s [.activated s' r] = [] := rfl
@[simp] theorem removedFor_activated (s' : String) (r : PermissionRequest) :
    removedFor s [.activated s' r] = [] := rfl
@[simp] theorem activatedFor_enqueued (s' : String) (r : PermissionRequest) :
    activatedFor s [.enqueued s' r] = [] := rfl
@[simp] theorem removedFor_enqueued (s' : String) (r : PermissionRequest) :
    removedFor s [.enqueued s' r] = [] := rfl
@[simp] theorem enqueuedFor_removed (s' : String) (r : Option PermissionRequest) :
    enqueuedFor s (r.toList.map (.removed s')) = [] := by cases r <;> rfl
@[simp] theorem activatedFor_removed (s' : String) (r : Option PermissionRequest) :
    activatedFor s (r.toList.map (.removed s')) = [] := by cases r <;> rfl

end

/-! ## The store's invariant -/

/-- The invariant of the permission store: the locks are exclusive; a `get_current_permission`
waiting for `queues` found no active request for its session, and there is still none; the
requests made active for a session are those removed from `active`, then the one in it; and the
requests enqueued for it are those made active, then its queue. -/
structure Store (w : World) : Prop where
  exclusive : Exclusive w.tasks
  waiting : ∀ (i : Nat) (s : String), w.tasks[i]? = some (.get_current_permission s .active_locked) →
    w.app.active.lookup s = none
  activated : ∀ s, activatedFor s w.log = removedFor s w.log ++ (w.app.active.lookup s).toList
  enqueued : ∀ s, enqueuedFor s w.log = activatedFor s w.log ++ (w.app.queues.lookup s).getD []

theorem Store.init : Store World.init := by
  refine ⟨World.init_exclusive, fun i s hi => ?_, fun s => rfl, fun s => rfl⟩
  simp only [World.init, List.getElem?_cons, List.getElem?_nil] at hi
  split_ifs at hi <;> cases hi

/-- A task that holds `active` is the only one. -/
theorem Store.holder_unique {w : World} (hs : Store w) {i j : Nat} {s s' : String}
    (hi : w.tasks[i]? = some (.get_current_permission s .active_locked))
    (hj : w.tasks[j]? = some (.get_current_permission s' .active_locked)) : i = j :=
  hs.exclusive .active i j _ _ hi hj (by simp [Task.holds]) (by simp [Task.holds])

theorem Store.poll {w : World} {k : Nat} {t t' : Task} {app : AppState} {obs : List Obs}
    {e : EmitResult} (hs : Store w) (ht : w.tasks[k]? = some t)
    (hfree : ∀ l, t.needs = some l → w.free l = true) (hp : t.poll w.app e = some (t', app, obs))
    (hx : Exclusive (w.tasks.set k t')) : Store ⟨app, w.tasks.set k t', w.log ++ obs⟩ := by
  rcases Task.poll_store hp with ⟨hq, ha, hobs, ht'⟩ | ⟨s, r, rest, rfl, hqs, hq, ha, rfl, rfl⟩ |
    ⟨s, d, m, rfl, hq, ha, rfl, rfl⟩ | ⟨s, r, rfl, hq, ha, rfl, rfl⟩
  · -- A poll that leaves the store alone.
    refine ⟨hx, fun i s hi => ?_, fun s => ?_, fun s => ?_⟩
    · rcases List.getElem?_set_eq_some hi with ⟨rfl, rfl⟩ | ⟨-, hi⟩
      · rw [ha]; exact ht' s rfl
      · rw [ha]; exact hs.waiting i s hi
    · obtain ⟨-, h₁, h₂⟩ := storeFor_of_not_store s hobs
      simp [h₁, h₂, ha, hs.activated s]
    · obtain ⟨h₀, h₁, -⟩ := storeFor_of_not_store s hobs
      simp [h₀, h₁, hq, hs.enqueued s]
  · -- `get_current_permission` makes the front of the queue active.
    have hnone := hs.waiting k s ht
    refine ⟨hx, fun i s' hi => ?_, fun s' => ?_, fun s' => ?_⟩
    · rcases List.getElem?_set_eq_some hi with ⟨-, hc⟩ | ⟨hik, hi⟩
      · cases hc
      · exact absurd (hs.holder_unique hi ht) hik
    · by_cases hs' : s = s'
      · subst hs'
        simp [ha, hs.activated s, hnone, AList.lookup_insert]
      · simp [ha, hs.activated s', hs', AList.lookup_insert_ne (Ne.symm hs')]
    · by_cases hs' : s = s'
      · subst hs'
        simp [hq, hs.enqueued s, hqs, AList.lookup_insert]
      · simp [hq, hs.enqueued s', hs', AList.lookup_insert_ne (Ne.symm hs')]
  · -- `respond_permission` removes the session's active request.
    have hfree' := World.free_iff.mp (hfree .active rfl)
    refine ⟨hx, fun i s' hi => ?_, fun s' => ?_, fun s' => ?_⟩
    · rcases List.getElem?_set_eq_some hi with ⟨-, hc⟩ | ⟨-, hi⟩
      · cases hc
      · exact absurd (by simp [Task.holds]) (hfree' _ (List.getElem?_mem hi))
    · by_cases hs' : s = s'
      · subst hs'
        simp [ha, hs.activated s, AList.lookup_erase]
      · simp [ha, hs.activated s', hs', AList.lookup_erase_ne (Ne.symm hs')]
    · simp [hq, hs.enqueued s']
  · -- The subscription pushes a request on its session's queue.
    refine ⟨hx, fun i s' hi => ?_, fun s' => ?_, fun s' => ?_⟩
    · rcases List.getElem?_set_eq_some hi with ⟨-, hc⟩ | ⟨-, hi⟩
      · cases hc
      · rw [ha]; exact hs.waiting i s' hi
    · simp [ha, hs.activated s']
    · by_cases hs' : s = s'
      · subst hs'
        simp [hq, hs.enqueued s, AList.lookup_insert]
      · simp [hq, hs.enqueued s', hs', AList.lookup_insert_ne (Ne.symm hs')]

theorem Store.step {w w' : World} {a : Act} (hs : Store w) (h : w.step a = some w') : Store w' := by
  have hx := World.Exclusive_step hs.exclusive h
  cases a with
  | invoke c =>
    obtain rfl := World.step_invoke h
    refine ⟨hx, fun i s hi => ?_, hs.activated, hs.enqueued⟩
    rcases List.getElem?_concat_eq_some hi with hi | ⟨-, hc⟩
    · exact hs.waiting i s hi
    · have := Command.start_holds c
      rw [← hc] at this
      cases this
  | poll k e =>
    obtain ⟨t, t', app, obs, ht, hfree, hp, rfl⟩ := World.step_poll h
    exact hs.poll ht hfree hp hx
  | deliver k d =>
    obtain ⟨t, t', ht, hr, rfl⟩ := World.step_deliver h
    refine ⟨hx, fun i s hi => ?_, hs.activated, hs.enqueued⟩
    rcases List.getElem?_set_eq_some hi with ⟨-, rfl⟩ | ⟨-, hi⟩
    · cases Task.receive_holds hr
    · exact hs.waiting i s hi

theorem Store.run {acts : List Act} {w : World} (h : World.init.run acts = some w) : Store w :=
  World.run_induction Store (fun _ _ _ hs h => hs.step h) acts Store.init h

/-! ## Arrival order -/

/-- Under every run of the app and for every session, the requests enqueued, in arrival order,
are those `respond_permission` removed from `active`, then the active one, then the queue from
front to back; and the requests made active are those removed, then the active one. -/
theorem requests_leave_the_store_in_arrival_order {acts : List Act} {w : World}
    (h : World.init.run acts = some w) (s : String) :
    enqueuedFor s w.log =
        removedFor s w.log ++ (w.app.active.lookup s).toList ++ (w.app.queues.lookup s).getD [] ∧
      activatedFor s w.log = removedFor s w.log ++ (w.app.active.lookup s).toList := by
  have hs := Store.run h
  exact ⟨by rw [hs.enqueued s, hs.activated s], hs.activated s⟩

/-- One request arrives for `s1` without an id; it is filed under the event's id and made
active, and the store's two equations hold of it. -/
theorem one_request_made_active :
    ∃ w, World.init.run [.deliver 0 (.permission "ev1" (.ok ⟨none, some "s1", none⟩)),
        .poll 0 (.ok ()), .invoke (.get_current_permission "s1"), .poll 3 (.ok ()),
        .poll 3 (.ok ())] = some w ∧
      w.app.active.lookup "s1" = some ⟨some "ev1", some "s1", none⟩ ∧
      (enqueuedFor "s1" w.log =
        removedFor "s1" w.log ++ (w.app.active.lookup "s1").toList ++
          (w.app.queues.lookup "s1").getD [] ∧
      activatedFor "s1" w.log = removedFor "s1" w.log ++ (w.app.active.lookup "s1").toList) := by
  obtain ⟨w, hw, hactive⟩ : ∃ w, World.init.run [.deliver 0 (.permission "ev1"
      (.ok ⟨none, some "s1", none⟩)), .poll 0 (.ok ()), .invoke (.get_current_permission "s1"),
      .poll 3 (.ok ()), .poll 3 (.ok ())] = some w ∧
      w.app.active.lookup "s1" = some ⟨some "ev1", some "s1", none⟩ := ⟨_, rfl, rfl⟩
  exact ⟨w, hw, hactive, requests_leave_the_store_in_arrival_order hw "s1"⟩

/-! ## Where requests are filed -/

/-- The request is filed under `s`: it names `s`, or names no session and `s` is `"default"`,
and it has an id. -/
def Filed (s : String) (r : PermissionRequest) : Prop :=
  r.session_id.getD "default" = s ∧ r.id.isSome

instance (s : String) (r : PermissionRequest) : Decidable (Filed s r) :=
  inferInstanceAs (Decidable (_ ∧ _))

/-- The loop files a decoded request under the session it names, or `"default"`, and gives it
the event's id when it has none. -/
theorem PermissionSubscription.receive_filed {pc : PermissionSubscription} {event_id : String}
    {decoded : Except serde_json.Error PermissionRequest} {s : String} {r : PermissionRequest}
    (h : pc.receive event_id decoded = some (.queues_locking s r)) : Filed s r := by
  cases pc with
  | queues_locking => cases h
  | waiting =>
    cases decoded with
    | error => cases h
    | ok request =>
      simp only [PermissionSubscription.receive, Option.some.injEq,
        PermissionSubscription.queues_locking.injEq] at h
      obtain ⟨rfl, rfl⟩ := h
      split_ifs with hid
      · exact ⟨rfl, rfl⟩
      · exact ⟨rfl, Option.isSome_iff_ne_none.mpr (by simpa using hid)⟩

theorem Task.receive_filed {t : Task} {d : Delivery} {s : String} {r : PermissionRequest}
    (h : t.receive d = some (.permission_subscription (.queues_locking s r))) : Filed s r := by
  cases t <;> cases d <;> simp only [Task.receive, Option.map_eq_some', reduceCtorEq, and_false,
    exists_false, Task.permission_subscription.injEq, exists_eq_right] at h
  exact PermissionSubscription.receive_filed h

/-- No poll leaves the subscription about to push: its push takes it back to its stream. -/
theorem Task.poll_ne_queues_locking {t t' : Task} {st st' : AppState} {e : EmitResult}
    {obs : List Obs} (h : t.poll st e = some (t', st', obs)) (s : String) (r : PermissionRequest) :
    t' ≠ .permission_subscription (.queues_locking s r) := by
  rintro rfl
  cases t with
  | permission_subscription pc =>
    cases pc <;> simp [Task.poll, PermissionSubscription.poll] at h
  | _ => simp only [Task.poll, Option.map_eq_some', Prod.mk.injEq, reduceCtorEq, false_and,
      and_false, exists_false] at h

/-- Every request in a session's queue or entry of `active`, and every request the subscription
is about to push, is filed under that session. -/
structure Filing (w : World) : Prop where
  queued : ∀ s q, w.app.queues.lookup s = some q → ∀ r ∈ q, Filed s r
  active : ∀ s r, w.app.active.lookup s = some r → Filed s r
  pending : ∀ s r, Task.permission_subscription (.queues_locking s r) ∈ w.tasks → Filed s r

/-- The queue of a session, empty when it has none, holds requests filed under it. -/
theorem Filing.queue {w : World} (hf : Filing w) (s : String) :
    ∀ r ∈ (w.app.queues.lookup s).getD [], Filed s r := by
  cases h : w.app.queues.lookup s with
  | none => exact fun r hr => (List.not_mem_nil r hr).elim
  | some q => exact hf.queued s q h

theorem Filing.init : Filing World.init := by
  refine ⟨fun _ _ h => ?_, fun _ _ h => ?_, fun _ _ h => ?_⟩ <;>
    simp [World.init, AppState.new] at h

theorem Filing.poll {w : World} {k : Nat} {t t' : Task} {app : AppState} {obs : List Obs}
    {e : EmitResult} (hf : Filing w) (ht : w.tasks[k]? = some t)
    (hp : t.poll w.app e = some (t', app, obs)) : Filing ⟨app, w.tasks.set k t', w.log ++ obs⟩ := by
  have hpend : ∀ s r, Task.permission_subscription (.queues_locking s r) ∈ w.tasks.set k t' →
      Filed s r := fun s r hm => (List.mem_or_eq_of_mem_set hm).elim (hf.pending s r)
    fun he => absurd he.symm (Task.poll_ne_queues_locking hp s r)
  rcases Task.poll_store hp with ⟨hq, ha, -, -⟩ | ⟨s, r, rest, rfl, hqs, hq, ha, -, -⟩ |
    ⟨s, d, m, rfl, hq, ha, -, -⟩ | ⟨s, r, rfl, hq, ha, -, -⟩
  · -- A poll that leaves the store alone.
    exact ⟨hq ▸ hf.queued, ha ▸ hf.active, hpend⟩
  · -- `get_current_permission` moves the front of the session's queue to its entry.
    have hfront := hf.queued s _ hqs
    exact ⟨hq ▸ HashMap.forall_lookup_insert hf.queued fun r' hr' =>
        hfront r' (List.mem_cons_of_mem _ hr'),
      ha ▸ HashMap.forall_lookup_insert hf.active (hfront r (List.mem_cons_self _ _)), hpend⟩
  · -- `respond_permission` removes the session's entry.
    exact ⟨hq ▸ hf.queued, ha ▸ HashMap.forall_lookup_erase hf.active, hpend⟩
  · -- The subscription pushes the request it holds onto its session's queue.
    have hr : Filed s r := hf.pending s r (List.getElem?_mem ht)
    exact ⟨hq ▸ HashMap.forall_lookup_insert hf.queued fun r' hr' =>
        (List.mem_append.mp hr').elim (hf.queue s r') fun h => List.mem_singleton.mp h ▸ hr,
      ha ▸ hf.active, hpend⟩

theorem Filing.step {w w' : World} {a : Act} (hf : Filing w) (h : w.step a = some w') :
    Filing w' := by
  cases a with
  | invoke c =>
    obtain rfl := World.step_invoke h
    refine ⟨hf.queued, hf.active, fun s r hm => (List.mem_append.mp hm).elim (hf.pending s r)
      fun he => ?_⟩
    cases c <;> cases List.mem_singleton.mp he
  | poll k e =>
    obtain ⟨t, t', app, obs, ht, -, hp, rfl⟩ := World.step_poll h
    exact hf.poll ht hp
  | deliver k d =>
    obtain ⟨t, t', ht, hr, rfl⟩ := World.step_deliver h
    exact ⟨hf.queued, hf.active, fun s r hm => (List.mem_or_eq_of_mem_set hm).elim
      (hf.pending s r) fun he => Task.receive_filed (he ▸ hr)⟩

theorem Filing.run {acts : List Act} {w : World} (h : World.init.run acts = some w) : Filing w :=
  World.run_induction Filing (fun _ _ _ hf h => hf.step h) acts Filing.init h

/-- Under every run of the app, every request in a session's queue or in its entry of `active`
names that session, or names none and the session is `"default"`, and has an id. -/
theorem permission_requests_are_filed_under_their_session {acts : List Act} {w : World}
    (h : World.init.run acts = some w) (s : String) :
    (∀ r ∈ (w.app.queues.lookup s).getD [], r.session_id.getD "default" = s ∧ r.id.isSome) ∧
      ∀ r, w.app.active.lookup s = some r → r.session_id.getD "default" = s ∧ r.id.isSome :=
  ⟨(Filing.run h).queue s, (Filing.run h).active s⟩

/-- A request with neither an id nor a session arrives and is queued. -/
theorem request_without_a_session_is_filed_under_default :
    ∃ w, World.init.run [.deliver 0 (.permission "ev7" (.ok ⟨none, none, none⟩)),
        .poll 0 (.ok ())] = some w ∧
      ∀ r ∈ (w.app.queues.lookup "default").getD [],
        r.session_id.getD "default" = "default" ∧ r.id.isSome := by
  obtain ⟨w, hw⟩ : ∃ w, World.init.run [.deliver 0 (.permission "ev7" (.ok ⟨none, none, none⟩)),
      .poll 0 (.ok ())] = some w := ⟨_, rfl⟩
  exact ⟨w, hw, (permission_requests_are_filed_under_their_session hw "default").1⟩

/-! ## `respond_permission` -/

/-- A `claude.permission.response` for the session that the broker took. -/
def Obs.isResponseFor (s : String) : Obs → Bool
  | .emitted topic data ok =>
    ok && topic == "claude.permission.response" && payloadSession data == some s
  | _ => false

/-- The number of responses for the session the broker took. -/
def responsesFor (s : String) (log : List Obs) : Nat := log.countP (Obs.isResponseFor s)

/-- `respond_permission` invoked where `active` is free and polled to its end: the session's
entry of `active` is removed first, and the emit's outcome is what the call returns. -/
theorem respond_permission_run (w : World) (session_id decision : String)
    (message : Option String) (emit : EmitResult) (ha : w.free .active = true) :
    w.run [.invoke (.respond_permission session_id decision message),
        .poll w.tasks.length (.ok ()), .poll w.tasks.length emit] =
      some ⟨{ w.app with active := w.app.active.erase session_id },
        w.tasks ++ [.respond_permission session_id decision message (.done emit)],
        w.log ++ (w.app.active.lookup session_id).toList.map (.removed session_id) ++
          [.emitted "claude.permission.response" (permissionResponse session_id decision message)
            emit.toBool]⟩ := by
  let t₀ : Task := .respond_permission session_id decision message .start
  have hfree : ∀ t ∈ w.tasks ++ [t₀], Lock.active ∉ t.holds :=
    not_held_append (World.free_iff.mp ha) (by simp [t₀, Task.holds])
  let t₁ : Task := .respond_permission session_id decision message .emitting
  let app : AppState := { w.app with active := w.app.active.erase session_id }
  let obs : List Obs := (w.app.active.lookup session_id).toList.map (.removed session_id)
  have h₁ : World.step ⟨w.app, w.tasks ++ [t₀], w.log⟩ (.poll w.tasks.length (.ok ())) =
      some ⟨app, (w.tasks ++ [t₀]).set w.tasks.length t₁, w.log ++ obs⟩ :=
    World.step_poll_of (List.getElem?_concat_length w.tasks t₀)
      (fun l hl => by cases hl; exact World.free_iff.mpr hfree) rfl
  have h₂ : World.step ⟨app, (w.tasks ++ [t₀]).set w.tasks.length t₁, w.log ++ obs⟩
      (.poll w.tasks.length emit) =
      some ⟨app, ((w.tasks ++ [t₀]).set w.tasks.length t₁).set w.tasks.length
        (.respond_permission session_id decision message (.done emit)),
        w.log ++ obs ++ [.emitted "claude.permission.response"
          (permissionResponse session_id decision message) emit.toBool]⟩ :=
    World.step_poll_of (List.getElem?_set_self (by simp)) (fun l hl => by cases hl) rfl
  have h₀ : w.step (.invoke (.respond_permission session_id decision message)) =
      some ⟨w.app, w.tasks ++ [t₀], w.log⟩ := rfl
  simp only [World.run, h₀, h₁, h₂, Option.some_bind]
  simp [List.set_append_right]

/-- `respond_permission` on a session with no active request still has its response taken by
the broker: one more response for the session, with no request made active or removed for it. -/
theorem respond_permission_answers_a_session_with_nothing_active (w : World)
    (session_id decision : String) (message : Option String)
    (ha : w.free .active = true) (hs : w.app.active.lookup session_id = none) :
    ∃ w', w.run [.invoke (.respond_permission session_id decision message),
        .poll w.tasks.length (.ok ()), .poll w.tasks.length (.ok ())] = some w' ∧
      responsesFor session_id w'.log = responsesFor session_id w.log + 1 ∧
      activatedFor session_id w'.log = activatedFor session_id w.log ∧
      removedFor session_id w'.log = removedFor session_id w.log := by
  refine ⟨_, respond_permission_run w session_id decision message (.ok ()) ha, ?_, ?_, ?_⟩ <;>
    simp [responsesFor, Obs.isResponseFor, payloadSession_permissionResponse, hs, activatedFor,
      removedFor, Except.toBool]

theorem respond_permission_answers_before_any_request :
    ∃ w', World.init.run [.invoke (.respond_permission "default" "allow" none), .poll 3 (.ok ()),
        .poll 3 (.ok ())] = some w' ∧
      responsesFor "default" w'.log = 1 ∧ activatedFor "default" w'.log = [] := by
  obtain ⟨w', h, h₁, h₂, -⟩ := respond_permission_answers_a_session_with_nothing_active World.init
    "default" "allow" none rfl rfl
  exact ⟨w', h, h₁, h₂⟩

/-- When the emit fails, `respond_permission` returns the error with the session's request
already removed from `active`: the request is in neither `active` nor the queues, and no
response for it reached the broker. -/
theorem respond_permission_loses_the_request_when_the_emit_fails (w : World)
    (session_id decision : String) (message : Option String) (err : String)
    (r : PermissionRequest) (ha : w.free .active = true)
    (hs : w.app.active.lookup session_id = some r) :
    ∃ w', w.run [.invoke (.respond_permission session_id decision message),
        .poll w.tasks.length (.ok ()), .poll w.tasks.length (.error err)] = some w' ∧
      w'.tasks[w.tasks.length]? =
        some (.respond_permission session_id decision message (.done (.error err))) ∧
      w'.app.active.lookup session_id = none ∧ w'.app.queues = w.app.queues ∧
      (∀ s, s ≠ session_id → w'.app.active.lookup s = w.app.active.lookup s) ∧
      removedFor session_id w'.log = removedFor session_id w.log ++ [r] ∧
      responsesFor session_id w'.log = responsesFor session_id w.log := by
  refine ⟨_, respond_permission_run w session_id decision message (.error err) ha,
    List.getElem?_concat_length _ _, AList.lookup_erase _ _, rfl,
    fun s hs' => AList.lookup_erase_ne hs', ?_, ?_⟩ <;>
    simp [responsesFor, Obs.isResponseFor, hs, removedFor, Except.toBool]

theorem failed_emit_loses_the_active_request :
    ∃ w w', World.init.run [.deliver 0 (.permission "ev1" (.ok ⟨none, some "s1", none⟩)),
        .poll 0 (.ok ()), .invoke (.get_current_permission "s1"), .poll 3 (.ok ()),
        .poll 3 (.ok ())] = some w ∧
      w.app.active.lookup "s1" = some ⟨some "ev1", some "s1", none⟩ ∧
      w.run [.invoke (.respond_permission "s1" "deny" none), .poll 4 (.ok ()),
        .poll 4 (.error "connection refused")] = some w' ∧
      w'.app.active.lookup "s1" = none ∧ w'.app.queues.lookup "s1" = some [] := by
  obtain ⟨w', h, -, h₁, h₂, -⟩ := respond_permission_loses_the_request_when_the_emit_fails
    ((World.init.run [.deliver 0 (.permission "ev1" (.ok ⟨none, some "s1", none⟩)),
        .poll 0 (.ok ()), .invoke (.get_current_permission "s1"), .poll 3 (.ok ()),
        .poll 3 (.ok ())]).getD World.init) "s1" "deny" none "connection refused"
    ⟨some "ev1", some "s1", none⟩ rfl rfl
  exact ⟨_, w', rfl, rfl, h, h₁, by rw [h₂]; rfl⟩

end agent_management
