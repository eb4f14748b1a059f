-- Who holds a sender of the acknowledgment channel. Every event carries the sender the
-- subscription gives its events, and the pump keeps its own `ack_tx_for_events` until it
-- ends: with auto_ack off the ack arm's `recv()` never gives `None`.
import Notif.Subscribe

namespace notifsh.subscribe

open tokio.mpsc
open tungstenite (Message)

/-! ## Where the events are -/

/-- The item the inbound arm sends, if any. -/
def Arm.items : Arm → List Item
  | .send item _ => [item]
  | _ => []

/-- Every event of a subscription: in the pump, in the event channel, held by the caller,
borrowed by a call, or kept with a call that has returned. -/
def Sub.allEvents (s : Sub) : List Event :=
  (s.pump.inflight ++ s.events.buf).flatMap (·.toOption.toList) ++ s.held ++
    s.calls.map (·.1) ++ s.completed.map (·.event)

/-- An event the inbound arm builds carries the sender it was given. -/
theorem inboundArm_tx {from_str : String → Except serde_json.Error ServerMessage}
    {tx : Option AckSender} {now : chrono.DateTime} {msg : Option (Except tungstenite.Error Message)}
    {e : Event} (h : Except.ok e ∈ (inboundArm from_str tx now msg).items) : e.ack_tx = tx := by
  unfold inboundArm at h
  repeat' split at h
  all_goals simp only [Arm.items, List.mem_singleton, List.not_mem_nil, Except.ok.injEq,
    reduceCtorEq] at h
  subst h; rfl

theorem mem_events_of_items {l : List Item} {e : Event} :
    e ∈ l.flatMap (·.toOption.toList) ↔ Except.ok e ∈ l := by
  simp only [List.mem_flatMap, Option.mem_toList, Option.mem_def]
  constructor
  · rintro ⟨it, hit, h⟩
    cases it <;> simp_all [Except.toOption]
  · exact fun h => ⟨_, h, rfl⟩

theorem mem_allEvents {s : Sub} {e : Event} : e ∈ s.allEvents ↔
    Except.ok e ∈ s.pump.inflight ∨ Except.ok e ∈ s.events.buf ∨ e ∈ s.held ∨
      (∃ m, (e, m) ∈ s.calls) ∨ ∃ c ∈ s.completed, c.event = e := by
  simp only [Sub.allEvents, List.mem_append, mem_events_of_items, List.mem_map, Prod.exists,
    exists_and_right, exists_eq_right, or_assoc]

theorem Sub.inflight_mem_allEvents {s : Sub} {e : Event} (h : Except.ok e ∈ s.pump.inflight) :
    e ∈ s.allEvents := mem_allEvents.mpr (.inl h)

theorem Sub.buf_mem_allEvents {s : Sub} {e : Event} (h : Except.ok e ∈ s.events.buf) :
    e ∈ s.allEvents := mem_allEvents.mpr (.inr (.inl h))

theorem Sub.held_mem_allEvents {s : Sub} {e : Event} (h : e ∈ s.held) : e ∈ s.allEvents :=
  mem_allEvents.mpr (.inr (.inr (.inl h)))

theorem Sub.call_mem_allEvents {s : Sub} {e : Event} {m : AckMessage} (h : (e, m) ∈ s.calls) :
    e ∈ s.allEvents := mem_allEvents.mpr (.inr (.inr (.inr (.inl ⟨m, h⟩))))

theorem Sub.completed_mem_allEvents {s : Sub} {c : AckCall} (h : c ∈ s.completed) :
    c.event ∈ s.allEvents := mem_allEvents.mpr (.inr (.inr (.inr (.inr ⟨c, h, rfl⟩))))

section
variable {from_str : String → Except serde_json.Error ServerMessage} {s s' : Sub}

/-- A step that leaves the pump and the channel alone makes no event, when every event it leaves
held, borrowed by a call or recorded with a returned call was the subscription's before. -/
theorem Sub.allEvents_of_caller {e : Event} (he : e ∈ s'.allEvents) (hp : s'.pump = s.pump)
    (hb : s'.events.buf = s.events.buf) (hheld : ∀ e ∈ s'.held, e ∈ s.allEvents)
    (hcalls : ∀ e m, (e, m) ∈ s'.calls → e ∈ s.allEvents)
    (hdone : ∀ c ∈ s'.completed, c.event ∈ s.allEvents) : e ∈ s.allEvents := by
  rcases mem_allEvents.mp he with he | he | he | ⟨m, hm⟩ | ⟨c, hc, rfl⟩
  · exact Sub.inflight_mem_allEvents (hp ▸ he)
  · exact Sub.buf_mem_allEvents (hb ▸ he)
  · exact hheld e he
  · exact hcalls e m hm
  · exact hdone c hc

/-- No step makes an event out of nothing: an event after a step was there before, or the
inbound arm of that step built it. -/
theorem Sub.step_allEvents {a : Act} (h : s.step from_str a = some s') {e : Event}
    (he : e ∈ s'.allEvents) :
    e ∈ s.allEvents ∨ ∃ msg now, a = .inbound msg now ∧
      Except.ok e ∈ (inboundArm from_str s.ack_tx_for_events now msg).items := by
  cases a with
  | inbound msg now =>
    rw [mem_allEvents] at he
    obtain ⟨hp, rfl⟩ := Sub.inbound_eq h
    cases harm : inboundArm from_str s.ack_tx_for_events now msg with
    | idle => left; simpa [harm, Sub.takeArm, mem_allEvents] using he
    | exit => left; simpa [harm, Sub.takeArm, Sub.stop, mem_allEvents, hp, Pump.inflight] using he
    | send item after =>
      simp only [harm, Sub.takeArm, Pump.inflight, List.mem_singleton] at he
      rcases he with rfl | he
      · exact .inr ⟨msg, now, rfl, by simp [harm, Arm.items]⟩
      · left; simpa [mem_allEvents] using Or.inr he
  | event_sent =>
    left
    rw [mem_allEvents] at he ⊢
    obtain ⟨item, after, hp, ⟨-, c, hc, rfl⟩ | ⟨-, rfl⟩⟩ := Sub.eventSent_eq h
    · have hbuf := (Chan.push?_eq_some hc).2.1
      cases after <;> simp [Sub.resume, Sub.stop, hbuf, hp, Pump.inflight] at he ⊢ <;>
        exact or_left_comm.mp (or_assoc.mp he)
    · cases after <;> simp [Sub.resume, Sub.stop, hp, Pump.inflight] at he ⊢ <;> exact .inr he
  | ack_arm ok =>
    left
    obtain ⟨hp, ⟨m, c, hc, rfl⟩ | ⟨-, -, rfl⟩⟩ := Sub.ackArm_eq h
    · exact he
    · rw [mem_allEvents] at he ⊢
      simpa [Sub.stop, hp, Pump.inflight] using he
  | poll_next =>
    left
    obtain ⟨-, ⟨item, c, hc, rfl⟩ | ⟨-, -, rfl⟩⟩ := Sub.poll_next_eq h
    · have hbuf := (Chan.pop?_eq_some hc).1
      rw [mem_allEvents] at he ⊢
      cases item with
      | error => simpa [hbuf, Except.toOption] using he
      | ok =>
        simp [hbuf, Except.toOption] at he ⊢
        rcases he with he | he | (he | he) | he
        exacts [.inl he, .inr (.inl (.inr he)), .inr (.inr (.inl he)), .inr (.inl (.inl he)),
          .inr (.inr (.inr he))]
    · exact he
  | drop_stream =>
    simp only [Sub.step] at h
    split at h
    · cases h; left; rw [mem_allEvents] at he ⊢; simp at he ⊢; exact he.imp_right .inr
    · cases h
  | drop_event i =>
    simp only [Sub.step] at h
    split at h
    · cases h
      exact .inl (Sub.allEvents_of_caller he rfl rfl
        (fun _ he => Sub.held_mem_allEvents (List.mem_of_mem_eraseIdx he))
        (fun _ _ hm => Sub.call_mem_allEvents hm) (fun _ hc => Sub.completed_mem_allEvents hc))
    · cases h
  | clone_event i =>
    obtain ⟨e', he', rfl⟩ := Option.map_eq_some'.mp h
    refine .inl (Sub.allEvents_of_caller he rfl rfl (fun e he => ?_)
      (fun _ _ hm => Sub.call_mem_allEvents hm) (fun _ hc => Sub.completed_mem_allEvents hc))
    rcases List.mem_append.mp he with he | he
    · exact Sub.held_mem_allEvents he
    · exact Sub.held_mem_allEvents (List.mem_singleton.mp he ▸ List.getElem?_mem he')
  | ack i | nack i _ =>
    obtain ⟨e', he', ⟨-, rfl⟩ | ⟨-, rfl⟩⟩ := Sub.call_eq h
    · exact .inl he
    refine .inl (Sub.allEvents_of_caller he rfl rfl
      (fun _ he => Sub.held_mem_allEvents (List.mem_of_mem_eraseIdx he)) (fun e m hm => ?_)
      (fun _ hc => Sub.completed_mem_allEvents hc))
    rcases List.mem_append.mp hm with hm | hm
    · exact Sub.call_mem_allEvents hm
    · exact Sub.held_mem_allEvents ((Prod.mk.inj (List.mem_singleton.mp hm)).1 ▸
        List.getElem?_mem he')
  | ack_sent j =>
    -- The returning call gives its event back to the holder and records itself.
    obtain ⟨e', m, he', ⟨-, rfl⟩ | ⟨-, c, -, rfl⟩⟩ := Sub.ackSent_eq h
    all_goals
      refine .inl (Sub.allEvents_of_caller he rfl rfl (fun e he => ?_)
        (fun _ _ hm => Sub.call_mem_allEvents (List.mem_of_mem_eraseIdx hm)) (fun c hc => ?_))
      · rcases List.mem_append.mp he with he | he
        · exact Sub.held_mem_allEvents he
        · exact List.mem_singleton.mp he ▸ Sub.call_mem_allEvents (List.getElem?_mem he')
      · rcases List.mem_append.mp hc with hc | hc
        · exact Sub.completed_mem_allEvents hc
        · exact List.mem_singleton.mp hc ▸ Sub.call_mem_allEvents (List.getElem?_mem he')

/-! ## The senders stay where they are given -/

/-- The pump keeps `txFor auto_ack` until it ends, and every event carries it. -/
structure Carry (s : Sub) : Prop where
  pump_tx : s.ack_tx_for_events = if s.pump.isStopped then none else txFor s.auto_ack
  events_tx : ∀ e ∈ s.allEvents, e.ack_tx = txFor s.auto_ack

theorem Carry.pump_tx_of_running (hc : Carry s) (h : s.pump.isStopped = false) :
    s.ack_tx_for_events = txFor s.auto_ack := by
  simpa [h] using hc.pump_tx

theorem Carry.step (hc : Carry s) {a : Act} (h : s.step from_str a = some s') : Carry s' := by
  have hauto := Sub.step_auto_ack h
  refine ⟨?_, fun e he => ?_⟩
  · rw [hauto]
    cases ha : a.byCaller
    · cases a with
      | inbound msg now =>
        obtain ⟨hp, rfl⟩ := Sub.inbound_eq h
        have htx := hc.pump_tx_of_running (by simp [hp, Pump.isStopped])
        cases inboundArm from_str s.ack_tx_for_events now msg <;>
          simp [Sub.takeArm, Sub.stop, Pump.isStopped, hp, htx]
      | event_sent =>
        obtain ⟨item, after, hp, ⟨-, c, -, rfl⟩ | ⟨-, rfl⟩⟩ := Sub.eventSent_eq h <;>
        · have htx := hc.pump_tx_of_running (by simp [hp, Pump.isStopped])
          cases after <;> simp [Sub.resume, Sub.stop, Pump.isStopped, htx]
      | ack_arm ok =>
        obtain ⟨hp, ⟨m, c, -, rfl⟩ | ⟨-, -, rfl⟩⟩ := Sub.ackArm_eq h
        · exact hc.pump_tx
        · simp [Sub.stop, Pump.isStopped]
      | _ => cases ha
    · obtain ⟨hp, htx, hauto', -⟩ := Sub.step_byCaller h ha
      rw [hp, htx, ← hauto', hauto]
      exact hc.pump_tx
  · rw [hauto]
    rcases Sub.step_allEvents h he with he | ⟨msg, now, rfl, he⟩
    · exact hc.events_tx e he
    · rw [inboundArm_tx he, hc.pump_tx_of_running (by simp [(Sub.inbound_eq h).1, Pump.isStopped])]

theorem Carry.init (options : SubscribeOptions) (msg : SubscribeMessage) :
    Carry (Sub.init options msg) :=
  ⟨by simp [Sub.init, Pump.isStopped], by simp [Sub.allEvents, Sub.init, Pump.inflight]⟩

theorem Carry.run {s : Sub} (hc : Carry s) (acts : List Act) (h : s.run from_str acts = some s') :
    Carry s' :=
  Sub.run_induction from_str Carry (fun _ _ _ hs h => hs.step h) acts hc h

theorem Sub.run_auto_ack {s : Sub} (acts : List Act) (h : s.run from_str acts = some s') :
    s'.auto_ack = s.auto_ack :=
  Sub.run_induction from_str (fun t => t.auto_ack = s.auto_ack)
    (fun _ _ _ hs h => (Sub.step_auto_ack h).trans hs) acts rfl h

end

/-! ## The pump's own sender -/

/-- With auto_ack off, the pump task holds its own clone of the ack sender for as long as its
loop runs. So the ack arm never ends the loop, and with no decision queued it is never
ready: the loop waits for the next inbound frame, whoever else has dropped their senders. -/
theorem pump_keeps_an_ack_sender (from_str : String → Except serde_json.Error ServerMessage)
    (server api_key : String) (topics : List String) (options : SubscribeOptions)
    (dial : String → Except tungstenite.Error Unit) (sent : Except tungstenite.Error Unit)
    (reply : Option (Except tungstenite.Error Message)) (acts : List Act) {s₀ s : Sub}
    (hc : connect from_str server api_key topics options dial sent reply = .ok s₀)
    (hr : s₀.run from_str acts = some s) (ha : options.auto_ack = false)
    (hp : s.pump.isStopped = false) :
    s.ack_tx_for_events = some ⟨⟩ ∧ (∀ ok s', s.ackArm ok = some s' → s'.pump = .select) ∧
      (s.acks.buf = [] → ∀ ok, s.ackArm ok = none) := by
  rw [connect_eq_ok hc] at hr
  have hauto : s.auto_ack = false := (Sub.run_auto_ack _ hr).trans ha
  have htx : s.ack_tx_for_events = some ⟨⟩ := by
    rw [((Carry.init _ _).run _ hr).pump_tx_of_running hp, hauto]; rfl
  have hsend : s.senders ≠ [] := by simp [Sub.senders, htx]
  refine ⟨htx, fun ok s' h => ?_, fun hb ok => ?_⟩
  · obtain ⟨hsel, ⟨m, c, -, rfl⟩ | ⟨-, hs, -⟩⟩ := Sub.ackArm_eq h
    · exact hsel
    · exact absurd hs hsend
  · cases h : s.ackArm ok with
    | none => rfl
    | some s' =>
      obtain ⟨-, ⟨m, c, hm, -⟩ | ⟨-, hs, -⟩⟩ := Sub.ackArm_eq h
      · simp [Chan.pop?_eq_some hm] at hb
      · exact absurd hs hsend


/-- The failing input: auto_ack off, the handshake confirmed, and the stream dropped before
anything is pulled. Nothing is left of the stream or its events, yet the pump still holds a
sender, so it waits for another inbound frame instead of ending. -/
theorem pump_waits_after_the_stream_is_dropped :
    ∃ s₀ s, connect sampleFromStr "https://api.notif.sh" "nsh_key" ["orders.*"]
        { SubscribeOptions.new with auto_ack := false } (fun _ => .ok ()) (.ok ())
        (some (.ok (.Text subscribedText))) = .ok s₀ ∧
      s₀.run sampleFromStr [.drop_stream] = some s ∧ s.stream = false ∧ s.held = [] ∧
      s.events.buf = [] ∧ s.calls = [] ∧ s.pump.isStopped = false ∧
      s.ack_tx_for_events = some ⟨⟩ ∧ ∀ ok, s.ackArm ok = none := by
  obtain ⟨htx, -, hnone⟩ := pump_keeps_an_ack_sender sampleFromStr "https://api.notif.sh" "nsh_key"
    ["orders.*"] { SubscribeOptions.new with auto_ack := false } (fun _ => .ok ()) (.ok ())
    (some (.ok (.Text subscribedText))) [.drop_stream] rfl rfl rfl rfl
  exact ⟨_, _, rfl, rfl, rfl, rfl, rfl, rfl, rfl, htx, hnone rfl⟩

/-! ## With auto_ack on, the drop ends the loop -/

/-- With auto_ack on no event carries a sender, so no call is ever suspended and no decision
ever queued. -/
theorem Sub.run_auto_ack_quiet {from_str : String → Except serde_json.Error ServerMessage}
    {s s' : Sub} (acts : List Act) (hc : Carry s)
    (hq : s.auto_ack = true → s.calls = [] ∧ s.acks.buf = [] ∧ s.completed = [])
    (h : s.run from_str acts = some s') :
    Carry s' ∧ (s'.auto_ack = true → s'.calls = [] ∧ s'.acks.buf = [] ∧ s'.completed = []) := by
  refine Sub.run_induction from_str
    (fun t => Carry t ∧ (t.auto_ack = true → t.calls = [] ∧ t.acks.buf = [] ∧ t.completed = []))
    (fun t a t' ⟨hc, hq⟩ h => ⟨hc.step h, fun ha => ?_⟩) acts ⟨hc, hq⟩ h
  rw [Sub.step_auto_ack h] at ha
  obtain ⟨hcalls, hacks, hdone⟩ := hq ha
  cases a with
  | inbound msg now =>
    obtain ⟨-, rfl⟩ := Sub.inbound_eq h
    cases inboundArm from_str t.ack_tx_for_events now msg <;>
      simp [Sub.takeArm, Sub.stop, hcalls, hacks, hdone]
  | event_sent =>
    obtain ⟨_, after, -, ⟨-, _, -, rfl⟩ | ⟨-, rfl⟩⟩ := Sub.eventSent_eq h <;>
      cases after <;> simp [Sub.resume, Sub.stop, hcalls, hacks, hdone]
  | ack_arm =>
    obtain ⟨-, ⟨_, _, hm, rfl⟩ | ⟨-, -, rfl⟩⟩ := Sub.ackArm_eq h
    · simp [Chan.pop?_eq_some hm, hacks] at hm ⊢
      exact ⟨hcalls, by simpa [hacks] using (Chan.pop?_eq_some hm).1, hdone⟩
    · simp [Sub.stop, hcalls, hdone]
  | poll_next =>
    obtain ⟨-, ⟨_, _, -, rfl⟩ | ⟨-, -, rfl⟩⟩ := Sub.poll_next_eq h <;> simp [hcalls, hacks, hdone]
  | drop_stream | drop_event =>
    simp only [Sub.step] at h; split at h <;> cases h; simp [hcalls, hacks, hdone]
  | clone_event => obtain ⟨_, -, rfl⟩ := Option.map_eq_some'.mp h; simp [hcalls, hacks, hdone]
  | ack i | nack i _ =>
    obtain ⟨e, he, ⟨-, rfl⟩ | ⟨hsome, -⟩⟩ := Sub.call_eq h
    · exact ⟨hcalls, hacks, hdone⟩
    · have := hc.events_tx e (Sub.held_mem_allEvents (List.getElem?_mem he))
      simp [this, ha, txFor] at hsome
  | ack_sent j => obtain ⟨_, _, he, -⟩ := Sub.ackSent_eq h; simp [hcalls] at he

/-- With auto_ack on, once the stream is dropped nothing holds an ack sender: the pump has none
and no event carries one. With the channel empty, `ack_rx.recv()` gives `None`, so at the
`select!` the ack arm is ready and ends the loop. -/
theorem Sub.ackArm_of_dropped {s : Sub} (hcarry : Carry s)
    (hq : s.calls = [] ∧ s.acks.buf = [] ∧ s.completed = []) (hauto : s.auto_ack = true)
    (hs : s.stream = false) (hp : s.pump = .select) (ok : Bool) : s.ackArm ok = some s.stop := by
  have hnone : ∀ e ∈ s.allEvents, e.ack_tx = none := fun e he => by
    rw [hcarry.events_tx e he, hauto]; rfl
  have htx : s.ack_tx_for_events = none := by
    rw [hcarry.pump_tx_of_running (by simp [hp, Pump.isStopped]), hauto]; rfl
  have hsenders : s.senders = [] := by
    have hitem : ∀ it : Item, (∀ e, it = .ok e → e ∈ s.allEvents) → itemSenders it = [] := by
      rintro (_ | e) h
      · rfl
      · simp [itemSenders, hnone e (h e rfl)]
    simp only [Sub.senders, hs, htx, List.flatMap_eq_nil_iff, List.append_eq_nil, Option.toList_none,
      Bool.false_eq_true, if_false, true_and]
    refine ⟨⟨⟨fun it hit => hitem it fun e he => Sub.inflight_mem_allEvents (he ▸ hit),
      fun it hit => hitem it fun e he => Sub.buf_mem_allEvents (he ▸ hit)⟩,
      fun e he => by simp [hnone e (Sub.held_mem_allEvents he)]⟩,
      fun c hc => by simp [hnone c.1 (Sub.call_mem_allEvents hc)]⟩
  simp [Sub.ackArm, hp, Chan.pop?_eq_none.mpr hq.2.1, hsenders]

/-- With auto_ack on, from the drop of the stream on, the loop needs no further frame to end: at
every `select!` the ack arm is ready and ends the loop, and from every state the pump ends its
loop by its own steps, a pending `event_tx.send` (which fails at once, `event_rx` being gone)
and then the ack arm, whatever events were held or queued. This does not say which arm the
`select!` takes: when a frame is also ready it may take the inbound arm first. -/
theorem dropped_stream_lets_the_auto_ack_pump_end_without_a_frame
    (from_str : String → Except serde_json.Error ServerMessage)
    (server api_key : String) (topics : List String) (options : SubscribeOptions)
    (dial : String → Except tungstenite.Error Unit) (sent : Except tungstenite.Error Unit)
    (reply : Option (Except tungstenite.Error Message)) (acts : List Act) {s₀ s : Sub}
    (hc : connect from_str server api_key topics options dial sent reply = .ok s₀)
    (hr : s₀.run from_str acts = some s) (ha : options.auto_ack = true)
    (hs : s.stream = false) :
    (s.pump = .select → ∀ ok, s.ackArm ok = some s.stop) ∧
    ∃ pumpActs, (∀ a ∈ pumpActs, a = .event_sent ∨ a = .ack_arm true) ∧ pumpActs.length ≤ 2 ∧
      ∃ t, s.run from_str pumpActs = some t ∧ t.pump = .stopped := by
  rw [connect_eq_ok hc] at hr
  have hauto : s.auto_ack = true := (Sub.run_auto_ack _ hr).trans ha
  obtain ⟨hcarry, hq⟩ := Sub.run_auto_ack_quiet acts (Carry.init _ _)
    (fun _ => ⟨rfl, rfl, rfl⟩) hr
  have hready := Sub.ackArm_of_dropped hcarry (hq hauto) hauto hs
  refine ⟨hready, ?_⟩
  cases hp : s.pump with
  | select =>
    exact ⟨[.ack_arm true], by simp, by simp, s.stop, by simp [Sub.run, Sub.step, hready hp], rfl⟩
  | stopped => exact ⟨[], by simp, by simp, s, rfl, hp⟩
  | sending item after =>
    have hsend : s.run from_str [.event_sent] = some (s.resume after false) := by
      simp [Sub.run, Sub.step, Sub.eventSent, hp, hs]
    cases after with
    | loop =>
      -- The arm goes back to the `select!`, where the ack arm is ready.
      obtain ⟨hcarry', hq'⟩ := Sub.run_auto_ack_quiet [.event_sent] hcarry hq hsend
      have hstop := Sub.ackArm_of_dropped hcarry' (hq' hauto) hauto hs rfl true
      refine ⟨[.event_sent, .ack_arm true], by simp, by simp, (s.resume .loop false).stop, ?_, rfl⟩
      rw [← List.singleton_append, Sub.run_append, hsend]
      simp [Sub.run, Sub.step, hstop]
    | breakOnErr | exit => exact ⟨[.event_sent], by simp, by simp, _, hsend, rfl⟩

/-- With auto_ack on, an event queued and the stream dropped: the ack arm is ready and one step
of the pump ends its loop. -/
theorem auto_ack_pump_can_end_after_the_drop :
    ∃ s₀ s, connect sampleFromStr "https://api.notif.sh" "nsh_key" ["orders.*"]
        SubscribeOptions.new (fun _ => .ok ()) (.ok ()) (some (.ok (.Text subscribedText))) = .ok s₀ ∧
      s₀.run sampleFromStr [.inbound (some (.ok (.Text eventText))) ⟨0⟩, .event_sent,
        .drop_stream] = some s ∧ (∀ ok, s.ackArm ok = some s.stop) ∧
      ∃ pumpActs, (∀ a ∈ pumpActs, a = .event_sent ∨ a = .ack_arm true) ∧ pumpActs.length ≤ 2 ∧
        ∃ t, s.run sampleFromStr pumpActs = some t ∧ t.pump = .stopped := by
  obtain ⟨hready, hend⟩ := dropped_stream_lets_the_auto_ack_pump_end_without_a_frame sampleFromStr
    "https://api.notif.sh" "nsh_key" ["orders.*"] SubscribeOptions.new (fun _ => .ok ()) (.ok ())
    (some (.ok (.Text subscribedText))) [.inbound (some (.ok (.Text eventText))) ⟨0⟩, .event_sent,
      .drop_stream] rfl rfl rfl rfl
  exact ⟨_, _, rfl, rfl, hready rfl, hend⟩

end notifsh.subscribe
