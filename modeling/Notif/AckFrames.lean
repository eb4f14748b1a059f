-- The laws of acknowledgment: the frames the client writes are the subscribe frame, then
-- one frame per decision in the order the decisions entered the ack channel; `ack` and
-- `nack` return `Ok(())` even when their decision is dropped.
import Notif.Delivery

namespace notifsh.subscribe

open serde_json tokio.mpsc
open tungstenite (Message)

/-! ## The record of acknowledgments -/

/-- `m` is a decision on the event `e`: an ack or a nack of its id. -/
def Decides (e : Event) (m : AckMessage) : Prop :=
  m = .Ack e.id ∨ ∃ retry_in, m = .Nack e.id retry_in

/-- The calls whose decision entered the channel, in the order they entered it. -/
def Sub.entered (s : Sub) : List AckCall := s.completed.filter (·.sent)

/-- The acknowledgments so far: each call decides on the event it was made on and returned
`Ok(())`; a send failed only once the pump had ended; the frames after the subscribe frame
`sub` are those of the oldest decisions that entered the channel, and while the pump runs the
others are still queued, in order. -/
structure Acks (sub : Value) (s : Sub) : Prop where
  calls : ∀ c ∈ s.calls, Decides c.1 c.2
  completed : ∀ c ∈ s.completed, Decides c.event c.decision ∧ c.ret = .ok ()
  failed : ∀ c ∈ s.completed, c.sent = false → s.pump.isStopped = true
  frames : ∃ popped rest, s.entered = popped ++ rest ∧
    s.written.map Prod.fst = sub :: popped.map (fun c => ackFrame c.decision) ∧
    (s.pump.isStopped = false → rest.map (·.decision) = s.acks.buf)

section
variable {from_str : String → Except serde_json.Error ServerMessage} {s s' : Sub} {sub : Value}

theorem Acks.of_eq (ha : Acks sub s) (hc : s'.calls = s.calls) (hd : s'.completed = s.completed)
    (hw : s'.written = s.written) (hb : s'.acks.buf = s.acks.buf)
    (hp : s'.pump.isStopped = s.pump.isStopped) : Acks sub s' := by
  obtain ⟨h1, h2, h3, popped, rest, he, hw', hq⟩ := ha
  refine ⟨hc ▸ h1, hd ▸ h2, hd ▸ hp ▸ h3, popped, rest, ?_, hw ▸ hw', hp ▸ hb ▸ hq⟩
  simpa [Sub.entered, hd] using he

theorem Acks.init (options : SubscribeOptions) (msg : SubscribeMessage) :
    Acks msg.to_value (Sub.init options msg) :=
  ⟨fun _ h => (List.not_mem_nil _ h).elim, fun _ h => (List.not_mem_nil _ h).elim,
    fun _ h => (List.not_mem_nil _ h).elim, [], [], rfl, rfl, fun _ => rfl⟩

theorem Acks.stop (ha : Acks sub s) : Acks sub s.stop := by
  obtain ⟨popped, rest, he, hw, -⟩ := ha.frames
  exact ⟨ha.calls, ha.completed, fun _ _ _ => rfl, popped, rest, he, hw,
    by simp [Sub.stop, Pump.isStopped]⟩

/-- The calls that have returned decide on their events. -/
theorem Acks.step (ha : Acks sub s) {a : Act} (h : s.step from_str a = some s') : Acks sub s' := by
  cases a with
  | inbound msg now =>
    obtain ⟨hp, rfl⟩ := Sub.inbound_eq h
    cases inboundArm from_str s.ack_tx_for_events now msg with
    | exit => exact Acks.stop (ha.of_eq rfl rfl rfl rfl rfl)
    | idle => exact ha.of_eq rfl rfl rfl rfl rfl
    | send item after => exact ha.of_eq rfl rfl rfl rfl (by simp [Sub.takeArm, hp, Pump.isStopped])
  | event_sent =>
    obtain ⟨item, after, hp, ⟨-, c, -, rfl⟩ | ⟨-, rfl⟩⟩ := Sub.eventSent_eq h
    all_goals cases after
    all_goals first
      | exact Acks.stop (ha.of_eq rfl rfl rfl rfl rfl)
      | exact ha.of_eq rfl rfl rfl rfl (by simp [Sub.resume, hp, Pump.isStopped])
  | ack_arm ok =>
    obtain ⟨hp, ⟨m, c, hm, rfl⟩ | ⟨-, -, rfl⟩⟩ := Sub.ackArm_eq h
    · obtain ⟨hbuf, -⟩ := Chan.pop?_eq_some hm
      obtain ⟨popped, rest, he, hw, hq⟩ := ha.frames
      have hrest := hq (by simp [hp, Pump.isStopped])
      rw [hbuf] at hrest
      obtain ⟨c₀, rest, rfl, hc₀, hrest⟩ : ∃ c₀ rest', rest = c₀ :: rest' ∧
          c₀.decision = m ∧ rest'.map (·.decision) = c.buf := by
        cases rest with
        | nil => cases hrest
        | cons c₀ rest' => exact ⟨c₀, rest', rfl, (List.cons.inj hrest).1, (List.cons.inj hrest).2⟩
      refine ⟨ha.calls, ha.completed, ha.failed, popped ++ [c₀], rest, by simpa using he, ?_,
        fun _ => hrest⟩
      simp [hw, hc₀]
    · exact Acks.stop ha
  | poll_next =>
    obtain ⟨-, ⟨_, _, -, rfl⟩ | ⟨-, -, rfl⟩⟩ := Sub.poll_next_eq h <;> exact ha.of_eq rfl rfl rfl rfl rfl
  | drop_stream | drop_event =>
    simp only [Sub.step] at h; split at h <;> cases h; exact ha.of_eq rfl rfl rfl rfl rfl
  | clone_event => obtain ⟨_, -, rfl⟩ := Option.map_eq_some'.mp h; exact ha.of_eq rfl rfl rfl rfl rfl
  | ack i | nack i retry_in =>
    obtain ⟨e, -, ⟨-, rfl⟩ | ⟨-, rfl⟩⟩ := Sub.call_eq h
    · exact ha
    · refine ⟨fun c hc => ?_, ha.completed, ha.failed, ha.frames⟩
      rcases List.mem_append.mp hc with hc | hc
      · exact ha.calls c hc
      · rw [List.mem_singleton.mp hc]
        first | exact .inl rfl | exact .inr ⟨_, rfl⟩
  | ack_sent j =>
    obtain ⟨e, m, he, ⟨hp, rfl⟩ | ⟨hp, c, hc, rfl⟩⟩ := Sub.ackSent_eq h
    all_goals
      have hdec := ha.calls _ (List.getElem?_mem he)
      have hcalls : ∀ c ∈ s.calls.eraseIdx j, Decides c.1 c.2 :=
        fun c hc => ha.calls c (List.mem_of_mem_eraseIdx hc)
    · obtain ⟨popped, rest, hent, hw, -⟩ := ha.frames
      refine ⟨hcalls, fun c hc => ?_, fun c hc _ => by simp [hp, Pump.isStopped], popped, rest,
        by simpa [Sub.entered] using hent, hw, by simp [hp, Pump.isStopped]⟩
      rcases List.mem_append.mp hc with hc | hc
      · exact ha.completed c hc
      · rw [List.mem_singleton.mp hc]; exact ⟨hdec, rfl⟩
    · obtain ⟨popped, rest, hent, hw, hq⟩ := ha.frames
      have hbuf := (Chan.push?_eq_some hc).2.1
      refine ⟨hcalls, fun c hc => ?_, fun c hc hf => ?_, popped, rest ++ [⟨e, m, true, .ok ()⟩],
        by rw [Sub.entered, List.filter_append, ← Sub.entered, hent]; simp, hw,
        fun _ => by simp [hq hp, hbuf]⟩
      · rcases List.mem_append.mp hc with hc | hc
        · exact ha.completed c hc
        · rw [List.mem_singleton.mp hc]; exact ⟨hdec, rfl⟩
      · rcases List.mem_append.mp hc with hc | hc
        · exact ha.failed c hc hf
        · simp [List.mem_singleton.mp hc] at hf

/-! ## Every event comes from a frame -/

/-- Every event of the subscription, and every event a call was made on, is the decoding of a
frame the pump read. -/
def Origin (from_str : String → Except serde_json.Error ServerMessage) (s : Sub) : Prop :=
  ∀ e ∈ s.allEvents, ∃ x ∈ s.read, Except.ok e ∈ decode from_str (txFor s.auto_ack) x.2 x.1

/-- The pump's log only grows. -/
theorem Sub.step_read {a : Act} (h : s.step from_str a = some s') : ∀ x ∈ s.read, x ∈ s'.read := by
  intro x hx
  cases hb : a.byCaller
  · cases a with
    | inbound msg now => obtain ⟨-, rfl⟩ := Sub.inbound_eq h; simp [hx]
    | event_sent =>
      obtain ⟨_, _, -, ⟨-, _, -, rfl⟩ | ⟨-, rfl⟩⟩ := Sub.eventSent_eq h <;> simpa using hx
    | ack_arm => obtain ⟨-, ⟨_, _, -, rfl⟩ | ⟨-, -, rfl⟩⟩ := Sub.ackArm_eq h <;> exact hx
    | _ => cases hb
  · rw [(Sub.step_byCaller h hb).2.2.2.1]; exact hx

theorem Origin.step (hc : Carry s) (ho : Origin from_str s) {a : Act}
    (h : s.step from_str a = some s') : Origin from_str s' := by
  intro e he
  rw [Sub.step_auto_ack h]
  rcases Sub.step_allEvents h he with he | ⟨msg, now, rfl, hnew⟩
  · obtain ⟨x, hx, hd⟩ := ho e he
    exact ⟨x, Sub.step_read h x hx, hd⟩
  · obtain ⟨hp, rfl⟩ := Sub.inbound_eq h
    rw [inboundArm_items, hc.pump_tx_of_running (by simp [hp, Pump.isStopped])] at hnew
    exact ⟨(msg, now), by simp, hnew⟩

/-! ## After the pump has ended -/

/-- Once the pump task has ended, no step writes a frame or touches the ack channel: only the
pump writes, and a `tx.send` into the dropped `ack_rx` fails. -/
theorem Sub.step_of_stopped (hp : s.pump = .stopped) {a : Act} (h : s.step from_str a = some s') :
    s'.pump = .stopped ∧ s'.written = s.written ∧ s'.acks = s.acks := by
  cases a with
  | inbound => cases hp.symm.trans (Sub.inbound_eq h).1
  | event_sent => obtain ⟨_, _, hs, -⟩ := Sub.eventSent_eq h; cases hp.symm.trans hs
  | ack_arm => cases hp.symm.trans (Sub.ackArm_eq h).1
  | poll_next =>
    obtain ⟨-, ⟨_, _, -, rfl⟩ | ⟨-, -, rfl⟩⟩ := Sub.poll_next_eq h <;> exact ⟨hp, rfl, rfl⟩
  | drop_stream | drop_event =>
    simp only [Sub.step] at h; split at h <;> cases h; exact ⟨hp, rfl, rfl⟩
  | clone_event => obtain ⟨_, -, rfl⟩ := Option.map_eq_some'.mp h; exact ⟨hp, rfl, rfl⟩
  | ack | nack => obtain ⟨_, -, ⟨-, rfl⟩ | ⟨-, rfl⟩⟩ := Sub.call_eq h <;> exact ⟨hp, rfl, rfl⟩
  | ack_sent =>
    obtain ⟨_, _, -, ⟨-, rfl⟩ | ⟨hs, -⟩⟩ := Sub.ackSent_eq h
    · exact ⟨hp, rfl, rfl⟩
    · simp [hp, Pump.isStopped] at hs

theorem Sub.run_of_stopped (hp : s.pump = .stopped) (acts : List Act)
    (h : s.run from_str acts = some s') :
    s'.pump = .stopped ∧ s'.written = s.written ∧ s'.acks = s.acks :=
  Sub.run_induction from_str (fun t => t.pump = .stopped ∧ t.written = s.written ∧ t.acks = s.acks)
    (fun _ _ _ ⟨hp, hw, ha⟩ h =>
      let ⟨hp', hw', ha'⟩ := Sub.step_of_stopped hp h; ⟨hp', hw'.trans hw, ha'.trans ha⟩)
    acts ⟨hp, rfl, rfl⟩ h

end

/-! ## The laws -/

/-- For every reader of frames and every interleaving of `ack`/`nack` calls, from any number
of holders of cloned events, with the pump: the frames the client writes are the subscribe
frame (its topics in order, `from` and `group` there iff set), then one frame per decision in
the order the decisions entered the ack channel, with none lost, doubled or reordered while the
pump runs; each decision is an ack or nack of the id of the event it was called on, an event
decoded from a frame the pump read. With auto_ack on no frame follows the subscribe frame. -/
theorem written_frames_follow_the_decisions
    (from_str : String → Except serde_json.Error ServerMessage)
    (server api_key : String) (topics : List String) (options : SubscribeOptions)
    (dial : String → Except tungstenite.Error Unit) (sent : Except tungstenite.Error Unit)
    (reply : Option (Except tungstenite.Error Message)) (acts : List Act) {s₀ s : Sub}
    (hc : connect from_str server api_key topics options dial sent reply = .ok s₀)
    (hr : s₀.run from_str acts = some s) :
    (∃ popped rest, s.entered = popped ++ rest ∧
      s.written.map Prod.fst =
        .Object [("action", .String "subscribe"), ("topics", .Array (topics.map .String)),
          ("options", .Object ([("auto_ack", .Bool options.auto_ack)] ++
            optField "from" options.«from» ++ optField "group" options.group))] ::
          popped.map (fun c => match c.decision with
            | .Ack id => .Object [("action", .String "ack"), ("id", .String id)]
            | .Nack id retry_in => .Object ([("action", .String "nack"), ("id", .String id)] ++
                optField "retry_in" retry_in)) ∧
      (s.pump.isStopped = false → rest.map (·.decision) = s.acks.buf)) ∧
    (∀ c ∈ s.completed, Decides c.event c.decision ∧
      ∃ x ∈ s.read, Except.ok c.event ∈ decode from_str (txFor options.auto_ack) x.2 x.1) ∧
    (options.auto_ack = true →
      s.written.map Prod.fst = [(subscribeMessage topics options).to_value]) := by
  rw [connect_eq_ok hc] at hr
  have hauto : s.auto_ack = options.auto_ack := Sub.run_auto_ack _ hr
  obtain ⟨-, ha, ho⟩ := Sub.run_induction from_str
    (fun t => Carry t ∧ Acks (subscribeMessage topics options).to_value t ∧ Origin from_str t)
    (fun _ _ _ ⟨hc, ha, ho⟩ h => ⟨hc.step h, ha.step h, ho.step hc h⟩) acts
    ⟨Carry.init options (subscribeMessage topics options), Acks.init _ _,
      fun _ he => by simp [Sub.allEvents, Sub.init, Pump.inflight] at he⟩ hr
  obtain ⟨popped, rest, he, hw, hq⟩ := ha.frames
  refine ⟨⟨popped, rest, he, ?_, hq⟩, fun c hc => ⟨(ha.completed c hc).1, ?_⟩, fun hon => ?_⟩
  · rw [hw, subscribeMessage_to_value]
    exact congrArg _ (List.map_congr_left fun c _ => by
      cases c.decision <;> simp only [ackFrame_Ack, ackFrame_Nack])
  · rw [← hauto]; exact ho c.event (Sub.completed_mem_allEvents hc)
  · obtain ⟨-, -, hdone⟩ := (Sub.run_auto_ack_quiet acts (Carry.init _ _) (fun _ => ⟨rfl, rfl, rfl⟩)
      hr).2 (hauto.trans hon)
    have : popped = [] := by
      have := congrArg List.length he
      simp [Sub.entered, hdone] at this
      exact List.eq_nil_of_length_eq_zero (by omega)
    simpa [this] using hw

/-- With auto_ack off, one event pulled and acked: the client writes the subscribe frame, then
the ack of `e1`. -/
theorem one_ack_one_frame :
    ∃ s₀ s, connect sampleFromStr "https://api.notif.sh" "nsh_key" ["orders.*"]
        { SubscribeOptions.new with auto_ack := false } (fun _ => .ok ()) (.ok ())
        (some (.ok (.Text subscribedText))) = .ok s₀ ∧
      s₀.run sampleFromStr [.inbound (some (.ok (.Text eventText))) ⟨0⟩, .event_sent, .poll_next,
        .ack 0, .ack_sent 0, .ack_arm true] = some s ∧
      s.written.map Prod.fst = [(subscribeMessage ["orders.*"]
        { SubscribeOptions.new with auto_ack := false }).to_value, ackFrame (.Ack "e1")] ∧
      ∀ c ∈ s.completed, Decides c.event c.decision ∧
        ∃ x ∈ s.read, Except.ok c.event ∈ decode sampleFromStr (txFor false) x.2 x.1 := by
  obtain ⟨-, h, -⟩ := written_frames_follow_the_decisions sampleFromStr "https://api.notif.sh"
    "nsh_key" ["orders.*"] { SubscribeOptions.new with auto_ack := false } (fun _ => .ok ()) (.ok ())
    (some (.ok (.Text subscribedText))) [.inbound (some (.ok (.Text eventText))) ⟨0⟩, .event_sent,
      .poll_next, .ack 0, .ack_sent 0, .ack_arm true] rfl rfl
  exact ⟨_, _, rfl, rfl, rfl, h⟩

/-- What becomes of a decision: every `ack`/`nack` call returns `Ok(())`, and its send fails
only once the pump loop has ended; while the loop runs, every decision that entered the channel
is still queued or has been given to `write.send`, in order; a `write.send` that fails is
ignored and the loop goes on. Once the loop has ended, the `tx.send` of a suspended call fails
at once, the call still returns `Ok(())`, and its decision enters no channel and is never
written, whatever runs after. -/
theorem acks_return_ok_and_late_decisions_are_dropped
    (from_str : String → Except serde_json.Error ServerMessage)
    (server api_key : String) (topics : List String) (options : SubscribeOptions)
    (dial : String → Except tungstenite.Error Unit) (sent : Except tungstenite.Error Unit)
    (reply : Option (Except tungstenite.Error Message)) (acts : List Act) {s₀ s : Sub}
    (hc : connect from_str server api_key topics options dial sent reply = .ok s₀)
    (hr : s₀.run from_str acts = some s) :
    (∀ c ∈ s.completed, c.ret = .ok ()) ∧
    (∀ c ∈ s.completed, c.sent = false → s.pump.isStopped = true) ∧
    (s.pump.isStopped = false → ∃ popped, s.entered.map (·.decision) = popped ++ s.acks.buf ∧
      (s.written.drop 1).map Prod.fst = popped.map ackFrame) ∧
    (s.acks.buf ≠ [] → ∀ s', s.ackArm false = some s' → s'.pump = .select) ∧
    (s.pump = .stopped → ∀ j e m, s.calls[j]? = some (e, m) →
      ∃ s', s.step from_str (.ack_sent j) = some s' ∧
        s'.completed = s.completed ++ [⟨e, m, false, .ok ()⟩] ∧ s'.acks = s.acks ∧
        ∀ later t, s'.run from_str later = some t → t.written = s.written) := by
  rw [connect_eq_ok hc] at hr
  have ha : Acks (subscribeMessage topics options).to_value s :=
    Sub.run_induction from_str (Acks (subscribeMessage topics options).to_value)
      (fun _ _ _ ha h => ha.step h) acts (Acks.init _ _) hr
  refine ⟨fun c hc => (ha.completed c hc).2, ha.failed, fun hp => ?_, fun hb s' h => ?_,
    fun hp j e m hj => ?_⟩
  · obtain ⟨popped, rest, he, hw, hq⟩ := ha.frames
    refine ⟨popped.map (·.decision), by simp [he, hq hp], ?_⟩
    simp [hw]
  · obtain ⟨hp, ⟨m, c, -, rfl⟩ | ⟨hb', -, -⟩⟩ := Sub.ackArm_eq h
    · exact hp
    · exact absurd hb' hb
  · -- The call's `tx.send` meets the dropped `ack_rx`; after that no step writes.
    refine ⟨{ s with calls := s.calls.eraseIdx j, held := s.held ++ [e],
                     completed := s.completed ++ [⟨e, m, false, .ok ()⟩] },
      by simp only [Sub.step, Sub.ackSent, hj, hp], rfl, rfl,
      fun later t ht => (Sub.run_of_stopped ?_ later ht).2.1⟩
    exact hp

/-- A late acknowledgment: with auto_ack off the caller pulls `e1`, the server closes the
connection, the caller sees the stream end and then acks `e1`. The call returns `Ok(())`, yet
the decision enters no channel, and under every later run the subscribe frame stays the only
frame ever written. -/
theorem ack_after_the_end_returns_ok_and_is_lost :
    ∃ s₀ s, connect sampleFromStr "https://api.notif.sh" "nsh_key" ["orders.*"]
        { SubscribeOptions.new with auto_ack := false } (fun _ => .ok ()) (.ok ())
        (some (.ok (.Text subscribedText))) = .ok s₀ ∧
      s₀.run sampleFromStr [.inbound (some (.ok (.Text eventText))) ⟨0⟩, .event_sent, .poll_next,
        .inbound (some (.ok .Close)) ⟨1⟩, .poll_next, .ack 0] = some s ∧ s.ended = true ∧
      ∃ s', s.step sampleFromStr (.ack_sent 0) = some s' ∧
        s'.completed.map (fun c => (c.decision, c.sent, c.ret)) = [(.Ack "e1", false, .ok ())] ∧
        s'.acks.buf = [] ∧
        ∀ later t, s'.run sampleFromStr later = some t →
          t.written.map Prod.fst = [(subscribeMessage ["orders.*"]
            { SubscribeOptions.new with auto_ack := false }).to_value] := by
  obtain ⟨-, -, -, -, hlate⟩ := acks_return_ok_and_late_decisions_are_dropped sampleFromStr
    "https://api.notif.sh" "nsh_key" ["orders.*"] { SubscribeOptions.new with auto_ack := false }
    (fun _ => .ok ()) (.ok ()) (some (.ok (.Text subscribedText)))
    [.inbound (some (.ok (.Text eventText))) ⟨0⟩, .event_sent, .poll_next,
      .inbound (some (.ok .Close)) ⟨1⟩, .poll_next, .ack 0] rfl rfl
  obtain ⟨s', hs', hdone, hacks, hlost⟩ := hlate rfl 0 _ _ rfl
  exact ⟨_, _, rfl, rfl, rfl, s', hs', by rw [hdone]; rfl, by rw [hacks]; rfl,
    fun later t ht => by rw [hlost later t ht]; rfl⟩

end notifsh.subscribe
