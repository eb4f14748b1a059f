-- The law of delivery: while the caller holds the stream, what it has pulled, what is
-- queued and what the pump is sending are, in order, the decoding of every frame the pump
-- has read; the pump stops reading at the first close, transport error or end of input. Once the
-- pump has ended, the caller pulls what is left and the stream then ends.
import Notif.Senders

namespace notifsh.subscribe

open tokio.mpsc
open tungstenite (Message)

/-! ## What the stream should yield -/

section
variable (from_str : String → Except serde_json.Error ServerMessage)

/-- The items one inbound message should give, by the protocol: an unreadable text is a
serialization error, an event frame with id and topic an event with the defaults for what it
omits, an event frame without them an error, an error frame an API error, any other type
nothing; a transport error gives its error, every other message nothing. -/
def decode (tx : Option AckSender) (now : chrono.DateTime) :
    Option (Except tungstenite.Error Message) → List Item
  | some (.ok (.Text t)) =>
    match from_str t with
    | .error e => [.error (.Serialization e)]
    | .ok m =>
      if m.msg_type = "event" then
        match m.id, m.topic with
        | some id, some topic =>
          [.ok ⟨id, topic, m.data.getD .Null, m.timestamp.getD now, m.attempt.getD 1,
            m.max_attempts.getD 3, tx⟩]
        | _, _ => [.error (.WebSocket "malformed event: missing id or topic")]
      else if m.msg_type = "error" then [.error (.Api 400 (m.message.getD "unknown error"))]
      else []
  | some (.error e) => [.error (.WebSocket e.text)]
  | _ => []

/-- The items of every message of a log, in order. -/
def frameItems (tx : Option AckSender)
    (log : List (Option (Except tungstenite.Error Message) × chrono.DateTime)) : List Item :=
  log.flatMap fun x => decode from_str tx x.2 x.1

end

/-- The results of `read.next()` after which the loop reads no more: a close frame, a
transport error, the end of the stream. -/
def closes : Option (Except tungstenite.Error Message) → Bool
  | some (.ok .Close) | some (.error _) | none => true
  | _ => false

/-- A log with no message that closes. -/
def Open (log : List (Option (Except tungstenite.Error Message) × chrono.DateTime)) : Prop :=
  ∀ x ∈ log, closes x.1 = false

/-- A log whose last message, and only that one, closes. -/
def Closed (log : List (Option (Except tungstenite.Error Message) × chrono.DateTime)) : Prop :=
  ∃ pre x, log = pre ++ [x] ∧ Open pre ∧ closes x.1 = true

/-- Where the pump can be after reading a log: at its `select!` only while nothing closed,
sending a transport error's item only right after it. -/
def Phase : Pump → List (Option (Except tungstenite.Error Message) × chrono.DateTime) → Prop
  | .select, log => Open log
  | .sending _ .exit, log => Closed log
  | .sending _ _, log => Open log
  | .stopped, log => Closed log

theorem Phase.open_or_closed {p : Pump} {log} (h : Phase p log) : Open log ∨ Closed log := by
  rcases p with _ | ⟨_, _ | _ | _⟩ | _
  all_goals first | exact .inl h | exact .inr h

/-! ## The inbound arm sends what the protocol says -/

section
variable {from_str : String → Except serde_json.Error ServerMessage} {tx : Option AckSender}
  {now : chrono.DateTime} {msg : Option (Except tungstenite.Error Message)}

theorem inboundArm_items : (inboundArm from_str tx now msg).items = decode from_str tx now msg := by
  rcases msg with _ | (_ | (text | _ | _ | _ | _ | _)) <;> try rfl
  simp only [inboundArm, decode]
  cases from_str text with
  | error e => rfl
  | ok m =>
    simp only
    split_ifs
    · cases m.id <;> cases m.topic <;> rfl
    all_goals rfl

/-- The arm breaks exactly on the messages that close. -/
theorem inboundArm_idle (h : inboundArm from_str tx now msg = .idle) : closes msg = false := by
  unfold inboundArm at h
  repeat' split at h
  all_goals simp_all [closes]

theorem inboundArm_exit (h : inboundArm from_str tx now msg = .exit) : closes msg = true := by
  unfold inboundArm at h
  repeat' split at h
  all_goals simp_all [closes]

theorem inboundArm_send {item : Item} {after : After}
    (h : inboundArm from_str tx now msg = .send item after) : (after = .exit ↔ closes msg = true) := by
  unfold inboundArm at h
  repeat' split at h
  all_goals (cases h; try simp [closes])

end

/-! ## The invariant -/

/-- What holds of a subscription while its stream is held. -/
structure Delivery (from_str : String → Except serde_json.Error ServerMessage) (s : Sub) : Prop where
  items : s.pulled ++ s.events.buf ++ s.pump.inflight = frameItems from_str (txFor s.auto_ack) s.read
  phase : Phase s.pump s.read
  ended : s.ended = true → s.pump = .stopped ∧ s.events.buf = []

section
variable {from_str : String → Except serde_json.Error ServerMessage} {s s' : Sub}

/-- Once dropped, the stream stays dropped. -/
theorem Sub.step_stream {a : Act} (h : s.step from_str a = some s') (hs : s'.stream = true) :
    s.stream = true := by
  cases a with
  | inbound msg now => obtain ⟨-, rfl⟩ := Sub.inbound_eq h; simpa using hs
  | event_sent =>
    obtain ⟨_, after, -, ⟨-, _, -, rfl⟩ | ⟨-, rfl⟩⟩ := Sub.eventSent_eq h <;> simpa using hs
  | ack_arm => obtain ⟨-, ⟨_, _, -, rfl⟩ | ⟨-, -, rfl⟩⟩ := Sub.ackArm_eq h <;> exact hs
  | poll_next => exact (Sub.poll_next_eq h).1
  | drop_stream => simp only [Sub.step] at h; split at h <;> cases h; simp at hs
  | drop_event => simp only [Sub.step] at h; split at h <;> cases h; exact hs
  | clone_event => obtain ⟨_, -, rfl⟩ := Option.map_eq_some'.mp h; exact hs
  | ack | nack => obtain ⟨_, -, ⟨-, rfl⟩ | ⟨-, rfl⟩⟩ := Sub.call_eq h <;> exact hs
  | ack_sent => obtain ⟨_, _, -, ⟨-, rfl⟩ | ⟨-, _, -, rfl⟩⟩ := Sub.ackSent_eq h <;> exact hs

theorem Sub.senders_ne_nil (hs : s.stream = true) : s.senders ≠ [] := by
  simp [Sub.senders, hs]

theorem frameItems_append (tx : Option AckSender) (log)
    (x : Option (Except tungstenite.Error Message) × chrono.DateTime) :
    frameItems from_str tx (log ++ [x]) = frameItems from_str tx log ++ decode from_str tx x.2 x.1 := by
  simp [frameItems]

theorem Delivery.inbound (hc : Carry s) (hd : Delivery from_str s)
    {msg : Option (Except tungstenite.Error Message)} {now : chrono.DateTime}
    (h : s.inbound from_str msg now = some s') : Delivery from_str s' := by
  obtain ⟨hp, rfl⟩ := Sub.inbound_eq h
  have htx := hc.pump_tx_of_running (by simp [hp, Pump.isStopped])
  have hopen : Open s.read := by simpa [hp, Phase] using hd.phase
  have hend : s.ended = false := by
    cases he : s.ended
    · rfl
    · simp [hd.ended he |>.1] at hp
  have hitems := hd.items
  rw [hp] at hitems
  have harm : (inboundArm from_str s.ack_tx_for_events now msg).items =
      decode from_str s.ack_tx_for_events now msg := inboundArm_items
  rw [htx] at harm ⊢
  rcases hA : inboundArm from_str (txFor s.auto_ack) now msg with _ | _ | ⟨item, after⟩
  all_goals rw [hA] at harm; simp only [Arm.items] at harm
  · refine ⟨?_, ?_, by simp [Sub.takeArm, hend]⟩
    · simp [Sub.takeArm, frameItems_append, ← harm, ← hitems, Pump.inflight, hp]
    · simp only [Sub.takeArm, hp, Phase]
      intro x hx
      rcases List.mem_append.mp hx with hx | hx
      · exact hopen x hx
      · rw [List.mem_singleton.mp hx]; exact inboundArm_idle hA
  · refine ⟨?_, ⟨s.read, (msg, now), rfl, hopen, inboundArm_exit hA⟩,
      by simp [Sub.takeArm, Sub.stop, hend]⟩
    simp [Sub.takeArm, Sub.stop, frameItems_append, ← harm, ← hitems, Pump.inflight]
  · refine ⟨?_, ?_, by simp [Sub.takeArm, hend]⟩
    · simp [Sub.takeArm, frameItems_append, ← harm, ← hitems, Pump.inflight]
    · have hx := inboundArm_send hA
      show Phase (.sending item after) (s.read ++ [(msg, now)])
      cases after with
      | exit => exact ⟨s.read, (msg, now), rfl, hopen, hx.mp rfl⟩
      | loop | breakOnErr =>
        intro x hx'
        rcases List.mem_append.mp hx' with hx' | hx'
        · exact hopen x hx'
        · rw [List.mem_singleton.mp hx']; simpa using hx

theorem Delivery.eventSent (hd : Delivery from_str s) (h : s.eventSent = some s')
    (hs : s'.stream = true) : Delivery from_str s' := by
  obtain ⟨item, after, hp, ⟨-, c, hc, rfl⟩ | ⟨hs', rfl⟩⟩ := Sub.eventSent_eq h
  · have hbuf := (Chan.push?_eq_some hc).2.1
    have hend : s.ended = false := by
      cases he : s.ended
      · rfl
      · simp [hd.ended he |>.1] at hp
    have hitems := hd.items
    have hphase := hd.phase
    rw [hp] at hitems hphase
    refine ⟨?_, ?_, by simp [hend]⟩
    · cases after <;> simpa [Sub.resume, Sub.stop, hbuf, Pump.inflight] using hitems
    · cases after <;> simpa [Sub.resume, Sub.stop, Phase] using hphase
  · simp [hs'] at hs

theorem Delivery.ackArm (hd : Delivery from_str s) {ok : Bool} (h : s.ackArm ok = some s')
    (hs : s'.stream = true) : Delivery from_str s' := by
  obtain ⟨-, ⟨m, c, -, rfl⟩ | ⟨-, hsend, rfl⟩⟩ := Sub.ackArm_eq h
  · exact ⟨hd.1, hd.2, hd.3⟩
  · exact absurd hsend (Sub.senders_ne_nil hs)

theorem Delivery.poll_next (hd : Delivery from_str s) (h : s.poll_next = some s') :
    Delivery from_str s' := by
  obtain ⟨-, ⟨item, c, hc, rfl⟩ | ⟨hb, hp, rfl⟩⟩ := Sub.poll_next_eq h
  · have hbuf := (Chan.pop?_eq_some hc).1
    refine ⟨?_, hd.phase, fun he => ?_⟩
    · simpa [hbuf] using hd.items
    · simp [hd.ended he |>.2] at hbuf
  · refine ⟨hd.items, hd.phase, fun _ => ⟨?_, hb⟩⟩
    revert hp; cases s.pump <;> simp [Pump.isStopped]

/-- Every step that leaves the stream held keeps the invariant. -/
theorem Delivery.step (hc : Carry s) (hd : Delivery from_str s) {a : Act}
    (h : s.step from_str a = some s') (hs : s'.stream = true) : Delivery from_str s' := by
  cases a with
  | inbound msg now => exact hd.inbound hc h
  | event_sent => exact hd.eventSent h hs
  | ack_arm => exact hd.ackArm h hs
  | poll_next => exact hd.poll_next h
  | drop_stream => simp only [Sub.step] at h; split at h <;> cases h; simp at hs
  | drop_event => simp only [Sub.step] at h; split at h <;> cases h; exact ⟨hd.1, hd.2, hd.3⟩
  | clone_event => obtain ⟨_, -, rfl⟩ := Option.map_eq_some'.mp h; exact ⟨hd.1, hd.2, hd.3⟩
  | ack | nack =>
    obtain ⟨_, -, ⟨-, rfl⟩ | ⟨-, rfl⟩⟩ := Sub.call_eq h <;> exact ⟨hd.1, hd.2, hd.3⟩
  | ack_sent =>
    obtain ⟨_, _, -, ⟨-, rfl⟩ | ⟨-, _, -, rfl⟩⟩ := Sub.ackSent_eq h <;> exact ⟨hd.1, hd.2, hd.3⟩

end

/-! ## The law -/

/-- Every state a new subscription reaches while its stream is held keeps the invariant. -/
theorem Delivery.run {from_str : String → Except serde_json.Error ServerMessage}
    {options : SubscribeOptions} {msg : SubscribeMessage} {acts : List Act} {s : Sub}
    (hr : (Sub.init options msg).run from_str acts = some s) (hs : s.stream = true) :
    Delivery from_str s := by
  obtain ⟨-, hd⟩ := Sub.run_induction from_str
    (fun t => Carry t ∧ (t.stream = true → Delivery from_str t))
    (fun _ _ _ ⟨hc, hd⟩ h => ⟨hc.step h, fun hs => (hd (Sub.step_stream h hs)).step hc h hs⟩)
    acts ⟨Carry.init _ _, fun _ => ⟨rfl, (fun x hx => by cases hx), by simp [Sub.init]⟩⟩ hr
  exact hd hs


/-- For every reader of frames, every sequence of inbound messages and every interleaving of
the pump's arms with the caller: after a successful `connect` (whose handshake read only its
own reply), while the caller holds the stream, what it has pulled, then what is queued, then
what the pump is sending, is the decoding of every message the pump read, in order. The pump
reads until the first message that closes and no further, and when the stream gives `None`
the caller has pulled all of it. -/
theorem pulled_items_are_the_decoded_frames
    (from_str : String → Except serde_json.Error ServerMessage)
    (server api_key : String) (topics : List String) (options : SubscribeOptions)
    (dial : String → Except tungstenite.Error Unit) (sent : Except tungstenite.Error Unit)
    (reply : Option (Except tungstenite.Error Message)) (acts : List Act) {s₀ s : Sub}
    (hc : connect from_str server api_key topics options dial sent reply = .ok s₀)
    (hr : s₀.run from_str acts = some s) (hs : s.stream = true) :
    s.pulled ++ s.events.buf ++ s.pump.inflight =
        frameItems from_str (txFor options.auto_ack) s.read ∧
      (Open s.read ∨ Closed s.read) ∧
      (s.ended = true →
        s.pulled = frameItems from_str (txFor options.auto_ack) s.read ∧ Closed s.read) := by
  rw [connect_eq_ok hc] at hr
  have hd := Delivery.run hr hs
  have hauto : s.auto_ack = options.auto_ack := Sub.run_auto_ack _ hr
  rw [← hauto]
  refine ⟨hd.items, hd.phase.open_or_closed, fun he => ?_⟩
  obtain ⟨hp, hb⟩ := hd.ended he
  have hitems := hd.items
  have hphase := hd.phase
  rw [hp, hb] at hitems
  rw [hp] at hphase
  exact ⟨by simpa [Pump.inflight] using hitems, hphase⟩

/-- One event frame, then the end of the stream: the caller pulls the event, then `None`. -/
theorem one_event_then_the_end :
    ∃ s₀ s, connect sampleFromStr "https://api.notif.sh" "nsh_key" ["orders.*"]
        SubscribeOptions.new (fun _ => .ok ()) (.ok ()) (some (.ok (.Text subscribedText))) = .ok s₀ ∧
      s₀.run sampleFromStr [.inbound (some (.ok (.Text eventText))) ⟨0⟩, .event_sent, .poll_next,
        .inbound none ⟨1⟩, .poll_next] = some s ∧
      s.stream = true ∧ s.ended = true ∧ s.pulled.length = 1 ∧
      s.pulled = frameItems sampleFromStr (txFor true) s.read ∧ Closed s.read := by
  obtain ⟨-, -, h⟩ := pulled_items_are_the_decoded_frames sampleFromStr "https://api.notif.sh"
    "nsh_key" ["orders.*"] SubscribeOptions.new (fun _ => .ok ()) (.ok ())
    (some (.ok (.Text subscribedText))) [.inbound (some (.ok (.Text eventText))) ⟨0⟩, .event_sent,
      .poll_next, .inbound none ⟨1⟩, .poll_next] rfl rfl rfl
  exact ⟨_, _, rfl, rfl, rfl, rfl, rfl, h rfl⟩

/-- While the caller holds the stream, the pump has ended only after reading a close frame, a
transport error or the end of input, and that message is the last one it read. -/
theorem pump_ends_only_when_the_connection_closes
    (from_str : String → Except serde_json.Error ServerMessage)
    (server api_key : String) (topics : List String) (options : SubscribeOptions)
    (dial : String → Except tungstenite.Error Unit) (sent : Except tungstenite.Error Unit)
    (reply : Option (Except tungstenite.Error Message)) (acts : List Act) {s₀ s : Sub}
    (hc : connect from_str server api_key topics options dial sent reply = .ok s₀)
    (hr : s₀.run from_str acts = some s) (hs : s.stream = true) (hp : s.pump = .stopped) :
    Closed s.read := by
  rw [connect_eq_ok hc] at hr
  have hphase := (Delivery.run hr hs).phase
  rwa [hp] at hphase

/-- The connection ends after one event, while the caller holds the stream. -/
theorem pump_ends_at_the_end_of_input :
    ∃ s₀ s, connect sampleFromStr "https://api.notif.sh" "nsh_key" ["orders.*"]
        SubscribeOptions.new (fun _ => .ok ()) (.ok ()) (some (.ok (.Text subscribedText))) = .ok s₀ ∧
      s₀.run sampleFromStr [.inbound (some (.ok (.Text eventText))) ⟨0⟩, .event_sent,
        .inbound none ⟨1⟩] = some s ∧
      s.stream = true ∧ s.pump = .stopped ∧ Closed s.read :=
  ⟨_, _, rfl, rfl, rfl, rfl, pump_ends_only_when_the_connection_closes sampleFromStr
    "https://api.notif.sh" "nsh_key" ["orders.*"] SubscribeOptions.new (fun _ => .ok ()) (.ok ())
    (some (.ok (.Text subscribedText))) [.inbound (some (.ok (.Text eventText))) ⟨0⟩, .event_sent,
      .inbound none ⟨1⟩] rfl rfl rfl rfl⟩

/-! ## The end of the stream -/

/-- Once the pump has ended, while the caller holds the stream, as many polls as there are items
left in the channel pull them in order, and the next poll gives `None`. -/
theorem stream_ends_once_the_pump_has_ended
    (from_str : String → Except serde_json.Error ServerMessage) {s : Sub}
    (hp : s.pump = .stopped) (hs : s.stream = true) :
    ∃ s', s.run from_str (List.replicate (s.events.buf.length + 1) .poll_next) = some s' ∧
      s'.pulled = s.pulled ++ s.events.buf ∧ s'.ended = true := by
  obtain ⟨n, hn⟩ : ∃ n, s.events.buf.length = n := ⟨_, rfl⟩
  rw [hn]
  induction n generalizing s with
  | zero =>
    have hb : s.events.buf = [] := List.length_eq_zero.mp hn
    refine ⟨{ s with ended := true }, ?_, by simp [hb], rfl⟩
    simp [Sub.run, Sub.step, Sub.poll_next, hs, Chan.pop?_eq_none.mpr hb, hp, Pump.isStopped]
  | succ n ih =>
    obtain ⟨a, rest, hb⟩ := List.exists_cons_of_length_eq_add_one hn
    obtain ⟨c, hc, hcb, -⟩ := Chan.pop?_of_cons hb
    let s₁ : Sub := { s with events := c, pulled := s.pulled ++ [a],
                             held := s.held ++ a.toOption.toList }
    have h₁ : s.step from_str .poll_next = some s₁ := by
      simp [Sub.step, Sub.poll_next, hs, hc, s₁]
    obtain ⟨s', h', hpulled, hend⟩ := ih (s := s₁) hp hs (by simpa [s₁, hcb, hb] using hn)
    refine ⟨s', ?_, by simp [hpulled, s₁, hcb, hb], hend⟩
    rw [List.replicate_succ, Sub.run, h₁, Option.some_bind, h']

/-- An event is queued, the connection closes, and the holder pulls the event, then `None`. -/
theorem queued_event_is_pulled_before_the_end :
    ∃ s, (Sub.init SubscribeOptions.new (subscribeMessage ["orders.*"] SubscribeOptions.new)).run
        sampleFromStr [.inbound (some (.ok (.Text eventText))) ⟨0⟩, .event_sent,
          .inbound none ⟨1⟩] = some s ∧
      s.pump = .stopped ∧ s.stream = true ∧ s.events.buf.length = 1 ∧
      ∃ s', s.run sampleFromStr (List.replicate (s.events.buf.length + 1) .poll_next) = some s' ∧
        s'.pulled = s.pulled ++ s.events.buf ∧ s'.ended = true := by
  refine ⟨_, rfl, rfl, rfl, rfl, ?_⟩
  exact stream_ends_once_the_pump_has_ended sampleFromStr rfl rfl

end notifsh.subscribe
