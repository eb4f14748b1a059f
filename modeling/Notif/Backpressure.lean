-- The two bounded channels can deadlock the subscription. With auto_ack off, a caller that
-- acks each event before pulling the next, and a pump that keeps choosing its inbound arm,
-- fill both channels; the pump then waits in `event_tx.send` inside the inbound arm, where
-- the ack arm is not polled, while the caller waits in its ack's `tx.send`.
import Notif.Senders

namespace notifsh.subscribe

open tokio.mpsc
open tungstenite (Message)

/-! ## Running a block of steps again and again -/

/-- `block`, `n` times in a row. -/
def repeatActs (block : List Act) : Nat → List Act
  | 0 => []
  | n + 1 => repeatActs block n ++ block

section
variable {from_str : String → Except serde_json.Error ServerMessage}

/-- A block that takes every state of stage `i` to one of stage `i + 1`, run `n` times, takes
a state of stage `0` to one of stage `n`. -/
theorem Sub.run_repeat (block : List Act) (P : Nat → Sub → Prop) :
    ∀ n, (∀ i < n, ∀ s, P i s → ∃ s', s.run from_str block = some s' ∧ P (i + 1) s') →
      ∀ s, P 0 s → ∃ s', s.run from_str (repeatActs block n) = some s' ∧ P n s'
  | 0, _, s, hs => ⟨s, rfl, hs⟩
  | n + 1, hstep, s, hs => by
    obtain ⟨s₁, h₁, hs₁⟩ := Sub.run_repeat block P n (fun i hi => hstep i (by omega)) s hs
    obtain ⟨s₂, h₂, hs₂⟩ := hstep n (by omega) s₁ hs₁
    exact ⟨s₂, by simp [repeatActs, Sub.run_append, h₁, h₂], hs₂⟩

end

/-! ## The stages of the run -/

/-- The reader reads `t` as an event frame with an id and a topic. -/
def EventFrame (from_str : String → Except serde_json.Error ServerMessage) (t : String) : Prop :=
  ∃ m id topic, from_str t = .ok m ∧ m.msg_type = "event" ∧ m.id = some id ∧ m.topic = some topic

/-- A subscription with auto_ack off and its stream held, the pump at its `select!`, the caller
holding no event, `k` events in the event channel and `a` decisions in the ack channel, both of
capacity 100. -/
structure Loaded (k a : Nat) (s : Sub) : Prop where
  pump : s.pump = .select
  tx : s.ack_tx_for_events = some ⟨⟩
  stream : s.stream = true
  held : s.held = []
  events_cap : s.events.cap = 100
  events_len : s.events.buf.length = k
  events_ok : ∀ it ∈ s.events.buf, ∃ e, it = .ok e ∧ e.ack_tx = some ⟨⟩
  acks_cap : s.acks.cap = 100
  acks_len : s.acks.buf.length = a

/-- The state no run should reach: the pump suspended in `event_tx.send` on a full event
channel, inside the inbound arm where the ack arm is not polled, and a call of `Event::ack`
suspended in its `tx.send` on a full ack channel. -/
structure Deadlocked (s : Sub) : Prop where
  sending : ∃ item after, s.pump = .sending item after
  stream : s.stream = true
  events_full : s.events.cap ≤ s.events.buf.length
  waiting : s.calls ≠ []
  acks_full : s.acks.cap ≤ s.acks.buf.length

/-- The frame `t` read at `now`. -/
def frameIn (t : String) (now : chrono.DateTime) : Act := .inbound (some (.ok (.Text t))) now

/-- The pump reads the frame `t` and queues its event. -/
def frameActs (t : String) (now : chrono.DateTime) : List Act := [frameIn t now, .event_sent]

/-- One pass of the documented loop: `stream.next().await`, `event.ack().await`, whose
`tx.send` returns, and the event dropped at the end of the body. -/
def consumeActs : List Act := [.poll_next, .ack 0, .ack_sent 0, .drop_event 0]

/-- The end of the run: the caller pulls one more event and calls ack on it, and the pump
reads two more frames. -/
def lastActs (t : String) (now : chrono.DateTime) : List Act :=
  [.poll_next, .ack 0] ++ frameActs t now ++ [frameIn t now]

/-- The pump fills the event channel; then each pass of the caller's loop is followed by the
pump reading one more frame, until the ack channel is full too; then the last steps. The pump
takes its inbound arm at each `select!`, one of the choices `select!` may make. -/
def jamRun (t : String) (now : chrono.DateTime) : List Act :=
  repeatActs (frameActs t now) 100 ++ (repeatActs (consumeActs ++ frameActs t now) 100 ++ lastActs t now)

section
variable (from_str : String → Except serde_json.Error ServerMessage) {t : String}
  (now : chrono.DateTime) {k a : Nat} {s : Sub}

theorem inboundArm_event (ht : EventFrame from_str t) :
    ∃ e, inboundArm from_str (some ⟨⟩) now (some (.ok (.Text t))) = .send (.ok e) .breakOnErr ∧
      e.ack_tx = some ⟨⟩ := by
  obtain ⟨m, id, topic, hm, hev, hid, htopic⟩ := ht
  refine ⟨{ id, topic, data := m.data.getD .Null, timestamp := m.timestamp.getD now,
            attempt := m.attempt.getD 1, max_attempts := m.max_attempts.getD 3,
            ack_tx := some ⟨⟩ }, ?_, rfl⟩
  simp [inboundArm, hm, hev, hid, htopic]

/-- The pump reads an event frame: it is then in `event_tx.send` with the event. -/
theorem Loaded.read (ht : EventFrame from_str t) (hl : Loaded k a s) :
    ∃ e, s.step from_str (frameIn t now) =
        some { s with read := s.read ++ [(some (.ok (.Text t)), now)],
                      pump := .sending (.ok e) .breakOnErr } ∧ e.ack_tx = some ⟨⟩ := by
  obtain ⟨e, harm, he⟩ := inboundArm_event from_str now ht
  exact ⟨e, by simp [frameIn, Sub.step, Sub.inbound, hl.pump, hl.tx, harm, Sub.takeArm], he⟩

/-- The pump reads an event frame and queues its event. -/
theorem Loaded.frame (ht : EventFrame from_str t) (hl : Loaded k a s) (hk : k < 100) :
    ∃ s', s.run from_str (frameActs t now) = some s' ∧ Loaded (k + 1) a s' ∧ s'.calls = s.calls := by
  obtain ⟨e, hread, he⟩ := hl.read from_str now ht
  obtain ⟨c, hc, hbuf, hcap⟩ := Chan.push?_of_lt (Except.ok e : Item)
    (by rw [hl.events_len, hl.events_cap]; exact hk)
  refine ⟨{ s with read := s.read ++ [(some (.ok (.Text t)), now)], events := c, pump := .select },
    ?_, ⟨rfl, hl.tx, hl.stream, hl.held, by rw [hcap, hl.events_cap], by simp [hbuf, hl.events_len],
      fun it hit => ?_, hl.acks_cap, hl.acks_len⟩, rfl⟩
  · rw [frameActs, Sub.run, hread]
    simp [Sub.run, Sub.step, Sub.eventSent, hl.stream, hc, Sub.resume]
  · rw [hbuf] at hit
    rcases List.mem_append.mp hit with hit | hit
    · exact hl.events_ok it hit
    · exact ⟨e, List.mem_singleton.mp hit, he⟩

/-- The caller pulls the oldest event and calls ack on it: the call borrows the event and
waits in its `tx.send`. -/
theorem Loaded.ask (hl : Loaded (k + 1) a s) (hw : s.calls = []) :
    ∃ s' e, s.run from_str [.poll_next, .ack 0] = some s' ∧ Loaded k a s' ∧
      s'.calls = [(e, .Ack e.id)] := by
  obtain ⟨it, rest, hbuf⟩ : ∃ it rest, s.events.buf = it :: rest :=
    List.exists_cons_of_length_eq_add_one hl.events_len
  obtain ⟨e, rfl, he⟩ := hl.events_ok it (hbuf ▸ List.mem_cons_self _ _)
  obtain ⟨c, hpop, hbuf₁, hcap₁⟩ := Chan.pop?_of_cons hbuf
  refine ⟨{ s with events := c, pulled := s.pulled ++ [.ok e], calls := [(e, .Ack e.id)] }, e, ?_,
    ⟨hl.pump, hl.tx, hl.stream, hl.held, by rw [hcap₁, hl.events_cap], ?_, ?_, hl.acks_cap,
      hl.acks_len⟩, rfl⟩
  · simp [Sub.run, Sub.step, Sub.poll_next, hl.stream, hpop, Except.toOption, Sub.call, hl.held, he,
      hw]
  · have := hl.events_len
    rw [hbuf, List.length_cons] at this
    rw [hbuf₁]; omega
  · intro it hit
    exact hl.events_ok it (by rw [hbuf, ← hbuf₁]; exact List.mem_cons_of_mem _ hit)

/-- The waiting call's `tx.send` finds room: the decision is queued, the call returns the
event to the caller, who drops it. -/
theorem Loaded.answer {e : Event} {m : AckMessage} (hl : Loaded k a s) (hw : s.calls = [(e, m)])
    (ha : a < 100) :
    ∃ s', s.run from_str [.ack_sent 0, .drop_event 0] = some s' ∧ Loaded k (a + 1) s' ∧
      s'.calls = [] := by
  obtain ⟨c, hpush, hbuf, hcap⟩ := Chan.push?_of_lt m (by rw [hl.acks_len, hl.acks_cap]; exact ha)
  refine ⟨{ s with calls := [], acks := c, completed := s.completed ++ [⟨e, m, true, .ok ()⟩] }, ?_,
    ⟨hl.pump, hl.tx, hl.stream, hl.held, hl.events_cap, hl.events_len, hl.events_ok,
      by rw [hcap, hl.acks_cap], by simp [hbuf, hl.acks_len]⟩, rfl⟩
  simp [Sub.run, Sub.step, Sub.ackSent, hw, hl.pump, hpush, hl.held]

/-- One pass of the caller's loop, with room in the ack channel. -/
theorem Loaded.consume (hl : Loaded (k + 1) a s) (hw : s.calls = []) (ha : a < 100) :
    ∃ s', s.run from_str consumeActs = some s' ∧ Loaded k (a + 1) s' ∧ s'.calls = [] := by
  obtain ⟨s₁, e, h₁, hl₁, hw₁⟩ := hl.ask from_str hw
  obtain ⟨s₂, h₂, hl₂, hw₂⟩ := hl₁.answer from_str hw₁ ha
  exact ⟨s₂, by rw [show consumeActs = [.poll_next, .ack 0] ++ [.ack_sent 0, .drop_event 0] from rfl,
    Sub.run_append, h₁]; exact h₂, hl₂, hw₂⟩

/-- After the caller's last ack call, the pump reads one more frame and then another, whose
event it can no longer queue. -/
theorem Loaded.jam (ht : EventFrame from_str t) (hl : Loaded 100 100 s) (hw : s.calls = []) :
    ∃ s', s.run from_str (lastActs t now) = some s' ∧
      Deadlocked s' := by
  obtain ⟨s₁, e, h₁, hl₁, hw₁⟩ := hl.ask from_str hw
  obtain ⟨s₂, h₂, hl₂, hw₂⟩ := hl₁.frame from_str now ht (by omega)
  obtain ⟨e', h₃, -⟩ := hl₂.read from_str now ht
  refine ⟨{ s₂ with read := s₂.read ++ [(some (.ok (.Text t)), now)],
                    pump := .sending (.ok e') .breakOnErr }, ?_, ⟨_, _, rfl⟩, hl₂.stream, ?_,
    by simp [hw₂, hw₁], ?_⟩
  · simp only [lastActs, Sub.run_append, h₁, h₂, Option.some_bind]
    simp [Sub.run, h₃]
  · show s₂.events.cap ≤ s₂.events.buf.length
    rw [hl₂.events_cap, hl₂.events_len]
  · show s₂.acks.cap ≤ s₂.acks.buf.length
    rw [hl₂.acks_cap, hl₂.acks_len]

/-- In a deadlocked state neither the pump nor the waiting call can move: the pump's
`event_tx.send` finds no room, its `select!` is not reached again, and the call's `tx.send`
finds no room either. -/
theorem Deadlocked.stuck (hd : Deadlocked s) :
    s.step from_str .event_sent = none ∧ (∀ j, s.step from_str (.ack_sent j) = none) ∧
      (∀ ok, s.step from_str (.ack_arm ok) = none) ∧
      ∀ msg now, s.step from_str (.inbound msg now) = none := by
  obtain ⟨item, after, hp⟩ := hd.sending
  refine ⟨?_, fun j => ?_, fun ok => by simp [Sub.step, Sub.ackArm, hp],
    fun msg now => by simp [Sub.step, Sub.inbound, hp]⟩
  · simp [Sub.step, Sub.eventSent, hp, hd.stream, Chan.push?_eq_none.mpr hd.events_full]
  · simp only [Sub.step, Sub.ackSent]
    split
    · simp [hp, Chan.push?_eq_none.mpr hd.acks_full]
    · rfl

end

theorem Loaded.init {options : SubscribeOptions} (msg : SubscribeMessage)
    (ha : options.auto_ack = false) :
    Loaded 0 0 (Sub.init options msg) :=
  ⟨rfl, by simp [Sub.init, txFor, ha], rfl, rfl, rfl, rfl, nofun, rfl, rfl⟩

/-! ## The deadlock -/

/-- With auto_ack off, whatever reader and whatever event frame, a caller that acks each
event before pulling the next and a pump that keeps taking its inbound arm reach a state where
the pump waits in `event_tx.send` on a full event channel and the ack call waits in `tx.send` on
a full ack channel, and neither wait can end. -/
theorem subscription_deadlocks_with_both_channels_full
    (from_str : String → Except serde_json.Error ServerMessage) (server api_key : String)
    (topics : List String) (options : SubscribeOptions) (dial : String → Except tungstenite.Error Unit)
    (sent : Except tungstenite.Error Unit) (reply : Option (Except tungstenite.Error Message))
    (t : String) (now : chrono.DateTime) {s₀ : Sub}
    (hc : connect from_str server api_key topics options dial sent reply = .ok s₀)
    (ha : options.auto_ack = false) (ht : EventFrame from_str t) :
    ∃ s, s₀.run from_str (jamRun t now) = some s ∧ Deadlocked s ∧
      s.step from_str .event_sent = none ∧ (∀ j, s.step from_str (.ack_sent j) = none) ∧
      (∀ ok, s.step from_str (.ack_arm ok) = none) ∧
      ∀ msg now, s.step from_str (.inbound msg now) = none := by
  obtain rfl := connect_eq_ok hc
  obtain ⟨s₁, h₁, hl₁, hw₁⟩ := Sub.run_repeat (frameActs t now) (fun i s => Loaded i 0 s ∧ s.calls = [])
    100 (fun i hi s ⟨hl, hw⟩ => by
      obtain ⟨s', h, hl', hw'⟩ := hl.frame from_str now ht hi
      exact ⟨s', h, hl', hw'.trans hw⟩) _ ⟨Loaded.init _ ha, rfl⟩
  obtain ⟨s₂, h₂, hl₂, hw₂⟩ := Sub.run_repeat (consumeActs ++ frameActs t now)
    (fun i s => Loaded 100 i s ∧ s.calls = []) 100 (fun i hi s ⟨hl, hw⟩ => by
      obtain ⟨s', h, hl', hw'⟩ := hl.consume from_str hw hi
      obtain ⟨s'', h', hl'', hw''⟩ := hl'.frame from_str now ht (by omega)
      exact ⟨s'', by rw [Sub.run_append, h]; exact h', hl'', hw''.trans hw'⟩) s₁ ⟨hl₁, hw₁⟩
  obtain ⟨s₃, h₃, hd⟩ := hl₂.jam from_str now ht hw₂
  refine ⟨s₃, ?_, hd, hd.stuck from_str⟩
  rw [jamRun, Sub.run_append, h₁, Option.some_bind, Sub.run_append, h₂, Option.some_bind, h₃]

theorem subscription_deadlocks_on_the_sample_frames :
    ∃ s₀ s, connect sampleFromStr "https://api.notif.sh" "nsh_key" ["orders.*"]
        { SubscribeOptions.new with auto_ack := false } (fun _ => .ok ()) (.ok ())
        (some (.ok (.Text subscribedText))) = .ok s₀ ∧
      s₀.run sampleFromStr (jamRun eventText ⟨0⟩) = some s ∧ Deadlocked s ∧
      s.step sampleFromStr .event_sent = none ∧ (∀ j, s.step sampleFromStr (.ack_sent j) = none) ∧
      (∀ ok, s.step sampleFromStr (.ack_arm ok) = none) ∧
      ∀ msg now, s.step sampleFromStr (.inbound msg now) = none := by
  obtain ⟨s, h⟩ := subscription_deadlocks_with_both_channels_full sampleFromStr "https://api.notif.sh"
    "nsh_key" ["orders.*"] { SubscribeOptions.new with auto_ack := false } (fun _ => .ok ()) (.ok ())
    (some (.ok (.Text subscribedText))) eventText ⟨0⟩ rfl rfl ⟨_, _, _, rfl, rfl, rfl, rfl⟩
  exact ⟨_, s, rfl, h⟩

end notifsh.subscribe
