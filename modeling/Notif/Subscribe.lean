-- `EventStream::connect` and its pump (`sdk/rust/src/subscribe.rs`), with the caller
-- around them. A subscription is a state `Sub`; every party (the pump task, the holder of
-- the stream, every task that holds an `Event`) moves it by one `Act` at a time.
import Notif.Types

namespace notifsh.subscribe

open serde_json tokio.mpsc
open tungstenite (Message)

/-- `Result<Event>`: what the event channel carries. -/
abbrev Item := Except NotifError Event

/-- The `ack_tx` a subscription gives its events: none with auto_ack. -/
def txFor (auto_ack : Bool) : Option AckSender := if auto_ack then none else some ⟨⟩

/-- The URL `connect` dials: both schemes replaced wherever they stand, then the path and the
API key, pasted as it is. -/
def ws_url (server api_key : String) : String :=
  ((server.replace "https://" "wss://").replace "http://" "ws://") ++ "/ws?token=" ++ api_key

/-- The subscribe frame of `connect`. -/
def subscribeMessage (topics : List String) (options : SubscribeOptions) : SubscribeMessage :=
  { action := "subscribe", topics,
    options := some { auto_ack := options.auto_ack, «from» := options.«from», group := options.group } }

/-- The frame the ack arm writes for a decision. -/
def ackFrame : AckMessage → Value
  | .Ack id => AckWireMessage.to_value { action := "ack", id }
  | .Nack id retry_in => NackWireMessage.to_value { action := "nack", id, retry_in }

theorem subscribeMessage_to_value (topics : List String) (options : SubscribeOptions) :
    (subscribeMessage topics options).to_value =
      .Object [("action", .String "subscribe"), ("topics", .Array (topics.map .String)),
        ("options", .Object ([("auto_ack", .Bool options.auto_ack)] ++
          optField "from" options.«from» ++ optField "group" options.group))] := rfl

theorem ackFrame_Ack (id : String) :
    ackFrame (.Ack id) = .Object [("action", .String "ack"), ("id", .String id)] := rfl

theorem ackFrame_Nack (id : String) (retry_in : Option String) :
    ackFrame (.Nack id retry_in) =
      .Object ([("action", .String "nack"), ("id", .String id)] ++ optField "retry_in" retry_in) := rfl

/-! ## The pump -/

/-- What the inbound arm does once its `event_tx.send(..).await` returns. -/
inductive After where
  /-- `let _ = event_tx.send(..).await;` and the loop goes on. -/
  | loop
  /-- `if event_tx.send(Ok(event)).await.is_err() { break; }` -/
  | breakOnErr
  /-- `let _ = event_tx.send(..).await; break;` -/
  | exit
  deriving Repr, DecidableEq

/-- The work of the inbound arm for one result of `read.next()`. -/
inductive Arm where
  /-- Nothing is sent and the loop goes on. -/
  | idle
  /-- `break` with nothing sent. -/
  | exit
  | send (item : Item) (after : After)

/-- Where the pump task is: at the `select!` of its loop, suspended in `event_tx.send` inside
the inbound arm (the ack arm is not polled there), or ended. -/
inductive Pump where
  | select
  | sending (item : Item) (after : After)
  | stopped

section
variable (from_str : String → Except serde_json.Error ServerMessage)

/-- The inbound arm of the `select!`. `from_str` is `serde_json::from_str::<ServerMessage>`;
`tx` is `ack_tx_for_events`; `now` is `chrono::Utc::now()` at this frame. -/
def inboundArm (tx : Option AckSender) (now : chrono.DateTime) :
    Option (Except tungstenite.Error Message) → Arm
  | some (.ok (.Text text)) =>
    match from_str text with
    | .ok server_msg =>
      if server_msg.msg_type = "event" then
        match server_msg.id, server_msg.topic with
        | some id, some topic =>
          .send (.ok { id, topic, data := server_msg.data.getD .Null,
                       timestamp := server_msg.timestamp.getD now,
                       attempt := server_msg.attempt.getD 1,
                       max_attempts := server_msg.max_attempts.getD 3, ack_tx := tx }) .breakOnErr
        | _, _ => .send (.error (.WebSocket "malformed event: missing id or topic")) .loop
      else if server_msg.msg_type = "error" then
        .send (.error (.Api 400 (server_msg.message.getD "unknown error"))) .loop
      else .idle
    | .error e => .send (.error (.Serialization e)) .loop
  | some (.ok .Close) => .exit
  | some (.error e) => .send (.error (.WebSocket e.text)) .exit
  | none => .exit
  | some (.ok _) => .idle

end

/-! ## The state of a subscription -/

/-- An `ack`/`nack` call that has returned: the event it was called on, its decision, whether
its `tx.send` put the decision in the channel, and what the call returned. -/
structure AckCall where
  event : Event
  decision : AckMessage
  sent : Bool
  ret : Except NotifError Unit

/-- A subscription after a successful `connect`: the pump, the two channels, the stream and
the events its holder keeps, and what went over the connection. -/
structure Sub where
  /-- `options.auto_ack` of the subscription. -/
  auto_ack : Bool
  pump : Pump
  /-- The pump task's own `ack_tx_for_events`, moved into it by `tokio::spawn`. -/
  ack_tx_for_events : Option AckSender
  /-- `event_tx` to `event_rx`. -/
  events : Chan Item
  /-- `ack_tx` to `ack_rx`. -/
  acks : Chan AckMessage
  /-- The `EventStream` is alive, and with it `event_rx` and its `ack_tx`. -/
  stream : Bool
  /-- The events the caller holds. -/
  held : List Event
  /-- `ack`/`nack` calls suspended in `tx.send(..).await`, with the event each borrows. -/
  calls : List (Event × AckMessage)
  /-- Every `read.next()` result of the loop, with the clock when it was decoded. -/
  read : List (Option (Except tungstenite.Error Message) × chrono.DateTime)
  /-- Every frame given to `write.send`, and whether that send succeeded. -/
  written : List (Value × Bool)
  /-- The items `poll_next` gave the caller. -/
  pulled : List Item
  /-- `poll_next` gave `None`. -/
  ended : Bool
  /-- The `ack`/`nack` calls with a sender that have returned, in the order they did. -/
  completed : List AckCall

/-- The state `connect` leaves: channels of capacity 100, the pump at its `select!`, the
subscribe frame written. -/
def Sub.init (options : SubscribeOptions) (subscribe_msg : SubscribeMessage) : Sub where
  auto_ack := options.auto_ack
  pump := .select
  ack_tx_for_events := txFor options.auto_ack
  events := .new 100
  acks := .new 100
  stream := true
  held := []
  calls := []
  read := []
  written := [(subscribe_msg.to_value, true)]
  pulled := []
  ended := false
  completed := []

section
variable (from_str : String → Except serde_json.Error ServerMessage)

/-- `EventStream::connect`. The I/O is the environment's: `dial` is `connect_async` at the
URL, `sent` the `write.send` of the subscribe frame, `reply` the one `read.next()` of the
handshake. `serde_json::to_string` of the subscribe frame cannot fail and is left out. -/
def connect (server api_key : String) (topics : List String) (options : SubscribeOptions)
    (dial : String → Except tungstenite.Error Unit) (sent : Except tungstenite.Error Unit)
    (reply : Option (Except tungstenite.Error Message)) : Except NotifError Sub :=
  match dial (ws_url server api_key) with
  | .error e => .error (.WebSocket ("connection failed: " ++ e.text))
  | .ok () =>
    match sent with
    | .error e => .error (.WebSocket ("failed to send subscribe: " ++ e.text))
    | .ok () =>
      match reply with
      | some (.ok (.Text text)) =>
        match from_str text with
        | .error e => .error (.Serialization e)
        | .ok msg =>
          if msg.msg_type = "subscribed" then .ok (Sub.init options (subscribeMessage topics options))
          else if msg.msg_type = "error" then
            .error (.Api 400 (msg.message.getD "subscription error"))
          else .error (.WebSocket ("unexpected message type: " ++ msg.msg_type))
      | some (.ok _) => .error (.WebSocket "unexpected message format")
      | some (.error e) => .error (.WebSocket ("WebSocket error: " ++ e.text))
      | none => .error (.WebSocket "connection closed unexpectedly")

end

/-! ## The steps -/

/-- One step of one party. -/
inductive Act where
  /-- The `select!` takes the inbound arm: `read.next()` gave `msg`, decoded at `now`. -/
  | inbound (msg : Option (Except tungstenite.Error Message)) (now : chrono.DateTime)
  /-- The pump's `event_tx.send(..).await` returns. -/
  | event_sent
  /-- The `select!` takes the ack arm; a frame it writes has `write.send` give `ok`. -/
  | ack_arm (ok : Bool)
  /-- The holder of the stream polls it. -/
  | poll_next
  /-- The holder drops the stream. -/
  | drop_stream
  | drop_event (i : Nat)
  | clone_event (i : Nat)
  /-- `held[i].ack()` starts. -/
  | ack (i : Nat)
  /-- `held[i].nack(retry_in)` starts. -/
  | nack (i : Nat) (retry_in : Option String)
  /-- The `tx.send(..).await` of suspended call `j` returns. -/
  | ack_sent (j : Nat)

/-- The item the pump holds while it is suspended in `event_tx.send`. -/
def Pump.inflight : Pump → List Item
  | .sending item _ => [item]
  | _ => []

def Pump.isStopped : Pump → Bool
  | .stopped => true
  | _ => false

/-- The ack senders inside an item. -/
def itemSenders : Item → List AckSender
  | .ok e => e.ack_tx.toList
  | .error _ => []

/-- Every live clone of the ack sender: the stream's `ack_tx`, the pump's
`ack_tx_for_events`, and those of the events in the pump, in the channel, held by the
caller or borrowed by a call. `ack_rx.recv()` gives `None` once there is none and the
channel is empty. -/
def Sub.senders (s : Sub) : List AckSender :=
  (if s.stream then [⟨⟩] else []) ++ s.ack_tx_for_events.toList ++
    s.pump.inflight.flatMap itemSenders ++ s.events.buf.flatMap itemSenders ++
    s.held.flatMap (·.ack_tx.toList) ++ s.calls.flatMap (·.1.ack_tx.toList)

/-- The end of the pump task: it drops `read`, `write`, `event_tx`, `ack_rx` (and the
decisions still queued in it) and its `ack_tx_for_events`. -/
def Sub.stop (s : Sub) : Sub :=
  { s with pump := .stopped, ack_tx_for_events := none, acks := s.acks.clear }

/-- The loop once `event_tx.send` has returned, `ok` when it succeeded. -/
def Sub.resume (s : Sub) : After → Bool → Sub
  | .loop, _ => { s with pump := .select }
  | .breakOnErr, true => { s with pump := .select }
  | .breakOnErr, false => s.stop
  | .exit, _ => s.stop

/-- The inbound arm's work done on the state. -/
def Sub.takeArm (s : Sub) : Arm → Sub
  | .idle => s
  | .exit => s.stop
  | .send item after => { s with pump := .sending item after }

/-! The arm's work and the resumption touch only the pump, its sender and the ack channel. -/

section
variable (s : Sub) (arm : Arm) (after : After) (ok : Bool)

@[simp] theorem Sub.takeArm_stream : (s.takeArm arm).stream = s.stream := by cases arm <;> rfl
@[simp] theorem Sub.takeArm_auto_ack : (s.takeArm arm).auto_ack = s.auto_ack := by cases arm <;> rfl
@[simp] theorem Sub.takeArm_events : (s.takeArm arm).events = s.events := by cases arm <;> rfl
@[simp] theorem Sub.takeArm_pulled : (s.takeArm arm).pulled = s.pulled := by cases arm <;> rfl
@[simp] theorem Sub.takeArm_ended : (s.takeArm arm).ended = s.ended := by cases arm <;> rfl
@[simp] theorem Sub.takeArm_read : (s.takeArm arm).read = s.read := by cases arm <;> rfl
@[simp] theorem Sub.takeArm_written : (s.takeArm arm).written = s.written := by cases arm <;> rfl
@[simp] theorem Sub.takeArm_held : (s.takeArm arm).held = s.held := by cases arm <;> rfl
@[simp] theorem Sub.takeArm_calls : (s.takeArm arm).calls = s.calls := by cases arm <;> rfl
@[simp] theorem Sub.takeArm_completed : (s.takeArm arm).completed = s.completed := by
  cases arm <;> rfl

@[simp] theorem Sub.resume_stream : (s.resume after ok).stream = s.stream := by
  cases after <;> cases ok <;> rfl
@[simp] theorem Sub.resume_auto_ack : (s.resume after ok).auto_ack = s.auto_ack := by
  cases after <;> cases ok <;> rfl
@[simp] theorem Sub.resume_events : (s.resume after ok).events = s.events := by
  cases after <;> cases ok <;> rfl
@[simp] theorem Sub.resume_pulled : (s.resume after ok).pulled = s.pulled := by
  cases after <;> cases ok <;> rfl
@[simp] theorem Sub.resume_ended : (s.resume after ok).ended = s.ended := by
  cases after <;> cases ok <;> rfl
@[simp] theorem Sub.resume_read : (s.resume after ok).read = s.read := by
  cases after <;> cases ok <;> rfl
@[simp] theorem Sub.resume_written : (s.resume after ok).written = s.written := by
  cases after <;> cases ok <;> rfl
@[simp] theorem Sub.resume_held : (s.resume after ok).held = s.held := by
  cases after <;> cases ok <;> rfl
@[simp] theorem Sub.resume_calls : (s.resume after ok).calls = s.calls := by
  cases after <;> cases ok <;> rfl
@[simp] theorem Sub.resume_completed : (s.resume after ok).completed = s.completed := by
  cases after <;> cases ok <;> rfl

end

section
variable (from_str : String → Except serde_json.Error ServerMessage)

def Sub.inbound (s : Sub) (msg : Option (Except tungstenite.Error Message))
    (now : chrono.DateTime) : Option Sub :=
  match s.pump with
  | .select =>
    some ({ s with read := s.read ++ [(msg, now)] }.takeArm
      (inboundArm from_str s.ack_tx_for_events now msg))
  | _ => none

end

/-- `event_tx.send(item).await` returns once there is room, or at once with an error when
`event_rx` is gone (the item is dropped). -/
def Sub.eventSent (s : Sub) : Option Sub :=
  match s.pump with
  | .sending item after =>
    if s.stream then (s.events.push? item).map fun c => { s with events := c }.resume after true
    else some (s.resume after false)
  | _ => none

/-- The ack arm: `ack_rx.recv()` gives the oldest decision, which is written as its frame
(the result of `write.send` is dropped), or `None`, which ends the loop. -/
def Sub.ackArm (s : Sub) (ok : Bool) : Option Sub :=
  match s.pump with
  | .select =>
    match s.acks.pop? with
    | some (m, c) => some { s with acks := c, written := s.written ++ [(ackFrame m, ok)] }
    | none => if s.senders = [] then some s.stop else none
  | _ => none

/-- `EventStream::poll_next`, which is `event_rx.poll_recv`: the oldest item, `None` once the
pump has ended and the channel is empty, and pending otherwise. -/
def Sub.poll_next (s : Sub) : Option Sub :=
  if s.stream then
    match s.events.pop? with
    | some (item, c) =>
      some { s with events := c, pulled := s.pulled ++ [item],
                    held := s.held ++ item.toOption.toList }
    | none => if s.pump.isStopped then some { s with ended := true } else none
  else none

/-- The start of `Event::ack` or `Event::nack` on `held[i]`: a no-op returning `Ok(())` without
a sender, else the call borrows the event and waits in `tx.send`. -/
def Sub.call (s : Sub) (i : Nat) (decision : Event → AckMessage) : Option Sub :=
  match s.held[i]? with
  | some e =>
    match e.ack_tx with
    | none => some s
    | some _ => some { s with held := s.held.eraseIdx i, calls := s.calls ++ [(e, decision e)] }
  | none => none

/-- The `tx.send` of call `j` returns: into the channel if `ack_rx` is alive and there is room,
an error if the pump has ended. Either way the call returns `Ok(())` (`let _ = ...`). -/
def Sub.ackSent (s : Sub) (j : Nat) : Option Sub :=
  match s.calls[j]? with
  | some (e, m) =>
    let s₁ := { s with calls := s.calls.eraseIdx j, held := s.held ++ [e] }
    match s.pump with
    | .stopped => some { s₁ with completed := s.completed ++ [⟨e, m, false, .ok ()⟩] }
    | _ => (s.acks.push? m).map fun c =>
      { s₁ with acks := c, completed := s.completed ++ [⟨e, m, true, .ok ()⟩] }
  | none => none

section
variable (from_str : String → Except serde_json.Error ServerMessage)

/-- One step of the subscription; `none` when the party cannot move. -/
def Sub.step (s : Sub) : Act → Option Sub
  | .inbound msg now => s.inbound from_str msg now
  | .event_sent => s.eventSent
  | .ack_arm ok => s.ackArm ok
  | .poll_next => s.poll_next
  | .drop_stream => if s.stream then some { s with stream := false, events := s.events.clear } else none
  | .drop_event i => if i < s.held.length then some { s with held := s.held.eraseIdx i } else none
  | .clone_event i => s.held[i]?.map fun e => { s with held := s.held ++ [e] }
  | .ack i => s.call i fun e => .Ack e.id
  | .nack i retry_in => s.call i fun e => .Nack e.id retry_in
  | .ack_sent j => s.ackSent j

/-- A run: the steps in order, `none` as soon as one cannot be taken. -/
def Sub.run (s : Sub) : List Act → Option Sub
  | [] => some s
  | a :: as => (s.step from_str a).bind fun s' => s'.run as

/-- A property that every step keeps holds after every run. -/
theorem Sub.run_induction (P : Sub → Prop)
    (hstep : ∀ s a s', P s → s.step from_str a = some s' → P s') :
    ∀ {s s' : Sub} (acts : List Act), P s → s.run from_str acts = some s' → P s'
  | s, s', [], hs, h => by cases h; exact hs
  | s, s', a :: as, hs, h => by
    obtain ⟨s₁, h₁, h₂⟩ := Option.bind_eq_some.mp h
    exact Sub.run_induction P hstep as (hstep s a s₁ hs h₁) h₂

theorem Sub.run_append {s : Sub} (as bs : List Act) :
    s.run from_str (as ++ bs) = (s.run from_str as).bind fun t => t.run from_str bs := by
  induction as generalizing s with
  | nil => rfl
  | cons a as ih =>
    show ((s.step from_str a).bind fun t => t.run from_str (as ++ bs)) = _
    simp only [ih, Sub.run, Option.bind_assoc]

end

/-! ## What one step does -/

section
variable {from_str : String → Except serde_json.Error ServerMessage} {s s' : Sub}

theorem Sub.inbound_eq {msg : Option (Except tungstenite.Error Message)} {now : chrono.DateTime}
    (h : s.inbound from_str msg now = some s') :
    s.pump = .select ∧ s' = { s with read := s.read ++ [(msg, now)] }.takeArm
      (inboundArm from_str s.ack_tx_for_events now msg) := by
  unfold Sub.inbound at h
  split at h
  · exact ⟨‹_›, (Option.some.inj h).symm⟩
  · cases h

theorem Sub.eventSent_eq (h : s.eventSent = some s') :
    ∃ item after, s.pump = .sending item after ∧
      ((s.stream = true ∧ ∃ c, s.events.push? item = some c ∧
          s' = { s with events := c }.resume after true) ∨
        (s.stream = false ∧ s' = s.resume after false)) := by
  unfold Sub.eventSent at h
  split at h
  · rename_i item after hp
    refine ⟨item, after, hp, ?_⟩
    split at h
    · obtain ⟨c, hc, rfl⟩ := Option.map_eq_some'.mp h
      exact .inl ⟨‹_›, c, hc, rfl⟩
    · exact .inr ⟨Bool.eq_false_iff.mpr ‹_›, (Option.some.inj h).symm⟩
  · cases h

theorem Sub.ackArm_eq {ok : Bool} (h : s.ackArm ok = some s') :
    s.pump = .select ∧
      ((∃ m c, s.acks.pop? = some (m, c) ∧
          s' = { s with acks := c, written := s.written ++ [(ackFrame m, ok)] }) ∨
        (s.acks.buf = [] ∧ s.senders = [] ∧ s' = s.stop)) := by
  unfold Sub.ackArm at h
  split at h
  · refine ⟨‹_›, ?_⟩
    split at h
    · exact .inl ⟨_, _, ‹_›, (Option.some.inj h).symm⟩
    · split at h
      · exact .inr ⟨Chan.pop?_eq_none.mp ‹_›, ‹_›, (Option.some.inj h).symm⟩
      · cases h
  · cases h

theorem Sub.poll_next_eq (h : s.poll_next = some s') :
    s.stream = true ∧
      ((∃ item c, s.events.pop? = some (item, c) ∧
          s' = { s with events := c, pulled := s.pulled ++ [item],
                        held := s.held ++ item.toOption.toList }) ∨
        (s.events.buf = [] ∧ s.pump.isStopped = true ∧ s' = { s with ended := true })) := by
  unfold Sub.poll_next at h
  split at h
  · refine ⟨‹_›, ?_⟩
    split at h
    · exact .inl ⟨_, _, ‹_›, (Option.some.inj h).symm⟩
    · split at h
      · exact .inr ⟨Chan.pop?_eq_none.mp ‹_›, ‹_›, (Option.some.inj h).symm⟩
      · cases h
  · cases h

theorem Sub.call_eq {i : Nat} {decision : Event → AckMessage} (h : s.call i decision = some s') :
    ∃ e, s.held[i]? = some e ∧
      ((e.ack_tx = none ∧ s' = s) ∨
        (e.ack_tx.isSome = true ∧
          s' = { s with held := s.held.eraseIdx i, calls := s.calls ++ [(e, decision e)] })) := by
  unfold Sub.call at h
  split at h
  · rename_i e he
    refine ⟨e, he, ?_⟩
    split at h
    · exact .inl ⟨‹_›, (Option.some.inj h).symm⟩
    · exact .inr ⟨by simp [‹e.ack_tx = _›], (Option.some.inj h).symm⟩
  · cases h

theorem Sub.ackSent_eq {j : Nat} (h : s.ackSent j = some s') :
    ∃ e m, s.calls[j]? = some (e, m) ∧
      ((s.pump = .stopped ∧
          s' = { s with calls := s.calls.eraseIdx j, held := s.held ++ [e],
                        completed := s.completed ++ [⟨e, m, false, .ok ()⟩] }) ∨
        (s.pump.isStopped = false ∧ ∃ c, s.acks.push? m = some c ∧
          s' = { s with calls := s.calls.eraseIdx j, held := s.held ++ [e], acks := c,
                        completed := s.completed ++ [⟨e, m, true, .ok ()⟩] })) := by
  unfold Sub.ackSent at h
  split at h
  · rename_i e m he
    refine ⟨e, m, he, ?_⟩
    split at h
    · exact .inl ⟨‹_›, (Option.some.inj h).symm⟩
    · obtain ⟨c, hc, rfl⟩ := Option.map_eq_some'.mp h
      refine .inr ⟨?_, c, hc, rfl⟩
      unfold Pump.isStopped; split <;> simp_all
  · cases h

/-- The steps of the caller: polling, dropping, cloning and acknowledging. -/
def Act.byCaller : Act → Bool
  | .inbound .. | .event_sent | .ack_arm _ => false
  | _ => true

/-- A step of the caller leaves the pump and the connection alone. -/
theorem Sub.step_byCaller {a : Act} (h : s.step from_str a = some s') (ha : a.byCaller = true) :
    s'.pump = s.pump ∧ s'.ack_tx_for_events = s.ack_tx_for_events ∧ s'.auto_ack = s.auto_ack ∧
      s'.read = s.read ∧ s'.written = s.written := by
  cases a with
  | inbound | event_sent | ack_arm => cases ha
  | poll_next => obtain ⟨-, ⟨_, _, -, rfl⟩ | ⟨-, -, rfl⟩⟩ := Sub.poll_next_eq h <;> simp
  | drop_stream | drop_event =>
    simp only [Sub.step] at h; split at h <;> cases h; simp
  | clone_event => obtain ⟨_, -, rfl⟩ := Option.map_eq_some'.mp h; simp
  | ack | nack => obtain ⟨_, -, ⟨-, rfl⟩ | ⟨-, rfl⟩⟩ := Sub.call_eq h <;> simp
  | ack_sent => obtain ⟨_, _, -, ⟨-, rfl⟩ | ⟨-, _, -, rfl⟩⟩ := Sub.ackSent_eq h <;> simp

/-- No step changes the options of the subscription. -/
theorem Sub.step_auto_ack {a : Act} (h : s.step from_str a = some s') : s'.auto_ack = s.auto_ack := by
  cases ha : a.byCaller
  · cases a with
    | inbound msg now =>
      obtain ⟨-, rfl⟩ := Sub.inbound_eq h
      cases inboundArm from_str s.ack_tx_for_events now msg <;> rfl
    | event_sent =>
      obtain ⟨_, after, -, ⟨-, _, -, rfl⟩ | ⟨-, rfl⟩⟩ := Sub.eventSent_eq h <;>
        cases after <;> rfl
    | ack_arm => obtain ⟨-, ⟨_, _, -, rfl⟩ | ⟨-, -, rfl⟩⟩ := Sub.ackArm_eq h <;> rfl
    | _ => cases ha
  · exact (Sub.step_byCaller h ha).2.2.1

end

/-- `connect` succeeds only with the state of a new subscription. -/
theorem connect_eq_ok {from_str : String → Except serde_json.Error ServerMessage}
    {server api_key : String} {topics : List String} {options : SubscribeOptions}
    {dial : String → Except tungstenite.Error Unit} {sent : Except tungstenite.Error Unit}
    {reply : Option (Except tungstenite.Error Message)} {s : Sub}
    (h : connect from_str server api_key topics options dial sent reply = .ok s) :
    s = Sub.init options (subscribeMessage topics options) := by
  unfold connect at h
  repeat' split at h
  all_goals (cases h; try rfl)

/-! ## Two frames of the protocol -/

/-- A confirmation of the server: `{"type":"subscribed","topics":["orders.*"],"consumer_id":"c1"}`. -/
def subscribedText : String :=
  "\x7b\"type\":\"subscribed\",\"topics\":[\"orders.*\"],\"consumer_id\":\"c1\"\x7d"

/-- An event frame: `{"type":"event","id":"e1","topic":"orders.created"}`. -/
def eventText : String := "\x7b\"type\":\"event\",\"id\":\"e1\",\"topic\":\"orders.created\"\x7d"

/-- `serde_json::from_str::<ServerMessage>` on these two texts, as serde_json reads them (the
fields the SDK does not keep are dropped); it fails on every other text. -/
def sampleFromStr (text : String) : Except serde_json.Error ServerMessage :=
  if text = subscribedText then
    .ok { msg_type := "subscribed", id := none, topic := none, data := none, timestamp := none,
          attempt := none, max_attempts := none, message := none }
  else if text = eventText then
    .ok { msg_type := "event", id := some "e1", topic := some "orders.created", data := none,
          timestamp := none, attempt := none, max_attempts := none, message := none }
  else .error ⟨"expected value at line 1 column 1"⟩

end notifsh.subscribe
