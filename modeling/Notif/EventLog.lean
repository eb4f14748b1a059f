-- The event log of the modular desktop app (`examples/modular-desktop/event-log/src/lib.rs`):
-- a client of the SDK that subscribes to `desktop.>` and forwards what the stream yields to
-- its front end, one `app.emit` at a time, and subscribes again after each return. Over every
-- run of that loop the statuses it shows bracket each connection.
import Notif.Handshake

namespace event_log

open notifsh notifsh.subscribe notifsh.client
open serde_json (Value)
open tungstenite (Message)

/-! ## What the app emits -/

/-- `FrontendEvent`. -/
structure FrontendEvent where
  id : String
  topic : String
  data : Value
  timestamp : String
  deriving Repr

/-- What `app.emit` sends to the front end: a `"status"` text, or an `"event"`. -/
inductive Emitted where
  | status (text : String)
  | event (e : FrontendEvent)
  deriving Repr

/-- `SubscribeOptions::new().auto_ack(true).from("latest")`. -/
def desktopOptions : SubscribeOptions :=
  { SubscribeOptions.new with auto_ack := true, «from» := some "latest" }

section
-- `DateTime::to_rfc3339`: chrono's text of a timestamp.
variable (to_rfc3339 : chrono.DateTime → String)

/-- The `FrontendEvent` of an event. -/
def FrontendEvent.of (event : Event) : FrontendEvent :=
  { id := event.id, topic := event.topic, data := event.data,
    timestamp := to_rfc3339 event.timestamp }

/-- The `while let Some(result) = stream.next().await` loop of `start_subscription`, over the
items the stream yields before it ends: an `Ok` event goes to the front end as an `"event"`;
the first `Err` sends the status `"error"` and breaks. -/
def forward : List Item → List Emitted
  | [] => []
  | .ok event :: rest => .event (FrontendEvent.of to_rfc3339 event) :: forward rest
  | .error _ :: _ => [.status "error"]

/-- `start_subscription`: the client from the environment, the subscription to `desktop.>`, the
status `"connected"`, the loop, and the status `"disconnected"`. It gives what it emits and what
it returns; a failure of either call returns its text before anything is emitted. `items` are
the items the stream yields until it ends; the sleep and the log lines are left out. -/
def start_subscription (from_str : String → Except serde_json.Error ServerMessage)
    (var : Option String) (http_client : Except String Unit)
    (dial : String → Except tungstenite.Error Unit) (sent : Except tungstenite.Error Unit)
    (reply : Option (Except tungstenite.Error Message)) (items : List Item) :
    List Emitted × Except String Unit :=
  match Notif.from_env var http_client with
  | .error e => ([], .error e.to_string)
  | .ok client =>
    match client.subscribe_with_options from_str ["desktop.>"] desktopOptions dial sent reply with
    | .error e => ([], .error e.to_string)
    | .ok _ => (.status "connected" :: forward to_rfc3339 items ++ [.status "disconnected"], .ok ())

/-! ## The loop -/

/-- The events in front of the rest reach the front end in order. -/
theorem forward_ok_append (pre : List Event) (rest : List Item) :
    forward to_rfc3339 (pre.map .ok ++ rest) =
      pre.map (fun e => .event (FrontendEvent.of to_rfc3339 e)) ++ forward to_rfc3339 rest := by
  induction pre with
  | nil => rfl
  | cons e pre ih => exact congrArg (List.cons _) ih

/-- Once the client and the subscription are made, whatever the stream yields: the events
before its first `Err` reach the front end, then the status `"error"`, and nothing that follows
the `Err`, whatever it is. -/
theorem events_behind_an_error_never_reach_the_front_end
    (from_str : String → Except serde_json.Error ServerMessage) (var : Option String)
    (http_client : Except String Unit) (dial : String → Except tungstenite.Error Unit)
    (sent : Except tungstenite.Error Unit) (reply : Option (Except tungstenite.Error Message))
    (client : Notif) (s₀ : Sub) (hc : Notif.from_env var http_client = .ok client)
    (hs : client.subscribe_with_options from_str ["desktop.>"] desktopOptions dial sent reply =
      .ok s₀)
    (pre : List Event) (err : NotifError) (rest : List Item) :
    start_subscription to_rfc3339 from_str var http_client dial sent reply
        (pre.map .ok ++ .error err :: rest) =
      (.status "connected" :: pre.map (fun e => .event (FrontendEvent.of to_rfc3339 e)) ++
        [.status "error", .status "disconnected"], .ok ()) := by
  simp only [start_subscription, hc, hs, forward_ok_append, forward, List.cons_append,
    List.append_assoc, List.singleton_append, List.nil_append]

end

/-- A garbled frame, then an event frame. The pump queues an `Err` for the first, reads on,
and queues the event. The log's loop pulls the `Err`, breaks and drops the stream, and the
event goes with it: the front end sees only the statuses. -/
theorem garbled_frame_loses_the_event_behind_it :
    ∃ client s₀ s s', Notif.from_env (some "nsh_k") (.ok ()) = .ok client ∧
      client.subscribe_with_options sampleFromStr ["desktop.>"] desktopOptions (fun _ => .ok ())
        (.ok ()) (some (.ok (.Text subscribedText))) = .ok s₀ ∧
      s₀.run sampleFromStr [.inbound (some (.ok (.Text "garbled"))) ⟨0⟩, .event_sent,
        .inbound (some (.ok (.Text eventText))) ⟨1⟩, .event_sent] = some s ∧
      s.pump = .select ∧
      s.events.buf = [.error (.Serialization ⟨"expected value at line 1 column 1"⟩),
        .ok { id := "e1", topic := "orders.created", data := .Null, timestamp := ⟨1⟩,
              attempt := 1, max_attempts := 3, ack_tx := none }] ∧
      s.run sampleFromStr [.poll_next, .drop_stream] = some s' ∧ s'.events.buf = [] ∧
      start_subscription (fun _ => "1970-01-01T00:00:00+00:00") sampleFromStr (some "nsh_k")
          (.ok ()) (fun _ => .ok ()) (.ok ()) (some (.ok (.Text subscribedText))) s.events.buf =
        ([.status "connected", .status "error", .status "disconnected"], .ok ()) := by
  let client : Notif := ⟨{ api_key := "nsh_k", server := DEFAULT_SERVER }⟩
  have hc : Notif.from_env (some "nsh_k") (.ok ()) = .ok client :=
    (@NotifBuilder.build_eq_ok (.new "nsh_k") (.ok ()) client).2
      ⟨by with_unfolding_all decide, rfl, rfl⟩
  have hs : client.subscribe_with_options sampleFromStr ["desktop.>"] desktopOptions
      (fun _ => .ok ()) (.ok ()) (some (.ok (.Text subscribedText))) =
      .ok (Sub.init desktopOptions (subscribeMessage ["desktop.>"] desktopOptions)) := rfl
  refine ⟨client, _, _, _, hc, hs, rfl, rfl, rfl, rfl, rfl, ?_⟩
  exact events_behind_an_error_never_reach_the_front_end _ sampleFromStr _ _ _ _ _ _ _ hc hs []
    (.Serialization ⟨"expected value at line 1 column 1"⟩)
    [.ok { id := "e1", topic := "orders.created", data := .Null, timestamp := ⟨1⟩, attempt := 1,
           max_attempts := 3, ack_tx := none }]

/-! ## The reconnect loop -/

/-- What one round of `run`'s loop meets: the key in the environment, the HTTP client, the
connection, and the items the stream yields until it ends. -/
structure Round where
  var : Option String
  http_client : Except String Unit
  dial : String → Except tungstenite.Error Unit
  sent : Except tungstenite.Error Unit
  reply : Option (Except tungstenite.Error Message)
  items : List Item

/-- Where the front end's status stands: nothing announced, `"connected"`, or `"error"`. -/
inductive Link where
  | down
  | up
  | failed
  deriving DecidableEq

/-- What the front end may see next: `"connected"` while down; events, `"error"` or
`"disconnected"` while up; `"disconnected"` after `"error"`. -/
def Link.next : Link → Emitted → Option Link
  | .down, .status "connected" => some .up
  | .up, .event _ => some .up
  | .up, .status "error" => some .failed
  | .up, .status "disconnected" => some .down
  | .failed, .status "disconnected" => some .down
  | _, _ => none

/-- The status after each emit in turn; `none` at the first emit out of place. -/
def Link.follow (l : Link) : List Emitted → Option Link
  | [] => some l
  | e :: es => (l.next e).bind fun l' => l'.follow es

theorem Link.follow_append (l : Link) (a b : List Emitted) :
    l.follow (a ++ b) = (l.follow a).bind fun l' => l'.follow b := by
  induction a generalizing l with
  | nil => rfl
  | cons e a ih =>
    show ((l.next e).bind fun l' => l'.follow (a ++ b)) = _
    simp only [ih, Link.follow, Option.bind_assoc]

section
variable (to_rfc3339 : chrono.DateTime → String)
  (from_str : String → Except serde_json.Error ServerMessage)

/-- `run`'s background task: `start_subscription` again after each return, whatever it
returned. What reaches the front end over the rounds so far; the sleeps and the log lines are
left out. -/
def run : List Round → List Emitted
  | [] => []
  | r :: rounds =>
    (start_subscription to_rfc3339 from_str r.var r.http_client r.dial r.sent r.reply r.items).1 ++
      run rounds

/-- A connection's loop shows events, then at most one `"error"`. -/
theorem Link.follow_forward (items : List Item) :
    Link.up.follow (forward to_rfc3339 items) = some .up ∨
      Link.up.follow (forward to_rfc3339 items) = some .failed := by
  induction items with
  | nil => exact .inl rfl
  | cons i items ih =>
    cases i with
    | error => exact .inr rfl
    | ok event => exact ih

/-- A round shows nothing, or `"connected"` and the loop and `"disconnected"`. -/
theorem Link.follow_start_subscription (r : Round) :
    Link.down.follow (start_subscription to_rfc3339 from_str r.var r.http_client r.dial r.sent
      r.reply r.items).1 = some .down := by
  unfold start_subscription
  split
  · rfl
  · split
    · rfl
    · show Link.up.follow (forward to_rfc3339 r.items ++ [.status "disconnected"]) = _
      rw [Link.follow_append]
      rcases Link.follow_forward to_rfc3339 r.items with h | h <;> rw [h] <;> rfl

/-- Over every run of the event log's reconnect loop, whatever each round meets, the statuses
the front end sees are well bracketed: `"connected"` only after the previous connection was
closed, events only while connected, at most one `"error"` per connection, and every announced
connection closed by `"disconnected"` at the end of its round. -/
theorem statuses_bracket_every_connection (rounds : List Round) :
    Link.down.follow (run to_rfc3339 from_str rounds) = some .down := by
  induction rounds with
  | nil => rfl
  | cons r rounds ih =>
    rw [run, Link.follow_append, Link.follow_start_subscription, Option.some_bind, ih]

end

end event_log
