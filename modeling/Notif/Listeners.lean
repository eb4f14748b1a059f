-- The listeners of the hub and the toast apps (`examples/modular-desktop/hub/src/lib.rs`,
-- `toast/src/lib.rs`): each subscribes, then relays every event the stream yields to its front
-- end and passes over the `Err` items, where the event log stops at the first one. Composed
-- with the law of delivery, a listener relays every event the server sends, in order.
import Notif.Delivery
import Notif.EventLog

namespace modular_desktop

open notifsh notifsh.subscribe notifsh.client
open serde_json (Value)
open tungstenite (Message)
open event_log (desktopOptions)

/-! ## The listeners' loop -/

/-- The loop every listener runs on its stream: `while let Some(result) = stream.next().await`
and, inside it, `if let Ok(event) = result`, emitting what `payload` makes of the event, if
anything. -/
def relay {α : Type} (payload : Event → Option α) : List Item → List α
  | [] => []
  | .ok event :: rest => (payload event).toList ++ relay payload rest
  | .error _ :: rest => relay payload rest

/-- The loop passes over an `Err` and goes on, so it relays a stream piece by piece. -/
theorem relay_append {α : Type} (payload : Event → Option α) (a b : List Item) :
    relay payload (a ++ b) = relay payload a ++ relay payload b := by
  induction a with
  | nil => rfl
  | cons i a ih =>
    cases i with
    | error => exact ih
    | ok event => simp [relay, ih]

/-- One round of a listener's reconnect loop: the subscription to `topic` with auto_ack from
the latest event, then the loop over the items the stream yields; a failed subscription is only
logged. The five-second sleep before the next round is left out. -/
def listen {α : Type} (topic : String) (payload : Event → Option α)
    (from_str : String → Except serde_json.Error ServerMessage) (client : Notif)
    (dial : String → Except tungstenite.Error Unit) (sent : Except tungstenite.Error Unit)
    (reply : Option (Except tungstenite.Error Message)) (items : List Item) : List α :=
  match client.subscribe_with_options from_str [topic] desktopOptions dial sent reply with
  | .ok _ => relay payload items
  | .error _ => []

/-- Whatever the payload, for every interleaving of the pump with the listener and every
sequence of frames: while the listener holds the stream, what it has relayed, then the relay of
what is still queued or being sent, is the relay of every item decoded from every frame the
pump read, in order; once the stream has ended, the listener has relayed all of it. An `Err`
item costs no event. -/
theorem listeners_relay_every_event_the_server_sends {α : Type} (topic : String)
    (payload : Event → Option α) (from_str : String → Except serde_json.Error ServerMessage)
    (client : Notif) (dial : String → Except tungstenite.Error Unit)
    (sent : Except tungstenite.Error Unit) (reply : Option (Except tungstenite.Error Message))
    (acts : List Act) {s₀ s : Sub}
    (hc : client.subscribe_with_options from_str [topic] desktopOptions dial sent reply = .ok s₀)
    (hr : s₀.run from_str acts = some s) (hs : s.stream = true) :
    listen topic payload from_str client dial sent reply s.pulled ++
        relay payload (s.events.buf ++ s.pump.inflight) =
      relay payload (frameItems from_str none s.read) ∧
    (s.ended = true → listen topic payload from_str client dial sent reply s.pulled =
      relay payload (frameItems from_str none s.read)) := by
  have hlisten : listen topic payload from_str client dial sent reply s.pulled =
      relay payload s.pulled := by simp only [listen, hc]
  rw [connect_eq_ok hc] at hr
  have hd := Delivery.run hr hs
  have hitems := hd.items
  rw [Sub.run_auto_ack _ hr] at hitems
  rw [hlisten, ← relay_append, ← List.append_assoc]
  refine ⟨congrArg (relay payload) hitems, fun he => ?_⟩
  obtain ⟨hp, hb⟩ := hd.ended he
  rw [hp, hb] at hitems
  simpa [Pump.inflight] using congrArg (relay payload) hitems

/-! ## The members -/

namespace hub

/-- `start_permission_listener`: each event's data goes to the front end as
`"permission_request"`. -/
def start_permission_listener : (String → Except serde_json.Error ServerMessage) → Notif →
    (String → Except tungstenite.Error Unit) → Except tungstenite.Error Unit →
    Option (Except tungstenite.Error Message) → List Item → List Value :=
  listen "claude.permission.request" fun event => some event.data

end hub

namespace toast

/-- `Notification`, as the toast app reads it (it matches the hub's format). -/
structure Notification where
  id : String
  title : String
  body : String
  level : String
  deriving Repr, DecidableEq

/-- `start_notification_subscription`: each event whose data reads as a `Notification`
(`serde_json::from_value`, a parameter as `from_str` is) goes to the front end as
`"notification"`; any other event is passed over. -/
def start_notification_subscription
    (from_value : Value → Except serde_json.Error Notification) :
    (String → Except serde_json.Error ServerMessage) → Notif →
    (String → Except tungstenite.Error Unit) → Except tungstenite.Error Unit →
    Option (Except tungstenite.Error Message) → List Item → List Notification :=
  listen "desktop.hub.notify" fun event => (from_value event.data).toOption

/-- `start_permission_subscription`: each event's data goes to the front end as
`"permission_request"`. -/
def start_permission_subscription : (String → Except serde_json.Error ServerMessage) → Notif →
    (String → Except tungstenite.Error Unit) → Except tungstenite.Error Unit →
    Option (Except tungstenite.Error Message) → List Item → List Value :=
  listen "claude.permission.request" fun event => some event.data

end toast

/-- The frames of the event log's loss, sent to the hub: a garbled frame, an event frame, then
the end of the stream. The hub's listener pulls the `Err`, goes on, relays the event's data,
and sees the stream end. -/
theorem hub_relays_the_event_behind_a_garbled_frame :
    ∃ s, (Sub.init desktopOptions (subscribeMessage ["claude.permission.request"]
          desktopOptions)).run sampleFromStr
        [.inbound (some (.ok (.Text "garbled"))) ⟨0⟩, .event_sent,
          .inbound (some (.ok (.Text eventText))) ⟨1⟩, .event_sent, .inbound none ⟨2⟩,
          .poll_next, .poll_next, .poll_next] = some s ∧
      s.stream = true ∧ s.ended = true ∧
      relay (fun event => some event.data) (frameItems sampleFromStr none s.read) = [.Null] ∧
      (hub.start_permission_listener sampleFromStr
          ⟨{ api_key := "nsh_k", server := DEFAULT_SERVER }⟩ (fun _ => .ok ()) (.ok ())
          (some (.ok (.Text subscribedText))) s.pulled ++
          relay (fun event => some event.data) (s.events.buf ++ s.pump.inflight) =
        relay (fun event => some event.data) (frameItems sampleFromStr none s.read) ∧
      (s.ended = true → hub.start_permission_listener sampleFromStr
          ⟨{ api_key := "nsh_k", server := DEFAULT_SERVER }⟩ (fun _ => .ok ()) (.ok ())
          (some (.ok (.Text subscribedText))) s.pulled =
        relay (fun event => some event.data) (frameItems sampleFromStr none s.read))) :=
  ⟨_, rfl, rfl, rfl, rfl, listeners_relay_every_event_the_server_sends "claude.permission.request"
    (fun event => some event.data) sampleFromStr _ _ _ _
    [.inbound (some (.ok (.Text "garbled"))) ⟨0⟩, .event_sent,
      .inbound (some (.ok (.Text eventText))) ⟨1⟩, .event_sent, .inbound none ⟨2⟩,
      .poll_next, .poll_next, .poll_next] rfl rfl rfl⟩

end modular_desktop
