-- The data of the notif.sh Rust SDK (`sdk/rust/src/types.rs`, `error.rs`) and of the
-- libraries it talks through: the JSON values of serde_json, the WebSocket messages of
-- tungstenite, and the bounded `tokio::sync::mpsc` channel with its capacity as an invariant.
import Mathlib.Data.List.Basic

/-! ## The libraries -/

namespace serde_json

/-- A JSON number as serde_json keeps it. -/
inductive Number where
  | PosInt (n : Nat)
  | NegInt (n : Int)
  | Float (f : Float)
  deriving Repr

/-- `serde_json::Value`. An object keeps its entries in order. -/
inductive Value where
  | Null
  | Bool (b : Bool)
  | Number (n : Number)
  | String (s : String)
  | Array (xs : List Value)
  | Object (m : List (String × Value))
  deriving Repr

/-- `serde_json::Error`, by the text it displays. -/
structure Error where
  msg : String
  deriving Repr, DecidableEq

/-- `Value::get` with a key: the key's entry of an object, `None` for every other value. -/
def get (v : Value) (key : String) : Option Value :=
  match v with
  | .Object m => m.lookup key
  | _ => none

/-- `Value::as_str`: the text of a string value. -/
def as_str : Value → Option String
  | .String s => some s
  | _ => none

end serde_json

namespace tungstenite

/-- `tungstenite::Error`, by the text `e.to_string()` gives. -/
structure Error where
  text : String
  deriving Repr, DecidableEq

/-- `tungstenite::Message`. No code of the SDK reads the payload of a message that is not
text, so only `Text` keeps its payload. -/
inductive Message where
  | Text (text : String)
  | Binary
  | Ping
  | Pong
  | Close
  | Frame
  deriving Repr, DecidableEq

end tungstenite

/-- `chrono::DateTime<Utc>`, as nanoseconds since the epoch. -/
structure chrono.DateTime where
  nanos : Int
  deriving Repr, DecidableEq

namespace tokio.mpsc

/-- The buffer of a bounded `tokio::sync::mpsc` channel: the values sent and not yet
received, oldest first, never more than the capacity given to `mpsc::channel`. -/
structure Chan (α : Type) where
  cap : Nat
  buf : List α
  buf_le : buf.length ≤ cap

variable {α : Type}

/-- `mpsc::channel(cap)`: an empty channel. -/
def Chan.new (cap : Nat) : Chan α := ⟨cap, [], Nat.zero_le _⟩

/-- A `send` that finds room: the value goes to the back. `none` while the channel is full,
where `send(..).await` waits. -/
def Chan.push? (c : Chan α) (a : α) : Option (Chan α) :=
  if h : c.buf.length < c.cap then
    some ⟨c.cap, c.buf ++ [a], by rw [List.length_append, List.length_singleton]; omega⟩
  else none

/-- A `recv` that finds a value: the oldest one. `none` on an empty buffer. -/
def Chan.pop? : Chan α → Option (α × Chan α)
  | ⟨cap, a :: rest, h⟩ => some (a, ⟨cap, rest, by simp at h; omega⟩)
  | ⟨_, [], _⟩ => none

/-- The buffer once the receiver is dropped: the values in it are dropped with it. -/
def Chan.clear (c : Chan α) : Chan α := ⟨c.cap, [], Nat.zero_le _⟩

theorem Chan.push?_eq_some {c c' : Chan α} {a : α} (h : c.push? a = some c') :
    c.buf.length < c.cap ∧ c'.buf = c.buf ++ [a] ∧ c'.cap = c.cap := by
  unfold Chan.push? at h
  split at h
  · cases h; exact ⟨‹_›, rfl, rfl⟩
  · cases h

theorem Chan.push?_eq_none {c : Chan α} {a : α} : c.push? a = none ↔ c.cap ≤ c.buf.length := by
  unfold Chan.push?
  split <;> simp <;> omega

theorem Chan.push?_of_lt {c : Chan α} (a : α) (h : c.buf.length < c.cap) :
    ∃ c', c.push? a = some c' ∧ c'.buf = c.buf ++ [a] ∧ c'.cap = c.cap :=
  ⟨_, dif_pos h, rfl, rfl⟩

theorem Chan.pop?_eq_some {c c' : Chan α} {a : α} (h : c.pop? = some (a, c')) :
    c.buf = a :: c'.buf ∧ c'.cap = c.cap := by
  rcases c with ⟨cap, _ | ⟨b, rest⟩, _⟩ <;> simp [Chan.pop?] at h
  obtain ⟨rfl, rfl⟩ := h
  exact ⟨rfl, rfl⟩

theorem Chan.pop?_eq_none {c : Chan α} : c.pop? = none ↔ c.buf = [] := by
  rcases c with ⟨cap, _ | ⟨b, rest⟩, _⟩ <;> simp [Chan.pop?]

theorem Chan.pop?_of_cons {c : Chan α} {a : α} {rest : List α} (h : c.buf = a :: rest) :
    ∃ c', c.pop? = some (a, c') ∧ c'.buf = rest ∧ c'.cap = c.cap := by
  rcases c with ⟨cap, buf, hle⟩
  subst h
  exact ⟨_, rfl, rfl, rfl⟩

@[simp] theorem Chan.new_buf (cap : Nat) : (Chan.new cap : Chan α).buf = [] := rfl
@[simp] theorem Chan.new_cap (cap : Nat) : (Chan.new cap : Chan α).cap = cap := rfl
@[simp] theorem Chan.clear_buf (c : Chan α) : c.clear.buf = [] := rfl
@[simp] theorem Chan.clear_cap (c : Chan α) : c.clear.cap = c.cap := rfl

end tokio.mpsc

/-! ## The SDK's types -/

namespace notifsh

open serde_json

/-- `NotifError`. `Http` and `Url` are left out: no modelled function makes them. -/
inductive NotifError where
  | Auth (msg : String)
  | Api (status : UInt16) (message : String)
  | Connection (msg : String)
  | Serialization (e : serde_json.Error)
  | WebSocket (msg : String)
  deriving Repr, DecidableEq

/-- `NotifError`'s `Display`, as `thiserror` writes it from the variants' `#[error]` texts. -/
def NotifError.to_string : NotifError → String
  | .Auth msg => "authentication error: " ++ msg
  | .Api status message => "API error (" ++ toString status ++ "): " ++ message
  | .Connection msg => "connection error: " ++ msg
  | .Serialization e => "serialization error: " ++ e.msg
  | .WebSocket msg => "WebSocket error: " ++ msg

/-- `SubscribeOptions`: automatic acknowledgment, starting position, consumer group. -/
structure SubscribeOptions where
  auto_ack : Bool
  «from» : Option String
  group : Option String
  deriving Repr, DecidableEq

/-- `SubscribeOptions::new()`: auto_ack on, no position, no group. -/
def SubscribeOptions.new : SubscribeOptions := { auto_ack := true, «from» := none, group := none }

/-- A clone of the subscription's `mpsc::Sender<AckMessage>`. There is one acknowledgment
channel per subscription, so a sender is known by being there. -/
structure AckSender where
  deriving Repr, DecidableEq

/-- `Event`: an event received from a subscription, with the sender its `ack` and `nack`
use (`None` when auto_ack is on). -/
structure Event where
  id : String
  topic : String
  data : Value
  timestamp : chrono.DateTime
  attempt : UInt32
  max_attempts : UInt32
  ack_tx : Option AckSender
  deriving Repr

/-- `AckMessage`: an acknowledgment decision on its way to the pump. -/
inductive AckMessage where
  | Ack (id : String)
  | Nack (id : String) (retry_in : Option String)
  deriving Repr, DecidableEq

/-- `ServerMessage`, the frames the server sends. The fields `topics`, `consumer_id` and
`code` are left out: no code of the SDK reads them. -/
structure ServerMessage where
  msg_type : String
  id : Option String
  topic : Option String
  data : Option Value
  timestamp : Option chrono.DateTime
  attempt : Option UInt32
  max_attempts : Option UInt32
  message : Option String
  deriving Repr

/-! ## The frames the client sends, as serde serializes them -/

/-- `SubscribeOptionsWire`. -/
structure SubscribeOptionsWire where
  auto_ack : Bool
  «from» : Option String
  group : Option String
  deriving Repr, DecidableEq

/-- `SubscribeMessage`. -/
structure SubscribeMessage where
  action : String
  topics : List String
  options : Option SubscribeOptionsWire
  deriving Repr, DecidableEq

/-- `AckWireMessage`. -/
structure AckWireMessage where
  action : String
  id : String
  deriving Repr, DecidableEq

/-- `NackWireMessage`. -/
structure NackWireMessage where
  action : String
  id : String
  retry_in : Option String
  deriving Repr, DecidableEq

/-- An entry `key: value` of a derived `Serialize` whose field is
`skip_serializing_if = "Option::is_none"`: there iff the field is `Some`. -/
def optField (key : String) : Option String → List (String × Value)
  | some v => [(key, .String v)]
  | none => []

/-- The JSON object serde writes for `SubscribeOptionsWire`, fields in declaration order. -/
def SubscribeOptionsWire.to_value (o : SubscribeOptionsWire) : Value :=
  .Object ([("auto_ack", .Bool o.auto_ack)] ++ optField "from" o.«from» ++ optField "group" o.group)

def SubscribeMessage.to_value (m : SubscribeMessage) : Value :=
  .Object ([("action", .String m.action), ("topics", .Array (m.topics.map .String))] ++
    (m.options.map fun o => [("options", o.to_value)]).getD [])

def AckWireMessage.to_value (m : AckWireMessage) : Value :=
  .Object [("action", .String m.action), ("id", .String m.id)]

def NackWireMessage.to_value (m : NackWireMessage) : Value :=
  .Object ([("action", .String m.action), ("id", .String m.id)] ++ optField "retry_in" m.retry_in)

end notifsh
