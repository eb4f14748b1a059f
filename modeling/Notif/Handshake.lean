-- The client a subscription is made from (`sdk/rust/src/client.rs`) and the handshake of
-- `EventStream::connect`: which keys the builder accepts, the URL a subscription dials, and
-- which first reply of the server gives a subscription.
import Notif.Subscribe

namespace notifsh.subscribe

open tungstenite (Message)

/-! ## The handshake -/

section
variable {from_str : String → Except serde_json.Error ServerMessage} {server api_key : String}
  {topics : List String} {options : SubscribeOptions} {dial : String → Except tungstenite.Error Unit}
  {sent : Except tungstenite.Error Unit} {reply : Option (Except tungstenite.Error Message)}

/-- `connect` succeeds exactly after a confirmed handshake, with the state of a new
subscription. -/
theorem connect_eq_ok_iff {s : Sub} :
    connect from_str server api_key topics options dial sent reply = .ok s ↔
      dial (ws_url server api_key) = .ok () ∧ sent = .ok () ∧
      (∃ text msg, reply = some (.ok (.Text text)) ∧ from_str text = .ok msg ∧
        msg.msg_type = "subscribed") ∧ s = Sub.init options (subscribeMessage topics options) := by
  unfold connect
  rcases dial (ws_url server api_key) with _ | ⟨⟩ <;> rcases sent with _ | ⟨⟩ <;> simp
  rcases reply with _ | _ | (text | _ | _ | _ | _ | _) <;> simp
  rcases from_str text with _ | msg <;> simp
  split_ifs with h <;> simp [h, eq_comm]

end

/-- `connect` gives a subscription exactly when the connection opens, the subscribe frame is
sent and the first reply is a text frame that parses with type `"subscribed"`; the
subscription is then a new one, with its two channels of capacity 100 and the pump at its
`select!`. Those channels and the pump exist only inside the `Ok` value, so no `Err` comes with
them. Every other first reply gives its own error, and so do a failed dial and a failed send. -/
theorem connect_subscribes_only_on_confirmation
    (from_str : String → Except serde_json.Error ServerMessage) (server api_key : String)
    (topics : List String) (options : SubscribeOptions)
    (dial : String → Except tungstenite.Error Unit) (sent : Except tungstenite.Error Unit)
    (reply : Option (Except tungstenite.Error Message)) :
    let r := connect from_str server api_key topics options dial sent reply
    (∀ s, r = .ok s ↔ dial (ws_url server api_key) = .ok () ∧ sent = .ok () ∧
      (∃ text msg, reply = some (.ok (.Text text)) ∧ from_str text = .ok msg ∧
        msg.msg_type = "subscribed") ∧ s = Sub.init options (subscribeMessage topics options)) ∧
    (∀ e, dial (ws_url server api_key) = .error e →
      r = .error (.WebSocket ("connection failed: " ++ e.text))) ∧
    (dial (ws_url server api_key) = .ok () → ∀ e, sent = .error e →
      r = .error (.WebSocket ("failed to send subscribe: " ++ e.text))) ∧
    (dial (ws_url server api_key) = .ok () → sent = .ok () →
      (∀ text e, reply = some (.ok (.Text text)) → from_str text = .error e →
        r = .error (.Serialization e)) ∧
      (∀ text msg, reply = some (.ok (.Text text)) → from_str text = .ok msg →
        msg.msg_type = "error" → r = .error (.Api 400 (msg.message.getD "subscription error"))) ∧
      (∀ text msg, reply = some (.ok (.Text text)) → from_str text = .ok msg →
        msg.msg_type ≠ "subscribed" → msg.msg_type ≠ "error" →
        r = .error (.WebSocket ("unexpected message type: " ++ msg.msg_type))) ∧
      (∀ m, reply = some (.ok m) → (∀ text, m ≠ .Text text) →
        r = .error (.WebSocket "unexpected message format")) ∧
      (∀ e, reply = some (.error e) → r = .error (.WebSocket ("WebSocket error: " ++ e.text))) ∧
      (reply = none → r = .error (.WebSocket "connection closed unexpectedly"))) := by
  refine ⟨fun s => connect_eq_ok_iff, fun e hd => by simp [connect, hd],
    fun hd e hs => by simp [connect, hd, hs], fun hd hs => ⟨?_, ?_, ?_, ?_, ?_, ?_⟩⟩
  · rintro text e rfl hp
    simp [connect, hd, hs, hp]
  · rintro text msg rfl hp ht
    simp [connect, hd, hs, hp, ht]
  · rintro text msg rfl hp ht ht'
    simp [connect, hd, hs, hp, ht, ht']
  · rintro m rfl hm
    cases m with
    | Text text => exact absurd rfl (hm text)
    | _ => simp [connect, hd, hs]
  · rintro e rfl
    simp [connect, hd, hs]
  · rintro rfl
    simp [connect, hd, hs]

end notifsh.subscribe

namespace notifsh.client

open subscribe
open tungstenite (Message)

/-! ## The client -/

/-- `DEFAULT_SERVER`. -/
def DEFAULT_SERVER : String := "https://api.notif.sh"

/-- `API_KEY_PREFIX`. -/
def API_KEY_PREFIX : String := "nsh_"

/-- `ENV_VAR_NAME`. -/
def ENV_VAR_NAME : String := "NOTIF_API_KEY"

/-- `NotifBuilder`. The timeout only configures the HTTP client and is left out. -/
structure NotifBuilder where
  api_key : String
  server : String
  deriving Repr, DecidableEq

/-- `NotifInner`, with the two fields a subscription reads (the HTTP client and the timeout
serve `emit`). -/
structure NotifInner where
  api_key : String
  server : String
  deriving Repr, DecidableEq

/-- `Notif`. -/
structure Notif where
  inner : NotifInner
  deriving Repr, DecidableEq

/-- `NotifBuilder::new`. -/
def NotifBuilder.new (api_key : String) : NotifBuilder := { api_key, server := DEFAULT_SERVER }

/-- `NotifBuilder::server` (primed: the field has the plain name). -/
def NotifBuilder.server' (self : NotifBuilder) (server : String) : NotifBuilder :=
  { self with server }

/-- `NotifBuilder::build`. `http_client` is what `HttpClient::builder().build()` gives: unit,
or the text of its error. -/
def NotifBuilder.build (self : NotifBuilder) (http_client : Except String Unit) :
    Except NotifError Notif :=
  if !self.api_key.startsWith API_KEY_PREFIX then
    .error (.Auth ("API key must start with '" ++ API_KEY_PREFIX ++ "'"))
  else
    match http_client with
    | .error e => .error (.Connection e)
    | .ok () => .ok ⟨{ api_key := self.api_key, server := self.server }⟩

/-- `Notif::from_env`. `var` is `env::var(ENV_VAR_NAME)`: the key, or `None` when the variable
is not set. -/
def Notif.from_env (var : Option String) (http_client : Except String Unit) :
    Except NotifError Notif :=
  match var with
  | none => .error (.Auth (ENV_VAR_NAME ++ " environment variable not set"))
  | some api_key => (NotifBuilder.new api_key).build http_client

/-- `Notif::subscribe_with_options`: `EventStream::connect` with the client's server and key. -/
def Notif.subscribe_with_options (from_str : String → Except serde_json.Error ServerMessage)
    (self : Notif) (topics : List String) (options : SubscribeOptions)
    (dial : String → Except tungstenite.Error Unit) (sent : Except tungstenite.Error Unit)
    (reply : Option (Except tungstenite.Error Message)) : Except NotifError Sub :=
  connect from_str self.inner.server self.inner.api_key topics options dial sent reply

/-- The builder accepts exactly the keys with the prefix, once the HTTP client builds, and the
client keeps the key and the server as they were given. -/
theorem NotifBuilder.build_eq_ok {self : NotifBuilder} {http_client : Except String Unit}
    {client : Notif} :
    self.build http_client = .ok client ↔ self.api_key.startsWith API_KEY_PREFIX = true ∧
      http_client = .ok () ∧ client = ⟨{ api_key := self.api_key, server := self.server }⟩ := by
  unfold NotifBuilder.build
  cases self.api_key.startsWith API_KEY_PREFIX <;> rcases http_client with _ | ⟨⟩ <;>
    simp [eq_comm]

/-! ## The URL a subscription dials -/

/-- A client built for a server whose path holds `http://`: the URL its subscriptions dial has
that scheme rewritten as well, so it is not the server with only its leading scheme replaced,
whatever query value follows. -/
theorem subscription_url_rewrites_a_scheme_in_the_path :
    ∃ client, ((NotifBuilder.new "nsh_k").server' ("http://" ++ "a/http://b")).build (.ok ()) =
        .ok client ∧
      ws_url client.inner.server client.inner.api_key = "ws://a/ws://b/ws?token=nsh_k" ∧
      ∀ v, ws_url client.inner.server client.inner.api_key ≠
        "ws://" ++ "a/http://b" ++ "/ws?token=" ++ v := by
  have hurl : ws_url ("http://" ++ "a/http://b") "nsh_k" = "ws://a/ws://b/ws?token=nsh_k" := by
    with_unfolding_all decide
  refine ⟨⟨{ api_key := "nsh_k", server := "http://" ++ "a/http://b" }⟩,
    NotifBuilder.build_eq_ok.2 ⟨by with_unfolding_all decide, rfl, rfl⟩, hurl, fun v h => ?_⟩
  -- The eighth character tells them apart: `w` of the rewritten path, `h` of the server's.
  have h7 : (ws_url ("http://" ++ "a/http://b") "nsh_k").data[7]? =
      ("ws://" ++ "a/http://b" ++ "/ws?token=" ++ v).data[7]? :=
    congrArg (fun s : String => s.data[7]?) h
  rw [hurl, show ("ws://" ++ "a/http://b" ++ "/ws?token=" ++ v).data[7]? = some 'h' from
    (List.getElem?_append_left (by decide)).trans rfl] at h7
  exact absurd h7 (by decide)

end notifsh.client
