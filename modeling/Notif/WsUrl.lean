-- The URL a subscription dials (`EventStream::connect`, `sdk/rust/src/subscribe.rs`):
-- `str::replace` over the characters of the server, and what it makes of a server whose scheme
-- stands only in front. There it swaps the scheme for the WebSocket one and leaves the rest as it
-- was given.
import Mathlib.Data.List.Infix
import Mathlib.Data.String.Basic
import Notif.Handshake

namespace notifsh.subscribe

open String (utf8Len)

/-! ## `str::replace` -/

/-- `substrEq`'s loop, at the position of `m` in `l ++ m` and of `q` in `p ++ q`, compares `q`
with the front of `m`. -/
theorem substrEq_loop_of_valid (l m p q : List Char) (h : utf8Len q ≤ utf8Len m) :
    String.substrEq.loop ⟨l ++ m⟩ ⟨p ++ q⟩ ⟨utf8Len l⟩ ⟨utf8Len p⟩
      ⟨utf8Len l + utf8Len q⟩ = decide (q <+: m) := by
  induction q generalizing l m p with
  | nil => rw [String.substrEq.loop]; simp
  | cons c q ih =>
    cases m with
    | nil => simp at h; have := c.utf8Size_pos; omega
    | cons d m =>
      rw [String.substrEq.loop, dif_pos (by simp; have := c.utf8Size_pos; omega)]
      simp only [String.get_of_valid, List.headD_cons, List.cons_prefix_cons, Bool.decide_and]
      by_cases hdc : d = c
      · subst hdc
        have := ih (l ++ [d]) m (p ++ [d]) (by simp at h; omega)
        simp only [String.utf8Len_append, String.utf8Len_cons, String.utf8Len_nil, Nat.zero_add,
          List.append_assoc, List.singleton_append] at this
        simp only [beq_self_eq_true, Bool.true_and, decide_True, String.utf8Len_cons]
        convert this using 3
        omega
      · simp [hdc, Ne.symm hdc]

/-- `substrEq` at the position of `m` in `l ++ m` tells whether `pat` is a prefix of `m`. -/
theorem substrEq_of_valid (l m pat : List Char) :
    String.substrEq ⟨l ++ m⟩ ⟨utf8Len l⟩ ⟨pat⟩ 0 (utf8Len pat) =
      decide (pat <+: m) := by
  unfold String.substrEq
  by_cases h : utf8Len pat ≤ utf8Len m
  · have := substrEq_loop_of_valid l m [] pat h
    simp only [String.utf8Len_nil, List.nil_append] at this
    simp only [String.endPos_eq, String.utf8Len_append, Nat.add_le_add_iff_left, h,
      String.Pos.byteIdx_zero, Nat.zero_add, le_refl, decide_True, Bool.true_and]
    exact this
  · have hn : ¬ pat <+: m := fun hp => h (String.utf8Len_le_of_prefix hp)
    simp only [String.endPos_eq, String.utf8Len_append, Nat.add_le_add_iff_left, h, hn,
      decide_False, Bool.false_and]

/-- The loop of `str::replace` from the position of `m` in `l ++ m`, where no occurrence of the
pattern starts: it copies the rest after what it has. -/
theorem replace_loop_of_no_match (pat rep : List Char)
    (hPatt : 0 < (String.endPos ⟨pat⟩).byteIdx) (acc : String) (accStop : String.Pos)
    (l m : List Char) (hm : ∀ k, ¬ pat <+: m.drop k) :
    String.replace.loop ⟨l ++ m⟩ ⟨pat⟩ ⟨rep⟩ hPatt acc accStop ⟨utf8Len l⟩ =
      acc ++ (String.mk (l ++ m)).extract accStop ⟨utf8Len (l ++ m)⟩ := by
  induction m generalizing l with
  | nil =>
    rw [String.replace.loop, dif_pos (by simpa using hPatt)]
    rfl
  | cons c m ih =>
    rw [String.replace.loop]
    split
    · rfl
    · have hs : String.substrEq ⟨l ++ c :: m⟩ ⟨utf8Len l⟩ ⟨pat⟩ 0 (utf8Len pat) =
          false :=
        (substrEq_of_valid _ _ _).trans (by simpa using hm 0)
      simp only [String.endPos_eq] at hs ⊢
      rw [if_neg (by simp [hs]), String.next_of_valid]
      have := ih (l ++ [c]) fun k => by simpa using hm (k + 1)
      simp only [String.utf8Len_append, String.utf8Len_cons, String.utf8Len_nil, Nat.zero_add,
        List.append_assoc, List.singleton_append] at this
      rw [this]
      simp [Nat.add_comm]

/-- `str::replace` leaves a string where the pattern never starts as it is. -/
theorem replace_of_no_match {s pat : String} (rep : String)
    (h : ∀ k, ¬ pat.data <+: s.data.drop k) : s.replace pat rep = s := by
  obtain ⟨sd⟩ := s
  obtain ⟨pd⟩ := pat
  obtain ⟨rd⟩ := rep
  unfold String.replace
  split
  · rfl
  · have := replace_loop_of_no_match pd rd (Nat.pos_of_ne_zero ‹_›) "" 0 [] sd h
    simp only [List.nil_append, String.utf8Len_nil] at this
    exact this.trans (by simpa using String.extract_zero_endPos ⟨sd⟩)

/-- `str::replace` replaces a leading occurrence of the pattern, and nothing after it where the
pattern never starts. -/
theorem replace_append_of_no_match {pat r : String} (rep : String) (hp : pat ≠ "")
    (h : ∀ k, ¬ pat.data <+: r.data.drop k) : (pat ++ r).replace pat rep = rep ++ r := by
  obtain ⟨pd⟩ := pat
  obtain ⟨rd⟩ := r
  obtain ⟨red⟩ := rep
  have hpd : 0 < utf8Len pd :=
    Nat.pos_of_ne_zero fun h0 => hp (by rw [String.utf8Len_eq_zero.1 h0])
  have hs : String.substrEq ⟨pd ++ rd⟩ 0 ⟨pd⟩ 0 (utf8Len pd) = true :=
    (substrEq_of_valid [] (pd ++ rd) pd).trans (by simp)
  have hloop := replace_loop_of_no_match pd red (by simpa using hpd)
    ("" ++ (String.mk (pd ++ rd)).extract 0 0 ++ ⟨red⟩) ⟨utf8Len pd⟩ pd rd h
  show (String.mk (pd ++ rd)).replace ⟨pd⟩ ⟨red⟩ = ⟨red ++ rd⟩
  unfold String.replace
  rw [dif_neg (by simpa using hpd.ne')]
  dsimp only
  rw [String.replace.loop, dif_neg (by simp)]
  dsimp only
  have he : (String.mk (pd ++ rd)).extract ⟨utf8Len pd⟩ ⟨utf8Len (pd ++ rd)⟩ = ⟨rd⟩ :=
    by simpa using String.extract_of_valid pd rd []
  rw [if_pos (by simpa using hs), String.Pos.zero_addString_eq, String.utf8ByteSize_mk, hloop,
    he]
  rfl

/-- A pattern starts nowhere in `a ++ b` if it starts nowhere in `b` and its first character is
not in `a`. -/
theorem no_match_append {c : Char} {pat a b : List Char} (ha : c ∉ a)
    (hb : ∀ k, ¬ c :: pat <+: b.drop k) : ∀ k, ¬ c :: pat <+: (a ++ b).drop k := by
  induction a with
  | nil => simpa using hb
  | cons x a ih =>
    rintro (_ | k)
    · rw [List.drop_zero, List.cons_append, List.cons_prefix_cons]
      exact fun hx => ha (hx.1 ▸ List.mem_cons_self _ _)
    · exact ih (fun h => ha (List.mem_cons_of_mem _ h)) k

/-- A pattern that is no infix starts nowhere. -/
theorem no_match_of_not_infix {pat m : List Char} (h : ¬ pat <:+: m) :
    ∀ k, ¬ pat <+: m.drop k :=
  fun k hp => h (hp.isInfix.trans (List.drop_suffix k m).isInfix)

/-! ## The URL -/

/-- For every key and every rest of a server that holds neither `https://` nor `http://`, the URL
a subscription dials swaps only the leading scheme, `https://` for `wss://` and `http://` for
`ws://`, and keeps the rest of the server as it is; a server with no scheme is dialed as it is
given, with no scheme either. -/
theorem ws_url_swaps_the_leading_scheme (host api_key : String)
    (hs : ¬ "https://".data <:+: host.data) (h : ¬ "http://".data <:+: host.data) :
    ws_url ("https://" ++ host) api_key = "wss://" ++ host ++ "/ws?token=" ++ api_key ∧
    ws_url ("http://" ++ host) api_key = "ws://" ++ host ++ "/ws?token=" ++ api_key ∧
    ws_url host api_key = host ++ "/ws?token=" ++ api_key := by
  have hs' := no_match_of_not_infix hs
  have h' := no_match_of_not_infix h
  refine ⟨?_, ?_, ?_⟩
  · have hwss : ∀ k, ¬ "http://".data <+: ("wss://" ++ host).data.drop k :=
      @no_match_append 'h' "ttp://".data "wss://".data _ (by decide) h'
    rw [ws_url, replace_append_of_no_match _ (by decide) hs', replace_of_no_match _ hwss]
  · have hhttps : ∀ k, ¬ "https://".data <+: ("http://" ++ host).data.drop k := by
      rintro (_ | k)
      · simp [List.cons_prefix_cons]
      · exact @no_match_append 'h' "ttps://".data "ttp://".data _ (by decide) hs' k
    rw [ws_url, replace_of_no_match _ hhttps, replace_append_of_no_match _ (by decide) h']
  · rw [ws_url, replace_of_no_match _ hs', replace_of_no_match _ h']

end notifsh.subscribe

namespace notifsh.client

open subscribe

/-- The default server is dialed over `wss://`. -/
theorem default_server_is_dialed_over_wss :
    ¬ "https://".data <:+: "api.notif.sh".data ∧ ¬ "http://".data <:+: "api.notif.sh".data ∧
      (ws_url ("https://" ++ "api.notif.sh") "nsh_k" =
          "wss://" ++ "api.notif.sh" ++ "/ws?token=" ++ "nsh_k" ∧
        ws_url ("http://" ++ "api.notif.sh") "nsh_k" =
          "ws://" ++ "api.notif.sh" ++ "/ws?token=" ++ "nsh_k" ∧
        ws_url "api.notif.sh" "nsh_k" = "api.notif.sh" ++ "/ws?token=" ++ "nsh_k") :=
  ⟨by decide, by decide,
    ws_url_swaps_the_leading_scheme "api.notif.sh" "nsh_k" (by decide) (by decide)⟩

end notifsh.client
