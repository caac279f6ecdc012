import Vaulted.Oracle.ProxyHeaders

/-!
# Who chooses the address of a client

Rate limits are kept by address.  A client sends headers; a proxy between it and the server adds
the address of the client to the end of `X-Forwarded-For`, and passes on what else the client has
sent.

* `Address` — the text of an address; `forward` — such a proxy.
* `Unspoofable` — the headers that a client sends have no influence on its address.
* `chosen` — through a trusted proxy, a client gets every address it writes into its own
  `X-Forwarded-For`.
* `own` — and its own address, if it sends none of the headers that are read.
* **`unspoofable_iff`** — the address is the peer's own exactly where no proxy is trusted.
-/

namespace Vaulted.ClientAddress

open ProxyHeaders

abbrev Address := { s : String // IpAddr.isIpAddr s = true }

/-- The address is added after what the client has sent. -/
def appendForwarded (client : String) (sent : List (List UInt8)) : List UInt8 :=
  (sent ++ [Text.utf8 client]).intersperse (Text.utf8 ", ") |>.flatten

/-- A proxy that appends the address of its peer to `X-Forwarded-For`. -/
def forward (client : Address) (headers : HeaderMap) : HeaderMap :=
  headers.filter (fun h => h.1 != "x-forwarded-for")
    ++ [("x-forwarded-for", appendForwarded client.val
      ((headers.filter fun h => h.1 == "x-forwarded-for").map Prod.snd))]

/-- The key of a request does not depend on the headers that the client sends: neither directly
nor through a trusted proxy. -/
structure Unspoofable (trustedProxies : List String) (peer : Option Address) (client : Address) :
    Prop where
  direct : (peer.map Subtype.val).getD "unknown" ∉ trustedProxies → ∀ headers headers',
    extractClientIpSafe headers (peer.map Subtype.val) trustedProxies
      = extractClientIpSafe headers' (peer.map Subtype.val) trustedProxies
  proxied : (peer.map Subtype.val).getD "unknown" ∈ trustedProxies → ∀ headers headers',
    extractClientIpSafe (forward client headers) (peer.map Subtype.val) trustedProxies
      = extractClientIpSafe (forward client headers') (peer.map Subtype.val) trustedProxies

/-! ## The text of an address -/

/-- What the text of an address is made of. -/
lemma isIpChar_cases {c : Char} (h : IpAddr.isIpChar c = true) :
    (48 ≤ c.toNat ∧ c.toNat ≤ 57) ∨ (97 ≤ c.toNat ∧ c.toNat ≤ 102)
      ∨ (65 ≤ c.toNat ∧ c.toNat ≤ 70) ∨ c = '.' ∨ c = ':' := by
  rw [IpAddr.isIpChar, Bool.or_eq_true_iff, Bool.or_eq_true_iff, beq_iff_eq, beq_iff_eq,
    or_assoc] at h
  rcases h with h | h
  · rw [IpAddr.toDigit] at h
    split_ifs at h with h₁ h₂ h₃
    · exact .inl h₁
    · exact .inr (.inl h₂)
    · exact .inr (.inr (.inl h₃))
    · cases h
  · exact .inr (.inr (.inr h))

/-- Such a character is a byte that is visible, no comma and no white space. -/
lemma isIpChar_spec {c : Char} (h : IpAddr.isIpChar c = true) :
    (String.utf8EncodeChar c).all isVisibleAscii = true ∧ c ≠ ','
      ∧ Text.isWhitespace c = false := by
  have hcases := isIpChar_cases h
  have hlt : c.toNat < 103 := by
    rcases hcases with h | h | h | rfl | rfl
    · omega
    · omega
    · omega
    · decide
    · decide
  have hall : ∀ n < 103, IpAddr.isIpChar (Char.ofNat n) = true →
      (String.utf8EncodeChar (Char.ofNat n)).all isVisibleAscii = true ∧ Char.ofNat n ≠ ','
        ∧ Text.isWhitespace (Char.ofNat n) = false := by decide +kernel
  rw [← Char.ofNat_toNat c] at h ⊢
  exact hall c.toNat hlt h

lemma trim_address (ip : Address) : Text.trim ip.val = ip.val :=
  Text.trim_eq_self fun c hc => (isIpChar_spec (IpAddr.forall_isIpChar ip.2 c hc)).2.2

lemma asIp_address (ip : Address) : asIp ip.val = some ip.val := by
  rw [asIp, trim_address]
  exact if_pos ip.2

lemma all_visible_address (ip : Address) : (Text.utf8 ip.val).all isVisibleAscii = true := by
  rw [Text.utf8, List.all_flatMap, List.all_eq_true]
  exact fun c hc => (isIpChar_spec (IpAddr.forall_isIpChar ip.2 c hc)).1

/-- The first element of a list that starts with an address. -/
lemma head_split_address (ip : Address) (rest : String) :
    (Text.split ',' (ip.val ++ ", " ++ rest)).head? = some ip.val := by
  have hcomma : ',' ∉ ip.val.toList := fun hmem =>
    (isIpChar_spec (IpAddr.forall_isIpChar ip.2 ',' hmem)).2.1 rfl
  have hchars : (ip.val ++ ", " ++ rest).toList = ip.val.toList ++ ',' :: (' ' :: rest.toList) := by
    simp
  rw [Text.split, hchars, List.splitOn_append_cons_self_of_not_mem hcomma]
  simp

/-! ## What a client gets -/

/-- **Through a trusted proxy a client chooses its address**: the one it writes itself comes
first. -/
theorem chosen {trustedProxies : List String} {peer : Option Address}
    (htrusted : (peer.map Subtype.val).getD "unknown" ∈ trustedProxies) (client ip : Address) :
    extractClientIpSafe (forward client [("x-forwarded-for", Text.utf8 ip.val)])
      (peer.map Subtype.val) trustedProxies = ip.val := by
  have hforward : forward client [("x-forwarded-for", Text.utf8 ip.val)]
      = [("x-forwarded-for", Text.utf8 (ip.val ++ ", " ++ client.val))] := by
    rw [Text.utf8_append, Text.utf8_append]
    simp [forward, appendForwarded]
  have hvisible : (Text.utf8 (ip.val ++ ", " ++ client.val)).all isVisibleAscii = true := by
    rw [Text.utf8_append, Text.utf8_append, List.all_append, List.all_append,
      all_visible_address, all_visible_address]
    decide
  have htext : toStr (Text.utf8 (ip.val ++ ", " ++ client.val))
      = some (ip.val ++ ", " ++ client.val) := by
    rw [toStr, if_pos hvisible, Text.fromUtf8_utf8]
  have hextract : extractIpFromHeaders
      [("x-forwarded-for", Text.utf8 (ip.val ++ ", " ++ client.val))] = some ip.val := by
    have hget : HeaderMap.get [("x-forwarded-for", Text.utf8 (ip.val ++ ", " ++ client.val))]
        "x-forwarded-for" = some (Text.utf8 (ip.val ++ ", " ++ client.val)) := rfl
    have hreal : realIp [("x-forwarded-for", Text.utf8 (ip.val ++ ", " ++ client.val))] = none := rfl
    have hcf : cfConnectingIp [("x-forwarded-for", Text.utf8 (ip.val ++ ", " ++ client.val))]
        = none := rfl
    rw [extractIpFromHeaders, hreal, hcf, Option.none_or, Option.none_or, forwardedFor, readIp,
      hget, Option.bind_some, htext, Option.bind_some, head_split_address, Option.bind_some,
      asIp_address]
  rw [extractClientIpSafe_of_trusted htrusted, hforward, hextract, Option.getD_some]

lemma get_eq_none {headers : HeaderMap} {name : String} (h : name ∉ headers.map Prod.fst) :
    HeaderMap.get headers name = none := by
  rw [HeaderMap.get, Option.map_eq_none_iff, List.find?_eq_none]
  intro x hx heq
  exact h (beq_iff_eq.mp heq ▸ List.mem_map_of_mem hx)

lemma get_append {headers headers' : HeaderMap} {name : String}
    (h : name ∉ headers.map Prod.fst) :
    HeaderMap.get (headers ++ headers') name = HeaderMap.get headers' name := by
  have hnone := get_eq_none h
  rw [HeaderMap.get, Option.map_eq_none_iff] at hnone
  rw [HeaderMap.get, List.find?_append, hnone, Option.none_or, HeaderMap.get]

/-- **A client that sends none of these headers** has the address that the proxy has seen. -/
theorem own {trustedProxies : List String} {peer : Option Address}
    (htrusted : (peer.map Subtype.val).getD "unknown" ∈ trustedProxies) (client : Address)
    {headers : HeaderMap}
    (hnone : ∀ name ∈ ["x-real-ip", "cf-connecting-ip", "x-forwarded-for"],
      name ∉ headers.map Prod.fst) :
    extractClientIpSafe (forward client headers) (peer.map Subtype.val) trustedProxies
      = client.val := by
  have hnames : ∀ h ∈ headers, h.1 ≠ "x-forwarded-for" := fun h hh heq =>
    hnone "x-forwarded-for" (by simp) (heq ▸ List.mem_map_of_mem hh)
  have hforward : forward client headers
      = headers ++ [("x-forwarded-for", Text.utf8 client.val)] := by
    rw [forward, List.filter_eq_self.mpr fun h hh => bne_iff_ne.mpr (hnames h hh),
      List.filter_eq_nil_iff.mpr fun h hh heq => hnames h hh (beq_iff_eq.mp heq)]
    simp [appendForwarded]
  have htext : toStr (Text.utf8 client.val) = some client.val := by
    rw [toStr, if_pos (all_visible_address client), Text.fromUtf8_utf8]
  have hcomma : ',' ∉ client.val.toList := fun hmem =>
    (isIpChar_spec (IpAddr.forall_isIpChar client.2 ',' hmem)).2.1 rfl
  have hextract : extractIpFromHeaders (headers ++ [("x-forwarded-for", Text.utf8 client.val)])
      = some client.val := by
    rw [extractIpFromHeaders, realIp, cfConnectingIp, forwardedFor, readIp, readIp, readIp,
      get_append (hnone _ (by simp)), get_append (hnone _ (by simp)),
      get_append (hnone _ (by simp)), HeaderMap.get, HeaderMap.get, HeaderMap.get]
    simp [htext, Text.split_of_not_mem hcomma, asIp_address]
  rw [extractClientIpSafe_of_trusted htrusted, hforward, hextract, Option.getD_some]

/-- Two addresses that a client may write. -/
def firstAddress : Address := ⟨"192.0.2.1", by decide +kernel⟩

def secondAddress : Address := ⟨"192.0.2.2", by decide +kernel⟩

/-- **The headers of a client have no influence on its address exactly where no proxy is trusted.**
A proxy appends to `X-Forwarded-For`, and the Oracle reads its first element, which is what the
client has written. -/
theorem unspoofable_iff (trustedProxies : List String) (peer : Option Address) (client : Address) :
    Unspoofable trustedProxies peer client
      ↔ (peer.map Subtype.val).getD "unknown" ∉ trustedProxies := by
  constructor
  · intro h htrusted
    have heq := h.proxied htrusted [("x-forwarded-for", Text.utf8 firstAddress.val)]
      [("x-forwarded-for", Text.utf8 secondAddress.val)]
    rw [chosen htrusted, chosen htrusted] at heq
    exact absurd heq (by decide +kernel)
  · intro h
    refine ⟨fun _ headers headers' => ?_, fun htrusted => absurd htrusted h⟩
    rw [extractClientIpSafe_of_untrusted h, extractClientIpSafe_of_untrusted h]

/-! ## One proxy -/

namespace Sample

def proxy : Address := ⟨"10.0.0.1", by decide +kernel⟩

def client : Address := ⟨"198.51.100.7", by decide +kernel⟩

/-- The same client under two addresses. -/
theorem not_unspoofable :
    extractClientIpSafe (forward client [("x-forwarded-for", Text.utf8 "192.0.2.1")])
        (some "10.0.0.1") ["10.0.0.1"] = "192.0.2.1"
      ∧ extractClientIpSafe (forward client [("x-forwarded-for", Text.utf8 "192.0.2.2")])
        (some "10.0.0.1") ["10.0.0.1"] = "192.0.2.2"
      ∧ ¬∀ trustedProxies peer client, Unspoofable trustedProxies peer client := by
  have htrusted : ((some proxy).map Subtype.val).getD "unknown" ∈ ["10.0.0.1"] := by
    decide +kernel
  have hfirst := chosen htrusted client firstAddress
  have hsecond := chosen htrusted client secondAddress
  refine ⟨hfirst, hsecond, fun h => ?_⟩
  have heq := (h ["10.0.0.1"] (some proxy) client).proxied htrusted
    [("x-forwarded-for", Text.utf8 firstAddress.val)]
    [("x-forwarded-for", Text.utf8 secondAddress.val)]
  rw [hfirst, hsecond] at heq
  exact absurd heq (by decide +kernel)

end Sample

end Vaulted.ClientAddress
