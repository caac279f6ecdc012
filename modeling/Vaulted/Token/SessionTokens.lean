import Vaulted.Node.Server
import Vaulted.Oracle.SessionToken

/-!
# What a session token promises

The Oracle signs session tokens and storage tokens with one key.

* `IdealKey` — what is signed under the key was signed by the Oracle.
* `verifyToken_createToken`, `of_verifyToken` — a token is read as its claims until it
  expires, and no other string is read.
* `Promised` — that, that neither kind of token passes for the other, and that the extractor
  answers.
* `eq_authenticate` — its answer is the one that the claims get.
* `promised_iff` — the extractor answers unless it cuts a character of a fingerprint.
-/

namespace Vaulted.Session

open ProxyHeaders (HeaderMap isVisibleAscii toStr)
open Tokens (AuthError)

/-- Signatures have 64 bytes, the Oracle's verify, and nobody else's do. -/
structure IdealKey (c : Crates) (key : SigningKey) (made : Claims → Prop)
    (issued : StorageToken → Prop) : Prop where
  length : ∀ message, (key.sign message).length = 64
  correct : ∀ claims, made claims → c.ed.verify key.verifyingKey (Text.utf8 (claims.message c))
    (key.sign (Text.utf8 (claims.message c))) = true
  unforged : ∀ message signature, c.ed.verify key.verifyingKey message signature = true →
    (∃ claims, made claims ∧ message = Text.utf8 (claims.message c))
      ∨ ∃ t, issued t ∧ message = Text.utf8 (t.payload c)

/-- A request with a session token and, perhaps, a fingerprint. -/
def request (c : Crates) (key : SigningKey) (claims : Claims) (fingerprint : Option (List UInt8)) :
    HeaderMap :=
  ("authorization", Text.utf8 ("Bearer " ++ createToken c key claims))
    :: (fingerprint.map fun value => ("x-device-fingerprint", value)).toList

/-! ## The token -/

section Token

variable {c : Crates} {key : SigningKey} {made : Claims → Prop} {issued : StorageToken → Prop}

/-- Header and payload come first. -/
lemma split_message (hc : c.base64Url.Lawful) (claims : Claims) (s : String) :
    Text.split '.' (claims.message c ++ "." ++ s)
      = c.base64Url.encode (Text.utf8 (c.json.jsonToString jwtHeader))
        :: c.base64Url.encode (Text.utf8 (c.json.jsonToString claims.toJson))
        :: Text.split '.' s := by
  have hparts : claims.message c ++ "." ++ s
      = c.base64Url.encode (Text.utf8 (c.json.jsonToString jwtHeader)) ++ String.singleton '.'
        ++ (c.base64Url.encode (Text.utf8 (c.json.jsonToString claims.toJson))
          ++ String.singleton '.' ++ s) := by
    apply String.toList_injective
    simp [Claims.message, jwtMessage]
  rw [hparts, Text.split_append_split (hc.noDot _),
    Text.split_append_split (hc.noDot _)]

lemma split_createToken (hc : c.base64Url.Lawful) (claims : Claims) :
    Text.split '.' (createToken c key claims)
      = [c.base64Url.encode (Text.utf8 (c.json.jsonToString jwtHeader)),
          c.base64Url.encode (Text.utf8 (c.json.jsonToString claims.toJson)),
          c.base64Url.encode (key.sign (Text.utf8 (claims.message c)))] := by
  rw [createToken, split_message hc, Text.split_of_not_mem (hc.noDot _)]

/-- What is read of the payload. -/
lemma read_payload (hjson : c.json.ReadsIntegers) (claims : Claims) :
    c.json.jsonFromSlice (Text.utf8 (c.json.jsonToString claims.toJson)) >>= Claims.fromJson
      = .ok claims := by
  rw [TextCodec.jsonFromSlice, Text.fromUtf8_utf8]
  simp only [hjson _ (integral_toJson claims) (depth_toJson claims)]
  exact fromJson_toJson claims

lemma ensure_eq_ok {b : Bool} {e : AuthError} {r : Unit} (h : ensure b e = .ok r) : b = true := by
  cases b with
  | false => cases h
  | true => rfl

lemma eq_ok_of_mapErr {ε α : Type} {r : Except ε α} {e : AuthError} {a : α}
    (h : mapErr r e = .ok a) : r = .ok a := by
  cases r with
  | error e => cases h
  | ok b => exact congrArg Except.ok (Except.ok.inj h)

/-- **A token is read as its claims** up to the second in which it expires, and not after it. -/
theorem verifyToken_createToken (hc : c.base64Url.Lawful) (hjson : c.json.ReadsIntegers)
    (hkey : IdealKey c key made issued) {claims : Claims} (hmade : made claims) (now : Int) :
    verifyToken c key.verifyingKey now (createToken c key claims)
      = if now ≤ claims.exp.toInt then .ok claims else .error .TokenExpired := by
  have hverify : c.ed.verify key.verifyingKey
      (Text.utf8 (c.base64Url.encode (Text.utf8 (c.json.jsonToString jwtHeader)) ++ "."
        ++ c.base64Url.encode (Text.utf8 (c.json.jsonToString claims.toJson))))
      (key.sign (Text.utf8 (claims.message c))) = true := hkey.correct claims hmade
  have hread := read_payload hjson claims
  simp only [bind, Except.bind] at hread
  simp only [verifyToken, split_createToken hc, hc.decode_encode, mapErr, ensure,
    hkey.length, hverify, hread, decide_true, if_true, bind, Except.bind]
  by_cases hfresh : now ≤ claims.exp.toInt
  · have hlive : claims.isExpired now = false := decide_eq_false (by omega)
    simp only [hlive, if_pos hfresh]
    rfl
  · have hexpired : claims.isExpired now = true := decide_eq_true (by omega)
    simp only [hexpired, if_neg hfresh]
    rfl

/-- **Every string that is accepted** is header and payload of claims that the Oracle has signed,
with a signature, and is read as these claims. -/
theorem of_verifyToken (hc : c.base64Url.Lawful) (hjson : c.json.ReadsIntegers)
    (hkey : IdealKey c key made issued) {now : Int} {token : String} {claims : Claims}
    (h : verifyToken c key.verifyingKey now token = .ok claims) :
    made claims ∧ ∃ signature, token = claims.message c ++ "." ++ signature := by
  rw [verifyToken] at h
  split at h
  · next headerB64 payloadB64 signatureB64 hsplit =>
      obtain ⟨signature, -, h⟩ := bind_eq_ok h
      obtain ⟨_, -, h⟩ := bind_eq_ok h
      obtain ⟨_, hverify, h⟩ := bind_eq_ok h
      obtain ⟨payloadJson, hpayload, h⟩ := bind_eq_ok h
      obtain ⟨claims', hread, h⟩ := bind_eq_ok h
      obtain ⟨_, -, h⟩ := bind_eq_ok h
      obtain rfl := Except.ok.inj h
      rcases hkey.unforged _ _ (ensure_eq_ok hverify) with ⟨signed, hsigned, hmessage⟩
        | ⟨t, -, hmessage⟩
      · have htoken : token = signed.message c ++ "." ++ signatureB64 := by
          rw [← Text.utf8_injective hmessage, Text.of_split_eq_triple hsplit]
          rfl
        rw [htoken, split_message hc] at hsplit
        have hpayloadB64 := (List.cons.inj (List.cons.inj hsplit).2).1
        rw [← hpayloadB64, hc.decode_encode] at hpayload
        have hjsonText := Except.ok.inj (eq_ok_of_mapErr hpayload)
        rw [← hjsonText, read_payload hjson] at hread
        have hclaims : signed = claims' := Except.ok.inj (eq_ok_of_mapErr hread)
        rw [← hclaims]
        exact ⟨hsigned, signatureB64, htoken⟩
      · -- what is signed in a storage token has no separator
        have hdot : '.' ∉ (t.payload c).toList := hc.noDot _
        rw [← Text.utf8_injective hmessage] at hdot
        exact absurd (by simp) hdot
  · cases h

/-- A storage token has two parts. -/
lemma verifyToken_storageToken (hc : c.base64Url.Lawful) (t : StorageToken) (verifyingKey : List UInt8)
    (now : Int) : verifyToken c verifyingKey now (signStorageToken c key t)
      = .error .InvalidToken := by
  rw [verifyToken, Node.split_signed hc]

/-- A session token has three. -/
lemma readToken_createToken (hc : c.base64Url.Lawful) (claims : Claims) (state : Node.AppState) :
    ∃ e, Node.readToken c state (some (createToken c key claims)) = .error e := by
  cases hkey : state.oraclePublicKey with
  | none => exact ⟨_, by rw [Node.readToken, hkey]; rfl⟩
  | some vk =>
      refine ⟨⟨.Unauthorized, "Invalid token format"⟩, ?_⟩
      simp only [Node.readToken, hkey, Node.orRefuse, Option.elim_some, bind, Except.bind,
        split_createToken hc]

end Token

/-! ## The headers -/

section Headers

lemma utf8EncodeChar_ascii {b : UInt8} (h : isVisibleAscii b = true) :
    String.utf8EncodeChar (Char.ofNat b.toNat) = [b] ∧ (Char.ofNat b.toNat).utf8Size = 1 := by
  have hall : ∀ n < 128, String.utf8EncodeChar (Char.ofNat n) = [UInt8.ofNat n]
      ∧ (Char.ofNat n).utf8Size = 1 := by decide +kernel
  have hlt : b.toNat < 128 := by
    rw [isVisibleAscii, Bool.or_eq_true_iff, Bool.and_eq_true_iff, decide_eq_true_eq,
      decide_eq_true_eq, beq_iff_eq] at h
    rcases h with ⟨-, hlt⟩ | rfl
    · have hlt := UInt8.lt_iff_toNat_lt.mp hlt
      exact lt_trans hlt (by decide)
    · decide
  simpa using hall b.toNat hlt

/-- A value of visible bytes is a text of one byte a character. -/
lemma toStr_visible {value : List UInt8} (h : value.all isVisibleAscii = true) :
    ∃ s, toStr value = some s ∧ Text.utf8 s = value ∧ ∀ ch ∈ s.toList, ch.utf8Size = 1 := by
  have hvisible := List.all_eq_true.mp h
  have hbytes : (value.map fun b => Char.ofNat b.toNat).flatMap String.utf8EncodeChar = value := by
    clear h
    induction value with
    | nil => rfl
    | cons b value ih =>
        rw [List.map_cons, List.flatMap_cons, (utf8EncodeChar_ascii (hvisible b (by simp))).1,
          ih fun b' hb' => hvisible b' (List.mem_cons_of_mem b hb')]
        rfl
  have hutf8 : Text.utf8 (String.ofList (value.map fun b => Char.ofNat b.toNat)) = value := by
    rw [Text.utf8, String.toList_ofList, hbytes]
  refine ⟨_, ?_, hutf8, ?_⟩
  · rw [toStr, if_pos h]
    exact (congrArg Text.fromUtf8 hutf8.symm).trans (Text.fromUtf8_utf8 _)
  · intro ch hch
    rw [String.toList_ofList] at hch
    obtain ⟨b, hb, rfl⟩ := List.mem_map.mp hch
    exact (utf8EncodeChar_ascii (hvisible b hb)).2

/-- What is read of a header is one byte a character. -/
lemma of_toStr {value : List UInt8} {s : String} (h : toStr value = some s) :
    value.all isVisibleAscii = true ∧ Text.utf8 s = value ∧ ∀ ch ∈ s.toList, ch.utf8Size = 1 := by
  have hvisible : value.all isVisibleAscii = true := by
    rw [toStr] at h
    split_ifs at h with hvisible
    exact hvisible
  obtain ⟨s', hs', hutf8, hsize⟩ := toStr_visible hvisible
  obtain rfl := Option.some.inj (hs'.symm.trans h)
  exact ⟨hvisible, hutf8, hsize⟩

variable {c : Crates} {key : SigningKey}

lemma visible_urlDigit {ch : Char} (h : Base64.IsUrlDigit ch) :
    (String.utf8EncodeChar ch).all isVisibleAscii = true := by
  obtain ⟨n, hn, rfl⟩ := h
  exact (by decide +kernel : ∀ n < 64, (String.utf8EncodeChar (Base64.toUrl (Base64.digit n))).all
    isVisibleAscii = true) n hn

/-- A token needs no more than visible characters. -/
lemma visible_createToken (hurl : Base64.Alphabet c.base64Url) (claims : Claims) :
    (Text.utf8 ("Bearer " ++ createToken c key claims)).all isVisibleAscii = true := by
  rw [Text.utf8, List.all_flatMap, List.all_eq_true]
  intro ch hch
  have hparts : ch ∈ "Bearer ".toList ∨ Base64.IsUrlDigit ch ∨ ch = '.' := by
    simp only [createToken, Claims.message, jwtMessage, String.toList_append, List.mem_append] at hch
    rcases hch with hbearer | (((h | h) | h) | h) | h
    · exact .inl hbearer
    · exact .inr (.inl (hurl _ ch h))
    · exact .inr (.inr (List.mem_singleton.mp h))
    · exact .inr (.inl (hurl _ ch h))
    · exact .inr (.inr (List.mem_singleton.mp h))
    · exact .inr (.inl (hurl _ ch h))
  rcases hparts with hbearer | hdigit | rfl
  · exact List.all_eq_true.mp (by decide +kernel : ("Bearer ".toList.all fun ch =>
      (String.utf8EncodeChar ch).all isVisibleAscii) = true) ch hbearer
  · exact visible_urlDigit hdigit
  · decide

/-- The header is read as the token. -/
lemma bearer_request (hurl : Base64.Alphabet c.base64Url) (claims : Claims)
    (fingerprint : Option (List UInt8)) (verifyingKey : List UInt8) (now : Int) :
    bearer c verifyingKey now (request c key claims fingerprint)
      = verifyToken c verifyingKey now (createToken c key claims) := by
  have hvalue : HeaderMap.get (request c key claims fingerprint) "authorization"
      = some (Text.utf8 ("Bearer " ++ createToken c key claims)) := by
    simp [request, HeaderMap.get]
  have htext : toStr (Text.utf8 ("Bearer " ++ createToken c key claims))
      = some ("Bearer " ++ createToken c key claims) := by
    rw [toStr, if_pos (visible_createToken hurl claims), Text.fromUtf8_utf8]
  rw [bearer, hvalue, okOr, Option.elim_some]
  simp only [bind, Except.bind, htext, okOr, Option.elim_some, Text.stripPrefix_append]

lemma requestFingerprint_request (claims : Claims) (fingerprint : Option (List UInt8)) :
    requestFingerprint (request c key claims fingerprint) = (fingerprint.bind toStr).getD "" := by
  cases fingerprint <;> simp [requestFingerprint, request, HeaderMap.get]

end Headers

/-! ## The warning -/

/-- The ninth byte continues a character. -/
def Cuts (dfp : String) : Prop :=
  ∃ front ch back, dfp.toList = front ++ ch :: back ∧ Text.byteLen front < 8
    ∧ 8 < Text.byteLen front + ch.utf8Size

lemma shortened_eq_none {s : String} : shortened s = none ↔ Cuts s := by
  have hslice : shortened s = (Text.splitAtByte s.toList (min 8 (Text.len s))).map
      fun p => String.ofList p.1 := by
    have hfront := Text.slice_of_split (List.nil_append s.toList).symm (min 8 (Text.len s))
    rwa [Text.byteLen_nil, Nat.zero_add] at hfront
  rw [hslice, Option.map_eq_none_iff, Text.splitAtByte_eq_none, Text.len_eq_byteLen]
  constructor
  · rintro (hlt | ⟨front, ch, back, hs, hlt, hgt⟩)
    · omega
    · have hlen : Text.byteLen s.toList
          = Text.byteLen front + (ch.utf8Size + Text.byteLen back) := by
        rw [hs, Text.byteLen_append, Text.byteLen_cons]
      exact ⟨front, ch, back, hs, by omega, by omega⟩
  · rintro ⟨front, ch, back, hs, hlt, hgt⟩
    have hlen : Text.byteLen s.toList
        = Text.byteLen front + (ch.utf8Size + Text.byteLen back) := by
      rw [hs, Text.byteLen_append, Text.byteLen_cons]
    exact .inr ⟨front, ch, back, hs, by omega, by omega⟩

/-- A text of one byte a character has none to cut. -/
lemma not_cuts {s : String} (h : ∀ ch ∈ s.toList, ch.utf8Size = 1) : ¬ Cuts s := by
  rintro ⟨front, ch, back, hs, hlt, hgt⟩
  have hsize := h ch (by rw [hs]; simp)
  omega

lemma warnMismatch_eq_none {warns : Bool} {tokenDfp requestDfp : String}
    (h : ∀ ch ∈ requestDfp.toList, ch.utf8Size = 1) :
    warnMismatch warns tokenDfp requestDfp = none ↔ warns = true ∧ Cuts tokenDfp := by
  cases warns with
  | false => simp [warnMismatch]
  | true =>
      cases hsent : shortened requestDfp with
      | none => exact absurd (shortened_eq_none.mp hsent) (not_cuts h)
      | some sent => 
          rw [← shortened_eq_none]
          cases htoken : shortened tokenDfp <;> simp [warnMismatch, hsent, htoken]

/-! ## The extractor -/

/-- A fingerprint has been sent, and is text. -/
def Sent (fingerprint : Option (List UInt8)) : Prop :=
  ∃ value, fingerprint = some value ∧ value ≠ [] ∧ value.all isVisibleAscii = true

/-- The extractor gets as far as the warning, and its text would cut a character: then the request
is not answered at all. -/
structure CutsFingerprint (now : Int) (blacklisted : String → Bool) (warns : Bool)
    (claims : Claims) (fingerprint : Option (List UInt8)) : Prop where
  warns : warns = true
  fresh : now ≤ claims.exp.toInt
  access : claims.typ ≠ "refresh"
  live : blacklisted claims.jti = false
  sent : Sent fingerprint
  bound : ∃ dfp, claims.dfp = some dfp ∧ Cuts dfp

section Extractor

variable {c : Crates} {key : SigningKey} {made : Claims → Prop} {issued : StorageToken → Prop}
  {now : Int} {blacklisted : String → Bool} {warns : Bool} {claims : Claims}
  {fingerprint : Option (List UInt8)}

lemma sent_iff : Sent fingerprint ↔ Text.isEmpty ((fingerprint.bind toStr).getD "") = false := by
  cases fingerprint with
  | none => exact iff_of_false (by rintro ⟨value, h, -⟩; cases h) (by decide)
  | some value =>
      rw [Option.bind_some]
      cases hread : toStr value with
      | none =>
          refine iff_of_false ?_ (by decide)
          rintro ⟨value', hvalue, -, hvisible⟩
          obtain ⟨s, hs, -⟩ := toStr_visible hvisible
          rw [← Option.some.inj hvalue, hread] at hs
          cases hs
      | some s =>
          obtain ⟨hvisible, hutf8, -⟩ := of_toStr hread
          have hempty : value = [] ↔ s.toList = [] := by
            rw [← hutf8]
            refine ⟨fun h => Text.byteLen_eq_zero ?_, fun h => by rw [Text.utf8, h]; rfl⟩
            rw [← Text.len_eq_byteLen, Text.len, h, List.length_nil]
          rw [Option.getD_some, Text.isEmpty, List.isEmpty_eq_false_iff]
          refine Iff.trans ?_ (not_congr hempty)
          constructor
          · rintro ⟨value', hvalue, hne, -⟩
            rwa [Option.some.inj hvalue]
          · exact fun hne => ⟨value, rfl, hne, hvisible⟩

/-- The header is read as characters of one byte. -/
lemma size_fingerprint : ∀ ch ∈ ((fingerprint.bind toStr).getD "").toList, ch.utf8Size = 1 := by
  cases hread : fingerprint.bind toStr with
  | none => simp
  | some s =>
      obtain ⟨value, -, hvalue⟩ := Option.bind_eq_some_iff.mp hread
      exact (of_toStr hvalue).2.2

lemma checkDevice_eq_none : checkDevice warns claims ((fingerprint.bind toStr).getD "") = none ↔
    warns = true ∧ Sent fingerprint ∧ ∃ dfp, claims.dfp = some dfp ∧ Cuts dfp := by
  have hsize : ∀ ch ∈ ((fingerprint.bind toStr).getD "").toList, ch.utf8Size = 1 :=
    size_fingerprint
  rw [sent_iff, checkDevice]
  generalize (fingerprint.bind toStr).getD "" = requestDfp at hsize ⊢
  cases hdfp : claims.dfp with
  | none => simp
  | some tokenDfp =>
      simp only
      cases hempty : Text.isEmpty requestDfp with
      | true => simp
      | false =>
          by_cases hsame : requestDfp = tokenDfp
          · subst hsame
            simpa using fun _ => not_cuts hsize
          · simp [hsame, warnMismatch_eq_none hsize]

/-- **The extractor panics** if and only if it cuts a fingerprint. -/
theorem fromRequestParts_eq_none (hc : c.base64Url.Lawful) (hjson : c.json.ReadsIntegers)
    (hurl : Base64.Alphabet c.base64Url) (hkey : IdealKey c key made issued) (hmade : made claims) :
    fromRequestParts c key.verifyingKey now blacklisted warns (request c key claims fingerprint)
      = none ↔ CutsFingerprint now blacklisted warns claims fingerprint := by
  have hread : bearer c key.verifyingKey now (request c key claims fingerprint) = _ :=
    bearer_request hurl claims fingerprint key.verifyingKey now
  rw [verifyToken_createToken hc hjson hkey hmade] at hread
  rw [fromRequestParts, requestFingerprint_request, hread]
  constructor
  · intro h
    by_cases hfresh : now ≤ claims.exp.toInt
    · rw [if_pos hfresh] at h
      simp only at h
      split_ifs at h with hrefresh hrevoked
      obtain ⟨hwarns, hsent, hbound⟩ := checkDevice_eq_none.mp h
      exact ⟨hwarns, hfresh, by simpa [Claims.isRefresh] using hrefresh, by simpa using hrevoked,
        hsent, hbound⟩
    · rw [if_neg hfresh] at h
      cases h
  · rintro ⟨hwarns, hfresh, haccess, hlive, hsent, hbound⟩
    have hrefresh : claims.isRefresh = false := decide_eq_false haccess
    rw [if_pos hfresh]
    simp only [hrefresh, hlive, Bool.false_eq_true, if_false]
    exact checkDevice_eq_none.mpr ⟨hwarns, hsent, hbound⟩

/-! ### Claims that the Oracle makes -/

def typText : TokenType → String
  | .Access => "access"
  | .Refresh => "refresh"

/-- Claims with their field types. -/
def ofClaims (claims : Vaulted.Claims) : Claims where
  sub := claims.sub
  iat := Int64.ofNat claims.iat
  exp := Int64.ofNat claims.exp
  typ := typText claims.typ
  jti := claims.jti.text
  role := claims.role
  dfp := claims.dfp

lemma isRefresh_ofClaims (claims : Vaulted.Claims) :
    (ofClaims claims).isRefresh = true ↔ claims.typ = .Refresh := by
  rw [Claims.isRefresh, decide_eq_true_eq, ofClaims]
  cases claims.typ <;> simp [typText]

/-- **An answer is the one that the claims get.** -/
theorem eq_authenticate (hc : c.base64Url.Lawful) (hjson : c.json.ReadsIntegers)
    (hurl : Base64.Alphabet c.base64Url) (hkey : IdealKey c key made issued)
    {claims : Vaulted.Claims} (hexp : claims.exp < 2 ^ 63) (hmade : made (ofClaims claims))
    {env : StoreEnv} {stores : TokenStores} {answer : Except AuthError AuthenticatedUser}
    (h : fromRequestParts c key.verifyingKey env.now.timestamp (stores.isTokenBlacklisted env ·)
      warns (request c key (ofClaims claims) fingerprint) = some answer) :
    answer = Tokens.authenticate env (.ok claims) (fingerprint.bind toStr) stores := by
  have hread : bearer c key.verifyingKey env.now.timestamp
      (request c key (ofClaims claims) fingerprint) = _ :=
    bearer_request hurl (ofClaims claims) fingerprint key.verifyingKey env.now.timestamp
  have hint : (ofClaims claims).exp.toInt = claims.exp := Int64.toInt_ofNat_of_lt hexp
  rw [verifyToken_createToken hc hjson hkey hmade, hint] at hread
  rw [fromRequestParts, requestFingerprint_request, hread] at h
  rw [Tokens.authenticate, Tokens.verifyToken]
  by_cases hfresh : (env.now.timestamp : Int) ≤ claims.exp
  · have hlive : claims.isExpired env.now = false := decide_eq_false (by omega)
    rw [if_pos hfresh] at h
    simp only [isRefresh_ofClaims] at h
    simp only [bind, Except.bind, hlive, Bool.false_eq_true, if_false]
    by_cases hrefresh : claims.typ = .Refresh
    · rw [if_pos hrefresh] at h ⊢
      exact (Option.some.inj h).symm
    · rw [if_neg hrefresh] at h ⊢
      cases hrevoked : stores.isTokenBlacklisted env claims.jti.text with
      | true =>
          simp only [ofClaims, hrevoked, if_true] at h
          exact (Option.some.inj h).symm
      | false =>
          simp only [ofClaims, hrevoked, Bool.false_eq_true, if_false, checkDevice] at h ⊢
          cases hdfp : claims.dfp with
          | none =>
              rw [hdfp] at h
              exact (Option.some.inj h).symm
          | some tokenDfp =>
              simp only [hdfp] at h ⊢
              split_ifs at h ⊢ with hempty hsame
              · exact (Option.some.inj h).symm
              · exact (Option.some.inj h).symm
              · obtain ⟨_, -, hanswer⟩ := Option.map_eq_some_iff.mp h
                exact hanswer.symm
  · have hexpired : claims.isExpired env.now = true := decide_eq_true (by omega)
    rw [if_neg hfresh] at h
    simp only [bind, Except.bind, hexpired, if_true]
    exact (Option.some.inj h).symm

end Extractor

/-! ## What is promised -/

/-- What is promised of a session token, and of a request with it: it is good until its last second,
nobody else can make one, a token of the storage nodes is none, and the request is answered. -/
structure Promised (c : Crates) (key : SigningKey) (made : Claims → Prop) (now : Int)
    (blacklisted : String → Bool) (warns : Bool) (claims : Claims)
    (fingerprint : Option (List UInt8)) : Prop where
  fresh : now ≤ claims.exp.toInt →
    verifyToken c key.verifyingKey now (createToken c key claims) = .ok claims
  expired : claims.exp.toInt < now →
    ∃ e, verifyToken c key.verifyingKey now (createToken c key claims) = .error e
  signed : ∀ now token claims', verifyToken c key.verifyingKey now token = .ok claims' →
    made claims' ∧ ∃ signature, token = claims'.message c ++ "." ++ signature
  noStorageToken : ∀ t now, ∃ e,
    verifyToken c key.verifyingKey now (signStorageToken c key t) = .error e
  noSessionToken : ∀ state storageKey operation computedFragmentHash now, ∃ e,
    Node.authority c state (some (createToken c key claims)) storageKey operation
      computedFragmentHash now = .error e
  answers : ∃ answer, fromRequestParts c key.verifyingKey now blacklisted warns
    (request c key claims fingerprint) = some answer

/-- **All of it is kept if and only if** no fingerprint is cut. The tokens themselves are sound;
what may fail is the warning about a device that does not match, which shows the first eight bytes
of a text that the client has chosen. -/
theorem promised_iff {c : Crates} {key : SigningKey} {made : Claims → Prop}
    {issued : StorageToken → Prop} (hc : c.base64Url.Lawful) (hjson : c.json.ReadsIntegers)
    (hurl : Base64.Alphabet c.base64Url) (hkey : IdealKey c key made issued) {claims : Claims}
    (hmade : made claims) (now : Int) (blacklisted : String → Bool) (warns : Bool)
    (fingerprint : Option (List UInt8)) :
    Promised c key made now blacklisted warns claims fingerprint
      ↔ ¬ CutsFingerprint now blacklisted warns claims fingerprint := by
  have hread := verifyToken_createToken hc hjson hkey hmade now
  rw [← fromRequestParts_eq_none hc hjson hurl hkey hmade, ← ne_eq, Option.ne_none_iff_exists']
  refine ⟨Promised.answers, fun hanswers => ?_⟩
  exact
    { fresh := fun hfresh => by rw [hread, if_pos hfresh]
      expired := fun hexpired => ⟨_, by rw [hread, if_neg (by omega)]⟩
      signed := fun now token claims' => of_verifyToken hc hjson hkey
      noStorageToken := fun t now => ⟨_, verifyToken_storageToken hc t key.verifyingKey now⟩
      noSessionToken := by
        intro state storageKey operation computedFragmentHash now
        obtain ⟨e, he⟩ : ∃ e, Node.readToken c state (some (createToken c key claims)) = .error e :=
          readToken_createToken hc claims state
        exact ⟨e, by rw [Node.authority, he]; rfl⟩
      answers := hanswers }

/-! ## A fingerprint with an accent -/

namespace Sample

open Node.Sample (crates crates_lawful oracleKey sign_length)

/-- The token of a client that chose a fingerprint of nine bytes. -/
def accented : Claims where
  sub := "r"
  iat := 0
  exp := 60
  typ := "access"
  jti := "t"
  role := "user"
  dfp := some "1234567é"

/-- The libraries, where nothing but that token has been signed. -/
def signedOnce : Crates :=
  { crates with
    ed :=
      { isKey := fun _ => true
        verify := fun pk message signature =>
          decide (signature = Ed25519.sign pk message)
            && decide (message = Text.utf8 (accented.message crates)) } }

def onlyAccented (claims : Claims) : Prop := claims = accented

lemma signedOnce_lawful : signedOnce.base64Url.Lawful := crates_lawful.base64Url

lemma message_signedOnce : accented.message signedOnce = accented.message crates := by
  rw [Claims.message, Claims.message]
  rfl

lemma verify_signedOnce {message : List UInt8}
    (h : message = Text.utf8 (accented.message crates)) :
    signedOnce.ed.verify oracleKey.verifyingKey message (oracleKey.sign message) = true :=
  (Bool.and_eq_true _ _).mpr ⟨decide_eq_true rfl, decide_eq_true h⟩

lemma ideal : IdealKey signedOnce oracleKey onlyAccented fun _ => False where
  length := sign_length
  correct := by
    rintro claims rfl
    exact verify_signedOnce (congrArg Text.utf8 message_signedOnce)
  unforged := by
    intro message signature hverify
    obtain ⟨-, hmessage⟩ := Bool.and_eq_true_iff.mp hverify
    exact .inl ⟨accented, rfl, (of_decide_eq_true hmessage).trans
      (congrArg Text.utf8 message_signedOnce.symm)⟩

theorem promised_accented :
    Promised signedOnce oracleKey onlyAccented 0 (fun _ => false) true accented none
      ↔ ¬ CutsFingerprint 0 (fun _ => false) true accented none :=
  promised_iff signedOnce_lawful JsonText.compact_readsIntegers Base64.urlSafe_alphabet ideal rfl 0
    (fun _ => false) true none

lemma cuts_accented : CutsFingerprint 0 (fun _ => false) true accented (some [120]) where
  warns := rfl
  fresh := by simp [accented]
  access := by decide
  live := rfl
  sent := ⟨[120], rfl, by decide, by decide⟩
  bound := ⟨"1234567é", rfl, "1234567".toList, 'é', [], by decide, by decide, by decide⟩

/-- **A fingerprint with an accent** stops the extractor. -/
theorem not_promised : ¬∀ (c : Crates) (key : SigningKey) (made : Claims → Prop)
    (issued : StorageToken → Prop) (now : Int) (blacklisted : String → Bool) (warns : Bool)
    (claims : Claims) (fingerprint : Option (List UInt8)),
    c.base64Url.Lawful → c.json.ReadsIntegers → Base64.Alphabet c.base64Url →
    IdealKey c key made issued → made claims →
    Promised c key made now blacklisted warns claims fingerprint := by
  intro hpromised
  obtain ⟨answer, hanswer⟩ := (hpromised signedOnce oracleKey onlyAccented (fun _ => False) 0
    (fun _ => false) true accented (some [120]) signedOnce_lawful JsonText.compact_readsIntegers
    Base64.urlSafe_alphabet ideal rfl).answers
  have hpanic := (fromRequestParts_eq_none signedOnce_lawful JsonText.compact_readsIntegers
    Base64.urlSafe_alphabet ideal rfl).mpr cuts_accented
  rw [hanswer] at hpanic
  cases hpanic

end Sample

end Vaulted.Session
