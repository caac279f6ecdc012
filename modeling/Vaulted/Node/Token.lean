import Vaulted.Library.Base64Url
import Vaulted.Library.TextCodec
import Vaulted.Oracle.Auth

/-!
# Storage tokens on a node

How the Oracle signs a storage token (`storage_token.rs`), and how a storage node verifies one
(`verify_token_for_operation` and `consume_token_id` of `main.rs`).

* `Crates` — what both sides take from libraries: signatures, base64, JSON, hashes.
* `signStorageToken` — payload and signature; `TokenPayload` — what the node reads of it.
* `authority` — everything that a node checks about a token without looking at its state; the id
  that is left to consume, and when it expires.
* `consumeTokenId` — the locked step, with a reading of the clock that was taken before.
* `readToken_signed`, `issued_of_readToken` — a node reads from a signed token what was signed, and
  takes no other string for one.
-/

namespace Vaulted

/-- The libraries that Oracle and storage nodes share. -/
structure Crates where
  ed : Ed25519
  base64Url : UrlCodec
  json : TextCodec
  sha256 : List UInt8 → List UInt8
  blake3 : List UInt8 → List UInt8

/-- The codecs undo themselves. -/
structure Crates.Lawful (c : Crates) : Prop where
  base64Url : c.base64Url.Lawful
  json : c.json.Lawful

/-- A signing key, by what can be done with it. -/
structure SigningKey where
  verifyingKey : List UInt8
  sign : List UInt8 → List UInt8

/-! ## The Oracle -/

def StorageOperation.text : StorageOperation → String
  | .Read => "read"
  | .Write => "write"
  | .Delete => "delete"

lemma StorageOperation.text_inj {o o' : StorageOperation} (h : o.text = o'.text) : o = o' := by
  cases o <;> cases o' <;> first | rfl | exact absurd h (by decide)

/-- A member that is left out where there is no value. -/
def skipNone (name : String) (value : Option String) : List (String × Json) :=
  (value.map fun s => (name, Json.Str s)).toList

def StorageToken.toJson (t : StorageToken) : Json :=
  .Obj ([("nft_token_id", .Str t.nftTokenId), ("storage_key", .Str t.storageKey),
      ("operation", .Str t.operation.text), ("exp", .Num (.Nat t.exp)), ("iat", .Num (.Nat t.iat))]
    ++ skipNone "storage_node_id" t.storageNodeId ++ skipNone "fragment_hash" t.fragmentHash
    ++ skipNone "jti" t.jti)

/-- The times are signed 64-bit integers. -/
def StorageToken.Fits (t : StorageToken) : Prop := t.exp < 2 ^ 63 ∧ t.iat < 2 ^ 63

section Sign

variable (c : Crates) (key : SigningKey)

/-- The first part of a token, which is what the Oracle signs. -/
def StorageToken.payload (t : StorageToken) : String :=
  c.base64Url.encode (Text.utf8 (c.json.jsonToString t.toJson))

def signStorageToken (t : StorageToken) : String :=
  t.payload c ++ "." ++ c.base64Url.encode (key.sign (Text.utf8 (t.payload c)))

/-- What the Oracle signs in a token of `auth.rs` (`create_token`). -/
def jwtMessage (header claims : List UInt8) : String :=
  c.base64Url.encode header ++ "." ++ c.base64Url.encode claims

/-- What the Oracle has signed verifies. -/
def SigningKey.Correct (issued : StorageToken → Prop) : Prop :=
  ∀ t, issued t → (key.sign (Text.utf8 (t.payload c))).length = 64
    ∧ c.ed.verify key.verifyingKey (Text.utf8 (t.payload c)) (key.sign (Text.utf8 (t.payload c)))
      = true

/-- Nobody else signs with the key, and the Oracle signs nothing but the tokens it has issued and
the login tokens. -/
def SigningKey.Unforged (issued : StorageToken → Prop) : Prop :=
  ∀ message signature, c.ed.verify key.verifyingKey message signature = true →
    (∃ t, issued t ∧ message = Text.utf8 (t.payload c))
      ∨ ∃ header claims, message = Text.utf8 (jwtMessage c header claims)

end Sign

/-! ## The node -/

namespace Node

inductive StatusCode
  | BadRequest
  | Unauthorized
  | Forbidden
  | NotFound
  | Conflict
  | PayloadTooLarge
  | InternalServerError
  deriving DecidableEq, Repr

structure ErrorResponse where
  status : StatusCode
  error : String
  deriving DecidableEq, Repr

/-- What stays the same over a run of a node. -/
structure AppState where
  nodeId : String
  oraclePublicKey : Option (List UInt8)
  requireAuth : Bool
  maxFragmentSize : Nat

/-- `StorageToken` of the node. -/
structure TokenPayload where
  nftTokenId : String
  storageKey : String
  operation : String
  exp : Int
  iat : Int
  storageNodeId : Option String
  fragmentHash : Option String
  jti : Option String
  deriving DecidableEq

/-- An element of a sequence that may be missing or null. -/
def optionalItem (items : List Json) (i : Nat) : Except String (Option String) :=
  match items[i]? with
  | none => .ok none
  | some item => if item.isNull then .ok none else (Json.decodeStr item).map some

/-- A record is an object, or a sequence of its fields. -/
def TokenPayload.fromJson : Json → Except String TokenPayload
  | .Arr (nftTokenId :: storageKey :: operation :: exp :: iat :: rest) =>
      if 3 < rest.length then .error "trailing characters"
      else do
        return {
          nftTokenId := ← Json.decodeStr nftTokenId
          storageKey := ← Json.decodeStr storageKey
          operation := ← Json.decodeStr operation
          exp := ← Json.decodeI64 exp
          iat := ← Json.decodeI64 iat
          storageNodeId := ← optionalItem rest 0
          fragmentHash := ← optionalItem rest 1
          jti := ← optionalItem rest 2 }
  | .Arr _ => .error "invalid length"
  | j => do
      return {
        nftTokenId := ← j.field "nft_token_id" Json.decodeStr
        storageKey := ← j.field "storage_key" Json.decodeStr
        operation := ← j.field "operation" Json.decodeStr
        exp := ← j.field "exp" Json.decodeI64
        iat := ← j.field "iat" Json.decodeI64
        storageNodeId := ← j.optionalField "storage_node_id" Json.decodeStr
        fragmentHash := ← j.optionalField "fragment_hash" Json.decodeStr
        jti := ← j.optionalField "jti" Json.decodeStr }

/-- What the node makes of a token of the Oracle. -/
def TokenPayload.ofToken (t : StorageToken) : TokenPayload where
  nftTokenId := t.nftTokenId
  storageKey := t.storageKey
  operation := t.operation.text
  exp := t.exp
  iat := t.iat
  storageNodeId := t.storageNodeId
  fragmentHash := t.fragmentHash
  jti := t.jti

/-! ### Checks -/

/-- Go on if `c` holds, or refuse. -/
def require (c : Bool) (status : StatusCode) (error : String) : Except ErrorResponse Unit :=
  if c then .ok () else .error ⟨status, error⟩

/-- `Option::ok_or_else`. -/
def orRefuse {α : Type} (o : Option α) (status : StatusCode) (error : String) :
    Except ErrorResponse α := o.elim (.error ⟨status, error⟩) .ok

/-- `Result::map_err`. -/
def okOrRefuse {ε α : Type} (r : Except ε α) (status : StatusCode) (error : String) :
    Except ErrorResponse α :=
  match r with
  | .ok a => .ok a
  | .error _ => .error ⟨status, error⟩

section Verify

variable (c : Crates) (state : AppState)

/-- The payload, if the Oracle has signed it. -/
def readToken (token : Option String) : Except ErrorResponse TokenPayload := do
  let tokenStr ← orRefuse token .Unauthorized "Missing token parameter"
  let verifyingKey ← orRefuse state.oraclePublicKey .InternalServerError
    "Server misconfigured: missing Oracle public key"
  match Text.split '.' tokenStr with
  | [payloadB64, signatureB64] => do
      let signature ← okOrRefuse (c.base64Url.decode signatureB64) .Unauthorized
        "Invalid token signature encoding"
      require (decide (signature.length = 64)) .Unauthorized "Invalid signature length"
      require (c.ed.verify verifyingKey (Text.utf8 payloadB64) signature) .Unauthorized
        "Invalid token signature"
      let payloadJson ← okOrRefuse (c.base64Url.decode payloadB64) .Unauthorized
        "Invalid token payload encoding"
      okOrRefuse (c.json.jsonFromSlice payloadJson >>= TokenPayload.fromJson) .Unauthorized
        "Invalid token payload"
  | _ => .error ⟨.Unauthorized, "Invalid token format"⟩

/-- The hash of a token, if there is one, is that of the body, if there is one. -/
def hashMatches (expected computed : Option String) : Bool :=
  match expected, computed with
  | some expectedHash, some computedHash => Text.eqIgnoreAsciiCase expectedHash computedHash
  | _, _ => true

/-- `matches!(operation, "write" | "delete")`. -/
def mutates : StorageOperation → Bool
  | .Read => false
  | .Write => true
  | .Delete => true

/-- The token is one for the request; the id that the request has to consume, with its expiry. -/
def checkToken (t : TokenPayload) (storageKey : String) (operation : StorageOperation)
    (computedFragmentHash : Option String) (now : Int) :
    Except ErrorResponse (Option (String × Int)) := do
  require (decide (now ≤ t.exp)) .Unauthorized "Token expired"
  require (decide (t.storageKey = storageKey)) .Forbidden "Token not valid for this fragment"
  require (decide (t.storageNodeId = some state.nodeId)) .Forbidden
    "Token not valid for this storage node"
  require (decide (t.operation = operation.text)) .Forbidden
    ("Token not valid for " ++ operation.text ++ " operation")
  require (hashMatches t.fragmentHash computedFragmentHash) .Forbidden
    "Token not valid for this encrypted fragment"
  if mutates operation then do
    let jti ← orRefuse t.jti .Forbidden "Token missing replay protection"
    return some (jti, t.exp)
  else return none

/-- `verify_token_for_operation`, up to the locked step. -/
def authority (token : Option String) (storageKey : String) (operation : StorageOperation)
    (computedFragmentHash : Option String) (now : Int) :
    Except ErrorResponse (Option (String × Int)) := do
  let t ← readToken c state token
  checkToken state t storageKey operation computedFragmentHash now

end Verify

/-! ### The consumed ids -/

/-- `consumed_token_ids`: the ids that have been used, with their expiry. -/
abbrev ConsumedIds := String → Option Int

/-- The entries that have not expired. -/
def retain (consumed : ConsumedIds) (now : Int) : ConsumedIds :=
  fun jti => (consumed jti).filter fun expiresAt => decide (now ≤ expiresAt)

/-- An id is not empty, not too long, and without control characters. -/
def validTokenId (jti : String) : Bool :=
  !Text.isEmpty jti && decide (Text.len jti ≤ 128) && !jti.toList.any Text.isControl

def consumeTokenId (jti : String) (exp now : Int) (consumed : ConsumedIds) :
    Except ErrorResponse Unit × ConsumedIds :=
  if !validTokenId jti then (.error ⟨.Unauthorized, "Invalid token payload"⟩, consumed)
  else
    let live := retain consumed now
    if (live jti).isSome then (.error ⟨.Forbidden, "Token has already been used"⟩, live)
    else (.ok (), Function.update live jti (some exp))

/-! ## What the checks tell -/

lemma require_eq_ok {b : Bool} {status : StatusCode} {error : String} {r : Unit}
    (h : require b status error = .ok r) : b = true := by
  cases b with
  | false => cases h
  | true => rfl

lemma orRefuse_eq_ok {α : Type} {o : Option α} {status : StatusCode} {error : String} {a : α}
    (h : orRefuse o status error = .ok a) : o = some a := by
  cases o with
  | none => cases h
  | some b => exact congrArg some (Except.ok.inj h)

lemma okOrRefuse_eq_ok {ε α : Type} {r : Except ε α} {status : StatusCode} {error : String} {a : α}
    (h : okOrRefuse r status error = .ok a) : r = .ok a := by
  cases r with
  | error e => cases h
  | ok b => exact congrArg Except.ok (Except.ok.inj h)

/-! ### The payload -/

lemma plain_skipNone {name : String} {value : Option String} {m : String × Json}
    (h : m ∈ skipNone name value) : m.2.Plain := by
  cases value with
  | none => cases h
  | some s =>
      rw [List.mem_singleton.mp h]
      exact .Str s

lemma plain_toJson {t : StorageToken} (ht : t.Fits) : t.toJson.Plain := by
  have hexp : t.exp < 2 ^ 64 := lt_trans ht.1 (by decide)
  have hiat : t.iat < 2 ^ 64 := lt_trans ht.2 (by decide)
  refine .Obj _ fun m hm => ?_
  simp only [List.mem_append, List.mem_cons, List.not_mem_nil, or_false] at hm
  rcases hm with (((rfl | rfl | rfl | rfl | rfl) | h) | h) | h
  · exact .Str _
  · exact .Str _
  · exact .Str _
  · exact .Num _ hexp
  · exact .Num _ hiat
  · exact plain_skipNone h
  · exact plain_skipNone h
  · exact plain_skipNone h

lemma depth_skipNone {name : String} {value : Option String} {m : String × Json}
    (h : m ∈ skipNone name value) : m.2.depth ≤ 1 := by
  cases value with
  | none => cases h
  | some s =>
      rw [List.mem_singleton.mp h]
      exact Nat.zero_le 1

lemma depth_toJson (t : StorageToken) : t.toJson.depth ≤ 127 := by
  refine Json.depth_record fun m hm => ?_
  simp only [List.mem_append, List.mem_cons, List.not_mem_nil, or_false] at hm
  rcases hm with (((rfl | rfl | rfl | rfl | rfl) | h) | h) | h
  any_goals exact Nat.zero_le 1
  all_goals exact depth_skipNone h

/-- **A node reads the fields that the Oracle has written.** -/
theorem fromJson_toJson {t : StorageToken} (ht : t.Fits) :
    TokenPayload.fromJson t.toJson = .ok (.ofToken t) := by
  obtain ⟨nftTokenId, storageKey, operation, exp, iat, storageNodeId, fragmentHash, jti⟩ := t
  have hexp : Json.decodeI64 (.Num (.Nat exp)) = .ok (exp : ℤ) := if_pos ht.1
  have hiat : Json.decodeI64 (.Num (.Nat iat)) = .ok (iat : ℤ) := if_pos ht.2
  cases storageNodeId <;> cases fragmentHash <;> cases jti <;>
    simp [StorageToken.toJson, skipNone, TokenPayload.fromJson, Json.field, Json.optionalField,
      Json.decodeStr, Json.isNull, hexp, hiat, TokenPayload.ofToken, bind, Except.bind, pure,
      Except.pure, Except.map]

/-! ### The token string -/

section Read

variable {c : Crates} {key : SigningKey} {state : AppState}

/-- What is left to read of a payload. -/
lemma read_payload (hc : c.Lawful) {t : StorageToken} (ht : t.Fits) :
    ∃ json, c.base64Url.decode (t.payload c) = .ok json
      ∧ c.json.jsonFromSlice json >>= TokenPayload.fromJson = .ok (.ofToken t) := by
  refine ⟨_, hc.base64Url.decode_encode _, ?_⟩
  rw [hc.json.jsonFromSlice (plain_toJson ht) (depth_toJson t)]
  exact fromJson_toJson ht

lemma split_signed (hc : c.base64Url.Lawful) (t : StorageToken) :
    Text.split '.' (signStorageToken c key t)
      = [t.payload c, c.base64Url.encode (key.sign (Text.utf8 (t.payload c)))] :=
  Text.split_append (hc.noDot _) (hc.noDot _)

/-- **A token that the Oracle has signed is read.** -/
theorem readToken_signed (hc : c.Lawful) {issued : StorageToken → Prop}
    (hkey : key.Correct c issued) (hstate : state.oraclePublicKey = some key.verifyingKey)
    {t : StorageToken} (hissued : issued t) (ht : t.Fits) :
    readToken c state (some (signStorageToken c key t)) = .ok (.ofToken t) := by
  obtain ⟨hlength, hverify⟩ := hkey t hissued
  obtain ⟨json, hdecode, hread⟩ := read_payload hc ht
  simp only [bind, Except.bind] at hread
  simp only [readToken, orRefuse, hstate, Option.elim_some, split_signed hc.base64Url, okOrRefuse,
    require, hc.base64Url.decode_encode, hlength, hverify, hdecode, hread, decide_true, if_true,
    bind, Except.bind]

/-- A node reads what was signed, or nothing. -/
lemma eq_of_readToken_signed (hc : c.Lawful) {t : StorageToken} (ht : t.Fits) {p : TokenPayload}
    (h : readToken c state (some (signStorageToken c key t)) = .ok p) : p = .ofToken t := by
  obtain ⟨tokenStr, htoken, h⟩ := bind_eq_ok h
  obtain ⟨verifyingKey, -, h⟩ := bind_eq_ok h
  rw [← Option.some.inj (orRefuse_eq_ok htoken), split_signed hc.base64Url] at h
  obtain ⟨signature, -, h⟩ := bind_eq_ok h
  obtain ⟨_, -, h⟩ := bind_eq_ok h
  obtain ⟨_, -, h⟩ := bind_eq_ok h
  obtain ⟨payloadJson, hpayload, h⟩ := bind_eq_ok h
  obtain ⟨json, hdecode, hread⟩ := read_payload hc ht
  rw [← Except.ok.inj (hdecode.symm.trans (okOrRefuse_eq_ok hpayload)), hread] at h
  exact (Except.ok.inj h).symm

/-- **A string that is read is the payload of a token and a signature of it.** -/
theorem exists_of_readToken {token : Option String} {p : TokenPayload}
    (h : readToken c state token = .ok p) :
    ∃ payload signatureB64 signature verifyingKey json,
      token = some (payload ++ "." ++ signatureB64) ∧ '.' ∉ payload.toList
        ∧ state.oraclePublicKey = some verifyingKey
        ∧ c.ed.verify verifyingKey (Text.utf8 payload) signature = true
        ∧ c.base64Url.decode payload = .ok json
        ∧ c.json.jsonFromSlice json >>= TokenPayload.fromJson = .ok p := by
  obtain ⟨tokenStr, htoken, h⟩ := bind_eq_ok h
  obtain ⟨verifyingKey, hkey, h⟩ := bind_eq_ok h
  split at h
  · next payload signatureB64 hsplit =>
      obtain ⟨signature, -, h⟩ := bind_eq_ok h
      obtain ⟨_, -, h⟩ := bind_eq_ok h
      obtain ⟨_, hverify, h⟩ := bind_eq_ok h
      obtain ⟨json, hdecode, h⟩ := bind_eq_ok h
      obtain ⟨hparts, hdot⟩ := Text.of_split_eq_pair hsplit
      refine ⟨payload, signatureB64, signature, verifyingKey, json, ?_, hdot,
        orRefuse_eq_ok hkey, require_eq_ok hverify, okOrRefuse_eq_ok hdecode, okOrRefuse_eq_ok h⟩
      rw [orRefuse_eq_ok htoken, hparts]
      rfl
  · cases h

/-- **The Oracle has issued what a node reads.** -/
theorem issued_of_readToken (hc : c.Lawful) {issued : StorageToken → Prop}
    (hissued : ∀ t, issued t → t.Fits) (hkey : key.Unforged c issued)
    (hstate : state.oraclePublicKey = some key.verifyingKey) {token : Option String}
    {p : TokenPayload} (h : readToken c state token = .ok p) :
    ∃ t signature, issued t ∧ token = some (t.payload c ++ "." ++ signature) ∧ p = .ofToken t := by
  obtain ⟨payload, signatureB64, signature, verifyingKey, json, rfl, hdot, hvk, hverify, hdecode,
    hread⟩ := exists_of_readToken h
  rw [hstate] at hvk
  rw [← Option.some.inj hvk] at hverify
  rcases hkey _ _ hverify with ⟨t, ht, hmessage⟩ | ⟨header, claims, hmessage⟩
  · obtain rfl := Text.utf8_injective hmessage
    obtain ⟨json', hdecode', hread'⟩ := read_payload hc (hissued t ht)
    rw [Except.ok.inj (hdecode.symm.trans hdecode'), hread'] at hread
    exact ⟨t, signatureB64, ht, rfl, (Except.ok.inj hread).symm⟩
  · -- a login token has a separator in what is signed
    rw [Text.utf8_injective hmessage] at hdot
    exact absurd (by simp [jwtMessage]) hdot

end Read

/-! ### The request -/

section Check

variable {state : AppState} {t : TokenPayload} {storageKey : String} {operation : StorageOperation}
  {computedFragmentHash : Option String} {now : Int}

/-- What a node checks in a token, less the id. -/
structure Fitting (state : AppState) (t : TokenPayload) (storageKey : String)
    (operation : StorageOperation) (computedFragmentHash : Option String) (now : Int) : Prop where
  unexpired : now ≤ t.exp
  storageKey : t.storageKey = storageKey
  node : t.storageNodeId = some state.nodeId
  operation : t.operation = operation.text
  hash : hashMatches t.fragmentHash computedFragmentHash = true

/-- The id that a request has to consume. -/
def presentedId (t : TokenPayload) (operation : StorageOperation) : Option (String × Int) :=
  if mutates operation then t.jti.map fun jti => (jti, t.exp) else none

lemma of_checkToken {r : Option (String × Int)}
    (h : checkToken state t storageKey operation computedFragmentHash now = .ok r) :
    Fitting state t storageKey operation computedFragmentHash now
      ∧ (mutates operation = true → t.jti.isSome) ∧ r = presentedId t operation := by
  obtain ⟨_, hexp, h⟩ := bind_eq_ok h
  obtain ⟨_, hstorageKey, h⟩ := bind_eq_ok h
  obtain ⟨_, hnode, h⟩ := bind_eq_ok h
  obtain ⟨_, hoperation, h⟩ := bind_eq_ok h
  obtain ⟨_, hhash, h⟩ := bind_eq_ok h
  refine ⟨⟨of_decide_eq_true (require_eq_ok hexp), of_decide_eq_true (require_eq_ok hstorageKey),
    of_decide_eq_true (require_eq_ok hnode), of_decide_eq_true (require_eq_ok hoperation),
    require_eq_ok hhash⟩, ?_⟩
  rw [presentedId]
  split_ifs at h ⊢ with hmutates
  · obtain ⟨jti, hjti, h⟩ := bind_eq_ok h
    rw [orRefuse_eq_ok hjti]
    exact ⟨fun _ => rfl, (Except.ok.inj h).symm⟩
  · exact ⟨fun h => absurd h hmutates, (Except.ok.inj h).symm⟩

lemma checkToken_of_fitting
    (h : Fitting state t storageKey operation computedFragmentHash now)
    (hjti : mutates operation = true → t.jti.isSome) :
    checkToken state t storageKey operation computedFragmentHash now
      = .ok (presentedId t operation) := by
  simp only [checkToken, require, decide_eq_true h.unexpired, decide_eq_true h.storageKey,
    decide_eq_true h.node, decide_eq_true h.operation, h.hash, if_true, bind, Except.bind,
    presentedId]
  split_ifs with hmutates
  · obtain ⟨jti, hjti⟩ := Option.isSome_iff_exists.mp (hjti hmutates)
    rw [hjti]
    rfl
  · rfl

end Check

end Node

end Vaulted
