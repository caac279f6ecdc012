import Vaulted.Library.ByteSlices
import Vaulted.Node.Token
import Vaulted.Oracle.ProxyHeaders
import Vaulted.Oracle.Tokens

/-!
# Session tokens

`auth.rs`, down to the text of a token and the bytes of a header.

* `Claims` — the payload, with the types of its fields.
* `createToken`, `verifyToken` — three parts between dots; the first two are signed.
* `fromRequestParts` — the extractor of `AuthenticatedUser`; `none` is a panic.
* `fromJson_toJson` — the claims that are written are read.
-/

namespace Vaulted.Session

open ProxyHeaders (HeaderMap toStr)
open Tokens (AuthError)

/-! ## The claims -/

structure Claims where
  sub : String
  iat : Int64
  exp : Int64
  typ : String
  jti : String
  role : String
  dfp : Option String
  deriving DecidableEq

def Claims.isExpired (claims : Claims) (now : Int) : Bool := decide (claims.exp.toInt < now)

def Claims.isRefresh (claims : Claims) : Bool := decide (claims.typ = "refresh")

/-- A signed integer, as it is written. -/
def ofI64 (n : Int64) : Json :=
  if 0 ≤ n.toInt then .Num (.Nat n.toInt.toNat) else .Num (.Neg n.toInt.natAbs)

def decodeI64 (j : Json) : Except String Int64 := (Json.decodeI64 j).map Int64.ofInt

def Claims.toJson (claims : Claims) : Json :=
  .Obj ([("sub", .Str claims.sub), ("iat", ofI64 claims.iat), ("exp", ofI64 claims.exp),
      ("typ", .Str claims.typ), ("jti", .Str claims.jti), ("role", .Str claims.role)]
    ++ skipNone "dfp" claims.dfp)

def defaultRole : String := "user"

/-- The role of an object, which may be left out. -/
def roleField : Json → Except String String
  | .Obj members =>
      match members.filter fun m => decide (m.1 = "role") with
      | [] => .ok defaultRole
      | [m] => Json.decodeStr m.2
      | _ => .error "duplicate field `role`"
  | _ => .error "invalid type, expected a record"

/-- A record is an object, or a sequence of its fields. -/
def Claims.fromJson : Json → Except String Claims
  | .Arr (sub :: iat :: exp :: typ :: jti :: rest) =>
      if 2 < rest.length then .error "trailing characters"
      else do
        return {
          sub := ← Json.decodeStr sub
          iat := ← decodeI64 iat
          exp := ← decodeI64 exp
          typ := ← Json.decodeStr typ
          jti := ← Json.decodeStr jti
          role := ← (rest[0]?).elim (.ok defaultRole) Json.decodeStr
          dfp := ← Node.optionalItem rest 1 }
  | .Arr _ => .error "invalid length"
  | j => do
      return {
        sub := ← j.field "sub" Json.decodeStr
        iat := ← j.field "iat" decodeI64
        exp := ← j.field "exp" decodeI64
        typ := ← j.field "typ" Json.decodeStr
        jti := ← j.field "jti" Json.decodeStr
        role := ← roleField j
        dfp := ← j.optionalField "dfp" Json.decodeStr }

/-! ## The token -/

/-- `JwtHeader::default`. -/
def jwtHeader : Json := .Obj [("alg", .Str "EdDSA"), ("typ", .Str "JWT")]

section

variable (c : Crates)

/-- Header and payload of a token, which are signed. -/
def Claims.message (claims : Claims) : String :=
  jwtMessage c (Text.utf8 (c.json.jsonToString jwtHeader))
    (Text.utf8 (c.json.jsonToString claims.toJson))

def createToken (key : SigningKey) (claims : Claims) : String :=
  claims.message c ++ "." ++ c.base64Url.encode (key.sign (Text.utf8 (claims.message c)))

/-- `Result::map_err`. -/
def mapErr {ε α : Type} (r : Except ε α) (e : AuthError) : Except AuthError α :=
  match r with
  | .ok a => .ok a
  | .error _ => .error e

/-- Go on if `b` holds. -/
def ensure (b : Bool) (e : AuthError) : Except AuthError Unit := if b then .ok () else .error e

def verifyToken (verifyingKey : List UInt8) (now : Int) (token : String) :
    Except AuthError Claims :=
  match Text.split '.' token with
  | [headerB64, payloadB64, signatureB64] => do
      let message := headerB64 ++ "." ++ payloadB64
      let signature ← mapErr (c.base64Url.decode signatureB64) .InvalidToken
      ensure (decide (signature.length = 64)) .InvalidSignature
      ensure (c.ed.verify verifyingKey (Text.utf8 message) signature) .InvalidSignature
      let payloadJson ← mapErr (c.base64Url.decode payloadB64) .InvalidToken
      let claims ← mapErr (c.json.jsonFromSlice payloadJson >>= Claims.fromJson) .InvalidToken
      ensure (!claims.isExpired now) .TokenExpired
      return claims
  | _ => .error .InvalidToken

/-! ## The extractor -/

/-- `Option::ok_or`. -/
def okOr {α : Type} (o : Option α) (e : AuthError) : Except AuthError α := o.elim (.error e) .ok

/-- The claims of the header `Authorization`. -/
def bearer (verifyingKey : List UInt8) (now : Int) (headers : HeaderMap) :
    Except AuthError Claims := do
  let value ← okOr (headers.get "authorization") .MissingAuth
  let authHeader ← okOr (toStr value) .InvalidAuthHeader
  let token ← okOr (Text.stripPrefix authHeader "Bearer ") .InvalidAuthHeader
  verifyToken c verifyingKey now token

/-- `&s[..8.min(s.len())]`. -/
def shortened (s : String) : Option String := Text.slice s 0 (min 8 (Text.len s))

/-- The warning about two fingerprints, which is put together only if it is logged. -/
def warnMismatch (warns : Bool) (tokenDfp requestDfp : String) : Option Unit :=
  if warns then do
    let _ ← shortened tokenDfp
    let _ ← shortened requestDfp
    return ()
  else some ()

def Claims.user (claims : Claims) : AuthenticatedUser where
  walletAddress := claims.sub
  tokenId := claims.jti
  role := claims.role

/-- The header `X-Device-Fingerprint`, or nothing. -/
def requestFingerprint (headers : HeaderMap) : String :=
  ((headers.get "x-device-fingerprint").bind toStr).getD ""

/-- The check of the device that a token is bound to. -/
def checkDevice (warns : Bool) (claims : Claims) (requestDfp : String) :
    Option (Except AuthError AuthenticatedUser) :=
  match claims.dfp with
  | none => some (.ok claims.user)
  | some tokenDfp =>
      if Text.isEmpty requestDfp then some (.error .DeviceMismatch)
      else if requestDfp = tokenDfp then some (.ok claims.user)
      else (warnMismatch warns tokenDfp requestDfp).map fun _ => .error .DeviceMismatch

/-- `AuthenticatedUser::from_request_parts`; `warns` is what the log filter says of warnings. -/
def fromRequestParts (verifyingKey : List UInt8) (now : Int) (blacklisted : String → Bool)
    (warns : Bool) (headers : HeaderMap) : Option (Except AuthError AuthenticatedUser) :=
  match bearer c verifyingKey now headers with
  | .error e => some (.error e)
  | .ok claims =>
      if claims.isRefresh then some (.error .InvalidToken)
      else if blacklisted claims.jti then some (.error .TokenRevoked)
      else checkDevice warns claims (requestFingerprint headers)

end

/-! ## The text of the claims -/

lemma decodeI64_ofI64 (n : Int64) : decodeI64 (ofI64 n) = .ok n := by
  have hlt := n.toInt_lt
  have hle := n.le_toInt
  rw [ofI64]
  split_ifs with hsign
  · have hread : Json.decodeI64 (.Num (.Nat n.toInt.toNat)) = .ok n.toInt := by
      rw [Json.decodeI64, if_pos (by omega), Int.toNat_of_nonneg hsign]
    rw [decodeI64, hread, Except.map, Int64.ofInt_toInt]
  · have hread : Json.decodeI64 (.Num (.Neg n.toInt.natAbs)) = .ok n.toInt := by
      rw [Json.decodeI64, if_pos (by omega)]
      exact congrArg Except.ok (by omega)
    rw [decodeI64, hread, Except.map, Int64.ofInt_toInt]

lemma integral_ofI64 (n : Int64) : (ofI64 n).Integral := by
  have hlt := n.toInt_lt
  have hle := n.le_toInt
  rw [ofI64]
  split_ifs with hsign
  · exact .Nat _ (by omega)
  · exact .Neg _ (by omega) (by omega)

lemma integral_toJson (claims : Claims) : claims.toJson.Integral := by
  refine .Obj _ fun m hm => ?_
  simp only [List.mem_append, List.mem_cons, List.not_mem_nil, or_false] at hm
  rcases hm with (rfl | rfl | rfl | rfl | rfl | rfl) | h
  · exact .Str _
  · exact integral_ofI64 _
  · exact integral_ofI64 _
  · exact .Str _
  · exact .Str _
  · exact .Str _
  · exact (Node.plain_skipNone h).integral

lemma depth_toJson (claims : Claims) : claims.toJson.depth ≤ 127 := by
  have hi64 : ∀ n, (ofI64 n).depth ≤ 126 := by
    intro n
    rw [ofI64]
    split_ifs <;> exact Nat.zero_le _
  refine Json.depth_obj.mpr fun m hm => ?_
  simp only [List.mem_append, List.mem_cons, List.not_mem_nil, or_false] at hm
  rcases hm with (rfl | rfl | rfl | rfl | rfl | rfl) | h
  · exact Nat.zero_le _
  · exact hi64 _
  · exact hi64 _
  · exact Nat.zero_le _
  · exact Nat.zero_le _
  · exact Nat.zero_le _
  · cases hdfp : claims.dfp with
    | none => simp [hdfp, skipNone] at h
    | some dfp =>
        rw [hdfp] at h
        rw [List.mem_singleton.mp h]
        exact Nat.zero_le _

/-- **The claims that are written are read.** -/
theorem fromJson_toJson (claims : Claims) : Claims.fromJson claims.toJson = .ok claims := by
  obtain ⟨sub, iat, exp, typ, jti, role, dfp⟩ := claims
  cases dfp <;>
    simp [Claims.toJson, skipNone, Claims.fromJson, Json.field, roleField, Json.optionalField,
      Json.decodeStr, Json.isNull, decodeI64_ofI64, bind, Except.bind, pure, Except.pure,
      Except.map]

end Vaulted.Session
