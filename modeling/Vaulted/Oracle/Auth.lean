import Vaulted.Crypto.Pre
import Vaulted.Oracle.Request

/-!
# Callers and signatures

The caller that a token makes, and the Ed25519 verification that the identity, grant and QR
endpoints share.

* `Ed25519` — the signature scheme, as a parameter.
* `verifyWith` — the checks around it, which differ between the endpoints in their texts and in
  the encodings they read.
-/

namespace Vaulted

/-! ## The caller -/

/-- The caller that an accepted token makes. -/
def Claims.user (c : Claims) : AuthenticatedUser where
  walletAddress := c.sub
  tokenId := c.jti.text
  role := c.role

/-! ## Signatures -/

/-- The Ed25519 crate: which 32 bytes are a key, and which 64 bytes are its signature. -/
structure Ed25519 where
  isKey : List UInt8 → Bool
  verify : List UInt8 → List UInt8 → List UInt8 → Bool

/-- The texts with which an endpoint refuses a key or a signature. -/
structure SignatureErrors where
  publicKey : String
  publicKeyLength : String
  encoding : String
  length : String
  signature : String

/-- A hexadecimal key has signed the message; `decode` reads the text of the signature. -/
def Ed25519.verifyWith (ed : Ed25519) (texts : SignatureErrors)
    (decode : String → Except String (List UInt8)) (publicKeyHex : String)
    (message : List UInt8) (signature : String) : Except ApiError Unit := do
  let pk ← Pre.mapErr (fun _ => .Unauthorized texts.publicKey) (Text.hexDecode publicKeyHex)
  ensure (decide (pk.length = 32)) (.Unauthorized texts.publicKeyLength)
  ensure (ed.isKey pk) (.Unauthorized texts.publicKey)
  let sig ← Pre.mapErr (fun _ => .Unauthorized texts.encoding) (decode signature)
  ensure (decide (sig.length = 64)) (.Unauthorized texts.length)
  ensure (ed.verify pk message sig) (.Unauthorized texts.signature)

/-- A signature in hexadecimal or, failing that, in base64. -/
def hexOrBase64 (codec : TextCodec) (signature : String) : Except String (List UInt8) :=
  match Text.hexDecode signature with
  | .ok bytes => .ok bytes
  | .error _ => codec.base64Decode signature

/-- The key, read as hexadecimal text, has signed the message. -/
def Ed25519.Signed (ed : Ed25519) (publicKeyHex : String) (message sig : List UInt8) : Prop :=
  ∃ pk, Text.hexDecode publicKeyHex = .ok pk ∧ ed.verify pk message sig = true

lemma Ed25519.signed_of_verifyWith {ed : Ed25519} {texts : SignatureErrors}
    {decode : String → Except String (List UInt8)} {publicKeyHex signature : String}
    {message : List UInt8} {r : Unit}
    (h : ed.verifyWith texts decode publicKeyHex message signature = .ok r) :
    ∃ sig, decode signature = .ok sig ∧ ed.Signed publicKeyHex message sig := by
  obtain ⟨pk, hpk, h⟩ := bind_eq_ok h
  obtain ⟨_, -, h⟩ := bind_eq_ok h
  obtain ⟨_, -, h⟩ := bind_eq_ok h
  obtain ⟨sig, hsig, h⟩ := bind_eq_ok h
  obtain ⟨_, -, h⟩ := bind_eq_ok h
  exact ⟨sig, Pre.eq_ok_of_mapErr hsig, pk, Pre.eq_ok_of_mapErr hpk, ensure_eq_ok h⟩

/-- A signature is refused with one of the texts. -/
lemma Ed25519.verifyWith_eq_error {ed : Ed25519} {texts : SignatureErrors}
    {decode : String → Except String (List UInt8)} {publicKeyHex signature : String}
    {message : List UInt8} {e : ApiError}
    (h : ed.verifyWith texts decode publicKeyHex message signature = .error e) :
    ∃ text ∈ [texts.publicKey, texts.publicKeyLength, texts.encoding, texts.length,
      texts.signature], e = .Unauthorized text := by
  unfold verifyWith at h
  rcases bind_eq_error h with hpk | ⟨pk, -, h⟩
  · obtain ⟨_, rfl⟩ := Pre.mapErr_eq_error hpk
    exact ⟨_, by simp, rfl⟩
  rcases bind_eq_error h with hlength | ⟨_, -, h⟩
  · exact ⟨_, by simp, ensure_eq_error hlength⟩
  rcases bind_eq_error h with hkey | ⟨_, -, h⟩
  · exact ⟨_, by simp, ensure_eq_error hkey⟩
  rcases bind_eq_error h with hsig | ⟨sig, -, h⟩
  · obtain ⟨_, rfl⟩ := Pre.mapErr_eq_error hsig
    exact ⟨_, by simp, rfl⟩
  rcases bind_eq_error h with hlength | ⟨_, -, h⟩
  · exact ⟨_, by simp, ensure_eq_error hlength⟩
  · exact ⟨_, by simp, ensure_eq_error h⟩

/-- A signature to try things out with: the key and the start of the message. -/
def Ed25519.sign (pk message : List UInt8) : List UInt8 :=
  (pk ++ message ++ List.replicate 32 0).take 64

/-- The scheme with that signature. -/
def Ed25519.transparent : Ed25519 where
  isKey _ := true
  verify pk message sig := decide (sig = sign pk message)

lemma Ed25519.length_sign (pk message : List UInt8) (h : 32 ≤ pk.length) :
    (sign pk message).length = 64 := by
  simp only [sign, List.length_take, List.length_append, List.length_replicate]
  omega

/-- A signature is accepted, where its text is decoded to it. -/
lemma Ed25519.verifyWith_sign_of_decode {texts : SignatureErrors}
    {decode : String → Except String (List UInt8)} {pk message : List UInt8} (h : pk.length = 32)
    (hdecode : decode (Text.hexEncode (sign pk message)) = .ok (sign pk message)) :
    transparent.verifyWith texts decode (Text.hexEncode pk) message
      (Text.hexEncode (sign pk message)) = .ok () := by
  have hverify : transparent.verify pk message (sign pk message) = true := decide_eq_true rfl
  unfold verifyWith
  simp only [Text.hexDecode_hexEncode, hdecode, Pre.mapErr, bind, Except.bind, h,
    length_sign pk message h.ge, hverify]
  rfl

/-- A signature is accepted, in hexadecimal. -/
lemma Ed25519.verifyWith_sign {texts : SignatureErrors} {pk message : List UInt8}
    (h : pk.length = 32) : transparent.verifyWith texts Text.hexDecode (Text.hexEncode pk) message
      (Text.hexEncode (sign pk message)) = .ok () :=
  verifyWith_sign_of_decode h (Text.hexDecode_hexEncode _)

/-- Also where base64 would do. -/
lemma Ed25519.verifyWith_hexOrBase64_sign {texts : SignatureErrors} {codec : TextCodec}
    {pk message : List UInt8} (h : pk.length = 32) :
    transparent.verifyWith texts (hexOrBase64 codec) (Text.hexEncode pk) message
      (Text.hexEncode (sign pk message)) = .ok () :=
  verifyWith_sign_of_decode h (by rw [hexOrBase64, Text.hexDecode_hexEncode])

/-- The text of a signature is not blank. -/
lemma Ed25519.isEmpty_trim_sign {pk message : List UInt8} (h : pk.length = 32) :
    Text.isEmpty (Text.trim (Text.hexEncode (sign pk message))) = false := by
  refine Bool.eq_false_iff.mpr fun hblank => ?_
  have hnil := Text.hexDecode_blank hblank (Text.hexDecode_hexEncode _)
  have hlength := length_sign pk message h.ge
  rw [hnil] at hlength
  cases hlength

end Vaulted
