import Vaulted.Crypto.SigningIntent

/-!
# Key envelopes

`envelope.rs`: a file key is encrypted for the X25519 key of a recipient.

* `EnvelopeCrypto` — X25519, HKDF, XChaCha20-Poly1305 and SHA-256.
* `KeyEnvelope` — what is stored, and how it is read from JSON.
* `sealKeyForRecipient`, `openKeyEnvelope` — the two ways.
* `VaultedIdentityKeys` — the keys of an identity, and its id, of `identity.rs`.
-/

namespace Vaulted

/-- The primitives, on bytes; a failed authentication is `none`. -/
structure EnvelopeCrypto where
  publicKey : List UInt8 → List UInt8
  diffieHellman : (secret publicKey : List UInt8) → List UInt8
  hkdf : (salt ikm info : List UInt8) → List UInt8
  encrypt : (key nonce aad msg : List UInt8) → List UInt8
  decrypt : (key nonce aad ciphertext : List UInt8) → Option (List UInt8)
  sha256 : List UInt8 → List UInt8

/-! ## The format -/

structure KeyEnvelope where
  recipientType : String
  recipientIdentityId : String
  recipientPublicKeyId : String
  alg : String
  ephemeralPublicKey : String
  nonce : String
  encryptedFileKey : String
  deriving DecidableEq

namespace KeyEnvelope

def toJson (e : KeyEnvelope) : Json :=
  .Obj [("recipient_type", .Str e.recipientType),
    ("recipient_identity_id", .Str e.recipientIdentityId),
    ("recipient_public_key_id", .Str e.recipientPublicKeyId), ("alg", .Str e.alg),
    ("ephemeral_public_key", .Str e.ephemeralPublicKey), ("nonce", .Str e.nonce),
    ("encrypted_file_key", .Str e.encryptedFileKey)]

/-- A member of a value, as `serde_json::from_value` reads it: the last one counts. -/
def textMember (j : Json) (name : String) : Except String String :=
  match j.get name with
  | some (.Str s) => .ok s
  | some _ => .error "invalid type, expected a string"
  | none => .error ("missing field `" ++ name ++ "`")

/-- An object, or an array of the seven texts. -/
def ofJson : Json → Except String KeyEnvelope
  | .Obj members => do
      let recipientType ← textMember (.Obj members) "recipient_type"
      let recipientIdentityId ← textMember (.Obj members) "recipient_identity_id"
      let recipientPublicKeyId ← textMember (.Obj members) "recipient_public_key_id"
      let alg ← textMember (.Obj members) "alg"
      let ephemeralPublicKey ← textMember (.Obj members) "ephemeral_public_key"
      let nonce ← textMember (.Obj members) "nonce"
      let encryptedFileKey ← textMember (.Obj members) "encrypted_file_key"
      .ok { recipientType, recipientIdentityId, recipientPublicKeyId, alg, ephemeralPublicKey,
            nonce, encryptedFileKey }
  | .Arr [.Str recipientType, .Str recipientIdentityId, .Str recipientPublicKeyId, .Str alg,
      .Str ephemeralPublicKey, .Str nonce, .Str encryptedFileKey] =>
      .ok { recipientType, recipientIdentityId, recipientPublicKeyId, alg, ephemeralPublicKey,
            nonce, encryptedFileKey }
  | _ => .error "invalid type, expected struct KeyEnvelope with 7 elements"

/-- An envelope is read as it was written. -/
lemma ofJson_toJson (e : KeyEnvelope) : ofJson e.toJson = .ok e := rfl

end KeyEnvelope

/-! ## Sealing and opening -/

def envelopeAlg : String := "X25519-HKDF-SHA256-XCHACHA20POLY1305"

/-- What a call of `seal_key_for_recipient` draws. -/
structure SealRandom where
  ephemeralSecret : List UInt8
  nonce : List UInt8
  deriving DecidableEq

section Envelopes

variable (c : EnvelopeCrypto) (codec : TextCodec)

def deriveWrapKey (sharedSecret : List UInt8) : List UInt8 :=
  c.hkdf (Text.utf8 "Vaulted v1 envelope salt") sharedSecret (Text.utf8 "Vaulted v1 key envelope")

def sealKeyForRecipient (rng : SealRandom) (fileKey recipientPublicKey : List UInt8)
    (recipientIdentityId recipientPublicKeyId recipientType : String) (aad : List UInt8) :
    KeyEnvelope where
  recipientType := recipientType
  recipientIdentityId := recipientIdentityId
  recipientPublicKeyId := recipientPublicKeyId
  alg := envelopeAlg
  ephemeralPublicKey := Text.hexEncode (c.publicKey rng.ephemeralSecret)
  nonce := codec.base64Encode rng.nonce
  encryptedFileKey := codec.base64Encode (c.encrypt
    (deriveWrapKey c (c.diffieHellman rng.ephemeralSecret recipientPublicKey)) rng.nonce aad fileKey)

def sealKeyForRecipientHex (rng : SealRandom) (fileKey : List UInt8)
    (recipientPublicKeyHex recipientIdentityId recipientPublicKeyId recipientType : String)
    (aad : List UInt8) : Except CryptoError KeyEnvelope := do
  let bytes ← Pre.mapErr (fun e => .InvalidKey ("bad recipient encryption public key hex: " ++ e))
    (Text.hexDecode recipientPublicKeyHex)
  if bytes.length ≠ 32 then
    .error (.InvalidKey ("recipient encryption public key must be 32 bytes, got "
      ++ toString bytes.length))
  else
    .ok (sealKeyForRecipient c codec rng fileKey bytes recipientIdentityId recipientPublicKeyId
      recipientType aad)

def openKeyEnvelope (envelope : KeyEnvelope) (recipientPrivateKey aad : List UInt8) :
    Except CryptoError (List UInt8) := do
  if envelope.alg ≠ envelopeAlg then
    .error (.InvalidData ("unsupported key envelope algorithm: " ++ envelope.alg))
  else
    let eph ← Pre.mapErr (fun e => .InvalidData ("bad envelope public key: " ++ e))
      (Text.hexDecode envelope.ephemeralPublicKey)
    if eph.length ≠ 32 then .error (.InvalidKey "bad X25519 public key size")
    else
      let nonce ← Pre.mapErr (fun e => .InvalidData ("bad envelope nonce: " ++ e))
        (codec.base64Decode envelope.nonce)
      if nonce.length ≠ 24 then .error (.InvalidNonceSize 24 nonce.length)
      else
        let ciphertext ← Pre.mapErr (fun e => .InvalidData ("bad envelope ciphertext: " ++ e))
          (codec.base64Decode envelope.encryptedFileKey)
        match c.decrypt (deriveWrapKey c (c.diffieHellman recipientPrivateKey eph)) nonce aad
            ciphertext with
        | some plaintext => .ok plaintext
        | none => .error (.AesDecryption "key envelope authentication failed")

/-- What an envelope says in its bytes, if they can be read. -/
structure EnvelopeBytes where
  eph : List UInt8
  nonce : List UInt8
  ciphertext : List UInt8

/-- The bytes of an envelope. -/
structure KeyEnvelope.Reads (codec : TextCodec) (e : KeyEnvelope) (b : EnvelopeBytes) : Prop where
  alg : e.alg = envelopeAlg
  eph : Text.hexDecode e.ephemeralPublicKey = .ok b.eph
  ephLength : b.eph.length = 32
  nonce : codec.base64Decode e.nonce = .ok b.nonce
  nonceLength : b.nonce.length = 24
  ciphertext : codec.base64Decode e.encryptedFileKey = .ok b.ciphertext

variable {c codec}

/-- **Opening**, said once: an envelope whose bytes can be read, and are authentic. -/
theorem openKeyEnvelope_eq_ok_iff {e : KeyEnvelope} {recipientPrivateKey aad fileKey : List UInt8} :
    openKeyEnvelope c codec e recipientPrivateKey aad = .ok fileKey ↔ ∃ b, e.Reads codec b
      ∧ c.decrypt (deriveWrapKey c (c.diffieHellman recipientPrivateKey b.eph)) b.nonce aad
        b.ciphertext = some fileKey := by
  have hdecrypt : ∀ o : Option (List UInt8), (match o with
      | some plaintext => .ok plaintext
      | none => .error (.AesDecryption "key envelope authentication failed"))
        = (.ok fileKey : Except CryptoError (List UInt8)) ↔ o = some fileKey := by
    intro o
    cases o <;> simp
  simp only [openKeyEnvelope, Checks.ite_eq_ok_iff, Checks.bind_eq_ok_iff, Pre.mapErr_eq_ok_iff,
    hdecrypt, not_not]
  constructor
  · rintro ⟨halg, eph, heph, hlength, nonce, hnonce, hnonceLength, ciphertext, hciphertext, h⟩
    exact ⟨⟨eph, nonce, ciphertext⟩, ⟨halg, heph, hlength, hnonce, hnonceLength, hciphertext⟩, h⟩
  · rintro ⟨b, hb, h⟩
    exact ⟨hb.alg, b.eph, hb.eph, hb.ephLength, b.nonce, hb.nonce, hb.nonceLength, b.ciphertext,
      hb.ciphertext, h⟩

end Envelopes

/-! ## Identities -/

/-- The keys that matter here: the public key for signatures, and the private one for encryption. -/
structure VaultedIdentityKeys where
  signingPublic : List UInt8
  encryptionPrivate : List UInt8
  deriving DecidableEq

namespace VaultedIdentityKeys

variable (c : EnvelopeCrypto) (identity : VaultedIdentityKeys)

def encryptionPublicKey : List UInt8 := c.publicKey identity.encryptionPrivate

def encryptionPublicKeyHex : String := Text.hexEncode (identity.encryptionPublicKey c)

def identityIdHex : String :=
  Text.hexEncode (c.sha256 (Text.utf8 "Vaulted v1 identity id" ++ identity.signingPublic
    ++ identity.encryptionPublicKey c))

end VaultedIdentityKeys

def encryptionPublicKeyFingerprintHex (c : EnvelopeCrypto) (publicKeyHex : String) :
    Except CryptoError String := do
  let bytes ← Pre.mapErr (fun e => .InvalidKey ("bad encryption public key hex: " ++ e))
    (Text.hexDecode publicKeyHex)
  if bytes.length ≠ 32 then
    .error (.InvalidKey ("encryption public key must be 32 bytes, got " ++ toString bytes.length))
  else
    .ok (Text.hexEncode
      (c.sha256 (Text.utf8 "Vaulted v1 encryption public key fingerprint" ++ bytes)))

lemma fingerprint_eq_ok_iff {c : EnvelopeCrypto} {key fingerprint : String} :
    encryptionPublicKeyFingerprintHex c key = .ok fingerprint ↔ ∃ bytes,
      Text.hexDecode key = .ok bytes ∧ bytes.length = 32
        ∧ Text.hexEncode (c.sha256 (Text.utf8 "Vaulted v1 encryption public key fingerprint"
          ++ bytes)) = fingerprint := by
  simp only [encryptionPublicKeyFingerprintHex, Checks.bind_eq_ok_iff, Pre.mapErr_eq_ok_iff,
    Checks.ite_eq_ok_iff, not_not, Except.ok.injEq]

/-- Groups of four characters, of the first 32. -/
def formatFingerprintGroups (fingerprintHex : String) : String :=
  "-".intercalate (((fingerprintHex.toList.take 32).toChunks 4).map String.ofList)

end Vaulted
