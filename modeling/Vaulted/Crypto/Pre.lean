import Vaulted.Library.TextCodec

/-!
# Proxy re-encryption

`pre.rs` of the crypto core: the two stored formats of a file key, and the operations on them
that owners, recipients and the Oracle perform.

* `Umbral` — the functions of the Umbral crate, as a parameter; `Umbral.Ideal` — what the
  scheme promises about honest keys and fragments.
* `EncryptedPreData` — a file key encrypted to its first owner; `ReEncryptedData` — what a
  transfer leaves for the recipient.  Both are read with unknown members skipped, so a
  `ReEncryptedData` also reads as the `EncryptedPreData` it was made from
  (`encryptedPreData_of_reEncrypted`).
* `generateReKey`, `performReencryptionWithKfrag`, `decryptReencryptedData` — one transfer.
-/

namespace Vaulted

/-- The Umbral crate.  The first argument of a randomised function is its randomness. -/
structure Umbral where
  SecretKey : Type
  PublicKey : Type
  Capsule : Type
  KeyFrag : Type
  CapsuleFrag : Type
  publicKey : SecretKey → PublicKey
  publicKeyToBytes : PublicKey → List UInt8
  publicKeyFromBytes : List UInt8 → Except String PublicKey
  capsuleToBytes : Capsule → List UInt8
  capsuleFromBytes : List UInt8 → Except String Capsule
  keyFragToBytes : KeyFrag → List UInt8
  keyFragFromBytes : List UInt8 → Except String KeyFrag
  capsuleFragToBytes : CapsuleFrag → List UInt8
  capsuleFragFromBytes : List UInt8 → Except String CapsuleFrag
  encrypt : Nat → PublicKey → List UInt8 → Except String (Capsule × List UInt8)
  decryptOriginal : SecretKey → Capsule → List UInt8 → Except String (List UInt8)
  /-- Delegating key, receiving key, signer, threshold, shares, and which of the two keys the
  signature covers. -/
  generateKfrags : Nat → SecretKey → PublicKey → SecretKey → Nat → Nat → Bool → Bool →
    List KeyFrag
  /-- Verifying key, delegating key, receiving key. -/
  verifyKeyFrag : KeyFrag → PublicKey → Option PublicKey → Option PublicKey → Except String Unit
  reencrypt : Nat → Capsule → KeyFrag → CapsuleFrag
  /-- Verifying key, delegating key, receiving key. -/
  verifyCapsuleFrag : CapsuleFrag → Capsule → PublicKey → PublicKey → PublicKey →
    Except String Unit
  decryptReencrypted : SecretKey → PublicKey → Capsule → List CapsuleFrag → List UInt8 →
    Except String (List UInt8)

/-- What Umbral promises: encodings are exact, honest fragments verify, and a capsule opens
after re-encryption exactly when the fragment delegates from the key it was made for. -/
structure Umbral.Ideal (u : Umbral) : Prop where
  publicKey_bytes : ∀ pk, u.publicKeyFromBytes (u.publicKeyToBytes pk) = .ok pk
  capsule_bytes : ∀ c, u.capsuleFromBytes (u.capsuleToBytes c) = .ok c
  keyFrag_bytes : ∀ k, u.keyFragFromBytes (u.keyFragToBytes k) = .ok k
  capsuleFrag_bytes : ∀ f, u.capsuleFragFromBytes (u.capsuleFragToBytes f) = .ok f
  kfrags_single : ∀ rng a pk signer,
    ∃ k, u.generateKfrags rng a pk signer 1 1 true true = [k]
  kfrag_verifies : ∀ rng a pk signer k, u.generateKfrags rng a pk signer 1 1 true true = [k] →
    u.verifyKeyFrag k (u.publicKey signer) (some (u.publicKey a)) (some pk) = .ok ()
  cfrag_verifies : ∀ rng a b signer k,
    u.generateKfrags rng a (u.publicKey b) signer 1 1 true true = [k] → ∀ rng' c,
    u.verifyCapsuleFrag (u.reencrypt rng' c k) c (u.publicKey signer) (u.publicKey a)
      (u.publicKey b) = .ok ()
  opens_original : ∀ rng a m c ct, u.encrypt rng (u.publicKey a) m = .ok (c, ct) →
    u.decryptOriginal a c ct = .ok m
  opens : ∀ rng a m c ct, u.encrypt rng (u.publicKey a) m = .ok (c, ct) → ∀ rng' b signer k,
    u.generateKfrags rng' a (u.publicKey b) signer 1 1 true true = [k] → ∀ rng'',
    u.decryptReencrypted b (u.publicKey a) c [u.reencrypt rng'' c k] ct = .ok m
  opens_only : ∀ rng pk m c ct, u.encrypt rng pk m = .ok (c, ct) → ∀ rng' a b signer k,
    u.generateKfrags rng' a (u.publicKey b) signer 1 1 true true = [k] → pk ≠ u.publicKey a →
    ∀ rng'' m', u.decryptReencrypted b (u.publicKey a) c [u.reencrypt rng'' c k] ct ≠ .ok m'

/-! ## Errors -/

inductive CryptoError
  | AesEncryption (message : String)
  | AesDecryption (message : String)
  | InvalidKeySize (expected actual : Nat)
  | InvalidNonceSize (expected actual : Nat)
  | PreEncryption (message : String)
  | PreDecryption (message : String)
  | InvalidKey (message : String)
  | InvalidData (message : String)
  | Serialization (message : String)
  | Deserialization (message : String)
  | SignatureVerification
  | UnsupportedVersion (version : UInt8)
  | KeyDerivation (message : String)
  | InvalidSignature
  deriving DecidableEq, Repr

def CryptoError.display : CryptoError → String
  | AesEncryption message => "AES encryption failed: " ++ message
  | AesDecryption message => "AES decryption failed: " ++ message
  | InvalidKeySize expected actual =>
      "Invalid key size: expected " ++ toString expected ++ ", got " ++ toString actual
  | InvalidNonceSize expected actual =>
      "Invalid nonce size: expected " ++ toString expected ++ ", got " ++ toString actual
  | PreEncryption message => "PRE encryption failed: " ++ message
  | PreDecryption message => "PRE decryption failed: " ++ message
  | InvalidKey message => "Invalid key: " ++ message
  | InvalidData message => "Invalid data: " ++ message
  | Serialization message => "Serialization error: " ++ message
  | Deserialization message => "Deserialization error: " ++ message
  | SignatureVerification => "Signature verification failed"
  | UnsupportedVersion version => "Unsupported crypto version: " ++ toString version.toNat
  | KeyDerivation message => "Key derivation failed: " ++ message
  | InvalidSignature => "Invalid signature format"

namespace Pre

/-- `Result::map_err`. -/
def mapErr {ε ε' α : Type} (f : ε → ε') : Except ε α → Except ε' α
  | .ok a => .ok a
  | .error e => .error (f e)

@[simp] lemma mapErr_ok {ε ε' α : Type} (f : ε → ε') (a : α) :
    mapErr f (.ok a : Except ε α) = .ok a := rfl

lemma mapErr_eq_error {ε ε' α : Type} {f : ε → ε'} {x : Except ε α} {e' : ε'}
    (h : mapErr f x = .error e') : ∃ e, e' = f e := by
  cases x with
  | ok a => cases h
  | error e => exact ⟨e, (Except.error.inj h).symm⟩

lemma eq_ok_of_mapErr {ε ε' α : Type} {f : ε → ε'} {x : Except ε α} {a : α}
    (h : mapErr f x = .ok a) : x = .ok a := by
  cases x with
  | ok b => rw [Except.ok.inj h]
  | error e => cases h

lemma mapErr_eq_ok_iff {ε ε' α : Type} {f : ε → ε'} {x : Except ε α} {a : α} :
    mapErr f x = .ok a ↔ x = .ok a :=
  ⟨eq_ok_of_mapErr, fun h => by rw [h]; rfl⟩

/-! ## Key pairs -/

/-- `PreKeyPair`; the public key is the one of the secret key. -/
structure PreKeyPair (u : Umbral) where
  secretKey : u.SecretKey
  signer : u.SecretKey

variable {u : Umbral}

def PreKeyPair.publicKey (kp : PreKeyPair u) : u.PublicKey := u.publicKey kp.secretKey

def PreKeyPair.exportVerifyingKeyBytes (kp : PreKeyPair u) : List UInt8 :=
  u.publicKeyToBytes (u.publicKey kp.signer)

/-- `PrePublicKey::from_bytes`. -/
def prePublicKeyFromBytes (u : Umbral) (bytes : List UInt8) : Except CryptoError u.PublicKey :=
  mapErr (fun e => .InvalidKey ("Invalid public key: " ++ e)) (u.publicKeyFromBytes bytes)

/-- `PrePublicKey::to_hex`. -/
def prePublicKeyToHex (pk : u.PublicKey) : String := Text.hexEncode (u.publicKeyToBytes pk)

/-! ## Stored formats -/

structure EncryptedPreData where
  capsule : List UInt8
  ciphertext : List UInt8
  deriving DecidableEq

structure ReEncryptedData where
  capsule : List UInt8
  cfrag : List UInt8
  ciphertext : List UInt8
  senderPublicKey : List UInt8
  senderVerifyingKey : Option (List UInt8)
  deriving DecidableEq

/-- JSON text in base64, with the errors of `from_base64`. -/
def jsonFromBase64 (codec : TextCodec) (parseError : String → CryptoError) (s : String) :
    Except CryptoError Json := do
  let bytes ← mapErr CryptoError.Serialization (codec.base64Decode s)
  let text ← match Text.fromUtf8 bytes with
    | some text => .ok text
    | none => .error (.Serialization "invalid utf-8 sequence")
  mapErr parseError (codec.jsonFromStr text)

namespace EncryptedPreData

def toJson (e : EncryptedPreData) : Json :=
  .Obj [("capsule", .ofBytes e.capsule), ("ciphertext", .ofBytes e.ciphertext)]

def ofJson (input : Json) : Except String EncryptedPreData := do
  let j := input.record ["capsule", "ciphertext"]
  let capsule ← j.field "capsule" Json.decodeBytes
  let ciphertext ← j.field "ciphertext" Json.decodeBytes
  .ok { capsule, ciphertext }

def toBase64 (codec : TextCodec) (e : EncryptedPreData) : String := codec.toBase64 e.toJson

def fromBase64 (codec : TextCodec) (s : String) : Except CryptoError EncryptedPreData := do
  let j ← jsonFromBase64 codec .Serialization s
  mapErr .Serialization (ofJson j)

/-- `get_capsule`. -/
def getCapsule (u : Umbral) (e : EncryptedPreData) : Except CryptoError u.Capsule :=
  mapErr (fun err => .InvalidData ("Invalid capsule: " ++ err)) (u.capsuleFromBytes e.capsule)

end EncryptedPreData

namespace ReEncryptedData

def toJson (r : ReEncryptedData) : Json :=
  .Obj ([("capsule", .ofBytes r.capsule), ("cfrag", .ofBytes r.cfrag),
      ("ciphertext", .ofBytes r.ciphertext), ("sender_public_key", .ofBytes r.senderPublicKey)]
    ++ match r.senderVerifyingKey with
      | some vk => [("sender_verifying_key", .ofBytes vk)]
      | none => [])

/-- The last field has a default, so that an array may end before it. -/
def ofJson (input : Json) : Except String ReEncryptedData := do
  let names := ["capsule", "cfrag", "ciphertext", "sender_public_key"]
  let j := (input.record names).record (names ++ ["sender_verifying_key"])
  let capsule ← j.field "capsule" Json.decodeBytes
  let cfrag ← j.field "cfrag" Json.decodeBytes
  let ciphertext ← j.field "ciphertext" Json.decodeBytes
  let senderPublicKey ← j.field "sender_public_key" Json.decodeBytes
  let senderVerifyingKey ← j.optionalField "sender_verifying_key" Json.decodeBytes
  .ok { capsule, cfrag, ciphertext, senderPublicKey, senderVerifyingKey }

def toBase64 (codec : TextCodec) (r : ReEncryptedData) : String := codec.toBase64 r.toJson

def fromBase64 (codec : TextCodec) (s : String) : Except CryptoError ReEncryptedData := do
  let j ← jsonFromBase64 codec .Deserialization s
  mapErr .Deserialization (ofJson j)

end ReEncryptedData

/-! ## Operations -/

/-- `encrypt`. -/
def encrypt (u : Umbral) (rng : Nat) (publicKey : u.PublicKey) (plaintext : List UInt8) :
    Except CryptoError EncryptedPreData := do
  let (capsule, ciphertext) ←
    mapErr (fun e => .PreEncryption ("Encryption failed: " ++ e)) (u.encrypt rng publicKey plaintext)
  .ok { capsule := u.capsuleToBytes capsule, ciphertext }

/-- `decrypt`. -/
def decrypt (keypair : PreKeyPair u) (encrypted : EncryptedPreData) :
    Except CryptoError (List UInt8) := do
  let capsule ← encrypted.getCapsule u
  mapErr (fun e => .PreDecryption ("Decryption failed: " ++ e))
    (u.decryptOriginal keypair.secretKey capsule encrypted.ciphertext)

/-- `generate_re_key`: one fragment, its signature over both keys. -/
def generateReKey (rng : Nat) (fromKeypair : PreKeyPair u) (toPublicKey : u.PublicKey) :
    List u.KeyFrag :=
  u.generateKfrags rng fromKeypair.secretKey toPublicKey fromKeypair.signer 1 1 true true

/-- `to_base64_verified`: the fragments with the sender's two public keys. -/
def reKeyToBase64Verified (codec : TextCodec) (kfrags : List u.KeyFrag)
    (senderKeypair : PreKeyPair u) : String :=
  codec.toBase64 (.Obj
    [("kfrags", .Arr (kfrags.map fun k => .ofBytes (u.keyFragToBytes k))),
     ("sender_pk", .ofBytes (u.publicKeyToBytes senderKeypair.publicKey)),
     ("sender_verifying_key", .ofBytes senderKeypair.exportVerifyingKeyBytes)])

/-- `perform_reencryption_with_kfrag`. -/
def performReencryptionWithKfrag (u : Umbral) (rng : Nat) (encryptedData : EncryptedPreData)
    (kfrag : u.KeyFrag) (senderPublicKey : u.PublicKey) :
    Except CryptoError ReEncryptedData := do
  let capsule ← encryptedData.getCapsule u
  let cfrag := u.reencrypt rng capsule kfrag
  .ok
    { capsule := encryptedData.capsule
      cfrag := u.capsuleFragToBytes cfrag
      ciphertext := encryptedData.ciphertext
      senderPublicKey := u.publicKeyToBytes senderPublicKey
      senderVerifyingKey := none }

/-- `decrypt_reencrypted_data`. -/
def decryptReencryptedData (recipientKeypair : PreKeyPair u) (reEncrypted : ReEncryptedData) :
    Except CryptoError (List UInt8) := do
  let capsule ← mapErr (fun e => .Deserialization ("Invalid capsule: " ++ e))
    (u.capsuleFromBytes reEncrypted.capsule)
  let cfrag ← mapErr (fun e => .Deserialization ("Invalid cfrag: " ++ e))
    (u.capsuleFragFromBytes reEncrypted.cfrag)
  let senderPk ← prePublicKeyFromBytes u reEncrypted.senderPublicKey
  match reEncrypted.senderVerifyingKey with
  | some vkBytes =>
      let verifyingPk ← mapErr (fun e => CryptoError.InvalidKey ("Invalid verifying key: " ++ e))
        (u.publicKeyFromBytes vkBytes)
      let delegatingPk ← mapErr (fun e => CryptoError.InvalidKey ("Invalid delegating key: " ++ e))
        (u.publicKeyFromBytes reEncrypted.senderPublicKey)
      let receivingPk ← mapErr (fun e => CryptoError.InvalidKey ("Invalid receiving key: " ++ e))
        (u.publicKeyFromBytes (u.publicKeyToBytes recipientKeypair.publicKey))
      mapErr (fun e => CryptoError.PreDecryption ("Capsule fragment verification failed: " ++ e
          ++ ". Data may have been tampered with."))
        (u.verifyCapsuleFrag cfrag capsule verifyingPk delegatingPk receivingPk)
  -- pre-v0.2 data: the fragment is taken unverified
  | none => .ok ()
  mapErr (fun e => .PreDecryption ("Re-decryption failed: " ++ e))
    (u.decryptReencrypted recipientKeypair.secretKey senderPk capsule [cfrag]
      reEncrypted.ciphertext)

/-- The owner's client opening `nft_metadata.encrypted_aes_key` (`download_file`). -/
def unwrapFileKey (codec : TextCodec) (keypair : PreKeyPair u) (encryptedAesKey : String)
    (isReEncrypted : Bool) : Except CryptoError (List UInt8) := do
  if isReEncrypted then
    decryptReencryptedData keypair (← ReEncryptedData.fromBase64 codec encryptedAesKey)
  else
    decrypt keypair (← EncryptedPreData.fromBase64 codec encryptedAesKey)

/-! ## Round trips -/

lemma jsonFromBase64_toBase64 {codec : TextCodec} (hc : codec.Lawful) (f : String → CryptoError)
    {j : Json} (hj : j.Plain) (hdepth : j.depth ≤ 127) :
    jsonFromBase64 codec f (codec.toBase64 j) = .ok j := by
  simp [jsonFromBase64, TextCodec.toBase64, hc.base64, Text.fromUtf8_utf8, hc.json j hj hdepth,
    bind, Except.bind]

lemma EncryptedPreData.plain_toJson (e : EncryptedPreData) : e.toJson.Plain := by
  refine .Obj _ fun m hm => ?_
  simp only [List.mem_cons, List.not_mem_nil, or_false] at hm
  rcases hm with rfl | rfl <;> exact Json.plain_ofBytes _

lemma EncryptedPreData.depth_toJson (e : EncryptedPreData) : e.toJson.depth ≤ 127 := by
  refine Json.depth_record fun m hm => ?_
  simp only [List.mem_cons, List.not_mem_nil, or_false] at hm
  rcases hm with rfl | rfl <;> exact Json.depth_ofBytes _

lemma ReEncryptedData.plain_toJson (r : ReEncryptedData) : r.toJson.Plain := by
  refine .Obj _ fun m hm => ?_
  rcases List.mem_append.mp hm with hm | hm
  · simp only [List.mem_cons, List.not_mem_nil, or_false] at hm
    rcases hm with rfl | rfl | rfl | rfl <;> exact Json.plain_ofBytes _
  · cases hvk : r.senderVerifyingKey with
    | none => simp [hvk] at hm
    | some vk =>
        simp only [hvk, List.mem_singleton] at hm
        subst hm
        exact Json.plain_ofBytes _

lemma ReEncryptedData.depth_toJson (r : ReEncryptedData) : r.toJson.depth ≤ 127 := by
  refine Json.depth_record fun m hm => ?_
  rcases List.mem_append.mp hm with hm | hm
  · simp only [List.mem_cons, List.not_mem_nil, or_false] at hm
    rcases hm with rfl | rfl | rfl | rfl <;> exact Json.depth_ofBytes _
  · cases hvk : r.senderVerifyingKey with
    | none => simp [hvk] at hm
    | some vk =>
        simp only [hvk, List.mem_singleton] at hm
        subst hm
        exact Json.depth_ofBytes _

lemma EncryptedPreData.fromBase64_toBase64 {codec : TextCodec} (hc : codec.Lawful)
    (e : EncryptedPreData) : fromBase64 codec (e.toBase64 codec) = .ok e := by
  have hj := jsonFromBase64_toBase64 hc .Serialization e.plain_toJson e.depth_toJson
  simp only [fromBase64, toBase64, hj]
  simp [bind, Except.bind, ofJson, toJson, Json.record, Json.field]

lemma ReEncryptedData.fromBase64_toBase64 {codec : TextCodec} (hc : codec.Lawful)
    (r : ReEncryptedData) : fromBase64 codec (r.toBase64 codec) = .ok r := by
  have hj := jsonFromBase64_toBase64 hc .Deserialization r.plain_toJson r.depth_toJson
  obtain ⟨capsule, cfrag, ciphertext, senderPublicKey, senderVerifyingKey⟩ := r
  simp only [fromBase64, toBase64, hj]
  cases senderVerifyingKey <;>
    simp [bind, Except.bind, ofJson, toJson, Json.record, Json.field, Json.optionalField, Except.map]

/-- **A stored `ReEncryptedData` reads as an `EncryptedPreData`**: the two share the names of
the capsule and the ciphertext, and the other members are skipped. -/
lemma encryptedPreData_of_reEncrypted {codec : TextCodec} (hc : codec.Lawful)
    (r : ReEncryptedData) :
    EncryptedPreData.fromBase64 codec (r.toBase64 codec)
      = .ok { capsule := r.capsule, ciphertext := r.ciphertext } := by
  have hj := jsonFromBase64_toBase64 hc .Serialization r.plain_toJson r.depth_toJson
  simp only [EncryptedPreData.fromBase64, ReEncryptedData.toBase64, hj]
  cases hvk : r.senderVerifyingKey <;>
    simp [bind, Except.bind, EncryptedPreData.ofJson, ReEncryptedData.toJson, Json.record,
      Json.field, hvk]

end Pre

end Vaulted
