import Vaulted.Crypto.Commitment
import Vaulted.Crypto.Symbolic
import Vaulted.Library.JsonText

/-!
# Transfer proofs

`transfer.rs`: a sender hands a file key on in a memo, and the recipient checks it against the
commitment of the vault.

* `TransferProof` — the format, `toMemoData` and `fromMemoData`.
* `createTransferProof`, `acceptTransfer` — the two sides.
* `fromMemoData_toMemoData` — a memo is read as it was written.
* **`provenTransfer`** — the recipient gets the key of the sender, and its verdict is the one of the
  hash.
-/

namespace Vaulted.Commitment

open Aes (AesKey)
open Pre (EncryptedPreData PreKeyPair)

/-! ## The format -/

def transferProtocolVersion : UInt8 := 1

structure TransferProof where
  version : UInt8
  encryptedKey : String
  nonce : String
  commitment : String
  recipientPublicKey : String
  createdAt : UInt64
  deriving DecidableEq

namespace TransferProof

def toJson (p : TransferProof) : Json :=
  .Obj [("version", .Num (.Nat p.version.toNat)), ("encrypted_key", .Str p.encryptedKey),
    ("nonce", .Str p.nonce), ("commitment", .Str p.commitment),
    ("recipient_public_key", .Str p.recipientPublicKey),
    ("created_at", .Num (.Nat p.createdAt.toNat))]

def decodeU64 (j : Json) : Except String UInt64 := (Json.decodeNat 64 j).map UInt64.ofNat

/-- A record is an object, or a sequence of its fields. -/
def ofJson : Json → Except String TransferProof
  | .Arr [version, encryptedKey, nonce, commitment, recipientPublicKey, createdAt] => do
      return {
        version := ← Json.decodeByte version
        encryptedKey := ← Json.decodeStr encryptedKey
        nonce := ← Json.decodeStr nonce
        commitment := ← Json.decodeStr commitment
        recipientPublicKey := ← Json.decodeStr recipientPublicKey
        createdAt := ← decodeU64 createdAt }
  | .Arr _ => .error "invalid length, expected struct TransferProof with 6 elements"
  | j => do
      return {
        version := ← j.field "version" Json.decodeByte
        encryptedKey := ← j.field "encrypted_key" Json.decodeStr
        nonce := ← j.field "nonce" Json.decodeStr
        commitment := ← j.field "commitment" Json.decodeStr
        recipientPublicKey := ← j.field "recipient_public_key" Json.decodeStr
        createdAt := ← j.field "created_at" decodeU64 }

section

variable (codec : TextCodec)

/-- `TransferProof::new`; `now` is the clock, in seconds. -/
def new (now : UInt64) (encryptedKey : EncryptedPreData) (commitment : KeyCommitment)
    (recipientPkHex : String) : TransferProof where
  version := transferProtocolVersion
  encryptedKey := encryptedKey.toBase64 codec
  nonce := commitment.nonceHex
  commitment := commitment.commitmentHex
  recipientPublicKey := recipientPkHex
  createdAt := now

def toMemoData (p : TransferProof) : String :=
  Text.hexEncode (Text.utf8 (codec.jsonToString p.toJson))

def fromMemoData (memoHex : String) : Except CryptoError TransferProof := do
  let jsonBytes ← Pre.mapErr (fun e => .InvalidData ("Invalid memo hex: " ++ e))
    (Text.hexDecode memoHex)
  let jsonStr ← match Text.fromUtf8 jsonBytes with
    | some jsonStr => .ok jsonStr
    | none => .error (.InvalidData "Invalid UTF-8: invalid utf-8 sequence")
  Pre.mapErr .Deserialization (codec.jsonFromStr jsonStr >>= ofJson)

def encryptedKeyData (p : TransferProof) : Except CryptoError EncryptedPreData :=
  EncryptedPreData.fromBase64 codec p.encryptedKey

end

end TransferProof

/-! ## The two sides -/

section Service

variable {u : Umbral} (codec : TextCodec) (sha256 : List UInt8 → Bytes commitmentSize)

/-- The sender; `rng` is the randomness of the encryption. -/
def createTransferProof (rng : Nat) (now : UInt64) (encryptedAesKey : EncryptedPreData)
    (senderKeypair : PreKeyPair u) (recipientPk : List UInt8) (commitment : KeyCommitment) :
    Except CryptoError TransferProof := do
  let aesKeyBytes ← Pre.decrypt senderKeypair encryptedAesKey
  let aesKey ← AesKey.fromBytes aesKeyBytes
  if !commitment.verify sha256 aesKey then
    .error (.InvalidData "AES key doesn't match commitment")
  else
    let recipientPublicKey ← Pre.prePublicKeyFromBytes u recipientPk
    let encryptedForRecipient ← Pre.encrypt u rng recipientPublicKey aesKeyBytes
    return .new codec now encryptedForRecipient commitment (Text.hexEncode recipientPk)

/-- The recipient: the key, and whether it is the one that was committed to. -/
def acceptTransfer (proof : TransferProof) (recipientKeypair : PreKeyPair u)
    (expectedCommitment : Bytes commitmentSize) : Except CryptoError (AesKey × Bool) := do
  let encryptedData ← proof.encryptedKeyData codec
  let aesKeyBytes ← Pre.decrypt recipientKeypair encryptedData
  let aesKey ← AesKey.fromBytes aesKeyBytes
  let nonceBytes ← Pre.mapErr (fun e => .InvalidData ("Invalid nonce hex: " ++ e))
    (Text.hexDecode proof.nonce)
  let nonce ← toArray nonceSize nonceBytes (.InvalidData "Nonce must be 16 bytes")
  let commitment := KeyCommitment.createWithNonce sha256 aesKey nonce
  return (aesKey, decide (commitment.commitment = expectedCommitment))

end Service

/-! ## The memo -/

lemma decodeU64_ofNat (n : UInt64) : TransferProof.decodeU64 (.Num (.Nat n.toNat)) = .ok n := by
  have hread : Json.decodeNat 64 (.Num (.Nat n.toNat)) = .ok n.toNat := if_pos n.toNat_lt
  rw [TransferProof.decodeU64, hread, Except.map, UInt64.ofNat_toNat]

lemma TransferProof.ofJson_toJson (p : TransferProof) : ofJson p.toJson = .ok p := by
  simp [ofJson, toJson, Json.field, Json.decodeStr, Json.decodeByte_ofByte, decodeU64_ofNat, bind,
    Except.bind, pure, Except.pure]

lemma TransferProof.plain_toJson (p : TransferProof) : p.toJson.Plain := by
  refine .Obj _ fun m hm => ?_
  simp only [List.mem_cons, List.not_mem_nil, or_false] at hm
  rcases hm with rfl | rfl | rfl | rfl | rfl | rfl
  · exact .Num _ (lt_trans p.version.toNat_lt (by decide))
  · exact .Str _
  · exact .Str _
  · exact .Str _
  · exact .Str _
  · exact .Num _ p.createdAt.toNat_lt

lemma TransferProof.depth_toJson (p : TransferProof) : p.toJson.depth ≤ 127 := by
  refine Json.depth_record fun m hm => ?_
  simp only [List.mem_cons, List.not_mem_nil, or_false] at hm
  rcases hm with rfl | rfl | rfl | rfl | rfl | rfl <;> exact Nat.zero_le 1

/-- **A memo is read as it was written.** -/
theorem fromMemoData_toMemoData {codec : TextCodec} (hcodec : codec.Lawful) (p : TransferProof) :
    TransferProof.fromMemoData codec (p.toMemoData codec) = .ok p := by
  simp only [TransferProof.fromMemoData, TransferProof.toMemoData, Text.hexDecode_hexEncode,
    Pre.mapErr_ok, Text.fromUtf8_utf8, hcodec.json _ p.plain_toJson p.depth_toJson,
    TransferProof.ofJson_toJson, bind, Except.bind]

/-! ## A transfer -/

section Transfer

variable {u : Umbral} {codec : TextCodec} {sha256 : List UInt8 → Bytes commitmentSize}
  {sender recipient : PreKeyPair u}

lemma fromBytes_eq_ok {bytes : List UInt8} {aesKey : AesKey} :
    AesKey.fromBytes bytes = .ok aesKey ↔ bytes = aesKey.key := by
  constructor
  · intro h
    rw [AesKey.fromBytes] at h
    split_ifs at h with hlen
    rw [← Except.ok.inj h]
  · rintro rfl
    exact dif_pos aesKey.size

/-- What is encrypted for a key is decrypted with it. -/
lemma decrypt_of_encrypt (hu : u.Ideal) {rng : Nat} {keypair : PreKeyPair u}
    {plaintext : List UInt8} {encrypted : EncryptedPreData}
    (h : Pre.encrypt u rng keypair.publicKey plaintext = .ok encrypted) :
    Pre.decrypt keypair encrypted = .ok plaintext := by
  obtain ⟨⟨capsule, ciphertext⟩, hencrypt, h⟩ := Checks.bind_eq_ok_iff.mp h
  obtain rfl := Except.ok.inj h
  have hopens := hu.opens_original rng keypair.secretKey plaintext capsule ciphertext
    (Pre.eq_ok_of_mapErr hencrypt)
  simp only [Pre.decrypt, EncryptedPreData.getCapsule, hu.capsule_bytes, Pre.mapErr_ok, hopens,
    bind, Except.bind]

/-- What a proof is made of. -/
lemma createTransferProof_eq_ok {rng : Nat} {now : UInt64} {encryptedAesKey : EncryptedPreData}
    {recipientPk : List UInt8} {commitment : KeyCommitment} {proof : TransferProof} :
    createTransferProof codec sha256 rng now encryptedAesKey sender recipientPk commitment
      = .ok proof ↔
    ∃ aesKey publicKey encrypted, Pre.decrypt sender encryptedAesKey = .ok aesKey.key
      ∧ commitment.verify sha256 aesKey = true
      ∧ Pre.prePublicKeyFromBytes u recipientPk = .ok publicKey
      ∧ Pre.encrypt u rng publicKey aesKey.key = .ok encrypted
      ∧ .new codec now encrypted commitment (Text.hexEncode recipientPk) = proof := by
  simp only [createTransferProof, Checks.bind_eq_ok_iff, fromBytes_eq_ok, Checks.ite_eq_ok_iff,
    Bool.not_eq_true', Bool.not_eq_false]
  constructor
  · rintro ⟨_, hdecrypt, aesKey, rfl, hverify, publicKey, hpk, encrypted, hencrypt, hproof⟩
    exact ⟨aesKey, publicKey, encrypted, hdecrypt, hverify, hpk, hencrypt, Except.ok.inj hproof⟩
  · rintro ⟨aesKey, publicKey, encrypted, hdecrypt, hverify, hpk, hencrypt, rfl⟩
    exact ⟨_, hdecrypt, aesKey, rfl, hverify, publicKey, hpk, encrypted, hencrypt, rfl⟩

/-- What is accepted, and with which verdict. -/
lemma acceptTransfer_eq_ok {proof : TransferProof} {expected : Bytes commitmentSize}
    {aesKey : AesKey} {valid : Bool} :
    acceptTransfer codec sha256 proof recipient expected = .ok (aesKey, valid) ↔
    ∃ encrypted, ∃ nonce : Bytes nonceSize, proof.encryptedKeyData codec = .ok encrypted
      ∧ Pre.decrypt recipient encrypted = .ok aesKey.key
      ∧ Text.hexDecode proof.nonce = .ok nonce.val
      ∧ valid = decide (sha256 (aesKey.key ++ nonce.val) = expected) := by
  simp only [acceptTransfer, Checks.bind_eq_ok_iff, fromBytes_eq_ok, Pre.mapErr_eq_ok_iff]
  constructor
  · rintro ⟨encrypted, hread, _, hdecrypt, aesKey', rfl, nonceBytes, hhex, nonce, hnonce, hret⟩
    obtain ⟨rfl, rfl⟩ := Prod.mk.inj (Except.ok.inj hret)
    rw [toArray_eq_ok hnonce] at hhex
    exact ⟨encrypted, nonce, hread, hdecrypt, hhex, rfl⟩
  · rintro ⟨encrypted, nonce, hread, hdecrypt, hhex, rfl⟩
    exact ⟨encrypted, hread, _, hdecrypt, aesKey, rfl, _, hhex, nonce, toArray_val nonce _, rfl⟩

end Transfer

/-- What a transfer of a key from a sender to a recipient does: a proof can be made and is read
back, the recipient gets the key of the sender, and the verdict is that of the commitment. -/
structure ProvenTransfer {u : Umbral} (codec : TextCodec)
    (sha256 : List UInt8 → Bytes commitmentSize) (sender recipient : PreKeyPair u) : Prop where
  /-- A proof can be made for every key that was encrypted for the sender. -/
  made : ∀ rng rng' now aesKey nonce encrypted,
    Pre.encrypt u rng sender.publicKey (AesKey.key aesKey) = .ok encrypted →
    (∃ out, Pre.encrypt u rng' recipient.publicKey aesKey.key = .ok out) →
    ∃ proof, createTransferProof codec sha256 rng' now encrypted sender
      (u.publicKeyToBytes recipient.publicKey) (.createWithNonce sha256 aesKey nonce) = .ok proof
  /-- Whatever proof is made, its memo gives the recipient the sender's key, with a valid verdict. -/
  received : ∀ rng now encrypted recipientPk commitment proof,
    createTransferProof codec sha256 rng now encrypted sender recipientPk commitment = .ok proof →
    Pre.prePublicKeyFromBytes u recipientPk = .ok recipient.publicKey →
    ∃ aesKey read, Pre.decrypt sender encrypted = .ok (AesKey.key aesKey)
      ∧ TransferProof.fromMemoData codec (proof.toMemoData codec) = .ok read
      ∧ acceptTransfer codec sha256 read recipient commitment.commitment = .ok (aesKey, true)
  /-- The verdict on any proof is whether the hash of key and nonce is the one committed to. -/
  verdict : ∀ proof expected aesKey valid,
    acceptTransfer codec sha256 proof recipient expected = .ok (aesKey, valid) →
    ∃ nonce : Bytes nonceSize, Text.hexDecode proof.nonce = .ok nonce.val
      ∧ (valid = true ↔ sha256 (aesKey.key ++ nonce.val) = expected)

/-- **A transfer hands over the key that was committed to.** What is made for the recipient's key
can be opened with it, the memo is read back as it was written, and the verdict of the recipient is
that of the hash alone: it depends on the key and the nonce that come out, not on who has sent them.
-/
theorem provenTransfer {u : Umbral} (hu : u.Ideal) {codec : TextCodec} (hcodec : codec.Lawful)
    (sha256 : List UInt8 → Bytes commitmentSize) (sender recipient : PreKeyPair u) :
    ProvenTransfer codec sha256 sender recipient where
  made rng rng' now aesKey nonce encrypted hencrypt hout := by
    obtain ⟨out, hout⟩ := hout
    have hpk : Pre.prePublicKeyFromBytes u (u.publicKeyToBytes recipient.publicKey)
        = .ok recipient.publicKey := by
      rw [Pre.prePublicKeyFromBytes, hu.publicKey_bytes, Pre.mapErr_ok]
    exact ⟨_, createTransferProof_eq_ok.mpr ⟨aesKey, recipient.publicKey, out,
      decrypt_of_encrypt hu hencrypt, verify_createWithNonce aesKey nonce, hpk, hout, rfl⟩⟩
  received rng now encrypted recipientPk commitment proof hcreate hpk := by
    obtain ⟨aesKey, publicKey, out, hdecrypt, hverify, hpk', hencrypt, rfl⟩ :=
      createTransferProof_eq_ok.mp hcreate
    obtain rfl : publicKey = recipient.publicKey := Except.ok.inj (hpk'.symm.trans hpk)
    refine ⟨aesKey, _, hdecrypt, fromMemoData_toMemoData hcodec _, acceptTransfer_eq_ok.mpr
      ⟨out, commitment.nonce, EncryptedPreData.fromBase64_toBase64 hcodec out,
        decrypt_of_encrypt hu hencrypt, Text.hexDecode_hexEncode _, ?_⟩⟩
    exact (decide_eq_true (verify_iff.mp hverify)).symm
  verdict proof expected aesKey valid haccept := by
    obtain ⟨_, nonce, -, -, hhex, rfl⟩ := acceptTransfer_eq_ok.mp haccept
    exact ⟨nonce, hhex, decide_eq_true_iff⟩

namespace Sample

/-- A hash that keeps the first bytes. -/
def sha256 (bytes : List UInt8) : Bytes commitmentSize :=
  ⟨(bytes ++ List.replicate 32 0).take 32, by simp [commitmentSize]⟩

def keys (n : UInt8) : PreKeyPair Umbral.symbolic := ⟨n, n + 100⟩

def fileKey : AesKey := ⟨List.replicate 32 7, rfl⟩

def nonce : Bytes nonceSize := ⟨List.replicate 16 9, rfl⟩

/-- The first user proves the transfer of a file key to the second one, who gets it from the memo. -/
theorem provenTransfer_symbolic : ProvenTransfer JsonText.compact sha256 (keys 1) (keys 2)
    ∧ ∃ encrypted proof read, Pre.encrypt Umbral.symbolic 0 (keys 1).publicKey fileKey.key
        = .ok encrypted
      ∧ createTransferProof JsonText.compact sha256 0 0 encrypted (keys 1)
        (Umbral.symbolic.publicKeyToBytes (keys 2).publicKey)
        (.createWithNonce sha256 fileKey nonce) = .ok proof
      ∧ TransferProof.fromMemoData JsonText.compact (proof.toMemoData JsonText.compact) = .ok read
      ∧ acceptTransfer JsonText.compact sha256 read (keys 2)
        (KeyCommitment.createWithNonce sha256 fileKey nonce).commitment = .ok (fileKey, true) := by
  have hproven := provenTransfer symbolic_ideal JsonText.compact_lawful sha256 (keys 1) (keys 2)
  obtain ⟨encrypted, hencrypt⟩ : ∃ encrypted, Pre.encrypt Umbral.symbolic 0 (keys 1).publicKey
      fileKey.key = .ok encrypted := ⟨_, rfl⟩
  have hpk : Pre.prePublicKeyFromBytes Umbral.symbolic
      (Umbral.symbolic.publicKeyToBytes (keys 2).publicKey) = .ok (keys 2).publicKey := by
    rw [Pre.prePublicKeyFromBytes, symbolic_ideal.publicKey_bytes, Pre.mapErr_ok]
  obtain ⟨proof, hproof⟩ := hproven.made 0 0 0 fileKey nonce encrypted hencrypt ⟨_, rfl⟩
  obtain ⟨aesKey, read, hdecrypt, hread, haccept⟩ :=
    hproven.received _ _ _ _ _ proof hproof hpk
  obtain rfl : aesKey = fileKey := by
    have hsame := hdecrypt.symm.trans (decrypt_of_encrypt symbolic_ideal hencrypt)
    have hkey : AesKey.fromBytes aesKey.key = .ok aesKey := fromBytes_eq_ok.mpr rfl
    exact Except.ok.inj (hkey.symm.trans (fromBytes_eq_ok.mpr (Except.ok.inj hsame)))
  exact ⟨hproven, encrypted, proof, read, hencrypt, hproof, hread, haccept⟩

end Sample

end Vaulted.Commitment
