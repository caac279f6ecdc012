import Vaulted.Crypto.XrplWallet
import Vaulted.Oracle.XrplVerify

/-!
# Signatures of Vaulted wallets

The client signs a digest, and the Oracle verifies a message.

* `Secp256k1` — the k256 crate; `signDigestHex`, `publicKeyHex`, `sha512Half` — the client.
* `Lawful` — what the two sides rely on: the crate's `verify` hashes what it is given, with SHA-256,
  and then accepts the signatures over that digest.
* `Verifies` — a signature for a message is accepted, and no other one.
* `verifies_iff` — so it is if and only if SHA-256, which the client does not apply, does nothing to
  the first half of the SHA-512 digest.
-/

namespace Vaulted.WalletSignatures

open XrplVerify

/-! ## The client -/

structure Secp256k1 where
  Signature : Type
  isKey : List UInt8 → Bool
  keyError : String
  /-- In its compressed form. -/
  publicKey : List UInt8 → List UInt8
  signPrehash : (privateKey digest : List UInt8) → Option Signature
  normalizeS : Signature → Option Signature
  toDer : Signature → List UInt8

/-- `VaultedXrplWallet`. -/
structure Wallet where
  privateKey : List UInt8
  deriving DecidableEq

section Client

variable (k : Secp256k1) (wallet : Wallet)

def signingKey : Except CryptoError (List UInt8) :=
  if k.isKey wallet.privateKey then .ok wallet.privateKey else .error (.KeyDerivation k.keyError)

def publicKeyHex : Except CryptoError String := do
  let key ← signingKey k wallet
  .ok (Text.hexEncodeUpper (k.publicKey key))

def signDigestHex (digest : List UInt8) : Except CryptoError String := do
  let key ← signingKey k wallet
  match k.signPrehash key digest with
  | none => .error .InvalidSignature
  | some sig => .ok (Text.hexEncodeUpper (k.toDer ((k.normalizeS sig).getD sig)))

end Client

def sha512Half (sha512 : List UInt8 → List UInt8) (data : List UInt8) : List UInt8 :=
  (sha512 data).take 32

/-! ## Both sides -/

/-- Digests have their lengths. A key signs every digest of 32 bytes, and what it signs is a
signature for that digest only. The Oracle reads keys and signatures in the form in which the client
writes them, and the crate's `verify` hashes the message before it verifies the digest. -/
structure Lawful (k : Secp256k1) (x : XrplCrypto) (sha256 : List UInt8 → List UInt8)
    (verifyPrehash : (publicKey digest der : List UInt8) → Bool) : Prop where
  compressed : ∀ key, (k.publicKey key).length = 33 ∧ (k.publicKey key).head? ≠ some 0xED
  readsKey : ∀ key, k.isKey key = true → x.secpKey (k.publicKey key) = .ok ()
  readsDer : ∀ sig, x.secpDer (k.toDer sig) = .ok ()
  lengths : ∀ data, (x.sha512 data).length = 64 ∧ (sha256 data).length = 32
  signs : ∀ key digest, k.isKey key = true → digest.length = 32 →
    ∃ sig, k.signPrehash key digest = some sig
  verifies : ∀ key digest sig digest', k.isKey key = true → digest.length = 32 →
    digest'.length = 32 → k.signPrehash key digest = some sig →
    (verifyPrehash (k.publicKey key) digest' (k.toDer ((k.normalizeS sig).getD sig)) = true
      ↔ digest' = digest)
  hashes : ∀ publicKey message der,
    x.secpVerify publicKey message der = verifyPrehash publicKey (sha256 message) der

/-- What the client signs for a message is accepted for this message, and what it signs for another
one is not. -/
structure Verifies (k : Secp256k1) (x : XrplCrypto) (wallet : Wallet) (message : String) :
    Prop where
  accepted : ∃ publicKey signature, publicKeyHex k wallet = .ok publicKey
    ∧ signDigestHex k wallet (sha512Half x.sha512 (Text.utf8 message)) = .ok signature
    ∧ verifyXrplSignature x publicKey message signature = .ok true
  refused : ∀ message' publicKey signature, message' ≠ message →
    publicKeyHex k wallet = .ok publicKey →
    signDigestHex k wallet (sha512Half x.sha512 (Text.utf8 message')) = .ok signature →
    verifyXrplSignature x publicKey message signature ≠ .ok true

section Verification

variable {k : Secp256k1} {x : XrplCrypto} {sha256 : List UInt8 → List UInt8}
  {verifyPrehash : (publicKey digest der : List UInt8) → Bool} {wallet : Wallet}

lemma length_sha512Half (h : Lawful k x sha256 verifyPrehash) (data : List UInt8) :
    (sha512Half x.sha512 data).length = 32 := by
  rw [sha512Half, List.length_take, (h.lengths data).1]
  rfl

lemma publicKeyHex_eq (hkey : k.isKey wallet.privateKey = true) :
    publicKeyHex k wallet = .ok (Text.hexEncodeUpper (k.publicKey wallet.privateKey)) := by
  rw [publicKeyHex, signingKey, if_pos hkey]
  rfl

lemma signDigestHex_eq (hkey : k.isKey wallet.privateKey = true) {digest : List UInt8}
    {sig : k.Signature} (hsig : k.signPrehash wallet.privateKey digest = some sig) :
    signDigestHex k wallet digest
      = .ok (Text.hexEncodeUpper (k.toDer ((k.normalizeS sig).getD sig))) := by
  rw [signDigestHex, signingKey, if_pos hkey]
  simp only [bind, Except.bind, hsig]

/-- **What is accepted**: a signature over the SHA-256 digest of the first half. -/
theorem verify_iff (h : Lawful k x sha256 verifyPrehash) (hkey : k.isKey wallet.privateKey = true)
    {digest : List UInt8} (hdigest : digest.length = 32) {publicKey signature message : String}
    (hpublicKey : publicKeyHex k wallet = .ok publicKey)
    (hsignature : signDigestHex k wallet digest = .ok signature) :
    verifyXrplSignature x publicKey message signature = .ok true
      ↔ sha256 (sha512FirstHalf x (Text.utf8 message)) = digest := by
  obtain ⟨sig, hsig⟩ := h.signs wallet.privateKey digest hkey hdigest
  rw [publicKeyHex_eq hkey] at hpublicKey
  rw [signDigestHex_eq hkey hsig] at hsignature
  obtain rfl := Except.ok.inj hpublicKey
  obtain rfl := Except.ok.inj hsignature
  obtain ⟨hlength, hhead⟩ := h.compressed wallet.privateKey
  rw [← h.verifies wallet.privateKey digest sig _ hkey hdigest (h.lengths _).2 hsig, ← h.hashes]
  simp only [verifyXrplSignature, Text.hexDecode_hexEncodeUpper, Pre.mapErr_ok, check, hlength,
    decide_true, if_true, if_neg hhead, h.readsKey _ hkey, h.readsDer, bind, Except.bind,
    Except.ok.injEq]

/-- **A message is verified if and only if** the first half of its SHA-512 digest is its own SHA-256
digest, and no other message has that half. The client signs the half as it is, whereas the verifier
of the crate hashes what it is given once more. -/
theorem verifies_iff (h : Lawful k x sha256 verifyPrehash) (hkey : k.isKey wallet.privateKey = true)
    {message : String} : Verifies k x wallet message
      ↔ sha256 (sha512FirstHalf x (Text.utf8 message)) = sha512FirstHalf x (Text.utf8 message)
        ∧ ∀ message', sha512FirstHalf x (Text.utf8 message')
          = sha512FirstHalf x (Text.utf8 message) → message' = message := by
  have hpublicKey := publicKeyHex_eq hkey
  have hlength := length_sha512Half h
  have hsigned : ∀ message, ∃ signature,
      signDigestHex k wallet (sha512Half x.sha512 (Text.utf8 message)) = .ok signature := by
    intro message
    obtain ⟨sig, hsig⟩ := h.signs wallet.privateKey (sha512Half x.sha512 (Text.utf8 message)) hkey
      (length_sha512Half h _)
    exact ⟨_, signDigestHex_eq hkey hsig⟩
  constructor
  · rintro ⟨⟨publicKey, signature, hpublicKey', hsignature, hverify⟩, hrefused⟩
    have hfixed := (verify_iff h hkey (hlength _) hpublicKey' hsignature).mp hverify
    refine ⟨hfixed, fun message' hhalf => by_contra fun hne => ?_⟩
    obtain ⟨signature', hsignature'⟩ := hsigned message'
    exact hrefused message' _ _ hne hpublicKey hsignature'
      ((verify_iff h hkey (hlength _) hpublicKey hsignature').mpr (hfixed.trans hhalf.symm))
  · rintro ⟨hfixed, hcollision⟩
    obtain ⟨signature, hsignature⟩ := hsigned message
    refine ⟨⟨_, signature, hpublicKey, hsignature, ?_⟩, ?_⟩
    · exact (verify_iff h hkey (hlength _) hpublicKey hsignature).mpr hfixed
    · intro message' publicKey signature' hne hpublicKey' hsignature' hverify
      rw [verify_iff h hkey (hlength _) hpublicKey' hsignature', hfixed] at hverify
      exact hne (hcollision message' hverify.symm)

end Verification

namespace Sample

/-- A signature names its digest. -/
def secp : Secp256k1 where
  Signature := List UInt8
  isKey key := decide (key.length = 32)
  keyError := "signature error"
  publicKey key := 2 :: (key ++ List.replicate 32 0).take 32
  signPrehash _ digest := some digest
  normalizeS _ := none
  toDer sig := sig

/-- The digest of one message, and nothing else for other ones. -/
def sha512 (bytes : List UInt8) : List UInt8 :=
  if bytes = Text.utf8 "hello" then
    [155, 113, 210, 36, 189, 98, 243, 120, 93, 150, 212, 106, 211, 234, 61, 115, 49, 155, 251, 194,
      137, 12, 170, 218, 226, 223, 247, 37, 25, 103, 60, 167, 35, 35, 195, 217, 155, 165, 193, 29,
      124, 122, 204, 110, 20, 184, 197, 218, 12, 70, 99, 71, 92, 46, 92, 58, 222, 244, 111, 115, 188,
      222, 192, 67]
  else List.replicate 64 0

def sha256 (bytes : List UInt8) : List UInt8 :=
  if bytes = (sha512 (Text.utf8 "hello")).take 32 then
    [162, 255, 55, 242, 187, 18, 5, 74, 152, 195, 69, 6, 2, 48, 154, 13, 135, 223, 222, 93, 96, 225,
      172, 124, 112, 40, 223, 90, 233, 224, 137, 45]
  else List.replicate 32 0

/-- Leaves a digest of that length as it is. -/
def padded (bytes : List UInt8) : List UInt8 := (bytes ++ List.replicate 32 0).take 32

def verifyPrehash (_ digest der : List UInt8) : Bool := decide (der = digest)

def crypto (sha256 : List UInt8 → List UInt8) : XrplCrypto := { XrplCrypto.transparent with
  secpVerify := fun publicKey message der => verifyPrehash publicKey (sha256 message) der
  sha512 := sha512 }

def wallet : Wallet := ⟨List.replicate 32 1⟩

lemma length_sha512 (bytes : List UInt8) : (sha512 bytes).length = 64 := by
  rw [sha512]
  split_ifs <;> rfl

lemma length_sha256 (bytes : List UInt8) : (sha256 bytes).length = 32 := by
  rw [sha256]
  split_ifs <;> rfl

lemma length_padded (bytes : List UInt8) : (padded bytes).length = 32 := by simp [padded]

lemma lawful {sha256 : List UInt8 → List UInt8} (hlength : ∀ bytes, (sha256 bytes).length = 32) :
    Lawful secp (crypto sha256) sha256 verifyPrehash where
  compressed key := by simp [secp]
  readsKey _ _ := rfl
  readsDer _ := rfl
  lengths bytes := ⟨length_sha512 bytes, hlength bytes⟩
  signs _ digest _ _ := ⟨digest, rfl⟩
  verifies _ digest sig digest' _ _ _ hsig := by
    obtain rfl : digest = sig := Option.some.inj hsig
    rw [verifyPrehash, decide_eq_true_eq]
    exact eq_comm
  hashes _ _ _ := rfl

lemma isKey_wallet : secp.isKey wallet.privateKey = true := by decide

lemma half_ne : sha256 (sha512FirstHalf (crypto sha256) (Text.utf8 "hello"))
    ≠ sha512FirstHalf (crypto sha256) (Text.utf8 "hello") := by decide +kernel

/-- A message is verified with a SHA-256 that does nothing to its half, and not with one that does
what it does to this half. -/
theorem verifies_hello : Verifies secp (crypto padded) wallet "hello"
    ∧ ¬Verifies secp (crypto sha256) wallet "hello" := by
  refine ⟨(verifies_iff (lawful length_padded) isKey_wallet).mpr ⟨by decide +kernel, ?_⟩,
    fun hverifies => half_ne ((verifies_iff (lawful length_sha256) isKey_wallet).mp hverifies).1⟩
  intro message' hhalf
  by_contra hne
  have hbytes : Text.utf8 message' ≠ Text.utf8 "hello" := fun heq => hne (Text.utf8_injective heq)
  rw [sha512FirstHalf, show (crypto padded).sha512 = sha512 from rfl, sha512, if_neg hbytes] at hhalf
  exact absurd hhalf (by decide +kernel)

/-- **An honest signature is refused.** -/
theorem not_verified : ¬∀ wallet message, secp.isKey wallet.privateKey = true →
    Verifies secp (crypto sha256) wallet message := by
  intro h
  obtain ⟨publicKey, signature, hpublicKey, hsignature, hverify⟩ :=
    (h wallet "hello" isKey_wallet).accepted
  have hlength := length_sha512Half (lawful length_sha256) (Text.utf8 "hello")
  exact half_ne ((verify_iff (lawful length_sha256) isKey_wallet hlength hpublicKey hsignature).mp
    hverify)

end Sample

end Vaulted.WalletSignatures
