import Vaulted.Crypto.Manifest
import Vaulted.Crypto.Symbolic
import Vaulted.Node.Server

/-!
# What a manifest's signature covers

* `SignedManifest` — a signature of the owner verifies, over everything but itself.
* **`signedManifest`** — so it is for every manifest, if signatures are ideal and nothing has the
  hash of the manifest but its own bytes.
-/

namespace Vaulted.Manifest

open VaultedManifest

/-- What holds of a manifest: it verifies after it has been signed by its owner, keeps its hash, and
a signature or a hash of it is one of no other manifest. -/
structure SignedManifest (codec : TextCodec) (ed : Ed25519) (sha256 : List UInt8 → List UInt8)
    (signed : SigningKey → List UInt8 → Prop) (m : VaultedManifest) : Prop where
  /-- The owner's signature verifies. -/
  verifies : ∀ key, signed key (m.canonicalUnsignedBytes codec) →
    m.ownerSigningPublicKey = Text.hexEncode key.verifyingKey →
    (m.sign codec key).verifySignature codec ed = .ok ()
  /-- Signing, for the first time or again, leaves the hash as it is. -/
  keepsHash : ∀ key, (m.sign codec key).manifestHash codec sha256 = m.manifestHash codec sha256
  /-- Only what the owner's key has signed verifies. -/
  bound : m.verifySignature codec ed = .ok () → ∃ signature key, m.signature = some signature
    ∧ signature.signer = m.ownerSigningPublicKey
    ∧ Text.hexDecode signature.signer = .ok key.verifyingKey
    ∧ signed key (m.canonicalUnsignedBytes codec)
    ∧ codec.base64Decode signature.value = .ok (key.sign (m.canonicalUnsignedBytes codec))
  /-- A signature does not verify for any other content. -/
  tampered : ∀ m' : VaultedManifest, m.verifySignature codec ed = .ok () → m'.signature = m.signature →
    m'.unsigned ≠ m.unsigned → m'.verifySignature codec ed = .error .SignatureVerification
  /-- Nor has any other content the same hash. -/
  hashed : ∀ m' : VaultedManifest, m'.manifestHash codec sha256 = m.manifestHash codec sha256 →
    m'.unsigned = m.unsigned

section

variable {codec : TextCodec} {ed : Ed25519} {signed : SigningKey → List UInt8 → Prop}
  {m m' : VaultedManifest}

lemma verifySignature_sign (hcodec : codec.Lawful) (hideal : IdealEd25519 ed signed)
    {key : SigningKey} (hsigned : signed key (m.canonicalUnsignedBytes codec))
    (howner : m.ownerSigningPublicKey = Text.hexEncode key.verifyingKey) :
    (m.sign codec key).verifySignature codec ed = .ok () := by
  obtain ⟨hlen, hkey⟩ := hideal.isKey key _ hsigned
  refine verifySignature_eq_ok.mpr ⟨_, key.verifyingKey, key.sign (m.canonicalUnsignedBytes codec),
    rfl, rfl, howner.symm, Text.hexDecode_hexEncode _, hlen, hkey, hcodec.base64 _,
    hideal.length key _ hsigned, ?_⟩
  rw [canonicalUnsignedBytes_sign]
  exact hideal.correct key _ hsigned

/-- Two manifests that verify with one signature have one content. -/
lemma unsigned_eq_of_verify (hcodec : codec.Lawful) (hideal : IdealEd25519 ed signed)
    (h : m.verifySignature codec ed = .ok ()) (h' : m'.verifySignature codec ed = .ok ())
    (hsame : m'.signature = m.signature) : m'.unsigned = m.unsigned := by
  obtain ⟨s, pub, sig, hs, -, -, hpub, -, -, hsig, -, hverify⟩ := verifySignature_eq_ok.mp h
  obtain ⟨s', pub', sig', hs', -, -, hpub', -, -, hsig', -, hverify'⟩ :=
    verifySignature_eq_ok.mp h'
  obtain rfl : s' = s := Option.some.inj (hs'.symm.trans (hsame.trans hs))
  obtain rfl : pub' = pub := Except.ok.inj (hpub'.symm.trans hpub)
  obtain rfl : sig' = sig := Except.ok.inj (hsig'.symm.trans hsig)
  exact canonicalUnsignedBytes_inj hcodec (hideal.eq_of_verify hverify' hverify)

end

/-- **A manifest's signature is its owner's**, and covers everything but itself. The hash of a
manifest is that of the bytes that are signed, so that signing does not change it; and a manifest
with the hash of another one has all its members. -/
theorem signedManifest {codec : TextCodec} (hcodec : codec.Lawful) {ed : Ed25519}
    {signed : SigningKey → List UInt8 → Prop} (hideal : IdealEd25519 ed signed)
    {sha256 : List UInt8 → List UInt8} (m : VaultedManifest)
    (hsha : ∀ bytes, sha256 bytes = sha256 (m.canonicalUnsignedBytes codec) →
      bytes = m.canonicalUnsignedBytes codec) :
    SignedManifest codec ed sha256 signed m where
  verifies key := verifySignature_sign hcodec hideal
  keepsHash key := by rw [manifestHash, manifestHash, canonicalUnsignedBytes_sign]
  bound h := by
    obtain ⟨s, pub, sig, hs, -, hsigner, hpub, -, -, hsig, -, hverify⟩ :=
      verifySignature_eq_ok.mp h
    obtain ⟨key, hsigned, rfl, rfl⟩ := hideal.unforged _ _ _ hverify
    exact ⟨s, key, hs, hsigner, hpub, hsigned, hsig⟩
  tampered m' h hsame hne := by
    cases h' : m'.verifySignature codec ed with
    | ok r => exact absurd (unsigned_eq_of_verify hcodec hideal h h' hsame) hne
    | error e => rw [verifySignature_eq_error h']
  hashed m' h := by
    have hhex := congrArg String.toList h
    rw [manifestHash, manifestHash, String.toList_append, String.toList_append,
      List.append_right_inj] at hhex
    exact canonicalUnsignedBytes_inj hcodec
      (hsha _ (Text.hexEncode_injective (String.toList_injective hhex)))

/-! ## A manifest -/

namespace Sample

open Node.Sample (crates oracleKey sign_length)

def manifest : VaultedManifest where
  protocol := "vaulted-v1"
  vaultObjectId := "object"
  ownerIdentityId := "owner"
  ownerSigningPublicKey := Text.hexEncode oracleKey.verifyingKey
  createdAt := "2026-05-12T00:00:00Z"
  manifestVersion := 1
  cipher := "AES-256-GCM"
  metadataEncrypted := ""
  fragments := [⟨0, "k", "sha256:", 3, none⟩]
  keyEnvelopes := []
  nft := some ⟨"xrpl", none, none⟩
  signature := none

/-- Nothing but that manifest has been signed. -/
def signed (key : SigningKey) (message : List UInt8) : Prop :=
  key = oracleKey ∧ message = manifest.canonicalUnsignedBytes JsonText.compact

def signedOnce : Ed25519 where
  isKey _ := true
  verify publicKey message signature :=
    decide (publicKey = oracleKey.verifyingKey) && decide (signature = oracleKey.sign message)
      && decide (message = manifest.canonicalUnsignedBytes JsonText.compact)

lemma ideal : IdealEd25519 signedOnce signed where
  isKey := by
    rintro key message ⟨rfl, -⟩
    exact ⟨rfl, rfl⟩
  length := by
    rintro key message ⟨rfl, -⟩
    exact sign_length message
  correct := by
    rintro key message ⟨rfl, hmessage⟩
    simp [signedOnce, hmessage]
  unforged := by
    intro publicKey message signature hverify
    simp only [signedOnce, Bool.and_eq_true, decide_eq_true_eq] at hverify
    obtain ⟨⟨hkey, hsign⟩, hmessage⟩ := hverify
    exact ⟨oracleKey, ⟨rfl, hmessage⟩, hkey.symm, hsign.symm⟩
  distinct := by
    rintro key key' message message' ⟨-, hmessage⟩ ⟨-, hmessage'⟩ - -
    rw [hmessage, hmessage']

/-- A hash that only this manifest has. -/
def sha256 : List UInt8 → List UInt8 := digestOf [manifest.canonicalUnsignedBytes JsonText.compact]

theorem signedManifest_manifest :
    SignedManifest JsonText.compact signedOnce sha256 signed manifest :=
  signedManifest JsonText.compact_lawful ideal manifest fun _ =>
    eq_of_digestOf_eq (by decide) List.mem_cons_self

end Sample

end Vaulted.Manifest
