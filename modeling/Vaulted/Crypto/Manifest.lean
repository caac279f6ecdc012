import Vaulted.Crypto.Envelope
import Vaulted.Node.Token

/-!
# Signed manifests

`manifest.rs`: the description of a vault object, signed by its owner.

* `VaultedManifest` — the format, and the JSON it is written as.
* `manifestHash`, `sign`, `verifySignature` — all of them look at the bytes without a signature.
* `IdealEd25519` — what the signature scheme promises.
* **`canonicalUnsignedBytes_inj`** — these bytes are those of one unsigned manifest.
-/

namespace Vaulted

/-! ## Ideal signatures -/

/-- What has been signed, and with which key, is all that verifies; and no signature is one of two
messages. -/
structure IdealEd25519 (ed : Ed25519) (signed : SigningKey → List UInt8 → Prop) : Prop where
  isKey : ∀ key message, signed key message →
    key.verifyingKey.length = 32 ∧ ed.isKey key.verifyingKey = true
  length : ∀ key message, signed key message → (key.sign message).length = 64
  correct : ∀ key message, signed key message →
    ed.verify key.verifyingKey message (key.sign message) = true
  unforged : ∀ publicKey message signature, ed.verify publicKey message signature = true →
    ∃ key, signed key message ∧ key.verifyingKey = publicKey ∧ key.sign message = signature
  distinct : ∀ key key' message message', signed key message → signed key' message' →
    key.verifyingKey = key'.verifyingKey → key.sign message = key'.sign message' →
    message = message'

/-- A signature verifies for one message. -/
lemma IdealEd25519.eq_of_verify {ed : Ed25519} {signed : SigningKey → List UInt8 → Prop}
    (h : IdealEd25519 ed signed) {publicKey message message' signature : List UInt8}
    (hverify : ed.verify publicKey message signature = true)
    (hverify' : ed.verify publicKey message' signature = true) : message = message' := by
  obtain ⟨key, hsigned, hkey, hsign⟩ := h.unforged _ _ _ hverify
  obtain ⟨key', hsigned', hkey', hsign'⟩ := h.unforged _ _ _ hverify'
  exact h.distinct key key' message message' hsigned hsigned' (hkey.trans hkey'.symm)
    (hsign.trans hsign'.symm)

namespace Manifest

/-! ## The format -/

structure ManifestFragment where
  index : UInt32
  storageKey : String
  encryptedFragmentHash : String
  size : UInt64
  nonce : Option String
  deriving DecidableEq

structure ManifestNftRef where
  chain : String
  tokenId : Option String
  uri : Option String
  deriving DecidableEq

structure ManifestSignature where
  alg : String
  signer : String
  value : String
  deriving DecidableEq

structure VaultedManifest where
  protocol : String
  vaultObjectId : String
  ownerIdentityId : String
  ownerSigningPublicKey : String
  createdAt : String
  manifestVersion : UInt64
  cipher : String
  metadataEncrypted : String
  fragments : List ManifestFragment
  keyEnvelopes : List KeyEnvelope
  nft : Option ManifestNftRef
  signature : Option ManifestSignature

def ManifestFragment.toJson (f : ManifestFragment) : Json :=
  .Obj ([("index", .Num (.Nat f.index.toNat)), ("storage_key", .Str f.storageKey),
      ("encrypted_fragment_hash", .Str f.encryptedFragmentHash),
      ("size", .Num (.Nat f.size.toNat))]
    ++ skipNone "nonce" f.nonce)

def ManifestNftRef.toJson (r : ManifestNftRef) : Json :=
  .Obj ([("chain", .Str r.chain)] ++ skipNone "token_id" r.tokenId ++ skipNone "uri" r.uri)

def ManifestSignature.toJson (s : ManifestSignature) : Json :=
  .Obj [("alg", .Str s.alg), ("signer", .Str s.signer), ("value", .Str s.value)]

namespace VaultedManifest

def toJson (m : VaultedManifest) : Json :=
  .Obj ([("protocol", .Str m.protocol), ("vault_object_id", .Str m.vaultObjectId),
      ("owner_identity_id", .Str m.ownerIdentityId),
      ("owner_signing_public_key", .Str m.ownerSigningPublicKey),
      ("created_at", .Str m.createdAt), ("manifest_version", .Num (.Nat m.manifestVersion.toNat)),
      ("cipher", .Str m.cipher), ("metadata_encrypted", .Str m.metadataEncrypted),
      ("fragments", .Arr (m.fragments.map ManifestFragment.toJson)),
      ("key_envelopes", .Arr (m.keyEnvelopes.map KeyEnvelope.toJson))]
    ++ (m.nft.map fun r => ("nft", r.toJson)).toList
    ++ (m.signature.map fun s => ("signature", s.toJson)).toList)

/-- `clone.signature = None`. -/
def unsigned (m : VaultedManifest) : VaultedManifest := { m with signature := none }

section

variable (codec : TextCodec)

def canonicalUnsignedBytes (m : VaultedManifest) : List UInt8 :=
  Text.utf8 (codec.jsonToString m.unsigned.toJson)

def manifestHash (sha256 : List UInt8 → List UInt8) (m : VaultedManifest) : String :=
  "sha256:" ++ Text.hexEncode (sha256 (m.canonicalUnsignedBytes codec))

def sign (key : SigningKey) (m : VaultedManifest) : VaultedManifest :=
  { m with
    signature := some
      { alg := "ed25519"
        signer := Text.hexEncode key.verifyingKey
        value := codec.base64Encode (key.sign (m.canonicalUnsignedBytes codec)) } }

/-- `map_err(|_| CryptoError::SignatureVerification)`. -/
def verified {ε α : Type} (r : Except ε α) : Except CryptoError α :=
  Pre.mapErr (fun _ => .SignatureVerification) r

/-- Go on if `b` holds. -/
def requireVerified (b : Bool) : Except CryptoError Unit :=
  if b then .ok () else .error .SignatureVerification

def verifySignature (ed : Ed25519) (m : VaultedManifest) : Except CryptoError Unit := do
  let signature ← m.signature.elim (.error .SignatureVerification) .ok
  requireVerified (!(decide (signature.alg ≠ "ed25519")
    || decide (signature.signer ≠ m.ownerSigningPublicKey)))
  let pubBytes ← verified (Text.hexDecode signature.signer)
  requireVerified (decide (pubBytes.length = 32))
  requireVerified (ed.isKey pubBytes)
  let sigBytes ← verified (codec.base64Decode signature.value)
  requireVerified (decide (sigBytes.length = 64))
  requireVerified (ed.verify pubBytes (m.canonicalUnsignedBytes codec) sigBytes)

end

end VaultedManifest

/-! ## One text for one manifest -/

lemma fragment_toJson_inj : Function.Injective ManifestFragment.toJson := by
  rintro ⟨index, storageKey, hash, size, nonce⟩ ⟨index', storageKey', hash', size', nonce'⟩ h
  cases nonce <;> cases nonce' <;>
    simp_all [ManifestFragment.toJson, skipNone, UInt32.toNat_inj, UInt64.toNat_inj]

lemma nftRef_toJson_inj : Function.Injective ManifestNftRef.toJson := by
  rintro ⟨chain, tokenId, uri⟩ ⟨chain', tokenId', uri'⟩ h
  cases tokenId <;> cases tokenId' <;> cases uri <;> cases uri' <;>
    simp_all [ManifestNftRef.toJson, skipNone]

lemma envelope_toJson_inj : Function.Injective KeyEnvelope.toJson := by
  intro e e' h
  have hread := congrArg KeyEnvelope.ofJson h
  rw [KeyEnvelope.ofJson_toJson, KeyEnvelope.ofJson_toJson] at hread
  exact Except.ok.inj hread

/-- The members of a manifest are those of one manifest. -/
lemma unsigned_eq_of_toJson {m m' : VaultedManifest} (h : m.unsigned.toJson = m'.unsigned.toJson) :
    m.unsigned = m'.unsigned := by
  have hfragments := List.map_injective_iff.mpr fragment_toJson_inj
  have henvelopes := List.map_injective_iff.mpr envelope_toJson_inj
  obtain ⟨protocol, vaultObjectId, ownerIdentityId, ownerKey, createdAt, version, cipher, metadata,
    fragments, envelopes, nft, signature⟩ := m
  obtain ⟨protocol', vaultObjectId', ownerIdentityId', ownerKey', createdAt', version', cipher',
    metadata', fragments', envelopes', nft', signature'⟩ := m'
  cases nft <;> cases nft' <;>
    simp_all [VaultedManifest.unsigned, VaultedManifest.toJson, UInt64.toNat_inj,
      hfragments.eq_iff, henvelopes.eq_iff, nftRef_toJson_inj.eq_iff]

lemma plain_skip {name : String} {value : Option String} {m : String × Json}
    (h : m ∈ skipNone name value) : m.2.Plain := Node.plain_skipNone h

lemma depth_skip {name : String} {value : Option String} {m : String × Json}
    (h : m ∈ skipNone name value) : m.2.depth ≤ 1 := Node.depth_skipNone h

lemma plain_fragment (f : ManifestFragment) : f.toJson.Plain := by
  refine .Obj _ fun m hm => ?_
  simp only [List.mem_append, List.mem_cons, List.not_mem_nil, or_false] at hm
  rcases hm with (rfl | rfl | rfl | rfl) | h
  · exact .Num _ (lt_trans f.index.toNat_lt (by decide))
  · exact .Str _
  · exact .Str _
  · exact .Num _ f.size.toNat_lt
  · exact plain_skip h

lemma depth_fragment (f : ManifestFragment) : f.toJson.depth ≤ 2 := by
  refine Json.depth_obj.mpr fun m hm => ?_
  simp only [List.mem_append, List.mem_cons, List.not_mem_nil, or_false] at hm
  rcases hm with (rfl | rfl | rfl | rfl) | h
  any_goals exact Nat.zero_le 1
  exact depth_skip h

lemma plain_nftRef (r : ManifestNftRef) : r.toJson.Plain := by
  refine .Obj _ fun m hm => ?_
  simp only [List.mem_append, List.mem_cons, List.not_mem_nil, or_false] at hm
  rcases hm with (rfl | h) | h
  · exact .Str _
  · exact plain_skip h
  · exact plain_skip h

lemma depth_nftRef (r : ManifestNftRef) : r.toJson.depth ≤ 2 := by
  refine Json.depth_obj.mpr fun m hm => ?_
  simp only [List.mem_append, List.mem_cons, List.not_mem_nil, or_false] at hm
  rcases hm with (rfl | h) | h
  · exact Nat.zero_le 1
  · exact depth_skip h
  · exact depth_skip h

lemma plain_envelope (e : KeyEnvelope) : e.toJson.Plain := by
  refine .Obj _ fun m hm => ?_
  simp only [List.mem_cons, List.not_mem_nil, or_false] at hm
  rcases hm with rfl | rfl | rfl | rfl | rfl | rfl | rfl <;> exact .Str _

lemma depth_envelope (e : KeyEnvelope) : e.toJson.depth ≤ 2 := by
  refine Json.depth_obj.mpr fun m hm => ?_
  simp only [List.mem_cons, List.not_mem_nil, or_false] at hm
  rcases hm with rfl | rfl | rfl | rfl | rfl | rfl | rfl <;> exact Nat.zero_le 1

lemma plain_unsigned (m : VaultedManifest) : m.unsigned.toJson.Plain := by
  refine .Obj _ fun member hm => ?_
  simp only [VaultedManifest.unsigned, List.mem_append, List.mem_cons, List.not_mem_nil, or_false,
    Option.map_none, Option.toList_none] at hm
  rcases hm with (rfl | rfl | rfl | rfl | rfl | rfl | rfl | rfl | rfl | rfl) | h
  · exact .Str _
  · exact .Str _
  · exact .Str _
  · exact .Str _
  · exact .Str _
  · exact .Num _ m.manifestVersion.toNat_lt
  · exact .Str _
  · exact .Str _
  · refine .Arr _ fun j hj => ?_
    obtain ⟨f, -, rfl⟩ := List.mem_map.mp hj
    exact plain_fragment f
  · refine .Arr _ fun j hj => ?_
    obtain ⟨e, -, rfl⟩ := List.mem_map.mp hj
    exact plain_envelope e
  · cases hnft : m.nft with
    | none =>
        rw [hnft] at h
        cases h
    | some r =>
        rw [hnft] at h
        rw [List.mem_singleton.mp h]
        exact plain_nftRef r

/-- A manifest is four levels deep: its lists have records in them. -/
lemma depth_unsigned (m : VaultedManifest) : m.unsigned.toJson.depth ≤ 127 := by
  refine Json.depth_obj.mpr fun member hm => ?_
  simp only [VaultedManifest.unsigned, List.mem_append, List.mem_cons, List.not_mem_nil, or_false,
    Option.map_none, Option.toList_none] at hm
  rcases hm with (rfl | rfl | rfl | rfl | rfl | rfl | rfl | rfl | rfl | rfl) | h
  any_goals exact Nat.zero_le 126
  · refine Json.depth_arr.mpr fun j hj => ?_
    obtain ⟨f, -, rfl⟩ := List.mem_map.mp hj
    exact (depth_fragment f).trans (by decide)
  · refine Json.depth_arr.mpr fun j hj => ?_
    obtain ⟨e, -, rfl⟩ := List.mem_map.mp hj
    exact (depth_envelope e).trans (by decide)
  · cases hnft : m.nft with
    | none =>
        rw [hnft] at h
        cases h
    | some r =>
        rw [hnft] at h
        rw [List.mem_singleton.mp h]
        exact (depth_nftRef r).trans (by decide)

/-- **The bytes that are signed are those of one unsigned manifest.** -/
theorem canonicalUnsignedBytes_inj {codec : TextCodec} (hcodec : codec.Lawful)
    {m m' : VaultedManifest}
    (h : m.canonicalUnsignedBytes codec = m'.canonicalUnsignedBytes codec) :
    m.unsigned = m'.unsigned := by
  have hread := congrArg codec.jsonFromStr (Text.utf8_injective h)
  rw [hcodec.json _ (plain_unsigned m) (depth_unsigned m),
    hcodec.json _ (plain_unsigned m') (depth_unsigned m')] at hread
  exact unsigned_eq_of_toJson (Except.ok.inj hread)

/-! ## Signing and verifying -/

namespace VaultedManifest

variable {codec : TextCodec} {ed : Ed25519} {key : SigningKey} {m : VaultedManifest}

/-- A signature is no part of what is signed. -/
@[simp] lemma canonicalUnsignedBytes_sign :
    (m.sign codec key).canonicalUnsignedBytes codec = m.canonicalUnsignedBytes codec := rfl

lemma requireVerified_eq_ok {b : Bool} {r : Unit} :
    requireVerified b = .ok r ↔ b = true := by
  cases b <;> simp [requireVerified]

lemma verified_eq_ok {ε α : Type} {r : Except ε α} {a : α} : verified r = .ok a ↔ r = .ok a :=
  Pre.mapErr_eq_ok_iff

/-- The checks of a signature, and the error of each. -/
lemma verifySignature_eq_ok : m.verifySignature codec ed = .ok () ↔
    ∃ signature pubBytes sigBytes, m.signature = some signature ∧ signature.alg = "ed25519"
      ∧ signature.signer = m.ownerSigningPublicKey ∧ Text.hexDecode signature.signer = .ok pubBytes
      ∧ pubBytes.length = 32 ∧ ed.isKey pubBytes = true
      ∧ codec.base64Decode signature.value = .ok sigBytes ∧ sigBytes.length = 64
      ∧ ed.verify pubBytes (m.canonicalUnsignedBytes codec) sigBytes = true := by
  simp only [verifySignature, Checks.bind_eq_ok_iff, requireVerified_eq_ok, verified_eq_ok]
  constructor
  · rintro ⟨signature, hsignature, _, hbound, pubBytes, hpub, _, hlen, _, hkey, sigBytes, hsig, _,
      hsigLen, hverify⟩
    have hsome : m.signature = some signature := by
      cases hm : m.signature with
      | none =>
          rw [hm] at hsignature
          cases hsignature
      | some s =>
          rw [hm] at hsignature
          exact congrArg some (Except.ok.inj hsignature)
    have hbound : signature.alg = "ed25519" ∧ signature.signer = m.ownerSigningPublicKey := by
      simpa using hbound
    exact ⟨signature, pubBytes, sigBytes, hsome, hbound.1, hbound.2, hpub, of_decide_eq_true hlen,
      hkey, hsig, of_decide_eq_true hsigLen, hverify⟩
  · rintro ⟨signature, pubBytes, sigBytes, hsome, halg, hsigner, hpub, hlen, hkey, hsig, hsigLen,
      hverify⟩
    exact ⟨signature, by rw [hsome]; rfl, (), by simp [halg, hsigner], pubBytes, hpub, (),
      decide_eq_true hlen, (), hkey, sigBytes, hsig, (), decide_eq_true hsigLen, hverify⟩

lemma requireVerified_eq_error {b : Bool} {e : CryptoError} (h : requireVerified b = .error e) :
    e = .SignatureVerification := by
  cases b with
  | false => exact (Except.error.inj h).symm
  | true => cases h

lemma verified_eq_error {ε α : Type} {r : Except ε α} {e : CryptoError}
    (h : verified r = .error e) : e = .SignatureVerification := (Pre.mapErr_eq_error h).choose_spec

/-- Every refusal is one and the same. -/
lemma verifySignature_eq_error {e : CryptoError} (h : m.verifySignature codec ed = .error e) :
    e = .SignatureVerification := by
  rcases bind_eq_error h with hsignature | ⟨signature, -, h⟩
  · cases hm : m.signature with
    | none =>
        rw [hm] at hsignature
        exact (Except.error.inj hsignature).symm
    | some s =>
        rw [hm] at hsignature
        cases hsignature
  rcases bind_eq_error h with hbound | ⟨_, -, h⟩
  · exact requireVerified_eq_error hbound
  rcases bind_eq_error h with hpub | ⟨pubBytes, -, h⟩
  · exact verified_eq_error hpub
  rcases bind_eq_error h with hlen | ⟨_, -, h⟩
  · exact requireVerified_eq_error hlen
  rcases bind_eq_error h with hkey | ⟨_, -, h⟩
  · exact requireVerified_eq_error hkey
  rcases bind_eq_error h with hsig | ⟨sigBytes, -, h⟩
  · exact verified_eq_error hsig
  rcases bind_eq_error h with hsigLen | ⟨_, -, h⟩
  · exact requireVerified_eq_error hsigLen
  · exact requireVerified_eq_error h

end VaultedManifest

end Manifest

end Vaulted
