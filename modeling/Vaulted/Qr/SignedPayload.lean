import Vaulted.Crypto.QrPayload

/-!
# What the signature of a QR payload covers

* `SignedPayloads` — what was signed is read back, what is read was signed, and one signature is
  one of one body; the id of the signer is no part of it.
* **`signedPayloads`** — so it is for all payloads, if signatures are ideal.
* `not_signedPayloads` — with another id a payload is still accepted; and two bodies that pass
  validation are refused once they are signed.
-/

namespace Vaulted.QrPayload

open VaultedQrPayloadBody VaultedSignedQrPayload

/-- What holds of all payloads. -/
structure SignedPayloads (c : EnvelopeCrypto) (codec : TextCodec) (ed : Ed25519)
    (exact : String → Prop) (signed : SigningKey → List UInt8 → Prop) : Prop where
  /-- A payload that was signed is read back. -/
  roundTrip : ∀ (identity : SigningIdentity) (body : VaultedQrPayloadBody),
    body.validate = .ok () → body.Readable exact →
    (∀ bytes, body.canonicalSigningBytes codec = .ok bytes → signed identity.signingKey bytes) →
    ∃ p, sign c codec body identity = .ok p ∧ p.body = body
      ∧ fromQrJsonVerified codec ed (p.toQrJson codec) = .ok p
  /-- What is read is complete, and was signed with the key that it names. -/
  accepted : ∀ input p, fromQrJsonVerified codec ed input = .ok p → Complete p.body
    ∧ ∃ key bytes, p.body.canonicalSigningBytes codec = .ok bytes ∧ signed key bytes
      ∧ Text.hexDecode p.signerPublicKey = .ok key.verifyingKey
      ∧ Text.hexDecode p.signature = .ok (key.sign bytes)
      ∧ ed.verify key.verifyingKey bytes (key.sign bytes) = true
  /-- A signature is one of one body. -/
  bound : ∀ input input' p p', fromQrJsonVerified codec ed input = .ok p →
    fromQrJsonVerified codec ed input' = .ok p' → p'.signerPublicKey = p.signerPublicKey →
    p'.signature = p.signature → p'.body = p.body
  /-- It is not one of the signer's id. -/
  unbound : ∀ (p : VaultedSignedQrPayload) signerIdentityId, p.verify codec ed = .ok () →
    VaultedSignedQrPayload.verify codec ed { p with signerIdentityId } = .ok ()

section

variable {c : EnvelopeCrypto} {codec : TextCodec} {ed : Ed25519} {exact : String → Prop}
  {signed : SigningKey → List UInt8 → Prop}

/-- A payload that verifies is read from its own text. -/
lemma read_toQrJson (hreads : codec.ReadsExact exact) {p : VaultedSignedQrPayload}
    (hbody : p.body.Readable exact) (hverify : p.verify codec ed = .ok ()) :
    fromQrJsonVerified codec ed (p.toQrJson codec) = .ok p := by
  refine fromQrJsonVerified_eq_ok_iff.mpr ⟨p.toJson,
    hreads _ (VaultedSignedQrPayload.exact_toJson fun v hv => (hbody v hv).2.1)
      (VaultedSignedQrPayload.depth_toJson fun v hv => (hbody v hv).2.2), ?_, hverify⟩
  rw [VaultedSignedQrPayload.ofJson_toJson, withoutNull_of_readable hbody]

/-- What was signed verifies. -/
lemma verify_sign (hideal : IdealEd25519 ed signed) {identity : SigningIdentity}
    {body : VaultedQrPayloadBody} {bytes : List UInt8}
    (hbytes : body.canonicalSigningBytes codec = .ok bytes)
    (hsigned : signed identity.signingKey bytes) {signerIdentityId : String} :
    VaultedSignedQrPayload.verify codec ed
      { body, signerIdentityId
        signerPublicKey := Text.hexEncode identity.signingKey.verifyingKey
        signature := Text.hexEncode (identity.signingKey.sign bytes) } = .ok () := by
  obtain ⟨hlength, hkey⟩ := hideal.isKey _ _ hsigned
  exact verify_eq_ok_iff.mpr ⟨_, _, bytes, Text.hexDecode_hexEncode _, hlength, hkey,
    Text.hexDecode_hexEncode _, hideal.length _ _ hsigned, hbytes, hideal.correct _ _ hsigned⟩

end

/-- **A QR payload is read as it was signed**, and everything in its body was signed. The id of the
signer's identity stands beside the body, and is not part of what is signed. -/
theorem signedPayloads {c : EnvelopeCrypto} {codec : TextCodec} {exact : String → Prop}
    (hreads : codec.ReadsExact exact) (hone : codec.OneText) {ed : Ed25519}
    {signed : SigningKey → List UInt8 → Prop} (hideal : IdealEd25519 ed signed) :
    SignedPayloads c codec ed exact signed where
  roundTrip identity body hvalid hbody hsigned := by
    have hbytes : body.canonicalSigningBytes codec = .ok _ :=
      canonicalSigningBytes_eq_ok_iff.mpr ⟨validate_eq_ok_iff.mp hvalid, rfl⟩
    exact ⟨_, sign_eq_ok hbytes, rfl,
      read_toQrJson hreads hbody (verify_sign hideal hbytes (hsigned _ hbytes))⟩
  accepted input p h := by
    obtain ⟨_, -, -, hverify⟩ := fromQrJsonVerified_eq_ok_iff.mp h
    obtain ⟨publicKey, signature, bytes, hkey, -, -, hsignature, -, hbytes, hcorrect⟩ :=
      verify_eq_ok_iff.mp hverify
    obtain ⟨key, hsigned, rfl, rfl⟩ := hideal.unforged _ _ _ hcorrect
    exact ⟨(canonicalSigningBytes_eq_ok_iff.mp hbytes).1, key, bytes, hbytes, hsigned, hkey,
      hsignature, hcorrect⟩
  bound input input' p p' h h' hkey hsignature := by
    obtain ⟨_, -, hread, hverify⟩ := fromQrJsonVerified_eq_ok_iff.mp h
    obtain ⟨_, -, hread', hverify'⟩ := fromQrJsonVerified_eq_ok_iff.mp h'
    obtain ⟨key, sig, bytes, hdecode, -, -, hsig, -, hbytes, hcorrect⟩ :=
      verify_eq_ok_iff.mp hverify
    obtain ⟨key', sig', bytes', hdecode', -, -, hsig', -, hbytes', hcorrect'⟩ :=
      verify_eq_ok_iff.mp hverify'
    rw [hkey, hdecode] at hdecode'
    rw [hsignature, hsig] at hsig'
    obtain rfl := Except.ok.inj hdecode'
    obtain rfl := Except.ok.inj hsig'
    obtain rfl := hideal.eq_of_verify hcorrect hcorrect'
    -- read bodies are as they were written
    rw [← VaultedSignedQrPayload.withoutNull_of_ofJson hread,
      ← VaultedSignedQrPayload.withoutNull_of_ofJson hread']
    exact canonicalSigningBytes_inj hone hbytes' hbytes
  unbound p signerIdentityId h := h

/-! ## Three payloads -/

namespace Sample

/-- The compact text of JSON, with a limit to how deep values may be nested. -/
def codec : TextCodec :=
  { JsonText.compact with
    jsonFromStr := fun s => do
      let j ← JsonText.compact.jsonFromStr s
      if j.depth ≤ 127 then .ok j else .error "recursion limit exceeded" }

lemma codec_readsExact : codec.ReadsExact fun _ => False := fun j hj hdepth =>
  Checks.bind_eq_ok_iff.mpr
    ⟨j, JsonText.compact_readsIntegers j hj.integral hdepth, if_pos hdepth⟩

lemma codec_oneText : codec.OneText := JsonText.compact_oneText

def login : VaultedQrPayloadBody where
  protocol := vaultedQrProtocol
  intent := .Login
  requestId := "login-1"
  challenge := "challenge-1"
  oracleUrl := "https://oracle.example"
  expiresAt := "2026-05-13T12:00:00Z"
  identityId := none
  requesterDeviceId := none
  requesterDeviceName := none
  devicePublicKey := none
  xrplTxJson := none
  expectedXrplAccount := none
  vaultObjectId := none
  grantId := none
  recipientIdentityId := none
  permissions := none
  humanSummary := none

def transaction (tx : Json.HeldValue) : VaultedQrPayloadBody :=
  { login with
    intent := .SignXrplTransaction, xrplTxJson := some tx, expectedXrplAccount := some "rEXAMPLE" }

def nested : ℕ → Json
  | 0 => .Null
  | n + 1 => .Arr [nested n]

lemma nested_held (n : ℕ) : (nested n).Held := by
  induction n with
  | zero => rfl
  | succ n ih => exact congrArg (Option.map Json.Arr) (Json.holdItems_of_held (by simpa using ih))

lemma nested_depth (n : ℕ) : (nested n).depth = n := by
  induction n with
  | zero => rfl
  | succ n ih => simp [nested, Json.depth, Json.depthItems, ih]

lemma nested_exact (n : ℕ) : (nested n).Exact fun _ => False := by
  induction n with
  | zero => exact .Null
  | succ n ih => exact .Arr _ (by simpa using ih)

def nullTransaction : VaultedQrPayloadBody := transaction ⟨.Null, rfl⟩

def deepTransaction : VaultedQrPayloadBody := transaction ⟨nested 126, nested_held 126⟩

def bytes (body : VaultedQrPayloadBody) : List UInt8 :=
  Text.utf8 "Vaulted QR Payload v1\n" ++ Text.utf8 (codec.jsonToString body.toJson)

def messages : List (List UInt8) := [bytes login, bytes nullTransaction, bytes deepTransaction]

/-- One signature for each of three messages. -/
def key : SigningKey where
  verifyingKey := List.replicate 32 7
  sign message := List.replicate 64
    (if message = bytes login then 1 else if message = bytes nullTransaction then 2 else 3)

def signed (k : SigningKey) (message : List UInt8) : Prop := k = key ∧ message ∈ messages

def ed : Ed25519 where
  isKey _ := true
  verify publicKey message signature := decide (publicKey = key.verifyingKey)
    && decide (message ∈ messages) && decide (signature = key.sign message)

lemma sign_inj {message message' : List UInt8} (h : message ∈ messages) (h' : message' ∈ messages)
    (hsame : key.sign message = key.sign message') : message = message' := by
  have hlast := (List.replicate_inj.mp hsame).2.resolve_left (by decide)
  simp only [messages, List.mem_cons, List.not_mem_nil, or_false] at h h'
  split_ifs at hlast <;> simp_all

lemma ideal : IdealEd25519 ed signed where
  isKey := by
    rintro k message ⟨rfl, -⟩
    exact ⟨rfl, rfl⟩
  length := by
    rintro k message ⟨rfl, -⟩
    exact List.length_replicate
  correct := by
    rintro k message ⟨rfl, hmem⟩
    simp [ed, hmem]
  unforged := by
    intro publicKey message signature hverify
    simp only [ed, Bool.and_eq_true, decide_eq_true_eq] at hverify
    obtain ⟨⟨hkey, hmem⟩, hsign⟩ := hverify
    exact ⟨key, ⟨rfl, hmem⟩, hkey.symm, hsign.symm⟩
  distinct := by
    rintro k k' message message' ⟨rfl, hmem⟩ ⟨rfl, hmem'⟩ - hsame
    exact sign_inj hmem hmem' hsame

def crypto : EnvelopeCrypto where
  publicKey := id
  diffieHellman secret _ := secret
  hkdf _ ikm _ := ikm
  encrypt _ _ _ msg := msg
  decrypt _ _ _ _ := none
  sha256 bytes := bytes.take 32

def identity : SigningIdentity := ⟨key, List.replicate 32 9⟩

lemma complete_login : Complete login where
  protocol := rfl
  requestId := by decide +kernel
  challenge := by decide +kernel
  oracleUrl := by decide +kernel
  expiresAt := by decide +kernel
  pairDevice h := by cases h
  signXrplTransaction h := by cases h
  approveFileGrant h := by cases h

lemma complete_transaction (tx : Json.HeldValue) : Complete (transaction tx) :=
  { complete_login with
    pairDevice := fun h => by cases h
    signXrplTransaction := fun _ => ⟨rfl, rfl⟩
    approveFileGrant := fun h => by cases h }

lemma canonicalSigningBytes_of_complete {body : VaultedQrPayloadBody} (h : Complete body) :
    body.canonicalSigningBytes codec = .ok (bytes body) :=
  canonicalSigningBytes_eq_ok_iff.mpr ⟨h, rfl⟩

lemma readable_login : login.Readable fun _ => False := by
  rintro v ⟨⟩

/-- A login is read as it was signed. -/
theorem signedPayloads_login : ∃ p, sign crypto codec login identity = .ok p ∧ p.body = login
    ∧ fromQrJsonVerified codec ed (p.toQrJson codec) = .ok p :=
  (signedPayloads codec_readsExact codec_oneText ideal).roundTrip identity login
    (validate_eq_ok_iff.mpr complete_login) readable_login fun _ hbytes => by
      obtain rfl := Except.ok.inj (hbytes.symm.trans
        (canonicalSigningBytes_of_complete complete_login))
      exact ⟨rfl, List.mem_cons_self⟩

/-- A payload that the identity has signed, under some id. -/
def payload (body : VaultedQrPayloadBody) (signerIdentityId : String) : VaultedSignedQrPayload where
  body
  signerIdentityId
  signerPublicKey := Text.hexEncode identity.signingKey.verifyingKey
  signature := Text.hexEncode (identity.signingKey.sign (bytes body))

/-- The login is read under any id. -/
lemma read_login (signerIdentityId : String) :
    fromQrJsonVerified codec ed ((payload login signerIdentityId).toQrJson codec)
      = .ok (payload login signerIdentityId) :=
  read_toQrJson codec_readsExact readable_login
    (verify_sign ideal (canonicalSigningBytes_of_complete complete_login)
      ⟨rfl, List.mem_cons_self⟩)

/-- A transaction that is null is missing to a reader. -/
lemma not_read_null (signerIdentityId : String) (p : VaultedSignedQrPayload) :
    fromQrJsonVerified codec ed ((payload nullTransaction signerIdentityId).toQrJson codec)
      ≠ .ok p := by
  intro h
  obtain ⟨j, hj, hread, hverify⟩ := fromQrJsonVerified_eq_ok_iff.mp h
  have hself := codec_readsExact (payload nullTransaction signerIdentityId).toJson
    (VaultedSignedQrPayload.exact_toJson (by rintro v ⟨⟩; exact .Null))
    (VaultedSignedQrPayload.depth_toJson (by rintro v ⟨⟩; exact Nat.zero_le _))
  obtain rfl := Except.ok.inj (hj.symm.trans hself)
  rw [VaultedSignedQrPayload.ofJson_toJson] at hread
  obtain rfl := Except.ok.inj hread
  obtain ⟨_, _, _, -, -, -, -, -, hbytes, -⟩ := verify_eq_ok_iff.mp hverify
  have hcomplete := (canonicalSigningBytes_eq_ok_iff.mp hbytes).1
  exact Bool.false_ne_true (hcomplete.signXrplTransaction rfl).1

/-- A transaction that is nested this deep is nested too deep within a payload. -/
lemma not_read_deep (signerIdentityId : String) (p : VaultedSignedQrPayload) :
    fromQrJsonVerified codec ed ((payload deepTransaction signerIdentityId).toQrJson codec)
      ≠ .ok p := by
  intro h
  obtain ⟨j, hj, -, -⟩ := fromQrJsonVerified_eq_ok_iff.mp h
  obtain ⟨j', hj', hlimit⟩ := Checks.bind_eq_ok_iff.mp hj
  have hexact : (payload deepTransaction signerIdentityId).toJson.Exact fun _ => False :=
    VaultedSignedQrPayload.exact_toJson (by rintro v ⟨⟩; exact nested_exact 126)
  obtain rfl := Except.ok.inj (hj'.symm.trans (JsonText.compact_reads hexact.integral))
  split_ifs at hlimit with hdepth
  -- a payload, its body, and the transaction
  have hbody := Json.depth_obj.mp hdepth ("body", deepTransaction.toJson) List.mem_cons_self
  have htx := Json.depth_obj.mp hbody ("xrplTxJson", nested 126)
    (Json.mem_present.mpr
      (by simp [VaultedQrPayloadBody.fields, deepTransaction, transaction]))
  rw [nested_depth] at htx
  omega

/-- The login is accepted with the ids of two identities; and two transactions that pass validation
are refused once they are signed. -/
theorem not_signedPayloads : IdealEd25519 ed signed
    ∧ (∀ p ∈ [payload login "alice", payload login "mallory"],
      fromQrJsonVerified codec ed (p.toQrJson codec) = .ok p)
    ∧ (payload login "alice").signerPublicKey = (payload login "mallory").signerPublicKey
    ∧ (payload login "alice").signature = (payload login "mallory").signature
    ∧ (payload login "alice").signerIdentityId ≠ (payload login "mallory").signerIdentityId
    ∧ ∀ body ∈ [nullTransaction, deepTransaction], body.validate = .ok ()
      ∧ ∃ p, sign crypto codec body identity = .ok p
        ∧ ∀ p', fromQrJsonVerified codec ed (p.toQrJson codec) ≠ .ok p' := by
  refine ⟨ideal, ?_, rfl, rfl, by decide +kernel, ?_⟩
  · rintro p hp
    rcases List.mem_pair.mp hp with rfl | rfl
    · exact read_login "alice"
    · exact read_login "mallory"
  · rintro body hbody
    have hcomplete : Complete body := by
      rcases List.mem_pair.mp hbody with rfl | rfl
      · exact complete_transaction _
      · exact complete_transaction _
    refine ⟨validate_eq_ok_iff.mpr hcomplete, _,
      sign_eq_ok (canonicalSigningBytes_of_complete hcomplete), ?_⟩
    rcases List.mem_pair.mp hbody with rfl | rfl
    · exact not_read_null _
    · exact not_read_deep _

end Sample

end Vaulted.QrPayload
