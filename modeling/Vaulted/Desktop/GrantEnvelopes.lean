import Vaulted.Desktop.TrustedRecipient
import Vaulted.Library.Labels

/-!
# Grant envelopes

`build_recipient_key_envelope` seals the file key of a grant, `open_grant_file_key` opens it.

* `Sealing` — a file key, and the vault object and the recipient that it is sealed for; `Made` —
  what the command makes of it.
* `Ideal` — the primitives, when nothing has been encrypted but a list of sealings.
* `Carries` — a grant names the vault object and the recipient of a sealing, and has its nonce and
  its ciphertext, with an ephemeral key that leads to the same secret.
* `opensWhereItBelongs` — an envelope opens for its own grant; a grant opens to what was sealed for
  it, and to nothing else.

Only the shared secret goes into the encryption, and several ephemeral keys have the same one:
X25519 ignores the top bit of a key.  So it is the secret that `Carries` compares, not the key.
-/

namespace Vaulted.GrantEnvelopes

open GrantCommands Interleaving

/-! ## Sealings -/

structure Sealing where
  rng : SealRandom
  fileKey : List UInt8
  vaultObjectId : String
  recipient : VaultedIdentityKeys
  nonceLength : rng.nonce.length = 24

namespace Sealing

variable (c : EnvelopeCrypto) (codec : TextCodec) (s : Sealing)

def aad : List UInt8 :=
  Text.utf8 (grantEnvelopeAad s.vaultObjectId (s.recipient.identityIdHex c))

def sharedSecret : List UInt8 :=
  c.diffieHellman s.rng.ephemeralSecret (s.recipient.encryptionPublicKey c)

def wrapKey : List UInt8 := deriveWrapKey c (s.sharedSecret c)

def bytes : EnvelopeBytes where
  eph := c.publicKey s.rng.ephemeralSecret
  nonce := s.rng.nonce
  ciphertext := c.encrypt (s.wrapKey c) s.rng.nonce (s.aad c) s.fileKey

def envelope : KeyEnvelope :=
  sealKeyForRecipient c codec s.rng s.fileKey (s.recipient.encryptionPublicKey c)
    (s.recipient.identityIdHex c) (recipientPublicKeyId c (s.recipient.encryptionPublicKeyHex c))
    "grant-recipient" (s.aad c)

/-- The grant that an envelope is made for. -/
def grant (keyEnvelope : Json) : GrantResponse where
  vaultObjectId := s.vaultObjectId
  recipientIdentityId := s.recipient.identityIdHex c
  keyEnvelope := keyEnvelope

end Sealing

def drawnRandom {u : Umbral} : Exchange (Answer u) → Option SealRandom
  | ⟨.DrawRandom, rng⟩ => some rng
  | _ => none

/-- The envelope that the command makes, with the key of the recipient given to it or found. -/
def Made (client : Client) (s : Sealing) (keyEnvelope : Json) : Prop :=
  ∃ (u : Umbral) (encryptedFileKey : String) (given : Option String) (d : Dialogue u),
    (∀ key ∈ given.filter isFilled, key = s.recipient.encryptionPublicKeyHex client.crypto)
      ∧ (∀ key ∈ d.filterMap foundKey, key = s.recipient.encryptionPublicKeyHex client.crypto)
      ∧ (∀ rng ∈ d.filterMap drawnRandom, rng = s.rng)
      ∧ (buildRecipientKeyEnvelope client s.vaultObjectId (s.recipient.identityIdHex client.crypto)
          encryptedFileKey (some (client.codec.base64Encode s.fileKey)) given
          fun keyEnvelope => .Done (.ok keyEnvelope)).Ends d (.ok keyEnvelope)

/-! ## What is expected -/

/-- An envelope opens for its own grant. -/
def RoundTrips (client : Client) (log : List Sealing) : Prop :=
  ∀ s ∈ log, ∀ keyEnvelope, Made client s keyEnvelope →
    openGrantFileKey client.crypto client.codec s.recipient (s.grant client.crypto keyEnvelope)
      = .ok s.fileKey

/-- Two envelopes differ in a field that goes into the encryption. -/
def Differ (keyEnvelope keyEnvelope' : Json) : Prop :=
  ∃ e e', KeyEnvelope.ofJson keyEnvelope = .ok e ∧ KeyEnvelope.ofJson keyEnvelope' = .ok e'
    ∧ (e.ephemeralPublicKey ≠ e'.ephemeralPublicKey ∨ e.nonce ≠ e'.nonce
      ∨ e.encryptedFileKey ≠ e'.encryptedFileKey)

/-- A grant has another envelope, or the same one for another vault object or recipient. -/
def Transplanted (c : EnvelopeCrypto) (s : Sealing) (keyEnvelope : Json) (grant : GrantResponse) :
    Prop :=
  Differ grant.keyEnvelope keyEnvelope ∨ grant.keyEnvelope = keyEnvelope
    ∧ (grant.vaultObjectId ≠ s.vaultObjectId
      ∨ grant.recipientIdentityId ≠ s.recipient.identityIdHex c)

/-- The envelope of one sealing opens nowhere else. -/
def Rejects (client : Client) (s : Sealing) : Prop :=
  ∀ keyEnvelope, Made client s keyEnvelope → ∀ identity grant fileKey,
    Transplanted client.crypto s keyEnvelope grant →
      openGrantFileKey client.crypto client.codec identity grant ≠ .ok fileKey

/-- A grant opens only with the very bytes of a sealing. -/
def KeepsBytes (client : Client) (log : List Sealing) : Prop :=
  ∀ identity grant fileKey e b,
    openGrantFileKey client.crypto client.codec identity grant = .ok fileKey →
    KeyEnvelope.ofJson grant.keyEnvelope = .ok e → e.Reads client.codec b →
    ∃ s ∈ log, b = s.bytes client.crypto

/-! ## What holds -/

/-- X25519, HKDF and XChaCha20-Poly1305, when only the sealings of a log have been encrypted. Nothing
is asked of keys that share a secret; a wrapping key of the log comes from its own secret only; and
the same nonce and ciphertext are not made for different associated data. -/
structure Ideal (c : EnvelopeCrypto) (log : List Sealing) : Prop where
  keyLength : ∀ secret, (c.publicKey secret).length = 32
  agrees : ∀ secret secret', c.diffieHellman secret (c.publicKey secret')
    = c.diffieHellman secret' (c.publicKey secret)
  derives : ∀ s ∈ log, ∀ secret, deriveWrapKey c secret = s.wrapKey c → secret = s.sharedSecret c
  binds : ∀ s ∈ log, ∀ s' ∈ log, s.rng.nonce = s'.rng.nonce →
    (s.bytes c).ciphertext = (s'.bytes c).ciphertext → s.aad c = s'.aad c
  decrypts : ∀ key nonce aad ciphertext msg, c.decrypt key nonce aad ciphertext = some msg
    ↔ ∃ s ∈ log, s.wrapKey c = key ∧ s.rng.nonce = nonce ∧ s.aad c = aad
      ∧ (s.bytes c).ciphertext = ciphertext ∧ s.fileKey = msg

/-- An identity gets to the secret of a sealing with the bytes of an envelope, and they have its nonce
and its ciphertext. -/
structure Matches (c : EnvelopeCrypto) (s : Sealing) (identity : VaultedIdentityKeys)
    (b : EnvelopeBytes) : Prop where
  secret : c.diffieHellman identity.encryptionPrivate b.eph = s.sharedSecret c
  nonce : b.nonce = s.rng.nonce
  ciphertext : b.ciphertext = (s.bytes c).ciphertext

/-- A grant is addressed to an identity, and is about what a sealing was made for. Of the envelope
it is asked what the identity reads in it, not how it is written. -/
structure Carries (c : EnvelopeCrypto) (codec : TextCodec) (s : Sealing)
    (identity : VaultedIdentityKeys) (grant : GrantResponse) : Prop where
  vaultObjectId : grant.vaultObjectId = s.vaultObjectId
  recipient : grant.recipientIdentityId = s.recipient.identityIdHex c
  addressed : grant.recipientIdentityId = identity.identityIdHex c
  envelope : ∃ e b, KeyEnvelope.ofJson grant.keyEnvelope = .ok e
    ∧ e.recipientIdentityId = grant.recipientIdentityId ∧ e.Reads codec b ∧ Matches c s identity b

/-! ### Opening -/

section Opening

variable {c : EnvelopeCrypto} {codec : TextCodec} {log : List Sealing}

lemma openGrantFileKey_eq_ok_iff {identity : VaultedIdentityKeys} {grant : GrantResponse}
    {fileKey : List UInt8} :
    openGrantFileKey c codec identity grant = .ok fileKey
      ↔ grant.recipientIdentityId = identity.identityIdHex c ∧ ∃ e,
        KeyEnvelope.ofJson grant.keyEnvelope = .ok e
          ∧ e.recipientIdentityId = grant.recipientIdentityId ∧ ∃ b, e.Reads codec b
          ∧ c.decrypt (deriveWrapKey c (c.diffieHellman identity.encryptionPrivate b.eph)) b.nonce
            (Text.utf8 (grantEnvelopeAad grant.vaultObjectId grant.recipientIdentityId))
            b.ciphertext = some fileKey := by
  simp only [openGrantFileKey, Checks.ite_eq_ok_iff, Checks.bind_eq_ok_iff, Pre.mapErr_eq_ok_iff,
    openKeyEnvelope_eq_ok_iff, not_not]

lemma grantEnvelopeAad_injective {vaultObjectId vaultObjectId' recipient recipient' : String}
    (hcolon : ':' ∉ recipient.toList) (hcolon' : ':' ∉ recipient'.toList)
    (h : grantEnvelopeAad vaultObjectId recipient = grantEnvelopeAad vaultObjectId' recipient') :
    vaultObjectId = vaultObjectId' ∧ recipient = recipient' := by
  have hsep : ":".toList = [':'] := by decide
  have htext := congrArg String.toList h
  unfold grantEnvelopeAad at htext
  rw [String.toList_append, String.toList_append, String.toList_append, String.toList_append,
    String.toList_append, String.toList_append, hsep] at htext
  rw [List.append_assoc, List.append_assoc, List.append_assoc, List.append_assoc] at htext
  have hparts := List.append_cancel_left htext
  rw [List.singleton_append, List.singleton_append] at hparts
  obtain ⟨hobject, hid⟩ := Labels.last_part hcolon hcolon' hparts
  exact ⟨String.toList_inj.mp hobject, String.toList_inj.mp hid⟩

/-- An identity id has no colon, so the associated data says which vault object it is about. -/
lemma colon_not_mem (c : EnvelopeCrypto) (identity : VaultedIdentityKeys) :
    ':' ∉ (identity.identityIdHex c).toList :=
  Text.not_mem_hexEncode (by decide) _

lemma Sealing.aad_injective {s s' : Sealing} (h : s.aad c = s'.aad c) :
    s.vaultObjectId = s'.vaultObjectId
      ∧ s.recipient.identityIdHex c = s'.recipient.identityIdHex c := by
  exact grantEnvelopeAad_injective (colon_not_mem _ _) (colon_not_mem _ _)
    (Text.utf8_injective h)

variable (hideal : Ideal c log)

include hideal in
/-- **What a grant opens to.** -/
lemma openGrantFileKey_iff_carries {identity : VaultedIdentityKeys} {grant : GrantResponse}
    {fileKey : List UInt8} :
    openGrantFileKey c codec identity grant = .ok fileKey
      ↔ ∃ s ∈ log, s.fileKey = fileKey ∧ Carries c codec s identity grant := by
  rw [openGrantFileKey_eq_ok_iff]
  constructor
  · rintro ⟨haddressed, e, hread, hrecipient, b, hb, hdecrypt⟩
    obtain ⟨s, hs, hkey, hnonce, haad, hciphertext, hfileKey⟩ :=
      (hideal.decrypts _ _ _ _ _).mp hdecrypt
    rw [haddressed] at haad
    obtain ⟨hobject, hid⟩ := grantEnvelopeAad_injective (colon_not_mem _ _) (colon_not_mem _ _)
      (Text.utf8_injective haad)
    have hsecret := hideal.derives s hs _ hkey.symm
    exact ⟨s, hs, hfileKey, hobject.symm, haddressed.trans hid.symm, haddressed, e, b, hread,
      hrecipient, hb, hsecret, hnonce.symm, hciphertext.symm⟩
  · rintro ⟨s, hs, hfileKey, hcarries⟩
    obtain ⟨e, b, hread, hrecipient, hb, hmatch⟩ := hcarries.envelope
    refine ⟨hcarries.addressed, e, hread, hrecipient, b, hb,
      (hideal.decrypts _ _ _ _ _).mpr
        ⟨s, hs, ?_, hmatch.nonce.symm, ?_, hmatch.ciphertext.symm, hfileKey⟩⟩
    · rw [Sealing.wrapKey, hmatch.secret]
    · rw [Sealing.aad, hcarries.vaultObjectId, hcarries.recipient]

include hideal in
lemma reads_envelope (hbase64 : ∀ bytes, codec.base64Decode (codec.base64Encode bytes) = .ok bytes)
    (s : Sealing) : (s.envelope c codec).Reads codec (s.bytes c) where
  alg := rfl
  eph := Text.hexDecode_hexEncode _
  ephLength := hideal.keyLength _
  nonce := hbase64 _
  nonceLength := s.nonceLength
  ciphertext := hbase64 _

include hideal in
/-- Both ends agree on the secret. -/
lemma matches_bytes (s : Sealing) : Matches c s s.recipient (s.bytes c) where
  secret := hideal.agrees _ _
  nonce := rfl
  ciphertext := rfl

include hideal in
/-- Sealings with the same bytes are for the same vault object and recipient. -/
lemma Carries.same {s s' : Sealing} (hs : s ∈ log) (hs' : s' ∈ log)
    {identity : VaultedIdentityKeys} {grant : GrantResponse}
    (h : Carries c codec s identity grant) {e : KeyEnvelope}
    (hread : KeyEnvelope.ofJson grant.keyEnvelope = .ok e) (hb : e.Reads codec (s'.bytes c)) :
    grant.vaultObjectId = s'.vaultObjectId
      ∧ grant.recipientIdentityId = s'.recipient.identityIdHex c := by
  obtain ⟨e', b', hread', -, hb', hmatch⟩ := h.envelope
  obtain rfl := Except.ok.inj (hread'.symm.trans hread)
  have hnonce := Except.ok.inj (hb'.nonce.symm.trans hb.nonce)
  have hciphertext := Except.ok.inj (hb'.ciphertext.symm.trans hb.ciphertext)
  obtain ⟨hobject, hid⟩ := Sealing.aad_injective (hideal.binds s hs s' hs'
    (hmatch.nonce.symm.trans hnonce) (hmatch.ciphertext.symm.trans hciphertext))
  exact ⟨h.vaultObjectId.trans hobject, h.recipient.trans hid⟩

end Opening

/-! ### Making -/

section Making

variable {client : Client} {log : List Sealing} (hideal : Ideal client.crypto log)
  (hbase64 : ∀ bytes, client.codec.base64Decode (client.codec.base64Encode bytes) = .ok bytes)
  (htrim : ∀ bytes, Text.trim (client.codec.base64Encode bytes) = client.codec.base64Encode bytes)
  (hblank : ∀ bytes, isFilled (client.codec.base64Encode bytes) = !bytes.isEmpty)
  {s : Sealing} {keyEnvelope : Json}

include hideal in
lemma hexDecode_encryptionPublicKeyHex (identity : VaultedIdentityKeys) :
    ∃ bytes, Text.hexDecode (identity.encryptionPublicKeyHex client.crypto) = .ok bytes
      ∧ bytes.length = 32 :=
  ⟨_, Text.hexDecode_hexEncode _, hideal.keyLength _⟩

include hideal in
lemma isFilled_encryptionPublicKeyHex (identity : VaultedIdentityKeys) :
    isFilled (identity.encryptionPublicKeyHex client.crypto) = true := by
  obtain ⟨bytes, hbytes, hlength⟩ := hexDecode_encryptionPublicKeyHex hideal identity
  exact isFilled_of_fingerprint (c := client.crypto)
    (fingerprint_eq_ok_iff.mpr ⟨bytes, hbytes, hlength, rfl⟩)

include hideal hbase64 htrim in
/-- What the command seals. -/
lemma sealedEnvelope_sealing (hne : s.fileKey ≠ []) :
    sealedEnvelope client.crypto client.codec s.rng s.vaultObjectId
        (s.recipient.identityIdHex client.crypto) (client.codec.base64Encode s.fileKey)
        (s.recipient.encryptionPublicKeyHex client.crypto)
      = .ok (s.envelope client.crypto client.codec) := by
  have hdecode := hbase64 s.fileKey
  rw [← htrim] at hdecode
  have hempty : s.fileKey.isEmpty ≠ true := by simpa [List.isEmpty_iff] using hne
  have hlength := hideal.keyLength s.recipient.encryptionPrivate
  simp only [sealedEnvelope, sealKeyForRecipientHex, Checks.bind_eq_ok_iff, Pre.mapErr_eq_ok_iff,
    Checks.ite_eq_ok_iff]
  exact ⟨s.fileKey, hdecode, hempty, _, Text.hexDecode_hexEncode _, not_not.mpr hlength, rfl⟩

/-- The key with which the command goes on. -/
lemma ends_recipientKey {u : Umbral} {recipientIdentityId : String} {given : Option String}
    {P : String → Prop} {k : String → Program u Json} {d : Dialogue u}
    (h : (recipientKey recipientIdentityId given k).Ends d (.ok keyEnvelope))
    (hgiven : ∀ key ∈ given.filter isFilled, P key) (hfound : ∀ key ∈ d.filterMap foundKey, P key)
    (hrng : ∀ rng ∈ d.filterMap drawnRandom, rng = s.rng) :
    ∃ key d', P key ∧ (∀ rng ∈ d'.filterMap drawnRandom, rng = s.rng)
      ∧ (k key).Ends d' (.ok keyEnvelope) := by
  rw [recipientKey] at h
  split at h
  next key hkey => exact ⟨key, d, hgiven key hkey, hrng, h⟩
  next =>
    obtain ⟨answer, _, d', rfl, hnext⟩ := Proc.ends_exec h
    cases answer with
    | error e => cases (Proc.ends_done hnext).2
    | ok key => exact ⟨key, d', hfound key (List.mem_cons_self ..), hrng, hnext⟩

include hideal hbase64 htrim in
lemma eq_envelope_of_sealed (hne : s.fileKey ≠ []) {u : Umbral} {key : String} {d : Dialogue u}
    (hkey : key = s.recipient.encryptionPublicKeyHex client.crypto)
    (hrng : ∀ rng ∈ d.filterMap drawnRandom, rng = s.rng)
    (h : (Proc.Exec .DrawRandom fun rng _ => .check id (sealedEnvelope client.crypto client.codec rng
      s.vaultObjectId (s.recipient.identityIdHex client.crypto)
      (client.codec.base64Encode s.fileKey) key) fun e => .Done (.ok e.toJson)
        : Program u Json).Ends d (.ok keyEnvelope)) :
    keyEnvelope = (s.envelope client.crypto client.codec).toJson := by
  obtain ⟨rng, _, d', rfl, hsealing⟩ := Proc.ends_exec h
  obtain rfl := hrng rng (List.mem_cons_self ..)
  rw [hkey, sealedEnvelope_sealing hideal hbase64 htrim hne] at hsealing
  exact (Except.ok.inj (Proc.ends_done hsealing).2)

include hideal hbase64 htrim hblank in
/-- **What the command makes**, however it comes by the key. -/
lemma made_iff (hne : s.fileKey ≠ []) :
    Made client s keyEnvelope
      ↔ keyEnvelope = (s.envelope client.crypto client.codec).toJson := by
  have hfilled : isFilled (client.codec.base64Encode s.fileKey) = true := by
    simpa [hblank, List.isEmpty_iff] using hne
  constructor
  · rintro ⟨u, encryptedFileKey, given, d, hgiven, hfound, hrng, hends⟩
    rw [buildRecipientKeyEnvelope, Option.filter_some_pos hfilled] at hends
    obtain ⟨key, d', hkey, hrng', hsealing⟩ :=
      ends_recipientKey hends hgiven hfound hrng
    exact eq_envelope_of_sealed hideal hbase64 htrim hne hkey hrng' hsealing
  · rintro rfl
    have hkey := isFilled_encryptionPublicKeyHex hideal s.recipient
    refine ⟨.symbolic, "", some (s.recipient.encryptionPublicKeyHex client.crypto),
      [⟨.DrawRandom, s.rng⟩], ?_, by rintro _ ⟨⟩, ?_, ?_⟩
    · rw [Option.filter_some_pos hkey]
      exact fun _ hmem => (Option.some.inj hmem).symm
    · exact fun _ hmem => List.mem_singleton.mp hmem
    · rw [buildRecipientKeyEnvelope, Option.filter_some_pos hfilled]
      simp only [recipientKey, Option.filter_some_pos hkey]
      refine Proc.Ends.Exec (R := Answer .symbolic) (s := Statement.DrawRandom) s.rng () ?_
      rw [sealedEnvelope_sealing hideal hbase64 htrim hne]
      exact .Done _

/-- An empty file key is not sealed at all. -/
lemma made_legacy (hblank : ∀ bytes, isFilled (client.codec.base64Encode bytes) = !bytes.isEmpty)
    (hnil : s.fileKey = []) :
    Made client s (legacyEnvelope (s.recipient.identityIdHex client.crypto) "") := by
  have hempty : isFilled (client.codec.base64Encode s.fileKey) = false := by
    rw [hblank, hnil, List.isEmpty_nil, Bool.not_true]
  refine ⟨.symbolic, "", none, [], by rintro _ ⟨⟩, by rintro _ ⟨⟩,
    by rintro _ ⟨⟩, ?_⟩
  rw [buildRecipientKeyEnvelope, Option.filter_some_neg (by simp [hempty])]
  exact .Done _

include hideal hbase64 in
lemma carries_envelope :
    Carries client.crypto client.codec s s.recipient
      (s.grant client.crypto (s.envelope client.crypto client.codec).toJson) where
  vaultObjectId := rfl
  recipient := rfl
  addressed := rfl
  envelope := ⟨_, _, KeyEnvelope.ofJson_toJson _, rfl, reads_envelope hideal hbase64 s,
    matches_bytes hideal s⟩

/-- A file key that is not empty opens with its own grant; a grant opens to what was sealed for its
vault object and its recipient, and an envelope with no grant about something else. -/
structure OpensWhereItBelongs (client : Client) (log : List Sealing) : Prop where
  opens : ∀ s ∈ log, s.fileKey ≠ [] → (∃ keyEnvelope, Made client s keyEnvelope)
    ∧ ∀ keyEnvelope, Made client s keyEnvelope →
      openGrantFileKey client.crypto client.codec s.recipient (s.grant client.crypto keyEnvelope)
        = .ok s.fileKey
  only : ∀ identity grant fileKey,
    openGrantFileKey client.crypto client.codec identity grant = .ok fileKey
      ↔ ∃ s ∈ log, s.fileKey = fileKey ∧ Carries client.crypto client.codec s identity grant
  rejects : ∀ s ∈ log, s.fileKey ≠ [] → ∀ grant, Made client s grant.keyEnvelope →
    (grant.vaultObjectId ≠ s.vaultObjectId
      ∨ grant.recipientIdentityId ≠ s.recipient.identityIdHex client.crypto) →
    ∀ identity fileKey, openGrantFileKey client.crypto client.codec identity grant ≠ .ok fileKey

include hideal hbase64 htrim hblank in
/-- **An envelope opens where it belongs.** The vault object and the recipient are in what is
authenticated, so that a grant about something else does not open it. The ephemeral key is there
only by the secret that it gives: another one with the same secret is as good. -/
theorem opensWhereItBelongs : OpensWhereItBelongs client log where
  opens s hs hne := by
    refine ⟨⟨_, (made_iff hideal hbase64 htrim hblank hne).mpr rfl⟩, fun keyEnvelope hmade => ?_⟩
    obtain rfl := (made_iff hideal hbase64 htrim hblank hne).mp hmade
    exact (openGrantFileKey_iff_carries hideal).mpr
      ⟨s, hs, rfl, carries_envelope hideal hbase64⟩
  only _ _ _ := openGrantFileKey_iff_carries hideal
  rejects s hs hne grant hmade hother identity fileKey hopens := by
    have henvelope := (made_iff hideal hbase64 htrim hblank hne).mp hmade
    obtain ⟨s', hs', -, hcarries⟩ := (openGrantFileKey_iff_carries hideal).mp hopens
    have hread : KeyEnvelope.ofJson grant.keyEnvelope
        = .ok (s.envelope client.crypto client.codec) := by
      rw [henvelope, KeyEnvelope.ofJson_toJson]
    obtain ⟨hobject, hrecipient⟩ := hcarries.same hideal hs' hs hread (reads_envelope hideal hbase64 s)
    exact hother.elim (fun h => h hobject) (fun h => h hrecipient)

end Making

/-! ## Other keys with the same secret

Alice seals a file key for Bob, and another one for Carol. -/

namespace Sample

/-- As in X25519, the top bit of a key is ignored. -/
def masked (bytes : List UInt8) : List UInt8 := bytes.take 31 ++ (bytes.drop 31).map (· &&& 127)

/-- Addition stands for the exchange, and the ciphertext is the message with the associated data. -/
def primitives : EnvelopeCrypto where
  publicKey secret := (secret ++ List.replicate 32 0).take 32
  diffieHellman secret key :=
    masked (List.zipWith (· + ·) ((secret ++ List.replicate 32 0).take 32) key)
  hkdf _ ikm _ := ikm
  encrypt _ _ aad msg := aad ++ msg
  decrypt _ _ _ _ := none
  sha256 := id

def sealedAs (key nonce aad ciphertext : List UInt8) (s : Sealing) : Bool :=
  decide (s.wrapKey primitives = key ∧ s.rng.nonce = nonce ∧ s.aad primitives = aad
    ∧ (s.bytes primitives).ciphertext = ciphertext)

/-- The primitives when some file keys have been sealed. -/
def crypto (log : List Sealing) : EnvelopeCrypto :=
  { primitives with
    decrypt := fun key nonce aad ciphertext =>
      (log.find? (sealedAs key nonce aad ciphertext)).map Sealing.fileKey }

def client (log : List Sealing) : Client :=
  { GrantCommands.Sample.client with crypto := crypto log }

/-- A file key that is sealed for Bob. -/
def forBob (fileKey : List UInt8) : Sealing where
  rng := ⟨[0xAB], List.replicate 24 0⟩
  fileKey := fileKey
  vaultObjectId := "v"
  recipient := ⟨[1], [2]⟩
  nonceLength := rfl

def forCarol : Sealing where
  rng := ⟨[0xCD], List.replicate 24 1⟩
  fileKey := [7]
  vaultObjectId := "w"
  recipient := ⟨[3], [4]⟩
  nonceLength := rfl

def sealings (fileKey : List UInt8) : List Sealing := [forBob fileKey, forCarol]

/-- The two nonces differ. -/
lemma eq_of_nonce {fileKey : List UInt8} {s s' : Sealing} (hs : s ∈ sealings fileKey)
    (hs' : s' ∈ sealings fileKey) (h : s.rng.nonce = s'.rng.nonce) : s = s' := by
  have hne : List.replicate 24 (0 : UInt8) ≠ List.replicate 24 1 := by decide
  simp only [sealings, List.mem_cons, List.not_mem_nil, or_false] at hs hs'
  rcases hs with rfl | rfl <;> rcases hs' with rfl | rfl
  · rfl
  · exact absurd h hne
  · exact absurd h.symm hne
  · rfl

lemma ideal_crypto (fileKey : List UInt8) :
    Ideal (crypto (sealings fileKey)) (sealings fileKey) where
  keyLength secret := by simp [crypto, primitives]
  agrees _ _ := congrArg masked (List.zipWith_comm_of_comm UInt8.add_comm)
  derives _ _ _ h := h
  binds s hs s' hs' h _ := by rw [eq_of_nonce hs hs' h]
  decrypts key nonce aad ciphertext msg := by
    constructor
    · intro h
      obtain ⟨s, hfind, hmsg⟩ := Option.map_eq_some_iff.mp h
      have hsealed := List.find?_some hfind
      obtain ⟨hkey, hnonce, haad, hciphertext⟩ := of_decide_eq_true hsealed
      exact ⟨s, List.mem_of_find?_eq_some hfind, hkey, hnonce, haad, hciphertext, hmsg⟩
    · rintro ⟨s, hs, hkey, hnonce, haad, hciphertext, rfl⟩
      refine Option.map_eq_some_iff.mpr ⟨s, ?_, rfl⟩
      -- whatever is found has the nonce
      have hsealed : sealedAs key nonce aad ciphertext s = true :=
        decide_eq_true ⟨hkey, hnonce, haad, hciphertext⟩
      obtain ⟨s', hfind⟩ :=
        Option.isSome_iff_exists.mp (List.find?_isSome.mpr ⟨s, hs, hsealed⟩)
      have hsealed' := List.find?_some hfind
      obtain ⟨-, hnonce', -⟩ := of_decide_eq_true hsealed'
      rw [← eq_of_nonce (List.mem_of_find?_eq_some hfind) hs (hnonce'.trans hnonce.symm)]
      exact hfind

lemma base64_compact (bytes : List UInt8) :
    JsonText.compact.base64Decode (JsonText.compact.base64Encode bytes) = .ok bytes :=
  JsonText.compact_lawful.base64 bytes

lemma ideal_client (fileKey : List UInt8) :
    Ideal (client (sealings fileKey)).crypto (sealings fileKey) :=
  ideal_crypto fileKey

theorem opensWhereItBelongs_sealings :
    OpensWhereItBelongs (client (sealings [1])) (sealings [1]) :=
  opensWhereItBelongs (ideal_client _) base64_compact JsonText.trim_compact isFilled_compact

/-- Bob's envelope with another text for the ephemeral key. -/
def respelled (ephemeralPublicKey : String) : KeyEnvelope :=
  { (forBob [1]).envelope (crypto (sealings [1])) JsonText.compact with ephemeralPublicKey }

/-- It opens if the key leads to the same secret. -/
lemma opens_respelled {ephemeralPublicKey : String} {eph : List UInt8}
    (hdecode : Text.hexDecode ephemeralPublicKey = .ok eph) (hlength : eph.length = 32)
    (hsecret : primitives.diffieHellman (forBob [1]).recipient.encryptionPrivate eph
      = (forBob [1]).sharedSecret primitives) :
    (respelled ephemeralPublicKey).Reads JsonText.compact
        { (forBob [1]).bytes (crypto (sealings [1])) with eph }
      ∧ openGrantFileKey (crypto (sealings [1])) JsonText.compact (forBob [1]).recipient
        ((forBob [1]).grant (crypto (sealings [1])) (respelled ephemeralPublicKey).toJson)
          = .ok [1] := by
  have hreads : (respelled ephemeralPublicKey).Reads JsonText.compact
      { (forBob [1]).bytes (crypto (sealings [1])) with eph } :=
    { reads_envelope (ideal_crypto [1]) base64_compact (forBob [1]) with
      eph := hdecode
      ephLength := hlength }
  refine ⟨hreads, (openGrantFileKey_iff_carries (ideal_crypto _)).mpr ⟨_, .head _, rfl, ?_⟩⟩
  exact ⟨rfl, rfl, rfl, _, _, KeyEnvelope.ofJson_toJson _, rfl, hreads, hsecret, rfl, rfl⟩

/-- The ephemeral key in capitals. -/
def capitals : String := Text.hexEncodeUpper (primitives.publicKey [0xAB])

lemma differ_capitals : Differ (respelled capitals).toJson
    ((forBob [1]).envelope (crypto (sealings [1])) JsonText.compact).toJson := by
  have hne : capitals ≠ Text.hexEncode (primitives.publicKey [0xAB]) := by decide +kernel
  exact ⟨_, _, KeyEnvelope.ofJson_toJson _, KeyEnvelope.ofJson_toJson _, .inl hne⟩

/-- The ephemeral key with its top bit set. -/
def topBit : List UInt8 := 0xAB :: List.replicate 30 0 ++ [0x80]

/-- **An empty file key is not sealed, the letter case of the ephemeral key is not authenticated, and
neither is its top bit.** -/
theorem not_opensWhereItBelongs :
    (Ideal (client (sealings [])).crypto (sealings [])
        ∧ ¬RoundTrips (client (sealings [])) (sealings []))
      ∧ Ideal (client (sealings [1])).crypto (sealings [1])
        ∧ ¬Rejects (client (sealings [1])) (forBob [1])
        ∧ ¬KeepsBytes (client (sealings [1])) (sealings [1]) := by
  refine ⟨⟨ideal_client _, ?_⟩, ideal_client _, ?_, ?_⟩
  · intro htrips
    have hopens := htrips _ (.head _) _ (made_legacy isFilled_compact rfl)
    obtain ⟨-, e, hread, -⟩ := openGrantFileKey_eq_ok_iff.mp hopens
    cases hread
  · intro hrejects
    have hne : (forBob [1]).fileKey ≠ [] := List.cons_ne_nil 1 []
    have hmade := (made_iff (ideal_client [1]) base64_compact JsonText.trim_compact
      isFilled_compact hne).mpr rfl
    have hopens := opens_respelled (Text.hexDecode_hexEncodeUpper (primitives.publicKey [0xAB]))
      rfl (by decide +kernel)
    exact hrejects _ hmade _ _ [1] (.inl differ_capitals) hopens.2
  · intro hkeeps
    obtain ⟨hreads, hopens⟩ :=
      opens_respelled (Text.hexDecode_hexEncode topBit) rfl (by decide +kernel)
    obtain ⟨s, hs, hbytes⟩ := hkeeps _ _ _ _ _ hopens (KeyEnvelope.ofJson_toJson _) hreads
    have heph : topBit = primitives.publicKey s.rng.ephemeralSecret :=
      congrArg EnvelopeBytes.eph hbytes
    simp only [sealings, List.mem_cons, List.not_mem_nil, or_false] at hs
    rcases hs with rfl | rfl
    · exact absurd heph (by decide)
    · exact absurd heph (by decide)

end Sample

end Vaulted.GrantEnvelopes
