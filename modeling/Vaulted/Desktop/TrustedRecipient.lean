import Vaulted.Crypto.Symbolic
import Vaulted.Desktop.GrantCommands
import Vaulted.Library.JsonText

/-!
# Envelopes for trusted recipients

* `Command` — the two commands that grant a file, and when they ask whether a key is trusted.
* `SealedTo` — an envelope is made for a key; `SealedToTrusted` — one that was reported as trusted.
* `Uncollided` — nothing else has the hashes of a key.
* `Steady` — what the commands rely on: an identity that is looked up twice has the same key both
  times, and the file key of a token is not empty.
* `sealedToTrusted_iff` — that is what decides, whatever the commands are answered.
-/

namespace Vaulted.GrantCommands

open Interleaving

variable {u : Umbral}

/-! ## What is heard -/

abbrev Dialogue (u : Umbral) := List (Exchange (Answer u))

def foundKey : Exchange (Answer u) → Option String
  | ⟨.GetVaultedIdentityPublic _, .ok key⟩ => some key
  | _ => none

/-- Owner, recipient and fingerprint. -/
def trustedKey : Exchange (Answer u) → Option (String × String × String)
  | ⟨.RecipientKeyTrustStatus owner recipient fingerprint, .ok true⟩ =>
      some (owner, recipient, fingerprint)
  | _ => none

def grantRequest : Exchange (Answer u) → Option QrFileGrantStartRequest
  | ⟨.StartQrFileGrantApproval request, _⟩ => some request
  | _ => none

def fileAccess : Exchange (Answer u) → Option FileAccess
  | ⟨.RequestFileAccess _, .ok access⟩ => some access
  | _ => none

def ownKeypair : Exchange (Answer u) → Option (Pre.PreKeyPair u)
  | ⟨.GetKeypair, .ok keypair⟩ => some keypair
  | _ => none

/-! ## What is asked for -/

inductive Command
  | Approval (args : FileGrantApproval)
  | ForNft (args : FileGrantForNft)

def Command.program (client : Client) : Command → Program u Json
  | Approval args => startVaultedFileGrantApproval client args
  | ForNft args => startVaultedFileGrantForNft client args

/-- The first command asks for trust on request, and only if it gets a file key; the second one
unless it is told not to. -/
def Command.ChecksTrust : Command → Prop
  | Approval args =>
      args.requireTrustedRecipient = some true ∧ args.fileKeyBase64.any isFilled = true
  | ForNft args => args.requireTrustedRecipient ≠ some false

/-- A key that is given, and need not be looked up. -/
def Command.givenKey : Command → Option String
  | Approval args => args.recipientEncryptionPublicKey
  | ForNft _ => none

/-- An envelope is what becomes of some file key when it is sealed for a recipient's key. -/
def SealedTo (client : Client) (recipientPublicKey : String) (keyEnvelope : Json) : Prop :=
  ∃ rng vaultObjectId recipientIdentityId fileKeyBase64 e,
    sealedEnvelope client.crypto client.codec rng vaultObjectId recipientIdentityId fileKeyBase64
        recipientPublicKey = .ok e
      ∧ keyEnvelope = e.toJson

/-- The envelope in a request is for a key that was reported as trusted before. -/
def SealedToTrusted (client : Client) (d : Dialogue u) (request : QrFileGrantStartRequest) : Prop :=
  ∃ recipientPublicKey fingerprint,
    encryptionPublicKeyFingerprintHex client.crypto recipientPublicKey = .ok fingerprint
      ∧ (request.identityId, request.recipientIdentityId, fingerprint) ∈ d.filterMap trustedKey
      ∧ SealedTo client recipientPublicKey request.keyEnvelope

/-- Of a key its bytes are hashed for its fingerprint, and its text for its id in an envelope.
Nothing else has these hashes. -/
structure Uncollided (c : EnvelopeCrypto) (key : String) : Prop where
  fingerprint : ∀ keyBytes, Text.hexDecode key = .ok keyBytes → ∀ bytes,
    c.sha256 bytes
      = c.sha256 (Text.utf8 "Vaulted v1 encryption public key fingerprint" ++ keyBytes) →
    bytes = Text.utf8 "Vaulted v1 encryption public key fingerprint" ++ keyBytes
  publicKeyId : ∀ bytes, c.sha256 bytes
      = c.sha256 (Text.utf8 "Vaulted v1 recipient encryption public key id" ++ Text.utf8 key) →
    bytes = Text.utf8 "Vaulted v1 recipient encryption public key id" ++ Text.utf8 key

/-- The keys that are looked up for a recipient in one call are the same, whatever the letters they
are written with; and the file key of a token is not empty. -/
structure Steady (client : Client) (d : Dialogue u) : Prop where
  keys : ∀ key ∈ d.filterMap foundKey, ∀ key' ∈ d.filterMap foundKey,
    Text.hexDecode key = Text.hexDecode key'
  fileKey : ∀ access ∈ d.filterMap fileAccess, ∀ keypair ∈ d.filterMap ownKeypair,
    Pre.unwrapFileKey client.codec keypair access.encryptedAesKey access.isReEncrypted ≠ .ok []

/-! ## Keys and envelopes -/

section Keys

variable {client : Client}

/-- A fingerprint stands for the bytes of a key. -/
lemma fingerprint_iff {key key' fingerprint : String} (hkey : Uncollided client.crypto key)
    (h : encryptionPublicKeyFingerprintHex client.crypto key = .ok fingerprint) :
    encryptionPublicKeyFingerprintHex client.crypto key' = .ok fingerprint
      ↔ Text.hexDecode key = Text.hexDecode key' := by
  obtain ⟨bytes, hbytes, hlength, rfl⟩ := fingerprint_eq_ok_iff.mp h
  rw [fingerprint_eq_ok_iff, hbytes]
  constructor
  · rintro ⟨bytes', hbytes', -, heq⟩
    obtain rfl := List.append_cancel_left
      (hkey.fingerprint bytes hbytes _ (Text.hexEncode_injective heq))
    exact hbytes'.symm
  · intro heq
    exact ⟨bytes, heq.symm, hlength, rfl⟩

/-- A key of white space has no fingerprint. -/
lemma isFilled_of_fingerprint {c : EnvelopeCrypto} {key fingerprint : String}
    (h : encryptionPublicKeyFingerprintHex c key = .ok fingerprint) : isFilled key = true := by
  obtain ⟨bytes, hbytes, hlength, -⟩ := fingerprint_eq_ok_iff.mp h
  cases hblank : Text.isEmpty (Text.trim key) with
  | true =>
      rw [Text.hexDecode_blank hblank hbytes] at hlength
      cases hlength
  | false => rw [isFilled, hblank, Bool.not_false]

lemma sealedEnvelope_publicKeyId {c : EnvelopeCrypto} {codec : TextCodec} {rng : SealRandom}
    {vaultObjectId recipientIdentityId fileKeyBase64 recipientPublicKey : String} {e : KeyEnvelope}
    (h : sealedEnvelope c codec rng vaultObjectId recipientIdentityId fileKeyBase64
      recipientPublicKey = .ok e) :
    e.recipientPublicKeyId = recipientPublicKeyId c recipientPublicKey := by
  simp only [sealedEnvelope, sealKeyForRecipientHex, Checks.bind_eq_ok_iff, Pre.mapErr_eq_ok_iff,
    Checks.ite_eq_ok_iff, Except.ok.injEq] at h
  obtain ⟨fileKey, -, -, bytes, -, -, rfl⟩ := h
  rfl

/-- An envelope is sealed to one key only. -/
lemma SealedTo.unique {key key' : String} {keyEnvelope : Json} (hkey : Uncollided client.crypto key)
    (h : SealedTo client key keyEnvelope) (h' : SealedTo client key' keyEnvelope) : key' = key := by
  obtain ⟨_, _, _, _, e, hsealed, rfl⟩ := h
  obtain ⟨_, _, _, _, e', hsealed', heq⟩ := h'
  have hread := KeyEnvelope.ofJson_toJson e
  rw [heq, KeyEnvelope.ofJson_toJson] at hread
  obtain rfl := Except.ok.inj hread
  have hid := (sealedEnvelope_publicKeyId hsealed').symm.trans (sealedEnvelope_publicKeyId hsealed)
  exact Text.utf8_injective
    (List.append_cancel_left (hkey.publicKeyId _ (Text.hexEncode_injective hid)))

lemma not_sealedTo_legacy {key recipientIdentityId encryptedFileKey : String} :
    ¬SealedTo client key (legacyEnvelope recipientIdentityId encryptedFileKey) := by
  rintro ⟨_, _, _, _, e, -, heq⟩
  have hfirst := (List.cons.inj (Json.Obj.inj heq)).1
  exact absurd (Prod.mk.inj hfirst).1 (by decide)

end Keys

/-! ## What is said -/

section Says

variable {α : Type} {client : Client} {d : Dialogue u} {request : QrFileGrantStartRequest}

lemma says_check {ε β γ : Type} {answer : Except ε β → α} {o : Except ε γ}
    {k : γ → Proc (Answer u) Unit α} (h : (Proc.check answer o k).Says d)
    (hrequest : request ∈ d.filterMap grantRequest) : ∃ c, o = .ok c ∧ (k c).Says d :=
  Proc.says_check h fun hnil => by simp [hnil] at hrequest

/-- Where a key comes from. -/
inductive Looks (recipientIdentityId : String) (given : Option String) (key : String) :
    Dialogue u → Prop
  | Given (h : given.filter isFilled = some key) : Looks recipientIdentityId given key []
  | Found (h : given.filter isFilled = none) :
      Looks recipientIdentityId given key [⟨.GetVaultedIdentityPublic recipientIdentityId, .ok key⟩]

/-- A key that is given is not looked up. -/
lemma Looks.of_filled {recipientIdentityId given key : String} {looked : Dialogue u}
    (h : Looks recipientIdentityId (some given) key looked) (hfilled : isFilled given = true) :
    key = given ∧ looked = [] := by
  cases h with
  | Given h =>
      rw [Option.filter_some_pos hfilled] at h
      exact ⟨(Option.some.inj h).symm, rfl⟩
  | Found h =>
      rw [Option.filter_some_pos hfilled] at h
      cases h

lemma says_recipientKey {recipientIdentityId : String} {given : Option String}
    {k : String → Program u α} (h : (recipientKey recipientIdentityId given k).Says d)
    (hrequest : request ∈ d.filterMap grantRequest) :
    ∃ key looked d', Looks recipientIdentityId given key looked ∧ d = looked ++ d'
      ∧ (k key).Says d' ∧ request ∈ d'.filterMap grantRequest := by
  rw [recipientKey] at h
  split at h
  next key hgiven => exact ⟨key, [], d, .Given hgiven, rfl, h, hrequest⟩
  next hgiven =>
    obtain ⟨answer, _, d', rfl, hnext⟩ := Proc.says_exec h
    obtain ⟨key, rfl, hkey⟩ := says_check hnext hrequest
    exact ⟨key, _, d', .Found hgiven, rfl, hkey, hrequest⟩

lemma says_build {vaultObjectId recipientIdentityId encryptedFileKey fileKeyBase64 : String}
    {given : Option String} {k : Json → Program u α} (hfilled : isFilled fileKeyBase64 = true)
    (h : (buildRecipientKeyEnvelope client vaultObjectId recipientIdentityId encryptedFileKey
      (some fileKeyBase64) given k).Says d) (hrequest : request ∈ d.filterMap grantRequest) :
    ∃ key looked rng e d', Looks recipientIdentityId given key looked
      ∧ d = looked ++ ⟨.DrawRandom, rng⟩ :: d'
      ∧ sealedEnvelope client.crypto client.codec rng vaultObjectId recipientIdentityId
        fileKeyBase64 key = .ok e
      ∧ (k e.toJson).Says d' ∧ request ∈ d'.filterMap grantRequest := by
  rw [buildRecipientKeyEnvelope, Option.filter_some_pos hfilled] at h
  obtain ⟨key, looked, d', hlooks, rfl, hkey, hrequest⟩ := says_recipientKey h hrequest
  obtain ⟨rng, _, d'', rfl, hsealing⟩ := Proc.says_exec hkey
  obtain ⟨e, hsealed, hrest⟩ := says_check hsealing hrequest
  exact ⟨key, looked, rng, e, d'', hlooks, rfl, hsealed, hrest, hrequest⟩

lemma says_requireTrusted {identity : VaultedIdentityKeys} {recipientIdentityId key : String}
    {k : Program u α} (h : (requireTrusted client identity recipientIdentityId key k).Says d)
    (hrequest : request ∈ d.filterMap grantRequest) :
    ∃ fingerprint d', encryptionPublicKeyFingerprintHex client.crypto key = .ok fingerprint
      ∧ d = ⟨.RecipientKeyTrustStatus (identity.identityIdHex client.crypto) recipientIdentityId
        fingerprint, .ok true⟩ :: d'
      ∧ k.Says d' ∧ request ∈ d'.filterMap grantRequest := by
  obtain ⟨fingerprint, hfingerprint, hasks⟩ := says_check h hrequest
  obtain ⟨answer, _, d', rfl, hanswer⟩ := Proc.says_exec hasks
  obtain ⟨trusted, rfl, htrusted⟩ := says_check hanswer hrequest
  split_ifs at htrusted with hno
  · rw [Proc.says_done htrusted] at hrequest
    cases hrequest
  · obtain rfl : trusted = true := by simpa using hno
    exact ⟨fingerprint, d', Pre.eq_ok_of_mapErr hfingerprint, rfl, htrusted, hrequest⟩

lemma says_startGrant {identity : VaultedIdentityKeys} {vaultObjectId recipientIdentityId : String}
    {keyEnvelope : Json} {permissions : List String} {grantExpiresAt : Option DateTime}
    {humanSummary : Option String} {members : List (String × Json)}
    (h : (startGrant client identity vaultObjectId recipientIdentityId keyEnvelope permissions
      grantExpiresAt humanSummary members : Program u Json).Says d)
    (hrequest : request ∈ d.filterMap grantRequest) :
    (∃ response, d = [⟨.StartQrFileGrantApproval request, response⟩])
      ∧ request.identityId = identity.identityIdHex client.crypto
      ∧ request.recipientIdentityId = recipientIdentityId ∧ request.keyEnvelope = keyEnvelope := by
  obtain ⟨response, _, d', rfl, hdone⟩ := Proc.says_exec h
  obtain rfl := Proc.says_done hdone
  obtain rfl : request = _ := List.mem_singleton.mp hrequest
  exact ⟨⟨response, rfl⟩, rfl, rfl, rfl⟩

/-- **A request of the first command** is for the key that is found after the other one has been
trusted. -/
theorem says_approval {args : FileGrantApproval} (hchecks : (Command.Approval args).ChecksTrust)
    (h : (startVaultedFileGrantApproval client args).Says d)
    (hrequest : request ∈ d.filterMap grantRequest) :
    ∃ identity key looked fingerprint key' looked' rng response,
      Looks args.recipientIdentityId args.recipientEncryptionPublicKey key looked
      ∧ Looks args.recipientIdentityId args.recipientEncryptionPublicKey key' looked'
      ∧ encryptionPublicKeyFingerprintHex client.crypto key = .ok fingerprint
      ∧ SealedTo client key' request.keyEnvelope
      ∧ d = [⟨.GetVaultedIdentity, .ok identity⟩, ⟨.NewOracleClient, .ok ()⟩] ++ looked
        ++ [⟨.RecipientKeyTrustStatus request.identityId request.recipientIdentityId fingerprint,
          .ok true⟩] ++ looked'
        ++ [⟨.DrawRandom, rng⟩, ⟨.StartQrFileGrantApproval request, response⟩] := by
  obtain ⟨htrust, hkey⟩ := hchecks
  obtain ⟨fileKeyBase64, hgiven, hfilled⟩ : ∃ text, args.fileKeyBase64 = some text
      ∧ isFilled text = true := by simpa [Option.any_eq_true] using hkey
  obtain ⟨answer, _, d, rfl, hask⟩ := Proc.says_exec h
  obtain ⟨identity, rfl, hidentity⟩ := says_check hask hrequest
  obtain ⟨expiresAt, -, hexpires⟩ := says_check hidentity hrequest
  obtain ⟨answer, _, d, rfl, hcreate⟩ := Proc.says_exec hexpires
  obtain ⟨_, rfl, horacle⟩ := says_check hcreate hrequest
  simp only [htrust, hkey, Option.getD_some, Bool.and_self, if_true] at horacle
  obtain ⟨key, looked, d, hlooks, rfl, hfound, hrequest⟩ := says_recipientKey horacle hrequest
  obtain ⟨fingerprint, d, hfingerprint, rfl, htrusted, hrequest⟩ :=
    says_requireTrusted hfound hrequest
  rw [hgiven] at htrusted
  obtain ⟨key', looked', rng, e, d, hlooks', rfl, hsealed, hstart, hrequest⟩ :=
    says_build hfilled htrusted hrequest
  obtain ⟨⟨response, rfl⟩, hid, hrecipient, henvelope⟩ := says_startGrant hstart hrequest
  refine ⟨identity, key, looked, fingerprint, key', looked', rng, response, hlooks, hlooks',
    hfingerprint, ⟨_, _, _, _, e, hsealed, henvelope⟩, ?_⟩
  rw [hid, hrecipient]
  simp

/-- **A request of the second command** is for the one key that it has found, unless the file key
is empty. -/
theorem says_forNft {args : FileGrantForNft} (hchecks : (Command.ForNft args).ChecksTrust)
    (hblank : ∀ bytes, isFilled (client.codec.base64Encode bytes) = !bytes.isEmpty)
    (h : (startVaultedFileGrantForNft client args).Says d)
    (hrequest : request ∈ d.filterMap grantRequest) :
    ∃ identity access keypair fileKey vaultObjectId key fingerprint drawn response,
      Pre.unwrapFileKey client.codec keypair access.encryptedAesKey access.isReEncrypted
        = .ok fileKey
      ∧ encryptionPublicKeyFingerprintHex client.crypto key = .ok fingerprint
      ∧ (fileKey = [] ∧ drawn = [] ∧ request.keyEnvelope
          = legacyEnvelope request.recipientIdentityId access.encryptedAesKey
        ∨ fileKey ≠ [] ∧ (∃ rng, drawn = [⟨.DrawRandom, rng⟩])
          ∧ SealedTo client key request.keyEnvelope)
      ∧ d = [⟨.GetVaultedIdentity, .ok identity⟩, ⟨.NewOracleClient, .ok ()⟩,
          ⟨.RequestFileAccess args.nftTokenId, .ok access⟩, ⟨.GetKeypair, .ok keypair⟩,
          ⟨.GetVaultObjectByNft args.nftTokenId, .ok vaultObjectId⟩,
          ⟨.GetVaultedIdentityPublic args.recipientIdentityId, .ok key⟩,
          ⟨.RecipientKeyTrustStatus request.identityId request.recipientIdentityId fingerprint,
            .ok true⟩] ++ drawn ++ [⟨.StartQrFileGrantApproval request, response⟩] := by
  have htrust : args.requireTrustedRecipient.getD true = true := by
    cases hargs : args.requireTrustedRecipient with
    | none => rfl
    | some trust => cases trust with
      | false => exact absurd hargs hchecks
      | true => rfl
  obtain ⟨answer, _, d, rfl, hask⟩ := Proc.says_exec h
  obtain ⟨identity, rfl, hidentity⟩ := says_check hask hrequest
  obtain ⟨answer, _, d, rfl, hcreate⟩ := Proc.says_exec hidentity
  obtain ⟨_, rfl, horacle⟩ := says_check hcreate hrequest
  obtain ⟨answer, _, d, rfl, hrequested⟩ := Proc.says_exec horacle
  obtain ⟨access, rfl, haccess⟩ := says_check hrequested hrequest
  obtain ⟨answer, _, d, rfl, hload⟩ := Proc.says_exec haccess
  obtain ⟨keypair, rfl, hkeypair⟩ := says_check hload hrequest
  obtain ⟨fileKey, hunwrap, hunwrapped⟩ := says_check hkeypair hrequest
  obtain ⟨answer, _, d, rfl, hsearch⟩ := Proc.says_exec hunwrapped
  obtain ⟨vaultObjectId, rfl, hobject⟩ := says_check hsearch hrequest
  obtain ⟨expiresAt, -, hexpires⟩ := says_check hobject hrequest
  obtain ⟨answer, _, d, rfl, hlook⟩ := Proc.says_exec hexpires
  obtain ⟨key, rfl, hfound⟩ := says_check hlook hrequest
  rw [if_pos htrust] at hfound
  obtain ⟨fingerprint, d, hfingerprint, rfl, htrusted, hrequest⟩ :=
    says_requireTrusted hfound hrequest
  have hdecoded := Pre.eq_ok_of_mapErr hunwrap
  have hfilled := hblank fileKey
  cases fileKey with
  | nil =>
      rw [buildRecipientKeyEnvelope, Option.filter_some_neg (by simp [hfilled])] at htrusted
      obtain ⟨⟨response, rfl⟩, hid, hrecipient, henvelope⟩ := says_startGrant htrusted hrequest
      refine ⟨identity, access, keypair, [], vaultObjectId, key, fingerprint, [], response,
        hdecoded, hfingerprint, .inl ⟨rfl, rfl, ?_⟩, ?_⟩
      · rw [henvelope, hrecipient]
      · rw [hid, hrecipient]
        rfl
  | cons b bytes =>
      obtain ⟨key', looked, rng, e, d, hlooks, rfl, hsealed, hstart, hrequest⟩ :=
        says_build hfilled htrusted hrequest
      obtain ⟨hkey, hlooked⟩ := hlooks.of_filled (isFilled_of_fingerprint hfingerprint)
      obtain ⟨⟨response, rfl⟩, hid, hrecipient, henvelope⟩ := says_startGrant hstart hrequest
      refine ⟨identity, access, keypair, b :: bytes, vaultObjectId, key, fingerprint,
        [⟨.DrawRandom, rng⟩], response, hdecoded, hfingerprint,
        .inr ⟨List.cons_ne_nil b bytes, ⟨rng, rfl⟩, ?_⟩, ?_⟩
      · exact ⟨_, _, _, _, e, hkey ▸ hsealed, henvelope⟩
      · rw [hid, hrecipient, hlooked]
        rfl

end Says

/-! ## The condition -/

section Condition

variable {client : Client} {d : Dialogue u} {request : QrFileGrantStartRequest}

/-- An envelope for one key, and another one that is trusted. -/
lemma sealedToTrusted_iff_hexDecode {key key' fingerprint : String}
    (hkey : Uncollided client.crypto key) (hkey' : Uncollided client.crypto key')
    (hfingerprint : encryptionPublicKeyFingerprintHex client.crypto key = .ok fingerprint)
    (htrusted : d.filterMap trustedKey
      = [(request.identityId, request.recipientIdentityId, fingerprint)])
    (hsealed : SealedTo client key' request.keyEnvelope) :
    SealedToTrusted client d request ↔ Text.hexDecode key = Text.hexDecode key' := by
  rw [← fingerprint_iff hkey hfingerprint]
  constructor
  · rintro ⟨key'', fingerprint', hfingerprint', hmem, hsealed'⟩
    rw [htrusted, List.mem_singleton, Prod.mk.injEq, Prod.mk.injEq] at hmem
    rw [← hsealed.unique hkey' hsealed', hfingerprint', hmem.2.2]
  · intro hfingerprint'
    exact ⟨key', fingerprint, hfingerprint', by rw [htrusted]; exact List.mem_singleton_self _,
      hsealed⟩

lemma sealedToTrusted_approval_iff {args : FileGrantApproval}
    (hsha : ∀ key, args.recipientEncryptionPublicKey = some key ∨ key ∈ d.filterMap foundKey →
      Uncollided client.crypto key)
    (hchecks : (Command.Approval args).ChecksTrust)
    (hd : (startVaultedFileGrantApproval client args).Says d)
    (hrequest : request ∈ d.filterMap grantRequest) :
    SealedToTrusted client d request ↔ Steady client d := by
  obtain ⟨identity, key, looked, fingerprint, key', looked', rng, response, hlooks, hlooks',
    hfingerprint, hsealed, rfl⟩ := says_approval hchecks hd hrequest
  cases hlooks with
  | Given hgiven =>
      obtain ⟨rfl, rfl⟩ : key' = key ∧ looked' = [] := by
        cases hlooks' with
        | Given hgiven' => exact ⟨Option.some.inj (hgiven'.symm.trans hgiven), rfl⟩
        | Found hnone => cases hnone.symm.trans hgiven
      have hkey := hsha key' (.inl (Option.filter_eq_some_iff.mp hgiven).1)
      rw [sealedToTrusted_iff_hexDecode hkey hkey hfingerprint rfl hsealed]
      exact iff_of_true rfl ⟨fun _ hkey => (nomatch hkey), fun _ haccess => (nomatch haccess)⟩
  | Found hnone =>
      obtain rfl : looked' = [⟨.GetVaultedIdentityPublic args.recipientIdentityId, .ok key'⟩] := by
        cases hlooks' with
        | Given hgiven => cases hnone.symm.trans hgiven
        | Found _ => rfl
      rw [sealedToTrusted_iff_hexDecode (hsha key (.inr (.head _)))
        (hsha key' (.inr (.tail _ (.head _)))) hfingerprint rfl hsealed]
      constructor
      · intro heq
        have hboth : ∀ found ∈ [key, key'], Text.hexDecode found = Text.hexDecode key' := by
          simp [heq]
        exact ⟨fun found hfound found' hfound' =>
          (hboth found hfound).trans (hboth found' hfound').symm,
          fun _ haccess => (nomatch haccess)⟩
      · intro hsteady
        exact hsteady.keys key (.head _) key' (.tail _ (.head _))

/-- **Who gets a file key**: the envelope in a request is for the key that was reported as trusted
if and only if an identity that is looked up twice has the same key both times, and the file key of
a token is not empty. Between the two look-ups of the first command the Oracle may change its
mind. -/
theorem sealedToTrusted_iff
    (hblank : ∀ bytes, isFilled (client.codec.base64Encode bytes) = !bytes.isEmpty)
    {command : Command} (hsha : ∀ key, command.givenKey = some key ∨ key ∈ d.filterMap foundKey →
      Uncollided client.crypto key) (hchecks : command.ChecksTrust)
    (hd : (command.program client).Says d) (hrequest : request ∈ d.filterMap grantRequest) :
    SealedToTrusted client d request ↔ Steady client d := by
  cases command with
  | Approval args => exact sealedToTrusted_approval_iff hsha hchecks hd hrequest
  | ForNft args =>
      obtain ⟨identity, access, keypair, fileKey, vaultObjectId, key, fingerprint, drawn, response,
        hunwrap, hfingerprint, hcases, rfl⟩ := says_forNft hchecks hblank hd hrequest
      rcases hcases with ⟨rfl, rfl, henvelope⟩ | ⟨hne, ⟨rng, rfl⟩, hsealed⟩
      · refine iff_of_false ?_ fun hsteady =>
          hsteady.fileKey access (.head _) keypair (.head _) hunwrap
        rintro ⟨_, _, -, -, hsealed⟩
        exact not_sealedTo_legacy (henvelope ▸ hsealed)
      · have hkey := hsha key (.inr (.head _))
        rw [sealedToTrusted_iff_hexDecode hkey hkey hfingerprint rfl hsealed]
        refine iff_of_true rfl ⟨fun found hfound found' hfound' => ?_, fun access' haccess keypair'
          hkeypair => ?_⟩
        · obtain rfl := List.mem_singleton.mp hfound
          obtain rfl := List.mem_singleton.mp hfound'
          rfl
        · obtain rfl := List.mem_singleton.mp haccess
          obtain rfl := List.mem_singleton.mp hkeypair
          rw [hunwrap]
          exact fun h => hne (Except.ok.inj h)

end Condition

/-! ## A key that changes -/

/-- The text of no bytes is the only blank one. -/
lemma isFilled_compact (bytes : List UInt8) :
    isFilled (JsonText.compact.base64Encode bytes) = !bytes.isEmpty := by
  rw [isFilled, JsonText.trim_compact, JsonText.compact, Text.isEmpty, String.toList_ofList]
  cases bytes with
  | nil => rfl
  | cons b bytes =>
      have hne := JsonText.encode_ne_nil (List.cons_ne_nil b bytes)
      rw [List.isEmpty_cons, List.isEmpty_eq_false_iff.mpr hne]

namespace Sample

def key (b : UInt8) : String := Text.hexEncode (List.replicate 32 b)

def fingerprintInput (b : UInt8) : List UInt8 :=
  Text.utf8 "Vaulted v1 encryption public key fingerprint" ++ List.replicate 32 b

def publicKeyIdInput (b : UInt8) : List UInt8 :=
  Text.utf8 "Vaulted v1 recipient encryption public key id" ++ Text.utf8 (key b)

/-- With a hash that tells the two keys of a recipient apart. -/
def crypto : EnvelopeCrypto where
  publicKey := id
  diffieHellman a b := List.zipWith (· + ·) a b
  hkdf _ ikm _ := ikm
  encrypt key nonce aad msg := key ++ nonce ++ aad ++ msg
  decrypt _ _ _ _ := none
  sha256 := digestOf
    [fingerprintInput 0, publicKeyIdInput 0, fingerprintInput 1, publicKeyIdInput 1]

def client : Client where
  crypto := crypto
  codec := JsonText.compact
  parseRfc3339 _ := .error "premature end of input"
  deviceFingerprint := "device"
  hostname := none

def args : FileGrantApproval where
  vaultObjectId := "v"
  recipientIdentityId := "r"
  encryptedFileKey := ""
  permissions := ["read"]
  grantExpiresAt := none
  humanSummary := none
  fileKeyBase64 := some "AQ=="
  recipientEncryptionPublicKey := none
  requireTrustedRecipient := some true

def identity : VaultedIdentityKeys := ⟨[1], [2]⟩

def rng : SealRandom := ⟨[], []⟩

def fingerprint (b : UInt8) : String := Text.hexEncode (crypto.sha256 (fingerprintInput b))

def sealed (b : UInt8) : KeyEnvelope :=
  sealKeyForRecipient crypto JsonText.compact rng [1] (List.replicate 32 b) "r"
    (recipientPublicKeyId crypto (key b)) "grant-recipient" (Text.utf8 (grantEnvelopeAad "v" "r"))

def request (b : UInt8) : QrFileGrantStartRequest where
  identityId := identity.identityIdHex crypto
  vaultObjectId := "v"
  recipientIdentityId := "r"
  keyEnvelope := (sealed b).toJson
  encryptedFileKey := none
  permissions := ["read"]
  grantExpiresAt := none
  requesterDeviceId := some "device"
  requesterDeviceName := none
  humanSummary := none

/-- The recipient has one key when trust is asked for, and another one afterwards. -/
def dialogue (b b' : UInt8) : Dialogue Umbral.symbolic :=
  [⟨.GetVaultedIdentity, .ok identity⟩, ⟨.NewOracleClient, .ok ()⟩,
    ⟨.GetVaultedIdentityPublic "r", .ok (key b)⟩,
    ⟨.RecipientKeyTrustStatus (identity.identityIdHex crypto) "r" (fingerprint b), .ok true⟩,
    ⟨.GetVaultedIdentityPublic "r", .ok (key b')⟩, ⟨.DrawRandom, rng⟩,
    ⟨.StartQrFileGrantApproval (request b'), .error (.Config "offline")⟩]

lemma hexDecode_key (b : UInt8) : Text.hexDecode (key b) = .ok (List.replicate 32 b) :=
  Text.hexDecode_hexEncode _

lemma uncollided_key {b : UInt8} (hb : b = 0 ∨ b = 1) : Uncollided client.crypto (key b) where
  fingerprint keyBytes hkeyBytes bytes h := by
    obtain rfl := Except.ok.inj ((hexDecode_key b).symm.trans hkeyBytes)
    refine eq_of_digestOf_eq (by decide) ?_ h
    rcases hb with rfl | rfl <;> simp [fingerprintInput]
  publicKeyId bytes h := by
    refine eq_of_digestOf_eq (by decide) ?_ h
    rcases hb with rfl | rfl <;> simp [publicKeyIdInput]

lemma fingerprint_key (b : UInt8) :
    encryptionPublicKeyFingerprintHex crypto (key b) = .ok (fingerprint b) :=
  fingerprint_eq_ok_iff.mpr ⟨_, hexDecode_key b, rfl, rfl⟩

lemma sealedEnvelope_key (b : UInt8) :
    sealedEnvelope crypto JsonText.compact rng "v" "r" "AQ==" (key b) = .ok (sealed b) := by
  have hdecode : JsonText.compact.base64Decode (Text.trim "AQ==") = .ok [1] := by decide +kernel
  simp only [sealedEnvelope, sealKeyForRecipientHex, Checks.bind_eq_ok_iff, Pre.mapErr_eq_ok_iff,
    Checks.ite_eq_ok_iff]
  exact ⟨[1], hdecode, by decide, _, hexDecode_key b, by simp, rfl⟩

lemma says_check_ok {α β ε γ : Type} {u : Umbral} {answer : Except ε β → α} {o : Except ε γ} {c : γ}
    {k : γ → Proc (Answer u) Unit α} {d : Dialogue u} (ho : o = .ok c) (h : (k c).Says d) :
    (Proc.check answer o k).Says d := by
  rw [ho]
  exact h

lemma says_dialogue (b b' : UInt8) :
    ((Command.Approval args).program client).Says (dialogue b b') := by
  refine .Exec _ () (.Exec _ () (.Exec _ () (says_check_ok rfl ?_)))
  refine says_check_ok (Pre.mapErr_eq_ok_iff.mpr (fingerprint_key b)) (.Exec _ () ?_)
  refine .Exec _ () (says_check_ok rfl (.Exec _ () ?_))
  exact says_check_ok (sealedEnvelope_key b') (.Exec _ () (.Done _))

lemma checksTrust : (Command.Approval args).ChecksTrust := ⟨rfl, by decide +kernel⟩

lemma mem_request (b b' : UInt8) : request b' ∈ (dialogue b b').filterMap grantRequest :=
  List.mem_singleton_self _

theorem sealedToTrusted_steady : SealedToTrusted client (dialogue 0 0) (request 0) := by
  have hblank : ∀ bytes, isFilled (client.codec.base64Encode bytes) = !bytes.isEmpty :=
    isFilled_compact
  have hkeys : ∀ found ∈ [key 0, key 0], found = key 0 := by simp
  have hsha : ∀ found, (Command.Approval args).givenKey = some found
      ∨ found ∈ (dialogue 0 0).filterMap foundKey → Uncollided client.crypto found := by
    rintro found (hgiven | hfound)
    · cases hgiven
    · rw [hkeys found hfound]
      exact uncollided_key (.inl rfl)
  refine (sealedToTrusted_iff hblank hsha checksTrust (says_dialogue 0 0) (mem_request 0 0)).mpr
    ⟨?_, fun _ haccess => nomatch haccess⟩
  intro found hfound found' hfound'
  rw [hkeys found hfound, hkeys found' hfound']

end Sample

/-- **A key is sealed to that nobody has been asked about.** -/
theorem not_sealedToTrusted : ¬∀ (command : Command) (d : Dialogue Umbral.symbolic) request,
    command.ChecksTrust → (command.program Sample.client).Says d →
      request ∈ d.filterMap grantRequest → SealedToTrusted Sample.client d request := by
  intro h
  have htrusted := h _ _ _ Sample.checksTrust (Sample.says_dialogue 0 1) (Sample.mem_request 0 1)
  have hsealed : SealedTo Sample.client (Sample.key 1) (Sample.request 1).keyEnvelope :=
    ⟨_, _, _, _, _, Sample.sealedEnvelope_key 1, rfl⟩
  rw [sealedToTrusted_iff_hexDecode (Sample.uncollided_key (.inl rfl))
    (Sample.uncollided_key (.inr rfl)) (Sample.fingerprint_key 0) rfl hsealed,
    Sample.hexDecode_key, Sample.hexDecode_key] at htrusted
  exact absurd (Except.ok.inj htrusted) (by decide)

end Vaulted.GrantCommands
