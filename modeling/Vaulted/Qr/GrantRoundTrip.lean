import Vaulted.Oracle.QrApproval
import Vaulted.Identity.RecipientKey
import Vaulted.Vault.GrantBinding

/-!
# A QR grant request between its start and its confirmation

The start of a request hashes the context of the grant and stores its parts; the confirmation
hashes what the columns give back, and compares.  A `TIMESTAMPTZ` keeps microseconds and knows no
leap seconds, and the start hashes nanoseconds, and a leap second as `:60`.

* `Jsonb` — what a column for JSON values gives back of a value.
* `exec` — the statements, over such columns.
* `Undisturbed` — a confirmation of an accepted request that nothing has changed.
* `Approved` — both hashes are the same, and the confirmation goes on to create the grant.
* `Survives` — the expiry is one of whole microseconds and in no leap second, and the canonical text
  of the envelope is that of what the column gives back.
* `approved_iff` — the request is approved if and only if its context survives.
* `approved_iff_of_plain` — of ordinary envelopes, only the expiry counts.
* `not_approved` — an expiry with a nanosecond.
-/

namespace Vaulted.GrantRoundTrip

open Interleaving QrAuth QrApproval VaultObjects
open QrLogin (loaded)

/-! ## Columns -/

/-- No object has two members of one name. -/
inductive Distinct : Json → Prop
  | Null : Distinct .Null
  | Boolean (b : Bool) : Distinct (.Boolean b)
  | Num (n : JsonNumber) : Distinct (.Num n)
  | Str (s : String) : Distinct (.Str s)
  | Arr (items : List Json) : (∀ j ∈ items, Distinct j) → Distinct (.Arr items)
  | Obj (members : List (String × Json)) : (members.map Prod.fst).Nodup →
      (∀ m ∈ members, Distinct m.2) → Distinct (.Obj members)

/-- A `JSONB` column: what it gives back of a value, if it takes it.  Texts, the order of arrays
and whole numbers are kept, and the members of objects up to their order. -/
structure Jsonb where
  store : Json → Option Json
  texts : ∀ (items : List String) j, store (.Arr (items.map .Str)) = some j →
    j = .Arr (items.map .Str)
  plain : ∀ j j', j.Plain → Distinct j → store j = some j' → canonicalJson j' = canonicalJson j

/-- A new request of a file grant, with what the column keeps of the envelope. -/
def withEnvelope (keyEnvelope : Json) (row : QrRequest .FileGrant) : QrRequest .FileGrant :=
  { row with columns := { row.columns with keyEnvelope } }

def withPermissions (permissions : List String) (row : QrRequest .FileGrant) :
    QrRequest .FileGrant :=
  { row with columns := { row.columns with permissions } }

/-- The texts of an array. -/
def textsOf : Json → List String
  | .Arr items => items.filterMap Json.asStr
  | _ => []

/-- The statements; a text that a column does not take is refused. -/
def exec (jsonb : Jsonb) : (s : Statement) → Moment → Db → Answer s × Db
  | .Insert .FileGrant row, m, db =>
      match jsonb.store (.Arr (row.columns.permissions.map .Str)),
          jsonb.store row.columns.keyEnvelope with
      | some permissions, some keyEnvelope =>
          QrApproval.exec (.Insert .FileGrant
            (withEnvelope keyEnvelope (withPermissions (textsOf permissions) row))) m db
      | _, _ => (.error (errorText (.database "unsupported Unicode escape sequence")), db)
  | s, m, db => QrApproval.exec s m db

/-! ## A start and a confirmation -/

section Handlers

variable (jsonb : Jsonb) (ed : Ed25519) (codec : TextCodec) (rfc3339 : DateTime → String)
  (state : AppState)

def start (req : QrFileGrantStartRequest) (m : Nat → Moment) (db : Db) : Reply × Db :=
  (startQrFileGrantApproval codec rfc3339 state req).run (exec jsonb) m db

def confirm (req : QrConfirmRequest) (m : Nat → Moment) (db : Db) : Reply × Db :=
  (confirmQrFileGrantApproval ed codec rfc3339 state req).run (exec jsonb) m db

/-- What a confirmation does after its checks. -/
def createGrant (req : QrConfirmRequest) (id : Uuid) (row : QrRequest .FileGrant) : Handling :=
  .Exec (.InsertGrant (approvedGrant req row.columns)) fun inserted _ =>
  .check (.Confirmed .FileGrant)
    (loaded "Failed to create approved file grant: " inserted) fun _ =>
  markApproved .FileGrant req id (some row.columns.grantId) row.columns.grantId.text

/-- The active vault object with an id. -/
def activeObject (vaultObjectId : String) (db : Db) : Option VaultObject :=
  (db.vaultObjects.get? vaultObjectId).filter fun vo => decide (vo.status = .Active)

/-- The owner of an active vault object, and its NFT. -/
def ownerAndNft (vaultObjectId : String) (db : Db) : Option (String × Option String) :=
  (activeObject vaultObjectId db).map fun vo => (vo.ownerIdentityId, vo.nftTokenId)

/-- The message that the owner is shown and signs. -/
def displayedMessage (req : QrFileGrantStartRequest) (answer : QrStartResponse .FileGrant)
    (confirmation : QrConfirmRequest) : String :=
  fileGrantApprovalMessage confirmation.requestId answer.challenge (oracleUrl state)
    req.vaultObjectId answer.details.grantId req.recipientIdentityId
    answer.details.grantContextHash req.requesterDeviceId req.requesterDeviceName
    confirmation.authorizingDeviceId

/-- The owner confirms the request that was answered with `answer`.  It is as it was stored in
`started`, the vault object and its NFT are the owner's as they were before in `db`, the identity is
active with the key of the signature, and neither expiry has passed. -/
structure Undisturbed (req : QrFileGrantStartRequest) (answer : QrStartResponse .FileGrant)
    (db started now : Db) (confirmation : QrConfirmRequest) (m : Nat → Moment) : Prop where
  requestId : parseUuid confirmation.requestId = some ⟨answer.requestId⟩
  identityId : confirmation.identityId = req.identityId
  kept : (now.qrRequests .FileGrant).get? ⟨answer.requestId⟩
    = (started.qrRequests .FileGrant).get? ⟨answer.requestId⟩
  object : ownerAndNft req.vaultObjectId now = ownerAndNft req.vaultObjectId db
  identity : ∃ identity, Identity.activeIdentity req.identityId now = some identity
    ∧ identity.signingPublicKey = confirmation.signingPublicKey
  requestLive : ¬answer.expiresAt < (m 0).now
  grantLive : ∀ t, req.grantExpiresAt = some t → (m 0).now.dateTime < t
  signed : verifyEd25519Hex ed confirmation.signingPublicKey
    (Text.utf8 (displayedMessage state req answer confirmation)) confirmation.signature = .ok ()
  answered : ∀ n < 3, (m n).failure = none

/-- The hash of the start is the one of the confirmation, which goes on to create the grant. -/
structure Approved (answer : QrStartResponse .FileGrant) (now : Db)
    (confirmation : QrConfirmRequest) (m : Nat → Moment) : Prop where
  hash : ∀ row vo, (now.qrRequests .FileGrant).get? ⟨answer.requestId⟩ = some row →
    activeObject row.columns.vaultObjectId now = some vo →
    grantContextHash state codec rfc3339 (qrGrantContext row.identityId vo row.columns
      (row.columns.grantExpiresAt.map Time.dateTime)) = answer.details.grantContextHash
  created : ∃ row, (now.qrRequests .FileGrant).get? ⟨answer.requestId⟩ = some row
    ∧ confirm jsonb ed codec rfc3339 state confirmation m now
      = (createGrant confirmation row.id row).run (exec jsonb) (fun n => m (n + 3)) now

/-- The expiry and the envelope of a request are hashed as they will be read back: the column gives
the expiry back, and the canonical text of the stored envelope is that of the one which was sent. -/
structure Survives (req : QrFileGrantStartRequest) : Prop where
  expiresAt : ∀ t, req.grantExpiresAt = some t → t.IsWhole
  keyEnvelope : ∀ keyEnvelope encryptedFileKey stored,
    normalizeQrGrantKeyEnvelope req.keyEnvelope req.encryptedFileKey req.recipientIdentityId
      = .ok (keyEnvelope, encryptedFileKey) → jsonb.store keyEnvelope = some stored →
    codec.jsonToString (canonicalJson stored) = codec.jsonToString (canonicalJson keyEnvelope)

end Handlers

section RoundTrip

variable {jsonb : Jsonb} {ed : Ed25519} {codec : TextCodec} {rfc3339 : DateTime → String}
  {state : AppState}

/-! ## Statements -/

lemma object_of_load {vaultObjectId : String} {m : Moment} {db : Db} {vo? : Option VaultObject}
    (h : (exec jsonb (.LoadVaultObject vaultObjectId) m db).1 = .ok vo?) :
    activeObject vaultObjectId db = vo? := by
  have h : (QrApproval.exec (.LoadVaultObject vaultObjectId) m db).1 = .ok vo? := h
  unfold QrApproval.exec at h
  cases hm : m.failure with
  | some e =>
      rw [hm] at h
      cases h
  | none =>
      rw [hm] at h
      exact Except.ok.inj h

lemma exec_load {m : Moment} (hm : m.failure = none) (id : Uuid) (db : Db) :
    exec jsonb (.Load .FileGrant id) m db = (.ok ((db.qrRequests .FileGrant).get? id), db) := by
  simp only [exec, QrApproval.exec, hm, effect]

lemma exec_loadIdentity {m : Moment} (hm : m.failure = none) (identityId : String) (db : Db) :
    exec jsonb (.LoadIdentity identityId) m db
      = (.ok (Identity.activeIdentity identityId db), db) := by
  simp only [exec, QrApproval.exec, hm, effect]

lemma exec_loadVaultObject {m : Moment} (hm : m.failure = none) (vaultObjectId : String)
    (db : Db) : exec jsonb (.LoadVaultObject vaultObjectId) m db
      = (.ok (activeObject vaultObjectId db), db) := by
  simp only [exec, QrApproval.exec, hm, effect, activeObject]

lemma textsOf_arr (items : List String) : textsOf (.Arr (items.map .Str)) = items := by
  show (items.map Json.Str).filterMap Json.asStr = items
  rw [List.filterMap_map]
  exact List.filterMap_some

/-- A request that is stored can be read back, with what the column keeps of its envelope. -/
lemma found_of_insert {row : QrRequest .FileGrant} {m : Moment} {db : Db}
    (h : (exec jsonb (.Insert .FileGrant row) m db).1 = .ok ()) :
    ∃ kept, jsonb.store row.columns.keyEnvelope = some kept
      ∧ ((exec jsonb (.Insert .FileGrant row) m db).2.qrRequests .FileGrant).get? row.id
        = some (withEnvelope kept row) := by
  simp only [exec] at h ⊢
  split at h
  · next permissions keyEnvelope hpermissions hkept =>
      refine ⟨keyEnvelope, hkept, ?_⟩
      have hrow : withPermissions (textsOf permissions) row = row := by
        rw [jsonb.texts _ _ hpermissions, textsOf_arr]
        rfl
      rw [hrow] at h ⊢
      unfold QrApproval.exec at h ⊢
      cases hm : m.failure with
      | some e =>
          rw [hm] at h
          cases h
      | none =>
          simp only [hm, effect] at h ⊢
          split at h
          · cases h
          · split at h
            · next requests hinsert =>
                simp only [withRequests, Function.update_self]
                exact (Table.get?_insert hinsert _).trans (if_pos rfl)
            · cases h
  · cases h

/-! ## What a start stores -/

/-- The hash of a start, over what the request says. -/
def startHash (codec : TextCodec) (rfc3339 : DateTime → String) (state : AppState)
    (req : QrFileGrantStartRequest) (m : Moment) (vo : VaultObject) (keyEnvelope : Json)
    (encryptedFileKey : String) : String :=
  grantContextHash state codec rfc3339 (qrGrantContext req.identityId vo
    (requestedGrant m req keyEnvelope encryptedFileKey "") req.grantExpiresAt)

/-- The row of a request, with what the column keeps of its envelope. -/
def storedRequest (req : QrFileGrantStartRequest) (m : Moment) (keyEnvelope kept : Json)
    (encryptedFileKey hash : String) : QrRequest .FileGrant :=
  withEnvelope kept (newRequest .FileGrant m req.identityId 5
    (requestedGrant m req keyEnvelope encryptedFileKey hash))

/-- What a start that is accepted at a moment `m` has looked at, stored and answered. -/
structure Accepted (jsonb : Jsonb) (codec : TextCodec) (rfc3339 : DateTime → String)
    (state : AppState) (req : QrFileGrantStartRequest) (db started : Db)
    (answer : QrStartResponse .FileGrant) (m : Moment) (vo : VaultObject) (keyEnvelope kept : Json)
    (encryptedFileKey : String) : Prop where
  object : activeObject req.vaultObjectId db = some vo
  owner : vo.ownerIdentityId = req.identityId
  normalized : normalizeQrGrantKeyEnvelope req.keyEnvelope req.encryptedFileKey
    req.recipientIdentityId = .ok (keyEnvelope, encryptedFileKey)
  store : jsonb.store keyEnvelope = some kept
  found : (started.qrRequests .FileGrant).get? (m.uuid 0) = some (storedRequest req m keyEnvelope
    kept encryptedFileKey (startHash codec rfc3339 state req m vo keyEnvelope encryptedFileKey))
  answered : answer =
    { requestId := (m.uuid 0).text
      challenge := Text.hexEncode m.nonce
      oracleUrl := oracleUrl state
      expiresAt := m.now + 5 * 60000000
      details :=
        { grantId := (m.uuid 1).text
          grantContextHash :=
            startHash codec rfc3339 state req m vo keyEnvelope encryptedFileKey } }

theorem accepted_of_start {req : QrFileGrantStartRequest} {m : Nat → Moment} {db started : Db}
    {answer : QrStartResponse .FileGrant}
    (h : start jsonb codec rfc3339 state req m db = (.Started .FileGrant (.ok answer), started)) :
    ∃ vo keyEnvelope kept encryptedFileKey, Accepted jsonb codec rfc3339 state req db started answer
      (m 1) vo keyEnvelope kept encryptedFileKey := by
  have hne : ∀ e : ApiError, Reply.Started .FileGrant (.ok answer)
      ≠ Reply.Started .FileGrant (.error e) := by
    intro e heq
    cases heq
  obtain ⟨_, -, h⟩ := Proc.ok_of_run_check h hne
  obtain ⟨_, -, h⟩ := Proc.ok_of_run_check h hne
  obtain ⟨_, -, h⟩ := Proc.ok_of_run_check h hne
  obtain ⟨_, -, h⟩ := Proc.ok_of_run_check h hne
  obtain ⟨vo?, hvo?, h⟩ := Proc.ok_of_run_check h hne
  obtain ⟨vo, hvo, h⟩ := Proc.ok_of_run_check h hne
  obtain ⟨_, howner, h⟩ := Proc.ok_of_run_check h hne
  obtain ⟨_, -, h⟩ := Proc.ok_of_run_check h hne
  obtain ⟨_, -, h⟩ := Proc.ok_of_run_check h hne
  obtain ⟨_, -, h⟩ := Proc.ok_of_run_check h hne
  obtain ⟨⟨keyEnvelope, encryptedFileKey⟩, hnormalized, h⟩ := Proc.ok_of_run_check h hne
  obtain ⟨_, hinserted, h⟩ := Proc.ok_of_run_check h hne
  obtain ⟨hanswer, rfl⟩ := Prod.mk.inj h
  have hobject := object_of_load (Pre.eq_ok_of_mapErr hvo?)
  rw [okOr_eq_ok hvo] at hobject
  obtain ⟨kept, hkept, hfound⟩ := found_of_insert (Pre.eq_ok_of_mapErr hinserted)
  cases hanswer
  have howner : vo.ownerIdentityId = req.identityId := of_decide_eq_true (ensure_eq_ok howner)
  exact ⟨vo, keyEnvelope, kept, encryptedFileKey, hobject, howner, hnormalized, hkept, hfound, rfl⟩

/-! ## Two hashes -/

/-- The last line of a text, and the end of the line before it. -/
lemma last_line_inj {p e e' name h h' : String} {line : List Char}
    (hname : name.toList = '\n' :: line) (hline : '\n' ∉ line) (hh : '\n' ∉ h.toList)
    (hh' : '\n' ∉ h'.toList) : p ++ e ++ name ++ h = p ++ e' ++ name ++ h' ↔ e = e' ∧ h = h' := by
  constructor
  · intro heq
    have heq := congrArg String.toList heq
    simp only [String.toList_append, hname, List.append_assoc, List.cons_append] at heq
    have hrest := List.append_cancel_left heq
    have hlast : ∀ {t : String}, '\n' ∉ t.toList → '\n' ∉ line ++ t.toList :=
      fun ht hmem => (List.mem_append.mp hmem).elim hline ht
    obtain ⟨he, hends⟩ := Labels.last_part (hlast hh) (hlast hh') hrest
    exact ⟨String.toList_injective he, String.toList_injective (List.append_cancel_left hends)⟩
  · rintro ⟨rfl, rfl⟩
    rfl

/-- The message up to the expiry. -/
def front (state : AppState) (codec : TextCodec) (c : GrantSignatureContext) : String :=
  "vaulted-grant-v1\nversion:1\naction:" ++ c.action
    ++ "\ngrant_id:" ++ c.grantId.text
    ++ "\nvault_object_id:" ++ c.vaultObjectId
    ++ "\nnft_token_id:" ++ c.nftTokenId.getD ""
    ++ "\nowner_identity_id:" ++ c.ownerIdentityId
    ++ "\nrecipient_identity_id:" ++ c.recipientIdentityId
    ++ "\npermissions_sha256:" ++ stableJsonSha256Hex state codec c.permissions
    ++ "\nexpires_at:"

lemma front_congr {c c' : GrantSignatureContext} (haction : c.action = c'.action)
    (hgrant : c.grantId = c'.grantId) (hobject : c.vaultObjectId = c'.vaultObjectId)
    (hnft : c.nftTokenId = c'.nftTokenId) (howner : c.ownerIdentityId = c'.ownerIdentityId)
    (hrecipient : c.recipientIdentityId = c'.recipientIdentityId)
    (hpermissions : c.permissions = c'.permissions) :
    front state codec c = front state codec c' := by
  unfold front
  rw [haction, hgrant, hobject, hnft, howner, hrecipient, hpermissions]

/-- **Of the expiry and the envelope, the message has their texts.** -/
theorem message_eq_iff {c c' : GrantSignatureContext} (hfront : front state codec c
    = front state codec c') : grantSignatureMessage state codec rfc3339 c
        = grantSignatureMessage state codec rfc3339 c'
      ↔ (c.expiresAt.map rfc3339).getD "" = (c'.expiresAt.map rfc3339).getD ""
        ∧ stableJsonSha256Hex state codec c.keyEnvelope
          = stableJsonSha256Hex state codec c'.keyEnvelope := by
  have hmessage : ∀ c, grantSignatureMessage state codec rfc3339 c
      = front state codec c ++ (c.expiresAt.map rfc3339).getD "" ++ "\nkey_envelope_sha256:"
        ++ stableJsonSha256Hex state codec c.keyEnvelope := fun c => rfl
  have hname : "\nkey_envelope_sha256:".toList = '\n' :: "key_envelope_sha256:".toList := by
    decide +kernel
  rw [hmessage, hmessage, hfront]
  exact last_line_inj hname (by decide +kernel) (not_mem_hexEncode _) (not_mem_hexEncode _)

/-- The hash of a confirmation, over what it reads back. -/
def confirmHash (codec : TextCodec) (rfc3339 : DateTime → String) (state : AppState)
    (row : QrRequest .FileGrant) (vo : VaultObject) : String :=
  grantContextHash state codec rfc3339 (qrGrantContext row.identityId vo row.columns
    (row.columns.grantExpiresAt.map Time.dateTime))

lemma grantContextHash_eq_iff
    (hsha : ∀ bytes bytes', state.sha256 bytes = state.sha256 bytes' → bytes = bytes')
    {c c' : GrantSignatureContext} : grantContextHash state codec rfc3339 c
        = grantContextHash state codec rfc3339 c'
      ↔ grantSignatureMessage state codec rfc3339 c
        = grantSignatureMessage state codec rfc3339 c' := by
  refine ⟨fun heq => Text.utf8_injective (hsha _ _ (Text.hexEncode_injective heq)), fun heq => ?_⟩
  rw [grantContextHash, heq, grantContextHash]

lemma stableJsonSha256Hex_eq_iff
    (hsha : ∀ bytes bytes', state.sha256 bytes = state.sha256 bytes' → bytes = bytes')
    {j j' : Json} : stableJsonSha256Hex state codec j = stableJsonSha256Hex state codec j'
      ↔ codec.jsonToString (canonicalJson j) = codec.jsonToString (canonicalJson j') := by
  refine ⟨fun heq => Text.utf8_injective (hsha _ _ (Text.hexEncode_injective heq)), fun heq => ?_⟩
  rw [stableJsonSha256Hex, heq, stableJsonSha256Hex]

section Hashes

variable {req : QrFileGrantStartRequest} {db started : Db} {answer : QrStartResponse .FileGrant}
  {m : Moment} {vo vo' : VaultObject} {keyEnvelope kept : Json} {encryptedFileKey hash : String}

/-- **The two hashes agree** if and only if the expiry and the envelope survive. -/
theorem confirmHash_eq_iff
    (hsha : ∀ bytes bytes', state.sha256 bytes = state.sha256 bytes' → bytes = bytes')
    (htime : ∀ t t', rfc3339 t = rfc3339 t' → t = t') (hnft : vo'.nftTokenId = vo.nftTokenId) :
    confirmHash codec rfc3339 state (storedRequest req m keyEnvelope kept encryptedFileKey hash) vo'
        = startHash codec rfc3339 state req m vo keyEnvelope encryptedFileKey
      ↔ (∀ t, req.grantExpiresAt = some t → t.IsWhole)
        ∧ codec.jsonToString (canonicalJson kept)
          = codec.jsonToString (canonicalJson keyEnvelope) := by
  have hfront : front state codec (qrGrantContext req.identityId vo'
      (storedRequest req m keyEnvelope kept encryptedFileKey hash).columns
      ((req.grantExpiresAt.map DateTime.stored).map Time.dateTime))
      = front state codec (qrGrantContext req.identityId vo
        (requestedGrant m req keyEnvelope encryptedFileKey "") req.grantExpiresAt) :=
    front_congr rfl rfl rfl hnft rfl rfl rfl
  refine ((grantContextHash_eq_iff hsha).trans (message_eq_iff hfront)).trans
    (and_congr ?_ (stableJsonSha256Hex_eq_iff hsha))
  show (((req.grantExpiresAt.map DateTime.stored).map Time.dateTime).map rfc3339).getD ""
    = (req.grantExpiresAt.map rfc3339).getD "" ↔ _
  cases req.grantExpiresAt with
  | none => simp
  | some t =>
      have hprinted : rfc3339 (Time.dateTime (DateTime.stored t)) = rfc3339 t ↔ t.IsWhole := by
        rw [← t.dateTime_stored]
        exact ⟨htime _ _, congrArg rfc3339⟩
      simpa using hprinted

end Hashes

lemma ordinary_of_texts (members : List (String × String)) (h : (members.map Prod.fst).Nodup) :
    (Json.Obj (members.map fun m => (m.1, .Str m.2))).Plain
      ∧ Distinct (.Obj (members.map fun m => (m.1, .Str m.2))) := by
  constructor
  · refine .Obj _ fun member hmem => ?_
    obtain ⟨m, -, rfl⟩ := List.mem_map.mp hmem
    exact .Str _
  · refine .Obj _ (by rwa [List.map_map]) fun member hmem => ?_
    obtain ⟨m, -, rfl⟩ := List.mem_map.mp hmem
    exact .Str _

/-- The envelope of a request without one is ordinary. -/
lemma plain_of_normalized {keyEnvelope? : Option Json} {encryptedFileKey? : Option String}
    {recipient encryptedFileKey : String} {keyEnvelope : Json}
    (hplain : ∀ keyEnvelope, keyEnvelope? = some keyEnvelope →
      keyEnvelope.Plain ∧ Distinct keyEnvelope)
    (h : normalizeQrGrantKeyEnvelope keyEnvelope? encryptedFileKey? recipient
      = .ok (keyEnvelope, encryptedFileKey)) : keyEnvelope.Plain ∧ Distinct keyEnvelope := by
  cases keyEnvelope? with
  | some value =>
      obtain ⟨_, -, h⟩ := bind_eq_ok h
      obtain ⟨_, -, h⟩ := bind_eq_ok h
      obtain ⟨_, -, h⟩ := bind_eq_ok h
      cases h
      exact hplain _ rfl
  | none =>
      obtain ⟨_, -, h⟩ := bind_eq_ok h
      cases h
      exact ordinary_of_texts [("protocol", "vaulted-key-envelope-v1"),
        ("alg", "legacy-pre-aes-key"), ("recipient_type", "grant-recipient"),
        ("recipient_identity_id", recipient), ("encrypted_file_key", encryptedFileKey)]
        (by decide +kernel : ["protocol", "alg", "recipient_type", "recipient_identity_id",
          "encrypted_file_key"].Nodup)

/-! ## What a confirmation goes on with -/

section Confirmation

variable {confirmation : QrConfirmRequest} {m : Nat → Moment} {now : Db}
  {row : QrRequest .FileGrant} {identity : VaultedIdentity} {vo : VaultObject}

/-- A confirmation of a pending request, by its owner, creates the grant if the hash is that of
the request. -/
lemma confirm_of_hash (hid : parseUuid confirmation.requestId = some row.id)
    (hfound : (now.qrRequests .FileGrant).get? row.id = some row)
    (hmine : row.identityId = confirmation.identityId) (hpending : row.status = .Pending)
    (hlive : ¬row.expiresAt < (m 0).now)
    (hgrant : (row.columns.grantExpiresAt.any fun t => decide (t ≤ (m 0).now)) = false)
    (hidentity : Identity.activeIdentity confirmation.identityId now = some identity)
    (hkey : identity.signingPublicKey = confirmation.signingPublicKey)
    (hobject : activeObject row.columns.vaultObjectId now = some vo)
    (howner : vo.ownerIdentityId = row.identityId)
    (hhash : confirmHash codec rfc3339 state row vo = row.columns.grantContextHash)
    (hsigned : verifyEd25519Hex ed confirmation.signingPublicKey (Text.utf8
      (fileGrantApprovalMessage confirmation.requestId row.challenge (oracleUrl state)
        row.columns.vaultObjectId row.columns.grantId.text row.columns.recipientIdentityId
        row.columns.grantContextHash row.columns.requesterDeviceId row.columns.requesterDeviceName
        confirmation.authorizingDeviceId)) confirmation.signature = .ok ())
    (hanswered : ∀ n < 3, (m n).failure = none) :
    confirm jsonb ed codec rfc3339 state confirmation m now
      = (createGrant confirmation row.id row).run (exec jsonb) (fun n => m (n + 3)) now := by
  have hok : ∀ {p : Bool} {e : ApiError}, p = true → ensure p e = .ok () := by
    rintro p e rfl
    rfl
  have hloaded : ∀ {α : Type} {context : String} {a : α},
      loaded context (.ok a) = .ok a := fun {_ _ _} => rfl
  have hsome : ∀ {α : Type} {a : α} {e : ApiError},
      okOr (some a) e = .ok a := fun {_ _ _} => rfl
  unfold confirmHash at hhash
  unfold confirm confirmQrFileGrantApproval pendingRequest
  rw [Proc.run_check ((congrArg (okOr · _) hid).trans hsome), Proc.run_exec,
    exec_load (hanswered 0 (by decide)), Proc.run_check hloaded, hfound, Proc.run_check hsome,
    Proc.run_check (hok (decide_eq_true hmine)), Proc.run_check (hok (decide_eq_true hpending)),
    if_neg hlive]
  beta_reduce
  rw [if_neg (ne_true_of_eq_false hgrant)]
  unfold signer
  rw [Proc.run_exec, exec_loadIdentity (hanswered 1 (by decide)), Proc.run_check hloaded,
    hidentity, Proc.run_check hsome, Proc.run_check (hok (decide_eq_true hkey)), Proc.run_exec,
    exec_loadVaultObject (hanswered 2 (by decide)), Proc.run_check hloaded, hobject,
    Proc.run_check hsome, Proc.run_check (hok (decide_eq_true howner)),
    Proc.run_check (hok (decide_eq_true hhash)), Proc.run_check hsigned]
  rfl

end Confirmation

section Approvals

variable {req : QrFileGrantStartRequest} {answer : QrStartResponse .FileGrant}
  {m m' : Nat → Moment} {db started now : Db} {confirmation : QrConfirmRequest}

/-- An expiry of whole microseconds that has not passed has not passed in the column either. -/
lemma stored_live {t : DateTime} {time : Time} (ht : t.IsWhole) (hlive : time.dateTime < t) :
    ¬t.stored ≤ time := by
  rw [← t.dateTime_stored] at ht
  rw [← ht] at hlive
  obtain ⟨time', htime⟩ : ∃ time', t.stored = time' := ⟨_, rfl⟩
  rw [htime] at hlive ⊢
  have hless : time.dateTime.timestamp < (Time.dateTime time').timestamp
      ∨ time.dateTime.timestamp = (Time.dateTime time').timestamp
        ∧ time.dateTime.subsecNanos < (Time.dateTime time').subsecNanos := hlive
  simp only [Time.dateTime] at hless
  unfold Time at *
  omega

/-- The vault object of an undisturbed request, as it is now. -/
lemma object_of_undisturbed {vo : VaultObject}
    (h : Undisturbed ed state req answer db started now confirmation m')
    (hobject : activeObject req.vaultObjectId db = some vo) :
    ∃ vo', activeObject req.vaultObjectId now = some vo'
      ∧ vo'.ownerIdentityId = vo.ownerIdentityId ∧ vo'.nftTokenId = vo.nftTokenId := by
  have hsame := h.object
  rw [ownerAndNft, ownerAndNft, hobject] at hsame
  obtain ⟨vo', hvo', hsame⟩ := Option.map_eq_some_iff.mp hsame
  exact ⟨vo', hvo', Prod.mk.inj hsame⟩

/-- The hash of the confirmation is that of the start if and only if the request survives. -/
lemma hash_eq_iff_survives {m : Moment} {vo vo' : VaultObject} {keyEnvelope kept : Json}
    {encryptedFileKey : String}
    (hsha : ∀ bytes bytes', state.sha256 bytes = state.sha256 bytes' → bytes = bytes')
    (htime : ∀ t t', rfc3339 t = rfc3339 t' → t = t')
    (h : Accepted jsonb codec rfc3339 state req db started answer m vo keyEnvelope kept
      encryptedFileKey) (hnft : vo'.nftTokenId = vo.nftTokenId) :
    confirmHash codec rfc3339 state (storedRequest req m keyEnvelope kept encryptedFileKey
        (startHash codec rfc3339 state req m vo keyEnvelope encryptedFileKey)) vo'
        = startHash codec rfc3339 state req m vo keyEnvelope encryptedFileKey
      ↔ Survives jsonb codec req := by
  refine (confirmHash_eq_iff hsha htime hnft).trans ⟨?_, fun hsurvives => ?_⟩
  · rintro ⟨hexpiry, henvelope⟩
    refine ⟨hexpiry, fun keyEnvelope' encryptedFileKey' stored hnormalized hstored => ?_⟩
    rw [h.normalized] at hnormalized
    cases hnormalized
    rw [h.store] at hstored
    cases hstored
    exact henvelope
  · exact ⟨hsurvives.expiresAt, hsurvives.keyEnvelope _ _ _ h.normalized h.store⟩

lemma survives_of_approved
    (hsha : ∀ bytes bytes', state.sha256 bytes = state.sha256 bytes' → bytes = bytes')
    (htime : ∀ t t', rfc3339 t = rfc3339 t' → t = t')
    (hstart : start jsonb codec rfc3339 state req m db
      = (.Started .FileGrant (.ok answer), started))
    (h : Undisturbed ed state req answer db started now confirmation m')
    (happroved : Approved jsonb ed codec rfc3339 state answer now confirmation m') :
    Survives jsonb codec req := by
  obtain ⟨vo, keyEnvelope, kept, encryptedFileKey, haccepted⟩ := accepted_of_start hstart
  obtain ⟨vo', hobject, -, hnft⟩ := object_of_undisturbed h haccepted.object
  obtain rfl := haccepted.answered
  exact (hash_eq_iff_survives hsha htime haccepted hnft).mp
    (happroved.hash _ vo' (h.kept.trans haccepted.found) hobject)

lemma approved_of_survives
    (hsha : ∀ bytes bytes', state.sha256 bytes = state.sha256 bytes' → bytes = bytes')
    (htime : ∀ t t', rfc3339 t = rfc3339 t' → t = t')
    (hstart : start jsonb codec rfc3339 state req m db
      = (.Started .FileGrant (.ok answer), started))
    (h : Undisturbed ed state req answer db started now confirmation m')
    (hsurvives : Survives jsonb codec req) :
    Approved jsonb ed codec rfc3339 state answer now confirmation m' := by
  obtain ⟨vo, keyEnvelope, kept, encryptedFileKey, haccepted⟩ := accepted_of_start hstart
  obtain ⟨vo', hobject, howner, hnft⟩ := object_of_undisturbed h haccepted.object
  have hhash := (hash_eq_iff_survives hsha htime haccepted hnft).mpr hsurvives
  obtain rfl := haccepted.answered
  have hfound := h.kept.trans haccepted.found
  obtain ⟨identity, hidentity, hkey⟩ := h.identity
  refine ⟨fun row vo₁ hrow hvo₁ => ?_, _, hfound, confirm_of_hash h.requestId hfound
    h.identityId.symm rfl h.requestLive ?_ (h.identityId ▸ hidentity) hkey hobject
    (howner.trans haccepted.owner) hhash h.signed h.answered⟩
  · rw [hfound] at hrow
    cases hrow
    cases hobject.symm.trans hvo₁
    exact hhash
  · show ((req.grantExpiresAt.map DateTime.stored).any fun t => decide (t ≤ (m' 0).now)) = false
    cases hexpires : req.grantExpiresAt with
    | none => rfl
    | some t =>
        rw [Option.map_some, Option.any_some]
        exact decide_eq_false
          (stored_live (hsurvives.expiresAt t hexpires) (h.grantLive t hexpires))

/-- **An undisturbed request is approved** if and only if what it hashed survives. The hash is made
of the expiry and the envelope as they are sent, and is compared with that of what the columns give
back, which keep microseconds and no leap second, and store an envelope in a form of their own. -/
theorem approved_iff
    (hsha : ∀ bytes bytes', state.sha256 bytes = state.sha256 bytes' → bytes = bytes')
    (htime : ∀ t t', rfc3339 t = rfc3339 t' → t = t')
    (hstart : start jsonb codec rfc3339 state req m db
      = (.Started .FileGrant (.ok answer), started))
    (h : Undisturbed ed state req answer db started now confirmation m') :
    Approved jsonb ed codec rfc3339 state answer now confirmation m'
      ↔ Survives jsonb codec req :=
  ⟨survives_of_approved hsha htime hstart h, approved_of_survives hsha htime hstart h⟩

/-- **Of an ordinary envelope, only the expiry counts**: the request is approved if and only if it
has none, or one of whole microseconds that is in no leap second. -/
theorem approved_iff_of_plain
    (hsha : ∀ bytes bytes', state.sha256 bytes = state.sha256 bytes' → bytes = bytes')
    (htime : ∀ t t', rfc3339 t = rfc3339 t' → t = t')
    (hstart : start jsonb codec rfc3339 state req m db
      = (.Started .FileGrant (.ok answer), started))
    (h : Undisturbed ed state req answer db started now confirmation m')
    (hplain : ∀ keyEnvelope, req.keyEnvelope = some keyEnvelope →
      keyEnvelope.Plain ∧ Distinct keyEnvelope) :
    Approved jsonb ed codec rfc3339 state answer now confirmation m'
      ↔ ∀ t, req.grantExpiresAt = some t → t.IsWhole := by
  refine ⟨fun happroved => (survives_of_approved hsha htime hstart h happroved).expiresAt,
    fun hexpiry => approved_of_survives hsha htime hstart h ⟨hexpiry, fun keyEnvelope
      encryptedFileKey stored hnormalized hstored => ?_⟩⟩
  have hordinary := plain_of_normalized hplain hnormalized
  exact congrArg codec.jsonToString (jsonb.plain _ _ hordinary.1 hordinary.2 hstored)

end Approvals

end RoundTrip

/-! ## Alice approves a grant to Bob -/

namespace Sample

open Transfers.Sample RecipientKey.Sample
open VaultObjects.Sample (newYear tally tally_injective of_mem_tally)

/-- The vault object of Alice, and nothing else that matters. -/
def owned : Db :=
  { Transfers.Sample.db [] List.nodup_nil with
    identities := ⟨[identity 1 "alice", identity 2 "bob"], by decide⟩ }

/-- The message that is hashed, with the text of its expiry. -/
def message (expiresAt : String) : String :=
  "vaulted-grant-v1\nversion:1\naction:create\ngrant_id:00000000-0000-4000-8000-000000000002"
    ++ "\nvault_object_id:nft\nnft_token_id:" ++ tokenId
    ++ "\nowner_identity_id:alice\nrecipient_identity_id:bob\npermissions_sha256:"
    ++ "8a2d0b87e8c712cc8e06c5c3f8de5e7f9dc8edcca03079a7aec0cb6436294927"
    ++ "\nexpires_at:" ++ expiresAt ++ "\nkey_envelope_sha256:"
    ++ "7fdf6346df62f00e9b7891a9ff2f501021abf97bf711ddd1c50713906619ca97"

/-- The digests of the permissions, the envelope and two messages, and something else for
everything else. -/
def sha256 (bytes : List UInt8) : List UInt8 :=
  if bytes = Text.utf8 "[\"read\"]" then
    [138, 45, 11, 135, 232, 199, 18, 204, 142, 6, 197, 195, 248, 222, 94, 127, 157, 200, 237, 204,
      160, 48, 121, 167, 174, 192, 203, 100, 54, 41, 73, 39]
  else if bytes = Text.utf8 ("\x7b\"alg\":\"legacy-pre-aes-key\","
      ++ "\"encrypted_file_key\":\"ciphertext\","
      ++ "\"protocol\":\"vaulted-key-envelope-v1\",\"recipient_identity_id\":\"bob\","
      ++ "\"recipient_type\":\"grant-recipient\"\x7d") then
    [127, 223, 99, 70, 223, 98, 240, 14, 155, 120, 145, 169, 255, 47, 80, 16, 33, 171, 249, 123,
      247, 17, 221, 209, 197, 7, 19, 144, 102, 25, 202, 151]
  else if bytes = Text.utf8 (message "2035-01-01T00:00:00+00:00") then
    [229, 0, 11, 51, 245, 80, 222, 61, 15, 4, 104, 75, 185, 42, 196, 251, 35, 106, 240, 131, 79,
      34, 221, 212, 118, 34, 112, 252, 172, 193, 78, 234]
  else if bytes = Text.utf8 (message "2035-01-01T00:00:00.000000001+00:00") then
    [52, 164, 171, 156, 199, 19, 162, 252, 101, 100, 65, 155, 81, 238, 170, 96, 8, 9, 71, 83, 68,
      102, 218, 138, 127, 222, 75, 70, 24, 196, 104, 6]
  else 0 :: bytes

lemma sha256_injective (bytes bytes' : List UInt8) (h : sha256 bytes = sha256 bytes') :
    bytes = bytes' := by
  unfold sha256 at h
  generalize Text.utf8 (message "2035-01-01T00:00:00+00:00") = a at h
  generalize Text.utf8 (message "2035-01-01T00:00:00.000000001+00:00") = b at h
  generalize Text.utf8 "[\"read\"]" = c at h
  split_ifs at h
  all_goals simp_all

/-- A nanosecond after the beginning of 2035. -/
def nextNanosecond : DateTime where
  timestamp := newYear.timestamp
  subsecNanos := 1
  bound := by decide
  leap h := absurd h (by decide)

/-- The texts of two times, and something else for everything else. -/
def printTime (t : DateTime) : String :=
  if t = newYear then "2035-01-01T00:00:00+00:00"
  else if t = nextNanosecond then "2035-01-01T00:00:00.000000001+00:00"
  else String.ofList (tally t)

lemma printTime_injective (t t' : DateTime) (h : printTime t = printTime t') : t = t' := by
  have hother : ∀ {text : String} (t : DateTime), '2' ∈ text.toList →
      text ≠ String.ofList (tally t) := by
    rintro text t hmem rfl
    rw [String.toList_ofList] at hmem
    rcases of_mem_tally hmem with h | h <;> cases h
  unfold printTime at h
  split_ifs at h with h₁ h₂ h₃ h₄ h₅ h₆ h₇ h₈
  · exact h₁.trans h₂.symm
  · exact absurd h (by decide +kernel)
  · exact absurd h (hother _ (by decide +kernel))
  · exact absurd h (by decide +kernel)
  · exact h₄.trans h₆.symm
  · exact absurd h (hother _ (by decide +kernel))
  · exact absurd h.symm (hother _ (by decide +kernel))
  · exact absurd h.symm (hother _ (by decide +kernel))
  · exact tally_injective (String.ofList_injective h)

def approving : AppState := { Tombstone.Sample.oracle with sha256 := sha256 }

/-- A column that gives back what it is given. -/
def jsonb : Jsonb where
  store := some
  texts _ _ h := (Option.some.inj h).symm
  plain _ _ _ _ h := by rw [Option.some.inj h]

def moment : Moment where
  now := 0
  uuid n := ⟨if n = 0 then "00000000-0000-4000-8000-000000000001"
    else "00000000-0000-4000-8000-000000000002"⟩
  nonce := List.replicate 32 7
  failure := none

/-- The request of Alice's desktop, with an expiry. -/
def request (expiresAt : DateTime) : QrFileGrantStartRequest where
  identityId := "alice"
  vaultObjectId := "nft"
  recipientIdentityId := "bob"
  keyEnvelope := none
  encryptedFileKey := some "ciphertext"
  permissions := ["read"]
  grantExpiresAt := some expiresAt
  requesterDeviceId := none
  requesterDeviceName := none

def starting (expiresAt : DateTime) : Reply × Db :=
  start jsonb JsonText.compact printTime approving (request expiresAt) (fun _ => moment) owned

lemma starting_ok {t : DateTime}
    (h : (match (starting t).1 with
      | .Started .FileGrant (.ok _) => true
      | _ => false) = true) :
    ∃ answer started, starting t = (.Started .FileGrant (.ok answer), started) := by
  generalize starting t = outcome at h ⊢
  obtain ⟨reply, started⟩ := outcome
  split at h
  · next answer heq => exact ⟨answer, started, Prod.ext heq rfl⟩
  · cases h

/-- The confirmation of Alice's phone, with a signature. -/
def confirmation (signature : String) : QrConfirmRequest where
  requestId := "00000000-0000-4000-8000-000000000001"
  identityId := "alice"
  authorizingDeviceId := "phone"
  signingPublicKey := Text.hexEncode (signingKey 1)
  signature := signature

/-- What Alice's phone shows. -/
def displayed (expiresAt : DateTime) (answer : QrStartResponse .FileGrant) : String :=
  displayedMessage approving (request expiresAt) answer (confirmation "")

lemma displayed_eq (expiresAt : DateTime) (answer : QrStartResponse .FileGrant) (signature : String) :
    displayedMessage approving (request expiresAt) answer (confirmation signature)
      = displayed expiresAt answer := by
  unfold displayed displayedMessage
  rfl

def signed (expiresAt : DateTime) (answer : QrStartResponse .FileGrant) : QrConfirmRequest :=
  confirmation (Text.hexEncode
    (Ed25519.sign (signingKey 1) (Text.utf8 (displayed expiresAt answer))))

/-- Alice confirms the request at once. -/
lemma undisturbed {expiresAt : DateTime} {answer : QrStartResponse .FileGrant} {started : Db}
    (h : starting expiresAt = (.Started .FileGrant (.ok answer), started))
    (hlive : Time.dateTime 0 < expiresAt)
    (hobject : ownerAndNft "nft" (starting expiresAt).2 = some ("alice", some tokenId))
    (hidentity : (Identity.activeIdentity "alice" (starting expiresAt).2).map (·.signingPublicKey)
      = some (Text.hexEncode (signingKey 1))) :
    Undisturbed Ed25519.transparent approving (request expiresAt) answer owned started started
      (signed expiresAt answer) (fun _ => moment) := by
  obtain ⟨vo, keyEnvelope, kept, encryptedFileKey, haccepted⟩ := accepted_of_start h
  have hanswer := haccepted.answered
  rw [h] at hobject hidentity
  obtain ⟨identity, hactive, hkey⟩ := Option.map_eq_some_iff.mp hidentity
  exact
    { requestId := by
        have hid : parseUuid "00000000-0000-4000-8000-000000000001" = some (moment.uuid 0) := by
          decide +kernel
        rw [hanswer]
        exact hid
      identityId := rfl
      kept := rfl
      object := hobject
      identity := ⟨identity, hactive, hkey⟩
      requestLive := by
        rw [hanswer]
        exact Nat.not_lt_zero _
      grantLive := by
        rintro _ ⟨⟩
        exact hlive
      signed := by
        rw [signed, displayed_eq]
        exact Ed25519.verifyWith_sign List.length_replicate
      answered := fun _ _ => rfl }

/-- **A grant until the new year** is approved. -/
theorem approved_until_newYear : ∃ answer started,
    starting newYear = (.Started .FileGrant (.ok answer), started)
      ∧ Undisturbed Ed25519.transparent approving (request newYear) answer owned started started
        (signed newYear answer) (fun _ => moment)
      ∧ Approved jsonb Ed25519.transparent JsonText.compact printTime approving answer started
        (signed newYear answer) (fun _ => moment) := by
  obtain ⟨answer, started, hstart⟩ := starting_ok (t := newYear) (by decide +kernel)
  have hundisturbed := undisturbed hstart (by decide) (by decide +kernel) (by decide +kernel)
  refine ⟨answer, started, hstart, hundisturbed,
    (approved_iff sha256_injective printTime_injective hstart hundisturbed).mpr ⟨?_, ?_⟩⟩
  · rintro _ ⟨⟩
    exact ⟨by decide, by decide⟩
  · rintro keyEnvelope _ stored - hstored
    rw [Option.some.inj hstored]

/-- **A grant until a nanosecond later** is shown and signed, and the hash is another one. -/
theorem not_approved : ∃ answer started,
    starting nextNanosecond = (.Started .FileGrant (.ok answer), started)
      ∧ Undisturbed Ed25519.transparent approving (request nextNanosecond) answer owned started
        started (signed nextNanosecond answer) (fun _ => moment)
      ∧ ¬Approved jsonb Ed25519.transparent JsonText.compact printTime approving answer started
        (signed nextNanosecond answer) (fun _ => moment) := by
  obtain ⟨answer, started, hstart⟩ := starting_ok (t := nextNanosecond) (by decide +kernel)
  have hundisturbed := undisturbed hstart (by decide) (by decide +kernel) (by decide +kernel)
  refine ⟨answer, started, hstart, hundisturbed, fun happroved => ?_⟩
  have hsurvives := survives_of_approved sha256_injective printTime_injective hstart hundisturbed
    happroved
  exact absurd (hsurvives.expiresAt _ rfl).2 (by decide)

end Sample

end Vaulted.GrantRoundTrip
