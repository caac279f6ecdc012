import Vaulted.Oracle.Ownership
import Vaulted.Oracle.Vault
import Vaulted.Oracle.VaultObjects
import Vaulted.Transfer.HonestRequest
import Vaulted.Transfer.System

/-!
# Tombstones

`deleteVault` archives the NFT, marks its vault object deleted and revokes its grants
(`tombstoned_deleteVault`).  Nothing else in the Oracle looks at these marks: a transfer that was
pending at the deletion can still be signed and claimed, a second mint can be finalised, and the
ledger synchronisation can find the token under another wallet, and each of them writes the
status of the NFT.

* `Call` — the calls that may follow a deletion, `step` and `exec` — what they leave.
* `Tombstoned` — the marks of a deletion.
* `Revives` — the calls that overwrite them.
* `staysTombstoned_of_spared` — a run without such calls keeps the tombstone.
* `not_staysTombstoned` — a pending transfer that revives a deleted vault.
-/

namespace Vaulted.Tombstone

open Autocommit.Prog Vaults

/-! ## The system -/

inductive Call
  | Transfer (call : Transfers.Step)
  | FinalizeMint (env : Env) (auth : AuthenticatedUser) (req : FinalizeVaultMintRequest)
  | RegisterObject (auth : AuthenticatedUser) (req : VaultObjects.RegisterVaultObjectRequest)
  | CancelOffer (env : Env) (burned : Except ApiError Unit) (auth : AuthenticatedUser)
      (req : CancelOfferRequest)
  | SyncNft (env : Env) (nftTokenId : String)

variable (u : Umbral) (codec : TextCodec) (state : AppState)

def step (db : Db) : Call → Db
  | .Transfer call => Transfers.step u codec db call
  | .FinalizeMint env auth req => (finalizeVaultMint env auth req db).2
  | .RegisterObject auth req => (VaultObjects.registerVaultObject auth req db).2
  | .CancelOffer env burned auth req => (cancelOffer state env burned auth req db).2
  | .SyncNft env nftTokenId => (Ownership.syncNft env nftTokenId db).2

/-- The database after a run of calls. -/
abbrev exec (db : Db) (calls : List Call) : Db := Runs.exec (step u codec state) db calls

/-- The marks that a deletion leaves: on the row of the NFT, on its vault object, and on the grants
for that object. -/
structure Tombstoned (v : Uuid) (db : Db) : Prop where
  archived : ∃ nm, db.nftMetadata.get? v = some nm ∧ nm.status.val = .Archived
  deleted : ∃ vo, db.vaultObjects.get? v.text = some vo ∧ vo.status = .Deleted
  revoked : ∀ g ∈ db.grants.rows, g.vaultObjectId = v.text → g.status ≠ .Active

/-- The tombstone of a vault is there in every state of a run. -/
def StaysTombstoned (v : Uuid) (db : Db) (calls : List Call) : Prop :=
  ∀ pre post, calls = pre ++ post → Tombstoned v (exec u codec state db pre)

/-! ## The condition -/

/-- The calls that write the status of an NFT, each with what it asks for beforehand: a transfer
of the NFT that may be signed or claimed, a mint that may be finalised for it, or a ledger that
lists its token under another registered wallet. -/
def Revives (v : Uuid) (db : Db) : Call → Prop
  | .Transfer (.Confirm auth request) =>
      ∃ t, Transfers.Confirmable auth request.transferId db t ∧ t.nftMetadataId = v
  | .Transfer (.Complete auth request) =>
      ∃ t key, Transfers.Claimable auth request.transferId db t key ∧ t.nftMetadataId = v
  | .FinalizeMint env auth req =>
      req.vaultId = v ∧ ∃ nm wallet verification, Finalizable env auth req db nm wallet verification
  | .SyncNft env nftTokenId => ∃ nm newOwner, db.nftMetadata.find? nftTokenId = some nm ∧ nm.id = v
      ∧ Ownership.Reassigns env nftTokenId nm.ownerId db newOwner
  | _ => False

/-- No call of the run revives the vault. Calls that are refused, or that are about other vaults,
are free. -/
def Spared (v : Uuid) : Db → List Call → Prop :=
  Runs.Guarded (step u codec state) fun db call => ¬ Revives v db call

/-! ## A step -/

/-- What a call leaves alone keeps its marks. -/
lemma Tombstoned.of_same {v : Uuid} {db db' : Db} (h : Tombstoned v db)
    (hnft : db'.nftMetadata.get? v = db.nftMetadata.get? v)
    (hobject : db'.vaultObjects.get? v.text = db.vaultObjects.get? v.text)
    (hgrants : db'.grants = db.grants) : Tombstoned v db' where
  archived := by rw [hnft]; exact h.archived
  deleted := by rw [hobject]; exact h.deleted
  revoked := by rw [hgrants]; exact h.revoked

lemma Tombstoned.withNft {v : Uuid} {db : Db} (h : Tombstoned v db) {id : Uuid} (hid : v ≠ id)
    {f : NftMetadata → NftMetadata} {hf hf'} : Tombstoned v (db.withNft id f hf hf') :=
  h.of_same (by rw [get?_withNft, if_neg hid]) rfl rfl

/-- **Transfers** spare a vault whose transfers are neither signed nor claimed. -/
lemma tombstoned_transfer {v : Uuid} {db : Db} (h : Tombstoned v db) {call : Transfers.Step}
    (hspared : ¬ Revives v db (.Transfer call)) : Tombstoned v (Transfers.step u codec db call) := by
  have heffect := Transfers.step_effect u codec db call
  generalize Transfers.step u codec db call = db' at heffect ⊢
  cases heffect with
  | Unchanged => exact h
  | Created env auth request nft toUserId key _ _ _ hins =>
      unfold Transfers.insertTransfer at hins
      split at hins
      · cases hins
        exact h.of_same rfl rfl rfl
      · cases hins
  | Signed auth request t hconfirm =>
      exact h.withNft fun hv => hspared ⟨t, hconfirm, hv.symm⟩
  | SignedRecorded auth request t offerIndex hconfirm =>
      have hsigned : Tombstoned v (Transfers.offerSigned db t) :=
        h.withNft fun hv => hspared ⟨t, hconfirm, hv.symm⟩
      exact hsigned.of_same rfl rfl rfl
  | HandedOver auth request t key hclaim =>
      exact h.withNft fun hv => hspared ⟨t, key, hclaim, hv.symm⟩
  | HandedOverRecorded auth request t key hash hclaim =>
      have hhanded : Tombstoned v (Transfers.handedOver db t key) :=
        h.withNft fun hv => hspared ⟨t, key, hclaim, hv.symm⟩
      exact hhanded.of_same rfl rfl rfl
  | Finalized => exact h.of_same rfl rfl rfl

/-- **A finalised mint** writes the row and the vault object of its own vault only. -/
lemma tombstoned_finalizeMint {v : Uuid} {db : Db} (h : Tombstoned v db) {env : Env}
    {auth : AuthenticatedUser} {req : FinalizeVaultMintRequest}
    (hspared : ¬ Revives v db (.FinalizeMint env auth req)) :
    Tombstoned v (finalizeVaultMint env auth req db).2 := by
  have hspec := finalizeVaultMint_spec env auth req db
  simp only [wp] at hspec
  generalize (finalizeVaultMint env auth req db).1 = r at hspec
  generalize (finalizeVaultMint env auth req db).2 = db' at hspec ⊢
  cases hspec with
  | Refused e => exact h
  | Finalized nm wallet verification hash answer db₁ db₂ _ hfinal h₁ h₂ h₃ =>
      have hv : v ≠ req.vaultId := fun hv => hspared ⟨hv.symm, nm, wallet, verification, hfinal⟩
      obtain ⟨nfts, hnfts, rfl⟩ := updateMinted_eq_ok h₁
      obtain ⟨replicas, -, rfl⟩ := renameReplicas_eq_ok h₂
      obtain rfl := linkVaultObject_eq_ok h₃
      have htext : v.text ≠ (linkedObject req req.vaultId.text).id := fun h => hv (Uuid.ext h)
      exact h.of_same (by rw [Indexed.get?_replace hnfts, if_neg hv])
        ((Table.get?_upsert _ _ _ _ _).trans (if_neg htext)) rfl

/-- **A registration** keeps the status of a vault object that is already there. -/
lemma tombstoned_registerObject {v : Uuid} {db : Db} (h : Tombstoned v db)
    (auth : AuthenticatedUser) (req : VaultObjects.RegisterVaultObjectRequest) :
    Tombstoned v (VaultObjects.registerVaultObject auth req db).2 := by
  have hspec := VaultObjects.registerVaultObject_spec auth req db
  simp only [wp] at hspec
  generalize (VaultObjects.registerVaultObject auth req db).1 = r at hspec
  generalize (VaultObjects.registerVaultObject auth req db).2 = db' at hspec ⊢
  cases hspec with
  | Refused e => exact h
  | Registered caller answer _ _ _ hupsert =>
      obtain ⟨-, rfl⟩ := VaultObjects.upsertObject_eq_ok hupsert
      obtain ⟨vo, hvo, hdeleted⟩ := h.deleted
      refine ⟨h.archived, ?_, h.revoked⟩
      rw [Table.get?_upsert]
      split_ifs with hid
      · rw [← hid, hvo]
        exact ⟨_, rfl, hdeleted⟩
      · exact ⟨vo, hvo, hdeleted⟩

/-- **A synchronisation** writes the row whose token the ledger lists elsewhere. -/
lemma tombstoned_syncNft {v : Uuid} {db : Db} (h : Tombstoned v db) {env : Env}
    {nftTokenId : String} (hspared : ¬ Revives v db (.SyncNft env nftTokenId)) :
    Tombstoned v (Ownership.syncNft env nftTokenId db).2 := by
  rcases Ownership.syncNft_spec env nftTokenId db with hsame | ⟨nm, hnm, hsync⟩
  · rw [hsame]; exact h
  · generalize (Ownership.syncNft env nftTokenId db).1 = r at hsync
    generalize (Ownership.syncNft env nftTokenId db).2 = db' at hsync ⊢
    cases hsync with
    | Unchanged => exact h
    | Updated newOwner answer hmoves =>
        exact h.withNft fun hv => hspared ⟨nm, newOwner, hnm, hv.symm, hmoves⟩

theorem tombstoned_step {v : Uuid} {db : Db} {call : Call} (h : Tombstoned v db)
    (hspared : ¬ Revives v db call) : Tombstoned v (step u codec state db call) := by
  cases call with
  | Transfer call => exact tombstoned_transfer u codec h hspared
  | FinalizeMint env auth req => exact tombstoned_finalizeMint h hspared
  | RegisterObject auth req => exact tombstoned_registerObject h auth req
  | CancelOffer env burned auth req =>
      have hsame : (cancelOffer state env burned auth req db).2 = db :=
        cancelOffer_spec state env burned auth req db
      rw [step, hsame]
      exact h
  | SyncNft env nftTokenId => exact tombstoned_syncNft h hspared

/-! ## A run -/

lemma not_active_of_revokeGrants {id : String} {db : Db} {g : Grant}
    (hg : g ∈ (revokeGrants id db).grants.rows) (hid : g.vaultObjectId = id) :
    g.status ≠ .Active := by
  obtain ⟨old, -, rfl⟩ := List.mem_map.mp hg
  split_ifs at hid ⊢ with hmatch
  · exact fun h => nomatch h
  · exact fun h => hmatch (by simp [hid, h])

/-- **A deletion leaves a tombstone.** -/
theorem tombstoned_deleteVault {env : Env} {auth : AuthenticatedUser} {nftTokenId : String}
    {request : DeleteVaultRequest} {db db' : Db} {answer : DeleteVaultResponse} {nm : NftMetadata}
    {vo : VaultObject} (hnm : db.nftMetadata.find? nftTokenId = some nm)
    (hvo : db.vaultObjects.get? nm.id.text = some vo)
    (hdelete : deleteVault state env auth nftTokenId request db = (.ok answer, db')) :
    Tombstoned nm.id db' := by
  have hspec := deleteVault_spec state env auth nftTokenId request db
  simp only [wp, hdelete] at hspec
  cases hspec with
  | Deleted nm' manifest storageDeleted _ hdeletable =>
      obtain rfl := Option.some.inj (hdeletable.found.symm.trans hnm)
      have hrow := Indexed.get?_of_find? hnm
      refine ⟨⟨{ nm' with status := NftStatus.archived }, ?_, rfl⟩,
        ⟨{ vo with status := .Deleted }, ?_, rfl⟩, ?_⟩
      · rw [tombstoned, get?_withNft, if_pos rfl]
        split_ifs <;> exact congrArg _ hrow
      · have hobject : (db.vaultObjects.update nm'.id.text
            (fun vo => { vo with status := .Deleted }) fun _ => rfl).get? nm'.id.text
              = some { vo with status := .Deleted } := by
          rw [Table.get?_update_self, hvo]
          rfl
        rw [tombstoned]
        split_ifs <;> exact hobject
      · intro g hg hid
        have hmem : g ∈ (revokeGrants nm'.id.text db).grants.rows := by
          rw [tombstoned] at hg
          split_ifs at hg <;> exact hg
        exact not_active_of_revokeGrants hmem hid

/-- **A run that spares a deleted vault keeps its tombstone**, in every state it goes through. The
handlers that set another status do not ask for the one that is there; only a `Revives` call gets as
far as its update for the row. -/
theorem staysTombstoned_of_spared {env : Env} {auth : AuthenticatedUser} {nftTokenId : String}
    {request : DeleteVaultRequest} {db db' : Db} {answer : DeleteVaultResponse} {nm : NftMetadata}
    {vo : VaultObject} {calls : List Call} (hnm : db.nftMetadata.find? nftTokenId = some nm)
    (hvo : db.vaultObjects.get? nm.id.text = some vo)
    (hdelete : deleteVault state env auth nftTokenId request db = (.ok answer, db'))
    (hspared : Spared u codec state nm.id db' calls) :
    StaysTombstoned u codec state nm.id db' calls := by
  rintro pre post rfl
  exact Runs.preserved_guarded (fun db call => tombstoned_step u codec state)
    (tombstoned_deleteVault state hnm hvo hdelete) hspared.front

/-! ## A transfer that outlives its vault

Alice has offered her NFT to Bob, and then burns it and deletes the vault.  She signs the offer
all the same, and Bob claims it. -/

namespace Sample

open Transfers.Sample

def oracle : AppState where
  host := ""
  port := 0
  publicUrl := none
  jwtExpirationHours := 1
  dbEncryptionKey := none
  storageNodeUrl := none
  oracleAddress := none
  sha256 _ := []

def txHash : String := "AAAAAAAAAAAAAAAABBBBBBBBBBBBBBBBCCCCCCCCCCCCCCCCDDDDDDDDDDDDDDDD"

/-- The ledger, after Alice has burned the NFT. -/
def burnt : Env :=
  { env ⟨""⟩ with
    xrpl _ _ := .ok (.Obj [("result", .Obj [("validated", .Boolean true),
      ("meta", .Obj [("TransactionResult", .Str "tesSUCCESS")]),
      ("TransactionType", .Str "NFTokenBurn"), ("Account", .Str "rAlice"),
      ("NFTokenID", .Str tokenId)])]) }

/-- The vault with the offer to Bob pending. -/
def offered : Db := db [transfer ⟨"t1"⟩ 2 "rBob"] (by decide)

/-- Alice deletes the vault. -/
def deletion : Handler DeleteVaultResponse :=
  deleteVault oracle burnt (caller alice) tokenId
    { walletAddress := "rAlice", burnTxHash := some txHash }

def signing : Call := .Transfer (.Confirm (caller alice) { transferId := ⟨"t1"⟩, offerIndex := "" })

def claiming : Call := .Transfer (.Complete (caller bob) { transferId := ⟨"t1"⟩, xrplTxHash := "" })

lemma deletion_ok : ∃ answer, (deletion offered).1 = .ok answer := by
  have hok : (deletion offered).1.toOption.isSome = true := by decide +kernel
  obtain ⟨answer, hanswer⟩ := Option.isSome_iff_exists.mp hok
  exact ⟨answer, eq_ok_of_toOption hanswer⟩

/-- **A deleted vault comes back**: the transfer that was pending makes it active, with Bob as
its owner. -/
theorem not_staysTombstoned : (∃ answer, (deletion offered).1 = .ok answer)
    ∧ Tombstoned nft.id (deletion offered).2
    ∧ ¬ StaysTombstoned Umbral.symbolic JsonText.compact oracle nft.id (deletion offered).2
      [signing, claiming] := by
  obtain ⟨answer, hok⟩ := deletion_ok
  have hnm : offered.nftMetadata.find? tokenId = some nft := rfl
  have hvo : offered.vaultObjects.get? nft.id.text = some object := rfl
  have htomb : Tombstoned nft.id (deletion offered).2 :=
    tombstoned_deleteVault oracle hnm hvo (Prod.ext hok rfl)
  refine ⟨⟨answer, hok⟩, htomb, fun hstays => ?_⟩
  have hactive : ((exec Umbral.symbolic JsonText.compact oracle (deletion offered).2
      [signing, claiming]).nftMetadata.get? nft.id).map (·.status.val) = some .Active := by
    decide +kernel
  obtain ⟨nm, hnm, harchived⟩ := (hstays [signing, claiming] [] rfl).archived
  rw [hnm, Option.map_some, harchived] at hactive
  cases hactive

def cancelling : Call :=
  .Transfer (.Cancel (caller alice) ⟨"t1"⟩ { walletAddress := "rAlice" })

def cancelled : Db := step Umbral.symbolic JsonText.compact oracle (deletion offered).2 cancelling

def forging : Call := .Transfer (.Confirm (caller bob) { transferId := ⟨"t1"⟩, offerIndex := "" })

/-- Nobody but the sender can sign the offer, and Alice only tries to cancel it. -/
theorem cancelled_staysTombstoned : StaysTombstoned Umbral.symbolic JsonText.compact oracle nft.id
    (deletion offered).2 [cancelling, forging] := by
  obtain ⟨answer, hok⟩ := deletion_ok
  have hnm : offered.nftMetadata.find? tokenId = some nft := rfl
  have hvo : offered.vaultObjects.get? nft.id.text = some object := rfl
  refine staysTombstoned_of_spared Umbral.symbolic JsonText.compact oracle hnm hvo
    (Prod.ext hok rfl) ⟨id, fun ⟨t, hconfirm, _⟩ => ?_, trivial⟩
  have hsender : ((cancelled.transferRequests.get? ⟨"t1"⟩).bind fun t =>
      cancelled.walletOf t.fromUserId) = some "rAlice" := by decide +kernel
  obtain ⟨w, hw, hauth⟩ := hconfirm.sender
  have hfound : cancelled.transferRequests.get? ⟨"t1"⟩ = some t := hconfirm.found
  have hw : cancelled.walletOf t.fromUserId = some w := hw
  rw [hfound, Option.bind_some, hw] at hsender
  rw [Option.some.inj hsender] at hauth
  exact absurd hauth (by decide)

end Sample

end Vaulted.Tombstone
