import Vaulted.Library.Interleaving
import Vaulted.Oracle.NftPublic
import Vaulted.Transfer.System

/-!
# Minting, statement by statement

`create_vault`, `publish_vault_metadata`, `finalize_vault_mint` and the public endpoint, as programs
that other calls may interleave with.

* `Registry` — the database, and when each vault was updated last.
* `World` — the world at one statement of a handler.
* `Statement` — the queries and updates of the handlers; a transfer is one of them.
* `createVault`, `publishVaultMetadata`, `finalizeVaultMint`, `nftMetadata` — the handlers.
* `run_publishVaultMetadata`, `run_finalizeVaultMint` — alone, they do what the handlers of
  `Vaults` do.
* `Prepared` — what a handler has made sure of before a statement; `prepared_handle`.
* `exec_writes` — what a statement does to the vaults.
-/

namespace Vaulted.VaultMint

open Interleaving Vaults NftPublic Autocommit.Prog

/-! ## Statements -/

/-- The database, and the column `updated_at` of the vaults. -/
structure Registry where
  db : Db
  updatedAt : Uuid → Time

/-- The world at one statement of a handler. -/
structure World where
  env : Env
  /-- The time, as a publication records it. -/
  publishedAt : String
  /-- The vaults that a transfer updates. -/
  touches : Uuid → Bool

inductive Statement
  | FindUser (wallet : String)
  | InsertUser (user : User)
  | InsertNft (nm : NftMetadata)
  | FindVault (id : Uuid)
  | StorePublished (id : Uuid) (patch : Json)
  | ActiveIdentity (id : String)
  | IsRegistered (nftTokenId : String) (vaultId : Uuid)
  | PublishedUri (id : Uuid)
  | Mint (req : FinalizeVaultMintRequest) (v : Xrpl.LocalMintVerification)
      (previousTokenId : String)
  | SelectMetadata (normalizedId nftId : String)
  | Transfer (call : Transfers.Step)

/-- What a statement answers. -/
@[reducible] def Answer : Statement → Type
  | .FindUser _ => Option User
  | .InsertUser _ => Except ApiError Unit
  | .InsertNft _ => Except ApiError Unit
  | .FindVault _ => Option (NftMetadata × String)
  | .StorePublished _ _ => Unit
  | .ActiveIdentity _ => Bool
  | .IsRegistered _ _ => Bool
  | .PublishedUri _ => Option (Option String)
  | .Mint _ _ _ => Except ApiError Unit
  | .SelectMetadata _ _ => Option (Option Json)
  | .Transfer _ => Unit

/-- The transaction of `finalize_vault_mint`. -/
def mintTransaction (req : FinalizeVaultMintRequest) (v : Xrpl.LocalMintVerification)
    (previousTokenId : String) : Handler Unit :=
  transaction do
    let metadataHash ← lift (varchar 71 req.manifestHash)
    write (updateMinted req v metadataHash)
    write (renameReplicas previousTokenId req.nftTokenId)
    write (linkVaultObject req)

/-- The registry after an update of one vault, if it has succeeded. -/
def stamped {α : Type} (r : Registry) (id : Uuid) (now : Time) (outcome : Except ApiError α × Db) :
    Except ApiError α × Registry :=
  match outcome with
  | (.ok a, db) => (.ok a, ⟨db, Function.update r.updatedAt id now⟩)
  | (.error e, db) => (.error e, ⟨db, r.updatedAt⟩)

section Semantics

variable (u : Umbral) (codec : TextCodec) (state : AppState)

def exec : (s : Statement) → World → Registry → Answer s × Registry
  | .FindUser wallet, _, r => (r.db.userOf wallet, r)
  | .InsertUser user, _, r =>
      match insertUser user r.db with
      | .ok db => (.ok (), ⟨db, r.updatedAt⟩)
      | .error e => (.error e, r)
  | .InsertNft nm, w, r => stamped r nm.id w.env.now (write (insertNft nm) r.db)
  | .FindVault id, _, r => (nftWithOwner id r.db, r)
  | .StorePublished id patch, w, r =>
      ((), ⟨withPublicMetadata id patch r.db, Function.update r.updatedAt id w.env.now⟩)
  | .ActiveIdentity id, _, r => (isActiveIdentity id r.db, r)
  | .IsRegistered nftTokenId vaultId, _, r =>
      ((r.db.nftMetadata.find? nftTokenId).any fun other => decide (other.id ≠ vaultId), r)
  | .PublishedUri id, _, r => ((r.db.nftMetadata.get? id).map publishedMetadataUri, r)
  | .Mint req v previousTokenId, w, r =>
      stamped r req.vaultId w.env.now (mintTransaction req v previousTokenId r.db)
  | .SelectMetadata normalizedId nftId, w, r =>
      (selectMetadata w.env r.updatedAt normalizedId nftId r.db, r)
  | .Transfer call, w, r => ((),
      { db := Transfers.step u codec r.db call
        updatedAt := fun id => if w.touches id then w.env.now else r.updatedAt id })

/-! ## Handlers -/

inductive Call
  | CreateVault (auth : AuthenticatedUser) (req : CreateVaultRequest)
  | Publish (auth : AuthenticatedUser) (req : PublishVaultMetadataRequest)
  | FinalizeMint (auth : AuthenticatedUser) (req : FinalizeVaultMintRequest)
  | NftMetadata (nftId : String)
  | Transfer (call : Transfers.Step)

inductive Reply
  | Created (answer : Except ApiError CreateVaultResponse)
  | Published (answer : Except ApiError PublishVaultMetadataResponse)
  | Finalized (answer : Except ApiError FinalizeVaultMintResponse)
  | Answered (answer : PublicAnswer)
  | Transferred

/-- A handler under way. -/
abbrev Handling := Proc Answer World Reply

/-- The row of a new vault is stored. -/
def insertVault (env : Env) (req : CreateVaultRequest) (userId : Uuid) : Handling :=
  .check .Created (varchar 71 req.metadataHash) fun metadataHash =>
  .Exec (.InsertNft (preparedVault state env req userId metadataHash)) fun inserted _ =>
  .check .Created inserted fun _ =>
  .Done (.Created (.ok
    { vaultId := env.uuid 1
      nftTokenId := pendingTokenIdForVault state (env.uuid 1)
      offerIndex := ""
      signingRequestUri := ""
      nftUri := publicMetadataUri state req.metadataHash }))

def createVault (env : Env) (auth : AuthenticatedUser) (req : CreateVaultRequest) : Handling :=
  .check .Created (ensure (Text.eqIgnoreAsciiCase auth.walletAddress req.walletAddress)
    (.Forbidden "Cannot create vault for different wallet")) fun _ =>
  .check .Created (ensure (Text.startsWith req.walletAddress "r")
    (.Validation "Invalid XRPL address")) fun _ =>
  .check .Created (ensure (!Text.isEmpty req.encryptedAesKey)
    (.Validation "encrypted_aes_key required")) fun _ =>
  .check .Created (ensure (!Text.isEmpty req.metadataHash)
    (.Validation "metadata_hash required")) fun _ =>
  .Exec (.FindUser req.walletAddress) fun user? _ =>
  match user? with
  | some user => insertVault state env req user.id
  | none =>
      .check .Created (varchar 35 req.walletAddress) fun walletAddress =>
      .check .Created (varchar 130 req.prePublicKey) fun prePublicKey =>
      .Exec (.InsertUser { id := env.uuid 0, walletAddress, prePublicKey }) fun inserted _ =>
      .check .Created inserted fun _ => insertVault state env req (env.uuid 0)

def publishVaultMetadata (auth : AuthenticatedUser) (req : PublishVaultMetadataRequest) :
    Handling :=
  let published : Except ApiError PublishVaultMetadataResponse := .ok
    { vaultId := req.vaultId
      manifestHash := req.manifestHash
      metadataUri := req.metadataUri
      metadataHash := req.metadataHash
      published := true }
  .check .Published (ensure (!(Text.isEmpty req.manifestHash || Text.isEmpty req.metadataUri))
    (.Validation "manifest_hash and metadata_uri are required")) fun _ =>
  .check .Published (ensure (decide (Text.len req.metadataJson ≤ 128 * 1024))
    (.Validation "metadata_json is too large")) fun _ =>
  .check .Published (ensure (Text.isHexOfLen 64 req.metadataHash)
    (.Validation "metadata_hash must be 64 hex characters")) fun _ =>
  .check .Published (ensure (Text.eqIgnoreAsciiCase
      (Text.hexEncode (state.sha256 (Text.utf8 req.metadataJson))) req.metadataHash)
    (.Validation "metadata_hash does not match metadata_json")) fun _ =>
  .check .Published ((codec.jsonFromStr req.metadataJson).mapError fun _ =>
    .Validation "metadata_json must be valid JSON") fun metadata =>
  .check .Published (validatePublicMetadataSafety metadata req.manifestHash req.metadataUri)
    fun _ =>
  .Exec (.FindVault req.vaultId) fun row? w =>
  .check .Published (okOr row? (.NotFound ("Vault " ++ req.vaultId.text ++ " not found")))
    fun row =>
  .check .Published (ensure (Text.eqIgnoreAsciiCase auth.walletAddress row.2)
    (.Forbidden "Only the vault owner can publish metadata")) fun _ =>
  .check .Published (ensure (decide (row.1.metadataHash = req.manifestHash))
    (.Validation "manifest_hash does not match prepared vault")) fun _ =>
  .check .Published (ensure (decide (req.metadataUri = publicMetadataUri state req.manifestHash))
    (.Validation "metadata_uri does not match prepared public URI")) fun _ =>
  match publishedMetadataUri row.1 with
  | some existingUri =>
      .check .Published (ensure (decide (existingUri = req.metadataUri)
          && Text.eqIgnoreAsciiCase (publishedMetadataHash row.1) req.metadataHash)
        (.Conflict "Public metadata is already published and immutable")) fun _ =>
      .Done (.Published published)
  | none =>
      .Exec (.StorePublished req.vaultId (publicMetadataPatch req metadata w.publishedAt))
        fun _ _ => .Done (.Published published)

def finalizeVaultMint (auth : AuthenticatedUser) (req : FinalizeVaultMintRequest) : Handling :=
  .check .Finalized (ensure (Text.isHexOfLen 64 req.nftTokenId)
    (.Validation "Invalid minted NFTokenID")) fun _ =>
  .check .Finalized (ensure (Text.isHexOfLen 64 req.txHash)
    (.Validation "Invalid XRPL transaction hash")) fun _ =>
  .check .Finalized (ensure (!(Text.isEmpty req.manifestHash || Text.isEmpty req.manifestUri))
    (.Validation "manifest_uri and manifest_hash are required")) fun _ =>
  .check .Finalized (ensure (!Text.isEmpty (Text.trim req.ownerIdentityId))
    (.Validation "owner_identity_id is required")) fun _ =>
  .Exec (.FindVault req.vaultId) fun row? _ =>
  .check .Finalized (okOr row? (.NotFound ("Vault " ++ req.vaultId.text ++ " not found")))
    fun row =>
  .check .Finalized (ensure (Text.eqIgnoreAsciiCase auth.walletAddress row.2)
    (.Forbidden "Only the vault owner can finalize mint")) fun _ =>
  .Exec (.ActiveIdentity req.ownerIdentityId) fun identityExists _ =>
  .check .Finalized (ensure identityExists
    (.Validation "owner_identity_id is not an active Vaulted identity")) fun _ =>
  .Exec (.IsRegistered req.nftTokenId req.vaultId) fun existing _ =>
  .check .Finalized (ensure (!existing)
    (.Conflict ("NFT " ++ req.nftTokenId ++ " is already registered"))) fun _ =>
  .Exec (.PublishedUri req.vaultId) fun published? w =>
  .check .Finalized (okOr published? .rowNotFound) fun published =>
  .check .Finalized (ensure (decide (published = some req.manifestUri))
    (.Validation "Public metadata must be published before finalize-mint")) fun _ =>
  .check .Finalized (Xrpl.verifyLocalNftMint w.env req.txHash req.nftTokenId row.2
    req.manifestUri) fun verification =>
  .Exec (.Mint req verification row.1.nftTokenId) fun minted _ =>
  .check .Finalized minted fun _ =>
  .Done (.Finalized (.ok
    { vaultId := req.vaultId, nftTokenId := req.nftTokenId, status := .Active }))

def nftMetadata (nftId : String) : Handling :=
  match normalizePublicNftId nftId with
  | none => .Done (.Answered .InvalidNftId)
  | some normalizedId =>
      .Exec (.SelectMetadata normalizedId nftId) fun found _ =>
      .Done (.Answered (metadataAnswer state normalizedId found))

def handle : Call → World → Handling
  | .CreateVault auth req, w => createVault state w.env auth req
  | .Publish auth req, _ => publishVaultMetadata codec state auth req
  | .FinalizeMint auth req, _ => finalizeVaultMint auth req
  | .NftMetadata nftId, _ => nftMetadata state nftId
  | .Transfer call, _ => .Exec (.Transfer call) fun _ _ => .Done .Transferred

end Semantics

/-! ## Handlers alone -/

section Alone

variable {u : Umbral} {codec : TextCodec} {w : World} {r : Registry} {α β : Type}
  {answer : Except ApiError α → Reply}

/-- A program that nothing interleaves with does what a handler does as a whole. -/
def Alone (u : Umbral) (codec : TextCodec) (w : World) (r : Registry)
    (answer : Except ApiError α → Reply) (p : Handling) (h : Handler α) : Prop :=
  ∃ updatedAt, p.run (exec u codec) (fun _ => w) r = (answer (h r.db).1, ⟨(h r.db).2, updatedAt⟩)

lemma alone_ensure {c : Bool} {e : ApiError} {k : Unit → Handling} {g : Unit → Handler α}
    (hgo : c = true → Alone u codec w r answer (k ()) (g ())) :
    Alone u codec w r answer (.check answer (ensure c e) k) (require c e >>= g) := by
  cases c with
  | false => exact ⟨r.updatedAt, rfl⟩
  | true => exact hgo rfl

lemma alone_okOr {o : Option β} {e : ApiError} {k : β → Handling} {f : β → Handler α}
    (hgo : ∀ b, o = some b → Alone u codec w r answer (k b) (f b)) :
    Alone u codec w r answer (.check answer (okOr o e) k) (expect o e >>= f) := by
  cases o with
  | none => exact ⟨r.updatedAt, rfl⟩
  | some b => exact hgo b rfl

lemma alone_lift {o : Except ApiError β} {k : β → Handling} {f : β → Handler α}
    (hgo : ∀ b, o = .ok b → Alone u codec w r answer (k b) (f b)) :
    Alone u codec w r answer (.check answer o k) (lift o >>= f) := by
  cases o with
  | error e => exact ⟨r.updatedAt, rfl⟩
  | ok b => exact hgo b rfl

/-- A query changes nothing. -/
lemma alone_query {stmt : Statement} {k : Answer stmt → World → Handling} {h : Handler α}
    (hstmt : (exec u codec stmt w r).2 = r)
    (hgo : Alone u codec w r answer (k (exec u codec stmt w r).1 w) h) :
    Alone u codec w r answer (.Exec stmt k) h := by
  rw [Alone, Proc.run_exec, hstmt]
  exact hgo

lemma alone_read {stmt : Statement} {k : Answer stmt → World → Handling} {q : Db → β}
    {f : β → Handler α} (hstmt : (exec u codec stmt w r).2 = r)
    (hgo : Alone u codec w r answer (k (exec u codec stmt w r).1 w) (f (q r.db))) :
    Alone u codec w r answer (.Exec stmt k) (read q >>= f) :=
  alone_query hstmt hgo

/-- The last statement of a finalisation. -/
lemma alone_mint (req : FinalizeVaultMintRequest) (v : Xrpl.LocalMintVerification)
    (previousTokenId : String) (value : FinalizeVaultMintResponse) :
    Alone u codec w r .Finalized
      (.Exec (.Mint req v previousTokenId) fun minted _ =>
        .check .Finalized minted fun _ => .Done (.Finalized (.ok value)))
      (mintTransaction req v previousTokenId >>= fun _ => pure value) := by
  rw [Alone, Proc.run_exec, exec]
  rcases hmint : mintTransaction req v previousTokenId r.db with ⟨minted, db⟩
  cases minted with
  | error e =>
      have hbind : (mintTransaction req v previousTokenId >>= fun _ => pure value) r.db
          = (.error e, db) := by
        change Autocommit.Prog.bind _ _ _ = _
        rw [Autocommit.Prog.bind, hmint]
      rw [hbind]
      exact ⟨r.updatedAt, rfl⟩
  | ok _ =>
      rw [run_bind hmint]
      exact ⟨_, rfl⟩

end Alone

section Handlers

variable (u : Umbral) (codec : TextCodec) (state : AppState) (w : World) (r : Registry)

/-- **A publication alone** does what `Vaults.publishVaultMetadata` does. -/
theorem run_publishVaultMetadata (auth : AuthenticatedUser) (req : PublishVaultMetadataRequest) :
    Alone u codec w r .Published (publishVaultMetadata codec state auth req)
      (Vaults.publishVaultMetadata codec state w.publishedAt auth req) := by
  refine alone_ensure fun _ => alone_ensure fun _ => alone_ensure fun _ => alone_ensure fun _ => ?_
  refine alone_lift fun metadata _ => alone_lift fun _ _ => ?_
  refine alone_read rfl (alone_okOr fun row _ => ?_)
  refine alone_ensure fun _ => alone_ensure fun _ => alone_ensure fun _ => ?_
  obtain ⟨nm, wallet⟩ := row
  dsimp only
  cases publishedMetadataUri nm with
  | some existingUri => exact alone_ensure fun _ => ⟨r.updatedAt, rfl⟩
  | none => exact ⟨_, rfl⟩

/-- **A finalisation alone** does what `Vaults.finalizeVaultMint` does. -/
theorem run_finalizeVaultMint (auth : AuthenticatedUser) (req : FinalizeVaultMintRequest) :
    Alone u codec w r .Finalized (finalizeVaultMint auth req)
      (Vaults.finalizeVaultMint w.env auth req) := by
  refine alone_ensure fun _ => alone_ensure fun _ => alone_ensure fun _ => alone_ensure fun _ => ?_
  refine alone_read rfl (alone_okOr fun row hrow => ?_)
  obtain ⟨nm, wallet⟩ := row
  refine alone_ensure fun _ => alone_read rfl (alone_ensure fun _ => ?_)
  refine alone_read rfl (alone_ensure fun _ => ?_)
  refine alone_query rfl ?_
  have hpublished : (exec u codec (.PublishedUri req.vaultId) w r).1
      = some (publishedMetadataUri nm) := by
    rw [exec, (nftWithOwner_eq_some hrow).1]
    rfl
  rw [hpublished]
  exact alone_ensure fun _ => alone_lift fun v _ => alone_mint req v nm.nftTokenId _

end Handlers

/-! ## What a handler executes -/

/-- Metadata that `publish_vault_metadata` has checked. -/
structure Publishable (state : AppState) (req : PublishVaultMetadataRequest) (metadata : Json) :
    Prop where
  filled : (!(Text.isEmpty req.manifestHash || Text.isEmpty req.metadataUri)) = true
  safe : validatePublicMetadataSafety metadata req.manifestHash req.metadataUri = .ok ()
  uri : req.metadataUri = publicMetadataUri state req.manifestHash

/-- What the handlers have made sure of before a statement. -/
def Prepared (state : AppState) (known : World → Prop) : Statement → Prop
  | .InsertNft nm => ∃ w req userId metadataHash, known w
      ∧ varchar 71 req.metadataHash = .ok metadataHash
      ∧ nm = preparedVault state w.env req userId metadataHash
  | .StorePublished id patch => ∃ req metadata publishedAt, id = req.vaultId
      ∧ patch = publicMetadataPatch req metadata publishedAt ∧ Publishable state req metadata
  | .Mint req v _ => ∃ w owner, known w ∧ Text.isHexOfLen 64 req.nftTokenId = true
      ∧ Xrpl.verifyLocalNftMint w.env req.txHash req.nftTokenId owner req.manifestUri = .ok v
  | _ => True

section Prepared

variable {codec : TextCodec} {state : AppState} {known : World → Prop}

lemma prepared_createVault {w : World} (hw : known w) (auth : AuthenticatedUser)
    (req : CreateVaultRequest) :
    (createVault state w.env auth req).Only known (Prepared state known) := by
  have insert : ∀ userId, (insertVault state w.env req userId).Only known
      (Prepared state known) := fun userId =>
    Proc.only_check fun hash hhash =>
      ⟨⟨w, req, userId, hash, hw, hhash, rfl⟩, fun _ _ _ => Proc.only_check fun _ _ => trivial⟩
  refine Proc.only_check fun _ _ => Proc.only_check fun _ _ => Proc.only_check fun _ _ =>
    Proc.only_check fun _ _ => ⟨trivial, fun user? _ _ => ?_⟩
  cases user? with
  | some user => exact insert user.id
  | none =>
      refine Proc.only_check fun _ _ => Proc.only_check fun _ _ => ⟨trivial, fun _ _ _ => ?_⟩
      exact Proc.only_check fun _ _ => insert _

lemma prepared_publishVaultMetadata (auth : AuthenticatedUser)
    (req : PublishVaultMetadataRequest) :
    (publishVaultMetadata codec state auth req).Only known (Prepared state known) := by
  refine Proc.only_check fun _ hfilled => Proc.only_check fun _ _ => Proc.only_check fun _ _ =>
    Proc.only_check fun _ _ => Proc.only_check fun metadata _ => ?_
  refine Proc.only_check fun _ hsafe => ⟨trivial, fun row? w _ => ?_⟩
  refine Proc.only_check fun row _ => Proc.only_check fun _ _ => Proc.only_check fun _ _ =>
    Proc.only_check fun _ huri => ?_
  cases publishedMetadataUri row.1 with
  | some existingUri => exact Proc.only_check fun _ _ => trivial
  | none =>
      refine ⟨⟨req, metadata, w.publishedAt, rfl, rfl, ?_⟩, fun _ _ _ => trivial⟩
      exact ⟨ensure_eq_ok hfilled, hsafe, of_decide_eq_true (ensure_eq_ok huri)⟩

lemma prepared_finalizeVaultMint (auth : AuthenticatedUser) (req : FinalizeVaultMintRequest) :
    (finalizeVaultMint auth req).Only known (Prepared state known) := by
  refine Proc.only_check fun _ htoken => Proc.only_check fun _ _ => Proc.only_check fun _ _ =>
    Proc.only_check fun _ _ => ⟨trivial, fun _ _ _ => ?_⟩
  refine Proc.only_check fun row _ => Proc.only_check fun _ _ => ⟨trivial, fun _ _ _ => ?_⟩
  refine Proc.only_check fun _ _ => ⟨trivial, fun _ _ _ => ?_⟩
  refine Proc.only_check fun _ _ => ⟨trivial, fun _ w hw => ?_⟩
  refine Proc.only_check fun _ _ => Proc.only_check fun _ _ => Proc.only_check fun v hv => ?_
  exact ⟨⟨w, row.2, hw, ensure_eq_ok htoken, hv⟩, fun _ _ _ => Proc.only_check fun _ _ => trivial⟩

/-- **Every handler prepares what it executes.** -/
theorem prepared_handle (codec : TextCodec) (call : Call) {w : World} (hw : known w) :
    (handle codec state call w).Only known (Prepared state known) := by
  cases call with
  | CreateVault auth req => exact prepared_createVault hw auth req
  | Publish auth req => exact prepared_publishVaultMetadata auth req
  | FinalizeMint auth req => exact prepared_finalizeVaultMint auth req
  | NftMetadata nftId =>
      simp only [handle, nftMetadata]
      cases normalizePublicNftId nftId with
      | none => trivial
      | some normalizedId => exact ⟨trivial, fun _ _ _ => trivial⟩
  | Transfer call => exact ⟨trivial, fun _ _ _ => trivial⟩

end Prepared

/-! ## What a statement does to the vaults -/

/-- A vault is the same to the public. -/
structure Moved (old new : NftMetadata) : Prop where
  nftTokenId : new.nftTokenId = old.nftTokenId
  metadataHash : new.metadataHash = old.metadataHash
  manifest : new.manifest = old.manifest
  minted : old.status.val ≠ .PendingClaim → new.status.val ≠ .PendingClaim

/-- Every row is the same to the public. -/
def Moves (db db' : Db) : Prop :=
  ∃ f : Uuid → NftMetadata → NftMetadata, (∀ id nm, Moved nm (f id nm))
    ∧ ∀ id, db'.nftMetadata.get? id = (db.nftMetadata.get? id).map (f id)

lemma Moved.refl (nm : NftMetadata) : Moved nm nm := ⟨rfl, rfl, rfl, id⟩

lemma moves_of_same {db db' : Db} (h : db'.nftMetadata = db.nftMetadata) : Moves db db' :=
  ⟨fun _ => id, fun _ => .refl, fun id => by rw [h, Option.map_id]; rfl⟩

lemma moves_withNft {db : Db} {vaultId : Uuid} {f : NftMetadata → NftMetadata} {hid htoken}
    (hf : ∀ nm, Moved nm (f nm)) : Moves db (db.withNft vaultId f hid htoken) := by
  refine ⟨fun id => if id = vaultId then f else fun nm => nm, fun id nm => ?_, fun id => ?_⟩
  · dsimp only
    split_ifs
    · exact hf nm
    · exact .refl nm
  · rw [get?_withNft]
    split_ifs with h
    · simp only [h, if_true]
    · simp only [h, if_false, Option.map_id']

/-- **No transfer changes what the public sees.** -/
theorem moves_transfer (u : Umbral) (codec : TextCodec) (db : Db) (call : Transfers.Step) :
    Moves db (Transfers.step u codec db call) := by
  have heffect := Transfers.step_effect u codec db call
  generalize Transfers.step u codec db call = db' at heffect
  have signed : ∀ t, Moves db (Transfers.offerSigned db t) := fun t =>
    moves_withNft fun nm => ⟨rfl, rfl, rfl, fun _ h => by cases h⟩
  have handedOver : ∀ t key, Moves db (Transfers.handedOver db t key) := fun t key =>
    moves_withNft fun nm => ⟨rfl, rfl, rfl, fun _ h => by cases h⟩
  cases heffect with
  | Unchanged call _ => exact moves_of_same rfl
  | Created env auth request nft toUserId key _ hnft hactive hins =>
      exact moves_of_same (Transfers.insertTransfer_eq_ok hins).1
  | Signed auth request t _ => exact signed t
  | SignedRecorded auth request t offerIndex _ => exact signed t
  | HandedOver auth request t key _ => exact handedOver t key
  | HandedOverRecorded auth request t key xrplTxHash _ => exact handedOver t key
  | Finalized env request t xrplTxHash _ => exact moves_of_same rfl

/-- One row is replaced. -/
def Replaces (db db' : Db) (vaultId : Uuid) (f : NftMetadata → NftMetadata) : Prop :=
  ∀ id, db'.nftMetadata.get? id
    = if id = vaultId then (db.nftMetadata.get? vaultId).map f else db.nftMetadata.get? id

/-- The row of a vault whose metadata is published. -/
def published (patch : Json) (nm : NftMetadata) : NftMetadata :=
  { nm with manifest := some ((nm.manifest.getD (.Obj [])).concat patch) }

/-- Is this a finalisation? -/
def isMint : (s : Statement) → Answer s → Bool
  | .Mint _ _ _, .ok _ => true
  | _, _ => false

/-- What a statement can do to the vaults. -/
inductive Writes (db : Db) : (s : Statement) → Answer s → Db → Prop
  | Kept (s : Statement) (a : Answer s) (db' : Db) : isMint s a = false → Moves db db' →
      Writes db s a db'
  | Inserted (nm : NftMetadata) (db' : Db) : db.nftMetadata.get? nm.id = none →
      (∀ id, db'.nftMetadata.get? id = if id = nm.id then some nm else db.nftMetadata.get? id) →
      Writes db (.InsertNft nm) (.ok ()) db'
  | Stored (id : Uuid) (patch : Json) (db' : Db) : Replaces db db' id (published patch) →
      Writes db (.StorePublished id patch) () db'
  | Minted (req : FinalizeVaultMintRequest) (v : Xrpl.LocalMintVerification)
      (previousTokenId metadataHash : String) (db' : Db) :
      varchar 71 req.manifestHash = .ok metadataHash →
      Replaces db db' req.vaultId (mintedVault req v metadataHash) →
      Writes db (.Mint req v previousTokenId) (.ok ()) db'

lemma writes_mint (req : FinalizeVaultMintRequest) (v : Xrpl.LocalMintVerification)
    (previousTokenId : String) (db : Db) : wp (mintTransaction req v previousTokenId)
      (fun a db' => Writes db (.Mint req v previousTokenId) a db') db := by
  have refused : ∀ e, Writes db (.Mint req v previousTokenId) (.error e) db :=
    fun e => .Kept _ _ _ rfl (moves_of_same rfl)
  refine wp_transaction ?_
  refine wp_lift_bind (fun _ _ => refused _) fun hash hhash => ?_
  refine wp_write_bind (fun _ _ => refused _) fun db₁ h₁ => ?_
  refine wp_write_bind (fun _ _ => refused _) fun db₂ h₂ => ?_
  refine wp_write (fun _ _ => refused _) fun db₃ h₃ => ?_
  obtain ⟨nfts, hnfts, rfl⟩ := updateMinted_eq_ok h₁
  obtain ⟨replicas, -, rfl⟩ := renameReplicas_eq_ok h₂
  obtain rfl := linkVaultObject_eq_ok h₃
  exact .Minted req v previousTokenId hash _ hhash (Indexed.get?_replace hnfts)

/-- **What a statement can do to the vaults.** -/
theorem exec_writes (u : Umbral) (codec : TextCodec) (stmt : Statement) (w : World)
    (r : Registry) :
    Writes r.db stmt (exec u codec stmt w r).1 (exec u codec stmt w r).2.db := by
  have quiet : ∀ stmt (a : Answer stmt), isMint stmt a = false → Writes r.db stmt a r.db :=
    fun stmt a hmint => .Kept _ _ _ hmint (moves_of_same rfl)
  cases stmt with
  | FindUser wallet => exact quiet _ _ rfl
  | InsertUser user =>
      rw [exec]
      cases hins : insertUser user r.db with
      | error e => exact quiet _ _ rfl
      | ok db =>
          refine .Kept _ _ _ rfl (moves_of_same ?_)
          rw [insertUser] at hins
          split at hins
          · rw [← Except.ok.inj hins]
          · cases hins
  | InsertNft nm =>
      rw [exec, write]
      cases hins : insertNft nm r.db with
      | error e => exact quiet _ _ rfl
      | ok db =>
          obtain ⟨nfts, hnew, rfl⟩ := insertNft_eq_ok hins
          exact .Inserted nm _ (Indexed.get?_insert_self hnew) (Indexed.get?_insert hnew)
  | FindVault id => exact quiet _ _ rfl
  | StorePublished id patch => exact .Stored id patch _ (get?_withNft r.db id)
  | ActiveIdentity id => exact quiet _ _ rfl
  | IsRegistered nftTokenId vaultId => exact quiet _ _ rfl
  | PublishedUri id => exact quiet _ _ rfl
  | Mint req v previousTokenId =>
      have hspec := writes_mint req v previousTokenId r.db
      rw [wp] at hspec
      rw [exec]
      rcases hmint : mintTransaction req v previousTokenId r.db with ⟨minted, db⟩
      rw [hmint] at hspec
      cases minted with
      | error e => exact hspec
      | ok _ => exact hspec
  | SelectMetadata normalizedId nftId => exact quiet _ _ rfl
  | Transfer call => exact .Kept _ _ _ rfl (moves_transfer u codec r.db call)

/-! ## The system -/

abbrev Server := State Registry Call Answer World Reply

section System

variable (u : Umbral) (codec : TextCodec) (state : AppState)

abbrev step (s : Server) (l : Label Call World) : Server :=
  Interleaving.step (exec u codec) (handle codec state) s l

/-- The server after a run. -/
abbrev run (s : Server) (ls : List (Label Call World)) : Server :=
  Runs.exec (step u codec state) s ls

end System

end Vaulted.VaultMint
