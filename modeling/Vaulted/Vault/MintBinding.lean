import Vaulted.Library.Runs
import Vaulted.Vault.KeyMismatch
import Vaulted.Vault.MetadataFilter

/-!
# The manifest of a minted NFT

`createVault` takes the hash of a manifest, `publishVaultMetadata` and `finalizeVaultMint` take it
again.  The second compares it with the first; the third compares the URI, and stores the hash.

* `Call` — the three calls and a deletion, in any order; `Event` — what those that succeed say.
* `Binds` — a finalised mint names the manifest that was prepared and published, of a vault that
  is not archived and has no other token.
* `guard` — the hash of the row is the one in the request, and the row is open for its token.
* `Documented`, `Keeps`, `Evolves` — what a row is like, and what becomes of it.
* **`binding_of_guarded`** — every run of guarded calls binds.
* `not_binding` — Alice finalises her mint with another hash.
-/

namespace Vaulted.MintBinding

open Autocommit.Prog Vaults

/-! ## The system -/

inductive Call
  | CreateVault (env : Env) (auth : AuthenticatedUser) (req : CreateVaultRequest)
  | Publish (publishedAt : String) (auth : AuthenticatedUser) (req : PublishVaultMetadataRequest)
  | FinalizeMint (env : Env) (auth : AuthenticatedUser) (req : FinalizeVaultMintRequest)
  | DeleteVault (env : Env) (auth : AuthenticatedUser) (nftTokenId : String)
      (request : DeleteVaultRequest)

/-- A vault has been prepared or published for a manifest, or finalised with a token. -/
inductive Event
  | Prepared (vaultId : Uuid) (hash : String)
  | Published (vaultId : Uuid) (hash : String)
  | Finalized (vaultId : Uuid) (nftTokenId : String)
  deriving DecidableEq

def Event.vaultId : Event → Uuid
  | .Prepared vaultId _ => vaultId
  | .Published vaultId _ => vaultId
  | .Finalized vaultId _ => vaultId

section Statements

variable (codec : TextCodec) (state : AppState)

def step (db : Db) : Call → Db
  | .CreateVault env auth req => (createVault state env auth req db).2
  | .Publish publishedAt auth req => (publishVaultMetadata codec state publishedAt auth req db).2
  | .FinalizeMint env auth req => (finalizeVaultMint env auth req db).2
  | .DeleteVault env auth nftTokenId request =>
      (deleteVault state env auth nftTokenId request db).2

/-- What a call that succeeds says. -/
def told (db : Db) : Call → List Event
  | .CreateVault env auth req =>
      match (createVault state env auth req db).1 with
      | .ok answer => [.Prepared answer.vaultId req.metadataHash]
      | .error _ => []
  | .Publish publishedAt auth req =>
      match (publishVaultMetadata codec state publishedAt auth req db).1 with
      | .ok _ => [.Published req.vaultId req.manifestHash]
      | .error _ => []
  | .FinalizeMint env auth req =>
      match (finalizeVaultMint env auth req db).1 with
      | .ok _ => [.Finalized req.vaultId req.nftTokenId]
      | .error _ => []
  | .DeleteVault _ _ _ _ => []

abbrev exec (db : Db) (calls : List Call) : Db := Runs.exec (step codec state) db calls

abbrev history (db : Db) (calls : List Call) : List Event :=
  Runs.history (step codec state) (told codec state) db calls

/-- The manifest that a published document names. -/
def documentHash (nm : NftMetadata) : Option String :=
  nm.manifest.bind fun manifest =>
    manifest.textAt ["public_metadata", "metadata_json", "properties", "manifest_hash"]

/-- The row, the document in it, the vault object and the ledger name one manifest. -/
structure Names (env : Env) (req : FinalizeVaultMintRequest) (db : Db) (hash : String) : Prop where
  row : ∃ nm, db.nftMetadata.get? req.vaultId = some nm ∧ nm.metadataHash = hash
    ∧ documentHash nm = some hash
  object : ∃ vo, db.vaultObjects.get? req.vaultId.text = some vo ∧ vo.manifestHash = hash
  ledger : ∃ wallet v, Xrpl.verifyLocalNftMint env req.txHash req.nftTokenId wallet
    (publicMetadataUri state hash) = .ok v

/-- What a finalised mint should be like, after what has been told: it has the hash that was
prepared and the one that was published, it is not archived, and no other token has been finalised
for it. -/
structure Binds (events : List Event) (env : Env) (req : FinalizeVaultMintRequest) (db db' : Db) :
    Prop where
  prepared : ∀ hash, .Prepared req.vaultId hash ∈ events → Names state env req db' hash
  published : ∀ hash, .Published req.vaultId hash ∈ events → Names state env req db' hash
  unarchived : ∀ nm, db.nftMetadata.get? req.vaultId = some nm → nm.status.val ≠ .Archived
  once : ∀ nftTokenId, .Finalized req.vaultId nftTokenId ∈ events → nftTokenId = req.nftTokenId

/-- Every mint that a run finalises binds. -/
def Binding (db : Db) (calls : List Call) : Prop :=
  ∀ pre env auth req post answer, calls = pre ++ .FinalizeMint env auth req :: post →
    (finalizeVaultMint env auth req (exec codec state db pre)).1 = .ok answer →
    Binds state (history codec state db pre) env req (exec codec state db pre)
      (exec codec state db (pre ++ [.FinalizeMint env auth req]))

/-- The column does not cut the hash of a new vault.  A mint that may be finalised is for the hash
of its row, which is not archived and has not been finalised with another token. -/
def guard (db : Db) : Call → Prop
  | .CreateVault _ _ req => ∀ hash, varchar 71 req.metadataHash = .ok hash → hash = req.metadataHash
  | .FinalizeMint env auth req => ∀ nm wallet v, Finalizable env auth req db nm wallet v →
      nm.metadataHash = req.manifestHash ∧ nm.status.val ≠ .Archived
        ∧ (nm.status.val = .PendingClaim ∨ nm.nftTokenId = req.nftTokenId)
  | _ => True

/-- A row as the calls leave it: what is published in it is for its hash. -/
structure Documented (nm : NftMetadata) : Prop where
  short : nm.metadataHash.toList.length ≤ 71
  object : ∀ j, nm.manifest = some j → j.isObject = true
  document : ∀ uri, publishedMetadataUri nm = some uri →
    uri = publicMetadataUri state nm.metadataHash ∧ documentHash nm = some nm.metadataHash

/-- What becomes of a row. -/
structure Keeps (old new : NftMetadata) : Prop where
  hash : new.metadataHash = old.metadataHash
  published : (publishedMetadataUri old).isSome = true → (publishedMetadataUri new).isSome = true
  minted : old.status.val ≠ .PendingClaim →
    new.status.val ≠ .PendingClaim ∧ new.nftTokenId = old.nftTokenId

/-- What an event says about the row of its vault. -/
def Event.Holds : Event → NftMetadata → Prop
  | .Prepared _ hash, nm => nm.metadataHash = hash
  | .Published _ hash, nm => nm.metadataHash = hash ∧ (publishedMetadataUri nm).isSome = true
  | .Finalized _ nftTokenId, nm => nm.status.val ≠ .PendingClaim ∧ nm.nftTokenId = nftTokenId

/-- The rows stay, are documented, and bear out what is said. The invariant of a guarded run, with
the events of the run so far. -/
structure Evolves (db db' : Db) (events : List Event) : Prop where
  kept : ∀ id old, db.nftMetadata.get? id = some old →
    ∃ new, db'.nftMetadata.get? id = some new ∧ Keeps old new
  documented : ∀ id new, db'.nftMetadata.get? id = some new → Documented state new
  holds : ∀ e ∈ events, ∃ nm, db'.nftMetadata.get? e.vaultId = some nm ∧ e.Holds nm

end Statements

/-! ## What is published in a row -/

lemma get_concat {a b : List (String × Json)} (k : String) :
    ((Json.Obj a).concat (.Obj b)).get k = ((Json.Obj b).get k).or ((Json.Obj a).get k) := by
  rw [Json.concat, Json.get_append]
  cases hb : (Json.Obj b).get k with
  | some j => rfl
  | none =>
      -- no member of that name is filtered out
      have hkeep : ∀ m : String × Json, m.1 = k → (b.any fun m' => decide (m'.1 = m.1)) = false := by
        rintro m rfl
        rw [← Bool.not_eq_true, List.any_eq_true]
        rintro ⟨m', hm', heq⟩
        have hsome : ((Json.Obj b).get m.1).isSome = true :=
          Json.isSome_get.mpr (List.mem_map.mpr ⟨m', hm', of_decide_eq_true heq⟩)
        rw [hb] at hsome
        cases hsome
      rw [Option.none_or, Option.none_or, Json.get, Json.get, ← List.filter_reverse,
        List.find?_filter]
      congr 2
      funext m
      cases hm : decide (m.1 = k) with
      | true =>
          rw [hkeep m (of_decide_eq_true hm)]
          rfl
      | false => exact decide_eq_false fun h => Bool.false_ne_true h.2

lemma textAt_cons {j : Json} {k : String} {path : List String} :
    j.textAt (k :: path) = (j.get k).bind fun member => member.textAt path := by
  simp [Json.textAt, Json.pointer, Option.bind_assoc]

/-- The public metadata in a row. -/
def publication (nm : NftMetadata) : Option Json :=
  nm.manifest.bind fun manifest => manifest.get "public_metadata"

lemma publishedMetadataUri_eq (nm : NftMetadata) : publishedMetadataUri nm
    = (publication nm).bind fun metadata => metadata.textAt ["metadata_uri"] := by
  simp [publishedMetadataUri, publication, textAt_cons, Option.bind_assoc]

lemma documentHash_eq (nm : NftMetadata) : documentHash nm = (publication nm).bind fun metadata =>
    metadata.textAt ["metadata_json", "properties", "manifest_hash"] := by
  simp only [documentHash, publication, Option.bind_assoc]
  congr 1
  funext manifest
  exact textAt_cons

/-- A manifest without public metadata adds none. -/
lemma get_concat_getD {manifest : Option Json} {patch : List (String × Json)}
    (hobject : ∀ j, manifest = some j → j.isObject = true) (k : String) :
    ((manifest.getD (.Obj [])).concat (.Obj patch)).get k
      = ((Json.Obj patch).get k).or (manifest.bind fun j => j.get k) := by
  cases manifest with
  | none => exact get_concat k
  | some j =>
      have hj := hobject j rfl
      cases j with
      | Obj members => exact get_concat k
      | Null | Boolean _ | Num _ | Str _ | Arr _ => cases hj

lemma isObject_concat_getD {manifest : Option Json} {patch : List (String × Json)}
    (hobject : ∀ j, manifest = some j → j.isObject = true) :
    ((manifest.getD (.Obj [])).concat (.Obj patch)).isObject = true := by
  cases manifest with
  | none => rfl
  | some j =>
      have hj := hobject j rfl
      cases j with
      | Obj members => rfl
      | Null | Boolean _ | Num _ | Str _ | Arr _ => cases hj

/-! ## A step -/

section Step

variable {codec : TextCodec} {state : AppState} {db : Db}

/-- The rows of a table, with one of them changed. -/
def Replaces (db db' : Db) (vaultId : Uuid) (f : NftMetadata → NftMetadata) : Prop :=
  ∀ id, db'.nftMetadata.get? id
    = if id = vaultId then (db.nftMetadata.get? vaultId).map f else db.nftMetadata.get? id

lemma Keeps.refl (nm : NftMetadata) : Keeps nm nm where
  hash := rfl
  published := id
  minted h := ⟨h, rfl⟩

/-- A call that leaves the rows alone. -/
lemma evolves_of_same {db' : Db} (hsame : db'.nftMetadata = db.nftMetadata)
    (hdb : ∀ id nm, db.nftMetadata.get? id = some nm → Documented state nm) :
    Evolves state db db' [] where
  kept _ old h := ⟨old, hsame ▸ h, .refl old⟩
  documented id new h := hdb id new (hsame ▸ h)
  holds e he := by cases he

/-- A call that changes one row. -/
lemma evolves_of_replaces {db' : Db} {nm : NftMetadata} {vaultId : Uuid}
    {f : NftMetadata → NftMetadata} {events : List Event} (hreplaces : Replaces db db' vaultId f)
    (hdb : ∀ id nm, db.nftMetadata.get? id = some nm → Documented state nm)
    (hnm : db.nftMetadata.get? vaultId = some nm) (hkeeps : Keeps nm (f nm))
    (hdocumented : Documented state (f nm))
    (hevents : ∀ e ∈ events, e.vaultId = vaultId ∧ e.Holds (f nm)) :
    Evolves state db db' events := by
  have hself : db'.nftMetadata.get? vaultId = some (f nm) := by
    rw [hreplaces, if_pos rfl, hnm, Option.map_some]
  refine ⟨fun id old hold => ?_, fun id new hnew => ?_, fun e he => ?_⟩
  · by_cases hid : id = vaultId
    · subst hid
      obtain rfl := Option.some.inj (hnm.symm.trans hold)
      exact ⟨f nm, hself, hkeeps⟩
    · exact ⟨old, by rw [hreplaces, if_neg hid, hold], .refl old⟩
  · by_cases hid : id = vaultId
    · subst hid
      obtain rfl := Option.some.inj (hself.symm.trans hnew)
      exact hdocumented
    · rw [hreplaces, if_neg hid] at hnew
      exact hdb id new hnew
  · obtain ⟨hvault, hholds⟩ := hevents e he
    exact ⟨f nm, by rw [hvault, hself], hholds⟩

/-- A text that fits a column. -/
lemma length_of_varchar {n : Nat} {s s' : String} (h : varchar n s = .ok s') :
    s'.toList.length ≤ n := by
  rw [varchar] at h
  cases htext : Text.varchar n s with
  | none => rw [htext] at h; cases h
  | some s'' =>
      rw [htext] at h
      obtain rfl := Except.ok.inj h
      rw [Text.varchar] at htext
      split_ifs at htext with hshort hblank
      · rwa [← Option.some.inj htext]
      · rw [← Option.some.inj htext, String.toList_ofList, List.length_take]
        exact Nat.min_le_left _ _

/-- **A vault is prepared** for the hash of the request, as far as the column takes it. -/
lemma createVault_prepares (env : Env) (auth : AuthenticatedUser) (req : CreateVaultRequest) :
    wp (createVault state env auth req) (fun r db' => match r with
      | .error _ => ∃ users, db' = { db with users }
      | .ok answer => answer.vaultId = env.uuid 1 ∧ ∃ userId hash users,
          varchar 71 req.metadataHash = .ok hash
            ∧ insertNft (preparedVault state env req userId hash) { db with users } = .ok db')
      db := by
  refine wp_require_bind (fun _ => ⟨_, rfl⟩) fun _ => ?_
  refine wp_require_bind (fun _ => ⟨_, rfl⟩) fun _ => ?_
  refine wp_require_bind (fun _ => ⟨_, rfl⟩) fun _ => ?_
  refine wp_require_bind (fun _ => ⟨_, rfl⟩) fun _ => ?_
  refine wp_bind (wp_mono (getOrCreateUser_spec _ _ _ _) fun r db₁ hjoin => ?_)
  obtain ⟨users, rfl⟩ := hjoin.frame
  cases r with
  | error e => exact ⟨users, rfl⟩
  | ok userId =>
      refine wp_lift_bind (fun _ _ => ⟨users, rfl⟩) fun hash hhash => ?_
      refine wp_write_bind (fun _ _ => ⟨users, rfl⟩) fun db' hins => wp_pure ?_
      exact ⟨rfl, userId, hash, users, hhash, hins⟩

/-- A prepared vault has published nothing. -/
lemma publication_preparedVault (env : Env) (req : CreateVaultRequest) (userId : Uuid)
    (hash : String) : publication (preparedVault state env req userId hash) = none := by
  rw [publication, preparedVault]
  cases state.dbEncryptionKey with
  | some key => rfl
  | none => rfl

lemma evolves_createVault (hdb : ∀ id nm, db.nftMetadata.get? id = some nm → Documented state nm)
    {env : Env} {auth : AuthenticatedUser} {req : CreateVaultRequest}
    (hguard : guard db (.CreateVault env auth req)) :
    Evolves state db (step codec state db (.CreateVault env auth req))
      (told codec state db (.CreateVault env auth req)) := by
  have hspec := @createVault_prepares state db env auth req
  simp only [wp, step, told] at hspec ⊢
  generalize createVault state env auth req db = r at hspec ⊢
  obtain ⟨answer, db'⟩ := r
  cases answer with
  | error e =>
      obtain ⟨users, rfl⟩ := hspec
      exact evolves_of_same rfl hdb
  | ok answer =>
      obtain ⟨hvault, userId, hash, users, hhash, hins⟩ := hspec
      obtain ⟨nfts, hnew, rfl⟩ := insertNft_eq_ok hins
      have hself := Indexed.get?_insert_self hnew
      refine ⟨fun id old hold => ?_, fun id new hget => ?_, fun e he => ?_⟩
      · refine ⟨old, ?_, .refl old⟩
        rw [Indexed.get?_insert hnew, if_neg, hold]
        rintro rfl
        rw [hself] at hold
        cases hold
      · rcases get?_insertNft hins hget with hsame | ⟨-, rfl⟩
        · exact hdb id new hsame
        · refine ⟨length_of_varchar hhash, fun j hj => ?_, fun uri huri => ?_⟩
          · cases hkey : state.dbEncryptionKey with
            | some key => simp [preparedVault, hkey] at hj
            | none =>
                simp only [preparedVault, hkey] at hj
                obtain rfl := Option.some.inj hj
                rfl
          · rw [publishedMetadataUri_eq, publication_preparedVault] at huri
            cases huri
      · obtain rfl := List.mem_singleton.mp he
        refine ⟨preparedVault state env req userId hash, ?_, hguard hash hhash⟩
        rw [Event.vaultId, hvault, Indexed.get?_insert hnew]
        exact if_pos rfl

/-- Metadata that passes names its manifest. -/
lemma textAt_of_safe {metadata : Json} {manifestHash metadataUri : String}
    (hfilled : (!(Text.isEmpty manifestHash || Text.isEmpty metadataUri)) = true)
    (hsafe : validatePublicMetadataSafety metadata manifestHash metadataUri = .ok ()) :
    metadata.textAt ["properties", "manifest_hash"] = some manifestHash := by
  rw [validatePublicMetadataSafety, require_bind_eq_ok_iff, require_bind_eq_ok_iff,
    require_bind_eq_ok_iff, require_bind_eq_ok_iff, require_bind_eq_ok_iff] at hsafe
  obtain ⟨-, -, -, -, hhash, -⟩ := hsafe
  have hhash := not_not.mp hhash
  rw [metadataText] at hhash
  cases htext : metadata.textAt ["properties", "manifest_hash"] with
  | some s => rw [← hhash, htext, Option.getD_some]
  | none =>
      -- the empty text is not a hash
      rw [htext, Option.getD_none] at hhash
      rw [← hhash] at hfilled
      cases hfilled

/-- **Metadata is published** under the URI of the hash of the row, and names that hash. -/
lemma publishVaultMetadata_publishes (publishedAt : String) (auth : AuthenticatedUser)
    (req : PublishVaultMetadataRequest) :
    wp (publishVaultMetadata codec state publishedAt auth req) (fun r db' => match r with
      | .error _ => db' = db
      | .ok _ => ∃ nm, db.nftMetadata.get? req.vaultId = some nm
          ∧ nm.metadataHash = req.manifestHash
          ∧ ((publishedMetadataUri nm).isSome = true ∧ db' = db
            ∨ ∃ metadata, metadata.textAt ["properties", "manifest_hash"] = some req.manifestHash
              ∧ req.metadataUri = publicMetadataUri state req.manifestHash
              ∧ publishedMetadataUri nm = none
              ∧ db' = withPublicMetadata req.vaultId (publicMetadataPatch req metadata publishedAt)
                db)) db := by
  refine wp_require_bind (fun _ => rfl) fun hfilled => ?_
  refine wp_require_bind (fun _ => rfl) fun _ => ?_
  refine wp_require_bind (fun _ => rfl) fun _ => ?_
  refine wp_require_bind (fun _ => rfl) fun _ => ?_
  refine wp_lift_bind (fun _ _ => rfl) fun metadata _ => ?_
  refine wp_lift_bind (fun _ _ => rfl) fun _ hsafe => ?_
  refine wp_read_bind (wp_expect_bind (fun _ => rfl) fun row hrow => ?_)
  obtain ⟨nm, ownerWallet⟩ := row
  refine wp_require_bind (fun _ => rfl) fun _ => ?_
  refine wp_require_bind (fun _ => rfl) fun hhash => ?_
  refine wp_require_bind (fun _ => rfl) fun huri => ?_
  have hnm := (nftWithOwner_eq_some hrow).1
  have hhash : nm.metadataHash = req.manifestHash := of_decide_eq_true hhash
  cases hpublished : publishedMetadataUri nm with
  | some existingUri =>
      refine wp_require_bind (fun _ => rfl) fun _ => wp_pure ⟨nm, hnm, hhash, .inl ?_⟩
      exact ⟨by rw [hpublished]; rfl, rfl⟩
  | none =>
      refine wp_write_bind (fun _ _ => rfl) fun db' h => wp_pure ⟨nm, hnm, hhash, .inr ?_⟩
      obtain rfl := Except.ok.inj h
      refine ⟨metadata, ?_, of_decide_eq_true huri, hpublished, rfl⟩
      exact textAt_of_safe hfilled hsafe

lemma evolves_publish (hdb : ∀ id nm, db.nftMetadata.get? id = some nm → Documented state nm)
    (publishedAt : String) (auth : AuthenticatedUser) (req : PublishVaultMetadataRequest) :
    Evolves state db (step codec state db (.Publish publishedAt auth req))
      (told codec state db (.Publish publishedAt auth req)) := by
  have hspec := @publishVaultMetadata_publishes codec state db publishedAt auth req
  simp only [wp, step, told] at hspec ⊢
  generalize publishVaultMetadata codec state publishedAt auth req db = r at hspec ⊢
  obtain ⟨answer, db'⟩ := r
  cases answer with
  | error e =>
      obtain rfl := hspec
      exact evolves_of_same rfl hdb
  | ok answer =>
      obtain ⟨nm, hnm, hhash, ⟨hpublished, heq⟩ | ⟨metadata, hdocument, huri, hnone, rfl⟩⟩ := hspec
      · rw [heq]
        have hsame : Replaces db db req.vaultId id := fun j => by
          rw [Option.map_id, id]
          split_ifs with hj
          · rw [hj]
          · rfl
        refine evolves_of_replaces hsame hdb hnm (.refl nm) (hdb _ nm hnm) fun e he => ?_
        obtain rfl := List.mem_singleton.mp he
        exact ⟨rfl, hhash, hpublished⟩
      · have hold := hdb _ nm hnm
        have hget : ∀ k, ((nm.manifest.getD (.Obj [])).concat
            (publicMetadataPatch req metadata publishedAt)).get k = _ :=
          get_concat_getD hold.object
        have huri' : publishedMetadataUri { nm with manifest := some ((nm.manifest.getD
            (.Obj [])).concat (publicMetadataPatch req metadata publishedAt)) }
              = some req.metadataUri := by
          rw [publishedMetadataUri_eq, publication, Option.bind_some, hget]
          rfl
        refine evolves_of_replaces (get?_withNft db req.vaultId) hdb hnm
          ⟨rfl, fun h => ?_, fun h => ⟨h, rfl⟩⟩ ⟨hold.short, fun j hj => ?_, fun uri h => ?_⟩
          fun e he => ?_
        · rw [hnone] at h
          cases h
        · obtain rfl := Option.some.inj hj
          exact isObject_concat_getD hold.object
        · rw [huri'] at h
          obtain rfl := Option.some.inj h
          refine ⟨by rw [huri, hhash], ?_⟩
          rw [documentHash_eq, publication, Option.bind_some, hget, hhash, ← hdocument]
          simp [Json.get, textAt_cons]
        · obtain rfl := List.mem_singleton.mp he
          exact ⟨rfl, hhash, by rw [huri']; rfl⟩

section Finalizing

attribute [local irreducible] wp

/-- **A mint is finalised** with the hash of the request. -/
lemma finalizeVaultMint_finalizes (env : Env) (auth : AuthenticatedUser)
    (req : FinalizeVaultMintRequest) :
    wp (finalizeVaultMint env auth req) (fun r db' => match r with
      | .error _ => db' = db
      | .ok _ => ∃ nm wallet v hash db₁ db₂, Finalizable env auth req db nm wallet v
          ∧ varchar 71 req.manifestHash = .ok hash ∧ updateMinted req v hash db = .ok db₁
          ∧ renameReplicas nm.nftTokenId req.nftTokenId db₁ = .ok db₂
          ∧ linkVaultObject req db₂ = .ok db') db := by
  unfold finalizeVaultMint
  refine wp_require_bind (fun _ => rfl) fun _ => ?_
  refine wp_require_bind (fun _ => rfl) fun _ => ?_
  refine wp_require_bind (fun _ => rfl) fun _ => ?_
  refine wp_require_bind (fun _ => rfl) fun _ => ?_
  refine wp_read_bind (wp_expect_bind (fun _ => rfl) fun (nm, w) hrow => ?_)
  obtain ⟨hnm, hw⟩ := nftWithOwner_eq_some hrow
  refine wp_require_bind (fun _ => rfl) fun hauth => ?_
  refine wp_read_bind (wp_require_bind (fun _ => rfl) fun hidentity => ?_)
  refine wp_read_bind (wp_require_bind (fun _ => rfl) fun hnew => ?_)
  refine wp_require_bind (fun _ => rfl) fun huri => ?_
  refine wp_lift_bind (fun _ _ => rfl) fun v hv => ?_
  have hfinal : Finalizable env auth req db nm w v :=
    { found := hnm
      owner := hw
      caller := hauth
      identity := hidentity
      unregistered := fun other hother => by simpa [hother] using hnew
      published := of_decide_eq_true huri
      minted := hv }
  refine wp_bind (wp_transaction ?_)
  refine wp_lift_bind (fun _ _ => rfl) fun hash hhash => ?_
  refine wp_write_bind (fun _ _ => rfl) fun db₁ h₁ => ?_
  refine wp_write_bind (fun _ _ => rfl) fun db₂ h₂ => ?_
  refine wp_write (fun _ _ => rfl) fun db₃ h₃ => wp_pure ?_
  exact ⟨nm, w, v, hash, db₁, db₂, hfinal, hhash, h₁, h₂, h₃⟩

end Finalizing

/-- A finalised row keeps what has been published. -/
lemma keeps_mintedVault {nm : NftMetadata} {req : FinalizeVaultMintRequest}
    {v : Xrpl.LocalMintVerification} (hold : Documented state nm)
    (hopen : nm.status.val = .PendingClaim ∨ nm.nftTokenId = req.nftTokenId) :
    Keeps nm (mintedVault req v nm.metadataHash nm)
      ∧ Documented state (mintedVault req v nm.metadataHash nm) := by
  have hpublication : publication (mintedVault req v nm.metadataHash nm) = publication nm := by
    rw [publication, mintedVault, Option.bind_some, mintPatch, get_concat_getD hold.object]
    exact Option.none_or
  have huri : publishedMetadataUri (mintedVault req v nm.metadataHash nm)
      = publishedMetadataUri nm := by
    rw [publishedMetadataUri_eq, hpublication, ← publishedMetadataUri_eq]
  have hdocument : documentHash (mintedVault req v nm.metadataHash nm) = documentHash nm := by
    rw [documentHash_eq, hpublication, ← documentHash_eq]
  refine ⟨⟨rfl, by rw [huri]; exact id, fun hminted => ?_⟩, hold.short, fun j hj => ?_, ?_⟩
  · have htoken : nm.nftTokenId = req.nftTokenId := hopen.resolve_left hminted
    exact ⟨fun h => (by cases h), htoken.symm⟩
  · obtain rfl := Option.some.inj hj
    exact isObject_concat_getD hold.object
  · rw [huri, hdocument]
    exact hold.document

/-- The vault object of a finalised mint names the manifest of the request. -/
lemma linked_object (req : FinalizeVaultMintRequest) (objects : Table VaultObject.id) :
    ∃ vo, (objects.upsert (linkedObject req req.vaultId.text) (fun vo => linkedObject req vo.id)
      fun _ => rfl).get? req.vaultId.text = some vo ∧ vo.manifestHash = req.manifestHash := by
  refine ⟨_, (Table.get?_upsert _ _ _ _ _).trans (if_pos rfl), ?_⟩
  cases objects.get? (linkedObject req req.vaultId.text).id with
  | none => rfl
  | some vo => rfl

/-- What a successful call leaves. -/
lemma finalizeMint_written {env : Env} {auth : AuthenticatedUser}
    {req : FinalizeVaultMintRequest} {answer : FinalizeVaultMintResponse}
    (hok : (finalizeVaultMint env auth req db).1 = .ok answer) : ∃ nm wallet v hash,
      Finalizable env auth req db nm wallet v ∧ varchar 71 req.manifestHash = .ok hash
        ∧ Replaces db (finalizeVaultMint env auth req db).2 req.vaultId (mintedVault req v hash)
        ∧ ∃ vo, (finalizeVaultMint env auth req db).2.vaultObjects.get? req.vaultId.text = some vo
          ∧ vo.manifestHash = req.manifestHash := by
  have hspec := @finalizeVaultMint_finalizes db env auth req
  simp only [wp] at hspec
  rw [hok] at hspec
  generalize (finalizeVaultMint env auth req db).2 = db' at hspec ⊢
  obtain ⟨nm, wallet, v, hash, db₁, db₂, hfinal, hhash, h₁, h₂, h₃⟩ := hspec
  obtain ⟨nfts, hnfts, rfl⟩ := updateMinted_eq_ok h₁
  obtain ⟨replicas, -, rfl⟩ := renameReplicas_eq_ok h₂
  obtain rfl := linkVaultObject_eq_ok h₃
  exact ⟨nm, wallet, v, hash, hfinal, hhash, Indexed.get?_replace hnfts,
    linked_object req db.vaultObjects⟩

/-- What a successful call has asked of the row, where it is guarded. -/
lemma finalizeMint_rows (hdb : ∀ id nm, db.nftMetadata.get? id = some nm → Documented state nm)
    {env : Env} {auth : AuthenticatedUser} {req : FinalizeVaultMintRequest}
    {answer : FinalizeVaultMintResponse} (hguard : guard db (.FinalizeMint env auth req))
    (hok : (finalizeVaultMint env auth req db).1 = .ok answer) : ∃ nm wallet v,
      Finalizable env auth req db nm wallet v ∧ nm.metadataHash = req.manifestHash
        ∧ Replaces db (finalizeVaultMint env auth req db).2 req.vaultId
          (mintedVault req v nm.metadataHash)
        ∧ ∃ vo, (finalizeVaultMint env auth req db).2.vaultObjects.get? req.vaultId.text = some vo
          ∧ vo.manifestHash = req.manifestHash := by
  obtain ⟨nm, wallet, v, hash, hfinal, hhash, hreplaces, hobject⟩ := finalizeMint_written hok
  have heq : nm.metadataHash = req.manifestHash := (hguard nm wallet v hfinal).1
  -- the hash of a row fits its column
  rw [← heq, varchar_of_le (hdb _ nm hfinal.found).short] at hhash
  obtain rfl := Except.ok.inj hhash
  exact ⟨nm, wallet, v, hfinal, heq, hreplaces, hobject⟩

lemma evolves_finalizeMint
    (hdb : ∀ id nm, db.nftMetadata.get? id = some nm → Documented state nm)
    {env : Env} {auth : AuthenticatedUser} {req : FinalizeVaultMintRequest}
    (hguard : guard db (.FinalizeMint env auth req)) :
    Evolves state db (step codec state db (.FinalizeMint env auth req))
      (told codec state db (.FinalizeMint env auth req)) := by
  rw [step, told]
  cases hanswer : (finalizeVaultMint env auth req db).1 with
  | error e =>
      have hspec := @finalizeVaultMint_finalizes db env auth req
      simp only [wp] at hspec
      rw [hanswer] at hspec
      exact evolves_of_same (congrArg Db.nftMetadata hspec) hdb
  | ok answer =>
      obtain ⟨nm, wallet, v, hfinal, -, hreplaces, -⟩ := finalizeMint_rows hdb hguard hanswer
      obtain ⟨hkeeps, hdocumented⟩ := @keeps_mintedVault state nm req v
        (hdb _ nm hfinal.found) (hguard nm wallet v hfinal).2.2
      refine evolves_of_replaces hreplaces hdb hfinal.found hkeeps hdocumented fun e he => ?_
      obtain rfl := List.mem_singleton.mp he
      exact ⟨rfl, fun h => (by cases h), rfl⟩

lemma evolves_deleteVault
    (hdb : ∀ id nm, db.nftMetadata.get? id = some nm → Documented state nm)
    (env : Env) (auth : AuthenticatedUser) (nftTokenId : String) (request : DeleteVaultRequest) :
    Evolves state db (step codec state db (.DeleteVault env auth nftTokenId request))
      (told codec state db (.DeleteVault env auth nftTokenId request)) := by
  have hspec := deleteVault_spec state env auth nftTokenId request db
  simp only [wp, step, told] at hspec ⊢
  generalize deleteVault state env auth nftTokenId request db = r at hspec ⊢
  obtain ⟨answer, db'⟩ := r
  cases hspec with
  | Refused e => exact evolves_of_same rfl hdb
  | Deleted nm manifest storageDeleted answer hdeletable =>
      have hnm := Indexed.get?_of_find? hdeletable.found
      have hold := hdb _ nm hnm
      have hreplaces : Replaces db (tombstoned nm storageDeleted { db with
          storageRequests := db.storageRequests ++ deleteRequests state env db.storageNodes.rows
            nftTokenId 0 manifest.fragments }) nm.id
          fun nm => { nm with status := NftStatus.archived } := by
        intro id
        rw [tombstoned, get?_withNft]
        cases storageDeleted <;> rfl
      refine evolves_of_replaces hreplaces hdb hnm ⟨rfl, id, fun _ => ⟨fun h => ?_, rfl⟩⟩
        ⟨hold.short, hold.object, hold.document⟩ fun e he => ?_
      · cases h
      · cases he

/-- **A step.** -/
theorem evolves_step (hdb : ∀ id nm, db.nftMetadata.get? id = some nm → Documented state nm)
    {call : Call} (hguard : guard db call) :
    Evolves state db (step codec state db call) (told codec state db call) := by
  cases call with
  | CreateVault env auth req => exact evolves_createVault hdb hguard
  | Publish publishedAt auth req => exact evolves_publish hdb publishedAt auth req
  | FinalizeMint env auth req => exact evolves_finalizeMint hdb hguard
  | DeleteVault env auth nftTokenId request =>
      exact evolves_deleteVault hdb env auth nftTokenId request

/-- **A finalised mint binds**, where the rows bear out what has been told. -/
lemma binds_finalizeMint (hdb : ∀ id nm, db.nftMetadata.get? id = some nm → Documented state nm)
    {events : List Event}
    (hholds : ∀ e ∈ events, ∃ nm, db.nftMetadata.get? e.vaultId = some nm ∧ e.Holds nm)
    {env : Env} {auth : AuthenticatedUser} {req : FinalizeVaultMintRequest}
    {answer : FinalizeVaultMintResponse} (hguard : guard db (.FinalizeMint env auth req))
    (hok : (finalizeVaultMint env auth req db).1 = .ok answer) :
    Binds state events env req db (finalizeVaultMint env auth req db).2 := by
  obtain ⟨nm, wallet, v, hfinal, hhash, hreplaces, vo, hvo, hmanifest⟩ :=
    finalizeMint_rows hdb hguard hok
  obtain ⟨-, hunarchived, hopen⟩ := hguard nm wallet v hfinal
  have hold := hdb _ nm hfinal.found
  have huri := (hold.document _ hfinal.published).1
  have hrow : (finalizeVaultMint env auth req db).2.nftMetadata.get? req.vaultId
      = some (mintedVault req v nm.metadataHash nm) := by
    rw [hreplaces, if_pos rfl, hfinal.found, Option.map_some]
  obtain ⟨hkeeps, hnew⟩ := @keeps_mintedVault state nm req v hold hopen
  obtain ⟨uri, hpublished⟩ := Option.isSome_iff_exists.mp
    (hkeeps.published (by rw [hfinal.published]; rfl))
  have hnames : Names state env req (finalizeVaultMint env auth req db).2 nm.metadataHash := by
    refine ⟨⟨_, hrow, rfl, (hnew.document uri hpublished).2⟩,
      ⟨vo, hvo, hmanifest.trans hhash.symm⟩, wallet, v, ?_⟩
    rw [← huri]
    exact hfinal.minted
  refine ⟨fun hash hmem => ?_, fun hash hmem => ?_, fun old h => ?_, fun token hmem => ?_⟩
  · obtain ⟨old, hget, hprepared⟩ := hholds _ hmem
    obtain rfl := Option.some.inj (hfinal.found.symm.trans hget)
    exact (hprepared : nm.metadataHash = hash) ▸ hnames
  · obtain ⟨old, hget, hpublished⟩ := hholds _ hmem
    obtain rfl := Option.some.inj (hfinal.found.symm.trans hget)
    exact (hpublished.1 : nm.metadataHash = hash) ▸ hnames
  · obtain rfl := Option.some.inj (hfinal.found.symm.trans h)
    exact hunarchived
  · obtain ⟨old, hget, hminted, htoken⟩ := hholds _ hmem
    obtain rfl := Option.some.inj (hfinal.found.symm.trans hget)
    exact htoken.symm.trans (hopen.resolve_left hminted)

end Step

/-! ## A run -/

section Run

variable {codec : TextCodec} {state : AppState} {db : Db} {calls : List Call}

/-- What is said about a row stays true of it. -/
lemma Keeps.holds {old new : NftMetadata} (h : Keeps old new) {e : Event} (he : e.Holds old) :
    e.Holds new := by
  cases e with
  | Prepared vaultId hash => exact h.hash.trans he
  | Published vaultId hash => exact ⟨h.hash.trans he.1, h.published he.2⟩
  | Finalized vaultId nftTokenId =>
      obtain ⟨hminted, htoken⟩ := h.minted he.1
      exact ⟨hminted, htoken.trans he.2⟩

/-- The rows of a guarded run are documented, and bear out what has been told. -/
lemma holds_of_guarded (hdb : ∀ id nm, db.nftMetadata.get? id = some nm → Documented state nm)
    (hguarded : Runs.Guarded (step codec state) guard db calls) :
    (∀ id nm, (exec codec state db calls).nftMetadata.get? id = some nm → Documented state nm)
      ∧ ∀ e ∈ history codec state db calls, ∃ nm,
        (exec codec state db calls).nftMetadata.get? e.vaultId = some nm ∧ e.Holds nm := by
  let I : List Event → Db → Prop := fun events db =>
    (∀ id nm, db.nftMetadata.get? id = some nm → Documented state nm)
      ∧ ∀ e ∈ events, ∃ nm, db.nftMetadata.get? e.vaultId = some nm ∧ e.Holds nm
  have hinit : I [] db := ⟨hdb, fun e he => by cases he⟩
  refine Runs.invariant_run hinit (fun events db call hI hguard => ?_) hguarded.admits
  obtain ⟨hrows, htold⟩ := hI
  have hevolves := @evolves_step codec state db hrows call hguard
  refine ⟨hevolves.documented, fun e he => ?_⟩
  rcases List.mem_append.mp he with hearlier | hnow
  · obtain ⟨old, hold, hholds⟩ := htold e hearlier
    obtain ⟨new, hnew, hkeeps⟩ := hevolves.kept _ old hold
    exact ⟨new, hnew, hkeeps.holds hholds⟩
  · exact hevolves.holds e hnow

/-- **Every mint that a guarded run finalises binds.** The handler compares the URI of the request
with the published one, but not its manifest hash with that of the row, nor does it ask for a
status: the condition supplies what is missing. -/
theorem binding_of_guarded
    (hdb : ∀ id nm, db.nftMetadata.get? id = some nm → Documented state nm)
    (hguarded : Runs.Guarded (step codec state) guard db calls) : Binding codec state db calls := by
  rintro pre env auth req post answer rfl hok
  obtain ⟨hrows, hholds⟩ := holds_of_guarded hdb hguarded.front
  have hlast : exec codec state db (pre ++ [.FinalizeMint env auth req])
      = (finalizeVaultMint env auth req (exec codec state db pre)).2 := Runs.exec_concat _ _ _ _
  rw [hlast]
  exact binds_finalizeMint hrows hholds hguarded.back.1 hok

/-- A mint that binds is finalised with the hash that has been prepared. -/
lemma hash_of_binding {env : Env} {auth : AuthenticatedUser} {req : FinalizeVaultMintRequest}
    {answer : FinalizeVaultMintResponse} {hash : String}
    (hbinding : Binding codec state db (calls ++ [.FinalizeMint env auth req]))
    (hok : (finalizeVaultMint env auth req (exec codec state db calls)).1 = .ok answer)
    (hprepared : .Prepared req.vaultId hash ∈ history codec state db calls)
    (hshort : req.manifestHash.toList.length ≤ 71) : req.manifestHash = hash := by
  have hlast : exec codec state db (calls ++ [.FinalizeMint env auth req])
      = (finalizeVaultMint env auth req (exec codec state db calls)).2 := Runs.exec_concat _ _ _ _
  have hbinds := hbinding calls env auth req [] answer rfl hok
  rw [hlast] at hbinds
  obtain ⟨nm, hnm, hhash, -⟩ := (hbinds.prepared hash hprepared).row
  obtain ⟨old, wallet, v, written, hfinal, hwritten, hreplaces, -⟩ := finalizeMint_written hok
  -- the row has the hash of the request now
  rw [varchar_of_le hshort] at hwritten
  obtain rfl := Except.ok.inj hwritten
  rw [hreplaces, if_pos rfl, hfinal.found, Option.map_some] at hnm
  obtain rfl := Option.some.inj hnm
  exact hhash

end Run

namespace Sample

open Transfers.Sample Tombstone.Sample KeyMismatch.Sample

/-- Alice creates a vault and publishes its metadata. -/
def prepared : List Call :=
  [.CreateVault (env ⟨"nft"⟩) (caller alice)
      { walletAddress := "rAlice"
        prePublicKey := ""
        encryptedAesKey := "key"
        metadataHash := "h"
        manifest :=
          { encryptedFilename := "", originalSize := 0, mimeType := "", originalHash := "",
            fragments := [] } },
    .Publish "" (caller alice)
      { vaultId := ⟨"nft"⟩
        manifestHash := "h"
        metadataUri := uri
        metadataJson := "\x7b\"name\":\"n\",\"image\":\"i\",\"external_url\":\"vaulted://h\","
          ++ "\"properties\":\x7b\"manifest_hash\":\"h\"\x7d\x7d"
        metadataHash := Text.hexEncode (List.replicate 32 0) }]

/-- She finalises her mint. -/
def finalizing (manifestHash : String) : FinalizeVaultMintRequest where
  vaultId := ⟨"nft"⟩
  nftTokenId := tokenId
  txHash := txHash
  manifestUri := uri
  manifestHash := manifestHash
  ownerIdentityId := "alice"

def minting (manifestHash : String) : List Call :=
  prepared ++ [.FinalizeMint (heldBy "rAlice") (caller alice) (finalizing manifestHash)]

/-- The row of the vault is prepared, and the mint is finalised with either hash. -/
lemma ready_prepared :
    ((exec JsonText.compact hashing users prepared).nftMetadata.get? ⟨"nft"⟩).map
        (fun nm => (nm.metadataHash, nm.status.val)) = some ("h", .PendingClaim)
      ∧ ∀ manifestHash ∈ ["h", "other"], (finalizeVaultMint (heldBy "rAlice") (caller alice)
        (finalizing manifestHash)
        (exec JsonText.compact hashing users prepared)).1.toOption.isSome = true := by
  decide +kernel

lemma finalizes {manifestHash : String} (h : manifestHash ∈ ["h", "other"]) :
    ∃ answer, (finalizeVaultMint (heldBy "rAlice") (caller alice) (finalizing manifestHash)
      (exec JsonText.compact hashing users prepared)).1 = .ok answer := by
  obtain ⟨answer, hanswer⟩ := Option.isSome_iff_exists.mp (ready_prepared.2 _ h)
  exact ⟨answer, eq_ok_of_toOption hanswer⟩

lemma guarded_prepared : Runs.Guarded (step JsonText.compact hashing) guard users prepared :=
  ⟨fun _ h => (Except.ok.inj h).symm, trivial, trivial⟩

lemma guard_finalizing {db : Db} (hrow : (db.nftMetadata.get? ⟨"nft"⟩).map
      (fun nm => (nm.metadataHash, nm.status.val)) = some ("h", .PendingClaim)) :
    guard db (.FinalizeMint (heldBy "rAlice") (caller alice) (finalizing "h")) := by
  intro nm wallet v hfinal
  have hfound : db.nftMetadata.get? ⟨"nft"⟩ = some nm := hfinal.found
  rw [hfound, Option.map_some, Option.some.injEq, Prod.mk.injEq] at hrow
  refine ⟨hrow.1, fun h => ?_, .inl hrow.2⟩
  rw [hrow.2] at h
  cases h

/-- With the hash she has prepared, everything names it. -/
theorem binding_minting : (∃ answer, (finalizeVaultMint (heldBy "rAlice") (caller alice)
      (finalizing "h") (exec JsonText.compact hashing users prepared)).1 = .ok answer)
    ∧ Binding JsonText.compact hashing users (minting "h") := by
  refine ⟨finalizes (by simp), binding_of_guarded (fun id nm h => ?_) ?_⟩
  · cases h
  · exact guarded_prepared.append ⟨guard_finalizing ready_prepared.1, trivial⟩

lemma told_prepared : .Prepared ⟨"nft"⟩ "h" ∈ history JsonText.compact hashing users prepared := by
  refine List.mem_append_left _ ?_
  decide +kernel

/-- **With another hash nothing names it.** -/
theorem not_binding : ¬∀ calls, Binding JsonText.compact hashing users calls := by
  intro hbinding
  have hother : "other" ∈ ["h", "other"] := by simp
  obtain ⟨answer, hok⟩ := finalizes hother
  have heq := hash_of_binding (hbinding (minting "other")) hok told_prepared (by decide)
  exact absurd heq (by decide)

end Sample

end Vaulted.MintBinding
