import Vaulted.Oracle.Vault

/-!
# Public metadata

`publish_vault_metadata` of `api/vault.rs`.  The owner of a vault stores its public metadata, once.

* `rejectSensitiveKeys` — no key of the metadata may name a secret.
* `publishVaultMetadata` — the handler.
* `publishVaultMetadata_spec` — everything a call can do to the database.

Where the code stores the time of publication as a text, `publishedAt` is that text.
-/

namespace Vaulted.Vaults

open Autocommit.Prog

structure PublishVaultMetadataRequest where
  vaultId : Uuid
  manifestHash : String
  metadataUri : String
  metadataJson : String
  metadataHash : String

structure PublishVaultMetadataResponse where
  vaultId : Uuid
  manifestHash : String
  metadataUri : String
  metadataHash : String
  published : Bool
  deriving DecidableEq

/-! ## What may be published -/

def forbiddenKeys : List String :=
  ["mnemonic", "seed_phrase", "private_key", "privatekey", "secret_key", "secretkey",
    "plaintext_filename", "filename", "mime_type", "original_hash", "original_size"]

def isForbidden (key : String) : Bool :=
  forbiddenKeys.any (Text.contains (Text.toAsciiLowercase key))

mutual

/-- The first key that names a secret is an error. -/
def rejectSensitivePublicMetadataKeys : Json → Except ApiError Unit
  | .Obj members => rejectSensitiveMembers members
  | .Arr items => rejectSensitiveItems items
  | _ => .ok ()

def rejectSensitiveMembers : List (String × Json) → Except ApiError Unit
  | [] => .ok ()
  | (key, nested) :: members => do
      if isForbidden key then
        .error (.Validation ("metadata_json contains forbidden sensitive key: " ++ key))
      rejectSensitivePublicMetadataKeys nested
      rejectSensitiveMembers members

def rejectSensitiveItems : List Json → Except ApiError Unit
  | [] => .ok ()
  | nested :: items => do
      rejectSensitivePublicMetadataKeys nested
      rejectSensitiveItems items

end

/-- A text of the metadata, or the empty one. -/
def metadataText (metadata : Json) (path : List String) : String :=
  (metadata.textAt path).getD ""

def validatePublicMetadataSafety (metadata : Json) (manifestHash metadataUri : String) :
    Except ApiError Unit := do
  if !metadata.isObject then
    .error (.Validation "metadata_json must be a JSON object")
  if Text.isEmpty (metadataText metadata ["name"]) then
    .error (.Validation "metadata_json.name is required")
  if Text.isEmpty (metadataText metadata ["image"]) then
    .error (.Validation "metadata_json.image is required")
  if metadataText metadata ["external_url"] ≠ metadataUri then
    .error (.Validation "metadata_json.external_url must match metadata_uri")
  if metadataText metadata ["properties", "manifest_hash"] ≠ manifestHash then
    .error (.Validation "metadata_json.properties.manifest_hash must match manifest_hash")
  rejectSensitivePublicMetadataKeys metadata

/-! ## POST /api/v1/vault/publish-metadata -/

/-- What is stored with the manifest. -/
def publicMetadataPatch (req : PublishVaultMetadataRequest) (metadata : Json)
    (publishedAt : String) : Json :=
  .Obj [("public_metadata", .Obj
    [("metadata_uri", .Str req.metadataUri),
      ("metadata_hash", .Str (Text.toAsciiLowercase req.metadataHash)),
      ("metadata_json", metadata), ("published_at", .Str publishedAt),
      ("storage", .Str "oracle_db_jsonb"), ("immutable", .Boolean true)])]

def withPublicMetadata (vaultId : Uuid) (patch : Json) (db : Db) : Db :=
  db.withNft vaultId fun nm =>
    { nm with manifest := some ((nm.manifest.getD (.Obj [])).concat patch) }

/-- The hash under which the metadata of a vault has been published. -/
def publishedMetadataHash (nm : NftMetadata) : String :=
  (nm.manifest.bind fun manifest => manifest.textAt ["public_metadata", "metadata_hash"]).getD ""

def publishVaultMetadata (codec : TextCodec) (state : AppState) (publishedAt : String)
    (auth : AuthenticatedUser) (req : PublishVaultMetadataRequest) :
    Handler PublishVaultMetadataResponse := do
  require (!(Text.isEmpty req.manifestHash || Text.isEmpty req.metadataUri))
    (.Validation "manifest_hash and metadata_uri are required")
  require (decide (Text.len req.metadataJson ≤ 128 * 1024))
    (.Validation "metadata_json is too large")
  require (Text.isHexOfLen 64 req.metadataHash)
    (.Validation "metadata_hash must be 64 hex characters")
  require (Text.eqIgnoreAsciiCase
      (Text.hexEncode (state.sha256 (Text.utf8 req.metadataJson))) req.metadataHash)
    (.Validation "metadata_hash does not match metadata_json")
  let metadata ← lift ((codec.jsonFromStr req.metadataJson).mapError fun _ =>
    .Validation "metadata_json must be valid JSON")
  lift (validatePublicMetadataSafety metadata req.manifestHash req.metadataUri)
  let row? ← read (nftWithOwner req.vaultId)
  let (nm, ownerWallet) ← expect row? (.NotFound ("Vault " ++ req.vaultId.text ++ " not found"))
  require (Text.eqIgnoreAsciiCase auth.walletAddress ownerWallet)
    (.Forbidden "Only the vault owner can publish metadata")
  require (decide (nm.metadataHash = req.manifestHash))
    (.Validation "manifest_hash does not match prepared vault")
  require (decide (req.metadataUri = publicMetadataUri state req.manifestHash))
    (.Validation "metadata_uri does not match prepared public URI")
  match publishedMetadataUri nm with
  | some existingUri =>
      -- the same metadata once more
      require (decide (existingUri = req.metadataUri)
          && Text.eqIgnoreAsciiCase (publishedMetadataHash nm) req.metadataHash)
        (.Conflict "Public metadata is already published and immutable")
  | none =>
      write fun db =>
        .ok (withPublicMetadata req.vaultId (publicMetadataPatch req metadata publishedAt) db)
  pure
    { vaultId := req.vaultId
      manifestHash := req.manifestHash
      metadataUri := req.metadataUri
      metadataHash := req.metadataHash
      published := true }

/-! ## What a call does -/

inductive Publishes (auth : AuthenticatedUser) (req : PublishVaultMetadataRequest) (db : Db) :
    Except ApiError PublishVaultMetadataResponse → Db → Prop
  | Refused (e : ApiError) : Publishes auth req db (.error e) db
  | Repeated (answer : PublishVaultMetadataResponse) : Publishes auth req db (.ok answer) db
  | Published (nm : NftMetadata) (ownerWallet : String) (patch : Json)
      (answer : PublishVaultMetadataResponse) :
      nftWithOwner req.vaultId db = some (nm, ownerWallet) →
      Text.eqIgnoreAsciiCase auth.walletAddress ownerWallet = true →
      nm.metadataHash = req.manifestHash → publishedMetadataUri nm = none →
      Publishes auth req db (.ok answer) (withPublicMetadata req.vaultId patch db)

/-- **What a call can do to the database.** -/
theorem publishVaultMetadata_spec (codec : TextCodec) (state : AppState) (publishedAt : String)
    (auth : AuthenticatedUser) (req : PublishVaultMetadataRequest) (db : Db) :
    wp (publishVaultMetadata codec state publishedAt auth req) (Publishes auth req db) db := by
  refine wp_require_bind (fun _ => .Refused _) fun _ => ?_
  refine wp_require_bind (fun _ => .Refused _) fun _ => ?_
  refine wp_require_bind (fun _ => .Refused _) fun _ => ?_
  refine wp_require_bind (fun _ => .Refused _) fun _ => ?_
  refine wp_lift_bind (fun _ _ => .Refused _) fun metadata _ => ?_
  refine wp_lift_bind (fun _ _ => .Refused _) fun _ _ => ?_
  refine wp_read_bind (wp_expect_bind (fun _ => .Refused _) fun row hrow => ?_)
  obtain ⟨nm, ownerWallet⟩ := row
  refine wp_require_bind (fun _ => .Refused _) fun hauth => ?_
  refine wp_require_bind (fun _ => .Refused _) fun hhash => ?_
  refine wp_require_bind (fun _ => .Refused _) fun _ => ?_
  cases hpublished : publishedMetadataUri nm with
  | some existingUri =>
      exact wp_require_bind (fun _ => .Refused _) fun _ => wp_pure (.Repeated _)
  | none =>
      refine wp_write_bind (fun _ h => by cases h) fun db' h => wp_pure ?_
      obtain rfl := Except.ok.inj h
      exact .Published nm ownerWallet _ _ hrow hauth (of_decide_eq_true hhash) hpublished

end Vaulted.Vaults
