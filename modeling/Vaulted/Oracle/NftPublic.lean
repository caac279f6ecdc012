import Vaulted.Oracle.PublicMetadata

/-!
# The public endpoint

`api/nft_public.rs`: wallets resolve the URI of an NFT, without a login.

* `normalizePublicNftId` — the id in the path, without its algorithm and in lower case.
* `answersTo` — the `WHERE` clause, `newest` — the rows that `ORDER BY updated_at DESC` puts first.
* `generateNftMetadata` — what is answered where nothing has been published.
* `nftMetadata` — the answer, for what the query has found.

A query that fails is not modelled, and the image is left out.  An answer is the JSON value that is
printed; it goes out with `public, max-age=31536000, immutable`.
-/

namespace Vaulted.NftPublic

open Vaults

/-! ## The id -/

def withoutAlgorithm (id : String) : String :=
  if Text.startsWith id "sha256:" then String.ofList (id.toList.drop 7) else id

def normalizePublicNftId (id : String) : Option String :=
  let normalized := withoutAlgorithm id
  if Text.len normalized < 8 ∨ 128 < Text.len normalized
      ∨ normalized.toList.all Text.isAsciiHexdigit = false then none
  else some (Text.toAsciiLowercase normalized)

/-! ## The query -/

/-- The metadata that has been published with a vault. -/
def publishedMetadataJson (nm : NftMetadata) : Option Json :=
  nm.manifest.bind fun manifest => manifest.pointer ["public_metadata", "metadata_json"]

/-- The manifest that this metadata names. -/
def publishedManifestHash (nm : NftMetadata) : Option String :=
  nm.manifest.bind fun manifest =>
    manifest.textAt ["public_metadata", "metadata_json", "properties", "manifest_hash"]

/-- The `WHERE` clause; `$1` is the normalised id, and `$2` the one in the path. -/
def answersTo (normalizedId nftId : String) (nm : NftMetadata) : Bool :=
  decide (nm.metadataHash = normalizedId) || decide (nm.nftTokenId = normalizedId)
    || decide (publishedManifestHash nm = some nftId)
    || decide (publishedManifestHash nm = some normalizedId)

/-- The rows that no other one is newer than. -/
def newest (updatedAt : Uuid → Time) (rows : List NftMetadata) : List NftMetadata :=
  rows.filter fun nm => rows.all fun other => decide (updatedAt other.id ≤ updatedAt nm.id)

/-- The row that the query finds, with its metadata. -/
def selectMetadata (env : Env) (updatedAt : Uuid → Time) (normalizedId nftId : String) (db : Db) :
    Option (Option Json) :=
  (env.choose (newest updatedAt (db.nftMetadata.rows.filter (answersTo normalizedId nftId)))).map
    publishedMetadataJson

/-! ## GET /nft/:id/metadata.json -/

def generateNftMetadata (tokenId imageUrl : String) : Json :=
  let shortId :=
    if 12 ≤ Text.len tokenId then
      String.ofList (tokenId.toList.take 6) ++ "..."
        ++ String.ofList (tokenId.toList.drop (tokenId.toList.length - 6))
    else tokenId
  let trait (traitType value : String) : Json :=
    .Obj [("trait_type", .Str traitType), ("value", .Str value)]
  .Obj
    [("name", .Str ("XRPL Vault #" ++ shortId)),
      ("description", .Str ("End-to-end encrypted file stored on XRPL Vault with Proxy "
        ++ "Re-Encryption access control")),
      ("image", .Str imageUrl),
      ("attributes", .Arr
        [trait "Encryption" "AES-256-GCM", trait "Access Control" "Proxy Re-Encryption",
          trait "Network" "XRPL", trait "Token ID" shortId])]

def imageUrl (state : AppState) (normalizedId : String) : String :=
  match state.publicUrl with
  | some publicUrl => trimEndSlashes publicUrl ++ "/nft/" ++ normalizedId ++ "/image.svg"
  | none => "/nft/" ++ normalizedId ++ "/image.svg"

inductive PublicAnswer
  | InvalidNftId
  | Metadata (metadata : Json)

/-- The answer to a normalised id, for the row that the query has found. -/
def metadataAnswer (state : AppState) (normalizedId : String) (found : Option (Option Json)) :
    PublicAnswer :=
  match found with
  | some (some metadata) => .Metadata metadata
  | some none | none =>
      .Metadata (generateNftMetadata normalizedId (imageUrl state normalizedId))

/-- `nft_metadata`. -/
def nftMetadata (state : AppState) (env : Env) (updatedAt : Uuid → Time) (nftId : String)
    (db : Db) : PublicAnswer :=
  match normalizePublicNftId nftId with
  | none => .InvalidNftId
  | some normalizedId =>
      metadataAnswer state normalizedId (selectMetadata env updatedAt normalizedId nftId db)

end Vaulted.NftPublic
