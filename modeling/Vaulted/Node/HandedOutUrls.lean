import Vaulted.Node.GrantedAuthority
import Vaulted.Oracle.StorageUrls

/-!
# No storage URL of the Oracle is honoured

The Oracle hands out URLs of fragments in six ways.  Three of them carry a token that names no
node, and the others carry no token at all.

* `Routing` — how a node takes a URL apart, as far as it matters for valid keys.
* `Passes` — a URL is good for an operation on a key.
* `HandedOut` — the URLs, with the endpoint of their node, the key and the operation they are for,
  and when they expire.
* `not_passes` — none of them passes, at any time.
-/

namespace Vaulted.Node

open StorageUrls

/-! ## What a node makes of a URL -/

/-- From the path of a request, with its query, the key and the token. -/
structure Routing where
  route : String → Option (String × Option String)

/-- The characters of a token. -/
def IsTokenText (s : String) : Prop := ∀ ch ∈ s.toList, Base64.IsUrlDigit ch ∨ ch = '.'

/-- A valid key stands for itself in a URL, and so does a token: neither has characters that a
router would decode or cut. -/
structure Routing.Lawful (r : Routing) : Prop where
  bare : ∀ key, validateStorageKey key = .ok () → r.route (fragmentPath key) = some (key, none)
  signed : ∀ key token, validateStorageKey key = .ok () → IsTokenText token →
    r.route (signedPath key token) = some (key, some token)

section Passes

variable (c : Crates) (r : Routing) (state : AppState)

/-- The node behind the endpoint takes the URL for the operation on the key. -/
def Passes (endpoint key : String) (operation : StorageOperation) (hash : Option String)
    (now : Int) (consumed : ConsumedIds) (url : String) : Prop :=
  ∃ path token, url = endpoint ++ path ∧ r.route path = some (key, token)
    ∧ validateStorageKey key = .ok ()
    ∧ (verifyTokenForOperation c state ⟨token, key, operation, hash, now⟩ consumed).1 = .ok ()

/-- A URL that the Oracle hands out; a token is made only if its times fit. -/
inductive HandedOut : (endpoint key : String) → StorageOperation → (expiresAt : Option Int) →
    (url : String) → Prop
  | Download (g : StorageUrlGenerator) (now : Time) (jti : Uuid)
      (endpoint nftTokenId key : String) (t : StorageToken) :
      t = .newRead now jti nftTokenId key g.tokenValidityMinutes → t.Fits →
      HandedOut endpoint key .Read (some t.exp) (g.downloadUrl c now jti endpoint nftTokenId key)
  | Upload (g : StorageUrlGenerator) (now : Time) (jti : Uuid)
      (endpoint nftTokenId key : String) (t : StorageToken) :
      t = .newWrite now jti nftTokenId key g.tokenValidityMinutes → t.Fits →
      HandedOut endpoint key .Write (some t.exp) (g.uploadUrl c now jti endpoint nftTokenId key)
  | Deletion (g : StorageUrlGenerator) (now : Time) (jti : Uuid)
      (endpoint nftTokenId key : String) (t : StorageToken) :
      t = .newDelete now jti nftTokenId key g.tokenValidityMinutes → t.Fits →
      HandedOut endpoint key .Delete (some t.exp) (g.deleteUrl c now jti endpoint nftTokenId key)
  | NewFragment (env : Env) (request : FragmentUploadRequest) (db : Db)
      (response : FragmentUploadResponse) (node : StorageNode) :
      (getUploadUrl env request db).1 = .ok response → node ∈ db.storageNodes.rows →
      node.id = response.storageNodeId →
      HandedOut node.endpointUrl response.storageKey .Write none response.uploadUrl
  | Replica (nodes : List StorageNode) (fileId : String) (fragmentIndex : UInt32)
      (target : UploadTarget) : target ∈ createUploadTargets nodes fileId fragmentIndex →
      HandedOut target.endpointUrl target.storageKey .Write none target.uploadUrl
  | Granted (env : Env) (auth : AuthenticatedUser) (grantId : Uuid) (identityId : Option String)
      (db : Db) (response : FileAccess.FileAccessResponse) (i : Nat)
      (info : FileAccess.FragmentDownloadInfo) (dto : FileAccess.FileFragmentDto) :
      (FileAccess.grantFileAccess env auth grantId identityId db).1 = .ok response →
      response.fragmentUrls[i]? = some info → response.manifest.fragments[i]? = some dto →
      HandedOut (FileAccess.nodeEndpoint db.storageNodes.rows dto.storageId) dto.storageKey .Read
        none info.url

/-- Every URL passes until it expires, as long as no token id has been used. -/
def UrlsHonoured : Prop :=
  ∀ endpoint key operation expiresAt url, HandedOut c endpoint key operation expiresAt url →
    ∀ hash now, (∀ exp, expiresAt = some exp → now ≤ exp) →
      Passes c r state endpoint key operation hash now (fun _ => none) url

end Passes

/-! ## What does not pass -/

section Refused

variable {c : Crates} {r : Routing} {state : AppState} {endpoint key : String}
  {operation : StorageOperation} {hash : Option String} {now : Int} {consumed : ConsumedIds}

lemma exists_readToken {call : Call}
    (h : (verifyTokenForOperation c state call consumed).1 = .ok ()) :
    ∃ t presented, readToken c state call.token = .ok t
      ∧ checkToken state t call.storageKey call.operation call.computedFragmentHash call.now
        = .ok presented := by
  unfold verifyTokenForOperation at h
  cases hauthority : call.authority c state with
  | error e =>
      rw [hauthority] at h
      cases h
  | ok presented =>
      obtain ⟨t, hread, hcheck⟩ := bind_eq_ok hauthority
      exact ⟨t, presented, hread, hcheck⟩

/-- A URL without a token does not pass. -/
lemma not_passes_bare (hr : r.Lawful) {url : String} (hurl : url = endpoint ++ fragmentPath key) :
    ¬ Passes c r state endpoint key operation hash now consumed url := by
  rintro ⟨path, token, hpath, hroute, hkey, hverify⟩
  rw [hurl, String.append_right_inj] at hpath
  rw [← hpath, hr.bare key hkey] at hroute
  cases hroute
  obtain ⟨t, presented, hread, -⟩ := exists_readToken hverify
  cases hread

lemma isTokenText_signed (hsafe : Base64.Alphabet c.base64Url) (signingKey : SigningKey)
    (t : StorageToken) : IsTokenText (signStorageToken c signingKey t) := by
  intro ch hch
  simp only [signStorageToken, StorageToken.payload, String.toList_append, List.mem_append] at hch
  rcases hch with (hch | hch) | hch
  · exact .inl (hsafe _ ch hch)
  · exact .inr (List.mem_singleton.mp hch)
  · exact .inl (hsafe _ ch hch)

/-- A token that names no node does not pass. -/
lemma not_passes_unscoped (hc : c.Lawful) (hsafe : Base64.Alphabet c.base64Url) (hr : r.Lawful)
    {signingKey : SigningKey} {t : StorageToken} (ht : t.Fits) (hscope : t.storageNodeId = none)
    {url : String}
    (hurl : url = endpoint ++ signedPath key (signStorageToken c signingKey t)) :
    ¬ Passes c r state endpoint key operation hash now consumed url := by
  rintro ⟨path, token, hpath, hroute, hkey, hverify⟩
  rw [hurl, String.append_right_inj] at hpath
  rw [← hpath, hr.signed key _ hkey (isTokenText_signed hsafe signingKey t)] at hroute
  cases hroute
  obtain ⟨p, presented, hread, hcheck⟩ := exists_readToken hverify
  rw [eq_of_readToken_signed hc ht hread] at hcheck
  have hnode := (of_checkToken hcheck).1.node
  rw [TokenPayload.ofToken, hscope] at hnode
  cases hnode

/-- A valid key has no reserved characters. -/
lemma not_mem_of_valid (hkey : validateStorageKey key = .ok ()) {ch : Char}
    (hreserved : "/\\%:?#".toList.contains ch = true) : ch ∉ key.toList := by
  intro hmem
  obtain ⟨_, -, hkey⟩ := bind_eq_ok hkey
  have hchars : key.toList.any (fun c => "/\\%:?#".toList.contains c) = true :=
    List.any_eq_true.mpr ⟨ch, hmem, hreserved⟩
  have hkey := require_eq_ok hkey
  rw [wellFormedKey, hchars] at hkey
  simp at hkey

/-- A key with a slash does not pass. -/
lemma not_passes_of_slash (hslash : '/' ∈ key.toList) {url : String} :
    ¬ Passes c r state endpoint key operation hash now consumed url := by
  rintro ⟨path, token, -, -, hkey, -⟩
  exact not_mem_of_valid hkey rfl hslash

lemma replica_bare {nodes : List StorageNode} {fileId : String} {fragmentIndex : UInt32}
    {target : UploadTarget} (h : target ∈ createUploadTargets nodes fileId fragmentIndex) :
    target.uploadUrl = target.endpointUrl ++ fragmentPath target.storageKey := by
  obtain ⟨i, hi, rfl⟩ := List.mem_mapIdx.mp h
  rfl

lemma granted_bare {env : Env} {auth : AuthenticatedUser} {grantId : Uuid}
    {identityId : Option String} {db : Db} {response : FileAccess.FileAccessResponse} {i : Nat}
    {info : FileAccess.FragmentDownloadInfo} {dto : FileAccess.FileFragmentDto}
    (h : (FileAccess.grantFileAccess env auth grantId identityId db).1 = .ok response)
    (hinfo : response.fragmentUrls[i]? = some info)
    (hdto : response.manifest.fragments[i]? = some dto) :
    info.url = FileAccess.nodeEndpoint db.storageNodes.rows dto.storageId
      ++ fragmentPath dto.storageKey := by
  have hspec := FileAccess.grantFileAccess_spec env auth grantId identityId db
  rw [Autocommit.Prog.wp, h] at hspec
  generalize (FileAccess.grantFileAccess env auth grantId identityId db).2 = db' at hspec
  cases hspec with
  | Granted g nm hrow hcaller =>
      have hmap : (FileAccess.fragmentDtos (nm.manifest.getD (.Obj [])))[i]?.map
          (FileAccess.downloadInfo db.storageNodes.rows) = some info := by
        rw [← List.getElem?_map]
        exact hinfo
      obtain ⟨dto', hdto', rfl⟩ := Option.map_eq_some_iff.mp hmap
      obtain rfl := Option.some.inj (hdto'.symm.trans hdto)
      simp [FileAccess.downloadInfo, FileAccess.fragmentUrl, fragmentPath, String.append_assoc]

/-- **No URL that the Oracle hands out passes**, whatever it is for and however early. The generator
signs tokens without a node, and a node takes only those that name itself; the other URLs have a key
with slashes, which no node accepts, or no token. -/
theorem not_passes (hc : c.Lawful) (hsafe : Base64.Alphabet c.base64Url) (hr : r.Lawful)
    {expiresAt : Option Int} {url : String}
    (h : HandedOut c endpoint key operation expiresAt url) (hash : Option String) (now : Int)
    (consumed : ConsumedIds) :
    ¬ Passes c r state endpoint key operation hash now consumed url := by
  cases h with
  | Download g issuedAt jti _ nftTokenId _ t ht hfits =>
      subst ht
      exact not_passes_unscoped hc hsafe hr hfits rfl rfl
  | Upload g issuedAt jti _ nftTokenId _ t ht hfits =>
      subst ht
      exact not_passes_unscoped hc hsafe hr hfits rfl rfl
  | Deletion g issuedAt jti _ nftTokenId _ t ht hfits =>
      subst ht
      exact not_passes_unscoped hc hsafe hr hfits rfl rfl
  | NewFragment env request db response node hresponse _ _ =>
      exact not_passes_of_slash ((getUploadUrl_spec env request db).2 response hresponse)
  | Replica nodes fileId fragmentIndex target htarget =>
      exact not_passes_bare hr (replica_bare htarget)
  | Granted env auth grantId identityId db response i info dto hresponse hinfo hdto =>
      exact not_passes_bare hr (granted_bare hresponse hinfo hdto)

end Refused

/-! ## A download -/

namespace Sample

/-- The part of a path before the query, and the token if the query begins with it. -/
def plainRoute : Routing where
  route path :=
    if Text.startsWith path "/fragments/" then
      let rest := path.toList.drop 11
      let query := rest.dropWhile (· ≠ '?')
      some (String.ofList (rest.takeWhile (· ≠ '?')),
        if "?token=".toList.isPrefixOf query then some (String.ofList (query.drop 7)) else none)
    else none

/-- A query begins with a question mark, if there is one. -/
lemma plainRoute_eq {key path : String} (hkey : validateStorageKey key = .ok ())
    (query : List Char) (hquery : query.takeWhile (· ≠ '?') = [])
    (hpath : path.toList = "/fragments/".toList ++ (key.toList ++ query)) :
    plainRoute.route path = some (key,
      if "?token=".toList.isPrefixOf query then some (String.ofList (query.drop 7)) else none) := by
  have hclean : ∀ ch ∈ key.toList, decide (ch ≠ '?') = true := by
    intro ch hch
    exact decide_eq_true fun h => not_mem_of_valid hkey rfl (h ▸ hch)
  have hstarts : Text.startsWith path "/fragments/" = true := by
    rw [Text.startsWith, hpath, List.isPrefixOf_iff_prefix]
    exact List.prefix_append _ _
  have hrest : path.toList.drop 11 = key.toList ++ query := by
    rw [hpath]
    rfl
  have hdrop : query.dropWhile (· ≠ '?') = query := by
    have happend := List.takeWhile_append_dropWhile (p := (· ≠ '?')) (l := query)
    rw [hquery] at happend
    exact happend
  simp only [plainRoute, hstarts, if_true, hrest, List.takeWhile_append_of_pos hclean,
    List.dropWhile_append_of_pos hclean, hquery, hdrop, List.append_nil, String.ofList_toList]

lemma plainRoute_lawful : plainRoute.Lawful where
  bare := by
    intro key hkey
    exact plainRoute_eq hkey [] rfl (by simp [fragmentPath])
  signed := by
    intro key token hkey htoken
    rw [plainRoute_eq hkey ("?token=".toList ++ token.toList) (by simp)
      (by simp [signedPath, fragmentPath])]
    simp

/-- The fragment of a file, for an hour. -/
def generator : StorageUrlGenerator where
  signingKey := oracleKey
  tokenValidityMinutes := 60

def download : String :=
  generator.downloadUrl crates 0 ⟨"123e4567-e89b-42d3-a456-426614174000"⟩ "http://n" "t" "k"

def downloadToken : StorageToken :=
  .newRead 0 ⟨"123e4567-e89b-42d3-a456-426614174000"⟩ "t" "k" 60

lemma downloadToken_fits : downloadToken.Fits := ⟨by decide, by decide⟩

lemma handedOut_download :
    HandedOut crates "http://n" "k" .Read (some downloadToken.exp) download :=
  .Download generator 0 ⟨_⟩ "http://n" "t" "k" downloadToken rfl downloadToken_fits

/-- A node refuses the download, for its token names no node. -/
theorem not_passes_download :
    ¬ Passes crates plainRoute node "http://n" "k" .Read none 0 (fun _ => none) download :=
  not_passes crates_lawful Base64.urlSafe_alphabet plainRoute_lawful handedOut_download none 0 _

/-- **The download is refused while its token has an hour to go.** -/
theorem not_urlsHonoured : ¬ UrlsHonoured crates plainRoute node := by
  intro hhonoured
  have hpasses := hhonoured _ _ _ _ _ handedOut_download none 0 fun exp hexp => by
    rw [← Option.some.inj hexp]
    decide
  exact not_passes_unscoped crates_lawful Base64.urlSafe_alphabet plainRoute_lawful
    downloadToken_fits rfl rfl hpasses

end Sample

end Vaulted.Node
