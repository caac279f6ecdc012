import Vaulted.Oracle.Xrpl

/-!
# The token that a transaction has minted

A mint adds one token to the pages of its owner, and the metadata of the transaction shows the
pages that have changed.  The Oracle and the client both read the token from there.

* `extractMintedNftokenIdFromTxResult` — as the client does; the Oracle's is `extractNftIdFromMeta`.
* `PageNode` — what a node of the metadata says of a page, and `Mints` — the metadata of a mint.
* `oraclePage`, `clientPage` — the page that either of them looks at.
* `extracts_iff` — both find the token if and only if it is named, or the last one of these pages.
-/

namespace Vaulted.XrplClient

open Xrpl

/-! ## What the client reads -/

def nftokenIdFromLastToken : List Json → Option String := lastTokenId

def mintedNftokenIdFromCreatedNode (node : Json) : Option String := do
  let created ← node.get "CreatedNode"
  let ledgerEntryType ← (← created.get "LedgerEntryType").asStr
  if ledgerEntryType = "NFTokenPage" then
    let tokens ← (← (← created.get "NewFields").get "NFTokens").asArray
    nftokenIdFromLastToken tokens
  else none

def mintedNftokenIdFromModifiedNode (node : Json) : Option String := do
  let modified ← node.get "ModifiedNode"
  let ledgerEntryType ← (← modified.get "LedgerEntryType").asStr
  if ledgerEntryType = "NFTokenPage" then
    let finalTokens ← (← (← modified.get "FinalFields").get "NFTokens").asArray
    let previousLen := ((((modified.get "PreviousFields").bind (·.get "NFTokens")).bind
      Json.asArray).map List.length).getD 0
    if finalTokens.length ≤ previousLen then none else nftokenIdFromLastToken finalTokens
  else none

def extractMintedNftokenIdFromTxResult (result : Json) : Option String := do
  let metadata ← ((result.get "meta").or (result.get "metaData")).or (result.get "metadata")
  match ((metadata.get "nftoken_id").or (metadata.get "NFTokenID")).bind Json.asStr with
  | some id => some id
  | none =>
      let affectedNodes ← (← metadata.get "AffectedNodes").asArray
      affectedNodes.findSome? fun node =>
        (mintedNftokenIdFromModifiedNode node).or (mintedNftokenIdFromCreatedNode node)

/-! ## The metadata of a mint -/

/-- What a node says of a page of tokens: they have changed, or only the links of the page, or the
page is new.  All other nodes say nothing of tokens. -/
inductive PageNode
  | Changed (before after : List String)
  | Linked (tokens : List String)
  | Created (tokens : List String)
  | Other

namespace PageNode

def before : PageNode → List String
  | .Changed before _ => before
  | .Linked tokens => tokens
  | .Created _ => []
  | .Other => []

def after : PageNode → List String
  | .Changed _ after => after
  | .Linked tokens => tokens
  | .Created tokens => tokens
  | .Other => []

end PageNode

def tokenId (token : Json) : Option String :=
  (token.get "NFToken").bind fun nft => (nft.get "NFTokenID").bind Json.asStr

/-- The tokens among these fields of a node. -/
def TokensAt (entry : Json) (fields : String) (ids : List String) : Prop :=
  ∃ f items, entry.get fields = some f ∧ f.get "NFTokens" = some (.Arr items)
    ∧ items.map tokenId = ids.map some

def NoTokensAt (entry : Json) (fields : String) : Prop :=
  ∀ f, entry.get fields = some f → f.get "NFTokens" = none

def IsPage (entry : Json) : Prop := entry.get "LedgerEntryType" = some (.Str "NFTokenPage")

inductive Shows (node : Json) : PageNode → Prop
  | Changed (entry : Json) (before after : List String) : node.get "ModifiedNode" = some entry →
      node.get "CreatedNode" = none → IsPage entry → TokensAt entry "PreviousFields" before →
      TokensAt entry "FinalFields" after → Shows node (.Changed before after)
  | Linked (entry : Json) (tokens : List String) : node.get "ModifiedNode" = some entry →
      node.get "CreatedNode" = none → IsPage entry → NoTokensAt entry "PreviousFields" →
      TokensAt entry "FinalFields" tokens → Shows node (.Linked tokens)
  | Created (entry : Json) (tokens : List String) : node.get "CreatedNode" = some entry →
      node.get "ModifiedNode" = none → IsPage entry → TokensAt entry "NewFields" tokens →
      Shows node (.Created tokens)
  | Other : (∀ entry, node.get "ModifiedNode" = some entry → NoTokensAt entry "FinalFields") →
      (∀ entry, node.get "CreatedNode" = some entry → NoTokensAt entry "NewFields") →
      Shows node .Other

/-- The pages have one token more than before.  A ledger may name it, too. -/
structure Mints (result : Json) (named : Option String) (pages : List PageNode) (id : String) :
    Prop where
  metadata : ∃ metadata nodes, result.get "meta" = some metadata
    ∧ metadata.get "nftoken_id" = named.map .Str ∧ metadata.get "NFTokenID" = none
    ∧ metadata.get "AffectedNodes" = some (.Arr nodes) ∧ List.Forall₂ Shows nodes pages
  named : ∀ id', named = some id' → id' = id
  added : (pages.flatMap PageNode.after).Perm (id :: pages.flatMap PageNode.before)
  fresh : id ∉ pages.flatMap PageNode.before

/-! ## The page that is looked at -/

/-- A page that is taken for a longer one: without tokens to compare with, any page is. -/
def PageNode.grown : PageNode → Option (List String)
  | .Changed before after => if after.length ≤ before.length then none else some after
  | .Linked tokens => if tokens = [] then none else some tokens
  | .Created _ => none
  | .Other => none

def PageNode.created : PageNode → Option (List String)
  | .Created tokens => if tokens = [] then none else some tokens
  | .Changed _ _ => none
  | .Linked _ => none
  | .Other => none

/-- The Oracle takes a page that has grown, before any that is new. -/
def oraclePage (pages : List PageNode) : Option (List String) :=
  (pages.findSome? PageNode.grown).or (pages.findSome? PageNode.created)

/-- The client takes the first page of either kind. -/
def clientPage (pages : List PageNode) : Option (List String) :=
  pages.findSome? fun page => page.grown.or page.created

/-! ## One node -/

/-- The tokens among these fields of a node, if there are any. -/
def tokensOf (entry : Json) (fields : String) : Option (List Json) :=
  ((entry.get fields).bind (·.get "NFTokens")).bind Json.asArray

/-- The last token, if there are more tokens than these. -/
def lastBeyond (n : Nat) (items : List Json) : Option String :=
  if items.length ≤ n then none else lastTokenId items

section

variable {node entry : Json} {page : PageNode} {ids : List String} {fields : String}

lemma lastTokenId_eq {items : List Json} (h : items.map tokenId = ids.map some) :
    lastTokenId items = ids.getLast? := by
  have hlast := congrArg List.getLast? h
  rw [List.getLast?_map, List.getLast?_map] at hlast
  calc lastTokenId items = (items.getLast?.map tokenId).join := by
        rw [lastTokenId]
        cases items.getLast? <;> rfl
    _ = ids.getLast? := by
        rw [hlast]
        cases ids.getLast? <;> rfl

lemma TokensAt.tokensOf (h : TokensAt entry fields ids) :
    ∃ items, tokensOf entry fields = some items ∧ items.length = ids.length
      ∧ lastTokenId items = ids.getLast? := by
  obtain ⟨f, items, hf, hitems, hids⟩ := h
  refine ⟨items, by rw [XrplClient.tokensOf, hf, Option.bind_some, hitems]; rfl, ?_,
    lastTokenId_eq hids⟩
  simpa using congrArg List.length hids

lemma NoTokensAt.tokensOf (h : NoTokensAt entry fields) : tokensOf entry fields = none := by
  unfold XrplClient.tokensOf
  cases hf : entry.get fields with
  | none => rfl
  | some f => rw [Option.bind_some, h f hf, Option.bind_none]

/-- How many tokens a page had before, as far as the node says. -/
def previousLen (entry : Json) : Nat :=
  ((tokensOf entry "PreviousFields").map List.length).getD 0

lemma modifiedNodeTokenId_eq_bind : modifiedNodeTokenId node
    = (node.get "ModifiedNode").bind fun entry =>
        (tokensOf entry "FinalFields").bind (lastBeyond (previousLen entry)) := by
  have hbeyond : ∀ (n : Nat) (items : List Json),
      (if items.length > n then lastTokenId items else none) = lastBeyond n items := by
    intro n items
    unfold lastBeyond
    split_ifs <;> first | rfl | omega
  simp only [modifiedNodeTokenId, hbeyond, previousLen, tokensOf, bind, Option.bind_assoc]

lemma createdNodeTokenId_eq_bind : createdNodeTokenId node
    = (node.get "CreatedNode").bind fun entry =>
        (tokensOf entry "NewFields").bind lastTokenId := by
  simp only [createdNodeTokenId, tokensOf, bind, Option.bind_assoc]

lemma mintedNftokenIdFromModifiedNode_eq_bind : mintedNftokenIdFromModifiedNode node
    = (node.get "ModifiedNode").bind fun entry =>
        (entry.get "LedgerEntryType").bind fun j => j.asStr.bind fun type =>
          if type = "NFTokenPage" then
            (tokensOf entry "FinalFields").bind (lastBeyond (previousLen entry))
          else none := by
  have hbeyond : ∀ (n : Nat) (items : List Json),
      (if items.length ≤ n then none else nftokenIdFromLastToken items) = lastBeyond n items :=
    fun _ _ => rfl
  simp only [mintedNftokenIdFromModifiedNode, hbeyond, previousLen, tokensOf, bind,
    Option.bind_assoc]

lemma mintedNftokenIdFromCreatedNode_eq_bind : mintedNftokenIdFromCreatedNode node
    = (node.get "CreatedNode").bind fun entry =>
        (entry.get "LedgerEntryType").bind fun j => j.asStr.bind fun type =>
          if type = "NFTokenPage" then (tokensOf entry "NewFields").bind lastTokenId
          else none := by
  simp only [mintedNftokenIdFromCreatedNode, nftokenIdFromLastToken, tokensOf, bind,
    Option.bind_assoc]

/-- A node that is read as a modified page. -/
lemma Shows.modified (h : Shows node page) :
    (node.get "ModifiedNode" = none ∧ page.grown = none)
      ∨ ∃ entry, node.get "ModifiedNode" = some entry
        ∧ (IsPage entry ∨ tokensOf entry "FinalFields" = none)
        ∧ (tokensOf entry "FinalFields").bind (lastBeyond (previousLen entry))
          = page.grown.bind List.getLast? := by
  cases h with
  | Changed entry before after hentry _ hpage hbefore hafter =>
      obtain ⟨previous, hprevious, hlength, -⟩ := hbefore.tokensOf
      obtain ⟨items, hitems, hlength', hlast⟩ := hafter.tokensOf
      refine .inr ⟨entry, hentry, .inl hpage, ?_⟩
      rw [hitems, Option.bind_some, lastBeyond, previousLen, hprevious, Option.map_some,
        Option.getD_some, hlength, hlength', hlast, PageNode.grown]
      split_ifs <;> rfl
  | Linked entry tokens hentry _ hpage hbefore hafter =>
      obtain ⟨items, hitems, hlength, hlast⟩ := hafter.tokensOf
      refine .inr ⟨entry, hentry, .inl hpage, ?_⟩
      rw [hitems, Option.bind_some, lastBeyond, previousLen, hbefore.tokensOf, Option.map_none,
        Option.getD_none, hlength, hlast, PageNode.grown]
      cases tokens <;> rfl
  | Created entry tokens _ hnone _ _ => exact .inl ⟨hnone, rfl⟩
  | Other hmodified _ =>
      cases hentry : node.get "ModifiedNode" with
      | none => exact .inl ⟨rfl, rfl⟩
      | some entry =>
          have htokens := (hmodified entry hentry).tokensOf
          exact .inr ⟨entry, rfl, .inr htokens, by rw [htokens]; rfl⟩

/-- A node that is read as a new page. -/
lemma Shows.created (h : Shows node page) :
    (node.get "CreatedNode" = none ∧ page.created = none)
      ∨ ∃ entry, node.get "CreatedNode" = some entry
        ∧ (IsPage entry ∨ tokensOf entry "NewFields" = none)
        ∧ (tokensOf entry "NewFields").bind lastTokenId = page.created.bind List.getLast? := by
  cases h with
  | Changed entry before after _ hnone _ _ _ => exact .inl ⟨hnone, rfl⟩
  | Linked entry tokens _ hnone _ _ _ => exact .inl ⟨hnone, rfl⟩
  | Created entry tokens hentry _ hpage htokens =>
      obtain ⟨items, hitems, -, hlast⟩ := htokens.tokensOf
      refine .inr ⟨entry, hentry, .inl hpage, ?_⟩
      rw [hitems, Option.bind_some, hlast, PageNode.created]
      cases tokens <;> rfl
  | Other _ hcreated =>
      cases hentry : node.get "CreatedNode" with
      | none => exact .inl ⟨rfl, rfl⟩
      | some entry =>
          have htokens := (hcreated entry hentry).tokensOf
          exact .inr ⟨entry, rfl, .inr htokens, by rw [htokens]; rfl⟩

/-- What the client reads of an entry, once it is known to be a page or to have no tokens. -/
lemma checked_eq {o : Option (List Json)} {f : List Json → Option String}
    (h : IsPage entry ∨ o = none) :
    ((entry.get "LedgerEntryType").bind fun j => j.asStr.bind fun type =>
      if type = "NFTokenPage" then o.bind f else none) = o.bind f := by
  rcases h with hpage | rfl
  · rw [hpage]
    rfl
  · simp

lemma modified_eq (h : Shows node page) : modifiedNodeTokenId node = page.grown.bind List.getLast?
    ∧ mintedNftokenIdFromModifiedNode node = page.grown.bind List.getLast? := by
  rw [modifiedNodeTokenId_eq_bind, mintedNftokenIdFromModifiedNode_eq_bind]
  rcases h.modified with ⟨hnone, hgrown⟩ | ⟨entry, hentry, hpage, hvalue⟩
  · rw [hnone, hgrown]
    exact ⟨rfl, rfl⟩
  · rw [hentry, Option.bind_some, Option.bind_some, checked_eq hpage]
    exact ⟨hvalue, hvalue⟩

lemma created_eq (h : Shows node page) : createdNodeTokenId node = page.created.bind List.getLast?
    ∧ mintedNftokenIdFromCreatedNode node = page.created.bind List.getLast? := by
  rw [createdNodeTokenId_eq_bind, mintedNftokenIdFromCreatedNode_eq_bind]
  rcases h.created with ⟨hnone, hcreated⟩ | ⟨entry, hentry, hpage, hvalue⟩
  · rw [hnone, hcreated]
    exact ⟨rfl, rfl⟩
  · rw [hentry, Option.bind_some, Option.bind_some, checked_eq hpage]
    exact ⟨hvalue, hvalue⟩

end

/-! ## All nodes -/

lemma findSome?_eq_of_forall₂ {α β γ : Type} {R : α → β → Prop} {f : α → Option γ}
    {g : β → Option γ} (hfg : ∀ a b, R a b → f a = g b) {as : List α} {bs : List β}
    (h : List.Forall₂ R as bs) : as.findSome? f = bs.findSome? g := by
  induction h with
  | nil => rfl
  | cons hab _ ih => rw [List.findSome?_cons, List.findSome?_cons, hfg _ _ hab, ih]

/-- What is found in a list that is not empty can be looked up later. -/
lemma findSome?_bind_getLast? {α : Type} {f : α → Option (List String)}
    (hf : ∀ a, f a ≠ some []) (l : List α) :
    (l.findSome? fun a => (f a).bind List.getLast?) = (l.findSome? f).bind List.getLast? := by
  induction l with
  | nil => rfl
  | cons a l ih =>
      rw [List.findSome?_cons, List.findSome?_cons]
      cases hfa : f a with
      | none => exact ih
      | some tokens =>
          cases tokens with
          | nil => exact absurd hfa (hf a)
          | cons t tokens =>
              rw [Option.bind_some, List.getLast?_cons]

lemma or_bind_getLast? {o o' : Option (List String)} (ho : o ≠ some []) :
    (o.or o').bind List.getLast? = (o.bind List.getLast?).or (o'.bind List.getLast?) := by
  cases o with
  | none => rfl
  | some tokens =>
      cases tokens with
      | nil => exact absurd rfl ho
      | cons t tokens =>
          rw [Option.some_or, Option.bind_some, List.getLast?_cons, Option.some_or]

lemma PageNode.grown_ne_nil (page : PageNode) : page.grown ≠ some [] := by
  cases page with
  | Changed before after =>
      simp only [grown]
      split_ifs with h
      · simp
      · intro hnil
        rw [Option.some.inj hnil] at h
        exact h (Nat.zero_le _)
  | Linked tokens => cases tokens <;> simp [grown]
  | Created _ => simp [grown]
  | Other => simp [grown]

lemma PageNode.created_ne_nil (page : PageNode) : page.created ≠ some [] := by
  cases page with
  | Created tokens => cases tokens <;> simp [created]
  | _ => simp [created]

/-- The token is the last one of a page. -/
def LastOf (tokens : Option (List String)) (id : String) : Prop :=
  ∃ ids, tokens = some ids ∧ ids.getLast? = some id

lemma lastOf_iff {tokens : Option (List String)} {id : String} :
    tokens.bind List.getLast? = some id ↔ LastOf tokens id := Option.bind_eq_some_iff

section

variable {result : Json} {named : Option String} {pages : List PageNode} {id : String}

lemma extractNftIdFromMeta_eq (h : Mints result named pages id) :
    extractNftIdFromMeta result = named.or ((oraclePage pages).bind List.getLast?) := by
  obtain ⟨metadata, nodes, hmetadata, hnamed, -, hnodes, hshows⟩ := h.metadata
  have hindex : result.index "meta" = metadata := by rw [Json.index, hmetadata, Option.getD_some]
  have hid : (metadata.index "nftoken_id").asStr = named := by
    rw [Json.index, hnamed]
    cases named <;> rfl
  have harray : (metadata.index "AffectedNodes").asArray = some nodes := by
    rw [Json.index, hnodes]
    rfl
  have hmodified : nodes.findSome? modifiedNodeTokenId
      = (pages.findSome? PageNode.grown).bind List.getLast? := by
    rw [← findSome?_bind_getLast? PageNode.grown_ne_nil]
    exact findSome?_eq_of_forall₂ (R := Shows) (fun _ _ hab => (modified_eq hab).1) hshows
  have hcreated : nodes.findSome? createdNodeTokenId
      = (pages.findSome? PageNode.created).bind List.getLast? := by
    rw [← findSome?_bind_getLast? PageNode.created_ne_nil]
    exact findSome?_eq_of_forall₂ (R := Shows) (fun _ _ hab => (created_eq hab).1) hshows
  have hgrown : pages.findSome? PageNode.grown ≠ some [] := by
    intro hnil
    obtain ⟨page, -, hpage⟩ := List.exists_of_findSome?_eq_some hnil
    exact page.grown_ne_nil hpage
  rw [extractNftIdFromMeta, hindex, hid, harray]
  cases named with
  | some id' => rfl
  | none =>
      rw [Option.none_or, oraclePage, or_bind_getLast? hgrown, ← hmodified, ← hcreated]
      rfl

lemma extractMintedNftokenIdFromTxResult_eq (h : Mints result named pages id) :
    extractMintedNftokenIdFromTxResult result
      = named.or ((clientPage pages).bind List.getLast?) := by
  obtain ⟨metadata, nodes, hmetadata, hnamed, hnot, hnodes, hshows⟩ := h.metadata
  have hid : ((metadata.get "nftoken_id").or (metadata.get "NFTokenID")).bind Json.asStr
      = named := by
    rw [hnamed, hnot, Option.or_none]
    cases named <;> rfl
  have hfound : (nodes.findSome? fun node => (mintedNftokenIdFromModifiedNode node).or
      (mintedNftokenIdFromCreatedNode node)) = (clientPage pages).bind List.getLast? := by
    rw [clientPage, ← findSome?_bind_getLast? fun page => ?_]
    · refine findSome?_eq_of_forall₂ (R := Shows) (fun node page hpage => ?_) hshows
      rw [(modified_eq hpage).2, (created_eq hpage).2, or_bind_getLast? page.grown_ne_nil]
    · intro hnil
      rcases Option.or_eq_some_iff.mp hnil with hgrown | ⟨-, hcreated⟩
      · exact page.grown_ne_nil hgrown
      · exact page.created_ne_nil hcreated
  rw [extractMintedNftokenIdFromTxResult, hmetadata]
  simp only [Option.some_or, bind, Option.bind_some, hid, hnodes, Json.asArray, hfound]
  cases named <;> rfl

/-- **Both find the token if and only if** the ledger names it, or it is the last one of the page
that the Oracle takes and of the one that the client takes. A new token need not be the last one of
its page, nor is every page that looks longer the one with the new token. -/
theorem extracts_iff (h : Mints result named pages id) :
    (extractNftIdFromMeta result = some id ∧ extractMintedNftokenIdFromTxResult result = some id)
      ↔ named ≠ none ∨ (LastOf (oraclePage pages) id ∧ LastOf (clientPage pages) id) := by
  rw [extractNftIdFromMeta_eq h, extractMintedNftokenIdFromTxResult_eq h]
  cases hnamed : named with
  | some id' =>
      obtain rfl := h.named id' hnamed
      exact ⟨fun _ => .inl (Option.some_ne_none _), fun _ => ⟨rfl, rfl⟩⟩
  | none =>
      rw [Option.none_or, Option.none_or, lastOf_iff, lastOf_iff]
      exact ⟨.inr, fun h => h.resolve_left fun hne => hne rfl⟩

end

namespace Sample

def token (id : String) : Json := .Obj [("NFToken", .Obj [("NFTokenID", .Str id)])]

def tokens (ids : List String) : Json := .Obj [("NFTokens", .Arr (ids.map token))]

/-- The account of the minter, which shows no tokens. -/
def account : Json :=
  .Obj [("ModifiedNode", .Obj [("LedgerEntryType", .Str "AccountRoot"),
    ("FinalFields", .Obj [("Account", .Str "rAlice")])])]

/-- A page of tokens that has changed. -/
def changedPage (before after : List String) : Json :=
  .Obj [("ModifiedNode", .Obj [("LedgerEntryType", .Str "NFTokenPage"),
    ("PreviousFields", tokens before), ("FinalFields", tokens after)])]

def minted (before after : List String) : Json :=
  .Obj [("meta", .Obj [("AffectedNodes", .Arr [account, changedPage before after])])]

lemma map_tokenId (ids : List String) : (ids.map token).map tokenId = ids.map some :=
  List.map_map.trans (List.map_congr_left fun _ _ => rfl)

lemma mints_minted {before after : List String} {id : String} (hadded : after.Perm (id :: before))
    (hfresh : id ∉ before) :
    Mints (minted before after) none [.Other, .Changed before after] id where
  metadata := by
    refine ⟨_, _, rfl, rfl, rfl, rfl, .cons (.Other ?_ fun _ h => nomatch h) (.cons ?_ .nil)⟩
    · rintro entry hentry f hf
      cases hentry
      cases hf
      rfl
    · exact .Changed _ _ _ rfl rfl rfl ⟨_, _, rfl, rfl, map_tokenId before⟩
        ⟨_, _, rfl, rfl, map_tokenId after⟩
  named _ h := nomatch h
  added := by simpa [PageNode.after, PageNode.before] using hadded
  fresh := by simpa [PageNode.before] using hfresh

/-- A token that comes to be the last one of its page is found. -/
theorem extracts_last :
    extractNftIdFromMeta (minted ["000A", "000C"] ["000A", "000C", "000D"]) = some "000D"
      ∧ extractMintedNftokenIdFromTxResult (minted ["000A", "000C"] ["000A", "000C", "000D"])
        = some "000D" :=
  (extracts_iff (mints_minted (by decide) (by decide))).mpr
    (.inr ⟨⟨_, rfl, rfl⟩, ⟨_, rfl, rfl⟩⟩)

/-- **A token that is not the last one of its page is missed**: another one is taken for it. -/
theorem not_extracts : ¬∀ (result : Json) (named : Option String) (pages : List PageNode)
    (id : String), Mints result named pages id →
    extractNftIdFromMeta result = some id
      ∧ extractMintedNftokenIdFromTxResult result = some id := by
  intro h
  have hmints : Mints (minted ["000A", "000C"] ["000A", "000B", "000C"]) none
      [.Other, .Changed ["000A", "000C"] ["000A", "000B", "000C"]] "000B" :=
    mints_minted (by decide) (by decide)
  have hextracts := (h _ _ _ _ hmints).1
  rw [extractNftIdFromMeta_eq hmints] at hextracts
  exact absurd hextracts (by decide)

end Sample

end Vaulted.XrplClient
