import Vaulted.Oracle.Xrpl

/-!
# Owners with more than one page of tokens

The ledger lists the tokens of an account in pages, and names in each page but the last the marker
that the next call starts with.

* `Serves` — the pages of an account.
* `verifyNftOwner_eq_ok_true_iff` — what the check sees: the letters of the first page.
* `verifiesOwner_iff` — when that is the whole truth.
-/

namespace Vaulted.Xrpl

/-! ## Pages -/

/-- A call that starts with a marker. -/
def accountNftsFrom (account : String) (marker : Option Json) : RpcCall :=
  { accountNftsCall account with
    params := (accountNftsCall account).params ++ (marker.map fun m => ("marker", m)).toList }

/-- What an answer says of the tokens, and where the next page starts. -/
structure Lists (data : Json) (page : List String) (marker : Option Json) : Prop where
  success : ((data.index "result").index "error").asStr = none
  nfts : ∃ nfts, (data.index "result").index "account_nfts" = .Arr nfts
    ∧ nfts.map (fun nft => (nft.index "NFTokenID").asStr) = page.map some
  marker : (data.index "result").get "marker" = marker

/-- The pages of an account, from a marker on. -/
inductive Serves (env : Env) (account : String) : Option Json → List (List String) → Prop
  | Last (marker : Option Json) (page : List String) :
      (∀ i, ∃ data, env.xrpl i (accountNftsFrom account marker) = .ok data
        ∧ Lists data page none) →
      Serves env account marker [page]
  | More (marker : Option Json) (page : List String) (next : Json) (later : List (List String)) :
      (∀ i, ∃ data, env.xrpl i (accountNftsFrom account marker) = .ok data
        ∧ Lists data page (some next)) →
      Serves env account (some next) later →
      Serves env account marker (page :: later)

/-- The list contains the token, in whatever letter case. -/
def Owns (owned : List String) (nftTokenId : String) : Prop :=
  ∃ id ∈ owned, Text.eqIgnoreAsciiCase id nftTokenId = true

/-! ## What the check sees -/

section

variable {env : Env} {account : String}

lemma Serves.first {marker : Option Json} {page : List String} {later : List (List String)}
    (h : Serves env account marker (page :: later)) (i : Nat) :
    ∃ data next, env.xrpl i (accountNftsFrom account marker) = .ok data
      ∧ Lists data page next := by
  cases h with
  | Last _ _ hpage =>
      obtain ⟨data, hdata, hlists⟩ := hpage i
      exact ⟨data, none, hdata, hlists⟩
  | More _ _ next _ hpage _ =>
      obtain ⟨data, hdata, hlists⟩ := hpage i
      exact ⟨data, some next, hdata, hlists⟩

lemma Lists.any_iff {data : Json} {page : List String} {marker : Option Json}
    (h : Lists data page marker) (nftTokenId : String) :
    ((listedNfts data).any fun nft => decide ((nft.index "NFTokenID").asStr = some nftTokenId))
      = true ↔ nftTokenId ∈ page := by
  obtain ⟨nfts, hnfts, hids⟩ := h.nfts
  have hmem : some nftTokenId ∈ nfts.map (fun nft => (nft.index "NFTokenID").asStr)
      ↔ nftTokenId ∈ page := by
    rw [hids, List.mem_map_of_injective (Option.some_injective _)]
  rw [← hmem, listedNfts, hnfts, Json.asArray, Option.getD_some, List.any_eq_true, List.mem_map]
  simp only [decide_eq_true_eq]

/-- **The check sees the letters of the first page.** -/
theorem verifyNftOwner_eq_ok_true_iff {page : List String} {later : List (List String)}
    (h : Serves env account none (page :: later)) (n : Nat) (nftTokenId : String) :
    verifyNftOwner env n nftTokenId account = .ok true ↔ nftTokenId ∈ page := by
  obtain ⟨data, next, hdata, hlists⟩ := h.first (3 * n)
  have honce : rpcOnce env (3 * n) (accountNftsCall account) = .ok data := by
    have hcall : accountNftsFrom account none = accountNftsCall account := rfl
    rw [rpcOnce, ← hcall, hdata]
    simp only [hlists.success]
  have hrpc : rpc env n (accountNftsCall account) = .ok data := by
    rw [rpc, honce]
  rw [← hlists.any_iff, verifyNftOwner, hrpc]
  exact ⟨Except.ok.inj, congrArg _⟩

/-- **The check is complete if and only if** an owned token is on the first page, in the letters
that are asked for: the marker of the answer is never followed, and the ids are compared as texts.
It is sound without any condition. -/
theorem verifiesOwner_iff {page : List String} {later : List (List String)}
    (h : Serves env account none (page :: later)) (n : Nat) (nftTokenId : String) :
    (verifyNftOwner env n nftTokenId account = .ok true
        ↔ Owns (page :: later).flatten nftTokenId)
      ↔ (Owns (page :: later).flatten nftTokenId → nftTokenId ∈ page) := by
  rw [verifyNftOwner_eq_ok_true_iff h]
  refine ⟨fun hcomplete => hcomplete.mpr, fun hfirst => ⟨fun hmem => ?_, hfirst⟩⟩
  exact ⟨nftTokenId, List.mem_append_left _ hmem, Text.eqIgnoreAsciiCase_self _⟩

end

namespace Sample

def tokenAnswer (nftTokenId : String) (marker : List (String × Json)) : Json :=
  .Obj [("result", .Obj (("account_nfts", .Arr [.Obj [("NFTokenID", .Str nftTokenId)]])
    :: marker))]

/-- A ledger with two tokens for every account, one in each page. -/
def twoPages : Env :=
  { (default : Env) with
    xrpl := fun _ call =>
      if call.params.length = 2 then .ok (tokenAnswer "000A" [("marker", .Str "next")])
      else .ok (tokenAnswer "000B" []) }

lemma serves_twoPages : Serves twoPages "rOwner" none [["000A"], ["000B"]] :=
  .More _ _ (.Str "next") _ (fun _ => ⟨_, rfl, rfl, ⟨_, rfl, rfl⟩, rfl⟩)
    (.Last _ _ fun _ => ⟨_, rfl, rfl, ⟨_, rfl, rfl⟩, rfl⟩)

theorem verifiesOwner_twoPages :
    (verifyNftOwner twoPages 0 "000A" "rOwner" = .ok true
        ↔ Owns [["000A"], ["000B"]].flatten "000A")
      ↔ (Owns [["000A"], ["000B"]].flatten "000A" → "000A" ∈ ["000A"]) :=
  verifiesOwner_iff serves_twoPages 0 "000A"

/-- **A token on the second page is missed.** -/
theorem not_verifies : ¬∀ (env : Env) (account : String) (pages : List (List String)) (n : Nat)
    (nftTokenId : String), Serves env account none pages →
    (verifyNftOwner env n nftTokenId account = .ok true ↔ Owns pages.flatten nftTokenId) := by
  intro hcomplete
  have howns : Owns [["000A"], ["000B"]].flatten "000B" :=
    ⟨"000B", by decide, Text.eqIgnoreAsciiCase_self _⟩
  have hverified := (hcomplete _ _ _ 0 "000B" serves_twoPages).mpr howns
  exact absurd ((verifyNftOwner_eq_ok_true_iff serves_twoPages 0 "000B").mp hverified)
    (by decide)

end Sample

end Vaulted.Xrpl
