import Vaulted.Oracle.Sync
import Vaulted.Transfer.HonestRequest
import Vaulted.Vault.OwnerPages

/-!
# The search for an owner

A synchronisation asks the ledger for the wallet that it has stored, and then for one registered
wallet after another.  A wallet that the ledger does not know is answered with an error.

* `Account`, `Answers` — the accounts of the ledger, and that it answers every query.
* `Setting` — an NFT whose token is held by one registered user.
* `Finds` — the synchronisation ends with that user as the owner.
* `findNftOwnerOnXrpl_eq_ok_iff` — what the search finds, in whichever order.
* `finds_iff` — when it ends so.
* `not_finds` — a wallet without an account, asked before the holder's, ends the search.
-/

namespace Vaulted.OwnerSearch

open Autocommit.Prog Ownership Xrpl

/-! ## The ledger -/

/-- An account of the ledger: there is none, or it has tokens, in pages. -/
inductive Account
  | Missing
  | Funded (page : List String) (later : List (List String))
  deriving DecidableEq

namespace Account

def isFunded : Account → Bool
  | Missing => false
  | Funded _ _ => true

def firstPage : Account → List String
  | Missing => []
  | Funded page _ => page

/-- The token is one of the account's, in whatever letter case. -/
def Holds (account : Account) (nftTokenId : String) : Prop :=
  match account with
  | Missing => False
  | Funded page later => Owns (page :: later).flatten nftTokenId

lemma holds_of_firstPage {account : Account} {nftTokenId : String}
    (h : nftTokenId ∈ account.firstPage) : account.Holds nftTokenId := by
  cases account with
  | Missing => cases h
  | Funded page later =>
      exact ⟨nftTokenId, List.mem_append_left _ h, Text.eqIgnoreAsciiCase_self _⟩

end Account

/-- The ledger answers every query for a wallet. -/
def Answers (env : Env) (wallet : String) : Account → Prop
  | .Missing => ∀ i, ∃ data error, env.xrpl i (accountNftsCall wallet) = .ok data
      ∧ ((data.index "result").index "error").asStr = some error
  | .Funded page later => Serves env wallet none (page :: later)

/-! ## The claim's state -/

def registered (db : Db) : List String := db.users.rows.map User.walletAddress

/-- An NFT, stored for one registered user, whose token another one may hold. The ledger answers
every question about a registered wallet, if only to say that it has no account. -/
structure Setting (env : Env) (db : Db) (ledger : String → Account) (nm : NftMetadata)
    (current : String) (holder : User) : Prop where
  row : db.nftMetadata.get? nm.id = some nm
  stored : db.walletOf nm.ownerId = some current
  known : db.userOf holder.walletAddress = some holder
  answers : ∀ wallet ∈ registered db, Answers env wallet (ledger wallet)
  holds : (ledger holder.walletAddress).Holds nm.nftTokenId
  unique : ∀ wallet ∈ registered db, (ledger wallet).Holds nm.nftTokenId →
    wallet = holder.walletAddress

/-- The synchronisation ends with the holder as the owner. -/
def Finds (env : Env) (db : Db) (nm : NftMetadata) (holder : User) : Prop :=
  ∃ action db', syncSingleNft env nm.id nm.nftTokenId nm.ownerId db = (.ok action, db')
    ∧ action ≠ .NotFoundOnXrpl ∧ ∃ nm', db'.nftMetadata.get? nm.id = some nm'
      ∧ db'.walletOf nm'.ownerId = some holder.walletAddress

/-- The wallets that are asked for before the holder's. -/
def askedBefore (env : Env) (db : Db) (holder : User) : List String :=
  (env.unordered (registered db)).takeWhile fun wallet => decide (wallet ≠ holder.walletAddress)

/-- The holder's first page lists the token in the letters that are stored; the stored owner's
account exists; and so do, unless the holder is the stored owner, those that are asked for before
the holder's. -/
structure Reachable (env : Env) (db : Db) (ledger : String → Account) (nm : NftMetadata)
    (current : String) (holder : User) : Prop where
  listed : nm.nftTokenId ∈ (ledger holder.walletAddress).firstPage
  funded : (ledger current).isFunded = true
  before : current ≠ holder.walletAddress → ∀ wallet ∈ askedBefore env db holder,
    (ledger wallet).isFunded = true

/-! ## One query -/

section Query

variable {env : Env} {wallet : String} {account : Account}

/-- **A missing account is an error**, after three attempts. -/
lemma verifyNftOwner_missing (h : Answers env wallet .Missing) (n : Nat) (nftTokenId : String) :
    ∃ e, verifyNftOwner env n nftTokenId wallet = .error e := by
  have honce : ∀ i, ∃ e, rpcOnce env i (accountNftsCall wallet) = .error e := by
    intro i
    obtain ⟨data, error, hdata, herror⟩ := h i
    exact ⟨_, by rw [rpcOnce, hdata]; simp only [herror]; rfl⟩
  obtain ⟨e₀, h₀⟩ := honce (3 * n)
  obtain ⟨e₁, h₁⟩ := honce (3 * n + 1)
  obtain ⟨e₂, h₂⟩ := honce (3 * n + 2)
  exact ⟨e₂, by rw [verifyNftOwner, rpc, h₀]; simp only [h₁, h₂]; rfl⟩

/-- A funded account is answered from its first page. -/
lemma verifyNftOwner_funded (h : Answers env wallet account) (hfunded : account.isFunded = true)
    (n : Nat) (nftTokenId : String) : verifyNftOwner env n nftTokenId wallet
      = .ok (decide (nftTokenId ∈ account.firstPage)) := by
  cases account with
  | Missing => cases hfunded
  | Funded page later =>
      obtain ⟨data, next, hdata, hlists⟩ := Serves.first h (3 * n)
      have honce : rpcOnce env (3 * n) (accountNftsCall wallet) = .ok data := by
        have hcall : accountNftsFrom wallet none = accountNftsCall wallet := rfl
        rw [rpcOnce, ← hcall, hdata]
        simp only [hlists.success]
      have hrpc : rpc env n (accountNftsCall wallet) = .ok data := by rw [rpc, honce]
      have hlisted : ((listedNfts data).any fun nft =>
          decide ((nft.index "NFTokenID").asStr = some nftTokenId)) = decide (nftTokenId ∈ page) := by
        rw [Bool.eq_iff_iff, hlists.any_iff, decide_eq_true_eq]
      rw [verifyNftOwner, hrpc]
      exact congrArg Except.ok hlisted

/-- An error, or what the first page says. -/
lemma verifyNftOwner_eq_ok_iff (h : Answers env wallet account) (n : Nat) (nftTokenId : String)
    (owns : Bool) : verifyNftOwner env n nftTokenId wallet = .ok owns ↔
      account.isFunded = true ∧ owns = decide (nftTokenId ∈ account.firstPage) := by
  cases hfunded : account.isFunded with
  | true =>
      rw [verifyNftOwner_funded h hfunded]
      exact ⟨fun heq => ⟨rfl, (Except.ok.inj heq).symm⟩, fun heq => by rw [heq.2]⟩
  | false =>
      cases account with
      | Missing =>
          obtain ⟨e, he⟩ := verifyNftOwner_missing h n nftTokenId
          rw [he]
          exact ⟨(fun heq => by cases heq), fun heq => by cases heq.1⟩
      | Funded page later => cases hfunded

end Query

/-! ## The search -/

section Search

variable {env : Env} {ledger : String → Account} {nftTokenId holder : String}

/-- What is asked for before the holder, from some wallet on. -/
lemma takeWhile_cons_ne {wallet : String} {wallets : List String} (hne : wallet ≠ holder) :
    (wallet :: wallets).takeWhile (fun w => decide (w ≠ holder))
      = wallet :: wallets.takeWhile fun w => decide (w ≠ holder) :=
  List.takeWhile_cons_of_pos (decide_eq_true hne)

/-- Whoever is found is listed. -/
lemma listed_of_find {wallets : List String} {n : Nat} {wallet : String}
    (hanswers : ∀ wallet ∈ wallets, Answers env wallet (ledger wallet))
    (h : findNftOwnerOnXrpl env nftTokenId n wallets = .ok (some wallet)) :
    wallet ∈ wallets ∧ nftTokenId ∈ (ledger wallet).firstPage := by
  obtain ⟨hmem, k, hk⟩ := Sync.mem_of_findNftOwnerOnXrpl h
  have hlisted := ((verifyNftOwner_eq_ok_iff (hanswers wallet hmem) k nftTokenId true).mp hk).2
  exact ⟨hmem, of_decide_eq_true hlisted.symm⟩

/-- The accounts that are asked for before exist. -/
lemma funded_of_find {wallets : List String} {n : Nat}
    (hanswers : ∀ wallet ∈ wallets, Answers env wallet (ledger wallet))
    (h : findNftOwnerOnXrpl env nftTokenId n wallets = .ok (some holder)) :
    ∀ wallet ∈ wallets.takeWhile fun w => decide (w ≠ holder),
      (ledger wallet).isFunded = true := by
  induction wallets generalizing n with
  | nil => cases h
  | cons wallet wallets ih =>
      obtain ⟨owns, howns, h⟩ := bind_eq_ok h
      obtain ⟨hfunded, -⟩ :=
        (verifyNftOwner_eq_ok_iff (hanswers wallet List.mem_cons_self) n nftTokenId owns).mp howns
      by_cases hholder : wallet = holder
      · rw [List.takeWhile_cons_of_neg (by simp [hholder])]
        simp
      · rw [takeWhile_cons_ne hholder]
        intro w hw
        rcases List.mem_cons.mp hw with rfl | hw
        · exact hfunded
        · cases owns with
          | true => exact absurd (Option.some.inj (Except.ok.inj h)) hholder
          | false => exact ih (fun w hw => hanswers w (List.mem_cons_of_mem _ hw)) h w hw

/-- If they do, the search gets to the holder. -/
lemma find_of_funded {wallets : List String} (n : Nat) (hmem : holder ∈ wallets)
    (hanswers : ∀ wallet ∈ wallets, Answers env wallet (ledger wallet))
    (hunique : ∀ wallet ∈ wallets, nftTokenId ∈ (ledger wallet).firstPage → wallet = holder)
    (hlisted : nftTokenId ∈ (ledger holder).firstPage)
    (hbefore : ∀ wallet ∈ wallets.takeWhile fun w => decide (w ≠ holder),
      (ledger wallet).isFunded = true) :
    findNftOwnerOnXrpl env nftTokenId n wallets = .ok (some holder) := by
  induction wallets generalizing n with
  | nil => cases hmem
  | cons wallet wallets ih =>
      have hanswer := hanswers wallet List.mem_cons_self
      by_cases hholder : wallet = holder
      · subst hholder
        have hfunded : (ledger wallet).isFunded = true := by
          cases haccount : ledger wallet with
          | Missing =>
              rw [haccount] at hlisted
              cases hlisted
          | Funded page later => rfl
        rw [findNftOwnerOnXrpl, verifyNftOwner_funded hanswer hfunded, decide_eq_true hlisted]
        rfl
      · rw [takeWhile_cons_ne hholder] at hbefore
        have hunlisted : nftTokenId ∉ (ledger wallet).firstPage := fun h =>
          hholder (hunique wallet List.mem_cons_self h)
        have hrest := ih (n + 1) ((List.mem_cons.mp hmem).resolve_left (Ne.symm hholder))
          (fun w hw => hanswers w (List.mem_cons_of_mem _ hw))
          (fun w hw => hunique w (List.mem_cons_of_mem _ hw))
          fun w hw => hbefore w (List.mem_cons_of_mem _ hw)
        rw [findNftOwnerOnXrpl, verifyNftOwner_funded hanswer (hbefore wallet List.mem_cons_self),
          decide_eq_false hunlisted]
        exact hrest

end Search

/-! ## The synchronisation -/

section Finds

variable {env : Env} {db : Db} {ledger : String → Account} {nm : NftMetadata} {current : String}
  {holder : User}

lemma run_syncSingleNft (hstored : db.walletOf nm.ownerId = some current) :
    syncSingleNft env nm.id nm.nftTokenId nm.ownerId db
      = match verifyNftOwner env 0 nm.nftTokenId current with
        | .error e => (.error e, db)
        | .ok true => (.ok .NoChange, db)
        | .ok false =>
            match findNftOwnerOnXrpl env nm.nftTokenId 1 (env.unordered (registered db)) with
            | .error e => (.error e, db)
            | .ok none => (.ok .NotFoundOnXrpl, db)
            | .ok (some wallet) =>
                match db.userOf wallet with
                | none => (.ok (.NewOwnerNotRegistered wallet), db)
                | some newOwner =>
                    (.ok (.OwnerUpdated current wallet), reassigned nm.id newOwner db) := by
  rw [syncSingleNft, run_read, run_expect hstored]
  cases howns : verifyNftOwner env 0 nm.nftTokenId current with
  | error e => rfl
  | ok owns =>
      rw [run_lift rfl]
      cases owns with
      | true => rfl
      | false =>
          rw [if_neg Bool.false_ne_true, run_read,
            show db.users.rows.map User.walletAddress = registered db from rfl]
          cases findNftOwnerOnXrpl env nm.nftTokenId 1 (env.unordered (registered db)) with
          | error e => rfl
          | ok wallet? =>
              rw [run_lift rfl]
              cases wallet? with
              | none => rfl
              | some wallet =>
                  simp only
                  rw [run_read]
                  cases db.userOf wallet with
                  | none => rfl
                  | some newOwner => rfl

/-- What a synchronisation that finds the holder has seen. -/
lemma finds_iff_seen (h : Setting env db ledger nm current holder) : Finds env db nm holder ↔
    (verifyNftOwner env 0 nm.nftTokenId current = .ok true ∧ current = holder.walletAddress)
      ∨ verifyNftOwner env 0 nm.nftTokenId current = .ok false
        ∧ findNftOwnerOnXrpl env nm.nftTokenId 1 (env.unordered (registered db))
          = .ok (some holder.walletAddress) := by
  have hanswers : ∀ wallet ∈ env.unordered (registered db), Answers env wallet (ledger wallet) :=
    fun wallet hwallet => h.answers wallet (Env.mem_unordered.mp hwallet)
  rw [Finds, run_syncSingleNft h.stored]
  cases howns : verifyNftOwner env 0 nm.nftTokenId current with
  | error e => simp
  | ok owns =>
      cases owns with
      | true =>
          constructor
          · rintro ⟨action, db', hrun, -, nm', hnm', howner⟩
            obtain ⟨-, rfl⟩ := Prod.mk.inj hrun
            rw [h.row] at hnm'
            obtain rfl := Option.some.inj hnm'
            exact .inl ⟨rfl, Option.some.inj (h.stored.symm.trans howner)⟩
          · rintro (⟨-, rfl⟩ | ⟨hfalse, -⟩)
            · exact ⟨_, _, rfl, by simp, nm, h.row, h.stored⟩
            · cases hfalse
      | false =>
          constructor
          · rintro ⟨action, db', hrun, hfound, -⟩
            refine .inr ⟨rfl, ?_⟩
            cases hfind : findNftOwnerOnXrpl env nm.nftTokenId 1
                (env.unordered (registered db)) with
            | error e =>
                rw [hfind] at hrun
                cases (Prod.mk.inj hrun).1
            | ok wallet? =>
                cases wallet? with
                | none =>
                    rw [hfind] at hrun
                    exact absurd (Except.ok.inj (Prod.mk.inj hrun).1).symm hfound
                | some wallet =>
                    obtain ⟨hmem, hlisted⟩ := listed_of_find hanswers hfind
                    rw [h.unique wallet (Env.mem_unordered.mp hmem)
                      (Account.holds_of_firstPage hlisted)]
          · rintro (⟨hfalse, -⟩ | ⟨-, hfind⟩)
            · cases hfalse
            · have hrow : (reassigned nm.id holder db).nftMetadata.get? nm.id
                  = some { nm with ownerId := holder.id, status := NftStatus.active } := by
                rw [reassigned, get?_withNft, if_pos rfl, h.row]
                rfl
              refine ⟨_, _, by simp only [hfind, h.known]; rfl, by simp, _, hrow, ?_⟩
              exact Db.walletOf_of_userOf h.known

/-- **A synchronisation finds the holder** if and only if it can be reached. The search asks for one
wallet after the other and takes the first page of each; a wallet without an account is an error,
which ends the search instead of going on with the next one. -/
theorem finds_iff (h : Setting env db ledger nm current holder) :
    Finds env db nm holder ↔ Reachable env db ledger nm current holder := by
  have hcurrent : current ∈ registered db := by
    obtain ⟨user, huser, rfl⟩ := Option.map_eq_some_iff.mp h.stored
    exact List.mem_map_of_mem (Indexed.find?_eq_some.mp huser).1
  have hholder : holder.walletAddress ∈ env.unordered (registered db) :=
    Env.mem_unordered.mpr (List.mem_map_of_mem (Indexed.get?_eq_some.mp h.known).1)
  have hanswers : ∀ wallet ∈ env.unordered (registered db), Answers env wallet (ledger wallet) :=
    fun wallet hwallet => h.answers wallet (Env.mem_unordered.mp hwallet)
  have hunique : ∀ wallet ∈ registered db, nm.nftTokenId ∈ (ledger wallet).firstPage →
      wallet = holder.walletAddress :=
    fun wallet hwallet hlisted => h.unique wallet hwallet (Account.holds_of_firstPage hlisted)
  have hverify := verifyNftOwner_eq_ok_iff (h.answers current hcurrent) 0 nm.nftTokenId
  rw [finds_iff_seen h, hverify, hverify]
  constructor
  · rintro (⟨⟨hfunded, hlisted⟩, rfl⟩ | ⟨⟨hfunded, hunlisted⟩, hfind⟩)
    · exact ⟨of_decide_eq_true hlisted.symm, hfunded, fun hne => absurd rfl hne⟩
    · exact ⟨(listed_of_find hanswers hfind).2, hfunded, fun _ => funded_of_find hanswers hfind⟩
  · rintro ⟨hlisted, hfunded, hbefore⟩
    by_cases hsame : current = holder.walletAddress
    · exact .inl ⟨⟨hfunded, by rw [hsame, decide_eq_true hlisted]⟩, hsame⟩
    · refine .inr ⟨⟨hfunded, ?_⟩, ?_⟩
      · exact (decide_eq_false fun hmem => hsame (hunique current hcurrent hmem)).symm
      · exact find_of_funded 1 hholder hanswers
          (fun wallet hwallet => hunique wallet (Env.mem_unordered.mp hwallet)) hlisted
          (hbefore hsame)

end Finds

/-! ## An account that is not there -/

namespace Sample

open Transfers.Sample (alice bob carol nft tokenId)

def reply : Account → Json
  | .Missing => .Obj [("result", .Obj [("error", .Str "actNotFound")])]
  | .Funded page _ => .Obj [("result", .Obj [("account_nfts",
      .Arr (page.map fun id => .Obj [("NFTokenID", .Str id)]))])]

/-- A call during which the ledger has these accounts. -/
def world (ledger : String → Account) : Env :=
  { Transfers.Sample.env ⟨""⟩ with
    xrpl := fun _ call =>
      match call.params with
      | (_, .Str wallet) :: _ => .ok (reply (ledger wallet))
      | _ => .error "" }

/-- Alice's NFT. -/
def db : Db := Transfers.Sample.db [] List.nodup_nil

/-- Bob has bought the token; Carol has no account yet. -/
def bought (wallet : String) : Account :=
  if wallet = "rAlice" then .Funded [] []
  else if wallet = "rBob" then .Funded [tokenId] []
  else .Missing

/-- Carol has bought it, and Bob has no account. -/
def overtaken (wallet : String) : Account :=
  if wallet = "rAlice" then .Funded [] []
  else if wallet = "rCarol" then .Funded [tokenId] []
  else .Missing

lemma answers_missing {ledger : String → Account} {wallet : String} (h : ledger wallet = .Missing) :
    Answers (world ledger) wallet .Missing := fun _ =>
  ⟨reply (ledger wallet), "actNotFound", rfl, by rw [h]; rfl⟩

lemma answers_none {ledger : String → Account} {wallet : String}
    (h : ledger wallet = .Funded [] []) : Answers (world ledger) wallet (.Funded [] []) :=
  .Last _ _ fun _ => ⟨reply (ledger wallet), rfl, by rw [h]; exact ⟨rfl, ⟨[], rfl, rfl⟩, rfl⟩⟩

lemma answers_one {ledger : String → Account} {wallet : String} {id : String}
    (h : ledger wallet = .Funded [id] []) : Answers (world ledger) wallet (.Funded [id] []) :=
  .Last _ _ fun _ => ⟨reply (ledger wallet), rfl, by
    rw [h]; exact ⟨rfl, ⟨[.Obj [("NFTokenID", .Str id)]], rfl, rfl⟩, rfl⟩⟩

lemma not_holds_none {nftTokenId : String} : ¬(Account.Funded [] []).Holds nftTokenId := by
  rintro ⟨id, hid, -⟩
  cases hid

lemma mem_registered {wallet : String} (h : wallet ∈ registered db) :
    wallet = "rAlice" ∨ wallet = "rBob" ∨ wallet = "rCarol" := by
  have hwallets : registered db = ["rAlice", "rBob", "rCarol"] := rfl
  rw [hwallets] at h
  simpa using h

lemma setting_bought : Setting (world bought) db bought nft "rAlice" bob where
  row := rfl
  stored := rfl
  known := rfl
  answers := by
    intro wallet hwallet
    rcases mem_registered hwallet with rfl | rfl | rfl
    · exact answers_none rfl
    · exact answers_one rfl
    · exact answers_missing rfl
  holds := ⟨tokenId, List.mem_singleton_self _, Text.eqIgnoreAsciiCase_self _⟩
  unique := by
    intro wallet hwallet hholds
    rcases mem_registered hwallet with rfl | rfl | rfl
    · exact absurd hholds not_holds_none
    · rfl
    · exact hholds.elim

lemma setting_overtaken : Setting (world overtaken) db overtaken nft "rAlice" carol where
  row := rfl
  stored := rfl
  known := rfl
  answers := by
    intro wallet hwallet
    rcases mem_registered hwallet with rfl | rfl | rfl
    · exact answers_none rfl
    · exact answers_missing rfl
    · exact answers_one rfl
  holds := ⟨tokenId, List.mem_singleton_self _, Text.eqIgnoreAsciiCase_self _⟩
  unique := by
    intro wallet hwallet hholds
    rcases mem_registered hwallet with rfl | rfl | rfl
    · exact absurd hholds not_holds_none
    · exact hholds.elim
    · rfl

theorem finds_bought : Finds (world bought) db nft bob
    ↔ Reachable (world bought) db bought nft "rAlice" bob :=
  finds_iff setting_bought

/-- **A wallet without an account ends the search** before the holder is asked for. -/
theorem not_finds : ¬∀ (env : Env) (db : Db) (ledger : String → Account) (nm : NftMetadata)
    (current : String) (holder : User), Setting env db ledger nm current holder →
    nm.status = NftStatus.active → Finds env db nm holder := by
  intro hfinds
  have hfound : verifyNftOwner (world overtaken) 0 nft.nftTokenId "rAlice" = .ok true
      ∧ "rAlice" = carol.walletAddress ∨ _ :=
    (finds_iff_seen setting_overtaken).mp (hfinds _ _ _ _ _ _ setting_overtaken rfl)
  rcases hfound with ⟨-, hsame⟩ | ⟨-, hfind⟩
  · exact absurd hsame (by decide)
  · have hasked : (world overtaken).unordered (registered db) = ["rAlice", "rBob", "rCarol"] := rfl
    rw [hasked] at hfind
    have hanswers : ∀ wallet ∈ ["rAlice", "rBob", "rCarol"],
        Answers (world overtaken) wallet (overtaken wallet) := setting_overtaken.answers
    have hbob := funded_of_find hanswers hfind "rBob" (by decide)
    cases hbob

end Sample

end Vaulted.OwnerSearch
