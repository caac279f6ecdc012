import Vaulted.Oracle.VaultMint
import Vaulted.Vault.KeyMismatch

/-!
# One vault for one token

`finalize_vault_mint` looks for another vault with the token of the request, spelled as the request
spells it; the ledger is asked in any spelling.

* `Finalization` — a vault has been finalised with a token, by a transaction on the ledger.
* `OnePerToken` — no two finalised vaults have one token, and no transaction finalises two.
* `Immutable` — what the ledger promises.
* `Unminted` — the vault is not finalised with another token, and no finalised vault has the token
  of the request, in any spelling; `guard` asks this of every step that finalises one.
* `Sound` — what is finalised is verified, has its token and shares it with no other vault;
  `sound_step`, `sound_run`.
* **`oneVault`** — runs whose finalisations find the token unminted have one vault for one token.
* `not_oneVault` — Alice finalises two vaults with one token.
-/

namespace Vaulted.OneVault

open Interleaving Vaults VaultMint Autocommit.Prog

/-! ## The property -/

structure Finalization where
  vaultId : Uuid
  nftTokenId : String
  txHash : String
  deriving DecidableEq

/-- What a statement finalises. -/
def finalizations : Call → (s : Statement) → Answer s → List Finalization
  | _, .Mint req _ _, .ok _ => [⟨req.vaultId, req.nftTokenId, req.txHash⟩]
  | _, _, _ => []

/-- Two spellings of one number. -/
abbrev Same (s t : String) : Prop := Text.eqIgnoreAsciiCase s t = true

/-- No two finalised vaults have one token, and no transaction has finalised two vaults. -/
structure OnePerToken (h : List Finalization) (db : Db) : Prop where
  token : ∀ f ∈ h, ∀ f' ∈ h, ∀ nm nm', db.nftMetadata.get? f.vaultId = some nm →
    db.nftMetadata.get? f'.vaultId = some nm' → Same nm.nftTokenId nm'.nftTokenId →
    f.vaultId = f'.vaultId
  transaction : ∀ f ∈ h, ∀ f' ∈ h, Same f.txHash f'.txHash → f.vaultId = f'.vaultId

/-- An answer of the ledger about a validated transaction. -/
def Recorded (env : Env) (txHash : String) (result : Json) : Prop :=
  ∃ i data, Xrpl.rpcOnce env i (Xrpl.txCall txHash) = .ok data ∧ data.get "result" = some result
    ∧ (result.get "validated").bind Json.asBool = some true

/-- The ledger shows that a transaction has minted a token. -/
def Mints (env : Env) (txHash nftTokenId : String) : Prop :=
  ∃ result id, Recorded env txHash result ∧ Xrpl.extractNftIdFromMeta result = some id
    ∧ Same id nftTokenId

/-- What the ledger says of a validated transaction never changes, under whatever letters its hash
is asked for. That is why a transaction can mint for one vault only. -/
def Immutable (known : World → Prop) : Prop :=
  ∀ w w' txHash txHash' result result', known w → known w' → Recorded w.env txHash result →
    Recorded w'.env txHash' result' → Same txHash txHash' →
    result.index "meta" = result'.index "meta"

section Statements

variable (u : Umbral) (codec : TextCodec) (state : AppState)

def emit (s : VaultMint.Server) (l : Label Call World) : List Finalization :=
  (logged (exec u codec) finalizations s l).map Prod.snd

/-- The finalisations of a run, oldest first. -/
abbrev history (s : VaultMint.Server) (ls : List (Label Call World)) : List Finalization :=
  Runs.history (step u codec state) (emit u codec) s ls

end Statements

/-- The vault is open for the token of the request, and no finalised vault has it. -/
structure Unminted (db : Db) (req : FinalizeVaultMintRequest) : Prop where
  isOpen : ∃ nm ∈ db.nftMetadata.rows, nm.id = req.vaultId
    ∧ (nm.status.val = .PendingClaim ∨ Same nm.nftTokenId req.nftTokenId)
  free : ∀ nm ∈ db.nftMetadata.rows, nm.status.val ≠ .PendingClaim →
    Same nm.nftTokenId req.nftTokenId → nm.id = req.vaultId

instance (db : Db) (req : FinalizeVaultMintRequest) : Decidable (Unminted db req) :=
  decidable_of_iff
    ((∃ nm ∈ db.nftMetadata.rows, nm.id = req.vaultId
        ∧ (nm.status.val = .PendingClaim ∨ Same nm.nftTokenId req.nftTokenId))
      ∧ ∀ nm ∈ db.nftMetadata.rows, nm.status.val ≠ .PendingClaim →
        Same nm.nftTokenId req.nftTokenId → nm.id = req.vaultId)
    ⟨fun h => ⟨h.1, h.2⟩, fun h => ⟨h.isOpen, h.free⟩⟩

/-- The request of a statement that finalises a vault. -/
def requestOf : Statement → Option FinalizeVaultMintRequest
  | .Mint req _ _ => some req
  | _ => none

/-- A transaction that finalises a vault finds the token unminted, at the very moment when it is
executed: the look-up of the handler is an earlier statement. -/
def guard (s : VaultMint.Server) (l : Label Call World) : Prop :=
  ∀ executed ∈ executes s l, ∀ req ∈ requestOf executed.2.1, Unminted s.store.db req

instance (s : VaultMint.Server) (l : Label Call World) : Decidable (guard s l) :=
  inferInstanceAs (Decidable (∀ executed ∈ executes s l, ∀ req ∈ requestOf executed.2.1,
    Unminted s.store.db req))

/-! ## What becomes of a vault -/

section Step

variable {u : Umbral} {codec : TextCodec} {state : AppState} {known : World → Prop}
  {h : List Finalization} {s : VaultMint.Server}

lemma Same.symm {t t' : String} (h : Same t t') : Same t' t := Text.eqIgnoreAsciiCase_symm h

lemma Same.trans {t t' t'' : String} (h : Same t t') (h' : Same t' t'') : Same t t'' :=
  Text.eqIgnoreAsciiCase_trans h h'

/-- What is verified is on the ledger. -/
lemma mints_of_verifyLocalNftMint {env : Env} {txHash nftTokenId owner uri : String}
    {v : Xrpl.LocalMintVerification}
    (h : Xrpl.verifyLocalNftMint env txHash nftTokenId owner uri = .ok v) :
    Mints env txHash nftTokenId := by
  obtain ⟨_, -, h⟩ := bind_eq_ok h
  obtain ⟨_, -, h⟩ := bind_eq_ok h
  obtain ⟨⟨result, account⟩, htx, h⟩ := bind_eq_ok h
  obtain ⟨id, hid, h⟩ := bind_eq_ok h
  obtain ⟨_, hsame, -⟩ := bind_eq_ok h
  obtain ⟨data, hdata, htx⟩ := bind_eq_ok htx
  obtain ⟨result', hresult, htx⟩ := bind_eq_ok htx
  obtain ⟨_, hvalidated, htx⟩ := bind_eq_ok htx
  obtain ⟨_, -, htx⟩ := bind_eq_ok htx
  obtain ⟨_, -, htx⟩ := bind_eq_ok htx
  obtain ⟨_, -, htx⟩ := bind_eq_ok htx
  obtain ⟨_, -, htx⟩ := bind_eq_ok htx
  obtain ⟨rfl, -⟩ := Prod.mk.inj (Except.ok.inj htx)
  obtain ⟨i, hi⟩ := Xrpl.rpcOnce_of_rpc hdata
  exact ⟨result', id,
    ⟨i, data, hi, okOr_eq_ok hresult, of_decide_eq_true (ensure_eq_ok hvalidated)⟩,
    okOr_eq_ok hid, ensure_eq_ok hsame⟩

/-- A transaction has minted one token. -/
lemma Immutable.same (hledger : Immutable known) {w w' : World}
    {txHash txHash' nftTokenId nftTokenId' : String} (hw : known w) (hw' : known w')
    (h : Mints w.env txHash nftTokenId) (h' : Mints w'.env txHash' nftTokenId')
    (hsame : Same txHash txHash') : Same nftTokenId nftTokenId' := by
  obtain ⟨result, id, hresult, hid, htoken⟩ := h
  obtain ⟨result', id', hresult', hid', htoken'⟩ := h'
  have hmeta := hledger w w' _ _ _ _ hw hw' hresult hresult' hsame
  obtain rfl : id = id' := by
    rw [Xrpl.extractNftIdFromMeta, hmeta] at hid
    exact Option.some.inj (hid.symm.trans hid')
  exact htoken.symm.trans htoken'

/-- The statement that finalises a vault has its transaction verified. -/
def Verified (known : World → Prop) (_ : Call) : Statement → Prop
  | .Mint req _ _ => ∃ w, known w ∧ Mints w.env req.txHash req.nftTokenId
  | _ => True

/-- **A mint is verified before it is finalised.** -/
lemma verified_handle (codec : TextCodec) (state : AppState) (call : Call) (w : World)
    (hw : known w) : (handle codec state call w).Only known (Verified known call) := by
  refine (prepared_handle codec call hw).mono fun stmt hstmt => ?_
  cases stmt with
  | Mint req v previousTokenId =>
      obtain ⟨w, owner, hw, -, hv⟩ := hstmt
      exact ⟨w, hw, mints_of_verifyLocalNftMint hv⟩
  | _ => trivial

/-- Without a finalisation a vault keeps its token. -/
lemma keeps_of_writes {db db' : Db} {stmt : Statement} {a : Answer stmt}
    (hwrites : Writes db stmt a db') (hmint : isMint stmt a = false) {id : Uuid}
    {old : NftMetadata} (hold : db.nftMetadata.get? id = some old) :
    ∃ new, db'.nftMetadata.get? id = some new ∧ new.nftTokenId = old.nftTokenId
      ∧ (old.status.val ≠ .PendingClaim → new.status.val ≠ .PendingClaim) := by
  cases hwrites with
  | Kept _ _ _ _ hmoves =>
      obtain ⟨f, hf, hrows⟩ := hmoves
      exact ⟨f id old, by rw [hrows, hold]; rfl, (hf id old).nftTokenId, (hf id old).minted⟩
  | Inserted nm _ hnone hrows =>
      refine ⟨old, ?_, rfl, fun h => h⟩
      rw [hrows, if_neg, hold]
      rintro rfl
      rw [hnone] at hold
      cases hold
  | Stored vaultId patch _ hrows =>
      by_cases hid : id = vaultId
      · refine ⟨published patch old, ?_, rfl, fun h => h⟩
        rw [hrows, if_pos hid, ← hid, hold]
        rfl
      · exact ⟨old, by rw [hrows, if_neg hid, hold], rfl, fun h => h⟩
  | Minted req v previousTokenId metadataHash _ _ _ => cases hmint

/-- What has been finalised is verified, has its token, and shares it with no other vault. The
invariant of a run. -/
structure Sound (known : World → Prop) (h : List Finalization) (s : VaultMint.Server) : Prop where
  obeying : Obeying known (Verified known) s
  verified : ∀ f ∈ h, ∃ w, known w ∧ Mints w.env f.txHash f.nftTokenId
  minted : ∀ f ∈ h, ∃ nm, s.store.db.nftMetadata.get? f.vaultId = some nm
    ∧ nm.status.val ≠ .PendingClaim ∧ Same nm.nftTokenId f.nftTokenId
  distinct : ∀ f ∈ h, ∀ f' ∈ h, Same f.nftTokenId f'.nftTokenId → f.vaultId = f'.vaultId

lemma Sound.onePerToken (hledger : Immutable known) (hs : Sound known h s) :
    OnePerToken h s.store.db where
  token f hf f' hf' nm nm' hnm hnm' hsame := by
    obtain ⟨old, hold, -, htoken⟩ := hs.minted f hf
    obtain ⟨old', hold', -, htoken'⟩ := hs.minted f' hf'
    obtain rfl := Option.some.inj (hnm.symm.trans hold)
    obtain rfl := Option.some.inj (hnm'.symm.trans hold')
    exact hs.distinct f hf f' hf' (htoken.symm.trans (hsame.trans htoken'))
  transaction f hf f' hf' hsame := by
    obtain ⟨w, hw, hmints⟩ := hs.verified f hf
    obtain ⟨w', hw', hmints'⟩ := hs.verified f' hf'
    exact hs.distinct f hf f' hf' (hledger.same hw hw' hmints hmints' hsame)

/-- What a step finalises. -/
lemma emit_executed {i : Nat} {w : World} {call : Call} {stmt : Statement}
    {k : Answer stmt → World → Handling} (hthread : s.threads[i]? = some ⟨call, .Exec stmt k⟩) :
    emit u codec s (.Step i w) = finalizations call stmt (exec u codec stmt w s.store).1 := by
  simp [emit, logged, hthread, Function.comp_def]

lemma finalizations_eq_nil {call : Call} {stmt : Statement} {a : Answer stmt}
    (hmint : isMint stmt a = false) : finalizations call stmt a = [] := by
  cases stmt with
  | Mint req v previousTokenId =>
      cases a with
      | ok _ => cases hmint
      | error e => rfl
  | _ => rfl

/-- A statement that finalises nothing. -/
lemma Sound.kept (hs : Sound known h s) {s' : VaultMint.Server}
    (hobeying : Obeying known (Verified known) s')
    (hrows : ∀ id old, s.store.db.nftMetadata.get? id = some old →
      ∃ new, s'.store.db.nftMetadata.get? id = some new ∧ new.nftTokenId = old.nftTokenId
        ∧ (old.status.val ≠ .PendingClaim → new.status.val ≠ .PendingClaim)) :
    Sound known h s' where
  obeying := hobeying
  verified := hs.verified
  minted f hf := by
    obtain ⟨old, hold, hminted, htoken⟩ := hs.minted f hf
    obtain ⟨new, hnew, hsame, hkept⟩ := hrows _ old hold
    exact ⟨new, hnew, hkept hminted, hsame ▸ htoken⟩
  distinct := hs.distinct

/-- A finalisation that finds the token unminted. -/
lemma Sound.minted_concat (hs : Sound known h s) {s' : VaultMint.Server}
    (hobeying : Obeying known (Verified known) s') {req : FinalizeVaultMintRequest}
    {v : Xrpl.LocalMintVerification} {metadataHash : String} {w : World} (hw : known w)
    (hmints : Mints w.env req.txHash req.nftTokenId) (hunminted : Unminted s.store.db req)
    (hrows : Replaces s.store.db s'.store.db req.vaultId (mintedVault req v metadataHash)) :
    Sound known (h ++ [⟨req.vaultId, req.nftTokenId, req.txHash⟩]) s' := by
  obtain ⟨nm, hmem, hid, hopen⟩ := hunminted.isOpen
  have hnm := Indexed.get?_eq_some.mpr ⟨hmem, hid⟩
  have hself : s'.store.db.nftMetadata.get? req.vaultId
      = some (mintedVault req v metadataHash nm) := by
    rw [hrows, if_pos rfl, hnm]
    rfl
  -- an older finalisation of the token is one of this vault
  have hfree : ∀ f ∈ h, Same f.nftTokenId req.nftTokenId → f.vaultId = req.vaultId := by
    intro f hf hsame
    obtain ⟨old, hold, hminted, htoken⟩ := hs.minted f hf
    have hrow := Indexed.get?_eq_some.mp hold
    exact hrow.2.symm.trans (hunminted.free old hrow.1 hminted (htoken.trans hsame))
  refine ⟨hobeying, fun f hf => ?_, fun f hf => ?_, fun f hf f' hf' hsame => ?_⟩
  · rcases List.mem_append.mp hf with hf | hf
    · exact hs.verified f hf
    · rw [List.mem_singleton.mp hf]
      exact ⟨w, hw, hmints⟩
  · rcases List.mem_append.mp hf with hf | hf
    · obtain ⟨old, hold, hminted, htoken⟩ := hs.minted f hf
      by_cases hvault : f.vaultId = req.vaultId
      · rw [hvault] at hold ⊢
        obtain rfl := Option.some.inj (hnm.symm.trans hold)
        refine ⟨_, hself, (fun h => by cases h), ?_⟩
        exact (hopen.resolve_left hminted).symm.trans htoken
      · exact ⟨old, by rw [hrows, if_neg hvault, hold], hminted, htoken⟩
    · rw [List.mem_singleton.mp hf]
      exact ⟨_, hself, (fun h => by cases h), Text.eqIgnoreAsciiCase_self _⟩
  · rcases List.mem_append.mp hf with hf | hf <;> rcases List.mem_append.mp hf' with hf' | hf'
    · exact hs.distinct f hf f' hf' hsame
    · rw [List.mem_singleton.mp hf'] at hsame ⊢
      exact hfree f hf hsame
    · rw [List.mem_singleton.mp hf] at hsame ⊢
      exact (hfree f' hf' hsame.symm).symm
    · rw [List.mem_singleton.mp hf, List.mem_singleton.mp hf']

/-- **A step.** -/
theorem sound_step (hs : Sound known h s) {l : Label Call World} (hl : known l.world)
    (hguard : guard s l) : Sound known (h ++ emit u codec s l) (step u codec state s l) := by
  have hobeying : Obeying known (Verified known) (step u codec state s l) :=
    hs.obeying.step (verified_handle codec state) hl
  have hsteps := steps_step (exec u codec) (handle codec state) s l
  rw [VaultMint.step] at hobeying ⊢
  revert hobeying
  generalize hemit : emit u codec s l = finalized
  generalize Interleaving.step (exec u codec) (handle codec state) s l = s' at hsteps ⊢
  intro hobeying
  have unchanged : finalized = [] → s'.store = s.store → Sound known (h ++ finalized) s' := by
    rintro rfl hstore
    rw [List.append_nil]
    exact hs.kept hobeying fun id old hold => ⟨old, hstore ▸ hold, rfl, fun h => h⟩
  cases hsteps with
  | Started call w => exact unchanged hemit.symm rfl
  | Idle i w hexecutes _ =>
      refine unchanged ?_ rfl
      rw [← hemit]
      cases hthread : s.threads[i]? with
      | none => simp [emit, logged, hthread]
      | some t =>
          obtain ⟨call, rest⟩ := t
          cases rest with
          | Done reply => simp [emit, logged, hthread]
          | Exec stmt k => simp [executes, hthread] at hexecutes
  | Executed i w call stmt k hthread hexecutes _ =>
      rw [emit_executed hthread] at hemit
      subst hemit
      have hwrites := exec_writes u codec stmt w s.store
      cases hmint : isMint stmt (exec u codec stmt w s.store).1 with
      | false =>
          rw [finalizations_eq_nil hmint, List.append_nil]
          exact hs.kept hobeying fun id old hold => keeps_of_writes hwrites hmint hold
      | true =>
          have hverified := hs.obeying.of_thread hthread
          generalize hanswer : (exec u codec stmt w s.store).1 = a at hwrites hmint ⊢
          cases hwrites with
          | Kept _ _ _ hquiet _ => rw [hmint] at hquiet; cases hquiet
          | Inserted nm _ _ _ => cases hmint
          | Stored id patch _ _ => cases hmint
          | Minted req v previousTokenId metadataHash _ _ hrows =>
              obtain ⟨w', hw', hmints⟩ := hverified
              exact hs.minted_concat hobeying hw' hmints (hguard _ hexecutes req rfl) hrows

end Step

/-! ## Runs -/

section Run

variable {u : Umbral} {codec : TextCodec} {state : AppState} {known : World → Prop}

/-- Before the first call. -/
abbrev start (r : Registry) : VaultMint.Server := ⟨r, []⟩

/-- **A run.** -/
theorem sound_run (r : Registry) {ls : List (Label Call World)} (hknown : ∀ l ∈ ls, known l.world)
    (hguard : Runs.Guarded (step u codec state) guard (start r) ls) :
    Sound known (history u codec state (start r) ls) (run u codec state (start r) ls) := by
  have hadmits : Runs.Admits (step u codec state) (emit u codec)
      (fun _ s l => known l.world ∧ guard s l) (start r) ls := by
    rintro pre l post rfl
    exact ⟨hknown l (by simp), hguard.back.1⟩
  have hinit : Sound known [] (start r) :=
    ⟨fun t ht => absurd ht List.not_mem_nil, by simp, by simp, by simp⟩
  exact Runs.invariant_run (I := Sound known) hinit
    (fun h s l hs hl => sound_step hs hl.1 hl.2) hadmits

end Run

/-- **One vault for one token**, in every state of a run whose finalisations find the token
unminted. The handler looks for another row with the token in the letters of the request only, and
the unique index tells letter cases apart, too; a transaction is checked on the ledger, where they
are one token. -/
theorem oneVault {u : Umbral} {codec : TextCodec} {state : AppState} {known : World → Prop}
    (hledger : Immutable known) {r : Registry} {ls : List (Label Call World)}
    (hknown : ∀ l ∈ ls, known l.world)
    (hguard : Runs.Guarded (step u codec state) guard (start r) ls) :
    ∀ pre post, ls = pre ++ post → OnePerToken (history u codec state (start r) pre)
      (run u codec state (start r) pre).store.db := by
  rintro pre post rfl
  exact (sound_run r (fun l hl => hknown l (List.mem_append_left _ hl)) hguard.front).onePerToken
    hledger

/-! ## Two vaults -/

namespace Sample

open Transfers.Sample Tombstone.Sample KeyMismatch.Sample

/-- A second token, and the transaction that has minted it. -/
def otherToken : String := "00080000E8F2C1B45A6D3F907B1C2E4D5A6B7C8D9E0F1A2B3C4D5E6F0000000B"
def otherHash : String := "EEEEEEEEEEEEEEEEFFFFFFFFFFFFFFFF00000000000000001111111111111111"

/-- What the ledger says of the transaction that has minted a token. -/
def mintOf (nftTokenId : String) : Json :=
  .Obj [("validated", .Boolean true), ("TransactionType", .Str "NFTokenMint"),
    ("Account", .Str "rAlice"), ("URI", .Str uriHex),
    ("meta", .Obj [("TransactionResult", .Str "tesSUCCESS"), ("nftoken_id", .Str nftTokenId)])]

/-- The token that a transaction has minted, under whatever letters its hash is asked for. -/
def mintedBy (hash : String) : String :=
  if Text.eqIgnoreAsciiCase hash otherHash then otherToken else tokenId

/-- The ledger on which Alice's wallet has minted two tokens. -/
def ledger : Env :=
  { heldBy "rAlice" with
    xrpl := fun _ call => .ok (.Obj [("result",
      if call.method = "tx" then mintOf (mintedBy ((call.params.head?.bind (·.2.asStr)).getD ""))
      else
        .Obj [("account_nfts", .Arr ([tokenId, otherToken].map fun nftTokenId =>
          .Obj [("NFTokenID", .Str nftTokenId), ("URI", .Str uriHex)]))])]) }

/-- The world with this ledger; a new vault gets an id. -/
def world (id : Uuid) : World where
  env := { ledger with uuid := fun _ => id }
  publishedAt := ""
  touches _ := false

def known (w : World) : Prop := w.env.xrpl = ledger.xrpl

def creating : CreateVaultRequest where
  walletAddress := "rAlice"
  prePublicKey := ""
  encryptedAesKey := "key"
  metadataHash := "h"
  manifest :=
    { encryptedFilename := "", originalSize := 0, mimeType := "", originalHash := "",
      fragments := [] }

def publishing (id : Uuid) : PublishVaultMetadataRequest where
  vaultId := id
  manifestHash := "h"
  metadataUri := uri
  metadataJson := "\x7b\"name\":\"n\",\"image\":\"i\",\"external_url\":\"vaulted://h\","
    ++ "\"properties\":\x7b\"manifest_hash\":\"h\"\x7d\x7d"
  metadataHash := Text.hexEncode (List.replicate 32 0)

def finalizing (id : Uuid) (nftTokenId txHash : String) : FinalizeVaultMintRequest where
  vaultId := id
  nftTokenId := nftTokenId
  txHash := txHash
  manifestUri := uri
  manifestHash := "h"
  ownerIdentityId := "alice"

/-- The `i`-th call, with its statements and nothing in between. -/
def alone (i statements : ℕ) (call : Call) (w : World) : List (Label Call World) :=
  .Start call w :: List.replicate statements (.Step i w)

/-- Alice prepares a vault and finalises it, by three calls. -/
def minting (i : ℕ) (id : Uuid) (nftTokenId txHash : String) : List (Label Call World) :=
  alone i 2 (.CreateVault (caller alice) creating) (world id)
    ++ alone (i + 1) 2 (.Publish (caller alice) (publishing id)) (world id)
    ++ alone (i + 2) 5 (.FinalizeMint (caller alice) (finalizing id nftTokenId txHash)) (world id)

def registry : Registry := ⟨users, fun _ => 0⟩

abbrev finalised (ls : List (Label Call World)) : List Finalization :=
  history Umbral.symbolic JsonText.compact hashing (start registry) ls

abbrev after (ls : List (Label Call World)) : Db :=
  (run Umbral.symbolic JsonText.compact hashing (start registry) ls).store.db

/-- One vault, and another one with the same token in small letters. -/
def twice : List (Label Call World) :=
  minting 0 ⟨"nft"⟩ tokenId txHash ++ minting 3 ⟨"nft2"⟩ (Text.toAsciiLowercase tokenId) txHash

/-- Two vaults with two tokens. -/
def both : List (Label Call World) :=
  minting 0 ⟨"nft"⟩ tokenId txHash ++ minting 3 ⟨"nft2"⟩ otherToken otherHash

lemma finalised_twice : finalised twice = [⟨⟨"nft"⟩, tokenId, txHash⟩,
    ⟨⟨"nft2"⟩, Text.toAsciiLowercase tokenId, txHash⟩] := by
  decide +kernel

lemma mintedBy_eq {hash hash' : String} (h : Same hash hash') : mintedBy hash = mintedBy hash' := by
  have hiff : Text.eqIgnoreAsciiCase hash otherHash = true
      ↔ Text.eqIgnoreAsciiCase hash' otherHash = true := ⟨h.symm.trans, h.trans⟩
  simp only [mintedBy, hiff]

/-- The ledger always gives the same answer about a transaction. -/
lemma rpcOnce_tx {w : World} (hw : known w) (i : ℕ) (hash : String) :
    Xrpl.rpcOnce w.env i (Xrpl.txCall hash) = .ok (.Obj [("result", mintOf (mintedBy hash))]) := by
  rw [Xrpl.rpcOnce, hw]
  rfl

lemma immutable : Immutable known := by
  rintro w w' hash hash' result result' hw hw' ⟨i, data, hdata, hresult, -⟩
    ⟨j, data', hdata', hresult', -⟩ hsame
  rw [rpcOnce_tx hw] at hdata
  rw [rpcOnce_tx hw', ← mintedBy_eq hsame] at hdata'
  obtain rfl := Except.ok.inj (hdata.symm.trans hdata')
  rw [Option.some.inj (hresult.symm.trans hresult')]

lemma known_minting {i : ℕ} {id : Uuid} {nftTokenId txHash : String} :
    ∀ l ∈ minting i id nftTokenId txHash, known l.world := by
  have hworld : ∀ l ∈ minting i id nftTokenId txHash, l.world = world id := by
    simp [minting, alone, Label.world]
  intro l hl
  rw [hworld l hl]
  rfl

/-- **Two vaults for one token**, by one transaction. -/
theorem not_oneVault : Immutable known ∧ (∀ l ∈ twice, known l.world)
    ∧ ¬OnePerToken (finalised twice) (after twice) := by
  refine ⟨immutable, fun l hl => ?_, fun h => ?_⟩
  · rcases List.mem_append.mp hl with hl | hl
    · exact known_minting l hl
    · exact known_minting l hl
  · have hsame := h.transaction ⟨⟨"nft"⟩, tokenId, txHash⟩ (by rw [finalised_twice]; simp)
      ⟨⟨"nft2"⟩, Text.toAsciiLowercase tokenId, txHash⟩ (by rw [finalised_twice]; simp)
      (Text.eqIgnoreAsciiCase_self _)
    exact absurd hsame (by decide)

/-- Both are finalised, and each finds its token unminted. -/
lemma guarded_both : finalised both
      = [⟨⟨"nft"⟩, tokenId, txHash⟩, ⟨⟨"nft2"⟩, otherToken, otherHash⟩]
    ∧ Runs.Guarded (step Umbral.symbolic JsonText.compact hashing) guard (start registry) both := by
  decide +kernel

/-- Two vaults for two tokens, which two transactions have minted. -/
theorem oneVault_both : finalised both
      = [⟨⟨"nft"⟩, tokenId, txHash⟩, ⟨⟨"nft2"⟩, otherToken, otherHash⟩]
    ∧ OnePerToken (finalised both) (after both) := by
  have hknown : ∀ l ∈ both, known l.world := fun l hl =>
    (List.mem_append.mp hl).elim (known_minting l) (known_minting l)
  refine ⟨guarded_both.1, ?_⟩
  rw [after]
  exact oneVault immutable hknown guarded_both.2 _ [] (List.append_nil _).symm

end Sample

end Vaulted.OneVault
