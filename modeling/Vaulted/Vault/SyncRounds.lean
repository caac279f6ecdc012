import Vaulted.Library.RoundRobin
import Vaulted.Library.Runs
import Vaulted.Oracle.Sync

/-!
# Every NFT gets its turn

A cycle of the synchronisation is a round that serves the NFTs that have not been written for
longest; those that the ledger does not confirm are stuck.

* `step`, `examined` — a cycle, and the NFTs that it looks at.
* `LogsIds` — the active NFTs have ids that the log lines can cut; elsewhere a cycle may panic.
* `OnLedger` — a cycle runs against a ledger, later than everything that is stored.
* `VisitsAll` — after as many cycles as the NFTs fill batches, each has been examined.
* `round_step` — a cycle is a round.
* `visitsAll_iff` — that is so if and only if the NFTs that are stuck leave room for the others.
* `not_visitsAll` — an NFT that has been burned is examined twice, and another one never.
* `not_visitsAll_short` — an NFT with a short id ends every cycle.
-/

namespace Vaulted.Sync

open RoundRobin

/-! ## Cycles -/

def step (batchSize : Nat) (s : Dated) (w : World) : Dated := (syncCycle batchSize w s).2

def examined (batchSize : Nat) (s : Dated) (w : World) : List Uuid :=
  (examinedNfts w 0 (nftsToSync batchSize w s) s).map NftMetadata.id

def activeIds (db : Db) : Finset Uuid := ((activeNfts db).map NftMetadata.id).toFinset

/-- How many batches the NFTs fill. -/
def cycles (n batchSize : Nat) : Nat := (n + batchSize - 1) / batchSize

/-- Every active NFT has an id that can be logged: it has sixteen bytes, and no character is across
the end of them. So has every id of the ledger, which is a text of 64 hexadecimal digits. At any
other id the log line panics, which ends the cycle. -/
def LogsIds (db : Db) : Prop := ∀ nm ∈ activeNfts db, Loggable nm

structure OnLedger (env : Env) (s : Dated) (w : World) : Prop where
  xrpl : ∀ k, (w.env k).xrpl = env.xrpl
  order : ∀ k, (w.env k).order = env.order
  later : ∀ k, ∀ id ∈ activeIds s.db, s.updatedAt id < (w.env k).now

/-- In every run of as many cycles as it takes to go through all active NFTs once, each of them is
examined. -/
def VisitsAll (env : Env) (batchSize : Nat) (s : Dated) : Prop :=
  ∀ ls, ls.length = cycles (activeNfts s.db).length batchSize → (∀ w ∈ ls, OnLedger env s w) →
    ∀ id ∈ activeIds s.db, id ∈ Runs.history (step batchSize) (examined batchSize) s ls

/-! ## What a cycle writes -/

section Cycle

variable {env env' : Env} {s s' : Dated} {w : World} {batchSize : Nat}

lemma verifyNftOwner_congr (hxrpl : env'.xrpl = env.xrpl) (n : Nat) :
    Xrpl.verifyNftOwner env' n = Xrpl.verifyNftOwner env n := by
  have hrpc : ∀ i call, Xrpl.rpcOnce env' i call = Xrpl.rpcOnce env i call := by
    intro i call
    rw [Xrpl.rpcOnce, Xrpl.rpcOnce, hxrpl]
  funext nftTokenId wallet
  simp only [Xrpl.verifyNftOwner, Xrpl.rpc, hrpc]

lemma findNftOwnerOnXrpl_congr (hxrpl : env'.xrpl = env.xrpl) (nftTokenId : String) (n : Nat)
    (wallets : List String) : Ownership.findNftOwnerOnXrpl env' nftTokenId n wallets
      = Ownership.findNftOwnerOnXrpl env nftTokenId n wallets := by
  induction wallets generalizing n with
  | nil => rfl
  | cons wallet wallets ih =>
      simp only [Ownership.findNftOwnerOnXrpl, verifyNftOwner_congr hxrpl, ih]

lemma syncSingleNft_congr (hxrpl : env'.xrpl = env.xrpl) (horder : env'.order = env.order)
    (nftId : Uuid) (nftTokenId : String) (currentOwnerId : Uuid) :
    Ownership.syncSingleNft env' nftId nftTokenId currentOwnerId
      = Ownership.syncSingleNft env nftId nftTokenId currentOwnerId := by
  have hunordered : env'.unordered = env.unordered := by
    funext rows
    rw [Env.unordered, Env.unordered, horder]
  simp only [Ownership.syncSingleNft, verifyNftOwner_congr hxrpl, findNftOwnerOnXrpl_congr hxrpl,
    hunordered]

/-- An id that can be logged stays so. -/
lemma LogsIds.of_sameProfiles {db db' : Db} (h : LogsIds db) (hsame : SameProfiles env db db') :
    LogsIds db' := by
  intro nm hnm
  obtain ⟨hmem, hactive⟩ := List.mem_filter.mp hnm
  have hprofile : profile env db' nm ∈ db.nftMetadata.rows.map (profile env db) := by
    rw [← hsame.profiles]
    exact List.mem_map_of_mem hmem
  obtain ⟨row, hrow, heq⟩ := List.mem_map.mp hprofile
  obtain ⟨-, htoken, hstatus, -⟩ := Profile.mk.inj heq
  have hlogs : Loggable row := by
    refine h row (List.mem_filter.mpr ⟨hrow, decide_eq_true ?_⟩)
    exact hstatus.trans (of_decide_eq_true hactive)
  rwa [Loggable, ← htoken]

/-- An NFT of a batch is an active NFT of the database. -/
structure Listed (env : Env) (db : Db) (nm : NftMetadata) : Prop where
  profile : profile env db nm ∈ db.nftMetadata.rows.map (profile env db)
  active : nm.status.val = .Active
  loggable : Loggable nm

lemma Listed.of_sameProfiles {db db' : Db} {nm : NftMetadata} (h : Listed env db nm)
    (hsame : SameProfiles env db db') : Listed env db' nm := by
  refine ⟨?_, h.active, h.loggable⟩
  rw [hsame.profiles, profile_congr hsame.users]
  exact h.profile

lemma listed_of_mem {db : Db} (hids : LogsIds db) {nm : NftMetadata} (h : nm ∈ activeNfts db) :
    Listed env db nm := by
  obtain ⟨hmem, hactive⟩ := List.mem_filter.mp h
  exact ⟨List.mem_map_of_mem hmem, of_decide_eq_true hactive, hids nm h⟩

/-- An NFT that is examined is written if it is confirmed. -/
lemma syncSingleNft_dated (hfixed : FixedLedger env) (hxrpl : env'.xrpl = env.xrpl)
    (horder : env'.order = env.order) {nm : NftMetadata} (hnm : Listed env s.db nm)
    (hs' : (syncSingleNft env' nm.id nm.nftTokenId nm.ownerId s).2 = s') :
    SameProfiles env s.db s'.db ∧ s'.updatedAt
      = if confirmed env s.db nm then Function.update s.updatedAt nm.id env'.now
        else s.updatedAt := by
  have hwrites : writes (Ownership.syncSingleNft env nm.id nm.nftTokenId nm.ownerId s.db).1
      = confirmed env s.db nm := syncSingleNft_writes env nm s.db
  subst hs'
  rw [syncSingleNft, syncSingleNft_congr hxrpl horder, ← hwrites]
  exact ⟨sameProfiles_syncSingleNft hfixed hnm.profile hnm.active, rfl⟩

/-- **What the NFTs of a batch leave**: the others, and those that are stuck, are not written. -/
lemma syncNfts_dated (hfixed : FixedLedger env) (hxrpl : ∀ k, (w.env k).xrpl = env.xrpl)
    (horder : ∀ k, (w.env k).order = env.order) {nms : List NftMetadata} {k : Nat}
    (stats : SyncStats) (hnms : ∀ nm ∈ nms, Listed env s.db nm)
    (hnodup : (nms.map NftMetadata.id).Nodup) (hs' : (syncNfts w k nms stats s).2 = s') :
    SameProfiles env s.db s'.db
      ∧ (∀ id, id ∉ nms.map NftMetadata.id ∨ unconfirmed env s.db id = true →
        s'.updatedAt id = s.updatedAt id)
      ∧ ∀ id ∈ nms.map NftMetadata.id, unconfirmed env s.db id = false →
        ∃ k, s'.updatedAt id = (w.env k).now := by
  induction nms generalizing k stats s with
  | nil =>
      subst hs'
      exact ⟨.refl, fun _ _ => rfl, fun id hid => by cases hid⟩
  | cons nm nms ih =>
      obtain ⟨hnew, hnodup⟩ := List.nodup_cons.mp hnodup
      have hlisted := hnms nm List.mem_cons_self
      obtain ⟨hsame, hupdated⟩ := syncSingleNft_dated hfixed (hxrpl k) (horder k) hlisted rfl
      rw [syncNfts] at hs'
      generalize syncSingleNft (w.env k) nm.id nm.nftTokenId nm.ownerId s = r at hs' hsame hupdated
      obtain ⟨answer, t⟩ := r
      dsimp only at hs'
      rw [logPanics_of_loggable hlisted.loggable, if_neg Bool.false_ne_true] at hs'
      obtain ⟨hsame', hstays, hmoves⟩ := ih _
        (fun nm' hnm' => (hnms nm' (List.mem_cons_of_mem _ hnm')).of_sameProfiles hsame) hnodup hs'
      rw [hsame.unconfirmed] at hstays hmoves
      have hconfirmed : unconfirmed env s.db nm.id = !confirmed env s.db nm := by
        obtain ⟨row, hrow, hprofile⟩ := List.mem_map.mp hlisted.profile
        obtain ⟨hid, -, -, hconfirmed⟩ := Profile.mk.inj hprofile
        rw [← hid, unconfirmed_of_mem hrow, hconfirmed]
      have hother : ∀ id, id ≠ nm.id ∨ unconfirmed env s.db id = true →
          t.updatedAt id = s.updatedAt id := by
        intro id hid
        rw [hupdated]
        split_ifs with hnm
        · refine Function.update_of_ne ?_ _ _
          rintro rfl
          simp [hconfirmed, hnm] at hid
        · rfl
      refine ⟨hsame.trans hsame', fun id hid => ?_, fun id hid hmoving => ?_⟩
      · rw [List.map_cons, List.mem_cons, not_or] at hid
        rw [hstays id (hid.imp_left And.right), hother id (hid.imp_left And.left)]
      · rw [List.map_cons, List.mem_cons] at hid
        by_cases hin : id ∈ nms.map NftMetadata.id
        · exact hmoves id hin hmoving
        · obtain rfl := hid.resolve_right hin
          rw [hconfirmed, Bool.not_eq_false'] at hmoving
          refine ⟨k, ?_⟩
          rw [hstays _ (.inl hin), hupdated, if_pos hmoving, Function.update_self]

/-! ## A cycle is a round -/

lemma nodup_activeIds (db : Db) : ((activeNfts db).map NftMetadata.id).Nodup :=
  (List.filter_sublist.map _).nodup db.nftMetadata.table.nodup

/-- What is left out of a batch is not older than what is in it. -/
lemma older_of_nftsToSync {a b : NftMetadata} (ha : a ∈ nftsToSync batchSize w s)
    (hb : b ∈ activeNfts s.db) (hout : b ∉ nftsToSync batchSize w s) :
    Older s.updatedAt w.tie a b := by
  have hsorted := List.pairwise_insertionSort (Older s.updatedAt w.tie) (activeNfts s.db)
  rw [← List.take_append_drop batchSize (List.insertionSort _ _)] at hsorted
  refine (List.pairwise_append.mp hsorted).2.2 a ha b ?_
  have hmem := (List.mem_insertionSort (Older s.updatedAt w.tie)).mpr hb
  rw [← List.take_append_drop batchSize (List.insertionSort _ _)] at hmem
  exact (List.mem_append.mp hmem).resolve_left hout

lemma mem_nftsToSync {nm : NftMetadata} (h : nm ∈ nftsToSync batchSize w s) :
    nm ∈ activeNfts s.db :=
  (List.mem_insertionSort _).mp (List.mem_of_mem_take h)

/-- A cycle gets to its whole batch. -/
lemma examined_eq (hids : LogsIds s.db) :
    examined batchSize s w = (nftsToSync batchSize w s).map NftMetadata.id := by
  rw [examined, examinedNfts_eq fun nm hnm => hids nm (mem_nftsToSync hnm)]

lemma nodup_nftsToSync : ((nftsToSync batchSize w s).map NftMetadata.id).Nodup := by
  have hperm := (List.perm_insertionSort (Older s.updatedAt w.tie) (activeNfts s.db)).map
    NftMetadata.id
  exact ((List.take_sublist _ _).map _).nodup (hperm.nodup_iff.mpr (nodup_activeIds s.db))

/-- An NFT of a batch, and one that is not in it. -/
lemma older_of_examined (hids : LogsIds s.db) {x y : Uuid} (hx : x ∈ examined batchSize s w)
    (hy : y ∈ activeIds s.db) (hout : y ∉ examined batchSize s w) :
    s.updatedAt x < s.updatedAt y ∨ s.updatedAt x = s.updatedAt y ∧ w.tie x ≤ w.tie y := by
  rw [examined_eq hids] at hx hout
  obtain ⟨a, ha, rfl⟩ := List.mem_map.mp hx
  obtain ⟨b, hb, rfl⟩ := List.mem_map.mp (List.mem_toFinset.mp hy)
  exact older_of_nftsToSync ha hb fun hin => hout (List.mem_map_of_mem hin)

variable (batchSize) in
/-- **A cycle is a round.** -/
theorem round_step {origin : Dated} (hfixed : FixedLedger env) (hids : LogsIds origin.db)
    (hw : OnLedger env origin w) (hs : SameProfiles env origin.db s.db) :
    Round batchSize (unconfirmed env origin.db) (activeIds origin.db) origin.updatedAt s.updatedAt
      (examined batchSize s w).toFinset (step batchSize s w).updatedAt := by
  have hitems : activeIds s.db = activeIds origin.db := congrArg List.toFinset hs.activeIds
  have hids := hids.of_sameProfiles hs
  obtain ⟨-, hstays, hmoves⟩ := syncNfts_dated hfixed hw.xrpl hw.order (k := 0)
    { (default : SyncStats) with total := (nftsToSync batchSize w s).length }
    (fun nm hnm => listed_of_mem hids (mem_nftsToSync hnm)) nodup_nftsToSync rfl
  rw [hs.unconfirmed] at hstays hmoves
  rw [← examined_eq hids] at hstays hmoves
  have hnodup : (examined batchSize s w).Nodup := by
    rw [examined_eq hids]
    exact nodup_nftsToSync
  rw [← hitems]
  refine ⟨fun x hx => ?_, ?_, fun x hx y hy hout => ?_, fun x hx => ?_, fun x hx hmoving y hy => ?_⟩
  · rw [examined_eq hids] at hx
    obtain ⟨nm, hnm, rfl⟩ := List.mem_map.mp (List.mem_toFinset.mp hx)
    exact List.mem_toFinset.mpr (List.mem_map_of_mem (mem_nftsToSync hnm))
  · rw [List.toFinset_card_of_nodup hnodup, activeIds,
      List.toFinset_card_of_nodup (nodup_activeIds s.db), examined_eq hids]
    simp [nftsToSync]
  · rw [List.mem_toFinset] at hx hout
    rcases older_of_examined hids hx hy hout with hlt | ⟨heq, -⟩
    · exact Nat.le_of_lt hlt
    · exact Nat.le_of_eq heq
  · rw [List.mem_toFinset] at hx
    exact hstays x hx
  · obtain ⟨k, hk⟩ := hmoves x (List.mem_toFinset.mp hx) hmoving
    have hnow : (step batchSize s w).updatedAt x = (w.env k).now := hk
    rw [hnow]
    exact hw.later k y (hitems ▸ hy)

/-- A cycle leaves the profiles. -/
lemma sameProfiles_step (hfixed : FixedLedger env) (hids : LogsIds s.db) {origin : Dated}
    (hw : OnLedger env origin w) : SameProfiles env s.db (step batchSize s w).db :=
  (syncNfts_dated hfixed hw.xrpl hw.order _
    (fun _ hnm => listed_of_mem hids (mem_nftsToSync hnm)) nodup_nftsToSync rfl).1

end Cycle

/-! ## Runs of cycles -/

section Run

variable {env : Env} {s : Dated} {batchSize : Nat}

/-- What the `j`-th cycle of a run examines. -/
def served (batchSize : Nat) (s : Dated) (ls : List World) (j : Nat) : Finset Uuid :=
  match ls[j]? with
  | some w => (examined batchSize (Runs.exec (step batchSize) s (ls.take j)) w).toFinset
  | none => ∅

/-- The column `updated_at` after `j` cycles. -/
def key (batchSize : Nat) (s : Dated) (ls : List World) (j : Nat) : Uuid → Time :=
  (Runs.exec (step batchSize) s (ls.take j)).updatedAt

variable (batchSize) in
lemma sameProfiles_exec (hfixed : FixedLedger env) (hids : LogsIds s.db) {ls : List World}
    (hls : ∀ w ∈ ls, OnLedger env s w) :
    SameProfiles env s.db (Runs.exec (step batchSize) s ls).db := by
  induction ls using List.reverseRecOn with
  | nil => exact .refl
  | append_singleton ls w ih =>
      rw [Runs.exec_concat]
      have hsame := ih fun w' hw' => hls w' (List.mem_append_left _ hw')
      exact hsame.trans
        (sameProfiles_step hfixed (hids.of_sameProfiles hsame) (hls w (by simp)))

variable (batchSize) in
lemma rounds_exec (hfixed : FixedLedger env) (hids : LogsIds s.db) {ls : List World}
    (hls : ∀ w ∈ ls, OnLedger env s w) :
    Rounds batchSize (unconfirmed env s.db) (activeIds s.db) ls.length (served batchSize s ls)
      (key batchSize s ls) where
  round j hj := by
    have hget : ls[j]? = some ls[j] := List.getElem?_eq_getElem hj
    have hsame := sameProfiles_exec batchSize hfixed hids
      fun w hw => hls w (List.mem_of_mem_take (i := j) hw)
    have hround := round_step batchSize hfixed hids (hls _ (List.getElem_mem hj)) hsame
    have hnext : key batchSize s ls (j + 1)
        = (step batchSize (Runs.exec (step batchSize) s (ls.take j)) ls[j]).updatedAt := by
      rw [key, List.take_add_one, hget, Option.toList_some, Runs.exec_concat]
    rw [hnext, served, hget]
    exact hround

lemma mem_history_iff {ls : List World} {id : Uuid} :
    id ∈ Runs.history (step batchSize) (examined batchSize) s ls
      ↔ id ∈ visited (served batchSize s ls) ls.length := by
  rw [Runs.mem_history, mem_visited]
  constructor
  · rintro ⟨pre, w, post, rfl, hid⟩
    refine ⟨pre.length, by simp, ?_⟩
    simpa [served] using hid
  · rintro ⟨j, hj, hid⟩
    refine ⟨ls.take j, ls[j], ls.drop (j + 1), ?_, ?_⟩
    · rw [← List.drop_eq_getElem_cons hj, List.take_append_drop]
    · simpa [served, List.getElem?_eq_getElem hj] using hid

/-- The NFTs one after the other, in the order of a listing. -/
def worldOf (env : Env) (now : Time) (L : List Uuid) : World where
  env _ := { env with now }
  tie id := L.idxOf id
  enabled _ := true
  elapsedMs := 0

lemma onLedger_worldOf {now : Time} (hlater : ∀ id ∈ activeIds s.db, s.updatedAt id < now)
    (L : List Uuid) : OnLedger env s (worldOf env now L) :=
  ⟨fun _ => rfl, fun _ => rfl, fun _ => hlater⟩

lemma breaksTies_worldOf (hfixed : FixedLedger env) (hids : LogsIds s.db) {now : Time}
    (hlater : ∀ id ∈ activeIds s.db, s.updatedAt id < now) {L : List Uuid}
    (hL : Listing (activeIds s.db) s.updatedAt L) {m : Nat} {ls : List World}
    (hls : ls = List.replicate m (worldOf env now L)) :
    BreaksTies ls.length (served batchSize s ls) (key batchSize s ls) L := by
  intro j hj
  have hworld : ls[j] = worldOf env now L := by simp [hls]
  have hworlds : ∀ w ∈ ls.take j, OnLedger env s w := by
    intro w hw
    rw [hls] at hw
    rw [List.eq_of_mem_replicate (List.mem_of_mem_take hw)]
    exact onLedger_worldOf hlater L
  have hsame := sameProfiles_exec batchSize hfixed hids hworlds
  have hidx : L.Pairwise fun x y => L.idxOf x < L.idxOf y := by
    rw [List.pairwise_iff_getElem]
    intro i k hi hk hik
    rwa [hL.nodup.idxOf_getElem, hL.nodup.idxOf_getElem]
  refine hidx.imp_of_mem fun {x y} hx _ hxy hy hout heq => ?_
  rw [served, List.getElem?_eq_getElem hj, hworld] at hy hout
  have hactive : x ∈ activeIds (Runs.exec (step batchSize) s (ls.take j)).db := by
    rw [activeIds, hsame.activeIds]
    exact (hL.mem x).mp hx
  rcases older_of_examined (hids.of_sameProfiles hsame) (List.mem_toFinset.mp hy) hactive
    (fun hin => hout (List.mem_toFinset.mpr hin)) with hlt | ⟨-, hle⟩
  · exact absurd heq (Nat.ne_of_gt hlt)
  · exact absurd hxy (Nat.not_lt_of_le hle)

/-- **Every NFT gets its turn if and only if** those that are stuck leave room: in whichever order
they come by their age, the NFTs can be cut into as many portions as there are cycles, each of
which fits into a batch together with the stuck ones of the portions before.  The ids have to be
such that no log line panics, which would end a cycle before its batch is through. -/
theorem visitsAll_iff (hfixed : FixedLedger env) (hids : LogsIds s.db) : VisitsAll env batchSize s
    ↔ ∀ L, Listing (activeIds s.db) s.updatedAt L →
      Fits batchSize (unconfirmed env s.db) (cycles (activeNfts s.db).length batchSize) 0 L := by
  constructor
  · intro hvisits L hL
    -- a clock that is later than all that is stored
    have hlater : ∀ id ∈ activeIds s.db,
        s.updatedAt id < (activeIds s.db).sup s.updatedAt + 1 := fun id hid =>
      Nat.lt_succ_of_le (Finset.le_sup hid)
    obtain ⟨ls, hls⟩ : ∃ ls, ls = List.replicate (cycles (activeNfts s.db).length batchSize)
      (worldOf env ((activeIds s.db).sup s.updatedAt + 1) L) := ⟨_, rfl⟩
    have hlen : ls.length = cycles (activeNfts s.db).length batchSize := by simp [hls]
    have hworlds : ∀ w ∈ ls, OnLedger env s w := by
      intro w hw
      rw [hls] at hw
      rw [List.eq_of_mem_replicate hw]
      exact onLedger_worldOf hlater L
    have hfits := (rounds_exec batchSize hfixed hids hworlds).fits_of_visited hL
      (breaksTies_worldOf hfixed hids hlater hL hls)
      (fun id hid => mem_history_iff.mp (hvisits ls hlen hworlds id hid))
    rwa [hlen] at hfits
  · intro hfits ls hlen hworlds id hid
    refine mem_history_iff.mpr
      ((rounds_exec batchSize hfixed hids hworlds).visited_of_fits ?_ hid)
    intro L hL
    rw [hlen]
    exact hfits L hL

/-- Where the ledger confirms every NFT, all of them get their turn. -/
lemma fits_of_confirmed (hconfirmed : ∀ nm ∈ activeNfts s.db, confirmed env s.db nm = true)
    (hb : 0 < batchSize) {L : List Uuid} (hL : Listing (activeIds s.db) s.updatedAt L) :
    Fits batchSize (unconfirmed env s.db) (cycles (activeNfts s.db).length batchSize) 0 L := by
  refine fits_of_moving (fun id hid => ?_) ?_
  · obtain ⟨nm, hnm, rfl⟩ := List.mem_map.mp (List.mem_toFinset.mp ((hL.mem id).mp hid))
    rw [unconfirmed_of_mem (List.mem_filter.mp hnm).1, hconfirmed nm hnm]
    rfl
  · have hlen : L.length = (activeNfts s.db).length := by
      have hset : L.toFinset = activeIds s.db := by
        ext id
        rw [List.mem_toFinset, hL.mem id]
      rw [← List.toFinset_card_of_nodup hL.nodup, hset, activeIds,
        List.toFinset_card_of_nodup (nodup_activeIds s.db), List.length_map]
    rw [hlen, cycles]
    have hmod := Nat.div_add_mod ((activeNfts s.db).length + batchSize - 1) batchSize
    have hlt := Nat.mod_lt ((activeNfts s.db).length + batchSize - 1) hb
    rw [Nat.mul_comm] at hmod
    omega

end Run

/-! ## What goes wrong -/

namespace Sample

def alice : User where
  id := ⟨"alice"⟩
  walletAddress := "rAlice"
  prePublicKey := ""

def nft (id nftTokenId : String) : NftMetadata where
  id := ⟨id⟩
  nftTokenId
  ownerId := alice.id
  encryptedAesKey := ""
  metadataHash := ""
  status := NftStatus.active

def first : String := "000800001111111111111111111111111111111111111111111111110000000A"

def second : String := "000800001111111111111111111111111111111111111111111111110000000B"

def vaults : Dated where
  db :=
    { (default : Db) with
      users := ⟨⟨[alice], by decide⟩, by decide⟩
      nftMetadata := ⟨⟨[nft "1" first, nft "2" second], by decide⟩, by decide⟩ }
  updatedAt id := if id = ⟨"1"⟩ then 0 else 1

/-- The ledger that lists some tokens under every account, later than anything in the database. -/
def ledger (nftTokenIds : List String) : Env :=
  { (default : Env) with
    now := 2
    xrpl := fun _ _ => .ok (.Obj [("result", .Obj [("account_nfts", .Arr
      (nftTokenIds.map fun nftTokenId => .Obj [("NFTokenID", .Str nftTokenId)]))])]) }

lemma logsIds_vaults : LogsIds vaults.db := by
  intro nm hnm
  have hall : ((activeNfts vaults.db).all fun nm => (loggedId nm.nftTokenId).isSome) = true := by
    decide +kernel
  exact List.all_eq_true.mp hall nm hnm

/-- The ledger has both. -/
theorem visitsAll_vaults : VisitsAll (ledger [first, second]) 1 vaults :=
  (visitsAll_iff (fun _ => rfl) logsIds_vaults).mpr fun _ hL =>
    fits_of_confirmed (by decide +kernel) Nat.one_pos hL

def cycle : World := ⟨fun _ => ledger [second], fun _ => 0, fun _ => true, 0⟩

/-- **The second NFT never gets its turn** when the first one has been burned. -/
theorem not_visitsAll : ¬VisitsAll (ledger [second]) 1 vaults := by
  intro hvisits
  have hworld : ∀ w ∈ [cycle, cycle], OnLedger (ledger [second]) vaults w := by
    intro w hw
    obtain rfl : w = cycle := by simpa using hw
    refine ⟨fun _ => rfl, fun _ => rfl, fun k => ?_⟩
    show ∀ id ∈ activeIds vaults.db, vaults.updatedAt id < 2
    decide +kernel
  have hhistory : Runs.history (step 1) (examined 1) vaults [cycle, cycle] = [⟨"1"⟩, ⟨"1"⟩] := by
    decide +kernel
  have hmem := hvisits [cycle, cycle] rfl hworld ⟨"2"⟩ (by decide +kernel)
  rw [hhistory] at hmem
  revert hmem
  decide

/-- The first NFT has been registered under a number that the ledger does not have. -/
def short : Dated :=
  { vaults with
    db :=
      { vaults.db with nftMetadata := ⟨⟨[nft "1" "0008", nft "2" second], by decide⟩, by decide⟩ } }

/-- **A short id ends every cycle**: its log line panics, and the second NFT never gets its turn,
though both are in the batch. -/
theorem not_visitsAll_short : ¬VisitsAll (ledger [second]) 2 short := by
  intro hvisits
  have hworld : ∀ w ∈ [cycle], OnLedger (ledger [second]) short w := by
    intro w hw
    obtain rfl : w = cycle := by simpa using hw
    refine ⟨fun _ => rfl, fun _ => rfl, fun k => ?_⟩
    show ∀ id ∈ activeIds short.db, short.updatedAt id < 2
    decide +kernel
  have hhistory : Runs.history (step 2) (examined 2) short [cycle] = [⟨"1"⟩] := by decide +kernel
  have hmem := hvisits [cycle] rfl hworld ⟨"2"⟩ (by decide +kernel)
  rw [hhistory] at hmem
  revert hmem
  decide

end Sample

end Vaulted.Sync
