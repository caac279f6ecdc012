import Vaulted.Crypto.XrplWallet
import Vaulted.Library.Checks

/-!
# An intent admits its own transaction

The wallet signs a transaction for an intent if and only if it is the one that the builder makes of
the intent, with a fee and sequence numbers added.

* `transaction` — what the builder makes of an intent.
* `WithinPolicy` — the values that an intent may have.
* `stringField_eq_ok`, `requireExactFields_eq_ok` and their companions — each check of the code as a
  statement about the members of the object.
* `policy_iff` — each policy, for one kind of intent.
* `admitsExactly` — the result.  Without `WithinPolicy` it is wrong: nobody can pay nothing
  (`not_admitted`).
-/

namespace Vaulted.XrplWallet

/-! ## What the wallet should sign -/

/-- What the builder makes of an intent. -/
def transaction (account : String) : XrplSigningIntent → Json
  | .SendXrp destination amountDrops destinationTag =>
      buildXrpPaymentTx account destination amountDrops destinationTag
  | .MintVaultNft metadataUri nftokenTaxon flags transferFee =>
      buildNftokenMintTx account metadataUri nftokenTaxon (some flags) transferFee
  | .CreateNftTransferOffer nftokenId destination =>
      buildNftokenCreateOfferTx account nftokenId destination "0"
  | .AcceptNftTransferOffer offerIndex => buildNftokenAcceptOfferTx account offerIndex
  | .BurnVaultNft nftokenId => buildNftokenBurnTx account nftokenId

/-- A decimal number of drops. -/
def Drops (s : String) (n : ℕ) : Prop :=
  s.toList ≠ [] ∧ s.toList.all JsonText.isDigit = true ∧ JsonText.ofDecimal s.toList = n

/-- A payment pays something, and a minted NFT can be transferred for an admitted fee. The intents
have nothing else that the wallet would have to look at. -/
def WithinPolicy : XrplSigningIntent → Prop
  | .SendXrp _ amountDrops _ => ∃ n, Drops amountDrops n ∧ n ≠ 0 ∧ n < 2 ^ 64
  | .MintVaultNft _ _ flags transferFee =>
      flags = tfTransferable ∧ ∀ fee ∈ transferFee, fee ≤ maxTransferFeeBps
  | .CreateNftTransferOffer _ _ | .AcceptNftTransferOffer _ | .BurnVaultNft _ => True

/-- The network fields that the wallet accepts. -/
structure Network (fee : String) (sequence lastLedgerSequence : UInt32) : Prop where
  fee : ∃ n, Drops fee n ∧ 1 ≤ n ∧ n ≤ 100000
  sequence : sequence ≠ 0
  lastLedgerSequence : lastLedgerSequence ≠ 0

/-- The transaction of an intent, with network fields. -/
def Signable (intent : XrplSigningIntent) (tx : Json) (account : String) : Prop :=
  ∃ fee sequence lastLedgerSequence built, Network fee sequence lastLedgerSequence
    ∧ addXrplSigningFields (transaction account intent) fee sequence lastLedgerSequence = some built
    ∧ tx.SameMembers built

/-! ## The checks -/

section Checks

variable {tx : Json} {field expected message : String}

lemma demand_eq_ok {condition : Bool} {r : Unit} :
    demand condition message = .ok r ↔ condition = true := by
  unfold demand
  split_ifs with h <;> simp [h]

lemma txObject_eq_ok {obj : List (String × Json)} : txObject tx = .ok obj ↔ tx = .Obj obj := by
  cases tx <;> simp [txObject]

lemma stringField_eq_ok {s : String} :
    stringField tx field = .ok s ↔ tx.get field = some (.Str s) := by
  unfold stringField
  cases hget : tx.get field with
  | none => simp
  | some v =>
      rw [Option.bind_some, Option.some.injEq, ← Json.asStr_eq_some]
      cases v.asStr <;> simp

lemma u32Field_eq_ok {n : UInt32} :
    u32Field tx field = .ok n ↔ tx.get field = some (number n.toNat) := by
  unfold u32Field
  cases hget : tx.get field with
  | none => simp
  | some v =>
      rw [Option.bind_some]
      constructor
      · intro h
        split at h
        · next value hvalue =>
            split_ifs at h with hlt
            obtain ⟨rfl, -⟩ := Json.asU64_eq_some.mp hvalue
            rw [← Except.ok.inj h, UInt32.toNat_ofNat_of_lt' hlt]
            rfl
        · cases h
      · intro h
        obtain rfl := Option.some.inj h
        have hlt : n.toNat < 2 ^ 32 := n.toNat_lt
        have hvalue : (number n.toNat).asU64 = some n.toNat :=
          Json.asU64_eq_some.mpr ⟨rfl, hlt.trans (by decide)⟩
        rw [hvalue]
        exact (if_pos hlt).trans (congrArg Except.ok UInt32.ofNat_toNat)

lemma parseDrops_eq_ok {s : String} {n : ℕ} :
    parseDrops s field = .ok n ↔ Drops s n ∧ n < 2 ^ 64 := by
  unfold parseDrops Drops
  split_ifs with hshape hlt
  · refine ⟨fun h => (by cases h), fun ⟨⟨hne, hdigits, _⟩, _⟩ => ?_⟩
    rw [hdigits, Bool.not_true, Bool.or_false, List.isEmpty_iff] at hshape
    exact absurd hshape hne
  · rw [Bool.or_eq_true, not_or, List.isEmpty_iff, Bool.not_eq_true'] at hshape
    constructor
    · intro h
      rw [← Except.ok.inj h]
      exact ⟨⟨hshape.1, by simpa using hshape.2, rfl⟩, hlt⟩
    · rintro ⟨⟨-, -, rfl⟩, -⟩
      rfl
  · refine ⟨fun h => (by cases h), fun ⟨⟨_, _, hn⟩, hlt'⟩ => ?_⟩
    exact absurd (hn ▸ hlt') hlt

lemma requireStringEquals_eq_ok {r : Unit} :
    requireStringEquals tx field expected = .ok r ↔ tx.get field = some (.Str expected) := by
  rw [requireStringEquals, Checks.bind_eq_ok_iff]
  simp only [stringField_eq_ok, demand_eq_ok, decide_eq_true_eq]
  exact ⟨fun ⟨s, hs, h⟩ => h ▸ hs, fun h => ⟨expected, h, rfl⟩⟩

lemma requireU32Equals_eq_ok {n : UInt32} {r : Unit} :
    requireU32Equals tx field n = .ok r ↔ tx.get field = some (number n.toNat) := by
  rw [requireU32Equals, Checks.bind_eq_ok_iff]
  simp only [u32Field_eq_ok, demand_eq_ok, decide_eq_true_eq]
  exact ⟨fun ⟨m, hm, h⟩ => h ▸ hm, fun h => ⟨n, h, rfl⟩⟩

lemma any_eq_isSome_get {obj : List (String × Json)} {k : String} :
    (obj.any fun m => decide (m.1 = k)) = ((Json.Obj obj).get k).isSome := by
  rw [Bool.eq_iff_iff, Json.isSome_get]
  simp

/-- The object has no other field than the allowed ones, and each one that is not optional. -/
lemma requireExactFields_eq_ok {allowed : List String} {r : Unit} :
    requireExactFields tx allowed = .ok r ↔ tx.isObject = true
      ∧ (∀ k, (tx.get k).isSome = true → k ∈ allowed)
      ∧ ∀ k ∈ allowed, k ∉ optionalFields → (tx.get k).isSome = true := by
  cases tx with
  | Obj obj =>
      rw [requireExactFields, Checks.bind_eq_ok_iff]
      simp only [txObject_eq_ok, Json.Obj.injEq, any_eq_isSome_get]
      constructor
      · rintro ⟨_, rfl, h⟩
        split at h
        · cases h
        · next hallowed =>
          split at h
          · cases h
          · next hrequired =>
            rw [List.find?_eq_none] at hallowed hrequired
            refine ⟨rfl, fun k hk => ?_, fun k hk hoptional => ?_⟩
            · obtain ⟨m, hm, rfl⟩ := List.mem_map.mp (Json.isSome_get.mp hk)
              simpa using hallowed m hm
            · rw [Option.isSome_iff_ne_none]
              simpa [hoptional] using hrequired k hk
      · rintro ⟨-, hkeys, hrequired⟩
        have hallowed : obj.find? (fun m => !allowed.contains m.1) = none := by
          rw [List.find?_eq_none]
          intro m hm
          have hk := hkeys m.1 (Json.isSome_get.mpr (List.mem_map_of_mem hm))
          simpa using hk
        have hmissing : allowed.find? (fun field => !optionalFields.contains field
            && !((Json.Obj obj).get field).isSome) = none := by
          rw [List.find?_eq_none]
          intro k hk hboth
          simp only [Bool.and_eq_true, Bool.not_eq_true', List.contains_eq_mem,
            decide_eq_false_iff_not] at hboth
          rw [hrequired k hk hboth.1] at hboth
          cases hboth.2
        exact ⟨obj, rfl, by rw [hallowed, hmissing]⟩
  | _ => exact ⟨fun h => (by cases h), fun h => (by cases h.1)⟩

lemma rejectForbiddenFields_eq_ok {r : Unit} :
    rejectForbiddenFields tx = .ok r ↔ tx.isObject = true ∧ ∀ k ∈ forbidden, tx.get k = none := by
  cases tx with
  | Obj obj =>
      rw [rejectForbiddenFields, Checks.bind_eq_ok_iff]
      simp only [txObject_eq_ok, Json.Obj.injEq, any_eq_isSome_get]
      constructor
      · rintro ⟨_, rfl, h⟩
        split at h
        · cases h
        · next hnone =>
          rw [List.find?_eq_none] at hnone
          exact ⟨rfl, fun k hk => by simpa using hnone k hk⟩
      · rintro ⟨-, hnone⟩
        have hfind : forbidden.find? (fun field => ((Json.Obj obj).get field).isSome) = none := by
          rw [List.find?_eq_none]
          exact fun k hk => by rw [hnone k hk]; decide
        exact ⟨obj, rfl, by rw [hfind]⟩
  | _ => exact ⟨fun h => (by cases h), fun h => (by cases h.1)⟩

end Checks

/-! ## What is signable -/

section Signable

variable {tx : Json} {account : String} {intent : XrplSigningIntent}
variable {own : List (String × Json)} {allowed : List String}

def networkFields : List String := ["Fee", "Sequence", "LastLedgerSequence"]

/-- The transaction has no other fields than these and the network fields. -/
structure Fields (tx : Json) (own : List (String × Json)) : Prop where
  isObject : tx.isObject = true
  keys : ∀ k, (tx.get k).isSome = true → k ∈ own.map Prod.fst ++ networkFields
  own : ∀ m ∈ own, tx.get m.1 = some m.2

/-- The values of the network fields. -/
def HasNetwork (tx : Json) : Prop :=
  ∃ fee sequence lastLedgerSequence, Network fee sequence lastLedgerSequence
    ∧ tx.get "Fee" = some (.Str fee) ∧ tx.get "Sequence" = some (number sequence.toNat)
    ∧ tx.get "LastLedgerSequence" = some (number lastLedgerSequence.toNat)

lemma HasNetwork.isSome_get (h : HasNetwork tx) : ∀ k ∈ networkFields, (tx.get k).isSome = true := by
  obtain ⟨fee, sequence, lastLedgerSequence, -, hfee, hsequence, hlast⟩ := h
  simp [networkFields, hfee, hsequence, hlast]

/-- What a transaction needs to be signable. -/
lemma signable_iff (htransaction : transaction account intent = .Obj own)
    (hnodup : (own.map Prod.fst ++ networkFields).Nodup) :
    Signable intent tx account ↔ Fields tx own ∧ HasNetwork tx := by
  have hadd : ∀ fee sequence lastLedgerSequence,
      addXrplSigningFields (.Obj own) fee sequence lastLedgerSequence
        = some (.Obj (own ++ [("Fee", .Str fee), ("Sequence", number sequence.toNat),
          ("LastLedgerSequence", number lastLedgerSequence.toNat)])) := by
    intro fee sequence lastLedgerSequence
    have hfresh : ∀ k ∈ networkFields, own.filter (fun m => !decide (m.1 = k)) = own := by
      intro k hk
      refine List.filter_eq_self.mpr fun m hm => ?_
      have hne : m.1 ≠ k := by
        rintro rfl
        exact List.disjoint_of_nodup_append hnodup (List.mem_map_of_mem hm) hk
      simp [hne]
    simp only [addXrplSigningFields, Json.assign?, Json.set?, Option.bind_eq_bind,
      Option.bind_some, List.filter_append, List.append_assoc]
    rw [hfresh "Fee" (by decide), hfresh "Sequence" (by decide),
      hfresh "LastLedgerSequence" (by decide)]
    rfl
  have hkeys : ∀ fee sequence lastLedgerSequence, (own ++ [("Fee", .Str fee),
      ("Sequence", number sequence), ("LastLedgerSequence", number lastLedgerSequence)]).map Prod.fst
        = own.map Prod.fst ++ networkFields := by
    intro fee sequence lastLedgerSequence
    rw [List.map_append]
    rfl
  constructor
  · rintro ⟨fee, sequence, lastLedgerSequence, built, hnetwork, hbuilt, hsame⟩
    rw [htransaction, hadd] at hbuilt
    obtain rfl := Option.some.inj hbuilt
    rw [Json.sameMembers_obj_iff (by rwa [hkeys]), hkeys] at hsame
    obtain ⟨hobject, hwithin, hmembers⟩ := hsame
    simp only [List.forall_mem_append, List.forall_mem_cons] at hmembers
    obtain ⟨hown, hfee, hsequence, hlast, -⟩ := hmembers
    exact ⟨⟨hobject, hwithin, hown⟩, fee, sequence, lastLedgerSequence, hnetwork, hfee, hsequence,
      hlast⟩
  · rintro ⟨hfields, fee, sequence, lastLedgerSequence, hnetwork, hfee, hsequence, hlast⟩
    refine ⟨fee, sequence, lastLedgerSequence, _, hnetwork, by rw [htransaction, hadd], ?_⟩
    rw [Json.sameMembers_obj_iff (by rwa [hkeys]), hkeys]
    refine ⟨hfields.isObject, hfields.keys, ?_⟩
    simp only [List.forall_mem_append, List.forall_mem_cons]
    exact ⟨hfields.own, hfee, hsequence, hlast, fun _ h => by cases h⟩

lemma validateCommonSigningFields_eq_ok {r : Unit} :
    validateCommonSigningFields tx account = .ok r ↔ tx.isObject = true
      ∧ (∀ k ∈ forbidden, tx.get k = none) ∧ tx.get "Account" = some (.Str account)
      ∧ HasNetwork tx := by
  simp only [validateCommonSigningFields, requireAccount, Checks.bind_eq_ok_iff,
    rejectForbiddenFields_eq_ok, stringField_eq_ok, u32Field_eq_ok, parseDrops_eq_ok, demand_eq_ok,
    decide_eq_true_eq, Bool.not_eq_true', Bool.or_eq_false_iff, decide_eq_false_iff_not]
  constructor
  · rintro ⟨_, ⟨hobject, hforbidden⟩, _, ⟨_, haccount, rfl⟩, fee, hfee, n, ⟨hdrops, -⟩, _,
      ⟨hzero, hmax⟩, sequence, hsequence, _, hsequence', last, hlast, hlast'⟩
    refine ⟨hobject, hforbidden, haccount, fee, sequence, last, ⟨⟨n, hdrops, ?_, ?_⟩, hsequence',
      hlast'⟩, hfee, hsequence, hlast⟩
    · exact Nat.pos_of_ne_zero hzero
    · exact not_lt.mp hmax
  · rintro ⟨hobject, hforbidden, haccount, fee, sequence, last,
      ⟨⟨n, hdrops, hpos, hmax⟩, hsequence', hlast'⟩, hfee, hsequence, hlast⟩
    exact ⟨(), ⟨hobject, hforbidden⟩, (), ⟨account, haccount, rfl⟩, fee, hfee, n,
      ⟨hdrops, hmax.trans_lt (by decide)⟩, (), ⟨Nat.ne_of_gt hpos, not_lt.mpr hmax⟩, sequence,
      hsequence, (), hsequence', last, hlast, hlast'⟩

/-- An object with all of its fields passes. -/
lemma requireExactFields_iff {r : Unit} (hown : ∀ m ∈ own, tx.get m.1 = some m.2)
    (hnetwork : HasNetwork tx) :
    requireExactFields tx (own.map Prod.fst ++ networkFields) = .ok r ↔ Fields tx own := by
  rw [requireExactFields_eq_ok]
  refine ⟨fun h => ⟨h.1, h.2.1, hown⟩, fun h => ⟨h.isObject, h.keys, fun k hk _ => ?_⟩⟩
  rcases List.mem_append.mp hk with hk | hk
  · obtain ⟨m, hm, rfl⟩ := List.mem_map.mp hk
    rw [hown m hm]
    rfl
  · exact hnetwork.isSome_get k hk

/-- An optional field may be there or not. -/
lemma requireExactFields_optional_iff {r : Unit} {k₀ : String} {o : Option Json}
    (hoptional : k₀ ∈ optionalFields) (hget : tx.get k₀ = o)
    (hown : ∀ m ∈ own, tx.get m.1 = some m.2) (hnetwork : HasNetwork tx) :
    requireExactFields tx (own.map Prod.fst ++ k₀ :: networkFields) = .ok r
      ↔ Fields tx (own ++ (o.map (Prod.mk k₀)).toList) := by
  cases o with
  | some v =>
      have hkeys : own.map Prod.fst ++ k₀ :: networkFields
          = (own ++ [(k₀, v)]).map Prod.fst ++ networkFields := by simp
      have hall : ∀ m ∈ own ++ [(k₀, v)], tx.get m.1 = some m.2 := by
        intro m hm
        rcases List.mem_append.mp hm with hm | hm
        · exact hown m hm
        · rw [List.mem_singleton.mp hm, hget]
      rw [hkeys]
      exact requireExactFields_iff hall hnetwork
  | none =>
      rw [Option.map_none, Option.toList_none, List.append_nil,
        ← requireExactFields_iff (r := r) hown hnetwork, requireExactFields_eq_ok,
        requireExactFields_eq_ok]
      have hmem : ∀ k, k ≠ k₀ → (k ∈ own.map Prod.fst ++ k₀ :: networkFields
          ↔ k ∈ own.map Prod.fst ++ networkFields) := by
        intro k hk
        simp [hk]
      refine and_congr_right fun _ => and_congr ?_ ?_
      · refine forall_congr' fun k => imp_congr_right fun hk => hmem k ?_
        rintro rfl
        rw [hget] at hk
        cases hk
      · constructor
        · intro h k hk
          exact h k (by simpa using (List.mem_append.mp hk).imp_right Or.inr)
        · intro h k hk hk'
          exact h k ((hmem k (by rintro rfl; exact hk' hoptional)).mp hk) hk'

lemma Fields.get_optional {k₀ : String} {o : Option Json}
    (hfresh : k₀ ∉ own.map Prod.fst ++ networkFields)
    (h : Fields tx (own ++ (o.map (Prod.mk k₀)).toList)) : tx.get k₀ = o := by
  cases o with
  | some v => exact h.own (k₀, v) (by simp)
  | none =>
      rw [← Option.not_isSome_iff_eq_none]
      intro hk
      exact hfresh (by simpa using h.keys k₀ hk)

end Signable

/-! ## Policies -/

section Policies

variable {tx : Json} {account : String} {r : Unit}

/-- The fields of the transaction of an intent, without the network fields. -/
def ownFields (account : String) (intent : XrplSigningIntent) : List (String × Json) :=
  match transaction account intent with
  | .Obj members => members
  | _ => []

lemma transaction_eq (intent : XrplSigningIntent) :
    transaction account intent = .Obj (ownFields account intent) := by
  cases intent <;> rfl

lemma validateNftokenAcceptOfferPolicy_iff (offerIndex : String) (hnetwork : HasNetwork tx)
    (haccount : tx.get "Account" = some (.Str account)) :
    validateNftokenAcceptOfferPolicy tx offerIndex = .ok r
      ↔ Fields tx (ownFields account (.AcceptNftTransferOffer offerIndex)) := by
  simp only [validateNftokenAcceptOfferPolicy, requireTransactionType, Checks.bind_eq_ok_iff,
    requireStringEquals_eq_ok]
  constructor
  · rintro ⟨_, hexact, _, htype, hoffer⟩
    have hown : ∀ m ∈ ownFields account (.AcceptNftTransferOffer offerIndex),
        tx.get m.1 = some m.2 := by
      simp [ownFields, transaction, buildNftokenAcceptOfferTx, htype, haccount, hoffer]
    exact (requireExactFields_iff hown hnetwork).mp hexact
  · intro hfields
    have hown := hfields.own
    simp only [ownFields, transaction, buildNftokenAcceptOfferTx, List.forall_mem_cons] at hown
    obtain ⟨htype, -, hoffer, -⟩ := hown
    exact ⟨(), (requireExactFields_iff hfields.own hnetwork).mpr hfields, (), htype, hoffer⟩

lemma validateNftokenBurnPolicy_iff (nftokenId : String) (hnetwork : HasNetwork tx)
    (haccount : tx.get "Account" = some (.Str account)) :
    validateNftokenBurnPolicy tx nftokenId = .ok r
      ↔ Fields tx (ownFields account (.BurnVaultNft nftokenId)) := by
  simp only [validateNftokenBurnPolicy, requireTransactionType, Checks.bind_eq_ok_iff,
    requireStringEquals_eq_ok]
  constructor
  · rintro ⟨_, hexact, _, htype, hid⟩
    have hown : ∀ m ∈ ownFields account (.BurnVaultNft nftokenId), tx.get m.1 = some m.2 := by
      simp [ownFields, transaction, buildNftokenBurnTx, htype, haccount, hid]
    exact (requireExactFields_iff hown hnetwork).mp hexact
  · intro hfields
    have hown := hfields.own
    simp only [ownFields, transaction, buildNftokenBurnTx, List.forall_mem_cons] at hown
    obtain ⟨htype, -, hid, -⟩ := hown
    exact ⟨(), (requireExactFields_iff hfields.own hnetwork).mpr hfields, (), htype, hid⟩

lemma validateNftokenCreateOfferPolicy_iff (nftokenId destination : String)
    (hnetwork : HasNetwork tx) (haccount : tx.get "Account" = some (.Str account)) :
    validateNftokenCreateOfferPolicy tx nftokenId destination = .ok r
      ↔ Fields tx (ownFields account (.CreateNftTransferOffer nftokenId destination)) := by
  simp only [validateNftokenCreateOfferPolicy, requireTransactionType, Checks.bind_eq_ok_iff,
    requireStringEquals_eq_ok, requireU32Equals_eq_ok]
  constructor
  · rintro ⟨_, hexact, _, htype, _, hid, _, hamount, _, hflags, hdestination⟩
    have hown : ∀ m ∈ ownFields account (.CreateNftTransferOffer nftokenId destination),
        tx.get m.1 = some m.2 := by
      simp [ownFields, transaction, buildNftokenCreateOfferTx, htype, haccount, hid, hamount,
        hflags, hdestination, tfNftokenSellOffer]
    exact (requireExactFields_iff hown hnetwork).mp hexact
  · intro hfields
    have hown := hfields.own
    simp only [ownFields, transaction, buildNftokenCreateOfferTx, List.forall_mem_cons] at hown
    obtain ⟨htype, -, hid, hamount, hflags, hdestination, -⟩ := hown
    exact ⟨(), (requireExactFields_iff hfields.own hnetwork).mpr hfields, (), htype, (), hid, (),
      hamount, (), hflags, hdestination⟩

/-- The number in an optional field. -/
def optionalNumber (n : Option ℕ) : Option Json := n.map number

lemma ownFields_sendXrp {destination amountDrops : String} {destinationTag : Option UInt32} :
    ownFields account (.SendXrp destination amountDrops destinationTag)
      = [("TransactionType", .Str "Payment"), ("Account", .Str account),
          ("Destination", .Str destination), ("Amount", .Str amountDrops)]
        ++ ((optionalNumber (destinationTag.map UInt32.toNat)).map
          (Prod.mk "DestinationTag")).toList := by
  cases destinationTag <;> rfl

lemma destinationTag_iff {destinationTag : Option UInt32} {e : CryptoError} :
    (match destinationTag, tx.get "DestinationTag" with
      | some expected, some _ => do
          let actual ← u32Field tx "DestinationTag"
          demand (decide (actual = expected)) "XRP payment DestinationTag does not match intent"
      | none, none => .ok ()
      | _, _ => .error e) = .ok r
      ↔ tx.get "DestinationTag" = optionalNumber (destinationTag.map UInt32.toNat) := by
  cases destinationTag with
  | none => cases hget : tx.get "DestinationTag" <;> simp [optionalNumber]
  | some tag =>
      have hfield : tx.get "DestinationTag" = some (number tag.toNat)
          ↔ u32Field tx "DestinationTag" = .ok tag := u32Field_eq_ok.symm
      rw [Option.map_some, optionalNumber, Option.map_some, hfield]
      cases hget : tx.get "DestinationTag" with
      | none => simp [u32Field, hget]
      | some v =>
          simp only [Checks.bind_eq_ok_iff, demand_eq_ok, decide_eq_true_eq]
          exact ⟨fun ⟨actual, h, heq⟩ => heq ▸ h, fun h => ⟨tag, h, rfl⟩⟩

lemma validateXrpPaymentPolicy_iff {destination amountDrops : String}
    {destinationTag : Option UInt32} (hnetwork : HasNetwork tx)
    (haccount : tx.get "Account" = some (.Str account)) :
    validateXrpPaymentPolicy tx destination amountDrops destinationTag = .ok r
      ↔ WithinPolicy (.SendXrp destination amountDrops destinationTag)
        ∧ Fields tx (ownFields account (.SendXrp destination amountDrops destinationTag)) := by
  rw [ownFields_sendXrp]
  simp only [validateXrpPaymentPolicy, requireTransactionType, Checks.bind_eq_ok_iff,
    requireStringEquals_eq_ok, parseDrops_eq_ok, demand_eq_ok, decide_eq_true_eq]
  constructor
  · rintro ⟨_, hexact, _, htype, _, hdestination, _, hamount, n, ⟨hdrops, hn⟩, _, hzero, htag⟩
    refine ⟨⟨n, hdrops, hzero, hn⟩, ?_⟩
    refine (requireExactFields_optional_iff (by decide) (destinationTag_iff.mp htag) ?_
      hnetwork).mp hexact
    simp [htype, haccount, hdestination, hamount]
  · rintro ⟨⟨n, hdrops, hzero, hn⟩, hfields⟩
    have htag := hfields.get_optional (by simp [networkFields])
    have hown := (List.forall_mem_append.mp hfields.own).1
    have hexact :=
      (requireExactFields_optional_iff (r := ()) (by decide) htag hown hnetwork).mpr hfields
    simp only [List.forall_mem_cons] at hown
    obtain ⟨htype, -, hdestination, hamount, -⟩ := hown
    exact ⟨(), hexact, (), htype, (), hdestination, (), hamount, n, ⟨hdrops, hn⟩, (), hzero,
      destinationTag_iff.mpr htag⟩

lemma ownFields_mintVaultNft {metadataUri : String} {nftokenTaxon flags : UInt32}
    {transferFee : Option UInt16} :
    ownFields account (.MintVaultNft metadataUri nftokenTaxon flags transferFee)
      = [("TransactionType", .Str "NFTokenMint"), ("Account", .Str account),
          ("URI", .Str (encodeUpper metadataUri)), ("NFTokenTaxon", number nftokenTaxon.toNat),
          ("Flags", number flags.toNat)]
        ++ ((optionalNumber (transferFee.map UInt16.toNat)).map (Prod.mk "TransferFee")).toList := by
  cases transferFee <;> rfl

lemma transferFee_iff {transferFee : Option UInt16} {e : CryptoError} :
    (match transferFee, tx.get "TransferFee" with
      | some expected, some _ => do
          let actual ← u32Field tx "TransferFee"
          demand (!(decide (actual ≠ expected.toUInt32)
              || decide (maxTransferFeeBps.toUInt32 < actual)))
            "NFTokenMint TransferFee does not match Vaulted policy"
      | none, none => .ok ()
      | _, _ => .error e) = .ok r
      ↔ tx.get "TransferFee" = optionalNumber (transferFee.map UInt16.toNat)
        ∧ ∀ fee ∈ transferFee, fee ≤ maxTransferFeeBps := by
  cases transferFee with
  | none => cases hget : tx.get "TransferFee" <;> simp [optionalNumber]
  | some fee =>
      have hfield : tx.get "TransferFee" = some (number fee.toNat)
          ↔ u32Field tx "TransferFee" = .ok fee.toUInt32 := by
        rw [u32Field_eq_ok, UInt16.toNat_toUInt32]
      have hmax : ¬maxTransferFeeBps.toUInt32 < fee.toUInt32 ↔ fee ≤ maxTransferFeeBps := by
        rw [UInt32.lt_iff_toNat_lt, UInt16.toNat_toUInt32, UInt16.toNat_toUInt32, not_lt,
          UInt16.le_iff_toNat_le]
      rw [Option.map_some, optionalNumber, Option.map_some, hfield]
      cases hget : tx.get "TransferFee" with
      | none => simp [u32Field, hget]
      | some v =>
          simp only [Checks.bind_eq_ok_iff, demand_eq_ok, Bool.not_eq_true', Bool.or_eq_false_iff,
            decide_eq_false_iff_not, not_not, Option.mem_some_iff, forall_eq']
          constructor
          · rintro ⟨actual, h, rfl, hle⟩
            exact ⟨h, hmax.mp hle⟩
          · rintro ⟨h, hle⟩
            exact ⟨fee.toUInt32, h, rfl, hmax.mpr hle⟩

lemma validateNftokenMintPolicy_iff {metadataUri : String} {nftokenTaxon flags : UInt32}
    {transferFee : Option UInt16} (hnetwork : HasNetwork tx)
    (haccount : tx.get "Account" = some (.Str account)) :
    validateNftokenMintPolicy tx metadataUri nftokenTaxon flags transferFee = .ok r
      ↔ WithinPolicy (.MintVaultNft metadataUri nftokenTaxon flags transferFee)
        ∧ Fields tx (ownFields account
          (.MintVaultNft metadataUri nftokenTaxon flags transferFee)) := by
  rw [ownFields_mintVaultNft]
  simp only [validateNftokenMintPolicy, requireTransactionType, Checks.bind_eq_ok_iff,
    requireStringEquals_eq_ok, requireU32Equals_eq_ok, demand_eq_ok, decide_eq_true_eq]
  constructor
  · rintro ⟨_, hexact, _, htype, _, huri, _, htaxon, _, hflags, _, htransferable, hfee⟩
    obtain ⟨hfee, hmax⟩ := transferFee_iff.mp hfee
    refine ⟨⟨htransferable, hmax⟩, ?_⟩
    refine (requireExactFields_optional_iff (by decide) hfee ?_ hnetwork).mp hexact
    simp [htype, haccount, huri, htaxon, hflags]
  · rintro ⟨⟨htransferable, hmax⟩, hfields⟩
    have hfee := hfields.get_optional (by simp [networkFields])
    have hown := (List.forall_mem_append.mp hfields.own).1
    have hexact := (requireExactFields_optional_iff (r := ()) (by decide) hfee hown hnetwork).mpr
      hfields
    simp only [List.forall_mem_cons] at hown
    obtain ⟨htype, -, huri, htaxon, hflags, -⟩ := hown
    exact ⟨(), hexact, (), htype, (), huri, (), htaxon, (), hflags, (), htransferable,
      transferFee_iff.mpr ⟨hfee, hmax⟩⟩

/-- The policy of an intent. -/
def policy (intent : XrplSigningIntent) (tx : Json) : Except CryptoError Unit :=
  match intent with
  | .SendXrp destination amountDrops destinationTag =>
      validateXrpPaymentPolicy tx destination amountDrops destinationTag
  | .MintVaultNft metadataUri nftokenTaxon flags transferFee =>
      validateNftokenMintPolicy tx metadataUri nftokenTaxon flags transferFee
  | .CreateNftTransferOffer nftokenId destination =>
      validateNftokenCreateOfferPolicy tx nftokenId destination
  | .AcceptNftTransferOffer offerIndex => validateNftokenAcceptOfferPolicy tx offerIndex
  | .BurnVaultNft nftokenId => validateNftokenBurnPolicy tx nftokenId

/-- **What a policy asks for**: the values of the intent are admissible, and the transaction has
the fields of the intent. -/
theorem policy_iff (intent : XrplSigningIntent) (hnetwork : HasNetwork tx)
    (haccount : tx.get "Account" = some (.Str account)) :
    policy intent tx = .ok r ↔ WithinPolicy intent ∧ Fields tx (ownFields account intent) := by
  cases intent with
  | SendXrp destination amountDrops destinationTag =>
      exact validateXrpPaymentPolicy_iff hnetwork haccount
  | MintVaultNft metadataUri nftokenTaxon flags transferFee =>
      exact validateNftokenMintPolicy_iff hnetwork haccount
  | CreateNftTransferOffer nftokenId destination =>
      have hiff := validateNftokenCreateOfferPolicy_iff (r := r) nftokenId destination hnetwork
        haccount
      exact ⟨fun h => ⟨trivial, hiff.mp h⟩, fun h => hiff.mpr h.2⟩
  | AcceptNftTransferOffer offerIndex =>
      have hiff := validateNftokenAcceptOfferPolicy_iff (r := r) offerIndex hnetwork haccount
      exact ⟨fun h => ⟨trivial, hiff.mp h⟩, fun h => hiff.mpr h.2⟩
  | BurnVaultNft nftokenId =>
      have hiff := validateNftokenBurnPolicy_iff (r := r) nftokenId hnetwork haccount
      exact ⟨fun h => ⟨trivial, hiff.mp h⟩, fun h => hiff.mpr h.2⟩

variable (account) in
/-- No field of the transaction of an intent is forbidden, and none occurs twice. -/
lemma ownFields_keys (intent : XrplSigningIntent) :
    ((ownFields account intent).map Prod.fst ++ networkFields).Nodup
      ∧ (∀ k ∈ forbidden, k ∉ (ownFields account intent).map Prod.fst ++ networkFields)
      ∧ ("Account", .Str account) ∈ ownFields account intent := by
  cases intent with
  | SendXrp destination amountDrops destinationTag =>
      cases destinationTag <;>
      simp [ownFields, transaction, buildXrpPaymentTx, networkFields, forbidden]
  | MintVaultNft metadataUri nftokenTaxon flags transferFee =>
      cases transferFee <;>
      simp [ownFields, transaction, buildNftokenMintTx, networkFields, forbidden]
  | CreateNftTransferOffer nftokenId destination =>
      simp [ownFields, transaction, buildNftokenCreateOfferTx, networkFields, forbidden]
  | AcceptNftTransferOffer offerIndex =>
      simp [ownFields, transaction, buildNftokenAcceptOfferTx, networkFields, forbidden]
  | BurnVaultNft nftokenId =>
      simp [ownFields, transaction, buildNftokenBurnTx, networkFields, forbidden]

end Policies

/-- **An intent admits a transaction if and only if** the values of the intent are admissible, and
the transaction is the one that the builder makes of it, with network fields. -/
theorem validate_iff (intent : XrplSigningIntent) (tx : Json) (walletAddress : String) :
    validateXrplTransactionForIntent intent tx walletAddress = .ok ()
      ↔ WithinPolicy intent ∧ Signable intent tx walletAddress := by
  obtain ⟨hnodup, hforbidden, haccount⟩ := ownFields_keys walletAddress intent
  rw [signable_iff (transaction_eq intent) hnodup]
  have hvalidate : validateXrplTransactionForIntent intent tx walletAddress
      = (validateCommonSigningFields tx walletAddress >>= fun _ => policy intent tx) := by
    cases intent <;> rfl
  rw [hvalidate, Checks.bind_eq_ok_iff]
  constructor
  · rintro ⟨_, hcommon, hpolicy⟩
    obtain ⟨-, -, hacc, hnetwork⟩ := validateCommonSigningFields_eq_ok.mp hcommon
    obtain ⟨hwithin, hfields⟩ := (policy_iff intent hnetwork hacc).mp hpolicy
    exact ⟨hwithin, hfields, hnetwork⟩
  · rintro ⟨hwithin, hfields, hnetwork⟩
    have hacc : tx.get "Account" = some (.Str walletAddress) := hfields.own _ haccount
    refine ⟨(), validateCommonSigningFields_eq_ok.mpr ⟨hfields.isObject, fun k hk => ?_, hacc,
      hnetwork⟩, (policy_iff intent hnetwork hacc).mpr ⟨hwithin, hfields⟩⟩
    rw [← Option.not_isSome_iff_eq_none]
    exact fun hsome => hforbidden k hk (hfields.keys k hsome)

/-- The builder makes an object of every intent, and of every network field. -/
lemma exists_built (intent : XrplSigningIntent) (account fee : String)
    (sequence lastLedgerSequence : UInt32) :
    ∃ built, addXrplSigningFields (transaction account intent) fee sequence lastLedgerSequence
      = some built ∧ built.isObject = true := by
  rw [transaction_eq]
  exact ⟨_, rfl, rfl⟩

/-- **Intents admit exactly the transactions that they describe**, and so what the builder makes of
an intent with admissible values is signed for it. The validator asks for exactly the fields of the
intent, so that one field more is as wrong as one with another value. -/
theorem admitsExactly (intent : XrplSigningIntent) (walletAddress : String) :
    (∀ tx, validateXrplTransactionForIntent intent tx walletAddress = .ok ()
      ↔ WithinPolicy intent ∧ Signable intent tx walletAddress)
    ∧ ∀ fee sequence lastLedgerSequence, Network fee sequence lastLedgerSequence →
      WithinPolicy intent → ∃ built,
        addXrplSigningFields (transaction walletAddress intent) fee sequence lastLedgerSequence
          = some built
        ∧ validateXrplTransactionForIntent intent built walletAddress = .ok () := by
  refine ⟨fun tx => validate_iff intent tx walletAddress, ?_⟩
  intro fee sequence lastLedgerSequence hnetwork hwithin
  obtain ⟨built, hbuilt, hobject⟩ :=
    exists_built intent walletAddress fee sequence lastLedgerSequence
  refine ⟨built, hbuilt, (validate_iff intent built walletAddress).mpr ⟨hwithin, ?_⟩⟩
  exact ⟨fee, sequence, lastLedgerSequence, built, hnetwork, hbuilt, hobject, hobject, fun _ => rfl⟩

namespace Sample

lemma network : Network "12" 1 100 where
  fee := ⟨12, ⟨by decide, by decide, by decide⟩, by decide, by decide⟩
  sequence := by decide
  lastLedgerSequence := by decide

/-- Alice may pay Bob one million drops. -/
theorem admits_payment : ∃ built,
    addXrplSigningFields (buildXrpPaymentTx "rAlice" "rBob" "1000000" none) "12" 1 100 = some built
    ∧ validateXrplTransactionForIntent (.SendXrp "rBob" "1000000" none) built "rAlice" = .ok () :=
  (admitsExactly (.SendXrp "rBob" "1000000" none) "rAlice").2 "12" 1 100 network
    ⟨1000000, ⟨by decide, by decide, by decide⟩, by decide, by decide⟩

/-- **Nobody can pay nothing**, although the builder makes a transaction of such a payment. -/
theorem not_admitted : ¬∀ intent tx walletAddress,
    validateXrplTransactionForIntent intent tx walletAddress = .ok ()
      ↔ Signable intent tx walletAddress := by
  intro hadmits
  obtain ⟨built, hbuilt, hobject⟩ := exists_built (.SendXrp "rBob" "0" none) "rAlice" "12" 1 100
  have hsignable : Signable (.SendXrp "rBob" "0" none) built "rAlice" :=
    ⟨"12", 1, 100, built, network, hbuilt, hobject, hobject, fun _ => rfl⟩
  obtain ⟨⟨n, ⟨-, -, hn⟩, hzero, -⟩, -⟩ :=
    (validate_iff _ _ _).mp ((hadmits _ _ _).mpr hsignable)
  exact hzero (hn.symm.trans (by decide))

end Sample

end Vaulted.XrplWallet
