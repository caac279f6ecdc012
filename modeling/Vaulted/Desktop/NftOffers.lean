import Vaulted.Library.Json
import Vaulted.Library.Text

/-!
# Offers for an NFT

The client looks for an offer that it has made before, in the objects of an account and in the sell
offers for a token (`xrpl/client.rs`).

* `parseAccountNftokenOffers`, `nftSellOffers` — the offers in an answer of the ledger.
* `findMatchingOfferIndex` — the first one that matches.
* `Exact` — a sell offer for just what is asked for.
* `Accepted`, `Careful` — what the comparisons ask of an object, and what they leave out
  (`exact_iff`).
* `matchesExactly_iff` — when the offer that is found is exact.
-/

namespace Vaulted.XrplClient

/-! ## Reading -/

structure NftOffer where
  offerIndex : String
  owner : String
  nftTokenId : Option String
  amount : String
  destination : Option String

/-- A member that is a text. -/
def text (object : Json) (name : String) : Option String := (object.get name).bind Json.asStr

def readAccountOffer (object : Json) : Option NftOffer := do
  let ledgerEntryType ← text object "LedgerEntryType"
  if ledgerEntryType = "NFTokenOffer" then
    let offerIndex ← ((object.get "index").or (object.get "ledger_index")).bind Json.asStr
    let owner ← text object "Owner"
    some
      { offerIndex
        owner
        nftTokenId := text object "NFTokenID"
        amount := (text object "Amount").getD "0"
        destination := text object "Destination" }
  else none

def parseAccountNftokenOffers (result : Json) : List NftOffer :=
  (((result.get "account_objects").bind Json.asArray).getD []).filterMap readAccountOffer

def readSellOffer (nftId : String) (object : Json) : Option NftOffer := do
  let offerIndex ← text object "nft_offer_index"
  let owner ← text object "owner"
  let amount ← object.get "amount"
  some
    { offerIndex
      owner
      nftTokenId := some nftId
      amount := amount.asStr.getD "0"
      destination := text object "destination" }

/-- `nft_sell_offers`, on the answer of the ledger. -/
def nftSellOffers (nftId : String) (result : Json) : List NftOffer :=
  (((result.get "offers").bind Json.asArray).getD []).filterMap (readSellOffer nftId)

def findMatchingOfferIndex (offers : List NftOffer)
    (owner nftTokenId destination amount : String) : Option String :=
  (offers.find? fun offer =>
    Text.eqIgnoreAsciiCase offer.owner owner && decide (offer.amount = amount)
      && offer.destination.any (fun value => Text.eqIgnoreAsciiCase value destination)
      && offer.nftTokenId.all fun value => Text.eqIgnoreAsciiCase value nftTokenId).map
    NftOffer.offerIndex

/-! ## What is asked for -/

/-- The arguments of `find_matching_nftoken_offer`. -/
structure Wanted where
  owner : String
  nftTokenId : String
  destination : String
  amount : String

/-- The two answers of the ledger that offers are looked for in. -/
inductive Listing
  | AccountObjects
  | SellOffers

namespace Listing

/-- The list of offers in an answer. -/
def objects : Listing → Json → List Json
  | .AccountObjects, result => ((result.get "account_objects").bind Json.asArray).getD []
  | .SellOffers, result => ((result.get "offers").bind Json.asArray).getD []

def index : Listing → Json → Option String
  | .AccountObjects, object =>
      ((object.get "index").or (object.get "ledger_index")).bind Json.asStr
  | .SellOffers, object => text object "nft_offer_index"

def owner : Listing → String
  | .AccountObjects => "Owner"
  | .SellOffers => "owner"

def destination : Listing → String
  | .AccountObjects => "Destination"
  | .SellOffers => "destination"

def amount : Listing → String
  | .AccountObjects => "Amount"
  | .SellOffers => "amount"

def flags : Listing → String
  | .AccountObjects => "Flags"
  | .SellOffers => "flags"

/-- What is found in an answer. -/
def found : Listing → Wanted → Json → Option String
  | .AccountObjects, w, result =>
      findMatchingOfferIndex (parseAccountNftokenOffers result) w.owner w.nftTokenId w.destination
        w.amount
  | .SellOffers, w, result =>
      findMatchingOfferIndex (nftSellOffers w.nftTokenId result) w.owner w.nftTokenId
        w.destination w.amount

end Listing

/-- An offer is for sale if its lowest flag is set. -/
def Sells (flags : Json) : Prop := ∃ n, flags = .Num (.Nat n) ∧ n % 2 = 1

/-- A sell offer for exactly what is wanted.  Sell offers are listed for one token only. -/
structure Exact (l : Listing) (w : Wanted) (object : Json) (offerIndex : String) : Prop where
  index : l.index object = some offerIndex
  entry : l = .AccountObjects → object.get "LedgerEntryType" = some (.Str "NFTokenOffer")
  sells : ∃ flags, object.get l.flags = some flags ∧ Sells flags
  token : l = .AccountObjects → ∃ id, object.get "NFTokenID" = some (.Str id)
    ∧ Text.eqIgnoreAsciiCase id w.nftTokenId = true
  owner : object.get l.owner = some (.Str w.owner)
  destination : object.get l.destination = some (.Str w.destination)
  amount : object.get l.amount = some (.Str w.amount)

/-- What is found is exact, and nothing is found only if no offer is exact. -/
structure MatchesExactly (l : Listing) (w : Wanted) (result : Json) : Prop where
  sound : ∀ i, l.found w result = some i → ∃ object ∈ l.objects result, Exact l w object i
  complete : l.found w result = none → ∀ object ∈ l.objects result, ∀ i, ¬Exact l w object i

/-! ## What the comparisons ask for -/

/-- What is compared: letters in any case, no token or the one that is wanted, and an amount that
is no text as `0`. -/
structure Accepted (l : Listing) (w : Wanted) (object : Json) (offerIndex : String) : Prop where
  index : l.index object = some offerIndex
  entry : l = .AccountObjects → object.get "LedgerEntryType" = some (.Str "NFTokenOffer")
  token : l = .AccountObjects → ∀ id, object.get "NFTokenID" = some (.Str id) →
    Text.eqIgnoreAsciiCase id w.nftTokenId = true
  owner : ∃ value, object.get l.owner = some (.Str value)
    ∧ Text.eqIgnoreAsciiCase value w.owner = true
  destination : ∃ value, object.get l.destination = some (.Str value)
    ∧ Text.eqIgnoreAsciiCase value w.destination = true
  present : l = .SellOffers → object.get l.amount ≠ none
  amount : (text object l.amount).getD "0" = w.amount

/-- What is not compared: the flags, whether there are a token and an amount at all, and the letters
of the two accounts. -/
structure Careful (l : Listing) (w : Wanted) (object : Json) : Prop where
  sells : ∃ flags, object.get l.flags = some flags ∧ Sells flags
  token : l = .AccountObjects → ∃ id, object.get "NFTokenID" = some (.Str id)
  owner : object.get l.owner = some (.Str w.owner)
  destination : object.get l.destination = some (.Str w.destination)
  amount : ∃ value, object.get l.amount = some (.Str value)

/-- The first object that the comparisons let through. -/
def FirstAccepted (l : Listing) (w : Wanted) (objects : List Json) (offerIndex : String) : Prop :=
  ∃ before object after, objects = before ++ object :: after
    ∧ Accepted l w object offerIndex ∧ ∀ o ∈ before, ∀ i, ¬Accepted l w o i

section

variable {l : Listing} {w : Wanted} {object result : Json} {i : String}

lemma text_eq_some_iff {name value : String} :
    text object name = some value ↔ object.get name = some (.Str value) := by
  unfold text
  cases object.get name with
  | none => simp
  | some j => cases j <;> simp [Json.asStr]

lemma exact_iff : Exact l w object i ↔ Accepted l w object i ∧ Careful l w object := by
  constructor
  · intro h
    refine ⟨⟨h.index, h.entry, fun hl id hid => ?_, ⟨_, h.owner, Text.eqIgnoreAsciiCase_self _⟩,
      ⟨_, h.destination, Text.eqIgnoreAsciiCase_self _⟩, fun _ hnone => ?_, ?_⟩,
      ⟨h.sells, fun hl => ?_, h.owner, h.destination, ⟨_, h.amount⟩⟩⟩
    · obtain ⟨id', hid', heq⟩ := h.token hl
      rw [hid] at hid'
      cases hid'
      exact heq
    · rw [h.amount] at hnone
      cases hnone
    · rw [text_eq_some_iff.mpr h.amount, Option.getD_some]
    · obtain ⟨id, hid, -⟩ := h.token hl
      exact ⟨id, hid⟩
  · rintro ⟨haccepted, hcareful⟩
    obtain ⟨amount, hamount⟩ := hcareful.amount
    refine ⟨haccepted.index, haccepted.entry, hcareful.sells, fun hl => ?_, hcareful.owner,
      hcareful.destination, ?_⟩
    · obtain ⟨id, hid⟩ := hcareful.token hl
      exact ⟨id, hid, haccepted.token hl id hid⟩
    · have heq := haccepted.amount
      rw [text_eq_some_iff.mpr hamount, Option.getD_some] at heq
      rw [hamount, heq]

/-! ## What is found -/

def Listing.read : Listing → Wanted → Json → Option NftOffer
  | .AccountObjects, _, object => readAccountOffer object
  | .SellOffers, w, object => readSellOffer w.nftTokenId object

/-- The comparisons of `findMatchingOfferIndex`. -/
def Wanted.compares (w : Wanted) (offer : NftOffer) : Bool :=
  Text.eqIgnoreAsciiCase offer.owner w.owner && decide (offer.amount = w.amount)
    && offer.destination.any (fun value => Text.eqIgnoreAsciiCase value w.destination)
    && offer.nftTokenId.all fun value => Text.eqIgnoreAsciiCase value w.nftTokenId

lemma found_eq (l : Listing) (w : Wanted) (result : Json) : l.found w result
    = (((l.objects result).filterMap (l.read w)).find? w.compares).map NftOffer.offerIndex := by
  cases l <;> rfl

lemma compares_iff {offer : NftOffer} : w.compares offer = true
    ↔ Text.eqIgnoreAsciiCase offer.owner w.owner = true ∧ offer.amount = w.amount
      ∧ (∃ value, offer.destination = some value
        ∧ Text.eqIgnoreAsciiCase value w.destination = true)
      ∧ ∀ id, offer.nftTokenId = some id → Text.eqIgnoreAsciiCase id w.nftTokenId = true := by
  simp only [Wanted.compares, Bool.and_eq_true, decide_eq_true_eq, Option.any_eq_true,
    Option.all_eq_true, and_assoc]

lemma readAccountOffer_eq_some_iff {offer : NftOffer} : readAccountOffer object = some offer
    ↔ object.get "LedgerEntryType" = some (.Str "NFTokenOffer")
      ∧ Listing.AccountObjects.index object = some offer.offerIndex
      ∧ object.get "Owner" = some (.Str offer.owner)
      ∧ text object "NFTokenID" = offer.nftTokenId
      ∧ (text object "Amount").getD "0" = offer.amount
      ∧ text object "Destination" = offer.destination := by
  constructor
  · intro h
    obtain ⟨entry, hentry, hrest⟩ := Option.bind_eq_some_iff.mp h
    split_ifs at hrest with htype
    obtain ⟨offerIndex, hindex, hfields⟩ := Option.bind_eq_some_iff.mp hrest
    obtain ⟨owner, howner, hoffer⟩ := Option.bind_eq_some_iff.mp hfields
    obtain rfl := Option.some.inj hoffer
    rw [htype] at hentry
    exact ⟨text_eq_some_iff.mp hentry, hindex, text_eq_some_iff.mp howner, rfl, rfl, rfl⟩
  · obtain ⟨offerIndex, owner, nftTokenId, amount, destination⟩ := offer
    rintro ⟨hentry, hindex, howner, rfl, rfl, rfl⟩
    refine Option.bind_eq_some_iff.mpr ⟨_, text_eq_some_iff.mpr hentry, ?_⟩
    rw [if_pos rfl]
    exact Option.bind_eq_some_iff.mpr ⟨_, hindex,
      Option.bind_eq_some_iff.mpr ⟨_, text_eq_some_iff.mpr howner, rfl⟩⟩

lemma readSellOffer_eq_some_iff {nftId : String} {offer : NftOffer} :
    readSellOffer nftId object = some offer
      ↔ Listing.SellOffers.index object = some offer.offerIndex
        ∧ object.get "owner" = some (.Str offer.owner)
        ∧ object.get "amount" ≠ none
        ∧ some nftId = offer.nftTokenId
        ∧ (text object "amount").getD "0" = offer.amount
        ∧ text object "destination" = offer.destination := by
  constructor
  · intro h
    obtain ⟨offerIndex, hindex, hrest⟩ := Option.bind_eq_some_iff.mp h
    obtain ⟨owner, howner, hfields⟩ := Option.bind_eq_some_iff.mp hrest
    obtain ⟨amount, hamount, hoffer⟩ := Option.bind_eq_some_iff.mp hfields
    obtain rfl := Option.some.inj hoffer
    exact ⟨hindex, text_eq_some_iff.mp howner, Option.ne_none_iff_exists'.mpr ⟨_, hamount⟩, rfl,
      by rw [text, hamount, Option.bind_some], rfl⟩
  · obtain ⟨offerIndex, owner, nftTokenId, amount, destination⟩ := offer
    rintro ⟨hindex, howner, hpresent, rfl, rfl, rfl⟩
    obtain ⟨amount, hamount⟩ := Option.ne_none_iff_exists'.mp hpresent
    refine Option.bind_eq_some_iff.mpr ⟨_, hindex, Option.bind_eq_some_iff.mpr
      ⟨_, text_eq_some_iff.mpr howner, Option.bind_eq_some_iff.mpr ⟨_, hamount, ?_⟩⟩⟩
    rw [text, hamount, Option.bind_some]

/-- An object is read and compared well if and only if it is accepted. -/
lemma read_iff : (∃ offer, l.read w object = some offer ∧ w.compares offer = true
    ∧ offer.offerIndex = i) ↔ Accepted l w object i := by
  simp only [compares_iff]
  cases l with
  | AccountObjects =>
      constructor
      · rintro ⟨offer, hread, ⟨howner, hamount, ⟨d, hd, hdestination⟩, htoken⟩, rfl⟩
        obtain ⟨hentry, hindex, hname, hid, hdrops, hto⟩ := readAccountOffer_eq_some_iff.mp hread
        exact ⟨hindex, fun _ => hentry,
          fun _ id h => htoken id (hid.symm.trans (text_eq_some_iff.mpr h)), ⟨_, hname, howner⟩,
          ⟨d, text_eq_some_iff.mp (hto.trans hd), hdestination⟩, (fun h => nomatch h),
          hdrops.trans hamount⟩
      · intro h
        obtain ⟨owner, hname, howner⟩ := h.owner
        obtain ⟨d, hd, hdestination⟩ := h.destination
        refine ⟨⟨i, owner, text object "NFTokenID", (text object "Amount").getD "0",
          text object "Destination"⟩, readAccountOffer_eq_some_iff.mpr
            ⟨h.entry rfl, h.index, hname, rfl, rfl, rfl⟩, ⟨howner, h.amount,
              ⟨d, text_eq_some_iff.mpr hd, hdestination⟩, fun id hid => ?_⟩, rfl⟩
        exact h.token rfl id (text_eq_some_iff.mp hid)
  | SellOffers =>
      constructor
      · rintro ⟨offer, hread, ⟨howner, hamount, ⟨d, hd, hdestination⟩, -⟩, rfl⟩
        obtain ⟨hindex, hname, hpresent, -, hdrops, hto⟩ := readSellOffer_eq_some_iff.mp hread
        exact ⟨hindex, (fun h => nomatch h), (fun h => nomatch h), ⟨_, hname, howner⟩,
          ⟨d, text_eq_some_iff.mp (hto.trans hd), hdestination⟩, fun _ => hpresent,
          hdrops.trans hamount⟩
      · intro h
        obtain ⟨owner, hname, howner⟩ := h.owner
        obtain ⟨d, hd, hdestination⟩ := h.destination
        refine ⟨⟨i, owner, some w.nftTokenId, (text object "amount").getD "0",
          text object "destination"⟩, readSellOffer_eq_some_iff.mpr
            ⟨h.index, hname, h.present rfl, rfl, rfl, rfl⟩, ⟨howner, h.amount,
              ⟨d, text_eq_some_iff.mpr hd, hdestination⟩, fun id hid => ?_⟩, rfl⟩
        rw [← Option.some.inj hid]
        exact Text.eqIgnoreAsciiCase_self _

lemma found_eq_none_iff :
    l.found w result = none ↔ ∀ o ∈ l.objects result, ∀ i, ¬Accepted l w o i := by
  rw [found_eq, Option.map_eq_none_iff, List.find?_eq_none]
  constructor
  · intro h o ho i haccepted
    obtain ⟨offer, hread, hcompares, -⟩ := read_iff.mpr haccepted
    exact h offer (List.mem_filterMap.mpr ⟨o, ho, hread⟩) hcompares
  · intro h offer hoffer hcompares
    obtain ⟨o, ho, hread⟩ := List.mem_filterMap.mp hoffer
    exact h o ho offer.offerIndex (read_iff.mp ⟨offer, hread, hcompares, rfl⟩)

lemma found_eq_some_iff :
    l.found w result = some i ↔ FirstAccepted l w (l.objects result) i := by
  rw [found_eq, List.find?_filterMap, Option.map_eq_some_iff]
  constructor
  · rintro ⟨offer, hoffer, rfl⟩
    obtain ⟨object, hfind, hread⟩ := Option.bind_eq_some_iff.mp hoffer
    obtain ⟨hany, before, after, hobjects, hbefore⟩ := List.find?_eq_some_iff_append.mp hfind
    rw [hread, Option.any_some] at hany
    refine ⟨before, object, after, hobjects, read_iff.mp ⟨offer, hread, hany, rfl⟩,
      fun o ho i haccepted => ?_⟩
    obtain ⟨offer', hread', hcompares, -⟩ := read_iff.mpr haccepted
    simpa [hread', hcompares] using hbefore o ho
  · rintro ⟨before, object, after, hobjects, haccepted, hbefore⟩
    obtain ⟨offer, hread, hcompares, hindex⟩ := read_iff.mpr haccepted
    refine ⟨offer, Option.bind_eq_some_iff.mpr ⟨object, List.find?_eq_some_iff_append.mpr
      ⟨by rw [hread, Option.any_some, hcompares], before, after, hobjects, fun o ho => ?_⟩,
      hread⟩, hindex⟩
    rw [Bool.not_eq_true', ← Bool.not_eq_true, Option.any_eq_true]
    rintro ⟨offer', hread', hcompares'⟩
    exact hbefore o ho _ (read_iff.mp ⟨offer', hread', hcompares', rfl⟩)

/-- **What is found is exact if and only if** the first object that is accepted, or another one with
its index, has what is not compared: whether it sells, and the exact letters. Nothing that is exact
is overlooked. -/
theorem matchesExactly_iff (l : Listing) (w : Wanted) (result : Json) : MatchesExactly l w result
    ↔ ∀ i, FirstAccepted l w (l.objects result) i →
      ∃ object ∈ l.objects result, Accepted l w object i ∧ Careful l w object := by
  constructor
  · intro h i hfirst
    obtain ⟨object, hobject, hexact⟩ := h.sound i (found_eq_some_iff.mpr hfirst)
    exact ⟨object, hobject, exact_iff.mp hexact⟩
  · refine fun h => ⟨fun i hi => ?_, fun hnone object hobject i hexact => ?_⟩
    · obtain ⟨object, hobject, hboth⟩ := h i (found_eq_some_iff.mp hi)
      exact ⟨object, hobject, exact_iff.mpr hboth⟩
    · exact found_eq_none_iff.mp hnone object hobject i (exact_iff.mp hexact).1

end

namespace Sample

/-- An offer to buy, for what an issuer calls a dollar. -/
def buyOffer : Json :=
  .Obj [("LedgerEntryType", .Str "NFTokenOffer"), ("index", .Str "ABCDEF1234"),
    ("Flags", .Num (.Nat 0)), ("Owner", .Str "rSender"), ("NFTokenID", .Str "00080000"),
    ("Destination", .Str "rRecipient"),
    ("Amount", .Obj [("currency", .Str "USD"), ("issuer", .Str "rIssuer"), ("value", .Str "1")])]

/-- **An offer to buy is taken for an offer to sell**, and a price in dollars for none. -/
theorem not_matchesExactly : ¬∀ l w result, MatchesExactly l w result := by
  intro h
  have hmatches := h .AccountObjects ⟨"rSender", "00080000", "rRecipient", "0"⟩
    (.Obj [("account_objects", .Arr [buyOffer])])
  obtain ⟨object, hobject, hexact⟩ := hmatches.sound "ABCDEF1234" (by decide)
  obtain rfl := List.mem_singleton.mp hobject
  obtain ⟨flags, hflags, n, rfl, hn⟩ := hexact.sells
  cases hflags
  exact absurd hn (by decide)

end Sample

end Vaulted.XrplClient
