import Vaulted.Transfer.HonestRequest
import Vaulted.Transfer.System

/-!
# Chains of transfers

Every transfer re-encrypts the *stored* value of the file key.  The first one finds the capsule
that the first owner's client made; the later ones find a `ReEncryptedData`, read its capsule,
which is still the first owner's, and re-encrypt that with a fragment of a later owner.  The
fragment does not fit, and the recipient cannot open the result.

* `Hop` — one sale: an honest client's request, its confirmation and the claim.
* `StaysReadable` — the calls of all hops succeed, and after each hop the new owner's client
  recovers the file key.
* `staysReadable_iff` — along honest chains that is so exactly when all senders have the PRE
  key of the first owner.  The calls succeed in any case (`hop_run`).
-/

namespace Vaulted.Transfers

/-! ## Chains -/

/-- A user and the PRE key pair on the user's machine. -/
structure Owner (u : Umbral) where
  user : User
  keys : Pre.PreKeyPair u

/-- One sale of an NFT by its owner. -/
structure Hop (u : Umbral) where
  recipient : Owner u
  env : Env
  /-- The randomness of the client that makes the re-encryption key. -/
  reKeyRng : Nat
  seller : AuthenticatedUser
  buyer : AuthenticatedUser
  offerIndex : String
  xrplTxHash : String

variable {u : Umbral} (codec : TextCodec) (token : String)

namespace Hop

def initiate (sender : Owner u) (h : Hop u) : InitiateTransferRequest where
  nftTokenId := token
  fromAddress := sender.user.walletAddress
  toAddress := h.recipient.user.walletAddress
  reEncryptionKey := Pre.reKeyToBase64Verified codec
    (Pre.generateReKey h.reKeyRng sender.keys h.recipient.keys.publicKey) sender.keys

def confirm (h : Hop u) : ConfirmOfferSignedRequest where
  transferId := h.env.uuid 0
  offerIndex := h.offerIndex

def complete (h : Hop u) : CompleteTransferRequest where
  transferId := h.env.uuid 0
  xrplTxHash := h.xrplTxHash

/-- The database after the request, after the confirmation, and after the claim. -/
def afterInitiate (sender : Owner u) (h : Hop u) (db : Db) : Db :=
  step u codec db (.Initiate h.env h.seller (h.initiate codec token sender))

def afterConfirm (sender : Owner u) (h : Hop u) (db : Db) : Db :=
  step u codec (h.afterInitiate codec token sender db) (.Confirm h.seller h.confirm)

def after (sender : Owner u) (h : Hop u) (db : Db) : Db :=
  step u codec (h.afterConfirm codec token sender db) (.Complete h.buyer h.complete)

/-- All three calls succeed. -/
def Succeeds (sender : Owner u) (h : Hop u) (db : Db) : Prop :=
  (∃ answer, (initiateTransfer u codec h.env h.seller (h.initiate codec token sender) db).1
      = .ok answer)
    ∧ (∃ answer, (confirmOfferSigned h.seller h.confirm (h.afterInitiate codec token sender db)).1
      = .ok answer)
    ∧ ∃ answer, (completeTransfer h.buyer h.complete (h.afterConfirm codec token sender db)).1
      = .ok answer

end Hop

/-- The owner's client opens the stored file key. -/
def Recovers (db : Db) (nft : Uuid) (owner : Owner u) (fileKey : List UInt8) : Prop :=
  ∃ row, db.nftMetadata.get? nft = some row
    ∧ Pre.unwrapFileKey codec owner.keys row.encryptedAesKey row.isReEncrypted = .ok fileKey

/-- Every hop succeeds, and leaves a file key that its recipient can open: the one of the first
owner, whoever has had it in between. -/
def StaysReadable (nft : Uuid) (fileKey : List UInt8) : Db → Owner u → List (Hop u) → Prop
  | _, _, [] => True
  | db, sender, h :: hops =>
      h.Succeeds codec token sender db
        ∧ Recovers codec (h.after codec token sender db) nft h.recipient fileKey
        ∧ StaysReadable nft fileKey (h.after codec token sender db) h.recipient hops

/-- A user of the Oracle, with the user's PRE key on record. -/
structure Registered (db : Db) (o : Owner u) : Prop where
  user : db.userOf o.user.walletAddress = some o.user
  address : Text.startsWith o.user.walletAddress "r" = true
  key : Text.hexDecode o.user.prePublicKey = .ok (u.publicKeyToBytes o.keys.publicKey)

/-- A sale that is called as the protocol has it: by the seller and the buyer, under an identifier
of its own, with values that fit their columns. Nobody is assumed to be honest beyond that. -/
structure Hop.Honest (db : Db) (sender : Owner u) (h : Hop u) : Prop where
  seller : Text.eqIgnoreAsciiCase h.seller.walletAddress sender.user.walletAddress = true
  buyer : Text.eqIgnoreAsciiCase h.buyer.walletAddress h.recipient.user.walletAddress = true
  registered : Registered db h.recipient
  identifier : db.transferRequests.get? (h.env.uuid 0) = none
  offerIndex : h.offerIndex.toList.length ≤ 64
  xrplTxHash : h.xrplTxHash.toList.length ≤ 64

/-- A chain of such sales, each at the state that the previous one leaves. -/
def HonestChain : Db → Owner u → List (Hop u) → Prop
  | _, _, [] => True
  | db, sender, h :: hops =>
      h.Honest db sender ∧ HonestChain (h.after codec token sender db) h.recipient hops

/-! ## What a recipient can open -/

/-- The Oracle's answer to an honest request opens exactly if the sender has the key that the
capsule was made for. -/
lemma unwrapFileKey_iff (hu : u.Ideal) (hc : codec.Lawful) {rng : Nat} {pk : u.PublicKey}
    {fileKey ct : List UInt8} {c : u.Capsule} (henc : u.encrypt rng pk fileKey = .ok (c, ct))
    {sender recipient : Pre.PreKeyPair u} {k : u.KeyFrag} (hk : HonestFrag sender recipient k)
    (rng' : Nat) :
    Pre.unwrapFileKey codec recipient ((reEncryptedFor rng' ⟨u.capsuleToBytes c, ct⟩ c k
        sender).toBase64 codec) true = .ok fileKey ↔ sender.publicKey = pk := by
  obtain ⟨rngk, hk⟩ := hk
  have hverify := hu.cfrag_verifies rngk sender.secretKey recipient.secretKey sender.signer k hk
    rng' c
  have hunwrap : Pre.unwrapFileKey codec recipient ((reEncryptedFor rng' ⟨u.capsuleToBytes c, ct⟩ c
        k sender).toBase64 codec) true
      = Pre.mapErr (fun e => .PreDecryption ("Re-decryption failed: " ++ e))
        (u.decryptReencrypted recipient.secretKey sender.publicKey c [u.reencrypt rng' c k] ct) := by
    simp only [Pre.unwrapFileKey, Pre.ReEncryptedData.fromBase64_toBase64 hc,
      Pre.decryptReencryptedData, reEncryptedFor, Pre.prePublicKeyFromBytes, hu.capsule_bytes,
      hu.capsuleFrag_bytes, hu.publicKey_bytes, Pre.PreKeyPair.exportVerifyingKeyBytes,
      Pre.PreKeyPair.publicKey, hverify, Pre.mapErr_ok, bind, Except.bind, if_true]
  rw [hunwrap]
  constructor
  · intro hopen
    by_contra hne
    cases hdec : u.decryptReencrypted recipient.secretKey sender.publicKey c
        [u.reencrypt rng' c k] ct with
    | error e => rw [hdec] at hopen; cases hopen
    | ok m' => exact hu.opens_only rng pk fileKey c ct henc rngk _ _ _ k hk (Ne.symm hne) rng' m' hdec
  · rintro rfl
    have hopens := hu.opens rng sender.secretKey fileKey c ct henc rngk recipient.secretKey
      sender.signer k hk rng'
    rw [Pre.PreKeyPair.publicKey, hopens, Pre.mapErr_ok]

/-! ## One hop -/

/-- The NFT is active, an owner's, and its stored key reads as `enc`. -/
structure Held (db : Db) (nft : Uuid) (o : Owner u) (enc : Pre.EncryptedPreData)
    (row : NftMetadata) : Prop where
  found : db.nftMetadata.get? nft = some row
  token : row.nftTokenId = token
  active : row.status.val = .Active
  owner : row.ownerId = o.user.id
  key : Pre.EncryptedPreData.fromBase64 codec row.encryptedAesKey = .ok enc

lemma Registered.walletOf {db : Db} {o : Owner u} (h : Registered db o) :
    db.walletOf o.user.id = some o.user.walletAddress := by
  rw [Db.walletOf, Indexed.find?_of_get? h.user, Option.map_some]

/-- A later state has the same users. -/
lemma Registered.of_users {db db' : Db} {o : Owner u} (h : Registered db o)
    (husers : db'.users = db.users) : Registered db' o where
  user := by rw [Db.userOf, husers]; exact h.user
  address := h.address
  key := h.key

/-- The request of an honest hop is an honest request. -/
lemma Hop.Honest.request {db : Db} {sender : Owner u} {h : Hop u} (hh : h.Honest db sender)
    (hsender : Registered db sender) {nft : Uuid} {enc : Pre.EncryptedPreData} {row : NftMetadata}
    (hheld : Held codec token db nft sender enc row) {k : u.KeyFrag}
    (hk : Pre.generateReKey h.reKeyRng sender.keys h.recipient.keys.publicKey = [k]) :
    HonestRequest u codec h.seller (h.initiate codec token sender) db row h.recipient.user
      sender.keys h.recipient.keys k where
  caller := hh.seller
  addresses := ⟨hsender.address, hh.registered.address⟩
  active := by
    have hfind : db.nftMetadata.find? token = some row := by
      rw [← hheld.token]
      exact Indexed.find?_of_get? hheld.found
    have howner : db.walletOf row.ownerId = some sender.user.walletAddress := by
      rw [hheld.owner, hsender.walletOf]
    rw [activeNft, Hop.initiate, hfind, Option.filter_eq_some_iff]
    simp [hheld.active, howner]
  owner := ⟨sender.user.walletAddress, by rw [hheld.owner, hsender.walletOf],
    Text.eqIgnoreAsciiCase_self _⟩
  registered := hh.registered.user
  recipientKey := hh.registered.key
  frag := ⟨h.reKeyRng, hk⟩
  reKey := by rw [Hop.initiate, hk]

/-- What the request leaves: the row of the transfer, and everything else as it was. -/
lemma Hop.Honest.initiate_run (hu : u.Ideal) (hc : codec.Lawful) {db : Db} {sender : Owner u}
    {h : Hop u} (hh : h.Honest db sender) (hsender : Registered db sender) {nft : Uuid}
    {enc : Pre.EncryptedPreData} {row : NftMetadata}
    (hheld : Held codec token db nft sender enc row) {c : u.Capsule}
    (hcap : enc.getCapsule u = .ok c) :
    ∃ k answer db₁, HonestFrag sender.keys h.recipient.keys k
      ∧ initiateTransfer u codec h.env h.seller (h.initiate codec token sender) db
        = (.ok answer, db₁)
      ∧ db₁.users = db.users ∧ db₁.nftMetadata = db.nftMetadata
      ∧ db₁.transferRequests.get? h.confirm.transferId
        = some (pendingTransfer h.env row h.recipient.user.id
          ((reEncryptedFor h.env.rng enc c k sender.keys).toBase64 codec)) := by
  obtain ⟨k, hk⟩ := hu.kfrags_single h.reKeyRng sender.keys.secretKey h.recipient.keys.publicKey
    sender.keys.signer
  have hnew : db.transferRequests.get? (pendingTransfer h.env row h.recipient.user.id
      ((reEncryptedFor h.env.rng enc c k sender.keys).toBase64 codec)).id = none := hh.identifier
  obtain ⟨ts, hts⟩ := Table.insert?_of_none hnew
  refine ⟨k, _, { db with transferRequests := ts }, ⟨h.reKeyRng, hk⟩,
    initiateTransfer_honest hu hc (hh.request codec token hsender hheld hk) hheld.key hcap ?_,
    rfl, rfl, ?_⟩
  · rw [insertTransfer, hts]
  · show ts.get? _ = _
    rw [Table.get?_insert hts]
    exact if_pos rfl

/-- **An honest hop succeeds** and hands the NFT over, with the re-encrypted key. -/
theorem hop_run (hu : u.Ideal) (hc : codec.Lawful) {db : Db} {sender : Owner u} {h : Hop u}
    (hh : h.Honest db sender) (hsender : Registered db sender) {nft : Uuid}
    {enc : Pre.EncryptedPreData} {row : NftMetadata}
    (hheld : Held codec token db nft sender enc row) {c : u.Capsule}
    (hcap : enc.getCapsule u = .ok c) :
    h.Succeeds codec token sender db ∧ (h.after codec token sender db).users = db.users
      ∧ ∃ k, HonestFrag sender.keys h.recipient.keys k
        ∧ (h.after codec token sender db).nftMetadata.get? nft = some
          { row with
            ownerId := h.recipient.user.id
            encryptedAesKey := (reEncryptedFor h.env.rng enc c k sender.keys).toBase64 codec
            isReEncrypted := true
            status := NftStatus.active } := by
  obtain ⟨k, initiated, db₁, hk, hinit, husers₁, hnfts₁, ht⟩ :=
    hh.initiate_run codec token hu hc hsender hheld hcap
  have hseller : db₁.walletOf row.ownerId = some sender.user.walletAddress := by
    rw [hheld.owner, (hsender.of_users husers₁).walletOf]
  have hbuyer := (hh.registered.of_users husers₁).walletOf
  have hid : h.complete.transferId = h.confirm.transferId := rfl
  obtain ⟨confirmed, db₂, completed, db₃, hconf, hcomp, husers₃, hrow₃⟩ :=
    sale_honest ht hid rfl rfl hseller hh.seller hbuyer hh.buyer hh.offerIndex hh.xrplTxHash
  have hdb₁ : h.afterInitiate codec token sender db = db₁ := step_initiate hinit
  have hdb₂ : h.afterConfirm codec token sender db = db₂ := by
    rw [Hop.afterConfirm, hdb₁]
    exact congrArg Prod.snd hconf
  have hdb₃ : h.after codec token sender db = db₃ := by
    rw [Hop.after, hdb₂]
    exact congrArg Prod.snd hcomp
  refine ⟨⟨⟨initiated, congrArg Prod.fst hinit⟩, ⟨confirmed, ?_⟩, ⟨completed, ?_⟩⟩, ?_, k, hk, ?_⟩
  · rw [hdb₁]; exact congrArg Prod.fst hconf
  · rw [hdb₂]; exact congrArg Prod.fst hcomp
  · rw [hdb₃, husers₃, husers₁]
  · have hnft : row.id = nft := Indexed.key_of_get? hheld.found
    have hfound : db₁.nftMetadata.get? row.id = some row := by rw [hnfts₁, hnft, hheld.found]
    rw [hdb₃, ← hnft]
    exact hrow₃.trans (congrArg (Option.map _) hfound)

variable {codec token} in
/-- A hop takes up one identifier. -/
lemma Hop.after_identifier {sender : Owner u} {h : Hop u} {db : Db} {j : Uuid}
    (hj : h.env.uuid 0 ≠ j) (hnew : db.transferRequests.get? j = none) :
    (h.after codec token sender db).transferRequests.get? j = none := by
  have hterms : db.termsOf j = none := by rw [Db.termsOf, hnew]; rfl
  have hafter : (h.after codec token sender db).termsOf j = none := by
    refine termsOf_step_eq_none u codec ?_ (by rintro _ _ _ ⟨⟩)
    refine termsOf_step_eq_none u codec ?_ (by rintro _ _ _ ⟨⟩)
    refine termsOf_step_eq_none u codec hterms ?_
    rintro env auth request heq
    obtain ⟨rfl, -⟩ := Step.Initiate.inj heq
    exact hj
  exact Option.map_eq_none_iff.mp hafter

/-! ## Chains of hops -/

/-- The owners who have sold the NFT at the end of a chain. -/
def senders (first : Owner u) (hops : List (Hop u)) : List (Owner u) :=
  (first :: hops.map Hop.recipient).dropLast

lemma staysReadable_iff_of_key (hu : u.Ideal) (hc : codec.Lawful) {rng : Nat} {pk : u.PublicKey}
    {fileKey ct : List UInt8} {c : u.Capsule} (henc : u.encrypt rng pk fileKey = .ok (c, ct))
    {nft : Uuid} {hops : List (Hop u)} :
    ∀ {db : Db} {sender : Owner u} {row : NftMetadata}, Registered db sender →
      Held codec token db nft sender ⟨u.capsuleToBytes c, ct⟩ row →
      HonestChain codec token db sender hops →
      (StaysReadable codec token nft fileKey db sender hops
        ↔ ∀ o ∈ senders sender hops, o.keys.publicKey = pk) := by
  induction hops with
  | nil => intro db sender row _ _ _; simp [StaysReadable, senders]
  | cons h hops ih =>
      rintro db sender row hsender hheld ⟨hh, hchain⟩
      have hcap : (Pre.EncryptedPreData.mk (u.capsuleToBytes c) ct).getCapsule u = .ok c := by
        rw [Pre.EncryptedPreData.getCapsule, hu.capsule_bytes, Pre.mapErr_ok]
      obtain ⟨hsucceeds, husers, k, hk, hrow⟩ := hop_run codec token hu hc hh hsender hheld hcap
      -- the stored key still reads as the first owner's capsule
      have hheld' := Held.mk hrow hheld.token rfl rfl
        (Pre.encryptedPreData_of_reEncrypted hc
          (reEncryptedFor h.env.rng ⟨u.capsuleToBytes c, ct⟩ c k sender.keys))
      have hrecovers : Recovers codec (h.after codec token sender db) nft h.recipient fileKey
          ↔ sender.keys.publicKey = pk := by
        rw [← unwrapFileKey_iff codec hu hc henc hk h.env.rng]
        constructor
        · rintro ⟨row', hrow', hopen⟩
          rw [Option.some.inj (hrow'.symm.trans hrow)] at hopen
          exact hopen
        · exact fun hopen => ⟨_, hrow, hopen⟩
      have hrest := ih (hh.registered.of_users husers) hheld' hchain
      have hsenders : senders sender (h :: hops) = sender :: senders h.recipient hops := rfl
      rw [StaysReadable, hrecovers, hrest, hsenders, List.forall_mem_cons]
      exact and_iff_right hsucceeds

/-- **An honest chain stays readable exactly if every sender has the first owner's PRE key.** The
key that is stored after a sale still has the capsule of the first owner, and the next sale
re-encrypts that one with a key of the new sender. Every call succeeds all the same; it is the
recipient's client that cannot open what it gets. -/
theorem staysReadable_iff (hu : u.Ideal) (hc : codec.Lawful) {db : Db} {first : Owner u}
    {hops : List (Hop u)} {rng : Nat} {fileKey : List UInt8} {enc : Pre.EncryptedPreData}
    {nft : Uuid} {row : NftMetadata} (hfirst : Registered db first)
    (henc : Pre.encrypt u rng first.keys.publicKey fileKey = .ok enc)
    (hheld : Held codec token db nft first enc row) (hchain : HonestChain codec token db first hops) :
    StaysReadable codec token nft fileKey db first hops
      ↔ ∀ o ∈ senders first hops, o.keys.publicKey = first.keys.publicKey := by
  cases hraw : u.encrypt rng first.keys.publicKey fileKey with
  | error e => rw [Pre.encrypt, hraw] at henc; cases henc
  | ok p =>
      obtain ⟨c, ct⟩ := p
      rw [Pre.encrypt, hraw] at henc
      cases henc
      exact staysReadable_iff_of_key codec token hu hc hraw hfirst hheld hchain

/-! ## Two hops -/

section Sample

open Sample

/-- The `n`-th user's client. -/
def owner (n : UInt8) (w : String) : Owner Umbral.symbolic := ⟨Sample.user n w, Sample.keys n⟩

/-- A sale to the `n`-th user. -/
def hop (id : String) (sender : String) (n : UInt8) (w : String) : Hop Umbral.symbolic where
  recipient := owner n w
  env := Sample.env ⟨id⟩
  reKeyRng := 0
  seller := caller (owner 0 sender).user
  buyer := caller (owner n w).user
  offerIndex := "01"
  xrplTxHash := "0A"

lemma registered_of_userOf {n : UInt8} {w : String} {db : Db}
    (hw : db.userOf w = some (user n w)) (hr : Text.startsWith w "r" = true) :
    Registered db (owner n w) where
  user := hw
  address := hr
  key := Text.hexDecode_hexEncode _

lemma held_nft : Held JsonText.compact tokenId (db [] List.nodup_nil) ⟨"nft"⟩
    (owner 1 "rAlice") fileKey nft where
  found := rfl
  token := rfl
  active := rfl
  owner := rfl
  key := Pre.EncryptedPreData.fromBase64_toBase64 JsonText.compact_lawful fileKey

/-- Alice sells to Bob. -/
def firstHop : Hop Umbral.symbolic := hop "t1" "rAlice" 2 "rBob"

/-- Bob sells on to Carol. -/
def secondHop : Hop Umbral.symbolic := hop "t2" "rBob" 3 "rCarol"

lemma firstHop_honest : firstHop.Honest (db [] List.nodup_nil) (owner 1 "rAlice") where
  seller := Text.eqIgnoreAsciiCase_self _
  buyer := Text.eqIgnoreAsciiCase_self _
  registered := registered_of_userOf rfl (by decide)
  identifier := rfl
  offerIndex := by decide
  xrplTxHash := by decide

/-- The chain that sells the NFT on is honest, ends with an owner who has never had the file
key, and no call of it fails. -/
theorem soldOn_not_readable :
    HonestChain JsonText.compact tokenId (db [] List.nodup_nil) (owner 1 "rAlice")
        [firstHop, secondHop]
      ∧ Held JsonText.compact tokenId (db [] List.nodup_nil) ⟨"nft"⟩ (owner 1 "rAlice") fileKey nft
      ∧ Pre.encrypt Umbral.symbolic 0 (owner 1 "rAlice").keys.publicKey [7] = .ok fileKey
      ∧ ¬ StaysReadable JsonText.compact tokenId ⟨"nft"⟩ [7] (db [] List.nodup_nil)
        (owner 1 "rAlice") [firstHop, secondHop] := by
  have halice : Registered (db [] List.nodup_nil) (owner 1 "rAlice") :=
    registered_of_userOf rfl (by decide)
  have hcarol : Registered (db [] List.nodup_nil) (owner 3 "rCarol") :=
    registered_of_userOf rfl (by decide)
  obtain ⟨-, husers, -⟩ := hop_run _ _ symbolic_ideal JsonText.compact_lawful firstHop_honest
    halice held_nft rfl
  have hchain : HonestChain JsonText.compact tokenId (db [] List.nodup_nil)
      (owner 1 "rAlice") [firstHop, secondHop] :=
    ⟨firstHop_honest,
      { seller := Text.eqIgnoreAsciiCase_self _
        buyer := Text.eqIgnoreAsciiCase_self _
        registered := hcarol.of_users husers
        identifier := Hop.after_identifier (by decide) rfl
        offerIndex := by decide
        xrplTxHash := by decide }, True.intro⟩
  refine ⟨hchain, held_nft, rfl, fun hreadable => ?_⟩
  have henc : Umbral.symbolic.encrypt 0 (1 : UInt8) [7] = .ok ((1 : UInt8), [7]) := rfl
  have hkeys := (staysReadable_iff_of_key _ _ symbolic_ideal JsonText.compact_lawful henc halice
    held_nft hchain).mp hreadable
  have hbob : ((2 : UInt8) : Umbral.symbolic.PublicKey) = (1 : UInt8) :=
    hkeys (owner 2 "rBob") (by simp [senders, firstHop, hop])
  exact absurd hbob (by decide)

/-- One sale can be read. -/
theorem sold_readable : StaysReadable JsonText.compact tokenId ⟨"nft"⟩ [7]
    (db [] List.nodup_nil) (owner 1 "rAlice") [firstHop] := by
  have halice : Registered (db [] List.nodup_nil) (owner 1 "rAlice") :=
    registered_of_userOf rfl (by decide)
  have henc : Pre.encrypt Umbral.symbolic 0 (owner 1 "rAlice").keys.publicKey [7] = .ok fileKey :=
    rfl
  have hchain : HonestChain JsonText.compact tokenId (db [] List.nodup_nil) (owner 1 "rAlice")
      [firstHop] := ⟨firstHop_honest, True.intro⟩
  have hsenders : senders (owner 1 "rAlice") [firstHop] = [owner 1 "rAlice"] := rfl
  refine (staysReadable_iff _ _ symbolic_ideal JsonText.compact_lawful halice henc held_nft
    hchain).mpr fun o ho => ?_
  rw [hsenders, List.mem_singleton] at ho
  rw [ho]

end Sample

end Vaulted.Transfers
