import Vaulted.Transfer.ReKeyCodec

/-!
# Requests of an honest client

The client makes the re-encryption key of a transfer from its own key pair and the public key
that the recipient registered.  Under an ideal Umbral the Oracle reads that key back exactly
(`deserializeReKey_honest`), re-encrypts with it (`performReencryption_honest`), and accepts
the request (`initiateTransfer_honest`).
-/

namespace Vaulted.Transfers

open Autocommit.Prog

variable {u : Umbral} {codec : TextCodec}

/-- What the Oracle reads from a re-encryption key with one fragment. -/
def honestReKeyData (k : u.KeyFrag) (sender : Pre.PreKeyPair u) : ReKeyData where
  kfrags := [u.keyFragToBytes k]
  senderPk := u.publicKeyToBytes sender.publicKey
  senderVerifyingKey := some sender.exportVerifyingKeyBytes

lemma deserializeReKey_honest (hc : codec.Lawful) (k : u.KeyFrag) (sender : Pre.PreKeyPair u) :
    deserializeReKey codec (Pre.reKeyToBase64Verified codec [k] sender)
      = .ok (honestReKeyData k sender) :=
  deserializeReKey_serialized hc [k] sender

/-- The fragment that an honest sender made for a recipient. -/
def HonestFrag (sender recipient : Pre.PreKeyPair u) (k : u.KeyFrag) : Prop :=
  ∃ rng, Pre.generateReKey rng sender recipient.publicKey = [k]

/-- What a transfer stores for the recipient. -/
def reEncryptedFor (rng : Nat) (enc : Pre.EncryptedPreData) (c : u.Capsule) (k : u.KeyFrag)
    (sender : Pre.PreKeyPair u) : Pre.ReEncryptedData where
  capsule := enc.capsule
  cfrag := u.capsuleFragToBytes (u.reencrypt rng c k)
  ciphertext := enc.ciphertext
  senderPublicKey := u.publicKeyToBytes sender.publicKey
  senderVerifyingKey := some sender.exportVerifyingKeyBytes

lemma performReencryption_honest (hu : u.Ideal) {sender recipient : Pre.PreKeyPair u}
    {k : u.KeyFrag} (hk : HonestFrag sender recipient k) (rng : Nat) {enc : Pre.EncryptedPreData}
    {c : u.Capsule} (hcap : enc.getCapsule u = .ok c) :
    performReencryption u rng enc (honestReKeyData k sender)
        (some (u.publicKeyToBytes recipient.publicKey))
      = .ok (reEncryptedFor rng enc c k sender) := by
  obtain ⟨rng', hk⟩ := hk
  have hverify := hu.kfrag_verifies rng' sender.secretKey recipient.publicKey sender.signer k hk
  simp only [performReencryption, honestReKeyData, Pre.prePublicKeyFromBytes, hu.publicKey_bytes,
    Pre.PreKeyPair.exportVerifyingKeyBytes, Option.elim_some, List.head?_cons, hu.keyFrag_bytes,
    Pre.mapErr_ok, Except.map, bind, Except.bind, Pre.PreKeyPair.publicKey] at hverify ⊢
  rw [hverify]
  simp [Pre.performReencryptionWithKfrag, hcap, bind, Except.bind, reEncryptedFor,
    Pre.PreKeyPair.publicKey, Pre.PreKeyPair.exportVerifyingKeyBytes]

/-- An honest request for the transfer of an NFT between two registered users. -/
structure HonestRequest (u : Umbral) (codec : TextCodec) (auth : AuthenticatedUser)
    (request : InitiateTransferRequest) (db : Db) (nft : NftMetadata) (toUser : User)
    (sender recipient : Pre.PreKeyPair u) (k : u.KeyFrag) : Prop where
  caller : Text.eqIgnoreAsciiCase auth.walletAddress request.fromAddress = true
  addresses : Text.startsWith request.fromAddress "r" = true
    ∧ Text.startsWith request.toAddress "r" = true
  active : activeNft request.nftTokenId db = some nft
  owner : ∃ w, db.walletOf nft.ownerId = some w
    ∧ Text.eqIgnoreAsciiCase w request.fromAddress = true
  registered : db.userOf request.toAddress = some toUser
  recipientKey : Text.hexDecode toUser.prePublicKey = .ok (u.publicKeyToBytes recipient.publicKey)
  frag : HonestFrag sender recipient k
  reKey : request.reEncryptionKey = Pre.reKeyToBase64Verified codec [k] sender

/-- **An honest request is accepted**, whatever the state of the NFT's key, as long as that
reads as a capsule and a ciphertext; only the new row's identifier could be taken. -/
theorem initiateTransfer_honest (hu : u.Ideal) (hc : codec.Lawful) {env : Env}
    {auth : AuthenticatedUser} {request : InitiateTransferRequest} {db db' : Db}
    {nft : NftMetadata} {toUser : User} {sender recipient : Pre.PreKeyPair u} {k : u.KeyFrag}
    (h : HonestRequest u codec auth request db nft toUser sender recipient k)
    {enc : Pre.EncryptedPreData} {c : u.Capsule}
    (henc : Pre.EncryptedPreData.fromBase64 codec nft.encryptedAesKey = .ok enc)
    (hcap : enc.getCapsule u = .ok c)
    (hinsert : insertTransfer (pendingTransfer env nft toUser.id
      ((reEncryptedFor env.rng enc c k sender).toBase64 codec)) db = .ok db') :
    initiateTransfer u codec env auth request db
      = (.ok { transferId := env.uuid 0, status := .Pending }, db') := by
  obtain ⟨w, hw, hown⟩ := h.owner
  have hkey : Text.isEmpty request.reEncryptionKey = false := by
    rw [h.reKey]
    exact hc.nonempty _ (plain_serialized [k] sender)
  have hread := deserializeReKey_honest hc k sender
  have hperform := performReencryption_honest hu h.frag env.rng hcap
  rw [initiateTransfer, run_require h.caller, run_require (by simp [h.addresses]),
    run_require (by simp [hkey]), run_read, run_expect h.active, run_read, run_expect hw,
    run_require hown, run_read, run_expect h.registered, run_lift (by rw [h.recipientKey]; rfl),
    run_lift (by rw [henc]; rfl), run_lift (by rw [h.reKey, hread]; rfl),
    run_lift (by rw [hperform]; rfl), run_write hinsert, run_pure]

/-- A signed offer is recorded. -/
theorem confirmOfferSigned_honest {auth : AuthenticatedUser} {request : ConfirmOfferSignedRequest}
    {db : Db} {t : TransferRequest} {sender : String}
    (ht : transferWithSender request.transferId db = some (t, sender))
    (hauth : Text.eqIgnoreAsciiCase auth.walletAddress sender = true)
    (hstatus : t.status.val = .Pending) (hlen : request.offerIndex.toList.length ≤ 64) :
    confirmOfferSigned auth request db
      = (.ok (.Obj [("success", .Boolean true), ("status", .Str "transferring")]),
        (offerSigned db t).withTransfer request.transferId fun t =>
          { t with
            nftOfferIndex := some request.offerIndex, status := TransferStatus.completed }) := by
  rw [confirmOfferSigned, run_read, run_expect ht]
  dsimp only
  rw [run_require hauth, run_require (decide_eq_true hstatus)]
  refine (run_write (by rfl)).trans ?_
  rw [run_lift (varchar_of_le hlen)]
  exact run_write (by rfl)

/-- A claim that passes the checks is carried out. -/
theorem completeTransfer_honest {auth : AuthenticatedUser} {request : CompleteTransferRequest}
    {db : Db} {t : TransferRequest} {key recipient : String}
    (hclaim : Claimable auth request.transferId db t key)
    (hrecipient : db.walletOf t.toUserId = some recipient)
    (hlen : request.xrplTxHash.toList.length ≤ 64) :
    completeTransfer auth request db
      = (.ok { success := true, newOwner := recipient },
        (handedOver db t key).withTransfer request.transferId fun t =>
          { t with xrplTxHash := some request.xrplTxHash, status := TransferStatus.completed }) := by
  obtain ⟨w, hw, hauth⟩ := hclaim.recipient
  rw [completeTransfer, run_read, run_expect hclaim.found, run_read, run_expect hw,
    run_require hauth, run_require (decide_eq_true hclaim.completed),
    run_expect hclaim.reEncrypted]
  refine (run_write (by rfl)).trans ?_
  rw [run_lift (varchar_of_le hlen)]
  refine (run_write (by rfl)).trans ?_
  rw [run_read]
  -- the users are those of the first statement
  exact run_expect (by exact hrecipient)

/-- **A pending request that its sender confirms and its recipient claims hands the NFT over.** -/
theorem sale_honest {seller buyer : AuthenticatedUser} {confirm : ConfirmOfferSignedRequest}
    {complete : CompleteTransferRequest} {db : Db} {t : TransferRequest}
    {sender recipient key : String} (ht : db.transferRequests.get? confirm.transferId = some t)
    (hid : complete.transferId = confirm.transferId) (hstatus : t.status.val = .Pending)
    (hkey : t.reEncryptedAesKey = some key) (hsender : db.walletOf t.fromUserId = some sender)
    (hseller : Text.eqIgnoreAsciiCase seller.walletAddress sender = true)
    (hrecipient : db.walletOf t.toUserId = some recipient)
    (hbuyer : Text.eqIgnoreAsciiCase buyer.walletAddress recipient = true)
    (hindex : confirm.offerIndex.toList.length ≤ 64)
    (hhash : complete.xrplTxHash.toList.length ≤ 64) :
    ∃ answer₁ db₁ answer₂ db₂, confirmOfferSigned seller confirm db = (.ok answer₁, db₁)
      ∧ completeTransfer buyer complete db₁ = (.ok answer₂, db₂) ∧ db₂.users = db.users
      ∧ db₂.nftMetadata.get? t.nftMetadataId
        = (db.nftMetadata.get? t.nftMetadataId).map fun nm =>
          { nm with
            ownerId := t.toUserId, encryptedAesKey := key, isReEncrypted := true,
            status := NftStatus.active } := by
  have hsigned : transferWithSender confirm.transferId db = some (t, sender) := by
    rw [transferWithSender, ht, Option.bind_some, hsender, Option.map_some]
  have hconf := confirmOfferSigned_honest hsigned hseller hstatus hindex
  -- the claim finds the confirmed row
  have hclaim : Claimable buyer complete.transferId
      ((offerSigned db t).withTransfer confirm.transferId fun t =>
        { t with nftOfferIndex := some confirm.offerIndex, status := TransferStatus.completed })
      { t with nftOfferIndex := some confirm.offerIndex, status := TransferStatus.completed } key :=
    { found := by
        rw [hid, get?_withTransfer, if_pos rfl]
        exact congrArg (Option.map _) ht
      recipient := ⟨recipient, hrecipient, hbuyer⟩
      completed := rfl
      reEncrypted := hkey }
  have hcomp := completeTransfer_honest hclaim hrecipient hhash
  refine ⟨_, _, _, _, hconf, hcomp, rfl, ?_⟩
  rw [withTransfer_nftMetadata, handedOver, get?_withNft, if_pos rfl, withTransfer_nftMetadata,
    offerSigned, get?_withNft, if_pos rfl, Option.map_map]
  rfl

/-! ## Three users and one NFT

A small Oracle to try things out on. -/

namespace Sample

/-- The key pair of the `n`-th user. -/
def keys (n : UInt8) : Pre.PreKeyPair Umbral.symbolic := ⟨n, n + 100⟩

def user (n : UInt8) (walletAddress : String) : User where
  id := ⟨walletAddress⟩
  walletAddress := walletAddress
  prePublicKey := Pre.prePublicKeyToHex (keys n).publicKey

def alice : User := user 1 "rAlice"
def bob : User := user 2 "rBob"
def carol : User := user 3 "rCarol"

def caller (u : User) : AuthenticatedUser where
  walletAddress := u.walletAddress
  tokenId := ""
  role := "user"

/-- A call in which nobody outside answers, and which generates the identifier `id`. -/
def env (id : Uuid) : Env where
  now := 0
  uuid _ := id
  rng := 0
  pick := 0
  order wallets := wallets
  xrpl _ _ := .error ""
  storage _ := .TransportError

/-- Alice's file key. -/
def fileKey : Pre.EncryptedPreData where
  capsule := [1]
  ciphertext := [7]

def tokenId : String := "00080000E8F2C1B45A6D3F907B1C2E4D5A6B7C8D9E0F1A2B3C4D5E6F0000000A"

def nft : NftMetadata where
  id := ⟨"nft"⟩
  nftTokenId := tokenId
  ownerId := alice.id
  encryptedAesKey := fileKey.toBase64 JsonText.compact
  metadataHash := ""
  status := NftStatus.active
  manifest := some (.Obj [("encrypted_filename", .Str ""), ("original_size", .Num (.Nat 0)),
    ("mime_type", .Str ""), ("original_hash", .Str ""), ("fragments", .Arr [])])

/-- The vault object of that NFT. -/
def object : VaultObject where
  id := "nft"
  ownerIdentityId := "alice"
  manifestUri := ""
  manifestHash := ""
  nftChain := some "xrpl:testnet"
  nftTokenId := some tokenId
  status := .Active

/-- The users, Alice's NFT with its vault object, and the requests made for it. -/
def db (ts : List TransferRequest) (hts : (ts.map TransferRequest.id).Nodup) : Db :=
  { (default : Db) with
    users := ⟨⟨[alice, bob, carol], by decide⟩, by decide⟩
    nftMetadata := ⟨⟨[nft], List.nodup_singleton _⟩, List.nodup_singleton _⟩
    vaultObjects := ⟨[object], List.nodup_singleton _⟩
    transferRequests := ⟨ts, hts⟩ }

/-- The fragment from Alice to the `n`-th user. -/
def frag (n : UInt8) : Umbral.symbolic.KeyFrag := SymbolicKeyFrag.mk 1 n 101

/-- The request of Alice's client for a transfer to the `n`-th user. -/
def request (n : UInt8) (w : String) : InitiateTransferRequest where
  nftTokenId := tokenId
  fromAddress := "rAlice"
  toAddress := w
  reEncryptionKey := Pre.reKeyToBase64Verified JsonText.compact [frag n] (keys 1)

/-- The row of that request. -/
def transfer (id : Uuid) (n : UInt8) (w : String) : TransferRequest :=
  pendingTransfer (env id) nft (user n w).id
    ((reEncryptedFor 0 fileKey (1 : UInt8) (frag n) (keys 1)).toBase64 JsonText.compact)

lemma initiateTransfer_alice (id : Uuid) (ts : List TransferRequest)
    (hts : (ts.map TransferRequest.id).Nodup) {n : UInt8} {w : String}
    (hw : (db [] List.nodup_nil).userOf w = some (user n w)) (hr : Text.startsWith w "r" = true)
    (hnew : ((ts ++ [transfer id n w]).map TransferRequest.id).Nodup) :
    initiateTransfer Umbral.symbolic JsonText.compact (env id) (caller alice) (request n w) (db ts hts)
      = (.ok { transferId := id, status := .Pending }, db (ts ++ [transfer id n w]) hnew) := by
  have hsender : Text.startsWith "rAlice" "r" = true := by decide
  have hrequest : HonestRequest Umbral.symbolic JsonText.compact (caller alice) (request n w)
      (db ts hts) nft (user n w) (keys 1) (keys n) (frag n) :=
    { caller := Text.eqIgnoreAsciiCase_self _
      addresses := ⟨hsender, hr⟩
      active := rfl
      owner := ⟨"rAlice", rfl, Text.eqIgnoreAsciiCase_self _⟩
      registered := hw
      recipientKey := Text.hexDecode_hexEncode _
      frag := ⟨0, rfl⟩
      reKey := rfl }
  have hread := Pre.EncryptedPreData.fromBase64_toBase64 JsonText.compact_lawful fileKey
  refine initiateTransfer_honest symbolic_ideal JsonText.compact_lawful hrequest hread rfl ?_
  have hid : id ∉ ts.map TransferRequest.id := by
    rw [List.map_append, List.nodup_append] at hnew
    exact fun h => hnew.2.2 _ h _ (List.mem_singleton_self _) rfl
  have hins : (db ts hts).transferRequests.insert? (transfer id n w) = some ⟨_, hnew⟩ := dif_neg hid
  show insertTransfer (transfer id n w) (db ts hts) = _
  rw [insertTransfer, hins]
  rfl

end Sample

end Vaulted.Transfers
