import Vaulted.Crypto.Pre
import Vaulted.Oracle.Request

/-!
# NFT transfers

`api/transfers.rs`: a transfer request is `initiate`d by the owner, who hands the Oracle a
re-encryption key for the recipient; `confirm`ed by the sender once the ledger offer is
signed; `complete`d by the recipient.  `finalizeTransferByOffer` and `cancelTransfer` are the
two other ways out.

* the handlers, statement by statement; `getIncomingTransfers` is the recipient's list of the
  offers that have been signed, and `getTransferByOffer` finds a transfer by its offer;
* one lemma per handler (`initiateTransfer_cases`, …) that says everything a call can do to
  the database, guards included.
-/

namespace Vaulted.Transfers

open Autocommit.Prog

/-! ## Statements -/

def insertTransfer (t : TransferRequest) (db : Db) : Except ApiError Db :=
  match db.transferRequests.insert? t with
  | some transferRequests => .ok { db with transferRequests }
  | none => .error (.uniqueViolation "transfer_requests_pkey")

/-- The active NFT with a token id, its owner being a registered user. -/
def activeNft (nftTokenId : String) (db : Db) : Option NftMetadata :=
  (db.nftMetadata.find? nftTokenId).filter fun nm =>
    decide (nm.status.val = .Active) && (db.walletOf nm.ownerId).isSome

/-- A transfer request with the wallet of its sender. -/
def transferWithSender (id : Uuid) (db : Db) : Option (TransferRequest × String) :=
  (db.transferRequests.get? id).bind fun t => (db.walletOf t.fromUserId).map fun w => (t, w)

lemma transferWithSender_eq_some {id : Uuid} {db : Db} {t : TransferRequest} {w : String}
    (h : transferWithSender id db = some (t, w)) :
    db.transferRequests.get? id = some t ∧ db.walletOf t.fromUserId = some w := by
  obtain ⟨t', ht', hw⟩ := Option.bind_eq_some_iff.mp h
  obtain ⟨w', hw', heq⟩ := Option.map_eq_some_iff.mp hw
  obtain ⟨rfl, rfl⟩ := Prod.mk.inj heq
  exact ⟨ht', hw'⟩

/-- A transfer request with the NFT it is about. -/
def transferWithNft (id : Uuid) (db : Db) : Option (TransferRequest × NftMetadata) :=
  (db.transferRequests.get? id).bind fun t =>
    (db.nftMetadata.get? t.nftMetadataId).map fun nm => (t, nm)

/-! ## Re-encryption -/

structure ReKeyData where
  kfrags : List (List UInt8)
  senderPk : List UInt8
  senderVerifyingKey : Option (List UInt8)
  deriving DecidableEq

/-- The numbers of an array, each cut down to a byte; everything else is skipped. -/
def bytesOf (items : List Json) : List UInt8 :=
  items.filterMap fun n => n.asU64.map UInt8.ofNat

/-- Deserializes `re_encryption_key` (kfrag + sender_pk + sender_verifying_key). -/
def deserializeReKey (codec : TextCodec) (base64Data : String) : Except String ReKeyData := do
  let bytes ← Pre.mapErr ("Base64 decode error: " ++ ·) (codec.base64Decode base64Data)
  let json ← Pre.mapErr ("JSON parse error: " ++ ·) (codec.jsonFromSlice bytes)
  let kfragValues ← (json.index "kfrags").asArray.elim (.error "Missing kfrags") .ok
  let kfrags ← kfragValues.mapM fun v =>
    v.asArray.elim (.error "Invalid kfrag format") fun arr => .ok (bytesOf arr)
  let senderPk ← (json.index "sender_pk").asArray.elim (.error "Missing sender_pk") fun arr =>
    .ok (bytesOf arr)
  let senderVerifyingKey := (json.index "sender_verifying_key").asArray.map bytesOf
  .ok { kfrags, senderPk, senderVerifyingKey }

/-- Performs re-encryption with mandatory kfrag verification. -/
def performReencryption (u : Umbral) (rng : Nat) (encryptedData : Pre.EncryptedPreData)
    (reKeyData : ReKeyData) (receivingPkBytes : Option (List UInt8)) :
    Except String Pre.ReEncryptedData := do
  let vkBytes ← reKeyData.senderVerifyingKey.elim
    (.error ("Missing sender_verifying_key — required for cryptographic verification. "
      ++ "Please update client to send verifying key with re-encryption request.")) .ok
  let senderPk ← Pre.mapErr (fun e => "Invalid sender_pk: " ++ e.display)
    (Pre.prePublicKeyFromBytes u reKeyData.senderPk)
  let kfragBytes ← reKeyData.kfrags.head?.elim (.error "No kfrags provided") .ok
  let kfrag ← Pre.mapErr ("Invalid kfrag: " ++ ·) (u.keyFragFromBytes kfragBytes)
  let verifyingPk ← Pre.mapErr ("Invalid sender_verifying_key: " ++ ·)
    (u.publicKeyFromBytes vkBytes)
  let delegatingPk ← Pre.mapErr ("Invalid delegating key: " ++ ·)
    (u.publicKeyFromBytes reKeyData.senderPk)
  let receivingPk ← receivingPkBytes.elim (.ok none) fun bytes =>
    Pre.mapErr ("Invalid receiving key: " ++ ·) ((u.publicKeyFromBytes bytes).map some)
  Pre.mapErr ("kfrag verification failed — re-encryption key may be tampered: " ++ ·)
    (u.verifyKeyFrag kfrag verifyingPk (some delegatingPk) receivingPk)
  let reEncrypted ← Pre.mapErr (fun e => "Re-encryption error: " ++ e.display)
    (Pre.performReencryptionWithKfrag u rng encryptedData kfrag senderPk)
  .ok { reEncrypted with senderVerifyingKey := some vkBytes }

/-! ## POST /api/v1/transfers/initiate -/

structure InitiateTransferRequest where
  nftTokenId : String
  fromAddress : String
  toAddress : String
  reEncryptionKey : String

structure InitiateTransferResponse where
  transferId : Uuid
  status : TransferStatus
  deriving DecidableEq

/-- The row of a new transfer request. -/
def pendingTransfer (env : Env) (nft : NftMetadata) (toUserId : Uuid) (reEncrypted : String) :
    TransferRequest where
  id := env.uuid 0
  nftMetadataId := nft.id
  fromUserId := nft.ownerId
  toUserId := toUserId
  reEncryptedAesKey := some reEncrypted
  status := TransferStatus.pending
  createdAt := env.now

def initiateTransfer (u : Umbral) (codec : TextCodec) (env : Env) (auth : AuthenticatedUser)
    (request : InitiateTransferRequest) : Handler InitiateTransferResponse := do
  require (Text.eqIgnoreAsciiCase auth.walletAddress request.fromAddress)
    (.Forbidden "Cannot initiate transfer from different wallet")
  require (Text.startsWith request.fromAddress "r" && Text.startsWith request.toAddress "r")
    (.Validation "Invalid wallet address")
  require (!Text.isEmpty request.reEncryptionKey) (.Validation "re_encryption_key is required")
  let nftRow? ← read (activeNft request.nftTokenId)
  let nftRow ← expect nftRow? (.NftNotFound request.nftTokenId)
  let fromWallet? ← read fun db => db.walletOf nftRow.ownerId
  let fromWallet ← expect fromWallet? .rowNotFound
  require (Text.eqIgnoreAsciiCase fromWallet request.fromAddress)
    (.Forbidden "Only the owner can initiate transfer")
  let toUser? ← read fun db => db.userOf request.toAddress
  let toUser ← expect toUser?
    (.NotFound ("Recipient " ++ request.toAddress ++ " not registered"))
  let recipientPkBytes ← lift (Pre.mapErr
    (fun e => .Internal ("Invalid recipient pre_public_key hex: " ++ e))
    (Text.hexDecode toUser.prePublicKey))
  let encryptedData ← lift (Pre.mapErr
    (fun e => .Internal ("Failed to parse encrypted_aes_key: " ++ e.display))
    (Pre.EncryptedPreData.fromBase64 codec nftRow.encryptedAesKey))
  let reKeyData ← lift (Pre.mapErr (fun e => .Validation ("Invalid re_encryption_key: " ++ e))
    (deserializeReKey codec request.reEncryptionKey))
  let reEncrypted ← lift (Pre.mapErr (fun e => .Internal ("Re-encryption failed: " ++ e))
    (performReencryption u env.rng encryptedData reKeyData (some recipientPkBytes)))
  write (insertTransfer (pendingTransfer env nftRow toUser.id (reEncrypted.toBase64 codec)))
  pure { transferId := env.uuid 0, status := .Pending }

/-! ## POST /api/v1/transfers/confirm-signed -/

structure ConfirmOfferSignedRequest where
  transferId : Uuid
  offerIndex : String

def confirmOfferSigned (auth : AuthenticatedUser) (request : ConfirmOfferSignedRequest) :
    Handler Json := do
  let transfer? ← read (transferWithSender request.transferId)
  let (transfer, fromWallet) ← expect transfer?
    (.NotFound ("Transfer " ++ request.transferId.text ++ " not found"))
  require (Text.eqIgnoreAsciiCase auth.walletAddress fromWallet)
    (.Forbidden "Only the transfer sender can confirm")
  require (decide (transfer.status.val = .Pending))
    (.BadRequest ("Transfer is not pending: status = " ++ transfer.status.val.text))
  write fun db =>
    db.updateNft transfer.nftMetadataId .Transferring id nftId_unchanged nftTokenId_unchanged
  let offerIndex ← lift (varchar 64 request.offerIndex)
  write fun db => db.updateTransfer request.transferId .Completed
    fun t => { t with nftOfferIndex := some offerIndex }
  pure (.Obj [("success", .Boolean true), ("status", .Str "transferring")])

/-! ## POST /api/v1/transfers/finalize-by-offer -/

structure FinalizeByOfferRequest where
  offerIndex : String
  xrplTxHash : String

def finalizeTransferByOffer (env : Env) (request : FinalizeByOfferRequest) : Handler Json := do
  let transfer? ← read fun db => env.choose
    (db.transferRequests.rows.filter fun t => decide (t.nftOfferIndex = some request.offerIndex))
  match transfer? with
  | some transfer =>
      if transfer.status.val = .Completed then
        pure (.Obj [("success", .Boolean true), ("message", .Str "Already completed")])
      else do
        let xrplTxHash ← lift (varchar 64 request.xrplTxHash)
        write fun db => db.updateTransfer transfer.id .Completed
          fun t => { t with xrplTxHash := some xrplTxHash, nftOfferIndex := none }
        pure (.Obj [("success", .Boolean true), ("transfer_id", .Str transfer.id.text),
          ("message", .Str "Completed")])
  | none =>
      pure (.Obj [("success", .Boolean true), ("message", .Str "No transfer to finalize")])

/-! ## POST /api/v1/transfers/complete -/

structure CompleteTransferRequest where
  transferId : Uuid
  xrplTxHash : String

structure CompleteTransferResponse where
  success : Bool
  newOwner : String
  deriving DecidableEq

def completeTransfer (auth : AuthenticatedUser) (request : CompleteTransferRequest) :
    Handler CompleteTransferResponse := do
  let transfer? ← read fun db => db.transferRequests.get? request.transferId
  let transfer ← expect transfer?
    (.NotFound ("Transfer " ++ request.transferId.text ++ " not found"))
  let toWallet? ← read fun db => db.walletOf transfer.toUserId
  let toWallet ← expect toWallet? .rowNotFound
  require (Text.eqIgnoreAsciiCase auth.walletAddress toWallet)
    (.Forbidden "Only the intended recipient can complete the transfer")
  require (decide (transfer.status.val = .Completed))
    (.BadRequest ("Transfer is not ready: status = " ++ transfer.status.val.text))
  let reEncrypted ← expect transfer.reEncryptedAesKey (.Internal "Missing re-encrypted key")
  write fun db => db.updateNft transfer.nftMetadataId .Active fun nm =>
    { nm with
      ownerId := transfer.toUserId, encryptedAesKey := reEncrypted, isReEncrypted := true }
  let xrplTxHash ← lift (varchar 64 request.xrplTxHash)
  write fun db => db.updateTransfer request.transferId .Completed
    fun t => { t with xrplTxHash := some xrplTxHash }
  let newOwner? ← read fun db => db.walletOf transfer.toUserId
  let newOwner ← expect newOwner? .rowNotFound
  pure { success := true, newOwner }

/-! ## POST /api/v1/transfers/:transfer_id/cancel -/

structure CancelTransferRequest where
  walletAddress : String

structure CancelTransferResponse where
  success : Bool
  message : String
  txHash : Option String
  deriving DecidableEq

def cancelTransfer (auth : AuthenticatedUser) (transferId : Uuid)
    (request : CancelTransferRequest) : Handler CancelTransferResponse := do
  require (Text.eqIgnoreAsciiCase auth.walletAddress request.walletAddress)
    (.Forbidden "Cannot cancel transfer for different wallet")
  let transfer? ← read (transferWithNft transferId)
  let (transfer, _) ← expect transfer?
    (.NotFound ("Transfer " ++ transferId.text ++ " not found"))
  let fromWallet? ← read fun db => db.walletOf transfer.fromUserId
  let fromWallet ← expect fromWallet? .rowNotFound
  require (Text.eqIgnoreAsciiCase fromWallet request.walletAddress)
    (.Forbidden "Only the sender can cancel transfer")
  require (decide (transfer.status.val = .Pending) || decide (transfer.status.val = .Completed))
    (.BadRequest ("Cannot cancel transfer with status: " ++ transfer.status.val.text))
  write fun db => db.updateTransfer transferId .Cancelled id
  write fun db => db.updateNft transfer.nftMetadataId .Active id
  pure
    { success := true
      message := if transfer.nftOfferIndex.isSome then
          "Transfer cancelled. Please also cancel the offer with the active wallet."
        else "Transfer cancelled successfully."
      txHash := none }

/-! ## GET /api/v1/transfers/incoming/:wallet_address -/

structure IncomingTransferInfo where
  offerIndex : String
  nftTokenId : String
  fromAddress : String
  amount : String
  deriving DecidableEq

/-- What the query makes of a transfer request: its offer has been signed. -/
def incomingRow (db : Db) (userId : Uuid) (t : TransferRequest) :
    Option (Uuid × IncomingTransferInfo) :=
  if t.toUserId = userId ∧ t.status.val = .Completed then do
    let offerIndex ← t.nftOfferIndex
    let nm ← db.nftMetadata.get? t.nftMetadataId
    let fromAddress ← db.walletOf t.fromUserId
    some (t.id, { offerIndex, nftTokenId := nm.nftTokenId, fromAddress, amount := "0" })
  else none

/-- The rows of the query, each with the transfer request that it comes from. -/
def incomingRows (userId : Uuid) (db : Db) : List (Uuid × IncomingTransferInfo) :=
  db.transferRequests.rows.filterMap (incomingRow db userId)

def getIncomingTransfers (auth : AuthenticatedUser) (walletAddress : String) :
    Handler (List IncomingTransferInfo) := do
  require (Text.eqIgnoreAsciiCase auth.walletAddress walletAddress)
    (.Forbidden "Can only view your own incoming transfers")
  let user ← read fun db => db.userOf walletAddress
  match user with
  | some user => do
      let transfers ← read (incomingRows user.id)
      pure (transfers.map Prod.snd)
  | none => pure []

/-! ## GET /api/v1/transfers/by-offer/:offer_index -/

/-- `ORDER BY created_at DESC LIMIT 1`. -/
def latest (env : Env) (rows : List TransferRequest) : Option TransferRequest :=
  env.choose (rows.filter fun t => rows.all fun t' => decide (t'.createdAt ≤ t.createdAt))

def getTransferByOffer (env : Env) (offerIndex : String) : Handler Json := do
  let transfer? ← read fun db => latest env
    (db.transferRequests.rows.filter fun t => decide (t.nftOfferIndex = some offerIndex))
  let transfer ← expect transfer? (.NotFound ("No transfer found for offer " ++ offerIndex))
  pure (.Obj [("transfer_id", .Str transfer.id.text), ("status", .Str transfer.status.val.text)])

/-! ## What a call can do

One relation per handler, between the database before, the answer, and the database after.  A
call whose last statement fails keeps what the earlier ones wrote, so `confirmOfferSigned` and
`completeTransfer` have an outcome of their own for a value that does not fit its column. -/

inductive Initiates (env : Env) (auth : AuthenticatedUser) (request : InitiateTransferRequest)
    (db : Db) : Except ApiError InitiateTransferResponse → Db → Prop
  | Refused (e : ApiError) : Initiates env auth request db (.error e) db
  | Created (nft : NftMetadata) (owner : String) (toUser : User) (reEncrypted : String) (db' : Db) :
      Text.eqIgnoreAsciiCase auth.walletAddress request.fromAddress = true →
      activeNft request.nftTokenId db = some nft →
      db.walletOf nft.ownerId = some owner →
      Text.eqIgnoreAsciiCase owner request.fromAddress = true →
      db.userOf request.toAddress = some toUser →
      insertTransfer (pendingTransfer env nft toUser.id reEncrypted) db = .ok db' →
      Initiates env auth request db (.ok { transferId := env.uuid 0, status := .Pending }) db'

theorem initiateTransfer_spec (u : Umbral) (codec : TextCodec) (env : Env)
    (auth : AuthenticatedUser) (request : InitiateTransferRequest) (db : Db) :
    wp (initiateTransfer u codec env auth request) (Initiates env auth request db) db := by
  refine wp_require_bind (fun _ => .Refused _) fun hauth => ?_
  refine wp_require_bind (fun _ => .Refused _) fun _ => ?_
  refine wp_require_bind (fun _ => .Refused _) fun _ => ?_
  refine wp_read_bind (wp_expect_bind (fun _ => .Refused _) fun nft hnft => ?_)
  refine wp_read_bind (wp_expect_bind (fun _ => .Refused _) fun owner howner => ?_)
  refine wp_require_bind (fun _ => .Refused _) fun hfrom => ?_
  refine wp_read_bind (wp_expect_bind (fun _ => .Refused _) fun toUser hto => ?_)
  refine wp_lift_bind (fun _ _ => .Refused _) fun _ _ => ?_
  refine wp_lift_bind (fun _ _ => .Refused _) fun _ _ => ?_
  refine wp_lift_bind (fun _ _ => .Refused _) fun _ _ => ?_
  refine wp_lift_bind (fun _ _ => .Refused _) fun reEncrypted _ => ?_
  refine wp_write_bind (fun _ _ => .Refused _) fun db' hdb' => wp_pure ?_
  exact .Created nft owner toUser _ db' hauth hnft howner hfrom hto hdb'

/-- A transfer whose offer has been signed. -/
def offerSigned (db : Db) (t : TransferRequest) : Db :=
  db.withNft t.nftMetadataId fun nm => { nm with status := NftStatus.transferring }

/-- The transfer a call of `confirmOfferSigned` is allowed to sign: its caller is the sender, and
its status is `'pending'`. -/
structure Confirmable (auth : AuthenticatedUser) (id : Uuid) (db : Db) (t : TransferRequest) :
    Prop where
  found : db.transferRequests.get? id = some t
  sender : ∃ w, db.walletOf t.fromUserId = some w
    ∧ Text.eqIgnoreAsciiCase auth.walletAddress w = true
  pending : t.status.val = .Pending

inductive Confirms (auth : AuthenticatedUser) (request : ConfirmOfferSignedRequest) (db : Db) :
    Except ApiError Json → Db → Prop
  | Refused (e : ApiError) : Confirms auth request db (.error e) db
  | Unrecorded (t : TransferRequest) (e : ApiError) : Confirmable auth request.transferId db t →
      Confirms auth request db (.error e) (offerSigned db t)
  | Confirmed (t : TransferRequest) (offerIndex : String) (answer : Json) :
      Confirmable auth request.transferId db t → varchar 64 request.offerIndex = .ok offerIndex →
      Confirms auth request db (.ok answer) ((offerSigned db t).withTransfer request.transferId
        fun t => { t with nftOfferIndex := some offerIndex, status := TransferStatus.completed })

theorem confirmOfferSigned_spec (auth : AuthenticatedUser) (request : ConfirmOfferSignedRequest)
    (db : Db) : wp (confirmOfferSigned auth request) (Confirms auth request db) db := by
  refine wp_read_bind (wp_expect_bind (fun _ => .Refused _) fun (t, sender) ht => ?_)
  obtain ⟨hfound, hsender⟩ := transferWithSender_eq_some ht
  refine wp_require_bind (fun _ => .Refused _) fun hauth => ?_
  refine wp_require_bind (fun _ => .Refused _) fun hstatus => ?_
  have hconfirm : Confirmable auth request.transferId db t :=
    ⟨hfound, ⟨sender, hsender, hauth⟩, of_decide_eq_true hstatus⟩
  refine wp_write_bind (fun _ h => nomatch h) fun db₁ hdb₁ => ?_
  cases hdb₁
  refine wp_lift_bind (fun e _ => .Unrecorded t e hconfirm) fun idx hidx => ?_
  refine wp_write_bind (fun _ h => nomatch h) fun db₂ hdb₂ => wp_pure ?_
  cases hdb₂
  exact .Confirmed t idx _ hconfirm hidx

inductive FinalizesByOffer (env : Env) (request : FinalizeByOfferRequest) (db : Db) :
    Except ApiError Json → Db → Prop
  | Unchanged (answer : Except ApiError Json) : FinalizesByOffer env request db answer db
  | Finalized (t : TransferRequest) (xrplTxHash : String) (answer : Json) :
      t ∈ db.transferRequests.rows → t.nftOfferIndex = some request.offerIndex →
      t.status.val ≠ .Completed →
      FinalizesByOffer env request db (.ok answer) (db.withTransfer t.id fun t =>
        { t with
          xrplTxHash := some xrplTxHash, nftOfferIndex := none, status := TransferStatus.completed })

theorem finalizeTransferByOffer_spec (env : Env) (request : FinalizeByOfferRequest) (db : Db) :
    wp (finalizeTransferByOffer env request) (FinalizesByOffer env request db) db := by
  refine wp_read_bind ?_
  cases ht : env.choose (db.transferRequests.rows.filter fun t =>
      decide (t.nftOfferIndex = some request.offerIndex)) with
  | none => exact .Unchanged _
  | some t =>
      obtain ⟨hmem, hoffer⟩ := List.mem_filter.mp (Env.mem_of_choose ht)
      dsimp only
      split_ifs with hstatus
      · exact .Unchanged _
      · refine wp_lift_bind (fun _ _ => .Unchanged _) fun hash _ => ?_
        refine wp_write_bind (fun _ h => nomatch h) fun db' hdb' => wp_pure ?_
        cases hdb'
        exact .Finalized t hash _ hmem (of_decide_eq_true hoffer) hstatus

/-- An NFT handed over to the recipient of a transfer. -/
def handedOver (db : Db) (t : TransferRequest) (key : String) : Db :=
  db.withNft t.nftMetadataId fun nm =>
    { nm with
      ownerId := t.toUserId, encryptedAesKey := key, isReEncrypted := true,
      status := NftStatus.active }

/-- The transfer a call of `completeTransfer` is allowed to carry out: its caller is the
recipient, its status is `'completed'`, and it holds a re-encrypted key. -/
structure Claimable (auth : AuthenticatedUser) (id : Uuid) (db : Db) (t : TransferRequest)
    (key : String) : Prop where
  found : db.transferRequests.get? id = some t
  recipient : ∃ w, db.walletOf t.toUserId = some w
    ∧ Text.eqIgnoreAsciiCase auth.walletAddress w = true
  completed : t.status.val = .Completed
  reEncrypted : t.reEncryptedAesKey = some key

inductive Completes (auth : AuthenticatedUser) (request : CompleteTransferRequest) (db : Db) :
    Except ApiError CompleteTransferResponse → Db → Prop
  | Refused (e : ApiError) : (∀ t key, ¬ Claimable auth request.transferId db t key) →
      Completes auth request db (.error e) db
  | Unrecorded (t : TransferRequest) (key : String) (e : ApiError) :
      Claimable auth request.transferId db t key →
      Completes auth request db (.error e) (handedOver db t key)
  | Completed (t : TransferRequest) (key newOwner xrplTxHash : String) :
      Claimable auth request.transferId db t key →
      db.walletOf t.toUserId = some newOwner →
      Completes auth request db (.ok { success := true, newOwner })
        ((handedOver db t key).withTransfer request.transferId fun t =>
          { t with xrplTxHash := some xrplTxHash, status := TransferStatus.completed })

theorem completeTransfer_spec (auth : AuthenticatedUser) (request : CompleteTransferRequest)
    (db : Db) : wp (completeTransfer auth request) (Completes auth request db) db := by
  refine wp_read_bind (wp_expect_bind (fun h => .Refused _ fun t key hclaim => ?_) fun t ht => ?_)
  · exact nomatch h.symm.trans hclaim.found
  -- from here on a claimable request can only be the one that was read
  have same : ∀ {t' key}, Claimable auth request.transferId db t' key → t' = t :=
    fun hclaim => Option.some.inj (hclaim.found.symm.trans ht)
  refine wp_read_bind (wp_expect_bind (fun h => .Refused _ fun t' key hclaim => ?_) fun w hw => ?_)
  · obtain ⟨w, hw, -⟩ := hclaim.recipient
    rw [same hclaim] at hw
    exact nomatch h.symm.trans hw
  refine wp_require_bind (fun h => .Refused _ fun t' key hclaim => ?_) fun hauth => ?_
  · obtain ⟨w', hw', hauth⟩ := hclaim.recipient
    rw [same hclaim] at hw'
    rw [Option.some.inj (hw'.symm.trans hw), h] at hauth
    cases hauth
  refine wp_require_bind (fun h => .Refused _ fun t' key hclaim => ?_) fun hstatus => ?_
  · exact of_decide_eq_false h (same hclaim ▸ hclaim.completed)
  refine wp_expect_bind (fun h => .Refused _ fun t' key hclaim => ?_) fun key hkey => ?_
  · have hkey := hclaim.reEncrypted
    rw [same hclaim, h] at hkey
    cases hkey
  have hclaim : Claimable auth request.transferId db t key :=
    ⟨ht, ⟨w, hw, hauth⟩, of_decide_eq_true hstatus, hkey⟩
  refine wp_write_bind (fun _ h => nomatch h) fun db₁ hdb₁ => ?_
  cases hdb₁
  refine wp_lift_bind (fun e _ => .Unrecorded t key e hclaim) fun hash _ => ?_
  refine wp_write_bind (fun _ h => nomatch h) fun db₂ hdb₂ => ?_
  cases hdb₂
  -- neither write touches the users, so the recipient is found again
  refine wp_read_bind (wp_expect_bind (fun h => ?_) fun newOwner hnew => wp_pure ?_)
  · exact nomatch hw.symm.trans h
  · exact .Completed t key newOwner hash hclaim hnew

/-- **A cancellation changes nothing and succeeds never**: its first write is refused by the
`CHECK` constraint. -/
theorem cancelTransfer_spec (auth : AuthenticatedUser) (transferId : Uuid)
    (request : CancelTransferRequest) (db : Db) :
    wp (cancelTransfer auth transferId request) (fun r db' => db' = db ∧ ∃ e, r = .error e) db := by
  have refused : ∀ e : ApiError, db = db ∧ ∃ e', Except.error e
      = (.error e' : Except ApiError CancelTransferResponse) := fun e => ⟨rfl, e, rfl⟩
  refine wp_require_bind (fun _ => refused _) fun _ => ?_
  refine wp_read_bind (wp_expect_bind (fun _ => refused _) fun (t, nm) ht => ?_)
  refine wp_read_bind (wp_expect_bind (fun _ => refused _) fun w _ => ?_)
  refine wp_require_bind (fun _ => refused _) fun _ => ?_
  refine wp_require_bind (fun _ => refused _) fun _ => ?_
  refine wp_write_bind (fun _ _ => refused _) fun db₁ hdb₁ => ?_
  -- the row exists, so the constraint is checked
  obtain ⟨t', ht', -⟩ := Option.bind_eq_some_iff.mp ht
  simp [Db.updateTransfer, transferStatusCheck, ht'] at hdb₁

end Vaulted.Transfers
