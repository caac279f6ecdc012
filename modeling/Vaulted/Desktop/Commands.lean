import Vaulted.Crypto.XrplWallet
import Vaulted.Desktop.ClientError
import Vaulted.Desktop.TransportErrors
import Vaulted.Library.Interleaving

/-!
# Commands that use the ledger

`claim_nft` and `delete_vault` of `commands.rs`, with the parts of `xrpl/client.rs` that they call.

* `Statement` — what a command asks of the session, the ledger and the Oracle, one request at a
  time; `Answer` — what it gets.
* `answered` — what a request to the ledger comes to; `Stop` — an error, or a panic.
* `accountInfo`, `feeDrops`, … — what the client reads in an answer of the ledger.
* `claimNft`, `deleteVault` — the commands.

A ledger request is refused on an error of the transport or an `error` member of the answer.  The
texts of such an answer are cut before they are passed on, and a cut inside a character is a panic
(`answered_eq_panicked`): it ends the command, whatever is left to be done.  `Sign` is the local
signature of a transaction that has been validated.
-/

namespace Vaulted.Commands

open Interleaving XrplWallet

/-! ## Requests -/

structure TransferLookupResponse where
  transferId : String
  status : String
  deriving DecidableEq

structure CompleteTransferRequest where
  transferId : String
  xrplTxHash : String
  deriving DecidableEq

structure CompleteTransferResponse where
  success : Bool
  newOwner : String
  deriving DecidableEq

/-- The body of a request to delete a vault. -/
structure OracleDeleteVaultRequest where
  walletAddress : String
  burnTxHash : String
  deriving DecidableEq

structure OracleDeleteVaultResponse where
  success : Bool
  message : String
  deletedFragments : Nat
  totalFragments : Option Nat
  storageDeleted : Bool
  oracleDeleted : Bool
  failures : List String
  deriving DecidableEq

/-- The answer of the Oracle to such a request: an error status with a text, or a body, which may
not be what the client expects. -/
inductive OracleAnswer
  | Failed (status : Nat) (errorText : String)
  | Succeeded (body : Except ClientError OracleDeleteVaultResponse)

inductive Statement
  | GetSession
  | GetXrplWallet
  | GetOracleClient (timeoutSecs : Nat)
  | GetTransferByOffer (offerIndex : String)
  | CompleteTransfer (request : CompleteTransferRequest)
  | CreateAuthedClient
  | PostDelete (nftTokenId : String) (request : OracleDeleteVaultRequest)
  | Connect
  | Request (command : String) (params : List (String × Json))
  | Sign (tx : Json)
  | Sleep

/-- The session answers with its wallet, and the local wallet with its address. -/
abbrev Answer : Statement → Type
  | .GetSession | .GetXrplWallet => Except ClientError String
  | .GetOracleClient _ | .Connect => Except ClientError Unit
  | .GetTransferByOffer _ => Except ClientError TransferLookupResponse
  | .CompleteTransfer _ => Except ClientError CompleteTransferResponse
  | .PostDelete _ _ => Except ClientError OracleAnswer
  | .Request _ _ => Except ClientError Json
  | .Sign _ => Except CryptoError (Option String)
  | .CreateAuthedClient | .Sleep => Unit

/-! ## The ledger -/

/-- What ends a command early: an error, which a caller may handle, or a panic, which none does. -/
inductive Stop
  | Error (e : ClientError)
  | Panicked
  deriving DecidableEq

def Stop.map (f : ClientError → ClientError) : Stop → Stop
  | Error e => Error (f e)
  | Panicked => Panicked

/-- `XrplClient::request`, once the transport has answered. -/
def answered : Except ClientError Json → Except Stop Json
  | .error e => .error (.Error e)
  | .ok response =>
      if (response.get "error").isSome then
        match Transport.extractXrplErrorResponseFields response with
        | some fields => .error (.Error (.Xrpl (fields.error ++ ": " ++ fields.errorMessage)))
        | none => .error .Panicked
      else .ok response

/-- **The answers that end a command in a panic** are error responses one of whose texts is cut
inside a character. -/
theorem answered_eq_panicked {answer : Except ClientError Json} :
    answered answer = .error .Panicked ↔ ∃ response, answer = .ok response
      ∧ (response.get "error").isSome = true
      ∧ ∃ field ∈ ["error", "error_code", "error_message", "status"], ∃ text,
        (response.get field).bind Transport.scalarText = some text
          ∧ Transport.CutsCharacter text := by
  cases answer with
  | error e => simp [answered]
  | ok response =>
      rw [answered]
      split_ifs with herror
      · cases hfields : Transport.extractXrplErrorResponseFields response with
        | none =>
            refine iff_of_true rfl ⟨response, rfl, herror, Transport.extract_eq_none.mp hfields⟩
        | some fields =>
            refine iff_of_false (fun h => by cases h) ?_
            rintro ⟨response', hresponse, -, hcut⟩
            obtain rfl := Except.ok.inj hresponse
            rw [Transport.extract_eq_none.mpr hcut] at hfields
            cases hfields
      · refine iff_of_false (fun h => by cases h) ?_
        rintro ⟨response', hresponse, herror', -⟩
        obtain rfl := Except.ok.inj hresponse
        exact herror herror'

/-- What the client reads in it. -/
def reading {β : Type} (read : Json → Except ClientError β) (answer : Except ClientError Json) :
    Except Stop β :=
  answered answer >>= fun response => Pre.mapErr .Error (read response)

def resultOf (response : Json) (missing : String) : Except ClientError Json :=
  match response.get "result" with
  | some result => .ok result
  | none => .error (.Xrpl missing)

def validatedAccount (account : String) : List (String × Json) :=
  [("account", .Str account), ("ledger_index", .Str "validated")]

structure AccountInfo where
  account : String
  balance : String
  sequence : UInt32

def accountInfo (response : Json) : Except ClientError AccountInfo := do
  let result ← resultOf response "No result in response"
  match result.get "account_data" with
  | some accountData =>
      .ok
        { account := (accountData.index "Account").asStr.getD ""
          balance := (accountData.index "Balance").asStr.getD "0"
          sequence := UInt32.ofNat ((accountData.index "Sequence").asU64.getD 0) }
  | none => .error (.Xrpl "No account_data")

/-- The id of a token of a list, if the entry is well-formed. -/
def nftTokenIdOf (nft : Json) : Option String := do
  let nftTokenId ← (nft.get "NFTokenID").bind Json.asStr
  let _ ← (nft.get "Issuer").bind Json.asStr
  let _ ← (nft.get "Flags").bind Json.asU64
  let _ ← (nft.get "nft_serial").bind Json.asU64
  some nftTokenId

def accountNfts (response : Json) : Except ClientError (List String) := do
  let result ← resultOf response "No result"
  .ok ((((result.get "account_nfts").bind Json.asArray).map fun nfts =>
    nfts.filterMap nftTokenIdOf).getD [])

def feeDrops (response : Json) : Except ClientError String := do
  let result ← resultOf response "No result"
  let drops := result.get "drops"
  .ok (((((drops.bind (·.get "open_ledger_fee")).or (drops.bind (·.get "minimum_fee")))).bind
    Json.asStr).getD "12")

def ledgerCurrentIndex (response : Json) : Except ClientError UInt32 := do
  let result ← resultOf response "No result"
  match (result.get "ledger_current_index").bind Json.asU64 with
  | some index => .ok (UInt32.ofNat index)
  | none => .error (.Xrpl "No ledger_current_index")

def saturatingAdd (a b : UInt32) : UInt32 :=
  if a.toNat + b.toNat < 2 ^ 32 then a + b else UInt32.ofNat (2 ^ 32 - 1)

structure SubmitResult where
  engineResult : String
  engineResultMessage : String
  txHash : String
  deriving DecidableEq

def parseSubmitResult (result : Json) : SubmitResult where
  engineResult := (result.index "engine_result").asStr.getD ""
  engineResultMessage := (result.index "engine_result_message").asStr.getD ""
  txHash := (((((result.get "tx_json").bind (·.get "hash")).or (result.get "hash"))).bind
    Json.asStr).getD ""

def submitResult (response : Json) : Except ClientError SubmitResult :=
  (resultOf response "No result").map parseSubmitResult

def SubmitResult.accepted (submit : SubmitResult) : Bool := Text.startsWith submit.engineResult "tes"

section Programs

variable {E α : Type}

/-- What a command goes on with. -/
abbrev Program (E α : Type) := Proc Answer E (Except Stop α)

/-- `?`: go on with the value, or answer with the error. -/
def orFail {β : Type} (answer : Except ClientError β) (k : β → Program E α) : Program E α :=
  Proc.check (Pre.mapErr (α := α) Stop.Error) answer k

/-- A panic is passed on as it is. -/
def orStop {β : Type} (answer : Except Stop β) (k : β → Program E α) : Program E α :=
  Proc.check id answer k

def request {β : Type} (command : String) (params : List (String × Json))
    (read : Json → Except ClientError β) (k : β → Program E α) : Program E α :=
  .Exec (.Request command params) fun answer _ => orStop (reading read answer) k

def txParams (txHash : String) : List (String × Json) :=
  [("transaction", .Str txHash), ("binary", .Boolean false)]

/-- A transaction is validated, signed and sent to the ledger. -/
def signTx (account : String) (intent : XrplSigningIntent) (tx : Json) (missing : String)
    (k : SubmitResult → Program E α) : Program E α :=
  orFail (Pre.mapErr .Crypto (validateXrplTransactionForIntent intent tx account)) fun _ =>
  .Exec (.Sign tx) fun signed _ =>
  orFail (Pre.mapErr .Crypto signed) fun txBlob? =>
  match txBlob? with
  | none => .Done (.error (.Error (.Xrpl missing)))
  | some txBlob => request "submit" [("tx_blob", .Str txBlob)] submitResult k

/-- It gets its network fields first. -/
def signAndSubmit (account : String) (intent : XrplSigningIntent) (unsigned : Json)
    (missing : String) (k : SubmitResult → Program E α) : Program E α :=
  request "account_info" (validatedAccount account) accountInfo fun info =>
  request "fee" [] feeDrops fun fee =>
  request "ledger_current" [] ledgerCurrentIndex fun index =>
  -- what the builders make is an object, and can be given fields
  signTx account intent
    ((addXrplSigningFields unsigned fee info.sequence (saturatingAdd index 20)).getD .Null) missing k

/-! ## claim_nft -/

structure ClaimResult where
  success : Bool
  txHash : String
  nftTokenId : Option String
  transferId : Option String
  engineResult : String
  engineResultMessage : String
  deriving DecidableEq

def maxAttempts : Nat := 12

/-- Any answer to a lookup will do. -/
def waitForXrplTxValidated (txHash : String) (k : Program E α) : Nat → Program E α
  | 0 => .Done (.error (.Error (.Xrpl "XRPL transaction validation polling exhausted")))
  | attempts + 1 =>
      .Exec (.Request "tx" (txParams txHash)) fun answer _ =>
      match answered answer with
      | .ok _ => k
      | .error .Panicked => .Done (.error .Panicked)
      | .error (.Error e) =>
          if attempts = 0 then .Done (.error (.Error e))
          else .Exec .Sleep fun _ _ => waitForXrplTxValidated txHash k attempts

def completeTransferInner (transferId xrplTxHash : String) (k : Bool → Program E α) :
    Program E α :=
  .Exec (.GetOracleClient 120) fun client _ =>
  orFail client fun _ =>
  .Exec (.CompleteTransfer ⟨transferId, xrplTxHash⟩) fun response _ =>
  orFail response fun response => k response.success

/-- The acceptance of the offer, and what follows. -/
def claimConnected (account transferId offerIndex : String) : Program E ClaimResult :=
  signAndSubmit account (.AcceptNftTransferOffer offerIndex)
    (buildNftokenAcceptOfferTx account offerIndex)
    "Local signing did not produce a signed XRPL transaction payload" fun submit =>
  if submit.accepted = false then
    .Done (.error (.Error (.Xrpl (submit.engineResult ++ ": " ++ submit.engineResultMessage))))
  else
    waitForXrplTxValidated submit.txHash
      (completeTransferInner transferId submit.txHash fun completed =>
        .Done (.ok
          { success := completed
            txHash := submit.txHash
            nftTokenId := none
            transferId := some transferId
            engineResult := submit.engineResult
            engineResultMessage := submit.engineResultMessage }))
      maxAttempts

def claimNft (offerIndex : String) : Program E ClaimResult :=
  .Exec .GetXrplWallet fun account _ =>
  orFail account fun account =>
  .Exec (.GetOracleClient 120) fun client _ =>
  orFail client fun _ =>
  .Exec (.GetTransferByOffer offerIndex) fun transfer _ =>
  orFail transfer fun transfer =>
  .Exec .Connect fun connected _ =>
  orFail connected fun _ => claimConnected account transfer.transferId offerIndex

/-! ## delete_vault -/

structure DeleteVaultResponse where
  success : Bool
  overallStatus : String
  nftTokenId : String
  message : String
  nftBurned : Bool
  burnTxHash : Option String
  burnEngineResult : Option String
  oracleDeleted : Bool
  storageDeleted : Bool
  deletedFragments : Nat
  totalFragments : Option Nat
  failures : List String
  deriving DecidableEq

def textOr (fallback : String) (result : Json) (path : List String) : String :=
  (result.textAt path).getD fallback

/-- What a validated transaction says about a burn. -/
def burnOutcome (nftTokenId account : String) (result : Json) : Except ClientError Unit :=
  let txResult := textOr "unknown" result ["meta", "TransactionResult"]
  if txResult ≠ "tesSUCCESS" then
    .error (.Xrpl ("NFTokenBurn transaction failed: " ++ txResult))
  else if textOr "" result ["TransactionType"] = "NFTokenBurn"
      ∧ Text.eqIgnoreAsciiCase (textOr "" result ["Account"]) account = true
      ∧ Text.eqIgnoreAsciiCase (textOr "" result ["NFTokenID"]) nftTokenId = true then .ok ()
  else .error (.Xrpl "Validated XRPL transaction does not match requested NFT burn")

/-- The outcome, as soon as the transaction is validated. -/
def burnStatus (nftTokenId account : String) (response : Json) : Option (Except ClientError Unit) :=
  match response.get "result" with
  | none => some (.error (.Xrpl "XRPL tx response missing result"))
  | some result =>
      if (result.get "validated").bind Json.asBool = some true then
        some (burnOutcome nftTokenId account result)
      else none

def waitForValidatedNftokenBurn (txHash nftTokenId account : String)
    (k : Except ClientError Unit → Program E α) : Nat → Program E α
  | 0 => k (.error (.Xrpl "Timed out waiting for NFTokenBurn validation"))
  | attempts + 1 =>
      .Exec (.Request "tx" (txParams txHash)) fun answer _ =>
      let again : Program E α :=
        if attempts = 0 then k (.error (.Xrpl "Timed out waiting for NFTokenBurn validation"))
        else .Exec .Sleep fun _ _ =>
          waitForValidatedNftokenBurn txHash nftTokenId account k attempts
      match answered answer with
      | .ok response =>
          match burnStatus nftTokenId account response with
          | some outcome => k outcome
          | none => again
      | .error .Panicked => .Done (.error .Panicked)
      | .error (.Error e) => if attempts = 0 then k (.error e) else again

/-- A deletion that got no further than the ledger. -/
def undeleted (nftTokenId overallStatus message failure : String) (nftBurned : Bool)
    (submit : SubmitResult) : DeleteVaultResponse where
  success := false
  overallStatus := overallStatus
  nftTokenId := nftTokenId
  message := message
  nftBurned := nftBurned
  burnTxHash := some submit.txHash
  burnEngineResult := some submit.engineResult
  oracleDeleted := false
  storageDeleted := false
  deletedFragments := 0
  totalFragments := none
  failures := [failure]

/-- What the client makes of the answer of the Oracle. -/
def deleted (nftTokenId : String) (submit : SubmitResult) (result : OracleDeleteVaultResponse) :
    DeleteVaultResponse :=
  let storageDeleted := result.storageDeleted
    || (result.totalFragments.map fun total => decide (total ≤ result.deletedFragments)).getD
      result.success
  let oracleDeleted := result.oracleDeleted || result.success
  let failures := result.failures
    ++ (if storageDeleted then [] else ["storage_delete_partial"])
    ++ (if oracleDeleted then [] else ["oracle_tombstone_failed"])
  let success := storageDeleted && oracleDeleted && failures.isEmpty
  { success
    overallStatus := if success then "deleted" else "partial"
    nftTokenId
    message := result.message
    nftBurned := true
    burnTxHash := some submit.txHash
    burnEngineResult := some submit.engineResult
    oracleDeleted
    storageDeleted
    deletedFragments := result.deletedFragments
    totalFragments := result.totalFragments
    failures }

/-- Only who has the token may delete its vault. -/
def requireNftOwner (nftTokenId account : String) (k : Program E α) : Program E α :=
  .Exec (.Request "account_nfts" (validatedAccount account)) fun answer _ =>
  match reading accountNfts answer with
  | .ok nfts =>
      if nfts.any fun id => decide (id = nftTokenId) then k
      else .Done (.error (.Error (.Auth "Only the current XRPL NFT owner can delete this vault")))
  | .error .Panicked => .Done (.error .Panicked)
  | .error (.Error e) =>
      .Done (.error (.Error
        (.Xrpl ("Could not verify NFT ownership before delete: " ++ e.display))))

/-- The Oracle's part, once the token is burned. -/
def deleteAtOracle (nftTokenId walletAddress : String) (submit : SubmitResult) :
    Program E DeleteVaultResponse :=
  .Exec .CreateAuthedClient fun _ _ =>
  .Exec (.PostDelete nftTokenId ⟨walletAddress, submit.txHash⟩) fun answer _ =>
  orFail answer fun answer =>
  match answer with
  | .Failed status errorText =>
      .Done (.ok (undeleted nftTokenId "partial"
        ("NFT burn succeeded, but Oracle/storage cleanup failed: HTTP " ++ toString status ++ " "
          ++ errorText) "oracle_cleanup_failed" true submit))
  | .Succeeded body => orFail body fun result => .Done (.ok (deleted nftTokenId submit result))

/-- What follows when the client stops waiting for the validation of a burn. -/
def burnWaited (nftTokenId walletAddress : String) (submit : SubmitResult) :
    Except ClientError Unit → Program E DeleteVaultResponse
  | .error e =>
      .Done (.ok (undeleted nftTokenId "partial"
        ("NFT burn was submitted, but Vaulted could not confirm validation before Oracle cleanup: "
          ++ e.display) "xrpl_burn_validation_pending" true submit))
  | .ok _ => deleteAtOracle nftTokenId walletAddress submit

def burnSubmitted (nftTokenId account walletAddress : String) (submit : SubmitResult) :
    Program E DeleteVaultResponse :=
  if submit.accepted = false then
    .Done (.ok (undeleted nftTokenId "failed"
      ("NFT burn was not accepted by XRPL: " ++ submit.engineResultMessage) "xrpl_burn_failed" false
      submit))
  else
    waitForValidatedNftokenBurn submit.txHash nftTokenId account
      (burnWaited nftTokenId walletAddress submit) maxAttempts

def deleteVault (nftTokenId : String) : Program E DeleteVaultResponse :=
  .Exec .GetSession fun session _ =>
  orFail session fun walletAddress =>
  .Exec .GetXrplWallet fun account _ =>
  orFail account fun account =>
  if !Text.eqIgnoreAsciiCase account walletAddress then
    .Done (.error (.Error (.Auth
      "Current session wallet does not match the local Vaulted XRPL wallet")))
  else
  .Exec .Connect fun connected _ =>
  orFail connected fun _ =>
  requireNftOwner nftTokenId account <|
  signAndSubmit account (.BurnVaultNft nftTokenId) (buildNftokenBurnTx account nftTokenId)
    "Signed NFTokenBurn transaction is missing tx_blob" fun submit =>
  burnSubmitted nftTokenId account walletAddress submit

end Programs

end Vaulted.Commands
