import Vaulted.Crypto.Pre
import Vaulted.Library.JsonText

/-!
# The wallet

`xrpl_wallet.rs` of the crypto core: which transactions the wallet signs.

* `XrplSigningIntent` — what the user has agreed to.
* `buildXrpPaymentTx` and its companions — a transaction without its network fields, which
  `addXrplSigningFields` adds.
* `validateXrplTransactionForIntent` — whether a transaction is the one that the user has agreed to:
  first the fields that every transaction has, then one policy for each intent.

The signature itself is not modelled.
-/

namespace Vaulted.XrplWallet

def tfTransferable : UInt32 := 0x00000008
def tfNftokenSellOffer : UInt32 := 0x00000001
def maxSigningFeeDrops : ℕ := 100000
def maxTransferFeeBps : UInt16 := 50000

inductive XrplSigningIntent
  | SendXrp (destination amountDrops : String) (destinationTag : Option UInt32)
  | MintVaultNft (metadataUri : String) (nftokenTaxon flags : UInt32) (transferFee : Option UInt16)
  | CreateNftTransferOffer (nftokenId destination : String)
  | AcceptNftTransferOffer (offerIndex : String)
  | BurnVaultNft (nftokenId : String)
  deriving DecidableEq

/-! ## Addresses -/

/-- Base58 with the alphabet of the ledger, and SHA-256. -/
structure AddressCodec where
  decodeBase58 : String → Option (List UInt8)
  sha256 : List UInt8 → List UInt8

def isValidXrplClassicAddress (codec : AddressCodec) (address : String) : Bool :=
  match codec.decodeBase58 address with
  | none => false
  | some decoded =>
      decide (decoded.length = 25 ∧ decoded.head? = some 0
        ∧ decoded.drop 21 = (codec.sha256 (codec.sha256 (decoded.take 21))).take 4)

/-! ## Building a transaction -/

def number (n : ℕ) : Json := .Num (.Nat n)

def encodeUpper (s : String) : String := Text.toAsciiUppercase (Text.hexEncode (Text.utf8 s))

def buildNftokenMintTx (account metadataUri : String) (nftokenTaxon : UInt32)
    (flags : Option UInt32) (transferFee : Option UInt16) : Json :=
  .Obj ([("TransactionType", .Str "NFTokenMint"), ("Account", .Str account),
      ("URI", .Str (encodeUpper metadataUri)), ("NFTokenTaxon", number nftokenTaxon.toNat),
      ("Flags", number (flags.getD tfTransferable).toNat)]
    ++ (transferFee.map fun fee => ("TransferFee", number fee.toNat)).toList)

def buildXrpPaymentTx (account destination amountDrops : String)
    (destinationTag : Option UInt32) : Json :=
  .Obj ([("TransactionType", .Str "Payment"), ("Account", .Str account),
      ("Destination", .Str destination), ("Amount", .Str amountDrops)]
    ++ (destinationTag.map fun tag => ("DestinationTag", number tag.toNat)).toList)

def buildNftokenCreateOfferTx (account nftokenId destination amountDrops : String) : Json :=
  .Obj [("TransactionType", .Str "NFTokenCreateOffer"), ("Account", .Str account),
    ("NFTokenID", .Str nftokenId), ("Amount", .Str amountDrops), ("Flags", number 1),
    ("Destination", .Str destination)]

def buildNftokenAcceptOfferTx (account nftokenSellOffer : String) : Json :=
  .Obj [("TransactionType", .Str "NFTokenAcceptOffer"), ("Account", .Str account),
    ("NFTokenSellOffer", .Str nftokenSellOffer)]

def buildNftokenBurnTx (account nftokenId : String) : Json :=
  .Obj [("TransactionType", .Str "NFTokenBurn"), ("Account", .Str account),
    ("NFTokenID", .Str nftokenId)]

/-- The network fields; only an object, or null, can be given a field. -/
def addXrplSigningFields (tx : Json) (feeDrops : String) (sequence lastLedgerSequence : UInt32) :
    Option Json := do
  let tx ← tx.assign? "Fee" (.Str feeDrops)
  let tx ← tx.assign? "Sequence" (number sequence.toNat)
  tx.assign? "LastLedgerSequence" (number lastLedgerSequence.toNat)

/-! ## Reading a transaction -/

def txObject : Json → Except CryptoError (List (String × Json))
  | .Obj members => .ok members
  | _ => .error (.InvalidData "XRPL transaction must be a JSON object")

def stringField (tx : Json) (field : String) : Except CryptoError String :=
  match (tx.get field).bind Json.asStr with
  | some s => .ok s
  | none => .error (.InvalidData ("Missing or invalid XRPL field: " ++ field))

def u32Field (tx : Json) (field : String) : Except CryptoError UInt32 :=
  match (tx.get field).bind Json.asU64 with
  | some value =>
      if value < 2 ^ 32 then .ok (UInt32.ofNat value)
      else .error (.InvalidData ("XRPL field " ++ field ++ " exceeds u32 range"))
  | none => .error (.InvalidData ("Missing or invalid XRPL field: " ++ field))

def parseDrops (value field : String) : Except CryptoError ℕ :=
  if value.toList.isEmpty || !value.toList.all JsonText.isDigit then
    .error (.InvalidData ("XRPL field " ++ field ++ " must be a native XRP drops string"))
  else if JsonText.ofDecimal value.toList < 2 ^ 64 then .ok (JsonText.ofDecimal value.toList)
  else .error (.InvalidData ("XRPL field " ++ field ++ " is outside supported range"))

/-- Refuse with a message unless the condition holds. -/
def demand (condition : Bool) (message : String) : Except CryptoError Unit :=
  if condition then .ok () else .error (.InvalidData message)

def requireStringEquals (tx : Json) (field expected : String) : Except CryptoError Unit := do
  let actual ← stringField tx field
  demand (decide (actual = expected)) ("XRPL field " ++ field ++ " does not match signing intent")

def requireU32Equals (tx : Json) (field : String) (expected : UInt32) : Except CryptoError Unit := do
  let actual ← u32Field tx field
  demand (decide (actual = expected)) ("XRPL field " ++ field ++ " does not match signing intent")

def requireTransactionType (tx : Json) (expected : String) : Except CryptoError Unit :=
  requireStringEquals tx "TransactionType" expected

/-- The fields that `requireExactFields` allows and does not require. -/
def optionalFields : List String :=
  ["DestinationTag", "TransferFee", "SigningPubKey", "TxnSignature", "hash"]

def requireExactFields (tx : Json) (allowed : List String) : Except CryptoError Unit := do
  let obj ← txObject tx
  match obj.find? fun m => !allowed.contains m.1 with
  | some m => .error (.InvalidData ("Unexpected XRPL transaction field: " ++ m.1))
  | none =>
      match allowed.find? fun field =>
          !optionalFields.contains field && !obj.any fun m => decide (m.1 = field) with
      | some field => .error (.InvalidData ("Missing XRPL transaction field: " ++ field))
      | none => .ok ()

def forbidden : List String :=
  ["SigningPubKey", "TxnSignature", "hash", "Memos", "Memo", "HookParameters", "Delegate",
    "Signers", "SignerEntries", "SignerQuorum", "TicketSequence", "SourceTag", "AccountTxnID",
    "NetworkID", "Paths", "SendMax", "DeliverMin", "DeliverMax", "CredentialIDs", "Authorize",
    "Unauthorize", "RegularKey", "Domain", "SetFlag", "ClearFlag"]

def rejectForbiddenFields (tx : Json) : Except CryptoError Unit := do
  let obj ← txObject tx
  match forbidden.find? fun field => obj.any fun m => decide (m.1 = field) with
  | some field => .error (.InvalidData ("Forbidden XRPL transaction field: " ++ field))
  | none => .ok ()

def requireAccount (tx : Json) (walletAddress : String) : Except CryptoError Unit := do
  let account ← stringField tx "Account"
  demand (decide (account = walletAddress)) "XRPL transaction Account does not match Vaulted wallet"

/-! ## Policies -/

def validateCommonSigningFields (tx : Json) (walletAddress : String) : Except CryptoError Unit := do
  rejectForbiddenFields tx
  requireAccount tx walletAddress
  let fee ← stringField tx "Fee"
  let fee ← parseDrops fee "Fee"
  demand (!(decide (fee = 0) || decide (maxSigningFeeDrops < fee)))
    "XRPL transaction Fee exceeds Vaulted policy"
  let sequence ← u32Field tx "Sequence"
  demand (decide (sequence ≠ 0)) "XRPL transaction Sequence must be populated from account_info"
  let lastLedgerSequence ← u32Field tx "LastLedgerSequence"
  demand (decide (lastLedgerSequence ≠ 0)) "XRPL transaction LastLedgerSequence is required"

def validateXrpPaymentPolicy (tx : Json) (destination amountDrops : String)
    (destinationTag : Option UInt32) : Except CryptoError Unit := do
  requireExactFields tx
    ["TransactionType", "Account", "Destination", "Amount", "DestinationTag", "Fee", "Sequence",
      "LastLedgerSequence"]
  requireTransactionType tx "Payment"
  requireStringEquals tx "Destination" destination
  requireStringEquals tx "Amount" amountDrops
  let amount ← parseDrops amountDrops "Amount"
  demand (decide (amount ≠ 0)) "XRP payment Amount must be greater than zero"
  match destinationTag, tx.get "DestinationTag" with
  | some expected, some _ => do
      let actual ← u32Field tx "DestinationTag"
      demand (decide (actual = expected)) "XRP payment DestinationTag does not match intent"
  | none, none => .ok ()
  | _, _ => .error (.InvalidData "XRP payment DestinationTag does not match intent")

def validateNftokenMintPolicy (tx : Json) (metadataUri : String) (nftokenTaxon flags : UInt32)
    (transferFee : Option UInt16) : Except CryptoError Unit := do
  requireExactFields tx
    ["TransactionType", "Account", "URI", "NFTokenTaxon", "Flags", "TransferFee", "Fee", "Sequence",
      "LastLedgerSequence"]
  requireTransactionType tx "NFTokenMint"
  requireStringEquals tx "URI" (encodeUpper metadataUri)
  requireU32Equals tx "NFTokenTaxon" nftokenTaxon
  requireU32Equals tx "Flags" flags
  demand (decide (flags = tfTransferable)) "NFTokenMint flags are not allowlisted"
  match transferFee, tx.get "TransferFee" with
  | some expected, some _ => do
      let actual ← u32Field tx "TransferFee"
      demand (!(decide (actual ≠ expected.toUInt32)
          || decide (maxTransferFeeBps.toUInt32 < actual)))
        "NFTokenMint TransferFee does not match Vaulted policy"
  | none, none => .ok ()
  | _, _ => .error (.InvalidData "NFTokenMint TransferFee does not match intent")

def validateNftokenCreateOfferPolicy (tx : Json) (nftokenId destination : String) :
    Except CryptoError Unit := do
  requireExactFields tx
    ["TransactionType", "Account", "NFTokenID", "Amount", "Flags", "Destination", "Fee", "Sequence",
      "LastLedgerSequence"]
  requireTransactionType tx "NFTokenCreateOffer"
  requireStringEquals tx "NFTokenID" nftokenId
  requireStringEquals tx "Amount" "0"
  requireU32Equals tx "Flags" tfNftokenSellOffer
  requireStringEquals tx "Destination" destination

def validateNftokenAcceptOfferPolicy (tx : Json) (offerIndex : String) :
    Except CryptoError Unit := do
  requireExactFields tx
    ["TransactionType", "Account", "NFTokenSellOffer", "Fee", "Sequence", "LastLedgerSequence"]
  requireTransactionType tx "NFTokenAcceptOffer"
  requireStringEquals tx "NFTokenSellOffer" offerIndex

def validateNftokenBurnPolicy (tx : Json) (nftokenId : String) : Except CryptoError Unit := do
  requireExactFields tx
    ["TransactionType", "Account", "NFTokenID", "Fee", "Sequence", "LastLedgerSequence"]
  requireTransactionType tx "NFTokenBurn"
  requireStringEquals tx "NFTokenID" nftokenId

def validateXrplTransactionForIntent (intent : XrplSigningIntent) (tx : Json)
    (walletAddress : String) : Except CryptoError Unit := do
  validateCommonSigningFields tx walletAddress
  match intent with
  | .SendXrp destination amountDrops destinationTag =>
      validateXrpPaymentPolicy tx destination amountDrops destinationTag
  | .MintVaultNft metadataUri nftokenTaxon flags transferFee =>
      validateNftokenMintPolicy tx metadataUri nftokenTaxon flags transferFee
  | .CreateNftTransferOffer nftokenId destination =>
      validateNftokenCreateOfferPolicy tx nftokenId destination
  | .AcceptNftTransferOffer offerIndex => validateNftokenAcceptOfferPolicy tx offerIndex
  | .BurnVaultNft nftokenId => validateNftokenBurnPolicy tx nftokenId

end Vaulted.XrplWallet
