import Vaulted.Oracle.Request

/-!
# The XRPL service

`xrpl.rs`, as far as it reads the ledger: the JSON-RPC call with its retries and the checks that
the handlers make of the answers.  Minting, offers and burns of the Oracle's own wallet are
signed by a library and are not modelled.

* `rpc` — the `n`-th remote call of a request, up to three HTTP requests.
* `verifyNftOwner`, `verifyLocalNftMint`, `verifyLocalNftBurn` — the checks.
* `Env.shows` — the ledger lists a token under an account.  A check that succeeds has seen it
  (`shows_of_verifyNftOwner`, `shows_of_verifyLocalNftMint`).
-/

namespace Vaulted

namespace Xrpl

/-! ## JSON-RPC -/

/-- One HTTP request; the service turns an `error` member into an error. -/
def rpcOnce (env : Env) (i : Nat) (call : RpcCall) : Except ApiError Json :=
  match env.xrpl i call with
  | .error message => .error (.Xrpl message)
  | .ok data =>
      match ((data.index "result").index "error").asStr with
      | some error => .error (.Xrpl ("XRPL error: " ++ error))
      | none => .ok data

/-- Up to three attempts; the last error counts. -/
def rpc (env : Env) (n : Nat) (call : RpcCall) : Except ApiError Json :=
  match rpcOnce env (3 * n) call with
  | .ok data => .ok data
  | .error _ =>
      match rpcOnce env (3 * n + 1) call with
      | .ok data => .ok data
      | .error _ => rpcOnce env (3 * n + 2) call

lemma rpcOnce_of_rpc {env : Env} {n : Nat} {call : RpcCall} {data : Json}
    (h : rpc env n call = .ok data) : ∃ i, rpcOnce env i call = .ok data := by
  unfold rpc at h
  split at h
  · next hfirst => exact ⟨_, hfirst.trans h⟩
  · split at h
    · next hsecond => exact ⟨_, hsecond.trans h⟩
    · exact ⟨_, h⟩

def txCall (txHash : String) : RpcCall where
  method := "tx"
  params := [("transaction", .Str txHash), ("binary", .Boolean false)]

/-- The tokens in an answer to `account_nfts`. -/
def listedNfts (data : Json) : List Json :=
  (((data.index "result").index "account_nfts").asArray).getD []

/-! ## Ownership -/

def accountNftsCall (account : String) : RpcCall where
  method := "account_nfts"
  params := [("account", .Str account), ("ledger_index", .Str "validated")]

def accountNftsLimitCall (account : String) : RpcCall where
  method := "account_nfts"
  params := [("account", .Str account), ("ledger_index", .Str "validated"),
    ("limit", .Num (.Nat 400))]

/-- `verify_nft_owner`, the `n`-th call of a request. -/
def verifyNftOwner (env : Env) (n : Nat) (nftTokenId expectedOwner : String) :
    Except ApiError Bool := do
  let data ← rpc env n (accountNftsCall expectedOwner)
  .ok ((listedNfts data).any fun nft => decide ((nft.index "NFTokenID").asStr = some nftTokenId))

/-- `account_nfts`. -/
def accountNfts (env : Env) (n : Nat) (account : String) : Except ApiError (List Json) := do
  let data ← rpc env n (accountNftsLimitCall account)
  .ok (listedNfts data)

/-- `check_nft_on_oracle`; the address is the one of the Oracle's wallet. -/
def checkNftOnOracle (env : Env) (n : Nat) (oracleAddress : Option String) (nftTokenId : String) :
    Except ApiError Bool := do
  let address ← okOr oracleAddress (.Internal "Oracle wallet not configured")
  let response ← rpc env n
    { method := "account_nfts"
      params := [("account", .Str address), ("limit", .Num (.Nat 400))] }
  .ok ((listedNfts response).any fun nft =>
    decide ((nft.index "NFTokenID").asStr = some nftTokenId))

/-! ## Transactions -/

def decodeXrplUri (hexUri : String) : Except ApiError String :=
  match Text.hexDecode hexUri with
  | .error _ => .error (.Xrpl "Invalid XRPL NFT URI hex")
  | .ok bytes =>
      match Text.fromUtf8 bytes with
      | some uri => .ok uri
      | none => .error (.Xrpl "XRPL NFT URI is not valid UTF-8")

/-- The `NFTokenID` of the last token of a list of page entries. -/
def lastTokenId (nftokens : List Json) : Option String :=
  nftokens.getLast?.bind fun t => (t.get "NFToken").bind fun nft =>
    (nft.get "NFTokenID").bind Json.asStr

/-- A modified token page that has grown. -/
def modifiedNodeTokenId (node : Json) : Option String := do
  let modified ← node.get "ModifiedNode"
  let finalFields ← modified.get "FinalFields"
  let nftokens ← (← finalFields.get "NFTokens").asArray
  let prevNftokens := ((((modified.get "PreviousFields").bind (·.get "NFTokens")).bind
    Json.asArray).map List.length).getD 0
  if nftokens.length > prevNftokens then lastTokenId nftokens else none

def createdNodeTokenId (node : Json) : Option String := do
  let created ← node.get "CreatedNode"
  let newFields ← created.get "NewFields"
  let nftokens ← (← newFields.get "NFTokens").asArray
  lastTokenId nftokens

/-- `extract_nft_id_from_meta`. -/
def extractNftIdFromMeta (result : Json) : Option String :=
  match ((result.index "meta").index "nftoken_id").asStr with
  | some id => some id
  | none => do
      let nodes ← ((result.index "meta").index "AffectedNodes").asArray
      (nodes.findSome? modifiedNodeTokenId).or (nodes.findSome? createdNodeTokenId)

/-- The checks that a mint and a burn share: a validated transaction of the expected type, which
succeeded and which the expected owner sent.  The answer is the transaction and its sender. -/
def verifyTransaction (env : Env) (txHash txType noun expectedOwner : String) :
    Except ApiError (Json × String) := do
  let txData ← rpc env 0 (txCall txHash)
  let result ← okOr (txData.get "result") (.Xrpl "No transaction result")
  ensure (decide ((result.get "validated").bind Json.asBool = some true))
    (.Xrpl ("Transaction " ++ txHash ++ " is not validated yet"))
  let txResult := (result.textAt ["meta", "TransactionResult"]).getD "unknown"
  ensure (decide (txResult = "tesSUCCESS"))
    (.Xrpl ("Transaction " ++ txHash ++ " did not succeed: " ++ txResult))
  let actualType := ((result.get "TransactionType").bind Json.asStr).getD ""
  ensure (decide (actualType = txType))
    (.Xrpl ("Transaction " ++ txHash ++ " is " ++ actualType ++ ", not " ++ txType))
  let account ← okOr ((result.get "Account").bind Json.asStr)
    (.Xrpl (txType ++ " transaction has no Account"))
  ensure (Text.eqIgnoreAsciiCase account expectedOwner)
    (.Forbidden (noun ++ " transaction account " ++ account ++ " does not match expected owner "
      ++ expectedOwner))
  .ok (result, account)

structure LocalMintVerification where
  txHash : String
  nftTokenId : String
  owner : String
  uri : String
  validated : Bool

/-- A token of a list with the expected id and URI. -/
def listsMint (nftTokenId expectedUri : String) (nft : Json) : Bool :=
  ((nft.get "NFTokenID").bind Json.asStr).any (Text.eqIgnoreAsciiCase · nftTokenId)
    && ((nft.get "URI").bind Json.asStr).any fun hexUri =>
      match decodeXrplUri hexUri with
      | .ok ledgerUri => decide (ledgerUri = expectedUri)
      | .error _ => false

/-- `verify_local_nft_mint`. -/
def verifyLocalNftMint (env : Env) (txHash nftTokenId expectedOwner expectedUri : String) :
    Except ApiError LocalMintVerification := do
  ensure (Text.isHexOfLen 64 txHash) (.Validation "Invalid XRPL transaction hash")
  ensure (Text.isHexOfLen 64 nftTokenId) (.Validation "Invalid NFTokenID")
  let (result, account) ← verifyTransaction env txHash "NFTokenMint" "Mint" expectedOwner
  let mintedId ← okOr (extractNftIdFromMeta result)
    (.Xrpl "Minted NFTokenID not found in transaction metadata")
  ensure (Text.eqIgnoreAsciiCase mintedId nftTokenId)
    (.Xrpl ("Minted NFTokenID mismatch: tx has " ++ mintedId ++ ", request has " ++ nftTokenId))
  let uriHex ← okOr ((result.get "URI").bind Json.asStr)
    (.Xrpl "NFTokenMint transaction has no URI")
  let uri ← decodeXrplUri uriHex
  ensure (decide (uri = expectedUri)) (.Xrpl "Mint URI does not match prepared manifest URI")
  let nfts ← accountNfts env 1 expectedOwner
  ensure (nfts.any (listsMint nftTokenId expectedUri)) .NotNftOwner
  .ok
    { txHash := Text.toAsciiUppercase txHash
      nftTokenId := Text.toAsciiUppercase nftTokenId
      owner := account
      uri
      validated := true }

/-- `verify_local_nft_burn`. -/
def verifyLocalNftBurn (env : Env) (txHash nftTokenId expectedOwner : String) :
    Except ApiError Unit := do
  ensure (Text.isHexOfLen 64 txHash) (.Validation "Invalid XRPL transaction hash")
  ensure (Text.isHexOfLen 64 nftTokenId) (.Validation "Invalid NFTokenID")
  let (result, _) ← verifyTransaction env txHash "NFTokenBurn" "Burn" expectedOwner
  let burnedNftTokenId ← okOr ((result.get "NFTokenID").bind Json.asStr)
    (.Xrpl "NFTokenBurn transaction has no NFTokenID")
  ensure (Text.eqIgnoreAsciiCase burnedNftTokenId nftTokenId)
    (.Xrpl ("Burned NFTokenID mismatch: tx has " ++ burnedNftTokenId ++ ", request has "
      ++ nftTokenId))

end Xrpl

/-! ## What the checks have seen -/

open Xrpl in
/-- The ledger, asked during a call, lists a token under an account. -/
def Env.shows (env : Env) (nftTokenId account : String) : Prop :=
  ∃ i call data, (call = accountNftsCall account ∨ call = accountNftsLimitCall account)
    ∧ rpcOnce env i call = .ok data
    ∧ ∃ nft ∈ listedNfts data, ∃ id, (nft.get "NFTokenID").bind Json.asStr = some id
      ∧ Text.eqIgnoreAsciiCase id nftTokenId = true

namespace Xrpl

lemma asStr_index {j : Json} {k s : String} (h : (j.index k).asStr = some s) :
    (j.get k).bind Json.asStr = some s := by
  cases hget : j.get k with
  | none => rw [Json.index, hget] at h; cases h
  | some v => rw [Json.index, hget] at h; exact h

lemma shows_of_verifyNftOwner {env : Env} {n : Nat} {nftTokenId wallet : String}
    (h : verifyNftOwner env n nftTokenId wallet = .ok true) : env.shows nftTokenId wallet := by
  cases hrpc : rpc env n (accountNftsCall wallet) with
  | error e => rw [verifyNftOwner, hrpc] at h; cases h
  | ok data =>
      rw [verifyNftOwner, hrpc] at h
      obtain ⟨nft, hnft, hid⟩ := List.any_eq_true.mp (Except.ok.inj h)
      obtain ⟨i, hi⟩ := rpcOnce_of_rpc hrpc
      exact ⟨i, _, data, .inl rfl, hi, nft, hnft, nftTokenId, asStr_index (of_decide_eq_true hid),
        Text.eqIgnoreAsciiCase_self _⟩

lemma shows_of_accountNfts {env : Env} {n : Nat} {wallet nftTokenId uri : String}
    {nfts : List Json} (h : accountNfts env n wallet = .ok nfts)
    (hlist : nfts.any (listsMint nftTokenId uri) = true) : env.shows nftTokenId wallet := by
  cases hrpc : rpc env n (accountNftsLimitCall wallet) with
  | error e => rw [accountNfts, hrpc] at h; cases h
  | ok data =>
      rw [accountNfts, hrpc] at h
      rw [← Except.ok.inj h] at hlist
      obtain ⟨nft, hnft, hmint⟩ := List.any_eq_true.mp hlist
      obtain ⟨i, hi⟩ := rpcOnce_of_rpc hrpc
      rw [listsMint, Bool.and_eq_true, Option.any_eq_true] at hmint
      obtain ⟨⟨id, hid, heq⟩, -⟩ := hmint
      exact ⟨i, _, data, .inr rfl, hi, nft, hnft, id, hid, heq⟩

/-- A verified mint has been seen under its owner. -/
theorem shows_of_verifyLocalNftMint {env : Env} {txHash nftTokenId owner uri : String}
    {v : LocalMintVerification} (h : verifyLocalNftMint env txHash nftTokenId owner uri = .ok v) :
    env.shows nftTokenId owner := by
  obtain ⟨_, -, h⟩ := bind_eq_ok h
  obtain ⟨_, -, h⟩ := bind_eq_ok h
  obtain ⟨_, -, h⟩ := bind_eq_ok h
  obtain ⟨_, -, h⟩ := bind_eq_ok h
  obtain ⟨_, -, h⟩ := bind_eq_ok h
  obtain ⟨_, -, h⟩ := bind_eq_ok h
  obtain ⟨_, -, h⟩ := bind_eq_ok h
  obtain ⟨_, -, h⟩ := bind_eq_ok h
  obtain ⟨nfts, hnfts, h⟩ := bind_eq_ok h
  obtain ⟨_, hlist, -⟩ := bind_eq_ok h
  exact shows_of_accountNfts hnfts (ensure_eq_ok hlist)

end Xrpl

end Vaulted
