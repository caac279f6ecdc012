import Vaulted.Desktop.ClientError
import Vaulted.Library.Interleaving
import Vaulted.Library.Table
import Vaulted.Library.Text
import Vaulted.Oracle.StorageToken

/-!
# The registry of signed blobs

A signed transaction is registered when it has been signed, and consumed when it is submitted.
`state.rs` keeps the registry and the unlocked wallet under two locks, which the commands take one
after the other.

* `Memory` — what the locks protect.
* `Statement`, `exec` — what is done under a lock.
* `registerSignedXrplTxBlob`, `consumeSignedXrplTxBlob`, `clearSession` — the operations;
  `unlock` — a wallet is restored from its seed phrase.

`clear_session` holds the lock of the wallet until it has cleared the registry, so nobody sees one
of them without the other, and both are one statement.
-/

namespace Vaulted.BlobRegistry

open Interleaving

/-! ## The memory -/

structure SignedXrplTransactionRecord where
  txBlobHash : String
  signingIntent : String
  walletAddress : String
  createdAt : Time
  expiresAt : Time
  requestId : Option String
  consumed : Bool
  deriving DecidableEq

structure Memory where
  /-- The address of the wallet that is unlocked. -/
  xrplWallet : Option String
  signedXrplTransactions : Table SignedXrplTransactionRecord.txBlobHash

/-- The clock, when a lock has been taken. -/
structure World where
  now : Time

/-! ## Statements -/

inductive Statement
  | GetXrplWallet
  | Insert (record : SignedXrplTransactionRecord)
  | Consume (txBlobHash currentWallet : String) (now : Time)
  | Clear
  | Unlock (wallet : String)

abbrev Answer : Statement → Type
  | .GetXrplWallet => Option String
  | .Insert _ => Unit
  | .Consume _ _ _ => Except ClientError SignedXrplTransactionRecord
  | .Clear => Unit
  | .Unlock _ => Unit

/-- What a record answers to somebody who wants to submit its blob. -/
def SignedXrplTransactionRecord.check (record : SignedXrplTransactionRecord)
    (currentWallet : String) (now : Time) : Except ClientError Unit :=
  if record.consumed then
    .error (.Auth ("XRPL transaction submit was rejected because this signed payload was already"
      ++ " submitted"))
  else if record.expiresAt ≤ now then
    .error (.Auth ("XRPL transaction submit was rejected because this signed payload approval"
      ++ " expired"))
  else if !Text.eqIgnoreAsciiCase record.walletAddress currentWallet then
    .error (.Auth ("XRPL transaction submit was rejected because this signed payload belongs to a"
      ++ " different wallet session"))
  else .ok ()

/-- What is neither consumed nor expired is retained. -/
def SignedXrplTransactionRecord.retained (now : Time) (record : SignedXrplTransactionRecord) :
    Bool := !record.consumed && decide (now < record.expiresAt)

def consumeRecord (txBlobHash currentWallet : String) (now : Time) (m : Memory) :
    Except ClientError SignedXrplTransactionRecord × Memory :=
  match m.signedXrplTransactions.get? txBlobHash with
  | none => (.error (.Auth ("XRPL transaction submit was rejected because this signed payload is not"
      ++ " bound to the current Vaulted session")), m)
  | some record =>
      match record.check currentWallet now with
      | .error e => (.error e, m)
      | .ok _ =>
          (.ok { record with consumed := true },
            { m with
              signedXrplTransactions := m.signedXrplTransactions.update txBlobHash
                (fun record => { record with consumed := true }) (fun _ => rfl) })

/-- The old entry of a hash is replaced. -/
def insertRecord (record : SignedXrplTransactionRecord) (now : Time) (m : Memory) : Memory :=
  { m with
    signedXrplTransactions :=
      (m.signedXrplTransactions.deleteWhere fun old => !old.retained now).upsert record
        (fun old => { record with txBlobHash := old.txBlobHash }) (fun _ => rfl) }

lemma get?_insertRecord (record : SignedXrplTransactionRecord) (now : Time) (m : Memory)
    (hash : String) :
    (insertRecord record now m).signedXrplTransactions.get? hash
      = if hash = record.txBlobHash then some record
        else (m.signedXrplTransactions.get? hash).filter (·.retained now) := by
  simp only [insertRecord, Table.get?_upsert, Table.get?_deleteWhere, Bool.not_not]
  split_ifs with hkey
  · cases hold : (m.signedXrplTransactions.get? record.txBlobHash).filter (·.retained now) with
    | none => rfl
    | some old =>
        have hhash : old.txBlobHash = record.txBlobHash :=
          Table.key_of_get? (Option.filter_eq_some_iff.mp hold).1
        rw [Option.elim_some, hhash]
  · rfl

def exec (stmt : Statement) (w : World) (m : Memory) : Answer stmt × Memory :=
  match stmt with
  | .GetXrplWallet => (m.xrplWallet, m)
  | .Insert record => ((), insertRecord record w.now m)
  | .Consume txBlobHash currentWallet now => consumeRecord txBlobHash currentWallet now m
  | .Clear => ((), { xrplWallet := none, signedXrplTransactions := .empty })
  | .Unlock wallet => ((), { m with xrplWallet := some wallet })

/-! ## The operations -/

inductive Request
  | Register (txBlob signingIntent walletAddress : String) (expiresAt : Time)
      (requestId : Option String)
  | Consume (txBlob : String)
  | ClearSession
  | Unlock (wallet : String)
  deriving DecidableEq

inductive Reply
  | Registered (record : SignedXrplTransactionRecord)
  | Consumed (record : SignedXrplTransactionRecord)
  | Failed (e : ClientError)
  | Done
  deriving DecidableEq

abbrev Rest := Proc Answer World Reply

variable (sha256 : List UInt8 → List UInt8)

def hashXrplTxBlob (txBlob : String) : String := Text.hexEncode (sha256 (Text.utf8 txBlob))

def registerSignedXrplTxBlob (txBlob signingIntent walletAddress : String) (expiresAt : Time)
    (requestId : Option String) (w : World) : Rest :=
  if Text.isEmpty (Text.trim walletAddress) then
    .Done (.Failed (.Validation "Signed XRPL transaction must be bound to a wallet address"))
  else if expiresAt ≤ w.now then
    .Done (.Failed (.Validation "Signed XRPL transaction approval is already expired"))
  else
    let record : SignedXrplTransactionRecord :=
      { txBlobHash := hashXrplTxBlob sha256 txBlob, signingIntent, walletAddress
        createdAt := w.now, expiresAt, requestId, consumed := false }
    .Exec (.Insert record) fun _ _ => .Done (.Registered record)

/-- The clock is read before the registry is locked. -/
def consumeSignedXrplTxBlob (txBlob : String) : Rest :=
  .Exec .GetXrplWallet fun wallet w =>
    match wallet with
    | none => .Done (.Failed (.Auth
        "Vaulted wallet is locked. Create or restore it from seed phrase first."))
    | some currentWallet =>
        .Exec (.Consume (hashXrplTxBlob sha256 txBlob) currentWallet w.now) fun consumed _ =>
          match consumed with
          | .ok record => .Done (.Consumed record)
          | .error e => .Done (.Failed e)

def clearSession : Rest := .Exec .Clear fun _ _ => .Done .Done

def unlock (wallet : String) : Rest := .Exec (.Unlock wallet) fun _ _ => .Done .Done

def program : Request → World → Rest
  | .Register txBlob signingIntent walletAddress expiresAt requestId, w =>
      registerSignedXrplTxBlob sha256 txBlob signingIntent walletAddress expiresAt requestId w
  | .Consume txBlob, _ => consumeSignedXrplTxBlob sha256 txBlob
  | .ClearSession, _ => clearSession
  | .Unlock wallet, _ => unlock wallet

/-- The memory, and the operations under way. -/
abbrev Client := State Memory Request Answer World Reply

abbrev step (s : Client) (l : Label Request World) : Client :=
  Interleaving.step exec (program sha256) s l

/-- A client that starts is locked. -/
def started : Client := ⟨⟨none, .empty⟩, []⟩

end Vaulted.BlobRegistry
