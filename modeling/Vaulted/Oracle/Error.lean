import Mathlib.Logic.Basic

/-!
# Errors of the Oracle API

`ApiError` as `error.rs` declares it, less the variants that no handler builds, together with
the texts under which the database driver reports a violated constraint.
-/

namespace Vaulted

inductive ApiError
  | Unauthorized (message : String)
  | Forbidden (message : String)
  | NotFound (message : String)
  | BadRequest (message : String)
  | Conflict (message : String)
  | Crypto (message : String)
  | Xrpl (message : String)
  | OwnershipVerificationUnavailable (message : String)
  | NftNotFound (id : String)
  | NotNftOwner
  | Database (message : String)
  | Storage (message : String)
  | Internal (message : String)
  | Validation (message : String)
  deriving DecidableEq, Repr

namespace ApiError

/-- The text of an error (`Display`). -/
def display : ApiError → String
  | Unauthorized message => "Unauthorized: " ++ message
  | Forbidden message => "Forbidden: " ++ message
  | NotFound message => "Not found: " ++ message
  | BadRequest message => "Bad request: " ++ message
  | Conflict message => "Conflict: " ++ message
  | Crypto message => "Crypto error: " ++ message
  | Xrpl message => "XRPL error: " ++ message
  | OwnershipVerificationUnavailable message =>
      "XRPL ownership verification unavailable: " ++ message
  | NftNotFound id => "NFT not found: " ++ id
  | NotNftOwner => "Not NFT owner"
  | Database message => "Database error: " ++ message
  | Storage message => "Storage error: " ++ message
  | Internal message => "Internal error: " ++ message
  | Validation message => "Validation error: " ++ message

/-! ## Database errors -/

/-- `fetch_one` without a row. -/
def rowNotFound : ApiError := NotFound "Resource not found"

/-- An error that the database itself reports. -/
def databaseText (message : String) : String := "error returned from database: " ++ message

def database (message : String) : ApiError := Database (databaseText message)

/-- A value outside the `CHECK` constraint of its column. -/
def checkViolation (table constraint : String) : ApiError :=
  database ("new row for relation \"" ++ table ++ "\" violates check constraint \""
    ++ constraint ++ "\"")

def uniqueViolation (constraint : String) : ApiError :=
  database ("duplicate key value violates unique constraint \"" ++ constraint ++ "\"")

def foreignKeyViolation (table constraint : String) : ApiError :=
  database ("insert or update on table \"" ++ table ++ "\" violates foreign key constraint \""
    ++ constraint ++ "\"")

def valueTooLong (limit : String) : ApiError :=
  database ("value too long for type character varying(" ++ limit ++ ")")

/-- A statement inside a transaction in which an earlier one failed. -/
def transactionAborted : ApiError :=
  database "current transaction is aborted, commands ignored until end of transaction block"

/-- `NULL` where the handler's row type has no option. -/
def unexpectedNull (column : String) : ApiError :=
  Database ("error occurred while decoding column " ++ column
    ++ ": unexpected null; try decoding as an `Option`")

end ApiError

/-! ## Checks outside the database -/

/-- Go on if `c` holds, or stop with `e`. -/
def ensure (c : Bool) (e : ApiError) : Except ApiError Unit := if c then .ok () else .error e

/-- `Option::ok_or`. -/
def okOr {α : Type} (o : Option α) (e : ApiError) : Except ApiError α := o.elim (.error e) .ok

lemma bind_eq_ok {ε α β : Type} {x : Except ε α} {f : α → Except ε β} {b : β}
    (h : x >>= f = .ok b) : ∃ a, x = .ok a ∧ f a = .ok b := by
  cases x with
  | error e => cases h
  | ok a => exact ⟨a, rfl, h⟩

lemma bind_eq_error {ε α β : Type} {x : Except ε α} {f : α → Except ε β} {e : ε}
    (h : x >>= f = .error e) : x = .error e ∨ ∃ a, x = .ok a ∧ f a = .error e := by
  cases x with
  | error e' => exact .inl (congrArg Except.error (Except.error.inj h))
  | ok a => exact .inr ⟨a, rfl, h⟩

lemma ensure_eq_ok {c : Bool} {e : ApiError} {r : Unit} (h : ensure c e = .ok r) : c = true := by
  cases c with
  | false => cases h
  | true => rfl

lemma ensure_eq_error {c : Bool} {e e' : ApiError} (h : ensure c e = .error e') : e' = e := by
  cases c with
  | false => exact (Except.error.inj h).symm
  | true => cases h

lemma okOr_eq_error {α : Type} {o : Option α} {e e' : ApiError} (h : okOr o e = .error e') :
    e' = e := by
  cases o with
  | none => exact (Except.error.inj h).symm
  | some a => cases h

lemma okOr_eq_ok {α : Type} {o : Option α} {e : ApiError} {a : α} (h : okOr o e = .ok a) :
    o = some a := by
  cases o with
  | none => cases h
  | some b => exact congrArg some (Except.ok.inj h)

end Vaulted
