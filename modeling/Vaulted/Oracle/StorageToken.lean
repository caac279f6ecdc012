import Mathlib.Algebra.Group.Nat.Defs
import Mathlib.Logic.Basic

/-!
# Storage tokens

`storage_token.rs`: what the Oracle signs so that a storage node accepts a request for one
fragment, and a record of such a request.  The signature itself is not modelled; whoever holds
a token that the Oracle made holds it signed.
-/

namespace Vaulted

/-- A UUID, by its canonical text. -/
@[ext] structure Uuid where
  text : String
  deriving DecidableEq, Repr

/-- Microseconds since the epoch. -/
abbrev Time := Nat

/-- `chrono::DateTime<Utc>`, as a request can state a time: seconds since the epoch, and nanoseconds.
In a leap second, which can only follow the last second of a minute, they go on counting. -/
@[ext] structure DateTime where
  timestamp : Nat
  subsecNanos : Nat
  bound : subsecNanos < 2 * 10 ^ 9
  leap : 10 ^ 9 ≤ subsecNanos → timestamp % 60 = 59
  deriving DecidableEq

namespace DateTime

instance : LT DateTime where
  lt t t' := t.timestamp < t'.timestamp
    ∨ t.timestamp = t'.timestamp ∧ t.subsecNanos < t'.subsecNanos

instance (t t' : DateTime) : Decidable (t < t') :=
  inferInstanceAs (Decidable (_ ∨ _))

/-- What a column keeps: microseconds, without leap seconds. -/
def stored (t : DateTime) : Time := (10 ^ 9 * t.timestamp + t.subsecNanos) / 1000

end DateTime

def Time.dateTime (t : Time) : DateTime where
  timestamp := t / 10 ^ 6
  subsecNanos := 1000 * (t % 10 ^ 6)
  bound := by omega
  leap h := by omega

/-- A time of whole microseconds, and outside of leap seconds. -/
def DateTime.IsWhole (t : DateTime) : Prop := t.subsecNanos < 10 ^ 9 ∧ t.subsecNanos % 1000 = 0

/-- Those are the times that come back from a column as they were. -/
lemma DateTime.dateTime_stored (t : DateTime) : t.stored.dateTime = t ↔ t.IsWhole := by
  obtain ⟨timestamp, subsecNanos, bound, leap⟩ := t
  simp only [stored, Time.dateTime, mk.injEq, IsWhole]
  omega

inductive StorageOperation
  | Read
  | Write
  | Delete
  deriving DecidableEq, Repr

structure StorageToken where
  nftTokenId : String
  storageKey : String
  operation : StorageOperation
  exp : Nat
  iat : Nat
  storageNodeId : Option String
  fragmentHash : Option String
  jti : Option String
  deriving DecidableEq

/-- `StorageToken::new_scoped`. -/
def StorageToken.newScoped (now : Time) (jti : Uuid) (nftTokenId storageKey : String)
    (operation : StorageOperation) (expiresInMinutes : Nat) (storageNodeId : Option String)
    (fragmentHash : Option String) : StorageToken where
  nftTokenId := nftTokenId
  storageKey := storageKey
  operation := operation
  exp := (now + expiresInMinutes * 60000000) / 1000000
  iat := now / 1000000
  storageNodeId := storageNodeId
  fragmentHash := fragmentHash
  jti := some jti.text

/-- `storage_node_scope`. -/
def storageNodeScope (nodeId : String) : String := if nodeId = "" then "node-local-1" else nodeId

/-- The outcome of one request to a storage node: a status, with the body or the error of reading
it, or no response at all. -/
inductive NodeAnswer
  | Status (code : Nat) (body : Except String (List UInt8))
  | TransportError

def NodeAnswer.isSuccess : NodeAnswer → Bool
  | .Status code _ => decide (200 ≤ code ∧ code < 300)
  | .TransportError => false

def NodeAnswer.isNotFound : NodeAnswer → Bool
  | .Status code _ => decide (code = 404)
  | .TransportError => false

/-- The node has deleted a fragment, or does not have it. -/
def NodeAnswer.confirmsDeletion (answer : NodeAnswer) : Bool := answer.isSuccess || answer.isNotFound

/-- A request that the Oracle has sent to a storage node, with the token it signed for it. -/
structure StorageRequest where
  token : StorageToken
  /-- The node as the Oracle addresses it, by its id and by its URL. -/
  nodeId : String
  endpointUrl : String
  answer : NodeAnswer

/-- An upload that the node has accepted. -/
def StorageRequest.isStored (r : StorageRequest) : Bool :=
  decide (r.token.operation = .Write) && r.answer.isSuccess

end Vaulted
