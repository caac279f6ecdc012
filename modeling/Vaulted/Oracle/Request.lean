import Vaulted.Oracle.Schema

/-!
# What a request brings with it

Everything a handler sees besides the database and the request body.

* `AuthenticatedUser` — the caller.
* `AppState` — what stays the same over a run of the Oracle.
* `Env` — the outside world during one call: what the program text leaves open, such as clock,
  generated identifiers, randomness, the order in which the database happens to return rows of a
  query without `ORDER BY`, and the answers of the services that the Oracle calls.
-/

namespace Vaulted

/-- The caller of an authenticated endpoint, as the token names it (`auth.rs`). -/
structure AuthenticatedUser where
  walletAddress : String
  tokenId : String
  role : String
  deriving DecidableEq

/-- The configuration, and the hash function. -/
structure AppState where
  host : String
  port : Nat
  publicUrl : Option String
  jwtExpirationHours : Nat
  dbEncryptionKey : Option String
  /-- The environment variable `STORAGE_NODE_URL`. -/
  storageNodeUrl : Option String
  /-- The address of the Oracle's own wallet. -/
  oracleAddress : Option String
  sha256 : List UInt8 → List UInt8

/-- One JSON-RPC request to the XRPL node. -/
structure RpcCall where
  method : String
  params : List (String × Json)

structure Env where
  now : Time
  /-- The identifiers that the call may generate, by their place in the program text. -/
  uuid : Nat → Uuid
  /-- Randomness of the cryptographic operations. -/
  rng : Nat
  /-- Which of several rows an unordered query returns first. -/
  pick : Nat
  /-- The order in which a query returns the wallets of all users. -/
  order : List String → List String
  /-- The answer of the XRPL node to the `n`-th HTTP request of the call, or the text of the
  transport or decoding error. -/
  xrpl : Nat → RpcCall → Except String Json
  /-- The answer of a storage node to the `n`-th HTTP request of the call. -/
  storage : Nat → NodeAnswer

/-- A world in which every other service is down. -/
instance : Inhabited Env where
  default :=
    { now := 0
      uuid := fun _ => ⟨""⟩
      rng := 0
      pick := 0
      order := id
      xrpl := fun _ _ => .error ""
      storage := fun _ => .TransportError }

/-- The row an unordered query returns first. -/
def Env.choose {α : Type} (env : Env) (rows : List α) : Option α := rows[env.pick % rows.length]?

lemma Env.mem_of_choose {α : Type} {env : Env} {rows : List α} {a : α}
    (h : env.choose rows = some a) : a ∈ rows :=
  List.mem_of_getElem? h

/-- The answer of an unordered query: the rows, in some order. -/
def Env.unordered (env : Env) (rows : List String) : List String :=
  if (env.order rows).isPerm rows then env.order rows else rows

lemma Env.mem_unordered {env : Env} {rows : List String} {a : String} :
    a ∈ env.unordered rows ↔ a ∈ rows := by
  unfold unordered
  split_ifs with h
  · exact (List.isPerm_iff.mp h).mem_iff
  · rfl

end Vaulted
