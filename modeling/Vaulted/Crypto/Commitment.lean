import Vaulted.Crypto.AesStream
import Vaulted.Library.ByteSlices

/-!
# Commitments to a file key

`commitment.rs`: the hash of a key and a nonce, which goes into the URI of an NFT.

* `KeyCommitment` — hash and nonce, in arrays of their sizes.
* `verify_iff` — which keys a commitment accepts.
-/

namespace Vaulted.Commitment

open Aes (AesKey)

def nonceSize : Nat := 16
def commitmentSize : Nat := 32

/-- `[u8; N]`. -/
abbrev Bytes (n : Nat) := { bytes : List UInt8 // bytes.length = n }

/-- `copy_from_slice`, with the error for a slice of another length. -/
def toArray (n : Nat) (bytes : List UInt8) (e : CryptoError) :
    Except CryptoError (Bytes n) :=
  if h : bytes.length = n then .ok ⟨bytes, h⟩ else .error e

@[ext] structure KeyCommitment where
  commitment : Bytes commitmentSize
  nonce : Bytes nonceSize
  deriving DecidableEq

section

variable (sha256 : List UInt8 → Bytes commitmentSize)

def computeHash (aesKey nonce : List UInt8) : Bytes commitmentSize := sha256 (aesKey ++ nonce)

namespace KeyCommitment

/-- `create` draws the nonce; `create_with_nonce` is given it. -/
def createWithNonce (aesKey : AesKey) (nonce : Bytes nonceSize) : KeyCommitment where
  commitment := computeHash sha256 aesKey.key nonce.val
  nonce := nonce

def verify (c : KeyCommitment) (aesKey : AesKey) : Bool :=
  decide (computeHash sha256 aesKey.key c.nonce.val = c.commitment)

def commitmentHex (c : KeyCommitment) : String := Text.hexEncode c.commitment.val

def nonceHex (c : KeyCommitment) : String := Text.hexEncode c.nonce.val

end KeyCommitment

end

/-! ## What a commitment accepts -/

lemma toArray_val {n : Nat} (a : Bytes n) (e : CryptoError) : toArray n a.val e = .ok a :=
  dif_pos a.property

lemma toArray_eq_ok {n : Nat} {bytes : List UInt8} {e : CryptoError} {a : Bytes n}
    (h : toArray n bytes e = .ok a) : bytes = a.val := by
  rw [toArray] at h
  split_ifs at h with hlen
  rw [← Except.ok.inj h]

variable {sha256 : List UInt8 → Bytes commitmentSize}

/-- **A commitment accepts a key** if its hash with the nonce is the one that was committed to. -/
theorem verify_iff {c : KeyCommitment} {aesKey : AesKey} :
    c.verify sha256 aesKey = true ↔ sha256 (aesKey.key ++ c.nonce.val) = c.commitment :=
  decide_eq_true_iff

lemma verify_createWithNonce (aesKey : AesKey) (nonce : Bytes nonceSize) :
    (KeyCommitment.createWithNonce sha256 aesKey nonce).verify sha256 aesKey = true :=
  decide_eq_true rfl

end Vaulted.Commitment
