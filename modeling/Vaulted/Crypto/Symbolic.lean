import Mathlib.Data.List.Basic
import Vaulted.Crypto.Pre
import Vaulted.Library.JsonText

/-!
# Umbral on terms

`Umbral.symbolic` is Umbral without the algebra: a key is a number, a capsule the number of the
key it was made for, a fragment the numbers of the keys it binds.  It keeps every promise of
`Umbral.Ideal` (`symbolic_ideal`), so statements about an ideal Umbral are about something, and
it computes, so they can be tried out.

`digestOf` is a hash for the same purpose: it has 32 bytes, and nothing collides with the inputs it
is given.
-/

namespace Vaulted

structure SymbolicKeyFrag where
  delegating : UInt8
  receiving : UInt8
  verifying : UInt8
  deriving DecidableEq, Repr

structure SymbolicCapsuleFrag where
  capsule : UInt8
  kfrag : SymbolicKeyFrag
  deriving DecidableEq, Repr

/-- 33 bytes, as a compressed curve point has. -/
def symbolicKeyBytes (n : UInt8) : List UInt8 := 2 :: n :: List.replicate 31 0

def Umbral.symbolic : Umbral where
  SecretKey := UInt8
  PublicKey := UInt8
  Capsule := UInt8
  KeyFrag := SymbolicKeyFrag
  CapsuleFrag := SymbolicCapsuleFrag
  publicKey sk := sk
  publicKeyToBytes := symbolicKeyBytes
  publicKeyFromBytes bytes :=
    match bytes with
    | _ :: n :: _ => if symbolicKeyBytes n = bytes then .ok n else .error "crypto error"
    | _ => .error "crypto error"
  capsuleToBytes c := [c]
  capsuleFromBytes bytes :=
    match bytes with
    | [c] => .ok c
    | _ => .error "Invalid length"
  keyFragToBytes k := [k.delegating, k.receiving, k.verifying]
  keyFragFromBytes bytes :=
    match bytes with
    | [delegating, receiving, verifying] => .ok { delegating, receiving, verifying }
    | _ => .error "Invalid length"
  capsuleFragToBytes f := [f.capsule, f.kfrag.delegating, f.kfrag.receiving, f.kfrag.verifying]
  capsuleFragFromBytes bytes :=
    match bytes with
    | [capsule, delegating, receiving, verifying] =>
        .ok { capsule, kfrag := { delegating, receiving, verifying } }
    | _ => .error "Invalid length"
  encrypt _ pk plaintext := .ok (pk, plaintext)
  decryptOriginal sk c ciphertext :=
    if c = sk then .ok ciphertext else .error "AuthenticationFailed"
  generateKfrags _ sk pk signer _ shares _ _ :=
    List.replicate shares { delegating := sk, receiving := pk, verifying := signer }
  verifyKeyFrag k vk delegating receiving :=
    if k.verifying = vk ∧ delegating.all (· = k.delegating) ∧ receiving.all (· = k.receiving) then
      .ok ()
    else .error "IncorrectKeySignature"
  reencrypt _ c k := { capsule := c, kfrag := k }
  verifyCapsuleFrag f c vk delegating receiving :=
    if f = { capsule := c, kfrag := { delegating, receiving, verifying := vk } } then .ok ()
    else .error "IncorrectReencryption"
  decryptReencrypted sk delegating c cfrags ciphertext :=
    match cfrags with
    | [f] =>
        if f.capsule = c ∧ c = delegating ∧ f.kfrag.delegating = delegating
            ∧ f.kfrag.receiving = sk then .ok ciphertext
        else .error "AuthenticationFailed"
    | _ => .error "NoCapsuleFrags"

lemma symbolic_generateKfrags {rng : Nat} {a b s : UInt8} {k : SymbolicKeyFrag}
    (h : Umbral.symbolic.generateKfrags rng a b s 1 1 true true = [k]) :
    k = { delegating := a, receiving := b, verifying := s } :=
  (List.cons.inj h).1.symm

theorem symbolic_ideal : Umbral.symbolic.Ideal where
  publicKey_bytes pk := if_pos rfl
  capsule_bytes c := rfl
  keyFrag_bytes k := rfl
  capsuleFrag_bytes f := rfl
  kfrags_single _ _ _ _ := ⟨_, rfl⟩
  kfrag_verifies rng a pk signer k h := by
    rw [symbolic_generateKfrags h]
    exact if_pos ⟨rfl, @decide_eq_true (a = a) (instDecidableEqUInt8 a a) rfl,
      @decide_eq_true (pk = pk) (instDecidableEqUInt8 pk pk) rfl⟩
  cfrag_verifies rng a b signer k h rng' c := by
    rw [symbolic_generateKfrags h]
    exact if_pos rfl
  opens_original rng a m c ct h := by
    obtain ⟨rfl, rfl⟩ := Prod.mk.inj (Except.ok.inj h)
    exact if_pos rfl
  opens rng a m c ct h rng' b signer k hk rng'' := by
    obtain ⟨rfl, rfl⟩ := Prod.mk.inj (Except.ok.inj h)
    rw [symbolic_generateKfrags hk]
    exact if_pos ⟨rfl, rfl, rfl, rfl⟩
  opens_only rng pk m c ct h rng' a b signer k hk hne rng'' m' := by
    obtain ⟨rfl, rfl⟩ := Prod.mk.inj (Except.ok.inj h)
    rw [symbolic_generateKfrags hk]
    have hrefuse : Umbral.symbolic.decryptReencrypted b (Umbral.symbolic.publicKey a) pk
        [Umbral.symbolic.reencrypt rng'' pk { delegating := a, receiving := b, verifying := signer }]
        m = .error "AuthenticationFailed" := if_neg fun h => hne h.2.1
    exact fun h => nomatch hrefuse.symm.trans h

/-! ## A hash -/

/-- The place among the known inputs, or the one after them. -/
def digestOf (known : List (List UInt8)) (bytes : List UInt8) : List UInt8 :=
  List.replicate 32 (UInt8.ofNat (known.idxOf bytes))

lemma eq_of_digestOf_eq {known : List (List UInt8)} (hfew : known.length < 256)
    {bytes bytes' : List UInt8} (hknown : bytes ∈ known)
    (h : digestOf known bytes' = digestOf known bytes) : bytes' = bytes := by
  have hplace := congrArg UInt8.toNat (List.replicate_right_injective (by decide) h)
  have hle : ∀ input, known.idxOf input < 2 ^ 8 := fun input =>
    lt_of_le_of_lt List.idxOf_le_length hfew
  rw [UInt8.toNat_ofNat', UInt8.toNat_ofNat', Nat.mod_eq_of_lt (hle _),
    Nat.mod_eq_of_lt (hle _)] at hplace
  exact ((List.idxOf_inj hknown).mp hplace.symm).symm

end Vaulted
