import Vaulted.Crypto.XrplWallet
import Vaulted.Library.Base58
import Vaulted.Oracle.XrplVerify

/-!
# Addresses

The client makes the address of a public key, the Oracle makes it again, and the client checks the
addresses that it is given.

* `classicAddressFromPublicKey` — the client's side, of `xrpl_wallet.rs`.
* `base58Encode_eq` — what the Oracle computes is base58.
* `Agree` — both sides make the same address, which is valid, and a valid address is that of one
  account.  `addresses_agree` — so they do.
-/

namespace Vaulted.XrplWallet

open XrplVerify

/-- `bs58::Alphabet::RIPPLE`. -/
def ripple : List Char := "rpshnaf39wBUDNEGHJKLM4PQRST7VWXYZ2bcdeCg65jkm8oFqi1tuvAxyz".toList

def encodeXrplBase58Check (sha256 : List UInt8 → List UInt8) (payload : List UInt8) : String :=
  String.ofList (Base58.encode ripple (payload ++ (sha256 (sha256 payload)).take 4))

def classicAddressFromPublicKey (x : XrplCrypto) (sha256 : List UInt8 → List UInt8)
    (publicKey : List UInt8) : String :=
  encodeXrplBase58Check sha256 (0 :: x.ripemd160 (sha256 publicKey))

/-! ## One base58 -/

lemma alphabet_nodup : ripple.Nodup ∧ ripple.length = 58 ∧ alphabet = ripple := by
  decide +kernel

lemma base58Digits_eq {fuel n : ℕ} (h : n < 58 ^ fuel) :
    base58Digits fuel n = (Nat.digits 58 n).reverse := by
  induction fuel generalizing n with
  | zero =>
      obtain rfl : n = 0 := by omega
      rw [base58Digits, Nat.digits_zero, List.reverse_nil]
  | succ fuel ih =>
      cases n with
      | zero => rw [base58Digits, Nat.digits_zero, List.reverse_nil]; omega
      | succ n =>
          have hdiv : (n + 1) / 58 < 58 ^ fuel := by
            rw [Nat.div_lt_iff_lt_mul (by decide), ← pow_succ]
            exact h
          rw [base58Digits, ih hdiv, Nat.digits_def' (by decide) (Nat.succ_pos n),
            List.reverse_cons]
          omega

/-- The Oracle's digits are those of base58. -/
lemma base58Encode_eq (bytes : List UInt8) :
    base58Encode bytes = String.ofList (Base58.encode ripple bytes) := by
  have hvalue : bytes.foldl (fun n b => n * 256 + b.toNat) 0 = BigEndian.ofBytes bytes := by
    rw [BigEndian.foldl_eq, Nat.zero_mul, Nat.zero_add]
  have hfuel : BigEndian.ofBytes bytes < 58 ^ (2 * bytes.length) := by
    refine (BigEndian.ofBytes_lt bytes).trans_le ?_
    rw [pow_mul]
    exact Nat.pow_le_pow_left (by decide) _
  have hzeros : (bytes.takeWhile (· == 0)).map (fun _ => 0)
      = List.replicate (BigEndian.leadingZeros (bytes.map UInt8.toNat)) 0 := by
    have hzero : (fun b : UInt8 => b == 0) = (fun n : ℕ => n == 0) ∘ UInt8.toNat := by
      funext b
      rw [Bool.eq_iff_iff, Function.comp_apply, beq_iff_eq, beq_iff_eq, ← UInt8.toNat_inj]
      rfl
    rw [List.map_const', BigEndian.leadingZeros, List.takeWhile_map, List.length_map, hzero]
  have hdigits : (bytes.takeWhile (· == 0)).map (fun _ => 0)
      ++ base58Digits (2 * bytes.length) (BigEndian.ofBytes bytes)
      = BigEndian.convert 256 ripple.length (bytes.map UInt8.toNat) := by
    rw [hzeros, base58Digits_eq hfuel, alphabet_nodup.2.1]
    rfl
  rw [base58Encode]
  simp only [hvalue, hdigits, alphabet_nodup.2.2]
  refine congrArg String.ofList (List.map_congr_left fun d hd => ?_)
  have hd' := BigEndian.lt_of_mem_ofValue (by rw [alphabet_nodup.2.1]; decide) hd
  rw [List.getD_eq_getElem _ _ hd', List.getD_eq_getElem _ _ hd']

/-! ## Agreement -/

/-- The digests have their lengths, and base58 is undone by its decoder and undoes it. Nothing is
asked of the digests besides: that two keys may have one address does not matter here. -/
structure Lawful (x : XrplCrypto) (codec : AddressCodec) : Prop where
  ripemd160 : ∀ bytes, (x.ripemd160 bytes).length = 20
  sha256 : ∀ bytes, (codec.sha256 bytes).length = 32
  decode : ∀ bytes, codec.decodeBase58 (String.ofList (Base58.encode ripple bytes)) = some bytes
  encode : ∀ text bytes, codec.decodeBase58 text = some bytes →
    String.ofList (Base58.encode ripple bytes) = text

/-- Both sides give one address for a key, which is a valid one; and a valid address has one account
id. -/
structure Agree (x : XrplCrypto) (codec : AddressCodec) : Prop where
  same : ∀ publicKeyHex publicKey, Text.hexDecode publicKeyHex = .ok publicKey →
    publicKey.length = 33 → deriveAddressFromPublicKey x codec.sha256 publicKeyHex
      = .ok (classicAddressFromPublicKey x codec.sha256 publicKey)
  valid : ∀ publicKey, publicKey.length = 33 →
    isValidXrplClassicAddress codec (classicAddressFromPublicKey x codec.sha256 publicKey) = true
  unique : ∀ address, isValidXrplClassicAddress codec address = true →
    ∃! accountId : List UInt8, accountId.length = 20
      ∧ encodeXrplBase58Check codec.sha256 (0 :: accountId) = address

section Agreement

variable {x : XrplCrypto} {codec : AddressCodec}

lemma decode_base58Check (h : Lawful x codec) (payload : List UInt8) :
    codec.decodeBase58 (encodeXrplBase58Check codec.sha256 payload)
      = some (payload ++ (codec.sha256 (codec.sha256 payload)).take 4) :=
  h.decode _

/-- **The encoding of an account is valid.** -/
theorem isValid_encoded (h : Lawful x codec) {accountId : List UInt8}
    (hlength : accountId.length = 20) :
    isValidXrplClassicAddress codec (encodeXrplBase58Check codec.sha256 (0 :: accountId))
      = true := by
  have hpayload : (0 :: accountId).length = 21 := by rw [List.length_cons, hlength]
  have hchecksum : ((codec.sha256 (codec.sha256 (0 :: accountId))).take 4).length = 4 := by
    rw [List.length_take, h.sha256]
    rfl
  rw [isValidXrplClassicAddress, decode_base58Check h]
  simp only [decide_eq_true_eq]
  refine ⟨by rw [List.length_append, hpayload, hchecksum], rfl, ?_⟩
  rw [List.drop_left' hpayload, List.take_left' hpayload]

/-- **Two sides and one address.** The client and the Oracle hash the key in the same way and encode
the same 21 bytes; the check of an address decodes them again, so that it accepts what either has
made. -/
theorem addresses_agree (h : Lawful x codec) : Agree x codec where
  same publicKeyHex publicKey hdecode hlength := by
    simp only [deriveAddressFromPublicKey, hdecode, Pre.mapErr_ok, check, hlength, decide_true,
      if_true, bind, Except.bind, base58Encode_eq]
    rfl
  valid publicKey _ := isValid_encoded h (h.ripemd160 _)
  unique address haddress := by
    rw [isValidXrplClassicAddress] at haddress
    cases hdecoded : codec.decodeBase58 address with
    | none => simp [hdecoded] at haddress
    | some decoded =>
        simp only [hdecoded, decide_eq_true_eq] at haddress
        obtain ⟨hlength, hhead, hchecksum⟩ := haddress
        obtain ⟨rest, rfl⟩ : ∃ rest, decoded = 0 :: rest := by
          cases decoded with
          | nil => cases hhead
          | cons b rest => exact ⟨rest, by rw [Option.some.inj hhead]⟩
        have haccount : (0 :: rest).take 21 = 0 :: rest.take 20 := rfl
        refine ⟨rest.take 20, ⟨?_, ?_⟩, ?_⟩
        · rw [List.length_take]
          simp only [List.length_cons] at hlength
          omega
        · rw [encodeXrplBase58Check, ← haccount, ← hchecksum, List.take_append_drop]
          exact h.encode _ _ hdecoded
        · rintro accountId ⟨hid, rfl⟩
          have hsame := (decode_base58Check h (0 :: accountId)).symm.trans hdecoded
          have hcons := (List.cons.inj (Option.some.inj hsame)).2
          rw [← hcons]
          exact (List.take_left' hid).symm

end Agreement

namespace Sample

/-- Digests of the right length. -/
def crypto : XrplCrypto := { XrplCrypto.transparent with
  ripemd160 := fun bytes => (bytes ++ List.replicate 20 0).take 20 }

def base58 : AddressCodec where
  decodeBase58 text := Base58.decode ripple text.toList
  sha256 bytes := (bytes ++ List.replicate 32 0).take 32

lemma lawful_base58 : Lawful crypto base58 where
  ripemd160 bytes := by simp [crypto]
  sha256 bytes := by simp [base58]
  decode bytes := by
    simp only [base58, String.toList_ofList]
    exact Base58.decode_encode alphabet_nodup.1 (by rw [alphabet_nodup.2.1]; decide) bytes
  encode text bytes hdecode := by
    rw [Base58.encode_of_decode (by rw [alphabet_nodup.2.1]; decide) hdecode,
      String.ofList_toList]

theorem agree_base58 : Agree crypto base58 := addresses_agree lawful_base58

end Sample

end Vaulted.XrplWallet
