import Mathlib.Data.List.GetD
import Mathlib.Data.List.Nodup
import Vaulted.Library.BigEndian

/-!
# Base58

Bytes as one number, written with the digits of an alphabet; each leading zero byte is a digit of
its own.

* `encode`, `decode` — for an alphabet of any size.
* `decode_encode`, `encode_of_decode` — every list of bytes has one text, and every text of the
  alphabet is that of one list of bytes.
-/

namespace Base58

open BigEndian

variable (alphabet : List Char)

def encode (bytes : List UInt8) : List Char :=
  (convert 256 alphabet.length (bytes.map UInt8.toNat)).map fun d => alphabet.getD d ' '

/-- Characters that are not in the alphabet are refused. -/
def decode (text : List Char) : Option (List UInt8) :=
  if text.all (alphabet.contains ·) then
    some ((convert alphabet.length 256 (text.map alphabet.idxOf)).map UInt8.ofNat)
  else none

variable {alphabet} (hnodup : alphabet.Nodup)

include hnodup in
lemma idxOf_getD {d : ℕ} (hd : d < alphabet.length) : alphabet.idxOf (alphabet.getD d ' ') = d := by
  rw [List.getD_eq_getElem _ _ hd, List.Nodup.idxOf_getElem hnodup]

lemma getD_idxOf {c : Char} (hc : c ∈ alphabet) : alphabet.getD (alphabet.idxOf c) ' ' = c := by
  rw [List.getD_eq_getElem _ _ (List.idxOf_lt_length_iff.mpr hc), List.getElem_idxOf]

include hnodup in
theorem decode_encode (hbase : 1 < alphabet.length) (bytes : List UInt8) :
    decode alphabet (encode alphabet bytes) = some bytes := by
  have hdigits : ∀ d ∈ convert 256 alphabet.length (bytes.map UInt8.toNat), d < alphabet.length :=
    fun d hd => lt_of_mem_ofValue hbase hd
  have hall : (encode alphabet bytes).all (alphabet.contains ·) = true := by
    rw [encode, List.all_map, List.all_eq_true]
    intro d hd
    rw [Function.comp_apply, List.getD_eq_getElem _ _ (hdigits d hd), List.contains_iff_mem]
    exact List.getElem_mem _
  have hback : (encode alphabet bytes).map alphabet.idxOf
      = convert 256 alphabet.length (bytes.map UInt8.toNat) := by
    rw [encode, List.map_map]
    exact (List.map_congr_left fun d hd => idxOf_getD hnodup (hdigits d hd)).trans (List.map_id _)
  rw [decode, if_pos hall, hback, convert_convert (by decide) (digits_lt bytes), List.map_map]
  exact congrArg some ((List.map_congr_left fun a _ => UInt8.ofNat_toNat).trans (List.map_id _))

theorem encode_of_decode (hbase : 1 < alphabet.length) {text : List Char} {bytes : List UInt8}
    (h : decode alphabet text = some bytes) : encode alphabet bytes = text := by
  rw [decode] at h
  split_ifs at h with hall
  obtain rfl := Option.some.inj h
  rw [List.all_eq_true] at hall
  have hmem : ∀ c ∈ text, c ∈ alphabet := fun c hc => by simpa using hall c hc
  have hdigits : ∀ d ∈ text.map alphabet.idxOf, d < alphabet.length := by
    intro d hd
    obtain ⟨c, hc, rfl⟩ := List.mem_map.mp hd
    exact List.idxOf_lt_length_iff.mpr (hmem c hc)
  have hbytes : ((convert alphabet.length 256 (text.map alphabet.idxOf)).map UInt8.ofNat).map
      UInt8.toNat = convert alphabet.length 256 (text.map alphabet.idxOf) := by
    rw [List.map_map]
    refine List.map_congr_left (fun d hd => ?_) |>.trans (List.map_id _)
    rw [Function.comp_apply, UInt8.toNat_ofNat', id, Nat.mod_eq_of_lt]
    exact lt_of_mem_ofValue (by decide) hd
  rw [encode, hbytes, convert_convert hbase hdigits, List.map_map]
  refine List.map_congr_left (fun c hc => ?_) |>.trans (List.map_id _)
  exact getD_idxOf (hmem c hc)

end Base58
