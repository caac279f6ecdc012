import Mathlib.Data.List.TakeDrop
import Vaulted.Crypto.Pre
import Vaulted.Library.Checks

/-!
# Encryption in chunks

`aes.rs`: a file is encrypted piece by piece, each with a nonce of its own.

* `AesGcm` — AES-256-GCM, and what is assumed of it.
* `AesKey.encrypt`, `AesKey.decrypt` — one piece.
* `AesStreamEncryptor` — the pieces of a file; a chunk says nothing about its place.
* `decryptChunks_of_encrypted` — the chunks decrypt to the file, `decryptChunks_take` — and the
  first of them to its front.
* **`protects_iff`** — every other sequence of the chunks is refused only for an empty file.
-/

namespace Vaulted.Aes

/-! ## The cipher -/

def aesKeySize : Nat := 32
def aesNonceSize : Nat := 12
def cryptoVersion : UInt8 := 1

/-- AES-256-GCM; `none` is a message that is too long, or a tag that does not fit. -/
structure AesGcm where
  encrypt : (key nonce msg : List UInt8) → Option (List UInt8)
  decrypt : (key nonce ciphertext : List UInt8) → Option (List UInt8)

/-- An ideal authenticated cipher: what has been encrypted is decrypted, and nothing else is. What
fails for it fails for every cipher. -/
structure AesGcm.Ideal (g : AesGcm) : Prop where
  opens : ∀ key nonce msg ciphertext, g.encrypt key nonce msg = some ciphertext →
    g.decrypt key nonce ciphertext = some msg
  authentic : ∀ key nonce msg ciphertext, g.decrypt key nonce ciphertext = some msg →
    g.encrypt key nonce msg = some ciphertext

/-- A cipher to try things out with. -/
def AesGcm.transparent : AesGcm where
  encrypt key nonce msg := some (key ++ nonce ++ msg)
  decrypt key nonce ciphertext :=
    if (key ++ nonce).isPrefixOf ciphertext then some (ciphertext.drop (key ++ nonce).length)
    else none

lemma transparent_ideal : AesGcm.transparent.Ideal where
  opens key nonce msg ciphertext h := by
    obtain rfl := Option.some.inj h
    simp [AesGcm.transparent]
  authentic key nonce msg ciphertext h := by
    simp only [AesGcm.transparent] at h ⊢
    split_ifs at h with hfront
    obtain ⟨rest, rfl⟩ := List.isPrefixOf_iff_prefix.mp hfront
    rw [List.drop_left] at h
    rw [Option.some.inj h]

structure EncryptedData where
  version : UInt8
  nonce : List UInt8
  ciphertext : List UInt8
  deriving DecidableEq

/-- A nonce, as it is drawn. -/
structure Nonce where
  bytes : List UInt8
  size : bytes.length = aesNonceSize

structure AesKey where
  key : List UInt8
  size : key.length = aesKeySize

def AesKey.fromBytes (bytes : List UInt8) : Except CryptoError AesKey :=
  if h : bytes.length = aesKeySize then .ok ⟨bytes, h⟩
  else .error (.InvalidKeySize aesKeySize bytes.length)

section Chunks

variable (g : AesGcm)

def AesKey.encrypt (k : AesKey) (nonce : Nonce) (plaintext : List UInt8) :
    Except CryptoError EncryptedData :=
  match g.encrypt k.key nonce.bytes plaintext with
  | some ciphertext => .ok { version := cryptoVersion, nonce := nonce.bytes, ciphertext }
  | none => .error (.AesEncryption "aead::Error")

def AesKey.decrypt (k : AesKey) (encrypted : EncryptedData) : Except CryptoError (List UInt8) :=
  if encrypted.version ≠ cryptoVersion then
    .error (.UnsupportedVersion encrypted.version)
  else if encrypted.nonce.length ≠ aesNonceSize then
    .error (.InvalidNonceSize aesNonceSize encrypted.nonce.length)
  else match g.decrypt k.key encrypted.nonce encrypted.ciphertext with
    | some msg => .ok msg
    | none => .error (.AesDecryption "Authentication failed")

/-! ## The stream -/

/-- `slice::chunks`: pieces of the given size, and a shorter one at the end. -/
def chunks {α : Type} (size : Nat) (data : List α) : List (List α) :=
  if _h : 0 < size ∧ data ≠ [] then data.take size :: chunks size (data.drop size) else []
  termination_by data.length
  decreasing_by
    have hdata := List.length_pos_of_ne_nil _h.2
    rw [List.length_drop]
    omega

structure AesStreamEncryptor where
  key : AesKey
  chunkSize : Nat

def AesStreamEncryptor.new (key : AesKey) (chunkSize : Option Nat) : AesStreamEncryptor where
  key := key
  chunkSize := chunkSize.getD (1024 * 1024)

/-- The chunks of a file; `rng` draws the nonces.  A chunk size of zero panics, which is `none`. -/
def AesStreamEncryptor.encryptChunks (s : AesStreamEncryptor) (rng : Nat → Nonce)
    (data : List UInt8) : Option (Except CryptoError (List EncryptedData)) :=
  if s.chunkSize = 0 then none
  else some ((chunks s.chunkSize data).zipIdx.mapM fun (chunk, i) => s.key.encrypt g (rng i) chunk)

def AesStreamEncryptor.decryptChunks (s : AesStreamEncryptor) (cs : List EncryptedData) :
    Except CryptoError (List UInt8) :=
  cs.foldlM (fun result chunk => do
    let decrypted ← s.key.decrypt g chunk
    .ok (result ++ decrypted)) []

/-- The chunks decrypt to the file in order, and in no other way: neither repeated, nor left out,
nor in another order. -/
structure Protects (s : AesStreamEncryptor) (data : List UInt8) (cs : List EncryptedData) :
    Prop where
  roundTrip : s.decryptChunks g cs = .ok data
  sequence : ∀ other, (∀ c ∈ other, c ∈ cs) → other ≠ cs →
    ∃ e, s.decryptChunks g other = .error e

end Chunks

/-! ## Pieces -/

lemma chunks_nil {α : Type} (size : Nat) : chunks size ([] : List α) = [] := by
  rw [chunks, dif_neg fun h => h.2 rfl]

lemma chunks_of_ne_nil {α : Type} {size : Nat} (hsize : 0 < size) {data : List α}
    (hdata : data ≠ []) : chunks size data = data.take size :: chunks size (data.drop size) := by
  rw [chunks, dif_pos ⟨hsize, hdata⟩]

/-- The first pieces are the front of the data. -/
lemma flatten_take_chunks {α : Type} {size : Nat} (hsize : 0 < size) (n : Nat) (data : List α) :
    ((chunks size data).take n).flatten = data.take (n * size) := by
  induction n generalizing data with
  | zero => rw [List.take_zero, Nat.zero_mul, List.take_zero, List.flatten_nil]
  | succ n ih =>
      by_cases hdata : data = []
      · rw [hdata, chunks_nil, List.take_nil, List.take_nil, List.flatten_nil]
      · rw [chunks_of_ne_nil hsize hdata, List.take_succ_cons, List.flatten_cons, ih,
          Nat.succ_mul, Nat.add_comm, List.take_add]

lemma flatten_chunks {α : Type} {size : Nat} (hsize : 0 < size) (data : List α) :
    (chunks size data).flatten = data := by
  induction hlen : data.length using Nat.strong_induction_on generalizing data with
  | _ len ih =>
      by_cases hdata : data = []
      · rw [hdata, chunks_nil, List.flatten_nil]
      · have hpos := List.length_pos_of_ne_nil hdata
        have hdrop := ih (data.drop size).length (by rw [List.length_drop]; omega) _ rfl
        rw [chunks_of_ne_nil hsize hdata, List.flatten_cons, hdrop, List.take_append_drop]

/-! ## Chunks -/

section Results

variable {g : AesGcm} {s : AesStreamEncryptor} {rng : Nat → Nonce} {data : List UInt8}
  {cs : List EncryptedData}

/-- A chunk decrypts to its piece. -/
lemma decrypt_encrypt (hg : g.Ideal) {k : AesKey} {nonce : Nonce} {plaintext : List UInt8}
    {encrypted : EncryptedData} (h : k.encrypt g nonce plaintext = .ok encrypted) :
    k.decrypt g encrypted = .ok plaintext := by
  rw [AesKey.encrypt] at h
  cases hcipher : g.encrypt k.key nonce.bytes plaintext with
  | none => rw [hcipher] at h; cases h
  | some ciphertext =>
      rw [hcipher] at h
      obtain rfl := Except.ok.inj h
      rw [AesKey.decrypt, if_neg (not_not.mpr rfl), if_neg (not_not.mpr nonce.size),
        hg.opens _ _ _ _ hcipher]

/-- The chunks are those of the pieces, one by one. -/
lemma forall₂_of_encryptChunks (hg : g.Ideal) (h : s.encryptChunks g rng data = some (.ok cs)) :
    0 < s.chunkSize
      ∧ List.Forall₂ (fun piece c => s.key.decrypt g c = .ok piece) (chunks s.chunkSize data) cs := by
  rw [AesStreamEncryptor.encryptChunks] at h
  split_ifs at h with hsize
  refine ⟨Nat.pos_of_ne_zero hsize, ?_⟩
  have hall := (Checks.mapM_eq_ok_iff.mp (Option.some.inj h)).imp fun _ _ => decrypt_encrypt hg
  rw [← List.zipIdx_map_fst 0 (chunks s.chunkSize data), List.forall₂_map_left_iff]
  exact hall

/-- What decrypts piece by piece decrypts. -/
lemma decryptChunks_of_forall₂ {pieces : List (List UInt8)}
    (h : List.Forall₂ (fun piece c => s.key.decrypt g c = .ok piece) pieces cs) :
    s.decryptChunks g cs = .ok pieces.flatten := by
  have hfold : ∀ result, cs.foldlM (fun result chunk => do
      let decrypted ← s.key.decrypt g chunk
      .ok (result ++ decrypted)) result = (.ok (result ++ pieces.flatten) : Except CryptoError _) := by
    induction h with
    | nil => intro result; rw [List.flatten_nil, List.append_nil]; rfl
    | @cons piece c pieces cs hpiece _ ih =>
        intro result
        rw [List.foldlM_cons, hpiece, List.flatten_cons, ← List.append_assoc]
        exact ih (result ++ piece)
  exact hfold []

/-- **The chunks of a file decrypt to the file.** -/
theorem decryptChunks_of_encrypted (hg : g.Ideal)
    (h : s.encryptChunks g rng data = some (.ok cs)) : s.decryptChunks g cs = .ok data := by
  obtain ⟨hsize, hall⟩ := forall₂_of_encryptChunks hg h
  rw [decryptChunks_of_forall₂ hall, flatten_chunks hsize]

/-- **The first chunks decrypt to the front of the file.** -/
theorem decryptChunks_take (hg : g.Ideal) (h : s.encryptChunks g rng data = some (.ok cs))
    (n : Nat) : s.decryptChunks g (cs.take n) = .ok (data.take (n * s.chunkSize)) := by
  obtain ⟨hsize, hall⟩ := forall₂_of_encryptChunks hg h
  rw [decryptChunks_of_forall₂ (List.forall₂_take n hall), flatten_take_chunks hsize]

/-- **The sequence is protected for the empty file only.** Every chunk is authentic by itself, but
has neither a number nor the length of the file in it: any sequence of the chunks is decrypted, and
one chunk makes two, when it is repeated. -/
theorem protects_iff (hg : g.Ideal) (h : s.encryptChunks g rng data = some (.ok cs)) :
    Protects g s data cs ↔ data = [] := by
  constructor
  · intro hprotects
    by_contra hdata
    have hcs : [] ≠ cs := by
      rintro rfl
      exact hdata (Except.ok.inj hprotects.roundTrip).symm
    -- no chunk at all is a file without bytes
    obtain ⟨e, he⟩ := hprotects.sequence [] (fun c hc => by cases hc) hcs
    cases he
  · rintro rfl
    refine ⟨decryptChunks_of_encrypted hg h, fun other hother hne => absurd ?_ hne⟩
    have hall := (forall₂_of_encryptChunks hg h).2
    rw [chunks_nil, List.forall₂_nil_left_iff] at hall
    subst hall
    exact List.eq_nil_iff_forall_not_mem.mpr fun c hc => by cases hother c hc

end Results

namespace Sample

def nonce (n : Nat) : Nonce := ⟨List.replicate 12 (UInt8.ofNat n), List.length_replicate⟩

/-- A stream with chunks of one byte. -/
def stream : AesStreamEncryptor where
  key := ⟨List.replicate 32 7, List.length_replicate⟩
  chunkSize := 1

def chunk (n : Nat) (byte : UInt8) : EncryptedData where
  version := 1
  nonce := (nonce n).bytes
  ciphertext := List.replicate 32 7 ++ (nonce n).bytes ++ [byte]

lemma encrypts : stream.encryptChunks AesGcm.transparent nonce [1, 2]
    = some (.ok [chunk 0 1, chunk 1 2]) := by
  have hchunks : chunks stream.chunkSize [1, 2] = [[1], ([2] : List UInt8)] := by
    have hlast : chunks 1 [(2 : UInt8)] = [[2]] :=
      (chunks_of_ne_nil Nat.one_pos (List.cons_ne_nil _ _)).trans (congrArg _ (chunks_nil 1))
    exact (chunks_of_ne_nil Nat.one_pos (List.cons_ne_nil _ _)).trans (congrArg _ hlast)
  rw [AesStreamEncryptor.encryptChunks, hchunks]
  rfl

theorem not_protects : ¬Protects AesGcm.transparent stream [1, 2] [chunk 0 1, chunk 1 2] :=
  fun h => absurd ((protects_iff transparent_ideal encrypts).mp h) (List.cons_ne_nil _ _)

/-- **A file that has lost its end** decrypts to other data. -/
theorem decrypts_otherwise : ¬∀ (g : AesGcm) (s : AesStreamEncryptor) (rng : Nat → Nonce)
    (data : List UInt8) (cs : List EncryptedData), g.Ideal →
    s.encryptChunks g rng data = some (.ok cs) → ∀ other, (∀ c ∈ other, c ∈ cs) → other ≠ cs →
      ∀ decrypted, s.decryptChunks g other = .ok decrypted → decrypted = data := by
  intro h
  have htruncated := decryptChunks_take transparent_ideal encrypts 1
  have hsame := h _ _ _ _ _ transparent_ideal encrypts _ (fun c hc => List.mem_of_mem_take hc)
    (by decide) _ htruncated
  cases hsame

end Sample

end Vaulted.Aes
