import Vaulted.Crypto.Symbolic
import Vaulted.Desktop.Keystore
import Vaulted.Library.JsonText

/-!
# A seed that is saved again

`saveSeedWithPassword` overwrites the encrypted seed first and its salt afterwards.  Between the
two writes there is no password for what is on the disk.

* `Saving` — a call that saves, with what it draws and what becomes of its writes.
* `Atomic` — afterwards the old password gives the old seed, or the new one the new seed; and after
  a success the new password gives the new seed, and no other password anything.
* `Harmless` — the seed file is not touched, or both files are written whole.
* `Left` — what a call leaves in the files, `load_sealed`, `load_otherwise`, `load_cut_seed` and
  `load_cut_salt` — what is read from them.
* **`atomic_iff`** — saving is atomic exactly if the writes are harmless.
* `not_atomic` — the process stops between the two writes.
-/

namespace Vaulted.SavedSeed

open Autocommit.Prog Keystore

/-! ## The property -/

structure Saving where
  draws : Draws
  disk : Disk
  seed : Seed
  password : String

section Statements

variable (c : KeystoreCrypto) (walletAddress : String)

/-- What the crates promise. -/
structure Lawful : Prop where
  gcm : c.gcm.Ideal
  seals : ∀ key nonce msg, msg.length ≤ 2 ^ 36 →
    ∃ ciphertext, c.gcm.encrypt key nonce msg = some ciphertext
  tag : ∀ key nonce msg ciphertext, c.gcm.encrypt key nonce msg = some ciphertext →
    ciphertext.length = msg.length + 16
  keys : ∀ seed : Seed, ∃ keypair, c.makeKeys seed.bytes = .ok keypair

/-- An ideal key derivation and cipher: no other password or salt gives the key, and what is
encrypted with it opens with no other key. -/
structure Sealed (password : String) (salt : Salt) (nonce : Aes.Nonce) (seed : Seed) : Prop where
  kdf : ∀ p s, c.deriveKey p s = c.deriveKey password salt.bytes → p = password ∧ s = salt.bytes
  aead : ∀ p s ciphertext, c.deriveKey p s ≠ c.deriveKey password salt.bytes →
    c.gcm.encrypt (c.deriveKey password salt.bytes).key nonce.bytes seed.bytes = some ciphertext →
    c.gcm.decrypt (c.deriveKey p s).key nonce.bytes ciphertext = none

def Saving.run (s : Saving) (files : Files) : Except ClientError Unit × Files :=
  saveSeedWithPassword c s.draws s.disk walletAddress s.seed s.password files

/-- Loading with a password gives the keys of a seed. -/
def Loads (files : Files) (password : String) (seed : Seed) : Prop :=
  ∀ draws disk, ∃ keypair, c.makeKeys seed.bytes = .ok keypair
    ∧ (loadKeypairWithPassword c draws disk walletAddress password files).1 = .ok (some keypair)

/-- Loading with a password is an error. -/
def Refuses (files : Files) (password : String) : Prop :=
  ∀ draws disk, ∃ e,
    (loadKeypairWithPassword c draws disk walletAddress password files).1 = .error e

/-- What a save over an older one should leave: the older seed or the new one can be loaded, the new
one if the save has succeeded, and then with no other password. -/
structure Atomic (old new : Saving) (files : Files) : Prop where
  recoverable : Loads c walletAddress (new.run c walletAddress files).2 old.password old.seed
    ∨ Loads c walletAddress (new.run c walletAddress files).2 new.password new.seed
  loads : (new.run c walletAddress files).1 = .ok () →
    Loads c walletAddress (new.run c walletAddress files).2 new.password new.seed
  refuses : (new.run c walletAddress files).1 = .ok () → ∀ password, password ≠ new.password →
    Refuses c walletAddress (new.run c walletAddress files).2 password

end Statements

/-! ## The condition -/

/-- A text of the given length is written to its end. -/
def IsWhole (len : Nat) : Outcome → Prop
  | .Done => True
  | .Cut none _ => False
  | .Cut (some n) _ => len ≤ n

/-- The file is as it was. -/
def IsUntouched : Outcome → Prop
  | .Cut none _ => True
  | _ => False

/-- The encrypted seed is 80 characters long, and the salt 24. The write of the salt comes after the
one of the seed; nothing depends on the third. With the same salt the older file of salts is as good
as a new one. -/
def Harmless (oldSalt : Salt) (new : Saving) : Prop :=
  ∀ salt nonce, new.draws.salt = .ok salt → new.draws.nonce = .ok nonce →
    IsUntouched (new.disk.write 0)
    ∨ new.disk.write 0 = .Done ∧ IsWhole 24 (new.disk.write 1)
    ∨ IsWhole 80 (new.disk.write 0)
      ∧ (new.disk.write 0 ≠ .Done ∨ IsUntouched (new.disk.write 1)) ∧ salt = oldSalt

/-! ## Texts -/

section Texts

variable {c : KeystoreCrypto}

lemma length_encodeBase64 (bytes : List UInt8) :
    (encodeBase64 bytes).toList.length = 4 * ((bytes.length + 2) / 3) := by
  rw [encodeBase64, String.toList_ofList, Base64.length_encode]

lemma decodeBase64_encode (what : String) (bytes : List UInt8) :
    decodeBase64 c what (encodeBase64 bytes) = .ok bytes := by
  have htrim : Text.trim (encodeBase64 bytes) = encodeBase64 bytes :=
    JsonText.trim_compact bytes
  rw [decodeBase64, htrim, encodeBase64, String.toList_ofList, Base64.decode_encode]

/-- The first characters of a text are read as fewer bytes. -/
lemma length_of_decode_take {what : String} {bytes read : List UInt8} {n : Nat}
    (h : decodeBase64 c what (String.ofList ((encodeBase64 bytes).toList.take n)) = .ok read) :
    4 * ((read.length + 2) / 3) ≤ n := by
  have htrim : Text.trim (String.ofList ((encodeBase64 bytes).toList.take n))
      = String.ofList ((encodeBase64 bytes).toList.take n) := by
    refine Text.trim_eq_self fun ch hch => ?_
    rw [String.toList_ofList] at hch
    have hmem := List.mem_of_mem_take hch
    rw [encodeBase64, String.toList_ofList] at hmem
    exact JsonText.isWhitespace_of_mem_encode hmem
  rw [decodeBase64, htrim, String.toList_ofList] at h
  cases hdecode : Base64.decode ((encodeBase64 bytes).toList.take n) with
  | none => rw [hdecode] at h; cases h
  | some read' =>
      rw [hdecode] at h
      obtain rfl := Except.ok.inj h
      rw [← Base64.length_of_decode hdecode, List.length_take]
      exact Nat.min_le_left _ _

end Texts

/-! ## Loading -/

section Loading

variable {c : KeystoreCrypto} {walletAddress : String} {files : Files}

lemma bind_of_ok {ε α β : Type} {x : Except ε α} {a : α} (h : x = .ok a) (f : α → Except ε β) :
    x >>= f = f a := by
  rw [h]
  rfl

lemma bind_of_error {ε α β : Type} {x : Except ε α} {e : ε} (h : x = .error e)
    (f : α → Except ε β) : x >>= f = .error e := by
  rw [h]
  rfl

lemma mapErr_eq_ok {ε ε' α : Type} {f : ε → ε'} {x : Except ε α} {a : α} (h : x = .ok a) :
    Pre.mapErr f x = .ok a := Pre.mapErr_eq_ok_iff.mpr h

/-- What is in the three files. -/
structure Holds (walletAddress : String) (files : Files) (seedText saltText : String) : Prop where
  key : (files (publicKeyPath walletAddress)).isSome = true
  seed : files (seedPath walletAddress) = some seedText
  salt : files (saltPath walletAddress) = some saltText

/-- Where the three files are there, the seed and the salt are read. -/
lemma load_eq {seedText saltText : String} (h : Holds walletAddress files seedText saltText)
    (draws : Draws) (disk : Disk) (password : String) :
    (loadKeypairWithPassword c draws disk walletAddress password files).1
      = loadEncryptedSeed c walletAddress password files := by
  rw [loadKeypairWithPassword, run_read, run_read, run_read, h.key, h.seed, h.salt]
  rfl

/-- The steps after the salt has been read. -/
lemma loadEncryptedSeed_of_salt {seedText : String} {salt : Salt}
    (h : Holds walletAddress files seedText (encodeBase64 salt.bytes)) (password : String) :
    loadEncryptedSeed c walletAddress password files = (do
      let encrypted ← decodeBase64 c "Invalid encrypted seed: " seedText
      let seedBytes ← decryptData c (c.deriveKey password salt.bytes) encrypted
      let seed ← seedOfBytes seedBytes
      let keypair ← generateKeypairFromSeed c seed
      .ok (some keypair)) := by
  have hread : readToString files (saltPath walletAddress) = .ok (encodeBase64 salt.bytes) := by
    rw [readToString, h.salt]
  have hseed : readToString files (seedPath walletAddress) = .ok seedText := by
    rw [readToString, h.seed]
  rw [loadEncryptedSeed, bind_of_ok hread, bind_of_ok (decodeBase64_encode _ _),
    if_neg (not_not.mpr salt.size), bind_of_ok hseed]

variable {seed : Seed} {salt : Salt} {nonce : Aes.Nonce} {password : String}
  {ciphertext : List UInt8}

lemma decryptData_append (key : Aes.AesKey) : decryptData c key (nonce.bytes ++ ciphertext)
    = match c.gcm.decrypt key.key nonce.bytes ciphertext with
      | some plaintext => .ok plaintext
      | none => .error (.Keystore "Decryption failed (wrong password?): aead::Error") := by
  have hsize : nonce.bytes.length = 12 := nonce.size
  have hopen : decryptData c key (nonce.bytes ++ ciphertext)
      = match c.gcm.decrypt key.key ((nonce.bytes ++ ciphertext).take 12)
          ((nonce.bytes ++ ciphertext).drop 12) with
        | some plaintext => .ok plaintext
        | none => .error (.Keystore "Decryption failed (wrong password?): aead::Error") :=
    if_neg (by rw [List.length_append, hsize]; omega)
  rw [hopen, List.take_left' hsize, List.drop_left' hsize]

/-- **The right password** gives the seed. -/
lemma load_sealed (hc : Lawful c)
    (hcipher : c.gcm.encrypt (c.deriveKey password salt.bytes).key nonce.bytes seed.bytes
      = some ciphertext)
    (h : Holds walletAddress files (encodeBase64 (nonce.bytes ++ ciphertext))
      (encodeBase64 salt.bytes)) : Loads c walletAddress files password seed := by
  intro draws disk
  obtain ⟨keypair, hkeypair⟩ := hc.keys seed
  refine ⟨keypair, hkeypair, ?_⟩
  have hseed : seedOfBytes seed.bytes = .ok seed := dif_pos seed.size
  have hkeys : generateKeypairFromSeed c seed = .ok keypair := mapErr_eq_ok hkeypair
  have hdecrypt : decryptData c (c.deriveKey password salt.bytes) (nonce.bytes ++ ciphertext)
      = .ok seed.bytes := by
    rw [decryptData_append, hc.gcm.opens _ _ _ _ hcipher]
  rw [load_eq h, loadEncryptedSeed_of_salt h, bind_of_ok (decodeBase64_encode _ _),
    bind_of_ok hdecrypt, bind_of_ok hseed, bind_of_ok hkeys]

/-- **Another password, or another salt,** gives nothing. -/
lemma load_otherwise (hsealed : Sealed c password salt nonce seed)
    (hcipher : c.gcm.encrypt (c.deriveKey password salt.bytes).key nonce.bytes seed.bytes
      = some ciphertext) {password' : String} {salt' : Salt}
    (h : Holds walletAddress files (encodeBase64 (nonce.bytes ++ ciphertext))
      (encodeBase64 salt'.bytes)) (hne : ¬(password' = password ∧ salt' = salt)) :
    Refuses c walletAddress files password' := by
  intro draws disk
  have hkey : c.deriveKey password' salt'.bytes ≠ c.deriveKey password salt.bytes := by
    intro heq
    obtain ⟨hpassword, hsalt⟩ := hsealed.kdf _ _ heq
    refine hne ⟨hpassword, ?_⟩
    cases salt
    cases salt'
    congr
  refine ⟨.Keystore "Decryption failed (wrong password?): aead::Error", ?_⟩
  rw [load_eq h, loadEncryptedSeed_of_salt h, bind_of_ok (decodeBase64_encode _ _)]
  refine bind_of_error ?_ _
  rw [decryptData_append, hsealed.aead _ _ _ hkey hcipher]

/-- **A seed file that is not whole** gives nothing. -/
lemma load_cut_seed (hc : Lawful c) {bytes : List UInt8} {n : Nat} (hn : n < 80)
    (h : Holds walletAddress files (String.ofList ((encodeBase64 bytes).toList.take n))
      (encodeBase64 salt.bytes)) (password' : String) :
    Refuses c walletAddress files password' := by
  intro draws disk
  rw [load_eq h, loadEncryptedSeed_of_salt h]
  cases hdecode : decodeBase64 c "Invalid encrypted seed: "
      (String.ofList ((encodeBase64 bytes).toList.take n)) with
  | error e => exact ⟨e, rfl⟩
  | ok encrypted =>
      rw [bind_of_ok rfl]
      have hlength := length_of_decode_take hdecode
      cases hdecrypt : decryptData c (c.deriveKey password' salt.bytes) encrypted with
      | error e => exact ⟨e, rfl⟩
      | ok seedBytes =>
          -- what is short decrypts to less than a seed
          have hshort : ¬seedBytes.length = 32 := by
            rw [decryptData] at hdecrypt
            split_ifs at hdecrypt with hnonce
            cases hplain : c.gcm.decrypt (c.deriveKey password' salt.bytes).key
                (encrypted.take 12) (encrypted.drop 12) with
            | none => rw [hplain] at hdecrypt; cases hdecrypt
            | some plaintext =>
                rw [hplain] at hdecrypt
                obtain rfl := Except.ok.inj hdecrypt
                have htag := hc.tag _ _ _ _ (hc.gcm.authentic _ _ _ _ hplain)
                rw [List.length_drop] at htag
                omega
          rw [bind_of_ok rfl]
          exact ⟨.Keystore "Invalid seed length", bind_of_error (dif_neg hshort) _⟩

/-- **A salt file that is not whole** gives nothing. -/
lemma load_cut_salt {seedText : String} {n : Nat} (hn : n < 24)
    (h : Holds walletAddress files seedText
      (String.ofList ((encodeBase64 salt.bytes).toList.take n))) (password' : String) :
    Refuses c walletAddress files password' := by
  intro draws disk
  have hread : readToString files (saltPath walletAddress)
      = .ok (String.ofList ((encodeBase64 salt.bytes).toList.take n)) := by
    rw [readToString, h.salt]
  rw [load_eq h, loadEncryptedSeed, bind_of_ok hread]
  cases hdecode : decodeBase64 c "Invalid salt: "
      (String.ofList ((encodeBase64 salt.bytes).toList.take n)) with
  | error e => exact ⟨e, rfl⟩
  | ok saltBytes =>
      have hlength := length_of_decode_take hdecode
      rw [bind_of_ok rfl]
      exact ⟨.Keystore "Invalid salt length", if_pos (by omega)⟩

end Loading

/-! ## Saving -/

section Saves

variable {c : KeystoreCrypto} {walletAddress : String} {files : Files}

lemma path_ne {walletAddress suffix suffix' : String} (h : suffix ≠ suffix') :
    walletAddress ++ suffix ≠ walletAddress ++ suffix' :=
  fun heq => h ((String.append_right_inj walletAddress).mp heq)

lemma salt_ne_seed : saltPath walletAddress ≠ seedPath walletAddress := path_ne (by decide)
lemma key_ne_seed : publicKeyPath walletAddress ≠ seedPath walletAddress := path_ne (by decide)
lemma key_ne_salt : publicKeyPath walletAddress ≠ saltPath walletAddress := path_ne (by decide)

lemma run_fsWrite_done {α : Type} {path content : String}
    {f : Unit → Autocommit.Prog Files ClientError α} :
    (fsWrite .Done path content >>= f) files
      = f () (Function.update files path (some content)) := rfl

lemma run_fsWrite_cut {α : Type} {path content message : String} {kept : Option Nat}
    {f : Unit → Autocommit.Prog Files ClientError α} :
    (fsWrite (.Cut kept message) path content >>= f) files = (.error (.FileSystem message),
      Function.update files path ((Outcome.Cut kept message).leaves content (files path))) := rfl

lemma fsWrite_snd {o : Outcome} {path content : String} : (fsWrite o path content files).2
    = Function.update files path (o.leaves content (files path)) := rfl

/-- A write removes no file. -/
lemma isSome_leaves {o : Outcome} {content : String} {old : Option String}
    (h : old.isSome = true) : (o.leaves content old).isSome = true := by
  cases o with
  | Done => rfl
  | Cut kept message =>
      cases kept with
      | none => exact h
      | some n => rfl

/-- What a call leaves in the files. -/
structure Left (disk : Disk) (walletAddress seedText saltText : String) (files files' : Files) :
    Prop where
  seed : files' (seedPath walletAddress)
    = (disk.write 0).leaves seedText (files (seedPath walletAddress))
  salt : files' (saltPath walletAddress) = if disk.write 0 = .Done
    then (disk.write 1).leaves saltText (files (saltPath walletAddress))
    else files (saltPath walletAddress)
  key : (files (publicKeyPath walletAddress)).isSome = true →
    (files' (publicKeyPath walletAddress)).isSome = true

variable {s : Saving} {salt : Salt} {nonce : Aes.Nonce} {ciphertext : List UInt8}

/-- **What a call leaves**, and when it succeeds. -/
lemma left_run (hc : Lawful c) (hsalt : s.draws.salt = .ok salt)
    (hnonce : s.draws.nonce = .ok nonce)
    (hcipher : c.gcm.encrypt (c.deriveKey s.password salt.bytes).key nonce.bytes s.seed.bytes
      = some ciphertext) :
    Left s.disk walletAddress (encodeBase64 (nonce.bytes ++ ciphertext)) (encodeBase64 salt.bytes)
        files (s.run c walletAddress files).2
      ∧ ((s.run c walletAddress files).1 = .ok () → s.disk.write 0 = .Done
        ∧ s.disk.write 1 = .Done
        ∧ ((s.run c walletAddress files).2 (publicKeyPath walletAddress)).isSome = true) := by
  have hdrawn : Pre.mapErr (fun e => ClientError.Keystore ("RNG error: " ++ e)) s.draws.salt
      = .ok salt := mapErr_eq_ok hsalt
  have hencrypted : encryptData c s.draws.nonce (c.deriveKey s.password salt.bytes) s.seed.bytes
      = .ok (nonce.bytes ++ ciphertext) := by
    rw [encryptData, bind_of_ok (mapErr_eq_ok hnonce), hcipher]
  obtain ⟨keypair, hkeypair⟩ := hc.keys s.seed
  have hkeys : generateKeypairFromSeed c s.seed = .ok keypair := mapErr_eq_ok hkeypair
  rw [Saving.run, saveSeedWithPassword, run_lift hdrawn, run_lift hencrypted]
  cases hseed : s.disk.write 0 with
  | Cut kept message =>
      rw [run_fsWrite_cut]
      dsimp only
      refine ⟨⟨?_, ?_, fun h => ?_⟩, fun h => by cases h⟩
      · rw [Function.update_self, hseed]
      · rw [Function.update_of_ne salt_ne_seed, if_neg (by rw [hseed]; exact Outcome.noConfusion)]
      · rwa [Function.update_of_ne key_ne_seed]
  | Done =>
      rw [run_fsWrite_done]
      cases hsaltWrite : s.disk.write 1 with
      | Cut kept message =>
          rw [run_fsWrite_cut]
          dsimp only
          refine ⟨⟨?_, ?_, fun h => ?_⟩, fun h => by cases h⟩
          · rw [Function.update_of_ne salt_ne_seed.symm, Function.update_self, hseed]
            rfl
          · rw [Function.update_self, Function.update_of_ne salt_ne_seed, if_pos hseed, hsaltWrite]
          · rwa [Function.update_of_ne key_ne_salt, Function.update_of_ne key_ne_seed]
      | Done =>
          rw [run_fsWrite_done, run_lift hkeys, fsWrite_snd]
          refine ⟨⟨?_, ?_, fun h => ?_⟩, fun h => ⟨rfl, rfl, ?_⟩⟩
          · rw [Function.update_of_ne key_ne_seed.symm, Function.update_of_ne salt_ne_seed.symm,
              Function.update_self, hseed]
            rfl
          · rw [Function.update_of_ne key_ne_salt.symm, Function.update_self, if_pos hseed,
              hsaltWrite]
            rfl
          · rw [Function.update_self]
            refine isSome_leaves ?_
            rwa [Function.update_of_ne key_ne_salt, Function.update_of_ne key_ne_seed]
          · cases hkeyWrite : s.disk.write 2 with
            | Done =>
                rw [Function.update_self]
                rfl
            | Cut kept message =>
                rw [hkeyWrite] at h
                cases h

/-- A call that cannot draw touches nothing. -/
lemma run_undrawn (h : ∀ salt nonce, s.draws.salt = .ok salt → s.draws.nonce ≠ .ok nonce) :
    ∃ e, s.run c walletAddress files = (.error e, files) := by
  rw [Saving.run, saveSeedWithPassword]
  cases hsalt : s.draws.salt with
  | error e => exact ⟨_, rfl⟩
  | ok salt =>
      cases hnonce : s.draws.nonce with
      | error e => exact ⟨_, rfl⟩
      | ok nonce => exact absurd hnonce (h salt nonce hsalt)

/-- The files after a call that has succeeded. -/
lemma holds_of_run (hc : Lawful c) (hsalt : s.draws.salt = .ok salt)
    (hok : (s.run c walletAddress files).1 = .ok ()) : ∃ nonce ciphertext,
      c.gcm.encrypt (c.deriveKey s.password salt.bytes).key nonce.bytes s.seed.bytes
          = some ciphertext
        ∧ s.draws.nonce = .ok nonce
        ∧ Holds walletAddress (s.run c walletAddress files).2
          (encodeBase64 (nonce.bytes ++ ciphertext)) (encodeBase64 salt.bytes) := by
  cases hnonce : s.draws.nonce with
  | error e =>
      obtain ⟨e', hrun⟩ := @run_undrawn c walletAddress files s fun salt nonce _ h => by
        rw [hnonce] at h
        cases h
      rw [hrun] at hok
      cases hok
  | ok nonce =>
      obtain ⟨ciphertext, hcipher⟩ := hc.seals (c.deriveKey s.password salt.bytes).key nonce.bytes
        s.seed.bytes (by rw [s.seed.size]; decide)
      obtain ⟨hleft, hdone⟩ := @left_run c walletAddress files s salt nonce ciphertext hc hsalt hnonce
        hcipher
      obtain ⟨hseed, hsaltWrite, hkey⟩ := hdone hok
      refine ⟨nonce, ciphertext, hcipher, rfl, hkey, ?_, ?_⟩
      · rw [hleft.seed, hseed]
        rfl
      · rw [hleft.salt, if_pos hseed, hsaltWrite]
        rfl

end Saves

/-! ## Atomicity -/

section Atomicity

variable {c : KeystoreCrypto} {walletAddress : String} {files : Files} {old new : Saving}
  {salt oldSalt : Salt} {nonce oldNonce : Aes.Nonce} {ciphertext oldCiphertext : List UInt8}

/-- What can be recovered with one of the two passwords. -/
def Recovers (c : KeystoreCrypto) (walletAddress : String) (old new : Saving) (files : Files) :
    Prop :=
  Loads c walletAddress files old.password old.seed
    ∨ Loads c walletAddress files new.password new.seed

lemma not_recovers (h : ∀ password, Refuses c walletAddress files password) :
    ¬Recovers c walletAddress old new files := by
  have hnot : ∀ password seed, ¬Loads c walletAddress files password seed := by
    intro password seed hloads
    obtain ⟨keypair, -, hok⟩ := hloads new.draws new.disk
    obtain ⟨e, herror⟩ := h password new.draws new.disk
    rw [hok] at herror
    cases herror
  exact fun h => h.elim (hnot _ _) (hnot _ _)

/-- The new seed with the old salt. -/
lemma recovers_mixed_iff (hc : Lawful c)
    (hsealed : Sealed c new.password salt nonce new.seed)
    (hcipher : c.gcm.encrypt (c.deriveKey new.password salt.bytes).key nonce.bytes new.seed.bytes
      = some ciphertext)
    (h : Holds walletAddress files (encodeBase64 (nonce.bytes ++ ciphertext))
      (encodeBase64 oldSalt.bytes)) :
    Recovers c walletAddress old new files ↔ salt = oldSalt := by
  constructor
  · intro hrecovers
    by_contra hne
    exact not_recovers (fun password => load_otherwise hsealed hcipher h fun heq =>
      hne heq.2.symm) hrecovers
  · rintro rfl
    exact .inr (load_sealed hc hcipher h)

lemma take_whole {content : String} {n : Nat} (h : content.toList.length ≤ n) :
    String.ofList (content.toList.take n) = content := by
  rw [List.take_of_length_le h, String.ofList_toList]

/-- **What is left can be recovered if and only if the writes are harmless.** -/
lemma recovers_iff (hc : Lawful c) (hsealed : Sealed c new.password salt nonce new.seed)
    (hcipher : c.gcm.encrypt (c.deriveKey new.password salt.bytes).key nonce.bytes new.seed.bytes
      = some ciphertext)
    (holdCipher : c.gcm.encrypt (c.deriveKey old.password oldSalt.bytes).key oldNonce.bytes
      old.seed.bytes = some oldCiphertext)
    (hold : Holds walletAddress files (encodeBase64 (oldNonce.bytes ++ oldCiphertext))
      (encodeBase64 oldSalt.bytes)) {files' : Files}
    (hleft : Left new.disk walletAddress (encodeBase64 (nonce.bytes ++ ciphertext))
      (encodeBase64 salt.bytes) files files') :
    Recovers c walletAddress old new files' ↔ (IsUntouched (new.disk.write 0)
      ∨ new.disk.write 0 = .Done ∧ IsWhole 24 (new.disk.write 1)
      ∨ IsWhole 80 (new.disk.write 0)
        ∧ (new.disk.write 0 ≠ .Done ∨ IsUntouched (new.disk.write 1)) ∧ salt = oldSalt) := by
  have hkey := hleft.key hold.key
  have hseed := hleft.seed
  have hsalt := hleft.salt
  rw [hold.seed] at hseed
  rw [hold.salt] at hsalt
  have hseedLength : (encodeBase64 (nonce.bytes ++ ciphertext)).toList.length = 80 := by
    have hnonce : nonce.bytes.length = 12 := nonce.size
    rw [length_encodeBase64, List.length_append, hnonce, hc.tag _ _ _ _ hcipher, new.seed.size]
  have hsaltLength : (encodeBase64 salt.bytes).toList.length = 24 := by
    rw [length_encodeBase64, salt.size]
  cases hwrite : new.disk.write 0 with
  | Cut kept message =>
      rw [hwrite] at hseed hsalt
      rw [if_neg Outcome.noConfusion] at hsalt
      cases kept with
      | none =>
          refine iff_of_true (.inl (load_sealed hc holdCipher ⟨hkey, hseed, hsalt⟩)) (.inl trivial)
      | some n =>
          by_cases hn : n < 80
          · refine iff_of_false (not_recovers fun password =>
              load_cut_seed hc hn ⟨hkey, hseed, hsalt⟩ password) ?_
            rintro (h | ⟨h, -⟩ | ⟨h, -⟩)
            · exact h
            · cases h
            · exact absurd h (Nat.not_le.mpr hn)
          · have hwhole : files' (seedPath walletAddress)
                = some (encodeBase64 (nonce.bytes ++ ciphertext)) :=
              hseed.trans (congrArg some (take_whole (by omega)))
            rw [recovers_mixed_iff hc hsealed hcipher ⟨hkey, hwhole, hsalt⟩]
            constructor
            · exact fun h => .inr (.inr ⟨Nat.not_lt.mp hn, .inl Outcome.noConfusion, h⟩)
            · rintro (h | ⟨h, -⟩ | ⟨-, -, h⟩)
              · exact h.elim
              · cases h
              · exact h
  | Done =>
      rw [hwrite] at hseed hsalt
      rw [if_pos rfl] at hsalt
      cases hsaltWrite : new.disk.write 1 with
      | Done =>
          rw [hsaltWrite] at hsalt
          exact iff_of_true (.inr (load_sealed hc hcipher ⟨hkey, hseed, hsalt⟩))
            (.inr (.inl ⟨rfl, trivial⟩))
      | Cut kept message =>
          rw [hsaltWrite] at hsalt
          cases kept with
          | none =>
              rw [recovers_mixed_iff hc hsealed hcipher ⟨hkey, hseed, hsalt⟩]
              constructor
              · exact fun h => .inr (.inr ⟨trivial, .inr trivial, h⟩)
              · rintro (h | ⟨-, h⟩ | ⟨-, -, h⟩)
                · exact h.elim
                · exact h.elim
                · exact h
          | some n =>
              by_cases hn : n < 24
              · refine iff_of_false (not_recovers fun password =>
                  load_cut_salt hn ⟨hkey, hseed, hsalt⟩ password) ?_
                rintro (h | ⟨-, h⟩ | ⟨-, h | h, -⟩)
                · exact h
                · exact absurd h (Nat.not_le.mpr hn)
                · exact h rfl
                · exact h
              · have hwhole : files' (saltPath walletAddress) = some (encodeBase64 salt.bytes) :=
                  hsalt.trans (congrArg some (take_whole (by omega)))
                exact iff_of_true (.inr (load_sealed hc hcipher ⟨hkey, hseed, hwhole⟩))
                  (.inr (.inl ⟨rfl, Nat.not_lt.mp hn⟩))

/-- **Saving is atomic if and only if its writes are harmless.** The encrypted seed and the salt are
two files that are overwritten one after the other; a cut between them leaves a seed that no
password opens. -/
theorem atomic_iff (hc : Lawful c)
    (hsealed : ∀ salt nonce, new.draws.salt = .ok salt → new.draws.nonce = .ok nonce →
      Sealed c new.password salt nonce new.seed)
    (hsalt : old.draws.salt = .ok oldSalt) (hold : (old.run c walletAddress files).1 = .ok ()) :
    Atomic c walletAddress old new (old.run c walletAddress files).2 ↔ Harmless oldSalt new := by
  obtain ⟨oldNonce, oldCiphertext, holdCipher, -, hholds⟩ := holds_of_run hc hsalt hold
  generalize (old.run c walletAddress files).2 = saved at hholds ⊢
  by_cases hdrawn : ∀ salt nonce, new.draws.salt = .ok salt → new.draws.nonce ≠ .ok nonce
  · -- nothing is written
    obtain ⟨e, hrun⟩ := @run_undrawn c walletAddress saved new hdrawn
    refine iff_of_true ⟨.inl ?_, fun h => ?_, fun h => ?_⟩ fun salt nonce h h' =>
      absurd h' (hdrawn salt nonce h)
    · rw [hrun]
      exact load_sealed hc holdCipher hholds
    · rw [hrun] at h
      cases h
    · rw [hrun] at h
      cases h
  · push Not at hdrawn
    obtain ⟨salt, nonce, hsalt, hnonce⟩ := hdrawn
    obtain ⟨ciphertext, hcipher⟩ := hc.seals (c.deriveKey new.password salt.bytes).key nonce.bytes
      new.seed.bytes (by rw [new.seed.size]; decide)
    have hseal := hsealed salt nonce hsalt hnonce
    have hrecovers := recovers_iff hc hseal hcipher holdCipher hholds
      (@left_run c walletAddress saved new salt nonce ciphertext hc hsalt hnonce hcipher).1
    constructor
    · intro hatomic salt' nonce' hsalt' hnonce'
      obtain rfl := Except.ok.inj (hsalt.symm.trans hsalt')
      exact hrecovers.mp hatomic.recoverable
    · intro hharmless
      refine ⟨hrecovers.mpr (hharmless salt nonce hsalt hnonce), fun hok => ?_, fun hok => ?_⟩
      · obtain ⟨nonce', ciphertext', hcipher', -, hnew⟩ := holds_of_run hc hsalt hok
        exact load_sealed hc hcipher' hnew
      · obtain ⟨nonce', ciphertext', hcipher', hnonce', hnew⟩ := holds_of_run hc hsalt hok
        obtain rfl := Except.ok.inj (hnonce.symm.trans hnonce')
        exact fun password hne => load_otherwise hseal hcipher' hnew fun heq => hne heq.1

end Atomicity

/-! ## A process that stops

The seed of Alice is saved with a password, and saved again with another one. -/

namespace Sample

def tag (key : List UInt8) : List UInt8 := (key ++ List.replicate 16 0).take 16

lemma length_tag (key : List UInt8) : (tag key).length = 16 := by
  rw [tag, List.length_take, List.length_append, List.length_replicate]
  omega

def keyOf (b : UInt8) : Aes.AesKey := ⟨List.replicate 32 b, List.length_replicate⟩

def saltOf (b : UInt8) : Salt := ⟨List.replicate 16 b, List.length_replicate⟩

def seedOf (b : UInt8) : Seed := ⟨List.replicate 32 b, List.length_replicate⟩

/-- One key of its own, and one for everything else. -/
def derive (password : String) (salt : List UInt8) : Aes.AesKey :=
  if password = "new" ∧ salt = (saltOf 1).bytes then keyOf 1 else keyOf 0

lemma derive_new : derive "new" (saltOf 1).bytes = keyOf 1 := if_pos ⟨rfl, rfl⟩

/-- A ciphertext is the message after a tag of its key. -/
def crypto : KeystoreCrypto where
  umbral := Umbral.symbolic
  makeKeys bytes := .ok ⟨bytes.headD 0, bytes.headD 0 + 100⟩
  deriveKey := derive
  gcm :=
    { encrypt := fun key _ msg => some (tag key ++ msg)
      decrypt := fun key _ ciphertext =>
        if ciphertext.take 16 = tag key then some (ciphertext.drop 16) else none }
  base64Error _ := "Invalid padding"

lemma crypto_lawful : Lawful crypto where
  gcm :=
    { opens := by
        intro key nonce msg ciphertext h
        obtain rfl := Option.some.inj h
        show (if _ then _ else _) = _
        rw [List.take_left' (length_tag key), List.drop_left' (length_tag key), if_pos rfl]
      authentic := by
        intro key nonce msg ciphertext h
        have h : (if ciphertext.take 16 = tag key then some (ciphertext.drop 16) else none)
            = some msg := h
        split_ifs at h with htag
        obtain rfl := Option.some.inj h
        exact congrArg some (htag ▸ List.take_append_drop 16 ciphertext) }
  seals key nonce msg _ := ⟨tag key ++ msg, rfl⟩
  tag key nonce msg ciphertext h := by
    obtain rfl := Option.some.inj h
    rw [List.length_append, length_tag, Nat.add_comm]
  keys seed := ⟨_, rfl⟩

lemma crypto_sealed (nonce : Aes.Nonce) (seed : Seed) :
    Sealed crypto "new" (saltOf 1) nonce seed where
  kdf p s h := by
    by_contra hne
    have hother : derive p s = keyOf 0 := if_neg hne
    have hsame : derive p s = derive "new" (saltOf 1).bytes := h
    rw [hother, derive_new] at hsame
    exact absurd (congrArg Aes.AesKey.key hsame) (by decide)
  aead p s ciphertext hkey h := by
    have hother : derive p s = keyOf 0 := if_neg fun heq => hkey (by rw [heq.1, heq.2])
    obtain rfl := Option.some.inj h
    have htag : ¬(tag (derive "new" (saltOf 1).bytes).key ++ seed.bytes).take 16
        = tag (derive p s).key := by
      rw [List.take_left' (length_tag _), derive_new, hother]
      decide
    exact if_neg htag

def nonce : Aes.Nonce := ⟨List.replicate 12 0, List.length_replicate⟩

/-- A disk on which the first writes succeed, and the next one leaves its file as it was. -/
def stopping (writes : Nat) : Disk where
  write n := if n < writes then .Done else .Cut none "stopped"
  removes := true

def old : Saving := ⟨⟨.ok (saltOf 0), .ok nonce⟩, stopping 3, seedOf 1, "old"⟩

def new (writes : Nat) : Saving := ⟨⟨.ok (saltOf 1), .ok nonce⟩, stopping writes, seedOf 2, "new"⟩

lemma sealed_new (writes : Nat) : ∀ salt nonce, (new writes).draws.salt = .ok salt →
    (new writes).draws.nonce = .ok nonce →
    Sealed crypto (new writes).password salt nonce (new writes).seed := by
  intro salt nonce hsalt hnonce
  obtain rfl := Except.ok.inj hsalt
  exact crypto_sealed nonce _

lemma old_saved : (old.run crypto "rAlice" fun _ => none).1 = .ok () := rfl

/-- Nothing is lost before the first write, or after the second. -/
theorem atomic_otherwise :
    Atomic crypto "rAlice" old (new 0) (old.run crypto "rAlice" fun _ => none).2
      ∧ Atomic crypto "rAlice" old (new 2) (old.run crypto "rAlice" fun _ => none).2 := by
  constructor
  · refine (atomic_iff crypto_lawful (sealed_new 0) rfl old_saved).mpr fun salt nonce _ _ => ?_
    exact .inl trivial
  · refine (atomic_iff crypto_lawful (sealed_new 2) rfl old_saved).mpr fun salt nonce _ _ => ?_
    exact .inr (.inl ⟨rfl, trivial⟩)

/-- **Between the two writes both seeds are lost.** -/
theorem not_atomic : ¬∀ writes,
    Atomic crypto "rAlice" old (new writes) (old.run crypto "rAlice" fun _ => none).2 := by
  intro hatomic
  obtain ⟨oldNonce, oldCiphertext, holdCipher, -, hholds⟩ :=
    @holds_of_run crypto "rAlice" _ old (saltOf 0) crypto_lawful rfl old_saved
  obtain ⟨ciphertext, hcipher⟩ := crypto_lawful.seals
    (crypto.deriveKey "new" (saltOf 1).bytes).key nonce.bytes (seedOf 2).bytes (by decide)
  have hrecovers := (recovers_iff crypto_lawful (crypto_sealed nonce _) hcipher holdCipher hholds
    (left_run crypto_lawful rfl rfl hcipher).1).mp (hatomic 1).recoverable
  rcases hrecovers with h | ⟨-, h⟩ | ⟨-, -, h⟩
  · exact h
  · exact h
  · exact absurd h (by decide)

end Sample

end Vaulted.SavedSeed
