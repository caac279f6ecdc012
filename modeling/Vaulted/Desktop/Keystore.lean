import Vaulted.Crypto.AesStream
import Vaulted.Desktop.ClientError
import Vaulted.Library.Autocommit
import Vaulted.Library.Base64

/-!
# The keystore of the desktop client

`storage/keystore.rs`: the seed of a wallet, encrypted with a password, in three files.

* `Files` — what the data directory holds; the texts are ASCII.
* `Outcome` — what becomes of a write, `fsWrite` — the statement.
* `saveSeedWithPassword` — the seed, then its salt, then the public key.
* `loadKeypairWithPassword` — the files are read back, or the ones of an older version migrated.

File permissions and the erasure of memory are left out.
-/

namespace Vaulted.Keystore

open Autocommit Autocommit.Prog

/-! ## Primitives -/

/-- The random bytes that go with a password. -/
structure Salt where
  bytes : List UInt8
  size : bytes.length = 16
  deriving DecidableEq

structure Seed where
  bytes : List UInt8
  size : bytes.length = 32

/-- The crates; `makeKeys` is the key factory of the Umbral crate, and `base64Error` the text of
what is wrong with a text. -/
structure KeystoreCrypto where
  umbral : Umbral
  makeKeys : List UInt8 → Except String (Pre.PreKeyPair umbral)
  deriveKey : (password : String) → (salt : List UInt8) → Aes.AesKey
  gcm : Aes.AesGcm
  base64Error : String → String

/-- What a call of `save_seed_with_password` draws, or why it cannot. -/
structure Draws where
  salt : Except String Salt
  nonce : Except String Aes.Nonce

/-! ## Files -/

/-- The texts in the data directory, by name. -/
abbrev Files := String → Option String

/-- What becomes of a write.  One that is cut has failed, or has been the last thing the process
did; the file is as before, or has been emptied and holds the first characters. -/
inductive Outcome
  | Done
  | Cut (kept : Option Nat) (message : String)
  deriving DecidableEq

/-- The text in the file after a write. -/
def Outcome.leaves (o : Outcome) (content : String) (old : Option String) : Option String :=
  match o with
  | .Done => some content
  | .Cut none _ => old
  | .Cut (some n) _ => some (String.ofList (content.toList.take n))

/-- `fs::write`. -/
def fsWrite (o : Outcome) (path content : String) : Prog Files ClientError Unit := fun files =>
  (match o with
    | .Done => .ok ()
    | .Cut _ message => .error (.FileSystem message),
    Function.update files path (o.leaves content (files path)))

/-- The disk during a call: the writes, and whether a file can be removed. -/
structure Disk where
  write : Nat → Outcome
  removes : Bool

def seedPath (walletAddress : String) : String := walletAddress ++ ".seed.enc"
def publicKeyPath (walletAddress : String) : String := walletAddress ++ ".pubkey"
def saltPath (walletAddress : String) : String := walletAddress ++ ".salt"
def legacyPath (walletAddress : String) : String := walletAddress ++ ".seed"

/-- `fs::read_to_string`. -/
def readToString (files : Files) (path : String) : Except ClientError String :=
  match files path with
  | some text => .ok text
  | none => .error (.FileSystem "No such file or directory (os error 2)")

def encodeBase64 (bytes : List UInt8) : String := String.ofList (Base64.encode bytes)

section Calls

variable (c : KeystoreCrypto)

/-- The bytes in a file, `what` is the beginning of the error. -/
def decodeBase64 (what text : String) : Except ClientError (List UInt8) :=
  match Base64.decode (Text.trim text).toList with
  | some bytes => .ok bytes
  | none => .error (.Keystore (what ++ c.base64Error (Text.trim text)))

/-! ## Encryption -/

def encryptData (nonce : Except String Aes.Nonce) (key : Aes.AesKey) (plaintext : List UInt8) :
    Except ClientError (List UInt8) := do
  let nonce ← Pre.mapErr (fun e => .Keystore ("RNG error: " ++ e)) nonce
  match c.gcm.encrypt key.key nonce.bytes plaintext with
  | some ciphertext => .ok (nonce.bytes ++ ciphertext)
  | none => .error (.Keystore "Encryption failed: aead::Error")

def decryptData (key : Aes.AesKey) (encrypted : List UInt8) : Except ClientError (List UInt8) :=
  if encrypted.length < 12 then .error (.Keystore "Encrypted data too short")
  else match c.gcm.decrypt key.key (encrypted.take 12) (encrypted.drop 12) with
    | some plaintext => .ok plaintext
    | none => .error (.Keystore "Decryption failed (wrong password?): aead::Error")

def seedOfBytes (bytes : List UInt8) : Except ClientError Seed :=
  if h : bytes.length = 32 then .ok ⟨bytes, h⟩ else .error (.Keystore "Invalid seed length")

def generateKeypairFromSeed (seed : Seed) : Except ClientError (Pre.PreKeyPair c.umbral) :=
  Pre.mapErr (fun e => .Crypto (.InvalidKey ("Invalid seed: " ++ e))) (c.makeKeys seed.bytes)

/-! ## Saving -/

def saveSeedWithPassword (draws : Draws) (disk : Disk) (walletAddress : String) (seed : Seed)
    (password : String) : Prog Files ClientError Unit := do
  let salt ← lift (Pre.mapErr (fun e => .Keystore ("RNG error: " ++ e)) draws.salt)
  let encrypted ← lift (encryptData c draws.nonce (c.deriveKey password salt.bytes) seed.bytes)
  fsWrite (disk.write 0) (seedPath walletAddress) (encodeBase64 encrypted)
  fsWrite (disk.write 1) (saltPath walletAddress) (encodeBase64 salt.bytes)
  let keypair ← lift (generateKeypairFromSeed c seed)
  fsWrite (disk.write 2) (publicKeyPath walletAddress) (Pre.prePublicKeyToHex keypair.publicKey)

/-! ## Loading -/

def loadEncryptedSeed (walletAddress password : String) (files : Files) :
    Except ClientError (Option (Pre.PreKeyPair c.umbral)) := do
  let saltText ← readToString files (saltPath walletAddress)
  let saltBytes ← decodeBase64 c "Invalid salt: " saltText
  if saltBytes.length ≠ 16 then
    .error (.Keystore "Invalid salt length")
  else do
    let seedText ← readToString files (seedPath walletAddress)
    let encrypted ← decodeBase64 c "Invalid encrypted seed: " seedText
    let seedBytes ← decryptData c (c.deriveKey password saltBytes) encrypted
    let seed ← seedOfBytes seedBytes
    let keypair ← generateKeypairFromSeed c seed
    .ok (some keypair)

/-- The seed of an older version is encrypted, and its file removed if that is possible. -/
def migrateLegacySeed (draws : Draws) (disk : Disk) (walletAddress password : String) :
    Prog Files ClientError (Option (Pre.PreKeyPair c.umbral)) := do
  let text? ← read fun files => readToString files (legacyPath walletAddress)
  let seedBytes ← lift (text? >>= decodeBase64 c "Invalid legacy seed: ")
  let seed ← lift (seedOfBytes seedBytes)
  saveSeedWithPassword c draws disk walletAddress seed password
  write fun files =>
    .ok (if disk.removes then Function.update files (legacyPath walletAddress) none else files)
  let keypair ← lift (generateKeypairFromSeed c seed)
  pure (some keypair)

def loadKeypairWithPassword (draws : Draws) (disk : Disk) (walletAddress password : String) :
    Prog Files ClientError (Option (Pre.PreKeyPair c.umbral)) := do
  let isKnown ← read fun files => (files (publicKeyPath walletAddress)).isSome
  let isEncrypted ← read fun files =>
    (files (seedPath walletAddress)).isSome && (files (saltPath walletAddress)).isSome
  let isLegacy ← read fun files => (files (legacyPath walletAddress)).isSome
  if !isKnown then
    pure none
  else if isEncrypted then do
    let loaded ← read (loadEncryptedSeed c walletAddress password)
    lift loaded
  else if isLegacy then
    migrateLegacySeed c draws disk walletAddress password
  else
    pure none

end Calls

end Vaulted.Keystore
