import Vaulted.Library.Interleaving
import Vaulted.Library.JsonText
import Vaulted.Node.Token

/-!
# A storage node

`main.rs` of the storage node: the three handlers for fragments, statement by statement, over the
storage directory, the index in memory and the consumed token ids.

* `Store` — the directory, as names of files with contents of their own, and what is in memory.
* `Statement`, `exec` — what a handler does in one step.  Every file operation may fail, and a
  write that fails may have written a part.
* `getFragment`, `putFragment`, `deleteFragment` — the handlers; `atomicWriteNewFragment` with
  every branch of its error handling.
* `loadExistingFragments` — the index at start-up.

The directory holds regular files only, so that the checks for symbolic links are left out, and a
valid key is the name of an entry.
-/

namespace Vaulted.Node

open Interleaving

/-! ## The store -/

structure FragmentInfo where
  key : String
  size : Nat
  /-- In nanoseconds since the epoch. -/
  createdAt : Int
  encryptedHash : Option String
  deriving DecidableEq

/-- The storage directory.  Two names may stand for one file. -/
structure Disk where
  /-- The entries of the directory. -/
  files : String → Option Nat
  contents : Nat → List UInt8
  /-- Files from here on have never been used. -/
  nextFile : Nat
  used : ∀ name file, files name = some file → file < nextFile

structure Store where
  disk : Disk
  fragments : String → Option FragmentInfo
  consumedTokenIds : ConsumedIds

/-- What the outside world does during a statement, and what the clock shows after it. -/
structure World where
  nanos : Int
  /-- Does the file operation fail? -/
  fails : Bool
  /-- How much a write that fails has written. -/
  written : Nat

/-- `timestamp`, in seconds. -/
def World.timestamp (w : World) : Int := w.nanos / 1000000000

/-- `timestamp_nanos_opt().unwrap_or_default()`. -/
def World.timestampNanos (w : World) : Int :=
  if -2 ^ 63 ≤ w.nanos ∧ w.nanos < 2 ^ 63 then w.nanos else 0

/-! ## Statements -/

inductive IoError
  | NotFound
  | AlreadyExists
  | Other
  deriving DecidableEq

/-- A temporary file that a handler has opened, with the name it has created it under. -/
structure TempFile where
  path : String
  file : Nat
  deriving DecidableEq

/-- One step of a handler.  `Recheck` is the look at the fragment after it has been written,
`UnlinkTemp` the removal that ends a write, and `CleanUp` the one after an error; the file in it is
the one that the handler has created under the name, and does not matter for the step. -/
inductive Statement
  | ConsumeTokenId (jti : String) (exp now : Int)
  | StorageRoot
  | SymlinkMetadata (name : String)
  | Canonicalize (name : String)
  | Read (name : String)
  | CreateNew (path : String)
  | WriteAll (temp : TempFile) (body : List UInt8)
  | SyncAll (temp : TempFile)
  | HardLink (temp : TempFile) (key : String)
  | UnlinkTemp (temp : TempFile)
  | Recheck (key : String)
  | CleanUp (path : String) (created : Option Nat)
  | InsertFragment (key : String) (info : FragmentInfo)
  | RemoveFile (key : String)
  | RemoveFragment (key : String)
  deriving DecidableEq

/-- What a statement answers. -/
def Answer : Statement → Type
  | .ConsumeTokenId _ _ _ => Except ErrorResponse Unit
  | .Read _ => Except IoError (List UInt8)
  | .CreateNew _ => Except IoError Nat
  | .InsertFragment _ _ => Unit
  | .RemoveFragment _ => Unit
  | _ => Except IoError Unit

namespace Disk

/-- The bytes under a name. -/
def read (d : Disk) (name : String) : Option (List UInt8) := (d.files name).map d.contents

/-- Is there a file of the name? -/
def lookup (d : Disk) (w : World) (name : String) : Except IoError Unit :=
  if w.fails then .error .Other
  else if (d.files name).isSome then .ok () else .error .NotFound

lemma used_unlink (d : Disk) (name : String) (name' : String) (file : Nat)
    (h : Function.update d.files name none name' = some file) : file < d.nextFile := by
  rw [Function.update_apply] at h
  split_ifs at h
  exact d.used name' file h

def unlink (d : Disk) (w : World) (name : String) : Except IoError Unit × Disk :=
  match d.lookup w name with
  | .ok _ =>
      (.ok (),
        { d with
          files := Function.update d.files name none
          used := d.used_unlink name })
  | .error e => (.error e, d)

lemma used_createNew (d : Disk) (path : String) (name : String) (file : Nat)
    (h : Function.update d.files path (some d.nextFile) name = some file) :
    file < d.nextFile + 1 := by
  rw [Function.update_apply] at h
  split_ifs at h
  · rw [← Option.some.inj h]
    exact Nat.lt_succ_self _
  · exact Nat.lt_succ_of_lt (d.used name file h)

def createNew (d : Disk) (w : World) (path : String) : Except IoError Nat × Disk :=
  if w.fails then (.error .Other, d)
  else if (d.files path).isSome then (.error .AlreadyExists, d)
  else
    (.ok d.nextFile,
      { files := Function.update d.files path (some d.nextFile)
        contents := Function.update d.contents d.nextFile []
        nextFile := d.nextFile + 1
        used := d.used_createNew path })

def setContents (d : Disk) (file : Nat) (bytes : List UInt8) : Disk :=
  { d with contents := Function.update d.contents file bytes }

def writeAll (d : Disk) (w : World) (file : Nat) (body : List UInt8) :
    Except IoError Unit × Disk :=
  if w.fails then (.error .Other, d.setContents file (body.take w.written))
  else (.ok (), d.setContents file body)

lemma used_link (d : Disk) (source target : String) (name : String) (file : Nat)
    (h : Function.update d.files target (d.files source) name = some file) : file < d.nextFile := by
  rw [Function.update_apply] at h
  split_ifs at h
  · exact d.used source file h
  · exact d.used name file h

/-- A second name for a file. -/
def link (d : Disk) (source target : String) : Disk :=
  { d with
    files := Function.update d.files target (d.files source)
    used := d.used_link source target }

/-- A name that is taken stays. -/
def hardLink (d : Disk) (w : World) (source target : String) : Except IoError Unit × Disk :=
  if w.fails then (.error .Other, d)
  else if (d.files source).isNone then (.error .NotFound, d)
  else if (d.files target).isSome then (.error .AlreadyExists, d)
  else (.ok (), d.link source target)

end Disk

/-- A file operation leaves the memory of the node alone. -/
def onDisk {α : Type} (s : Store) (r : α × Disk) : α × Store := (r.1, { s with disk := r.2 })

def setFragment (s : Store) (key : String) (info : Option FragmentInfo) : Store :=
  { s with fragments := Function.update s.fragments key info }

def exec : (stmt : Statement) → World → Store → Answer stmt × Store
  | .ConsumeTokenId jti exp now, _, s =>
      ((consumeTokenId jti exp now s.consumedTokenIds).1,
        { s with consumedTokenIds := (consumeTokenId jti exp now s.consumedTokenIds).2 })
  | .StorageRoot, w, s => (if w.fails then .error .Other else .ok (), s)
  | .SymlinkMetadata name, w, s => (s.disk.lookup w name, s)
  | .Canonicalize name, w, s => (s.disk.lookup w name, s)
  | .Read name, w, s =>
      (if w.fails then .error .Other else (s.disk.read name).elim (.error .NotFound) .ok, s)
  | .CreateNew path, w, s => onDisk s (s.disk.createNew w path)
  | .WriteAll temp body, w, s => onDisk s (s.disk.writeAll w temp.file body)
  | .SyncAll _, w, s => (if w.fails then .error .Other else .ok (), s)
  | .HardLink temp key, w, s => onDisk s (s.disk.hardLink w temp.path key)
  | .UnlinkTemp temp, w, s => onDisk s (s.disk.unlink w temp.path)
  | .Recheck key, w, s => (s.disk.lookup w key, s)
  | .CleanUp path _, w, s => onDisk s (s.disk.unlink w path)
  | .InsertFragment key info, _, s => ((), setFragment s key (some info))
  | .RemoveFile key, w, s => onDisk s (s.disk.unlink w key)
  | .RemoveFragment key, _, s => ((), setFragment s key none)

/-! ## Requests -/

inductive Request
  | Get (key : String) (token : Option String)
  | Put (key : String) (token fragmentHash : Option String) (body : List UInt8)
  | Delete (key : String) (token : Option String)

def Request.key : Request → String
  | .Get key _ => key
  | .Put key _ _ _ => key
  | .Delete key _ => key

structure UploadResponse where
  key : String
  size : Nat
  nodeId : String
  encryptedHash : String
  deriving DecidableEq

inductive Success
  | Data (bytes : List UInt8)
  | Stored (response : UploadResponse)
  | NoContent
  deriving DecidableEq

abbrev Reply := Except ErrorResponse Success

/-- What is left of a request. -/
abbrev Rest := Proc Answer World Reply

/-! ## Keys and hashes -/

def isAsciiAlphanumeric (c : Char) : Bool :=
  ('0' ≤ c && c ≤ '9') || ('a' ≤ c && c ≤ 'z') || ('A' ≤ c && c ≤ 'Z')

/-- The characters and the dots of a key. -/
def wellFormedKey (key : String) : Bool :=
  !Text.startsWith key "/" && !Text.startsWith key "." && !Text.contains key ".."
    && !key.toList.any (fun c => "/\\%:?#".toList.contains c) && !key.toList.any Text.isControl
    && key.toList.all fun c => isAsciiAlphanumeric c || "_-.".toList.contains c

def validateStorageKey (key : String) : Except ErrorResponse Unit := do
  require (!Text.isEmpty key && decide (Text.len key ≤ 255)) .BadRequest
    "Invalid fragment key length"
  require (wellFormedKey key) .BadRequest "Invalid fragment key"

def validateFragmentSize (size maxSize : Nat) : Except ErrorResponse Unit :=
  require (decide (size ≤ maxSize)) .PayloadTooLarge
    "Encrypted fragment exceeds maximum allowed size"

section Hashes

variable (c : Crates)

def sha256Hex (data : List UInt8) : String := Text.hexEncode (c.sha256 data)

def safeStorageKeyLabel (storageKey : String) : String :=
  "sha256:" ++ String.ofList ((sha256Hex c (Text.utf8 storageKey)).toList.take 12)

/-- `sha256:` or `blake3:`, and the hash in hexadecimal of either case. -/
def fragmentHashMatches (declaredHash : String) (data : List UInt8) : Bool :=
  let digest := String.ofList (declaredHash.toList.drop 7)
  if Text.startsWith declaredHash "sha256:" then
    Text.eqIgnoreAsciiCase digest (sha256Hex c data)
  else if Text.startsWith declaredHash "blake3:" then
    Text.eqIgnoreAsciiCase digest (Text.hexEncode (c.blake3 data))
  else false

/-- The name of the temporary file that a write to the key uses. -/
def tempPath (key : String) (w : World) : String :=
  let label := (safeStorageKeyLabel c key).toList.map fun ch => if ch = ':' then '_' else ch
  ".upload-" ++ String.ofList label ++ "-" ++ toString w.timestampNanos

end Hashes

/-! ## Handlers -/

/-- Refuse, or go on. -/
def checked {α : Type} (r : Except ErrorResponse α) (k : α → Rest) : Rest := .check id r k

/-- The directory is there. -/
def fragmentPathForCreate (key : String) (k : World → Rest) : Rest :=
  checked (validateStorageKey key) fun _ =>
  .Exec .StorageRoot fun root w =>
  checked (okOrRefuse (ε := IoError) root .InternalServerError "Storage root unavailable") fun _ =>
  k w

def existingFragmentPath (key : String) (k : World → Rest) : Rest :=
  fragmentPathForCreate key fun _ =>
  .Exec (.SymlinkMetadata key) fun metadata _ =>
  checked (okOrRefuse (ε := IoError) metadata .NotFound "Fragment not found") fun _ =>
  .Exec (.Canonicalize key) fun canonical w =>
  checked (okOrRefuse (ε := IoError) canonical .NotFound "Fragment not found") fun _ => k w

/-- The answer to a write that an error has stopped. -/
def writeFailed (path : String) (created : Option Nat) : IoError → Rest
  | .AlreadyExists => .Done (.error ⟨.Conflict, "Encrypted fragment already exists"⟩)
  | _ =>
      .Exec (.CleanUp path created) fun _ _ =>
      .Done (.error ⟨.InternalServerError, "Failed to store fragment"⟩)

/-- Go on with the value, or clean up after the error. -/
def orFailed {α : Type} (path : String) (created : Option Nat) (r : Except IoError α)
    (k : α → Rest) : Rest :=
  match r with
  | .ok a => k a
  | .error e => writeFailed path created e

section Handlers

variable (c : Crates) (state : AppState)

/-- `verify_token_for_operation`, if the node requires a token. -/
def authorize (token : Option String) (storageKey : String) (operation : StorageOperation)
    (computedFragmentHash : Option String) (w : World) (k : World → Rest) : Rest :=
  if state.requireAuth then
    checked (authority c state token storageKey operation computedFragmentHash w.timestamp) fun
      | none => k w
      | some (jti, exp) =>
          .Exec (.ConsumeTokenId jti exp w.timestamp) fun consumed w => checked consumed fun _ => k w
  else k w

def getFragment (key : String) (token : Option String) (w : World) : Rest :=
  authorize c state token key .Read none w fun _ =>
  existingFragmentPath key fun _ =>
  .Exec (.Read key) fun data _ =>
  checked (okOrRefuse (ε := IoError) data .NotFound "Fragment not found") fun data =>
  .Done (.ok (.Data data))

/-- Write to a temporary file, and link it under the key. -/
def atomicWriteNewFragment (key : String) (body : List UInt8) (w : World) (k : World → Rest) :
    Rest :=
  let path := tempPath c key w
  .Exec (.CreateNew path) fun opened _ =>
  orFailed path none opened fun file =>
  let temp : TempFile := ⟨path, file⟩
  .Exec (.WriteAll temp body) fun written _ =>
  orFailed path (some file) written fun _ =>
  .Exec (.SyncAll temp) fun synced _ =>
  orFailed path (some file) synced fun _ =>
  .Exec (.HardLink temp key) fun linked _ =>
  orFailed path (some file) linked fun _ =>
  .Exec (.UnlinkTemp temp) fun removed _ =>
  orFailed path (some file) removed fun _ =>
  .Exec (.Recheck key) fun metadata w =>
  match (metadata : Except IoError Unit) with
  | .ok _ => k w
  | .error _ => writeFailed path (some file) .Other

def putFragment (key : String) (token fragmentHash : Option String) (body : List UInt8)
    (w : World) : Rest :=
  let computedHash := "sha256:" ++ sha256Hex c body
  let updateIndex (w : World) : Rest :=
    .Exec (.InsertFragment key
      { key
        size := body.length
        createdAt := w.nanos
        encryptedHash := some (fragmentHash.getD computedHash) }) fun _ _ =>
    .Done (.ok (.Stored
      { key
        size := body.length
        nodeId := state.nodeId
        encryptedHash := fragmentHash.getD computedHash }))
  checked (validateFragmentSize body.length state.maxFragmentSize) fun _ =>
  authorize c state token key .Write (some computedHash) w fun _ =>
  checked (require (fragmentHash.all fun declared => fragmentHashMatches c declared body) .BadRequest
    ("Fragment hash mismatch: declared " ++ fragmentHash.getD "" ++ ", computed "
      ++ computedHash)) fun _ =>
  fragmentPathForCreate key fun _ =>
  .Exec (.SymlinkMetadata key) fun metadata w =>
  match (metadata : Except IoError Unit) with
  | .ok _ =>
      .Exec (.Read key) fun existing w =>
      checked (okOrRefuse (ε := IoError) existing .InternalServerError
        "Failed to inspect existing fragment") fun existing =>
      checked (require (decide (existing = body)) .Conflict
        "Encrypted fragment already exists with different content") fun _ =>
      updateIndex w
  | .error _ => atomicWriteNewFragment c key body w updateIndex

def deleteFragment (key : String) (token : Option String) (w : World) : Rest :=
  authorize c state token key .Delete none w fun _ =>
  existingFragmentPath key fun _ =>
  .Exec (.RemoveFile key) fun removed _ =>
  checked (okOrRefuse (ε := IoError) removed .NotFound "Fragment not found") fun _ =>
  .Exec (.RemoveFragment key) fun _ _ =>
  .Done (.ok .NoContent)

def handle : Request → World → Rest
  | .Get key token, w => getFragment c state key token w
  | .Put key token fragmentHash body, w => putFragment c state key token fragmentHash body w
  | .Delete key token, w => deleteFragment c state key token w

/-! ## The node -/

/-- The store, and the requests under way. -/
abbrev Server := State Store Request Answer World Reply

abbrev step (s : Server) (l : Label Request World) : Server :=
  Interleaving.step exec (handle c state) s l

/-- The node after a run. -/
abbrev run (s : Server) (ls : List (Label Request World)) : Server :=
  Runs.exec (step c state) s ls

end Handlers

/-! ## The start -/

/-- The index that a node starts with. -/
def loadExistingFragments (d : Disk) (createdAt : Int) : String → Option FragmentInfo :=
  fun name => (d.files name).map fun file =>
    { key := name
      size := (d.contents file).length
      createdAt
      encryptedHash := none }

def started (d : Disk) (createdAt : Int) : Server where
  store :=
    { disk := d
      fragments := loadExistingFragments d createdAt
      consumedTokenIds := fun _ => none }
  threads := []

/-! ## A node to try things out with -/

namespace Sample

def crates : Crates where
  ed := Ed25519.transparent
  base64Url := Base64.urlSafe
  json := JsonText.compact
  sha256 bytes := (bytes ++ List.replicate 32 0).take 32
  blake3 bytes := (bytes ++ List.replicate 32 0).take 32

def oracleKey : SigningKey where
  verifyingKey := List.replicate 32 7
  sign := Ed25519.sign (List.replicate 32 7)

lemma crates_lawful : crates.Lawful where
  base64Url := Base64.urlSafe_lawful
  json := JsonText.compact_lawful

lemma sign_length (message : List UInt8) : (oracleKey.sign message).length = 64 := by
  simp [oracleKey, Ed25519.sign]

lemma verify_sign (message : List UInt8) :
    crates.ed.verify oracleKey.verifyingKey message (oracleKey.sign message) = true :=
  decide_eq_true rfl

lemma crates_correct : oracleKey.Correct crates fun _ => True :=
  fun _ _ => ⟨sign_length _, verify_sign _⟩

def node : AppState where
  nodeId := "n"
  oraclePublicKey := some oracleKey.verifyingKey
  requireAuth := true
  maxFragmentSize := 16

/-- A node that asks for no tokens. -/
def openNode : AppState := { node with requireAuth := false }

def put (key : String) (body : List UInt8) : Request := .Put key none none body

/-- All goes well, and the clock shows the time. -/
def atTime (nanos : Int) : World where
  nanos
  fails := false
  written := 0

/-- So many steps of a request. -/
def steps (i n : Nat) (nanos : Int) : List (Label Request World) :=
  List.replicate n (.Step i (atTime nanos))

def emptyDisk : Disk where
  files _ := none
  contents _ := []
  nextFile := 0
  used _ _ h := nomatch h

end Sample

end Vaulted.Node
