import Vaulted.Crypto.Pre
import Vaulted.Library.Text

/-!
# Archives of several files

`archive.rs`: files and directories that are uploaded together are put into one ZIP archive.

* `Node` — what is at a path, `Directory` and `Listing` — what is below it.
* `ZipCrate` — the writer of the archive, and its reader.
* `addDirectoryToZip` — the walk through a directory; the names in the archive are built from a
  prefix, which is empty at the top.
* `createZipArchive` — the archive of a list of paths.

Paths are those of a Unix system.  The name of the archive, which the function ignores, is left out.
-/

namespace Vaulted.Archive

/-! ## Paths and names -/

/-- The bytes of a path. -/
abbrev PathBuf := List UInt8

/-- The name of an entry of a directory. -/
structure OsName where
  bytes : List UInt8
  nonempty : bytes ≠ []
  deriving DecidableEq

/-- `Path::join` with a relative path. -/
def join (dir : PathBuf) (name : OsName) : PathBuf :=
  if dir = [] ∨ dir.getLast? = some 0x2F then dir ++ name.bytes else dir ++ 0x2F :: name.bytes

/-- `Path::file_name` of a path that is text: the last component, unless it is `..`. -/
def fileName (path : String) : Option String :=
  match ((Text.split '/' path).filter fun part => part != "" && part != ".").getLast? with
  | none => none
  | some part => if part = ".." then none else some part

/-! ## The file system -/

/-- What becomes of opening and reading a file. -/
inductive Content
  | Unopened (e : String)
  | Unread (e : String)
  | Bytes (bytes : List UInt8)
  deriving DecidableEq

mutual

/-- What is at a path, once links are followed: `is_file` and `is_dir` tell the first two, and say
no to both of what has metadata that cannot be read. -/
inductive Node
  | File (content : Content)
  | Dir (directory : Directory)
  | Unseen (node : Node)
  | Other

/-- What becomes of `read_dir`. -/
inductive Directory
  | Closed (e : String)
  | Open (listing : Listing)

/-- What the iterator over a directory yields. -/
inductive Listing
  | End
  | Failed (e : String)
  | Entry (name : OsName) (node : Node) (rest : Listing)

end

/-- The computer: what is at a path the user chose, and how a path is shown with `{:?}`. -/
structure Computer where
  node : String → Node
  debug : PathBuf → String

/-! ## The ZIP crate -/

inductive CompressionMethod
  | Stored
  | Deflated
  deriving DecidableEq

structure FileOptions where
  compressionMethod : CompressionMethod
  unixPermissions : Nat
  deriving DecidableEq

/-- What is in an archive; a directory has no content. -/
structure Entry where
  name : String
  content : Option (List UInt8)
  deriving DecidableEq

/-- The crate; `entries` is what is found in the bytes of an archive. -/
structure ZipCrate where
  Writer : Type
  new : Writer
  startFile : Writer → String → FileOptions → Except String Writer
  writeAll : Writer → List UInt8 → Except String Writer
  addDirectory : Writer → String → FileOptions → Except String Writer
  finish : Writer → Except String (List UInt8)
  entries : List UInt8 → Option (List Entry)

/-! ## Writing an archive -/

/-- Why there is no archive. -/
inductive Failure
  | Panicked
  | Failed (message : String)
  deriving DecidableEq

section Writing

variable (z : ZipCrate) (debug : PathBuf → String)

/-- `map_err(|e| format!("…: {}", e))`. -/
def withContext {α : Type} (context : String) : Except String α → Except Failure α :=
  Pre.mapErr fun e => .Failed (context ++ ": " ++ e)

def readToEnd (filePath : PathBuf) : Content → Except Failure (List UInt8)
  | .Unopened e => withContext ("Failed to open file " ++ debug filePath) (.error e)
  | .Unread e => withContext ("Failed to read file " ++ debug filePath) (.error e)
  | .Bytes bytes => .ok bytes

def addFileToZip (zip : z.Writer) (filePath : PathBuf) (content : Content)
    (nameInArchive : String) (options : FileOptions) : Except Failure z.Writer := do
  let contents ← readToEnd debug filePath content
  let zip ← withContext "Failed to start file in ZIP" (z.startFile zip nameInArchive options)
  withContext "Failed to write to ZIP" (z.writeAll zip contents)

/-- `name.to_str().unwrap_or("unknown")`. -/
def OsName.text (name : OsName) : String := (Text.fromUtf8 name.bytes).getD "unknown"

def archivePath (front : String) (name : OsName) : String :=
  if Text.isEmpty front then name.text else front ++ "/" ++ name.text

mutual

/-- `add_directory_to_zip`; `front` is its `prefix`. -/
def addDirectoryToZip (dirPath : PathBuf) (front : String) (options : FileOptions)
    (zip : z.Writer) : Directory → Except Failure z.Writer
  | .Closed e => withContext ("Failed to read directory " ++ debug dirPath) (.error e)
  | .Open listing => addEntries dirPath front options zip listing

/-- The loop over the entries. -/
def addEntries (dirPath : PathBuf) (front : String) (options : FileOptions)
    (zip : z.Writer) : Listing → Except Failure z.Writer
  | .End => .ok zip
  | .Failed e => withContext "Failed to read entry" (.error e)
  | .Entry name node rest => do
      let zip ← addNode (join dirPath name) (archivePath front name) options zip node
      addEntries dirPath front options zip rest

/-- The body of the loop. -/
def addNode (path : PathBuf) (archivePath : String) (options : FileOptions)
    (zip : z.Writer) : Node → Except Failure z.Writer
  | .File content => addFileToZip z debug zip path content archivePath options
  | .Dir directory => do
      let zip ← withContext "Failed to add directory to ZIP"
        (z.addDirectory zip archivePath options)
      addDirectoryToZip path archivePath options zip directory
  | .Unseen _ | .Other => .ok zip

end

end Writing

section Creating

variable (z : ZipCrate) (computer : Computer)

/-- The options of every entry; the permissions are `0o644`. -/
def archiveOptions : FileOptions := ⟨.Deflated, 420⟩

/-- One of the paths the user chose. -/
def addPath (zip : z.Writer) (path : String) : Except Failure z.Writer :=
  match computer.node path with
  | .File content =>
      match fileName path with
      | none => .error .Panicked
      | some name =>
          addFileToZip z computer.debug zip (Text.utf8 path) content name archiveOptions
  | .Dir directory =>
      addDirectoryToZip z computer.debug (Text.utf8 path) "" archiveOptions zip directory
  | .Unseen _ | .Other => .ok zip

def createZipArchive (paths : List String) : Except Failure (List UInt8) := do
  let zip ← paths.foldlM (addPath z computer) z.new
  withContext "Failed to finish ZIP" (z.finish zip)

end Creating

end Vaulted.Archive
