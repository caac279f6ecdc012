import Vaulted.Desktop.Archive
import Vaulted.Library.Checks

/-!
# What an archive holds

* `Found` — a regular file below a path the user chose, `Node.files` — all of them.
* `Found.archiveName` — its path below the directory the user chose, or its file name.
* `KeepsEvery` — every regular file is in the archive, and the name of its entry ends with its path.
* `ZipCrate.Lawful` — the writer appends, and refuses a name that is there.
* `Appends` — what a call adds to an archive, and that the names stay distinct.
* **`archive_complete`** — the files of an archive are the ones that were found, each once.
* `not_keepsEvery` — a part of a name that is not UTF-8 is `unknown`, and a file whose metadata
  cannot be read is left out.
-/

namespace Vaulted.Archive

/-! ## The files below a path -/

/-- A regular file: the path the user chose, and where the file is below it. -/
structure Found where
  input : String
  below : List OsName
  content : Content
  deriving DecidableEq

mutual

/-- The regular files at or below a node; with or without the ones that have metadata that cannot
be read. -/
def Node.files (everything : Bool) (input : String) (below : List OsName) : Node → List Found
  | .File content => [⟨input, below, content⟩]
  | .Dir directory => directory.files everything input below
  | .Unseen node => if everything then node.files everything input below else []
  | .Other => []

def Directory.files (everything : Bool) (input : String) (below : List OsName) :
    Directory → List Found
  | .Closed _ => []
  | .Open listing => listing.files everything input below

def Listing.files (everything : Bool) (input : String) (below : List OsName) :
    Listing → List Found
  | .End | .Failed _ => []
  | .Entry name node rest =>
      node.files everything input (below ++ [name]) ++ rest.files everything input below

end

def Computer.files (computer : Computer) (everything : Bool) (paths : List String) : List Found :=
  paths.flatMap fun path => (computer.node path).files everything path []

/-- The bytes of the path below the directory. -/
def Found.relative (f : Found) : List UInt8 := [0x2F].intercalate (f.below.map OsName.bytes)

/-- Every file is there, and the name of its entry ends with its path. -/
def KeepsEvery (found : List Found) (entries : List Entry) : Prop :=
  ∀ f ∈ found, ∃ entry ∈ entries, f.relative <:+ Text.utf8 entry.name
    ∧ ∃ bytes, f.content = .Bytes bytes ∧ entry.content = some bytes

/-! ## The entry of a file -/

def joined (below : List OsName) : String := "/".intercalate (below.map OsName.text)

def Content.bytes : Content → Option (List UInt8)
  | .Bytes bytes => some bytes
  | .Unopened _ | .Unread _ => none

/-- The file name of a file the user chose, and the path of one below a directory. -/
def Found.archiveName (f : Found) : String :=
  if f.below = [] then (fileName f.input).getD "" else joined f.below

def Found.entry (f : Found) : Entry := ⟨f.archiveName, f.content.bytes⟩

def Entry.isFile (e : Entry) : Bool := e.content.isSome

/-- The entries that are files are the ones of the files found, each once, and no two entries have
one name.  A file below a directory keeps its path, if that is text. -/
structure Complete (found : List Found) (entries : List Entry) : Prop where
  files : entries.filter Entry.isFile = found.map Found.entry
  distinct : (entries.map Entry.name).Nodup
  named : ∀ f ∈ found, f.below ≠ [] →
    (∀ name ∈ f.below, (Text.fromUtf8 name.bytes).isSome = true) →
    Text.utf8 f.archiveName = f.relative
  each : ∀ f ∈ found, ∃ bytes, f.content = .Bytes bytes
    ∧ ∃! entry, entry ∈ entries ∧ entry.name = f.archiveName ∧ entry.content = some bytes

lemma OsName.text_ne (name : OsName) : name.text ≠ "" := by
  rw [OsName.text]
  cases h : Text.fromUtf8 name.bytes with
  | none => decide
  | some s =>
      rintro rfl
      exact name.nonempty (Text.utf8_of_fromUtf8 h).symm

lemma joined_ne {below : List OsName} (h : below ≠ []) : joined below ≠ "" := by
  obtain ⟨name, rest, rfl⟩ := List.exists_cons_of_ne_nil h
  by_cases hrest : rest = []
  · rw [hrest, joined, List.map_singleton, String.intercalate_singleton]
    exact name.text_ne
  · rw [joined, List.map_cons, String.intercalate_cons_of_ne_nil (by simpa using hrest)]
    intro hempty
    have hlength := congrArg (fun s : String => s.toList.length) hempty
    simp at hlength

lemma archivePath_joined (below : List OsName) (name : OsName) :
    archivePath (joined below) name = joined (below ++ [name]) := by
  rw [archivePath]
  by_cases hbelow : below = []
  · have hempty : joined [] = "" := String.intercalate_nil
    rw [hbelow, hempty, if_pos (Text.isEmpty_iff.mpr rfl)]
    exact String.intercalate_singleton.symm
  · rw [if_neg fun h => joined_ne hbelow (Text.isEmpty_iff.mp h), joined, joined,
      List.map_append, String.intercalate_append_of_ne_nil (by simpa using hbelow) (by simp),
      List.map_singleton, String.intercalate_singleton]

lemma OsName.utf8_text {name : OsName} (h : (Text.fromUtf8 name.bytes).isSome = true) :
    Text.utf8 name.text = name.bytes := by
  obtain ⟨s, hs⟩ := Option.isSome_iff_exists.mp h
  rw [OsName.text, hs]
  exact Text.utf8_of_fromUtf8 hs

/-- Where all names are text, the path is kept. -/
lemma utf8_joined {below : List OsName}
    (h : ∀ name ∈ below, (Text.fromUtf8 name.bytes).isSome = true) :
    Text.utf8 (joined below) = [0x2F].intercalate (below.map OsName.bytes) := by
  induction below with
  | nil => rfl
  | cons name below ih =>
      obtain ⟨hname, hbelow⟩ := List.forall_mem_cons.mp h
      cases below with
      | nil =>
          rw [joined, List.map_singleton, String.intercalate_singleton, List.map_singleton,
            List.intercalate_singleton]
          exact OsName.utf8_text hname
      | cons next rest =>
          have hjoined : joined (name :: next :: rest)
              = name.text ++ "/" ++ joined (next :: rest) := String.intercalate_cons_cons
          rw [hjoined, Text.utf8_append, Text.utf8_append, OsName.utf8_text hname, ih hbelow]
          exact List.intercalate_cons_cons.symm

/-! ## The writer -/

/-- The name of the entry that `add_directory` makes. -/
def directoryName (name : String) : String :=
  match name.toList.getLast? with
  | some '/' | some '\\' => name
  | _ => name ++ "/"

section Writer

variable {z : ZipCrate} (written : z.Writer → List Entry)

/-- What the crate promises; `written` are the entries a writer has. -/
structure ZipCrate.Lawful : Prop where
  new : written z.new = []
  startFile : ∀ zip name options zip', z.startFile zip name options = .ok zip' →
    name ∉ (written zip).map Entry.name ∧ written zip' = written zip ++ [⟨name, some []⟩]
  writeAll : ∀ zip bytes zip' front name content,
    written zip = front ++ [⟨name, some content⟩] → z.writeAll zip bytes = .ok zip' →
    written zip' = front ++ [⟨name, some (content ++ bytes)⟩]
  addDirectory : ∀ zip name options zip', z.addDirectory zip name options = .ok zip' →
    directoryName name ∉ (written zip).map Entry.name
      ∧ written zip' = written zip ++ [⟨directoryName name, none⟩]
  finish : ∀ zip archive, z.finish zip = .ok archive → z.entries archive = some (written zip)

/-- What has been added, the files among it, and that the names are still distinct. -/
structure Appends (zip zip' : z.Writer) (added : List Entry) (found : List Found) : Prop where
  grown : written zip' = written zip ++ added
  distinct : ((written zip).map Entry.name).Nodup → ((written zip').map Entry.name).Nodup
  files : added.filter Entry.isFile = found.map Found.entry
  read : ∀ f ∈ found, ∃ bytes, f.content = .Bytes bytes

variable {written} {zip zip' zip'' : z.Writer}

lemma nodup_names_append {entries : List Entry} {entry : Entry}
    (hnew : entry.name ∉ entries.map Entry.name) (h : (entries.map Entry.name).Nodup) :
    ((entries ++ [entry]).map Entry.name).Nodup := by
  rw [List.map_append, List.map_singleton]
  exact List.nodup_append'.mpr ⟨h, List.nodup_singleton _, List.disjoint_singleton.mpr hnew⟩

lemma Appends.refl (zip : z.Writer) : Appends written zip zip [] [] :=
  ⟨(List.append_nil _).symm, id, rfl, fun _ hf => absurd hf List.not_mem_nil⟩

lemma Appends.trans {added added' : List Entry} {found found' : List Found}
    (h : Appends written zip zip' added found) (h' : Appends written zip' zip'' added' found') :
    Appends written zip zip'' (added ++ added') (found ++ found') where
  grown := by rw [h'.grown, h.grown, List.append_assoc]
  distinct := h'.distinct ∘ h.distinct
  files := by rw [List.filter_append, List.map_append, h.files, h'.files]
  read := fun f hf => (List.mem_append.mp hf).elim (h.read f) (h'.read f)

/-- A file is one entry, with all of its content. -/
lemma appends_file (hz : z.Lawful written) {debug : PathBuf → String} {filePath : PathBuf}
    {content : Content} {name : String} {options : FileOptions}
    (h : addFileToZip z debug zip filePath content name options = .ok zip') {f : Found}
    (hname : f.archiveName = name) (hcontent : f.content = content) :
    Appends written zip zip' [f.entry] [f] := by
  obtain ⟨contents, hread, hstart⟩ := Checks.bind_eq_ok_iff.mp h
  obtain ⟨started, hstarted, hwrite⟩ := Checks.bind_eq_ok_iff.mp hstart
  obtain ⟨hnew, hgrown⟩ := hz.startFile _ _ _ _ (Pre.mapErr_eq_ok_iff.mp hstarted)
  have hfull := hz.writeAll _ _ _ _ _ _ hgrown (Pre.mapErr_eq_ok_iff.mp hwrite)
  cases content with
  | Unopened e => cases hread
  | Unread e => cases hread
  | Bytes bytes =>
      obtain rfl := Except.ok.inj hread
      have hentry : f.entry = ⟨name, some bytes⟩ := by rw [Found.entry, hname, hcontent]; rfl
      rw [List.nil_append, ← hentry] at hfull
      have hfile : f.entry.isFile = true := by rw [hentry]; rfl
      refine ⟨hfull, fun hdistinct => ?_, ?_, ?_⟩
      · rw [hfull]
        exact nodup_names_append (by rwa [hentry]) hdistinct
      · rw [List.filter_singleton, hfile]
        rfl
      · exact fun f' hf' => ⟨bytes, List.mem_singleton.mp hf' ▸ hcontent⟩

lemma appends_directory (hz : z.Lawful written) {name : String} {options : FileOptions}
    (h : z.addDirectory zip name options = .ok zip') :
    Appends written zip zip' [⟨directoryName name, none⟩] [] := by
  obtain ⟨hnew, hgrown⟩ := hz.addDirectory _ _ _ _ h
  refine ⟨hgrown, fun hdistinct => ?_, rfl, fun _ hf => absurd hf List.not_mem_nil⟩
  rw [hgrown]
  exact nodup_names_append hnew hdistinct

end Writer

/-! ## The walk -/

section Walk

variable {z : ZipCrate} {written : z.Writer → List Entry} {debug : PathBuf → String}
  {options : FileOptions}

mutual

/-- A directory adds the files below it, each under its path. -/
lemma appends_addDirectoryToZip (hz : z.Lawful written) (input : String) (below : List OsName)
    {dirPath : PathBuf} {zip zip' : z.Writer} : ∀ directory : Directory,
    addDirectoryToZip z debug dirPath (joined below) options zip directory = .ok zip' →
    ∃ added, Appends written zip zip' added (directory.files false input below)
  | .Closed e => by
      intro h
      rw [addDirectoryToZip] at h
      cases h
  | .Open listing => by
      intro h
      rw [addDirectoryToZip] at h
      rw [Directory.files]
      exact appends_addEntries hz input below listing h

lemma appends_addEntries (hz : z.Lawful written) (input : String) (below : List OsName)
    {dirPath : PathBuf} {zip zip' : z.Writer} : ∀ listing : Listing,
    addEntries z debug dirPath (joined below) options zip listing = .ok zip' →
    ∃ added, Appends written zip zip' added (listing.files false input below)
  | .End => by
      intro h
      rw [addEntries] at h
      rw [Listing.files, ← Except.ok.inj h]
      exact ⟨[], .refl zip⟩
  | .Failed e => by
      intro h
      rw [addEntries] at h
      cases h
  | .Entry name node rest => by
      intro h
      rw [addEntries, archivePath_joined] at h
      rw [Listing.files]
      obtain ⟨zip₁, hnode, hrest⟩ := Checks.bind_eq_ok_iff.mp h
      obtain ⟨added, hadded⟩ := appends_addNode hz input (by simp) node hnode
      obtain ⟨added', hadded'⟩ := appends_addEntries hz input below rest hrest
      exact ⟨added ++ added', hadded.trans hadded'⟩

lemma appends_addNode (hz : z.Lawful written) (input : String) {below : List OsName}
    (hbelow : below ≠ []) {path : PathBuf} {zip zip' : z.Writer} : ∀ node : Node,
    addNode z debug path (joined below) options zip node = .ok zip' →
    ∃ added, Appends written zip zip' added (node.files false input below)
  | .File content => by
      intro h
      rw [addNode] at h
      rw [Node.files]
      exact ⟨_, appends_file hz h (if_neg hbelow) rfl⟩
  | .Dir directory => by
      intro h
      rw [addNode] at h
      rw [Node.files]
      obtain ⟨zip₁, hdir, hrest⟩ := Checks.bind_eq_ok_iff.mp h
      obtain ⟨added, hadded⟩ := appends_addDirectoryToZip hz input below directory hrest
      exact ⟨_, (appends_directory hz (Pre.mapErr_eq_ok_iff.mp hdir)).trans hadded⟩
  | .Unseen node | .Other => by
      intro h
      rw [addNode] at h
      rw [Node.files, ← Except.ok.inj h]
      exact ⟨[], .refl zip⟩

end

lemma appends_addPath (hz : z.Lawful written) {computer : Computer} {path : String}
    {zip zip' : z.Writer} (h : addPath z computer zip path = .ok zip') :
    ∃ added, Appends written zip zip' added ((computer.node path).files false path []) := by
  rw [addPath] at h
  cases hnode : computer.node path with
  | File content =>
      rw [hnode] at h
      cases hname : fileName path with
      | none => rw [hname] at h; cases h
      | some name =>
          rw [hname] at h
          rw [Node.files]
          refine ⟨_, appends_file hz h ?_ rfl⟩
          rw [Found.archiveName, if_pos rfl, hname]
          rfl
  | Dir directory =>
      have hfront : joined [] = "" := String.intercalate_nil
      rw [hnode, ← hfront] at h
      rw [Node.files]
      exact appends_addDirectoryToZip hz path [] directory h
  | Unseen node =>
      rw [hnode] at h
      rw [Node.files, ← Except.ok.inj h]
      exact ⟨[], .refl zip⟩
  | Other =>
      rw [hnode] at h
      rw [Node.files, ← Except.ok.inj h]
      exact ⟨[], .refl zip⟩

lemma appends_addPaths (hz : z.Lawful written) {computer : Computer} {paths : List String}
    {zip zip' : z.Writer} (h : paths.foldlM (addPath z computer) zip = .ok zip') :
    ∃ added, Appends written zip zip' added (computer.files false paths) := by
  induction paths generalizing zip with
  | nil =>
      rw [List.foldlM_nil] at h
      obtain rfl := Except.ok.inj h
      exact ⟨[], .refl zip⟩
  | cons path paths ih =>
      rw [List.foldlM_cons] at h
      obtain ⟨zip₁, hpath, hpaths⟩ := Checks.bind_eq_ok_iff.mp h
      obtain ⟨added, hadded⟩ := appends_addPath hz hpath
      obtain ⟨added', hadded'⟩ := ih hpaths
      exact ⟨added ++ added', hadded.trans hadded'⟩

end Walk

/-! ## The archive -/

/-- A file that is among the entries, no two of which have one name, is there once. -/
lemma existsUnique_entry {found : List Found} {entries : List Entry}
    (hfiles : entries.filter Entry.isFile = found.map Found.entry)
    (hdistinct : (entries.map Entry.name).Nodup) {f : Found} (hf : f ∈ found)
    {bytes : List UInt8} (hbytes : f.content = .Bytes bytes) :
    ∃! entry, entry ∈ entries ∧ entry.name = f.archiveName ∧ entry.content = some bytes := by
  have hmem : f.entry ∈ entries.filter Entry.isFile := hfiles ▸ List.mem_map_of_mem hf
  refine ⟨f.entry, ⟨List.mem_of_mem_filter hmem, rfl, ?_⟩, ?_⟩
  · rw [Found.entry, hbytes]
    rfl
  · rintro entry ⟨hentry, hname, -⟩
    exact List.inj_on_of_nodup_map hdistinct hentry (List.mem_of_mem_filter hmem) hname

/-- **Nothing is lost.**  An archive that is created has the content of every file that was found,
each in one entry, and no other file; all names are distinct. -/
theorem archive_complete {z : ZipCrate} {written : z.Writer → List Entry} (hz : z.Lawful written)
    {computer : Computer} {paths : List String} {archive : List UInt8}
    (h : createZipArchive z computer paths = .ok archive) :
    ∃ entries, z.entries archive = some entries
      ∧ Complete (computer.files false paths) entries := by
  obtain ⟨zip, hpaths, hfinish⟩ := Checks.bind_eq_ok_iff.mp h
  obtain ⟨added, hadded⟩ := appends_addPaths hz hpaths
  have hdistinct : ((written zip).map Entry.name).Nodup :=
    hadded.distinct (by rw [hz.new]; exact List.nodup_nil)
  have hfiles : (written zip).filter Entry.isFile
      = (computer.files false paths).map Found.entry := by
    rw [hadded.grown, hz.new, List.nil_append, hadded.files]
  refine ⟨written zip, hz.finish _ _ (Pre.mapErr_eq_ok_iff.mp hfinish), hfiles, hdistinct, ?_, ?_⟩
  · intro f _ hbelow htext
    rw [Found.archiveName, if_neg hbelow]
    exact utf8_joined htext
  · intro f hf
    obtain ⟨bytes, hbytes⟩ := hadded.read f hf
    exact ⟨bytes, hbytes, existsUnique_entry hfiles hdistinct hf hbytes⟩

/-! ## A small archive format -/

namespace Sample

/-- An entry in pairs of bytes: its name, a mark, and its content. -/
def encode (e : Entry) : List UInt8 :=
  (Text.utf8 e.name).flatMap (fun b => [0, b]) ++ match e.content with
    | none => [1, 0]
    | some bytes => [2, 0] ++ bytes.flatMap fun b => [3, b]

/-- The entries, after the content of an entry that begins before. -/
def decode : List UInt8 → List UInt8 × List (List UInt8 × Option (List UInt8))
  | 0 :: b :: rest => ((decode rest).1, match (decode rest).2 with
      | [] => []
      | (name, content) :: entries => (b :: name, content) :: entries)
  | 1 :: _ :: rest => ((decode rest).1, ([], none) :: (decode rest).2)
  | 2 :: _ :: rest => ([], ([], some (decode rest).1) :: (decode rest).2)
  | _ :: b :: rest => (b :: (decode rest).1, (decode rest).2)
  | _ => ([], [])

lemma decode_content (bytes rest : List UInt8) :
    decode (bytes.flatMap (fun b => [3, b]) ++ rest)
      = (bytes ++ (decode rest).1, (decode rest).2) := by
  induction bytes with
  | nil => rfl
  | cons b bytes ih =>
      rw [List.flatMap_cons, List.append_assoc, List.cons_append, List.cons_append,
        List.nil_append, decode, ih]
      · rfl
      all_goals decide

lemma decode_name {bytes rest : List UInt8} {content : Option (List UInt8)}
    {entries : List (List UInt8 × Option (List UInt8))}
    (h : decode rest = ([], ([], content) :: entries)) :
    decode (bytes.flatMap (fun b => [0, b]) ++ rest) = ([], (bytes, content) :: entries) := by
  induction bytes with
  | nil => exact h
  | cons b bytes ih =>
      rw [List.flatMap_cons, List.append_assoc, List.cons_append, List.cons_append,
        List.nil_append, decode, ih]

lemma decode_flatMap (entries : List Entry) : decode (entries.flatMap encode)
    = ([], entries.map fun e => (Text.utf8 e.name, e.content)) := by
  induction entries with
  | nil => rfl
  | cons e entries ih =>
      obtain ⟨name, content⟩ := e
      rw [List.flatMap_cons, encode, List.append_assoc, List.map_cons]
      refine decode_name ?_
      cases content with
      | none =>
          rw [List.cons_append, List.cons_append, List.nil_append, decode, ih]
      | some bytes =>
          rw [List.append_assoc, List.cons_append, List.cons_append, List.nil_append, decode,
            decode_content, ih, List.append_nil]

def toEntry (pair : List UInt8 × Option (List UInt8)) : Option Entry :=
  (Text.fromUtf8 pair.1).map fun name => ⟨name, pair.2⟩

/-- A crate that writes this format, and refuses a name that is there. -/
def zip : ZipCrate where
  Writer := List Entry
  new := []
  startFile zip name _ :=
    if name ∈ zip.map Entry.name then .error "Duplicate filename"
    else .ok (zip ++ [⟨name, some []⟩])
  writeAll zip bytes :=
    match zip.getLast? with
    | some ⟨name, some content⟩ => .ok (zip.dropLast ++ [⟨name, some (content ++ bytes)⟩])
    | _ => .error "No file has been started"
  addDirectory zip name _ :=
    if directoryName name ∈ zip.map Entry.name then .error "Duplicate filename"
    else .ok (zip ++ [⟨directoryName name, none⟩])
  finish zip := .ok (zip.flatMap encode)
  entries archive := (decode archive).2.mapM toEntry

lemma entries_encode (entries : List Entry) :
    zip.entries (entries.flatMap encode) = some entries := by
  have hmap : (entries.map fun e => (Text.utf8 e.name, e.content)).mapM toEntry = some entries := by
    induction entries with
    | nil => rfl
    | cons e entries ih =>
        rw [List.map_cons, List.mapM_cons, toEntry, Text.fromUtf8_utf8, ih]
        rfl
  have hdecode := congrArg Prod.snd (decode_flatMap entries)
  exact (congrArg (List.mapM toEntry) hdecode).trans hmap

lemma lawful : zip.Lawful fun zip => zip where
  new := rfl
  startFile := by
    intro zip name options zip' h
    obtain ⟨hnew, hgrown⟩ := Checks.ite_eq_ok_iff.mp h
    exact ⟨hnew, (Except.ok.inj hgrown).symm⟩
  writeAll := by
    rintro _ bytes zip' front name content rfl h
    have hlast : (front ++ [(⟨name, some content⟩ : Entry)]).getLast?
        = some ⟨name, some content⟩ := List.getLast?_concat
    change (match (front ++ [_]).getLast? with
      | some ⟨name, some content⟩ => _
      | _ => _) = _ at h
    rw [hlast] at h
    rw [← Except.ok.inj h, List.dropLast_concat]
  addDirectory := by
    intro zip name options zip' h
    obtain ⟨hnew, hgrown⟩ := Checks.ite_eq_ok_iff.mp h
    exact ⟨hnew, (Except.ok.inj hgrown).symm⟩
  finish := by
    intro zip archive h
    rw [← Except.ok.inj h]
    exact entries_encode zip

/-- A directory with a file that has a name which is not UTF-8, a directory with one whose metadata
cannot be read, and a file. -/
def computer : Computer where
  node path :=
    if path = "/home/docs" then
      .Dir (.Open (.Entry ⟨[0xFF], by decide⟩ (.File (.Bytes [1])) .End))
    else if path = "/home/shared" then
      .Dir (.Open (.Entry ⟨[0x61], by decide⟩ (.Unseen (.File (.Bytes [2]))) .End))
    else if path = "/home/letter" then .File (.Bytes [3])
    else .Other
  debug _ := ""

lemma create_docs : createZipArchive zip computer ["/home/docs"]
    = .ok (List.flatMap encode [⟨"unknown", some [1]⟩]) := by
  decide +kernel

theorem complete_docs : ∃ archive entries,
    createZipArchive zip computer ["/home/docs"] = .ok archive ∧ zip.entries archive = some entries
      ∧ Complete (computer.files false ["/home/docs"]) entries := by
  obtain ⟨entries, hentries, hcomplete⟩ := archive_complete lawful create_docs
  exact ⟨_, entries, create_docs, hentries, hcomplete⟩

/-- **A name and a file are lost.**  The file with the name `0xFF` is in the archive as `unknown`,
and the one whose metadata cannot be read is not in it. -/
theorem not_keepsEvery :
    (∃ archive entries, createZipArchive zip computer ["/home/docs"] = .ok archive
      ∧ zip.entries archive = some entries
      ∧ ¬KeepsEvery (computer.files true ["/home/docs"]) entries)
    ∧ ∃ archive entries, createZipArchive zip computer ["/home/shared"] = .ok archive
      ∧ zip.entries archive = some entries
      ∧ ¬KeepsEvery (computer.files true ["/home/shared"]) entries := by
  refine ⟨⟨_, _, create_docs, entries_encode _, fun h => ?_⟩,
    ⟨[], [], by decide +kernel, rfl, fun h => ?_⟩⟩
  · obtain ⟨entry, hentry, hname, -⟩ :=
      h ⟨"/home/docs", [⟨[0xFF], by decide⟩], .Bytes [1]⟩ (by decide +kernel)
    rw [List.mem_singleton.mp hentry] at hname
    exact absurd hname (by decide +kernel)
  · obtain ⟨entry, hentry, -⟩ :=
      h ⟨"/home/shared", [⟨[0x61], by decide⟩], .Bytes [2]⟩ (by decide +kernel)
    exact List.not_mem_nil hentry

end Sample

end Vaulted.Archive
