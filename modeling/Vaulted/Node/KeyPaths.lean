import Vaulted.Library.ByteSlices
import Vaulted.Library.UnixPath
import Vaulted.Node.HandedOutUrls

/-!
# Where a node keeps a fragment

`validate_storage_key` of `main.rs` is all that stands between the key in a request and the path of
a file.

* `Confined`, `Apart` — a key leads to a file of its own, directly in the data directory.
* `isName_of_valid` — an accepted key is a name that a directory may list.
* `validateStorageKey_confines` — every accepted key leads to such a file; so the node's comparison
  of a path's parent with the directory (`fragment_path_for_create`) never fails.
-/

namespace Vaulted.Node

open UnixPath

section Keys

variable {key : String}

/-- The names of temporary files begin with this. -/
def uploadMark : String := ".upload-"

/-- The path of a key is a direct child of the data directory, and no temporary file. -/
structure Confined (c : Crates) (storageDir key : String) : Prop where
  parent : parent (join storageDir key) = some (components storageDir)
  fileName : fileName (join storageDir key) = some key
  lookup : ∀ {File : Type} (tree : UnixPath.Tree File), tree.lookup (join storageDir key)
    = (tree.lookup storageDir).bind fun dir => tree.entry dir key
  fits : 0 < Text.len key ∧ Text.len key ≤ 255
  notUpload : ∀ key' w, key ≠ tempPath c key' w
  unmarked : Text.startsWith key uploadMark = false

/-- The names a directory lists besides the temporary ones. While an upload is published, its
temporary name and its key are two links to one file. -/
def Unmarked (name : String) : Prop := Text.startsWith name uploadMark = false

/-- Two keys have different paths, and there are different files where they lead to: in any
directory tree in which only temporary names are further links to a file. -/
structure Apart (storageDir key key' : String) : Prop where
  components : components (join storageDir key) ≠ components (join storageDir key')
  files : ∀ {File : Type} (tree : UnixPath.Tree File), tree.Unlinked Unmarked →
    ∀ file, tree.lookup (join storageDir key) = some file →
      tree.lookup (join storageDir key') ≠ some file

/-! ### Accepted keys -/

lemma wellFormed_of_valid (h : validateStorageKey key = .ok ()) : Text.isEmpty key = false
    ∧ Text.len key ≤ 255 ∧ Text.startsWith key "." = false := by
  obtain ⟨_, hlength, h⟩ := bind_eq_ok h
  have hlength := require_eq_ok hlength
  have hformed := require_eq_ok h
  simp only [wellFormedKey, Bool.and_eq_true, Bool.not_eq_true', decide_eq_true_eq]
    at hlength hformed
  exact ⟨hlength.1, hlength.2, hformed.1.1.1.1.2⟩

lemma startsWith_append_iff {s p : String} :
    Text.startsWith s p = true ↔ ∃ rest, s.toList = p.toList ++ rest := by
  rw [Text.startsWith, List.isPrefixOf_iff_prefix]
  constructor
  · rintro ⟨rest, h⟩
    exact ⟨rest, h.symm⟩
  · rintro ⟨rest, h⟩
    exact ⟨rest, h.symm⟩

/-- What begins like a temporary file begins with a dot. -/
lemma startsWith_dot {s : String} (h : Text.startsWith s uploadMark = true) :
    Text.startsWith s "." = true := by
  obtain ⟨rest, hrest⟩ := startsWith_append_iff.mp h
  refine startsWith_append_iff.mpr ⟨"upload-".toList ++ rest, ?_⟩
  rw [hrest, ← List.append_assoc]
  exact congrArg (· ++ rest) (by decide +kernel)

lemma tempPath_marked (c : Crates) (key : String) (w : World) :
    Text.startsWith (tempPath c key w) uploadMark = true := by
  rw [tempPath, startsWith_append_iff, String.toList_append, String.toList_append,
    String.toList_append, List.append_assoc, List.append_assoc]
  exact ⟨_, rfl⟩

lemma unmarked_of_valid (h : validateStorageKey key = .ok ()) :
    Text.startsWith key uploadMark = false := by
  rw [← Bool.not_eq_true]
  intro hmark
  have hdot := startsWith_dot hmark
  rw [(wellFormed_of_valid h).2.2] at hdot
  cases hdot

/-- An accepted key is a name. -/
lemma isName_of_valid (h : validateStorageKey key = .ok ()) : IsName key := by
  obtain ⟨hempty, -, hdot⟩ := wellFormed_of_valid h
  refine ⟨?_, ?_, ?_, not_mem_of_valid h rfl⟩
  · rintro rfl
    cases hempty
  · rintro rfl
    revert hdot
    decide +kernel
  · rintro rfl
    revert hdot
    decide +kernel

lemma confined_of_valid (c : Crates) (storageDir : String) (h : validateStorageKey key = .ok ()) :
    Confined c storageDir key := by
  have hname := isName_of_valid h
  obtain ⟨hempty, hlength, -⟩ := wellFormed_of_valid h
  refine {
    parent := parent_join storageDir hname
    fileName := fileName_join storageDir hname
    lookup := fun tree => lookup_join tree storageDir hname
    fits := ⟨?_, hlength⟩
    notUpload := ?_
    unmarked := unmarked_of_valid h }
  · rw [Nat.pos_iff_ne_zero, Text.len_eq_byteLen]
    intro hzero
    rw [Text.isEmpty, Text.byteLen_eq_zero hzero] at hempty
    cases hempty
  · rintro key' w rfl
    have hmark := unmarked_of_valid h
    rw [tempPath_marked] at hmark
    cases hmark

lemma apart_of_valid (storageDir : String) {key' : String} (h : validateStorageKey key = .ok ())
    (h' : validateStorageKey key' = .ok ()) (hne : key ≠ key') : Apart storageDir key key' := by
  have hname := isName_of_valid h
  have hname' := isName_of_valid h'
  constructor
  · rw [components_join storageDir hname, components_join storageDir hname']
    intro heq
    exact hne (Component.Normal.inj (List.cons.inj (List.append_cancel_left heq)).1)
  · intro File tree hunlinked file hfile hfile'
    rw [lookup_join tree storageDir hname] at hfile
    rw [lookup_join tree storageDir hname'] at hfile'
    obtain ⟨dir, hdir, hentry⟩ := Option.bind_eq_some_iff.mp hfile
    obtain ⟨dir', hdir', hentry'⟩ := Option.bind_eq_some_iff.mp hfile'
    obtain rfl := Option.some.inj (hdir.symm.trans hdir')
    exact hne (hunlinked dir key key' file (unmarked_of_valid h) (unmarked_of_valid h') hentry
      hentry')

/-- **Accepted keys stay inside the data directory**, and each has a file of its own. A key has no
separator and is no dot name, so it is one component of its path; and with the mark of uploads
refused, it is no name that a put in progress could be using. -/
theorem validateStorageKey_confines (c : Crates) (storageDir : String)
    (h : validateStorageKey key = .ok ()) : Confined c storageDir key
      ∧ ∀ key', validateStorageKey key' = .ok () → key ≠ key' → Apart storageDir key key' :=
  ⟨confined_of_valid c storageDir h, fun _ h' hne => apart_of_valid storageDir h h' hne⟩

end Keys

/-! ## A key of a replica -/

namespace Sample

/-- Dots within a key do no harm. -/
theorem confines_replica : Confined crates "data/" "f-1.0_r.bin"
    ∧ ∀ key', validateStorageKey key' = .ok () → "f-1.0_r.bin" ≠ key' →
      Apart "data/" "f-1.0_r.bin" key' :=
  validateStorageKey_confines crates "data/" (by decide +kernel)

end Sample

end Vaulted.Node
