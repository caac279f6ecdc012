import Vaulted.Library.Text

/-!
# Paths of a Unix system

`std::path::Path` on Unix, where a path is a text and `/` is the only separator.

* `components` — what a path says, without repeated separators and without dots.
* `join`, `parent`, `fileName` — as in the standard library; two paths are equal if their
  components are.
* `Tree` — directories and what they list; `lookup` follows a path.
* `components_join`, `lookup_join` — a name that is joined to a path is one more component, and
  found in the directory that the path leads to.
-/

namespace UnixPath

inductive Component
  | RootDir
  | CurDir
  | ParentDir
  | Normal (name : String)
  deriving DecidableEq, Repr

/-- What stands between two separators. -/
def component (part : String) : Option Component :=
  if part = "" ∨ part = "." then none
  else if part = ".." then some .ParentDir
  else some (.Normal part)

def isAbsolute (path : String) : Bool := Text.startsWith path "/"

/-- The beginning of a path: a separator, a dot, or nothing of its own. -/
def leading (path : String) : List Component :=
  if isAbsolute path then [.RootDir]
  else if (Text.split '/' path).head? = some "." then [.CurDir]
  else []

def components (path : String) : List Component :=
  leading path ++ (Text.split '/' path).filterMap component

def join (path name : String) : String :=
  if isAbsolute name then name
  else if path = "" ∨ path.toList.getLast? = some '/' then path ++ name
  else path ++ "/" ++ name

def parent (path : String) : Option (List Component) :=
  match (components path).reverse with
  | [] => none
  | .RootDir :: _ => none
  | _ :: rest => some rest.reverse

def fileName (path : String) : Option String :=
  match (components path).getLast? with
  | some (.Normal name) => some name
  | _ => none

/-- A name that a directory may list. -/
structure IsName (name : String) : Prop where
  nonempty : name ≠ ""
  notDot : name ≠ "."
  notDots : name ≠ ".."
  noSeparator : '/' ∉ name.toList

/-! ## Directories -/

/-- Files and directories, with what each directory lists. -/
structure Tree (File : Type) where
  root : File
  current : File
  up : File → File
  entry : File → String → Option File

namespace Tree

variable {File : Type} (tree : Tree File)

def walk : File → List Component → Option File
  | file, [] => some file
  | _, .RootDir :: cs => walk tree.root cs
  | file, .CurDir :: cs => walk file cs
  | file, .ParentDir :: cs => walk (tree.up file) cs
  | file, .Normal name :: cs => (tree.entry file name).bind fun file => walk file cs

def lookup (path : String) : Option File := tree.walk tree.current (components path)

/-- No file is listed twice in one directory under names of `names`. Links to it under other names
are left free. -/
def Unlinked (names : String → Prop) : Prop :=
  ∀ dir name name' file, names name → names name' → tree.entry dir name = some file →
    tree.entry dir name' = some file → name = name'

lemma walk_append (file : File) (cs ds : List Component) :
    tree.walk file (cs ++ ds) = (tree.walk file cs).bind fun file => tree.walk file ds := by
  induction cs generalizing file with
  | nil => rfl
  | cons c cs ih =>
      cases c with
      | RootDir => exact ih tree.root
      | CurDir => exact ih file
      | ParentDir => exact ih (tree.up file)
      | Normal name =>
          rw [List.cons_append, walk, walk, Option.bind_assoc]
          exact congrArg _ (funext fun file => ih file)

end Tree

/-! ## Joining a name -/

section Join

variable {path name : String}

lemma IsName.component (h : IsName name) : component name = some (.Normal name) := by
  rw [UnixPath.component, if_neg (not_or.mpr ⟨h.nonempty, h.notDot⟩), if_neg h.notDots]

lemma IsName.not_isAbsolute (h : IsName name) : isAbsolute name = false := by
  rw [isAbsolute, Text.startsWith]
  cases hname : name.toList with
  | nil => rfl
  | cons c cs =>
      have hc : ('/' == c) = false := by
        refine beq_false_of_ne fun heq => h.noSeparator ?_
        rw [hname, heq]
        exact List.mem_cons_self
      simp [List.isPrefixOf, hc]

lemma isAbsolute_append (hpath : path ≠ "") : isAbsolute (path ++ name) = isAbsolute path := by
  rw [isAbsolute, isAbsolute, Text.startsWith, Text.startsWith, String.toList_append]
  cases hchars : path.toList with
  | nil => exact absurd (String.toList_eq_nil_iff.mp hchars) hpath
  | cons c cs => simp [List.isPrefixOf]

lemma split_append_separator (front back : String) :
    Text.split '/' (front ++ "/" ++ back) = Text.split '/' front ++ Text.split '/' back := by
  have hchars : (front ++ "/" ++ back).toList = front.toList ++ '/' :: back.toList := by simp
  rw [Text.split, hchars, List.splitOn_append_cons_self, List.map_append]
  rfl

lemma split_ne_nil (path : String) : Text.split '/' path ≠ [] := by
  rw [Text.split, ne_eq, List.map_eq_nil_iff]
  exact List.splitOn_ne_nil _ _

/-- The parts of a path before its last name. -/
lemma exists_front (hpath : path ≠ "") (hname : IsName name) : ∃ front,
    join path name = front ++ "/" ++ name ∧ (Text.split '/' path = Text.split '/' front
      ∨ Text.split '/' path = Text.split '/' front ++ [""]) := by
  rw [join, hname.not_isAbsolute]
  by_cases hlast : path.toList.getLast? = some '/'
  · obtain ⟨front, hfront⟩ := List.getLast?_eq_some_iff.mp hlast
    have hsplit : path = String.ofList front ++ "/" ++ "" := by
      refine String.toList_injective ?_
      rw [hfront]
      simp
    refine ⟨String.ofList front, ?_, .inr ?_⟩
    · rw [if_neg Bool.false_ne_true, if_pos (.inr hlast)]
      refine String.toList_injective ?_
      rw [String.toList_append, hfront]
      simp
    · conv_lhs => rw [hsplit, split_append_separator]
      rfl
  · refine ⟨path, ?_, .inl rfl⟩
    rw [if_neg Bool.false_ne_true, if_neg (not_or.mpr ⟨hpath, hlast⟩)]

/-- **A name that is joined is one more component.** -/
theorem components_join (path : String) (hname : IsName name) :
    components (join path name) = components path ++ [.Normal name] := by
  have hparts : Text.split '/' name = [name] := Text.split_of_not_mem hname.noSeparator
  by_cases hpath : path = ""
  · have hjoin : join path name = name := by
      rw [join, hname.not_isAbsolute, if_neg Bool.false_ne_true, if_pos (.inl hpath), hpath,
        String.empty_append]
    have hempty : components "" = [] := by decide +kernel
    rw [hjoin, hpath, hempty, components, leading, hname.not_isAbsolute, hparts]
    simp [hname.component, hname.notDot]
  · obtain ⟨front, hjoin, hfront⟩ := exists_front hpath hname
    have hhead : (Text.split '/' path).head? = (Text.split '/' front).head? := by
      rcases hfront with h | h
      · rw [h]
      · rw [h, List.head?_append_of_ne_nil _ (split_ne_nil front)]
    have hcomponents : (Text.split '/' path).filterMap component
        = (Text.split '/' front).filterMap component := by
      rcases hfront with h | h
      · rw [h]
      · rw [h, List.filterMap_append]
        exact List.append_nil _
    have habsolute : isAbsolute (join path name) = isAbsolute path := by
      rw [join, hname.not_isAbsolute, if_neg Bool.false_ne_true]
      split_ifs
      · exact isAbsolute_append hpath
      · rw [String.append_assoc]
        exact isAbsolute_append hpath
    have hsplit : Text.split '/' (join path name) = Text.split '/' front ++ [name] := by
      rw [hjoin, split_append_separator, hparts]
    rw [components, components, leading, leading, habsolute, hsplit, hhead, hcomponents,
      List.head?_append_of_ne_nil _ (split_ne_nil front), List.filterMap_append,
      List.append_assoc]
    simp [hname.component]

lemma parent_join (path : String) (hname : IsName name) :
    parent (join path name) = some (components path) := by
  rw [parent, components_join path hname, List.reverse_append]
  simp

lemma fileName_join (path : String) (hname : IsName name) :
    fileName (join path name) = some name := by
  rw [fileName, components_join path hname, List.getLast?_append]
  rfl

/-- **A name that is joined is looked up where the path leads to.** -/
theorem lookup_join {File : Type} (tree : Tree File) (path : String) (hname : IsName name) :
    tree.lookup (join path name) = (tree.lookup path).bind fun dir => tree.entry dir name := by
  rw [Tree.lookup, components_join path hname, Tree.walk_append]
  refine congrArg _ (funext fun dir => ?_)
  rw [Tree.walk]
  cases tree.entry dir name <;> rfl

end Join

end UnixPath
