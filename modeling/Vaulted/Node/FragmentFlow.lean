import Vaulted.Node.Server

/-!
# What the handlers of a node do in which order

* `IsKey` — the names of fragments; temporary files have other names.
* `About` — the names that a statement uses: the key of its request, or a temporary file.
* `Next`, `Final` — what follows which statement, and which statement ends a request.
* `flows_handle` — every handler follows that flow.
* `Possible` — what a statement may answer; only some file operations find a name taken.
-/

namespace Vaulted.Node

open Interleaving

/-! ## Names -/

/-- The name of a fragment. -/
def IsKey (name : String) : Prop := validateStorageKey name = .ok ()

instance : DecidablePred IsKey := fun name =>
  inferInstanceAs (Decidable (validateStorageKey name = .ok ()))

/-- Temporary files are hidden. -/
lemma not_isKey_tempPath (c : Crates) (key : String) (w : World) : ¬ IsKey (tempPath c key w) := by
  intro hkey
  obtain ⟨_, -, hkey⟩ := bind_eq_ok hkey
  have hstarts : Text.startsWith (tempPath c key w) "." = true := by
    simp [Text.startsWith, tempPath]
  have hkey := require_eq_ok hkey
  rw [wellFormedKey, hstarts] at hkey
  simp at hkey

def Request.body : Request → Option (List UInt8)
  | .Put _ _ _ body => some body
  | .Get _ _ => none
  | .Delete _ _ => none

def Request.isDelete : Request → Bool
  | .Delete _ _ => true
  | .Get _ _ => false
  | .Put _ _ _ _ => false

/-- The key of a request, if it is valid. -/
def KeyOf (request : Request) (key : String) : Prop := key = request.key ∧ IsKey key

def About (request : Request) : Statement → Prop
  | .ConsumeTokenId _ _ _ => True
  | .StorageRoot => True
  | .SymlinkMetadata name => KeyOf request name
  | .Canonicalize name => KeyOf request name
  | .Read name => KeyOf request name
  | .CreateNew path => ¬ IsKey path
  | .WriteAll temp body => ¬ IsKey temp.path ∧ request.body = some body
  | .SyncAll temp => ¬ IsKey temp.path
  | .HardLink temp key => ¬ IsKey temp.path ∧ KeyOf request key ∧ request.body.isSome = true
  | .UnlinkTemp temp => ¬ IsKey temp.path
  | .Recheck key => KeyOf request key
  | .CleanUp path _ => ¬ IsKey path
  | .InsertFragment key _ => KeyOf request key
  | .RemoveFile key => KeyOf request key ∧ request.isDelete = true
  | .RemoveFragment key => KeyOf request key

/-! ## The flow -/

/-- Go on after a success, or clean up. -/
def Tried (r : Except IoError Unit) (temp : TempFile) (goesOn stmt : Statement) : Prop :=
  (r = .ok () ∧ stmt = goesOn)
    ∨ ((∃ e, r = .error e) ∧ stmt = .CleanUp temp.path (some temp.file))

def Next : (s : Statement) → Answer s → Statement → Prop
  | .ConsumeTokenId _ _ _, _, stmt => stmt = .StorageRoot
  | .StorageRoot, _, stmt => ∃ name, stmt = .SymlinkMetadata name
  | .SymlinkMetadata name, _, stmt =>
      stmt = .Canonicalize name ∨ stmt = .Read name ∨ ∃ path, stmt = .CreateNew path
  | .Canonicalize name, _, stmt => stmt = .Read name ∨ stmt = .RemoveFile name
  | .Read name, _, stmt => ∃ info, stmt = .InsertFragment name info
  | .CreateNew path, opened, stmt =>
      (∃ file body, opened = .ok file ∧ stmt = .WriteAll ⟨path, file⟩ body)
        ∨ ((∃ e, opened = .error e) ∧ stmt = .CleanUp path none)
  | .WriteAll temp _, written, stmt => Tried written temp (.SyncAll temp) stmt
  | .SyncAll temp, synced, stmt => ∃ key, Tried synced temp (.HardLink temp key) stmt
  | .HardLink temp _, linked, stmt => Tried linked temp (.UnlinkTemp temp) stmt
  | .UnlinkTemp temp, removed, stmt => ∃ key, Tried removed temp (.Recheck key) stmt
  | .Recheck key, metadata, stmt => ∃ temp info, Tried metadata temp (.InsertFragment key info) stmt
  | .CleanUp _ _, _, _ => False
  | .InsertFragment _ _, _, _ => False
  | .RemoveFile key, removed, stmt => removed = .ok () ∧ stmt = .RemoveFragment key
  | .RemoveFragment _, _, _ => False

/-- Once a temporary file is there, a request ends with a name that is taken, with the clean-up, or
with the index; a deletion ends with the index, or an error. -/
def Final : (s : Statement) → Answer s → Prop
  | .CreateNew _, opened => opened = .error .AlreadyExists
  | .WriteAll _ _, written => written = .error .AlreadyExists
  | .SyncAll _, synced => synced = .error .AlreadyExists
  | .HardLink _ _, linked => linked = .error .AlreadyExists
  | .UnlinkTemp _, removed => removed = .error .AlreadyExists
  | .Recheck _, _ => False
  | .RemoveFile _, removed => ∃ e, removed = .error e
  | _, _ => True

def fragmentFlow (request : Request) : Flow Answer Reply where
  begins stmt := About request stmt
    ∧ (stmt = .StorageRoot ∨ ∃ jti exp now, stmt = .ConsumeTokenId jti exp now)
  refuses _ := True
  next s r stmt := About request stmt ∧ Next s r stmt
  ends s r _ := Final s r

/-! ## The handlers -/

section Handlers

variable {c : Crates} {state : AppState} (request : Request)

lemma flows_fragmentPathForCreate {key : String} {k : World → Rest} {D : Reply → Prop}
    {X : Statement → Prop} (hD : ∀ a, D a) (hX : X .StorageRoot)
    (hk : IsKey key → ∀ root w, (k w).Flows (fragmentFlow request)
      ((fragmentFlow request).ends .StorageRoot root)
      ((fragmentFlow request).next .StorageRoot root)) :
    (fragmentPathForCreate key k).Flows (fragmentFlow request) D X := by
  refine Proc.flows_check (fun _ _ => hD _) fun _ hkey => ⟨hX, fun root w => ?_⟩
  exact Proc.flows_check (fun _ _ => trivial) fun _ _ => hk hkey root w

lemma flows_existingFragmentPath {k : World → Rest} {D : Reply → Prop} {X : Statement → Prop}
    (hD : ∀ a, D a) (hX : X .StorageRoot)
    (hk : IsKey request.key → ∀ canonical w, (k w).Flows (fragmentFlow request)
      ((fragmentFlow request).ends (.Canonicalize request.key) canonical)
      ((fragmentFlow request).next (.Canonicalize request.key) canonical)) :
    (existingFragmentPath request.key k).Flows (fragmentFlow request) D X := by
  refine flows_fragmentPathForCreate request hD hX fun hkey root _ => ?_
  refine ⟨⟨⟨rfl, hkey⟩, _, rfl⟩, fun metadata _ => ?_⟩
  refine Proc.flows_check (fun _ _ => trivial) fun _ _ => ?_
  refine ⟨⟨⟨rfl, hkey⟩, .inl rfl⟩, fun canonical w => ?_⟩
  exact Proc.flows_check (fun _ _ => trivial) fun _ _ => hk hkey canonical w

/-- A request begins with its token, if there has to be one. -/
lemma flows_authorize {token : Option String} {operation : StorageOperation}
    {computedFragmentHash : Option String} {w : World} {k : World → Rest}
    (hk : ∀ w D X, (∀ a, D a) → X .StorageRoot → (k w).Flows (fragmentFlow request) D X) :
    (authorize c state token request.key operation computedFragmentHash w k).Flows
      (fragmentFlow request) (fragmentFlow request).refuses (fragmentFlow request).begins := by
  have hroot : (fragmentFlow request).begins .StorageRoot := ⟨trivial, .inl rfl⟩
  unfold authorize
  split_ifs
  · refine Proc.flows_check (fun _ _ => trivial) fun presented _ => ?_
    cases presented with
    | none => exact hk w _ _ (fun _ => trivial) hroot
    | some presented =>
        obtain ⟨jti, exp⟩ := presented
        refine ⟨⟨trivial, .inr ⟨jti, exp, w.timestamp, rfl⟩⟩, fun consumed w => ?_⟩
        refine Proc.flows_check (fun _ _ => trivial) fun _ _ => ?_
        exact hk w _ _ (fun _ => trivial) ⟨trivial, rfl⟩
  · exact hk w _ _ (fun _ => trivial) hroot

lemma flows_orFailed {α : Type} {path : String} {created : Option Nat} {r : Except IoError α}
    {k : α → Rest} {D : Reply → Prop} {X : Statement → Prop}
    (hD : r = .error .AlreadyExists → ∀ a, D a)
    (hX : (∃ e, r = .error e) → X (.CleanUp path created))
    (hk : ∀ a, r = .ok a → (k a).Flows (fragmentFlow request) D X) :
    (orFailed path created r k).Flows (fragmentFlow request) D X := by
  cases r with
  | ok a => exact hk a rfl
  | error e =>
      cases e with
      | AlreadyExists => exact hD rfl _
      | NotFound => exact ⟨hX ⟨_, rfl⟩, fun _ _ => trivial⟩
      | Other => exact ⟨hX ⟨_, rfl⟩, fun _ _ => trivial⟩

/-- A write goes from the temporary file to the fragment. -/
lemma flows_atomicWriteNewFragment {body : List UInt8} {w : World} {k : World → Rest}
    {metadata : Except IoError Unit} (hkey : IsKey request.key) (hbody : request.body = some body)
    (hk : ∀ w (D : Reply → Prop) X,
      (∀ info, X (.InsertFragment request.key info)) → (k w).Flows (fragmentFlow request) D X) :
    (atomicWriteNewFragment c request.key body w k).Flows (fragmentFlow request)
      ((fragmentFlow request).ends (.SymlinkMetadata request.key) metadata)
      ((fragmentFlow request).next (.SymlinkMetadata request.key) metadata) := by
  have hpath : ¬ IsKey (tempPath c request.key w) := not_isKey_tempPath c request.key w
  refine ⟨⟨hpath, .inr (.inr ⟨_, rfl⟩)⟩, fun opened _ => ?_⟩
  refine flows_orFailed request (fun h _ => h) (fun h => ⟨hpath, .inr ⟨h, rfl⟩⟩)
    fun file hopened => ?_
  refine ⟨⟨⟨hpath, hbody⟩, .inl ⟨file, body, hopened, rfl⟩⟩, fun written _ => ?_⟩
  refine flows_orFailed request (fun h _ => h) (fun h => ⟨hpath, .inr ⟨h, rfl⟩⟩)
    fun _ hwritten => ?_
  refine ⟨⟨hpath, .inl ⟨hwritten, rfl⟩⟩, fun synced _ => ?_⟩
  refine flows_orFailed request (fun h _ => h) (fun h => ⟨hpath, request.key, .inr ⟨h, rfl⟩⟩)
    fun _ hsynced => ?_
  refine ⟨⟨⟨hpath, ⟨rfl, hkey⟩, by rw [hbody]; rfl⟩, request.key, .inl ⟨hsynced, rfl⟩⟩,
    fun linked _ => ?_⟩
  refine flows_orFailed request (fun h _ => h) (fun h => ⟨hpath, .inr ⟨h, rfl⟩⟩)
    fun _ hlinked => ?_
  refine ⟨⟨hpath, .inl ⟨hlinked, rfl⟩⟩, fun removed _ => ?_⟩
  refine flows_orFailed request (fun h _ => h) (fun h => ⟨hpath, request.key, .inr ⟨h, rfl⟩⟩)
    fun _ hremoved => ?_
  refine ⟨⟨⟨rfl, hkey⟩, request.key, .inl ⟨hremoved, rfl⟩⟩, fun metadata w => ?_⟩
  cases (metadata : Except IoError Unit) with
  | ok _ => exact hk w _ _ fun info => ⟨⟨rfl, hkey⟩, ⟨"", 0⟩, info, .inl ⟨rfl, rfl⟩⟩
  | error e =>
      exact ⟨⟨hpath, ⟨_, file⟩, ⟨"", 0, 0, none⟩, .inr ⟨⟨e, rfl⟩, rfl⟩⟩, fun _ _ => trivial⟩

variable (c state)

/-- **Every handler follows the flow.** -/
theorem flows_handle (request : Request) (w : World) : (handle c state request w).Flows
    (fragmentFlow request) (fragmentFlow request).refuses (fragmentFlow request).begins := by
  cases request with
  | Get key token =>
      rw [handle, getFragment]
      refine flows_authorize (.Get key token) fun _ D X hD hX => ?_
      refine flows_existingFragmentPath (.Get key token) hD hX fun hkey canonical _ => ?_
      refine ⟨⟨⟨rfl, hkey⟩, .inl rfl⟩, fun data _ => ?_⟩
      exact Proc.flows_check (fun _ _ => trivial) fun _ _ => trivial
  | Put key token fragmentHash body =>
      refine Proc.flows_check (fun _ _ => trivial) fun _ _ => ?_
      refine flows_authorize (.Put key token fragmentHash body) fun _ D X hD hX => ?_
      refine Proc.flows_check (fun _ _ => hD _) fun _ _ => ?_
      refine flows_fragmentPathForCreate (.Put key token fragmentHash body) hD hX
        fun hkey root _ => ?_
      refine ⟨⟨⟨rfl, hkey⟩, _, rfl⟩, fun metadata w => ?_⟩
      cases (metadata : Except IoError Unit) with
      | ok _ =>
          refine ⟨⟨⟨rfl, hkey⟩, .inr (.inl rfl)⟩, fun existing _ => ?_⟩
          refine Proc.flows_check (fun _ _ => trivial) fun _ _ => ?_
          refine Proc.flows_check (fun _ _ => trivial) fun _ _ => ?_
          exact ⟨⟨⟨rfl, hkey⟩, _, rfl⟩, fun _ _ => trivial⟩
      | error e =>
          exact flows_atomicWriteNewFragment (.Put key token fragmentHash body) hkey rfl
            fun _ D X hX => ⟨hX _, fun _ _ => trivial⟩
  | Delete key token =>
      rw [handle, deleteFragment]
      refine flows_authorize (.Delete key token) fun _ D X hD hX => ?_
      refine flows_existingFragmentPath (.Delete key token) hD hX fun hkey canonical _ => ?_
      refine ⟨⟨⟨⟨rfl, hkey⟩, rfl⟩, .inr rfl⟩, fun removed _ => ?_⟩
      cases (removed : Except IoError Unit) with
      | error e => exact ⟨e, rfl⟩
      | ok _ => exact ⟨⟨⟨rfl, hkey⟩, rfl, rfl⟩, fun _ _ => trivial⟩

end Handlers

/-! ## Answers -/

/-- Only a new name can be taken. -/
def Possible : (s : Statement) → Answer s → Prop
  | .WriteAll _ _, written => written ≠ .error .AlreadyExists
  | .SyncAll _, synced => synced ≠ .error .AlreadyExists
  | .UnlinkTemp _, removed => removed ≠ .error .AlreadyExists
  | _, _ => True

lemma possible_exec (stmt : Statement) (w : World) (s : Store) :
    Possible stmt (exec stmt w s).1 := by
  cases stmt with
  | WriteAll temp body =>
      simp only [Possible, exec, onDisk, Disk.writeAll]
      split_ifs <;> exact fun h => nomatch h
  | SyncAll temp =>
      simp only [Possible, exec]
      cases w.fails <;> exact fun h => nomatch h
  | UnlinkTemp temp =>
      simp only [Possible, exec, onDisk, Disk.unlink, Disk.lookup]
      split_ifs <;> exact fun h => nomatch h
  | _ => trivial

end Vaulted.Node
