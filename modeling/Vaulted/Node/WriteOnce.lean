import Vaulted.Library.WriteOnce
import Vaulted.Node.FragmentFlow

/-!
# Fragments are written once

A put writes to a temporary file, and publishes it by a hard link under a key that is free.

* `entries` — what a statement does to the fragments: publish, find again, read, remove.
* `Answered` — how the answer of a request and its entries agree.
* `WrittenOnce` — the entries of a run are those of a store that is written once, and every answer
  agrees with the entries of its request.
* `LinksOwn` — the temporary name that a put links is still that of its own file.
* `writtenOnce_of_linksOwn` — that is enough.
* `not_writtenOnce` — two puts use the name one after the other, since a third has cleaned it up.
-/

namespace Vaulted.Node

open Interleaving WriteOnce

/-! ## What is observed -/

abbrev Entry := Event String (List UInt8)

def onOk {α : Type} (r : Except IoError α) (entries : α → List Entry) : List Entry :=
  match r with
  | .ok a => entries a
  | .error _ => []

/-- What a statement of a request does to the fragments. -/
def entries : Request → (s : Statement) → Answer s → List Entry
  | .Put _ _ _ body, .HardLink _ key, linked => onOk linked fun _ => [.Published key body]
  | .Put _ _ _ body, .Read key, existing =>
      onOk existing fun existing => if existing = body then [.Matched key body] else []
  | .Get _ _, .Read key, data => onOk data fun data => [.Got key data]
  | .Delete _ _, .RemoveFile key, removed => onOk removed fun _ => [.Removed key]
  | _, _, _ => []

/-- A read returns what it got, a write that succeeds has published its body or found it there, and
one that meets a conflict has done neither. -/
def Answered : Request → List Entry → Reply → Prop
  | .Get key _, own, .ok (.Data data) => own = [.Got key data]
  | .Get _ _, own, .error _ => own = []
  | .Put key _ _ body, own, .ok (.Stored _) =>
      own = [.Published key body] ∨ own = [.Matched key body]
  | .Put _ _ _ _, own, .error e => e.status = .Conflict → own = []
  | .Delete key _, own, .ok .NoContent => own = [.Removed key]
  | .Delete _ _, own, .error _ => own = []
  | _, _, _ => False

/-- The fragments on a disk. -/
def fragmentsOf (d : Disk) : WriteOnce.Store String (List UInt8) :=
  fun key => if IsKey key then d.read key else none

section System

variable (c : Crates) (state : AppState)

/-- The entries of a run, with the requests that have made them. -/
def journal (d : Disk) (createdAt : Int) (ls : List (Label Request World)) : List (Nat × Entry) :=
  Runs.history (step c state) (logged exec entries) (started d createdAt) ls

/-- The fragments are written once: some order of the entries is a legal history of fragments, and
every request answers what its own entries say. -/
structure WrittenOnce (d : Disk) (createdAt : Int) (ls : List (Label Request World)) : Prop where
  consistent : Consistent (fragmentsOf d) ((journal c state d createdAt ls).map Prod.snd)
  answered : ∀ i request reply,
    (run c state (started d createdAt) ls).threads[i]? = some ⟨request, .Done reply⟩ →
    Answered request (entriesOf i (journal c state d createdAt ls)) reply

/-- The temporary name that is linked is that of the file of the put, or free. -/
def LinksOwn (d : Disk) : Statement → Prop
  | .HardLink temp _ => d.files temp.path = none ∨ d.files temp.path = some temp.file
  | _ => True

def linksOwn (s : Server) (l : Label Request World) : Prop :=
  ∀ request stmt w, executes s l = some (request, stmt, w) → LinksOwn s.store.disk stmt

instance (d : Disk) : (stmt : Statement) → Decidable (LinksOwn d stmt)
  | .HardLink temp _ =>
      inferInstanceAs (Decidable (d.files temp.path = none ∨ d.files temp.path = some temp.file))
  | .ConsumeTokenId _ _ _ | .StorageRoot | .SymlinkMetadata _ | .Canonicalize _ | .Read _
  | .CreateNew _ | .WriteAll _ _ | .SyncAll _ | .UnlinkTemp _ | .Recheck _ | .CleanUp _ _
  | .InsertFragment _ _ | .RemoveFile _ | .RemoveFragment _ => inferInstanceAs (Decidable True)

instance (s : Server) (l : Label Request World) : Decidable (linksOwn s l) :=
  decidable_of_iff (∀ p ∈ executes s l, LinksOwn s.store.disk p.2.1)
    ⟨fun h request stmt w hexecutes => h (request, stmt, w) hexecutes,
      fun h p hexecutes => h p.1 p.2.1 p.2.2 hexecutes⟩

end System

/-! ## The handlers -/

section Handlers

variable {c : Crates} {state : AppState} (request : Request)

/-- What a request has left to do agrees with its entries so far. -/
abbrev Agrees (own : List Entry) (rest : Rest) : Prop :=
  rest.Accounts Possible (entries request) (Answered request) own

/-- A refusal agrees with a request that has done nothing. -/
lemma answered_error (e : ErrorResponse) : Answered request [] (.error e) := by
  cases request with
  | Get key token => rfl
  | Put key token fragmentHash body => exact fun _ => rfl
  | Delete key token => rfl

lemma agrees_checked {α : Type} {r : Except ErrorResponse α} {k : α → Rest}
    (hk : ∀ a, r = .ok a → Agrees request [] (k a)) : Agrees request [] (checked r k) :=
  Proc.accounts_check (fun e _ => answered_error request e) hk

/-- Most statements leave the fragments alone. -/
lemma agrees_quiet {stmt : Statement} {own : List Entry} {k : Answer stmt → World → Rest}
    (hquiet : ∀ r, entries request stmt r = [])
    (hk : ∀ r w, Possible stmt r → Agrees request own (k r w)) :
    Agrees request own (.Exec stmt k) := by
  intro r w hr
  rw [hquiet, List.append_nil]
  exact hk r w hr

lemma agrees_fragmentPathForCreate {key : String} {k : World → Rest}
    (hk : ∀ w, Agrees request [] (k w)) : Agrees request [] (fragmentPathForCreate key k) := by
  refine agrees_checked request fun _ _ => ?_
  refine agrees_quiet request (fun _ => by cases request <;> rfl) fun root w _ => ?_
  exact agrees_checked request fun _ _ => hk w

lemma agrees_existingFragmentPath {key : String} {k : World → Rest}
    (hk : ∀ w, Agrees request [] (k w)) : Agrees request [] (existingFragmentPath key k) := by
  refine agrees_fragmentPathForCreate request fun _ => ?_
  refine agrees_quiet request (fun _ => by cases request <;> rfl) fun metadata _ _ => ?_
  refine agrees_checked request fun _ _ => ?_
  refine agrees_quiet request (fun _ => by cases request <;> rfl) fun canonical w _ => ?_
  exact agrees_checked request fun _ _ => hk w

lemma agrees_authorize {token : Option String} {key : String} {operation : StorageOperation}
    {computedFragmentHash : Option String} {w : World} {k : World → Rest}
    (hk : ∀ w, Agrees request [] (k w)) :
    Agrees request [] (authorize c state token key operation computedFragmentHash w k) := by
  unfold authorize
  split_ifs
  · refine agrees_checked request fun presented _ => ?_
    cases presented with
    | none => exact hk w
    | some presented =>
        refine agrees_quiet request (fun _ => by cases request <;> rfl) fun consumed w _ => ?_
        exact agrees_checked request fun _ _ => hk w
  · exact hk w

end Handlers

section Puts

variable {c : Crates} {key : String} {token fragmentHash : Option String} {body : List UInt8}

/-- A write that fails answers with a conflict only if the name was taken. -/
lemma agrees_orFailed {α : Type} {path : String} {created : Option Nat} {own : List Entry}
    {r : Except IoError α} {k : α → Rest} (hown : r = .error .AlreadyExists → own = [])
    (hk : ∀ a, r = .ok a → Agrees (.Put key token fragmentHash body) own (k a)) :
    Agrees (.Put key token fragmentHash body) own (orFailed path created r k) := by
  have hcleanUp : Agrees (.Put key token fragmentHash body) own (.Exec (.CleanUp path created)
      fun _ _ => .Done (.error ⟨.InternalServerError, "Failed to store fragment"⟩)) :=
    agrees_quiet _ (fun _ => rfl) fun _ _ _ h => nomatch h
  cases r with
  | ok a => exact hk a rfl
  | error e =>
      cases e with
      | AlreadyExists => exact fun _ => hown rfl
      | NotFound => exact hcleanUp
      | Other => exact hcleanUp

/-- A write publishes the body, or nothing. -/
lemma agrees_atomicWriteNewFragment {w : World} {k : World → Rest}
    (hk : ∀ w, Agrees (.Put key token fragmentHash body) [.Published key body] (k w)) :
    Agrees (.Put key token fragmentHash body) [] (atomicWriteNewFragment c key body w k) := by
  refine agrees_quiet _ (fun _ => rfl) fun opened _ _ => ?_
  refine agrees_orFailed (fun _ => rfl) fun file _ => ?_
  refine agrees_quiet _ (fun _ => rfl) fun written _ _ => ?_
  refine agrees_orFailed (fun _ => rfl) fun _ _ => ?_
  refine agrees_quiet _ (fun _ => rfl) fun synced _ _ => ?_
  refine agrees_orFailed (fun _ => rfl) fun _ _ => ?_
  intro linked _ _
  cases (linked : Except IoError Unit) with
  | error e => exact agrees_orFailed (fun _ => rfl) fun _ h => nomatch h
  | ok _ =>
      refine agrees_quiet _ (fun _ => rfl) fun removed _ hpossible => ?_
      refine agrees_orFailed (fun h => absurd h hpossible) fun _ _ => ?_
      refine agrees_quiet _ (fun _ => rfl) fun metadata w _ => ?_
      cases (metadata : Except IoError Unit) with
      | ok _ => exact hk w
      | error e => exact agrees_quiet _ (fun _ => rfl) fun _ _ _ h => nomatch h

end Puts

/-- **Every handler answers what it has done.** -/
theorem agrees_handle (c : Crates) (state : AppState) (request : Request) (w : World) :
    Agrees request [] (handle c state request w) := by
  cases request with
  | Get key token =>
      refine agrees_authorize _ fun _ => agrees_existingFragmentPath _ fun _ => ?_
      intro data _ _
      cases (data : Except IoError (List UInt8)) with
      | error e => exact answered_error _ _
      | ok bytes => rfl
  | Put key token fragmentHash body =>
      refine agrees_checked _ fun _ _ => agrees_authorize _ fun _ => ?_
      refine agrees_checked _ fun _ _ => agrees_fragmentPathForCreate _ fun _ => ?_
      refine agrees_quiet _ (fun _ => rfl) fun metadata w _ => ?_
      cases (metadata : Except IoError Unit) with
      | error e =>
          refine agrees_atomicWriteNewFragment fun _ => ?_
          exact agrees_quiet _ (fun _ => rfl) fun _ _ _ => .inl rfl
      | ok _ =>
          intro existing _ _
          cases (existing : Except IoError (List UInt8)) with
          | error e => exact fun _ => rfl
          | ok existing =>
              refine Proc.accounts_check (fun _ h => nomatch h) fun existing' hread => ?_
              obtain rfl := Except.ok.inj hread
              have hentries : [] ++ entries (.Put key token fragmentHash body) (.Read key)
                  (.ok existing : Except IoError (List UInt8))
                  = if existing = body then [.Matched key body] else [] := rfl
              rw [hentries]
              refine Proc.accounts_check (fun e hdiffers => ?_) fun _ hsame => ?_
              · -- a conflict: the fragment is another
                refine fun _ => if_neg fun hbody => ?_
                rw [require, decide_eq_true hbody] at hdiffers
                cases hdiffers
              · rw [if_pos (of_decide_eq_true (require_eq_ok hsame))]
                exact agrees_quiet _ (fun _ => rfl) fun _ _ _ => .inr rfl
  | Delete key token =>
      refine agrees_authorize _ fun _ => agrees_existingFragmentPath _ fun _ => ?_
      intro removed _ _
      cases (removed : Except IoError Unit) with
      | error e => exact answered_error _ _
      | ok _ => exact agrees_quiet _ (fun _ => rfl) fun _ _ _ => rfl

/-! ## Open files -/

/-- The file that a statement is about to write or to link. -/
def opens : Statement → Option TempFile
  | .WriteAll temp _ => some temp
  | .SyncAll temp => some temp
  | .HardLink temp _ => some temp
  | _ => none

/-- Has the file of the statement been written? -/
def isWritten : Statement → Bool
  | .SyncAll _ => true
  | .HardLink _ _ => true
  | _ => false

/-- The file is one of its own: not that of a fragment, and once it has been written, with the body
of its request. -/
structure Held (d : Disk) (request : Request) (stmt : Statement) (temp : TempFile) : Prop where
  known : temp.file < d.nextFile
  hidden : ∀ key, IsKey key → d.files key ≠ some temp.file
  written : isWritten stmt = true → request.body = some (d.contents temp.file)

/-- The `i`-th request is about to write or to link the file. -/
def Holds (s : Server) (i : Nat) (request : Request) (stmt : Statement) (temp : TempFile) : Prop :=
  ∃ k, s.threads[i]? = some ⟨request, .Exec stmt k⟩ ∧ opens stmt = some temp

structure Holding (s : Server) : Prop where
  flowing : Flowing fragmentFlow s
  held : ∀ i request stmt temp, Holds s i request stmt temp →
    Held s.store.disk request stmt temp
  distinct : ∀ i j request request' stmt stmt' temp temp', Holds s i request stmt temp →
    Holds s j request' stmt' temp' → temp.file = temp'.file → i = j

/-- The file stays what it is, and is not published. -/
structure Spares (d d' : Disk) (file : Nat) : Prop where
  nextFile : d.nextFile ≤ d'.nextFile
  hidden : ∀ key, IsKey key → d'.files key = some file → d.files key = some file
  contents : d'.contents file = d.contents file

lemma Held.spared {d d' : Disk} {request : Request} {stmt : Statement} {temp : TempFile}
    (h : Held d request stmt temp) (hspares : Spares d d' temp.file) :
    Held d' request stmt temp where
  known := lt_of_lt_of_le h.known hspares.nextFile
  hidden key hkey hfile := h.hidden key hkey (hspares.hidden key hkey hfile)
  written hwritten := by rw [hspares.contents, h.written hwritten]

lemma Spares.refl (d : Disk) (file : Nat) : Spares d d file := ⟨le_refl _, fun _ _ h => h, rfl⟩

lemma spares_unlink (d : Disk) (w : World) (name : String) (file : Nat) :
    Spares d (d.unlink w name).2 file := by
  unfold Disk.unlink
  split
  · refine ⟨le_refl _, fun key _ hfile => ?_, rfl⟩
    dsimp only at hfile
    rw [Function.update_apply] at hfile
    split_ifs at hfile
    exact hfile
  · exact .refl d file

lemma spares_createNew {d : Disk} {file : Nat} (hfile : file < d.nextFile) (w : World)
    {path : String} (hpath : ¬ IsKey path) : Spares d (d.createNew w path).2 file := by
  unfold Disk.createNew
  split_ifs
  · exact .refl d file
  · exact .refl d file
  · refine ⟨Nat.le_succ _, fun key hkey h => ?_, Function.update_of_ne hfile.ne _ _⟩
    dsimp only at h
    rwa [Function.update_of_ne (fun heq : key = path => hpath (heq ▸ hkey))] at h

lemma spares_writeAll {d : Disk} {file file' : Nat} (hfile : file ≠ file') (w : World)
    (body : List UInt8) : Spares d (d.writeAll w file' body).2 file := by
  unfold Disk.writeAll Disk.setContents
  split_ifs <;> exact ⟨le_refl _, fun _ _ h => h, Function.update_of_ne hfile _ _⟩

lemma spares_hardLink {d : Disk} {file : Nat} {path key : String}
    (hfile : d.files path ≠ some file) (w : World) : Spares d (d.hardLink w path key).2 file := by
  unfold Disk.hardLink
  split_ifs
  · exact .refl d file
  · exact .refl d file
  · exact .refl d file
  · refine ⟨le_refl _, fun key' _ h => ?_, rfl⟩
    simp only [Disk.link, Function.update_apply] at h
    split_ifs at h
    · exact absurd h hfile
    · exact h

/-- **A step leaves the files of the other requests alone.** -/
lemma Holding.spares {s : Server} (hs : Holding s) {i j : Nat} {request request' : Request}
    {stmt stmt' : Statement} {k : Answer stmt → World → Rest} {temp : TempFile}
    (hthread : s.threads[i]? = some ⟨request, .Exec stmt k⟩)
    (hlinks : LinksOwn s.store.disk stmt) (hne : j ≠ i) (hholds : Holds s j request' stmt' temp)
    (w : World) : Spares s.store.disk (exec stmt w s.store).2.disk temp.file := by
  have hheld := hs.held j request' stmt' temp hholds
  have habout : About request stmt := by
    rcases hs.flowing.admits hthread with h | ⟨_, _, h⟩
    · exact h.1
    · exact h.1
  -- the files that two requests hold differ
  have hother : ∀ temp', opens stmt = some temp' → temp.file ≠ temp'.file := fun temp' hopens heq =>
    hne (hs.distinct j i _ _ _ _ _ _ hholds ⟨k, hthread, hopens⟩ heq)
  cases stmt with
  | CreateNew path => exact spares_createNew hheld.known w habout
  | WriteAll temp' body => exact spares_writeAll (hother temp' rfl) w body
  | HardLink temp' key =>
      refine spares_hardLink (fun hfile => ?_) w
      rcases hlinks with hnone | hown
      · rw [hnone] at hfile
        cases hfile
      · exact hother temp' rfl (Option.some.inj (hfile.symm.trans hown))
  | UnlinkTemp temp' => exact spares_unlink _ w _ _
  | CleanUp path created => exact spares_unlink _ w _ _
  | RemoveFile key => exact spares_unlink _ w _ _
  | _ => exact .refl _ _

/-- After a success or a clean-up, what goes on is the success. -/
lemma tried_opens {r : Except IoError Unit} {temp temp' : TempFile} {goesOn stmt : Statement}
    (h : Tried r temp goesOn stmt) (hopens : opens stmt = some temp') :
    r = .ok () ∧ opens goesOn = some temp' ∧ stmt = goesOn := by
  rcases h with ⟨hr, rfl⟩ | ⟨-, rfl⟩
  · exact ⟨hr, hopens, rfl⟩
  · cases hopens

/-- **A request that goes on to write or to link does so with its own file**, which is a new one or
the one that it had. -/
lemma Holding.goesOn {s : Server} (hs : Holding s) {i : Nat} {request : Request}
    {stmt stmt' : Statement} {k : Answer stmt → World → Rest} {temp : TempFile}
    (hthread : s.threads[i]? = some ⟨request, .Exec stmt k⟩) (w : World)
    (hnext : (fragmentFlow request).next stmt (exec stmt w s.store).1 stmt')
    (hopens : opens stmt' = some temp) :
    Held (exec stmt w s.store).2.disk request stmt' temp
      ∧ (opens stmt = some temp ∨ temp.file = s.store.disk.nextFile) := by
  have habout : About request stmt := by
    rcases hs.flowing.admits hthread with h | ⟨_, _, h⟩
    · exact h.1
    · exact h.1
  have hheld : ∀ temp', opens stmt = some temp' → Held s.store.disk request stmt temp' :=
    fun temp' h => hs.held i request stmt temp' ⟨k, hthread, h⟩
  obtain ⟨-, hnext⟩ := hnext
  cases stmt with
  | CreateNew path =>
      rcases hnext with ⟨file, body, hopened, rfl⟩ | ⟨-, rfl⟩
      · obtain rfl := Option.some.inj hopens
        simp only [exec, onDisk, Disk.createNew] at hopened ⊢
        split_ifs at hopened ⊢ with hfails htaken
        obtain rfl := Except.ok.inj hopened
        refine ⟨⟨Nat.lt_succ_self _, fun key hkey hfile => ?_, fun h => by cases h⟩, .inr rfl⟩
        dsimp only at hfile
        rw [Function.update_of_ne (fun heq : key = path => habout (heq ▸ hkey))] at hfile
        exact lt_irrefl _ (s.store.disk.used key _ hfile)
      · cases hopens
  | WriteAll temp' body =>
      obtain ⟨hwritten, hopens, rfl⟩ := tried_opens hnext hopens
      obtain rfl := Option.some.inj hopens
      have hold := hheld temp' rfl
      simp only [exec, onDisk, Disk.writeAll] at hwritten ⊢
      split_ifs at hwritten ⊢ with hfails
      refine ⟨⟨hold.known, hold.hidden, fun _ => ?_⟩, .inl rfl⟩
      rw [habout.2]
      show some body = some (Function.update s.store.disk.contents temp'.file body temp'.file)
      rw [Function.update_self]
  | SyncAll temp' =>
      obtain ⟨key, hnext⟩ := hnext
      obtain ⟨-, hopens, rfl⟩ := tried_opens hnext hopens
      obtain rfl := Option.some.inj hopens
      have hold := hheld temp' rfl
      exact ⟨⟨hold.known, hold.hidden, fun _ => hold.written rfl⟩, .inl rfl⟩
  | HardLink temp' key =>
      obtain ⟨-, hopens, -⟩ := tried_opens hnext hopens
      cases hopens
  | UnlinkTemp temp' =>
      obtain ⟨key, hnext⟩ := hnext
      obtain ⟨-, hopens, -⟩ := tried_opens hnext hopens
      cases hopens
  | Recheck key =>
      obtain ⟨temp', info, hnext⟩ := hnext
      obtain ⟨-, hopens, -⟩ := tried_opens hnext hopens
      cases hopens
  | ConsumeTokenId jti exp now =>
      obtain rfl := hnext
      cases hopens
  | StorageRoot =>
      obtain ⟨name, rfl⟩ := hnext
      cases hopens
  | SymlinkMetadata name =>
      rcases hnext with rfl | rfl | ⟨path, rfl⟩ <;> cases hopens
  | Canonicalize name =>
      rcases hnext with rfl | rfl <;> cases hopens
  | Read name =>
      obtain ⟨info, rfl⟩ := hnext
      cases hopens
  | RemoveFile key =>
      obtain ⟨-, rfl⟩ := hnext
      cases hopens
  | CleanUp path created => exact hnext.elim
  | InsertFragment key info => exact hnext.elim
  | RemoveFragment key => exact hnext.elim

/-- What a request that begins does not do. -/
lemma not_holds_of_begins {request : Request} {stmt : Statement} {temp : TempFile}
    (h : (fragmentFlow request).begins stmt) : opens stmt ≠ some temp := by
  obtain ⟨-, rfl | ⟨jti, exp, now, rfl⟩⟩ := h <;> exact fun hopens => nomatch hopens

section Step

variable (c : Crates) (state : AppState)

/-- **Every step keeps the files apart.** -/
theorem holding_step {s : Server} (hs : Holding s) {l : Label Request World}
    (hlinks : linksOwn s l) : Holding (step c state s l) := by
  have hflowing : Flowing fragmentFlow (step c state s l) :=
    hs.flowing.step (flows_handle c state) l
  have hsteps := steps_step exec (handle c state) s l
  generalize hs' : Interleaving.step exec (handle c state) s l = s' at hsteps
  rw [step, hs'] at hflowing ⊢
  cases hsteps with
  | Idle i w => exact hs
  | Started request w =>
      have hold : ∀ {i request' stmt temp}, Holds { s with threads := s.threads
          ++ [⟨request, handle c state request w⟩] } i request' stmt temp →
          Holds s i request' stmt temp := by
        rintro i request' stmt temp ⟨k, hthread, hopens⟩
        simp only [List.getElem?_append, List.getElem?_singleton] at hthread
        split_ifs at hthread with hlt hlast
        · exact ⟨k, hthread, hopens⟩
        · -- the new request begins without a file
          obtain ⟨rfl, hrest⟩ := Thread.mk.inj (Option.some.inj hthread)
          have hflows := flows_handle c state request w
          rw [hrest] at hflows
          exact absurd hopens (not_holds_of_begins hflows.1)
      exact ⟨hflowing, fun i _ _ _ h => hs.held i _ _ _ (hold h),
        fun i j _ _ _ _ _ _ h h' => hs.distinct i j _ _ _ _ _ _ (hold h) (hold h')⟩
  | Executed i w request stmt k hthread hexecutes =>
      have hlinks := hlinks request stmt w hexecutes
      -- a request is another one, or this one with its next statement
      have hcases : ∀ {j request' stmt' temp}, Holds ⟨(exec stmt w s.store).2,
          s.threads.set i (advance exec request stmt k w s.store)⟩ j request' stmt' temp →
          (j ≠ i ∧ Holds s j request' stmt' temp)
            ∨ (j = i ∧ request' = request ∧ Held (exec stmt w s.store).2.disk request stmt' temp
              ∧ (opens stmt = some temp ∨ temp.file = s.store.disk.nextFile)) := by
        rintro j request' stmt' temp ⟨k', hthread', hopens⟩
        simp only [List.getElem?_set] at hthread'
        split_ifs at hthread' with hij hlt
        · obtain ⟨hrequest, hrest⟩ := Thread.mk.inj (Option.some.inj hthread')
          have hflows := hs.flowing.advance hthread (exec stmt w s.store).1 w
          rw [hrest] at hflows
          exact .inr ⟨hij.symm, hrequest.symm, hs.goesOn hthread w hflows.1 hopens⟩
        · exact .inl ⟨Ne.symm hij, k', hthread', hopens⟩
      -- no other request has a file of this one
      have hapart : ∀ {j request' stmt' temp temp'}, j ≠ i → Holds s j request' stmt' temp →
          (opens stmt = some temp' ∨ temp'.file = s.store.disk.nextFile) →
          temp.file ≠ temp'.file := by
        rintro j request' stmt' temp temp' hne hholds (hopens | hnew) heq
        · exact hne (hs.distinct j i _ _ _ _ _ _ hholds ⟨k, hthread, hopens⟩ heq)
        · exact absurd (hs.held j _ _ _ hholds).known (by rw [heq, hnew]; exact lt_irrefl _)
      refine ⟨hflowing, fun j request' stmt' temp h => ?_,
        fun j j' _ _ _ _ temp temp' h h' heq => ?_⟩
      · rcases hcases h with ⟨hne, hold⟩ | ⟨-, rfl, hheld, -⟩
        · exact (hs.held j _ _ _ hold).spared (hs.spares hthread hlinks hne hold w)
        · exact hheld
      · rcases hcases h with ⟨hne, hold⟩ | ⟨rfl, -, -, hown⟩ <;>
          rcases hcases h' with ⟨hne', hold'⟩ | ⟨rfl, -, -, hown'⟩
        · exact hs.distinct j j' _ _ _ _ _ _ hold hold' heq
        · exact absurd heq (hapart hne hold hown')
        · exact absurd heq.symm (hapart hne' hold' hown)
        · rfl

end Step

/-! ## Fragments -/

lemma fragmentsOf_of_not_key {d : Disk} {name : String} (h : ¬ IsKey name) :
    fragmentsOf d name = none := if_neg h

lemma fragmentsOf_of_key {d : Disk} {name : String} (h : IsKey name) :
    fragmentsOf d name = d.read name := if_pos h

/-- The fragments are what the keys stand for. -/
lemma fragmentsOf_congr {d d' : Disk} {key : String}
    (hfiles : IsKey key → d'.files key = d.files key)
    (hcontents : ∀ file, IsKey key → d.files key = some file → d'.contents file = d.contents file) :
    fragmentsOf d' key = fragmentsOf d key := by
  by_cases hkey : IsKey key
  · rw [fragmentsOf_of_key hkey, fragmentsOf_of_key hkey, Disk.read, Disk.read, hfiles hkey]
    cases hfile : d.files key with
    | none => rfl
    | some file => exact congrArg some (hcontents file hkey hfile)
  · rw [fragmentsOf_of_not_key hkey, fragmentsOf_of_not_key hkey]

lemma fragmentsOf_unlink (d : Disk) (w : World) {name : String} (h : ¬ IsKey name) :
    fragmentsOf (d.unlink w name).2 = fragmentsOf d := by
  unfold Disk.unlink
  split
  · funext key
    refine fragmentsOf_congr (fun hkey => ?_) fun _ _ _ => rfl
    exact Function.update_of_ne (fun heq : key = name => h (heq ▸ hkey)) _ _
  · rfl

lemma fragmentsOf_createNew (d : Disk) (w : World) {path : String} (h : ¬ IsKey path) :
    fragmentsOf (d.createNew w path).2 = fragmentsOf d := by
  unfold Disk.createNew
  split_ifs
  · rfl
  · rfl
  · funext key
    refine fragmentsOf_congr (fun hkey => ?_) fun file _ hfile => ?_
    · exact Function.update_of_ne (fun heq : key = path => h (heq ▸ hkey)) _ _
    · exact Function.update_of_ne (d.used key file hfile).ne _ _

lemma fragmentsOf_setContents {d : Disk} {file : Nat} (bytes : List UInt8)
    (h : ∀ key, IsKey key → d.files key ≠ some file) :
    fragmentsOf (d.setContents file bytes) = fragmentsOf d := by
  funext key
  refine fragmentsOf_congr (fun _ => rfl) fun file' hkey hfile => ?_
  refine Function.update_of_ne (fun heq => h key hkey ?_) _ _
  rw [hfile, heq]

lemma fragmentsOf_link {d : Disk} {source key : String} {file : Nat} (hkey : IsKey key)
    (hfile : d.files source = some file) : fragmentsOf (d.link source key)
      = Function.update (fragmentsOf d) key (some (d.contents file)) := by
  funext key'
  rw [Function.update_apply]
  split_ifs with heq
  · rw [heq, fragmentsOf_of_key hkey]
    simp [Disk.read, Disk.link, hfile]
  · exact fragmentsOf_congr (fun _ => Function.update_of_ne heq _ _) fun _ _ _ => rfl

lemma fragmentsOf_removed {d : Disk} {key : String} (hkey : IsKey key) :
    fragmentsOf { d with
        files := Function.update d.files key none
        used := d.used_unlink key }
      = Function.update (fragmentsOf d) key none := by
  funext key'
  rw [Function.update_apply]
  split_ifs with heq
  · rw [heq, fragmentsOf_of_key hkey]
    simp [Disk.read]
  · exact fragmentsOf_congr (fun _ => Function.update_of_ne heq _ _) fun _ _ _ => rfl

lemma isSome_of_lookup {d : Disk} {w : World} {name : String} {r : Unit}
    (h : d.lookup w name = .ok r) : (d.files name).isSome = true := by
  unfold Disk.lookup at h
  split_ifs at h with hfails hfile
  exact hfile

lemma read_of_exec {key : String} {w : World} {s : Store} {data : List UInt8}
    (h : (exec (.Read key) w s).1 = (.ok data : Except IoError (List UInt8))) :
    s.disk.read key = some data := by
  simp only [exec] at h
  cases hread : s.disk.read key with
  | none =>
      rw [hread] at h
      cases hfails : w.fails <;> rw [hfails] at h <;> cases h
  | some bytes =>
      rw [hread] at h
      cases hfails : w.fails <;> rw [hfails] at h <;> cases h
      rfl

/-- **A statement does to the fragments what its entries say.** -/
theorem Holding.refines {s : Server} (hs : Holding s) {i : Nat} {request : Request}
    {stmt : Statement} {k : Answer stmt → World → Rest}
    (hthread : s.threads[i]? = some ⟨request, .Exec stmt k⟩) (hlinks : LinksOwn s.store.disk stmt)
    (w : World) :
    Legal (fragmentsOf s.store.disk) (entries request stmt (exec stmt w s.store).1)
      ∧ after (fragmentsOf s.store.disk) (entries request stmt (exec stmt w s.store).1)
        = fragmentsOf (exec stmt w s.store).2.disk := by
  have habout : About request stmt := by
    rcases hs.flowing.admits hthread with h | ⟨_, _, h⟩
    · exact h.1
    · exact h.1
  have hheld : ∀ temp, opens stmt = some temp → Held s.store.disk request stmt temp :=
    fun temp h => hs.held i request stmt temp ⟨k, hthread, h⟩
  have quiet : ∀ {h : List Entry} {d : Disk}, h = [] → fragmentsOf d = fragmentsOf s.store.disk →
      Legal (fragmentsOf s.store.disk) h ∧ after (fragmentsOf s.store.disk) h = fragmentsOf d := by
    rintro _ d rfl hd
    exact ⟨trivial, hd.symm⟩
  cases stmt with
  | CreateNew path =>
      exact quiet (by cases request <;> rfl) (fragmentsOf_createNew _ w habout)
  | WriteAll temp body =>
      refine quiet (by cases request <;> rfl) ?_
      simp only [exec, onDisk, Disk.writeAll]
      split_ifs <;> exact fragmentsOf_setContents _ (hheld temp rfl).hidden
  | UnlinkTemp temp => exact quiet (by cases request <;> rfl) (fragmentsOf_unlink _ w habout)
  | CleanUp path created => exact quiet (by cases request <;> rfl) (fragmentsOf_unlink _ w habout)
  | Read key =>
      obtain ⟨-, hkey⟩ := habout
      cases hdata : ((exec (.Read key) w s.store).1 : Except IoError (List UInt8)) with
      | error e => exact quiet (by cases request <;> rfl) rfl
      | ok data =>
          have hread : fragmentsOf s.store.disk key = some data := by
            rw [fragmentsOf_of_key hkey]
            exact read_of_exec hdata
          cases request with
          | Get key' token => exact ⟨⟨hread, trivial⟩, rfl⟩
          | Put key' token fragmentHash body =>
              by_cases hbody : data = body
              · subst hbody
                have hentries : entries (.Put key' token fragmentHash data) (.Read key)
                    (.ok data : Except IoError (List UInt8)) = [.Matched key data] := if_pos rfl
                rw [hentries]
                exact ⟨⟨hread, trivial⟩, rfl⟩
              · exact quiet (if_neg hbody) rfl
          | Delete key' token => exact quiet rfl rfl
  | HardLink temp key =>
      obtain ⟨-, ⟨-, hkey⟩, hbody⟩ := habout
      have hwritten := (hheld temp rfl).written rfl
      cases request with
      | Get key' token => cases hbody
      | Delete key' token => cases hbody
      | Put key' token fragmentHash body =>
          simp only [exec, onDisk, Disk.hardLink]
          split_ifs with hfails hsource htarget
          · exact quiet rfl rfl
          · exact quiet rfl rfl
          · exact quiet rfl rfl
          · -- the name is free, and gets the file that the put has written
            have hfile : s.store.disk.files temp.path = some temp.file := by
              refine hlinks.resolve_left fun hnone => hsource ?_
              rw [hnone]
              rfl
            have hfree : fragmentsOf s.store.disk key = none := by
              rw [fragmentsOf_of_key hkey, Disk.read, Option.not_isSome_iff_eq_none.mp htarget]
              rfl
            refine ⟨⟨hfree, trivial⟩, ?_⟩
            rw [fragmentsOf_link hkey hfile, ← Option.some.inj hwritten]
            rfl
  | RemoveFile key =>
      obtain ⟨⟨-, hkey⟩, hdelete⟩ := habout
      cases request with
      | Get key' token => cases hdelete
      | Put key' token fragmentHash body => cases hdelete
      | Delete key' token =>
          simp only [exec, onDisk, Disk.unlink]
          cases hlookup : s.store.disk.lookup w key with
          | error e => exact quiet rfl rfl
          | ok _ =>
              refine ⟨⟨?_, trivial⟩, (fragmentsOf_removed hkey).symm⟩
              rw [Fits, fragmentsOf_of_key hkey, Disk.read, Option.isSome_map]
              exact isSome_of_lookup hlookup
  | _ => exact quiet (by cases request <;> rfl) rfl

/-! ## A run -/

section Run

variable {c : Crates} {state : AppState} {d : Disk} {createdAt : Int}

/-- The entries so far are legal, and the fragments are what they have made of those at the start.
This connects the disk with the abstract fragments. -/
structure Refines (d : Disk) (journal : List (Nat × Entry)) (s : Server) : Prop where
  holding : Holding s
  legal : Legal (fragmentsOf d) (journal.map Prod.snd)
  fragments : after (fragmentsOf d) (journal.map Prod.snd) = fragmentsOf s.store.disk

variable (c state) in
/-- What a step does to the fragments is what it logs. -/
lemma fragments_step {s : Server} (hs : Holding s) {l : Label Request World}
    (hlinks : linksOwn s l) :
    Legal (fragmentsOf s.store.disk) ((logged exec entries s l).map Prod.snd)
      ∧ after (fragmentsOf s.store.disk) ((logged exec entries s l).map Prod.snd)
        = fragmentsOf (step c state s l).store.disk := by
  cases l with
  | Start request w => exact ⟨trivial, rfl⟩
  | Step i w =>
      cases hthread : s.threads[i]? with
      | none =>
          simp only [step, Interleaving.step, logged, hthread]
          exact ⟨trivial, rfl⟩
      | some t =>
          obtain ⟨request, rest⟩ := t
          cases rest with
          | Done reply =>
              simp only [step, Interleaving.step, logged, hthread]
              exact ⟨trivial, rfl⟩
          | Exec stmt k =>
              have hexecutes : executes s (.Step i w) = some (request, stmt, w) := by
                simp only [executes, hthread]
              have hrefines := hs.refines hthread (hlinks request stmt w hexecutes) w
              simp only [step, Interleaving.step, logged, hthread, List.map_map]
              rwa [Function.comp_def, List.map_id']

lemma refines_step {journal : List (Nat × Entry)} {s : Server} (h : Refines d journal s)
    {l : Label Request World} (hlinks : linksOwn s l) :
    Refines d (journal ++ logged exec entries s l) (step c state s l) := by
  obtain ⟨hlegal, hafter⟩ := fragments_step c state h.holding hlinks
  rw [← h.fragments] at hlegal hafter
  refine ⟨holding_step c state h.holding hlinks, ?_, ?_⟩
  · rw [List.map_append]
    exact h.legal.append hlegal
  · rw [List.map_append, after, Runs.exec_append]
    exact hafter

lemma holding_started (d : Disk) (createdAt : Int) : Holding (started d createdAt) where
  flowing := fun _ h => nomatch h
  held := by
    rintro i request stmt temp ⟨k, hthread, -⟩
    cases hthread
  distinct := by
    rintro i j request request' stmt stmt' temp temp' ⟨k, hthread, -⟩
    cases hthread

/-- **Fragments are written once**, as long as no put links a temporary name that has become that of
another. The name is made of the key and a reading of the clock, so that two puts of a key may share
it, and the clean-up of one removes the file of the other. -/
theorem writtenOnce_of_linksOwn {ls : List (Label Request World)}
    (hlinks : Runs.Guarded (step c state) linksOwn (started d createdAt) ls) :
    WrittenOnce c state d createdAt ls where
  consistent := by
    have hinit : Refines d [] (started d createdAt) := ⟨holding_started d createdAt, trivial, rfl⟩
    have hrefines : Refines d (journal c state d createdAt ls)
        (run c state (started d createdAt) ls) :=
      Runs.invariant_run (I := Refines d) hinit
        (fun _ _ _ h hguard => refines_step h hguard) hlinks.admits
    exact hrefines.legal.consistent
  answered := by
    intro i request reply hdone
    exact (accounts_run possible_exec (agrees_handle c state) _ ls).threads i _ hdone

end Run

/-! ## A name that is used again -/

namespace Sample

/-- A fragment is stored and read. -/
def undisturbed : List (Label Request World) :=
  .Start (put "k" [1]) (atTime 0) :: steps 0 9 0 ++ .Start (.Get "k" none) (atTime 0) :: steps 1 4 0

theorem writtenOnce_undisturbed : WrittenOnce crates openNode emptyDisk 0 undisturbed :=
  writtenOnce_of_linksOwn (by decide +kernel)

/-- Three puts have read the clock at the same time.  The first one publishes its body, which is
deleted.  The second one has written its body when the first one misses the fragment and cleans up,
so that the third one opens a new file of the name, which the second one links. -/
def reused : List (Label Request World) :=
  [.Start (put "k" [3]) (atTime 0), .Start (put "k" [1]) (atTime 0),
      .Start (put "k" [2]) (atTime 0)]
    ++ steps 0 2 0 ++ steps 1 2 0 ++ steps 2 2 0 ++ steps 0 5 0
    ++ .Start (.Delete "k" none) (atTime 0) :: steps 3 5 0
    ++ steps 1 3 0 ++ steps 0 2 0 ++ steps 2 1 0 ++ steps 1 1 0
    ++ .Start (.Get "k" none) (atTime 0) :: steps 4 4 0

lemma journal_reused : journal crates openNode emptyDisk 0 reused
    = [(0, .Published "k" [3]), (3, .Removed "k"), (1, .Published "k" [1]), (4, .Got "k" [])] := by
  decide +kernel

/-- **A read returns what nobody has stored.** -/
theorem not_writtenOnce : ¬ WrittenOnce crates openNode emptyDisk 0 reused := by
  rintro ⟨hconsistent, -⟩
  rw [journal_reused] at hconsistent
  rcases hconsistent.reads [.Published "k" [3], .Removed "k", .Published "k" [1]] [] "k" [] rfl with
    ⟨pre, mid, hpre, -⟩ | ⟨hstart, -⟩
  · have hmem : Event.Published "k" [] ∈ pre ++ .Published "k" [] :: mid := by simp
    rw [← hpre] at hmem
    exact absurd hmem (by decide)
  · simp [fragmentsOf, Disk.read, emptyDisk] at hstart

end Sample

end Vaulted.Node
