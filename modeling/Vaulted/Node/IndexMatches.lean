import Vaulted.Node.FragmentFlow

/-!
# The index of a node matches its disk

A put publishes a file and then enters it in the index; a delete removes the file first.

* `Matches` — when no request is under way the index has the names on the disk, all of them are
  keys, and a new start finds the same; and a temporary file always belongs to some request.
* `Orderly` — what a step must find: no key that is taken meanwhile, no file operation that fails
  after the file has been published, no index update that comes too late.
* `Tracked` — who will put right what does not match yet.
* `matches_of_orderly` — that is enough.
* `not_matches` — a put that comes second leaves its temporary file behind.
-/

namespace Vaulted.Node

open Interleaving

/-! ## The property -/

/-- There is a file of the name. -/
def Present (d : Disk) (name : String) : Prop := (d.files name).isSome = true

instance (d : Disk) (name : String) : Decidable (Present d name) :=
  inferInstanceAs (Decidable ((d.files name).isSome = true))

/-- No request is under way. -/
def Idle (s : Server) : Prop := ¬ Pending s fun _ _ => True

/-- The temporary name that a statement is about. -/
def tempOf : Statement → Option String
  | .WriteAll temp _ => some temp.path
  | .SyncAll temp => some temp.path
  | .HardLink temp _ => some temp.path
  | .UnlinkTemp temp => some temp.path
  | .CleanUp path _ => some path
  | _ => none

/-- Is a file that has been published still to be entered in the index? -/
def isEntering : Statement → Bool
  | .UnlinkTemp _ => true
  | .Recheck _ => true
  | .InsertFragment _ _ => true
  | _ => false

/-- At rest the index has the keys of the files, every file is that of a key, and a new start would
find the same; and a temporary file has a request under way that will remove it, at any time. -/
structure Matches (s : Server) : Prop where
  index : Idle s → ∀ name, (s.store.fragments name).isSome = true ↔ Present s.store.disk name
  fragments : Idle s → ∀ name, Present s.store.disk name → IsKey name
  rescan : Idle s → ∀ createdAt name, (loadExistingFragments s.store.disk createdAt name).isSome
    = (s.store.fragments name).isSome
  temporary : ∀ name, Present s.store.disk name → ¬ IsKey name →
    Pending s fun _ stmt => tempOf stmt = some name

/-! ## The condition -/

/-- A put will enter the key in the index. -/
def WillEnter (s : Server) (key : String) : Prop :=
  Pending s fun request stmt => request.key = key ∧ isEntering stmt = true

/-- A delete will remove the key from the index. -/
def WillRemove (s : Server) (key : String) : Prop :=
  Pending s fun _ stmt => stmt = .RemoveFragment key

/-- What a statement may find, so that nothing is left behind: a key to be linked is free, a
temporary file is there to be removed, and what an entry is made or dropped for has not changed
meanwhile. -/
def Orderly (s : Server) (w : World) : Statement → Prop
  | .HardLink temp key => w.fails = false → Present s.store.disk temp.path →
      ¬ Present s.store.disk key
  | .UnlinkTemp temp => w.fails = false ∧ Present s.store.disk temp.path
  | .Recheck key => Present s.store.disk key → w.fails = false
  | .CleanUp path _ => Present s.store.disk path → w.fails = false
  | .InsertFragment key _ => Present s.store.disk key ∨ WillRemove s key
  | .RemoveFragment key => Present s.store.disk key → WillEnter s key
  | _ => True

def orderly (s : Server) (l : Label Request World) : Prop :=
  ∀ request stmt w, executes s l = some (request, stmt, w) → Orderly s w stmt

/-! ## The disk -/

section Disk

variable {d : Disk} {w : World} {name : String}

lemma present_unlink {name' : String} :
    Present (d.unlink w name').2 name ↔ Present d name ∧ (name = name' → w.fails = true) := by
  unfold Disk.unlink Disk.lookup
  split_ifs with hfails hname
  · simp [hfails]
  · simp only [Present, Function.update_apply]
    split_ifs with heq <;> simp [heq, hfails]
  · have hne : Present d name → name ≠ name' := by
      rintro hpresent rfl
      exact hname hpresent
    exact ⟨fun h => ⟨h, fun heq => absurd heq (hne h)⟩, And.left⟩

lemma present_createNew {path : String} :
    Present (d.createNew w path).2 name ↔ Present d name ∨ (name = path ∧ w.fails = false) := by
  unfold Disk.createNew
  split_ifs with hfails htaken
  · simp [hfails]
  · refine ⟨.inl, fun h => h.elim id fun heq => ?_⟩
    rw [heq.1]
    exact htaken
  · simp only [Present, Function.update_apply]
    split_ifs with heq <;> simp [heq, hfails]

lemma present_writeAll {file : Nat} {body : List UInt8} :
    Present (d.writeAll w file body).2 name ↔ Present d name := by
  unfold Disk.writeAll Disk.setContents
  split_ifs <;> rfl

lemma present_hardLink {path key : String} : Present (d.hardLink w path key).2 name
    ↔ Present d name ∨ (name = key ∧ w.fails = false ∧ Present d path) := by
  unfold Disk.hardLink
  split_ifs with hfails hsource htarget
  · simp [hfails]
  · simp [Present, Option.isNone_iff_eq_none.mp hsource]
  · refine ⟨.inl, fun h => h.elim id fun heq => ?_⟩
    rw [heq.1]
    exact htarget
  · have hpath : Present d path := by simpa [Present, Option.isSome_iff_ne_none] using hsource
    simp only [Disk.link, Present, Function.update_apply]
    split_ifs with heq
    · exact ⟨fun _ => .inr ⟨heq, by simpa using hfails, hpath⟩, fun _ => hpath⟩
    · simp [heq]

/-- The names that are taken. -/
lemma taken_of_createNew {path : String} (h : (d.createNew w path).1 = .error .AlreadyExists) :
    Present d path := by
  unfold Disk.createNew at h
  split_ifs at h with hfails htaken
  · cases h
  · exact htaken

lemma taken_of_hardLink {path key : String}
    (h : (d.hardLink w path key).1 = .error .AlreadyExists) :
    w.fails = false ∧ Present d path ∧ Present d key := by
  unfold Disk.hardLink at h
  split_ifs at h with hfails hsource htarget
  · cases h
  · cases h
  · have hpath : Present d path := by simpa [Present, Option.isSome_iff_ne_none] using hsource
    exact ⟨by simpa using hfails, hpath, htarget⟩

/-! What succeeds. -/

lemma lookup_of_present (hfails : w.fails = false) (h : Present d name) :
    d.lookup w name = .ok () := by
  have hname : (d.files name).isSome = true := h
  simp [Disk.lookup, hfails, hname]

lemma unlink_of_present (hfails : w.fails = false) (h : Present d name) :
    (d.unlink w name).1 = .ok () := by
  rw [Disk.unlink, lookup_of_present hfails h]

lemma hardLink_of_free {path key : String} (hfails : w.fails = false) (hsource : Present d path)
    (htarget : ¬ Present d key) : (d.hardLink w path key).1 = .ok () := by
  have hpath : (d.files path).isNone = false := Option.isNone_eq_false_iff.mpr hsource
  have hkey : (d.files key).isSome = false := Bool.eq_false_iff.mpr htarget
  simp [Disk.hardLink, hfails, hpath, hkey]

end Disk

/-! ## Who puts it right -/

/-- Every temporary file has a request that will remove it, every file without an entry a put that
will enter it, and every entry without a file a delete that will remove it. -/
structure Tracked (s : Server) : Prop where
  flowing : Flowing fragmentFlow s
  temporary : ∀ name, Present s.store.disk name → ¬ IsKey name →
    Pending s fun _ stmt => tempOf stmt = some name
  entering : ∀ key, IsKey key → Present s.store.disk key → s.store.fragments key = none →
    WillEnter s key
  removing : ∀ key info, s.store.fragments key = some info → ¬ Present s.store.disk key →
    WillRemove s key
  keys : ∀ key info, s.store.fragments key = some info → IsKey key

/-- **When no request is under way, everything has been put right.** -/
theorem Tracked.matches {s : Server} (h : Tracked s) : Matches s := by
  have hfragments : Idle s → ∀ name, Present s.store.disk name → IsKey name := by
    intro hidle name hpresent
    by_contra hkey
    obtain ⟨i, request, stmt, k, hthread, -⟩ := h.temporary name hpresent hkey
    exact hidle ⟨i, request, stmt, k, hthread, trivial⟩
  have hindex : Idle s → ∀ name, (s.store.fragments name).isSome = true
      ↔ Present s.store.disk name := by
    intro hidle name
    constructor
    · intro hentry
      obtain ⟨info, hinfo⟩ := Option.isSome_iff_exists.mp hentry
      by_contra habsent
      obtain ⟨i, request, stmt, k, hthread, -⟩ := h.removing name info hinfo habsent
      exact hidle ⟨i, request, stmt, k, hthread, trivial⟩
    · intro hpresent
      by_contra hentry
      obtain ⟨i, request, stmt, k, hthread, -⟩ := h.entering name (hfragments hidle name hpresent)
        hpresent (Option.not_isSome_iff_eq_none.mp hentry)
      exact hidle ⟨i, request, stmt, k, hthread, trivial⟩
  refine ⟨hindex, hfragments, fun hidle createdAt name => ?_, h.temporary⟩
  rw [loadExistingFragments, Option.isSome_map]
  exact Bool.eq_iff_iff.mpr (hindex hidle name).symm

/-! ## A step -/

section Executed

variable {s : Server} {i : Nat} {request : Request} {stmt : Statement}
  {k : Answer stmt → World → Rest} {w : World}

/-- The node after the statement. -/
abbrev executed (s : Server) (i : Nat) (request : Request) (stmt : Statement)
    (k : Answer stmt → World → Rest) (w : World) : Server where
  store := (exec stmt w s.store).2
  threads := s.threads.set i (advance exec request stmt k w s.store)

/-- A request goes on, or has answered. -/
lemma Tracked.goesOn (hs : Tracked s) (hthread : s.threads[i]? = some ⟨request, .Exec stmt k⟩)
    (w : World) {P : Request → Statement → Prop}
    (hnext : ∀ stmt', About request stmt' → Next stmt (exec stmt w s.store).1 stmt' →
      P request stmt')
    (hfinal : ¬ Final stmt (exec stmt w s.store).1) :
    Pending (executed s i request stmt k w) P := by
  rcases hs.flowing.goesOn hthread (exec stmt w s.store).1 w with
    ⟨stmt', k', hrest, habout, hfollows⟩ | ⟨a, -, hends⟩
  · exact pending_advance hthread hrest (hnext stmt' habout hfollows)
  · exact absurd hends hfinal

/-- A temporary name goes from statement to statement. -/
lemma tempOf_of_tried {r : Except IoError Unit} {temp : TempFile} {goesOn stmt' : Statement}
    (h : Tried r temp goesOn stmt') (hgoesOn : tempOf goesOn = some temp.path) :
    tempOf stmt' = some temp.path := by
  rcases h with ⟨-, rfl⟩ | ⟨-, rfl⟩
  · exact hgoesOn
  · rfl

lemma about_of_flowing (hs : Flowing fragmentFlow s)
    (hthread : s.threads[i]? = some ⟨request, .Exec stmt k⟩) : About request stmt := by
  rcases hs.admits hthread with h | ⟨_, _, h⟩
  · exact h.1
  · exact h.1

/-- **A temporary file is removed in the end.** -/
lemma Tracked.temporary_executed (hs : Tracked s)
    (hthread : s.threads[i]? = some ⟨request, .Exec stmt k⟩) (hguard : Orderly s w stmt)
    {name : String} (hkey : ¬ IsKey name)
    (hpresent : Present (exec stmt w s.store).2.disk name) :
    Pending (executed s i request stmt k w) fun _ stmt => tempOf stmt = some name := by
  have habout := about_of_flowing hs.flowing hthread
  have hpossible := possible_exec stmt w s.store
  -- a file that was there has a request, which is another one or has its name in its statement
  have hold : Present s.store.disk name → tempOf stmt = some name
      ∨ Pending (executed s i request stmt k w) fun _ stmt => tempOf stmt = some name :=
    fun h => (hs.temporary name h hkey).executed hthread _ _
  cases stmt with
  | CreateNew path =>
      rcases present_createNew.mp hpresent with h | ⟨rfl, hfails⟩
      · exact (hold h).resolve_left fun h => by cases h
      · by_cases htaken : Present s.store.disk name
        · exact (hold htaken).resolve_left fun h => by cases h
        · refine hs.goesOn hthread w (fun stmt' _ hnext => ?_) fun hfinal => ?_
          · rcases hnext with ⟨file, body, -, rfl⟩ | ⟨-, rfl⟩ <;> rfl
          · exact htaken (taken_of_createNew hfinal)
  | WriteAll temp body =>
      rcases hold (present_writeAll.mp hpresent) with htemp | h
      · obtain rfl := Option.some.inj htemp
        exact hs.goesOn hthread w (fun stmt' _ hnext => tempOf_of_tried hnext rfl) hpossible
      · exact h
  | SyncAll temp =>
      rcases hold hpresent with htemp | h
      · obtain rfl := Option.some.inj htemp
        refine hs.goesOn hthread w (fun stmt' _ hnext => ?_) hpossible
        obtain ⟨key, hnext⟩ := hnext
        exact tempOf_of_tried hnext rfl
      · exact h
  | HardLink temp key =>
      rcases present_hardLink.mp hpresent with h | ⟨rfl, -⟩
      · rcases hold h with htemp | h
        · obtain rfl := Option.some.inj htemp
          refine hs.goesOn hthread w (fun stmt' _ hnext => tempOf_of_tried hnext rfl)
            fun hfinal => ?_
          obtain ⟨hfails, hsource, htarget⟩ := taken_of_hardLink hfinal
          exact hguard hfails hsource htarget
        · exact h
      · exact absurd habout.2.1.2 hkey
  | UnlinkTemp temp =>
      obtain ⟨h, hfails⟩ := present_unlink.mp hpresent
      refine (hold h).resolve_left fun htemp => ?_
      obtain rfl := Option.some.inj htemp
      rw [hguard.1] at hfails
      cases hfails rfl
  | CleanUp path created =>
      obtain ⟨h, hfails⟩ := present_unlink.mp hpresent
      refine (hold h).resolve_left fun htemp => ?_
      obtain rfl := Option.some.inj htemp
      rw [hguard h] at hfails
      cases hfails rfl
  | RemoveFile key => exact (hold (present_unlink.mp hpresent).1).resolve_left fun h => by cases h
  | _ => exact (hold hpresent).resolve_left fun h => by cases h

/-- An update of the index leaves the other keys alone. -/
lemma fragments_insert {key key' : String} (h : key ≠ key') (info : FragmentInfo) :
    (exec (.InsertFragment key' info) w s.store).2.fragments key = s.store.fragments key :=
  Function.update_of_ne h _ _

lemma fragments_remove {key key' : String} (h : key ≠ key') :
    (exec (.RemoveFragment key') w s.store).2.fragments key = s.store.fragments key :=
  Function.update_of_ne h _ _

/-- **A file is entered in the end.** -/
lemma Tracked.entering_executed (hs : Tracked s)
    (hthread : s.threads[i]? = some ⟨request, .Exec stmt k⟩) (hguard : Orderly s w stmt)
    {key : String} (hkey : IsKey key) (hpresent : Present (exec stmt w s.store).2.disk key)
    (hentry : (exec stmt w s.store).2.fragments key = none) :
    WillEnter (executed s i request stmt k w) key := by
  have habout := about_of_flowing hs.flowing hthread
  have hold : Present s.store.disk key → s.store.fragments key = none →
      (request.key = key ∧ isEntering stmt = true)
        ∨ WillEnter (executed s i request stmt k w) key :=
    fun h hnone => (hs.entering key hkey h hnone).executed hthread _ _
  cases stmt with
  | CreateNew path =>
      rcases present_createNew.mp hpresent with h | ⟨rfl, -⟩
      · exact (hold h hentry).resolve_left fun h => by cases h.2
      · exact absurd hkey habout
  | WriteAll temp body =>
      exact (hold (present_writeAll.mp hpresent) hentry).resolve_left fun h => by cases h.2
  | HardLink temp key' =>
      by_cases h : Present s.store.disk key
      · exact (hold h hentry).resolve_left fun h => by cases h.2
      · -- the file has just been published
        obtain ⟨rfl, hfails, hsource⟩ := (present_hardLink.mp hpresent).resolve_left h
        have hlinked : (s.store.disk.hardLink w temp.path key).1 = .ok () :=
          hardLink_of_free hfails hsource h
        refine hs.goesOn hthread w (fun stmt' _ hnext => ?_) fun hfinal => ?_
        · rcases hnext with ⟨-, rfl⟩ | ⟨⟨e, herror⟩, -⟩
          · exact ⟨habout.2.1.1.symm, rfl⟩
          · exact absurd (hlinked.symm.trans herror) fun h => by cases h
        · exact absurd (hlinked.symm.trans hfinal) fun h => by cases h
  | UnlinkTemp temp =>
      have hremoved : (s.store.disk.unlink w temp.path).1 = .ok () :=
        unlink_of_present hguard.1 hguard.2
      rcases hold (present_unlink.mp hpresent).1 hentry with ⟨hrequest, -⟩ | h
      · refine hs.goesOn hthread w (fun stmt' _ hnext => ?_) fun hfinal => ?_
        · obtain ⟨key', ⟨-, rfl⟩ | ⟨⟨e, herror⟩, -⟩⟩ := hnext
          · exact ⟨hrequest, rfl⟩
          · exact absurd (hremoved.symm.trans herror) fun h => by cases h
        · exact absurd (hremoved.symm.trans hfinal) fun h => by cases h
      · exact h
  | Recheck key' =>
      rcases hold hpresent hentry with ⟨hrequest, -⟩ | h
      · have hkey' : key' = key := habout.1.trans hrequest
        subst hkey'
        have hmetadata : s.store.disk.lookup w key' = .ok () :=
          lookup_of_present (hguard hpresent) hpresent
        refine hs.goesOn hthread w (fun stmt' _ hnext => ?_) id
        obtain ⟨temp, info, ⟨-, rfl⟩ | ⟨⟨e, herror⟩, -⟩⟩ := hnext
        · exact ⟨hrequest, rfl⟩
        · exact absurd (hmetadata.symm.trans herror) fun h => by cases h
      · exact h
  | CleanUp path created =>
      exact (hold (present_unlink.mp hpresent).1 hentry).resolve_left fun h => by cases h.2
  | RemoveFile key' =>
      exact (hold (present_unlink.mp hpresent).1 hentry).resolve_left fun h => by cases h.2
  | InsertFragment key' info =>
      by_cases heq : key = key'
      · rw [heq] at hentry
        simp [exec, setFragment] at hentry
      · rw [fragments_insert heq] at hentry
        refine (hold hpresent hentry).resolve_left fun h => heq ?_
        rw [habout.1, h.1]
  | RemoveFragment key' =>
      by_cases heq : key = key'
      · subst heq
        exact ((hguard hpresent).executed hthread _ _).resolve_left fun h => by cases h.2
      · rw [fragments_remove heq] at hentry
        exact (hold hpresent hentry).resolve_left fun h => by cases h.2
  | _ => exact (hold hpresent hentry).resolve_left fun h => by cases h.2

/-- **An entry is removed in the end.** -/
lemma Tracked.removing_executed (hs : Tracked s)
    (hthread : s.threads[i]? = some ⟨request, .Exec stmt k⟩) (hguard : Orderly s w stmt)
    {key : String} {info : FragmentInfo}
    (hentry : (exec stmt w s.store).2.fragments key = some info)
    (habsent : ¬ Present (exec stmt w s.store).2.disk key) :
    WillRemove (executed s i request stmt k w) key := by
  have habout := about_of_flowing hs.flowing hthread
  have hold : s.store.fragments key = some info → ¬ Present s.store.disk key →
      stmt = .RemoveFragment key ∨ WillRemove (executed s i request stmt k w) key :=
    fun hsome h => (hs.removing key info hsome h).executed hthread _ _
  cases stmt with
  | CreateNew path =>
      exact (hold hentry fun h => habsent (present_createNew.mpr (.inl h))).resolve_left
        fun h => by cases h
  | WriteAll temp body =>
      exact (hold hentry fun h => habsent (present_writeAll.mpr h)).resolve_left fun h => by cases h
  | HardLink temp key' =>
      exact (hold hentry fun h => habsent (present_hardLink.mpr (.inl h))).resolve_left
        fun h => by cases h
  | UnlinkTemp temp =>
      have hne : key ≠ temp.path := fun heq => habout (heq ▸ hs.keys key info hentry)
      exact (hold hentry fun h => habsent (present_unlink.mpr ⟨h, fun heq => absurd heq hne⟩)
        ).resolve_left fun h => by cases h
  | CleanUp path created =>
      have hne : key ≠ path := fun heq => habout (heq ▸ hs.keys key info hentry)
      exact (hold hentry fun h => habsent (present_unlink.mpr ⟨h, fun heq => absurd heq hne⟩)
        ).resolve_left fun h => by cases h
  | RemoveFile key' =>
      by_cases h : Present s.store.disk key
      · -- the file has just been removed
        have hremoved : key = key' ∧ w.fails = false := by
          by_contra hother
          refine habsent (present_unlink.mpr ⟨h, fun heq => ?_⟩)
          simpa [heq] using hother
        obtain ⟨rfl, hfails⟩ := hremoved
        have hremoved : (s.store.disk.unlink w key).1 = .ok () := unlink_of_present hfails h
        refine hs.goesOn hthread w (fun stmt' _ hnext => hnext.2) ?_
        rintro ⟨e, herror⟩
        exact absurd (hremoved.symm.trans herror) fun h => by cases h
      · exact (hold hentry h).resolve_left fun h => by cases h
  | InsertFragment key' info' =>
      by_cases heq : key = key'
      · subst heq
        exact ((hguard.resolve_left habsent).executed hthread _ _).resolve_left fun h => by cases h
      · rw [fragments_insert heq] at hentry
        exact (hold hentry habsent).resolve_left fun h => by cases h
  | RemoveFragment key' =>
      by_cases heq : key = key'
      · rw [heq] at hentry
        simp [exec, setFragment] at hentry
      · rw [fragments_remove heq] at hentry
        exact (hold hentry habsent).resolve_left fun h => heq (by cases h; rfl)
  | _ => exact (hold hentry habsent).resolve_left fun h => by cases h

end Executed

/-! ## A run -/

section Run

variable {c : Crates} {state : AppState} {s : Server}

lemma keys_exec {stmt : Statement} {request : Request} {w : World} (habout : About request stmt)
    (hkeys : ∀ key info, s.store.fragments key = some info → IsKey key) {key : String}
    {info : FragmentInfo} (hentry : (exec stmt w s.store).2.fragments key = some info) :
    IsKey key := by
  cases stmt with
  | InsertFragment key' info' =>
      by_cases heq : key = key'
      · exact heq ▸ habout.2
      · exact hkeys key info ((fragments_insert heq info').symm.trans hentry)
  | RemoveFragment key' =>
      by_cases heq : key = key'
      · rw [heq] at hentry
        simp [exec, setFragment] at hentry
      · exact hkeys key info ((fragments_remove heq).symm.trans hentry)
  | _ => exact hkeys key info hentry

/-- **Every orderly step is kept track of.** -/
theorem tracked_step (hs : Tracked s) {l : Label Request World} (hguard : orderly s l) :
    Tracked (step c state s l) := by
  have hflowing : Flowing fragmentFlow (step c state s l) :=
    hs.flowing.step (flows_handle c state) l
  have hsteps := steps_step exec (handle c state) s l
  generalize hs' : Interleaving.step exec (handle c state) s l = s' at hsteps
  rw [step, hs'] at hflowing ⊢
  cases hsteps with
  | Idle i w => exact hs
  | Started request w =>
      exact ⟨hflowing, fun name h hkey => (hs.temporary name h hkey).started _,
        fun key hkey h hnone => (hs.entering key hkey h hnone).started _,
        fun key info hsome h => (hs.removing key info hsome h).started _, hs.keys⟩
  | Executed i w request stmt k hthread hexecutes =>
      have hguard := hguard request stmt w hexecutes
      exact ⟨hflowing, fun name h hkey => hs.temporary_executed hthread hguard hkey h,
        fun key hkey h hnone => hs.entering_executed hthread hguard hkey h hnone,
        fun key info hsome h => hs.removing_executed hthread hguard hsome h,
        fun key info => keys_exec (about_of_flowing hs.flowing hthread) hs.keys⟩

/-- The directory holds nothing but fragments. -/
def OnlyFragments (d : Disk) : Prop := ∀ name, Present d name → IsKey name

lemma tracked_started {d : Disk} (hd : OnlyFragments d) (createdAt : Int) :
    Tracked (started d createdAt) where
  flowing _ h := nomatch h
  temporary name h hkey := absurd (hd name h) hkey
  entering key _ h hnone := by
    have hfile : d.files key = none := Option.map_eq_none_iff.mp hnone
    have h : (d.files key).isSome = true := h
    rw [hfile] at h
    cases h
  removing key info hsome h := by
    obtain ⟨file, hfile, -⟩ := Option.map_eq_some_iff.mp hsome
    exact absurd (Option.isSome_iff_exists.mpr ⟨file, hfile⟩) h
  keys key info hsome := by
    obtain ⟨file, hfile, -⟩ := Option.map_eq_some_iff.mp hsome
    exact hd key (Option.isSome_iff_exists.mpr ⟨file, hfile⟩)

/-- **The index matches the disk** after every orderly run from a directory of fragments. Between
the statements of a handler they may differ; the invariant says which call under way will make up
for it, and at rest there is none. -/
theorem matches_of_orderly {d : Disk} (hd : OnlyFragments d) {createdAt : Int}
    {ls : List (Label Request World)}
    (h : Runs.Guarded (step c state) orderly (started d createdAt) ls) :
    Matches (run c state (started d createdAt) ls) :=
  (Runs.preserved_guarded (P := Tracked) (fun _ _ hs hguard => tracked_step hs hguard)
    (tracked_started hd createdAt) h).matches

end Run

/-! ## A put that comes second -/

namespace Sample

instance (s : Server) (w : World) : (stmt : Statement) → Decidable (Orderly s w stmt)
  | .HardLink temp key => inferInstanceAs (Decidable (w.fails = false →
      Present s.store.disk temp.path → ¬ Present s.store.disk key))
  | .UnlinkTemp temp =>
      inferInstanceAs (Decidable (w.fails = false ∧ Present s.store.disk temp.path))
  | .Recheck key => inferInstanceAs (Decidable (Present s.store.disk key → w.fails = false))
  | .CleanUp path _ => inferInstanceAs (Decidable (Present s.store.disk path → w.fails = false))
  | .InsertFragment key _ =>
      inferInstanceAs (Decidable (Present s.store.disk key
        ∨ Pending s fun _ stmt => stmt = .RemoveFragment key))
  | .RemoveFragment key =>
      inferInstanceAs (Decidable (Present s.store.disk key →
        Pending s fun request stmt => request.key = key ∧ isEntering stmt = true))
  | .ConsumeTokenId _ _ _ | .StorageRoot | .SymlinkMetadata _ | .Canonicalize _ | .Read _
  | .CreateNew _ | .WriteAll _ _ | .SyncAll _ | .RemoveFile _ => inferInstanceAs (Decidable True)

instance (s : Server) (l : Label Request World) : Decidable (orderly s l) :=
  decidable_of_iff (∀ p ∈ executes s l, Orderly s p.2.2 p.2.1)
    ⟨fun h request stmt w hexecutes => h (request, stmt, w) hexecutes,
      fun h p hexecutes => h p.1 p.2.1 p.2.2 hexecutes⟩

/-- A fragment is stored, and another is stored and deleted. -/
def inTurn : List (Label Request World) :=
  .Start (put "k" [1]) (atTime 0) :: steps 0 9 0 ++ .Start (put "l" [2]) (atTime 1) :: steps 1 9 1
    ++ .Start (.Delete "l" none) (atTime 2) :: steps 2 5 2

lemma onlyFragments_emptyDisk : OnlyFragments emptyDisk := fun _ h => nomatch h

theorem matches_inTurn : Matches (run crates openNode (started emptyDisk 0) inTurn) :=
  matches_of_orderly onlyFragments_emptyDisk (by decide +kernel)

/-- Two puts find no file, and open temporary files of different names. -/
def contended : List (Label Request World) :=
  [.Start (put "k" [1]) (atTime 0), .Start (put "k" [2]) (atTime 1)]
    ++ steps 0 2 0 ++ steps 1 2 1 ++ steps 0 7 0 ++ steps 1 4 1

/-- **The put that comes second meets a conflict, and leaves its temporary file.** -/
theorem not_matches : ¬ Matches (run crates openNode (started emptyDisk 0) contended) := by
  intro hmatches
  have hpresent : Present (run crates openNode (started emptyDisk 0) contended).store.disk
      (tempPath crates "k" (atTime 1)) := by decide +kernel
  have hidle : Idle (run crates openNode (started emptyDisk 0) contended) := by
    rw [Idle]
    decide +kernel
  exact not_isKey_tempPath _ _ _ (hmatches.fragments hidle _ hpresent)

end Sample

end Vaulted.Node
