import Mathlib.Data.Set.Function
import Vaulted.Desktop.BlobRegistry

/-!
# A blob is submitted as it has been registered

* `Event` — a blob is registered or consumed, or the session is cleared.
* `SubmittedAsRegistered` — no blob is consumed more often than it is registered, and each time it
  has been registered in the same session, for the wallet that is unlocked, and is not expired.
* `guard` — what `consume` relies on: the wallet that it has found is still the one that is
  unlocked when it gets to the registry, and the approval has not expired meanwhile.
* `registryFlow` — what follows which statement.
* `submittedAsRegistered_of_undisturbed` — that is enough.
* `not_submittedAsRegistered` — a blob is consumed for a wallet that has been locked.
-/

namespace Vaulted.BlobRegistry

open Interleaving

/-! ## What is observed -/

/-- A consumption comes with the wallet that is unlocked at that moment. -/
inductive Event
  | Registered (blob wallet : String) (expiresAt : Time)
  | Consumed (blob : String) (wallet : Option String) (time : Time)
  | Cleared
  deriving DecidableEq

def registrations (blob : String) (h : List Event) : Nat :=
  h.countP fun
    | .Registered blob' _ _ => decide (blob' = blob)
    | .Consumed _ _ _ => false
    | .Cleared => false

def consumptions (blob : String) (h : List Event) : Nat :=
  h.countP fun
    | .Registered _ _ _ => false
    | .Consumed blob' _ _ => decide (blob' = blob)
    | .Cleared => false

/-- What has happened since the session was cleared. -/
def session (h : List Event) : List Event :=
  (h.reverse.takeWhile fun e => decide (e ≠ .Cleared)).reverse

/-- A blob is consumed as often as it has been registered, at most, also within one session; and
whenever it is, it has been registered in this session for the wallet that is unlocked, and not
expired. -/
structure SubmittedAsRegistered (h : List Event) : Prop where
  counted : ∀ blob, consumptions blob h ≤ registrations blob h
  countedInSession : ∀ pre post blob, h = pre ++ post →
    consumptions blob (session pre) ≤ registrations blob (session pre)
  authorised : ∀ pre post blob wallet time, h = pre ++ .Consumed blob wallet time :: post →
    ∃ registeredFor expiresAt, .Registered blob registeredFor expiresAt ∈ session pre
      ∧ wallet = some registeredFor ∧ time < expiresAt

section System

variable (sha256 : List UInt8 → List UInt8)

/-- What an operation that ends has done. -/
def told (s : Client) (w : World) : Request × Reply → List Event
  | (.Register blob _ wallet expiresAt _, .Registered _) => [.Registered blob wallet expiresAt]
  | (.Consume blob, .Consumed _) => [.Consumed blob s.store.xrplWallet w.now]
  | (.ClearSession, _) => [.Cleared]
  | _ => []

def world : Label Request World → World
  | .Start _ w => w
  | .Step _ w => w

def events (s : Client) (l : Label Request World) : List Event :=
  (finished exec (program sha256) s l).flatMap (told s (world l))

/-- What happens in a run. -/
abbrev history (ls : List (Label Request World)) : List Event :=
  Runs.history (step sha256) (events sha256) started ls

end System

/-! ## The condition -/

/-- When a blob is consumed, the wallet that the operation has found is unlocked and is the one that
the blob is registered for, to the letter, and the approval has not expired. -/
def Undisturbed (m : Memory) (w : World) : Statement → Prop
  | .Consume txBlobHash currentWallet now =>
      ∀ record ∈ m.signedXrplTransactions.get? txBlobHash, record.check currentWallet now = .ok () →
        m.xrplWallet = some currentWallet ∧ record.walletAddress = currentWallet
          ∧ w.now < record.expiresAt
  | _ => True

instance (m : Memory) (w : World) : (stmt : Statement) → Decidable (Undisturbed m w stmt)
  | .Consume txBlobHash currentWallet now =>
      inferInstanceAs (Decidable (∀ record ∈ m.signedXrplTransactions.get? txBlobHash,
        record.check currentWallet now = .ok () → m.xrplWallet = some currentWallet
          ∧ record.walletAddress = currentWallet ∧ w.now < record.expiresAt))
  | .GetXrplWallet | .Insert _ | .Clear | .Unlock _ => inferInstanceAs (Decidable True)

def guard (s : Client) (l : Label Request World) : Prop :=
  ∀ request stmt w, executes s l = some (request, stmt, w) → Undisturbed s.store w stmt

instance (s : Client) (l : Label Request World) : Decidable (guard s l) :=
  decidable_of_iff (∀ p ∈ executes s l, Undisturbed s.store p.2.2 p.2.1)
    ⟨fun h request stmt w hexecutes => h (request, stmt, w) hexecutes,
      fun h p hexecutes => h p.1 p.2.1 p.2.2 hexecutes⟩

/-! ## The flow -/

section Flow

variable (sha256 : List UInt8 → List UInt8)

def About : Request → Statement → Prop
  | .Register blob _ wallet expiresAt _, .Insert record =>
      record.txBlobHash = hashXrplTxBlob sha256 blob ∧ record.walletAddress = wallet
        ∧ record.expiresAt = expiresAt ∧ record.consumed = false
  | .Consume _, .GetXrplWallet => True
  | .Consume blob, .Consume txBlobHash _ _ => txBlobHash = hashXrplTxBlob sha256 blob
  | .ClearSession, .Clear => True
  | .Unlock wallet, .Unlock wallet' => wallet' = wallet
  | _, _ => False

/-- What an operation answers after its last statement. -/
def Ends : (stmt : Statement) → Answer stmt → Reply → Prop
  | .GetXrplWallet, _, reply => ∃ e, reply = .Failed e
  | .Insert record, _, reply => reply = .Registered record
  | .Consume _ _ _, .ok record, reply => reply = .Consumed record
  | .Consume _ _ _, .error e, reply => reply = .Failed e
  | .Clear, _, reply => reply = .Done
  | .Unlock _, _, reply => reply = .Done

def registryFlow (request : Request) : Flow Answer Reply where
  begins stmt := About sha256 request stmt
  refuses reply := ∃ e, reply = .Failed e
  next stmt _ stmt' := About sha256 request stmt' ∧ stmt = .GetXrplWallet
  ends stmt answer reply := Ends stmt answer reply

/-- **Every operation follows the flow.** -/
theorem flows_program (request : Request) (w : World) : (program sha256 request w).Flows
    (registryFlow sha256 request) (registryFlow sha256 request).refuses
    (registryFlow sha256 request).begins := by
  cases request with
  | Register blob signingIntent wallet expiresAt requestId =>
      rw [program, registerSignedXrplTxBlob]
      split
      · exact ⟨_, rfl⟩
      · split
        · exact ⟨_, rfl⟩
        · exact ⟨⟨rfl, rfl, rfl, rfl⟩, fun _ _ => rfl⟩
  | Consume blob =>
      refine ⟨trivial, fun wallet w => ?_⟩
      cases (wallet : Option String) with
      | none => exact ⟨_, rfl⟩
      | some currentWallet =>
          refine ⟨⟨rfl, rfl⟩, fun consumed _ => ?_⟩
          cases (consumed : Except ClientError SignedXrplTransactionRecord) with
          | ok record => exact rfl
          | error e => exact rfl
  | ClearSession => exact ⟨trivial, fun _ _ => rfl⟩
  | Unlock wallet => exact ⟨rfl, fun _ _ => rfl⟩

end Flow

/-! ## Histories -/

section Histories

variable {h : List Event} {e : Event} {blob : String}

lemma session_concat : session (h ++ [e]) = if e = .Cleared then [] else session h ++ [e] := by
  split_ifs with he <;> simp [session, he]

/-- One more event fits. -/
lemma SubmittedAsRegistered.concat (hh : SubmittedAsRegistered h)
    (hcount : ∀ blob, consumptions blob (h ++ [e]) ≤ registrations blob (h ++ [e]))
    (hsession : ∀ blob,
      consumptions blob (session (h ++ [e])) ≤ registrations blob (session (h ++ [e])))
    (hconsumed : ∀ blob wallet time, e = .Consumed blob wallet time →
      ∃ registeredFor expiresAt, .Registered blob registeredFor expiresAt ∈ session h
        ∧ wallet = some registeredFor ∧ time < expiresAt) : SubmittedAsRegistered (h ++ [e]) where
  counted := hcount
  countedInSession := by
    intro pre post blob heq
    rcases List.eq_nil_or_concat post with rfl | ⟨post, e', rfl⟩
    · rw [List.append_nil] at heq
      rw [← heq]
      exact hsession blob
    · rw [List.concat_eq_append, ← List.append_assoc] at heq
      exact hh.countedInSession pre post blob (List.append_inj_left' heq rfl)
  authorised := by
    intro pre post blob wallet time heq
    rcases List.eq_nil_or_concat post with rfl | ⟨post, e', rfl⟩
    · obtain ⟨rfl, he⟩ := List.append_inj' heq rfl
      exact hconsumed blob wallet time (List.singleton_inj.mp he)
    · rw [List.concat_eq_append, ← List.cons_append, ← List.append_assoc] at heq
      exact hh.authorised pre post blob wallet time (List.append_inj_left' heq rfl)

lemma submittedAsRegistered_nil : SubmittedAsRegistered [] where
  counted _ := le_rfl
  countedInSession pre post blob heq := by
    rw [(List.append_eq_nil_iff.mp heq.symm).1]
    exact le_rfl
  authorised pre post blob wallet time heq := by simp at heq

/-- A blob may be consumed once more. -/
structure Spare (h : List Event) (blob : String) : Prop where
  overall : consumptions blob h < registrations blob h
  inSession : consumptions blob (session h) < registrations blob (session h)

lemma registrations_concat : registrations blob (h ++ [e]) = registrations blob h
    + registrations blob [e] := List.countP_append

lemma consumptions_concat : consumptions blob (h ++ [e]) = consumptions blob h
    + consumptions blob [e] := List.countP_append

/-- A registration makes room for a consumption. -/
lemma spare_registered (hh : SubmittedAsRegistered h) (wallet : String) (expiresAt : Time) :
    Spare (h ++ [.Registered blob wallet expiresAt]) blob := by
  have hsession := hh.countedInSession h [] blob (List.append_nil h).symm
  have hcounted := hh.counted blob
  refine ⟨?_, ?_⟩
  · rw [registrations_concat, consumptions_concat]
    simp [registrations, consumptions] at hcounted ⊢
    omega
  · rw [session_concat, if_neg (by simp), registrations_concat, consumptions_concat]
    simp [registrations, consumptions] at hsession ⊢
    omega

/-- What happens to other blobs leaves the room. -/
lemma Spare.concat (hs : Spare h blob) (hcleared : e ≠ .Cleared)
    (hother : ∀ wallet time, e ≠ .Consumed blob wallet time) : Spare (h ++ [e]) blob := by
  have hnone : consumptions blob [e] = 0 := by
    cases e with
    | Consumed blob' wallet time =>
        have hne : blob' ≠ blob := by
          rintro rfl
          exact hother wallet time rfl
        simp [consumptions, hne]
    | _ => simp [consumptions]
  obtain ⟨hoverall, hinSession⟩ := hs
  refine ⟨?_, ?_⟩
  · rw [registrations_concat, consumptions_concat]
    omega
  · rw [session_concat, if_neg hcleared, registrations_concat, consumptions_concat]
    omega

/-- A registration is in order. -/
lemma SubmittedAsRegistered.registered (hh : SubmittedAsRegistered h) (wallet : String)
    (expiresAt : Time) : SubmittedAsRegistered (h ++ [.Registered blob wallet expiresAt]) := by
  refine hh.concat (fun blob' => ?_) (fun blob' => ?_) (by simp)
  · have hcounted := hh.counted blob'
    rw [registrations_concat, consumptions_concat]
    simp [consumptions] at hcounted ⊢
    omega
  · have hsession := hh.countedInSession h [] blob' (List.append_nil h).symm
    rw [session_concat, if_neg (by simp), registrations_concat, consumptions_concat]
    simp [consumptions] at hsession ⊢
    omega

/-- A clearance is in order. -/
lemma SubmittedAsRegistered.cleared (hh : SubmittedAsRegistered h) :
    SubmittedAsRegistered (h ++ [.Cleared]) := by
  refine hh.concat (fun blob' => ?_) (fun blob' => ?_) (by simp)
  · have hcounted := hh.counted blob'
    rw [registrations_concat, consumptions_concat]
    simp [consumptions] at hcounted ⊢
    omega
  · rw [session_concat, if_pos rfl]
    exact le_rfl

/-- A consumption is in order when there is room for it, and a registration that authorises it. -/
lemma SubmittedAsRegistered.consumed (hh : SubmittedAsRegistered h) (hs : Spare h blob)
    {wallet : String} {time expiresAt : Time}
    (hregistered : .Registered blob wallet expiresAt ∈ session h) (htime : time < expiresAt) :
    SubmittedAsRegistered (h ++ [.Consumed blob (some wallet) time]) := by
  obtain ⟨hoverall, hinSession⟩ := hs
  refine hh.concat (fun blob' => ?_) (fun blob' => ?_) ?_
  · have hcounted := hh.counted blob'
    rw [registrations_concat, consumptions_concat]
    by_cases hblob : blob = blob'
    · subst hblob
      simp [registrations, consumptions] at hoverall ⊢
      omega
    · simp [consumptions, hblob] at hcounted ⊢
      omega
  · have hsession := hh.countedInSession h [] blob' (List.append_nil h).symm
    rw [session_concat, if_neg (by simp), registrations_concat, consumptions_concat]
    by_cases hblob : blob = blob'
    · subst hblob
      simp [registrations, consumptions] at hinSession ⊢
      omega
    · simp [consumptions, hblob] at hsession ⊢
      omega
  · rintro _ _ _ heq
    obtain ⟨rfl, rfl, rfl⟩ := Event.Consumed.inj heq
    exact ⟨wallet, expiresAt, hregistered, rfl, htime⟩

end Histories

/-! ## A step -/

def Request.blob : Request → Option String
  | .Register blob _ _ _ _ => some blob
  | .Consume blob => some blob
  | .ClearSession => none
  | .Unlock _ => none

/-- What a statement of an operation tells. -/
def eventsOf (m : Memory) (w : World) : Request → (stmt : Statement) → Answer stmt → List Event
  | .Register blob _ wallet expiresAt _, .Insert _, _ => [.Registered blob wallet expiresAt]
  | .Consume blob, .Consume _ _ _, .ok _ => [.Consumed blob m.xrplWallet w.now]
  | .ClearSession, .Clear, _ => [.Cleared]
  | _, _, _ => []

section Step

variable (sha256 : List UInt8 → List UInt8)

/-- A record that can be consumed has room, and a registration in this session. -/
structure Sound (blobs : Set String) (h : List Event) (s : Client) : Prop where
  flowing : Flowing (registryFlow sha256) s
  known : ∀ t ∈ s.threads, ∀ blob, t.request.blob = some blob → blob ∈ blobs
  fits : SubmittedAsRegistered h
  available : ∀ blob ∈ blobs, ∀ record,
    s.store.signedXrplTransactions.get? (hashXrplTxBlob sha256 blob) = some record →
      record.consumed = false → Spare h blob
        ∧ .Registered blob record.walletAddress record.expiresAt ∈ session h

variable {sha256} {blobs : Set String} {h : List Event} {s : Client} {i : Nat} {request : Request}
  {stmt : Statement} {k : Answer stmt → World → Rest} {w : World}

/-- The client after an operation has executed its statement. -/
abbrev executed (s : Client) (i : Nat) (request : Request) (stmt : Statement)
    (k : Answer stmt → World → Rest) (w : World) : Client :=
  { store := (exec stmt w s.store).2
    threads := s.threads.set i (advance exec request stmt k w s.store) }

lemma Sound.about (hs : Sound sha256 blobs h s)
    (hthread : s.threads[i]? = some ⟨request, .Exec stmt k⟩) : About sha256 request stmt := by
  rcases hs.flowing.admits hthread with h | ⟨_, _, h⟩
  · exact h
  · exact h.1

lemma Sound.events_executed (hs : Sound sha256 blobs h s)
    (hthread : s.threads[i]? = some ⟨request, .Exec stmt k⟩) :
    events sha256 s (.Step i w) = eventsOf s.store w request stmt (exec stmt w s.store).1 := by
  have habout := hs.about hthread
  simp only [events, finished, hthread, world]
  rcases hs.flowing.goesOn hthread (exec stmt w s.store).1 w with
    ⟨stmt', k', hrest, -, rfl⟩ | ⟨reply, hrest, hends⟩
  · rw [advance, hrest]
    cases request with
    | Consume blob => rfl
    | _ => exact habout.elim
  · rw [advance, hrest]
    cases request with
    | Register blob signingIntent wallet expiresAt requestId =>
        cases stmt with
        | Insert record =>
            obtain rfl : reply = .Registered record := hends
            rfl
        | _ => exact habout.elim
    | Consume blob =>
        cases stmt with
        | GetXrplWallet =>
            obtain ⟨e, rfl⟩ := hends
            rfl
        | Consume txBlobHash currentWallet now =>
            cases hconsumed : ((exec (.Consume txBlobHash currentWallet now) w s.store).1 :
                Except ClientError SignedXrplTransactionRecord) with
            | ok record =>
                rw [hconsumed] at hends
                obtain rfl : reply = .Consumed record := hends
                rfl
            | error e =>
                rw [hconsumed] at hends
                obtain rfl : reply = .Failed e := hends
                rfl
        | _ => exact habout.elim
    | ClearSession =>
        cases stmt with
        | Clear => rfl
        | _ => exact habout.elim
    | Unlock wallet =>
        cases stmt with
        | Unlock wallet' => rfl
        | _ => exact habout.elim

/-- A statement that tells nothing, and leaves the registry. -/
lemma Sound.quiet (hs : Sound sha256 blobs h s)
    (hthread : s.threads[i]? = some ⟨request, .Exec stmt k⟩) {e : List Event}
    (hevents : eventsOf s.store w request stmt (exec stmt w s.store).1 = e)
    (hfits : SubmittedAsRegistered (h ++ e))
    (havailable : ∀ blob ∈ blobs, ∀ record,
      (exec stmt w s.store).2.signedXrplTransactions.get? (hashXrplTxBlob sha256 blob)
        = some record → record.consumed = false → Spare (h ++ e) blob
          ∧ .Registered blob record.walletAddress record.expiresAt ∈ session (h ++ e)) :
    Sound sha256 blobs (h ++ events sha256 s (.Step i w)) (executed s i request stmt k w) := by
  rw [hs.events_executed hthread, hevents]
  refine ⟨?_, ?_, hfits, havailable⟩
  · have hflowing : Flowing (registryFlow sha256) (step sha256 s (.Step i w)) :=
      hs.flowing.step (flows_program sha256) (.Step i w)
    simpa only [Interleaving.step, hthread] using hflowing
  · intro t ht
    rcases List.mem_or_eq_of_mem_set ht with ht | rfl
    · exact hs.known t ht
    · exact hs.known ⟨request, .Exec stmt k⟩ (List.mem_of_getElem? hthread)

/-- **What an undisturbed statement keeps.** -/
theorem Sound.executed (hs : Sound sha256 blobs h s)
    (hinj : Set.InjOn (hashXrplTxBlob sha256) blobs)
    (hthread : s.threads[i]? = some ⟨request, .Exec stmt k⟩)
    (hundisturbed : Undisturbed s.store w stmt) :
    Sound sha256 blobs (h ++ events sha256 s (.Step i w)) (executed s i request stmt k w) := by
  have habout := hs.about hthread
  have hknown := hs.known _ (List.mem_of_getElem? hthread)
  cases stmt with
  | GetXrplWallet =>
      refine hs.quiet hthread (e := []) (by cases request <;> rfl) ?_ ?_ <;> rw [List.append_nil]
      · exact hs.fits
      · exact hs.available
  | Unlock wallet =>
      refine hs.quiet hthread (e := []) (by cases request <;> rfl) ?_ ?_ <;> rw [List.append_nil]
      · exact hs.fits
      · exact hs.available
  | Clear =>
      cases request with
      | ClearSession =>
          refine hs.quiet hthread (e := [.Cleared]) rfl hs.fits.cleared ?_
          intro blob _ record hget
          cases hget
      | _ => exact habout.elim
  | Insert record =>
      cases request with
      | Register blob signingIntent wallet expiresAt requestId =>
          obtain ⟨hhash, rfl, rfl, -⟩ := habout
          refine hs.quiet hthread (e := [.Registered blob record.walletAddress record.expiresAt]) rfl
            (hs.fits.registered _ _) ?_
          intro blob' hblob' record' hget hfresh
          rw [session_concat, if_neg (by simp)]
          rw [exec, get?_insertRecord] at hget
          split_ifs at hget with hkey
          · -- the new record
            obtain rfl : blob' = blob := by
              rw [hhash] at hkey
              exact hinj hblob' (hknown blob rfl) hkey
            obtain rfl : record = record' := Option.some.inj hget
            exact ⟨spare_registered hs.fits _ _, by simp⟩
          · obtain ⟨hspare, hregistered⟩ :=
              hs.available blob' hblob' record' (Option.filter_eq_some_iff.mp hget).1 hfresh
            exact ⟨hspare.concat (by simp) (by simp), List.mem_append_left _ hregistered⟩
      | _ => exact habout.elim
  | Consume txBlobHash currentWallet now =>
      cases request with
      | Consume blob =>
          obtain rfl : txBlobHash = hashXrplTxBlob sha256 blob := habout
          have refused : ∀ e, exec (.Consume (hashXrplTxBlob sha256 blob) currentWallet now) w s.store
              = (.error e, s.store) → Sound sha256 blobs (h ++ events sha256 s (.Step i w))
                (BlobRegistry.executed s i (.Consume blob) _ k w) := by
            intro e hexec
            refine hs.quiet hthread (e := []) (by rw [hexec]; rfl) ?_ ?_ <;> rw [List.append_nil]
            · exact hs.fits
            · rw [hexec]
              exact hs.available
          cases hget : s.store.signedXrplTransactions.get? (hashXrplTxBlob sha256 blob) with
          | none => exact refused _ (by simp only [exec, consumeRecord, hget]; rfl)
          | some record =>
              cases hcheck : record.check currentWallet now with
              | error e => exact refused e (by simp only [exec, consumeRecord, hget, hcheck])
              | ok _ =>
                  obtain ⟨hwallet, hfor, htime⟩ := hundisturbed record hget hcheck
                  have hexec : exec (.Consume (hashXrplTxBlob sha256 blob) currentWallet now) w s.store
                      = (.ok { record with consumed := true },
                        { s.store with
                          signedXrplTransactions := s.store.signedXrplTransactions.update
                            (hashXrplTxBlob sha256 blob)
                            (fun record => { record with consumed := true }) (fun _ => rfl) }) := by
                    simp only [exec, consumeRecord, hget, hcheck]
                  have hfresh : record.consumed = false := by
                    unfold SignedXrplTransactionRecord.check at hcheck
                    split_ifs at hcheck with hconsumed
                    simpa using hconsumed
                  obtain ⟨hspare, hregistered⟩ :=
                    hs.available blob (hknown blob rfl) record hget hfresh
                  refine hs.quiet hthread
                    (e := [.Consumed blob (some record.walletAddress) w.now]) ?_
                    (hs.fits.consumed hspare hregistered htime) ?_
                  · rw [hexec, hfor, ← hwallet]
                    rfl
                  · rw [hexec]
                    intro blob' hblob' record' hget' hfresh'
                    rw [session_concat, if_neg (by simp)]
                    rw [Table.get?_update] at hget'
                    split_ifs at hget' with hkey
                    · -- the blob itself has been consumed
                      rw [hget, Option.map_some] at hget'
                      rw [← Option.some.inj hget'] at hfresh'
                      cases hfresh'
                    · obtain ⟨hspare', hregistered'⟩ :=
                        hs.available blob' hblob' record' hget' hfresh'
                      refine ⟨hspare'.concat (by simp) ?_, List.mem_append_left _ hregistered'⟩
                      rintro wallet time heq
                      obtain ⟨rfl, -, -⟩ := Event.Consumed.inj heq
                      exact hkey rfl
      | _ => exact habout.elim

lemma events_started (request : Request) (w : World) :
    events sha256 s (.Start request w) = [] := by
  cases request with
  | Register blob signingIntent wallet expiresAt requestId =>
      simp only [events, finished, program, registerSignedXrplTxBlob]
      split_ifs <;> rfl
  | _ => rfl

/-- **What a step keeps.** -/
theorem sound_step (hs : Sound sha256 blobs h s) (hinj : Set.InjOn (hashXrplTxBlob sha256) blobs)
    {l : Label Request World}
    (hknown : ∀ request w, l = .Start request w → ∀ blob ∈ request.blob, blob ∈ blobs)
    (hguard : guard s l) : Sound sha256 blobs (h ++ events sha256 s l) (step sha256 s l) := by
  have hflowing : Flowing (registryFlow sha256) (step sha256 s l) :=
    hs.flowing.step (flows_program sha256) l
  have hsteps := steps_step exec (program sha256) s l
  rw [step] at hflowing ⊢
  generalize Interleaving.step exec (program sha256) s l = s' at hsteps hflowing ⊢
  cases hsteps with
  | Started request w =>
      rw [events_started, List.append_nil]
      refine ⟨hflowing, ?_, hs.fits, hs.available⟩
      intro t ht
      rcases List.mem_append.mp ht with ht | ht
      · exact hs.known t ht
      · rw [List.mem_singleton.mp ht]
        exact hknown request w rfl
  | Idle i w hexecutes hfinished =>
      rw [events, hfinished, List.flatMap_nil, List.append_nil]
      exact hs
  | Executed i w request stmt k hthread hexecutes hfinished =>
      exact hs.executed hinj hthread (hguard request stmt w hexecutes)

end Step

/-! ## Runs -/

section Run

variable {sha256 : List UInt8 → List UInt8}

/-- The blobs that the operations of a run are about. -/
def blobs (ls : List (Label Request World)) : Set String :=
  { blob | ∃ request w, .Start request w ∈ ls ∧ request.blob = some blob }

lemma sound_started (known : Set String) : Sound sha256 known [] started where
  flowing t ht := by cases ht
  known t ht := by cases ht
  fits := submittedAsRegistered_nil
  available blob _ record hget := by cases hget

/-- **Blobs are submitted as they have been registered**, where SHA-256 tells those of the run
apart, as long as a consumption finds the wallet and the approval as they were when it began: both
are read before the lock of the registry is taken. -/
theorem submittedAsRegistered_of_undisturbed {ls : List (Label Request World)}
    (hinj : Set.InjOn (hashXrplTxBlob sha256) (blobs ls))
    (hguard : Runs.Guarded (step sha256) guard started ls) :
    SubmittedAsRegistered (history sha256 ls) := by
  suffices h : ∀ pre post, ls = pre ++ post → Sound sha256 (blobs ls) (history sha256 pre)
      (Runs.exec (step sha256) started pre) from (h ls [] (List.append_nil ls).symm).fits
  intro pre
  induction pre using List.reverseRecOn with
  | nil => exact fun _ _ => sound_started _
  | append_singleton pre l ih =>
      intro post heq
      have heq' : ls = pre ++ (l :: post) := by rw [heq, List.append_assoc, List.singleton_append]
      rw [history, Runs.history_concat, Runs.exec_concat]
      refine sound_step (ih _ heq') hinj ?_ (by rw [heq'] at hguard; exact hguard.back.1)
      rintro request w rfl blob hblob
      exact ⟨request, w, by rw [heq']; simp, hblob⟩

end Run

/-! ## What goes wrong -/

namespace Sample

/-- The digest of the one blob. -/
def sha256 (_ : List UInt8) : List UInt8 :=
  [0x15, 0x19, 0x7c, 0xf7, 0x21, 0x4b, 0x58, 0xe6, 0x7c, 0xae, 0x56, 0x5e, 0x57, 0x3f, 0xfd, 0x9a,
    0xa4, 0x4b, 0xcb, 0x81, 0xf8, 0xee, 0x5d, 0x71, 0x85, 0xdf, 0xe8, 0xda, 0x0a, 0x16, 0xef, 0x43]

def atTime (now : Nat) : World := ⟨now⟩

/-- A blob is registered, and consumed. -/
def inOrder : List (Label Request World) :=
  [.Start (.Unlock "rA") (atTime 0), .Step 0 (atTime 0),
    .Start (.Register "1200" "SendXrp" "rA" 9 none) (atTime 0), .Step 1 (atTime 0),
    .Start (.Consume "1200") (atTime 1), .Step 2 (atTime 1), .Step 2 (atTime 1)]

lemma blobs_inOrder : blobs inOrder ⊆ {"1200"} := by
  rintro blob ⟨request, w, hmem, hblob⟩
  simp only [inOrder, List.mem_cons, Label.Start.injEq, reduceCtorEq, false_or, List.not_mem_nil,
    or_false] at hmem
  rcases hmem with ⟨rfl, -⟩ | ⟨rfl, -⟩ | ⟨rfl, -⟩
  · cases hblob
  · exact (Option.some.inj hblob).symm
  · exact (Option.some.inj hblob).symm

theorem submittedAsRegistered_inOrder : SubmittedAsRegistered (history sha256 inOrder) :=
  submittedAsRegistered_of_undisturbed (Set.subsingleton_singleton.anti blobs_inOrder |>.injOn _)
    (by decide +kernel)

/-- The session is cleared while a consumption has read the wallet. -/
def locked : List (Label Request World) :=
  [.Start (.Unlock "rA") (atTime 0), .Step 0 (atTime 0),
    .Start (.Consume "1200") (atTime 0), .Step 1 (atTime 0),
    .Start .ClearSession (atTime 0), .Step 2 (atTime 0),
    .Start (.Register "1200" "SendXrp" "rA" 9 none) (atTime 0), .Step 3 (atTime 0),
    .Step 1 (atTime 1)]

lemma history_locked : history sha256 locked
    = [.Cleared, .Registered "1200" "rA" 9, .Consumed "1200" none 1] := by decide +kernel

/-- **A blob is consumed while no wallet is unlocked.** -/
theorem not_submittedAsRegistered : ¬SubmittedAsRegistered (history sha256 locked) := by
  intro h
  obtain ⟨registeredFor, _, -, hwallet, -⟩ := h.authorised
    [.Cleared, .Registered "1200" "rA" 9] [] "1200" none 1 history_locked
  cases hwallet

end Sample

end Vaulted.BlobRegistry
