import Vaulted.Identity.KeyBinding
import Vaulted.Oracle.QrLogin

/-!
# A QR login is approved once and consumed once

Confirmations and polls look at the status of a request in one statement and set it in another.

* `exec` — any number of calls, whose statements interleave in any order.
* `loginFlow` — what follows which statement; tokens are handed out right after a request has been
  set to consumed.
* `OneWay` — the status of a request only moves forward, what is approved stays, and one answer at
  most contains the tokens.
* `Unraced` — every update finds the status that its handler has looked at.
* `oneWay_of_unraced` — that is enough.
* `not_oneWay` — two polls both find the request approved.
-/

namespace Vaulted.QrLogin

open Interleaving QrAuth

/-! ## The system -/

section System

variable (ed : Ed25519) (state : AppState)

/-- The database, and the calls under way. -/
abbrev Server := State Db Call Answer Moment Reply

abbrev step (s : Server) (l : Label Call Moment) : Server :=
  Interleaving.step QrLogin.exec (handle ed state) s l

/-- The server after a run. -/
abbrev run (s : Server) (ls : List (Label Call Moment)) : Server := Runs.exec (step ed state) s ls

/-- Does an answer to a poll contain tokens? -/
def bearsTokens : Reply → Bool
  | .Status (.ok r) => r.accessToken.isSome || r.refreshToken.isSome
  | .Status (.error _) => false
  | .Started _ => false
  | .Confirmed _ => false

/-- The request that a poll is about. -/
def polled : Call → Option Uuid
  | .Status loginRequestId => parseUuid loginRequestId
  | .Start _ => none
  | .Confirm _ => none

/-- The requests whose tokens a step hands out. -/
def emit (s : Server) (l : Label Call Moment) : List Uuid :=
  (finished QrLogin.exec (handle ed state) s l).filterMap fun (call, reply) =>
    if bearsTokens reply then polled call else none

/-- The moves of a status. -/
inductive Moves : QrLoginStatus → QrLoginStatus → Prop
  | Stays (status : QrLoginStatus) : Moves status status
  | Approved : Moves .Pending .Approved
  | Consumed : Moves .Approved .Consumed
  | Expired : Moves .Pending .Expired

/-- Has the request been approved? -/
def Decided (row : QrLoginRequest) : Prop := row.status = .Approved ∨ row.status = .Consumed

/-- The identity and the tokens of a request. -/
def content (row : QrLoginRequest) : Option String × Option Claims × Option Claims :=
  (row.identityId, row.accessToken, row.refreshToken)

/-- A row may become another. -/
structure Follows (row row' : QrLoginRequest) : Prop where
  status : Moves row.status row'.status
  kept : Decided row → content row' = content row

/-- Requests are one-way and one-time: a status only moves forward, what has been decided keeps its
contents, and the tokens of a request are handed out once at most. -/
structure OneWay (s : Server) (ls : List (Label Call Moment)) : Prop where
  moves : ∀ pre l post, ls = pre ++ l :: post → ∀ id row,
    (run ed state s pre).store.qrLoginRequests.get? id = some row →
    ∃ row', (run ed state s (pre ++ [l])).store.qrLoginRequests.get? id = some row'
      ∧ Follows row row'
  kept : ∀ pre mid post, ls = pre ++ (mid ++ post) → ∀ id row row',
    (run ed state s pre).store.qrLoginRequests.get? id = some row → Decided row →
    (run ed state s (pre ++ mid)).store.qrLoginRequests.get? id = some row' →
    content row' = content row
  once : ∀ id, (Runs.history (step ed state) (emit ed state) s ls).count id ≤ 1

/-! ## The condition -/

def Finds (db : Db) (id : Uuid) (status : QrLoginStatus) : Prop :=
  ∃ row, db.qrLoginRequests.get? id = some row ∧ row.status = status

/-- An update finds the status that its handler has looked at, and a request is really set to
consumed: if that fails, the tokens are handed out all the same, and can be asked for again. -/
def FindsStatus (db : Db) (m : Moment) : Statement → Prop
  | .Expire id => Finds db id .Pending
  | .Approve id _ _ _ _ => Finds db id .Pending
  | .Consume id => m.failure = none ∧ Finds db id .Approved
  | _ => True

def guard (s : Server) (l : Label Call Moment) : Prop :=
  ∀ call stmt m, executes s l = some (call, stmt, m) → FindsStatus s.store m stmt

instance (db : Db) (id : Uuid) (status : QrLoginStatus) : Decidable (Finds db id status) :=
  decidable_of_iff (((db.qrLoginRequests.get? id).any fun row => decide (row.status = status)) = true)
    (by simp [Finds, Option.any_eq_true])

instance (db : Db) (m : Moment) : (stmt : Statement) → Decidable (FindsStatus db m stmt)
  | .Insert _ => inferInstanceAs (Decidable True)
  | .Load _ => inferInstanceAs (Decidable True)
  | .Expire id => inferInstanceAs (Decidable (Finds db id .Pending))
  | .LoadIdentity _ => inferInstanceAs (Decidable True)
  | .Approve id _ _ _ _ => inferInstanceAs (Decidable (Finds db id .Pending))
  | .Consume id => inferInstanceAs (Decidable (m.failure = none ∧ Finds db id .Approved))

instance (s : Server) (l : Label Call Moment) : Decidable (guard s l) :=
  decidable_of_iff (∀ p ∈ executes s l, FindsStatus s.store p.2.2 p.2.1)
    ⟨fun h call stmt m hexecutes => h (call, stmt, m) hexecutes,
      fun h p hexecutes => h p.1 p.2.1 p.2.2 hexecutes⟩

/-- No update of the run is overtaken. -/
def Unraced (s : Server) (ls : List (Label Call Moment)) : Prop :=
  Runs.Guarded (step ed state) guard s ls

instance (s : Server) (ls : List (Label Call Moment)) : Decidable (Unraced ed state s ls) :=
  inferInstanceAs (Decidable (Runs.Guarded (step ed state) guard s ls))

end System

/-! ## The handlers -/

/-- Tokens are handed out right after the request has been set to consumed. -/
def loginFlow (call : Call) : Flow Answer Reply where
  begins _ := True
  refuses reply := bearsTokens reply = false
  next _ _ _ := True
  ends s _ reply := bearsTokens reply = true → ∃ id, s = .Consume id ∧ polled call = some id

/-- **Every handler follows the flow.** -/
theorem flows_handle (ed : Ed25519) (state : AppState) (call : Call) (m : Moment) :
    (handle ed state call m).Flows (loginFlow call) (loginFlow call).refuses
      (loginFlow call).begins := by
  have quiet : ∀ {s : Statement} {r : Answer s} {reply : Reply}, bearsTokens reply = false →
      (loginFlow call).ends s r reply := fun h htokens => by rw [h] at htokens; cases htokens
  cases call with
  | Start req =>
      refine ⟨trivial, fun inserted _ => ?_⟩
      exact Proc.flows_check (fun _ _ => quiet rfl) fun _ _ => quiet rfl
  | Confirm req =>
      refine Proc.flows_check (fun _ _ => rfl) fun loginId _ => ⟨trivial, fun qrRow? m => ?_⟩
      refine Proc.flows_check (fun _ _ => quiet rfl) fun qrRow? _ => ?_
      refine Proc.flows_check (fun _ _ => quiet rfl) fun qrRow _ => ?_
      split
      · split_ifs
        · exact ⟨trivial, fun _ _ => quiet rfl⟩
        · exact quiet rfl
      · refine ⟨trivial, fun identity? m => ?_⟩
        refine Proc.flows_check (fun _ _ => quiet rfl) fun identity? _ => ?_
        refine Proc.flows_check (fun _ _ => quiet rfl) fun identity _ => ?_
        refine Proc.flows_check (fun _ _ => quiet rfl) fun _ _ => ?_
        refine Proc.flows_check (fun _ _ => quiet rfl) fun _ _ => ⟨trivial, fun approved _ => ?_⟩
        exact Proc.flows_check (fun _ _ => quiet rfl) fun _ _ => quiet rfl
  | Status loginRequestId =>
      refine Proc.flows_check (fun _ _ => rfl) fun loginId hid => ⟨trivial, fun row? m => ?_⟩
      refine Proc.flows_check (fun _ _ => quiet rfl) fun row? _ => ?_
      refine Proc.flows_check (fun _ _ => quiet rfl) fun row _ => ?_
      split_ifs
      · exact ⟨trivial, fun _ _ => quiet rfl⟩
      · exact ⟨trivial, fun _ _ _ => ⟨loginId, rfl, okOr_eq_ok hid⟩⟩
      · exact quiet rfl

/-! ## A statement -/

lemma get?_updated (db : Db) (id : Uuid) (f : QrLoginRequest → QrLoginRequest)
    (hf : ∀ r, (f r).id = r.id) (j : Uuid) : (update id f hf db).qrLoginRequests.get? j
      = if j = id then (db.qrLoginRequests.get? id).map f else db.qrLoginRequests.get? j :=
  Table.get?_update db.qrLoginRequests id f hf j

lemma Follows.refl (row : QrLoginRequest) : Follows row row := ⟨.Stays _, fun _ => rfl⟩

/-- **An update that finds its status moves the request forward.** -/
theorem follows_exec {db : Db} {m : Moment} {stmt : Statement} (hfinds : FindsStatus db m stmt)
    {id : Uuid} {row : QrLoginRequest} (hrow : db.qrLoginRequests.get? id = some row) :
    ∃ row', (exec stmt m db).2.qrLoginRequests.get? id = some row' ∧ Follows row row' := by
  have updated : ∀ {id' : Uuid} {f : QrLoginRequest → QrLoginRequest}
      {hf : ∀ r, (f r).id = r.id}, (id = id' → Follows row (f row)) →
      ∃ row', (update id' f hf db).qrLoginRequests.get? id = some row' ∧ Follows row row' := by
    intro id' f hf hfollows
    rw [get?_updated]
    split_ifs with hid
    · exact ⟨f row, by rw [← hid, hrow]; rfl, hfollows hid⟩
    · exact ⟨row, hrow, .refl row⟩
  have found : ∀ {id' : Uuid} {status : QrLoginStatus}, Finds db id' status → id = id' →
      row.status = status := by
    rintro id' status ⟨row', hrow', hstatus⟩ rfl
    rw [Option.some.inj (hrow.symm.trans hrow')]
    exact hstatus
  unfold exec
  cases m.failure with
  | some e => exact ⟨row, hrow, .refl row⟩
  | none =>
      cases stmt with
      | Insert new =>
          simp only [effect]
          cases hinsert : db.qrLoginRequests.insert? new with
          | none => exact ⟨row, hrow, .refl row⟩
          | some qrLoginRequests =>
              refine ⟨row, (Table.get?_insert hinsert id).trans ?_, .refl row⟩
              refine (if_neg fun hid => ?_).trans hrow
              rw [hid, (Table.insert?_eq_some hinsert).1] at hrow
              cases hrow
      | Load id' => exact ⟨row, hrow, .refl row⟩
      | Expire id' =>
          refine updated fun hid => ?_
          have hpending := found hfinds hid
          refine ⟨by rw [hpending]; exact .Expired, fun hdecided => ?_⟩
          rcases hdecided with h | h <;> rw [hpending] at h <;> cases h
      | LoadIdentity identityId => exact ⟨row, hrow, .refl row⟩
      | Approve id' identityId deviceId accessToken refreshToken =>
          refine updated fun hid => ?_
          have hpending := found hfinds hid
          refine ⟨by rw [hpending]; exact .Approved, fun hdecided => ?_⟩
          rcases hdecided with h | h <;> rw [hpending] at h <;> cases h
      | Consume id' =>
          refine updated fun hid => ?_
          have happroved := found hfinds.2 hid
          exact ⟨by rw [happroved]; exact .Consumed, fun _ => rfl⟩

/-- A request that is set to consumed is consumed. -/
lemma finds_consume {db : Db} {m : Moment} {id : Uuid}
    (hfinds : FindsStatus db m (.Consume id)) :
    Finds (exec (.Consume id) m db).2 id .Consumed := by
  obtain ⟨hm, row, hrow, -⟩ := hfinds
  simp only [exec, hm, effect]
  refine ⟨{ row with status := .Consumed }, ?_, rfl⟩
  rw [get?_updated, if_pos rfl, hrow]
  rfl

/-! ## A step -/

section Step

variable {ed : Ed25519} {state : AppState}

variable (ed state) in
/-- What a step changes is what its statement changes. -/
lemma store_step (s : Server) (l : Label Call Moment) :
    (step ed state s l).store = s.store
      ∨ ∃ call stmt m, executes s l = some (call, stmt, m)
        ∧ (step ed state s l).store = (exec stmt m s.store).2 := by
  have hsteps := steps_step QrLogin.exec (handle ed state) s l
  generalize hs' : Interleaving.step QrLogin.exec (handle ed state) s l = s' at hsteps
  rw [step, hs']
  cases hsteps with
  | Started call m => exact .inl rfl
  | Idle i m => exact .inl rfl
  | Executed i m call stmt k hthread hexecutes => exact .inr ⟨call, stmt, m, hexecutes, rfl⟩

theorem follows_step {s : Server} {l : Label Call Moment} (hguard : guard s l) {id : Uuid}
    {row : QrLoginRequest} (hrow : s.store.qrLoginRequests.get? id = some row) :
    ∃ row', (step ed state s l).store.qrLoginRequests.get? id = some row' ∧ Follows row row' := by
  rcases store_step ed state s l with heq | ⟨call, stmt, m, hexecutes, heq⟩
  · rw [heq]
    exact ⟨row, hrow, .refl row⟩
  · rw [heq]
    exact follows_exec (hguard call stmt m hexecutes) hrow

/-- Tokens are handed out by a poll that sets its request to consumed. -/
lemma emit_cases {s : Server} (hflowing : Flowing loginFlow s) (l : Label Call Moment) :
    emit ed state s l = [] ∨ ∃ call id m, executes s l = some (call, .Consume id, m)
      ∧ emit ed state s l = [id]
      ∧ (step ed state s l).store = (exec (.Consume id) m s.store).2 := by
  have hsteps := steps_step QrLogin.exec (handle ed state) s l
  generalize hs' : Interleaving.step QrLogin.exec (handle ed state) s l = s' at hsteps
  rw [step, hs', emit]
  cases hsteps with
  | Started call m =>
      refine .inl (List.filterMap_eq_nil_iff.mpr fun ⟨call', reply⟩ hmem => ?_)
      obtain ⟨-, hquiet⟩ := Thread.of_mem_finished (flows_handle ed state call m) hmem
      exact if_neg (by rw [hquiet]; exact Bool.false_ne_true)
  | Idle i m hnone hfinished => exact .inl (by rw [hfinished]; rfl)
  | Executed i m call stmt k hthread hexecutes hfinished =>
      rw [hfinished]
      have hflows := hflowing.advance hthread (exec stmt m s.store).1 m
      have hends : ∀ call' reply, (call', reply) ∈ (advance exec call stmt k m s.store).finished →
          call' = call ∧ (loginFlow call).ends stmt (exec stmt m s.store).1 reply :=
        fun _ _ => Thread.of_mem_finished (t := advance exec call stmt k m s.store) hflows
      generalize advance exec call stmt k m s.store = t at hends ⊢
      obtain ⟨call', rest⟩ := t
      cases rest with
      | Exec stmt' k' => exact .inl rfl
      | Done reply =>
          obtain ⟨rfl, hends⟩ := hends call' reply (List.mem_singleton_self _)
          cases htokens : bearsTokens reply with
          | false => exact .inl (by simp [Thread.finished, htokens])
          | true =>
              obtain ⟨id, rfl, hid⟩ := hends htokens
              exact .inr ⟨_, id, m, hexecutes, by simp [Thread.finished, htokens, hid], rfl⟩

end Step

/-! ## A run -/

section Run

variable {ed : Ed25519} {state : AppState}

lemma Moves.of_approved {status : QrLoginStatus} (h : Moves .Approved status) :
    status = .Approved ∨ status = .Consumed := by
  cases h with
  | Stays => exact .inl rfl
  | Consumed => exact .inr rfl

lemma Moves.of_consumed {status : QrLoginStatus} (h : Moves .Consumed status) :
    status = .Consumed := by
  cases h with
  | Stays => rfl

lemma Follows.decided {row row' : QrLoginRequest} (h : Follows row row') (hrow : Decided row) :
    Decided row' := by
  have hmoves := h.status
  rcases hrow with hstatus | hstatus <;> rw [hstatus] at hmoves
  · exact hmoves.of_approved
  · exact .inr hmoves.of_consumed

/-- What is approved stays as it is. -/
lemma content_run {s : Server} {ls : List (Label Call Moment)}
    (hunraced : Unraced ed state s ls) {id : Uuid} {row : QrLoginRequest}
    (hrow : s.store.qrLoginRequests.get? id = some row) (hdecided : Decided row) :
    ∃ row', (run ed state s ls).store.qrLoginRequests.get? id = some row' ∧ Decided row'
      ∧ content row' = content row := by
  refine Runs.preserved_guarded (P := fun s => ∃ row', s.store.qrLoginRequests.get? id = some row'
    ∧ Decided row' ∧ content row' = content row) ?_ ⟨row, hrow, hdecided, rfl⟩ hunraced
  rintro s l ⟨row', hrow', hdecided', hcontent⟩ hguard
  obtain ⟨row'', hrow'', hfollows⟩ := follows_step hguard hrow'
  exact ⟨row'', hrow'', hfollows.decided hdecided', (hfollows.kept hdecided').trans hcontent⟩

/-- Tokens have been handed out once at most, for requests that are consumed. -/
structure Once (past : List Uuid) (s : Server) : Prop where
  flowing : Flowing loginFlow s
  count : ∀ id, past.count id ≤ 1
  consumed : ∀ id ∈ past, Finds s.store id .Consumed

theorem Once.step {past : List Uuid} {s : Server} {l : Label Call Moment} (honce : Once past s)
    (hguard : guard s l) : Once (past ++ emit ed state s l) (step ed state s l) := by
  have hkept : ∀ id ∈ past, Finds (QrLogin.step ed state s l).store id .Consumed := by
    intro id hid
    obtain ⟨row, hrow, hstatus⟩ := honce.consumed id hid
    obtain ⟨row', hrow', hfollows⟩ := follows_step hguard hrow
    have hmoves := hfollows.status
    rw [hstatus] at hmoves
    exact ⟨row', hrow', hmoves.of_consumed⟩
  have hflowing : Flowing loginFlow (QrLogin.step ed state s l) :=
    honce.flowing.step (flows_handle ed state) l
  rcases emit_cases honce.flowing l with hnone | ⟨call, id, m, hexecutes, hemit, hstore⟩
  · rw [hnone, List.append_nil]
    exact ⟨hflowing, honce.count, hkept⟩
  · have hfinds := hguard call _ m hexecutes
    -- the request was approved, so that its tokens have not been handed out
    have hnew : id ∉ past := by
      intro hid
      obtain ⟨-, row, hrow, happroved⟩ := hfinds
      obtain ⟨row', hrow', hconsumed⟩ := honce.consumed id hid
      rw [Option.some.inj (hrow.symm.trans hrow'), hconsumed] at happroved
      cases happroved
    rw [hemit]
    refine ⟨hflowing, fun id' => ?_, fun id' hid' => ?_⟩
    · have hcount := honce.count id'
      rw [List.count_append, List.count_singleton]
      split_ifs with hsame
      · rw [eq_of_beq hsame] at hnew
        rw [List.count_eq_zero_of_not_mem hnew]
      · exact hcount
    · rcases List.mem_append.mp hid' with hold | hnow
      · exact hkept id' hold
      · rw [List.mem_singleton.mp hnow, hstore]
        exact finds_consume hfinds

/-- **Where no update is overtaken, requests are one-way and one-time.** Every handler reads the
status with one statement and writes it with another one that does not ask for it again; two polls
between which nothing is written would both hand out the token. -/
theorem oneWay_of_unraced {s : Server} {ls : List (Label Call Moment)} (hidle : s.threads = [])
    (hunraced : Unraced ed state s ls) : OneWay ed state s ls where
  moves := by
    rintro pre l post rfl id row hrow
    rw [run, Runs.exec_concat]
    exact follows_step hunraced.back.1 hrow
  kept := by
    rintro pre mid post rfl id row row' hrow hdecided hrow'
    rw [run, Runs.exec_append] at hrow'
    obtain ⟨row'', hrow'', -, hcontent⟩ := content_run hunraced.back.front hrow hdecided
    rw [Option.some.inj (hrow'.symm.trans hrow'')]
    exact hcontent
  once := by
    have hinit : Once [] s := by
      refine ⟨fun t ht => ?_, fun _ => by simp, fun _ h => nomatch h⟩
      rw [hidle] at ht
      cases ht
    exact (Runs.invariant_run (I := Once) hinit (fun _ _ _ h hguard => h.step hguard)
      hunraced.admits).count

end Run

/-! ## Two polls -/

namespace Sample

open Tombstone.Sample KeyBinding.Sample

def requestId : String := "00000000-0000-0000-0000-000000000001"

/-- A request that has been approved. -/
def approvedRow : QrLoginRequest where
  id := ⟨requestId⟩
  challenge := "c"
  status := .Approved
  desktopDeviceName := none
  desktopDevicePublicKey := none
  identityId := some "alice"
  approvedByDeviceId := some "phone"
  accessToken := some (.newAccessDeviceBound 0 ⟨"a"⟩ "alice" 1 "user" "phone")
  refreshToken := some (.newRefreshDeviceBound 0 ⟨"r"⟩ "alice" 30 "phone")
  expiresAt := 120000000

def server : Server where
  store := { registered with qrLoginRequests := ⟨[approvedRow], List.nodup_singleton _⟩ }
  threads := []

def moment : Moment where
  now := 0
  uuid _ := ⟨""⟩
  nonce := []
  failure := none

def poll : Label Call Moment := .Start (.Status requestId) moment

/-- The request is confirmed once more. -/
def secondConfirmation : QrLoginConfirmRequest where
  loginRequestId := requestId
  identityId := "alice"
  deviceId := "tablet"
  signingPublicKey := ""
  signature := ""

/-- Nothing comes between its statements. -/
theorem run_confirmQrLogin_approved : moment.failure = none
    ∧ (QrLogin.confirmQrLogin Ed25519.transparent oracle secondConfirmation).run exec
        (fun _ => moment) server.store
      = (.Confirmed (QrAuth.confirmQrLogin Ed25519.transparent oracle
            (Transfers.Sample.env ⟨""⟩) secondConfirmation server.store).1,
          (QrAuth.confirmQrLogin Ed25519.transparent oracle
            (Transfers.Sample.env ⟨""⟩) secondConfirmation server.store).2) :=
  ⟨rfl, run_confirmQrLogin Ed25519.transparent oracle secondConfirmation rfl rfl rfl server.store⟩

/-- **Two polls load the request before either sets it to consumed**: both get the tokens. -/
theorem not_oneWay : ¬ OneWay Ed25519.transparent oracle server
    [poll, poll, .Step 0 moment, .Step 1 moment, .Step 0 moment, .Step 1 moment] := by
  intro honeWay
  exact absurd (honeWay.once ⟨requestId⟩) (by decide +kernel)

/-- One poll after the other. -/
theorem oneWay_of_turns : OneWay Ed25519.transparent oracle server
    [poll, .Step 0 moment, .Step 0 moment, poll, .Step 1 moment] := by
  have hunraced : Unraced Ed25519.transparent oracle server
      [poll, .Step 0 moment, .Step 0 moment, poll, .Step 1 moment] := by decide +kernel
  exact oneWay_of_unraced rfl hunraced

end Sample

end Vaulted.QrLogin
