import Vaulted.Oracle.Tokens
import Vaulted.Qr.LoginOnce

/-!
# The token of a QR login and the desktop that asked for it

A desktop starts a QR login with its device fingerprint, a phone confirms it with its own, and the
desktop polls an access token, which it presents with the header `X-Device-Fingerprint`.

* `startVaultedQrLogin`, `confirmVaultedQrLogin` — what a desktop and a phone ask the Oracle for.
* `present` — a request with an access token and a header.
* `Event` — the logins opened, the approvals, and the tokens handed out in a run.
* `RequesterOnly` — every token handed out is good for the desktop, and for nobody else.
* `ConfirmedByRequester` — every login whose token is handed out was confirmed with the device id
  of the desktop, which can be sent in a header.
* `requesterOnly_iff` — that is the condition.
* `not_requesterOnly` — a phone confirms with a device id of its own.
-/

namespace Vaulted.RequesterToken

open Interleaving QrAuth QrLogin

/-! ## The devices -/

/-- The request of `start_vaulted_qr_login`. -/
def startVaultedQrLogin (hostname : Option String) (deviceFingerprint : String) :
    QrLoginStartRequest where
  desktopDeviceName := hostname
  desktopDevicePublicKey := some deviceFingerprint

/-- The message that `confirm_vaulted_qr_login` signs. -/
def signedMessage (oracleUrl deviceFingerprint loginRequestId challenge : String) : String :=
  "Vaulted QR Login v1\nlogin_request_id:" ++ loginRequestId ++ "\nchallenge:" ++ challenge
    ++ "\noracle_url:" ++ oracleUrl ++ "\ndevice_id:" ++ deviceFingerprint

/-- The request of `confirm_vaulted_qr_login`; `sign` signs with the key of the identity. -/
def confirmVaultedQrLogin (sign : List UInt8 → List UInt8)
    (identityId signingPublicKey oracleUrl deviceFingerprint loginRequestId challenge : String) :
    QrLoginConfirmRequest where
  loginRequestId := loginRequestId
  identityId := identityId
  deviceId := deviceFingerprint
  signingPublicKey := signingPublicKey
  signature := Text.hexEncode
    (sign (Text.utf8 (signedMessage oracleUrl deviceFingerprint loginRequestId challenge)))

/-! ## The header -/

/-- `HeaderValue::to_str`: visible ASCII characters and tabs only. -/
def toStr (value : String) : Option String :=
  if value.toList.all fun c => c == '\t' || (decide (32 ≤ c.toNat) && decide (c.toNat < 127)) then
    some value
  else none

/-- A request with an access token and, perhaps, the header `X-Device-Fingerprint`. -/
def present (env : StoreEnv) (token : Claims) (header : Option String) (stores : TokenStores) :
    Except Tokens.AuthError AuthenticatedUser :=
  Tokens.authenticate env (.ok token) (header.bind toStr) stores

/-- A fingerprint that the extractor can find in a header. -/
def IsHeader (d : String) : Prop := toStr d = some d ∧ d ≠ ""

instance (d : String) : Decidable (IsHeader d) :=
  inferInstanceAs (Decidable (toStr d = some d ∧ d ≠ ""))

/-- A token is good for the device `d` until it expires or is revoked, and for nobody else, whatever
they send for their fingerprint. -/
structure UsableOnlyBy (d : String) (token : Claims) : Prop where
  accepted : ∀ env stores, token.isExpired env.now = false →
    stores.isTokenBlacklisted env token.jti.text = false →
    present env token (some d) stores = .ok token.user
  rejected : ∀ env stores header, header ≠ some d → ∀ user,
    present env token header stores ≠ .ok user

lemma toStr_eq_some {value s : String} (h : toStr value = some s) : value = s := by
  unfold toStr at h
  split_ifs at h
  exact Option.some.inj h

/-- **A token that is bound to a device** is good with the fingerprint of this device. -/
theorem present_eq_ok_iff {env : StoreEnv} {token : Claims} {a : String} (htyp : token.typ = .Access)
    (hdfp : token.dfp = some a) {header : Option String} {stores : TokenStores}
    {user : AuthenticatedUser} : present env token header stores = .ok user
      ↔ token.isExpired env.now = false ∧ stores.isTokenBlacklisted env token.jti.text = false
        ∧ (header.bind toStr = some a ∧ a ≠ "") ∧ user = token.user := by
  have haccess : token.typ ≠ .Refresh := by simp [htyp]
  have hauth : present env token header stores
      = if token.isExpired env.now then .error .TokenExpired
        else if stores.isTokenBlacklisted env token.jti.text then .error .TokenRevoked
        else if (header.bind toStr).getD "" = "" then .error .DeviceMismatch
        else if (header.bind toStr).getD "" = a then .ok token.user
        else .error .DeviceMismatch := by
    unfold present Tokens.authenticate Tokens.verifyToken
    by_cases hlive : token.isExpired env.now = true
    · simp only [bind, Except.bind, hlive, if_true]
    · simp only [bind, Except.bind, if_neg hlive, if_neg haccess, hdfp, Text.isEmpty_iff]
  rw [hauth]
  generalize header.bind toStr = found
  split_ifs with hlive hgood hnone hbound
  · simp [hlive]
  · simp [hgood]
  · refine iff_of_false (by simp) fun ⟨_, _, ⟨hfound, hne⟩, _⟩ => hne ?_
    rwa [hfound] at hnone
  · cases found with
    | none => exact absurd rfl hnone
    | some value =>
        obtain rfl : value = a := hbound
        simpa [hlive, hgood, eq_comm] using fun _ => hnone
  · refine iff_of_false (by simp) fun ⟨_, _, ⟨hfound, _⟩, _⟩ => hbound ?_
    rw [hfound]
    rfl

theorem usableOnlyBy_iff {token : Claims} {a d : String} (htyp : token.typ = .Access)
    (hdfp : token.dfp = some a) : UsableOnlyBy d token ↔ a = d ∧ IsHeader d := by
  constructor
  · intro h
    have hlive : token.isExpired 0 = false := by simp [Claims.isExpired, Time.timestamp]
    have hok := h.accepted ⟨0, 0, fun _ => true, fun _ => true, 0⟩ (.empty false) hlive rfl
    obtain ⟨-, -, ⟨hheader, hne⟩, -⟩ := (present_eq_ok_iff htyp hdfp).mp hok
    obtain rfl := toStr_eq_some hheader
    exact ⟨rfl, hheader, hne⟩
  · rintro ⟨rfl, hheader, hne⟩
    refine ⟨fun env stores hlive hgood => ?_, fun env stores header hother user hok => ?_⟩
    · exact (present_eq_ok_iff htyp hdfp).mpr ⟨hlive, hgood, ⟨hheader, hne⟩, rfl⟩
    · obtain ⟨-, -, ⟨hfound, -⟩, -⟩ := (present_eq_ok_iff htyp hdfp).mp hok
      obtain ⟨value, rfl, hvalue⟩ := Option.bind_eq_some_iff.mp hfound
      exact hother (congrArg some (toStr_eq_some hvalue))

/-! ## What happens in a run -/

inductive Event
  /-- A login has been opened with the key of a desktop. -/
  | Opened (id : Uuid) (desktopDevicePublicKey : Option String)
  /-- A device has confirmed a login, and the token has been stored. -/
  | Approved (id : Uuid) (deviceId : String) (accessToken : Claims)
  /-- A poll has been answered with the token. -/
  | Delivered (id : Uuid) (accessToken : Claims)
  deriving DecidableEq

/-- What a statement of a call does. -/
def executed (db : Db) : Call → Statement → Moment → List Event
  | .Start req, .Insert row, m =>
      match (exec (.Insert row) m db).1 with
      | .ok _ => [.Opened row.id req.desktopDevicePublicKey]
      | .error _ => []
  | .Confirm req, .Approve id _ _ accessToken _, m =>
      if m.failure = none then [.Approved id req.deviceId accessToken] else []
  | _, _, _ => []

/-- What an answer hands out. -/
def delivered : Call × Reply → Option (Uuid × Claims)
  | (.Status loginRequestId, .Status (.ok r)) => do
      let id ← parseUuid loginRequestId
      let accessToken ← r.accessToken
      pure (id, accessToken)
  | _ => none

section System

variable (ed : Ed25519) (state : AppState)

/-- The events of a step. -/
def events (s : QrLogin.Server) (l : Label Call Moment) : List Event :=
  ((executes s l).toList.flatMap fun (call, stmt, m) => executed s.store call stmt m)
    ++ ((finished QrLogin.exec (handle ed state) s l).filterMap delivered).map
      fun (id, accessToken) => .Delivered id accessToken

/-- The events of a run. -/
abbrev history (s : QrLogin.Server) (ls : List (Label Call Moment)) : List Event :=
  Runs.history (step ed state) (events ed state) s ls

/-- An Oracle that has not been asked for a QR login yet. -/
def fresh (db : Db) : QrLogin.Server where
  store := { db with qrLoginRequests := .empty }
  threads := []

/-- Every token that is handed out is good for the desktop that opened the login, and for nobody
else. -/
def RequesterOnly (db : Db) (ls : List (Label Call Moment)) : Prop :=
  ∀ id d token, .Opened id (some d) ∈ history ed state (fresh db) ls →
    .Delivered id token ∈ history ed state (fresh db) ls → UsableOnlyBy d token

/-- Every login whose token is handed out was confirmed with the device id of the desktop. -/
def ConfirmedByRequester (db : Db) (ls : List (Label Call Moment)) : Prop :=
  ∀ id d a token, .Opened id (some d) ∈ history ed state (fresh db) ls →
    .Approved id a token ∈ history ed state (fresh db) ls →
    .Delivered id token ∈ history ed state (fresh db) ls → a = d ∧ IsHeader d

end System

/-! ## The handlers -/

/-- A login is opened without a token, and approved with one that is bound to the device that
confirms it. -/
def Admitted : Call → Statement → Prop
  | .Start _, .Insert row => row.accessToken = none
  | .Confirm req, .Approve _ _ _ accessToken _ =>
      accessToken.typ = .Access ∧ accessToken.dfp = some req.deviceId
  | _, .Insert _ => False
  | _, .Approve _ _ _ _ _ => False
  | _, _ => True

def issueFlow (call : Call) : Flow Answer Reply where
  begins := Admitted call
  refuses _ := True
  next _ _ := Admitted call
  ends _ _ _ := True

lemma flows_handle (ed : Ed25519) (state : AppState) (call : Call) (m : Moment) :
    (handle ed state call m).Flows (issueFlow call) (issueFlow call).refuses
      (issueFlow call).begins := by
  cases call with
  | Start req => exact ⟨rfl, fun _ _ => Proc.flows_check (fun _ _ => trivial) fun _ _ => trivial⟩
  | Confirm req =>
      refine Proc.flows_check (fun _ _ => trivial) fun loginId _ => ⟨trivial, fun qrRow? m => ?_⟩
      refine Proc.flows_check (fun _ _ => trivial) fun qrRow? _ => ?_
      refine Proc.flows_check (fun _ _ => trivial) fun qrRow _ => ?_
      split
      · split_ifs
        · exact ⟨trivial, fun _ _ => trivial⟩
        · trivial
      · refine ⟨trivial, fun identity? m => ?_⟩
        refine Proc.flows_check (fun _ _ => trivial) fun identity? _ => ?_
        refine Proc.flows_check (fun _ _ => trivial) fun identity _ => ?_
        refine Proc.flows_check (fun _ _ => trivial) fun _ _ => ?_
        refine Proc.flows_check (fun _ _ => trivial) fun _ _ => ⟨⟨rfl, rfl⟩, fun approved _ => ?_⟩
        exact Proc.flows_check (fun _ _ => trivial) fun _ _ => trivial
  | Status loginRequestId =>
      refine Proc.flows_check (fun _ _ => trivial) fun loginId _ => ⟨trivial, fun row? m => ?_⟩
      refine Proc.flows_check (fun _ _ => trivial) fun row? _ => ?_
      refine Proc.flows_check (fun _ _ => trivial) fun row _ => ?_
      split_ifs
      · exact ⟨trivial, fun _ _ => trivial⟩
      · exact ⟨trivial, fun _ _ => trivial⟩
      · trivial

/-- The token that a poll finds in the row of its request. -/
def found : Call → (stmt : Statement) → Answer stmt → List (Uuid × Claims)
  | .Status _, .Load id, .ok (some row) => row.accessToken.toList.map (id, ·)
  | _, _, _ => []

lemma delivered_eq_some {loginRequestId : String} {r : QrLoginStatusResponse} {id : Uuid}
    {token : Claims} (h : delivered (.Status loginRequestId, .Status (.ok r)) = some (id, token)) :
    parseUuid loginRequestId = some id ∧ r.accessToken = some token := by
  simpa [delivered, Option.bind_eq_some_iff] using h

/-- An answer hands out a token that has been found. -/
def HandsOutFound (call : Call) (entries : List (Uuid × Claims)) (reply : Reply) : Prop :=
  ∀ entry, delivered (call, reply) = some entry → entry ∈ entries

lemma accounts_handle (ed : Ed25519) (state : AppState) (call : Call) (m : Moment) :
    (handle ed state call m).Accounts (fun _ _ => True) (found call) (HandsOutFound call) [] := by
  cases call with
  | Start req => exact Proc.accounts_of_agrees (fun _ _ _ h => nomatch h) [] _
  | Confirm req => exact Proc.accounts_of_agrees (fun _ _ _ h => nomatch h) [] _
  | Status loginRequestId =>
      refine Proc.accounts_check (fun _ _ _ h => nomatch h) fun loginId hid row? m _ => ?_
      refine Proc.accounts_check (fun _ _ _ h => nomatch h) fun row? hrow => ?_
      refine Proc.accounts_check (fun _ _ _ h => nomatch h) fun row hsome => ?_
      obtain rfl := Pre.eq_ok_of_mapErr hrow
      obtain rfl := okOr_eq_ok hsome
      have hid := okOr_eq_ok hid
      split_ifs
      · rintro _ _ _ ⟨id, token⟩ h
        cases (delivered_eq_some h).2
      · rintro _ _ _ ⟨id, token⟩ h
        obtain ⟨hid', htoken⟩ := delivered_eq_some h
        obtain rfl := Option.some.inj (hid.symm.trans hid')
        have htoken : row.accessToken = some token := htoken
        simp [found, htoken]
      · rintro ⟨id, token⟩ h
        cases (delivered_eq_some h).2

/-! ## A statement -/

/-- A stored token comes from an approval. -/
def Stored (past : List Event) (db : Db) : Prop :=
  ∀ id row token, db.qrLoginRequests.get? id = some row → row.accessToken = some token →
    ∃ a, .Approved id a token ∈ past

lemma Stored.append {past : List Event} {db : Db} (h : Stored past db) (now : List Event) :
    Stored (past ++ now) db := by
  intro id row token hrow htoken
  obtain ⟨a, happroved⟩ := h id row token hrow htoken
  exact ⟨a, List.mem_append_left _ happroved⟩

/-- An update that keeps the token of a row, or stores one that has been approved. -/
lemma Stored.update {past : List Event} {db : Db} (h : Stored past db) {id : Uuid}
    {f : QrLoginRequest → QrLoginRequest} {hf : ∀ r, (f r).id = r.id}
    (htoken : ∀ row token, (f row).accessToken = some token →
      row.accessToken = some token ∨ ∃ a, .Approved id a token ∈ past) :
    Stored past (update id f hf db) := by
  intro id' row token hrow hstored
  rw [get?_updated] at hrow
  split_ifs at hrow with hid
  · obtain ⟨old, hold, rfl⟩ := Option.map_eq_some_iff.mp hrow
    rw [hid]
    rcases htoken old token hstored with hkept | happroved
    · exact h id old token hold hkept
    · exact happroved
  · exact h id' row token hrow hstored

/-- **A statement stores the tokens of approvals only.** -/
theorem stored_exec {past : List Event} {db : Db} (h : Stored past db) {call : Call}
    {stmt : Statement} (hadmitted : Admitted call stmt) (m : Moment) :
    Stored (past ++ executed db call stmt m) (exec stmt m db).2 := by
  have hpast := h.append (executed db call stmt m)
  generalize hnow : executed db call stmt m = now at hpast ⊢
  unfold exec
  cases hm : m.failure with
  | some e => exact hpast
  | none =>
      cases stmt with
      | Insert new =>
          cases call with
          | Start req =>
              simp only [effect]
              cases hinsert : db.qrLoginRequests.insert? new with
              | none => exact hpast
              | some qrLoginRequests =>
                  intro id row token hrow htoken
                  rw [Table.get?_insert hinsert id] at hrow
                  split_ifs at hrow with hid
                  · -- a new request has no token
                    obtain rfl := Option.some.inj hrow
                    have hnone : new.accessToken = none := hadmitted
                    rw [hnone] at htoken
                    cases htoken
                  · exact hpast id row token hrow htoken
          | Confirm req => cases hadmitted
          | Status loginRequestId => cases hadmitted
      | Load id => exact hpast
      | Expire id => exact hpast.update fun _ _ => .inl
      | LoadIdentity identityId => exact hpast
      | Approve id identityId deviceId accessToken refreshToken =>
          cases call with
          | Start req => cases hadmitted
          | Confirm req =>
              refine hpast.update fun row token htoken => .inr ⟨req.deviceId, ?_⟩
              obtain rfl := Option.some.inj htoken
              rw [← hnow, executed, if_pos hm]
              exact List.mem_append_right _ (List.mem_singleton_self _)
          | Status loginRequestId => cases hadmitted
      | Consume id => exact hpast.update fun _ _ => .inl

/-- The token of an approval is bound to the device that approves it. -/
lemma bound_of_executed {db : Db} {call : Call} {stmt : Statement} {m : Moment}
    (hadmitted : Admitted call stmt) {id : Uuid} {a : String} {token : Claims}
    (h : .Approved id a token ∈ executed db call stmt m) :
    token.typ = .Access ∧ token.dfp = some a := by
  unfold executed at h
  split at h
  · split at h
    · cases List.mem_singleton.mp h
    · cases h
  · split_ifs at h
    · cases List.mem_singleton.mp h
      exact hadmitted
    · cases h
  · cases h

lemma delivered_not_mem_executed {db : Db} {call : Call} {stmt : Statement} {m : Moment}
    {id : Uuid} {token : Claims} : .Delivered id token ∉ executed db call stmt m := by
  unfold executed
  split
  · split <;> simp
  · split_ifs <;> simp
  · simp

/-- What a poll finds is in the table. -/
lemma row_of_found {db : Db} {call : Call} {stmt : Statement} {m : Moment} {id : Uuid}
    {token : Claims} (h : (id, token) ∈ found call stmt (exec stmt m db).1) :
    ∃ row, db.qrLoginRequests.get? id = some row ∧ row.accessToken = some token := by
  cases call with
  | Start req => cases h
  | Confirm req => cases h
  | Status loginRequestId =>
      cases stmt with
      | Load id' =>
          unfold exec effect at h
          cases hm : m.failure with
          | some e => simp [hm, found] at h
          | none =>
              cases hrow : db.qrLoginRequests.get? id' with
              | none => simp [hm, hrow, found] at h
              | some row =>
                  obtain ⟨htoken, rfl⟩ : row.accessToken = some token ∧ id' = id := by
                    simpa [hm, hrow, found] using h
                  exact ⟨row, hrow, htoken⟩
      | Insert row => cases h
      | Expire id' => cases h
      | LoadIdentity identityId => cases h
      | Approve id' identityId deviceId accessToken refreshToken => cases h
      | Consume id' => cases h

/-! ## A run -/

/-- What has been approved is bound to the device that approved it, and what is stored has been
approved. -/
structure Issued (past : List Event) (s : QrLogin.Server) : Prop where
  flowing : Flowing issueFlow s
  bound : ∀ id a token, .Approved id a token ∈ past → token.typ = .Access ∧ token.dfp = some a
  stored : Stored past s.store

section Run

variable {ed : Ed25519} {state : AppState}

/-- An approval in a step is one by the statement that is executed. -/
lemma approved_mem_events {s : QrLogin.Server} {l : Label Call Moment} {id : Uuid} {a : String}
    {token : Claims} : .Approved id a token ∈ events ed state s l
      ↔ ∃ call stmt m, executes s l = some (call, stmt, m)
        ∧ .Approved id a token ∈ executed s.store call stmt m := by
  simp [events]

lemma Issued.step {past : List Event} {s : QrLogin.Server} (h : Issued past s)
    (l : Label Call Moment) : Issued (past ++ events ed state s l) (step ed state s l) := by
  have hflowing : Flowing issueFlow (QrLogin.step ed state s l) :=
    h.flowing.step (flows_handle ed state) l
  have hadmitted : ∀ {call : Call} {stmt : Statement} {m : Moment},
      executes s l = some (call, stmt, m) → Admitted call stmt := by
    intro call stmt m hexecutes
    rcases h.flowing.of_executes hexecutes with hbegins | ⟨_, _, hnext⟩
    · exact hbegins
    · exact hnext
  refine ⟨hflowing, fun id a token happroved => ?_, ?_⟩
  · rcases List.mem_append.mp happroved with hpast | hnow
    · exact h.bound id a token hpast
    · obtain ⟨call, stmt, m, hexecutes, hnow⟩ := approved_mem_events.mp hnow
      exact bound_of_executed (hadmitted hexecutes) hnow
  · rcases store_step ed state s l with heq | ⟨call, stmt, m, hexecutes, heq⟩
    · rw [heq]
      exact h.stored.append _
    · rw [heq, events, hexecutes, ← List.append_assoc]
      simpa using (stored_exec h.stored (hadmitted hexecutes) m).append _

variable (ed state) in
lemma issued_run (db : Db) (ls : List (Label Call Moment)) :
    Issued (history ed state (fresh db) ls) (run ed state (fresh db) ls) := by
  induction ls using List.reverseRecOn with
  | nil =>
      refine ⟨fun t ht => ?_, fun id a token happroved => ?_, fun id row token hrow => ?_⟩
      · cases ht
      · cases happroved
      · cases hrow
  | append_singleton ls l ih =>
      rw [history, Runs.history_concat, run, Runs.exec_concat]
      exact ih.step l

/-- A poll finds a token that has been approved. -/
lemma approved_of_found {db : Db} {ls : List (Label Call Moment)} {i : Nat} {id : Uuid}
    {token : Claims}
    (h : (i, id, token) ∈ Runs.history (step ed state) (logged QrLogin.exec found) (fresh db) ls) :
    ∃ a, .Approved id a token ∈ history ed state (fresh db) ls := by
  obtain ⟨pre, l, post, rfl, hlogged⟩ := (Runs.mem_history _ _).mp h
  obtain ⟨row, hrow, htoken⟩ : ∃ row,
      (run ed state (fresh db) pre).store.qrLoginRequests.get? id = some row
        ∧ row.accessToken = some token := by
    cases l with
    | Start call m => cases hlogged
    | Step j m =>
        simp only [logged] at hlogged
        split at hlogged
        · obtain ⟨entry, hfound, hentry⟩ := List.mem_map.mp hlogged
          cases hentry
          exact row_of_found hfound
        · cases hlogged
        · cases hlogged
  obtain ⟨a, happroved⟩ := (issued_run ed state db pre).stored id row token hrow htoken
  refine ⟨a, ?_⟩
  rw [history, Runs.history_append]
  exact List.mem_append_left _ happroved

/-- **Every token that is handed out comes from an approval of its login**, and is bound to the
device that approved it. -/
theorem approved_of_delivered {db : Db} {ls : List (Label Call Moment)} {id : Uuid} {token : Claims}
    (h : .Delivered id token ∈ history ed state (fresh db) ls) :
    ∃ a, .Approved id a token ∈ history ed state (fresh db) ls := by
  obtain ⟨pre, l, post, rfl, hevent⟩ := (Runs.mem_history _ _).mp h
  obtain ⟨call, reply, hfinished, hdelivered⟩ : ∃ call reply,
      (call, reply) ∈ finished QrLogin.exec (handle ed state) (run ed state (fresh db) pre) l
        ∧ delivered (call, reply) = some (id, token) := by
    rcases List.mem_append.mp hevent with hexecuted | hanswered
    · obtain ⟨⟨call, stmt, m⟩, -, hexecuted⟩ := List.mem_flatMap.mp hexecuted
      exact absurd hexecuted delivered_not_mem_executed
    · simpa using hanswered
  obtain ⟨i, hdone⟩ := getElem?_of_finished hfinished
  have hdone : (run ed state (fresh db) (pre ++ [l])).threads[i]? = some ⟨call, .Done reply⟩ := by
    rw [run, Runs.exec_concat]
    exact hdone
  have haccounts := (accounts_run (fun _ _ _ => trivial) (accounts_handle ed state) _
    (pre ++ [l])).threads i _ hdone
  obtain ⟨a, happroved⟩ := approved_of_found (mem_entriesOf.mp (haccounts _ hdelivered))
  refine ⟨a, ?_⟩
  rw [List.append_cons, history, Runs.history_append]
  exact List.mem_append_left _ happroved

variable (ed state) in
/-- **A QR login yields a token for the requesting desktop alone** if and only if it is confirmed
with the device id of the desktop. The token is bound to the device that confirms; the one that has
asked is stored, and never read. -/
theorem requesterOnly_iff (db : Db) (ls : List (Label Call Moment)) :
    RequesterOnly ed state db ls ↔ ConfirmedByRequester ed state db ls := by
  have husable : ∀ {id a d token}, .Approved id a token ∈ history ed state (fresh db) ls →
      (UsableOnlyBy d token ↔ a = d ∧ IsHeader d) := by
    intro id a d token happroved
    obtain ⟨htyp, hdfp⟩ := (issued_run ed state db ls).bound id a token happroved
    exact usableOnlyBy_iff htyp hdfp
  constructor
  · intro h id d a token hopened happroved hdelivered
    exact (husable happroved).mp (h id d token hopened hdelivered)
  · intro h id d token hopened hdelivered
    obtain ⟨a, happroved⟩ := approved_of_delivered hdelivered
    exact (husable happroved).mpr (h id d a token hopened happroved hdelivered)

end Run

/-! ## A phone of its own -/

namespace Sample

open Tombstone.Sample KeyBinding.Sample RecipientKey.Sample

def loginId : String := "00000000-0000-0000-0000-000000000001"

def moment : Moment where
  now := 0
  uuid _ := ⟨loginId⟩
  nonce := []
  failure := none

/-- Alice confirms with a device. -/
def confirmation (deviceId : String) : QrLoginConfirmRequest :=
  confirmVaultedQrLogin (Ed25519.sign (signingKey 1)) "alice" (Text.hexEncode (signingKey 1))
    (oracleUrl oracle) deviceId loginId ""

/-- A desktop opens a login, a device confirms it, and the desktop polls. -/
def login (deviceId : String) : List (Label Call Moment) :=
  [.Start (.Start (startVaultedQrLogin none "desktop")) moment, .Step 0 moment,
    .Start (.Confirm (confirmation deviceId)) moment, .Step 1 moment, .Step 1 moment,
    .Step 1 moment,
    .Start (.Status loginId) moment, .Step 2 moment, .Step 2 moment]

/-- The access token of the login. -/
def token (deviceId : String) : Claims :=
  .newAccessDeviceBound 0 ⟨loginId⟩ "alice" oracle.jwtExpirationHours "user" deviceId

/-- **The phone confirms with its own device id**, and the desktop gets a token that is no good
for it. -/
theorem not_requesterOnly :
    ¬ RequesterOnly Ed25519.transparent oracle registered (login "phone") := by
  intro honly
  have husable := honly ⟨loginId⟩ "desktop" (token "phone") (by decide +kernel) (by decide +kernel)
  have hsame := ((usableOnlyBy_iff rfl rfl).mp husable).1
  exact absurd hsame (by decide)

/-- The token of a login that the desktop confirms itself is delivered too. -/
example : .Delivered ⟨loginId⟩ (token "desktop") ∈ history Ed25519.transparent oracle
    (fresh registered) (login "desktop") ∧ IsHeader "desktop" := by decide +kernel

end Sample

end Vaulted.RequesterToken
