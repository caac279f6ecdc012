import Vaulted.Desktop.OracleClient

/-!
# A refresh does not log the user out

Calls that run at the same time may have read the same refresh token.

* `Event` — tokens are received from the Oracle, or stored in the session.
* `StaysLoggedIn` — a refresh token that a call has stored stays in the session until it is used,
  and when all calls are done the session has the newest tokens.
* `Undisturbed` — what a call relies on when it clears tokens: those in the session are still the
  ones that it has read, and the Oracle has refused them.
* `sessionFlow` — what follows which statement.
* `staysLoggedIn_of_undisturbed` — that is enough.
* `not_staysLoggedIn` — of two calls, one clears what the other one has stored.
-/

namespace Vaulted.OracleClient

open Interleaving

/-! ## What is observed -/

inductive Event
  | Received (response : RefreshResponse)
  | Stored (response : RefreshResponse)
  deriving DecidableEq

/-- What a statement tells. -/
def told (s : Memory) : Statement → Moment → List Event
  | .Refresh refreshToken, m =>
      match (exec (.Refresh refreshToken) m s).1 with
      | .ok response => [.Received response]
      | .error _ => []
  | .UpdateTokens response, _ => [.Stored response]
  | .GetSession, _ => []
  | .Clear _ _, _ => []

def events (s : Client) (l : Label Unit Moment) : List Event :=
  match executes s l with
  | some (_, stmt, m) => told s.store stmt m
  | none => []

abbrev history (s : Client) (ls : List (Label Unit Moment)) : List Event :=
  Runs.history step events s ls

/-- The tokens that were received last. -/
def newest (h : List Event) : Option RefreshResponse :=
  (h.filterMap fun
    | .Received response => some response
    | .Stored _ => none).getLast?

/-- The refresh token of the session. -/
def Memory.refreshToken (s : Memory) : Option String := s.session.bind (·.refreshToken)

/-- The session has the tokens of an answer, and they are good. -/
def Memory.Has (s : Memory) (response : RefreshResponse) : Prop :=
  (s.session.bind (·.oracleToken)) = some response.accessToken
    ∧ ∃ token ∈ s.oracle.live, response.refreshToken = some token ∧ s.refreshToken = some token

/-- A refresh token that is good before and after a step is in the session after the step. -/
def Keeps (token : String) (s s' : Memory) : Prop :=
  token ∈ s.oracle.live → token ∈ s'.oracle.live → s.refreshToken = some token →
    s'.refreshToken = some token

/-- A token that has been stored stays in the session while it is good; and once every call is done,
the session has the tokens that have come last. -/
structure StaysLoggedIn (s : Client) (ls : List (Label Unit Moment)) : Prop where
  kept : ∀ pre l post, ls = pre ++ l :: post → ∀ response token,
    .Stored response ∈ history s pre → response.refreshToken = some token →
      Keeps token (Runs.exec step s pre).store (Runs.exec step s (pre ++ [l])).store
  newest : (∀ t ∈ (Runs.exec step s ls).threads, t.next = none) →
    ∀ response, OracleClient.newest (history s ls) = some response →
      (Runs.exec step s ls).store.Has response

/-! ## The condition -/

/-- A session, and no call yet; what it has for a refresh token comes from the Oracle. -/
structure Starts (s : Client) : Prop where
  idle : s.threads = []
  session : s.store.session.isSome = true
  live : ∀ token ∈ s.store.oracle.live, token ∈ s.store.oracle.issued
  issued : ∀ token ∈ s.store.refreshToken, token ∈ s.store.oracle.issued

/-- The Oracle does not issue a refresh token twice. -/
def Fresh (s : Memory) (m : Moment) : Statement → Prop
  | .Refresh _ => m.new.refreshToken ∉ s.oracle.issued
  | _ => True

/-- A request is answered by the Oracle, and does not get lost with the tokens in it; what is
cleared is what the call has read. -/
def Undisturbed (s : Memory) (m : Moment) : Statement → Prop
  | .Refresh _ => m.network = .Answered
  | .Clear _ read => ∀ token ∈ s.refreshToken, read.refreshToken = some token
  | _ => True

instance (s : Memory) (m : Moment) : (stmt : Statement) → Decidable (Undisturbed s m stmt)
  | .Refresh _ => inferInstanceAs (Decidable (m.network = .Answered))
  | .Clear _ read =>
      inferInstanceAs (Decidable (∀ token ∈ s.refreshToken, read.refreshToken = some token))
  | .GetSession | .UpdateTokens _ => inferInstanceAs (Decidable True)

instance (s : Memory) (m : Moment) : (stmt : Statement) → Decidable (Fresh s m stmt)
  | .Refresh _ => inferInstanceAs (Decidable (m.new.refreshToken ∉ s.oracle.issued))
  | .GetSession | .UpdateTokens _ | .Clear _ _ => inferInstanceAs (Decidable True)

/-- A condition on the statement that a step executes. -/
def guard (P : Memory → Moment → Statement → Prop) (s : Client) (l : Label Unit Moment) : Prop :=
  ∀ p ∈ executes s l, P s.store p.2.2 p.2.1

instance (P : Memory → Moment → Statement → Prop) [∀ s m stmt, Decidable (P s m stmt)] (s : Client)
    (l : Label Unit Moment) : Decidable (guard P s l) :=
  inferInstanceAs (Decidable (∀ p ∈ executes s l, P s.store p.2.2 p.2.1))

/-! ## The flow -/

/-- What follows a statement. -/
def Next : (stmt : Statement) → Answer stmt → Statement → Prop
  | .GetSession, .ok session, stmt =>
      (∃ token, session.refreshToken = some token ∧ stmt = .Refresh token)
        ∨ session.refreshToken = none ∧ stmt = .Clear .OracleToken session
  | .GetSession, .error _, _ => False
  | .Refresh _, .ok response, stmt => stmt = .UpdateTokens response
  | .Refresh token, .error _, stmt =>
      ∃ what read, read.refreshToken = some token ∧ stmt = .Clear what read
  | .UpdateTokens _, _, _ => False
  | .Clear _ read, _, stmt => stmt = .Clear .OracleToken read

def sessionFlow : Flow Answer Reply where
  begins stmt := stmt = .GetSession
  refuses _ := False
  next := Next
  ends
    | .Refresh _, _, _ => False
    | _, _, _ => True

/-- **Every call follows the flow.** -/
theorem flows_getOracleClient :
    getOracleClient.Flows sessionFlow sessionFlow.refuses sessionFlow.begins := by
  refine ⟨rfl, fun session m => ?_⟩
  cases (session : Except ClientError Session) with
  | error e => exact trivial
  | ok session =>
      have refreshing : ∀ {token} {failed : Rest}, session.refreshToken = some token →
          (∀ e, failed.Flows sessionFlow (fun _ => False) (Next (.Refresh token) (.error e))) →
          Proc.Flows sessionFlow (fun _ => True) (Next .GetSession (.ok session))
            (.Exec (.Refresh token) fun answer _ =>
              match answer with
              | .ok response =>
                  .Exec (.UpdateTokens response) fun _ _ => .Done (.ok (some response.accessToken))
              | .error _ => failed) := by
        intro token failed htoken hfailed
        refine ⟨.inl ⟨token, htoken, rfl⟩, fun answer m => ?_⟩
        cases (answer : Except String RefreshResponse) with
        | ok response => exact ⟨rfl, fun _ _ => trivial⟩
        | error e => exact hfailed e
      dsimp only
      cases session.oracleToken with
      | none => exact trivial
      | some token =>
          dsimp only
          split_ifs
          · rw [refreshExpired]
            cases htoken : session.refreshToken with
            | none => exact ⟨.inr ⟨htoken, rfl⟩, fun _ _ => trivial⟩
            | some refreshToken =>
                exact refreshing htoken fun e => ⟨⟨_, session, htoken, rfl⟩, fun _ _ => trivial⟩
          · rw [refreshProactively]
            cases htoken : session.refreshToken with
            | none => exact trivial
            | some refreshToken =>
                refine refreshing htoken fun e => ⟨⟨_, session, htoken, rfl⟩, fun _ m => ?_⟩
                dsimp only
                split_ifs
                · exact trivial
                · exact ⟨rfl, fun _ _ => trivial⟩
          · exact trivial

/-! ## A statement -/

section Statements

variable {h : List Event} {s : Memory} {m : Moment} {stmt stmt' : Statement}

@[simp] lemma newest_nil : newest [] = none := rfl

@[simp] lemma newest_received (response : RefreshResponse) :
    newest (h ++ [.Received response]) = some response := by simp [newest]

@[simp] lemma newest_stored (response : RefreshResponse) :
    newest (h ++ [.Stored response]) = newest h := by simp [newest]

/-- What is true while a call is about to execute a statement: a refresh token that it is about to
use is that of the session, unless it has been used; one that it has received is not yet in the
session; and one that has been refused is no good. -/
def Waits (h : List Event) (s : Memory) : Statement → Prop
  | .GetSession => True
  | .Refresh token => token ∈ s.oracle.issued
      ∧ (token ∈ s.oracle.live → s.refreshToken = some token)
  | .UpdateTokens response => newest h = some response
      ∧ (∃ token ∈ s.oracle.live, response.refreshToken = some token)
      ∧ ∀ token ∈ s.refreshToken, token ∉ s.oracle.live
  | .Clear _ read => ∀ token, read.refreshToken = some token →
      token ∈ s.oracle.issued ∧ token ∉ s.oracle.live

/-- The tokens of the session and of the Oracle. -/
structure Stock (s : Memory) : Prop where
  session : s.session.isSome = true
  live : ∀ token ∈ s.oracle.live, token ∈ s.oracle.issued
  issued : ∀ token ∈ s.refreshToken, token ∈ s.oracle.issued

lemma exec_getSession : (exec .GetSession m s).2 = s := by
  rw [exec]
  cases s.session <;> rfl

/-- What an answered refresh does. -/
inductive Refreshes (s : Memory) (m : Moment) (token : String) : Prop
  | Refused (hused : token ∉ s.oracle.live) (e : String)
      (hanswer : (exec (.Refresh token) m s).1 = .error e)
      (hstore : (exec (.Refresh token) m s).2 = s) (htold : told s (.Refresh token) m = [])
  | Accepted (hlive : token ∈ s.oracle.live)
      (hanswer : (exec (.Refresh token) m s).1 = .ok m.new.response)
      (hstore : (exec (.Refresh token) m s).2 = { s with
        oracle :=
          { issued := m.new.refreshToken :: s.oracle.issued
            live := m.new.refreshToken :: s.oracle.live.filter (· ≠ token) } })
      (htold : told s (.Refresh token) m = [.Received m.new.response])

lemma refreshes {token : String} (hanswered : m.network = .Answered) : Refreshes s m token := by
  by_cases hlive : token ∈ s.oracle.live
  · have hexec : exec (.Refresh token) m s = (.ok m.new.response, { s with
        oracle :=
          { issued := m.new.refreshToken :: s.oracle.issued
            live := m.new.refreshToken :: s.oracle.live.filter (· ≠ token) } }) := by
      simp only [exec, hanswered, Oracle.refresh, if_pos hlive]
    exact .Accepted hlive (by rw [hexec]) (by rw [hexec]) (by rw [told, hexec])
  · have hexec : exec (.Refresh token) m s
        = (.error "Refresh failed: HTTP 401 Unauthorized", s) := by
      simp only [exec, hanswered, Oracle.refresh, if_neg hlive]
    exact .Refused hlive _ (by rw [hexec]) (by rw [hexec]) (by rw [told, hexec])

lemma refreshToken_updateTokens {response : RefreshResponse} {token : String}
    (hsession : s.session.isSome = true) (htoken : response.refreshToken = some token) :
    (exec (.UpdateTokens response) m s).2.refreshToken = some token := by
  obtain ⟨session, hsession⟩ := Option.isSome_iff_exists.mp hsession
  simp only [exec, Memory.refreshToken, hsession, Option.map_some, Option.bind_some,
    Session.updateTokens, htoken, Option.some_or]

lemma refreshToken_clear {what : Cleared} {read : Session} {token : String}
    (h : (exec (.Clear what read) m s).2.refreshToken = some token) :
    s.refreshToken = some token := by
  simp only [exec, Memory.refreshToken] at h ⊢
  cases hsession : s.session with
  | none => simp [hsession] at h
  | some session =>
      rw [hsession] at h
      cases what with
      | OracleToken => exact h
      | _ => cases h

/-- What one call does to what another one relies on. -/
lemma Waits.kept (hstmt : Waits h s stmt) (hstmt' : Waits h s stmt')
    (hother : ∀ response response', stmt = .UpdateTokens response → stmt' ≠ .UpdateTokens response')
    (hfresh : Fresh s m stmt) (hundisturbed : Undisturbed s m stmt) :
    Waits (h ++ told s stmt m) (exec stmt m s).2 stmt' := by
  cases stmt with
  | GetSession =>
      rw [exec_getSession, told, List.append_nil]
      exact hstmt'
  | Refresh token =>
      cases refreshes hundisturbed with
      | Refused hused e hanswer hstore htold =>
          rw [htold, hstore, List.append_nil]
          exact hstmt'
      | Accepted hlive hanswer hstore htold =>
          have htoken := hstmt.2 hlive
          have hused : ∀ token' ∈ s.oracle.issued, (token' ∈ s.oracle.live → token' = token) →
              token' ∉ m.new.refreshToken :: s.oracle.live.filter (· ≠ token) := by
            intro token' hissued hsame hmem
            rcases List.mem_cons.mp hmem with rfl | hmem
            · exact hfresh hissued
            · obtain ⟨hlive', hne⟩ := List.mem_filter.mp hmem
              exact of_decide_eq_true hne (hsame hlive')
          rw [htold, hstore]
          cases stmt' with
          | GetSession => exact trivial
          | Refresh token' =>
              refine ⟨List.mem_cons_of_mem _ hstmt'.1, fun hlive' => absurd hlive' ?_⟩
              refine hused token' hstmt'.1 fun hold => ?_
              exact Option.some.inj ((hstmt'.2 hold).symm.trans htoken)
          | UpdateTokens response => exact absurd hlive (hstmt'.2.2 token htoken)
          | Clear what read =>
              intro token' htoken'
              obtain ⟨hissued, hdead⟩ := hstmt' token' htoken'
              exact ⟨List.mem_cons_of_mem _ hissued,
                hused token' hissued fun hold => absurd hold hdead⟩
  | UpdateTokens response =>
      obtain ⟨-, -, hold⟩ := hstmt
      cases stmt' with
      | GetSession => exact trivial
      | Refresh token' =>
          refine ⟨hstmt'.1, fun hlive' => ?_⟩
          exact absurd hlive' (hold token' (hstmt'.2 hlive'))
      | UpdateTokens response' => exact absurd rfl (hother response response' rfl)
      | Clear what read => exact hstmt'
  | Clear what read =>
      rw [told, List.append_nil]
      cases stmt' with
      | GetSession => exact trivial
      | Refresh token' =>
          refine ⟨hstmt'.1, fun hlive' => ?_⟩
          have hread := hundisturbed token' (hstmt'.2 hlive')
          exact absurd hlive' (hstmt token' hread).2
      | UpdateTokens response =>
          refine ⟨hstmt'.1, hstmt'.2.1, fun token' htoken' => ?_⟩
          exact hstmt'.2.2 token' (refreshToken_clear htoken')
      | Clear what' read' => exact hstmt'

/-- What a call goes on with. -/
lemma Waits.goesOn (hs : Stock s) (hstmt : Waits h s stmt)
    (hnext : Next stmt (exec stmt m s).1 stmt') (hfresh : Fresh s m stmt)
    (hundisturbed : Undisturbed s m stmt) :
    Waits (h ++ told s stmt m) (exec stmt m s).2 stmt' := by
  cases stmt with
  | GetSession =>
      rw [exec_getSession, told, List.append_nil]
      obtain ⟨session, hsession⟩ := Option.isSome_iff_exists.mp hs.session
      simp only [exec, hsession] at hnext
      split_ifs at hnext with hexpired
      · exact hnext.elim
      · rcases hnext with ⟨token, htoken, rfl⟩ | ⟨hnone, rfl⟩
        · have hread : s.refreshToken = some token := by
            rw [Memory.refreshToken, hsession, Option.bind_some, htoken]
          exact ⟨hs.issued token hread, fun _ => hread⟩
        · intro token htoken
          cases hnone.symm.trans htoken
  | Refresh token =>
      cases refreshes hundisturbed with
      | Refused hused e hanswer hstore htold =>
          rw [hanswer] at hnext
          rw [htold, hstore, List.append_nil]
          obtain ⟨what, read, htoken, rfl⟩ := hnext
          intro token' htoken'
          obtain rfl := Option.some.inj (htoken.symm.trans htoken')
          exact ⟨hstmt.1, hused⟩
      | Accepted hlive hanswer hstore htold =>
          rw [hanswer] at hnext
          rw [htold, hstore]
          obtain rfl : stmt' = .UpdateTokens m.new.response := hnext
          refine ⟨newest_received _, ⟨_, List.mem_cons_self, rfl⟩, fun token' htoken' hmem => ?_⟩
          obtain rfl : token' = token := Option.some.inj (htoken'.symm.trans (hstmt.2 hlive))
          rcases List.mem_cons.mp hmem with rfl | hmem
          · exact hfresh hstmt.1
          · exact of_decide_eq_true (List.mem_filter.mp hmem).2 rfl
  | UpdateTokens response => exact hnext.elim
  | Clear what read =>
      obtain rfl : stmt' = .Clear .OracleToken read := hnext
      exact hstmt

lemma Stock.executed (hs : Stock s) (hstmt : Waits h s stmt) (hundisturbed : Undisturbed s m stmt) :
    Stock (exec stmt m s).2 := by
  cases stmt with
  | GetSession =>
      rw [exec_getSession]
      exact hs
  | Refresh token =>
      cases refreshes hundisturbed with
      | Refused hused e hanswer hstore htold =>
          rw [hstore]
          exact hs
      | Accepted hlive hanswer hstore htold =>
          rw [hstore]
          refine ⟨hs.session, fun token' htoken' => ?_, fun token' htoken' => ?_⟩
          · rcases List.mem_cons.mp htoken' with rfl | hmem
            · exact List.mem_cons_self
            · exact List.mem_cons_of_mem _ (hs.live token' (List.mem_filter.mp hmem).1)
          · exact List.mem_cons_of_mem _ (hs.issued token' htoken')
  | UpdateTokens response =>
      obtain ⟨-, ⟨token, hlive, htoken⟩, -⟩ := hstmt
      refine ⟨?_, hs.live, fun token' htoken' => ?_⟩
      · rw [exec, Option.isSome_map]
        exact hs.session
      · obtain rfl := Option.some.inj
          ((refreshToken_updateTokens hs.session htoken).symm.trans htoken')
        exact hs.live _ hlive
  | Clear what read =>
      refine ⟨?_, hs.live, fun token' htoken' => hs.issued token' (refreshToken_clear htoken')⟩
      rw [exec, Option.isSome_map]
      exact hs.session

/-- **A statement erases no good refresh token.** -/
lemma Waits.keeps (hstmt : Waits h s stmt) (hundisturbed : Undisturbed s m stmt) (token : String) :
    Keeps token s (exec stmt m s).2 := by
  intro hlive _ htoken
  cases stmt with
  | GetSession => rwa [exec_getSession]
  | Refresh token' =>
      cases refreshes hundisturbed with
      | Refused hused e hanswer hstore htold => rwa [hstore]
      | Accepted hlive' hanswer hstore htold =>
          rw [hstore]
          exact htoken
  | UpdateTokens response => exact absurd hlive (hstmt.2.2 token htoken)
  | Clear what read => exact absurd hlive (hstmt token (hundisturbed token htoken)).2

end Statements

/-! ## A step -/

/-- The statement that a call is about to execute. -/
def AtStatement (s : Client) (i : Nat) (stmt : Statement) : Prop :=
  ∃ t, s.threads[i]? = some t ∧ t.next = some stmt

/-- The invariant: the tokens are in order, every call under way waits as `Waits` says, one call at
most is about to store what it has received, and without such a call the session has what came last.
-/
structure Sound (h : List Event) (s : Client) : Prop where
  flowing : Flowing (fun _ => sessionFlow) s
  stock : Stock s.store
  waits : ∀ i stmt, AtStatement s i stmt → Waits h s.store stmt
  single : ∀ i j response response', AtStatement s i (.UpdateTokens response) →
    AtStatement s j (.UpdateTokens response') → i = j
  newest : (∀ i response, ¬AtStatement s i (.UpdateTokens response)) →
    ∀ response, OracleClient.newest h = some response → s.store.Has response

section Step

variable {h : List Event} {s : Client} {i : Nat} {stmt : Statement}
  {k : Answer stmt → Moment → Rest} {m : Moment}

/-- The client after a call has executed its statement. -/
abbrev executed (s : Client) (i : Nat) (stmt : Statement) (k : Answer stmt → Moment → Rest)
    (m : Moment) : Client :=
  { store := (exec stmt m s.store).2
    threads := s.threads.set i (advance exec () stmt k m s.store) }

lemma atStatement_of_thread (hthread : s.threads[i]? = some ⟨(), .Exec stmt k⟩) :
    AtStatement s i stmt := ⟨_, hthread, rfl⟩

/-- A call that has executed a statement goes on, and the others are where they were. -/
lemma atStatement_executed {j : Nat} {stmt' : Statement} (hs : Flowing (fun _ => sessionFlow) s)
    (hthread : s.threads[i]? = some ⟨(), .Exec stmt k⟩)
    (h : AtStatement (executed s i stmt k m) j stmt') :
    j = i ∧ Next stmt (exec stmt m s.store).1 stmt' ∨ j ≠ i ∧ AtStatement s j stmt' := by
  obtain ⟨t, ht, hnext⟩ := h
  by_cases hij : j = i
  · subst hij
    refine .inl ⟨rfl, ?_⟩
    rw [List.getElem?_set_self (List.getElem?_eq_some_iff.mp hthread).1] at ht
    obtain rfl := Option.some.inj ht
    rcases hs.goesOn hthread (exec stmt m s.store).1 m with ⟨stmt'', k', hrest, hfollows⟩ |
      ⟨a, hrest, -⟩
    · rw [advance, hrest] at hnext
      obtain rfl := Option.some.inj hnext
      exact hfollows
    · rw [advance, hrest] at hnext
      cases hnext
  · refine .inr ⟨hij, t, ?_, hnext⟩
    rwa [List.getElem?_set_ne (Ne.symm hij)] at ht

lemma atStatement_of_ne {j : Nat} {stmt' : Statement} (hij : j ≠ i) (h : AtStatement s j stmt') :
    AtStatement (executed s i stmt k m) j stmt' := by
  obtain ⟨t, ht, hnext⟩ := h
  exact ⟨t, (List.getElem?_set_ne (Ne.symm hij)).trans ht, hnext⟩

lemma Sound.newest_executed (hs : Sound h s)
    (hthread : s.threads[i]? = some ⟨(), .Exec stmt k⟩) (hundisturbed : Undisturbed s.store m stmt)
    (hnone : ∀ j response, ¬AtStatement (executed s i stmt k m) j (.UpdateTokens response))
    {response : RefreshResponse}
    (hnewest : OracleClient.newest (h ++ told s.store stmt m) = some response) :
    (exec stmt m s.store).2.Has response := by
  have hwaits := hs.waits i stmt (atStatement_of_thread hthread)
  have before : (∀ response, stmt ≠ .UpdateTokens response) →
      ∀ j response, ¬AtStatement s j (.UpdateTokens response) := by
    intro hne j response hj
    by_cases hij : j = i
    · subst hij
      obtain ⟨t, ht, hnext⟩ := hj
      obtain rfl := Option.some.inj (hthread.symm.trans ht)
      exact hne response (Option.some.inj hnext)
    · exact hnone j response (atStatement_of_ne hij hj)
  cases stmt with
  | GetSession =>
      rw [told, List.append_nil] at hnewest
      rw [exec_getSession]
      exact hs.newest (before (by rintro _ ⟨⟩)) response hnewest
  | Refresh token =>
      cases refreshes hundisturbed with
      | Refused hused e hanswer hstore htold =>
          rw [htold, List.append_nil] at hnewest
          rw [hstore]
          exact hs.newest (before (by rintro _ ⟨⟩)) response hnewest
      | Accepted hlive hanswer hstore htold =>
          -- the call is about to store what it has received
          rcases hs.flowing.goesOn hthread (exec (.Refresh token) m s.store).1 m with
            ⟨stmt', k', hrest, hfollows⟩ | ⟨a, -, hends⟩
          · rw [hanswer] at hfollows
            obtain rfl : stmt' = .UpdateTokens m.new.response := hfollows
            refine absurd ⟨_, List.getElem?_set_self (List.getElem?_eq_some_iff.mp hthread).1, ?_⟩
              (hnone i m.new.response)
            rw [advance, hrest]
            rfl
          · exact hends.elim
  | UpdateTokens stored =>
      obtain ⟨hlast, ⟨token, hlive, htoken⟩, -⟩ := hwaits
      rw [told, newest_stored, hlast] at hnewest
      obtain rfl := Option.some.inj hnewest
      refine ⟨?_, token, hlive, htoken, refreshToken_updateTokens hs.stock.session htoken⟩
      obtain ⟨session, hsession⟩ := Option.isSome_iff_exists.mp hs.stock.session
      simp only [exec, hsession, Option.map_some, Option.bind_some, Session.updateTokens]
  | Clear what read =>
      rw [told, List.append_nil] at hnewest
      obtain ⟨-, token, hlive, -, htoken⟩ :=
        hs.newest (before (by rintro _ ⟨⟩)) response hnewest
      exact absurd hlive (hwaits token (hundisturbed token htoken)).2

lemma Sound.executed (hs : Sound h s) (hthread : s.threads[i]? = some ⟨(), .Exec stmt k⟩)
    (hflowing : Flowing (fun _ => sessionFlow) (executed s i stmt k m))
    (hfresh : Fresh s.store m stmt) (hundisturbed : Undisturbed s.store m stmt) :
    Sound (h ++ told s.store stmt m) (executed s i stmt k m) := by
  have hwaits := hs.waits i stmt (atStatement_of_thread hthread)
  refine ⟨hflowing, hs.stock.executed hwaits hundisturbed, ?_, ?_, ?_⟩
  · intro j stmt' hj
    rcases atStatement_executed hs.flowing hthread hj with ⟨rfl, hnext⟩ | ⟨hne, hold⟩
    · exact hwaits.goesOn hs.stock hnext hfresh hundisturbed
    · refine hwaits.kept (hs.waits j stmt' hold) ?_ hfresh hundisturbed
      rintro response response' rfl rfl
      exact hne (hs.single j i _ _ hold (atStatement_of_thread hthread))
  · have excluded : ∀ {j response response'},
        Next stmt (exec stmt m s.store).1 (.UpdateTokens response) →
        AtStatement s j (.UpdateTokens response') → False := by
      intro j response response' hnext hj
      cases stmt with
      | GetSession =>
          rcases hsession : (exec .GetSession m s.store).1 with e | session
          · rw [hsession] at hnext
            exact hnext
          · rw [hsession] at hnext
            rcases hnext with ⟨_, _, hnext⟩ | ⟨_, hnext⟩ <;> cases hnext
      | Refresh token =>
          cases refreshes hundisturbed with
          | Refused hused e hanswer hstore htold =>
              rw [hanswer] at hnext
              obtain ⟨_, _, -, hnext⟩ := hnext
              cases hnext
          | Accepted hlive hanswer hstore htold =>
              exact (hs.waits j _ hj).2.2 token (hwaits.2 hlive) hlive
      | UpdateTokens stored => exact hnext
      | Clear what read => cases hnext
    intro j j' response response' hj hj'
    rcases atStatement_executed hs.flowing hthread hj with ⟨rfl, hnext⟩ | ⟨-, hold⟩
    · rcases atStatement_executed hs.flowing hthread hj' with ⟨rfl, -⟩ | ⟨-, hold'⟩
      · rfl
      · exact (excluded hnext hold').elim
    · rcases atStatement_executed hs.flowing hthread hj' with ⟨rfl, hnext⟩ | ⟨-, hold'⟩
      · exact (excluded hnext hold).elim
      · exact hs.single j j' _ _ hold hold'
  · exact fun hnone response => hs.newest_executed hthread hundisturbed hnone

/-- **What a step keeps.** -/
theorem sound_step (hs : Sound h s) {l : Label Unit Moment} (hfresh : guard Fresh s l)
    (hundisturbed : guard Undisturbed s l) :
    Sound (h ++ events s l) (step s l)
      ∧ ∀ token, Keeps token s.store (step s l).store := by
  have hflowing : Flowing (fun _ => sessionFlow) (step s l) :=
    hs.flowing.step (fun _ _ => flows_getOracleClient) l
  have hsteps := steps_step exec (fun _ _ => getOracleClient) s l
  rw [step] at hflowing ⊢
  generalize Interleaving.step exec (fun _ _ => getOracleClient) s l = s' at hsteps hflowing ⊢
  cases hsteps with
  | Started request m =>
      have hsame : ∀ j stmt, AtStatement
          { s with threads := s.threads ++ [⟨request, getOracleClient⟩] } j stmt →
          stmt = .GetSession ∨ AtStatement s j stmt := by
        rintro j stmt ⟨t, ht, hnext⟩
        rw [List.getElem?_append] at ht
        split_ifs at ht with hlt
        · exact .inr ⟨t, ht, hnext⟩
        · obtain rfl := List.mem_singleton.mp (List.mem_of_getElem? ht)
          exact .inl (Option.some.inj hnext).symm
      rw [events, executes, List.append_nil]
      refine ⟨⟨hflowing, hs.stock, ?_, ?_, ?_⟩, fun _ _ _ htoken => htoken⟩
      · intro j stmt hj
        rcases hsame j stmt hj with rfl | hj
        · exact trivial
        · exact hs.waits j stmt hj
      · intro j j' response response' hj hj'
        rcases hsame j _ hj with hstmt | hj
        · cases hstmt
        · rcases hsame j' _ hj' with hstmt | hj'
          · cases hstmt
          · exact hs.single j j' _ _ hj hj'
      · refine fun hnone => hs.newest fun j response hj => hnone j response ?_
        obtain ⟨t, ht, hnext⟩ := hj
        refine ⟨t, ?_, hnext⟩
        exact (List.getElem?_append_left (List.getElem?_eq_some_iff.mp ht).1).trans ht
  | Idle i m hexecutes hfinished =>
      rw [events, hexecutes, List.append_nil]
      exact ⟨hs, fun _ _ _ htoken => htoken⟩
  | Executed i m request stmt k hthread hexecutes hfinished =>
      have hguard := hundisturbed _ hexecutes
      rw [events, hexecutes]
      refine ⟨hs.executed hthread hflowing (hfresh _ hexecutes) hguard, fun token => ?_⟩
      exact (hs.waits i stmt (atStatement_of_thread hthread)).keeps hguard token

end Step

/-! ## Runs -/

section Run

variable {s : Client} {ls : List (Label Unit Moment)}

lemma sound_starts (hs : Starts s) : Sound [] s := by
  have hnone : ∀ i stmt, ¬AtStatement s i stmt := by
    rintro i stmt ⟨t, ht, -⟩
    rw [hs.idle] at ht
    cases ht
  refine ⟨fun t ht => ?_, ⟨hs.session, hs.live, hs.issued⟩, fun i stmt hi => absurd hi (hnone i stmt),
    fun i j response response' hi => absurd hi (hnone i _), fun _ response h => ?_⟩
  · rw [hs.idle] at ht
    cases ht
  · cases h

lemma sound_run (hs : Starts s) (hfresh : Runs.Guarded step (guard Fresh) s ls)
    (hundisturbed : Runs.Guarded step (guard Undisturbed) s ls) :
    Sound (history s ls) (Runs.exec step s ls) := by
  induction ls using List.reverseRecOn with
  | nil => exact sound_starts hs
  | append_singleton ls l ih =>
      rw [history, Runs.history_concat, Runs.exec_concat]
      exact (sound_step (ih hfresh.front hundisturbed.front) hfresh.back.1
        hundisturbed.back.1).1

/-- **A refresh does not log the user out**, as long as the Oracle answers every request, and no
call clears other tokens than those that it has read. The error path of a call clears the session as
it is by then, with whatever another call has stored. -/
theorem staysLoggedIn_of_undisturbed (hs : Starts s)
    (hfresh : Runs.Guarded step (guard Fresh) s ls)
    (hundisturbed : Runs.Guarded step (guard Undisturbed) s ls) : StaysLoggedIn s ls where
  kept := by
    rintro pre l post rfl response token - -
    rw [Runs.exec_concat]
    exact (sound_step (sound_run hs hfresh.front hundisturbed.front) hfresh.back.1
      hundisturbed.back.1).2 token
  newest := by
    intro hdone response
    refine (sound_run hs hfresh hundisturbed).newest ?_ response
    rintro i response ⟨t, ht, hnext⟩
    cases (hdone t (List.mem_of_getElem? ht)).symm.trans hnext

end Run

/-! ## What goes wrong -/

namespace Sample

/-- A session whose access token has expired. -/
def start : Client where
  store :=
    { session := some
        { expiresAt := 1000000000
          oracleToken := some "a0"
          oracleTokenExpiresAt := some 0
          refreshToken := some "r0"
          role := none }
      oracle := { issued := ["r0"], live := ["r0"] } }
  threads := []

def moment (accessToken refreshToken : String) : Moment where
  now _ := 1
  network := .Answered
  new := { accessToken, refreshToken, expiresIn := 3600, role := none }

def first : Moment := moment "a1" "r1"

def second : Moment := moment "a2" "r2"

/-- One call after the other. -/
def inTurn : List (Label Unit Moment) :=
  [.Start () first, .Step 0 first, .Step 0 first, .Step 0 first, .Start () second,
    .Step 1 second]

lemma starts : Starts start where
  idle := rfl
  session := rfl
  live _ h := h
  issued token h := by
    obtain rfl := Option.some.inj h
    exact List.mem_singleton_self _

theorem staysLoggedIn_inTurn : StaysLoggedIn start inTurn :=
  staysLoggedIn_of_undisturbed starts (by decide +kernel) (by decide +kernel)

/-- Two calls have read the same refresh token. -/
def race : List (Label Unit Moment) :=
  [.Start () first, .Start () second, .Step 0 first, .Step 1 second, .Step 0 first, .Step 0 first,
    .Step 1 second, .Step 1 second]

/-- **The call that comes too late clears the tokens that the other one has stored.** -/
theorem not_staysLoggedIn : Starts start ∧ Runs.Guarded step (guard Fresh) start race
    ∧ ¬StaysLoggedIn start race := by
  refine ⟨starts, by decide +kernel, fun h => ?_⟩
  have hkept := h.kept (race.take 7) (.Step 1 second) [] rfl first.new.response "r1"
    (by decide +kernel) rfl (by decide +kernel) (by decide +kernel) (by decide +kernel)
  exact absurd hkept (by decide +kernel)

end Sample

end Vaulted.OracleClient
