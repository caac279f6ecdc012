import Vaulted.Oracle.RefreshToken
import Vaulted.Token.Revocation
import Vaulted.Transfer.HonestRequest

/-!
# The rotation of refresh tokens

A refresh looks its token up in the blacklist, puts it there, and only then looks for the user.

* `Pool` — any number of refreshes, whose statements interleave in any order; `Phase` — how far a
  refresh has come.
* `rotationFlow` — what follows which statement.
* `Rotates` — a token has one successor at most, which keeps its subject and its device, and a
  refresh that fails has not revoked its token.
* `Careful` — no refresh overtakes another between its check and its revocation, and every
  subject is a user.
* `rotates_of_careful` — that is enough.
* `not_rotates` — the subject of a QR login is an identity, which is no user.
-/

namespace Vaulted.RefreshToken

open Interleaving Tokens
open Revocation (Reliable Covers home revokedUntil)

/-! ## The system -/

/-- The server, and the refreshes under way. -/
abbrev Pool := State Server Bearer Answer TokenMoment (Except ApiError TokenResponse)

abbrev step (s : Pool) (l : Label Bearer TokenMoment) : Pool :=
  Interleaving.step exec refreshToken s l

/-- The pool after a run. -/
abbrev run (s : Pool) (ls : List (Label Bearer TokenMoment)) : Pool := Runs.exec step s ls

/-- How far a refresh has come. -/
inductive Phase
  | Checking
  | Revoking
  | Looking
  | Refreshed
  | Refused
  deriving DecidableEq

def phase : Handling → Phase
  | .Exec (.IsBlacklisted _) _ => .Checking
  | .Exec (.Blacklist _ _) _ => .Revoking
  | .Exec (.UserRole _) _ => .Looking
  | .Done (.ok _) => .Refreshed
  | .Done (.error _) => .Refused

/-- The refresh has found its token in order. -/
def Phase.Passed (p : Phase) : Prop := p = .Revoking ∨ p = .Looking ∨ p = .Refreshed

/-- The refresh has revoked its token, and has not failed. -/
def Phase.Revoked (p : Phase) : Prop := p = .Looking ∨ p = .Refreshed

abbrev Threads := List (Thread Bearer Answer TokenMoment (Except ApiError TokenResponse))

/-- The `i`-th refresh is one of the token, and has come so far. -/
def At (threads : Threads) (i : Nat) (claims : Claims) (p : Phase) : Prop :=
  ∃ rest, threads[i]? = some ⟨.ok claims, rest⟩ ∧ phase rest = p

/-- The refresh that a step revokes a token for. -/
def emit (s : Pool) (l : Label Bearer TokenMoment) : List Nat :=
  match l, executes s l with
  | .Step i _, some (_, .Blacklist _ _, _) => [i]
  | _, _ => []

/-- Refresh tokens rotate: one presented token gives new ones once, for the same subject and device,
and is still usable if its request ends with an error. -/
structure Rotates (revokers : List Nat) (s : Pool) : Prop where
  single : ∀ i j claims, At s.threads i claims .Refreshed → At s.threads j claims .Refreshed → i = j
  kept : ∀ (i : Nat) (claims : Claims) (answer : TokenResponse),
    s.threads[i]? = some ⟨.ok claims, .Done (.ok answer)⟩ →
    ∀ token ∈ answer.tokens, token.sub = claims.sub ∧ token.dfp = claims.dfp
  usable : ∀ i ∈ revokers, ∀ (token : Bearer) (e : ApiError),
    s.threads[i]? ≠ some ⟨token, .Done (.error e)⟩

/-! ## The condition -/

/-- The stores do not fail and have the token for as long as it is good; between a check and its
revocation no other refresh of the token is checked; and the subject is a user. -/
def Safe (s : Pool) (token : Bearer) (m : TokenMoment) : Statement → Prop
  | .IsBlacklisted _ => Reliable m.store ∧ ∀ claims, token = .ok claims →
      m.store.seen < Time.ofSeconds claims.exp ∧ ∀ j, ¬ At s.threads j claims .Revoking
  | .Blacklist jti exp => Reliable m.store
      ∧ Time.ofSeconds exp ≤ revokedUntil m.store jti exp s.store.stores
  | .UserRole wallet => m.failure = none ∧ (userRole wallet s.store).isSome = true

/-- A token that is presented is bound to no device, and its id is that of no other token. -/
def guard (s : Pool) (l : Label Bearer TokenMoment) : Prop :=
  (∀ claims m, l = .Start (.ok claims) m → claims.dfp = none
    ∧ ∀ t ∈ s.threads, ∀ claims', t.request = .ok claims' → claims'.jti = claims.jti →
      claims' = claims)
  ∧ ∀ token stmt m, executes s l = some (token, stmt, m) → Safe s token m stmt

/-- Every step of the run meets the condition. -/
def Careful (s : Pool) (ls : List (Label Bearer TokenMoment)) : Prop :=
  Runs.Guarded step guard s ls

/-! ## The handler -/

def rotationFlow (token : Bearer) : Flow Answer (Except ApiError TokenResponse) where
  begins stmt := ∃ claims, token = .ok claims ∧ stmt = .IsBlacklisted claims.jti.text
  refuses reply := ∃ e, reply = .error e
  next
    | .IsBlacklisted _, isBlacklisted, stmt => isBlacklisted = false
        ∧ ∃ claims, token = .ok claims ∧ stmt = .Blacklist claims.jti.text claims.exp
    | .Blacklist _ _, _, stmt => ∃ claims, token = .ok claims ∧ stmt = .UserRole claims.sub
    | .UserRole _, _, _ => False
  ends
    | .IsBlacklisted _, _, reply => ∃ e, reply = .error e
    | .Blacklist _ _, _, _ => False
    | .UserRole _, role?, reply => ∀ role, role? = .ok (some role) →
        ∃ claims env, token = .ok claims ∧ reply = .ok (refreshedTokens env claims role)

/-- **The handler follows the flow.** -/
theorem flows_refreshToken (token : Bearer) (m : TokenMoment) :
    (refreshToken token m).Flows (rotationFlow token) (rotationFlow token).refuses
      (rotationFlow token).begins := by
  refine Proc.flows_check (fun e _ => ⟨e, rfl⟩) fun claims hverified => ?_
  obtain ⟨c, hc, hrest⟩ := bind_eq_ok hverified
  obtain ⟨_, -, hrest⟩ := bind_eq_ok hrest
  obtain rfl := Except.ok.inj hrest
  have htoken := (verifyToken_eq_ok (Pre.eq_ok_of_mapErr hc)).1
  refine ⟨⟨c, htoken, rfl⟩, fun isBlacklisted m => ?_⟩
  refine Proc.flows_check (fun e _ => ⟨e, rfl⟩) fun _ hlive => ?_
  refine ⟨⟨by simpa using ensure_eq_ok hlive, c, htoken, rfl⟩, fun _ m => ?_⟩
  refine ⟨⟨c, htoken, rfl⟩, fun role? m => ?_⟩
  refine Proc.flows_check (fun e herr role hrole => ?_) fun role?' hrole?' => ?_
  · rw [hrole] at herr
    cases herr
  · refine Proc.flows_check (fun e herr role hrole => ?_) fun role' hrole' role hrole => ?_
    · rw [hrole] at hrole?'
      obtain rfl := Except.ok.inj hrole?'
      cases herr
    · rw [hrole] at hrole?'
      obtain rfl := Except.ok.inj hrole?'
      obtain rfl := Except.ok.inj hrole'
      exact ⟨c, m.env, htoken, rfl⟩

/-! ## Threads -/

section Threads

variable {threads : Threads} {i j : Nat} {claims : Claims} {p : Phase}

/-- A refresh is of one token, and has come so far. -/
lemma At.unique {claims' : Claims} {p' : Phase} (h : At threads i claims p)
    (h' : At threads i claims' p') : claims = claims' ∧ p = p' := by
  obtain ⟨rest, hrest, rfl⟩ := h
  obtain ⟨rest', hrest', rfl⟩ := h'
  obtain ⟨hrequest, rfl⟩ := Thread.mk.inj (Option.some.inj (hrest.symm.trans hrest'))
  exact ⟨Except.ok.inj hrequest, rfl⟩

lemma At.mem (h : At threads i claims p) : ∃ t ∈ threads, t.request = .ok claims := by
  obtain ⟨rest, hrest, -⟩ := h
  exact ⟨_, List.mem_of_getElem? hrest, rfl⟩

lemma at_set {token : Bearer} {rest : Handling} (h : At (threads.set i ⟨token, rest⟩) j claims p) :
    (j = i ∧ token = .ok claims ∧ phase rest = p) ∨ (j ≠ i ∧ At threads j claims p) := by
  obtain ⟨rest', hrest', rfl⟩ := h
  rw [List.getElem?_set] at hrest'
  split_ifs at hrest' with hij hlt
  · obtain ⟨rfl, rfl⟩ := Thread.mk.inj (Option.some.inj hrest')
    exact .inl ⟨hij.symm, rfl, rfl⟩
  · exact .inr ⟨Ne.symm hij, rest', hrest', rfl⟩

lemma At.set {token : Bearer} {rest : Handling} (h : At threads j claims p) (hij : j ≠ i) :
    At (threads.set i ⟨token, rest⟩) j claims p := by
  obtain ⟨rest', hrest', rfl⟩ := h
  exact ⟨rest', by rw [List.getElem?_set_ne (Ne.symm hij)]; exact hrest', rfl⟩

lemma at_set_self {t : Thread Bearer Answer TokenMoment (Except ApiError TokenResponse)}
    (hi : threads[i]? = some t) (claims : Claims) (rest : Handling) :
    At (threads.set i ⟨.ok claims, rest⟩) i claims (phase rest) := by
  obtain ⟨hlt, -⟩ := List.getElem?_eq_some_iff.mp hi
  exact ⟨rest, by rw [List.getElem?_set_self hlt], rfl⟩

lemma at_append {t : Thread Bearer Answer TokenMoment (Except ApiError TokenResponse)}
    (h : At (threads ++ [t]) j claims p) :
    At threads j claims p ∨ (t.request = .ok claims ∧ phase t.rest = p) := by
  obtain ⟨rest, hrest, rfl⟩ := h
  rw [List.getElem?_append] at hrest
  split_ifs at hrest with hlt
  · exact .inl ⟨rest, hrest, rfl⟩
  · have ht := List.mem_singleton.mp (List.mem_of_getElem? hrest)
    exact .inr ⟨by rw [← ht], by rw [← ht]⟩

lemma At.append (h : At threads j claims p)
    (t : Thread Bearer Answer TokenMoment (Except ApiError TokenResponse)) :
    At (threads ++ [t]) j claims p := by
  obtain ⟨rest, hrest, rfl⟩ := h
  obtain ⟨hlt, -⟩ := List.getElem?_eq_some_iff.mp hrest
  exact ⟨rest, by rw [List.getElem?_append_left hlt]; exact hrest, rfl⟩

end Threads

/-! ## A step -/

/-- A refresh that has passed its check is the only one of its token, and whatever has been revoked
stays so until the token's last second. The invariant of a careful run. -/
structure Rotating (revokers : List Nat) (s : Pool) : Prop where
  flowing : Flowing rotationFlow s
  unbound : ∀ t ∈ s.threads, ∀ claims, t.request = .ok claims → claims.dfp = none
  same : ∀ t ∈ s.threads, ∀ t' ∈ s.threads, ∀ claims claims', t.request = .ok claims →
    t'.request = .ok claims' → claims.jti = claims'.jti → claims = claims'
  single : ∀ i j claims p q, p.Passed → q.Passed → At s.threads i claims p →
    At s.threads j claims q → i = j
  covered : ∀ i claims p, p.Revoked → At s.threads i claims p →
    Covers (Time.ofSeconds claims.exp) claims.jti.text s.store.stores (home s.store.stores)
  kept : ∀ (i : Nat) (claims : Claims) (answer : TokenResponse),
    s.threads[i]? = some ⟨.ok claims, .Done (.ok answer)⟩ →
    ∀ token ∈ answer.tokens, token.sub = claims.sub ∧ token.dfp = claims.dfp
  revokers : ∀ i ∈ revokers, ∃ claims p, p.Revoked ∧ At s.threads i claims p

lemma Phase.Revoked.passed {p : Phase} (h : p.Revoked) : p.Passed := .inr h

/-- A refresh that starts has passed nothing. -/
lemma Rotating.start {revokers : List Nat} {s : Pool} (h : Rotating revokers s) (token : Bearer)
    (m : TokenMoment) (hguard : ∀ claims, token = .ok claims → claims.dfp = none
      ∧ ∀ t ∈ s.threads, ∀ claims', t.request = .ok claims' → claims'.jti = claims.jti →
        claims' = claims) :
    Rotating revokers { s with threads := s.threads ++ [⟨token, refreshToken token m⟩] } := by
  have hflows := flows_refreshToken token m
  have hphase : phase (refreshToken token m) = .Checking ∨ phase (refreshToken token m) = .Refused
      := by
    generalize refreshToken token m = rest at hflows ⊢
    cases rest with
    | Done reply =>
        obtain ⟨e, rfl⟩ := hflows
        exact .inr rfl
    | Exec stmt k =>
        obtain ⟨⟨claims, -, rfl⟩, -⟩ := hflows
        exact .inl rfl
  have hnew : ∀ {j claims p}, p.Passed →
      At (s.threads ++ [⟨token, refreshToken token m⟩]) j claims p → At s.threads j claims p := by
    intro j claims p hp hat
    rcases at_append hat with hold | ⟨-, rfl⟩
    · exact hold
    · rcases hphase with hphase | hphase <;> rw [hphase] at hp <;> rcases hp with h | h | h <;>
        cases h
  have hflowing : Flowing rotationFlow (step s (.Start token m)) :=
    h.flowing.step flows_refreshToken _
  refine ⟨hflowing, ?_, ?_, ?_, ?_, ?_, ?_⟩
  · intro t ht claims hclaims
    rcases List.mem_append.mp ht with ht | ht
    · exact h.unbound t ht claims hclaims
    · rw [List.mem_singleton.mp ht] at hclaims
      exact (hguard claims hclaims).1
  · intro t ht t' ht' claims claims' hclaims hclaims' hjti
    rcases List.mem_append.mp ht with ht | ht <;> rcases List.mem_append.mp ht' with ht' | ht'
    · exact h.same t ht t' ht' claims claims' hclaims hclaims' hjti
    · rw [List.mem_singleton.mp ht'] at hclaims'
      exact (hguard claims' hclaims').2 t ht claims hclaims hjti
    · rw [List.mem_singleton.mp ht] at hclaims
      exact ((hguard claims hclaims).2 t' ht' claims' hclaims' hjti.symm).symm
    · rw [List.mem_singleton.mp ht] at hclaims
      rw [List.mem_singleton.mp ht'] at hclaims'
      exact Except.ok.inj (hclaims.symm.trans hclaims')
  · exact fun i j claims p q hp hq hi hj => h.single i j claims p q hp hq (hnew hp hi) (hnew hq hj)
  · exact fun i claims p hp hi => h.covered i claims p hp (hnew hp.passed hi)
  · intro i claims answer hi
    have hat : At (s.threads ++ [⟨token, refreshToken token m⟩]) i claims .Refreshed :=
      ⟨_, hi, rfl⟩
    obtain ⟨rest, hrest, -⟩ := hnew (.inr (.inr rfl)) hat
    obtain ⟨hlt, -⟩ := List.getElem?_eq_some_iff.mp hrest
    rw [List.getElem?_append_left hlt] at hi
    exact h.kept i claims answer hi
  · intro i hi
    obtain ⟨claims, p, hp, hat⟩ := h.revokers i hi
    exact ⟨claims, p, hp, hat.append _⟩

/-- A refresh that goes on.  If it passes its check by that, it is the only one of its token to
have done so; if it has revoked the token, the stores have it. -/
lemma Rotating.goesOn {revokers revokers' : List Nat} {s : Pool} (h : Rotating revokers s)
    {i : Nat} {claims : Claims} {rest rest' : Handling} {store : Server}
    (hthread : s.threads[i]? = some ⟨.ok claims, rest⟩)
    (hflowing : Flowing rotationFlow (State.mk store (s.threads.set i ⟨.ok claims, rest'⟩)))
    (hpassed : (phase rest').Passed → ∀ j q, j ≠ i → q.Passed → ¬ At s.threads j claims q)
    (hcovered : ∀ j claims' p, p.Revoked → At s.threads j claims' p →
      Covers (Time.ofSeconds claims'.exp) claims'.jti.text store.stores (home store.stores))
    (hrevoked : (phase rest').Revoked →
      Covers (Time.ofSeconds claims.exp) claims.jti.text store.stores (home store.stores))
    (hkept : ∀ answer : TokenResponse, rest' = .Done (.ok answer) →
      ∀ token ∈ answer.tokens, token.sub = claims.sub ∧ token.dfp = claims.dfp)
    (hrevokers : ∀ j ∈ revokers', (j ∈ revokers ∧ j ≠ i) ∨ (j = i ∧ (phase rest').Revoked)) :
    Rotating revokers' (State.mk store (s.threads.set i ⟨.ok claims, rest'⟩)) := by
  have hmem : ∀ t ∈ s.threads.set i ⟨.ok claims, rest'⟩, ∃ t' ∈ s.threads, t.request = t'.request := by
    intro t ht
    rcases List.mem_or_eq_of_mem_set ht with ht | rfl
    · exact ⟨t, ht, rfl⟩
    · exact ⟨_, List.mem_of_getElem? hthread, rfl⟩
  refine ⟨hflowing, ?_, ?_, ?_, ?_, ?_, ?_⟩
  · intro t ht claims' hclaims'
    obtain ⟨t', ht', heq⟩ := hmem t ht
    exact h.unbound t' ht' claims' (heq ▸ hclaims')
  · intro t ht t' ht' c c' hc hc' hjti
    obtain ⟨o, ho, heq⟩ := hmem t ht
    obtain ⟨o', ho', heq'⟩ := hmem t' ht'
    exact h.same o ho o' ho' c c' (heq ▸ hc) (heq' ▸ hc') hjti
  · intro j j' c p q hp hq hj hj'
    rcases at_set hj with ⟨rfl, hc, rfl⟩ | ⟨hne, hold⟩ <;>
      rcases at_set hj' with ⟨rfl, hc', rfl⟩ | ⟨hne', hold'⟩
    · rfl
    · obtain rfl := Except.ok.inj hc
      exact absurd hold' (hpassed hp j' q hne' hq)
    · obtain rfl := Except.ok.inj hc'
      exact absurd hold (hpassed hq j p hne hp)
    · exact h.single j j' c p q hp hq hold hold'
  · intro j c p hp hj
    rcases at_set hj with ⟨rfl, hc, rfl⟩ | ⟨-, hold⟩
    · obtain rfl := Except.ok.inj hc
      exact hrevoked hp
    · exact hcovered j c p hp hold
  · intro j c answer hj
    rw [List.getElem?_set] at hj
    split_ifs at hj with hij hlt
    · obtain ⟨hc, hrest⟩ := Thread.mk.inj (Option.some.inj hj)
      obtain rfl := Except.ok.inj hc
      exact hkept answer hrest
    · exact h.kept j c answer hj
  · intro j hj
    rcases hrevokers j hj with ⟨hold, hne⟩ | ⟨rfl, hrev⟩
    · obtain ⟨c, p, hp, hat⟩ := h.revokers j hold
      exact ⟨c, p, hp, hat.set hne⟩
    · exact ⟨claims, _, hrev, at_set_self hthread claims rest'⟩

/-- The statement of a refresh is one about its token. -/
lemma admits_rotationFlow {token : Bearer} {stmt : Statement}
    (h : (rotationFlow token).Admits stmt) : ∃ claims, token = .ok claims
      ∧ (stmt = .IsBlacklisted claims.jti.text ∨ stmt = .Blacklist claims.jti.text claims.exp
        ∨ stmt = .UserRole claims.sub) := by
  rcases h with ⟨claims, htoken, rfl⟩ | ⟨stmt', r, hnext⟩
  · exact ⟨claims, htoken, .inl rfl⟩
  · cases stmt' with
    | IsBlacklisted jti =>
        obtain ⟨-, claims, htoken, rfl⟩ := hnext
        exact ⟨claims, htoken, .inr (.inl rfl)⟩
    | Blacklist jti exp =>
        obtain ⟨claims, htoken, rfl⟩ := hnext
        exact ⟨claims, htoken, .inr (.inr rfl)⟩
    | UserRole wallet => cases hnext

/-- **A step of a careful run**, one case for each statement. -/
theorem Rotating.step {revokers : List Nat} {s : Pool} {l : Label Bearer TokenMoment}
    (h : Rotating revokers s) (hguard : guard s l) :
    Rotating (revokers ++ emit s l) (step s l) := by
  have hflowing : Flowing rotationFlow (RefreshToken.step s l) :=
    h.flowing.step flows_refreshToken l
  have hsteps := steps_step exec refreshToken s l
  generalize hs' : Interleaving.step exec refreshToken s l = s' at hsteps
  rw [RefreshToken.step, hs'] at hflowing ⊢
  cases hsteps with
  | Started token m =>
      have hemit : emit s (.Start token m) = [] := rfl
      rw [hemit, List.append_nil]
      exact h.start token m fun claims htoken => hguard.1 claims m (by rw [htoken])
  | Idle i m hnone =>
      have hemit : emit s (.Step i m) = [] := by simp only [emit, hnone]
      rw [hemit, List.append_nil]
      exact h
  | Executed i m token stmt k hthread hexecutes =>
      have hsafe := hguard.2 token stmt m hexecutes
      have hflows := h.flowing.advance hthread (exec stmt m s.store).1 m
      obtain ⟨claims, rfl, hstmt⟩ := admits_rotationFlow (h.flowing.admits hthread)
      have hold : At s.threads i claims (phase (.Exec stmt k)) := ⟨_, hthread, rfl⟩
      simp only [advance] at hflowing ⊢
      generalize hrest' : k (exec stmt m s.store).1 m = rest' at hflows hflowing ⊢
      rcases hstmt with rfl | rfl | rfl
      · -- the check: whoever passes it finds the token in no store
        obtain ⟨hreliable, hsafe⟩ := hsafe
        obtain ⟨hnow, hnobody⟩ := hsafe claims rfl
        have hemit : emit s (.Step i m) = [] := by simp only [emit, hexecutes]
        rw [hemit, List.append_nil]
        refine h.goesOn hthread hflowing ?_ h.covered ?_ ?_ ?_
        · intro hpassed j q hne hq hj
          have hlive : s.store.stores.isTokenBlacklisted m.store claims.jti.text = false := by
            cases rest' with
            | Done reply =>
                obtain ⟨e, rfl⟩ := hflows
                rcases hpassed with h | h | h <;> cases h
            | Exec stmt' k' => exact hflows.1.1
          rcases hq with rfl | hq
          · exact hnobody j hj
          · rw [(h.covered j claims q hq hj).isTokenBlacklisted
              (Revocation.consults_home hreliable) hnow] at hlive
            cases hlive
        · intro hrevoked
          cases rest' with
          | Done reply =>
              obtain ⟨e, rfl⟩ := hflows
              rcases hrevoked with h | h <;> cases h
          | Exec stmt' k' =>
              obtain ⟨⟨-, c, -, rfl⟩, -⟩ := hflows
              rcases hrevoked with h | h <;> cases h
        · rintro answer rfl
          obtain ⟨e, he⟩ := hflows
          cases he
        · intro j hj
          refine .inl ⟨hj, ?_⟩
          rintro rfl
          obtain ⟨c, p, hp, hat⟩ := h.revokers j hj
          rw [← (hold.unique hat).2] at hp
          rcases hp with h | h <;> cases h
      · -- the revocation
        obtain ⟨hreliable, hlasts⟩ := hsafe
        have hemit : emit s (.Step i m) = [i] := by simp only [emit, hexecutes]
        rw [hemit]
        have hlooking : phase rest' = .Looking := by
          cases rest' with
          | Done reply => cases hflows
          | Exec stmt' k' =>
              obtain ⟨⟨c, -, rfl⟩, -⟩ := hflows
              rfl
        have hhome : home (revoked m.store claims.jti.text claims.exp s.store).stores
            = home s.store.stores := Revocation.home_blacklistToken _ _ _ _
        refine h.goesOn hthread hflowing ?_ ?_ ?_ ?_ ?_
        · intro _ j q hne hq hj
          exact hne (h.single j i claims q _ hq (.inl rfl) hj hold)
        · intro j c p hp hj
          simp only [exec]
          rw [hhome]
          refine (h.covered j c p hp hj).blacklistToken fun hjti => ?_
          -- another token of that id is the same
          obtain ⟨t, ht, hc⟩ := hj.mem
          obtain ⟨t', ht', hclaims⟩ := hold.mem
          rw [h.same t ht t' ht' c claims hc hclaims (Uuid.ext hjti.symm)]
          exact hlasts
        · intro _
          simp only [exec]
          rw [hhome, ← Revocation.level_eq_home hreliable]
          exact Revocation.covers_blacklistToken hlasts
        · rintro answer rfl
          cases hlooking
        · intro j hj
          rcases List.mem_append.mp hj with hj | hj
          · by_cases hji : j = i
            · exact .inr ⟨hji, .inl hlooking⟩
            · exact .inl ⟨hj, hji⟩
          · exact .inr ⟨List.mem_singleton.mp hj, .inl hlooking⟩
      · -- the user is found, and the tokens are issued
        obtain ⟨hanswers, huser⟩ := hsafe
        obtain ⟨role, hrole⟩ := Option.isSome_iff_exists.mp huser
        have hanswer : (exec (.UserRole claims.sub) m s.store).1 = .ok (some role) := by
          simp only [exec, hanswers, hrole]
        have hstore : (exec (.UserRole claims.sub) m s.store).2 = s.store := by
          simp only [exec, hanswers]
        have hemit : emit s (.Step i m) = [] := by simp only [emit, hexecutes]
        rw [hemit, List.append_nil, hstore]
        rw [hstore] at hflowing
        obtain ⟨c, env, hc, rfl⟩ : ∃ c env, (.ok claims : Bearer) = .ok c
            ∧ rest' = .Done (.ok (refreshedTokens env c role)) := by
          cases rest' with
          | Done reply =>
              obtain ⟨c, env, hc, rfl⟩ := hflows role hanswer
              exact ⟨c, env, hc, rfl⟩
          | Exec stmt' k' => exact absurd hflows.1 id
        obtain rfl := Except.ok.inj hc
        refine h.goesOn hthread hflowing ?_ h.covered ?_ ?_ ?_
        · intro _ j q hne hq hj
          exact hne (h.single j i claims q _ hq (.inr (.inl rfl)) hj hold)
        · exact fun _ => h.covered i claims _ (.inl rfl) hold
        · intro answer hdone token htoken
          obtain rfl := Except.ok.inj (Proc.Done.inj hdone)
          obtain ⟨t, ht, hclaims⟩ := hold.mem
          have hunbound := h.unbound t ht claims hclaims
          rcases List.mem_cons.mp htoken with rfl | htoken
          · exact ⟨rfl, hunbound.symm⟩
          · rw [List.mem_singleton.mp htoken]
            exact ⟨rfl, hunbound.symm⟩
        · intro j hj
          by_cases hji : j = i
          · exact .inr ⟨hji, .inr rfl⟩
          · exact .inl ⟨hj, hji⟩

/-! ## A run -/

/-- **Where no refresh overtakes another between its check and its revocation, and every subject is
a user, tokens rotate.** The token is spent before its subject is looked up, so that a request which
ends with an error may have used it up. -/
theorem rotates_of_careful {s : Pool} {ls : List (Label Bearer TokenMoment)}
    (hidle : s.threads = []) (hcareful : Careful s ls) :
    Rotates (Runs.history step emit s ls) (run s ls) := by
  have hnone : ∀ {i : Nat} {t}, s.threads[i]? ≠ some t := by
    intro i t
    rw [hidle]
    exact fun h => nomatch h
  have hinit : Rotating [] s := by
    have hempty : ∀ {t}, t ∉ s.threads := by
      intro t ht
      rw [hidle] at ht
      cases ht
    exact
      { flowing := fun _ ht => absurd ht hempty
        unbound := fun _ ht => absurd ht hempty
        same := fun _ ht => absurd ht hempty
        single := fun _ _ _ _ _ _ _ ⟨_, hi, _⟩ => absurd hi hnone
        covered := fun _ _ _ _ ⟨_, hi, _⟩ => absurd hi hnone
        kept := fun _ _ _ hi => absurd hi hnone
        revokers := fun _ hi => nomatch hi }
  have hrotating : Rotating (Runs.history step emit s ls) (run s ls) :=
    Runs.invariant_run (I := Rotating) hinit (fun _ _ _ h hguard => h.step hguard)
      hcareful.admits
  refine ⟨fun i j claims => hrotating.single i j claims _ _ (.inr (.inr rfl)) (.inr (.inr rfl)),
    hrotating.kept, fun i hi token e hrefused => ?_⟩
  obtain ⟨claims, p, hp, rest, hrest, rfl⟩ := hrotating.revokers i hi
  obtain ⟨-, rfl⟩ := Thread.mk.inj (Option.some.inj (hrest.symm.trans hrefused))
  rcases hp with h | h <;> cases h

/-! ## The refresh token of an identity -/

namespace Sample

open Transfers.Sample

def server : Server := ⟨db [] List.nodup_nil, .empty false⟩

def idle : Pool := ⟨server, []⟩

def moment : TokenMoment where
  store := Revocation.Sample.during 0 true
  uuid _ := ⟨"n"⟩
  failure := none

/-- The refresh token of a QR login. -/
def identityToken : Claims := .newRefreshDeviceBound 0 ⟨"r"⟩ "alice" 30 "phone"

/-- The refresh tokens of two wallets. -/
def walletToken : Claims := .newRefresh 0 ⟨"r"⟩ "rAlice" 7
def otherToken : Claims := .newRefresh 0 ⟨"s"⟩ "rBob" 7

/-- A refresh that nothing interleaves with. -/
def refreshing (token : Claims) : List (Label Bearer TokenMoment) :=
  [.Start (.ok token) moment, .Step 0 moment, .Step 0 moment, .Step 0 moment]

lemma refused_of_phase {rest : Handling} (h : phase rest = .Refused) :
    ∃ e, rest = .Done (.error e) := by
  cases rest with
  | Done reply =>
      cases reply with
      | error e => exact ⟨e, rfl⟩
      | ok answer => cases h
  | Exec stmt k => cases stmt <;> cases h

/-- **The token of an identity is revoked, and then its user is not found.** -/
theorem not_rotates : ¬ Rotates (Runs.history step emit idle (refreshing identityToken))
    (run idle (refreshing identityToken)) := by
  intro hrotates
  have hrevoked : 0 ∈ Runs.history step emit idle (refreshing identityToken) := by decide +kernel
  have hphase : ((run idle (refreshing identityToken)).threads[0]?).map (fun t => phase t.rest)
      = some .Refused := by decide +kernel
  obtain ⟨⟨token, rest⟩, hthread, hrefused⟩ := Option.map_eq_some_iff.mp hphase
  obtain ⟨e, rfl⟩ := refused_of_phase hrefused
  exact hrotates.usable 0 hrevoked token e hthread

/-- Two wallets refresh at a time, and then the first presents its token once more. -/
def both : List (Label Bearer TokenMoment) :=
  [.Start (.ok walletToken) moment, .Start (.ok otherToken) moment, .Step 0 moment, .Step 0 moment,
    .Step 1 moment, .Step 0 moment, .Step 1 moment, .Step 1 moment,
    .Start (.ok walletToken) moment, .Step 2 moment]

lemma reliable_moment : Reliable moment.store := fun _ => ⟨rfl, rfl⟩

lemma guard_start {s : Pool} {claims : Claims} (others : List Claims)
    (hothers : s.threads.map Thread.request = others.map .ok) (hdfp : claims.dfp = none)
    (hsame : ∀ c ∈ others, c.jti = claims.jti → c = claims) :
    guard s (.Start (.ok claims) moment) := by
  refine ⟨fun c m h => ?_, fun _ _ _ h => nomatch h⟩
  obtain ⟨hclaims, -⟩ := Label.Start.inj h
  obtain rfl := Except.ok.inj hclaims
  refine ⟨hdfp, fun t ht c' hc' => hsame c' ?_⟩
  have hmem : (.ok c' : Bearer) ∈ others.map .ok := by
    rw [← hothers, ← hc']
    exact List.mem_map_of_mem ht
  obtain ⟨c'', hc'', heq⟩ := List.mem_map.mp hmem
  rwa [← Except.ok.inj heq]

lemma guard_step {s : Pool} {i : ℕ} {claims : Claims} {stmt : Statement}
    (hexecutes : executes s (.Step i moment) = some (.ok claims, stmt, moment))
    (hsafe : Safe s (.ok claims) moment stmt) : guard s (.Step i moment) := by
  refine ⟨fun _ _ h => (nomatch h), fun token stmt' m h => ?_⟩
  rw [hexecutes] at h
  cases h
  exact hsafe

/-- A check is safe while no refresh is between its own check and its revocation. -/
lemma safe_check {s : Pool} {claims : Claims} {jti : String} (hexp : 0 < Time.ofSeconds claims.exp)
    (hphases : Phase.Revoking ∉ s.threads.map fun t => phase t.rest) :
    Safe s (.ok claims) moment (.IsBlacklisted jti) := by
  refine ⟨reliable_moment, fun c hc => ?_⟩
  obtain rfl := Except.ok.inj hc
  refine ⟨hexp, fun j ⟨rest, hrest, hphase⟩ => hphases ?_⟩
  rw [← hphase]
  exact List.mem_map_of_mem (f := fun t => phase t.rest) (List.mem_of_getElem? hrest)

/-- Both tokens rotate, and the token that is presented once more is refused. -/
theorem rotates_both : Rotates (Runs.history step emit idle both) (run idle both)
    ∧ (run idle both).threads.map (fun t => phase t.rest) = [.Refreshed, .Refreshed, .Refused] := by
  refine ⟨rotates_of_careful rfl ⟨?_, ?_, ?_, ?_, ?_, ?_, ?_, ?_, ?_, ?_, trivial⟩,
    by decide +kernel⟩
  · exact guard_start [] rfl rfl (by simp)
  · exact guard_start [walletToken] rfl rfl
      (by simp [walletToken, otherToken, Claims.newRefresh])
  · exact guard_step rfl (safe_check (by decide) (by decide +kernel))
  · exact guard_step rfl ⟨reliable_moment, by decide +kernel⟩
  · exact guard_step rfl (safe_check (by decide) (by decide +kernel))
  · exact guard_step rfl ⟨rfl, by decide +kernel⟩
  · exact guard_step rfl ⟨reliable_moment, by decide +kernel⟩
  · exact guard_step rfl ⟨rfl, by decide +kernel⟩
  · exact guard_start [walletToken, otherToken] rfl rfl
      (by simp [walletToken, otherToken, Claims.newRefresh])
  · exact guard_step rfl (safe_check (by decide) (by decide +kernel))

end Sample

end Vaulted.RefreshToken
