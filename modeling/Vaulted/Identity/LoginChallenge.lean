import Vaulted.Identity.KeyBinding

/-!
# Login challenges of an identity

`identityChallenge` draws a challenge and stores nothing; `identityToken` takes whatever challenge
the request brings, and looks in it for the id, the wallet and the recipient key as substrings.

* `Call` — the two handlers; `Accepts` — a login with a challenge and a signature succeeds.
* `Bound` — a challenge with its signature is good for one request, once, after it has been
  issued for the identity, and for a wallet that its signer controls.
* `accepted_of_prefix` — a login stays good for every prefix of its wallet.
* `Acceptable` — some login with the challenge and the signature would succeed.
* `bound_iff` — a challenge is bound exactly where no login can use it.
-/

namespace Vaulted.LoginChallenge

open Autocommit.Prog Identity

/-! ## The system -/

inductive Call
  | Challenge (env : Env) (nonce : List UInt8) (identityId : String)
  | Token (env : Env) (req : IdentityTokenRequest)

variable (ed : Ed25519) (codec : TextCodec)

def step (db : Db) : Call → Db
  | .Challenge env nonce identityId => (identityChallenge env nonce identityId db).2
  | .Token env req => (identityToken ed codec env req db).2

/-- The database after a run of calls. -/
abbrev exec (db : Db) (calls : List Call) : Db := Runs.exec (step ed codec) db calls

/-- The login is one with the challenge and the signature, and it succeeds. -/
structure Accepts (db : Db) (challenge signature : String) (env : Env)
    (req : IdentityTokenRequest) (answer : IdentityTokenResponse) : Prop where
  challenge : req.challenge = challenge
  signature : req.signature = signature
  accepted : (identityToken ed codec env req db).1 = .ok answer

/-- The challenge opens with one that has been issued for the identity, and that is still good. -/
def Issued (db : Db) (calls : List Call) (challenge identityId : String) (now : Time) : Prop :=
  ∃ a env nonce b issued, calls = a ++ .Challenge env nonce identityId :: b
    ∧ (identityChallenge env nonce identityId (exec ed codec db a)).1 = .ok issued
    ∧ Text.startsWith challenge issued.challenge = true ∧ now ≤ issued.expiresAt

/-- The identity, the wallet and the recipient key of a login. -/
def triple (req : IdentityTokenRequest) : String × String × Option String :=
  (req.identityId, Text.trim req.walletAddress, req.prePublicKey)

/-- A challenge and its signature are good for one request, once: for an identity that it has been
issued to, before it expires; `controls` tells which wallets belong to a signing key. -/
structure Bound (controls : String → String → Prop) (db : Db) (challenge signature : String) :
    Prop where
  single : ∀ a env req answer b env' req' answer',
    Accepts ed codec (exec ed codec db a) challenge signature env req answer →
    Accepts ed codec (exec ed codec db b) challenge signature env' req' answer' →
    triple req = triple req'
  once : ∀ a env req answer b env' req' answer',
    Accepts ed codec (exec ed codec db a) challenge signature env req answer →
    ¬ Accepts ed codec (exec ed codec db (a ++ .Token env req :: b)) challenge signature env' req'
      answer'
  issued : ∀ a env req answer,
    Accepts ed codec (exec ed codec db a) challenge signature env req answer →
    Issued ed codec db a challenge req.identityId env.now
  controlled : ∀ a env req answer,
    Accepts ed codec (exec ed codec db a) challenge signature env req answer →
    ∃ identity, activeIdentity req.identityId (exec ed codec db a) = some identity
      ∧ controls identity.signingPublicKey answer.accessToken.sub

/-! ## The condition -/

/-- An active identity has signed the challenge, which contains its id and names a wallet. -/
def Acceptable (db : Db) (challenge signature : String) : Prop :=
  ∃ identityId identity wallet, activeIdentity identityId db = some identity
    ∧ Text.isEmpty (Text.trim wallet) = false
    ∧ Text.contains challenge ("vaulted-v1:" ++ identityId) = true
    ∧ Text.contains challenge ("wallet_address:" ++ Text.trim wallet) = true
    ∧ verifyEd25519Hex ed codec identity.signingPublicKey (Text.utf8 challenge) signature = .ok ()

/-! ## A login -/

variable {ed codec}

/-- **A login stays good for every prefix of its wallet.** -/
theorem accepted_of_prefix {req : IdentityTokenRequest} {db : Db} {identity : VaultedIdentity}
    (haccept : Accepted ed codec req db identity) {wallet : String}
    (hopens : wallet.toList <+: (Text.trim req.walletAddress).toList)
    (htrim : Text.trim wallet = wallet) (hwallet : Text.isEmpty wallet = false) :
    Accepted ed codec { req with walletAddress := wallet } db identity := by
  refine { haccept with wallet := ?_, boundWallet := ?_ }
  · rw [htrim, hwallet]
  · have hbound := Text.contains_iff.mp haccept.boundWallet
    rw [String.toList_append] at hbound
    refine Text.contains_iff.mpr ?_
    rw [htrim, String.toList_append]
    exact ((List.prefix_append_right_inj _).mpr hopens).isInfix.trans hbound

lemma accepted_of_accepts {db : Db} {challenge signature : String} {env : Env}
    {req : IdentityTokenRequest} {answer : IdentityTokenResponse}
    (h : Accepts ed codec db challenge signature env req answer) :
    ∃ identity, Accepted ed codec req db identity := by
  have hspec := identityToken_spec ed codec env req db
  simp only [wp, h.accepted] at hspec
  generalize (identityToken ed codec env req db).2 = db' at hspec
  cases hspec with
  | Issued identity _ haccept => exact ⟨identity, haccept⟩
  | Linked identity _ _ _ _ haccept => exact ⟨identity, haccept⟩

/-- A login without a recipient key succeeds, and changes nothing. -/
lemma identityToken_of_accepted (env : Env) {req : IdentityTokenRequest} {db : Db}
    {identity : VaultedIdentity} (haccept : Accepted ed codec req db identity)
    (hkey : req.prePublicKey = none) :
    ∃ answer, identityToken ed codec env req db = (.ok answer, db) := by
  rw [identityToken, run_read, run_expect haccept.registered]
  dsimp only
  rw [run_require (by rw [haccept.wallet]; rfl), run_require haccept.boundIdentity,
    run_require haccept.boundWallet, run_lift haccept.boundKey, run_lift haccept.signed,
    run_lift haccept.device, hkey]
  exact ⟨_, rfl⟩

lemma activeIdentity_step (db : Db) (call : Call) (id : String) :
    activeIdentity id (step ed codec db call) = activeIdentity id db := by
  cases call with
  | Challenge env nonce identityId => rfl
  | Token env req =>
      have hspec := identityToken_spec ed codec env req db
      simp only [wp, step] at hspec ⊢
      generalize (identityToken ed codec env req db).1 = r at hspec
      generalize (identityToken ed codec env req db).2 = db' at hspec ⊢
      cases hspec with
      | Refused e => rfl
      | Issued identity answer => rfl
      | Linked identity key address answer db₁ haccept hkey haddress hupsert =>
          obtain ⟨users, -, rfl⟩ := upsertRecipientKey_eq_ok hupsert
          rfl

/-! ## A run -/

lemma activeIdentity_exec (db : Db) (calls : List Call) (id : String) :
    activeIdentity id (exec ed codec db calls) = activeIdentity id db := by
  induction calls generalizing db with
  | nil => rfl
  | cons call calls ih => exact (ih _).trans (activeIdentity_step db call id)

/-- Whatever login succeeds at some point of a run was acceptable from the start. -/
lemma acceptable_of_accepts {db : Db} {calls : List Call} {challenge signature : String}
    {env : Env} {req : IdentityTokenRequest} {answer : IdentityTokenResponse}
    (h : Accepts ed codec (exec ed codec db calls) challenge signature env req answer) :
    Acceptable ed codec db challenge signature := by
  obtain ⟨identity, haccept⟩ := accepted_of_accepts h
  refine ⟨req.identityId, identity, req.walletAddress, ?_, haccept.wallet, ?_, ?_, ?_⟩
  · rw [← activeIdentity_exec db calls]
    exact haccept.registered
  · rw [← h.challenge]
    exact haccept.boundIdentity
  · rw [← h.challenge]
    exact haccept.boundWallet
  · rw [← h.challenge, ← h.signature]
    exact haccept.signed

/-- **A challenge is bound exactly where no login can use it**: one that is good at all is good
twice. Nothing is stored when a challenge is handed out and nothing is looked up when it comes back,
so it does not expire, and it may have been issued by anybody. -/
theorem bound_iff (controls : String → String → Prop) (db : Db) (challenge signature : String) :
    Bound ed codec controls db challenge signature
      ↔ ¬ Acceptable ed codec db challenge signature := by
  constructor
  · rintro hbound ⟨identityId, identity, wallet, hidentity, hwallet, hboundId, hboundWallet, hsigned⟩
    let req : IdentityTokenRequest :=
      { identityId
        walletAddress := wallet
        prePublicKey := none
        challenge
        signature
        devicePublicKey := none }
    have haccept : Accepted ed codec req db identity :=
      ⟨hidentity, hwallet, hboundId, hboundWallet, rfl, hsigned, rfl⟩
    obtain ⟨answer, hanswer⟩ := identityToken_of_accepted default haccept rfl
    have hfirst : Accepts ed codec db challenge signature default req answer :=
      ⟨rfl, rfl, congrArg Prod.fst hanswer⟩
    have hsame : exec ed codec db [.Token default req] = db := congrArg Prod.snd hanswer
    refine hbound.once [] default req answer [] default req answer hfirst ?_
    rw [List.nil_append, hsame]
    exact hfirst
  · intro hnone
    exact
      { single := fun a env req answer b env' req' answer' h _ =>
          absurd (acceptable_of_accepts h) hnone
        once := fun a env req answer b env' req' answer' h _ => hnone (acceptable_of_accepts h)
        issued := fun a env req answer h => absurd (acceptable_of_accepts h) hnone
        controlled := fun a env req answer h => absurd (acceptable_of_accepts h) hnone }

/-! ## A prefix of the wallet

Alice signs a challenge for her wallet. -/

namespace Sample

open Transfers.Sample RecipientKey.Sample KeyBinding.Sample

def challenge : String :=
  "Vaulted identity login:vaulted-v1:alice:00\nwallet_address:rAlice12\n"

def signature : String := Text.hexEncode (Ed25519.sign (signingKey 1) (Text.utf8 challenge))

def login (wallet : String) : IdentityTokenRequest where
  identityId := "alice"
  walletAddress := wallet
  prePublicKey := none
  challenge := challenge
  signature := signature
  devicePublicKey := none

/-- **The challenge for one wallet is good for another**, whose address it opens with. -/
theorem not_bound : ¬ Bound Ed25519.transparent JsonText.compact (fun _ _ => True) registered
    challenge signature := by
  intro hbound
  have accepts : ∀ wallet, ((identityToken Ed25519.transparent JsonText.compact (env ⟨"e"⟩)
        (login wallet) registered).1.toOption).isSome = true →
      ∃ answer, Accepts Ed25519.transparent JsonText.compact registered challenge signature
        (env ⟨"e"⟩) (login wallet) answer := by
    intro wallet h
    obtain ⟨answer, hanswer⟩ := Option.isSome_iff_exists.mp h
    exact ⟨answer, rfl, rfl, eq_ok_of_toOption hanswer⟩
  obtain ⟨answer, hfirst⟩ := accepts "rAlice12" (by decide +kernel)
  obtain ⟨answer', hsecond⟩ := accepts "rAlice1" (by decide +kernel)
  have hsame := hbound.single [] _ _ answer [] _ _ answer' hfirst hsecond
  exact absurd hsame (by decide +kernel)

end Sample

end Vaulted.LoginChallenge
