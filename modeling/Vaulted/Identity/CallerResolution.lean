import Vaulted.Identity.KeyBinding

/-!
# Which identity a caller acts as

A caller is authenticated by a wallet and acts as an identity, through the table that links the
two.  Links are written by `registerIdentity`, which anybody may call, and by `identityToken`,
which has the signature of the identity and nothing of the wallet.

* `Links` — the calls that link a wallet to an identity.
* `JointlyLinked` — the holders of the wallet and of the identity have both taken part in that.
* `Sound` — a caller acts as itself or as an identity it has been linked to jointly, and is
  ambiguous between such identities only.
* `sound_of_unlinked` — a run that links no foreign wallet.
* `not_sound` — somebody registers an identity with his own wallet, and acts as it.
-/

namespace Vaulted.CallerResolution

open Autocommit.Prog Identity VaultObjects

/-! ## The system -/

inductive Call
  | Identity (c : KeyBinding.Call)
  | RegisterObject (auth : AuthenticatedUser) (req : RegisterVaultObjectRequest)

variable (ed : Ed25519) (codec : TextCodec) (rfc3339 : DateTime → String) (state : AppState)

def step (db : Db) : Call → Db
  | .Identity c => KeyBinding.step ed codec rfc3339 state db c
  | .RegisterObject auth req => (registerVaultObject auth req db).2

/-- The database after a run of calls. -/
abbrev exec (db : Db) (calls : List Call) : Db := Runs.exec (step ed codec rfc3339 state) db calls

/-- The call links a wallet to an identity. -/
inductive Links (db : Db) : Call → String → String → Prop
  | Registered (env : Env) (req : RegisterIdentityRequest) (wallet : LinkedWalletRequest) :
      Registrable req → wallet ∈ req.linkedWallets → wallet.chain = "xrpl" →
      Links db (.Identity (.Register env req)) (req.identityId state) wallet.address
  | LoggedIn (env : Env) (req : IdentityTokenRequest) (identity : VaultedIdentity)
      (prePublicKey : String) : Accepted ed codec req db identity →
      req.prePublicKey = some prePublicKey →
      Links db (.Identity (.Token env req)) req.identityId (Text.trim req.walletAddress)

/-- The holder of a wallet takes part in a call: with a token of the wallet, or with a signature
that its key has made. -/
def WalletTakesPart (xrplSigned : String → String → Prop) (wallet : String) : Call → Prop
  | .Identity (.Register _ req) => ∃ lw ∈ req.linkedWallets, lw.chain = "xrpl"
      ∧ lw.address = wallet ∧ ∃ sig, lw.proofSignature = some sig ∧ xrplSigned wallet sig
  | .Identity (.CreateGrant _ auth _) => auth.walletAddress = wallet
  | .Identity (.RevokeGrant auth _ _) => auth.walletAddress = wallet
  | .RegisterObject auth _ => auth.walletAddress = wallet
  | _ => False

/-- The holder of the signing key of an identity takes part in a call. -/
def IdentityTakesPart (identityId : String) (db : Db) : Call → Prop
  | .Identity c =>
      ∃ message sig, KeyBinding.Verifies ed codec rfc3339 state db c identityId message sig
  | .RegisterObject _ _ => False

section Runs

variable (xrplSigned : String → String → Prop)

/-- A step has linked the two, and the holders of both have taken part in it. -/
def JointlyLinked (identityId wallet : String) (db : Db) (calls : List Call) : Prop :=
  ∃ a c b, calls = a ++ c :: b
    ∧ Links ed codec state (exec ed codec rfc3339 state db a) c identityId wallet
    ∧ WalletTakesPart xrplSigned wallet c
    ∧ IdentityTakesPart ed codec rfc3339 state identityId (exec ed codec rfc3339 state db a) c

/-- A caller may act as the identity. -/
def Entitled (wallet identityId : String) (db : Db) (calls : List Call) : Prop :=
  identityId = wallet ∨ JointlyLinked ed codec rfc3339 state xrplSigned identityId wallet db calls

def ambiguous : ApiError :=
  .Forbidden "authenticated subject is linked to multiple Vaulted identities"

/-- Callers are resolved to identities they are entitled to. -/
structure Sound (db : Db) (calls : List Call) : Prop where
  resolved : ∀ pre post, calls = pre ++ post → ∀ auth requested fieldName identityId,
    Resolves auth requested fieldName (exec ed codec rfc3339 state db pre) identityId →
    Entitled ed codec rfc3339 state xrplSigned auth.walletAddress identityId db pre
  unambiguous : ∀ pre post, calls = pre ++ post → ∀ auth requested fieldName,
    (authenticatedIdentityForRequest auth requested fieldName
      (exec ed codec rfc3339 state db pre)).1 = .error ambiguous →
    ∃ i j, i ≠ j ∧ Entitled ed codec rfc3339 state xrplSigned auth.walletAddress i db pre
      ∧ Entitled ed codec rfc3339 state xrplSigned auth.walletAddress j db pre

end Runs

/-! ## The condition -/

/-- The two are not the same, and the address is no identity itself. -/
def Foreign (identityId wallet : String) : Prop :=
  identityId ≠ wallet ∧ isCanonicalVaultedIdentityId wallet = false

/-- No call of the run links a foreign wallet. The link of a caller to itself, or of a caller who is
an identity, does no harm: it is never looked up. -/
def Unlinked : Db → List Call → Prop :=
  Runs.Guarded (step ed codec rfc3339 state) fun db c =>
    ¬ ∃ identityId wallet, Links ed codec state db c identityId wallet ∧ Foreign identityId wallet

/-! ## A step -/

/-- No foreign wallet is linked. This is the invariant: whoever is resolved by a link then is
resolved to an id of their own. -/
def Own (db : Db) : Prop :=
  ∀ lw ∈ db.linkedWallets.rows, lw.chain = "xrpl" → ¬ Foreign lw.identityId lw.address

lemma Own.upsertLink {db : Db} {lw : LinkedWallet} {f : LinkedWallet → LinkedWallet}
    {hf : ∀ old, (f old).key = old.key} (hown : Own db)
    (hlw : lw.chain = "xrpl" → ¬ Foreign lw.identityId lw.address) :
    Own (Identity.upsertLink lw f hf db) := by
  intro o ho hchain
  rcases Table.mem_upsert ho with hmem | rfl | ⟨old, hold, rfl⟩
  · exact hown o hmem hchain
  · exact hlw hchain
  · -- the link keeps its key, which is the one of `lw`
    have hkey : (f old).key = lw.key := (hf old).trans (Table.key_of_get? hold)
    obtain ⟨hid, hch, haddr⟩ : (f old).identityId = lw.identityId ∧ (f old).chain = lw.chain
        ∧ (f old).address = lw.address := by
      simpa [LinkedWallet.key] using hkey
    rw [hid, haddr]
    exact hlw (hch.symm.trans hchain)

lemma Own.linkWallets {env : Env} {identityId : String} {wallets : List LinkedWalletRequest}
    {db : Db} (hown : Own db)
    (hwallets : ∀ w ∈ wallets, w.chain = "xrpl" → ¬ Foreign identityId w.address) :
    Own (Identity.linkWallets env identityId wallets db) := by
  unfold Identity.linkWallets
  induction wallets generalizing db with
  | nil => exact hown
  | cons w wallets ih =>
      refine ih (hown.upsertLink (hwallets w (List.mem_cons_self))) fun w' hw' => ?_
      exact hwallets w' (List.mem_cons_of_mem _ hw')

/-- **A call that links no foreign wallet leaves none linked.** -/
theorem Own.step {db : Db} {c : Call} (hown : Own db) (hunlinked : ¬ ∃ identityId wallet,
    Links ed codec state db c identityId wallet ∧ Foreign identityId wallet) :
    Own (step ed codec rfc3339 state db c) := by
  have same : ∀ {db'}, db'.linkedWallets = db.linkedWallets → Own db' := by
    intro db' h lw hlw
    rw [h] at hlw
    exact hown lw hlw
  cases c with
  | Identity c =>
      cases c with
      | Register env req =>
          have hspec := registerIdentity_spec state env req db
          simp only [wp, CallerResolution.step, KeyBinding.step] at hspec ⊢
          generalize (registerIdentity state env req db).1 = r at hspec
          generalize (registerIdentity state env req db).2 = db' at hspec ⊢
          cases hspec with
          | Refused e => exact hown
          | Registered protocolVersion answer hregistrable =>
              refine Own.linkWallets (same rfl) fun w hw hchain hforeign => ?_
              exact hunlinked ⟨_, _, .Registered env req w hregistrable hw hchain, hforeign⟩
      | Token env req =>
          have hspec := identityToken_spec ed codec env req db
          simp only [wp, CallerResolution.step, KeyBinding.step] at hspec ⊢
          generalize (identityToken ed codec env req db).1 = r at hspec
          generalize (identityToken ed codec env req db).2 = db' at hspec ⊢
          cases hspec with
          | Refused e => exact hown
          | Issued identity answer => exact hown
          | Linked identity key address answer db₁ haccept hkey haddress hupsert =>
              obtain ⟨users, -, rfl⟩ := upsertRecipientKey_eq_ok hupsert
              refine Own.upsertLink (same rfl) fun _ hforeign => ?_
              exact hunlinked ⟨_, _, .LoggedIn env req identity key haccept hkey, hforeign⟩
      | ConfirmQr env req =>
          have hspec := QrAuth.confirmQrLogin_spec ed state env req db
          simp only [wp, CallerResolution.step, KeyBinding.step] at hspec ⊢
          generalize (QrAuth.confirmQrLogin ed state env req db).1 = r at hspec
          generalize (QrAuth.confirmQrLogin ed state env req db).2 = db' at hspec ⊢
          cases hspec with
          | Refused e qrLoginRequests => exact same rfl
          | Approved row identity answer => exact same rfl
      | CreateGrant env auth req =>
          have hspec := createGrant_spec ed codec rfc3339 state env auth req db
          simp only [wp, CallerResolution.step, KeyBinding.step] at hspec ⊢
          generalize (createGrant ed codec rfc3339 state env auth req db).1 = r at hspec
          generalize (createGrant ed codec rfc3339 state env auth req db).2 = db' at hspec ⊢
          cases hspec with
          | Refused e => exact hown
          | Granted vo owner envelope key _ hgrantable hupsert =>
              obtain rfl := upsertGrant_eq_ok hupsert
              exact same rfl
      | RevokeGrant auth grantId ownerIdentityId =>
          have hspec := revokeGrant_spec auth grantId ownerIdentityId db
          simp only [wp, CallerResolution.step, KeyBinding.step] at hspec ⊢
          generalize (revokeGrant auth grantId ownerIdentityId db).1 = r at hspec
          generalize (revokeGrant auth grantId ownerIdentityId db).2 = db' at hspec ⊢
          cases hspec with
          | Refused e => exact hown
          | Revoked caller g answer => exact same rfl
  | RegisterObject auth req =>
      have hspec := registerVaultObject_spec auth req db
      simp only [wp, CallerResolution.step] at hspec ⊢
      generalize (registerVaultObject auth req db).1 = r at hspec
      generalize (registerVaultObject auth req db).2 = db' at hspec ⊢
      cases hspec with
      | Refused e => exact hown
      | Registered caller answer db' hcaller hmanifest hupsert =>
          obtain ⟨-, rfl⟩ := upsertObject_eq_ok hupsert
          exact same rfl

/-! ## Resolving a caller -/

/-- A caller without a canonical id acts as itself where no foreign wallet is linked. -/
lemma Own.identityId_of_liveLinks {wallet : String} {db : Db} {lw : LinkedWallet} (hown : Own db)
    (hwallet : isCanonicalVaultedIdentityId wallet = false) (hlw : lw ∈ liveLinks wallet db) :
    lw.identityId = wallet := by
  obtain ⟨hmem, hchain, rfl, -⟩ := liveLinks_iff.mp hlw
  by_contra hother
  exact hown lw hmem hchain ⟨hother, hwallet⟩

lemma Own.self_of_resolves {auth : AuthenticatedUser} {requested : Option String}
    {fieldName identityId : String} {db : Db} (hown : Own db)
    (h : Resolves auth requested fieldName db identityId) : identityId = auth.walletAddress := by
  by_cases hwallet : isCanonicalVaultedIdentityId auth.walletAddress = false
  · rcases h.own_or_linked with hself | ⟨lw, hlw, rfl⟩
    · exact hself
    · exact hown.identityId_of_liveLinks hwallet hlw
  · -- a canonical id is never looked up among the links
    have hwallet : isCanonicalVaultedIdentityId auth.walletAddress = true := by simpa using hwallet
    unfold Resolves authenticatedIdentityForRequest at h
    cases hrequested : (requested.map Text.trim).filter fun v => !Text.isEmpty v with
    | some requestedId =>
        simp only [hrequested] at h
        split_ifs at h with hself
        · exact (Except.ok.inj h).symm.trans hself
        · rw [hwallet] at h
          cases h
    | none =>
        simp only [hrequested, if_pos hwallet] at h
        exact (Except.ok.inj h).symm

/-- A caller is ambiguous between two identities that its wallet is linked to. -/
lemma linked_of_ambiguous {auth : AuthenticatedUser} {requested : Option String}
    {fieldName : String} {db : Db}
    (h : (authenticatedIdentityForRequest auth requested fieldName db).1 = .error ambiguous) :
    isCanonicalVaultedIdentityId auth.walletAddress = false
      ∧ ∃ i j, i ≠ j ∧ i ∈ linkedIdentities auth.walletAddress db
        ∧ j ∈ linkedIdentities auth.walletAddress db := by
  have mismatch : ApiError.Forbidden (fieldName ++ " does not match authenticated identity")
      ≠ ambiguous := by
    intro heq
    have hlast := congrArg (fun s : String => s.toList.getLast?) (ApiError.Forbidden.inj heq)
    simp [String.toList_append, List.getLast?_append] at hlast
  have hspec : ∀ r : Except ApiError String, r = .error ambiguous →
      r = .error (.Forbidden (fieldName ++ " does not match authenticated identity")) → False := by
    rintro r rfl hr
    exact mismatch (Except.error.inj hr).symm
  unfold authenticatedIdentityForRequest at h
  cases hrequested : (requested.map Text.trim).filter fun v => !Text.isEmpty v with
  | some requestedId =>
      exfalso
      simp only [hrequested] at h
      split_ifs at h with hself
      cases hcanonical : isCanonicalVaultedIdentityId auth.walletAddress with
      | true =>
          rw [hcanonical] at h
          exact hspec _ h rfl
      | false =>
          rw [hcanonical, Bool.not_false, run_require rfl, run_read] at h
          cases hlinked : isLinked requestedId auth.walletAddress db with
          | true => rw [hlinked] at h; cases h
          | false => rw [hlinked] at h; exact hspec _ h rfl
  | none =>
      simp only [hrequested] at h
      split_ifs at h with hcanonical
      refine ⟨by simpa using hcanonical, ?_⟩
      rw [run_read] at h
      have hnodup := nodup_linkedIdentities auth.walletAddress db
      rcases hrows : linkedIdentities auth.walletAddress db with _ | ⟨i, _ | ⟨j, rest⟩⟩
      · rw [hrows] at h
        exact absurd (ApiError.Forbidden.inj (Except.error.inj h)) (by decide)
      · rw [hrows] at h
        cases h
      · rw [hrows] at hnodup
        refine ⟨i, j, fun hij => ?_, by simp, by simp⟩
        exact (List.nodup_cons.mp hnodup).1 (by simp [hij])

/-! ## A run -/

variable {ed codec rfc3339 state}

/-- **In a run that links no foreign wallet, callers act as themselves.** A wallet is linked when it
is listed in a registration, or named in a login, and neither asks the wallet for its signature. -/
theorem sound_of_unlinked (xrplSigned : String → String → Prop) {db : Db} {calls : List Call}
    (hnew : db.linkedWallets.rows = []) (hunlinked : Unlinked ed codec rfc3339 state db calls) :
    Sound ed codec rfc3339 state xrplSigned db calls := by
  have hown : ∀ pre post, calls = pre ++ post → Own (exec ed codec rfc3339 state db pre) := by
    rintro pre post rfl
    refine Runs.preserved_guarded (P := Own) (fun db c hown hc =>
      hown.step ed codec rfc3339 state hc) (fun lw hlw => ?_) hunlinked.front
    rw [hnew] at hlw
    cases hlw
  constructor
  · intro pre post heq auth requested fieldName identityId h
    exact .inl ((hown pre post heq).self_of_resolves h)
  · intro pre post heq auth requested fieldName h
    obtain ⟨hwallet, i, j, hne, hi, hj⟩ := linked_of_ambiguous h
    obtain ⟨lw, hlw, rfl⟩ := mem_linkedIdentities hi
    obtain ⟨lw', hlw', rfl⟩ := mem_linkedIdentities hj
    refine absurd ?_ hne
    rw [(hown pre post heq).identityId_of_liveLinks hwallet hlw,
      (hown pre post heq).identityId_of_liveLinks hwallet hlw']

/-! ## A registration that names the registrant's wallet

The keys of Alice's identity are public.  Mallory registers her identity once more, with the
same keys and with his wallet. -/

namespace Sample

open Transfers.Sample Tombstone.Sample RecipientKey.Sample KeyBinding.Sample

def mallory : AuthenticatedUser where
  walletAddress := "rMallory"
  tokenId := ""
  role := "user"

/-- A registration of Alice's keys under an id, with wallets. -/
def registration (id : String) (wallets : List LinkedWalletRequest) : Call :=
  .Identity (.Register (env ⟨"e"⟩)
    { vaultedIdentityId := some id
      encryptionPublicKey := Text.hexEncode (signingKey 1)
      signingPublicKey := Text.hexEncode (signingKey 1)
      devicePublicKey := none
      protocolVersion := none
      linkedWallets := wallets })

def malloryWallet : LinkedWalletRequest where
  chain := "xrpl"
  address := "rMallory"
  proofSignature := none

/-- **Mallory acts as Alice**, without a signature of hers. -/
theorem not_sound : ¬ Sound Ed25519.transparent JsonText.compact (fun _ => "") oracle
    (fun _ _ => True) registered [registration "alice" [malloryWallet]] := by
  intro hsound
  have hacts : Resolves mallory none "identity_id" (exec Ed25519.transparent JsonText.compact
      (fun _ => "") oracle registered [registration "alice" [malloryWallet]]) "alice" := by
    refine eq_ok_of_toOption ?_
    decide +kernel
  rcases hsound.resolved _ [] rfl mallory none "identity_id" "alice" hacts with
    hself | ⟨a, c, b, heq, -, -, hpart⟩
  · exact absurd hself (by decide)
  · have hc : c = registration "alice" [malloryWallet] := by
      simpa using (heq ▸ List.mem_append_right a (List.mem_cons_self) :
        c ∈ [registration "alice" [malloryWallet]])
    subst hc
    obtain ⟨message, sig, hverifies⟩ := hpart
    cases hverifies

/-- An address of another chain, and Alice's identity in the place of a wallet. -/
def harmlessWallets : List LinkedWalletRequest :=
  [{ chain := "evm", address := "0xAlice", proofSignature := none },
    { chain := "xrpl", address := "alice", proofSignature := none }]

/-- A registration whose wallets are harmless, and a login that is accepted. -/
theorem registration_sound : Sound Ed25519.transparent JsonText.compact (fun _ => "") oracle
    (fun _ _ => True) registered
    [registration "alice" harmlessWallets, .Identity (.Token (env ⟨"e"⟩) aliceLogin)] := by
  refine sound_of_unlinked _ (by decide +kernel) ⟨?_, ?_, trivial⟩
  · rintro ⟨identityId, wallet, hlinks, hforeign⟩
    cases hlinks with
    | Registered env req w _ hw hchain =>
        obtain rfl | rfl : w = ⟨"evm", "0xAlice", none⟩ ∨ w = ⟨"xrpl", "alice", none⟩ := by
          simpa [harmlessWallets] using hw
        · exact absurd hchain (by decide)
        · exact hforeign.1 rfl
  · rintro ⟨identityId, wallet, hlinks, -⟩
    cases hlinks with
    | LoggedIn env req identity prePublicKey _ hkey => cases hkey

/-- Alice's login is accepted after it. -/
example : (identityToken Ed25519.transparent JsonText.compact (env ⟨"e"⟩) aliceLogin
    (exec Ed25519.transparent JsonText.compact (fun _ => "") oracle registered
      [registration "alice" harmlessWallets])).1.toOption.isSome = true := by decide +kernel

end Sample

end Vaulted.CallerResolution
