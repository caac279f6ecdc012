import Vaulted.Identity.RecipientKey
import Vaulted.Library.Runs
import Vaulted.Oracle.QrAuth
import Vaulted.Oracle.VaultObjects

/-!
# The keys of an identity

Whoever logs in as an identity, approves a QR login with it or grants access to its files has to
sign with the key that is stored for it.  The key is stored by `registerIdentity`, which anybody
may call, for any id.

* `Call` — registration and everything that reads the keys back.
* `Verifies` — a call that succeeds because of a signature made for an identity.
* `KeyBound` — the keys of an identity change only in such a call, so that each later signature
  is one of the first key.
* `Rebinds` — the registrations that replace keys; `keyBound_of_loyal` — a run without them.
* `not_keyBound` — a stranger registers his own key for an identity that is there.
-/

namespace Vaulted.KeyBinding

open Autocommit.Prog Identity QrAuth VaultObjects

/-! ## The system -/

inductive Call
  | Register (env : Env) (req : RegisterIdentityRequest)
  | Token (env : Env) (req : IdentityTokenRequest)
  | ConfirmQr (env : Env) (req : QrLoginConfirmRequest)
  | CreateGrant (env : Env) (auth : AuthenticatedUser) (req : CreateGrantRequest)
  | RevokeGrant (auth : AuthenticatedUser) (grantId : Uuid) (ownerIdentityId : Option String)

variable (ed : Ed25519) (codec : TextCodec) (rfc3339 : DateTime → String) (state : AppState)

def step (db : Db) : Call → Db
  | .Register env req => (registerIdentity state env req db).2
  | .Token env req => (identityToken ed codec env req db).2
  | .ConfirmQr env req => (confirmQrLogin ed state env req db).2
  | .CreateGrant env auth req => (createGrant ed codec rfc3339 state env auth req db).2
  | .RevokeGrant auth grantId ownerIdentityId => (revokeGrant auth grantId ownerIdentityId db).2

/-- The database after a run of calls. -/
abbrev exec (db : Db) (calls : List Call) : Db := Runs.exec (step ed codec rfc3339 state) db calls

/-- The signing and the encryption key of an identity. -/
def keysOf (id : String) (db : Db) : Option (String × String) :=
  (db.identities.get? id).map fun i => (i.signingPublicKey, i.encryptionPublicKey)

/-- The call succeeds, and its signature of the message has been checked for the identity. -/
inductive Verifies (db : Db) : Call → String → List UInt8 → List UInt8 → Prop
  | LoggedIn (env : Env) (req : IdentityTokenRequest) (answer : IdentityTokenResponse)
      (sig : List UInt8) : (identityToken ed codec env req db).1 = .ok answer →
      hexOrBase64 codec req.signature = .ok sig →
      Verifies db (.Token env req) req.identityId (Text.utf8 req.challenge) sig
  | Approved (env : Env) (req : QrLoginConfirmRequest) (answer : QrLoginConfirmResponse)
      (row : QrLoginRequest) (sig : List UInt8) :
      (confirmQrLogin ed state env req db).1 = .ok answer →
      parseUuid req.loginRequestId = some row.id → db.qrLoginRequests.get? row.id = some row →
      Text.hexDecode req.signature = .ok sig →
      Verifies db (.ConfirmQr env req) req.identityId (Text.utf8 (qrLoginSignatureMessage
        req.loginRequestId row.challenge (oracleUrl state) req.deviceId)) sig
  | Granted (env : Env) (auth : AuthenticatedUser) (req : CreateGrantRequest)
      (answer : GrantResponse) (vo : VaultObject) (sig : List UInt8) :
      (createGrant ed codec rfc3339 state env auth req db).1 = .ok answer →
      db.vaultObjects.get? req.vaultObjectId = some vo →
      hexOrBase64 codec req.ownerSignature = .ok sig →
      Verifies db (.CreateGrant env auth req) vo.ownerIdentityId (Text.utf8 (grantSignatureMessage
        state codec rfc3339 (grantContext req (req.id env) vo.ownerIdentityId vo
          answer.keyEnvelope))) sig

/-- The keys of an identity are bound to it: they change only in a call in which a signature is
checked for the identity, and what is checked later has been signed with the key that it had first.
-/
structure KeyBound (db : Db) (calls : List Call) : Prop where
  kept : ∀ pre call post, calls = pre ++ call :: post → ∀ id keys,
    keysOf id (exec ed codec rfc3339 state db pre) = some keys →
    keysOf id (exec ed codec rfc3339 state db (pre ++ [call])) ≠ some keys →
    ∃ message sig, Verifies ed codec rfc3339 state (exec ed codec rfc3339 state db pre) call id
      message sig
  verified : ∀ pre mid call post, calls = pre ++ (mid ++ call :: post) →
    ∀ id signing encryption,
    keysOf id (exec ed codec rfc3339 state db pre) = some (signing, encryption) →
    ∀ message sig, Verifies ed codec rfc3339 state (exec ed codec rfc3339 state db (pre ++ mid))
      call id message sig → ed.Signed signing message sig

/-! ## The condition -/

/-- A registration that passes its checks and gives an identity other keys. -/
def Rebinds (db : Db) : Call → Prop
  | .Register _ req => Registrable req ∧ ∃ keys, keysOf (req.identityId state) db = some keys
      ∧ keys ≠ (req.signingPublicKey, req.encryptionPublicKey)
  | _ => False

/-- No call of the run replaces the keys of an identity. Registering it again with the same keys is
harmless. -/
def Loyal : Db → List Call → Prop :=
  Runs.Guarded (step ed codec rfc3339 state) fun db call => ¬ Rebinds state db call

/-! ## A step -/

/-- The wallets of a registration are no keys. -/
lemma keysOf_linkWallets (env : Env) (identityId id : String) (wallets : List LinkedWalletRequest)
    (db : Db) : keysOf id (linkWallets env identityId wallets db) = keysOf id db := by
  unfold keysOf
  rw [identities_linkWallets]

lemma keysOf_upsertIdentity {i : VaultedIdentity} {id : String} {db : Db}
    {keys : String × String} (hkeys : keysOf id db = some keys)
    (hloyal : i.id = id → keys = (i.signingPublicKey, i.encryptionPublicKey)) :
    keysOf id (upsertIdentity i db) = some keys := by
  obtain ⟨old, hold, rfl⟩ := Option.map_eq_some_iff.mp hkeys
  have hget := Table.get?_upsert db.identities i
    (fun old => { old with
      signingPublicKey := i.signingPublicKey, encryptionPublicKey := i.encryptionPublicKey,
      protocolVersion := i.protocolVersion }) (fun _ => rfl) id
  split_ifs at hget with hid
  · rw [← hid, hold] at hget
    exact (congrArg _ hget).trans (congrArg some (hloyal hid.symm).symm)
  · exact (congrArg _ (hget.trans hold)).trans rfl

/-- **A step that does not rebind keeps all keys.** -/
theorem keysOf_step {db : Db} {call : Call} (hloyal : ¬ Rebinds state db call) {id : String}
    {keys : String × String} (hkeys : keysOf id db = some keys) :
    keysOf id (step ed codec rfc3339 state db call) = some keys := by
  cases call with
  | Register env req =>
      have hspec := registerIdentity_spec state env req db
      simp only [wp, step] at hspec ⊢
      generalize (registerIdentity state env req db).1 = r at hspec
      generalize (registerIdentity state env req db).2 = db' at hspec ⊢
      cases hspec with
      | Refused e => exact hkeys
      | Registered protocolVersion answer hregistrable =>
          rw [keysOf_linkWallets]
          refine keysOf_upsertIdentity hkeys fun hid => ?_
          by_contra hother
          have hid : req.identityId state = id := hid
          exact hloyal ⟨hregistrable, keys, by rw [hid, hkeys], hother⟩
  | Token env req =>
      have hspec := identityToken_spec ed codec env req db
      simp only [wp, step] at hspec ⊢
      generalize (identityToken ed codec env req db).1 = r at hspec
      generalize (identityToken ed codec env req db).2 = db' at hspec ⊢
      cases hspec with
      | Refused e => exact hkeys
      | Issued identity answer => exact hkeys
      | Linked identity key address answer db₁ haccept hkey haddress hupsert =>
          obtain ⟨users, -, rfl⟩ := upsertRecipientKey_eq_ok hupsert
          exact hkeys
  | ConfirmQr env req =>
      have hspec := confirmQrLogin_spec ed state env req db
      simp only [wp, step] at hspec ⊢
      generalize (confirmQrLogin ed state env req db).1 = r at hspec
      generalize (confirmQrLogin ed state env req db).2 = db' at hspec ⊢
      cases hspec with
      | Refused e qrLoginRequests => exact hkeys
      | Approved row identity answer => exact hkeys
  | CreateGrant env auth req =>
      have hspec := createGrant_spec ed codec rfc3339 state env auth req db
      simp only [wp, step] at hspec ⊢
      generalize (createGrant ed codec rfc3339 state env auth req db).1 = r at hspec
      generalize (createGrant ed codec rfc3339 state env auth req db).2 = db' at hspec ⊢
      cases hspec with
      | Refused e => exact hkeys
      | Granted vo owner envelope key _ hgrantable hupsert =>
          obtain rfl := upsertGrant_eq_ok hupsert
          exact hkeys
  | RevokeGrant auth grantId ownerIdentityId =>
      have hspec := revokeGrant_spec auth grantId ownerIdentityId db
      simp only [wp, step] at hspec ⊢
      generalize (revokeGrant auth grantId ownerIdentityId db).1 = r at hspec
      generalize (revokeGrant auth grantId ownerIdentityId db).2 = db' at hspec ⊢
      cases hspec with
      | Refused e => exact hkeys
      | Revoked caller g answer => exact hkeys

/-- A signature that has been checked for an identity verifies under its key. -/
theorem signed_of_verifies {db : Db} {call : Call} {id : String} {message sig : List UInt8}
    (h : Verifies ed codec rfc3339 state db call id message sig) :
    ∃ signing encryption, keysOf id db = some (signing, encryption)
      ∧ ed.Signed signing message sig := by
  have stored : ∀ {identity : VaultedIdentity}, activeIdentity id db = some identity →
      ed.Signed identity.signingPublicKey message sig →
      ∃ signing encryption, keysOf id db = some (signing, encryption)
        ∧ ed.Signed signing message sig := by
    intro identity hidentity hsigned
    have hget := (Option.filter_eq_some_iff.mp hidentity).1
    exact ⟨_, _, congrArg _ hget, hsigned⟩
  cases h with
  | LoggedIn env req answer sig' hok hsig =>
      have hspec := identityToken_spec ed codec env req db
      simp only [wp, hok] at hspec
      have haccept : ∃ identity, Accepted ed codec req db identity := by
        generalize (identityToken ed codec env req db).2 = db' at hspec
        cases hspec with
        | Issued identity _ haccept => exact ⟨identity, haccept⟩
        | Linked identity _ _ _ _ haccept => exact ⟨identity, haccept⟩
      obtain ⟨identity, haccept⟩ := haccept
      obtain ⟨sig', hsig', hsigned⟩ := Ed25519.signed_of_verifyWith haccept.signed
      obtain rfl := Except.ok.inj (hsig.symm.trans hsig')
      exact stored haccept.registered hsigned
  | Approved env req answer row sig' hok hid hrow hsig =>
      have hspec := confirmQrLogin_spec ed state env req db
      simp only [wp, hok] at hspec
      have happrovable : ∃ row identity, Approvable ed state env req db row identity := by
        generalize (confirmQrLogin ed state env req db).2 = db' at hspec
        cases hspec with
        | Approved row identity _ happrovable => exact ⟨row, identity, happrovable⟩
      obtain ⟨row', identity, happrovable⟩ := happrovable
      -- both rows are the one with the id of the request
      have hsame : row'.id = row.id :=
        Option.some.inj (happrovable.loginId.symm.trans hid)
      have hfound := happrovable.found
      rw [hsame, hrow] at hfound
      obtain rfl := Option.some.inj hfound
      obtain ⟨sig', hsig', hsigned⟩ := Ed25519.signed_of_verifyWith happrovable.signed
      obtain rfl := Except.ok.inj (hsig.symm.trans hsig')
      rw [← happrovable.key] at hsigned
      exact stored happrovable.registered hsigned
  | Granted env auth req answer vo sig' hok hvo hsig =>
      have hspec := createGrant_spec ed codec rfc3339 state env auth req db
      simp only [wp, hok] at hspec
      generalize (createGrant ed codec rfc3339 state env auth req db).2 = db' at hspec
      cases hspec with
      | Granted vo' owner envelope key _ hgrantable =>
          obtain rfl := Option.some.inj (hvo.symm.trans hgrantable.found)
          obtain ⟨sig', hsig', hsigned⟩ := signed_of_verifyGrantOwnerSignature hgrantable.signed
          obtain rfl := Except.ok.inj (hsig.symm.trans hsig')
          exact stored hgrantable.identity hsigned

/-! ## A run -/

variable {ed codec rfc3339 state}

lemma keysOf_exec {db : Db} {calls : List Call} (hloyal : Loyal ed codec rfc3339 state db calls)
    {id : String} {keys : String × String} (hkeys : keysOf id db = some keys) :
    keysOf id (exec ed codec rfc3339 state db calls) = some keys :=
  Runs.preserved_guarded (P := fun db => keysOf id db = some keys)
    (fun _ _ hkeys hloyal => keysOf_step ed codec rfc3339 state hloyal hkeys) hkeys hloyal

/-- **In a run that rebinds no identity, the keys are bound**: whoever is verified later has signed
with the first key. A registration needs no signature and replaces both keys of an identity that is
there already; no other call writes them. -/
theorem keyBound_of_loyal {db : Db} {calls : List Call}
    (hloyal : Loyal ed codec rfc3339 state db calls) :
    KeyBound ed codec rfc3339 state db calls where
  kept := by
    rintro pre call post rfl id keys hkeys hchanges
    rw [exec, Runs.exec_concat] at hchanges
    exact absurd (keysOf_step ed codec rfc3339 state hloyal.back.1 hkeys) hchanges
  verified := by
    rintro pre mid call post rfl id signing encryption hkeys message sig hverifies
    have hlater : keysOf id (exec ed codec rfc3339 state db (pre ++ mid))
        = some (signing, encryption) := by
      rw [exec, Runs.exec_append]
      exact keysOf_exec hloyal.back.front hkeys
    obtain ⟨signing', encryption', hkeys', hsigned⟩ :=
      signed_of_verifies ed codec rfc3339 state hverifies
    obtain ⟨rfl, -⟩ := Prod.mk.inj (Option.some.inj (hlater.symm.trans hkeys'))
    exact hsigned

/-! ## A registration of somebody else's identity -/

namespace Sample

open Transfers.Sample Tombstone.Sample RecipientKey.Sample

def alice : VaultedIdentity := identity 1 "alice"

def registered : Db := { identities with identities := ⟨[alice], List.nodup_singleton _⟩ }

/-- A registration of the `n`-th signing key. -/
def registration (n : UInt8) (id : String) : Call :=
  .Register (env ⟨"e"⟩)
    { vaultedIdentityId := some id
      encryptionPublicKey := Text.hexEncode (signingKey n)
      signingPublicKey := Text.hexEncode (signingKey n)
      devicePublicKey := none
      protocolVersion := none
      linkedWallets := [] }

/-- **A stranger replaces the keys of Alice's identity**, without a signature. -/
theorem not_keyBound : ¬ KeyBound Ed25519.transparent JsonText.compact (fun _ => "") oracle
    registered [registration 66 "alice"] := by
  intro hbound
  have hkeys : keysOf "alice" registered = some (Text.hexEncode (signingKey 1), "") := by
    decide +kernel
  have hchanged : keysOf "alice" (exec Ed25519.transparent JsonText.compact (fun _ => "") oracle
      registered [registration 66 "alice"]) ≠ some (Text.hexEncode (signingKey 1), "") := by
    decide +kernel
  obtain ⟨message, sig, hverifies⟩ := hbound.kept [] _ [] rfl "alice" _ hkeys hchanged
  cases hverifies

/-- Alice logs in with her key. -/
def aliceLogin : IdentityTokenRequest where
  identityId := "alice"
  walletAddress := "rAlice"
  prePublicKey := none
  challenge := "vaulted-v1:alice wallet_address:rAlice"
  signature := Text.hexEncode (Ed25519.sign (signingKey 1)
    (Text.utf8 "vaulted-v1:alice wallet_address:rAlice"))
  devicePublicKey := none

def beside : List Call := [registration 66 "mallory", .Token (env ⟨"e"⟩) aliceLogin]

/-- Mallory may register an identity of his own. Alice is then let in with her first key. -/
theorem beside_keyBound : KeyBound Ed25519.transparent JsonText.compact (fun _ => "") oracle
      registered beside
    ∧ ∃ message sig, Verifies Ed25519.transparent JsonText.compact (fun _ => "") oracle
      (exec Ed25519.transparent JsonText.compact (fun _ => "") oracle registered
        [registration 66 "mallory"]) (.Token (env ⟨"e"⟩) aliceLogin) "alice" message sig := by
  constructor
  · refine keyBound_of_loyal ⟨?_, id, trivial⟩
    rintro ⟨-, keys, hkeys, -⟩
    have hnew : keysOf "mallory" registered = none := by decide +kernel
    have hkeys : keysOf "mallory" registered = some keys := hkeys
    rw [hnew] at hkeys
    cases hkeys
  · have haccepted : (identityToken Ed25519.transparent JsonText.compact (env ⟨"e"⟩) aliceLogin
        (exec Ed25519.transparent JsonText.compact (fun _ => "") oracle registered
          [registration 66 "mallory"])).1.toOption.isSome = true := by
      decide +kernel
    obtain ⟨answer, hanswer⟩ := Option.isSome_iff_exists.mp haccepted
    refine ⟨_, Ed25519.sign (signingKey 1) (Text.utf8 aliceLogin.challenge),
      .LoggedIn _ _ answer _ (eq_ok_of_toOption hanswer) ?_⟩
    rw [hexOrBase64, aliceLogin, Text.hexDecode_hexEncode]

end Sample

end Vaulted.KeyBinding
