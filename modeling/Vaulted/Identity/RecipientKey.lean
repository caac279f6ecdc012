import Vaulted.Library.Runs
import Vaulted.Oracle.Users
import Vaulted.Transfer.HonestRequest
import Vaulted.Vault.Tombstone

/-!
# The encryption key of a wallet

`users.pre_public_key` is the key under which files are encrypted to a wallet.  Registration and
vault creation only ever write it for a wallet that is new; `updatePublicKey` writes it for the
wallet of its caller; and `identityToken` writes it for whichever wallet the holder of some
identity names.

* `Call` — the calls that write keys; a token remembers how its wallet was authenticated.
* `Proves` — the caller has proved possession of the wallet.
* `SetByHolder` — the holder of the wallet has written its key.
* `HolderKeeps` — from then on the key changes only in a step that proves the wallet, so that
  `getPublicKey` answers with a key its holder has chosen.
* `Overwrites` — the calls that change the key of a wallet without proving it.
* `holderKeeps_of_respected` — a run without such calls leaves the keys to the holders.
* `not_holderKeeps` — an identity takes over the key of a stranger's wallet.
-/

namespace Vaulted.RecipientKey

open Autocommit.Prog

/-! ## The system -/

/-- What a token was issued for: a signature of its wallet, or one of an identity that named it. -/
inductive Origin
  | WalletSignature
  | IdentityLogin
  deriving DecidableEq

inductive Call
  | RegisterUser (env : Env) (request : Users.RegisterUserRequest)
  | UpdatePublicKey (origin : Origin) (auth : AuthenticatedUser) (request : Users.UpdateKeyRequest)
  | CreateVault (origin : Origin) (env : Env) (auth : AuthenticatedUser)
      (req : Vaults.CreateVaultRequest)
  | IdentityToken (env : Env) (req : Identity.IdentityTokenRequest)

/-- A call and whoever makes it. -/
structure Act (Party : Type) where
  party : Party
  call : Call

variable {Party : Type} (ed : Ed25519) (codec : TextCodec) (state : AppState)

def call (db : Db) : Call → Db
  | .RegisterUser env request => (Users.registerUser env request db).2
  | .UpdatePublicKey _ auth request => (Users.updatePublicKey auth request db).2
  | .CreateVault _ env auth req => (Vaults.createVault state env auth req db).2
  | .IdentityToken env req => (Identity.identityToken ed codec env req db).2

def step (db : Db) (act : Act Party) : Db := call ed codec state db act.call

/-- The database after a run. -/
abbrev exec (db : Db) (acts : List (Act Party)) : Db := Runs.exec (step ed codec state) db acts

/-- `users.pre_public_key` of a wallet. -/
def keyOf (db : Db) (wallet : String) : Option String :=
  (db.userOf wallet).map User.prePublicKey

/-- The caller has proved possession of the wallet's own key. -/
def Proves (wallet : String) : Call → Prop
  | .UpdatePublicKey origin auth _ => origin = .WalletSignature ∧ auth.walletAddress = wallet
  | .CreateVault origin _ auth _ => origin = .WalletSignature ∧ auth.walletAddress = wallet
  | _ => False

/-- The calls that write the key of a wallet that is there already, and the key they write. -/
inductive Updates (db : Db) : Call → String → String → Prop
  | Updated (origin : Origin) (auth : AuthenticatedUser) (request : Users.UpdateKeyRequest) :
      Identity.isPrePublicKey request.prePublicKey = true →
      Updates db (.UpdatePublicKey origin auth request) auth.walletAddress request.prePublicKey
  | LoggedIn (env : Env) (req : Identity.IdentityTokenRequest) (identity : VaultedIdentity)
      (prePublicKey address : String) : Identity.Accepted ed codec req db identity →
      req.prePublicKey = some prePublicKey →
      varchar 35 (Text.trim req.walletAddress) = .ok address →
      Updates db (.IdentityToken env req) address prePublicKey

/-- The call writes the key of a wallet, old or new. -/
def Writes (db : Db) (c : Call) (wallet key : String) : Prop :=
  keyOf (call ed codec state db c) wallet = some key
    ∧ (db.userOf wallet = none ∨ Updates ed codec db c wallet key)

section Runs

variable (holds : Party → String → Prop)

/-- A step in which the holder of a wallet has written its key. -/
def SetByHolder (wallet : String) (db : Db) (acts : List (Act Party)) : Prop :=
  ∃ a act b, acts = a ++ act :: b ∧ holds act.party wallet
    ∧ ∃ key, Writes ed codec state (exec ed codec state db a) act.call wallet key

/-- A key that the holder of a wallet has written, or somebody who has proved it. -/
def Chosen (wallet key : String) (db : Db) (acts : List (Act Party)) : Prop :=
  ∃ a act b, acts = a ++ act :: b ∧ (holds act.party wallet ∨ Proves wallet act.call)
    ∧ Writes ed codec state (exec ed codec state db a) act.call wallet key

/-- Once its holder has set it, the key of a wallet is in the holder's hands: it changes in calls
that prove the wallet, and what is answered for it has been chosen by the holder. -/
structure HolderKeeps (db : Db) (acts : List (Act Party)) : Prop where
  kept : ∀ pre act post, acts = pre ++ act :: post → ∀ wallet,
    SetByHolder ed codec state holds wallet db pre →
    keyOf (exec ed codec state db (pre ++ [act])) wallet ≠ keyOf (exec ed codec state db pre) wallet →
    Proves wallet act.call
  chosen : ∀ pre post, acts = pre ++ post → ∀ wallet,
    SetByHolder ed codec state holds wallet db pre →
    ∃ key, (Users.getPublicKey wallet (exec ed codec state db pre)).1
        = .ok { walletAddress := wallet, prePublicKey := key }
      ∧ Chosen ed codec state holds wallet key db pre

/-! ## The condition -/

/-- The call gives a wallet another key without having proved it. -/
def Overwrites (wallet : String) (db : Db) (c : Call) : Prop :=
  ¬ Proves wallet c ∧ ∃ key, Updates ed codec db c wallet key ∧ keyOf db wallet ≠ some key

/-- No call of the run overwrites a key that the holder of its wallet has set. -/
def Respected (db : Db) (acts : List (Act Party)) : Prop :=
  ∀ pre act post, acts = pre ++ act :: post → ∀ wallet,
    SetByHolder ed codec state holds wallet db pre →
    ¬ Overwrites ed codec wallet (exec ed codec state db pre) act.call

end Runs

/-! ## A step -/

/-- A new user is nobody who was there. -/
lemma keyOf_insertUser {user : User} {db db' : Db} (h : Vaults.insertUser user db = .ok db')
    {wallet key : String} (hkey : keyOf db wallet = some key) : keyOf db' wallet = some key := by
  unfold Vaults.insertUser at h
  split at h
  · next users hins =>
      cases h
      obtain ⟨old, hold, -⟩ := Option.map_eq_some_iff.mp hkey
      have hwallet : wallet ≠ user.walletAddress := by
        rintro rfl
        exact nomatch hold.symm.trans (Indexed.get?_insert_self hins)
      exact (congrArg _ ((Indexed.get?_insert hins wallet).trans (if_neg hwallet))).trans hkey
  · cases h

lemma keyOf_createVault {env : Env} {auth : AuthenticatedUser} {req : Vaults.CreateVaultRequest}
    {db : Db} {wallet key : String} (hkey : keyOf db wallet = some key) :
    keyOf (Vaults.createVault state env auth req db).2 wallet = some key := by
  have joined : ∀ {db'} {r : Except ApiError Uuid},
      Vaults.Joins env req.walletAddress req.prePublicKey db r db' →
      keyOf db' wallet = some key := by
    intro db' r hjoin
    cases hjoin with
    | Known => exact hkey
    | Refused => exact hkey
    | Registered _ _ _ _ _ _ hins => exact keyOf_insertUser hins hkey
  have hspec := Vaults.createVault_spec state env auth req db
  simp only [wp] at hspec
  generalize (Vaults.createVault state env auth req db).1 = r at hspec
  generalize (Vaults.createVault state env auth req db).2 = db' at hspec ⊢
  cases hspec with
  | Refused e => exact hkey
  | Unprepared userId e _ _ hjoin => exact joined hjoin
  | Prepared userId hash answer db₁ _ _ hjoin hins =>
      have hkey := joined hjoin
      obtain ⟨nfts, -, rfl⟩ := Vaults.insertNft_eq_ok hins
      exact hkey

/-- **A key stays, or is updated**: no other call touches the key of a wallet that has one. -/
theorem keyOf_call {db : Db} {c : Call} {wallet old : String} (hold : keyOf db wallet = some old) :
    keyOf (call ed codec state db c) wallet = some old
      ∨ ∃ key, keyOf (call ed codec state db c) wallet = some key
        ∧ Updates ed codec db c wallet key := by
  cases c with
  | RegisterUser env request =>
      have hspec := Users.registerUser_spec env request db
      simp only [wp, call] at hspec ⊢
      generalize (Users.registerUser env request db).2 = db' at hspec ⊢
      cases hspec with
      | Unchanged => exact .inl hold
      | Registered _ _ _ _ hins => exact .inl (keyOf_insertUser hins hold)
  | UpdatePublicKey origin auth request =>
      have hspec := Users.updatePublicKey_spec auth request db
      simp only [wp, call] at hspec ⊢
      rcases hspec with hsame | ⟨hvalid, hset⟩
      · exact .inl (by rw [hsame, hold])
      · have hget := Indexed.get?_update db.users auth.walletAddress
          (fun user => { user with prePublicKey := request.prePublicKey }) (fun _ => rfl)
          (fun _ => rfl) wallet
        rw [hset]
        split_ifs at hget with hwallet
        · subst hwallet
          obtain ⟨user, huser, -⟩ := Option.map_eq_some_iff.mp hold
          have huser : db.users.get? auth.walletAddress = some user := huser
          rw [huser] at hget
          exact .inr ⟨_, congrArg (Option.map User.prePublicKey) hget,
            .Updated origin auth request hvalid⟩
        · exact .inl ((congrArg (Option.map User.prePublicKey) hget).trans hold)
  | CreateVault origin env auth req => exact .inl (keyOf_createVault state hold)
  | IdentityToken env req =>
      have hspec := Identity.identityToken_spec ed codec env req db
      simp only [wp, call] at hspec ⊢
      generalize (Identity.identityToken ed codec env req db).1 = r at hspec
      generalize (Identity.identityToken ed codec env req db).2 = db' at hspec ⊢
      cases hspec with
      | Refused e => exact .inl hold
      | Issued identity answer => exact .inl hold
      | Linked identity key address answer db₁ haccept hkey haddress hupsert =>
          obtain ⟨users, hupserted, rfl⟩ := Identity.upsertRecipientKey_eq_ok hupsert
          have hget := Indexed.get?_upsert hupserted wallet
          split_ifs at hget with hwallet
          · refine .inr ⟨key, ?_, ?_⟩
            · refine (congrArg (Option.map User.prePublicKey) hget).trans ?_
              cases db.users.get? address <;> rfl
            · rw [hwallet]
              exact .LoggedIn env req identity key address haccept hkey haddress
          · exact .inl ((congrArg (Option.map User.prePublicKey) hget).trans hold)

/-! ## A run -/

section Runs

variable (holds : Party → String → Prop)

lemma keyOf_exec_isSome {db : Db} {wallet key : String} (hkey : keyOf db wallet = some key)
    (acts : List (Act Party)) : ∃ key', keyOf (exec ed codec state db acts) wallet = some key' := by
  induction acts generalizing db key with
  | nil => exact ⟨key, hkey⟩
  | cons act acts ih =>
      rcases keyOf_call ed codec state hkey with hsame | ⟨key', hnew, -⟩
      · exact ih hsame
      · exact ih hnew

/-- A key that has been set is still there. -/
lemma SetByHolder.isSome {wallet : String} {db : Db} {acts : List (Act Party)}
    (h : SetByHolder ed codec state holds wallet db acts) :
    ∃ key, keyOf (exec ed codec state db acts) wallet = some key := by
  obtain ⟨a, act, b, rfl, -, key, hwrites⟩ := h
  rw [exec, Runs.exec_append]
  exact keyOf_exec_isSome ed codec state hwrites.1 b

variable {holds}

lemma Respected.front {db : Db} {pre post : List (Act Party)}
    (h : Respected ed codec state holds db (pre ++ post)) :
    Respected ed codec state holds db pre := by
  rintro a act b rfl wallet hset
  exact h a act (b ++ post) (by simp) wallet hset

/-- A step that gives a wallet another key has proved it. -/
lemma proves_of_changes {db : Db} {pre post : List (Act Party)} {act : Act Party}
    (hrespected : Respected ed codec state holds db (pre ++ act :: post)) {wallet : String}
    (hset : SetByHolder ed codec state holds wallet db pre)
    (hchanges : keyOf (exec ed codec state db (pre ++ [act])) wallet
      ≠ keyOf (exec ed codec state db pre) wallet) :
    Proves wallet act.call ∧ ∃ key, keyOf (exec ed codec state db (pre ++ [act])) wallet = some key
      ∧ Writes ed codec state (exec ed codec state db pre) act.call wallet key := by
  obtain ⟨old, hold⟩ := hset.isSome
  rw [exec, Runs.exec_concat] at hchanges ⊢
  rcases keyOf_call ed codec state hold with hsame | ⟨key, hnew, hupdates⟩
  · exact absurd (hsame.trans hold.symm) hchanges
  · refine ⟨?_, key, hnew, hnew, .inr hupdates⟩
    by_contra hunproved
    refine hrespected pre act post rfl wallet hset ⟨hunproved, key, hupdates, ?_⟩
    exact fun hkey => hchanges (hnew.trans hkey.symm)

/-- The key in the database has been chosen by the holder: by the last step that changed it. -/
lemma chosen_of_respected {db : Db} {acts : List (Act Party)}
    (hrespected : Respected ed codec state holds db acts) {wallet : String}
    (hset : SetByHolder ed codec state holds wallet db acts) :
    ∃ key, keyOf (exec ed codec state db acts) wallet = some key
      ∧ Chosen ed codec state holds wallet key db acts := by
  induction acts using List.reverseRecOn with
  | nil =>
      obtain ⟨a, act, b, hnil, -⟩ := hset
      simp at hnil
  | append_singleton pre act ih =>
      by_cases hbefore : SetByHolder ed codec state holds wallet db pre
      · by_cases hsame : keyOf (exec ed codec state db (pre ++ [act])) wallet
            = keyOf (exec ed codec state db pre) wallet
        · obtain ⟨key, hkey, a, act', b, rfl, hchosen⟩ := ih hrespected.front hbefore
          exact ⟨key, hsame.trans hkey, a, act', b ++ [act], by simp, hchosen⟩
        · obtain ⟨hproves, key, hkey, hwrites⟩ :=
            proves_of_changes ed codec state hrespected hbefore hsame
          exact ⟨key, hkey, pre, act, [], rfl, .inr hproves, hwrites⟩
      · -- the last step is the one in which the holder sets the key
        obtain ⟨a, act', b, heq, hholds, key, hwrites⟩ := hset
        rcases List.eq_nil_or_concat b with rfl | ⟨b, last, rfl⟩
        · obtain ⟨rfl, hact⟩ := List.append_inj' heq rfl
          obtain rfl := (List.cons.inj hact).1
          refine ⟨key, ?_, pre, act, [], rfl, .inl hholds, hwrites⟩
          rw [exec, Runs.exec_concat]
          exact hwrites.1
        · have heq : pre ++ [act] = (a ++ act' :: b) ++ [last] := by rw [heq]; simp
          obtain ⟨rfl, -⟩ := List.append_inj' heq rfl
          exact absurd ⟨a, act', b, rfl, hholds, key, hwrites⟩ hbefore

/-- **In a run that overwrites no key, the keys stay with the holders of their wallets.** Besides
the wallet itself, an identity that names the wallet may write its key, and so may whoever has a
token that such an identity was given. -/
theorem holderKeeps_of_respected {db : Db} {acts : List (Act Party)}
    (hrespected : Respected ed codec state holds db acts) :
    HolderKeeps ed codec state holds db acts where
  kept := by
    rintro pre act post rfl wallet hset hchanges
    exact (proves_of_changes ed codec state hrespected hset hchanges).1
  chosen := by
    rintro pre post rfl wallet hset
    obtain ⟨key, hkey, hchosen⟩ := chosen_of_respected ed codec state hrespected.front hset
    obtain ⟨user, huser, rfl⟩ := Option.map_eq_some_iff.mp hkey
    refine ⟨user.prePublicKey, ?_, hchosen⟩
    rw [Users.getPublicKey, run_read, run_expect huser, run_pure]

end Runs

/-! ## An identity that names a stranger's wallet

Alice has set the key of her wallet.  Mallory logs in with an identity of his own. -/

namespace Sample

open Transfers.Sample Tombstone.Sample

/-- Everybody holds the wallet of that name. -/
def holds (party wallet : String) : Prop := party = wallet

def aliceKey : String := "02" ++ String.ofList (List.replicate 64 'a')
def malloryKey : String := "02" ++ String.ofList (List.replicate 64 'f')

def signingKey (n : UInt8) : List UInt8 := List.replicate 32 n

/-- The identity of the `n`-th signing key. -/
def identity (n : UInt8) (id : String) : VaultedIdentity where
  id := id
  signingPublicKey := Text.hexEncode (signingKey n)
  encryptionPublicKey := ""
  protocolVersion := "vaulted-v1"
  status := .Active

def mallory : VaultedIdentity := identity 66 "mallory"

def identities : Db :=
  { db [] List.nodup_nil with identities := ⟨[mallory], List.nodup_singleton _⟩ }

def setting : Act String where
  party := "rAlice"
  call := .UpdatePublicKey .WalletSignature (caller alice) { prePublicKey := aliceKey }

/-- Mallory's login with Alice's wallet and his own key. -/
def login : Identity.IdentityTokenRequest where
  identityId := "mallory"
  walletAddress := "rAlice"
  prePublicKey := some malloryKey
  challenge := "vaulted-v1:mallory wallet_address:rAlice pre_public_key:" ++ malloryKey
  signature := Text.hexEncode (Ed25519.sign (signingKey 66)
    (Text.utf8 ("vaulted-v1:mallory wallet_address:rAlice pre_public_key:" ++ malloryKey)))
  devicePublicKey := none

def takingOver : Act String where
  party := "rMallory"
  call := .IdentityToken (env ⟨"u"⟩) login

/-- Mallory can still try to register Alice's wallet. -/
def registering : Act String where
  party := "rMallory"
  call := .RegisterUser (env ⟨"u"⟩) { walletAddress := "rAlice", prePublicKey := malloryKey }

lemma set_by_alice : SetByHolder Ed25519.transparent JsonText.compact oracle holds "rAlice"
    identities [setting] := by
  refine ⟨[], setting, [], rfl, rfl, aliceKey, by decide +kernel, .inr ?_⟩
  exact .Updated .WalletSignature (caller alice) _ (by decide +kernel)

/-- **An identity takes over a wallet's key**, without a proof of the wallet. -/
theorem not_holderKeeps : ¬ HolderKeeps Ed25519.transparent JsonText.compact oracle holds
    identities [setting, takingOver] := by
  intro hkeeps
  refine hkeeps.kept [setting] takingOver [] rfl "rAlice" set_by_alice (fun hsame => ?_)
  have hbefore : keyOf (exec Ed25519.transparent JsonText.compact oracle identities [setting])
      "rAlice" = some aliceKey := by
    decide +kernel
  have hafter : keyOf (exec Ed25519.transparent JsonText.compact oracle identities
      ([setting] ++ [takingOver])) "rAlice" = some malloryKey := by
    decide +kernel
  rw [hbefore, hafter] at hsame
  exact absurd hsame (by decide +kernel)

/-- A registration leaves Alice's key alone. -/
theorem registering_holderKeeps : HolderKeeps Ed25519.transparent JsonText.compact oracle holds
    identities [setting, registering] := by
  refine holderKeeps_of_respected Ed25519.transparent JsonText.compact oracle ?_
  rintro pre act post heq wallet - ⟨hunproved, key, hupdates, -⟩
  have hact : act = setting ∨ act = registering := by
    simpa using (heq ▸ List.mem_append_right pre (List.mem_cons_self) : act ∈ [setting, registering])
  rcases hact with rfl | rfl
  · cases hupdates
    exact hunproved ⟨rfl, rfl⟩
  · cases hupdates

end Sample

end Vaulted.RecipientKey
