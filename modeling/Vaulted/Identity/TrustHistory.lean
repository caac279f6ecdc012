import Vaulted.Library.Runs
import Vaulted.Oracle.RecipientTrust

/-!
# Whose key is trusted

An identity trusts keys of others and revokes that trust, and in between the others replace their
keys.

* `Call`, `Event` — the calls of a run, and what has been trusted and revoked.
* `LastTrusted` — the last thing that was done about a key was to trust it.
* `Kept` — the table of trusted keys follows the events.
* `RightlyReported` — what an answer about a key should say.
* `reported_iff` — when it does.
* `not_reported` — an answer with the key of the recipient under another fingerprint.
-/

namespace Vaulted.RecipientTrust

open Autocommit.Prog Identity

/-! ## Runs -/

inductive Call
  | Trust (env : Env) (auth : AuthenticatedUser) (req : TrustRecipientKeyRequest)
  | Revoke (env : Env) (auth : AuthenticatedUser) (req : RevokeRecipientKeyTrustRequest)
  | Register (env : Env) (req : RegisterIdentityRequest)

inductive Event
  | Trusted (key : Key)
  | Revoked (key : Key)
  deriving DecidableEq

def Event.key : Event → Key
  | .Trusted key => key
  | .Revoked key => key

/-- What a call has done, if it was answered. -/
def done (event : Key → Event) : Except ApiError RecipientKeyTrustResponse → List Event
  | .ok answer => [event answer.key]
  | .error _ => []

section Runs

variable (crypto : EnvelopeCrypto) (state : AppState)

def step (s : State) : Call → State
  | .Trust env auth req => (trustRecipientKey crypto env auth req s).2
  | .Revoke env auth req => (revokeRecipientKeyTrust crypto env auth req s).2
  | .Register env req => { s with db := (registerIdentity state env req s.db).2 }

def told (s : State) : Call → List Event
  | .Trust env auth req => done .Trusted (trustRecipientKey crypto env auth req s).1
  | .Revoke env auth req => done .Revoked (revokeRecipientKeyTrust crypto env auth req s).1
  | .Register _ _ => []

/-- A database in which no key is trusted yet. -/
def start (db : Db) : State := ⟨db, default⟩

abbrev exec (db : Db) (calls : List Call) : State := Runs.exec (step crypto state) (start db) calls

abbrev history (db : Db) (calls : List Call) : List Event :=
  Runs.history (step crypto state) (told crypto) (start db) calls

end Runs

/-- The last thing that was done about a key was to trust it. -/
def LastTrusted (h : List Event) (key : Key) : Prop :=
  (h.filter fun e => decide (e.key = key)).getLast? = some (.Trusted key)

/-- Every identity has a key with a fingerprint. -/
def WellKeyed (crypto : EnvelopeCrypto) (db : Db) : Prop :=
  ∀ i ∈ db.identities.rows, ∃ fingerprint,
    encryptionPublicKeyFingerprintHex crypto i.encryptionPublicKey = .ok fingerprint

/-- What an answer should say about the queried fingerprint of a recipient. -/
structure RightlyReported (crypto : EnvelopeCrypto) (h : List Event)
    (owner recipient active queried : String) (answer : RecipientKeyTrustResponse) : Prop where
  trusted : answer.trusted = true ↔ LastTrusted h (owner, recipient, queried)
  rotation : answer.keyRotationDetected = true ↔ ¬LastTrusted h (owner, recipient, active)
    ∧ ∃ fingerprint, fingerprint ≠ active ∧ LastTrusted h (owner, recipient, fingerprint)
  hashes : encryptionPublicKeyFingerprintHex crypto answer.recipientEncryptionPublicKey
    = .ok answer.recipientEncryptionPublicKeyFingerprint

/-! ## The table follows the events -/

section Events

variable {h : List Event} {key : Key}

lemma lastTrusted_concat_of_ne {e : Event} (hne : e.key ≠ key) :
    LastTrusted (h ++ [e]) key ↔ LastTrusted h key := by
  unfold LastTrusted
  rw [List.filter_append, List.filter_cons_of_neg (by simpa using hne), List.filter_nil,
    List.append_nil]

lemma lastTrusted_concat_self {e : Event} (he : e.key = key) :
    LastTrusted (h ++ [e]) key ↔ e = .Trusted key := by
  unfold LastTrusted
  rw [List.filter_append, List.filter_cons_of_pos (by simpa using he), List.filter_nil,
    List.getLast?_concat, Option.some.injEq]

lemma LastTrusted.mem (hlast : LastTrusted h key) : .Trusted key ∈ h :=
  List.mem_of_mem_filter (List.mem_of_getLast? hlast)

end Events

/-- The rows of the table are the keys that have been trusted, and not revoked if that was the last
thing that was done. -/
structure Kept (crypto : EnvelopeCrypto) (h : List Event) (s : State) : Prop where
  wellKeyed : WellKeyed crypto s.db
  absent : ∀ key, s.trustedKeys.get? key = none → .Trusted key ∉ h
  present : ∀ key row, s.trustedKeys.get? key = some row → .Trusted key ∈ h
    ∧ (row.revokedAt = none ↔ LastTrusted h key)
    ∧ encryptionPublicKeyFingerprintHex crypto row.recipientEncryptionPublicKey
      = .ok row.recipientEncryptionPublicKeyFingerprint

section Step

variable {crypto : EnvelopeCrypto} {state : AppState} {h : List Event} {s : State}

lemma kept_start {db : Db} (hdb : WellKeyed crypto db) : Kept crypto [] (start db) where
  wellKeyed := hdb
  absent _ _ := List.not_mem_nil
  present _ _ hrow := nomatch hrow

lemma WellKeyed.active {db : Db} (hdb : WellKeyed crypto db) {id : String} {i : VaultedIdentity}
    (hi : activeIdentity id db = some i) : ∃ fingerprint,
      encryptionPublicKeyFingerprintHex crypto i.encryptionPublicKey = .ok fingerprint :=
  hdb i (Table.mem_of_get? (Option.filter_eq_some_iff.mp hi).1)

/-- A key of the right form has a fingerprint. -/
lemma fingerprint_of_validateHexKey {key field : String}
    (hkey : validateHexKey key 32 field = .ok ()) :
    ∃ fingerprint, encryptionPublicKeyFingerprintHex crypto key = .ok fingerprint := by
  obtain ⟨bytes, hbytes, hlength⟩ := Checks.bind_eq_ok_iff.mp hkey
  exact ⟨_, fingerprint_eq_ok_iff.mpr ⟨bytes, Pre.eq_ok_of_mapErr hbytes,
    of_decide_eq_true (ensure_eq_ok hlength), rfl⟩⟩

lemma wellKeyed_register {db : Db} (hdb : WellKeyed crypto db) (env : Env)
    (req : RegisterIdentityRequest) : WellKeyed crypto (registerIdentity state env req db).2 := by
  have hspec := registerIdentity_spec state env req db
  unfold wp at hspec
  generalize (registerIdentity state env req db).1 = r at hspec
  generalize (registerIdentity state env req db).2 = db' at hspec ⊢
  cases hspec with
  | Refused e => exact hdb
  | Registered protocolVersion answer hreq =>
      obtain ⟨fingerprint, hfingerprint⟩ := fingerprint_of_validateHexKey hreq.encryption
      intro i hi
      rw [identities_linkWallets] at hi
      rcases Table.mem_upsert hi with hi | rfl | ⟨old, -, rfl⟩
      · exact hdb i hi
      · exact ⟨fingerprint, hfingerprint⟩
      · exact ⟨fingerprint, hfingerprint⟩

lemma Kept.trusted {auth : AuthenticatedUser} {req : TrustRecipientKeyRequest}
    {r : Except ApiError RecipientKeyTrustResponse} {s' : State} (hk : Kept crypto h s)
    (htrusts : Trusts crypto auth req s r s') :
    Kept crypto (h ++ done .Trusted r) s' := by
  cases htrusts with
  | Refused e =>
      rw [done, List.append_nil]
      exact hk
  | Stored new answer trustedKeys _ _ _ hfingerprint hrevoked hupsert hkey =>
      have hget := Indexed.get?_upsert hupsert
      rw [done, hkey]
      refine ⟨hk.wellKeyed, fun key hnone hmem => ?_, fun key row hrow => ?_⟩
      · rw [hget] at hnone
        split_ifs at hnone with hne
        rcases List.mem_append.mp hmem with hmem | hmem
        · exact hk.absent key hnone hmem
        · exact hne (Event.Trusted.inj (List.mem_singleton.mp hmem))
      · rw [hget] at hrow
        split_ifs at hrow with hne
        · obtain rfl := hne
          have hlast : LastTrusted (h ++ [.Trusted new.key]) new.key :=
            (lastTrusted_concat_self rfl).mpr rfl
          refine ⟨hlast.mem, ?_⟩
          obtain rfl := Option.some.inj hrow
          cases hold : s.trustedKeys.get? new.key with
          | none => exact ⟨⟨fun _ => hlast, fun _ => hrevoked⟩, hfingerprint⟩
          | some old =>
              refine ⟨⟨fun _ => hlast, fun _ => rfl⟩, ?_⟩
              have hsame : old.recipientEncryptionPublicKeyFingerprint
                  = new.recipientEncryptionPublicKeyFingerprint :=
                congrArg (·.2.2) (Indexed.key_of_get? hold)
              exact hfingerprint.trans (congrArg _ hsame.symm)
        · obtain ⟨hmem, hlast, hhash⟩ := hk.present key row hrow
          refine ⟨List.mem_append_left _ hmem, ?_, hhash⟩
          rw [hlast, lastTrusted_concat_of_ne (fun heq => hne heq.symm)]

lemma Kept.revoked {env : Env} {auth : AuthenticatedUser} {req : RevokeRecipientKeyTrustRequest}
    {r : Except ApiError RecipientKeyTrustResponse} {s' : State} (hk : Kept crypto h s)
    (hrevokes : Revokes crypto env auth req s r s') :
    Kept crypto (h ++ done .Revoked r) s' := by
  cases hrevokes with
  | Refused e =>
      rw [done, List.append_nil]
      exact hk
  | Malformed recipient key e hrecipient he =>
      obtain ⟨fingerprint, hfingerprint⟩ := hk.wellKeyed.active hrecipient
      rw [storedFingerprint, hfingerprint] at he
      cases he
  | Revoked owner recipient fingerprint answer _ _ _ _ =>
      have hget := Indexed.get?_update s.trustedKeys answer.key
        (fun row => { row with revokedAt := some env.now }) (fun _ => rfl) (fun _ => rfl)
      rw [done]
      refine ⟨hk.wellKeyed, fun key hnone hmem => ?_, fun key row hrow => ?_⟩
      · rcases List.mem_append.mp hmem with hmem | hmem
        · refine hk.absent key ?_ hmem
          have hnone' := (hget key).symm.trans hnone
          split_ifs at hnone' with heq
          · rw [heq]
            exact Option.map_eq_none_iff.mp hnone'
          · exact hnone'
        · cases List.mem_singleton.mp hmem
      · have hrow' := (hget key).symm.trans hrow
        split_ifs at hrow' with heq
        · obtain ⟨old, hold, rfl⟩ := Option.map_eq_some_iff.mp hrow'
          rw [← heq] at hold
          obtain ⟨hmem, -, hhash⟩ := hk.present key old hold
          refine ⟨List.mem_append_left _ hmem, ⟨by rintro ⟨⟩, fun hlast => ?_⟩,
            hhash⟩
          cases (lastTrusted_concat_self (e := .Revoked answer.key) heq.symm).mp hlast
        · obtain ⟨hmem, hlast, hhash⟩ := hk.present key row hrow'
          refine ⟨List.mem_append_left _ hmem, ?_, hhash⟩
          rw [hlast, lastTrusted_concat_of_ne (fun h => heq h.symm)]

/-- **The table follows the events.** -/
theorem kept_exec {db : Db} (hdb : WellKeyed crypto db) (calls : List Call) :
    Kept crypto (history crypto state db calls) (exec crypto state db calls) := by
  have hall : Runs.Admits (step crypto state) (told crypto) (fun _ _ _ => True) (start db) calls :=
    fun _ _ _ _ => trivial
  refine Runs.invariant_run (I := Kept crypto) (kept_start hdb) (fun h s call hk _ => ?_) hall
  cases call with
  | Trust env auth req => exact hk.trusted (trustRecipientKey_spec req s)
  | Revoke env auth req => exact hk.revoked (revokeRecipientKeyTrust_spec req s)
  | Register env req =>
      rw [told, List.append_nil]
      exact ⟨wellKeyed_register hk.wellKeyed env req, hk.absent, hk.present⟩

end Step

/-! ## What is reported -/

section Reports

variable {crypto : EnvelopeCrypto} {state : AppState} {h : List Event} {s : State}

lemma Kept.lastTrusted_iff (hk : Kept crypto h s) (key : Key) : LastTrusted h key
    ↔ ∃ row, s.trustedKeys.get? key = some row ∧ row.revokedAt = none := by
  constructor
  · intro hlast
    cases hget : s.trustedKeys.get? key with
    | none => exact absurd hlast.mem (hk.absent key hget)
    | some row => exact ⟨row, rfl, (hk.present key row hget).2.1.mpr hlast⟩
  · rintro ⟨row, hrow, hrevoked⟩
    exact (hk.present key row hrow).2.1.mp hrevoked

lemma isSome_loadLatestTrustedDifferentKey {owner recipient active : String} :
    (loadLatestTrustedDifferentKey owner recipient active s).isSome = true
      ↔ ∃ fingerprint, fingerprint ≠ active ∧ ∃ row,
        s.trustedKeys.get? (owner, recipient, fingerprint) = some row ∧ row.revokedAt = none := by
  rw [loadLatestTrustedDifferentKey, Option.isSome_map, List.isSome_head?]
  constructor
  · intro hne
    obtain ⟨row, hrow⟩ := List.exists_mem_of_ne_nil _ hne
    have hmem := (List.mem_insertionSort _).mp hrow
    simp only [List.mem_filter, Bool.and_eq_true, decide_eq_true_eq, Option.isNone_iff_eq_none]
      at hmem
    obtain ⟨hmem, ⟨⟨rfl, rfl⟩, hactive⟩, hrevoked⟩ := hmem
    exact ⟨_, hactive, row, Table.get?_of_mem hmem, hrevoked⟩
  · rintro ⟨fingerprint, hactive, row, hrow, hrevoked⟩ hnil
    have hkey : row.key = (owner, recipient, fingerprint) := Indexed.key_of_get? hrow
    obtain ⟨howner, hrest⟩ := Prod.mk.inj hkey
    obtain ⟨hrecipient, hfingerprint⟩ := Prod.mk.inj hrest
    refine List.ne_nil_of_mem ((List.mem_insertionSort _).mpr (List.mem_filter.mpr
      ⟨Table.mem_of_get? hrow, ?_⟩)) hnil
    simp [howner, hrecipient, hfingerprint, hactive, hrevoked]

/-- The active key is trusted if the queried one is, and conversely, once another one is trusted,
and the queried key has been trusted at some time or is the active one. In particular every query
for the active key is clear. -/
structure Clear (h : List Event) (owner recipient active queried : String) : Prop where
  rotation : (∃ fingerprint, fingerprint ≠ active ∧ LastTrusted h (owner, recipient, fingerprint)) →
    (LastTrusted h (owner, recipient, queried) ↔ LastTrusted h (owner, recipient, active))
  key : .Trusted (owner, recipient, queried) ∈ h ∨ queried = active

section Answers

variable {q : RecipientKeyTrustQuery} {owner active : String} {recipient : VaultedIdentity}
  {answer : RecipientKeyTrustResponse}

/-- Whether a key is trusted is reported as it is. -/
lemma Reports.trusted_iff (hk : Kept crypto h s)
    (hreports : Reports q s owner recipient active answer) : answer.trusted = true
      ↔ LastTrusted h (owner, q.recipientIdentityId, fingerprintOr q.fingerprint active) := by
  cases hreports with
  | Known row _ hrow hanswer =>
      rw [hanswer, ← (hk.present _ row hrow).2.1]
      exact Option.isNone_iff_eq_none
  | Unknown _ hrow _ _ htrusted _ =>
      rw [htrusted]
      exact ⟨(fun h => nomatch h), fun hlast => absurd hlast.mem (hk.absent _ hrow)⟩

/-- A rotation is reported if the queried key is not trusted and some other key than the active one
is. -/
lemma Reports.detected_iff (hk : Kept crypto h s)
    (hreports : Reports q s owner recipient active answer) : answer.keyRotationDetected = true
      ↔ ¬LastTrusted h (owner, q.recipientIdentityId, fingerprintOr q.fingerprint active)
        ∧ ∃ fingerprint, fingerprint ≠ active
          ∧ LastTrusted h (owner, q.recipientIdentityId, fingerprint) := by
  have hother : (loadLatestTrustedDifferentKey owner q.recipientIdentityId active s).isSome = true
      ↔ ∃ fingerprint, fingerprint ≠ active
        ∧ LastTrusted h (owner, q.recipientIdentityId, fingerprint) := by
    simp only [isSome_loadLatestTrustedDifferentKey, hk.lastTrusted_iff]
  rw [← hother, ← hreports.trusted_iff hk, Bool.not_eq_true]
  cases hreports with
  | Known row _ hrow hanswer =>
      rw [hanswer]
      simp only [rowToTrustResponse, Bool.and_eq_true, Bool.not_eq_true']
  | Unknown _ _ _ _ htrusted hdetected =>
      rw [htrusted, hdetected]
      exact ⟨fun h => ⟨rfl, h⟩, And.right⟩

/-- The key and the fingerprint of an answer are of one row, or else both have to be active. -/
lemma Reports.hashes_iff (hk : Kept crypto h s)
    (hactive : encryptionPublicKeyFingerprintHex crypto recipient.encryptionPublicKey = .ok active)
    (hreports : Reports q s owner recipient active answer) :
    encryptionPublicKeyFingerprintHex crypto answer.recipientEncryptionPublicKey
        = .ok answer.recipientEncryptionPublicKeyFingerprint
      ↔ .Trusted (owner, q.recipientIdentityId, fingerprintOr q.fingerprint active) ∈ h
        ∨ fingerprintOr q.fingerprint active = active := by
  cases hreports with
  | Known row _ hrow hanswer =>
      obtain ⟨hmem, -, hhash⟩ := hk.present _ row hrow
      rw [hanswer]
      exact ⟨fun _ => .inl hmem, fun _ => hhash⟩
  | Unknown _ hrow hkey hpublic _ _ =>
      have hfingerprint : answer.recipientEncryptionPublicKeyFingerprint
          = fingerprintOr q.fingerprint active := congrArg (·.2.2) hkey
      rw [hpublic, hactive, hfingerprint, Except.ok.injEq]
      exact ⟨fun heq => .inr heq.symm,
        fun hor => (hor.resolve_left (hk.absent _ hrow)).symm⟩

lemma rightlyReported_iff (hk : Kept crypto h s)
    (hactive : encryptionPublicKeyFingerprintHex crypto recipient.encryptionPublicKey = .ok active)
    (hreports : Reports q s owner recipient active answer) :
    RightlyReported crypto h owner q.recipientIdentityId active
        (fingerprintOr q.fingerprint active) answer
      ↔ Clear h owner q.recipientIdentityId active (fingerprintOr q.fingerprint active) := by
  have hsame : ∀ {p p' d : Prop}, (¬p ∧ d ↔ ¬p' ∧ d) ↔ (d → (p ↔ p')) := by
    intro p p' d
    tauto
  constructor
  · intro hright
    exact ⟨hsame.mp ((hreports.detected_iff hk).symm.trans hright.rotation),
      (hreports.hashes_iff hk hactive).mp hright.hashes⟩
  · intro hclear
    exact ⟨hreports.trusted_iff hk, (hreports.detected_iff hk).trans (hsame.mpr hclear.rotation),
      (hreports.hashes_iff hk hactive).mpr hclear.key⟩

end Answers

/-- **An answer about a key is right if and only if** the case is clear. Rotation is told by the
trust of the key that is asked for instead of the active one; and without a row for that key the
answer has the active key beside the other's fingerprint. -/
theorem reported_iff {db : Db} (hdb : WellKeyed crypto db) (calls : List Call)
    {auth : AuthenticatedUser} {q : RecipientKeyTrustQuery} {answer : RecipientKeyTrustResponse}
    {owner active : String} {recipient : VaultedIdentity}
    (hanswer : (recipientKeyTrustStatus crypto auth q (exec crypto state db calls)).1 = .ok answer)
    (howner : Resolves auth q.ownerIdentityId "owner_identity_id" (exec crypto state db calls).db
      owner)
    (hrecipient : activeIdentity q.recipientIdentityId (exec crypto state db calls).db
      = some recipient)
    (hactive : encryptionPublicKeyFingerprintHex crypto recipient.encryptionPublicKey
      = .ok active) :
    RightlyReported crypto (history crypto state db calls) owner q.recipientIdentityId active
        (fingerprintOr q.fingerprint active) answer
      ↔ Clear (history crypto state db calls) owner q.recipientIdentityId active
        (fingerprintOr q.fingerprint active) := by
  obtain ⟨owner', recipient', active', howner', hrecipient', hactive', hreports⟩ :=
    (recipientKeyTrustStatus_spec q (exec crypto state db calls)).2 answer hanswer
  obtain rfl := Except.ok.inj (howner.symm.trans howner')
  obtain rfl := Option.some.inj (hrecipient.symm.trans hrecipient')
  obtain rfl := Except.ok.inj (hactive.symm.trans hactive')
  exact rightlyReported_iff (kept_exec hdb calls) hactive hreports

end Reports

namespace Sample

def crypto : EnvelopeCrypto where
  publicKey := id
  diffieHellman a b := List.zipWith (· + ·) a b
  hkdf _ ikm _ := ikm
  encrypt key nonce aad msg := key ++ nonce ++ aad ++ msg
  decrypt _ _ _ _ := none
  sha256 bytes := bytes.drop (bytes.length - 32)

def state : AppState where
  host := "127.0.0.1"
  port := 8080
  publicUrl := none
  jwtExpirationHours := 24
  dbEncryptionKey := none
  storageNodeUrl := none
  oracleAddress := none
  sha256 := id

/-- The `n`-th key, and its fingerprint: the digest ends in the key. -/
def key (n : UInt8) : String := Text.hexEncode (List.replicate 32 n)

def fingerprint (n : UInt8) : String := Text.hexEncode (List.replicate 32 n)

def registration (id : String) (n : UInt8) : Call := .Register default
  { vaultedIdentityId := some id
    encryptionPublicKey := key n
    signingPublicKey := key n
    devicePublicKey := none
    protocolVersion := none
    linkedWallets := [] }

def bob (n : UInt8) : VaultedIdentity where
  id := "bob"
  signingPublicKey := key n
  encryptionPublicKey := key n
  protocolVersion := "vaulted-v1"
  status := .Active

def alice : AuthenticatedUser := ⟨"alice", "", "user"⟩

/-- Alice asks for a fingerprint of Bob. -/
def query (fingerprint : String) : RecipientKeyTrustQuery := ⟨some "alice", "bob", some fingerprint⟩

lemma wellKeyed_default : WellKeyed crypto default := fun _ hi => nomatch hi

lemma fingerprint_bob (n : UInt8) :
    encryptionPublicKeyFingerprintHex crypto (bob n).encryptionPublicKey = .ok (fingerprint n) :=
  fingerprint_eq_ok_iff.mpr ⟨_, Text.hexDecode_hexEncode _, List.length_replicate, rfl⟩

/-! ### Bob gets another key -/

def trust (uuid : String) (n : UInt8) : Call :=
  .Trust { (default : Env) with uuid := fun _ => ⟨uuid⟩ } alice
    { ownerIdentityId := some "alice"
      recipientIdentityId := "bob"
      recipientEncryptionPublicKey := key n
      recipientEncryptionPublicKeyFingerprint := fingerprint n
      trustSource := none
      trustLevel := none }

/-- Alice trusts Bob's key, revokes that and trusts it again. Then she trusts the key that he has
got in its place. -/
def rotation : List Call :=
  [registration "alice" 7, registration "bob" 1, trust "a" 1, .Revoke default alice
      ⟨some "alice", "bob", none⟩, trust "b" 1, registration "bob" 2, trust "c" 2]

/-- What Alice has done, what she is told of the first key, and whom she and Bob are known as. -/
lemma rotated : history crypto state default rotation
      = [.Trusted ("alice", "bob", fingerprint 1), .Revoked ("alice", "bob", fingerprint 1)]
        ++ [.Trusted ("alice", "bob", fingerprint 1)] ++ [.Trusted ("alice", "bob", fingerprint 2)]
    ∧ ((recipientKeyTrustStatus crypto alice (query (fingerprint 1))
        (exec crypto state default rotation)).1.toOption.any fun a => a.trusted) = true
    ∧ (authenticatedIdentityForRequest alice (some "alice") "owner_identity_id"
        (exec crypto state default rotation).db).1.toOption = some "alice"
    ∧ activeIdentity "bob" (exec crypto state default rotation).db = some (bob 2) := by
  decide +kernel

/-- The key that Bob has had is reported as trusted, with no rotation, as Alice trusts both. -/
theorem reported_rotation : ∃ answer, (recipientKeyTrustStatus crypto alice (query (fingerprint 1))
      (exec crypto state default rotation)).1 = .ok answer ∧ answer.trusted = true
    ∧ RightlyReported crypto (history crypto state default rotation) "alice" "bob" (fingerprint 2)
      (fingerprint 1) answer := by
  obtain ⟨hhistory, hanswered, hresolves, hbob⟩ := rotated
  obtain ⟨answer, hanswer, htrusted⟩ := (Option.any_eq_true _ _).mp hanswered
  have hclear : Clear (history crypto state default rotation) "alice" "bob" (fingerprint 2)
      (fingerprint 1) := by
    have hother : (Event.Trusted ("alice", "bob", fingerprint 2)).key
        ≠ ("alice", "bob", fingerprint 1) := by
      decide +kernel
    have hold : LastTrusted (history crypto state default rotation)
        ("alice", "bob", fingerprint 1) := by
      rw [hhistory]
      exact (lastTrusted_concat_of_ne hother).mpr ((lastTrusted_concat_self rfl).mpr rfl)
    have hnew : LastTrusted (history crypto state default rotation)
        ("alice", "bob", fingerprint 2) := by
      rw [hhistory]
      exact (lastTrusted_concat_self rfl).mpr rfl
    exact ⟨fun _ => iff_of_true hold hnew, .inl hold.mem⟩
  exact ⟨answer, eq_ok_of_toOption hanswer, htrusted,
    (reported_iff wellKeyed_default rotation (eq_ok_of_toOption hanswer)
      (eq_ok_of_toOption hresolves) hbob (fingerprint_bob 2)).mpr hclear⟩

/-! ### A fingerprint that nobody has -/

def answer : RecipientKeyTrustResponse where
  ownerIdentityId := "alice"
  recipientIdentityId := "bob"
  recipientEncryptionPublicKey := key 1
  recipientEncryptionPublicKeyFingerprint := "00"
  trusted := false
  trustLevel := "untrusted"
  trustSource := "none"
  trustedAt := none
  revokedAt := none
  activeRecipientEncryptionPublicKeyFingerprint := fingerprint 1
  keyRotationDetected := false
  trustedDifferentKeyFingerprint := none
  trustedDifferentKeyAt := none

lemma answered : (recipientKeyTrustStatus crypto alice (query "00")
    (exec crypto state default [registration "bob" 1])).1 = .ok answer :=
  eq_ok_of_toOption (by decide +kernel)

lemma resolves : Resolves alice (some "alice") "owner_identity_id"
    (exec crypto state default [registration "bob" 1]).db "alice" :=
  eq_ok_of_toOption (by decide +kernel)

lemma registered : activeIdentity "bob" (exec crypto state default [registration "bob" 1]).db
    = some (bob 1) := by
  decide +kernel

/-- **The key of the recipient is reported under a fingerprint that it does not have.** -/
theorem not_reported : ¬∀ (crypto : EnvelopeCrypto) (state : AppState) (db : Db)
    (calls : List Call) (auth : AuthenticatedUser) (q : RecipientKeyTrustQuery)
    (answer : RecipientKeyTrustResponse) (owner active : String) (recipient : VaultedIdentity),
    WellKeyed crypto db →
    (recipientKeyTrustStatus crypto auth q (exec crypto state db calls)).1 = .ok answer →
    Resolves auth q.ownerIdentityId "owner_identity_id" (exec crypto state db calls).db owner →
    activeIdentity q.recipientIdentityId (exec crypto state db calls).db = some recipient →
    encryptionPublicKeyFingerprintHex crypto recipient.encryptionPublicKey = .ok active →
    RightlyReported crypto (history crypto state db calls) owner q.recipientIdentityId active
      (fingerprintOr q.fingerprint active) answer := by
  intro hright
  have hhashes := (hright _ _ _ _ _ _ _ _ _ _ wellKeyed_default answered resolves registered
    (fingerprint_bob 1)).hashes
  have hsame := (fingerprint_bob 1).symm.trans hhashes
  exact absurd (Except.ok.inj hsame) (by decide +kernel)

end Sample

end Vaulted.RecipientTrust
