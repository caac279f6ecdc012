import Vaulted.Node.SingleUse

/-!
# A node accepts what the Oracle has granted

The Oracle serialises and signs a token; a node takes a string apart, verifies and reads it.

* `verifyTokenForOperation` — the whole verification, at one reading of the clock.
* `accepts_iff` — when a call is accepted after others.
* `Granted` — what a token must say to grant a request; `Honoured` — what is accepted is granted
  and unused, and what is granted is accepted, for given notions of the same hash and of used ids.
* `honoured_of_unforged` — with hashes up to letter case, and ids used as long as that is known.
* `not_honoured` — with hashes compared as texts, a token in capitals is accepted; with ids that
  are used up for good, one whose id has been forgotten is, when the clock has gone back.
-/

namespace Vaulted.Node

open Interleaving ReplayCache

/-! ## The verification -/

/-- What a request asks for, and when. -/
structure Call where
  token : Option String
  storageKey : String
  operation : StorageOperation
  computedFragmentHash : Option String
  now : Int

section Verify

variable (c : Crates) (state : AppState)

def Call.authority (call : Call) : Except ErrorResponse (Option (String × Int)) :=
  Node.authority c state call.token call.storageKey call.operation call.computedFragmentHash
    call.now

def verifyTokenForOperation (call : Call) (consumed : ConsumedIds) :
    Except ErrorResponse Unit × ConsumedIds :=
  match call.authority c state with
  | .error e => (.error e, consumed)
  | .ok none => (.ok (), consumed)
  | .ok (some (jti, exp)) => consumeTokenId jti exp call.now consumed

/-- The consumed ids after calls one after the other. -/
def consumedAfter (calls : List Call) : ConsumedIds :=
  Runs.exec (fun consumed call => (verifyTokenForOperation c state call consumed).2)
    (fun _ => none) calls

/-- The call is accepted after the others. -/
def Accepts (calls : List Call) (call : Call) : Prop :=
  (verifyTokenForOperation c state call (consumedAfter c state calls)).1 = .ok ()

/-- The use of an id that a call makes. -/
def attempt (call : Call) : List (Use String Int) :=
  match call.authority c state with
  | .ok (some (jti, exp)) => if validTokenId jti then [⟨jti, exp, call.now⟩] else []
  | _ => []

/-- What became of the ids that the calls have used. -/
def past (calls : List Call) : List (Outcome String Int) := uses (calls.flatMap (attempt c state))

end Verify

/-- The verification of a handler, alone, is the verification at one reading of the clock. -/
lemma run_authorize (c : Crates) (state : AppState) (hauth : state.requireAuth = true)
    (call : Call) (w : World) (hnow : call.now = w.timestamp) (done : Success) (e : Nat → World)
    (s : Store) :
    (authorize c state call.token call.storageKey call.operation call.computedFragmentHash w
        fun _ => .Done (.ok done)).run exec e s
      = ((verifyTokenForOperation c state call s.consumedTokenIds).1.map fun _ => done,
        { s with
          consumedTokenIds := (verifyTokenForOperation c state call s.consumedTokenIds).2 }) := by
  simp only [authorize, hauth, if_true, verifyTokenForOperation, Call.authority, hnow]
  cases authority c state call.token call.storageKey call.operation call.computedFragmentHash
      w.timestamp with
  | error e => rfl
  | ok presented =>
      cases presented with
      | none => rfl
      | some presented =>
          obtain ⟨jti, exp⟩ := presented
          change Proc.run exec
            (checked (consumeTokenId jti exp w.timestamp s.consumedTokenIds).1 _) _ _ = _
          cases (consumeTokenId jti exp w.timestamp s.consumedTokenIds).1 with
          | error e => rfl
          | ok _ => rfl

/-! ## The ids -/

section Ids

variable {c : Crates} {state : AppState}

lemma consumed_step (consumed : ConsumedIds) (call : Call) :
    (verifyTokenForOperation c state call consumed).2
      = Runs.exec Cache.step consumed (attempt c state call) := by
  unfold verifyTokenForOperation attempt
  cases call.authority c state with
  | error e => rfl
  | ok presented =>
      cases presented with
      | none => rfl
      | some presented =>
          obtain ⟨jti, exp⟩ := presented
          cases hvalid : validTokenId jti with
          | false => simp [hvalid, consumeTokenId_invalid hvalid]
          | true => simp [hvalid, consumeTokenId_eq hvalid, Cache.step]

lemma consumedAfter_eq (calls : List Call) :
    consumedAfter c state calls = cache (calls.flatMap (attempt c state)) := by
  induction calls using List.reverseRecOn with
  | nil => rfl
  | append_singleton calls call ih =>
      rw [consumedAfter, Runs.exec_concat, consumed_step, List.flatMap_append, cache,
        Runs.exec_append, ← cache, ← ih, List.flatMap_singleton]
      rfl

/-- **A call is accepted if its token is, and the id of the token is not known.** -/
theorem accepts_iff (calls : List Call) (call : Call) :
    Accepts c state calls call
      ↔ ∃ presented, call.authority c state = .ok presented ∧ ∀ jti exp,
          presented = some (jti, exp) → validTokenId jti = true
            ∧ ¬ Known (past c state calls) jti call.now := by
  unfold Accepts verifyTokenForOperation
  cases call.authority c state with
  | error e => simp
  | ok presented =>
      cases presented with
      | none => simp
      | some presented =>
          obtain ⟨jti, exp⟩ := presented
          have hknown : ((cache (calls.flatMap (attempt c state))).use ⟨jti, exp, call.now⟩).1 = true
              ↔ ¬ Known (past c state calls) jti call.now := use_iff_not_known
          rw [consumedAfter_eq]
          cases hvalid : validTokenId jti with
          | false => simp [consumeTokenId, hvalid]
          | true => simp [consumeTokenId_eq hvalid, hvalid, hknown]

end Ids

/-! ## What is granted -/

section Granted

variable (c : Crates) (state : AppState)

/-- The string is a token that grants the request; `same` tells when two hashes are the same. -/
structure Granted (same : String → String → Prop) (t : StorageToken) (call : Call) : Prop where
  signed : ∃ signature, call.token = some (t.payload c ++ "." ++ signature)
  storageKey : t.storageKey = call.storageKey
  operation : t.operation = call.operation
  node : t.storageNodeId = some state.nodeId
  hash : ∀ expected computed, t.fragmentHash = some expected →
    call.computedFragmentHash = some computed → same expected computed
  unexpired : call.now ≤ t.exp

/-- The id has been accepted before. -/
def Used (h : List (Outcome String Int)) (jti : String) (_ : Int) : Prop :=
  ∃ o ∈ h, o.accepted = true ∧ o.use.id = jti

/-- 36 hexadecimal digits and hyphens. -/
def WellFormedUuid (u : Uuid) : Prop :=
  u.text.toList.length = 36 ∧ ∀ ch ∈ u.text.toList, Text.isAsciiHexdigit ch = true ∨ ch = '-'

/-- A node accepts what the Oracle has granted, each id for one write or delete; `used` tells which
ids are used up. It is sound for every string, and complete for every token that is made for the
node. -/
structure Honoured (key : SigningKey) (issued : StorageToken → Prop)
    (same : String → String → Prop) (used : List (Outcome String Int) → String → Int → Prop) :
    Prop where
  sound : ∀ calls call, Accepts c state calls call → ∃ t, issued t ∧ Granted c state same t call
    ∧ (mutates call.operation = true →
      ∃ jti, t.jti = some jti ∧ ¬ used (past c state calls) jti call.now)
  complete : ∀ (calls : List Call) (call : Call) (issuedAt : Time) (jti : Uuid)
    (nftTokenId : String) (expiresInMinutes : Nat) (fragmentHash : Option String)
    (t : StorageToken),
    t = .newScoped issuedAt jti nftTokenId call.storageKey call.operation expiresInMinutes
      (some state.nodeId) fragmentHash → issued t → WellFormedUuid jti →
    (∀ expected computed, fragmentHash = some expected →
      call.computedFragmentHash = some computed → same expected computed) →
    call.token = some (signStorageToken c key t) → call.now ≤ t.exp →
    ¬ Used (past c state calls) jti.text call.now → Accepts c state calls call

end Granted

lemma utf8EncodeChar_length {ch : Char} (h : ch.toNat < 128) :
    (String.utf8EncodeChar ch).length = 1 := by
  have hval : ch.val ≤ 0x7f := by
    rw [UInt32.le_iff_toNat_le]
    exact Nat.lt_succ_iff.mp h
  rw [String.length_utf8EncodeChar, Char.utf8Size]
  exact if_pos hval

/-- Text in ASCII has as many bytes as characters. -/
lemma length_flatMap_utf8EncodeChar {cs : List Char} (h : ∀ ch ∈ cs, ch.toNat < 128) :
    (cs.flatMap String.utf8EncodeChar).length = cs.length := by
  induction cs with
  | nil => rfl
  | cons ch cs ih =>
      rw [List.flatMap_cons, List.length_append, utf8EncodeChar_length (h ch List.mem_cons_self),
        ih fun ch' hch' => h ch' (List.mem_cons_of_mem _ hch'), List.length_cons, Nat.add_comm]

/-- The characters of a UUID are printable. -/
lemma printable_of_uuid {ch : Char} (h : Text.isAsciiHexdigit ch = true ∨ ch = '-') :
    0x20 ≤ ch.toNat ∧ ch.toNat < 0x7F := by
  rcases h with h | rfl
  · have hval : ch.toNat = ch.val.toNat := rfl
    simp only [Text.isAsciiHexdigit, Bool.or_eq_true, Bool.and_eq_true, decide_eq_true_eq,
      Char.le_def, UInt32.le_iff_toNat_le, Char.reduceVal, UInt32.reduceToNat, ← hval] at h
    omega
  · decide

/-- A node takes the id of a token that the Oracle has made. -/
lemma validTokenId_of_wellFormed {u : Uuid} (h : WellFormedUuid u) :
    validTokenId u.text = true := by
  obtain ⟨hlength, hchars⟩ := h
  have hlen : Text.len u.text = 36 := by
    rw [Text.len, Text.utf8, length_flatMap_utf8EncodeChar fun ch hch => ?_, hlength]
    exact lt_trans (printable_of_uuid (hchars ch hch)).2 (by decide)
  have hnonempty : Text.isEmpty u.text = false := by
    rw [Text.isEmpty, List.isEmpty_eq_false_iff]
    intro hnil
    rw [hnil] at hlength
    cases hlength
  have hcontrol : u.text.toList.any Text.isControl = false := by
    rw [List.any_eq_false]
    intro ch hch
    have hprintable := printable_of_uuid (hchars ch hch)
    simp only [Text.isControl, Bool.or_eq_true, Bool.and_eq_true, decide_eq_true_eq]
    omega
  simp [validTokenId, hlen, hnonempty, hcontrol]

section Main

variable {c : Crates} {state : AppState} {key : SigningKey} {issued : StorageToken → Prop}

/-- Hashes are the same up to letter case. -/
abbrev sameHash (expected computed : String) : Prop :=
  Text.eqIgnoreAsciiCase expected computed = true

lemma hashMatches_iff {expected computed : Option String} : hashMatches expected computed = true
    ↔ ∀ e h, expected = some e → computed = some h → sameHash e h := by
  cases expected <;> cases computed <;> simp [hashMatches, sameHash]

lemma not_known_of_not_used {h : List (Outcome String Int)} {jti : String} {now : Int}
    (hunused : ¬ Used h jti now) : ¬ Known h jti now := by
  rintro ⟨i, o, hi, hacc, hid, -⟩
  exact hunused ⟨o, List.mem_of_getElem? hi, hacc, hid⟩

/-- A token that the Oracle has made for the request is read, and presents its id. -/
lemma authority_signed (hc : c.Lawful) (hcorrect : key.Correct c issued)
    (hstate : state.oraclePublicKey = some key.verifyingKey) {call : Call} {issuedAt : Time}
    {jti : Uuid} {nftTokenId : String} {expiresInMinutes : Nat} {fragmentHash : Option String}
    {t : StorageToken}
    (ht : t = .newScoped issuedAt jti nftTokenId call.storageKey call.operation expiresInMinutes
      (some state.nodeId) fragmentHash)
    (hissued : issued t) (hfits : t.Fits)
    (hhash : ∀ expected computed, fragmentHash = some expected →
      call.computedFragmentHash = some computed → sameHash expected computed)
    (htoken : call.token = some (signStorageToken c key t)) (hunexpired : call.now ≤ t.exp) :
    call.authority c state = .ok (presentedId (.ofToken t) call.operation) := by
  have hread := readToken_signed hc hcorrect hstate hissued hfits
  rw [← htoken] at hread
  subst ht
  have hfitting : Fitting state (.ofToken (.newScoped issuedAt jti nftTokenId call.storageKey
      call.operation expiresInMinutes (some state.nodeId) fragmentHash)) call.storageKey
      call.operation call.computedFragmentHash call.now :=
    ⟨hunexpired, rfl, rfl, rfl, hashMatches_iff.mpr hhash⟩
  rw [Call.authority, authority, hread]
  exact checkToken_of_fitting hfitting fun _ => rfl

/-- **A token that the Oracle has made for the request is accepted.** -/
theorem accepts_signed (hc : c.Lawful) (hcorrect : key.Correct c issued)
    (hstate : state.oraclePublicKey = some key.verifyingKey) {calls : List Call} {call : Call}
    {issuedAt : Time} {jti : Uuid} {nftTokenId : String} {expiresInMinutes : Nat}
    {fragmentHash : Option String} {t : StorageToken}
    (ht : t = .newScoped issuedAt jti nftTokenId call.storageKey call.operation expiresInMinutes
      (some state.nodeId) fragmentHash)
    (hissued : issued t) (hfits : t.Fits) (huuid : WellFormedUuid jti)
    (hhash : ∀ expected computed, fragmentHash = some expected →
      call.computedFragmentHash = some computed → sameHash expected computed)
    (htoken : call.token = some (signStorageToken c key t)) (hunexpired : call.now ≤ t.exp)
    (hunknown : ¬ Known (past c state calls) jti.text call.now) :
    Accepts c state calls call := by
  have hauthority := authority_signed hc hcorrect hstate ht hissued hfits hhash htoken hunexpired
  refine (accepts_iff calls call).mpr ⟨_, hauthority, fun jti' exp hpresented => ?_⟩
  rw [presentedId, ht] at hpresented
  split_ifs at hpresented
  obtain ⟨rfl, -⟩ := Prod.mk.inj (Option.some.inj hpresented)
  exact ⟨validTokenId_of_wellFormed huuid, hunknown⟩

/-- **A node accepts what the Oracle has granted**, with hashes up to letter case, and an id until
it is forgotten: hashes are hexadecimal texts, and an id is kept for as long as its token is good by
the clock of the node, which may go back. -/
theorem honoured_of_unforged (hc : c.Lawful) (hfits : ∀ t, issued t → t.Fits)
    (hcorrect : key.Correct c issued) (hunforged : key.Unforged c issued)
    (hstate : state.oraclePublicKey = some key.verifyingKey) :
    Honoured c state key issued sameHash Known where
  sound := by
    intro calls call haccepts
    obtain ⟨presented, hauthority, hid⟩ := (accepts_iff calls call).mp haccepts
    obtain ⟨p, hread, hcheck⟩ := bind_eq_ok hauthority
    obtain ⟨t, signature, hissued, htoken, rfl⟩ :=
      issued_of_readToken hc hfits hunforged hstate hread
    obtain ⟨hfitting, hjti, rfl⟩ := of_checkToken hcheck
    refine ⟨t, hissued, ⟨⟨signature, htoken⟩, hfitting.storageKey,
      StorageOperation.text_inj hfitting.operation, hfitting.node,
      hashMatches_iff.mp hfitting.hash, hfitting.unexpired⟩, fun hmutates => ?_⟩
    obtain ⟨jti, hjti⟩ := Option.isSome_iff_exists.mp (hjti hmutates)
    refine ⟨jti, hjti, (hid jti t.exp ?_).2⟩
    rw [presentedId, if_pos hmutates, hjti]
    rfl
  complete := by
    rintro calls call issuedAt jti nftTokenId expiresInMinutes fragmentHash t rfl hissued huuid
      hhash htoken hunexpired hunused
    exact accepts_signed hc hcorrect hstate rfl hissued (hfits _ hissued) huuid hhash htoken hunexpired
      (not_known_of_not_used hunused)

end Main

/-! ## A hash in capitals, and a clock that goes back -/

namespace Sample

/-- A token for the upload of three bytes, whose hash is written in capitals. -/
def capitals : StorageToken :=
  .newScoped 0 ⟨"123e4567-e89b-42d3-a456-426614174000"⟩ "t" "k" .Write 1 (some "n")
    (some (Text.toAsciiUppercase ("sha256:" ++ sha256Hex crates [0xAB, 1, 2])))

/-- A token for another fragment, which expires a minute later. -/
def later : StorageToken :=
  .newScoped 0 ⟨"223e4567-e89b-42d3-a456-426614174000"⟩ "t" "k2" .Write 2 (some "n") none

/-- The libraries, where nothing but the two tokens has been signed. -/
def signedTwice : Crates :=
  { crates with
    ed :=
      { isKey := fun _ => true
        verify := fun pk message signature =>
          decide (signature = Ed25519.sign pk message)
            && decide (message = Text.utf8 (capitals.payload crates)
              ∨ message = Text.utf8 (later.payload crates)) } }

def bothTokens (t : StorageToken) : Prop := t = capitals ∨ t = later

lemma signedTwice_lawful : signedTwice.Lawful := ⟨crates_lawful.base64Url, crates_lawful.json⟩

lemma bothTokens_fits : ∀ t, bothTokens t → t.Fits := by
  rintro t (rfl | rfl)
  · exact ⟨by decide, by decide⟩
  · exact ⟨by decide, by decide⟩

lemma payload_signedTwice (t : StorageToken) : t.payload signedTwice = t.payload crates := by
  rw [StorageToken.payload, StorageToken.payload]
  rfl

lemma verify_signedTwice {message : List UInt8}
    (h : message = Text.utf8 (capitals.payload crates)
      ∨ message = Text.utf8 (later.payload crates)) :
    signedTwice.ed.verify oracleKey.verifyingKey message (oracleKey.sign message) = true :=
  (Bool.and_eq_true _ _).mpr ⟨decide_eq_true rfl, decide_eq_true h⟩

lemma signedTwice_correct : oracleKey.Correct signedTwice bothTokens := by
  rintro t (rfl | rfl)
  · exact ⟨sign_length _, verify_signedTwice (.inl (congrArg Text.utf8 (payload_signedTwice _)))⟩
  · exact ⟨sign_length _, verify_signedTwice (.inr (congrArg Text.utf8 (payload_signedTwice _)))⟩

lemma signedTwice_unforged : oracleKey.Unforged signedTwice bothTokens := by
  intro message signature hverify
  obtain ⟨-, hmessage⟩ := Bool.and_eq_true_iff.mp hverify
  rcases of_decide_eq_true hmessage with hmessage | hmessage
  · exact .inl ⟨capitals, .inl rfl, hmessage⟩
  · exact .inl ⟨later, .inr rfl, hmessage⟩

/-- The upload. -/
def upload : Call where
  token := some (signStorageToken signedTwice oracleKey capitals)
  storageKey := "k"
  operation := .Write
  computedFragmentHash := some ("sha256:" ++ sha256Hex signedTwice [0xAB, 1, 2])
  now := 0

/-- The upload of the other fragment, when the first token has expired. -/
def uploadLater : Call where
  token := some (signStorageToken signedTwice oracleKey later)
  storageKey := "k2"
  operation := .Write
  computedFragmentHash := none
  now := 61

/-- The node takes the hash up to letter case, and forgets ids that have expired. -/
theorem honoured_capitals : Honoured signedTwice node oracleKey bothTokens sameHash Known :=
  honoured_of_unforged signedTwice_lawful bothTokens_fits signedTwice_correct signedTwice_unforged
    rfl

lemma wellFormed_example : WellFormedUuid ⟨"123e4567-e89b-42d3-a456-426614174000"⟩ := by
  have hall : "123e4567-e89b-42d3-a456-426614174000".toList.all
      (fun ch => Text.isAsciiHexdigit ch || decide (ch = '-')) = true := by decide
  refine ⟨by decide, fun ch hch => ?_⟩
  simpa using List.all_eq_true.mp hall ch hch

lemma sameHash_upload : ∀ expected computed, capitals.fragmentHash = some expected →
    upload.computedFragmentHash = some computed → sameHash expected computed := by
  intro expected computed hexpected hcomputed
  rw [← Option.some.inj hexpected, ← Option.some.inj hcomputed]
  decide +kernel

/-- After calls that have left the id unknown, the upload is accepted. -/
lemma upload_accepted {calls : List Call}
    (hunknown : ¬ Known (past signedTwice node calls) "123e4567-e89b-42d3-a456-426614174000" 0) :
    Accepts signedTwice node calls upload :=
  accepts_signed signedTwice_lawful signedTwice_correct rfl rfl (.inl rfl)
    (bothTokens_fits _ (.inl rfl)) wellFormed_example sameHash_upload rfl (by decide) hunknown

lemma capitals_differ : Text.toAsciiUppercase ("sha256:" ++ sha256Hex crates [0xAB, 1, 2])
    ≠ "sha256:" ++ sha256Hex signedTwice [0xAB, 1, 2] := by decide +kernel

/-- The ids of the two uploads are accepted, each when it is used. -/
lemma past_uploads : past signedTwice node [upload, uploadLater]
    = [⟨⟨"123e4567-e89b-42d3-a456-426614174000", 60, 0⟩, true⟩,
      ⟨⟨"223e4567-e89b-42d3-a456-426614174000", 120, 61⟩, true⟩] := by
  have hupload : upload.authority signedTwice node
      = .ok (presentedId (.ofToken capitals) .Write) :=
    authority_signed signedTwice_lawful signedTwice_correct rfl rfl (.inl rfl)
      (bothTokens_fits _ (.inl rfl)) sameHash_upload rfl (by decide)
  have hlater : uploadLater.authority signedTwice node
      = .ok (presentedId (.ofToken later) .Write) :=
    authority_signed signedTwice_lawful signedTwice_correct rfl rfl (.inr rfl)
      (bothTokens_fits _ (.inr rfl)) (fun _ _ h => by cases h) rfl (by decide)
  rw [past, List.flatMap_cons, List.flatMap_singleton, attempt, attempt, hupload, hlater]
  decide

/-- At minute one the id of the first upload is dropped, and it is not known when the clock has
gone back. -/
lemma forgotten : ¬ Known (past signedTwice node [upload, uploadLater])
    "123e4567-e89b-42d3-a456-426614174000" 0 := by
  rw [past_uploads]
  rintro ⟨i, o, hi, -, hid, hkept, -⟩
  match i with
  | 0 =>
      have hlater := hkept 1 _ Nat.zero_lt_one (by decide) rfl
      obtain rfl := Option.some.inj hi
      exact absurd hlater (by decide)
  | 1 =>
      obtain rfl := Option.some.inj hi
      exact absurd hid (by decide)
  | i + 2 => cases hi

/-- **Hashes compared as texts, or ids that are used once for all**: either way the node accepts
what has not been granted. -/
theorem not_honoured : oracleKey.Correct signedTwice bothTokens
    ∧ oracleKey.Unforged signedTwice bothTokens
    ∧ ¬ Honoured signedTwice node oracleKey bothTokens (· = ·) Used
    ∧ ¬ Honoured signedTwice node oracleKey bothTokens (· = ·) Known
    ∧ ¬ Honoured signedTwice node oracleKey bothTokens sameHash Used := by
  have hfirst : ¬ Known (past signedTwice node []) "123e4567-e89b-42d3-a456-426614174000" 0 := by
    rintro ⟨i, o, hi, -⟩
    cases hi
  have hhash : ∀ used, ¬ Honoured signedTwice node oracleKey bothTokens (· = ·) used := by
    intro used hhonoured
    obtain ⟨t, ht, hgranted, -⟩ := hhonoured.sound [] upload (upload_accepted hfirst)
    -- only one of the tokens is for the fragment
    rcases ht with rfl | rfl
    · exact capitals_differ (hgranted.hash _ _ rfl rfl)
    · exact absurd hgranted.storageKey (by decide)
  refine ⟨signedTwice_correct, signedTwice_unforged, hhash _, hhash _, fun hhonoured => ?_⟩
  obtain ⟨t, ht, -, hunused⟩ :=
    hhonoured.sound [upload, uploadLater] upload (upload_accepted forgotten)
  obtain ⟨jti, hjti, hnot⟩ := hunused rfl
  rw [past_uploads] at hnot
  refine hnot ?_
  -- the ids of both tokens have been used
  rcases ht with rfl | rfl
  · exact ⟨_, List.mem_cons_self, rfl, Option.some.inj hjti⟩
  · exact ⟨_, List.mem_cons_of_mem _ List.mem_cons_self, rfl, Option.some.inj hjti⟩

end Sample

end Vaulted.Node
