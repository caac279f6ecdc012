import Vaulted.Library.JsonText
import Vaulted.Library.Labels
import Vaulted.Oracle.VaultObjects

/-!
# What a grant signature binds

The message that an owner signs is made of lines, and the identifiers in it are any texts.

* `Created` — the context of a grant that is created.
* `Faithful` — what is assumed of SHA-256, of the text of JSON values and of that of times.
* `SameContext` — equality, up to the order of the members of objects.
* `Delimited` — the token is named, and no identifier contains the label before or after it.
* `binds_iff` — a message has only one context if and only if that one is delimited.
* `not_binds` — two vault objects with one message.
-/

namespace Vaulted.VaultObjects

open Labels

/-! ## Contexts -/

/-- The context of a grant that is created, with two values of a JSON library. -/
structure Created (Value : Json → Prop) extends GrantSignatureContext where
  create : action = "create"
  isUuid : ∀ ch ∈ grantId.text.toList, ch = '-' ∨ Text.isAsciiHexdigit ch = true
  permissionsValue : Value permissions
  keyEnvelopeValue : Value keyEnvelope

structure Faithful (state : AppState) (codec : TextCodec) (rfc3339 : DateTime → String)
    (Value : Json → Prop) : Prop where
  sha256 : ∀ bytes bytes', state.sha256 bytes = state.sha256 bytes' → bytes = bytes'
  canonical : ∀ j, Value j → Value (canonicalJson j)
  json : ∀ j j', Value j → Value j' → codec.jsonToString j = codec.jsonToString j' → j = j'
  time : ∀ t t', rfc3339 t = rfc3339 t' → t = t'
  nonempty : ∀ t, rfc3339 t ≠ ""
  oneLine : ∀ t, '\n' ∉ (rfc3339 t).toList

structure SameContext (c c' : GrantSignatureContext) : Prop where
  action : c.action = c'.action
  grantId : c.grantId = c'.grantId
  vaultObjectId : c.vaultObjectId = c'.vaultObjectId
  nftTokenId : c.nftTokenId = c'.nftTokenId
  ownerIdentityId : c.ownerIdentityId = c'.ownerIdentityId
  recipientIdentityId : c.recipientIdentityId = c'.recipientIdentityId
  permissions : Json.Reordered c.permissions c'.permissions
  expiresAt : c.expiresAt = c'.expiresAt
  keyEnvelope : Json.Reordered c.keyEnvelope c'.keyEnvelope

/-- The NFT id is there and not empty, and no identifier contains the label before it or the one
behind it. Labels that are farther away do no harm: the text is cut at those that come first. -/
structure Delimited (c : GrantSignatureContext) : Prop where
  token : c.nftTokenId ≠ none ∧ c.nftTokenId ≠ some ""
  vaultObjectId : Text.contains c.vaultObjectId "\nnft_token_id:" = false
  nftTokenId : Text.contains (c.nftTokenId.getD "") "\nnft_token_id:" = false
    ∧ Text.contains (c.nftTokenId.getD "") "\nowner_identity_id:" = false
  ownerIdentityId : Text.contains c.ownerIdentityId "\nowner_identity_id:" = false
    ∧ Text.contains c.ownerIdentityId "\nrecipient_identity_id:" = false
  recipientIdentityId : Text.contains c.recipientIdentityId "\nrecipient_identity_id:" = false

/-! ## The lines of a message -/

def nftLabel : Label '\n' := ⟨"nft_token_id:".toList, by decide⟩
def ownerLabel : Label '\n' := ⟨"owner_identity_id:".toList, by decide⟩
lemma newline_not_mem_recipient : '\n' ∉ "recipient_identity_id:".toList := by decide

def recipientLabel : Label '\n' := ⟨"recipient_identity_id:".toList, newline_not_mem_recipient⟩

/-- The identifiers, with the labels between them. -/
def identifiers (c : GrantSignatureContext) : List (Label '\n' × List Char) :=
  [(nftLabel, (c.nftTokenId.getD "").toList), (ownerLabel, c.ownerIdentityId.toList),
    (recipientLabel, c.recipientIdentityId.toList)]

section Binding

variable {state : AppState} {codec : TextCodec} {rfc3339 : DateTime → String} {Value : Json → Prop}

lemma message_eq (c : Created Value) :
    (grantSignatureMessage state codec rfc3339 c.toGrantSignatureContext).toList
      = "vaulted-grant-v1\nversion:1\naction:create\ngrant_id:".toList ++ (c.grantId.text.toList
        ++ '\n' :: ("vault_object_id:".toList
          ++ (((weave c.vaultObjectId.toList (identifiers c.toGrantSignatureContext)
          ++ '\n' :: ("permissions_sha256:".toList
            ++ (stableJsonSha256Hex state codec c.permissions).toList))
          ++ '\n' :: ("expires_at:".toList ++ ((c.expiresAt.map rfc3339).getD "").toList))
          ++ '\n' :: ("key_envelope_sha256:".toList
            ++ (stableJsonSha256Hex state codec c.keyEnvelope).toList)))) := by
  have hgrant : "vaulted-grant-v1\nversion:1\naction:create\ngrant_id:".toList
      = "vaulted-grant-v1\nversion:1\naction:".toList
        ++ ("create".toList ++ "\ngrant_id:".toList) := by
    decide +kernel
  have hobject : "\nvault_object_id:".toList = '\n' :: "vault_object_id:".toList := by
    decide +kernel
  have hnft : "\nnft_token_id:".toList = nftLabel.text := by decide +kernel
  have howner : "\nowner_identity_id:".toList = ownerLabel.text := by decide +kernel
  have hrecipient : "\nrecipient_identity_id:".toList = recipientLabel.text := by decide +kernel
  have hpermissions : "\npermissions_sha256:".toList = '\n' :: "permissions_sha256:".toList := by
    decide +kernel
  have hexpires : "\nexpires_at:".toList = '\n' :: "expires_at:".toList := by decide +kernel
  have henvelope : "\nkey_envelope_sha256:".toList = '\n' :: "key_envelope_sha256:".toList := by
    decide +kernel
  unfold grantSignatureMessage
  simp only [c.create, String.toList_append, hgrant, hobject, hnft, howner, hrecipient,
    hpermissions, hexpires, henvelope, identifiers, weave, List.append_assoc, List.cons_append,
    -String.reduceToList]

/-! ## The parts of a line -/

lemma not_mem_hexEncode (bytes : List UInt8) : '\n' ∉ (Text.hexEncode bytes).toList :=
  Text.not_mem_hexEncode (by decide) bytes

/-- Only the order of members is lost. -/
lemma reordered_canonicalJson (j : Json) : j.Reordered (canonicalJson j) := by
  induction j using canonicalJson.induct with
  | case1 items ih =>
      rw [canonicalJson_arr]
      exact .Arr (List.forall₂_map_right_iff.mpr (List.forall₂_same.mpr fun j hj => ih j hj))
  | case2 members ih =>
      rw [canonicalJson_obj]
      refine .Trans (.Obj ?_ ?_) (.Perm (List.perm_insertionSort _ _).symm)
      · rw [List.map_map]
        rfl
      · rw [List.map_map, List.forall₂_map_left_iff, List.forall₂_map_right_iff]
        exact List.forall₂_same.mpr fun m hm => ih m hm
  | case3 j harr hobj =>
      rw [canonicalJson]
      · exact .Refl j
      · exact harr
      · exact hobj

lemma Faithful.reordered (h : Faithful state codec rfc3339 Value) {j j' : Json} (hj : Value j)
    (hj' : Value j')
    (heq : stableJsonSha256Hex state codec j = stableJsonSha256Hex state codec j') :
    j.Reordered j' := by
  have htext := Text.utf8_injective (h.sha256 _ _ (Text.hexEncode_injective heq))
  have hcanonical := h.json _ _ (h.canonical j hj) (h.canonical j' hj') htext
  exact (reordered_canonicalJson j).Trans (hcanonical ▸ (reordered_canonicalJson j').Symm)

/-- An expiry is one line, and no expiry is none. -/
lemma Faithful.expiresAt (h : Faithful state codec rfc3339 Value) :
    (∀ t : Option DateTime, '\n' ∉ ((t.map rfc3339).getD "").toList)
      ∧ ∀ t t' : Option DateTime, (t.map rfc3339).getD "" = (t'.map rfc3339).getD "" → t = t' := by
  constructor
  · intro t
    cases t with
    | none => exact List.not_mem_nil
    | some t => exact h.oneLine t
  · intro t t' heq
    cases t with
    | none =>
        cases t' with
        | none => rfl
        | some t' => exact absurd heq.symm (h.nonempty t')
    | some t =>
        cases t' with
        | none => exact absurd heq (h.nonempty t)
        | some t' => exact congrArg some (h.time t t' heq)

/-! ## What a message determines -/

/-- What is not an identifier is determined, and the identifiers are one text. -/
lemma message_parts (h : Faithful state codec rfc3339 Value) (c c' : Created Value) :
    grantSignatureMessage state codec rfc3339 c.toGrantSignatureContext
        = grantSignatureMessage state codec rfc3339 c'.toGrantSignatureContext
      ↔ c.grantId = c'.grantId
        ∧ weave c.vaultObjectId.toList (identifiers c.toGrantSignatureContext)
          = weave c'.vaultObjectId.toList (identifiers c'.toGrantSignatureContext)
        ∧ stableJsonSha256Hex state codec c.permissions
          = stableJsonSha256Hex state codec c'.permissions
        ∧ c.expiresAt = c'.expiresAt
        ∧ stableJsonSha256Hex state codec c.keyEnvelope
          = stableJsonSha256Hex state codec c'.keyEnvelope := by
  have hline : ∀ (name : List Char) {text : List Char}, '\n' ∉ name → '\n' ∉ text →
      '\n' ∉ name ++ text := fun _ _ hname htext hmem =>
    (List.mem_append.mp hmem).elim hname htext
  have huuid : ∀ c : Created Value, '\n' ∉ c.grantId.text.toList := by
    intro c hmem
    rcases c.isUuid _ hmem with hch | hch
    · cases hch
    · exact absurd hch (by decide)
  have hpermissions : '\n' ∉ "permissions_sha256:".toList := by decide
  have hexpires : '\n' ∉ "expires_at:".toList := by decide
  have henvelope : '\n' ∉ "key_envelope_sha256:".toList := by decide
  rw [← String.toList_inj, message_eq, message_eq]
  constructor
  · intro heq
    obtain ⟨hgrant, heq⟩ := first_part (huuid c) (huuid c') (List.append_cancel_left heq)
    obtain ⟨heq, hk⟩ := last_part (hline _ henvelope (not_mem_hexEncode _))
      (hline _ henvelope (not_mem_hexEncode _)) (List.append_cancel_left heq)
    obtain ⟨heq, he⟩ := last_part (hline _ hexpires (h.expiresAt.1 _))
      (hline _ hexpires (h.expiresAt.1 _)) heq
    obtain ⟨hidentifiers, hp⟩ := last_part (hline _ hpermissions (not_mem_hexEncode _))
      (hline _ hpermissions (not_mem_hexEncode _)) heq
    exact ⟨Uuid.ext (String.toList_injective hgrant), hidentifiers,
      String.toList_injective (List.append_cancel_left hp),
      h.expiresAt.2 _ _ (String.toList_injective (List.append_cancel_left he)),
      String.toList_injective (List.append_cancel_left hk)⟩
  · rintro ⟨hgrant, hidentifiers, hp, he, hk⟩
    rw [hgrant, hidentifiers, hp, he, hk]

lemma contains_eq_false {s l : String} (L : Label '\n') (hL : l.toList = L.text) :
    Text.contains s l = false ↔ ¬L.text <:+: s.toList := by
  rw [← hL, ← Text.contains_iff, Bool.not_eq_true]

/-- Besides naming the token, the identifiers are to be clean. -/
lemma delimited_iff (c : GrantSignatureContext) :
    Delimited c ↔ (c.nftTokenId ≠ none ∧ c.nftTokenId ≠ some "")
      ∧ Clean c.vaultObjectId.toList (identifiers c) := by
  have hnft : "\nnft_token_id:".toList = nftLabel.text := by decide +kernel
  have howner : "\nowner_identity_id:".toList = ownerLabel.text := by decide +kernel
  have hrecipient : "\nrecipient_identity_id:".toList = recipientLabel.text := by decide +kernel
  have hclean : Clean c.vaultObjectId.toList (identifiers c)
      ↔ ¬nftLabel.text <:+: c.vaultObjectId.toList
        ∧ ¬nftLabel.text <:+: (c.nftTokenId.getD "").toList
        ∧ ¬ownerLabel.text <:+: (c.nftTokenId.getD "").toList
        ∧ ¬ownerLabel.text <:+: c.ownerIdentityId.toList
        ∧ ¬recipientLabel.text <:+: c.ownerIdentityId.toList
        ∧ ¬recipientLabel.text <:+: c.recipientIdentityId.toList ∧ True := Iff.rfl
  rw [hclean, ← contains_eq_false nftLabel hnft, ← contains_eq_false nftLabel hnft,
    ← contains_eq_false ownerLabel howner, ← contains_eq_false ownerLabel howner,
    ← contains_eq_false recipientLabel hrecipient, ← contains_eq_false recipientLabel hrecipient]
  constructor
  · rintro ⟨htoken, hv, ⟨hn, hn'⟩, ⟨ho, ho'⟩, hr⟩
    exact ⟨htoken, hv, hn, hn', ho, ho', hr, trivial⟩
  · rintro ⟨htoken, hv, hn, hn', ho, ho', hr, -⟩
    exact ⟨htoken, hv, ⟨hn, hn'⟩, ⟨ho, ho'⟩, hr⟩

lemma labels_ordered :
    [nftLabel, ownerLabel, recipientLabel].Pairwise fun M N => Incomparable N M := by
  decide +kernel

/-- The context with other identifiers. -/
def Created.renamed (c : Created Value) (v : List Char) (n : Option String) (o r : List Char) :
    Created Value :=
  { c with
    vaultObjectId := String.ofList v
    nftTokenId := n
    ownerIdentityId := String.ofList o
    recipientIdentityId := String.ofList r }

/-- Identifiers that are woven to the same text give the same message. -/
lemma Created.renamed_message (h : Faithful state codec rfc3339 Value) (c : Created Value)
    {v o r : List Char} {n : Option String}
    (hweave : weave v [(nftLabel, (n.getD "").toList), (ownerLabel, o), (recipientLabel, r)]
      = weave c.vaultObjectId.toList (identifiers c.toGrantSignatureContext)) :
    grantSignatureMessage state codec rfc3339 (c.renamed v n o r).toGrantSignatureContext
      = grantSignatureMessage state codec rfc3339 c.toGrantSignatureContext := by
  refine (message_parts h _ _).mpr ⟨rfl, ?_, rfl, rfl, rfl⟩
  rw [← hweave]
  simp [identifiers, Created.renamed]

/-- **A message binds its whole context if and only if** the context is delimited. The identifiers
are written between labels as they are, so that one with a label inside can be cut in two ways; and
a missing NFT id is written like an empty one. -/
theorem binds_iff (h : Faithful state codec rfc3339 Value) (c : Created Value) :
    (∀ c' : Created Value,
      grantSignatureMessage state codec rfc3339 c'.toGrantSignatureContext
        = grantSignatureMessage state codec rfc3339 c.toGrantSignatureContext →
      SameContext c'.toGrantSignatureContext c.toGrantSignatureContext)
    ↔ Delimited c.toGrantSignatureContext := by
  rw [delimited_iff]
  constructor
  · intro hbinds
    -- a token that is missing has the same message as one without a name
    have htoken : ∀ n : Option String, n.getD "" = c.nftTokenId.getD "" → n = c.nftTokenId := by
      intro n hn
      refine (hbinds _ (c.renamed_message h (v := c.vaultObjectId.toList) (n := n)
        (o := c.ownerIdentityId.toList) (r := c.recipientIdentityId.toList) ?_)).nftTokenId
      rw [hn]
      rfl
    refine ⟨⟨fun hnone => ?_, fun hempty => ?_⟩, by_contra fun hclean => ?_⟩
    · cases (htoken (some "") (by rw [hnone]; rfl)).trans hnone
    · cases (htoken none (by rw [hempty]; rfl)).trans hempty
    · obtain ⟨v, rest, hlabels, hweave, hother⟩ := exists_other hclean
      obtain ⟨n, o, r, rfl⟩ : ∃ n o r, rest
          = [(nftLabel, n), (ownerLabel, o), (recipientLabel, r)] := by
        obtain ⟨⟨_, n⟩, ⟨_, o⟩, ⟨_, r⟩, rfl⟩ :=
          List.length_eq_three.mp (by simpa [identifiers] using congrArg List.length hlabels)
        simp only [identifiers, List.map_cons, List.map_nil, List.cons.injEq,
          and_true] at hlabels
        obtain ⟨rfl, rfl, rfl⟩ := hlabels
        exact ⟨n, o, r, rfl⟩
      have hsame := hbinds _ (c.renamed_message h (n := some (String.ofList n)) (v := v) (o := o)
        (r := r) (by rw [Option.getD_some, String.toList_ofList, hweave]))
      refine hother ⟨?_, ?_⟩
      · rw [← hsame.vaultObjectId]
        exact (String.toList_ofList).symm
      · rw [identifiers, ← hsame.nftTokenId, ← hsame.ownerIdentityId, ← hsame.recipientIdentityId]
        simp [Created.renamed]
  · rintro ⟨⟨hnone, hempty⟩, hclean⟩ c' heq
    obtain ⟨hgrant, hidentifiers, hp, he, hk⟩ := (message_parts h c' c).mp heq
    have hlabels : (identifiers c.toGrantSignatureContext).map Prod.fst
        = (identifiers c'.toGrantSignatureContext).map Prod.fst := rfl
    obtain ⟨hobject, hrest⟩ :=
      weave_injective hlabels labels_ordered hclean hidentifiers.symm
    simp only [identifiers, List.cons.injEq, Prod.mk.injEq, true_and, and_true,
      String.toList_inj] at hrest
    obtain ⟨hnft, howner, hrecipient⟩ := hrest
    have htoken : c'.nftTokenId = c.nftTokenId := by
      obtain ⟨n, hn⟩ := Option.ne_none_iff_exists'.mp hnone
      rw [hn, Option.getD_some] at hnft
      cases hn' : c'.nftTokenId with
      | none =>
          rw [hn', Option.getD_none] at hnft
          exact absurd (hn.trans (congrArg some hnft)) hempty
      | some n' =>
          rw [hn', Option.getD_some] at hnft
          rw [hn, hnft]
    exact ⟨c'.create.trans c.create.symm, hgrant, (String.toList_injective hobject).symm, htoken,
      howner.symm, hrecipient.symm, h.reordered c'.permissionsValue c.permissionsValue hp, he,
      h.reordered c'.keyEnvelopeValue c.keyEnvelopeValue hk⟩

lemma plain_canonicalJson {j : Json} (h : j.Plain) : (canonicalJson j).Plain := by
  induction j using canonicalJson.induct with
  | case1 items ih =>
      cases h with
      | Arr _ hitems =>
          rw [canonicalJson_arr]
          refine .Arr _ fun k hk => ?_
          obtain ⟨k', hk', rfl⟩ := List.mem_map.mp hk
          exact ih k' hk' (hitems k' hk')
  | case2 members ih =>
      cases h with
      | Obj _ hmembers =>
          rw [canonicalJson_obj]
          refine .Obj _ fun m hm => ?_
          obtain ⟨m', hm', rfl⟩ := List.mem_map.mp ((List.mem_insertionSort _).mp hm)
          exact ih m' hm' (hmembers m' hm')
  | case3 j harr hobj =>
      rw [canonicalJson]
      · exact h
      · exact harr
      · exact hobj

/-- A codec that writes different plain values differently is faithful to them. -/
lemma Faithful.of_plain (json : ∀ j j' : Json, j.Plain → j'.Plain →
      codec.jsonToString j = codec.jsonToString j' → j = j')
    (sha256 : ∀ bytes bytes', state.sha256 bytes = state.sha256 bytes' → bytes = bytes')
    (time : ∀ t t', rfc3339 t = rfc3339 t' → t = t') (nonempty : ∀ t, rfc3339 t ≠ "")
    (oneLine : ∀ t, '\n' ∉ (rfc3339 t).toList) : Faithful state codec rfc3339 Json.Plain where
  sha256 := sha256
  canonical _ := plain_canonicalJson
  json := json
  time := time
  nonempty := nonempty
  oneLine := oneLine

end Binding

namespace Sample

def permissions : Json := .Arr [.Str "read"]

def keyEnvelope : Json := .Obj [("encrypted_file_key", .Str "ciphertext")]

/-- The digests of the two values, and something else for everything else. -/
def sha256 (bytes : List UInt8) : List UInt8 :=
  if bytes = Text.utf8 "[\"read\"]" then
    [138, 45, 11, 135, 232, 199, 18, 204, 142, 6, 197, 195, 248, 222, 94, 127, 157, 200, 237, 204,
      160, 48, 121, 167, 174, 192, 203, 100, 54, 41, 73, 39]
  else if bytes = Text.utf8 "\x7b\"encrypted_file_key\":\"ciphertext\"\x7d" then
    [232, 43, 52, 178, 191, 48, 182, 180, 115, 186, 208, 108, 125, 90, 70, 245, 119, 230, 18, 191,
      252, 40, 220, 30, 221, 152, 159, 25, 34, 246, 211, 21]
  else 0 :: bytes

/-- The beginning of 2035. -/
def newYear : DateTime where
  timestamp := 2051222400
  subsecNanos := 0
  bound := by decide
  leap h := absurd h (by decide)

/-- A text for any other time. -/
def tally (t : DateTime) : List Char :=
  List.replicate (t.timestamp + 1) 'Z' ++ List.replicate t.subsecNanos 'n'

def printTime (t : DateTime) : String :=
  if t = newYear then "2035-01-01T00:00:00+00:00" else String.ofList (tally t)

def hashing : AppState where
  host := "127.0.0.1"
  port := 8080
  publicUrl := none
  jwtExpirationHours := 24
  dbEncryptionKey := none
  storageNodeUrl := none
  oracleAddress := none
  sha256 := sha256

lemma sha256_injective (bytes bytes' : List UInt8) (h : sha256 bytes = sha256 bytes') :
    bytes = bytes' := by
  unfold sha256 at h
  split_ifs at h with h1 h2 h3 h4 h5 h6 h7
  all_goals simp_all

lemma tally_injective {t t' : DateTime} (h : tally t = tally t') : t = t' := by
  have hcount : ∀ t : DateTime, (tally t).count 'Z' = t.timestamp + 1
      ∧ (tally t).count 'n' = t.subsecNanos := by
    intro t
    simp [tally, List.count_replicate]
  ext
  · exact Nat.succ.inj ((hcount t).1.symm.trans (h ▸ (hcount t').1))
  · exact (hcount t).2.symm.trans (h ▸ (hcount t').2)

lemma of_mem_tally {t : DateTime} {ch : Char} (h : ch ∈ tally t) : ch = 'Z' ∨ ch = 'n' := by
  rcases List.mem_append.mp h with h | h
  · exact .inl (List.eq_of_mem_replicate h)
  · exact .inr (List.eq_of_mem_replicate h)

lemma printTime_eq (t : DateTime) : t = newYear ∧ printTime t = "2035-01-01T00:00:00+00:00"
    ∨ (printTime t).toList = tally t := by
  unfold printTime
  split_ifs with h
  · exact .inl ⟨h, rfl⟩
  · exact .inr String.toList_ofList

lemma faithful : Faithful hashing JsonText.compact printTime Json.Plain := by
  have hdifferent : ∀ t, "2035-01-01T00:00:00+00:00".toList ≠ tally t := by
    intro t h
    have hmem : '2' ∈ tally t := h ▸ by decide +kernel
    rcases of_mem_tally hmem with h | h <;> cases h
  have hjson : ∀ j j' : Json, j.Plain → j'.Plain → JsonText.compact.jsonToString j
      = JsonText.compact.jsonToString j' → j = j' := by
    intro j j' hj hj' heq
    have hread := JsonText.compact_reads hj.integral
    rw [heq, JsonText.compact_reads hj'.integral] at hread
    exact (Except.ok.inj hread).symm
  refine .of_plain hjson sha256_injective (fun t t' h => ?_) (fun t h => ?_) fun t h => ?_
  · rcases printTime_eq t with ⟨rfl, ht⟩ | ht
    · rcases printTime_eq t' with ⟨rfl, -⟩ | ht'
      · rfl
      · exact absurd (by rw [← ht, h, ht']) (hdifferent t')
    · rcases printTime_eq t' with ⟨rfl, ht'⟩ | ht'
      · exact absurd (by rw [← ht', ← h, ht]) (hdifferent t)
      · rw [h, ht'] at ht
        exact (tally_injective ht).symm
  · rcases printTime_eq t with ⟨-, ht⟩ | ht
    · exact absurd (ht.symm.trans h) (by decide +kernel)
    · rw [h, tally, List.replicate_succ] at ht
      cases ht
  · rcases printTime_eq t with ⟨-, ht⟩ | ht
    · rw [ht] at h
      exact absurd h (by decide +kernel)
    · rw [ht] at h
      rcases of_mem_tally h with h | h <;> cases h

lemma isUuid_grantId : ∀ ch ∈ "00000000-0000-4000-8000-000000000001".toList,
    ch = '-' ∨ Text.isAsciiHexdigit ch = true := by
  have hall : ("00000000-0000-4000-8000-000000000001".toList.all
      fun ch => ch == '-' || Text.isAsciiHexdigit ch) = true := by decide +kernel
  intro ch hch
  have hch := List.all_eq_true.mp hall ch hch
  rwa [Bool.or_eq_true, beq_iff_eq] at hch

/-- The grant of a vault object to Bob. -/
def grant (vaultObjectId : String) (nftTokenId : Option String) : Created Json.Plain where
  action := "create"
  grantId := ⟨"00000000-0000-4000-8000-000000000001"⟩
  vaultObjectId := vaultObjectId
  nftTokenId := nftTokenId
  ownerIdentityId := "alice"
  recipientIdentityId := "bob"
  permissions := permissions
  expiresAt := some newYear
  keyEnvelope := keyEnvelope
  create := rfl
  isUuid := isUuid_grantId
  permissionsValue := .Arr _ (by simp [Json.Plain.Str])
  keyEnvelopeValue := .Obj _ (by simp [Json.Plain.Str])

/-- The signature of an ordinary grant is for that grant only. -/
theorem binds_object : Delimited (grant "object" (some "token")).toGrantSignatureContext
    ∧ ∀ c' : Created Json.Plain,
      grantSignatureMessage hashing JsonText.compact printTime c'.toGrantSignatureContext
        = grantSignatureMessage hashing JsonText.compact printTime
          (grant "object" (some "token")).toGrantSignatureContext →
      SameContext c'.toGrantSignatureContext
        (grant "object" (some "token")).toGrantSignatureContext := by
  have hdelimited : Delimited (grant "object" (some "token")).toGrantSignatureContext :=
    ⟨by decide, by decide +kernel, by decide +kernel, by decide +kernel, by decide +kernel⟩
  exact ⟨hdelimited, (binds_iff faithful _).mpr hdelimited⟩

/-- **Two vault objects with one message**: the identifier of the one contains the label. -/
theorem not_binds : ¬∀ c c' : Created Json.Plain,
    grantSignatureMessage hashing JsonText.compact printTime c.toGrantSignatureContext
      = grantSignatureMessage hashing JsonText.compact printTime c'.toGrantSignatureContext →
    SameContext c.toGrantSignatureContext c'.toGrantSignatureContext := by
  intro hbinds
  have hsame := hbinds (grant "object\nnft_token_id:token" (some "other"))
    (grant "object" (some "token\nnft_token_id:other")) (by
      refine (message_parts faithful _ _).mpr ⟨rfl, ?_, rfl, rfl, rfl⟩
      decide +kernel)
  exact absurd hsame.vaultObjectId (by decide)

end Sample

end Vaulted.VaultObjects
