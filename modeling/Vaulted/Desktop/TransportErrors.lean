import Mathlib.Algebra.GroupWithZero.Nat
import Mathlib.Data.Bool.AllAny
import Vaulted.Library.ByteSlices
import Vaulted.Library.Json
import Vaulted.Library.Masking

/-!
# Error texts that the XRPL client shows

`safe_transport_error_message` of `xrpl/client.rs`, and the error responses that it is applied to
(`extract_xrpl_error_response_fields`).

* `safeTransportErrorMessage` — control characters, words to hide, and at most 240 bytes; `none` is
  a panic.
* `SafeToShow` — what the client relies on.
* `Piece`s — the message with the listed spellings masked all at once; `maskTerms_eq` says that the
  client, which replaces one spelling after another, masks the same.
* `safeToShow_iff` — the messages that are safe to show.
* `length_of_extract`, `extract_eq_none` — the fields of an error response are as short, and which
  responses stop the client.
-/

namespace Vaulted.Transport

open Text Masking

/-! ## The client -/

def maxMessageLen : ℕ := 240

/-- The spellings that are replaced. -/
def forbidden : List String :=
  ["tx_blob", "txBlob", "tx_json", "txJson", "seed", "Seed", "private key", "private_key",
    "Private key", "jwt", "JWT", "aes key", "aes_key", "AES key", "plaintext", "plain text",
    "recovery phrase", "Recovery phrase", "mnemonic entropy"]

def redacted : String := "[redacted]"

/-- `str::replace`. -/
def strReplace (s pat sub : String) : String :=
  String.ofList (replace pat.toList sub.toList s.toList)

def withoutControls (message : String) : String :=
  String.ofList (message.toList.map fun ch => if isControl ch then ' ' else ch)

def maskTerms (s : String) : String :=
  forbidden.foldl (fun safe term => strReplace safe term redacted) s

def safeTransportErrorMessage (message : String) : Option String :=
  let safe := maskTerms (withoutControls message)
  if maxMessageLen < len safe then truncate safe maxMessageLen else some safe

/-- A term is in the text, in some letter case. -/
def Mentions (text : List Char) (term : String) : Prop :=
  ∃ w, w <:+: text ∧ w.map Char.toLower = term.toList.map Char.toLower

/-- The client returns a short text without any of the terms. -/
def SafeToShow (message : String) : Prop :=
  ∃ safe, safeTransportErrorMessage message = some safe ∧ len safe ≤ maxMessageLen
    ∧ ∀ term ∈ forbidden, ¬ Mentions safe.toList term

/-! ## What is shown of a message -/

def words : List (List Char) := forbidden.map String.toList

/-- The message with its listed spellings masked. -/
def pieces (message : String) : List (Option Char) :=
  scan words words (withoutControls message).toList

/-- The bytes that are shown of it: of a listed spelling, ten. -/
def width (tokens : List (Option Char)) : ℕ :=
  (tokens.map fun token => token.elim 10 Char.utf8Size).sum

/-- The last byte that can be shown is not the last one of its character. -/
def CutsCharacter (message : String) : Prop :=
  ∃ before c after, pieces message = before ++ some c :: after ∧ width before < maxMessageLen
    ∧ maxMessageLen < width before + c.utf8Size

/-- A term in another letter case than the listed ones is among the bytes that can be shown. -/
def ShowsTerm (message : String) : Prop :=
  ∃ before w after, ∃ term ∈ forbidden, pieces message = before ++ w.map some ++ after
    ∧ w.map Char.toLower = term.toList.map Char.toLower
    ∧ width before + byteLen w ≤ maxMessageLen

/-! ### One spelling after another -/

lemma layered_words : Layered words where
  nonempty := by decide +kernel
  earlier := by decide +kernel
  self := by decide +kernel
  apart := by decide +kernel

lemma foreign_redacted : ∀ term ∈ forbidden, Foreign redacted.toList term.toList := by
  have hall : ∀ term ∈ forbidden, term.toList ≠ [] ∧ '[' ∉ term.toList ∧ ']' ∉ term.toList
      ∧ ¬ term.toList <:+: redacted.toList := by decide +kernel
  intro term hterm
  obtain ⟨hne, hfirst, hlast, hapart⟩ := hall term hterm
  exact ⟨hne, ⟨'[', by decide +kernel, hfirst⟩, ⟨']', by decide +kernel, hlast⟩, hapart⟩

/-- **The client masks the listed spellings, and no others.** -/
theorem maskTerms_eq (message : String) : maskTerms (withoutControls message)
    = String.ofList (render redacted.toList (pieces message)) := by
  have hfold : ∀ (terms : List String) (tokens : List (Option Char)),
      (∀ term ∈ terms, Foreign redacted.toList term.toList) →
      terms.foldl (fun safe term => strReplace safe term redacted)
          (String.ofList (render redacted.toList tokens))
        = String.ofList (render redacted.toList ((terms.map String.toList).foldl
            (fun tokens p => replace (p.map some) [none] tokens) tokens)) := by
    intro terms
    induction terms with
    | nil => exact fun _ _ => rfl
    | cons term terms ih =>
        intro tokens hforeign
        rw [List.foldl_cons, strReplace, String.toList_ofList,
          replace_render (hforeign term List.mem_cons_self)]
        exact ih _ fun t ht => hforeign t (List.mem_cons_of_mem _ ht)
  have hrun := hfold forbidden ((withoutControls message).toList.map some) foreign_redacted
  rw [render_map_some, String.ofList_toList] at hrun
  rw [maskTerms, hrun, pieces, ← foldl_replace_eq_scan layered_words]
  rfl

/-- None of the listed spellings is left. -/
theorem not_infix_pieces (message : String) {term : String} (h : term ∈ forbidden) :
    ¬ term.toList.map some <:+: pieces message :=
  not_infix_scan layered_words (List.mem_map_of_mem h)

/-! ### The cut -/

section Shown

variable {tokens : List (Option Char)} {cs : List Char}

lemma byteLen_render (tokens : List (Option Char)) :
    byteLen (render redacted.toList tokens) = width tokens := by
  induction tokens with
  | nil => rfl
  | cons token tokens ih =>
      cases token with
      | none =>
          rw [render_none, byteLen_append, ih]
          rfl
      | some c =>
          rw [render_some, byteLen_cons, ih]
          rfl

/-- What neither has a bracket nor is in the mask is foreign to it. -/
lemma foreign_of {w : List Char} (hne : w ≠ []) (hfirst : '[' ∉ w) (hlast : ']' ∉ w)
    (hapart : ¬ w <:+: redacted.toList) : Foreign redacted.toList w :=
  ⟨hne, ⟨'[', by decide +kernel, hfirst⟩, ⟨']', by decide +kernel, hlast⟩, hapart⟩

/-- In any letter case, a term is foreign to the mask. -/
lemma foreign_of_term {w : List Char} {term : String} (hterm : term ∈ forbidden)
    (hw : w.map Char.toLower = term.toList.map Char.toLower) : Foreign redacted.toList w := by
  have hall : ∀ term ∈ forbidden, let lower := term.toList.map Char.toLower
      lower ≠ [] ∧ '[' ∉ lower ∧ ']' ∉ lower ∧ ¬ lower <:+: redacted.toList.map Char.toLower := by
    decide +kernel
  obtain ⟨hne, hfirst, hlast, hapart⟩ := hall term hterm
  rw [← hw] at hne hfirst hlast hapart
  refine foreign_of (fun hnil => hne (by rw [hnil]; rfl)) ?_ ?_ fun hin => hapart (hin.map _)
  · exact fun hmem => hfirst (List.mem_map.mpr ⟨'[', hmem, rfl⟩)
  · exact fun hmem => hlast (List.mem_map.mpr ⟨']', hmem, rfl⟩)

/-- Only a character of the message can be cut. -/
lemma foreign_of_wide {c : Char} (h : c.utf8Size ≠ 1) : Foreign redacted.toList [c] := by
  have hmem : c ∉ redacted.toList := fun hmem =>
    h (List.all_iff_forall_prop (p := fun c => c.utf8Size = 1).mp (by decide +kernel) c hmem)
  refine foreign_of (List.cons_ne_nil _ _) ?_ ?_ ?_
  · rw [List.mem_singleton]
    rintro rfl
    exact h rfl
  · rw [List.mem_singleton]
    rintro rfl
    exact h rfl
  · exact fun hin => hmem (hin.subset List.mem_cons_self)

lemma splitAtByte_render_eq_none {n : ℕ} (hle : n ≤ width tokens) :
    splitAtByte (render redacted.toList tokens) n = none ↔
      ∃ before c after, tokens = before ++ some c :: after ∧ width before < n
        ∧ n < width before + c.utf8Size := by
  rw [splitAtByte_eq_none, byteLen_render]
  constructor
  · rintro (hlt | ⟨front, c, back, heq, hlt, hgt⟩)
    · omega
    · have hwide : c.utf8Size ≠ 1 := by omega
      have hrender : render redacted.toList tokens = front ++ [c] ++ back := by
        rw [heq, List.append_assoc]
        rfl
      obtain ⟨before, after, rfl, rfl⟩ := exists_of_render (foreign_of_wide hwide) hrender
      rw [byteLen_render] at hlt hgt
      exact ⟨before, c, after, by rw [List.append_assoc]; rfl, hlt, hgt⟩
  · rintro ⟨before, c, after, rfl, hlt, hgt⟩
    refine .inr ⟨render redacted.toList before, c, render redacted.toList after, ?_, ?_, ?_⟩
    · rw [render_append, render_some]
    · rwa [byteLen_render]
    · rwa [byteLen_render]

/-- The client returns nothing where it cuts a character. -/
lemma safeTransportErrorMessage_eq_none {message : String} :
    safeTransportErrorMessage message = none ↔ CutsCharacter message := by
  have hlen : len (maskTerms (withoutControls message)) = width (pieces message) := by
    rw [maskTerms_eq, len_ofList, byteLen_render]
  simp only [safeTransportErrorMessage, hlen]
  split_ifs with hlong
  · rw [truncate, if_pos (by omega), Option.map_eq_none_iff, maskTerms_eq, String.toList_ofList,
      splitAtByte_render_eq_none (by omega)]
    rfl
  · refine iff_of_false (fun h => by cases h) ?_
    rintro ⟨before, c, after, heq, -, hgt⟩
    rw [heq, ← byteLen_render, render_append, render_some, byteLen_append, byteLen_cons,
      byteLen_render] at hlong
    omega

/-- What the client returns is the beginning of what is shown, as long as it can be. -/
lemma of_safeTransportErrorMessage {message safe : String}
    (h : safeTransportErrorMessage message = some safe) :
    safe.toList <+: render redacted.toList (pieces message)
      ∧ byteLen safe.toList = min (width (pieces message)) maxMessageLen := by
  have hlen : len (maskTerms (withoutControls message)) = width (pieces message) := by
    rw [maskTerms_eq, len_ofList, byteLen_render]
  simp only [safeTransportErrorMessage, hlen] at h
  split_ifs at h with hlong
  · rw [truncate, if_pos (by omega), Option.map_eq_some_iff, maskTerms_eq,
      String.toList_ofList] at h
    obtain ⟨⟨front, back⟩, hsplit, rfl⟩ := h
    obtain ⟨hshown, hfront⟩ := splitAtByte_eq_some.mp hsplit
    rw [String.toList_ofList, min_eq_right (by omega)]
    exact ⟨⟨back, hshown.symm⟩, hfront⟩
  · rw [← Option.some.inj h, maskTerms_eq, String.toList_ofList]
    exact ⟨List.prefix_rfl, by rw [byteLen_render]; omega⟩

/-- A returned text mentions the terms that are shown. -/
lemma mentions_iff {message safe : String} (h : safeTransportErrorMessage message = some safe) :
    (∃ term ∈ forbidden, Mentions safe.toList term) ↔ ShowsTerm message := by
  obtain ⟨hpre, hlen⟩ := of_safeTransportErrorMessage h
  constructor
  · rintro ⟨term, hterm, w, ⟨front, back, hin⟩, hw⟩
    obtain ⟨rest, hrest⟩ := hpre
    have hrender : render redacted.toList (pieces message) = front ++ w ++ (back ++ rest) := by
      rw [← hrest, ← hin, List.append_assoc]
    obtain ⟨before, after, htokens, rfl⟩ := exists_of_render (foreign_of_term hterm hw) hrender
    refine ⟨before, w, after, term, hterm, htokens, hw, ?_⟩
    have hbytes := congrArg byteLen hin
    rw [byteLen_append, byteLen_append, byteLen_render] at hbytes
    omega
  · rintro ⟨before, w, after, term, hterm, htokens, hw, hwidth⟩
    refine ⟨term, hterm, w, ?_, hw⟩
    have hshown : render redacted.toList before ++ w <+: render redacted.toList (pieces message) :=
      ⟨render redacted.toList after, by
        rw [htokens, render_append, render_append, render_map_some]⟩
    have hle : byteLen (render redacted.toList before ++ w) ≤ byteLen safe.toList := by
      have htotal := congrArg width htokens
      rw [← byteLen_render, ← byteLen_render, render_append, render_append, render_map_some,
        byteLen_append, byteLen_append, byteLen_render, byteLen_render] at htotal
      rw [byteLen_append, byteLen_render]
      omega
    have hfront := prefix_of_byteLen_le hshown hpre hle
    exact (List.suffix_append _ w).isInfix.trans hfront.isInfix

end Shown

/-- **The messages that are safe to show** are those in which neither a character reaches over the
last byte, nor a term stands before it in a letter case that is not listed. At such a character the
truncation panics, and such a term is not replaced. -/
theorem safeToShow_iff (message : String) :
    SafeToShow message ↔ ¬ CutsCharacter message ∧ ¬ ShowsTerm message := by
  constructor
  · rintro ⟨safe, hsafe, -, hterms⟩
    refine ⟨fun hcut => ?_, fun hshows => ?_⟩
    · rw [safeTransportErrorMessage_eq_none.mpr hcut] at hsafe
      cases hsafe
    · obtain ⟨term, hterm, hmentions⟩ := (mentions_iff hsafe).mpr hshows
      exact hterms term hterm hmentions
  · rintro ⟨hcut, hshows⟩
    cases hsafe : safeTransportErrorMessage message with
    | none => exact absurd (safeTransportErrorMessage_eq_none.mp hsafe) hcut
    | some safe =>
        refine ⟨safe, hsafe, ?_, fun term hterm hmentions => ?_⟩
        · rw [len_eq_byteLen, (of_safeTransportErrorMessage hsafe).2]
          exact min_le_right _ _
        · exact hshows ((mentions_iff hsafe).mp ⟨term, hterm, hmentions⟩)

/-- A message in whose characters no listed spelling begins is shown as it is. -/
lemma pieces_eq_map_some {message : String}
    (h : ∀ c ∈ message.toList, isControl c = false
      ∧ ∀ term ∈ forbidden, term.toList.head? ≠ some c) :
    pieces message = message.toList.map some := by
  have hcontrols : (message.toList.map fun ch => if isControl ch then ' ' else ch)
      = message.toList := by
    conv_rhs => rw [← List.map_id message.toList]
    exact List.map_congr_left fun c hc => by rw [(h c hc).1]; rfl
  rw [pieces, withoutControls, String.toList_ofList, hcontrols]
  refine scan_eq_map fun j hj => standing_eq_none.mpr fun p hp hpre => ?_
  obtain ⟨term, hterm, rfl⟩ := List.mem_map.mp hp
  have hdrop : message.toList.drop j = message.toList[j] :: message.toList.drop (j + 1) :=
    List.drop_eq_getElem_cons hj
  cases hword : term.toList with
  | nil => exact absurd hword (foreign_redacted term hterm).nonempty
  | cons c cs =>
      rw [hword, hdrop, List.cons_prefix_cons] at hpre
      exact absurd (by rw [hword, hpre.1]; rfl) ((h _ (List.getElem_mem hj)).2 term hterm)

namespace Sample

/-- A text with an umlaut at its end. -/
def umlaut (n : ℕ) : String := String.ofList (List.replicate n 'x' ++ ['é'])

lemma pieces_umlaut (n : ℕ) :
    pieces (umlaut n) = (List.replicate n 'x').map some ++ some 'é' :: [] := by
  rw [pieces_eq_map_some, umlaut, String.toList_ofList, List.map_append]
  · rfl
  · intro c hc
    rw [umlaut, String.toList_ofList] at hc
    rcases List.mem_append.mp hc with hc | hc
    · rw [List.eq_of_mem_replicate hc]
      decide +kernel
    · rw [List.mem_singleton.mp hc]
      decide +kernel

lemma width_replicate (n : ℕ) : width ((List.replicate n 'x').map some) = n := by
  induction n with
  | zero => rfl
  | succ n ih =>
      have hone : width ((List.replicate (n + 1) 'x').map some)
          = 1 + width ((List.replicate n 'x').map some) := rfl
      rw [hone, ih, Nat.add_comm]

lemma cuts_umlaut : CutsCharacter (umlaut 239) := by
  have hsize : ('é').utf8Size = 2 := by decide
  refine ⟨_, _, _, pieces_umlaut 239, ?_, ?_⟩
  · rw [width_replicate]
    decide
  · rw [width_replicate, hsize]
    decide

lemma shows_blob : ShowsTerm "TX_BLOB" := by
  have hpieces : pieces "TX_BLOB" = "TX_BLOB".toList.map some := by
    refine pieces_eq_map_some ?_
    exact List.all_iff_forall_prop.mp (by decide +kernel)
  exact ⟨[], "TX_BLOB".toList, [], "tx_blob", by decide +kernel, by rw [hpieces]; decide +kernel,
    by decide +kernel, by decide +kernel⟩

end Sample

/-- A term in capitals is shown, and a character that is cut stops the client. -/
theorem not_safeToShow : ¬ SafeToShow "TX_BLOB"
    ∧ safeTransportErrorMessage (Sample.umlaut 239) = none ∧ ¬ ∀ message, SafeToShow message :=
  ⟨fun h => ((safeToShow_iff _).mp h).2 Sample.shows_blob,
    safeTransportErrorMessage_eq_none.mpr Sample.cuts_umlaut,
    fun h => ((safeToShow_iff _).mp (h _)).1 Sample.cuts_umlaut⟩

/-! ## Error responses -/

/-- The text of a value that is no list, no object and no fraction. -/
def scalarText : Json → Option String
  | .Str text => some text
  | .Num (.Nat n) => if n < 2 ^ 64 then some (toString n) else none
  | .Num (.Neg n) => if n ≤ 2 ^ 63 then some ("-" ++ toString n) else none
  | .Boolean b => some (toString b)
  | _ => none

def topLevelSafeField (response : Json) (field : String) : Option (Option String) :=
  match (response.get field).bind scalarText with
  | none => some none
  | some text => (safeTransportErrorMessage text).map some

structure XrplErrorResponseFields where
  error : String
  errorCode : String
  errorMessage : String
  status : String

def extractXrplErrorResponseFields (response : Json) : Option XrplErrorResponseFields := do
  let error ← topLevelSafeField response "error"
  let errorCode ← topLevelSafeField response "error_code"
  let errorMessage ← topLevelSafeField response "error_message"
  let status ← topLevelSafeField response "status"
  return {
    error := error.getD "unknown"
    errorCode := errorCode.getD ""
    errorMessage := errorMessage.getD "Unknown"
    status := status.getD "" }

lemma topLevelSafeField_eq_none {response : Json} {field : String} :
    topLevelSafeField response field = none ↔
      ∃ text, (response.get field).bind scalarText = some text ∧ CutsCharacter text := by
  rw [topLevelSafeField]
  cases htext : (response.get field).bind scalarText with
  | none => simp
  | some text => simp [safeTransportErrorMessage_eq_none]

lemma len_getD_of_topLevelSafeField {response : Json} {field fallback : String}
    {value : Option String} (hfallback : len fallback ≤ maxMessageLen)
    (h : topLevelSafeField response field = some value) :
    len (value.getD fallback) ≤ maxMessageLen := by
  rw [topLevelSafeField] at h
  cases htext : (response.get field).bind scalarText with
  | none =>
      rw [htext] at h
      obtain rfl := Option.some.inj h
      exact hfallback
  | some text =>
      rw [htext] at h
      obtain ⟨safe, hsafe, rfl⟩ := Option.map_eq_some_iff.mp h
      rw [Option.getD_some, len_eq_byteLen, (of_safeTransportErrorMessage hsafe).2]
      exact min_le_right _ _

/-- **No field that is extracted is longer than it may be.** -/
theorem length_of_extract {response : Json} {fields : XrplErrorResponseFields}
    (h : extractXrplErrorResponseFields response = some fields) :
    ∀ text ∈ [fields.error, fields.errorCode, fields.errorMessage, fields.status],
      len text ≤ maxMessageLen := by
  obtain ⟨error, herror, h⟩ := Option.bind_eq_some_iff.mp h
  obtain ⟨errorCode, hcode, h⟩ := Option.bind_eq_some_iff.mp h
  obtain ⟨errorMessage, hmessage, h⟩ := Option.bind_eq_some_iff.mp h
  obtain ⟨status, hstatus, h⟩ := Option.bind_eq_some_iff.mp h
  rw [← Option.some.inj h]
  intro text htext
  simp only [List.mem_cons, List.not_mem_nil, or_false] at htext
  rcases htext with rfl | rfl | rfl | rfl
  · exact len_getD_of_topLevelSafeField (by decide +kernel) herror
  · exact len_getD_of_topLevelSafeField (by decide +kernel) hcode
  · exact len_getD_of_topLevelSafeField (by decide +kernel) hmessage
  · exact len_getD_of_topLevelSafeField (by decide +kernel) hstatus

/-- **The responses that stop the client** have a field in which a character is cut. -/
theorem extract_eq_none {response : Json} : extractXrplErrorResponseFields response = none ↔
    ∃ field ∈ ["error", "error_code", "error_message", "status"], ∃ text,
      (response.get field).bind scalarText = some text ∧ CutsCharacter text := by
  have hfields : extractXrplErrorResponseFields response = none ↔
      ∃ field ∈ ["error", "error_code", "error_message", "status"],
        topLevelSafeField response field = none := by
    simp only [extractXrplErrorResponseFields, List.mem_cons, List.not_mem_nil, or_false,
      exists_eq_or_imp, exists_eq_left]
    cases topLevelSafeField response "error" <;>
      cases topLevelSafeField response "error_code" <;>
        cases topLevelSafeField response "error_message" <;>
          cases topLevelSafeField response "status" <;> simp
  simp only [hfields, topLevelSafeField_eq_none]

end Vaulted.Transport
