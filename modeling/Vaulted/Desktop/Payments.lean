import Vaulted.Desktop.ClaimPaysNothing
import Vaulted.Library.Decimal

/-!
# Payments

`send_xrp_payment` of `commands.rs`, from the text of an amount to the signed transaction.

* `parseXrpAmountToDrops`, `parseDestinationTag`, `validateSpendableBalance` — the checks.
* `sendXrpPayment` — the command.
* `IsAmount` — what the text of an amount may be; `parseXrpAmountToDrops_eq_ok` reads it exactly.
* `PaysExactly` — what is known of a payment that is signed (`paysExactly_of_signed`).
* `amountsExact` — all of it together.
-/

namespace Vaulted.Payments

open Commands XrplWallet Decimal JsonText

/-! ## Reading an amount -/

/-- The six decimal places of an amount. -/
def dropsPerXrp : UInt64 := 1000000

def notNumeric : ClientError := .Validation "Amount must be a numeric XRP value"

def tooLarge : ClientError := .Validation "Amount is too large"

def okOr {α : Type} (o : Option α) (e : ClientError) : Except ClientError α :=
  match o with
  | some a => .ok a
  | none => .error e

/-- `{:0<6}`. -/
def padded (fractional : String) : String :=
  String.ofList (fractional.toList ++ List.replicate (6 - fractional.toList.length) '0')

def fractionalDrops (fractional : String) : Except ClientError UInt64 :=
  if Text.isEmpty fractional then .ok 0 else okOr (parseU64 (padded fractional)) tooLarge

/-- The amount, once it has been taken apart. -/
def dropsOf (whole fractional : String) : Except ClientError UInt64 := do
  let wholeXrp ← okOr (parseU64 whole) tooLarge
  let wholeDrops ← okOr (checkedMul wholeXrp dropsPerXrp) tooLarge
  let fractionalDrops ← fractionalDrops fractional
  let drops ← okOr (checkedAdd wholeDrops fractionalDrops) tooLarge
  if drops = 0 then .error (.Validation "Amount must be greater than 0 XRP") else .ok drops

def isNumeric (s : String) : Bool := s.toList.all isDigit

def splitAmount (parts : List String) : Except ClientError UInt64 :=
  let whole := parts.headD ""
  let fractional := (parts[1]?).getD ""
  if 2 < parts.length ∨ Text.isEmpty whole = true then .error notNumeric
  else if !isNumeric whole then .error notNumeric
  else if !isNumeric fractional then .error notNumeric
  else if 6 < Text.len fractional then
    .error (.Validation "Amount supports at most 6 decimal places")
  else dropsOf whole fractional

def parseXrpAmountToDrops (amountXrp : String) : Except ClientError UInt64 :=
  let trimmed := Text.trim amountXrp
  if Text.isEmpty trimmed then .error (.Validation "Amount is required")
  else if Text.startsWith trimmed "-" || Text.startsWith trimmed "+" then
    .error (.Validation "Amount must be a positive XRP value")
  else if Text.eqIgnoreAsciiCase trimmed "nan"
      || Text.contains (Text.toAsciiLowercase trimmed) "inf" then
    .error (.Validation "Amount must be a finite XRP value")
  else splitAmount (Text.split '.' trimmed)

def parseDestinationTag (tag : Option String) : Except ClientError (Option UInt32) :=
  match (tag.map Text.trim).filter fun tag => !Text.isEmpty tag with
  | none => .ok none
  | some tag =>
      if Text.startsWith tag "-" || Text.startsWith tag "+" || !isNumeric tag then
        .error (.Validation "Destination tag must be a non-negative integer")
      else (okOr (parseUnsigned 32 tag) (.Validation "Destination tag is too large")).map fun n =>
        some (UInt32.ofNat n)

def validateSpendableBalance (balanceDrops reserveDrops feeDrops amountDrops : UInt64) :
    Except ClientError Unit := do
  let spendable ← okOr ((checkedSub balanceDrops reserveDrops).bind fun value =>
    checkedSub value feeDrops) (.Validation "Wallet balance does not cover reserve and fee")
  if spendable < amountDrops then
    .error (.Validation "Insufficient spendable balance after reserve and fee")
  else .ok ()

/-! ## send_xrp_payment -/

def reserveDrops : UInt64 := 10000000

structure SendXrpPaymentRequest where
  destination : String
  amountXrp : String
  destinationTag : Option String
  deriving DecidableEq

structure SendXrpPaymentResponse where
  engineResult : String
  engineResultMessage : String
  txHash : String
  deriving DecidableEq

/-- An account that the ledger does not know has not been funded. -/
def unfunded (e : ClientError) : ClientError :=
  if Text.contains e.display "actNotFound" || Text.contains e.display "Account not found" then
    .Validation "Wallet account is not funded"
  else e

section Programs

variable {E : Type} (codec : AddressCodec)

/-- The part from the balance on. -/
def payFrom (account destination : String) (amountDrops : UInt64)
    (destinationTag : Option UInt32) (info : AccountInfo) : Program E SendXrpPaymentResponse :=
  orFail (okOr (parseU64 info.balance) (.Xrpl "XRPL returned an invalid account balance"))
    fun balanceDrops =>
  request "fee" [] feeDrops fun fee =>
  orFail (okOr (parseU64 fee) (.Xrpl "XRPL returned an invalid fee")) fun feeDrops =>
  orFail (validateSpendableBalance balanceDrops reserveDrops feeDrops amountDrops) fun _ =>
  request "ledger_current" [] ledgerCurrentIndex fun index =>
  signTx account (.SendXrp destination (toString amountDrops.toNat) destinationTag)
    ((addXrplSigningFields
      (buildXrpPaymentTx account destination (toString amountDrops.toNat) destinationTag) fee
      info.sequence (saturatingAdd index 20)).getD .Null)
    "Local signing did not produce a signed XRPL transaction payload" fun submit =>
  .Done (.ok ⟨submit.engineResult, submit.engineResultMessage, submit.txHash⟩)

def sendXrpPayment (payment : SendXrpPaymentRequest) : Program E SendXrpPaymentResponse :=
  let destination := Text.trim payment.destination
  if !isValidXrplClassicAddress codec destination then
    .Done (.error (.Error (.Validation "Destination must be a valid XRPL classic address")))
  else
  orFail (parseXrpAmountToDrops payment.amountXrp) fun amountDrops =>
  orFail (parseDestinationTag payment.destinationTag) fun destinationTag =>
  .Exec .GetXrplWallet fun account _ =>
  orFail account fun account =>
  .Exec .Connect fun connected _ =>
  orFail connected fun _ =>
  .Exec (.Request "account_info" (validatedAccount account)) fun answer _ =>
  orStop (Pre.mapErr (Stop.map unfunded) (reading accountInfo answer)) fun info =>
  payFrom account destination amountDrops destinationTag info

end Programs

/-! ## What the text of an amount says -/

/-- Digits, and after a point up to six more, are an amount that is a number of drops. -/
def IsAmount (s : String) (n : ℕ) : Prop :=
  ∃ whole fraction, whole ≠ [] ∧ (∀ c ∈ whole, isDigit c = true)
    ∧ (∀ c ∈ fraction, isDigit c = true) ∧ fraction.length ≤ 6
    ∧ ((Text.trim s).toList = whole ∧ fraction = []
      ∨ (Text.trim s).toList = whole ++ '.' :: fraction)
    ∧ decimalValue whole fraction * 10 ^ 6 = n ∧ 1 ≤ n ∧ n < 2 ^ 64

section Reading

variable {whole fractional : String} {d : UInt64}

lemma okOr_eq_ok {α : Type} {o : Option α} {e : ClientError} {a : α} :
    okOr o e = .ok a ↔ o = some a := by
  cases o with
  | none => simp [okOr]
  | some b => simp [okOr]

lemma isNumeric_iff {s : String} : isNumeric s = true ↔ ∀ c ∈ s.toList, isDigit c = true :=
  List.all_eq_true

lemma isDigit_zeros (n : ℕ) : ∀ c ∈ List.replicate n '0', isDigit c = true := by
  intro c hc
  rw [List.eq_of_mem_replicate hc]
  rfl

lemma len_of_digits {s : String} (h : ∀ c ∈ s.toList, isDigit c = true) :
    Text.len s = s.toList.length := by
  rw [Text.len, Text.utf8]
  generalize s.toList = cs at h
  induction cs with
  | nil => rfl
  | cons c cs ih =>
      have hc := h c List.mem_cons_self
      have hsize : (String.utf8EncodeChar c).length = 1 := by
        simp only [isDigit, Bool.and_eq_true, decide_eq_true_eq] at hc
        rw [String.length_utf8EncodeChar, Char.utf8Size_eq_one_iff]
        show c.toNat ≤ 127
        omega
      have hcs := ih fun d hd => h d (List.mem_cons_of_mem _ hd)
      rw [List.flatMap_cons, List.length_append, hsize, hcs, List.length_cons, Nat.add_comm]

/-- The digits are the number of drops, once the fraction is filled up. -/
lemma dropsOf_eq_ok (hne : whole.toList ≠ []) (hwhole : ∀ c ∈ whole.toList, isDigit c = true)
    (hfractional : ∀ c ∈ fractional.toList, isDigit c = true) :
    dropsOf whole fractional = .ok d ↔ d ≠ 0 ∧ d.toNat = ofDecimal whole.toList * 10 ^ 6
      + ofDecimal (padded fractional).toList := by
  have hpadded : ∀ c ∈ (padded fractional).toList, isDigit c = true := by
    intro c hc
    rw [padded, String.toList_ofList, List.mem_append] at hc
    rcases hc with hc | hc
    · exact hfractional c hc
    · exact isDigit_zeros _ c hc
  -- an empty fraction is read as no drops, which are what six zeros would be
  have hread : ∀ f, fractionalDrops fractional = .ok f
      ↔ f.toNat = ofDecimal (padded fractional).toList := by
    intro f
    rw [fractionalDrops]
    by_cases hempty : Text.isEmpty fractional = true
    · have hnil : fractional.toList = [] := List.isEmpty_iff.mp hempty
      have hzeros : (padded fractional).toList = List.replicate 6 '0' := by
        rw [padded, hnil, String.toList_ofList]
        rfl
      rw [if_pos hempty, hzeros, ofDecimal_zeros, Except.ok.injEq, ← UInt64.toNat_inj, eq_comm]
      rfl
    · have hne' : (padded fractional).toList ≠ [] := by
        rw [padded, String.toList_ofList]
        exact List.append_ne_nil_of_left_ne_nil
          (fun hnil => hempty (List.isEmpty_iff.mpr hnil)) _
      rw [if_neg hempty, ← parseU64_digits hne' hpadded]
      cases parseU64 (padded fractional) <;> simp [okOr]
  have hcheck : ∀ (drops : UInt64) (e : ClientError),
      (if drops = 0 then .error e else .ok drops) = Except.ok d ↔ drops = d ∧ d ≠ 0 := by
    intro drops e
    split_ifs with hzero
    · exact ⟨(fun h => by cases h), fun h => absurd (h.1 ▸ hzero) h.2⟩
    · rw [Except.ok.injEq]
      exact ⟨fun h => ⟨h, h ▸ hzero⟩, And.left⟩
  simp only [dropsOf, Checks.bind_eq_ok_iff, okOr_eq_ok, hread, hcheck, parseU64_digits hne hwhole,
    checkedMul_eq_some, checkedAdd_eq_some]
  have hd := d.toNat_lt
  have hofNat : ∀ n < 2 ^ 64, (UInt64.ofNat n).toNat = n := fun n hn => UInt64.toNat_ofNat_of_lt' hn
  constructor
  · rintro ⟨w, hw, drops, hdrops, f, hf, _, hsum, rfl, hzero⟩
    rw [hw] at hdrops
    exact ⟨hzero, by rw [hsum, hdrops, hf]; rfl⟩
  · rintro ⟨hzero, hsum⟩
    have hscale : dropsPerXrp.toNat = 10 ^ 6 := rfl
    refine ⟨UInt64.ofNat (ofDecimal whole.toList), hofNat _ (by omega),
      UInt64.ofNat (ofDecimal whole.toList * 10 ^ 6), ?_,
      UInt64.ofNat (ofDecimal (padded fractional).toList), hofNat _ (by omega), d, ?_, rfl, hzero⟩
    · rw [hofNat _ (by omega), hofNat _ (by omega), hscale]
    · rw [hofNat _ (by omega), hofNat _ (by omega), hsum]

/-- What is read: at most two parts, of which the second may be missing. -/
lemma splitAmount_eq_ok {parts : List String} :
    splitAmount parts = .ok d ↔ ∃ whole fractional,
      (parts = [whole] ∧ fractional = "" ∨ parts = [whole, fractional]) ∧ whole.toList ≠ []
      ∧ (∀ c ∈ whole.toList, isDigit c = true) ∧ (∀ c ∈ fractional.toList, isDigit c = true)
      ∧ fractional.toList.length ≤ 6 ∧ dropsOf whole fractional = .ok d := by
  have hpassed : splitAmount parts = .ok d ↔ parts.length ≤ 2 ∧ (parts.headD "").toList ≠ []
      ∧ (∀ c ∈ (parts.headD "").toList, isDigit c = true)
      ∧ (∀ c ∈ (parts[1]?.getD "").toList, isDigit c = true)
      ∧ (parts[1]?.getD "").toList.length ≤ 6
      ∧ dropsOf (parts.headD "") (parts[1]?.getD "") = .ok d := by
    simp only [splitAmount, Text.isEmpty, List.isEmpty_iff, ← isNumeric_iff]
    split_ifs with hparts hwhole hfractional hlong
    · simp only [false_iff]
      rintro ⟨hlength, hne, -⟩
      rcases hparts with hparts | hparts
      · omega
      · exact hne hparts
    · simp_all
    · simp_all
    · have hdigits := len_of_digits (isNumeric_iff.mp (by simpa using hfractional))
      simp only [false_iff]
      rintro ⟨-, -, -, -, hlength, -⟩
      omega
    · have hdigits := len_of_digits (isNumeric_iff.mp (by simpa using hfractional))
      simp only [not_or, not_lt, Bool.not_eq_true', Bool.not_eq_false] at hparts hwhole hfractional
      simp only [hparts, hwhole, hfractional, true_and, ne_eq, not_false_eq_true]
      exact ⟨fun h => ⟨by omega, h⟩, And.right⟩
  rw [hpassed]
  rcases parts with _ | ⟨whole, _ | ⟨fractional, _ | ⟨_, _⟩⟩⟩
  · simp
  · simp
  · simp
  · simp

lemma toLower_of_digit {c : Char} (h : isDigit c = true) : c.toLower = c := by
  simp only [isDigit, Bool.and_eq_true, decide_eq_true_eq] at h
  delta Char.toLower
  rw [dif_neg]
  rintro ⟨hle, -⟩
  have hle : 65 ≤ c.toNat := hle
  omega

/-- What is made of digits and a point passes the first checks. -/
lemma parseXrpAmountToDrops_eq {s : String} {c : Char} {cs : List Char}
    (htext : (Text.trim s).toList = c :: cs) (hc : isDigit c = true)
    (hcs : ∀ c ∈ cs, isDigit c = true ∨ c = '.') :
    parseXrpAmountToDrops s = splitAmount (Text.split '.' (Text.trim s)) := by
  have hother : ∀ c' : Char, isDigit c' = false → c ≠ c' := by
    rintro _ hdigit rfl
    rw [hc] at hdigit
    cases hdigit
  have hempty : Text.isEmpty (Text.trim s) = false := by rw [Text.isEmpty, htext]; rfl
  have hminus : Text.startsWith (Text.trim s) "-" = false := by
    rw [Text.startsWith, htext, ← Bool.not_eq_true, List.isPrefixOf_iff_prefix]
    simp [(hother '-' rfl).symm]
  have hplus : Text.startsWith (Text.trim s) "+" = false := by
    rw [Text.startsWith, htext, ← Bool.not_eq_true, List.isPrefixOf_iff_prefix]
    simp [(hother '+' rfl).symm]
  have hnan : Text.eqIgnoreAsciiCase (Text.trim s) "nan" = false := by
    have hlower : 'n'.toLower = 'n' := rfl
    simp [Text.eqIgnoreAsciiCase, htext, toLower_of_digit hc, hlower, hother 'n' rfl]
  have hinf : Text.contains (Text.toAsciiLowercase (Text.trim s)) "inf" = false := by
    rw [← Bool.not_eq_true, Text.contains_iff, Text.toAsciiLowercase, htext]
    intro hinfix
    simp only [String.toList_ofList, String.reduceToList] at hinfix
    have hletter : 'i' ∈ (c :: cs).map Char.toLower := hinfix.subset List.mem_cons_self
    obtain ⟨c', hmem, hi⟩ := List.mem_map.mp hletter
    have hkind : isDigit c' = true ∨ c' = '.' := by
      rcases List.mem_cons.mp hmem with rfl | hmem
      · exact .inl hc
      · exact hcs c' hmem
    rcases hkind with hdigit | rfl
    · rw [toLower_of_digit hdigit] at hi
      subst hi
      cases hdigit
    · cases hi
  simp [parseXrpAmountToDrops, hempty, hminus, hplus, hnan, hinf]

/-- **An amount is read exactly.** -/
theorem parseXrpAmountToDrops_eq_ok (s : String) :
    parseXrpAmountToDrops s = .ok d ↔ IsAmount s d.toNat := by
  constructor
  · intro h
    have hsplit : splitAmount (Text.split '.' (Text.trim s)) = .ok d := by
      rw [parseXrpAmountToDrops] at h
      split_ifs at h
      exact h
    obtain ⟨whole, fractional, hparts, hne, hwhole, hfractional, hlength, hdrops⟩ :=
      splitAmount_eq_ok.mp hsplit
    obtain ⟨hzero, hvalue⟩ := (dropsOf_eq_ok hne hwhole hfractional).mp hdrops
    refine ⟨whole.toList, fractional.toList, hne, hwhole, hfractional, hlength, ?_, ?_, ?_,
      d.toNat_lt⟩
    · rcases hparts with ⟨hparts, rfl⟩ | hparts
      · exact .inl ⟨congrArg _ (Text.of_split_eq_singleton hparts), rfl⟩
      · refine .inr ?_
        rw [(Text.of_split_eq_pair hparts).1]
        simp
    · rw [shifted_eq _ _ hlength, hvalue, padded, String.toList_ofList]
    · exact Nat.one_le_iff_ne_zero.mpr fun h => hzero (UInt64.toNat_inj.mp h)
  · rintro ⟨whole, fraction, hne, hwhole, hfraction, hlength, htext, hvalue, hpos, -⟩
    have hpoint : ∀ cs : List Char, (∀ c ∈ cs, isDigit c = true) → '.' ∉ cs := by
      intro cs hcs hmem
      have hdigit := hcs _ hmem
      cases hdigit
    rw [shifted_eq _ _ hlength] at hvalue
    have hdrops : dropsOf (String.ofList whole) (String.ofList fraction) = .ok d := by
      refine (dropsOf_eq_ok ?_ ?_ ?_).mpr ⟨?_, ?_⟩
      · rwa [String.toList_ofList]
      · rwa [String.toList_ofList]
      · rwa [String.toList_ofList]
      · rintro rfl
        exact Nat.not_succ_le_zero 0 hpos
      · rw [padded, String.toList_ofList, String.toList_ofList, String.toList_ofList]
        exact (Nat.cast_injective hvalue).symm
    have hsplit : splitAmount (Text.split '.' (Text.trim s)) = .ok d := by
      refine splitAmount_eq_ok.mpr ⟨.ofList whole, .ofList fraction, ?_, ?_, ?_, ?_, ?_, hdrops⟩
      · rcases htext with ⟨htext, rfl⟩ | htext
        · refine .inl ⟨?_, rfl⟩
          rw [Text.split_of_not_mem (htext ▸ hpoint whole hwhole), ← htext, String.ofList_toList]
        · refine .inr ?_
          have hjoined : Text.trim s
              = String.ofList whole ++ String.singleton '.' ++ String.ofList fraction :=
            String.toList_injective (by rw [htext]; simp)
          rw [hjoined, Text.split_append]
          · rw [String.toList_ofList]
            exact hpoint whole hwhole
          · rw [String.toList_ofList]
            exact hpoint fraction hfraction
      all_goals rwa [String.toList_ofList]
    obtain ⟨c, cs, rfl⟩ := List.exists_cons_of_ne_nil hne
    have hcs : ∀ d ∈ cs, isDigit d = true := fun d hd => hwhole d (List.mem_cons_of_mem _ hd)
    rcases htext with ⟨htext, -⟩ | htext
    · rw [parseXrpAmountToDrops_eq htext (hwhole c List.mem_cons_self) fun d hd => .inl (hcs d hd),
        hsplit]
    · rw [parseXrpAmountToDrops_eq htext (hwhole c List.mem_cons_self), hsplit]
      intro d hd
      rcases List.mem_append.mp hd with hd | hd
      · exact .inl (hcs d hd)
      · rcases List.mem_cons.mp hd with rfl | hd
        · exact .inr rfl
        · exact .inl (hfraction d hd)

end Reading

/-- **A balance is spendable** if it covers the reserve, the fee and the amount. -/
theorem validateSpendableBalance_eq_ok
    (balanceDrops reserveDrops feeDrops amountDrops : UInt64) :
    validateSpendableBalance balanceDrops reserveDrops feeDrops amountDrops = .ok ()
      ↔ reserveDrops.toNat + feeDrops.toNat + amountDrops.toNat ≤ balanceDrops.toNat := by
  have hcovers : ∀ (spendable : UInt64) (e : ClientError),
      (if spendable < amountDrops then .error e else .ok ()) = Except.ok ()
        ↔ amountDrops.toNat ≤ spendable.toNat := by
    intro spendable e
    split_ifs with h
    · simp only [false_iff, not_le]
      exact h
    · simp only [true_iff]
      exact Nat.le_of_not_lt h
  simp only [validateSpendableBalance, Checks.bind_eq_ok_iff, okOr_eq_ok, Option.bind_eq_some_iff,
    checkedSub_eq_some, hcovers]
  constructor
  · rintro ⟨spendable, ⟨value, hvalue, hspendable⟩, hcovered⟩
    omega
  · intro hcovered
    have hvalue : (balanceDrops - reserveDrops).toNat = balanceDrops.toNat - reserveDrops.toNat := by
      refine UInt64.toNat_sub_of_le _ _ ?_
      show reserveDrops.toNat ≤ balanceDrops.toNat
      omega
    have hspendable : (balanceDrops - reserveDrops - feeDrops).toNat
        = (balanceDrops - reserveDrops).toNat - feeDrops.toNat := by
      refine UInt64.toNat_sub_of_le _ _ ?_
      show feeDrops.toNat ≤ (balanceDrops - reserveDrops).toNat
      omega
    exact ⟨balanceDrops - reserveDrops - feeDrops, ⟨balanceDrops - reserveDrops, by omega, by omega⟩,
      by omega⟩

/-! ## What is signed -/

section Signing

variable {world : ℕ → Moment} {e : Event} {t : ℕ} {α β : Type}

lemma of_mem_orFail {answer : Except ClientError β} {k : β → Program Unit α}
    (h : e ∈ play world (orFail answer k) t []) :
    ∃ b, answer = .ok b ∧ e ∈ play world (k b) t [] := by
  cases answer with
  | error _ => cases h
  | ok b => exact ⟨b, rfl, h⟩

lemma of_mem_orStop {answer : Except Stop β} {k : β → Program Unit α}
    (h : e ∈ play world (orStop answer k) t []) :
    ∃ b, answer = .ok b ∧ e ∈ play world (k b) t [] := by
  cases answer with
  | error _ => cases h
  | ok b => exact ⟨b, rfl, h⟩

lemma of_mem_request {command : String} {params : List (String × Json)}
    {read : Json → Except ClientError β} {k : β → Program Unit α}
    (hquiet : events (world t) (.Request command params) = [])
    (h : e ∈ play world (request command params read k) t []) :
    ∃ b, reading read ((world t).answer (.Request command params)) = .ok b
      ∧ e ∈ play world (k b) (t + 1) [] := by
  rw [request, play_quiet hquiet] at h
  exact of_mem_orStop h

/-- What is signed, when nothing follows. -/
lemma ready_of_signed {account : String} {intent : XrplSigningIntent}
    {unsigned tx : Json} {txBlob : String} {k : SubmitResult → Program Unit α} {h : List Event}
    (hk : ∀ submit t h, play world (k submit) t h = h)
    (hsubmits : Submits world t [] account intent unsigned k h) (hmem : .Signed tx txBlob ∈ h) :
    Ready world t account intent unsigned tx txBlob := by
  cases hsubmits with
  | Unready hunready => cases hmem
  | Unanswered tx' txBlob' e hready herror =>
      simp only [List.nil_append, List.mem_cons, Event.Signed.injEq, reduceCtorEq,
        List.not_mem_nil, or_false] at hmem
      obtain ⟨rfl, rfl⟩ := hmem
      exact hready
  | Answered tx' txBlob' submit hready hsubmit =>
      rw [hk] at hmem
      simp only [List.nil_append, List.mem_cons, Event.Signed.injEq, reduceCtorEq,
        List.not_mem_nil, or_false] at hmem
      obtain ⟨rfl, rfl⟩ := hmem
      exact hready

/-- The transaction pays what has been asked for, and the account can pay it. -/
def PaysExactly (world : ℕ → Moment) (payment : SendXrpPaymentRequest) (tx : Json) : Prop :=
  ∃ (n : ℕ) (account : String) (info : AccountInfo) (fee : String) (balance feeInDrops : UInt64),
    IsAmount payment.amountXrp n
    ∧ (world 0).answer .GetXrplWallet = .ok account
    ∧ reading accountInfo ((world 2).answer (.Request "account_info" (validatedAccount account)))
      = .ok info
    ∧ reading feeDrops ((world 3).answer (.Request "fee" [])) = .ok fee
    ∧ parseU64 info.balance = some balance ∧ parseU64 fee = some feeInDrops
    ∧ tx.get "TransactionType" = some (.Str "Payment") ∧ tx.get "Account" = some (.Str account)
    ∧ tx.get "Destination" = some (.Str (Text.trim payment.destination))
    ∧ tx.get "Amount" = some (.Str (toString n)) ∧ tx.get "Fee" = some (.Str fee)
    ∧ reserveDrops.toNat + feeInDrops.toNat + n ≤ balance.toNat

lemma paysExactly_of_signed {codec : AddressCodec} {payment : SendXrpPaymentRequest} {tx : Json}
    {txBlob : String} (h : .Signed tx txBlob ∈ play world (sendXrpPayment codec payment) 0 []) :
    PaysExactly world payment tx := by
  rw [sendXrpPayment] at h
  split_ifs at h
  · cases h
  obtain ⟨amountDrops, hamount, h⟩ := of_mem_orFail h
  obtain ⟨destinationTag, -, h⟩ := of_mem_orFail h
  rw [play_quiet rfl] at h
  obtain ⟨account, haccount, h⟩ := of_mem_orFail h
  rw [play_quiet rfl] at h
  obtain ⟨_, -, h⟩ := of_mem_orFail h
  rw [play_quiet rfl] at h
  obtain ⟨info, hinfo, h⟩ := of_mem_orStop h
  obtain ⟨balance, hbalance, h⟩ := of_mem_orFail h
  obtain ⟨fee, hfee, h⟩ := of_mem_request rfl h
  obtain ⟨feeInDrops, hfeeInDrops, h⟩ := of_mem_orFail h
  obtain ⟨_, hcovered, h⟩ := of_mem_orFail h
  obtain ⟨index, hindex, h⟩ := of_mem_request rfl h
  have hinfo := Pre.eq_ok_of_mapErr hinfo
  have hready := ready_of_signed (fun _ _ _ => rfl) (submits_sign hinfo hfee hindex _) h
  obtain ⟨-, hsignable⟩ := (validate_iff _ _ _).mp hready.valid
  have hown := ((signable_iff (transaction_eq _) (ownFields_keys _ _).1).mp hsignable).1.own
  rw [ownFields_sendXrp] at hown
  have hcovered := (validateSpendableBalance_eq_ok _ _ _ _).mp hcovered
  refine ⟨amountDrops.toNat, account, info, fee, balance, feeInDrops,
    (parseXrpAmountToDrops_eq_ok _).mp hamount, haccount, hinfo, hfee, okOr_eq_ok.mp hbalance,
    okOr_eq_ok.mp hfeeInDrops, hown ("TransactionType", _) (by simp), hown ("Account", _) (by simp),
    hown ("Destination", _) (by simp), hown ("Amount", _) (by simp), ?_, hcovered⟩
  rw [hready.fields_eq hinfo hfee hindex]
  cases destinationTag with
  | none => rfl
  | some tag => rfl

end Signing

/-- What makes the amounts of payments exact: how they are read, what is compared with the balance,
and what has been signed in every run of the command. -/
structure AmountsExact (codec : AddressCodec) : Prop where
  read : ∀ (s : String) (n : UInt64), parseXrpAmountToDrops s = .ok n ↔ IsAmount s n.toNat
  spendable : ∀ balance reserve fee amount : UInt64,
    validateSpendableBalance balance reserve fee amount = .ok ()
      ↔ reserve.toNat + fee.toNat + amount.toNat ≤ balance.toNat
  signed : ∀ (world : ℕ → Moment) (payment : SendXrpPaymentRequest) (tx : Json) (txBlob : String),
    .Signed tx txBlob ∈ play world (sendXrpPayment codec payment) 0 [] →
    PaysExactly world payment tx

/-- **The amounts of payments are exact.** An amount is read if and only if it is a number of drops,
a balance is spendable if and only if it covers the sum, and a payment is only signed for the drops
that have been asked for, and when they are covered. A sum that overflows is not covered. -/
theorem amountsExact (codec : AddressCodec) : AmountsExact codec where
  read s _ := parseXrpAmountToDrops_eq_ok s
  spendable := validateSpendableBalance_eq_ok
  signed _ _ _ _ h := paysExactly_of_signed h

example : parseXrpAmountToDrops " 18446744073709.551615 " = .ok 18446744073709551615 := by
  decide +kernel

namespace Sample

/-- The base58 reading of the account whose id is zero, and the digests of its checksum. -/
def accountZero : AddressCodec where
  decodeBase58 address :=
    if address = "rrrrrrrrrrrrrrrrrrrrrhoLvTp" then
      some (List.replicate 21 0 ++ [148, 160, 9, 17])
    else none
  sha256 bytes :=
    if bytes = List.replicate 21 0 then
      [201, 2, 50, 88, 107, 128, 31, 149, 88, 167, 111, 47, 150, 62, 204, 216, 49, 217, 254, 103,
        117, 228, 200, 241, 68, 107, 35, 49, 170, 33, 50, 242]
    else
      [148, 160, 9, 17, 196, 218, 39, 249, 39, 23, 39, 255, 167, 161, 77, 141, 85, 136, 252, 15,
        255, 153, 100, 52, 14, 196, 6, 95, 56, 126, 98, 43]

/-- The ledger, where Alice has 25 XRP. -/
def ledgerAnswer : String → Json
  | "account_info" => .Obj [("result", .Obj [("account_data",
      .Obj [("Account", .Str "rAlice"), ("Balance", .Str "25000000"), ("Sequence", number 7)])])]
  | "fee" => .Obj [("result", .Obj [("drops", .Obj [("open_ledger_fee", .Str "15")])])]
  | "ledger_current" => .Obj [("result", .Obj [("ledger_current_index", number 100)])]
  | _ => .Obj [("result", .Obj [("engine_result", .Str "tesSUCCESS"),
      ("tx_json", .Obj [("hash", .Str "hash")])])]

def funded : Moment where
  answer
    | .GetSession | .GetXrplWallet => .ok "rAlice"
    | .GetOracleClient _ | .Connect => .ok ()
    | .GetTransferByOffer _ => .error .NoSession
    | .CompleteTransfer _ => .error .NoSession
    | .PostDelete _ _ => .error .NoSession
    | .Request command _ => .ok (ledgerAnswer command)
    | .Sign _ => .ok (some "blob")
    | .CreateAuthedClient | .Sleep => ()
  offers _ := none
  nftOf _ := none

def payment : Json :=
  .Obj [("TransactionType", .Str "Payment"), ("Account", .Str "rAlice"),
    ("Destination", .Str "rrrrrrrrrrrrrrrrrrrrrhoLvTp"), ("Amount", .Str "14999985"),
    ("DestinationTag", number 9), ("Fee", .Str "15"), ("Sequence", number 7),
    ("LastLedgerSequence", number 120)]

/-- Alice spends all that she can, to the last drop, and what is signed pays exactly that. -/
theorem signs_payment : play (fun _ => funded)
    (sendXrpPayment accountZero ⟨"rrrrrrrrrrrrrrrrrrrrrhoLvTp", " 14.999985", some "9"⟩) 0 []
      = [.Signed payment "blob", .Submitted "blob" funded] := by
  rfl

-- a drop more, and nothing is signed
example : play (fun _ => funded)
    (sendXrpPayment accountZero ⟨"rrrrrrrrrrrrrrrrrrrrrhoLvTp", "14.999986", none⟩) 0 [] = [] := by
  rfl

end Sample

end Vaulted.Payments
