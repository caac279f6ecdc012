import Vaulted.Crypto.SigningIntent
import Vaulted.Desktop.Commands

/-!
# Claiming an NFT pays nothing

`claimNft` signs the acceptance of an offer that a server has named, and reports the transfer to the
Oracle once the ledger has answered a lookup.

* `Moment` — the outside world at one request: what it answers, the offers on the ledger, and which
  NFT a transfer is about.
* `PaysNothing` — only a free offer of the right NFT is accepted, and only a transaction that has
  succeeded is reported.
* `Prepared`, `Confirmed` — how far the command gets, as the answers have it.
* `outcome_claimNft` — everything a call can do.
* `paysNothing_iff` — the command checks neither, so both must be so already.
* `not_paysNothing` — an offer for a million drops is accepted, and reported as claimed.
-/

namespace Vaulted.Commands

open Interleaving XrplWallet

/-! ## What is observed -/

inductive Amount
  | Drops (n : ℕ)
  | Issued (value currency issuer : String)
  deriving DecidableEq

/-- An offer on the ledger. -/
structure LedgerOffer where
  isSell : Bool
  nftTokenId : String
  amount : Amount
  destination : Option String
  deriving DecidableEq

structure Moment where
  answer : (s : Statement) → Answer s
  offers : String → Option LedgerOffer
  nftOf : String → Option String

inductive Event
  | LookedUp (transferId : String)
  | Signed (tx : Json) (txBlob : String)
  | Submitted (txBlob : String) (m : Moment)
  | Reported (txHash : String) (response : Json)
  | Completed (request : CompleteTransferRequest)

/-- What the ledger says about a blob that has been submitted. -/
def submission (m : Moment) (txBlob : String) : Except Stop SubmitResult :=
  reading submitResult (m.answer (.Request "submit" [("tx_blob", .Str txBlob)]))

/-- What the ledger says about a transaction. -/
def lookup (m : Moment) (txHash : String) : Except Stop Json :=
  answered (m.answer (.Request "tx" (txParams txHash)))

/-- It fails, but the command can try again. -/
def Missed (m : Moment) (txHash : String) : Prop := ∃ e, lookup m txHash = .error (.Error e)

def onOk {ε β : Type} (answer : Except ε β) (f : β → List Event) : List Event :=
  match answer with
  | .ok b => f b
  | .error _ => []

def events (m : Moment) : Statement → List Event
  | .GetTransferByOffer offerIndex =>
      onOk (m.answer (.GetTransferByOffer offerIndex)) fun transfer => [.LookedUp transfer.transferId]
  | .Sign tx =>
      onOk (m.answer (.Sign tx)) fun txBlob? => (txBlob?.map fun txBlob => .Signed tx txBlob).toList
  | .Request "submit" [("tx_blob", .Str txBlob)] => [.Submitted txBlob m]
  | .Request "tx" (("transaction", .Str txHash) :: _) =>
      onOk (lookup m txHash) fun response => [.Reported txHash response]
  | .CompleteTransfer request => [.Completed request]
  | _ => []

/-- How many requests have been answered, and what has been observed. -/
structure Trace where
  time : Nat
  events : List Event

/-- The `n`-th request is answered by the world at the `n`-th moment. -/
def sem (world : Nat → Moment) (s : Statement) (_ : Unit) (trace : Trace) : Answer s × Trace :=
  ((world trace.time).answer s, ⟨trace.time + 1, trace.events ++ events (world trace.time) s⟩)

/-- What is observed when a command goes on at some moment. -/
def play {α : Type} (world : Nat → Moment) (p : Program Unit α) (t : Nat) (h : List Event) :
    List Event :=
  (p.run (sem world) (fun _ => ()) ⟨t, h⟩).2.events

abbrev history (world : Nat → Moment) (offerIndex : String) : List Event :=
  play world (claimNft offerIndex) 0 []

/-- An offer is a free one, for the NFT of a transfer, and open to an account. It is that of the
ledger at the moment of the submission. -/
def OfferFits (m : Moment) (offerIndex account transferId : String) : Prop :=
  ∃ offer, m.offers offerIndex = some offer ∧ offer.isSell = true ∧ offer.amount = .Drops 0
    ∧ m.nftOf transferId = some offer.nftTokenId ∧ ∀ d ∈ offer.destination, d = account

/-- A transaction accepts such an offer. -/
def Free (m : Moment) (tx : Json) (transferId : String) : Prop :=
  ∃ offerIndex account, tx.get "TransactionType" = some (.Str "NFTokenAcceptOffer")
    ∧ tx.get "NFTokenSellOffer" = some (.Str offerIndex) ∧ tx.get "Account" = some (.Str account)
    ∧ OfferFits m offerIndex account transferId

/-- A final success. -/
def Succeeded (response : Json) : Prop :=
  (response.pointer ["result", "validated"]).bind Json.asBool = some true
    ∧ response.textAt ["result", "meta", "TransactionResult"] = some "tesSUCCESS"

/-- What is submitted accepts an offer that is free by then; and the Oracle is told of a completion
only after the ledger has reported a success for that very transaction. -/
structure PaysNothing (h : List Event) : Prop where
  free : ∀ pre post txBlob m, h = pre ++ .Submitted txBlob m :: post →
    ∃ tx transferId, .Signed tx txBlob ∈ pre ∧ .LookedUp transferId ∈ pre ∧ Free m tx transferId
  succeeded : ∀ pre post request, h = pre ++ .Completed request :: post →
    ∃ txBlob m submit response, .Submitted txBlob m ∈ pre ∧ submission m txBlob = .ok submit
      ∧ submit.txHash = request.xrplTxHash ∧ .Reported request.xrplTxHash response ∈ pre
      ∧ Succeeded response

/-! ## How far the command gets -/

/-- A transaction is signed. -/
structure Ready (world : Nat → Moment) (t : Nat) (account : String) (intent : XrplSigningIntent)
    (unsigned tx : Json) (txBlob : String) : Prop where
  fields : ∃ info fee index,
    reading accountInfo ((world t).answer (.Request "account_info" (validatedAccount account)))
      = .ok info
    ∧ reading feeDrops ((world (t + 1)).answer (.Request "fee" [])) = .ok fee
    ∧ reading ledgerCurrentIndex ((world (t + 2)).answer (.Request "ledger_current" []))
      = .ok index
    ∧ tx = (addXrplSigningFields unsigned fee info.sequence (saturatingAdd index 20)).getD .Null
  valid : validateXrplTransactionForIntent intent tx account = .ok ()
  signed : (world (t + 3)).answer (.Sign tx) = .ok (some txBlob)

/-- The acceptance of the offer is signed. -/
structure Prepared (world : Nat → Moment) (offerIndex account transferId : String) (tx : Json)
    (txBlob : String) : Prop where
  wallet : (world 0).answer .GetXrplWallet = .ok account
  oracle : (world 1).answer (.GetOracleClient 120) = .ok ()
  transfer : ∃ status,
    (world 2).answer (.GetTransferByOffer offerIndex) = .ok ⟨transferId, status⟩
  connected : (world 3).answer .Connect = .ok ()
  ready : Ready world 4 account (.AcceptNftTransferOffer offerIndex)
    (buildNftokenAcceptOfferTx account offerIndex) tx txBlob

/-- The `n`-th lookup is the first one with an answer, and those before it have failed without a
panic. -/
structure Confirmed (world : Nat → Moment) (txBlob txHash : String) (n : Nat) (response : Json) :
    Prop where
  accepted : ∃ submit, submission (world 8) txBlob = .ok submit ∧ submit.accepted = true
    ∧ submit.txHash = txHash
  within : n < maxAttempts
  missed : ∀ i < n, Missed (world (9 + 2 * i)) txHash
  found : lookup (world (9 + 2 * n)) txHash = .ok response
  oracle : (world (10 + 2 * n)).answer (.GetOracleClient 120) = .ok ()

/-! ## What a call does -/

section Play

variable {α β : Type} {world : Nat → Moment} {t : Nat} {h : List Event}

lemma play_exec (s : Statement) (k : Answer s → Unit → Program Unit α) :
    play world (.Exec s k) t h
      = play world (k ((world t).answer s) ()) (t + 1) (h ++ events (world t) s) := rfl

/-- A statement that leaves no trace. -/
lemma play_quiet {s : Statement} {k : Answer s → Unit → Program Unit α}
    (hquiet : events (world t) s = []) :
    play world (.Exec s k) t h = play world (k ((world t).answer s) ()) (t + 1) h := by
  rw [play_exec, hquiet, List.append_nil]

lemma play_orFail_ok {answer : Except ClientError β} {b : β} {k : β → Program Unit α}
    (hanswer : answer = .ok b) : play world (orFail answer k) t h = play world (k b) t h := by
  rw [hanswer]
  rfl

lemma play_orFail_error {answer : Except ClientError β} {e : ClientError} {k : β → Program Unit α}
    (hanswer : answer = .error e) : play world (orFail answer k) t h = h := by
  rw [hanswer]
  rfl

lemma play_orStop_ok {answer : Except Stop β} {b : β} {k : β → Program Unit α}
    (hanswer : answer = .ok b) : play world (orStop answer k) t h = play world (k b) t h := by
  rw [hanswer]
  rfl

lemma play_orStop_error {answer : Except Stop β} {e : Stop} {k : β → Program Unit α}
    (hanswer : answer = .error e) : play world (orStop answer k) t h = h := by
  rw [hanswer]
  rfl

lemma play_request_ok {command : String} {params : List (String × Json)}
    {read : Json → Except ClientError β} {k : β → Program Unit α} {b : β}
    (hquiet : events (world t) (.Request command params) = [])
    (hread : reading read ((world t).answer (.Request command params)) = .ok b) :
    play world (request command params read k) t h = play world (k b) (t + 1) h := by
  rw [request, play_quiet hquiet, play_orStop_ok hread]

lemma play_request_error {command : String} {params : List (String × Json)}
    {read : Json → Except ClientError β} {k : β → Program Unit α} {e : Stop}
    (hquiet : events (world t) (.Request command params) = [])
    (hread : reading read ((world t).answer (.Request command params)) = .error e) :
    play world (request command params read k) t h = h := by
  rw [request, play_quiet hquiet, play_orStop_error hread]

/-- What becomes of a transaction that is to be signed and submitted. -/
inductive Submits (world : Nat → Moment) (t : Nat) (h : List Event) (account : String)
    (intent : XrplSigningIntent) (unsigned : Json) (k : SubmitResult → Program Unit α) :
    List Event → Prop
  | Unready : (∀ tx txBlob, ¬Ready world t account intent unsigned tx txBlob) →
      Submits world t h account intent unsigned k h
  | Unanswered (tx : Json) (txBlob : String) (e : Stop) :
      Ready world t account intent unsigned tx txBlob →
      submission (world (t + 4)) txBlob = .error e →
      Submits world t h account intent unsigned k
        (h ++ [.Signed tx txBlob, .Submitted txBlob (world (t + 4))])
  | Answered (tx : Json) (txBlob : String) (submit : SubmitResult) :
      Ready world t account intent unsigned tx txBlob →
      submission (world (t + 4)) txBlob = .ok submit →
      Submits world t h account intent unsigned k
        (play world (k submit) (t + 5)
          (h ++ [.Signed tx txBlob, .Submitted txBlob (world (t + 4))]))

lemma Ready.fields_eq {account : String} {intent : XrplSigningIntent} {unsigned tx : Json}
    {txBlob fee : String} {info : AccountInfo} {index : UInt32}
    (hready : Ready world t account intent unsigned tx txBlob)
    (hinfo : reading accountInfo
      ((world t).answer (.Request "account_info" (validatedAccount account))) = .ok info)
    (hfee : reading feeDrops ((world (t + 1)).answer (.Request "fee" [])) = .ok fee)
    (hindex : reading ledgerCurrentIndex ((world (t + 2)).answer (.Request "ledger_current" []))
      = .ok index) :
    tx = (addXrplSigningFields unsigned fee info.sequence (saturatingAdd index 20)).getD .Null := by
  obtain ⟨info', fee', index', hinfo', hfee', hindex', htx⟩ := hready.fields
  rw [hinfo] at hinfo'
  rw [hfee] at hfee'
  rw [hindex] at hindex'
  rw [htx, Except.ok.inj hinfo', Except.ok.inj hfee', Except.ok.inj hindex']

/-- The part from the signature on. -/
lemma submits_sign {account fee missing : String} {intent : XrplSigningIntent} {unsigned : Json}
    {info : AccountInfo} {index : UInt32}
    (hinfo : reading accountInfo
      ((world t).answer (.Request "account_info" (validatedAccount account))) = .ok info)
    (hfee : reading feeDrops ((world (t + 1)).answer (.Request "fee" [])) = .ok fee)
    (hindex : reading ledgerCurrentIndex ((world (t + 2)).answer (.Request "ledger_current" []))
      = .ok index) (k : SubmitResult → Program Unit α) :
    Submits world t h account intent unsigned k
      (play world (signTx account intent
        ((addXrplSigningFields unsigned fee info.sequence (saturatingAdd index 20)).getD .Null)
        missing k) (t + 3) h) := by
  generalize htx : (addXrplSigningFields unsigned fee info.sequence
    (saturatingAdd index 20)).getD .Null = tx
  have hfields : ∀ tx' txBlob, Ready world t account intent unsigned tx' txBlob → tx' = tx :=
    fun tx' txBlob hready => (hready.fields_eq hinfo hfee hindex).trans htx
  rw [signTx]
  cases hvalid : validateXrplTransactionForIntent intent tx account with
  | error e =>
      rw [Pre.mapErr, play_orFail_error rfl]
      refine .Unready fun tx' txBlob hready => ?_
      have hvalid' := hready.valid
      rw [hfields tx' txBlob hready, hvalid] at hvalid'
      cases hvalid'
  | ok _ =>
      rw [Pre.mapErr, play_orFail_ok rfl, play_exec, events]
      have hready : ∀ txBlob, (world (t + 3)).answer (.Sign tx) = .ok (some txBlob) →
          Ready world t account intent unsigned tx txBlob :=
        fun txBlob hsigned => ⟨⟨info, fee, index, hinfo, hfee, hindex, htx.symm⟩, hvalid, hsigned⟩
      have hunsigned : (∀ txBlob, (world (t + 3)).answer (.Sign tx) ≠ .ok (some txBlob)) →
          ∀ tx' txBlob, ¬Ready world t account intent unsigned tx' txBlob := by
        intro hnone tx' txBlob hready
        exact hnone txBlob (hfields tx' txBlob hready ▸ hready.signed)
      cases hsigned : (world (t + 3)).answer (.Sign tx) with
      | error e =>
          rw [onOk, List.append_nil, Pre.mapErr, play_orFail_error rfl]
          exact .Unready (hunsigned fun txBlob heq => by rw [hsigned] at heq; cases heq)
      | ok txBlob? =>
          rw [onOk, Pre.mapErr, play_orFail_ok rfl]
          cases txBlob? with
          | none =>
              rw [Option.map_none, Option.toList_none, List.append_nil]
              exact .Unready (hunsigned fun txBlob heq => by rw [hsigned] at heq; cases heq)
          | some txBlob =>
              show Submits world t h account intent unsigned k (play world
                (orStop (submission (world (t + 4)) txBlob) k) (t + 5)
                (h ++ [.Signed tx txBlob] ++ [.Submitted txBlob (world (t + 4))]))
              rw [List.append_assoc]
              cases hsubmit : submission (world (t + 4)) txBlob with
              | error e =>
                  rw [play_orStop_error rfl]
                  exact .Unanswered tx txBlob e (hready txBlob hsigned) hsubmit
              | ok submit =>
                  rw [play_orStop_ok rfl]
                  exact .Answered tx txBlob submit (hready txBlob hsigned) hsubmit

variable (world) in
theorem submits_signAndSubmit (account : String) (intent : XrplSigningIntent) (unsigned : Json)
    (missing : String) (k : SubmitResult → Program Unit α) :
    Submits world t h account intent unsigned k
      (play world (signAndSubmit account intent unsigned missing k) t h) := by
  rw [signAndSubmit]
  cases hinfo : reading accountInfo
      ((world t).answer (.Request "account_info" (validatedAccount account))) with
  | error e =>
      rw [play_request_error rfl hinfo]
      refine .Unready fun tx txBlob hready => ?_
      obtain ⟨info, fee, index, hinfo', -⟩ := hready.fields
      rw [hinfo] at hinfo'
      cases hinfo'
  | ok info =>
      rw [play_request_ok rfl hinfo]
      cases hfee : reading feeDrops ((world (t + 1)).answer (.Request "fee" [])) with
      | error e =>
          rw [play_request_error rfl hfee]
          refine .Unready fun tx txBlob hready => ?_
          obtain ⟨info', fee, index, -, hfee', -⟩ := hready.fields
          rw [hfee] at hfee'
          cases hfee'
      | ok fee =>
          rw [play_request_ok rfl hfee]
          cases hindex : reading ledgerCurrentIndex
              ((world (t + 2)).answer (.Request "ledger_current" [])) with
          | error e =>
              rw [play_request_error rfl hindex]
              refine .Unready fun tx txBlob hready => ?_
              obtain ⟨info', fee', index, -, -, hindex', -⟩ := hready.fields
              rw [hindex] at hindex'
              cases hindex'
          | ok index =>
              rw [play_request_ok rfl hindex]
              exact submits_sign hinfo hfee hindex k

/-- What the lookups lead to. -/
inductive Waits (world : Nat → Moment) (t : Nat) (h : List Event) (txHash : String)
    (k : Program Unit α) (attempts : Nat) : List Event → Prop
  | Unfound : (∀ n < attempts, (∀ i < n, Missed (world (t + 2 * i)) txHash) →
        ∀ response, lookup (world (t + 2 * n)) txHash ≠ .ok response) →
      Waits world t h txHash k attempts h
  | Found (n : Nat) (response : Json) : n < attempts →
      (∀ i < n, Missed (world (t + 2 * i)) txHash) →
      lookup (world (t + 2 * n)) txHash = .ok response →
      Waits world t h txHash k attempts
        (play world k (t + 2 * n + 1) (h ++ [.Reported txHash response]))

variable (world) in
theorem waits_waitForXrplTxValidated (txHash : String) (k : Program Unit α) (attempts : Nat) :
    Waits world t h txHash k attempts
      (play world (waitForXrplTxValidated txHash k attempts) t h) := by
  induction attempts generalizing t with
  | zero => exact .Unfound fun n hn => by cases hn
  | succ attempts ih =>
      rw [waitForXrplTxValidated, play_exec]
      have hevents : events (world t) (.Request "tx" (txParams txHash))
          = onOk (lookup (world t) txHash) fun response => [.Reported txHash response] := rfl
      rw [hevents, lookup]
      -- without an answer to the first lookup, the next ones decide
      have hlater : ∀ e, lookup (world t) txHash = .error e →
          (∀ n < attempts, Missed (world t) txHash →
            (∀ i < n, Missed (world (t + 2 + 2 * i)) txHash) →
            ∀ response, lookup (world (t + 2 + 2 * n)) txHash ≠ .ok response) →
          ∀ n < attempts + 1, (∀ i < n, Missed (world (t + 2 * i)) txHash) →
            ∀ response, lookup (world (t + 2 * n)) txHash ≠ .ok response := by
        intro e hfirst hrest n hn hmissed response
        cases n with
        | zero => exact fun hok => by rw [Nat.mul_zero, Nat.add_zero, hfirst] at hok; cases hok
        | succ n =>
            rw [show t + 2 * (n + 1) = t + 2 + 2 * n by omega]
            refine hrest n (Nat.lt_of_succ_lt_succ hn) (hmissed 0 (Nat.succ_pos n))
              (fun i hi => ?_) response
            rw [show t + 2 + 2 * i = t + 2 * (i + 1) by omega]
            exact hmissed (i + 1) (Nat.succ_lt_succ hi)
      cases hlookup : answered ((world t).answer (.Request "tx" (txParams txHash))) with
      | ok response =>
          exact .Found 0 response (Nat.zero_lt_succ _) (fun i hi => by cases hi) hlookup
      | error e =>
          rw [onOk, List.append_nil]
          cases e with
          | Panicked =>
              refine .Unfound (hlater _ hlookup fun n hn hmissed => ?_)
              obtain ⟨e, he⟩ := hmissed
              rw [lookup, hlookup] at he
              cases he
          | Error e =>
              dsimp only
              split_ifs with hlast
              · subst hlast
                exact .Unfound (hlater _ hlookup fun n hn => absurd hn (Nat.not_lt_zero n))
              · rw [play_quiet rfl]
                have hrest := ih (t := t + 2)
                generalize play world (waitForXrplTxValidated txHash k attempts) (t + 1 + 1) h = h'
                  at hrest ⊢
                cases hrest with
                | Unfound hunfound =>
                    exact .Unfound (hlater _ hlookup fun n hn _ => hunfound n hn)
                | Found n response hn hmissed hfound =>
                    have hall : ∀ i < n + 1, Missed (world (t + 2 * i)) txHash := by
                      intro i hi
                      cases i with
                      | zero => exact ⟨e, hlookup⟩
                      | succ i =>
                          rw [show t + 2 * (i + 1) = t + 2 + 2 * i by omega]
                          exact hmissed i (Nat.lt_of_succ_lt_succ hi)
                    rw [show t + 2 + 2 * n = t + 2 * (n + 1) by omega] at hfound ⊢
                    exact .Found (n + 1) response (Nat.succ_lt_succ hn) hall hfound

end Play

section Outcome

variable {world : Nat → Moment} {offerIndex : String}

inductive Outcome (world : Nat → Moment) (offerIndex : String) : List Event → Prop
  | Unprepared (h : List Event) : (∀ e ∈ h, ∃ transferId, e = .LookedUp transferId) →
      (∀ account transferId tx txBlob,
        ¬Prepared world offerIndex account transferId tx txBlob) → Outcome world offerIndex h
  | Unconfirmed (account transferId : String) (tx : Json) (txBlob : String) (h : List Event) :
      Prepared world offerIndex account transferId tx txBlob →
      (∀ e ∈ h, ∃ txHash response, e = .Reported txHash response) →
      (∀ txHash n response, ¬Confirmed world txBlob txHash n response) →
      Outcome world offerIndex
        ([.LookedUp transferId, .Signed tx txBlob, .Submitted txBlob (world 8)] ++ h)
  | Confirmed (account transferId : String) (tx : Json) (txBlob txHash : String) (n : Nat)
      (response : Json) : Prepared world offerIndex account transferId tx txBlob →
      Confirmed world txBlob txHash n response →
      Outcome world offerIndex
        ([.LookedUp transferId, .Signed tx txBlob, .Submitted txBlob (world 8)]
          ++ [.Reported txHash response, .Completed ⟨transferId, txHash⟩])

/-- Only one lookup is the first one with an answer. -/
lemma first_unique {txHash : String} {n n' : Nat} {response response' : Json}
    (hmissed : ∀ i < n, Missed (world (9 + 2 * i)) txHash)
    (hfound : lookup (world (9 + 2 * n)) txHash = .ok response)
    (hmissed' : ∀ i < n', Missed (world (9 + 2 * i)) txHash)
    (hfound' : lookup (world (9 + 2 * n')) txHash = .ok response') : n' = n := by
  rcases Nat.lt_trichotomy n' n with hlt | heq | hlt
  · obtain ⟨e, he⟩ := hmissed n' hlt
    rw [he] at hfound'
    cases hfound'
  · exact heq
  · obtain ⟨e, he⟩ := hmissed' n hlt
    rw [he] at hfound
    cases hfound

/-- The part after the submission. -/
lemma outcome_submitted {account transferId txBlob : String} {tx : Json} {submit : SubmitResult}
    (hprepared : Prepared world offerIndex account transferId tx txBlob)
    (hsubmit : submission (world 8) txBlob = .ok submit) (haccepted : submit.accepted = true)
    {α : Type} (answer : Bool → Except Stop α) :
    Outcome world offerIndex (play world (waitForXrplTxValidated submit.txHash
      (completeTransferInner transferId submit.txHash fun completed => .Done (answer completed))
      maxAttempts) 9 [.LookedUp transferId, .Signed tx txBlob, .Submitted txBlob (world 8)]) := by
  generalize hk : (completeTransferInner transferId submit.txHash fun completed =>
    .Done (answer completed) : Program Unit α) = k
  have hwaits := waits_waitForXrplTxValidated world (t := 9)
    (h := [.LookedUp transferId, .Signed tx txBlob, .Submitted txBlob (world 8)]) submit.txHash k
    maxAttempts
  generalize play world (waitForXrplTxValidated submit.txHash k maxAttempts) 9
    [.LookedUp transferId, .Signed tx txBlob, .Submitted txBlob (world 8)] = h at hwaits ⊢
  have hhash : ∀ txHash n response, Confirmed world txBlob txHash n response →
      submit.txHash = txHash := by
    intro txHash n response hconfirmed
    obtain ⟨submit', hsubmit', -, hhash⟩ := hconfirmed.accepted
    rw [hsubmit] at hsubmit'
    rw [← hhash, Except.ok.inj hsubmit']
  cases hwaits with
  | Unfound hunfound =>
      refine .Unconfirmed account transferId tx txBlob [] hprepared (fun e he => by cases he) ?_
      intro txHash n response hconfirmed
      obtain rfl := hhash txHash n response hconfirmed
      exact hunfound n hconfirmed.within hconfirmed.missed response hconfirmed.found
  | Found n response hn hmissed hfound =>
      rw [← hk, completeTransferInner, play_quiet rfl]
      cases horacle : (world (9 + 2 * n + 1)).answer (.GetOracleClient 120) with
      | error e =>
          rw [play_orFail_error rfl]
          refine .Unconfirmed account transferId tx txBlob [.Reported submit.txHash response]
            hprepared (fun e he => ⟨_, _, List.mem_singleton.mp he⟩) ?_
          intro txHash n' response' hconfirmed
          obtain rfl := hhash txHash n' response' hconfirmed
          obtain rfl := first_unique hmissed hfound hconfirmed.missed hconfirmed.found
          have horacle' := hconfirmed.oracle
          rw [show 10 + 2 * n' = 9 + 2 * n' + 1 by omega, horacle] at horacle'
          cases horacle'
      | ok _ =>
          rw [play_orFail_ok rfl, play_exec]
          have hconfirmed : Confirmed world txBlob submit.txHash n response :=
            { accepted := ⟨submit, hsubmit, haccepted, rfl⟩
              within := hn
              missed := hmissed
              found := hfound
              oracle := by rw [show 10 + 2 * n = 9 + 2 * n + 1 by omega, horacle] }
          have hcompleted := Outcome.Confirmed account transferId tx txBlob submit.txHash n response
            hprepared hconfirmed
          cases (world (9 + 2 * n + 1 + 1)).answer (.CompleteTransfer ⟨transferId, submit.txHash⟩) with
          | error e => exact hcompleted
          | ok completed => exact hcompleted

lemma Prepared.unique {account account' transferId transferId' txBlob txBlob' : String}
    {tx tx' : Json} (h : Prepared world offerIndex account transferId tx txBlob)
    (h' : Prepared world offerIndex account' transferId' tx' txBlob') :
    account' = account ∧ transferId' = transferId ∧ tx' = tx ∧ txBlob' = txBlob := by
  obtain rfl : account' = account := Except.ok.inj (h'.wallet.symm.trans h.wallet)
  obtain ⟨status, htransfer⟩ := h.transfer
  obtain ⟨status', htransfer'⟩ := h'.transfer
  have htransferId := Except.ok.inj (htransfer'.symm.trans htransfer)
  obtain ⟨info, fee, index, hinfo, hfee, hindex, htx⟩ := h.ready.fields
  have htx' := h'.ready.fields_eq hinfo hfee hindex
  have hsigned := h'.ready.signed
  rw [htx', ← htx, h.ready.signed] at hsigned
  exact ⟨rfl, congrArg TransferLookupResponse.transferId htransferId, htx'.trans htx.symm,
    (Option.some.inj (Except.ok.inj hsigned)).symm⟩

/-- The part from the signature on. -/
lemma outcome_connected {account : String} {transfer : TransferLookupResponse}
    (hwallet : (world 0).answer .GetXrplWallet = .ok account)
    (horacle : (world 1).answer (.GetOracleClient 120) = .ok ())
    (htransfer : (world 2).answer (.GetTransferByOffer offerIndex) = .ok transfer)
    (hconnected : (world 3).answer .Connect = .ok ()) :
    Outcome world offerIndex (play world (claimConnected account transfer.transferId offerIndex) 4
      [.LookedUp transfer.transferId]) := by
  rw [claimConnected]
  generalize hk : (fun submit : SubmitResult => _ : SubmitResult → Program Unit ClaimResult) = k
  have hsubmits := submits_signAndSubmit world (t := 4)
    (h := [.LookedUp transfer.transferId]) account (.AcceptNftTransferOffer offerIndex)
    (buildNftokenAcceptOfferTx account offerIndex)
    "Local signing did not produce a signed XRPL transaction payload" k
  have hprepared : ∀ tx txBlob, Ready world 4 account (.AcceptNftTransferOffer offerIndex)
      (buildNftokenAcceptOfferTx account offerIndex) tx txBlob →
      Prepared world offerIndex account transfer.transferId tx txBlob :=
    fun tx txBlob hready => ⟨hwallet, horacle, ⟨transfer.status, htransfer⟩, hconnected, hready⟩
  generalize play world (signAndSubmit account (.AcceptNftTransferOffer offerIndex) _ _ k) 4
    [.LookedUp transfer.transferId] = h at hsubmits ⊢
  cases hsubmits with
  | Unready hnone =>
      refine .Unprepared _ (fun e he => ⟨_, List.mem_singleton.mp he⟩)
        fun account' transferId tx txBlob h => ?_
      obtain rfl : account' = account := Except.ok.inj (h.wallet.symm.trans hwallet)
      exact hnone tx txBlob h.ready
  | Unanswered tx txBlob e hready hsubmit =>
      refine .Unconfirmed account transfer.transferId tx txBlob [] (hprepared tx txBlob hready)
        (fun e he => by cases he) fun txHash n response h => ?_
      obtain ⟨submit, hsubmit', -⟩ := h.accepted
      rw [hsubmit] at hsubmit'
      cases hsubmit'
  | Answered tx txBlob submit hready hsubmit =>
      rw [← hk]
      dsimp only
      split_ifs with haccepted
      · refine .Unconfirmed account transfer.transferId tx txBlob [] (hprepared tx txBlob hready)
          (fun e he => by cases he) fun txHash n response h => ?_
        obtain ⟨submit', hsubmit', haccepted', -⟩ := h.accepted
        rw [hsubmit] at hsubmit'
        rw [← Except.ok.inj hsubmit', haccepted] at haccepted'
        cases haccepted'
      · exact outcome_submitted (hprepared tx txBlob hready) hsubmit
          (Bool.not_eq_false _ ▸ haccepted) _

lemma Confirmed.unique {txBlob txHash txHash' : String} {n n' : Nat} {response response' : Json}
    (h : Confirmed world txBlob txHash n response)
    (h' : Confirmed world txBlob txHash' n' response') :
    txHash' = txHash ∧ response' = response := by
  obtain ⟨submit, hsubmit, -, rfl⟩ := h.accepted
  obtain ⟨submit', hsubmit', -, rfl⟩ := h'.accepted
  obtain rfl : submit' = submit := Except.ok.inj (hsubmit'.symm.trans hsubmit)
  obtain rfl := first_unique h.missed h.found h'.missed h'.found
  exact ⟨rfl, Except.ok.inj (h'.found.symm.trans h.found)⟩

/-- **What a call does.** -/
theorem outcome_claimNft (world : Nat → Moment) (offerIndex : String) :
    Outcome world offerIndex (history world offerIndex) := by
  rw [history, claimNft, play_quiet rfl]
  cases hwallet : (world 0).answer .GetXrplWallet with
  | error e =>
      rw [play_orFail_error rfl]
      refine .Unprepared [] (fun e he => by cases he) fun account transferId tx txBlob h => ?_
      rw [h.wallet] at hwallet
      cases hwallet
  | ok account =>
      rw [play_orFail_ok rfl, play_quiet rfl]
      cases horacle : (world 1).answer (.GetOracleClient 120) with
      | error e =>
          rw [play_orFail_error rfl]
          refine .Unprepared [] (fun e he => by cases he) fun account' transferId tx txBlob h => ?_
          rw [h.oracle] at horacle
          cases horacle
      | ok _ =>
          rw [play_orFail_ok rfl, play_exec, events]
          cases htransfer : (world 2).answer (.GetTransferByOffer offerIndex) with
          | error e =>
              rw [play_orFail_error rfl]
              refine .Unprepared [] (fun e he => by cases he) fun account' transferId tx txBlob h => ?_
              obtain ⟨status, htransfer'⟩ := h.transfer
              rw [htransfer'] at htransfer
              cases htransfer
          | ok transfer =>
              rw [play_orFail_ok rfl, onOk, List.nil_append, play_quiet rfl]
              cases hconnected : (world 3).answer .Connect with
              | error e =>
                  rw [play_orFail_error rfl]
                  refine .Unprepared _ (fun e he => ⟨_, List.mem_singleton.mp he⟩)
                    fun account' transferId tx txBlob h => ?_
                  rw [h.connected] at hconnected
                  cases hconnected
              | ok _ =>
                  rw [play_orFail_ok rfl]
                  exact outcome_connected hwallet horacle htransfer hconnected

/-- The offer that is accepted is the one that the command was called for. -/
lemma Prepared.free_iff {account transferId txBlob : String} {tx : Json}
    (h : Prepared world offerIndex account transferId tx txBlob) (m : Moment) :
    Free m tx transferId ↔ OfferFits m offerIndex account transferId := by
  obtain ⟨-, hsignable⟩ := (validate_iff _ _ _).mp h.ready.valid
  have hown := ((signable_iff (transaction_eq _) (ownFields_keys _ _).1).mp hsignable).1.own
  simp only [ownFields, transaction, buildNftokenAcceptOfferTx, List.forall_mem_cons] at hown
  obtain ⟨htype, haccount, hoffer, -⟩ := hown
  constructor
  · rintro ⟨offerIndex', account', -, hoffer', haccount', hfits⟩
    rw [hoffer] at hoffer'
    rw [haccount] at haccount'
    cases hoffer'
    cases haccount'
    exact hfits
  · exact fun hfits => ⟨offerIndex, account, htype, hoffer, haccount, hfits⟩

/-- The place of an event that is the only one of its kind. -/
lemma append_cons_inj {P : Event → Prop} {a b pre post : List Event} {x y : Event}
    (heq : a ++ x :: b = pre ++ y :: post) (hy : P y) (ha : ∀ e ∈ a, ¬P e) (hb : ∀ e ∈ b, ¬P e) :
    pre = a ∧ y = x := by
  induction a generalizing pre with
  | nil =>
      cases pre with
      | nil => exact ⟨rfl, (List.cons.inj heq).1.symm⟩
      | cons z pre =>
          have hmem : y ∈ b := by
            rw [(List.cons.inj heq).2]
            exact List.mem_append_right _ List.mem_cons_self
          exact absurd hy (hb y hmem)
  | cons z a ih =>
      cases pre with
      | nil =>
          have hz : z = y := (List.cons.inj heq).1
          exact absurd (hz ▸ hy) (ha z List.mem_cons_self)
      | cons z' pre =>
          obtain ⟨hz, htail⟩ := List.cons.inj heq
          obtain ⟨rfl, hyx⟩ := ih htail fun e he => ha e (List.mem_cons_of_mem _ he)
          exact ⟨by rw [hz], hyx⟩

def Event.IsSubmission (e : Event) : Prop := ∃ txBlob m, e = .Submitted txBlob m

def Event.IsCompletion (e : Event) : Prop := ∃ request, e = .Completed request

/-- A submission is of a free offer if the offer fits. -/
lemma Prepared.submitted_iff {account transferId txBlob : String} {tx : Json} (rest : List Event)
    (hprepared : Prepared world offerIndex account transferId tx txBlob)
    (hrest : ∀ e ∈ rest, ¬e.IsSubmission) :
    (∀ pre post txBlob' m, [.LookedUp transferId, .Signed tx txBlob, .Submitted txBlob (world 8)]
        ++ rest = pre ++ .Submitted txBlob' m :: post →
      ∃ tx' transferId', .Signed tx' txBlob' ∈ pre ∧ .LookedUp transferId' ∈ pre
        ∧ Free m tx' transferId')
      ↔ OfferFits (world 8) offerIndex account transferId := by
  constructor
  · intro hfree
    obtain ⟨tx', transferId', hsigned, hlooked, hfits⟩ :=
      hfree [.LookedUp transferId, .Signed tx txBlob] rest txBlob (world 8) rfl
    obtain rfl : tx' = tx := by simpa using hsigned
    obtain rfl : transferId' = transferId := by simpa using hlooked
    exact (hprepared.free_iff _).mp hfits
  · intro hfits pre post txBlob' m heq
    obtain ⟨rfl, hsame⟩ := append_cons_inj (P := Event.IsSubmission)
      (a := [.LookedUp transferId, .Signed tx txBlob]) (b := rest) heq ⟨_, _, rfl⟩
      (by simp [Event.IsSubmission]) hrest
    cases hsame
    exact ⟨tx, transferId, by simp, by simp, (hprepared.free_iff _).mpr hfits⟩

/-- **The command pays nothing, and completes only on success, if and only if** the offer fits when
it gets to submit its acceptance, and the first answer to a lookup already reports a success. It
never asks the ledger about the offer, and takes any answer about the transaction for a success. -/
theorem paysNothing_iff (world : Nat → Moment) (offerIndex : String) :
    PaysNothing (history world offerIndex)
      ↔ ∀ account transferId tx txBlob, Prepared world offerIndex account transferId tx txBlob →
        OfferFits (world 8) offerIndex account transferId
        ∧ ∀ txHash n response, Confirmed world txBlob txHash n response → Succeeded response := by
  have houtcome := outcome_claimNft world offerIndex
  generalize history world offerIndex = h at houtcome ⊢
  cases houtcome with
  | Unprepared h hquiet hnone =>
      refine ⟨fun _ account transferId tx txBlob hprepared => ?_, fun _ => ⟨?_, ?_⟩⟩
      · exact absurd hprepared (hnone account transferId tx txBlob)
      · rintro pre post txBlob m rfl
        obtain ⟨transferId, heq⟩ := hquiet (.Submitted txBlob m) (by simp)
        cases heq
      · rintro pre post request rfl
        obtain ⟨transferId, heq⟩ := hquiet (.Completed request) (by simp)
        cases heq
  | Unconfirmed account transferId tx txBlob h hprepared hquiet hnone =>
      have hsubmitted := hprepared.submitted_iff h fun e he hsubmission => by
        obtain ⟨txHash, response, rfl⟩ := hquiet e he
        obtain ⟨_, _, heq⟩ := hsubmission
        cases heq
      constructor
      · intro hpays account' transferId' tx' txBlob' hprepared'
        obtain ⟨rfl, rfl, rfl, rfl⟩ := hprepared.unique hprepared'
        exact ⟨hsubmitted.mp hpays.free, fun txHash n response h =>
          absurd h (hnone txHash n response)⟩
      · intro hall
        refine ⟨hsubmitted.mpr (hall _ _ _ _ hprepared).1, fun pre post request heq => ?_⟩
        have hmem : Event.Completed request ∈ [.LookedUp transferId, .Signed tx txBlob,
            .Submitted txBlob (world 8)] ++ h := by
          rw [heq]
          simp
        rcases List.mem_append.mp hmem with hmem | hmem
        · simp at hmem
        · obtain ⟨txHash, response, heq⟩ := hquiet _ hmem
          cases heq
  | Confirmed account transferId tx txBlob txHash n response hprepared hconfirmed =>
      have hsubmitted := hprepared.submitted_iff
        [.Reported txHash response, .Completed ⟨transferId, txHash⟩]
        (by simp [Event.IsSubmission])
      constructor
      · intro hpays account' transferId' tx' txBlob' hprepared'
        obtain ⟨rfl, rfl, rfl, rfl⟩ := hprepared.unique hprepared'
        refine ⟨hsubmitted.mp hpays.free, fun txHash' n' response' hconfirmed' => ?_⟩
        obtain ⟨rfl, rfl⟩ := hconfirmed.unique hconfirmed'
        obtain ⟨_, _, _, reported, -, -, -, hreported, hsucceeded⟩ :=
          hpays.succeeded [.LookedUp transferId', .Signed tx' txBlob', .Submitted txBlob' (world 8),
            .Reported txHash' response'] [] ⟨transferId', txHash'⟩ rfl
        obtain rfl : reported = response' := by simpa using hreported
        exact hsucceeded
      · intro hall
        obtain ⟨hfits, hsucceeded⟩ := hall _ _ _ _ hprepared
        refine ⟨hsubmitted.mpr hfits, fun pre post request heq => ?_⟩
        obtain ⟨rfl, hsame⟩ := append_cons_inj (P := Event.IsCompletion)
          (a := [.LookedUp transferId, .Signed tx txBlob, .Submitted txBlob (world 8),
            .Reported txHash response]) (b := []) heq ⟨_, rfl⟩ (by simp [Event.IsCompletion])
          (fun e he => by cases he)
        cases hsame
        obtain ⟨submit, hsubmit, -, hhash⟩ := hconfirmed.accepted
        exact ⟨txBlob, world 8, submit, response, by simp, hsubmit, hhash, by simp,
          hsucceeded _ _ _ hconfirmed⟩

end Outcome

namespace Sample

/-- What the ledger answers. -/
def ledgerAnswer : String → Json
  | "account_info" => .Obj [("result", .Obj [("account_data", .Obj [("Sequence", number 1)])])]
  | "ledger_current" => .Obj [("result", .Obj [("ledger_current_index", number 100)])]
  | "submit" => .Obj [("result", .Obj [("engine_result", .Str "tesSUCCESS"),
      ("tx_json", .Obj [("hash", .Str "hash")])])]
  | _ => .Obj [("result", .Obj [])]

/-- A world in which everything is answered, and the offer is of some amount. -/
def offering (amount : Amount) : Moment where
  answer
    | .GetSession | .GetXrplWallet => .ok "rBob"
    | .GetOracleClient _ | .Connect => .ok ()
    | .GetTransferByOffer _ => .ok ⟨"transfer", "completed"⟩
    | .CompleteTransfer _ => .ok ⟨true, "rBob"⟩
    | .PostDelete _ _ => .error .NoSession
    | .Request command _ => .ok (ledgerAnswer command)
    | .Sign _ => .ok (some "blob")
    | .CreateAuthedClient | .Sleep => ()
  offers _ := some ⟨true, "nft", amount, none⟩
  nftOf _ := some "nft"

/-- The acceptance that is signed. -/
def acceptance : Json :=
  .Obj [("TransactionType", .Str "NFTokenAcceptOffer"), ("Account", .Str "rBob"),
    ("NFTokenSellOffer", .Str "offer"), ("Fee", .Str "12"), ("Sequence", number 1),
    ("LastLedgerSequence", number 120)]

lemma history_offering (amount : Amount) : history (fun _ => offering amount) "offer"
    = [.LookedUp "transfer", .Signed acceptance "blob", .Submitted "blob" (offering amount),
      .Reported "hash" (ledgerAnswer "tx"), .Completed ⟨"transfer", "hash"⟩] := by
  rfl

/-- **An offer for a million drops is accepted**, and reported as claimed while the transaction is
not validated. -/
theorem not_paysNothing :
    ¬PaysNothing (history (fun _ => offering (.Drops 1000000)) "offer") := by
  rw [history_offering]
  intro hpays
  obtain ⟨tx, transferId, hsigned, -, offerIndex, account, -, -, -, offer, hoffer, -, hamount, -⟩ :=
    hpays.free [.LookedUp "transfer", .Signed acceptance "blob"]
      [.Reported "hash" (ledgerAnswer "tx"), .Completed ⟨"transfer", "hash"⟩] "blob" _ rfl
  obtain rfl := Option.some.inj hoffer
  cases hamount

end Sample

end Vaulted.Commands
