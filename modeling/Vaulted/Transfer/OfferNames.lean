import Vaulted.Transfer.IncomingOffers

/-!
# Which transfer an offer index names

A confirmation stores the offer index that its caller sends.  Two endpoints find a transfer by that
index alone.

* `NamesOne` — no two live transfers have one offer index, and both lookups find the transfer that
  has been confirmed with it.
* `Regular` — a row has an offer index exactly when its status says so, in any case.
* `Distinct` — no two rows have one offer index; then, and only then, an offer index names one
  transfer (`namesOne_iff`).
* `guard` — a confirmation brings an offer index that no row has.
* `alwaysNamesOne_iff` — the runs in which an offer index names one transfer.
* `captured` — a transfer confirmed with an index that others have is found instead of them.
* `not_alwaysNamesOne` — two transfers for which the client uses one offer of the ledger.
-/

namespace Vaulted.OfferNames

open Autocommit.Prog Transfers

/-! ## The property -/

/-- A transfer that is neither claimed nor cancelled. -/
def Live (t : TransferRequest) : Prop := t.xrplTxHash = none ∧ t.status.val ≠ .Cancelled

/-- The rows with an offer index. -/
def offering (offerIndex : String) (db : Db) : List TransferRequest :=
  db.transferRequests.rows.filter fun t => decide (t.nftOfferIndex = some offerIndex)

/-- The transfer that `finalizeTransferByOffer` acts on. -/
def finalizedByOffer (env : Env) (offerIndex : String) (db : Db) : Option TransferRequest :=
  env.choose (offering offerIndex db)

/-- The answer of `getTransferByOffer` for a transfer. -/
def foundAnswer (t : TransferRequest) : Json :=
  .Obj [("transfer_id", .Str t.id.text), ("status", .Str t.status.val.text)]

/-- An offer index names one live transfer, and the lookups find the transfer with it. -/
structure NamesOne (db : Db) : Prop where
  unique : ∀ t ∈ db.transferRequests.rows, ∀ t' ∈ db.transferRequests.rows, Live t → Live t' →
    ∀ offerIndex, t.nftOfferIndex = some offerIndex → t'.nftOfferIndex = some offerIndex → t = t'
  found : ∀ t ∈ db.transferRequests.rows, ∀ offerIndex, t.nftOfferIndex = some offerIndex →
    ∀ env, getTransferByOffer env offerIndex db = (.ok (foundAnswer t), db)
  finalized : ∀ t ∈ db.transferRequests.rows, ∀ offerIndex, t.nftOfferIndex = some offerIndex →
    ∀ env, finalizedByOffer env offerIndex db = some t

section Runs

variable (u : Umbral) (codec : TextCodec)

/-- After every call, an offer index names one transfer. -/
def AlwaysNamesOne (db : Db) (calls : List Step) : Prop :=
  ∀ pre post, calls = pre ++ post → NamesOne (exec u codec db pre)

end Runs

/-- A confirmation that gets as far as its update brings an offer index that no row has. -/
def guard (db : Db) : Step → Prop
  | .Confirm auth request => ∀ t offerIndex, Confirmable auth request.transferId db t →
      varchar 64 request.offerIndex = .ok offerIndex →
      ∀ t' ∈ db.transferRequests.rows, t'.nftOfferIndex ≠ some offerIndex
  | _ => True

/-! ## Lookups -/

/-- No two rows have one offer index. -/
def Distinct (db : Db) : Prop :=
  ∀ t ∈ db.transferRequests.rows, ∀ t' ∈ db.transferRequests.rows, ∀ offerIndex,
    t.nftOfferIndex = some offerIndex → t'.nftOfferIndex = some offerIndex → t = t'

section Lookups

variable {db : Db} {offerIndex : String} {t t' : TransferRequest}

lemma mem_offering :
    t ∈ offering offerIndex db ↔ t ∈ db.transferRequests.rows ∧ t.nftOfferIndex = some offerIndex := by
  simp [offering]

lemma nodup_offering : (offering offerIndex db).Nodup :=
  (List.Nodup.of_map _ db.transferRequests.nodup).filter _

lemma eq_singleton {rows : List TransferRequest} (hnodup : rows.Nodup) (hmem : t ∈ rows)
    (halone : ∀ t' ∈ rows, t' = t) : rows = [t] :=
  List.perm_singleton.mp ((List.perm_ext_iff_of_nodup hnodup (List.nodup_singleton t)).mpr
    fun t' => ⟨fun h => List.mem_singleton.mpr (halone t' h),
      fun h => List.mem_singleton.mp h ▸ hmem⟩)

lemma choose_singleton (env : Env) (t : TransferRequest) : env.choose [t] = some t := by
  simp [Env.choose, Nat.mod_one]

/-- The newest of some rows. -/
lemma latest_eq_some {rows : List TransferRequest} (env : Env) (hnodup : rows.Nodup)
    (hmem : t ∈ rows) (hnewest : ∀ t' ∈ rows, t' = t ∨ t'.createdAt < t.createdAt) :
    latest env rows = some t := by
  have hall : ∀ t' : TransferRequest, rows.all (fun o => decide (o.createdAt ≤ t'.createdAt)) = true
      ↔ ∀ o ∈ rows, o.createdAt ≤ t'.createdAt := by
    simp
  rw [latest, eq_singleton (t := t) (hnodup.filter _), choose_singleton]
  · refine List.mem_filter.mpr ⟨hmem, (hall t).mpr fun o ho => ?_⟩
    rcases hnewest o ho with rfl | hlt
    · exact le_rfl
    · exact hlt.le
  · intro t' ht'
    obtain ⟨ht', hlast⟩ := List.mem_filter.mp ht'
    exact (hnewest t' ht').resolve_right (not_lt.mpr ((hall t').mp hlast t hmem))

/-- A query without an order may return any of its rows. -/
lemma exists_choose {rows : List TransferRequest} (h : t ∈ rows) :
    ∃ env : Env, env.choose rows = some t := by
  obtain ⟨n, hn, rfl⟩ := List.getElem_of_mem h
  refine ⟨{ (default : Env) with pick := n }, ?_⟩
  simp [Env.choose, Nat.mod_eq_of_lt hn]

lemma getTransferByOffer_of_latest {env : Env}
    (h : latest env (offering offerIndex db) = some t) :
    getTransferByOffer env offerIndex db = (.ok (foundAnswer t), db) := by
  unfold offering at h
  rw [getTransferByOffer, run_read, run_expect h]
  rfl

/-- **An offer index names one transfer** if and only if no two rows have it. -/
theorem namesOne_iff : NamesOne db ↔ Distinct db := by
  constructor
  · intro hnames t ht t' ht' offerIndex hoffer hoffer'
    obtain ⟨env, henv⟩ := exists_choose (mem_offering.mpr ⟨ht', hoffer'⟩)
    exact Option.some.inj ((hnames.finalized t ht offerIndex hoffer env).symm.trans henv)
  · intro hdistinct
    have honly : ∀ t ∈ db.transferRequests.rows, ∀ offerIndex,
        t.nftOfferIndex = some offerIndex → offering offerIndex db = [t] :=
      fun t ht offerIndex hoffer => eq_singleton nodup_offering (mem_offering.mpr ⟨ht, hoffer⟩)
        fun t' ht' => hdistinct t' (mem_offering.mp ht').1 t ht offerIndex (mem_offering.mp ht').2
          hoffer
    refine ⟨fun t ht t' ht' _ _ => hdistinct t ht t' ht', fun t ht offerIndex hoffer env => ?_,
      fun t ht offerIndex hoffer env => ?_⟩
    · refine getTransferByOffer_of_latest ?_
      rw [honly t ht offerIndex hoffer]
      exact latest_eq_some env (List.nodup_singleton t) List.mem_cons_self fun t' ht' =>
        .inl (List.mem_singleton.mp ht')
    · rw [finalizedByOffer, honly t ht offerIndex hoffer, choose_singleton]

end Lookups

lemma mem_withTransfer {db : Db} {id : Uuid} {f : TransferRequest → TransferRequest} {hid}
    {t : TransferRequest} : t ∈ (db.withTransfer id f hid).transferRequests.rows
      ↔ ∃ o ∈ db.transferRequests.rows, t = if o.id = id then f o else o := by
  show t ∈ (db.transferRequests.update id f hid).rows ↔ _
  exact Table.mem_update

/-- **The other call acts on the transfer that it finds**, and on no other. -/
theorem finalizeTransferByOffer_acts {env : Env} {request : FinalizeByOfferRequest} {db : Db}
    {t : TransferRequest} (ht : finalizedByOffer env request.offerIndex db = some t) :
    wp (finalizeTransferByOffer env request) (fun _ db' => ∀ t' ∈ db'.transferRequests.rows,
      t'.id ≠ t.id → t' ∈ db.transferRequests.rows) db := by
  refine wp_read_bind ?_
  rw [show env.choose (db.transferRequests.rows.filter fun t =>
    decide (t.nftOfferIndex = some request.offerIndex)) = some t from ht]
  dsimp only
  split_ifs
  · exact wp_pure fun t' ht' _ => ht'
  · refine wp_lift_bind (fun _ _ t' ht' _ => ht') fun hash _ => ?_
    refine wp_write_bind (by rintro _ ⟨⟩) fun db' hdb' => wp_pure fun t' ht' hother => ?_
    cases hdb'
    obtain ⟨o, ho, rfl⟩ := mem_withTransfer.mp ht'
    split_ifs at hother ⊢ with hid
    · exact absurd hid hother
    · exact ho

/-! ## What a call does to the rows -/

/-- A row has an offer index exactly when its status says so. -/
def Regular (db : Db) : Prop :=
  ∀ t ∈ db.transferRequests.rows, t.status.val = .Completed ↔ t.nftOfferIndex.isSome = true

/-- Every row with an offer index was there before, with that index. -/
def Continues (db db' : Db) : Prop :=
  ∀ t' ∈ db'.transferRequests.rows, (t'.nftOfferIndex = none ∧ t'.status.val ≠ .Completed)
    ∨ ∃ t ∈ db.transferRequests.rows, t.id = t'.id ∧ t.nftOfferIndex = t'.nftOfferIndex
      ∧ t.status.val = t'.status.val

/-- A transfer that has been confirmed with an offer index. -/
def withOffer (offerIndex : String) (t : TransferRequest) : TransferRequest :=
  { t with nftOfferIndex := some offerIndex, status := TransferStatus.completed }

/-- The database after a confirmation that has been recorded. -/
def recorded (db : Db) (t : TransferRequest) (id : Uuid) (offerIndex : String) : Db :=
  (offerSigned db t).withTransfer id (withOffer offerIndex)

section Rows

variable {u : Umbral} {codec : TextCodec} {db db' : Db} {t : TransferRequest}
  {auth : AuthenticatedUser} {request : ConfirmOfferSignedRequest} {offerIndex : String}

lemma continues_of_eq (h : db'.transferRequests = db.transferRequests) : Continues db db' := by
  intro t ht
  rw [h] at ht
  exact .inr ⟨t, ht, rfl, rfl, rfl⟩

lemma Regular.continues (hregular : Regular db) (h : Continues db db') : Regular db' := by
  intro t' ht'
  rcases h t' ht' with ⟨hnone, hstatus⟩ | ⟨t, ht, -, hoffer, hstatus⟩
  · simp [hnone, hstatus]
  · rw [← hoffer, ← hstatus]
    exact hregular t ht

lemma Distinct.continues (hdistinct : Distinct db) (h : Continues db db') : Distinct db' := by
  intro t ht t' ht' offerIndex hoffer hoffer'
  rcases h t ht with ⟨hnone, -⟩ | ⟨o, ho, hid, hsame, -⟩
  · cases hnone.symm.trans hoffer
  rcases h t' ht' with ⟨hnone, -⟩ | ⟨o', ho', hid', hsame', -⟩
  · cases hnone.symm.trans hoffer'
  have heq := hdistinct o ho o' ho' offerIndex (hsame.trans hoffer) (hsame'.trans hoffer')
  exact Table.eq_of_mem _ ht ht' (by rw [← hid, ← hid', heq])

/-- Apart from confirmations, no call brings an offer index. -/
lemma continues_step (hregular : Regular db) {call : Step}
    (hcall : ∀ auth request, call ≠ .Confirm auth request) :
    Continues db (step u codec db call) := by
  have htells := tells_step u codec db call
  generalize step u codec db call = db' at htells ⊢
  generalize told u codec db call = h at htells
  cases htells with
  | Refused => exact continues_of_eq rfl
  | AlreadyCompleted => exact continues_of_eq rfl
  | HandedOver => exact continues_of_eq rfl
  | Signed auth request => exact absurd rfl (hcall auth request)
  | SignedRecorded auth request => exact absurd rfl (hcall auth request)
  | Finalized env request t _ _ hmem hoffer hstatus =>
      exact absurd ((hregular t hmem).mpr (by rw [hoffer]; rfl)) hstatus
  | Created env auth request t db' hsound hoffer hins =>
      intro t' ht'
      unfold insertTransfer at hins
      cases hins' : db.transferRequests.insert? t with
      | none =>
          rw [hins'] at hins
          cases hins
      | some transferRequests =>
          rw [hins'] at hins
          cases hins
          rw [(Table.insert?_eq_some hins').2, List.mem_append, List.mem_singleton] at ht'
          rcases ht' with ht' | rfl
          · exact .inr ⟨t', ht', rfl, rfl, rfl⟩
          · exact .inl ⟨hoffer, fun hstatus => by simpa [hoffer] using hsound.offer.mp hstatus⟩
  | HandedOverRecorded auth request t key xrplTxHash _ hclaim =>
      intro t' ht'
      obtain ⟨o, ho, rfl⟩ := mem_withTransfer.mp ht'
      split_ifs with hid
      · have hsame : o = t :=
          Option.some.inj ((Table.get?_of_mem ho).symm.trans (hid ▸ hclaim.found))
        exact .inr ⟨o, ho, rfl, rfl, hsame ▸ hclaim.completed⟩
      · exact .inr ⟨o, ho, rfl, rfl, rfl⟩

/-- A confirmation is recorded if its caller is the sender of a pending transfer, and the offer
index fits its column. -/
lemma confirm_of_confirmable (ht : Confirmable auth request.transferId db t)
    (hindex : varchar 64 request.offerIndex = .ok offerIndex) :
    step u codec db (.Confirm auth request) = recorded db t request.transferId offerIndex := by
  obtain ⟨w, hw, hauth⟩ := ht.sender
  have hfound : transferWithSender request.transferId db = some (t, w) := by
    rw [transferWithSender, ht.found, Option.bind_some, hw, Option.map_some]
  have hrun : confirmOfferSigned auth request db
      = (.ok (.Obj [("success", .Boolean true), ("status", .Str "transferring")]),
        recorded db t request.transferId offerIndex) := by
    rw [confirmOfferSigned, run_read, run_expect hfound]
    dsimp only
    rw [run_require hauth, run_require (decide_eq_true ht.pending)]
    refine (run_write (by rfl)).trans ?_
    rw [run_lift hindex]
    exact run_write (by rfl)
  exact congrArg Prod.snd hrun

/-- Otherwise it changes no row. -/
lemma confirm_of_not (hnot : ∀ t offerIndex, Confirmable auth request.transferId db t →
    varchar 64 request.offerIndex ≠ .ok offerIndex) :
    Continues db (step u codec db (.Confirm auth request)) := by
  have hspec := confirmOfferSigned_spec auth request db
  simp only [wp, step] at hspec ⊢
  generalize (confirmOfferSigned auth request db).1 = r at hspec
  generalize (confirmOfferSigned auth request db).2 = db' at hspec ⊢
  cases hspec with
  | Refused => exact continues_of_eq rfl
  | Unrecorded => exact continues_of_eq rfl
  | Confirmed t offerIndex answer ht hindex => exact absurd hindex (hnot t offerIndex ht)

/-- Unless it is a confirmation that is recorded, a call brings no offer index. -/
lemma continues_of_unrecorded (hregular : Regular db) {call : Step}
    (hnot : ∀ auth request t offerIndex, call = .Confirm auth request →
      Confirmable auth request.transferId db t → varchar 64 request.offerIndex ≠ .ok offerIndex) :
    Continues db (step u codec db call) := by
  cases call with
  | Confirm auth request =>
      exact confirm_of_not fun t offerIndex => hnot auth request t offerIndex rfl
  | _ => exact continues_step hregular (by rintro _ _ ⟨⟩)

/-- The row of a confirmed transfer, with its offer index. -/
lemma mem_recorded (ht : Confirmable auth request.transferId db t) {t' : TransferRequest} :
    t' ∈ (recorded db t request.transferId offerIndex).transferRequests.rows
      ↔ t' = withOffer offerIndex t ∨ t'.id ≠ t.id ∧ t' ∈ db.transferRequests.rows := by
  have hmem := Table.mem_of_get? ht.found
  have hid : t.id = request.transferId := Table.key_of_get? ht.found
  refine mem_withTransfer.trans ⟨?_, ?_⟩
  · rintro ⟨o, ho, rfl⟩
    split_ifs with hkey
    · obtain rfl : o = t := Table.eq_of_mem _ ho hmem (hkey.trans hid.symm)
      exact .inl rfl
    · exact .inr ⟨fun h => hkey (h.trans hid), ho⟩
  · rintro (rfl | ⟨hkey, ho⟩)
    · exact ⟨t, hmem, (if_pos hid).symm⟩
    · exact ⟨t', ho, (if_neg fun h => hkey (h.trans hid.symm)).symm⟩

lemma Regular.recorded (hregular : Regular db) (ht : Confirmable auth request.transferId db t) :
    Regular (recorded db t request.transferId offerIndex) := by
  intro t' ht'
  rcases (mem_recorded ht).mp ht' with rfl | ⟨-, ho⟩
  · simp [withOffer, TransferStatus.completed]
  · exact hregular t' ho

/-- **What one confirmation decides.** -/
lemma distinct_recorded_iff (hregular : Regular db) (hdistinct : Distinct db)
    (ht : Confirmable auth request.transferId db t) :
    Distinct (recorded db t request.transferId offerIndex)
      ↔ ∀ t' ∈ db.transferRequests.rows, t'.nftOfferIndex ≠ some offerIndex := by
  have hnone : t.nftOfferIndex = none := by
    have hoffer := hregular t (Table.mem_of_get? ht.found)
    rw [ht.pending] at hoffer
    simpa using hoffer
  constructor
  · intro hafter t' ht' hoffer
    have hother : t'.id ≠ t.id := by
      intro hid
      rw [Table.eq_of_mem _ ht' (Table.mem_of_get? ht.found) hid, hnone] at hoffer
      cases hoffer
    have heq := hafter t' ((mem_recorded ht).mpr (.inr ⟨hother, ht'⟩)) _
      ((mem_recorded ht).mpr (.inl rfl)) offerIndex hoffer rfl
    have hid := congrArg TransferRequest.id heq
    exact hother hid
  · intro hnew o ho o' ho' i hoffer hoffer'
    rcases (mem_recorded ht).mp ho with rfl | ⟨-, hold⟩
    · obtain rfl := Option.some.inj hoffer
      rcases (mem_recorded ht).mp ho' with rfl | ⟨-, hold'⟩
      · rfl
      · exact absurd hoffer' (hnew o' hold')
    · rcases (mem_recorded ht).mp ho' with rfl | ⟨-, hold'⟩
      · obtain rfl := Option.some.inj hoffer'
        exact absurd hoffer (hnew o hold)
      · exact hdistinct o hold o' hold' i hoffer hoffer'

lemma regular_step (hregular : Regular db) (call : Step) : Regular (step u codec db call) := by
  by_cases hcall : ∃ auth request t offerIndex, call = .Confirm auth request
      ∧ Confirmable auth request.transferId db t ∧ varchar 64 request.offerIndex = .ok offerIndex
  · obtain ⟨auth, request, t, offerIndex, rfl, ht, hindex⟩ := hcall
    rw [confirm_of_confirmable ht hindex]
    exact hregular.recorded ht
  · refine hregular.continues (continues_of_unrecorded hregular ?_)
    exact fun auth request t offerIndex heq ht hindex =>
      hcall ⟨auth, request, t, offerIndex, heq, ht, hindex⟩

/-- **The step lemma**: offer indices stay distinct if and only if the call is guarded. -/
theorem distinct_step_iff (hregular : Regular db) (hdistinct : Distinct db) (call : Step) :
    Distinct (step u codec db call) ↔ guard db call := by
  by_cases hcall : ∃ auth request t offerIndex, call = .Confirm auth request
      ∧ Confirmable auth request.transferId db t ∧ varchar 64 request.offerIndex = .ok offerIndex
  · obtain ⟨auth, request, t, offerIndex, rfl, ht, hindex⟩ := hcall
    rw [confirm_of_confirmable ht hindex, distinct_recorded_iff hregular hdistinct ht]
    refine ⟨fun hnew t₁ offerIndex₁ _ hindex₁ => ?_, fun hguard => hguard t offerIndex ht hindex⟩
    obtain rfl := Except.ok.inj (hindex.symm.trans hindex₁)
    exact hnew
  · have hnot := fun auth request t offerIndex heq ht hindex =>
      hcall ⟨auth, request, t, offerIndex, heq, ht, hindex⟩
    refine iff_of_true (hdistinct.continues (continues_of_unrecorded hregular hnot)) ?_
    cases call with
    | Confirm auth request =>
        exact fun t offerIndex ht hindex => (hnot auth request t _ rfl ht hindex).elim
    | _ => trivial

end Rows

/-! ## Runs -/

section Run

variable {u : Umbral} {codec : TextCodec} {db : Db} {calls : List Step}

lemma regular_exec (hregular : Regular db) (calls : List Step) :
    Regular (exec u codec db calls) :=
  Runs.preserved_run (P := Regular) (fun _ call hregular => regular_step hregular call) hregular calls

/-- **An offer index names one transfer all along a run** if and only if no confirmation of the run
records an offer index that a transfer has already. The column has no unique index, and the handler
does not look for other rows with the index that it is sent. -/
theorem alwaysNamesOne_iff (hnew : db.transferRequests = .empty) :
    AlwaysNamesOne u codec db calls ↔ Runs.Guarded (step u codec) guard db calls := by
  have hnone : ∀ t, t ∉ db.transferRequests.rows := by
    rw [hnew]
    exact fun t => List.not_mem_nil
  have hregular : Regular db := fun t ht => absurd ht (hnone t)
  have hdistinct : Distinct db := fun t ht => absurd ht (hnone t)
  refine Iff.trans ?_ (Runs.always_iff (P := fun db => Regular db ∧ Distinct db)
    (fun db call ⟨hregular, hdistinct⟩ => ?_) ⟨hregular, hdistinct⟩)
  · refine forall_congr' fun pre => forall_congr' fun post => forall_congr' fun _ => ?_
    exact namesOne_iff.trans (and_iff_right (regular_exec hregular pre)).symm
  · exact (and_iff_right (regular_step hregular call)).trans
      (distinct_step_iff hregular hdistinct call)

end Run

/-! ## Who is found -/

section Conflicts

variable {u : Umbral} {codec : TextCodec} {db : Db} {t t' : TransferRequest}
  {auth auth' : AuthenticatedUser} {request request' : ConfirmOfferSignedRequest}
  {offerIndex : String}

/-- **A lookup is captured**: whoever confirms a transfer of his own with the offer index of older
ones is found instead of them. -/
theorem captured (ht : Confirmable auth request.transferId db t)
    (hindex : varchar 64 request.offerIndex = .ok offerIndex)
    (hlater : ∀ o ∈ db.transferRequests.rows, o.nftOfferIndex = some offerIndex →
      o.createdAt < t.createdAt) (env : Env) :
    getTransferByOffer env offerIndex (step u codec db (.Confirm auth request))
      = (.ok (foundAnswer (withOffer offerIndex t)),
        step u codec db (.Confirm auth request)) := by
  rw [confirm_of_confirmable ht hindex]
  refine getTransferByOffer_of_latest (latest_eq_some env nodup_offering
    (mem_offering.mpr ⟨(mem_recorded ht).mpr (.inl rfl), rfl⟩) fun o ho => ?_)
  obtain ⟨ho, hoffer⟩ := mem_offering.mp ho
  rcases (mem_recorded ht).mp ho with rfl | ⟨-, hold⟩
  · exact .inl rfl
  · exact .inr (hlater o hold hoffer)

/-- A pending transfer is still pending when another one has been confirmed. -/
lemma confirmable_recorded (ht : Confirmable auth request.transferId db t)
    (ht' : Confirmable auth' request'.transferId db t') (hne : t.id ≠ t'.id) :
    Confirmable auth request.transferId (recorded db t' request'.transferId offerIndex) t where
  found := by
    have hid : t.id = request.transferId := Table.key_of_get? ht.found
    rw [← hid]
    exact Table.get?_of_mem ((mem_recorded ht').mpr (.inr ⟨hne, Table.mem_of_get? ht.found⟩))
  sender := ht.sender
  pending := ht.pending

/-- **Two confirmations with one offer index** leave two transfers with it. -/
theorem not_namesOne_of_confirmed (ht : Confirmable auth request.transferId db t)
    (ht' : Confirmable auth' request'.transferId db t') (hne : t'.id ≠ t.id)
    (hindex : varchar 64 request.offerIndex = .ok offerIndex)
    (hindex' : varchar 64 request'.offerIndex = .ok offerIndex) :
    ¬NamesOne (exec u codec db [.Confirm auth request, .Confirm auth' request']) := by
  have hpending : Confirmable auth' request'.transferId
      (recorded db t request.transferId offerIndex) t' := confirmable_recorded ht' ht hne
  rw [exec, Runs.exec_cons, Runs.exec_cons, Runs.exec_nil, confirm_of_confirmable ht hindex,
    confirm_of_confirmable hpending hindex', namesOne_iff]
  intro hdistinct
  have heq : withOffer offerIndex t' = withOffer offerIndex t :=
    hdistinct _ ((mem_recorded hpending).mpr (.inl rfl)) _
      ((mem_recorded hpending).mpr (.inr ⟨hne.symm, (mem_recorded ht).mpr (.inl rfl)⟩)) offerIndex
      rfl rfl
  have hid := congrArg TransferRequest.id heq
  exact hne hid

end Conflicts

/-! ## The client uses an offer again -/

/-- An offer of the ledger, as the client reads it. -/
structure NftOffer where
  offerIndex : String
  owner : String
  nftTokenId : Option String
  amount : String
  destination : Option String

def findMatchingOfferIndex (offers : List NftOffer) (owner nftTokenId destination amount : String) :
    Option String :=
  (offers.find? fun offer => Text.eqIgnoreAsciiCase offer.owner owner
    && decide (offer.amount = amount)
    && (offer.destination.any fun value => Text.eqIgnoreAsciiCase value destination)
    && (offer.nftTokenId.all fun value => Text.eqIgnoreAsciiCase value nftTokenId)).map
    (·.offerIndex)

/-- `find_matching_nftoken_offer`, once the ledger has listed the offers of the account and those
for the NFT. -/
def findMatchingNftokenOffer (accountOffers sellOffers : List NftOffer)
    (owner nftTokenId destination amount : String) : Option String :=
  (findMatchingOfferIndex accountOffers owner nftTokenId destination amount).or
    (findMatchingOfferIndex sellOffers owner nftTokenId destination amount)

/-- The confirmation that `create_transfer_offer_inner` sends if it finds an offer. -/
def reusedOffer (accountOffers sellOffers : List NftOffer) (account : String) (transferId : Uuid)
    (nftTokenId toAddress : String) : Option ConfirmOfferSignedRequest :=
  (findMatchingNftokenOffer accountOffers sellOffers account nftTokenId toAddress "0").map
    fun offerIndex => { transferId, offerIndex }

/-- **The client's two confirmations collide**: of two transfers of one NFT to one recipient, with
one offer on the ledger. -/
theorem not_namesOne_of_reused {u : Umbral} {codec : TextCodec} {db : Db} {t t' : TransferRequest}
    {auth : AuthenticatedUser} {request request' : ConfirmOfferSignedRequest}
    {accountOffers sellOffers : List NftOffer} {account nftTokenId toAddress offerIndex : String}
    (hreused : reusedOffer accountOffers sellOffers account t.id nftTokenId toAddress
      = some request)
    (hreused' : reusedOffer accountOffers sellOffers account t'.id nftTokenId toAddress
      = some request')
    (ht : Confirmable auth t.id db t) (ht' : Confirmable auth t'.id db t') (hne : t'.id ≠ t.id)
    (hindex : varchar 64 request.offerIndex = .ok offerIndex) :
    ¬NamesOne (exec u codec db [.Confirm auth request, .Confirm auth request']) := by
  obtain ⟨found, hfound, rfl⟩ := Option.map_eq_some_iff.mp hreused
  obtain ⟨found', hfound', rfl⟩ := Option.map_eq_some_iff.mp hreused'
  obtain rfl : found = found' := Option.some.inj (hfound.symm.trans hfound')
  exact not_namesOne_of_confirmed ht ht' hne hindex hindex

namespace Sample

open Transfers.Sample

/-- The offer of Alice's NFT to Bob on the ledger. -/
def ledgerOffer : NftOffer where
  offerIndex := "offer"
  owner := "rAlice"
  nftTokenId := some tokenId
  amount := "0"
  destination := some "rBob"

/-- Alice asks for two transfers of her NFT to Bob. -/
def initiated : List Step :=
  [.Initiate (env ⟨"t1"⟩) (caller alice) (request 2 "rBob"),
    .Initiate (env ⟨"t2"⟩) (caller alice) (request 2 "rBob")]

def confirmed (id : String) : Step := .Confirm (caller alice) ⟨⟨id⟩, "offer"⟩

lemma exec_initiated : exec Umbral.symbolic JsonText.compact (db [] List.nodup_nil) initiated
    = db [transfer ⟨"t1"⟩ 2 "rBob", transfer ⟨"t2"⟩ 2 "rBob"] (by decide) := by
  have hfirst := initiateTransfer_alice ⟨"t1"⟩ [] List.nodup_nil (n := 2) (w := "rBob") rfl
    (by decide) (List.nodup_singleton _)
  have hsecond := initiateTransfer_alice ⟨"t2"⟩ [transfer ⟨"t1"⟩ 2 "rBob"]
    (List.nodup_singleton _) (n := 2) (w := "rBob") rfl (by decide) (by decide)
  rw [initiated, exec, Runs.exec_cons, step_initiate hfirst, Runs.exec_cons, Runs.exec_nil]
  exact step_initiate hsecond

lemma confirmable {ts : List TransferRequest} {hts : (ts.map TransferRequest.id).Nodup} {id : Uuid}
    (h : (db ts hts).transferRequests.get? id = some (transfer id 2 "rBob")) :
    Confirmable (caller alice) id (db ts hts) (transfer id 2 "rBob") where
  found := h
  sender := ⟨"rAlice", rfl, Text.eqIgnoreAsciiCase_self _⟩
  pending := rfl

/-- **An index for two transfers**, as the client confirms them. -/
theorem not_alwaysNamesOne :
    (∀ id, reusedOffer [ledgerOffer] [] "rAlice" id tokenId "rBob" = some ⟨id, "offer"⟩)
    ∧ ¬AlwaysNamesOne Umbral.symbolic JsonText.compact (db [] List.nodup_nil)
      (initiated ++ [confirmed "t1", confirmed "t2"]) := by
  have hfound : findMatchingNftokenOffer [ledgerOffer] [] "rAlice" tokenId "rBob" "0"
      = some "offer" := by decide +kernel
  refine ⟨fun id => by rw [reusedOffer, hfound]; rfl, fun hnames => ?_⟩
  have hlast := hnames _ [] (List.append_nil _).symm
  rw [exec, Runs.exec_append] at hlast
  have hstart := exec_initiated
  rw [exec] at hstart
  rw [hstart] at hlast
  have hindex : varchar 64 "offer" = .ok "offer" := by decide +kernel
  refine not_namesOne_of_confirmed (confirmable (by rfl)) (confirmable (by rfl)) ?_ hindex hindex
    hlast
  decide

/-- One transfer is confirmed. -/
theorem alwaysNamesOne_confirmed : AlwaysNamesOne Umbral.symbolic JsonText.compact
    (db [] List.nodup_nil) (initiated ++ [confirmed "t1"]) := by
  refine (alwaysNamesOne_iff rfl).mpr (.append ⟨trivial, trivial, trivial⟩ ⟨?_, trivial⟩)
  have hstart := exec_initiated
  rw [exec] at hstart
  rw [hstart]
  have hnone : ∀ t ∈ [transfer ⟨"t1"⟩ 2 "rBob", transfer ⟨"t2"⟩ 2 "rBob"],
      t.nftOfferIndex = none := by
    simp [transfer, pendingTransfer]
  intro t offerIndex _ _ t' ht'
  rw [hnone t' ht']
  rintro ⟨⟩

end Sample

end Vaulted.OfferNames
