import Vaulted.Library.Labels
import Vaulted.Oracle.QrApproval

/-!
# What an approval binds

The phone signs a message of lines, and a request that is approved fills them with any texts.

* `Approval` — the arguments of the four messages.
* `message_eq` — a message is a head, and then the fields with the labels between them.
* `Delimited` — every optional field is given and filled, and no field contains the label before
  or after it.
* `approves_iff` — a message has only one approval if and only if that one is delimited.
* `not_approves` — two pairings with one message.
-/

namespace Vaulted.ApprovalMessages

open Labels QrAuth

/-! ## Approvals -/

/-- What a signature approves. -/
inductive Approval
  | Login (loginRequestId challenge oracleUrl deviceId : String)
  | PairDevice (pairingRequestId challenge oracleUrl desktopDevicePublicKey : String)
      (desktopDeviceName : Option String) (authorizingDeviceId : String)
  | XrplSign (signingRequestId challenge oracleUrl txJsonHash expectedXrplAccount : String)
      (requesterDeviceId requesterDeviceName : Option String) (authorizingDeviceId : String)
  | FileGrant (grantRequestId challenge oracleUrl vaultObjectId grantId recipientIdentityId
      grantContextHash : String) (requesterDeviceId requesterDeviceName : Option String)
      (authorizingDeviceId : String)

namespace Approval

def message : Approval → String
  | .Login loginRequestId challenge oracleUrl deviceId =>
      qrLoginSignatureMessage loginRequestId challenge oracleUrl deviceId
  | .PairDevice pairingRequestId challenge oracleUrl desktopDevicePublicKey desktopDeviceName
      authorizingDeviceId =>
      QrApproval.pairDeviceSignatureMessage pairingRequestId challenge oracleUrl
        desktopDevicePublicKey desktopDeviceName authorizingDeviceId
  | .XrplSign signingRequestId challenge oracleUrl txJsonHash expectedXrplAccount
      requesterDeviceId requesterDeviceName authorizingDeviceId =>
      QrApproval.xrplSigningApprovalMessage signingRequestId challenge oracleUrl txJsonHash
        expectedXrplAccount requesterDeviceId requesterDeviceName authorizingDeviceId
  | .FileGrant grantRequestId challenge oracleUrl vaultObjectId grantId recipientIdentityId
      grantContextHash requesterDeviceId requesterDeviceName authorizingDeviceId =>
      QrApproval.fileGrantApprovalMessage grantRequestId challenge oracleUrl vaultObjectId grantId
        recipientIdentityId grantContextHash requesterDeviceId requesterDeviceName
        authorizingDeviceId

/-- The fields that can be absent. -/
def optionals : Approval → List (Option String)
  | .Login _ _ _ _ => []
  | .PairDevice _ _ _ _ desktopDeviceName _ => [desktopDeviceName]
  | .XrplSign _ _ _ _ _ requesterDeviceId requesterDeviceName _ =>
      [requesterDeviceId, requesterDeviceName]
  | .FileGrant _ _ _ _ _ _ _ requesterDeviceId requesterDeviceName _ =>
      [requesterDeviceId, requesterDeviceName]

end Approval

/-! ## The lines of a message -/

/-- A line after the first one. -/
def line (name : String) (h : '\n' ∉ name.toList) (value : String) : Label '\n' × List Char :=
  (⟨name.toList, h⟩, value.toList)

lemma weave_line (f : List Char) (name : String) (h : '\n' ∉ name.toList) (value : String)
    (rest : List (Label '\n' × List Char)) :
    weave f (line name h value :: rest)
      = f ++ '\n' :: (name.toList ++ weave value.toList rest) := by
  simp only [weave, line, Label.text, List.append_assoc, List.cons_append]

inductive Kind
  | Login
  | PairDevice
  | XrplSign
  | FileGrant

def Kind.head : Kind → String
  | .Login => "Vaulted QR Login v1\nlogin_request_id:"
  | .PairDevice => "Vaulted QR Pair Device v1\npairing_request_id:"
  | .XrplSign => "Vaulted QR XRPL Sign v1\nsigning_request_id:"
  | .FileGrant => "Vaulted QR File Grant v1\ngrant_request_id:"

namespace Approval

def kind : Approval → Kind
  | .Login _ _ _ _ => .Login
  | .PairDevice _ _ _ _ _ _ => .PairDevice
  | .XrplSign _ _ _ _ _ _ _ _ => .XrplSign
  | .FileGrant _ _ _ _ _ _ _ _ _ _ => .FileGrant

/-- The identifier of the request. -/
def first : Approval → List Char
  | .Login requestId _ _ _ | .PairDevice requestId _ _ _ _ _ | .XrplSign requestId _ _ _ _ _ _ _
  | .FileGrant requestId _ _ _ _ _ _ _ _ _ => requestId.toList

/-- The other fields. -/
def rest : Approval → List (Label '\n' × List Char)
  | .Login _ challenge oracleUrl deviceId =>
      [line "challenge:" (by decide) challenge, line "oracle_url:" (by decide) oracleUrl,
        line "device_id:" (by decide) deviceId]
  | .PairDevice _ challenge oracleUrl desktopDevicePublicKey desktopDeviceName
      authorizingDeviceId =>
      [line "challenge:" (by decide) challenge, line "oracle_url:" (by decide) oracleUrl,
        line "desktop_device_public_key:" (by decide) desktopDevicePublicKey,
        line "desktop_device_name:" (by decide) (desktopDeviceName.getD ""),
        line "authorizing_device_id:" (by decide) authorizingDeviceId]
  | .XrplSign _ challenge oracleUrl txJsonHash expectedXrplAccount requesterDeviceId
      requesterDeviceName authorizingDeviceId =>
      [line "challenge:" (by decide) challenge, line "oracle_url:" (by decide) oracleUrl,
        line "tx_json_hash:" (by decide) txJsonHash,
        line "expected_xrpl_account:" (by decide) expectedXrplAccount,
        line "requester_device_id:" (by decide) (requesterDeviceId.getD ""),
        line "requester_device_name:" (by decide) (requesterDeviceName.getD ""),
        line "authorizing_device_id:" (by decide) authorizingDeviceId]
  | .FileGrant _ challenge oracleUrl vaultObjectId grantId recipientIdentityId grantContextHash
      requesterDeviceId requesterDeviceName authorizingDeviceId =>
      [line "challenge:" (by decide) challenge, line "oracle_url:" (by decide) oracleUrl,
        line "vault_object_id:" (by decide) vaultObjectId,
        line "grant_id:" (by decide) grantId,
        line "recipient_identity_id:" (by decide) recipientIdentityId,
        line "grant_context_hash:" (by decide) grantContextHash,
        line "requester_device_id:" (by decide) (requesterDeviceId.getD ""),
        line "requester_device_name:" (by decide) (requesterDeviceName.getD ""),
        line "authorizing_device_id:" (by decide) authorizingDeviceId]

/-- The optional fields are given and filled, and no field contains the label in front of it or the
one behind it: then the message can be cut in one way only. -/
structure Delimited (a : Approval) : Prop where
  optionals : ∀ o ∈ a.optionals, o ≠ none ∧ o ≠ some ""
  clean : Clean a.first a.rest

/-- A message is its head, and then the fields with the labels between them. -/
lemma message_eq (a : Approval) :
    a.message.toList = a.kind.head.toList ++ weave a.first a.rest := by
  have hchallenge : "\nchallenge:".toList = '\n' :: "challenge:".toList := by decide +kernel
  have hurl : "\noracle_url:".toList = '\n' :: "oracle_url:".toList := by decide +kernel
  have hdevice : "\ndevice_id:".toList = '\n' :: "device_id:".toList := by decide +kernel
  have hkey : "\ndesktop_device_public_key:".toList = '\n' :: "desktop_device_public_key:".toList := by
    decide +kernel
  have hname : "\ndesktop_device_name:".toList = '\n' :: "desktop_device_name:".toList := by
    decide +kernel
  have hauthorizing : "\nauthorizing_device_id:".toList = '\n' :: "authorizing_device_id:".toList := by
    decide +kernel
  have htx : "\ntx_json_hash:".toList = '\n' :: "tx_json_hash:".toList := by decide +kernel
  have haccount : "\nexpected_xrpl_account:".toList = '\n' :: "expected_xrpl_account:".toList := by
    decide +kernel
  have hrequester : "\nrequester_device_id:".toList = '\n' :: "requester_device_id:".toList := by
    decide +kernel
  have hrequesterName :
      "\nrequester_device_name:".toList = '\n' :: "requester_device_name:".toList := by
    decide +kernel
  have hobject : "\nvault_object_id:".toList = '\n' :: "vault_object_id:".toList := by
    decide +kernel
  have hgrant : "\ngrant_id:".toList = '\n' :: "grant_id:".toList := by decide +kernel
  have hrecipient : "\nrecipient_identity_id:".toList = '\n' :: "recipient_identity_id:".toList := by
    decide +kernel
  have hcontext : "\ngrant_context_hash:".toList = '\n' :: "grant_context_hash:".toList := by
    decide +kernel
  cases a with
  | Login requestId challenge oracleUrl deviceId =>
      unfold message qrLoginSignatureMessage
      simp only [String.toList_append, List.append_assoc, List.cons_append, hchallenge, hurl,
        hdevice, -String.reduceToList]
      simp only [rest, weave_line]
      rfl
  | PairDevice requestId challenge oracleUrl desktopDevicePublicKey desktopDeviceName deviceId =>
      unfold message QrApproval.pairDeviceSignatureMessage
      simp only [String.toList_append, List.append_assoc, List.cons_append, hchallenge, hurl, hkey,
        hname, hauthorizing, -String.reduceToList]
      simp only [rest, weave_line]
      rfl
  | XrplSign requestId challenge oracleUrl txJsonHash account requester name deviceId =>
      unfold message QrApproval.xrplSigningApprovalMessage
      simp only [String.toList_append, List.append_assoc, List.cons_append, hchallenge, hurl, htx,
        haccount, hrequester, hrequesterName, hauthorizing, -String.reduceToList]
      simp only [rest, weave_line]
      rfl
  | FileGrant requestId challenge oracleUrl vaultObjectId grantId recipient context requester name
      deviceId =>
      unfold message QrApproval.fileGrantApprovalMessage
      simp only [String.toList_append, List.append_assoc, List.cons_append, hchallenge, hurl,
        hobject, hgrant, hrecipient, hcontext, hrequester, hrequesterName, hauthorizing,
        -String.reduceToList]
      simp only [rest, weave_line]
      rfl

/-! ## Two approvals with one message -/

/-- An approval with nothing in it. -/
def blank : Kind → Approval
  | .Login => .Login "" "" "" ""
  | .PairDevice => .PairDevice "" "" "" "" none ""
  | .XrplSign => .XrplSign "" "" "" "" "" none none ""
  | .FileGrant => .FileGrant "" "" "" "" "" "" "" none none ""

lemma labels_eq (a : Approval) : a.rest.map Prod.fst = (blank a.kind).rest.map Prod.fst := by
  cases a <;> rfl

lemma labels_ordered (a : Approval) :
    (a.rest.map Prod.fst).Pairwise fun M N => Incomparable N M := by
  rw [labels_eq]
  cases a.kind <;> decide +kernel

/-- No head is the beginning of another one. -/
lemma eq_of_head_le {k k' : Kind} (h : k.head.toList <+: k'.head.toList) : k = k' := by
  cases k <;> cases k' <;> first | rfl | exact absurd h (by decide +kernel)

lemma message_eq_iff {a a' : Approval} : a.message = a'.message
    ↔ a.kind = a'.kind ∧ weave a.first a.rest = weave a'.first a'.rest := by
  rw [← String.toList_inj, message_eq, message_eq]
  constructor
  · intro h
    have hkind : a.kind = a'.kind := by
      rcases List.append_eq_append_iff.mp h with ⟨x, hx, -⟩ | ⟨x, hx, -⟩
      · exact eq_of_head_le ⟨x, hx.symm⟩
      · exact (eq_of_head_le ⟨x, hx.symm⟩).symm
    rw [hkind] at h
    exact ⟨hkind, List.append_cancel_left h⟩
  · rintro ⟨hkind, hweave⟩
    rw [hkind, hweave]

/-- A filled field is found again. -/
lemma eq_of_getD {o o' : Option String} (ho : o ≠ none ∧ o ≠ some "")
    (h : o'.getD "" = o.getD "") : o' = o := by
  obtain ⟨value, rfl⟩ := Option.ne_none_iff_exists'.mp ho.1
  cases o' with
  | none => exact absurd (congrArg some h.symm) ho.2
  | some value' => exact congrArg some h

lemma eq_of_parts {a a' : Approval} (ho : ∀ o ∈ a.optionals, o ≠ none ∧ o ≠ some "")
    (hkind : a'.kind = a.kind) (hfirst : a'.first = a.first) (hrest : a'.rest = a.rest) :
    a' = a := by
  cases a <;> cases a' <;> cases hkind
  all_goals
    simp only [first, rest, line, String.toList_inj, List.cons.injEq, Prod.mk.injEq, true_and,
      and_true] at hfirst hrest
    simp only [optionals, List.forall_mem_cons, List.not_mem_nil, IsEmpty.forall_iff,
      implies_true, and_true] at ho
  · simp [hfirst, hrest]
  · obtain ⟨hc, hu, hk, hn, ha⟩ := hrest
    rw [hfirst, hc, hu, hk, eq_of_getD ho hn, ha]
  · obtain ⟨hc, hu, ht, hx, hd, hn, ha⟩ := hrest
    rw [hfirst, hc, hu, ht, hx, eq_of_getD ho.1 hd, eq_of_getD ho.2 hn, ha]
  · obtain ⟨hc, hu, hv, hg, hr, hx, hd, hn, ha⟩ := hrest
    rw [hfirst, hc, hu, hv, hg, hr, hx, eq_of_getD ho.1 hd, eq_of_getD ho.2 hn, ha]

/-- The line in front of others, in fields with their labels. -/
lemma eq_line_cons {name : String} {h : '\n' ∉ name.toList} {value : String}
    {rest fields : List (Label '\n' × List Char)}
    (hlabels : fields.map Prod.fst = (line name h value :: rest).map Prod.fst) :
    ∃ value' fields', fields = line name h value' :: fields'
      ∧ fields'.map Prod.fst = rest.map Prod.fst := by
  cases fields with
  | nil => cases hlabels
  | cons f fields =>
      obtain ⟨L, text⟩ := f
      obtain ⟨rfl, hfields⟩ := List.cons.inj hlabels
      exact ⟨String.ofList text, fields, by simp [line], hfields⟩

/-- Any other fields make an approval of the same kind. -/
lemma exists_with (a : Approval) (f : List Char) {fields : List (Label '\n' × List Char)}
    (h : fields.map Prod.fst = a.rest.map Prod.fst) :
    ∃ a' : Approval, a'.kind = a.kind ∧ a'.first = f ∧ a'.rest = fields := by
  cases a with
  | Login =>
      obtain ⟨challenge, _, rfl, h1⟩ := eq_line_cons h
      obtain ⟨url, _, rfl, h2⟩ := eq_line_cons h1
      obtain ⟨deviceId, _, rfl, h3⟩ := eq_line_cons h2
      obtain rfl := List.map_eq_nil_iff.mp h3
      exact ⟨.Login (String.ofList f) challenge url deviceId, rfl, String.toList_ofList, rfl⟩
  | PairDevice =>
      obtain ⟨challenge, _, rfl, h1⟩ := eq_line_cons h
      obtain ⟨url, _, rfl, h2⟩ := eq_line_cons h1
      obtain ⟨key, _, rfl, h3⟩ := eq_line_cons h2
      obtain ⟨name, _, rfl, h4⟩ := eq_line_cons h3
      obtain ⟨deviceId, _, rfl, h5⟩ := eq_line_cons h4
      obtain rfl := List.map_eq_nil_iff.mp h5
      exact ⟨.PairDevice (String.ofList f) challenge url key (some name) deviceId, rfl,
        String.toList_ofList, rfl⟩
  | XrplSign =>
      obtain ⟨challenge, _, rfl, h1⟩ := eq_line_cons h
      obtain ⟨url, _, rfl, h2⟩ := eq_line_cons h1
      obtain ⟨tx, _, rfl, h3⟩ := eq_line_cons h2
      obtain ⟨account, _, rfl, h4⟩ := eq_line_cons h3
      obtain ⟨requester, _, rfl, h5⟩ := eq_line_cons h4
      obtain ⟨name, _, rfl, h6⟩ := eq_line_cons h5
      obtain ⟨deviceId, _, rfl, h7⟩ := eq_line_cons h6
      obtain rfl := List.map_eq_nil_iff.mp h7
      exact ⟨.XrplSign (String.ofList f) challenge url tx account (some requester) (some name)
        deviceId, rfl, String.toList_ofList, rfl⟩
  | FileGrant =>
      obtain ⟨challenge, _, rfl, h1⟩ := eq_line_cons h
      obtain ⟨url, _, rfl, h2⟩ := eq_line_cons h1
      obtain ⟨vaultObjectId, _, rfl, h3⟩ := eq_line_cons h2
      obtain ⟨grantId, _, rfl, h4⟩ := eq_line_cons h3
      obtain ⟨recipient, _, rfl, h5⟩ := eq_line_cons h4
      obtain ⟨context, _, rfl, h6⟩ := eq_line_cons h5
      obtain ⟨requester, _, rfl, h7⟩ := eq_line_cons h6
      obtain ⟨name, _, rfl, h8⟩ := eq_line_cons h7
      obtain ⟨deviceId, _, rfl, h9⟩ := eq_line_cons h8
      obtain rfl := List.map_eq_nil_iff.mp h9
      exact ⟨.FileGrant (String.ofList f) challenge url vaultObjectId grantId recipient context
        (some requester) (some name) deviceId, rfl, String.toList_ofList, rfl⟩

/-- The approval with other optional fields. -/
def mapOptionals (f : Option String → Option String) : Approval → Approval
  | .Login requestId challenge oracleUrl deviceId =>
      .Login requestId challenge oracleUrl deviceId
  | .PairDevice requestId challenge oracleUrl key name deviceId =>
      .PairDevice requestId challenge oracleUrl key (f name) deviceId
  | .XrplSign requestId challenge oracleUrl txJsonHash account requester name deviceId =>
      .XrplSign requestId challenge oracleUrl txJsonHash account (f requester) (f name) deviceId
  | .FileGrant requestId challenge oracleUrl vaultObjectId grantId recipient context requester name
      deviceId =>
      .FileGrant requestId challenge oracleUrl vaultObjectId grantId recipient context
        (f requester) (f name) deviceId

lemma mapOptionals_message {f : Option String → Option String}
    (hf : ∀ o, (f o).getD "" = o.getD "") (a : Approval) :
    (a.mapOptionals f).message = a.message := by
  refine message_eq_iff.mpr ?_
  cases a <;> simp only [mapOptionals, kind, first, rest, hf, and_self]

lemma mapOptionals_eq {f : Option String → Option String} {a : Approval}
    (h : a.mapOptionals f = a) : ∀ o ∈ a.optionals, f o = o := by
  cases a <;> simp_all [mapOptionals, optionals]

/-- **A message has only one approval if and only if** that one is delimited. Messages of different
kinds have different labels and are never the same; within a kind the texts are written between the
labels as they are, and a text that is not given like an empty one. -/
theorem approves_iff (a : Approval) :
    (∀ a' : Approval, a'.message = a.message → a' = a) ↔ a.Delimited := by
  constructor
  · intro hbinds
    refine ⟨fun o ho => ⟨fun hnone => ?_, fun hempty => ?_⟩, by_contra fun hclean => ?_⟩
    · -- an absent field has the same message as an empty one
      have h := mapOptionals_eq (hbinds _ (a.mapOptionals_message
        (f := fun o => some (o.getD "")) fun _ => rfl)) o ho
      rw [hnone] at h
      cases h
    · have h := mapOptionals_eq (hbinds _ (a.mapOptionals_message
        (f := fun o => if o = some "" then none else o) fun o => ?_)) o ho
      · rw [hempty, if_pos rfl] at h
        cases h
      · split_ifs with ho
        · rw [ho]
          rfl
        · rfl
    · obtain ⟨f, fields, hlabels, hweave, hother⟩ := exists_other hclean
      obtain ⟨a', hkind, hfirst, hrest⟩ := a.exists_with f hlabels
      have hsame := hbinds a' (message_eq_iff.mpr ⟨hkind, by rw [hfirst, hrest, hweave]⟩)
      rw [hsame] at hfirst hrest
      exact hother ⟨hfirst.symm, hrest.symm⟩
  · rintro ⟨ho, hclean⟩ a' h
    obtain ⟨hkind, hweave⟩ := message_eq_iff.mp h
    have hlabels : a.rest.map Prod.fst = a'.rest.map Prod.fst := by
      rw [labels_eq, labels_eq a', hkind]
    obtain ⟨hfirst, hrest⟩ := weave_injective hlabels a.labels_ordered hclean hweave.symm
    exact eq_of_parts ho hkind hfirst.symm hrest.symm

end Approval

namespace Sample

/-- The pairing of a desktop with this name, by this device. -/
def pairing (desktopDeviceName authorizingDeviceId : String) : Approval :=
  .PairDevice "request" "challenge" "https://oracle.example" "key" (some desktopDeviceName)
    authorizingDeviceId

/-- **Two pairings with one message**: the name of the desktop contains the label of the device. -/
theorem not_approves : ¬∀ a a' : Approval, a'.message = a.message → a' = a := by
  intro hbinds
  have hsame := hbinds (pairing "Mac\nauthorizing_device_id:phone" "tablet")
    (pairing "Mac" "phone\nauthorizing_device_id:tablet") (by
      refine Approval.message_eq_iff.mpr ⟨rfl, ?_⟩
      decide +kernel)
  exact absurd (congrArg Approval.optionals hsame) (by decide)

end Sample

end Vaulted.ApprovalMessages
