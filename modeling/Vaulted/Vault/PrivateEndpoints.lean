import Vaulted.Oracle.NodeRegistry

/-!
# Endpoints in the Oracle's own network

A node must not be registered under a URL that leads into the network of the Oracle.

* `Internal` — the hosts that do, whichever address family or spelling.
* `Refused` — the check fires, and in production the URL is neither requested nor stored.
* `refused_iff` — it does for all internal hosts but the `Missed` ones.
* `registerNode_missed` — what becomes of those.
-/

namespace Vaulted.NodeRegistry

open Autocommit Autocommit.Prog

/-! ## Internal hosts -/

def InternalIpv4 (ip : IpAddr.Ipv4) : Prop :=
  ip.isLoopback = true ∨ ip.isPrivate = true ∨ ip.isLinkLocal = true ∨ ip.isUnspecified = true

def InternalIpv6 (ip : IpAddr.Ipv6) : Prop :=
  IpAddr.Ipv6.isLoopback ip = true ∨ IpAddr.Ipv6.isUniqueLocal ip = true
    ∨ IpAddr.Ipv6.isLinkLocal ip = true ∨ IpAddr.Ipv6.isUnspecified ip = true
    ∨ ∃ ip', InternalIpv4 ip' ∧ ip = ip'.mapped

def InternalName (name : String) : Prop :=
  name = "localhost" ∨ ∃ suffix ∈ [".internal", ".local", ".localhost"], endsWith name suffix = true

/-- A name stays the same with a dot at its end. -/
def Internal : Host → Prop
  | .Domain name => InternalName name ∨ ∃ bare, name = bare ++ "." ∧ InternalName bare
  | .V4 ip => InternalIpv4 ip
  | .V6 ip => InternalIpv6 ip

/-- Addresses of IPv6, names with a dot at their end, and names under `.localhost`: internal or not,
none of them is taken for private. -/
def Missed : Host → Prop
  | .Domain name => endsWith name "." = true ∨ endsWith name ".localhost" = true
  | .V4 _ => False
  | .V6 _ => True

instance : DecidablePred Missed := fun host => by
  cases host with
  | Domain name => exact inferInstanceAs (Decidable (_ ∨ _))
  | V4 ip => exact inferInstanceAs (Decidable False)
  | V6 ip => exact inferInstanceAs (Decidable True)

/-- The URL is taken for private; a production Oracle answers so, and does nothing: no request is
sent, and no node is stored. -/
structure Refused (p : UrlParser) (url : String) : Prop where
  recognised : isPrivateUrl p url = true
  refused : ∀ request : RegisterNodeRequest, request.endpointUrl = url → ∀ health r,
    registerNode p true health request r
      = (.error ⟨400, "Invalid endpoint URL: private/internal addresses not allowed"⟩, r)

/-! ## Texts of hosts -/

lemma endsWith_iff {s suffix : String} :
    endsWith s suffix = true ↔ ∃ front, s.toList = front ++ suffix.toList := by
  rw [endsWith, List.isSuffixOf_iff_suffix]
  exact ⟨fun ⟨front, h⟩ => ⟨front, h.symm⟩, fun ⟨front, h⟩ => ⟨front, h.symm⟩⟩

/-- The last character of a text. -/
lemma getLast?_of_endsWith {s suffix : String} {c : Char} (h : endsWith s suffix = true)
    (hc : suffix.toList.getLast? = some c) : s.toList.getLast? = some c := by
  obtain ⟨front, hfront⟩ := endsWith_iff.mp h
  have hne : suffix.toList ≠ [] := by
    rintro hnil
    rw [hnil] at hc
    cases hc
  rw [hfront, List.getLast?_append_of_ne_nil _ hne, hc]

/-- Every internal name has a letter that no address has. -/
lemma mem_of_internal {name : String} (h : Internal (.Domain name)) : 'l' ∈ name.toList := by
  have hname : ∀ name, InternalName name → 'l' ∈ name.toList := by
    rintro name (rfl | ⟨suffix, hsuffix, hends⟩)
    · decide +kernel
    · obtain ⟨front, hfront⟩ := endsWith_iff.mp hends
      have hall : ∀ suffix ∈ [".internal", ".local", ".localhost"], 'l' ∈ suffix.toList := by
        decide +kernel
      rw [hfront]
      exact List.mem_append_right _ (hall suffix hsuffix)
  rcases h with h | ⟨bare, rfl, h⟩
  · exact hname name h
  · rw [String.toList_append]
    exact List.mem_append_left _ (hname bare h)

lemma parse_internal {name : String} (h : Internal (.Domain name)) : IpAddr.parse name = none :=
  IpAddr.parse_eq_none (mem_of_internal h) (by decide)

/-- What the check makes of an internal name. -/
lemma isPrivateHost_name {name : String} (h : Internal (.Domain name)) :
    isPrivateHost name = true ↔
      name = "localhost" ∨ endsWith name ".internal" = true ∨ endsWith name ".local" = true := by
  rw [isPrivateHost, parse_internal h]
  split_ifs with hliteral hmetadata
  · refine iff_of_true rfl ?_
    rcases hliteral with rfl | rfl | rfl | rfl
    · exact .inl rfl
    · exact absurd (mem_of_internal h) (by decide +kernel)
    · exact absurd (mem_of_internal h) (by decide +kernel)
    · exact absurd (mem_of_internal h) (by decide +kernel)
  · refine iff_of_true rfl ?_
    rcases hmetadata with rfl | rfl
    · exact absurd (mem_of_internal h) (by decide +kernel)
    · exact .inr (.inl (by decide +kernel))
  · rw [not_or] at hliteral
    simp [hliteral.1]

/-- An address in brackets is no text that the check knows. -/
lemma isPrivateHost_brackets (text : String) : isPrivateHost ("[" ++ text ++ "]") = false := by
  have hmem : '[' ∈ ("[" ++ text ++ "]").toList := by simp
  have hne : ∀ s : String, '[' ∉ s.toList → "[" ++ text ++ "]" ≠ s := by
    rintro s hs rfl
    exact hs hmem
  have hlast : ∀ suffix : String, suffix.toList.getLast? = some 'l' →
      endsWith ("[" ++ text ++ "]") suffix = false := by
    intro suffix hsuffix
    rw [← Bool.not_eq_true]
    intro hends
    have hl := getLast?_of_endsWith hends hsuffix
    have hbracket : ("[" ++ text ++ "]").toList.getLast? = some ']' := by
      rw [String.toList_append, List.getLast?_append]
      rfl
    rw [hbracket] at hl
    exact absurd hl (by decide)
  rw [isPrivateHost, IpAddr.parse_eq_none hmem (by decide), if_neg, if_neg,
    hlast ".internal" (by decide +kernel), hlast ".local" (by decide +kernel)]
  · rfl
  · simp only [not_or]
    exact ⟨hne _ (by decide +kernel), hne _ (by decide +kernel)⟩
  · simp only [not_or]
    exact ⟨hne _ (by decide +kernel), hne _ (by decide +kernel), hne _ (by decide +kernel),
      hne _ (by decide +kernel)⟩

/-- The check is complete for IPv4. -/
lemma isPrivateHost_text {ip : IpAddr.Ipv4} (h : InternalIpv4 ip) :
    isPrivateHost ip.text = true := by
  rw [isPrivateHost, IpAddr.parse_text]
  split_ifs with hliteral hmetadata
  · rfl
  · rfl
  · rcases h with h | h | h | h
    · simp [h]
    · simp [h]
    · simp [h]
    · obtain rfl : ip = ⟨0, 0, 0, 0⟩ := beq_iff_eq.mp h
      exact absurd (.inr (.inr (.inr (by decide +kernel)))) hliteral

/-! ## Names that are missed -/

/-- A name that ends in a dot, or in `t`, does not end in `l`. -/
lemma endsWith_eq_false {s suffix suffix' : String} {c d : Char} (h : endsWith s suffix = true)
    (hc : suffix.toList.getLast? = some c) (hc' : suffix'.toList.getLast? = some d)
    (hne : c ≠ d) : endsWith s suffix' = false := by
  rw [← Bool.not_eq_true]
  intro h'
  have hboth := (getLast?_of_endsWith h hc).symm.trans (getLast?_of_endsWith h' hc')
  exact hne (Option.some.inj hboth)

lemma isPrivateHost_internal_name {name : String} (h : Internal (.Domain name)) :
    isPrivateHost name = true ↔ ¬ Missed (.Domain name) := by
  rw [isPrivateHost_name h]
  constructor
  · rintro (rfl | hends | hends)
    · decide +kernel
    · rintro (hmissed | hmissed)
      · rw [endsWith_eq_false hends (c := 'l') (d := '.') rfl rfl (by decide)] at hmissed
        cases hmissed
      · rw [endsWith_eq_false hends (c := 'l') (d := 't') rfl rfl (by decide)] at hmissed
        cases hmissed
    · rintro (hmissed | hmissed)
      · rw [endsWith_eq_false hends (c := 'l') (d := '.') rfl rfl (by decide)] at hmissed
        cases hmissed
      · rw [endsWith_eq_false hends (c := 'l') (d := 't') rfl rfl (by decide)] at hmissed
        cases hmissed
  · intro hmissed
    rw [Missed, not_or] at hmissed
    rcases h with (rfl | ⟨suffix, hsuffix, hends⟩) | ⟨bare, rfl, -⟩
    · exact .inl rfl
    · simp only [List.mem_cons, List.not_mem_nil, or_false] at hsuffix
      rcases hsuffix with rfl | rfl | rfl
      · exact .inr (.inl hends)
      · exact .inr (.inr hends)
      · exact absurd hends hmissed.2
    · refine absurd ?_ hmissed.1
      exact endsWith_iff.mpr ⟨bare.toList, String.toList_append⟩

/-- The internal hosts that the check knows. -/
lemma isPrivateHost_internal (p : UrlParser) {host : Host} (h : Internal host) :
    isPrivateHost (p.hostText host) = true ↔ ¬ Missed host := by
  cases host with
  | Domain name => exact isPrivateHost_internal_name h
  | V4 ip => exact iff_of_true (isPrivateHost_text h) not_false
  | V6 ip =>
      rw [UrlParser.hostText, isPrivateHost_brackets]
      exact iff_of_false Bool.false_ne_true fun hmissed => hmissed trivial

/-! ## Registration -/

lemma registerNode_refused {p : UrlParser} {request : RegisterNodeRequest} (health : NodeAnswer)
    (r : Registry) (h : isPrivateUrl p request.endpointUrl = true) :
    registerNode p true health request r
      = (.error ⟨400, "Invalid endpoint URL: private/internal addresses not allowed"⟩, r) := by
  rw [registerNode, h]
  rfl

/-- A URL that passes the check is requested. -/
lemma contacted_of_passes {p : UrlParser} {isProduction : Bool} {request : RegisterNodeRequest}
    (health : NodeAnswer) (r : Registry) (h : isPrivateUrl p request.endpointUrl = false) :
    (registerNode p isProduction health request r).2.contacted
      = r.contacted ++ [request.endpointUrl ++ "/health"] := by
  rw [registerNode, run_require (by rw [h]; rfl), run_contact]
  cases hrow : upsertNode request health.isSuccess
      { r with contacted := r.contacted ++ [request.endpointUrl ++ "/health"] } with
  | error e => rw [run_write_error hrow]
  | ok r' =>
      rw [run_write hrow]
      obtain ⟨id, -, hrow⟩ := bind_eq_ok hrow
      obtain ⟨endpointUrl, -, hrow⟩ := bind_eq_ok hrow
      obtain ⟨region, -, hrow⟩ := bind_eq_ok hrow
      rw [← Except.ok.inj hrow]
      rfl

/-- **The URLs of internal hosts are refused, but those of the missed ones.** The host is compared
as a text: one of IPv6 has its brackets there, and a name may have a dot at its end or stand under
`.localhost`. -/
theorem refused_iff (p : UrlParser) (url : String) :
    (∀ host, p.host url = some host → Internal host → Refused p url) ↔
      ∀ host, p.host url = some host → Internal host → ¬ Missed host := by
  have hcheck : ∀ host, p.host url = some host → Internal host →
      (isPrivateUrl p url = true ↔ ¬ Missed host) := by
    intro host hhost hinternal
    rw [isPrivateUrl, hhost]
    exact isPrivateHost_internal p hinternal
  constructor
  · intro h host hhost hinternal
    exact (hcheck host hhost hinternal).mp (h host hhost hinternal).recognised
  · intro h host hhost hinternal
    have hprivate := (hcheck host hhost hinternal).mpr (h host hhost hinternal)
    refine ⟨hprivate, ?_⟩
    rintro request rfl health r
    exact registerNode_refused health r hprivate

/-- **A missed host is contacted**, in production too. -/
theorem registerNode_missed {p : UrlParser} {request : RegisterNodeRequest} {host : Host}
    (hhost : p.host request.endpointUrl = some host) (hinternal : Internal host)
    (hmissed : Missed host) (isProduction : Bool) (health : NodeAnswer) (r : Registry) :
    request.endpointUrl ++ "/health" ∈
      (registerNode p isProduction health request r).2.contacted := by
  have hpasses : isPrivateUrl p request.endpointUrl = false := by
    rw [isPrivateUrl, hhost, ← Bool.not_eq_true]
    exact fun h => (isPrivateHost_internal p hinternal).mp h hmissed
  rw [contacted_of_passes health r hpasses]
  exact List.mem_append_right _ (List.mem_singleton.mpr rfl)

/-! ## The own host -/

namespace Sample

/-- What a URL parser makes of some URLs. -/
def parser : UrlParser where
  host
    | "http://[::1]:8080" => some (.V6 1)
    | "http://localhost.:8080" => some (.Domain "localhost.")
    | "http://app.localhost" => some (.Domain "app.localhost")
    | "http://127.0.0.1:8080" => some (.V4 ⟨127, 0, 0, 1⟩)
    | _ => none
  ipv6Text _ := "::1"

def request : RegisterNodeRequest where
  nodeId := "node-1"
  endpointUrl := "http://[::1]:8080"
  region := "eu-central"
  totalSpaceBytes := 0

end Sample

/-- A production Oracle sends a request to its own host. -/
theorem not_refused : (registerNode Sample.parser true .TransportError Sample.request
      ⟨.empty, []⟩).2.contacted = ["http://[::1]:8080/health"]
    ∧ ¬ ∀ p url host, p.host url = some host → Internal host → Refused p url := by
  have hpasses : isPrivateUrl Sample.parser Sample.request.endpointUrl = false := by
    decide +kernel
  refine ⟨contacted_of_passes .TransportError ⟨.empty, []⟩ hpasses, fun h => ?_⟩
  have hrefused := h Sample.parser Sample.request.endpointUrl (.V6 1) (by decide +kernel)
    (.inl (by decide +kernel))
  rw [hrefused.recognised] at hpasses
  cases hpasses

end Vaulted.NodeRegistry
