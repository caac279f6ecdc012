import Vaulted.Library.IpAddr

/-!
# The address of a client

`middleware.rs`: under which address a request is counted.

* `HeaderMap` — the headers of a request, with names in lower case.
* `extractIpFromHeaders` — the address that a proxy is taken to have found.
* `extractClientIpSafe` — that address if the peer is a trusted proxy, else the peer's own.
-/

namespace Vaulted.ProxyHeaders

abbrev HeaderMap := List (String × List UInt8)

/-- The first value under a name. -/
def HeaderMap.get (headers : HeaderMap) (name : String) : Option (List UInt8) :=
  (headers.find? fun h => h.1 == name).map Prod.snd

/-- `HeaderValue::to_str`: printable ASCII and tabs only. -/
def isVisibleAscii (b : UInt8) : Bool := (0x20 ≤ b && b < 0x7F) || b == 0x09

def toStr (value : List UInt8) : Option String :=
  if value.all isVisibleAscii then Text.fromUtf8 value else none

/-- A text that is an address between white space. -/
def asIp (s : String) : Option String :=
  let ip := Text.trim s
  if IpAddr.isIpAddr ip then some ip else none

/-- The header is there, and is text with an address in it. -/
def readIp (headers : HeaderMap) (name : String) (element : String → Option String) :
    Option String :=
  (((headers.get name).bind toStr).bind element).bind asIp

def realIp (headers : HeaderMap) : Option String := readIp headers "x-real-ip" some

def cfConnectingIp (headers : HeaderMap) : Option String := readIp headers "cf-connecting-ip" some

/-- The first element of the list. -/
def forwardedFor (headers : HeaderMap) : Option String :=
  readIp headers "x-forwarded-for" fun s => (Text.split ',' s).head?

def extractIpFromHeaders (headers : HeaderMap) : Option String :=
  ((realIp headers).or (cfConnectingIp headers)).or (forwardedFor headers)

def extractClientIpSafe (headers : HeaderMap) (peerIp : Option String)
    (trustedProxies : List String) : String :=
  let peer := peerIp.getD "unknown"
  let peerIsTrusted := !trustedProxies.isEmpty && trustedProxies.any fun tp => tp == peer
  if peerIsTrusted then (extractIpFromHeaders headers).getD peer else peer

lemma extractClientIpSafe_of_untrusted {headers : HeaderMap} {peerIp : Option String}
    {trustedProxies : List String} (h : peerIp.getD "unknown" ∉ trustedProxies) :
    extractClientIpSafe headers peerIp trustedProxies = peerIp.getD "unknown" := by
  rw [extractClientIpSafe]
  refine if_neg fun htrusted => h ?_
  obtain ⟨tp, htp, heq⟩ := List.any_eq_true.mp (Bool.and_eq_true_iff.mp htrusted).2
  exact beq_iff_eq.mp heq ▸ htp

lemma extractClientIpSafe_of_trusted {headers : HeaderMap} {peerIp : Option String}
    {trustedProxies : List String} (h : peerIp.getD "unknown" ∈ trustedProxies) :
    extractClientIpSafe headers peerIp trustedProxies
      = (extractIpFromHeaders headers).getD (peerIp.getD "unknown") := by
  rw [extractClientIpSafe]
  refine if_pos ?_
  rw [Bool.and_eq_true_iff, List.any_eq_true]
  refine ⟨?_, _, h, beq_self_eq_true _⟩
  cases trustedProxies with
  | nil => cases h
  | cons tp rest => rfl

end Vaulted.ProxyHeaders
