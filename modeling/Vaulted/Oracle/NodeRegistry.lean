import Vaulted.Library.Autocommit
import Vaulted.Library.IpValue
import Vaulted.Oracle.Schema

/-!
# POST /api/v1/storage/register

How a storage node gets into the registry (`api/storage.rs`).

* `UrlParser` — what the Oracle takes from its URL library: the host of a URL.
* `isPrivateUrl` — the check of an endpoint.
* `registerNode` — the check, the request to the endpoint, and the row.
-/

namespace Vaulted.NodeRegistry

open Autocommit Autocommit.Prog

/-- A host of a URL; a name is in lower case. -/
inductive Host
  | Domain (name : String)
  | V4 (ip : IpAddr.Ipv4)
  | V6 (ip : IpAddr.Ipv6)
  deriving DecidableEq

/-- `Url::parse` and `host`, and how an IPv6 address is written. -/
structure UrlParser where
  host : String → Option Host
  ipv6Text : IpAddr.Ipv6 → String

section Check

variable (p : UrlParser)

/-- `host_str`. -/
def UrlParser.hostText : Host → String
  | .Domain name => name
  | .V4 ip => ip.text
  | .V6 ip => "[" ++ p.ipv6Text ip ++ "]"

def endsWith (s suffix : String) : Bool := suffix.toList.isSuffixOf s.toList

def isPrivateHost (host : String) : Bool :=
  if host = "localhost" ∨ host = "127.0.0.1" ∨ host = "::1" ∨ host = "0.0.0.0" then true
  else if host = "169.254.169.254" ∨ host = "metadata.google.internal" then true
  else
    match IpAddr.parse host with
    | some (.V4 ip) => ip.isPrivate || ip.isLoopback || ip.isLinkLocal
    | some (.V6 ip) => IpAddr.Ipv6.isLoopback ip
    | none => endsWith host ".internal" || endsWith host ".local"

def isPrivateUrl (url : String) : Bool :=
  match p.host url with
  | some host => isPrivateHost (p.hostText host)
  | none => false

end Check

/-! ## The handler -/

structure RegisterNodeRequest where
  nodeId : String
  endpointUrl : String
  region : String
  totalSpaceBytes : Int

structure RegisterNodeResponse where
  nodeId : String
  registered : Bool
  message : String
  deriving DecidableEq

structure Rejection where
  status : ℕ
  message : String
  deriving DecidableEq

/-- The registered nodes, and the URLs that have been requested so far, oldest first. -/
structure Registry where
  nodes : Table StorageNode.id
  contacted : List String

/-- Send a request. -/
def contact (url : String) : Prog Registry Rejection Unit :=
  write fun r => .ok { r with contacted := r.contacted ++ [url] }

/-- A value for a column of bounded length. -/
def column (n : ℕ) (s : String) : Except Rejection String :=
  match Text.varchar n s with
  | some s => .ok s
  | none => .error ⟨500, ApiError.databaseText
      ("value too long for type character varying(" ++ toString n ++ ")")⟩

/-- The row of a new node, or what becomes of the row of a known one. -/
def upsertNode (request : RegisterNodeRequest) (isHealthy : Bool) (r : Registry) :
    Except Rejection Registry := do
  let id ← column 64 request.nodeId
  let endpointUrl ← column 255 request.endpointUrl
  let region ← column 50 request.region
  return { r with
    nodes := r.nodes.upsert
      { id, endpointUrl, region
        status := if isHealthy then .Active else .Offline
        totalSpaceBytes := request.totalSpaceBytes
        usedSpaceBytes := 0
        healthCheckFailures := 0 }
      (fun node => { node with
        endpointUrl, region
        status := if isHealthy then .Active else node.status
        totalSpaceBytes := request.totalSpaceBytes
        healthCheckFailures := if isHealthy then 0 else node.healthCheckFailures })
      fun _ => rfl }

/-- `health` is what the endpoint answers, if it is asked. -/
def registerNode (p : UrlParser) (isProduction : Bool) (health : NodeAnswer)
    (request : RegisterNodeRequest) : Prog Registry Rejection RegisterNodeResponse := do
  require (!(isPrivateUrl p request.endpointUrl && isProduction))
    ⟨400, "Invalid endpoint URL: private/internal addresses not allowed"⟩
  contact (request.endpointUrl ++ "/health")
  write (upsertNode request health.isSuccess)
  return {
    nodeId := request.nodeId
    registered := true
    message :=
      if health.isSuccess then "Node registered and active"
      else "Node registered but offline (health check failed)" }

lemma run_contact {α : Type} {url : String} {k : Unit → Prog Registry Rejection α} {r : Registry} :
    (contact url >>= k) r = k () { r with contacted := r.contacted ++ [url] } := rfl

end Vaulted.NodeRegistry
