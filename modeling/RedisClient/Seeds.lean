import RedisClient.Target

/-!
# Cluster seeds

A cluster is entered through any of its configured nodes. The options of all connections are
those of the first node, so the nodes have to agree on them.
-/

namespace RedisClient

/-- The nodes through which a cluster is entered. -/
structure Seeds where
  first : Target
  others : List Target

namespace Seeds

def targets (s : Seeds) : List Target := s.first :: s.others

/-- Whether an endpoint is encrypted, and if so whether certificates are checked. -/
def encryption : Endpoint → Option Bool
  | .tcp .. => none
  | .tls _ _ insecure => some insecure

/-- The failure to agree with the first node: on its password if it has one, and on encryption if
it asks for it. -/
def disagreement? (first node : Target) : Option Failure :=
  if first.password.isSome ∧ node.password ≠ first.password then
    some (.described .invalidClientConfig
      "Cannot use different password among initial nodes." none)
  else if (encryption first.endpoint).isSome ∧
      encryption node.endpoint ≠ encryption first.endpoint then
    some (.described .invalidClientConfig
      "Cannot use different TLS modes among initial nodes." none)
  else none

/-- Gathers the nodes of a cluster (`ClusterConnector::new`). A cluster has a single database. -/
def gather : List Target → Except Error Seeds
  | [] => .error (.configuration "no cluster nodes configured")
  | first :: others =>
    if first.databaseIndex ≠ 0 then
      .error (.configuration ("database " ++ toString first.databaseIndex.toInt ++
        " requested but Redis Cluster only supports database 0"))
    else
      match others.findSome? (disagreement? first) with
      | some failure => .error (failure.toConnectError "cluster seed nodes")
      | none => .ok ⟨first, others⟩

end Seeds

end RedisClient
