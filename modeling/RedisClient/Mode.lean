/-!
# Connection modes

Two flags of the configuration select one of four modes.
-/

namespace RedisClient

/-- How commands reach the server (`ConnectionMode`). -/
inductive Mode
  | standaloneDirect | standalonePooled | clusterDirect | clusterPooled
deriving DecidableEq, Repr

namespace Mode

/-- The mode for the two flags (`from_flags`). -/
def select (cluster pooled : Bool) : Mode :=
  match cluster, pooled with
  | false, false => standaloneDirect
  | false, true => standalonePooled
  | true, false => clusterDirect
  | true, true => clusterPooled

def isCluster : Mode → Bool
  | clusterDirect | clusterPooled => true
  | standaloneDirect | standalonePooled => false

def isPooled : Mode → Bool
  | standalonePooled | clusterPooled => true
  | standaloneDirect | clusterDirect => false

def name : Mode → String
  | standaloneDirect => "StandaloneDirect"
  | standalonePooled => "StandalonePooled"
  | clusterDirect => "ClusterDirect"
  | clusterPooled => "ClusterPooled"

end Mode

end RedisClient
