import Portage.Api.Types

namespace Portage

/-- One classified unit of compute and optional durable state. -/
structure Workload where
  namespace_ : String
  name : String
  kind : String
  cls : WorkloadClass
  engine : String := ""
  pvcNames : List String := []
  unclassified : Bool := false
  fsGroup : Option Int := none
  runAsUser : Option Int := none
  deriving DecidableEq, Repr

/-- The stable inventory identity: namespace/kind/name. -/
def Workload.key (w : Workload) : String :=
  w.namespace_ ++ "/" ++ w.kind ++ "/" ++ w.name

theorem Workload.key_ne_empty (w : Workload) : w.key ≠ "" := by
  intro empty
  have length := congrArg String.length empty
  simp [Workload.key] at length

def Workload.stateful (w : Workload) : Bool := w.cls != .stateless

/-- The synthetic object-graph workload. -/
def Workload.isObjectGraph (w : Workload) : Bool :=
  w.cls == .clusterObjects || w.kind == "ObjectGraph"

end Portage
