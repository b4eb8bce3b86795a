import Portage.Transform.Sanitize

/-! The object graph: objects of the source with the resource they were listed from. -/
namespace Portage.ClusterObjects

open Go

structure GVR where
  group : String
  version : String
  resource : String
  deriving DecidableEq, Repr

/-- One object and the resource it was listed from. `deleting` says that the source has
a deletion timestamp. -/
structure Item where
  gvr : GVR
  namespaced : Bool := false
  obj : Option Fields
  deleting : Bool := false
  deriving DecidableEq, Repr

/-- A discovered resource. -/
structure Ref where
  gvr : GVR
  namespaced : Bool := false
  deriving DecidableEq, Repr

def nameOf (obj : Fields) : String := (obj.nestedString ["metadata", "name"]).getD ""

def namespaceOf (obj : Fields) : String := (obj.nestedString ["metadata", "namespace"]).getD ""

def kindOf (obj : Fields) : String := (obj.nestedString ["kind"]).getD ""

/-- Shape every object for the destination. -/
def sanitize (opt : Transform.Options) (items : List Item) : List Item :=
  items.map fun item => { item with obj := item.obj.map (Transform.object opt) }

end Portage.ClusterObjects
