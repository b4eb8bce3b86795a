import Portage.Controller.Backup
import Portage.Go.Format
import Portage.Kube.Names

/-! The keys under which dumps and object-graph snapshots are stored tell the
workloads apart, and the artifacts of one workload. -/
namespace Portage.ObjectStore

open Go Kube

/-- What the keys of an S3 store depend on: the folder that all of them are under. -/
structure S3 where
  folder : String
  deriving DecidableEq, Repr

/-- The key in the bucket. -/
def S3.key (s : S3) (k : String) : String :=
  let k := if hasPrefix k "/" then String.ofList (k.toList.drop 1) else k
  if s.folder = "" then k else s.folder ++ "/" ++ k

/-- A namespace, a kind or a name as Kubernetes allows it, as far as keys depend on it. -/
structure PlainName (text : String) : Prop where
  nonempty : text ≠ ""
  slash : '/' ∉ text.toList
  underscore : '_' ∉ text.toList

/-- A dump or an object-graph snapshot of a workload. -/
structure Artifact where
  workload : Workload
  id : String
  ns_plain : PlainName workload.namespace_
  kind_plain : PlainName workload.kind
  name_plain : PlainName workload.name
  id_plain : '/' ∉ id.toList

namespace Artifact

def key (a : Artifact) : String := storeKey a.workload.namespace_ a.workload.key a.id

/-- The identity of the workload in one path element. -/
def flat (a : Artifact) : List Char :=
  a.workload.namespace_.toList ++ '_' :: (a.workload.kind.toList ++ '_' :: a.workload.name.toList)

private theorem slash_not_mem_flat (a : Artifact) : '/' ∉ a.flat := by
  simp [flat, a.ns_plain.slash, a.kind_plain.slash, a.name_plain.slash]

private theorem map_flat (a : Artifact) :
    (a.workload.key.toList.map fun c => if c = '/' then '_' else c) = a.flat := by
  have kept {text : String} (plain : '/' ∉ text.toList) :
      (text.toList.map fun c => if c = '/' then '_' else c) = text.toList := by
    conv_rhs => rw [← List.map_id text.toList]
    refine List.map_congr_left fun c member => if_neg ?_
    rintro rfl
    exact plain member
  simp [Workload.key, flat, kept a.ns_plain.slash, kept a.kind_plain.slash, kept a.name_plain.slash]

private theorem toList_ne_nil {text : String} (plain : PlainName text) : text.toList ≠ [] :=
  fun empty => plain.nonempty (String.toList_eq_nil_iff.mp empty)

private theorem key_head? (a : Artifact) (rest : List Char) :
    (a.workload.namespace_.toList ++ rest).head? ≠ some '/' := by
  rw [List.head?_append_of_ne_nil _ (toList_ne_nil a.ns_plain)]
  exact fun same => a.ns_plain.slash (List.mem_of_mem_head? same)

/-- Only an empty id leaves a slash to trim. -/
private theorem key_toList (a : Artifact) :
    a.key.toList = a.workload.namespace_.toList ++
      '/' :: (a.flat ++ if a.id = "" then [] else '/' :: a.id.toList) := by
  have ends : (a.workload.namespace_.toList ++ '/' :: a.flat).getLast? ≠ some '/' := by
    rw [List.getLast?_append_of_ne_nil _ (by simp), List.getLast?_cons_of_ne_nil (by simp [flat])]
    exact fun same => a.slash_not_mem_flat (List.mem_of_mem_getLast? same)
  rw [key, storeKey, String.toList_ofList, map_flat, List.append_assoc, trim_of_head? (a.key_head? _),
    ← List.append_assoc, trimRight_append ends]
  by_cases empty : a.id = ""
  · simp [empty, trimRight]
  · have letters : a.id.toList ≠ [] := fun none => empty (String.toList_eq_nil_iff.mp none)
    have last : ('/' :: a.id.toList).getLast? ≠ some '/' := by
      rw [List.getLast?_cons_of_ne_nil letters]
      exact fun same => a.id_plain (List.mem_of_mem_getLast? same)
    simp [trimRight_of_getLast last, empty]

/-- Two artifacts of one identity. -/
def SameIdentity (a b : Artifact) : Prop :=
  a.workload.namespace_ = b.workload.namespace_ ∧ a.workload.kind = b.workload.kind ∧
    a.workload.name = b.workload.name ∧ a.id = b.id

private theorem flat_inj {a b : Artifact} (same : a.flat = b.flat) :
    a.workload.kind = b.workload.kind ∧ a.workload.name = b.workload.name := by
  obtain ⟨-, kinds⟩ := mark_inj a.ns_plain.underscore b.ns_plain.underscore same
  obtain ⟨kind, name⟩ := mark_inj a.kind_plain.underscore b.kind_plain.underscore kinds
  exact ⟨String.toList_inj.mp kind, String.toList_inj.mp name⟩

/-- The last element of the path says whether there is an id, and which. -/
private theorem tail_inj {a b : Artifact}
    (same : (a.flat ++ if a.id = "" then [] else '/' :: a.id.toList) =
      b.flat ++ if b.id = "" then [] else '/' :: b.id.toList) : a.flat = b.flat ∧ a.id = b.id := by
  have marked (c : Artifact) (given : c.id ≠ "") :
      '/' ∈ c.flat ++ if c.id = "" then [] else '/' :: c.id.toList := by simp [given]
  have unmarked (c : Artifact) (empty : c.id = "") :
      '/' ∉ c.flat ++ if c.id = "" then [] else '/' :: c.id.toList := by simp [empty, c.slash_not_mem_flat]
  by_cases empty : a.id = ""
  · by_cases empty' : b.id = ""
    · exact ⟨by simpa [empty, empty'] using same, empty.trans empty'.symm⟩
    · exact absurd (same ▸ marked b empty') (unmarked a empty)
  · by_cases empty' : b.id = ""
    · exact absurd (same ▸ marked a empty) (unmarked b empty')
    · rw [if_neg empty, if_neg empty'] at same
      obtain ⟨first, second⟩ := mark_inj a.slash_not_mem_flat b.slash_not_mem_flat same
      exact ⟨first, String.toList_inj.mp second⟩

theorem key_inj {a b : Artifact} : a.key = b.key ↔ a.SameIdentity b := by
  constructor
  · intro same
    have letters := congrArg String.toList same
    rw [key_toList, key_toList] at letters
    obtain ⟨ns, rest⟩ := mark_inj a.ns_plain.slash b.ns_plain.slash letters
    obtain ⟨flat, id⟩ := tail_inj rest
    exact ⟨String.toList_inj.mp ns, (flat_inj flat).1, (flat_inj flat).2, id⟩
  · rintro ⟨ns, kind, name, id⟩
    rw [key, key, Workload.key, Workload.key, ns, kind, name, id]

private theorem hasPrefix_key (a : Artifact) : hasPrefix a.key "/" = false := by
  rw [Bool.eq_false_iff, Ne, hasPrefix_iff]
  rintro ⟨rest, shape⟩
  apply a.key_head?
  rw [← a.key_toList, ← shape]
  rfl

/-- Two artifacts have one key in the store, under any folder, only if they are artifacts
of one workload with one id. -/
theorem storeKey_inj (a b : Artifact) :
    (storeKey a.workload.namespace_ a.workload.key a.id = storeKey b.workload.namespace_ b.workload.key b.id ↔
      a.SameIdentity b) ∧
    ∀ s : S3, s.key (storeKey a.workload.namespace_ a.workload.key a.id) =
      s.key (storeKey b.workload.namespace_ b.workload.key b.id) ↔ a.SameIdentity b := by
  refine ⟨key_inj, fun s => Iff.trans ?_ (key_inj (a := a) (b := b))⟩
  have unslashed (c : Artifact) :
      s.key c.key = if s.folder = "" then c.key else s.folder ++ "/" ++ c.key := by
    simp [S3.key, c.hasPrefix_key]
  change s.key a.key = s.key b.key ↔ _
  rw [unslashed, unslashed]
  split
  · rfl
  · exact String.append_right_inj _

/-- A dump of a StatefulSet of the shop. -/
def ofShop (name id : String) (name_plain : PlainName name) (id_plain : '/' ∉ id.toList) : Artifact where
  workload := { namespace_ := "shop", name, kind := "StatefulSet", cls := .sqlLogical }
  id
  ns_plain := show PlainName "shop" from ⟨by decide, by decide, by decide⟩
  kind_plain := show PlainName "StatefulSet" from ⟨by decide, by decide, by decide⟩
  name_plain
  id_plain

def ordersDump : Artifact := ofShop "orders" "20260105-0200" ⟨by decide, by decide, by decide⟩ (by decide)

def ledgerDump : Artifact := ofShop "ledger" "20260105-0200" ⟨by decide, by decide, by decide⟩ (by decide)

theorem storeKey_inj_dumps : ordersDump.key = "shop/shop_StatefulSet_orders/20260105-0200" ∧
    ordersDump.key ≠ ledgerDump.key ∧ ∀ s : S3, s.key ordersDump.key ≠ s.key ledgerDump.key := by
  have distinct : ¬ ordersDump.SameIdentity ledgerDump := fun same => absurd same.2.2.1 (by decide)
  have keys := storeKey_inj ordersDump ledgerDump
  exact ⟨by decide +kernel, fun same => distinct (keys.1.mp same), fun s same => distinct ((keys.2 s).mp same)⟩

end Artifact

end Portage.ObjectStore
