import Portage.Controller.Backup
import Portage.Go.Format
import Portage.Kube.Names

/-! When two requests for a snapshot get the same name. The name is cut at 63 characters
with the minute last, and trailing dashes are dropped. -/
namespace Portage

open Go Kube Process Program

/-- A request to snapshot a claim of a workload. -/
structure SnapshotRequest where
  workload : Workload
  claim : String
  minute : UTCMinute

namespace SnapshotRequest

/-- The server accepts the names. -/
def Legal (request : SnapshotRequest) : Prop :=
  legalName request.workload.name = true ∧ legalName request.claim = true

instance (request : SnapshotRequest) : Decidable request.Legal :=
  inferInstanceAs (Decidable (legalName request.workload.name = true ∧ legalName request.claim = true))

/-- The same claim of the same workload in the same minute. -/
def SameCapture (request other : SnapshotRequest) : Prop :=
  request.workload.name = other.workload.name ∧ request.claim = other.claim ∧ request.minute = other.minute

instance (request other : SnapshotRequest) : Decidable (request.SameCapture other) :=
  inferInstanceAs (Decidable (request.workload.name = other.workload.name ∧ request.claim = other.claim ∧
    request.minute = other.minute))

def key (request : SnapshotRequest) : ObjKey :=
  ⟨request.workload.namespace_, snapshotName request.workload request.claim request.minute.format⟩

/-- What follows `portage-` in the name before it is cut. -/
def text (request : SnapshotRequest) : List Char :=
  request.workload.name.toList ++ '-' :: (request.claim.toList ++ '-' :: request.minute.format.toList)

/-- Workload, claim and minute, joined by dashes, show different characters within the
first 55, where a text that has ended shows dashes. -/
def ToldApart (request other : SnapshotRequest) : Prop :=
  ∃ i < 55, request.text.getD i '-' ≠ other.text.getD i '-'

instance (request other : SnapshotRequest) : Decidable (request.ToldApart other) :=
  inferInstanceAs (Decidable (∃ i < 55, request.text.getD i '-' ≠ other.text.getD i '-'))

/-! ### The name as it is cut -/

private theorem isDigit_isAlnum {c : Char} (digit : c.isDigit = true) : isAlnum c = true := by
  simp only [Char.isDigit, Bool.and_eq_true, decide_eq_true_eq] at digit
  simp only [isAlnum, Bool.or_eq_true, Bool.and_eq_true, decide_eq_true_eq]
  exact .inr digit

private theorem text_legal {request : SnapshotRequest} (legal : request.Legal) :
    ∀ c ∈ request.text, isAlnum c = true ∨ c = '-' ∨ c = '.' := by
  intro c member
  simp only [text, List.mem_append, List.mem_cons] at member
  rcases member with inside | rfl | inside | rfl | inside
  · exact legalName_mem legal.1 inside
  · exact .inr (.inl rfl)
  · exact legalName_mem legal.2 inside
  · exact .inr (.inl rfl)
  · exact (request.minute.format_mem c inside).imp isDigit_isAlnum .inl

private theorem text_getLast? (request : SnapshotRequest) (start : List Char) :
    (start ++ request.text).getLast? ≠ some '-' := by
  have nonempty : request.minute.format.toList ≠ [] := by
    intro empty
    simpa [empty] using request.minute.length_format
  have ends : (start ++ request.text).getLast? = request.minute.format.toList.getLast? := by
    rw [text, List.getLast?_append_of_ne_nil _ (by simp), List.getLast?_append_of_ne_nil _ (by simp),
      List.getLast?_cons_of_ne_nil (by simp), List.getLast?_append_of_ne_nil _ (by simp),
      List.getLast?_cons_of_ne_nil nonempty]
  rw [ends]
  exact request.minute.format_getLast?

/-- The name of a legal request: lower case already, cut and trimmed. -/
theorem toList_snapshotName {request : SnapshotRequest} (legal : request.Legal) :
    (snapshotName request.workload request.claim request.minute.format).toList =
      trimRight '-' ("portage-".toList ++ request.text.take 55) := by
  have lowered : (toLower ("portage-" ++ request.workload.name ++ "-" ++ request.claim ++ "-" ++
      request.minute.format)).toList = "portage-".toList ++ request.text := by
    have plain : ∀ c ∈ "portage-".toList ++ request.text, lowerChar c = c := by
      intro c member
      rcases List.mem_append.mp member with start | inside
      · have letters : ("portage-".toList.all fun c => isAlnum c || c == '-') = true := by decide
        have letter := List.all_eq_true.mp letters c start
        exact lowerChar_legal (by simpa [or_assoc] using Or.inl letter)
      · exact lowerChar_legal (text_legal legal c inside)
    have joined : ("portage-" ++ request.workload.name ++ "-" ++ request.claim ++ "-" ++
        request.minute.format).toList = "portage-".toList ++ request.text := by simp [text]
    rw [toLower, String.toList_ofList, joined, List.map_congr_left plain, List.map_id']
  simp only [snapshotName, lowered, String.toList_ofList]
  split
  · rw [List.take_append]
    rfl
  · rename_i short
    have whole : request.text.take 55 = request.text := List.take_of_length_le (by
      simp only [List.length_append] at short
      have start : "portage-".toList.length = 8 := by decide
      omega)
    rw [whole, trimRight_of_getLast (text_getLast? request _)]

/-- Two legal requests get different names exactly if they are told apart. -/
theorem snapshotName_ne_iff {request other : SnapshotRequest} (legal : request.Legal) (legal' : other.Legal) :
    snapshotName request.workload request.claim request.minute.format ≠
      snapshotName other.workload other.claim other.minute.format ↔ request.ToldApart other := by
  rw [← not_iff_not, not_not, ← String.toList_inj, toList_snapshotName legal, toList_snapshotName legal',
    trimRight_take_eq_iff, ToldApart]
  simp

/-- In a namespace whose snapshots were all requested, a request gets a name of its own
exactly if it is told apart from every other one; and then the server says that the
snapshot is there only if the same was requested before. -/
theorem snapshotName_own_iff {request : SnapshotRequest} (legal : request.Legal) {made : List SnapshotRequest}
    (others : ∀ other ∈ made, other.Legal ∧ other.workload.namespace_ = request.workload.namespace_)
    {o : Oracle} (still : o.Still) {c : ClusterId} {s : World}
    (requested : ∀ snap ∈ (s.clusters c).snapshots, snap.key.namespace_ = request.workload.namespace_ →
      ∃ other ∈ made, snap.key = other.key) :
    ((∀ other ∈ made, ¬ request.SameCapture other → request.key ≠ other.key) ↔
        ∀ other ∈ made, ¬ request.SameCapture other → request.ToldApart other) ∧
      ((∀ other ∈ made, ¬ request.SameCapture other → request.ToldApart other) → ∀ refused,
        (createSnapshot c request.workload request.claim request.minute.format o s).1 = .error refused →
        refused.reason = .alreadyExists → ∃ other ∈ made, request.SameCapture other) := by
  have keys : ∀ other ∈ made, request.key ≠ other.key ↔ request.ToldApart other := by
    intro other member
    rw [← snapshotName_ne_iff legal (others other member).1]
    simp [key, (others other member).2]
  refine ⟨forall₂_congr fun other member => imp_congr_right fun _ => keys other member, ?_⟩
  intro apart refused answer there
  have found := (send_exists still answer there).1
  split at found
  · rename_i present
    obtain ⟨snap, member, same⟩ := List.any_eq_true.mp present
    have named : snap.key = request.key := of_decide_eq_true same
    obtain ⟨other, known, shared⟩ := requested snap member (by rw [named]; rfl)
    refine ⟨other, known, ?_⟩
    by_contra different
    exact (keys other known).mpr (apart other known different) (named.symm.trans shared)
  · cases found

end SnapshotRequest

def nightly (minute : Fin 60) : UTCMinute :=
  { year := 2026, month := 1, day := 5, hour := 2, minute := minute.val, year_lt := by decide, month_le := by decide
    day_le := by decide, hour_lt := by decide, minute_lt := minute.isLt }

def volumeRequest (name claim : String) (minute : Fin 60) : SnapshotRequest :=
  { workload := { namespace_ := "shop", name, kind := "StatefulSet", cls := .genericPVC, pvcNames := [claim] }
    claim, minute := nightly minute }

/-- The namespace after one request was served. -/
def SnapshotRequest.served (request : SnapshotRequest) : World :=
  { clusters := fun _ => { snapshots := [{ key := request.key, workloadName := request.workload.name
                                           workloadKind := request.workload.kind, readyToUse := false
                                           pvc := request.claim, source := request.claim }] }
    action := { spec := { type := .backup, policyRef := "shop" } } }

/-- How the server answers a request. -/
def SnapshotRequest.answer (request : SnapshotRequest) (s : World) : Except ApiError Unit :=
  (createSnapshot 0 request.workload request.claim request.minute.format {} s).1

/-- Two volumes of one StatefulSet get names of their own. -/
theorem snapshotName_own_volumes : (volumeRequest "orders" "data-orders-0" 0).Legal ∧
    (volumeRequest "orders" "data-orders-0" 0).key ≠ (volumeRequest "orders" "data-orders-1" 0).key := by
  have legal : (volumeRequest "orders" "data-orders-0" 0).Legal := by decide
  have others : ∀ other ∈ [volumeRequest "orders" "data-orders-1" 0], other.Legal ∧
      other.workload.namespace_ = (volumeRequest "orders" "data-orders-0" 0).workload.namespace_ := by decide
  have requested : ∀ snap ∈ ((volumeRequest "orders" "data-orders-1" 0).served.clusters 0).snapshots,
      snap.key.namespace_ = (volumeRequest "orders" "data-orders-0" 0).workload.namespace_ →
      ∃ other ∈ [volumeRequest "orders" "data-orders-1" 0], snap.key = other.key := by
    intro snap member _
    refine ⟨_, List.mem_singleton.mpr rfl, ?_⟩
    rw [List.mem_singleton.mp member]
  have own := SnapshotRequest.snapshotName_own_iff legal others (o := {}) (fun _ _ => rfl) requested
  exact ⟨legal, own.1.mpr (by decide +kernel) _ (List.mem_singleton.mpr rfl) (by decide)⟩

private theorem createIn_present {o : Oracle} (still : o.Still) {side : Side} {c : ClusterId} {resource : Resource}
    {key : ObjKey} {present : Cluster → Bool} {add : Cluster → Cluster} {s : World}
    (served : o.fault s.calls (side.request .create c resource key) = none) (there : present (s.clusters c) = true) :
    (createIn side c resource key present add o s).1 = .error (alreadyExists resource key) := by
  simp [createIn, send, tick, record, still s.calls s.clusters, served, there]

/-- A name that is taken is answered as there already. -/
private theorem answer_served {request other : SnapshotRequest} (shared : request.key = other.key) :
    request.answer other.served = .error (alreadyExists .snapshots request.key) := by
  refine createIn_present (fun _ _ => rfl) rfl (List.any_eq_true.mpr ⟨_, List.mem_singleton.mpr rfl, ?_⟩)
  exact decide_eq_true shared.symm

private theorem key_eq_of_not_toldApart {request other : SnapshotRequest} (legal : request.Legal) (legal' : other.Legal)
    (together : request.workload.namespace_ = other.workload.namespace_) (alike : ¬ request.ToldApart other) :
    request.key = other.key := by
  rw [← SnapshotRequest.snapshotName_ne_iff legal legal', ne_eq, not_not] at alike
  rw [SnapshotRequest.key, SnapshotRequest.key, together, alike]

/-- The workload `a` with the claim `b-c` and the workload `a-b` with the claim `c` share a
name, so the second is taken for snapshotted; and where the name is cut the minute is lost. -/
theorem snapshotName_shared :
    (volumeRequest "a" "b-c" 0).Legal ∧ (volumeRequest "a-b" "c" 0).Legal ∧
    ¬ (volumeRequest "a-b" "c" 0).SameCapture (volumeRequest "a" "b-c" 0) ∧
    (volumeRequest "a-b" "c" 0).answer (volumeRequest "a" "b-c" 0).served =
      .error (alreadyExists .snapshots (volumeRequest "a-b" "c" 0).key) ∧
    (volumeRequest "timescale-primary" "data-timescale-primary-0" 0).Legal ∧
    ¬ (volumeRequest "timescale-primary" "data-timescale-primary-0" 1).SameCapture
      (volumeRequest "timescale-primary" "data-timescale-primary-0" 0) ∧
    (volumeRequest "timescale-primary" "data-timescale-primary-0" 1).key =
      (volumeRequest "timescale-primary" "data-timescale-primary-0" 0).key := by
  have dashes : (volumeRequest "a-b" "c" 0).key = (volumeRequest "a" "b-c" 0).key :=
    key_eq_of_not_toldApart (by decide) (by decide) rfl (by decide +kernel)
  have cut : (volumeRequest "timescale-primary" "data-timescale-primary-0" 1).key =
      (volumeRequest "timescale-primary" "data-timescale-primary-0" 0).key :=
    key_eq_of_not_toldApart (by decide) (by decide) rfl (by decide +kernel)
  exact ⟨by decide, by decide, by decide, answer_served dashes, by decide, by decide, cut⟩

end Portage
