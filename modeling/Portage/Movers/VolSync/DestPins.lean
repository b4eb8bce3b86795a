import Portage.Movers.VolSync.MoverJobs

/-! Which pods and Jobs are deleted for being tied to a node, against where they could
run: the code compares one name with the Ready nodes it could list, the scheduler looks at
the selector, the bound node and every term of the required affinity. -/
namespace Portage.VolSync

open Go Kube Process Program

/-! ### Where a pod may run -/

/-- Whether a requirement holds of a label or a field; `none` is an absent one. -/
def requirementHolds (req : NodeRequirement) (value : Option String) : Bool :=
  if req.operator = "In" then value.any req.values.contains
  else if req.operator = "NotIn" then !value.any req.values.contains
  else if req.operator = "Exists" then value.isSome
  else if req.operator = "DoesNotExist" then value.isNone
  else if req.operator = "Gt" then
    (value.bind atoi).any fun n => (req.values.head?.bind atoi).any fun bound => bound < n
  else if req.operator = "Lt" then
    (value.bind atoi).any fun n => (req.values.head?.bind atoi).any fun bound => n < bound
  else false

def hostnameOf (node : Node) : Option String := if node.hostname = "" then none else some node.hostname

/-- Whether a term leaves a node, as far as it is about hosts. A term without requirements
leaves none. -/
def termAdmits (node : Node) (term : NodeSelectorTerm) : Bool :=
  !(term.matchExpressions.isEmpty && term.matchFields.isEmpty) &&
  ((term.matchExpressions.filter fun req => req.key = hostnameLabel).all fun req =>
    requirementHolds req (hostnameOf node)) &&
  term.matchFields.all fun req => requirementHolds req (if req.key = "metadata.name" then some node.name else none)

/-- Whether some term of the required affinity leaves a node; without terms all are left. -/
def affinityAdmits (pinning : Pinning) (node : Node) : Bool :=
  pinning.required.isEmpty || pinning.required.any (termAdmits node)

/-- Whether a pod may run on a node, as far as hosts are constrained. -/
def admits (pinning : Pinning) (node : Node) : Bool :=
  (pinning.nodeSelector.find? hostnameLabel).all (fun host => node.hostname = host) &&
  (pinning.nodeName = "" || pinning.nodeName = node.name) && affinityAdmits pinning node

def boundTo (pinning : Pinning) (node : Node) : Bool := pinning.nodeName ≠ "" && pinning.nodeName = node.name

/-- No Ready node satisfies the constraints, and none is the one it is bound to. -/
def Unplaceable (nodes : List Node) (pinning : Pinning) : Prop :=
  ∀ node ∈ nodes, node.ready = true → admits pinning node = false ∧ boundTo pinning node = false

/-! ### What is compared -/

/-- The names of the Ready nodes. -/
def readyHosts (nodes : List Node) : List String :=
  (nodes.filter fun node => node.ready).flatMap fun node =>
    if node.hostname = "" then [node.name] else [node.name, node.hostname]

/-- The first host named in the required affinity, or the empty name. -/
def affinityPin (pinning : Pinning) : String := (pinning.required.findSome? termHost).getD ""

/-- Something that is tied to a host may go. If the nodes could not be listed, no Ready node
takes it. If they could: where the selector names a host that is not Ready, it is not bound
to a Ready node; and where only the affinity names one, the first host that it names is
Ready or no Ready node takes it. -/
def Expendable (listed : Bool) (nodes : List Node) (pinning : Pinning) : Prop :=
  if listed then
    (pinning.nodeSelector.get hostnameLabel ≠ "" → pinning.nodeSelector.get hostnameLabel ∉ readyHosts nodes →
      ∀ node ∈ nodes, node.ready = true → boundTo pinning node = false) ∧
    (pinning.nodeSelector.get hostnameLabel = "" → pinning.nodeName = "" → affinityPin pinning ≠ "" →
      affinityPin pinning ∉ readyHosts nodes → ∀ node ∈ nodes, node.ready = true → admits pinning node = false)
  else hostnamePin pinning ≠ "" → Unplaceable nodes pinning

theorem mem_readyHosts {nodes : List Node} {host : String} : host ∈ readyHosts nodes ↔
    ∃ node ∈ nodes, node.ready = true ∧ (host = node.name ∨ node.hostname ≠ "" ∧ host = node.hostname) := by
  simp only [readyHosts, List.mem_flatMap, List.mem_filter]
  constructor
  · rintro ⟨node, ⟨member, ready⟩, inside⟩
    refine ⟨node, member, ready, ?_⟩
    split at inside <;> simp_all
  · rintro ⟨node, member, ready, same⟩
    refine ⟨node, ⟨member, ready⟩, ?_⟩
    split <;> simp_all

/-- A host in the selector that is no Ready node leaves no Ready node. -/
private theorem admits_of_selected {nodes : List Node} {pinning : Pinning}
    (selected : pinning.nodeSelector.get hostnameLabel ≠ "")
    (elsewhere : pinning.nodeSelector.get hostnameLabel ∉ readyHosts nodes) {node : Node} (member : node ∈ nodes)
    (ready : node.ready = true) : admits pinning node = false := by
  have found : pinning.nodeSelector.find? hostnameLabel = some (pinning.nodeSelector.get hostnameLabel) := by
    unfold GoMap.get at selected ⊢
    cases here : pinning.nodeSelector.find? hostnameLabel with
    | none => simp [here] at selected
    | some host => simp
  have other : node.hostname ≠ pinning.nodeSelector.get hostnameLabel := fun same =>
    elsewhere (mem_readyHosts.mpr ⟨node, member, ready, .inr ⟨same ▸ selected, same.symm⟩⟩)
  simp [admits, found, other]

/-- Bound to a node that is not Ready, it can run on no Ready one. -/
private theorem unplaceable_of_bound {nodes : List Node} {pinning : Pinning} (bound : pinning.nodeName ≠ "")
    (elsewhere : pinning.nodeName ∉ readyHosts nodes) : Unplaceable nodes pinning := by
  intro node member ready
  have other : pinning.nodeName ≠ node.name := fun same =>
    elsewhere (mem_readyHosts.mpr ⟨node, member, ready, .inl same⟩)
  simp [admits, boundTo, bound, other]

/-- A pod goes rightly, whichever way the nodes were listed, exactly if it may go. -/
theorem pinned_unplaceable_iff (listed : Bool) (nodes : List Node) (pinning : Pinning) :
    (pinnedElsewhere (if listed then readyHosts nodes else []) pinning = true → Unplaceable nodes pinning) ↔
      Expendable listed nodes pinning := by
  cases listed with
  | false => simp [Expendable, pinnedElsewhere]
  | true =>
    have elsewhere_iff : pinnedElsewhere (readyHosts nodes) pinning = true ↔
        hostnamePin pinning ≠ "" ∧ hostnamePin pinning ∉ readyHosts nodes := by simp [pinnedElsewhere]
    simp only [Expendable, ↓reduceIte, elsewhere_iff]
    by_cases selected : pinning.nodeSelector.get hostnameLabel = ""
    · by_cases bound : pinning.nodeName = ""
      · -- Only the affinity is left, and nothing is bound.
        have pin : hostnamePin pinning = affinityPin pinning := by simp [hostnamePin, selected, bound, affinityPin]
        simp [Unplaceable, pin, selected, bound, boundTo]
      · have pin : hostnamePin pinning = pinning.nodeName := by simp [hostnamePin, selected, bound]
        have goes : pinning.nodeName ∉ readyHosts nodes → Unplaceable nodes pinning := unplaceable_of_bound bound
        simpa [pin, selected, bound] using goes
    · have pin : hostnamePin pinning = pinning.nodeSelector.get hostnameLabel := by simp [hostnamePin, selected]
      simp only [pin, ne_eq, selected, not_false_eq_true, true_and, forall_const, false_implies, and_true]
      refine imp_congr_right fun elsewhere => forall₃_congr fun node member ready => ?_
      simp [admits_of_selected selected elsewhere member ready]

/-! ### What a pass deletes -/

def podList : ObjectList Pod where
  resource := .pods
  key := Pod.key
  items := Cluster.pods
  put pods cluster := { cluster with pods }
  items_put _ _ := rfl

def pinnedPod (hosts : List String) (pod : Pod) : Bool :=
  !isVolSyncMoverJob pod.key.name && pinnedElsewhere hosts pod.pinning

def pinnedJob (hosts : List String) (job : Job) : Bool :=
  isVolSyncMoverJob job.key.name && pinnedElsewhere hosts job.pinning

private theorem deletePinnedDestPods_eq (c : ClusterId) (ns : String) (hosts : List String) :
    deletePinnedDestPods c ns hosts = podList.sweep .dest c ns (pinnedPod hosts) := by
  refine congrArg (listObjects c .pods ns (podsIn ns) >>= ·) (funext fun answer => ?_)
  cases answer <;> rfl

private theorem deletePinnedMoverJobs_eq (c : ClusterId) (ns : String) (hosts : List String) :
    deletePinnedMoverJobs c ns hosts = jobList.sweep .dest c ns (pinnedJob hosts) := by
  refine congrArg (listJobs c ns >>= ·) (funext fun answer => ?_)
  cases answer <;> rfl

section
variable {o : Oracle} {m : Mover} {c : ClusterId} {ns : String}

/-- The hosts that a pass compares with. -/
def seenHosts (o : Oracle) (c : ClusterId) (s : World) : List String :=
  if (o.fault s.calls (.list c .nodes "")).isNone then readyHosts (s.clusters c).nodes else []

private theorem destHostnames_run (still : o.Still) (s : World) :
    destHostnames c o s = (seenHosts o c s, { s with calls := s.calls + 1 }) := by
  simp only [destHostnames, bind_run, listObjects, fetch_still still, seenHosts]
  cases o.fault s.calls (.list c .nodes "") <;> rfl

/-- A pass sweeps the pods and then the Jobs, as they were at its start. -/
theorem stripDestScheduling_run (still : o.Still) (client : m.destKubeClient = some c)
    (remote : m.remoteDest = true) (inside : ns ≠ "") (s : World) : ∃ t u : World,
      (t.clusters c).pods = (s.clusters c).pods ∧ (u.clusters c).jobs = (s.clusters c).jobs ∧
      ((stripDestScheduling m ns o s).2.clusters c).pods =
        ((podList.sweep .dest c ns (pinnedPod (seenHosts o c s)) o t).2.clusters c).pods ∧
      ((stripDestScheduling m ns o s).2.clusters c).jobs =
        ((jobList.sweep .dest c ns (pinnedJob (seenHosts o c s)) o u).2.clusters c).jobs := by
  have writes (written other : Resource) (different : other ≠ written) {x : Prog Unit}
      (moves : Moves o (Confined o fun req => ∃ verb key, req = Side.dest.request verb c written key) x) (t : World) :
      Agree (t.clusters c) ((x o t).2.clusters c) other := by
    refine (moves t).rest still c other ?_
    rintro _ ⟨verb, key, rfl⟩ same
    simp only [Side.target_request, Option.some.injEq, Prod.mk.injEq, true_and] at same
    exact different same.symm
  have controllers (kind : ControllerKind) (other : Resource) (different : other ≠ kind.resource) (t : World) :
      Agree (t.clusters c) ((stripControllers c ns kind o t).2.clusters c) other :=
    writes _ _ different (confined_stripControllers ns kind fun verb key => ⟨verb, key, rfl⟩) t
  have strips (other : Resource) (sets : other ≠ .statefulSets) (deployments : other ≠ .deployments)
      (daemons : other ≠ .daemonSets) (t : World) : Agree (t.clusters c) ((stripDaemonSets c ns o
        (stripControllers c ns .deployment o (stripControllers c ns .statefulSet o t).2).2).2.clusters c) other :=
    ((controllers .statefulSet other sets _).trans (controllers .deployment other deployments _)).trans
      (writes _ _ daemons (confined_stripDaemonSets ns fun verb key => ⟨verb, key, rfl⟩) _)
  simp only [stripDestScheduling, client, remote, inside, Bool.not_true, Bool.false_eq_true, or_self, ↓reduceIte, bind_run,
    destHostnames_run still]
  refine ⟨_, _, strips .pods (by decide) (by decide) (by decide) { s with calls := s.calls + 1 }, ?_, ?_,
    by rw [deletePinnedMoverJobs_eq]⟩
  · exact (strips .jobs (by decide) (by decide) (by decide) { s with calls := s.calls + 1 }).trans
      (writes .pods .jobs (by decide) (confined_deletePinnedDestPods ns _ fun verb key => ⟨verb, key, rfl⟩) _)
  · rw [← deletePinnedDestPods_eq]
    exact writes .jobs .pods (by decide) (confined_deletePinnedMoverJobs ns _ fun verb key => ⟨verb, key, rfl⟩) _

end

/-- Every call is served, other than the list of the nodes if it is not to be. -/
def servedBut (c : ClusterId) (listed : Bool) : Oracle where
  fault _ req := if listed = false ∧ req = .list c .nodes "" then some {} else none

private theorem servedBut_served {c : ClusterId} {listed : Bool} {req : Request} (other : req ≠ .list c .nodes "") (n : Nat) :
    (servedBut c listed).fault n req = none := by
  simp [servedBut, other]

/-- Whatever fails, a pass deletes only what no Ready node could run, exactly if everything
that it looks at may go. -/
theorem stripDestScheduling_iff {m : Mover} {c : ClusterId} (client : m.destKubeClient = some c) (ns : String)
    {s : World} (pods : ((s.clusters c).pods.map Pod.key).Nodup) (jobs : ((s.clusters c).jobs.map Job.key).Nodup)
    (listed : Bool) :
    (∀ o : Oracle, o.Still → (o.fault s.calls (.list c .nodes "")).isNone = listed →
      (∀ pod ∈ (s.clusters c).pods, pod ∉ ((stripDestScheduling m ns o s).2.clusters c).pods →
        Unplaceable (s.clusters c).nodes pod.pinning) ∧
      ∀ job ∈ (s.clusters c).jobs, job ∉ ((stripDestScheduling m ns o s).2.clusters c).jobs →
        Unplaceable (s.clusters c).nodes job.pinning) ↔
      (m.remoteDest = true → ns ≠ "" →
        (∀ pod ∈ (s.clusters c).pods, pod.key.namespace_ = ns → isVolSyncMoverJob pod.key.name = false →
          Expendable listed (s.clusters c).nodes pod.pinning) ∧
        ∀ job ∈ (s.clusters c).jobs, job.key.namespace_ = ns → isVolSyncMoverJob job.key.name = true →
          Expendable listed (s.clusters c).nodes job.pinning) := by
  constructor
  · intro right remote inside
    have still : (servedBut c listed).Still := fun _ _ => rfl
    have seen (n : Nat) : ((servedBut c listed).fault n (.list c .nodes "")).isNone = listed := by
      cases listed <;> simp [servedBut]
    have hosts : seenHosts (servedBut c listed) c s = if listed then readyHosts (s.clusters c).nodes else [] := by
      simp only [seenHosts, seen]
    obtain ⟨podsRight, jobsRight⟩ := right _ still (seen s.calls)
    obtain ⟨t, u, samePods, sameJobs, podsAfter, jobsAfter⟩ := stripDestScheduling_run still client remote inside s
    rw [hosts] at podsAfter jobsAfter
    constructor
    · intro pod member here user
      refine (pinned_unplaceable_iff _ _ _).mp fun pinned => podsRight pod member ?_
      rw [podsAfter]
      exact podList.sweep_served still (servedBut_served (by simp [podList]))
        (fun n _ => servedBut_served (by simp [Side.request]) n) (by rw [← samePods] at member; exact member) here (by simp [pinnedPod, user, pinned])
    · intro job member here mover
      refine (pinned_unplaceable_iff _ _ _).mp fun pinned => jobsRight job member ?_
      rw [jobsAfter]
      exact jobList.sweep_served still (servedBut_served (by simp [jobList]))
        (fun n _ => servedBut_served (by simp [Side.request]) n) (by rw [← sameJobs] at member; exact member) here (by simp [pinnedJob, mover, pinned])
  · intro right o still seen
    by_cases active : m.remoteDest = true ∧ ns ≠ ""
    · obtain ⟨remote, inside⟩ := active
      obtain ⟨podsRight, jobsRight⟩ := right remote inside
      have hosts : seenHosts o c s = if listed then readyHosts (s.clusters c).nodes else [] := by
        simp only [seenHosts, seen]
      obtain ⟨t, u, samePods, sameJobs, podsAfter, jobsAfter⟩ := stripDestScheduling_run still client remote inside s
      rw [hosts] at podsAfter jobsAfter
      constructor
      · intro pod member gone
        rw [podsAfter] at gone
        rw [← samePods] at member pods
        obtain ⟨here, pinned⟩ := podList.sweep_gone still pods member gone
        simp only [pinnedPod, Bool.and_eq_true, Bool.not_eq_true'] at pinned
        rw [samePods] at member
        exact (pinned_unplaceable_iff _ _ _).mpr (podsRight pod member here pinned.1) pinned.2
      · intro job member gone
        rw [jobsAfter] at gone
        rw [← sameJobs] at member jobs
        obtain ⟨here, pinned⟩ := jobList.sweep_gone still jobs member gone
        simp only [pinnedJob, Bool.and_eq_true] at pinned
        rw [sameJobs] at member
        exact (pinned_unplaceable_iff _ _ _).mpr (jobsRight job member here pinned.1) pinned.2
    · -- Within one cluster, or without a namespace, nothing is done.
      have idle : (stripDestScheduling m ns o s).2 = s := by
        have off : (!m.remoteDest) = true ∨ ns = "" := by
          rw [not_and_or] at active
          simpa using active
        simp only [stripDestScheduling, client, off, ↓reduceIte, pure_run]
      rw [idle]
      exact ⟨fun _ member absent => absurd member absent, fun _ member absent => absurd member absent⟩

/-- A destination with one Ready node and one pod. -/
def pinnedWorld (pinning : Pinning) : World :=
  { clusters := fun _ => { nodes := [{ name := "n1", hostname := "n1" }], pods := [{ key := ⟨"shop", "web-0"⟩, pinning }] }
    action := { spec := { type := .replicate, policyRef := "shop" } } }

def remoteMover : Mover := { kube := some 0, destKube := some 1 }

def podsLeft (o : Oracle) (pinning : Pinning) : List String :=
  ((stripDestScheduling remoteMover "shop" o (pinnedWorld pinning)).2.clusters 1).pods.map fun pod => pod.key.name

/-- The selector of a node of the source. -/
def sourcePinning : Pinning := { nodeSelector := .table [(hostnameLabel, "src-1")] }

/-- A pod that was copied with a selector for a node of the source goes, and no Ready node
could run it. -/
theorem stripDestScheduling_source : podsLeft {} sourcePinning = [] ∧
    Unplaceable ((pinnedWorld sourcePinning).clusters 1).nodes sourcePinning := by
  have pods : (((pinnedWorld sourcePinning).clusters 1).pods.map Pod.key).Nodup := by decide
  have jobs : (((pinnedWorld sourcePinning).clusters 1).jobs.map Job.key).Nodup := by decide
  have may : ∀ pod ∈ ((pinnedWorld sourcePinning).clusters 1).pods,
      Expendable true ((pinnedWorld sourcePinning).clusters 1).nodes pod.pinning := by
    intro pod member
    obtain rfl := List.mem_singleton.mp member
    exact ⟨fun _ _ => by decide, fun none_ => absurd none_ (by decide)⟩
  have right := (stripDestScheduling_iff (m := remoteMover) rfl "shop" pods jobs true).mpr
    (fun _ _ => ⟨fun pod member _ _ => may pod member, fun _ member => absurd member (by simp [pinnedWorld])⟩)
    {} (fun _ _ => rfl) rfl
  exact ⟨by decide +kernel, right.1 _ (List.mem_singleton.mpr rfl) (by decide +kernel)⟩

/-- A pod that runs on the Ready node goes when the nodes cannot be listed; and with the
nodes listed, so do pods whose affinity excludes another host, allows the node beside another
host, or allows it in a second term. -/
theorem stripDestScheduling_ready :
    podsLeft (servedBut 1 false) { nodeName := "n1" } = [] ∧
    boundTo { nodeName := "n1" } { name := "n1", hostname := "n1" } = true ∧
    podsLeft {} { required := [{ matchExpressions := [⟨hostnameLabel, "NotIn", ["src-1"]⟩] }] } = [] ∧
    admits { required := [{ matchExpressions := [⟨hostnameLabel, "NotIn", ["src-1"]⟩] }] }
      { name := "n1", hostname := "n1" } = true ∧
    podsLeft {} { required := [{ matchExpressions := [⟨hostnameLabel, "In", ["src-1", "n1"]⟩] }] } = [] ∧
    admits { required := [{ matchExpressions := [⟨hostnameLabel, "In", ["src-1", "n1"]⟩] }] }
      { name := "n1", hostname := "n1" } = true ∧
    podsLeft {} { required := [{ matchExpressions := [⟨hostnameLabel, "In", ["src-1"]⟩] },
      { matchExpressions := [⟨hostnameLabel, "In", ["n1"]⟩] }] } = [] ∧
    admits { required := [{ matchExpressions := [⟨hostnameLabel, "In", ["src-1"]⟩] },
      { matchExpressions := [⟨hostnameLabel, "In", ["n1"]⟩] }] } { name := "n1", hostname := "n1" } = true := by
  decide +kernel

end Portage.VolSync
