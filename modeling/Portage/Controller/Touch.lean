import Portage.Controller.Cutover
import Portage.Controller.Replicate
import Portage.Controller.Restore
import Portage.Kube.Quiet

/-! What each part of a pass touches, told from the clusters it starts with. -/
namespace Portage

open Go Kube Process Program

section
variable {o : Oracle} {clusters : Clusters} {c : ClusterId} {w : Workload}
variable {pvcName ns : String}

/-! ### Controllers -/

/-- Whether there is a controller to scale. -/
def Kube.Cluster.scalable (cluster : Cluster) (w : Workload) : Bool :=
  match ControllerKind.of? w.kind with
  | some kind => (kind.table cluster w.objKey).isSome
  | none => false

theorem tells_tryScale (replicas : Int32) :
    Tells clusters ((clusters c).scalable w = true) (tryScale c w replicas) := by
  refine .then_reads ⟨?_, .of_extends fun _ => moves_scale c w (fun _ => trivial) replicas⟩ fun _ _ => moves_pure _
  unfold scale Kube.Cluster.scalable
  cases ControllerKind.of? w.kind with
  | none => exact .pure _ Bool.false_ne_true
  | some kind =>
    dsimp only
    refine .of_getObject (fun _ => .pure _) ?_
    cases kind.table (clusters c) w.objKey with
    | none => exact .pure _ Bool.false_ne_true
    | some controller =>
      refine (Tells.of_send (fun answer => ?_) rfl).toDecides
      cases answer <;> exact .pure _

/-- Whether the pod template of a workload is rewritten. -/
def Kube.Cluster.heals (cluster : Cluster) (w : Workload) : Bool :=
  match ControllerKind.of? w.kind with
  | some kind =>
    match kind.table cluster w.objKey with
    | some controller => !(healPodSpec controller.template).2.isEmpty
    | none => false
  | none => false

theorem tells_healWorkloadOn : Tells clusters ((clusters c).heals w = true) (healWorkloadOn c w) where
  logs := .of_extends fun _ => moves_healWorkloadOn c w fun _ _ => trivial
  toDecides := by
    unfold healWorkloadOn Kube.Cluster.heals
    cases ControllerKind.of? w.kind with
    | none => exact .pure _ Bool.false_ne_true
    | some kind =>
      dsimp only
      refine .of_getObject (fun _ => .pure _) ?_
      cases kind.table (clusters c) w.objKey with
      | none => exact .pure _ Bool.false_ne_true
      | some controller =>
        simp only [found_some]
        split
        · exact .pure _ (by simp [*])
        · exact (Tells.of_send (fun _ => .pure _) (by simp [*])).toDecides

/-! ### Pods and readiness -/

/-- The pods of a workload as they are listed. -/
def Kube.Cluster.podsOf (cluster : Cluster) (w : Workload) : List Pod :=
  ownedPods w (podsIn w.namespace_ cluster)
    (if w.kind = "Deployment" then replicaSetsIn w.namespace_ cluster else [])

/-- Whether a workload counts as Ready where it can be read. -/
def Kube.Cluster.up (cluster : Cluster) (w : Workload) : Bool :=
  match ControllerKind.of? w.kind with
  | some kind => (kind.table cluster w.objKey).any fun controller =>
      controller.wanted != 0 && decide (1 ≤ controller.readyReplicas)
  | none =>
    if w.kind = "DaemonSet" then (cluster.daemonSets w.objKey).any fun ds => decide (1 ≤ ds.numberReady)
    else (cluster.podsOf w).any isPodReady

theorem listPods_returns : Returns clusters (listPods c w) fun answer =>
    (∃ text, answer = .error text) ∨ answer = .ok ((clusters c).podsOf w) := by
  unfold listPods Kube.Cluster.podsOf
  refine .bind (.of_moves fun _ => moves_listObjects _ _ _ _) (listObjects_returns _ _ _ _) ?_
  rintro _ (⟨fault, rfl⟩ | rfl)
  · exact .pure (.inl ⟨_, rfl⟩)
  · dsimp only
    split
    · refine .bind (.of_moves fun _ => moves_listObjects _ _ _ _) (listObjects_returns _ _ _ _) ?_
      rintro _ (⟨fault, rfl⟩ | rfl)
      · exact .pure (.inl ⟨_, rfl⟩)
      · exact .pure (.inr rfl)
    · exact .pure (.inr rfl)

theorem listPods_serene (serene : o.Serene) (s : World) :
    (listPods c w o s).1 = .ok ((s.clusters c).podsOf w) := by
  unfold listPods Kube.Cluster.podsOf
  simp only [bind_run, listObjects_serene serene]
  split
  · simp [listObjects_serene serene]
  · rfl

theorem firstReadyPod_returns : Returns clusters (firstReadyPod c w) fun answer =>
    ∀ found, answer = .ok found → ((clusters c).podsOf w).any isPodReady = true := by
  unfold firstReadyPod
  refine .bind (.of_moves fun _ => moves_listPods c w) listPods_returns ?_
  rintro _ (⟨text, rfl⟩ | rfl)
  · exact .pure (by simp)
  · dsimp only
    cases here : ((clusters c).podsOf w).find? isPodReady with
    | some p =>
      exact .pure fun _ _ => List.any_eq_true.mpr ⟨p, List.mem_of_find?_eq_some here, List.find?_some here⟩
    | none =>
      dsimp only
      split <;> exact .pure (by simp)

theorem firstReadyPod_serene (serene : o.Serene) {s : World}
    (some : ((s.clusters c).podsOf w).any isPodReady = true) :
    ∃ found, (firstReadyPod c w o s).1 = .ok found := by
  obtain ⟨p, member, ready⟩ := List.any_eq_true.mp some
  obtain ⟨first, here⟩ := Option.isSome_iff_exists.mp (List.find?_isSome.mpr ⟨p, member, ready⟩)
  exact ⟨_, by simp [firstReadyPod, listPods_serene serene, here]; rfl⟩

theorem isReady_returns : Returns clusters (isReady c w) fun up => up = true → (clusters c).up w = true := by
  have answered : Returns clusters (ready c w) fun answer => answer = .ok true → (clusters c).up w = true := by
    unfold ready Kube.Cluster.up
    cases ControllerKind.of? w.kind with
    | some kind =>
      refine .of_getObject (fun fault => .pure (by simp)) ?_
      cases here : kind.table (clusters c) w.objKey <;> exact .pure (by simp [here])
    | none =>
      dsimp only
      split
      · refine .of_getObject (fun fault => .pure (by simp)) ?_
        cases (clusters c).daemonSets w.objKey <;> exact .pure (by simp)
      · refine .bind (.of_moves fun _ => moves_listPods c w) listPods_returns ?_
        rintro _ (⟨text, rfl⟩ | rfl)
        · exact .pure (by simp)
        · exact .pure (by simp)
  refine .bind (.of_moves fun _ => moves_ready c w) answered fun answer holds => ?_
  cases answer with
  | error text => exact .pure (by simp)
  | ok up => exact .pure fun this => holds (by rw [this])

theorem isReady_serene (serene : o.Serene) (s : World) :
    (isReady c w o s).1 = (s.clusters c).up w := by
  unfold isReady ready Kube.Cluster.up
  cases ControllerKind.of? w.kind with
  | some kind =>
    simp only [bind_run, getObject_serene serene]
    cases kind.table (s.clusters c) w.objKey <;> rfl
  | none =>
    dsimp only
    split
    · simp only [bind_run, getObject_serene serene]
      cases (s.clusters c).daemonSets w.objKey <;> rfl
    · simp only [bind_run, listPods_serene serene]
      rfl

/-! ### Claims -/

/-- Whether a claim of a workload is created or rewritten on the destination. -/
def Env.bindsClaim (env : Env) (clusters : Clusters) (w : Workload) (pvcName : String) : Bool :=
  if pvcName = "" then false
  else
    match (clusters env.dest.kube).claims ⟨w.namespace_, pvcName⟩ with
    | some claim =>
      claim.phase = .other && !(healPVC claim (rehydrateOpts env.pair).transform).2.isEmpty
    | none =>
      match env.dest.dynamic with
      | none => false
      | some c => ((snapshotsOf w (clusters c)).find? fun snap => snap.readyToUse).any fun snap =>
          snap.key.name ≠ ""

private theorem latestReady_returns {dynamic : Option ClusterId} :
    Returns clusters (latestReady dynamic w) fun answer => ∀ name, answer = .ok (true, name) → ∃ c snap,
      dynamic = some c ∧ (snapshotsOf w (clusters c)).find? (fun snap => snap.readyToUse) = some snap ∧
      snap.key.name = name := by
  cases dynamic with
  | none => exact .pure (by simp)
  | some c =>
    refine .bind (.of_moves fun _ => moves_listObjects _ _ _ _) (listObjects_returns _ _ _ _) ?_
    rintro _ (⟨fault, rfl⟩ | rfl)
    · simp only [fault.error_reason, ↓reduceIte]
      exact .pure (by simp)
    · dsimp only
      cases here : (snapshotsOf w (clusters c)).find? (fun snap => snap.readyToUse) with
      | some snap => exact .pure fun name this => ⟨c, snap, rfl, here, by simpa using this⟩
      | none => exact .pure (by simp)

variable {env : Env}

theorem tells_ensurePVC (w : Workload) (pvcName : String) : Tells clusters (env.bindsClaim clusters w pvcName = true)
      (ensurePVCFromSnapshot env.dest.kube env.dest.dynamic w pvcName (rehydrateOpts env.pair)) where
  logs := .of_extends fun _ => moves_ensurePVCFromSnapshot _ _ w pvcName _ fun _ _ => trivial
  toDecides := by
    unfold ensurePVCFromSnapshot Env.bindsClaim
    by_cases named : pvcName = ""
    · simp only [named, ↓reduceIte]
      exact .pure _ Bool.false_ne_true
    simp only [named, ↓reduceIte]
    refine .of_getObject (fun fault => ?_) ?_
    · simp only [ne_eq, fault.error_reason, not_false_eq_true, ↓reduceIte]
      exact .pure _
    cases (clusters env.dest.kube).claims ⟨w.namespace_, pvcName⟩ with
    | some claim =>
      simp only [found_some]
      cases phase : claim.phase with
      | bound | pending => exact .pure _ (by simp)
      | other =>
        simp only [reduceCtorEq, ↓reduceIte, decide_true, Bool.true_and]
        split
        · exact .pure _ (by simp [*])
        · exact (Tells.of_send (fun answer => by cases answer <;> exact .pure _) (by simp [*])).toDecides
    | none =>
      simp only [found_none, notFound, ne_eq, not_true_eq_false, ↓reduceIte]
      refine .of_read (fun answer => ∃ name, answer = .ok (true, name) ∧ name ≠ "")
        (fun _ => moves_latestReady _ _) ?_ ?_ fun answer => ?_
      · rintro o still s same ⟨name, answered, usable⟩
        obtain ⟨c, snap, dynamic, first, rfl⟩ := latestReady_returns o still s same name answered
        simp [dynamic, first, usable]
      · intro now o serene s same
        cases dynamic : env.dest.dynamic with
        | none => simp [dynamic] at now
        | some c =>
          simp only [dynamic, Option.any_eq_true, decide_eq_true_eq] at now
          obtain ⟨snap, first, usable⟩ := now
          exact ⟨_, by simp [latestReady, listObjects_serene serene, same, first], usable⟩
      · match answer with
        | .error text => exact .pure _ (by simp)
        | .ok (ready, name) =>
          dsimp only
          split
          · rename_i unusable
            exact .pure _ (by rintro ⟨_, same, usable⟩; simp_all)
          · rename_i usable
            simp only [not_or, Bool.not_eq_false] at usable
            refine .of_read (fun _ => True) (fun _ => moves_restoreSize _ _) (fun _ _ _ _ _ => ⟨_, by rw [usable.1], usable.2⟩)
              (fun _ _ _ _ _ => trivial) fun restored => (Tells.of_send (fun answer => ?_) trivial).toDecides
            cases answer with
            | ok _ => exact .pure _
            | error refused => dsimp only; split <;> exact .pure _

theorem tells_ensureClaims (facts : Restore.Facts) :
    Tells clusters (w.pvcNames.any (env.bindsClaim clusters w) = true) (ensureClaims env facts w) := by
  refine (Tells.fold (fun acc pvcName _ => (tells_ensurePVC w pvcName).then_reads fun answer _ => ?_) _).congr (by simp)
  obtain ⟨outcome, healed⟩ := answer
  cases outcome with
  | ok done => exact moves_pure _
  | error text => dsimp only; split <;> exact moves_pure _

/-! ### Dumps -/

/-- Whether the dump of a workload is replayed: a useful one, not past replaying and
not on record, into a Ready workload, by a command of its engine, with the bytes in
the store and a pod to run in. -/
def Env.replayDue (env : Env) (clusters : Clusters) (act : Action) (w : Workload) : Bool :=
  match env.usefulID w with
  | none => false
  | some id =>
    !pastReplay act.status.phase && !dumpApplied act.annotations w.key && (clusters env.dest.kube).up w &&
      !(Dump.restoreCommand w.engine).isEmpty && (env.store id).toOption.isSome &&
      ((clusters env.dest.kube).podsOf w).any isPodReady

theorem tells_recordReplay (seen : RestoreSeen) (rehydrated : Bool) :
    Tells clusters False (recordReplay seen w rehydrated) where
  toDecides := .of_quiet (.of_logged fun _ s => (proceeds_recordReplay seen w rehydrated s).log) not_false
  logs := fun _ s => (proceeds_recordReplay seen w rehydrated s).log

section
variable {client : ClusterId} (exec : env.dest.exec = some client)
include exec

theorem tells_dumpApply {id : String} (named : id ≠ "") : Tells clusters
      ((!(Dump.restoreCommand w.engine).isEmpty) = true ∧ (env.store id).toOption.isSome = true ∧
        ((clusters env.dest.kube).podsOf w).any isPodReady = true)
      (Dump.apply env.dest env.store w id) where
  logs := .of_extends fun _ => moves_dumpApply env w id fun _ _ _ _ _ _ => trivial
  toDecides := by
    unfold Dump.apply
    split
    · exact .pure _ (by simp_all)
    · rename_i due
      cases env.store id with
      | error text => exact .pure _ (by simp [Except.toOption])
      | ok data =>
        refine .of_read (fun answer => ∃ found, answer = .ok found) (fun _ => moves_firstReadyPod _ _) ?_ ?_
          fun answer => ?_
        · rintro o still s same ⟨found, answered⟩
          exact ⟨by simp_all, rfl, firstReadyPod_returns o still s same found answered⟩
        · intro now o serene s same
          exact firstReadyPod_serene serene (by rw [same]; exact now.2.2)
        · cases answer with
          | error text => exact .pure _ (by simp)
          | ok found =>
            refine .of_loud (fun o _ s _ => ?_) ⟨found, rfl⟩
            simp only [bind_run, exec, Dump.replayIn_run]
            cases (o.exec s.calls (Dump.restoreCommand w.engine)).error <;>
              exact ⟨_, List.mem_append_right _ (List.mem_singleton.mpr rfl), rfl⟩

/-- What a step knows of the dumps on record may be more than the Action did at the start. -/
theorem tells_replayIfDue {act : Action} {seen : RestoreSeen}
    (kept : dumpApplied act.annotations w.key = true → dumpApplied seen.annotations w.key = true)
    (fresh : env.replayDue clusters act w = true → dumpApplied seen.annotations w.key = false) (rehydrated : Bool) :
    Tells clusters (env.replayDue clusters act w = true) (replayIfDue env act.status.phase seen w rehydrated) where
  logs := fun _ s => (proceeds_replayIfDue env (fun _ _ => trivial) _ seen w rehydrated s).log
  toDecides := by
    unfold Env.replayDue at fresh ⊢
    unfold replayIfDue
    cases useful : env.usefulID w with
    | none => dsimp only; split <;> exact .pure _ Bool.false_ne_true
    | some id =>
      dsimp only
      split
      · exact .pure _ (by simp [*])
      · rename_i live
        unfold replayDump
        split
        · rename_i listed
          refine .pure _ fun due => ?_
          simp [fresh (by simpa [useful] using due)] at listed
        · rename_i unlisted
          have unrecorded : dumpApplied act.annotations w.key = false := by
            by_contra listed
            exact unlisted (kept (by simpa using listed))
          simp only [live, unrecorded, Bool.not_false, Bool.true_and, Bool.and_eq_true, and_assoc]
          refine .of_read (fun up => up = true ∧ _) (fun _ => moves_isReady _ _)
            (fun o still s same due => ⟨isReady_returns o still s same due.1, due.2⟩)
            (fun now o serene s same => ⟨by rw [isReady_serene serene, same, now.1], now.2⟩) fun up => ?_
          split
          · refine (((tells_dumpApply exec (usefulID_ne_empty useful)).then_quiet fun answer => ?_).congr
              (by simp [*])).toDecides
            match answer with
            | .ok _ => exact tells_recordReplay seen rehydrated
            | .error .panic | .error (.error text) => exact .pure _ not_false
          · exact .pure _ fun due => absurd due.1 ‹_›

end

/-! ### The object graph -/

/-- Whether a captured graph is written to the destination. -/
def Env.writesGraph (env : Env) (captured : Except String (List String)) : Bool :=
  match captured, env.destDynamic with
  | .ok objects, .ok (some _) => !objects.isEmpty
  | _, _ => false

theorem tells_writeGraph (captured : Except String (List String)) :
    Tells clusters (env.writesGraph captured = true) (writeGraph env captured) where
  logs := .of_extends fun _ => moves_writeGraph env captured fun _ _ _ _ => trivial
  toDecides := by
    unfold writeGraph Env.writesGraph
    cases captured with
    | error text => exact .pure _ Bool.false_ne_true
    | ok objects =>
      match env.destDynamic with
      | .error text | .ok none => exact .pure _ Bool.false_ne_true
      | .ok (some c) =>
        cases objects with
        | nil => exact .of_quiet (.of_moves fun _ => moves_syncObjects _ _ fun _ _ => rfl) (by simp)
        | cons first rest =>
          exact .of_loud (fun _ _ _ _ => ⟨.synced c (first :: rest), by simp [syncObjects, record, tick], rfl⟩) rfl

/-! ### Movers -/

/-- A call on a mover is on the log before the mover acts. -/
theorem tells_callMover {operation : MoverOp} {m : Mover} : Tells clusters True (callMover operation m w) where
  toDecides := .of_loud (fun _ _ _ _ => ⟨.moved operation m.name w.key, by simp [callMover, record, tick], rfl⟩) trivial
  logs := .of_extends fun _ => moves_callMover trivial

/-- Whether a ReplicationSource is pruned, with its pair. -/
def Env.prunes (env : Env) (clusters : Clusters) (ns : String) (item : ReplicationSource) : Bool :=
  item.owner ≠ "" && item.key.name ≠ "" &&
    (!(env.kept ns).contains item.owner ||
      (item.sourcePVC ≠ "" && ((clusters env.source.kube).claims ⟨ns, item.sourcePVC⟩).isNone))

/-- The ReplicationSources of a namespace that pruning looks at. -/
def Env.pruned (env : Env) (clusters : Clusters) (ns : String) : List ReplicationSource :=
  match env.source.dynamic with
  | some c => if ns = "" then [] else (clusters c).replicationSources.filter fun rs => rs.key.namespace_ = ns
  | none => []

private theorem sourcePVCMissing_returns {pvc : String} :
    Returns clusters (sourcePVCMissing c ns pvc) fun answer =>
      answer = .ok true → pvc ≠ "" ∧ ((clusters c).claims ⟨ns, pvc⟩).isNone = true := by
  unfold sourcePVCMissing
  split
  · exact .pure (by simp)
  · rename_i named
    refine .of_getObject (fun fault => ?_) ?_
    · simp only [fault.error_reason, ↓reduceIte]
      exact .pure (by simp)
    · cases here : (clusters c).claims ⟨ns, pvc⟩ with
      | some claim => exact .pure (by simp)
      | none =>
        simp only [found_none, notFound, ↓reduceIte]
        exact .pure fun _ => ⟨fun empty => named (.inr empty), rfl⟩

section
variable {item : ReplicationSource} (client : env.source.dynamic = some c) (spaced : item.key.namespace_ ≠ "")
include client spaced

private theorem decides_deletePair :
    Decides clusters (item.key.name ≠ "") (deletePair env.source.dynamic (destDyn env.source env.dest) item.key) := by
  rw [deletePair, client]
  split
  · exact .pure _ (by simp_all)
  · rename_i full
    refine .of_loud (fun _ _ => Loud.bind_left (Loud.bind_left .send fun _ => .pure _) fun _ => ?_)
      fun nameless => full (.inr nameless)
    cases destDyn env.source env.dest with
    | none => exact .pure _
    | some d => exact .bind (.of_extends fun _ => moves_send trivial) fun _ => .pure _

theorem tells_pruneOne (named : ns ≠ "") : Tells clusters (env.prunes clusters ns item = true)
      (pruneOne env.source env.dest ns (env.kept ns) item) where
  logs := .of_extends fun _ => moves_pruneOne _ _ _ _ item fun _ _ => trivial
  toDecides := by
    have pair : Decides clusters (item.key.name ≠ "")
        (.ok <$> deletePair env.source.dynamic (destDyn env.source env.dest) item.key : Prog (Except String Unit)) :=
      ⟨(decides_deletePair client spaced).quiet, (decides_deletePair client spaced).loud⟩
    unfold pruneOne Env.prunes
    split
    · exact .pure _ (by simp [*])
    · rename_i owned
      split
      · rename_i kept
        refine .of_read (fun answer => answer = .ok true ∧ item.key.name ≠ "") (fun _ => moves_sourcePVCMissing _ _ _)
          ?_ ?_ fun answer => ?_
        · rintro o still s same ⟨answered, nameful⟩
          simp [owned, nameful, sourcePVCMissing_returns o still s same answered]
        · intro now o serene s same
          simp only [owned, kept, ne_eq, not_false_eq_true, decide_true, Bool.true_and, Bool.not_true, Bool.false_or,
            Bool.and_eq_true, decide_eq_true_eq] at now
          exact ⟨by simp [sourcePVCMissing_serene serene, same, named, now.2], now.1⟩
        · match answer with
          | .error text | .ok false => exact .pure _ (by simp)
          | .ok true => simpa using pair
      · rename_i unkept
        have dropped : item.owner ∉ env.kept ns := by simpa using unkept
        simpa [owned, dropped] using pair

end

end

end Portage
