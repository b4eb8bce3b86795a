import Portage.Movers.VolSync.Pairs

/-! The steps of a Replicate pass in which no call fails: which of them then succeed, and
what they need to find. -/
namespace Portage.VolSync

open Go Kube Process Program

/-- The namespace of a workload is on a cluster. -/
def HasNamespace (home : ClusterId) (w : Workload) (s : World) : Prop :=
  ((s.clusters home).namespaces w.namespace_).isSome = true

section
variable {o : Oracle} (serene : o.Serene) {s : World}
include serene

/-- A create that may find the object there is served. -/
theorem ignoreExists_createIn (side : Side) (c : ClusterId) (resource : Resource) (key : ObjKey)
    (present : Cluster → Bool) (add : Cluster → Cluster) :
    ((ignoreExists <$> createIn side c resource key present add) o s).1 = .ok () := by
  cases there : present (s.clusters c) with
  | true => simp [(createIn_present serene add there).1, ignoreExists, alreadyExists]
  | false => simp [(createIn_serene serene add there).1, ignoreExists]

theorem upsertSecret_serene (c : ClusterId) (key : ObjKey) (secret : Secret) : (upsertSecret c key secret o s).1 = .ok () := by
  cases stored : (s.clusters c).secrets key with
  | none =>
    have created : (createSecret .source c key secret o s).1 = .ok () :=
      (createIn_serene serene _ (by simp [stored])).1
    simp [upsertSecret, created]
  | some cur =>
    obtain ⟨refused, same⟩ : (createSecret .source c key secret o s).1 = .error (alreadyExists .secrets key) ∧
        (createSecret .source c key secret o s).2.clusters = s.clusters :=
      createIn_present serene _ (by simp [stored])
    have served (n : Nat) : o.fault n (.update c .secrets key) = none := serene.served n _ rfl
    simp [upsertSecret, refused, alreadyExists, overwriteSecret, send, tick_serene serene, served, record, same, stored]

theorem randomHex_serene (s : World) : randomHex o s = (o.random s.calls, { s with calls := s.calls + 1 }) := by
  simp [randomHex, tick_serene serene]

/-- A Secret that is there is updated, and one that is not is created. -/
theorem ensureResticSecret_serene (m : Mover) (c : ClusterId) (w : Workload) :
    (ensureResticSecret m c w o s).1 = .ok () := by
  simp only [ensureResticSecret, bind_run, randomHex_serene serene, getObject_serene serene]
  cases stored : (s.clusters c).secrets ⟨w.namespace_, resticSecretName w.name⟩ with
  | some cur => exact (updateIn_serene serene _ stored).1
  | none => exact ignoreExists_createIn serene _ _ _ _ _ _

theorem ensureTLSSecret_serene (c : ClusterId) (ns : String) : (ensureTLSSecret c ns o s).1 = .ok () := by
  simp only [ensureTLSSecret, bind_run, randomHex_serene serene, getObject_serene serene]
  cases stored : (s.clusters c).secrets ⟨ns, tlsSecretName⟩ with
  | some cur => rfl
  | none => exact ignoreExists_createIn serene _ _ _ _ _ _

omit serene in
theorem andThen_served {x : Prog (Except ε α)} {f : α → Prog (Except ε β)} {a : α} (done : (x o s).1 = .ok a) :
    andThen x f o s = f a o (x o s).2 := by
  simp [andThen, done]

omit serene in
theorem andThen_orElse_served {x : Prog (Except γ α)} {reword : γ → ε} {f : α → Prog (Except ε β)} {a : α}
    (done : (x o s).1 = .ok a) : andThen (orElse x reword) f o s = f a o (x o s).2 := by
  have worded : (orElse x reword o s).1 = .ok a := by simp [orElse, done, Except.mapError]
  rw [andThen_served worded]
  rfl

theorem ensureSecrets_serene (m : Mover) (w : Workload) : (ensureSecrets m w o s).1 = .ok () := by
  cases client : m.kube with
  | none => simp [ensureSecrets, client]
  | some c =>
    simp only [ensureSecrets, client]
    split
    · rfl
    · rw [andThen_served (a := ())]
      · exact ensureTLSSecret_serene serene c _
      · rw [ensureStoreSecrets]
        split
        · rfl
        · rw [andThen_served (upsertSecret_serene serene c _ _)]
          exact ensureResticSecret_serene serene m c w

/-- A namespace that is there can be annotated. -/
theorem privileged_serene {side : Side} {kube : Option ClusterId} {w : Workload} (label : String)
    (inside : ∀ c, kube = some c → HasNamespace c w s) :
    (privileged side kube w label o s).1 = .ok () := by
  have enabled : (enablePrivilegedMovers side kube w.namespace_ o s).1 = .ok () := by
    cases kube with
    | none => rfl
    | some c =>
      obtain ⟨cur, stored⟩ := Option.isSome_iff_exists.mp (inside c rfl)
      simp only [enablePrivilegedMovers]
      split
      · rfl
      · rw [andThen_served (a := cur) (by simp [getObject_serene serene, stored, found])]
        split
        · rfl
        · simp only [getObject_serene serene]
          exact (updateIn_serene serene _ stored).1
  rw [privileged]
  split
  · simp [orElse, enabled, Except.mapError]
  · rfl

omit serene in
/-- A loop whose steps are served under an invariant is served. -/
theorem foldUntil_served {step : Unit → α → Prog (Except ε Unit)} (inv : World → Prop) {xs : List α}
    (each : ∀ x ∈ xs, ∀ t, inv t → (step () x o t).1 = .ok () ∧ inv (step () x o t).2) {s : World} (start : inv s) :
    (Program.foldUntil step xs () o s).1 = .ok () := by
  induction xs generalizing s with
  | nil => rfl
  | cons x rest ih =>
    obtain ⟨done, kept⟩ := each x (by simp) s start
    have next := ih (fun y member => each y (by simp [member])) kept
    simpa [Program.foldUntil, done] using next

theorem placeSecret_serene (c : ClusterId) (key : ObjKey) (secret : Secret) : (placeSecret c key secret o s).1 = .ok () := by
  simp only [placeSecret, bind_run, getObject_serene serene]
  cases stored : (s.clusters c).secrets key with
  | some cur => exact (updateIn_serene serene _ stored).1
  | none => exact ignoreExists_createIn serene _ _ _ _ _ _

theorem copySecrets_serene (src dst : Option ClusterId) (ns workload : String) :
    (copySecrets src dst ns workload o s).1 = .ok () := by
  have copied (a b : ClusterId) (name : String) (t : World) : (copySecret a b ns () name o t).1 = .ok () := by
    simp only [copySecret, bind_run, getObject_serene serene]
    cases stored : (t.clusters a).secrets ⟨ns, name⟩ with
    | none => rfl
    | some secret => simp [found, orElse, placeSecret_serene serene, Except.mapError]
  cases src with
  | none => rfl
  | some a =>
    cases dst with
    | none => rfl
    | some b =>
      rw [copySecrets]
      split
      · rfl
      · exact foldUntil_served (fun _ => True) (fun name _ t _ => ⟨copied a b name t, trivial⟩) trivial

theorem ensureNamespace_serene (c : ClusterId) {ns : String} (named : ns ≠ "") (labels : GoMap String String) :
    (ensureNamespace c ns labels o s).1 = .ok () ∧
      (((ensureNamespace c ns labels o s).2.clusters c).namespaces ns).isSome = true := by
  simp only [ensureNamespace, named, ↓reduceIte, bind_run, getObject_serene serene]
  cases stored : (s.clusters c).namespaces ns with
  | some cur => exact ⟨rfl, by simp [found, stored]⟩
  | none =>
    refine ⟨ignoreExists_createIn serene _ _ _ _ _ _, ?_⟩
    have created : (createNamespace c ns labels o { s with calls := s.calls + 1 }).2.clusters c =
        Cluster.putNamespace ns { labels } (s.clusters c) := (createIn_serene serene _ (by simp [stored])).2
    simp [found, notFound, created, Cluster.putNamespace]

/-- A claim that the source has can be created. -/
theorem ensureDestPVC_serene {m : Mover} {home : ClusterId} (kube : m.kube = some home) (ns name : String)
    (present : name ≠ "" → ((s.clusters home).claims ⟨ns, name⟩).isSome = true) :
    (ensureDestPVC m ns name o s).1 = .ok () := by
  cases client : m.destKubeClient with
  | none => simp [ensureDestPVC, kube, client]
  | some dst =>
    simp only [ensureDestPVC, kube, client]
    split
    · rfl
    · rename_i apart
      obtain ⟨claim, held⟩ := Option.isSome_iff_exists.mp (present (not_or.mp apart).2)
      simp only [bind_run, getObject_serene serene]
      cases stored : (s.clusters dst).claims ⟨ns, name⟩ with
      | some cur => rfl
      | none =>
        have placed (t : World) (same : t.clusters = s.clusters) :
            (placeClaim dst ⟨ns, name⟩ (destClaim m claim) o t).1 = .ok () :=
          (createIn_serene serene _ (by simp [same, stored])).1
        simp [found, notFound, getObject_serene serene, held, orElse, placed, Except.mapError]

end

/-- The data claims of a workload are on a cluster. -/
def HasClaims (home : ClusterId) (w : Workload) (s : World) : Prop :=
  ∀ claim ∈ w.pvcNames, claim ≠ "" → scratchPVCName claim = false →
    ((s.clusters home).claims ⟨w.namespace_, claim⟩).isSome = true

theorem HasClaims.of_apart {home : ClusterId} {w : Workload} {s t : World} (claims : HasClaims home w s)
    (apart : PairsApart home (fun _ => True) s t) : HasClaims home w t := fun claim member some data => by
  rw [apart.claims]
  exact claims claim member some data

section
variable {o : Oracle} (serene : o.Serene) {m : Mover} {w : Workload} {home dst : ClusterId} {s : World}
include serene

theorem sourceCapsuleLabels_serene (named : w.namespace_ ≠ "")
    (inside : HasNamespace home w s) :
    ∃ labels, (sourceCapsuleLabels (some home) w.namespace_ o s).1 = .ok labels := by
  obtain ⟨src, held⟩ := Option.isSome_iff_exists.mp inside
  simp [sourceCapsuleLabels, named, getObject_serene serene, held, found]

/-- A remote destination can be prepared if the source has the namespace and the claims. -/
theorem prepareDest_serene (kube : m.kube = some home) (client : m.destKubeClient = some dst) (named : w.namespace_ ≠ "")
    (inside : HasNamespace home w s) (claims : HasClaims home w s) :
    (prepareDest m w o s).1 = .ok () := by
  have still := serene.still
  simp only [prepareDest, client]
  split
  · rfl
  · rename_i remote
    have other : dst ≠ home := fun same => remote (by rw [kube, same])
    have spares (verb : Verb) (resource : Resource) (key : ObjKey) (plain : resource ∉ pairKinds) :
        SparesPairs home (Side.dest.request verb dst resource key) :=
      sparesPairs_request .dest verb key plain fun same => absurd same other
    have apart_labels : Moves o (PairsApart home fun _ => True) (sourceCapsuleLabels m.kube w.namespace_) :=
      apart_of_confined still (confined_sourceCapsuleLabels _ _)
    have apart_namespace (labels : GoMap String String) :
        Moves o (PairsApart home fun _ => True) (ensureNamespace dst w.namespace_ labels) :=
      apart_of_confined still (confined_ensureNamespace dst _ labels fun verb key => spares verb _ key (by decide))
    have apart_privileged : Moves o (PairsApart home fun _ => True)
        (privileged .dest (some dst) w "volsync dest privileged movers: ") := apart_privileged still _ _ w _
    have apart_secrets : Moves o (PairsApart home fun _ => True) (copySecrets m.kube (some dst) w.namespace_ w.name) :=
      apart_of_confined still (confined_copySecrets _ _ fun c verb key same => by
        obtain rfl := Option.some.inj same
        exact spares verb _ key (by decide))
    have apart_claim (claim : String) : Moves o (PairsApart home fun _ => True) (ensureDestPVC m w.namespace_ claim) :=
      apart_of_confined still (confined_ensureDestPVC m _ claim fun c verb key found => by
        obtain rfl := Option.some.inj (found.symm.trans client)
        exact spares verb _ key (by decide))
    rw [prepareRemote]
    obtain ⟨labels, read⟩ : ∃ labels, (sourceCapsuleLabels m.kube w.namespace_ o s).1 = .ok labels := by
      rw [kube]
      exact sourceCapsuleLabels_serene serene named inside
    rw [andThen_orElse_served read]
    have claims := claims.of_apart (apart_labels s)
    obtain ⟨made, there⟩ := ensureNamespace_serene serene dst named labels
      (s := (sourceCapsuleLabels m.kube w.namespace_ o s).2)
    rw [andThen_orElse_served made]
    have claims := claims.of_apart (apart_namespace labels _)
    rw [andThen_served (privileged_serene serene _ fun c same => by
      obtain rfl := Option.some.inj same
      exact there)]
    have claims := claims.of_apart (apart_privileged _)
    rw [andThen_orElse_served (copySecrets_serene serene _ _ _ _)]
    have claims := claims.of_apart (apart_secrets _)
    have every : ∀ claim ∈ w.pvcNames.filter (fun claim => !scratchPVCName claim), ∀ t, HasClaims home w t →
        (ensureDestPVC m w.namespace_ claim o t).1 = .ok () ∧
          HasClaims home w (ensureDestPVC m w.namespace_ claim o t).2 := by
      intro claim member t claims
      obtain ⟨listed, data⟩ := List.mem_filter.mp member
      refine ⟨ensureDestPVC_serene serene kube _ _ fun some => ?_, claims.of_apart (apart_claim claim t)⟩
      exact claims claim listed some (by simpa using data)
    rw [andThen_served (foldUntil_served (HasClaims home w) every claims)]
    rfl

theorem applyNamespaced_serene [DecidableEq β] {kind : CustomKind β} (side : Side) (c : ClusterId) (obj : β)
    (kept : ∀ cur, kind.key (kind.keepStatus obj cur) = kind.key obj) : (applyNamespaced kind side c obj o s).1 = .ok () := by
  cases stored : kind.find (kind.key obj) (s.clusters c) with
  | none =>
    have created : (createCustom kind side c obj o s).1 = .ok () := (createIn_serene serene _ (by simp [stored])).1
    simp [applyNamespaced, created]
  | some cur =>
    obtain ⟨refused, same⟩ : (createCustom kind side c obj o s).1 = .error (alreadyExists kind.resource (kind.key obj)) ∧
        (createCustom kind side c obj o s).2.clusters = s.clusters := createIn_present serene _ (by simp [stored])
    have updated (t : World) (unchanged : t.clusters = s.clusters) :
        (updateCustom kind side c cur (kind.keepStatus obj cur) o t).1 = .ok () :=
      (updateIn_serene serene _ (by rw [unchanged, kept, stored])).1
    have read : (getObject c kind.resource (kind.key obj) (kind.find (kind.key obj)) o
        (createCustom kind side c obj o s).2).1 = .ok cur := by
      simp [getObject_serene serene, same, stored, found]
    simp only [applyNamespaced, bind_run, refused, alreadyExists, ne_eq, not_true_eq_false, ↓reduceIte]
    rw [andThen_served read]
    exact updated _ (by simp [getObject_serene serene, same])

theorem snapshotTaken_serene {dyn : ClusterId} (named : w.namespace_ ≠ "")
    (taken : m.resticCopy = true → (replicationSources.under (pairKey w) (s.clusters dyn)).head?.any
      (fun rs => rs.lastSyncTime ≠ "") = true) : (snapshotTaken m dyn w o s).1 = .ok true := by
  have titled : pairName w ≠ "" := by simp [pairName]
  rw [snapshotTaken]
  split
  · rename_i restic
    have reported := taken restic
    rw [← CustomKind.find_eq] at reported
    obtain ⟨rs, held, synced⟩ := (Option.any_eq_true _ _).mp reported
    have held : replicationSources.find ⟨w.namespace_, pairName w⟩ (s.clusters dyn) = some rs := held
    simpa [sourceHasSnapshot, named, titled, getObject_serene serene, held, found] using synced
  · rfl

theorem sourceMissing_serene (kube : m.kube = some home) (named : w.namespace_ ≠ "")
    (data : firstDataPVC w.pvcNames ≠ "") (claims : HasClaims home w s) :
    (sourceMissing m w.namespace_ (firstDataPVC w.pvcNames) o s).1 = .ok false := by
  obtain ⟨member, plain⟩ := firstDataPVC_mem data
  obtain ⟨claim, held⟩ := Option.isSome_iff_exists.mp (claims _ member data plain)
  simp [sourceMissing, kube, sourcePVCMissing, named, data, getObject_serene serene, held, found]

omit serene in
/-- A namespace that is there stays. -/
theorem privileged_inside (still : o.Still) (side : Side) (kube : Option ClusterId) (label : String) :
    Moves o (Keeps (HasNamespace home w)) (privileged side kube w label) := by
  have chains := keeps_chains (HasNamespace home w)
  have enabled : Moves o (Keeps (HasNamespace home w)) (enablePrivilegedMovers side kube w.namespace_) := by
    cases kube with
    | none => exact .pure chains _
    | some c =>
      rw [enablePrivilegedMovers]
      split
      · exact .pure chains _
      · refine .andThen chains (fun t inside => ?_) fun cur => ?_
        · rw [HasNamespace, Moves.clusters_eq still (moves_getObject _ _ _ _)]
          exact inside
        · split
          · exact .pure chains _
          · intro t inside
            rw [HasNamespace, updateIn]
            rcases send_clusters _ c _ still t with same | ⟨after, changed, same⟩
            · rw [same]
              exact inside
            · rw [same]
              split at changed
              · cases changed
              · split at changed
                · cases changed
                  by_cases here : home = c
                  · simp [here, Cluster.putNamespace]
                  · simpa [here, HasNamespace] using inside
                · cases changed
  rw [privileged]
  split
  · exact enabled
  · exact .pure chains _

omit serene in
/-- What writes no namespaces keeps it. -/
theorem inside_of_confined (still : o.Still) {x : Prog α}
    (confined : Moves o (Confined o fun req => ∀ c, req.target ≠ some (c, .namespaces)) x) :
    Moves o (Keeps (HasNamespace home w)) x := by
  intro t inside
  have same : ((x o t).2.clusters home).namespaces = (t.clusters home).namespaces :=
    (confined t).rest still home .namespaces fun _ spared => spared home
  rw [HasNamespace, same]
  exact inside

end

end Portage.VolSync
