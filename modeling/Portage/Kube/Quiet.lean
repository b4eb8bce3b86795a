import Portage.Kube.Rules

/-! Programs that touch nothing from given clusters, however their calls are
answered, programs that do touch something when they are served, and what tells
the ones from the others. -/
namespace Portage.Kube

open Go Process Program

/-- What a program can answer from the given clusters if nobody else moves. -/
def Returns (clusters : Clusters) (x : Prog α) (post : α → Prop) : Prop :=
  ∀ o : Oracle, o.Still → ∀ s : World, s.clusters = clusters → post (x o s).1

/-- From the given clusters, if nobody else moves, the program leaves them as they
are and logs nothing that touches one. -/
def Quiet (clusters : Clusters) (x : Prog α) : Prop :=
  ∀ o : Oracle, o.Still → ∀ s : World, s.clusters = clusters →
    (x o s).2.clusters = clusters ∧ ∀ e ∈ (x o s).2.log, e ∈ s.log ∨ e.touches = false

section
variable {clusters : Clusters} {x : Prog α} {f : α → Prog β} {post : α → Prop}
variable {c : ClusterId} {resource : Resource}

theorem Quiet.pure (value : α) : Quiet clusters (pure value : Prog α) :=
  fun _ _ _ same => ⟨same, fun _ member => .inl member⟩

theorem Quiet.of_logged (logged : ∀ o, Moves o (Logged o fun e => e.touches = false) x) :
    Quiet clusters x := by
  intro o still s same
  obtain ⟨added, log, quiet, drifts⟩ := logged o s
  refine ⟨((drifts quiet).eq still).trans same, fun e member => ?_⟩
  rw [log, List.mem_append] at member
  exact member.imp_right (quiet e)

theorem Quiet.of_moves (moves : ∀ o, Moves o (Extends o fun e => e.touches = false) x) :
    Quiet clusters x := .of_logged fun o s => (moves o s).log

theorem Quiet.bind_of (first : Quiet clusters x) (returns : Returns clusters x post)
    (then_ : ∀ value, post value → Quiet clusters (f value)) : Quiet clusters (x >>= f) := by
  intro o still s same
  obtain ⟨middle, before⟩ := first o still s same
  obtain ⟨last, after⟩ := then_ _ (returns o still s same) o still _ middle
  exact ⟨last, fun e member => (after e member).elim (before e) .inr⟩

theorem Quiet.bind (first : Quiet clusters x) (then_ : ∀ value, Quiet clusters (f value)) :
    Quiet clusters (x >>= f) :=
  have anything : Returns clusters x fun _ => True := fun _ _ _ _ => trivial
  first.bind_of anything fun value _ => then_ value

/-- A read that is not refused answers from the clusters as they are. -/
theorem getObject_returns (c : ClusterId) (resource : Resource) (key : ObjKey)
    (select : Cluster → Option α) : Returns clusters (getObject c resource key select)
      fun answer => (∃ fault : Fault, answer = .error fault.error) ∨
        answer = found resource key (select (clusters c)) := by
  intro o still s same
  cases refused : o.fault s.calls (.get c resource key) with
  | some fault => exact .inl ⟨fault, by simp [getObject, fetch, tick, refused]⟩
  | none => exact .inr (by simp [getObject, fetch, tick, refused, still s.calls clusters, same])

theorem listObjects_returns (c : ClusterId) (resource : Resource) (ns : String)
    (select : Cluster → List α) : Returns clusters (listObjects c resource ns select)
      fun answer => (∃ fault : Fault, answer = .error fault.error) ∨ answer = .ok (select (clusters c)) := by
  intro o still s same
  cases refused : o.fault s.calls (.list c resource ns) with
  | some fault => exact .inl ⟨fault, by simp [listObjects, fetch, tick, refused]⟩
  | none => exact .inr (by simp [listObjects, fetch, tick, refused, still s.calls clusters, same])

theorem Returns.pure {value : α} (holds : post value) : Returns clusters (pure value : Prog α) post :=
  fun _ _ _ _ => holds

theorem Returns.bind {after : β → Prop} (quiet : Quiet clusters x) (first : Returns clusters x post)
    (then_ : ∀ value, post value → Returns clusters (f value) after) : Returns clusters (x >>= f) after :=
  fun o still s same => then_ _ (first o still s same) o still _ (quiet o still s same).1

theorem Returns.of_getObject {key : ObjKey} {select : Cluster → Option α} {f : Except ApiError α → Prog β}
    {post : β → Prop} (refused : ∀ fault : Fault, Returns clusters (f (.error fault.error)) post)
    (served : Returns clusters (f (found resource key (select (clusters c)))) post) :
    Returns clusters (getObject c resource key select >>= f) post := by
  refine .bind (.of_moves fun _ => moves_getObject _ _ _ _) (getObject_returns c resource key select) ?_
  rintro _ (⟨fault, rfl⟩ | rfl)
  · exact refused fault
  · exact served

theorem Fault.error_reason (fault : Fault) : fault.error.reason ≠ .notFound := by
  unfold Fault.error
  cases fault.conflict <;> simp

end

/-! ### Programs that are heard -/

/-- What the program does to the clusters shows in its log. -/
def Logs (x : Prog α) : Prop := ∀ o, Moves o (Logged o fun _ => True) x

theorem Logs.of_extends {x : Prog α} (moves : ∀ o, Moves o (Extends o fun _ => True) x) : Logs x :=
  fun o s => (moves o s).log

theorem Logs.pure (value : α) : Logs (pure value : Prog α) :=
  fun o => Moves.pure (logged_chains o _) value

theorem Logs.bind {x : Prog α} {f : α → Prog β} (first : Logs x) (then_ : ∀ value, Logs (f value)) :
    Logs (x >>= f) := fun o => Moves.bind (logged_chains o _) (first o) fun value => then_ value o

/-- From the given clusters the program logs an event that touches one. -/
def Loud (o : Oracle) (clusters : Clusters) (x : Prog α) : Prop :=
  ∀ s : World, s.clusters = clusters → ∃ e ∈ (x o s).2.log, e.touches = true

section
variable {o : Oracle} {clusters : Clusters} {x : Prog α} {f : α → Prog β} {post : α → Prop}
variable {c : ClusterId}

theorem Loud.of_record {event : Event} (touches : event.touches = true) :
    Loud o clusters (record event) := fun s _ => ⟨event, by simp [record], touches⟩

/-- What was logged stays in the log. -/
theorem Loud.bind_left (loud : Loud o clusters x) (logs : ∀ value, Logs (f value)) :
    Loud o clusters (x >>= f) := by
  intro s same
  obtain ⟨e, member, touches⟩ := loud s same
  exact ⟨e, (logs _ o _).grows.subset member, touches⟩

/-- If the first part touches nothing then the second one starts from the same
clusters. -/
theorem Loud.bind_right (post : α → Prop) (still : o.Still) (first : Logs x)
    (returns : ∀ s : World, s.clusters = clusters → post (x o s).1)
    (then_ : ∀ value, post value → Loud o clusters (f value)) (logs : ∀ value, Logs (f value)) :
    Loud o clusters (x >>= f) := by
  intro s same
  obtain ⟨added, log, _, drifts⟩ := first o s
  by_cases quiet : ∀ e ∈ added, e.touches = false
  · exact then_ _ (returns s same) _ (((drifts quiet).eq still).trans same)
  · simp only [not_forall, Bool.not_eq_false] at quiet
    obtain ⟨e, member, touches⟩ := quiet
    exact ⟨e, (logs _ o _).grows.subset (by simp [log, member]), touches⟩

theorem Logs.foldUntil {step : β → α → Prog (Except ε β)} {xs : List α}
    (each : ∀ acc x, Logs (step acc x)) (acc : β) : Logs (Program.foldUntil step xs acc) :=
  fun o => Moves.foldUntil (logged_chains o _) (fun acc x _ => each acc x o) acc

theorem Loud.send {req : Request} {change : Cluster → Except ApiError Cluster} :
    Loud o clusters (send req c change) := by
  intro s _
  exact ⟨.wrote req, by simp [(send_kept (o := o) req c change s).2], rfl⟩

end

/-! ### What tells whether a program is heard -/

/-- Whether the program touches a cluster is told by `due`: if not, it touches nothing
however its calls are answered, and if so, it is heard when it is served. -/
structure Decides (clusters : Clusters) (due : Prop) (x : Prog α) : Prop where
  quiet : ¬ due → Quiet clusters x
  loud : due → ∀ o : Oracle, o.Serene → Loud o clusters x

section
variable {clusters : Clusters} {c : ClusterId} {resource : Resource} {due other : Prop} {x : Prog α}
variable {f : α → Prog β}

theorem Decides.of_quiet (quiet : Quiet clusters x) (undue : ¬ due) : Decides clusters due x :=
  ⟨fun _ => quiet, fun now => absurd now undue⟩

theorem Decides.of_loud (loud : ∀ o : Oracle, o.Serene → Loud o clusters x) (now : due) : Decides clusters due x :=
  ⟨fun undue => absurd now undue, fun _ => loud⟩

theorem Decides.pure (value : α) (undue : ¬ due) : Decides clusters due (pure value : Prog α) :=
  .of_quiet (.pure value) undue

/-- A program that begins with a part that only reads, where what it reads decides. -/
theorem Decides.of_read (dueOf : α → Prop) (reads : ∀ o, Moves o (Extends o fun e => e.touches = false) x)
    (only : Returns clusters x fun value => dueOf value → due)
    (served : due → ∀ o : Oracle, o.Serene → ∀ s : World, s.clusters = clusters → dueOf (x o s).1)
    (then_ : ∀ value, Decides clusters (dueOf value) (f value)) : Decides clusters due (x >>= f) where
  quiet undue := .bind_of (.of_moves reads) only fun value implies => (then_ value).quiet (undue ∘ implies)
  loud now o serene s same := by
    have before := (Moves.clusters_eq serene.still (reads o) s).trans same
    exact (then_ _).loud (served now o serene s same) o serene _ before

theorem Decides.of_getObject {key : ObjKey} {select : Cluster → Option α} {f : Except ApiError α → Prog β}
    (refused : ∀ fault : Fault, Quiet clusters (f (.error fault.error)))
    (served : Decides clusters due (f (found resource key (select (clusters c))))) :
    Decides clusters due (getObject c resource key select >>= f) where
  quiet undue := by
    refine .bind_of (.of_moves fun _ => moves_getObject _ _ _ _) (getObject_returns c resource key select) ?_
    rintro _ (⟨fault, rfl⟩ | rfl)
    · exact refused fault
    · exact served.quiet undue
  loud now o serene s same := by
    simpa [getObject_serene serene, same] using served.loud now o serene { s with calls := s.calls + 1 } same

theorem Decides.of_listObjects {ns : String} {select : Cluster → List α} {f : Except ApiError (List α) → Prog β}
    (refused : ∀ fault : Fault, Quiet clusters (f (.error fault.error)))
    (served : Decides clusters due (f (.ok (select (clusters c))))) :
    Decides clusters due (listObjects c resource ns select >>= f) where
  quiet undue := by
    refine .bind_of (.of_moves fun _ => moves_listObjects _ _ _ _) (listObjects_returns c resource ns select) ?_
    rintro _ (⟨fault, rfl⟩ | rfl)
    · exact refused fault
    · exact served.quiet undue
  loud now o serene s same := by
    simpa [listObjects_serene serene, same] using served.loud now o serene { s with calls := s.calls + 1 } same

/-- The same of a program whose doings show in its log, so that it can be put before and
behind others. -/
structure Tells (clusters : Clusters) (due : Prop) (x : Prog α) : Prop extends Decides clusters due x where
  logs : Logs x

theorem Tells.congr (tells : Tells clusters due x) (iff : due ↔ other) : Tells clusters other x :=
  propext iff ▸ tells

theorem Tells.of_moves (reads : ∀ o, Moves o (Extends o fun e => e.touches = false) x) (undue : ¬ due) :
    Tells clusters due x where
  toDecides := .of_quiet (.of_moves reads) undue
  logs := .of_extends fun o => Moves.widen (reads o) fun _ _ => trivial

theorem Tells.pure (value : α) (undue : ¬ due) : Tells clusters due (pure value : Prog α) :=
  .of_moves (fun _ => moves_pure value) undue

/-- A program that begins with a write. -/
theorem Tells.of_send {req : Request} {change : Cluster → Except ApiError Cluster}
    {f : Except ApiError Unit → Prog β} (logs : ∀ answer, Logs (f answer)) (now : due) :
    Tells clusters due (send req c change >>= f) where
  toDecides := .of_loud (fun _ _ => Loud.bind_left .send logs) now
  logs := .bind (.of_extends fun _ => moves_send trivial) logs

/-- Two parts, where the second is heard only if the first goes on to it, which it does when it
is served and has nothing to touch. -/
theorem Tells.bind_of (goes : α → Prop) (other : Prop) (first : Tells clusters due x)
    (served : ¬ due → ∀ o : Oracle, o.Serene → ∀ s : World, s.clusters = clusters → goes (x o s).1)
    (then_ : ∀ value, Tells clusters (goes value ∧ other) (f value)) : Tells clusters (due ∨ other) (x >>= f) where
  quiet undue := (first.quiet fun now => undue (.inl now)).bind fun value =>
    (then_ value).quiet fun now => undue (.inr now.2)
  loud now o serene := by
    by_cases heard : due
    · exact (first.loud heard o serene).bind_left fun value => (then_ value).logs
    · exact .bind_right goes serene.still first.logs (served heard o serene)
        (fun value gone => (then_ value).loud ⟨gone, now.resolve_left heard⟩ o serene) fun value => (then_ value).logs
  logs := first.logs.bind fun value => (then_ value).logs

theorem Tells.bind (first : Tells clusters due x) (then_ : ∀ value, Tells clusters other (f value)) :
    Tells clusters (due ∨ other) (x >>= f) :=
  .bind_of (fun _ => True) other first (fun _ _ _ _ _ => trivial) fun value => (then_ value).congr (by simp)

theorem Tells.then_quiet (first : Tells clusters due x) (then_ : ∀ value, Tells clusters False (f value)) :
    Tells clusters due (x >>= f) := (first.bind then_).congr (by simp)

theorem Tells.then_reads (first : Tells clusters due x)
    (reads : ∀ value o, Moves o (Extends o fun e => e.touches = false) (f value)) : Tells clusters due (x >>= f) :=
  first.then_quiet fun value => .of_moves (reads value) not_false

theorem Tells.after_reads (reads : ∀ o, Moves o (Extends o fun e => e.touches = false) x)
    (then_ : ∀ value, Tells clusters due (f value)) : Tells clusters due (x >>= f) :=
  ((Tells.of_moves reads not_false).bind then_).congr (by simp)

theorem Tells.if_ {condition : Prop} [Decidable condition] (tells : Tells clusters due x) (value : α) :
    Tells clusters (condition ∧ due) (if condition then x else Pure.pure value) := by
  split
  · exact tells.congr (by simp [*])
  · exact .pure _ (by simp [*])

theorem Tells.fold {step : β → α → Prog β} {xs : List α} {due : α → Prop}
    (each : ∀ acc, ∀ x ∈ xs, Tells clusters (due x) (step acc x)) (acc : β) :
    Tells clusters (∃ x ∈ xs, due x) (Program.fold step xs acc) := by
  induction xs generalizing acc with
  | nil => exact .pure acc (by simp)
  | cons x rest ih =>
    exact ((each acc x (by simp)).bind fun acc =>
      ih (fun acc y member => each acc y (by simp [member])) acc).congr (by simp)

/-- A loop that no step leaves early when it is served. -/
theorem Tells.foldUntil {step : β → α → Prog (Except ε β)} {xs : List α} {due : α → Prop}
    (each : ∀ acc, ∀ x ∈ xs, Tells clusters (due x) (step acc x))
    (goes : ∀ o : Oracle, o.Serene → ∀ acc, ∀ x ∈ xs, ∀ s : World, ∃ next, (step acc x o s).1 = .ok next) (acc : β) :
    Tells clusters (∃ x ∈ xs, due x) (Program.foldUntil step xs acc) := by
  induction xs generalizing acc with
  | nil => exact .pure _ (by simp)
  | cons x rest ih =>
    refine (Tells.bind_of (fun answer => ∃ next, answer = .ok next) (∃ y ∈ rest, due y) (each acc x (by simp))
      (fun _ o serene s _ => goes o serene acc x (by simp) s) fun answer => ?_).congr (by simp)
    cases answer with
    | error stop => exact .pure _ (by simp)
    | ok next =>
      exact (ih (fun acc y member => each acc y (by simp [member]))
        (fun o serene acc y member => goes o serene acc y (by simp [member])) next).congr (by simp)

end

/-! ### Whole passes -/

/-- However the calls of the pass are answered, if nobody else moves, it issues
nothing that touches a cluster and leaves the clusters as they were. -/
def Untouched (clusters : Clusters) (act : Action) (pass : Prog α) : Prop :=
  ∀ o : Oracle, o.Still →
    (∀ e ∈ (pass o { clusters, action := act }).2.log, e.touches = false) ∧
      (pass o { clusters, action := act }).2.clusters = clusters

section
variable {o : Oracle} {clusters : Clusters} {act : Action} {x : Prog α}

theorem Quiet.untouched (quiet : Quiet clusters x) : Untouched clusters act x := by
  intro o still
  obtain ⟨same, events⟩ := quiet o still { clusters, action := act } rfl
  exact ⟨fun e member => (events e member).resolve_left (by simp), same⟩

theorem Loud.not_untouched (still : o.Still) (loud : Loud o clusters x) : ¬ Untouched clusters act x := by
  intro untouched
  obtain ⟨e, member, touches⟩ := loud { clusters, action := act } rfl
  simp [(untouched o still).1 e member] at touches

theorem Decides.untouched_iff {due : Prop} (decides : Decides clusters due x) : Untouched clusters act x ↔ ¬ due :=
  ⟨fun untouched now => (decides.loud now {} serene_default).not_untouched serene_default.still untouched,
    fun undue => (decides.quiet undue).untouched⟩

theorem Untouched.served (untouched : Untouched clusters act x) :
    (x {} { clusters, action := act }).2.log.all (!·.touches) = true := by
  simpa using (untouched {} serene_default.still).1

end

end Portage.Kube
