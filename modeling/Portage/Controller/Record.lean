import Portage.Kube.Rules

/-! The stored Action as a pass reads and writes it: its status, and the list of
workloads whose dump has been replayed. -/
namespace Portage

open Go Kube Process Program

/-- Read the Action; it exists as long as it is reconciled. A read that is served sees what
was stored last, as from the API server: a cache that lags behind is not modelled. -/
def readStored (req : Request) : Prog (Except ApiError Action) := fetch req fun s => .ok s.action

/-- Write to the Action. A write that is reported as failed may have been carried
out all the same. -/
def writeStored (req : Request) (change : Action → Action) : Prog (Except ApiError Unit) := do
  let n ← tick
  let o ← Program.answers
  match o.fault n req with
  | none => do
    Program.modify fun s => { s with action := change s.action }
    pure (.ok ())
  | some fault => do
    Program.modify fun s => if o.lost n then { s with action := change s.action } else s
    pure (.error fault.error)

/-- `retry.RetryOnConflict`, with this many attempts after the first. -/
def retryOnConflict (body : Prog (Except ApiError α)) : Nat → Prog (Except ApiError α)
  | 0 => body
  | again + 1 => do
    match ← body with
    | .ok value => pure (.ok value)
    | .error refused =>
      if refused.reason = .conflict then retryOnConflict body again else pure (.error refused)

def defaultRetry : Nat := 4

/-! ### Dumps that have been replayed -/

def dumpAppliedAnnotation : String := "portage.io/dump-applied"

/-- The lines of the annotation. -/
def appliedKeys (annotations : GoMap String String) : List String :=
  (split '\n' (annotations.get dumpAppliedAnnotation).toList).map String.ofList

def dumpApplied (annotations : GoMap String String) (key : String) : Bool :=
  if key = "" ∨ annotations = .nil then false else (appliedKeys annotations).contains key

/-- The annotation with one more key. -/
def addApplied (annotations : GoMap String String) (key : String) : GoMap String String :=
  let current := annotations.get dumpAppliedAnnotation
  annotations.insert dumpAppliedAnnotation (if current = "" then key else current ++ "\n" ++ key)

/-- One attempt to record a replay on the stored Action; the answer is the list
that the pass goes on with. -/
def recordOnce (key : String) : Prog (Except ApiError String) := do
  match ← readStored .readForRecord with
  | .error refused => pure (.error refused)
  | .ok latest =>
    if dumpApplied latest.annotations key then
      pure (.ok (latest.annotations.get dumpAppliedAnnotation))
    else do
      match ← writeStored .recordDump fun stored =>
          { stored with annotations := addApplied latest.annotations key } with
      | .error refused => pure (.error refused)
      | .ok _ => pure (.ok ((addApplied latest.annotations key).get dumpAppliedAnnotation))

/-- Record a replay; the pass's own copy of the annotations takes the stored list over. -/
def rememberDumpApplied (annotations : GoMap String String) (key : String) :
    Prog (Except ApiError (GoMap String String)) := do
  match ← retryOnConflict (recordOnce key) defaultRetry with
  | .error refused => pure (.error refused)
  | .ok list => pure (.ok (annotations.insert dumpAppliedAnnotation list))

def writeStatusOnce (desired : ActionStatus) : Prog (Except ApiError Unit) := do
  match ← readStored .readForStatus with
  | .error refused => pure (.error refused)
  | .ok _ => writeStored .writeStatus fun stored => { stored with status := desired }

/-- Store a status, keeping what else is on the Action. -/
def writeStatus (desired : ActionStatus) : Prog (Except ApiError Unit) :=
  retryOnConflict (writeStatusOnce desired) defaultRetry

/-! ### What recording does -/

variable {key : String} {o : Oracle}

/-- Only the text of the list counts. -/
theorem dumpApplied_iff {annotations : GoMap String String} :
    dumpApplied annotations key = true ↔
      key ≠ "" ∧ key.toList ∈ split '\n' (annotations.get dumpAppliedAnnotation).toList := by
  have listed : (appliedKeys annotations).contains key = true ↔
      key.toList ∈ split '\n' (annotations.get dumpAppliedAnnotation).toList := by
    simp only [appliedKeys, List.contains_iff_mem, List.mem_map]
    constructor
    · rintro ⟨line, member, rfl⟩
      simpa using member
    · exact fun member => ⟨_, member, String.ofList_toList⟩
  unfold dumpApplied
  split
  · rename_i absent
    constructor
    · simp
    · rintro ⟨nonempty, member⟩
      rcases absent with empty | rfl
      · exact absurd empty nonempty
      · have blank : key.toList = [] := by simpa [GoMap.get, split] using member
        exact absurd (String.toList_eq_nil_iff.mp blank) nonempty
  · rename_i present
    rw [listed]
    exact ⟨fun member => ⟨fun empty => present (.inl empty), member⟩, fun both => both.2⟩

theorem dumpApplied_insert (annotations : GoMap String String) {stored : GoMap String String} (key : String) :
    dumpApplied (annotations.insert dumpAppliedAnnotation (stored.get dumpAppliedAnnotation)) key =
      dumpApplied stored key := by
  rw [Bool.eq_iff_iff, dumpApplied_iff, dumpApplied_iff, GoMap.get_insert_self]

/-- Adding a key to the list adds that key and no other. -/
theorem dumpApplied_addApplied (plain : '\n' ∉ key.toList) (nonempty : key ≠ "") (annotations : GoMap String String)
    (other : String) :
    dumpApplied (addApplied annotations key) other = true ↔
      dumpApplied annotations other = true ∨ other = key := by
  have single : split '\n' key.toList = [key.toList] := split_of_not_mem plain
  simp only [dumpApplied_iff, addApplied, GoMap.get_insert_self]
  split
  · rename_i empty
    rw [empty, single]
    simp only [List.mem_singleton, String.toList_inj, String.toList_empty, split]
    constructor
    · rintro ⟨_, same⟩
      exact .inr same
    · rintro (⟨some, blank⟩ | rfl)
      · exact absurd (String.toList_eq_nil_iff.mp blank) some
      · exact ⟨nonempty, rfl⟩
  · have lines : split '\n' (annotations.get dumpAppliedAnnotation ++ "\n" ++ key).toList =
        split '\n' (annotations.get dumpAppliedAnnotation).toList ++ [key.toList] := by
      rw [← single, ← split_append]
      simp
    rw [lines, List.mem_append, List.mem_singleton, String.toList_inj]
    constructor
    · rintro ⟨some, member | same⟩
      · exact .inl ⟨some, member⟩
      · exact .inr same
    · rintro (⟨some, member⟩ | rfl)
      · exact ⟨some, .inl member⟩
      · exact ⟨nonempty, .inr rfl⟩

/-- No key is taken off the list, and no other than `key` is put on it. -/
structure Recorded (key : String) (before after : GoMap String String) : Prop where
  keeps : ∀ other, dumpApplied before other = true → dumpApplied after other = true
  adds : ∀ other, dumpApplied after other = true → dumpApplied before other = true ∨ other = key

theorem Recorded.refl (key : String) (annotations : GoMap String String) :
    Recorded key annotations annotations := ⟨fun _ listed => listed, fun _ listed => .inl listed⟩

theorem Recorded.trans {first second third : GoMap String String} (before : Recorded key first second)
    (after : Recorded key second third) : Recorded key first third :=
  ⟨fun other listed => after.keeps other (before.keeps other listed),
    fun other listed => (after.adds other listed).elim (before.adds other) .inr⟩

theorem Recorded.add (plain : '\n' ∉ key.toList) (nonempty : key ≠ "") (annotations : GoMap String String) :
    Recorded key annotations (addApplied annotations key) :=
  ⟨fun other listed => (dumpApplied_addApplied plain nonempty annotations other).mpr (.inl listed),
    fun other listed => (dumpApplied_addApplied plain nonempty annotations other).mp listed⟩

/-- The calls that record a replay are carried out: the reads are served, and a
write that is reported as failed was not lost. -/
def Kube.Oracle.Records (o : Oracle) : Prop :=
  ∀ n, o.fault n .readForRecord = none ∧ (o.fault n .recordDump = none ∨ o.lost n = true)

/-- What an attempt to record `key` does, from `s` to the answer and the world after. -/
structure RecordSpec (key : String) (o : Oracle) (s : World) (answer : Except ApiError String × World) :
    Prop where
  log : answer.2.log = s.log
  grown : Recorded key s.action.annotations answer.2.action.annotations
  listed : ∀ list, answer.1 = .ok list → dumpApplied answer.2.action.annotations key = true ∧
    list = answer.2.action.annotations.get dumpAppliedAnnotation
  sure : o.Records → dumpApplied answer.2.action.annotations key = true

/-- Nothing was logged, and the list of replayed dumps is the same. -/
def SameRecord (s t : World) : Prop := t.log = s.log ∧ t.action.annotations = s.action.annotations

theorem sameRecord_chains : Chains SameRecord :=
  ⟨fun _ => ⟨rfl, rfl⟩, fun first second => ⟨second.1.trans first.1, second.2.trans first.2⟩⟩

section
variable {o : Oracle} {s : World} {req : Request} {change : Action → Action} {fault : Fault}

theorem readStored_served (served : o.fault s.calls req = none) :
    readStored req o s = (.ok s.action, (tick o s).2) := by
  simp [readStored, fetch, tick, served]

theorem readStored_failed (failed : o.fault s.calls req = some fault) :
    readStored req o s = (.error fault.error, (tick o s).2) := by
  simp [readStored, fetch, tick, failed]

theorem writeStored_served (served : o.fault s.calls req = none) :
    writeStored req change o s = (.ok (), { (tick o s).2 with action := change s.action }) := by
  simp [writeStored, tick, served]

theorem writeStored_carried (failed : o.fault s.calls req = some fault) (carried : o.lost s.calls = true) :
    writeStored req change o s = (.error fault.error, { (tick o s).2 with action := change s.action }) := by
  simp [writeStored, tick, failed, carried]

theorem writeStored_dropped (failed : o.fault s.calls req = some fault) (dropped : o.lost s.calls = false) :
    writeStored req change o s = (.error fault.error, (tick o s).2) := by
  simp [writeStored, tick, failed, dropped]

end

theorem recordOnce_spec (plain : '\n' ∉ key.toList) (nonempty : key ≠ "") (o : Oracle) (s : World) :
    RecordSpec key o s (recordOnce key o s) := by
  have added := (dumpApplied_addApplied plain nonempty s.action.annotations key).mpr (.inr rfl)
  cases unread : o.fault s.calls .readForRecord with
  | some fault =>
    simp only [recordOnce, bind_run, readStored_failed unread, pure_run]
    exact ⟨rfl, Recorded.refl _ _, by simp, fun records => by simp [(records s.calls).1] at unread⟩
  | none =>
    simp only [recordOnce, bind_run, readStored_served unread]
    by_cases already : dumpApplied s.action.annotations key = true
    · simp only [already, ↓reduceIte, pure_run]
      exact ⟨rfl, Recorded.refl _ _, fun list same => ⟨already, (Except.ok.inj same).symm⟩, fun _ => already⟩
    · simp only [already, Bool.false_eq_true, ↓reduceIte, bind_run]
      cases unwritten : o.fault (tick o s).2.calls .recordDump with
      | none =>
        simp only [writeStored_served unwritten, pure_run]
        exact ⟨rfl, Recorded.add plain nonempty _, fun list same => ⟨added, (Except.ok.inj same).symm⟩,
          fun _ => added⟩
      | some fault =>
        cases kept : o.lost (tick o s).2.calls with
        | true =>
          simp only [writeStored_carried unwritten kept, pure_run]
          exact ⟨rfl, Recorded.add plain nonempty _, by simp, fun _ => added⟩
        | false =>
          simp only [writeStored_dropped unwritten kept, pure_run]
          refine ⟨rfl, Recorded.refl _ _, by simp, fun records => ?_⟩
          rcases (records (tick o s).2.calls).2 with served | carried
          · simp [served] at unwritten
          · simp [carried] at kept

theorem retryOnConflict_spec {body : Prog (Except ApiError String)} (each : ∀ s, RecordSpec key o s (body o s))
    (again : Nat) (s : World) : RecordSpec key o s (retryOnConflict body again o s) := by
  induction again generalizing s with
  | zero => exact each s
  | succ again ih =>
    cases first : (body o s).1 with
    | ok list =>
      simp only [retryOnConflict, bind_run, first, pure_run]
      obtain ⟨log, grown, listed, sure⟩ := each s
      exact ⟨log, grown, by simpa [first] using listed, sure⟩
    | error refused =>
      simp only [retryOnConflict, bind_run, first]
      obtain ⟨log, grown, listed, sure⟩ := each s
      split
      · obtain ⟨log', grown', listed', sure'⟩ := ih (body o s).2
        exact ⟨log'.trans log, grown.trans grown', listed', sure'⟩
      · exact ⟨log, grown, by simp, sure⟩

theorem Moves.retryOnConflict {R : World → World → Prop} (chains : Chains R) {body : Prog (Except ApiError α)}
    (each : Moves o R body) (again : Nat) : Moves o R (retryOnConflict body again) := by
  induction again with
  | zero => exact each
  | succ again ih =>
    refine Moves.bind chains each fun answer => ?_
    cases answer with
    | ok value => exact Moves.pure chains _
    | error refused =>
      dsimp only
      split
      · exact ih
      · exact Moves.pure chains _

/-- What storing a status can do: the log and the record stay, and the stored
status is the earlier one or `desired`. -/
structure StatusWritten (o : Oracle) (desired : ActionStatus) (s t : World) : Prop where
  record : SameRecord s t
  status : t.action.status = s.action.status ∨ t.action.status = desired
  drifts : o.Drifts s.clusters t.clusters

theorem statusWritten_chains (o : Oracle) (desired : ActionStatus) :
    Chains (StatusWritten o desired) where
  refl s := ⟨sameRecord_chains.refl s, .inl rfl, fun _ _ same => same⟩
  trans := by
    rintro s t u ⟨first, before, driftsFirst⟩ ⟨second, after, driftsSecond⟩
    refine ⟨sameRecord_chains.trans first second, ?_, fun kept keeps same =>
      driftsSecond kept keeps (driftsFirst kept keeps same)⟩
    rcases after with same | written
    · rwa [same]
    · exact .inr written

/-- Of two writes one accounts for the stored status. -/
theorem StatusWritten.after {first second : ActionStatus} {s t u : World} (before : StatusWritten o first s t)
    (after : StatusWritten o second t u) : StatusWritten o first s u ∨ StatusWritten o second s u := by
  have record := sameRecord_chains.trans before.record after.record
  have drifts : o.Drifts s.clusters u.clusters := fun kept keeps same =>
    after.drifts kept keeps (before.drifts kept keeps same)
  rcases after.status with same | written
  · exact .inl ⟨record, by rw [same]; exact before.status, drifts⟩
  · exact .inr ⟨record, .inr written, drifts⟩

theorem statusWritten_tick (o : Oracle) (desired : ActionStatus) (s : World) :
    StatusWritten o desired s (tick o s).2 :=
  ⟨⟨rfl, rfl⟩, .inl rfl, fun _ keeps same => keeps s.calls s.clusters same⟩

private theorem statusWritten_store (o : Oracle) (desired : ActionStatus) :
    Moves o (StatusWritten o desired) (writeStored .writeStatus fun stored => { stored with status := desired }) := by
  intro s
  have ticked := statusWritten_tick o desired s
  cases unwritten : o.fault s.calls .writeStatus with
  | none =>
    rw [writeStored_served unwritten]
    exact ⟨⟨rfl, rfl⟩, .inr rfl, ticked.drifts⟩
  | some fault =>
    cases kept : o.lost s.calls with
    | true =>
      rw [writeStored_carried unwritten kept]
      exact ⟨⟨rfl, rfl⟩, .inr rfl, ticked.drifts⟩
    | false =>
      rw [writeStored_dropped unwritten kept]
      exact ticked

theorem moves_writeStatus (o : Oracle) (desired : ActionStatus) :
    Moves o (StatusWritten o desired) (writeStatus desired) := by
  refine Moves.retryOnConflict (statusWritten_chains o desired) (fun s => ?_) _
  have ticked := statusWritten_tick o desired s
  cases unread : o.fault s.calls .readForStatus with
  | some fault =>
    simp only [writeStatusOnce, bind_run, readStored_failed unread, pure_run]
    exact ticked
  | none =>
    simp only [writeStatusOnce, bind_run, readStored_served unread]
    exact (statusWritten_chains o desired).trans ticked (statusWritten_store o desired _)

/-! ### Programs that may record replays -/

/-- Like `Extends`, but replays may be recorded on the Action; its status is the same. -/
structure Proceeds (o : Oracle) (allowed : Event → Prop) (s t : World) : Prop where
  status : t.action.status = s.action.status
  log : Logged o allowed s t

theorem Kube.Extends.proceeds {allowed : Event → Prop} {s t : World} (extended : Extends o allowed s t) :
    Proceeds o allowed s t :=
  ⟨by rw [extended.action], extended.log⟩

theorem proceeds_chains (o : Oracle) (allowed : Event → Prop) : Chains (Proceeds o allowed) where
  refl s := ((extends_chains o allowed).refl s).proceeds
  trans := fun before after =>
    ⟨after.status.trans before.status, (logged_chains o allowed).trans before.log after.log⟩

theorem Kube.Moves.proceeds {allowed : Event → Prop} {x : Prog α} (moves : Moves o (Extends o allowed) x) :
    Moves o (Proceeds o allowed) x := fun s => (moves s).proceeds

section
variable {o : Oracle} {allowed : Event → Prop}

theorem proceeds_pure (value : α) : Moves o (Proceeds o allowed) (pure value : Prog α) :=
  Moves.pure (proceeds_chains o allowed) value

theorem proceeds_bind {x : Prog α} {f : α → Prog β} (first : Moves o (Proceeds o allowed) x)
    (then_ : ∀ value, Moves o (Proceeds o allowed) (f value)) : Moves o (Proceeds o allowed) (x >>= f) :=
  Moves.bind (proceeds_chains o allowed) first then_

private theorem proceeds_tick : Moves o (Proceeds o allowed) tick := Moves.proceeds moves_tick

theorem proceeds_rememberDumpApplied (annotations : GoMap String String) (key : String) :
    Moves o (Proceeds o allowed) (rememberDumpApplied annotations key) := by
  refine proceeds_bind (Moves.retryOnConflict (proceeds_chains o allowed)
    (proceeds_bind ?_ fun answer => ?_) _)
    fun answer => by cases answer <;> exact proceeds_pure _
  · exact Moves.proceeds (moves_fetch _ _)
  · cases answer with
    | error refused => exact proceeds_pure _
    | ok latest =>
      dsimp only
      split
      · exact proceeds_pure _
      · refine proceeds_bind (fun s => ?_) fun answer => by cases answer <;> exact proceeds_pure _
        have ticked : Proceeds o allowed s (tick o s).2 := proceeds_tick s
        cases unwritten : o.fault s.calls .recordDump with
        | none => rw [writeStored_served unwritten]; exact ⟨rfl, ticked.log⟩
        | some fault =>
          cases kept : o.lost s.calls with
          | true => rw [writeStored_carried unwritten kept]; exact ⟨rfl, ticked.log⟩
          | false => rw [writeStored_dropped unwritten kept]; exact ticked

end

end Portage
