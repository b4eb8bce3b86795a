import Mathlib.Data.List.Basic

/-! Programs that call out to an environment. A program is a function of the
environment's answers and of the state of the world; the rules below say what a
program does to the world from what its calls do. -/
namespace Portage.Process

variable {ω σ α β γ ε : Type}

/-- A program that consults answers of type `ω` and changes a world of type `σ`. -/
def Program (ω σ α : Type) := ω → σ → α × σ

namespace Program

instance : Monad (Program ω σ) where
  pure value := fun _ world => (value, world)
  bind x f := fun answers world => f (x answers world).1 answers (x answers world).2

def world : Program ω σ σ := fun _ world => (world, world)

def answers : Program ω σ ω := fun answers world => (answers, world)

def modify (change : σ → σ) : Program ω σ Unit := fun _ world => ((), change world)

@[simp] theorem pure_run (value : α) (o : ω) (s : σ) :
    (pure value : Program ω σ α) o s = (value, s) := rfl

@[simp] theorem bind_run (x : Program ω σ α) (f : α → Program ω σ β) (o : ω) (s : σ) :
    (x >>= f) o s = f (x o s).1 o (x o s).2 := rfl

@[simp] theorem map_run (f : α → β) (x : Program ω σ α) (o : ω) (s : σ) :
    (f <$> x) o s = (f (x o s).1, (x o s).2) := rfl

@[simp] theorem world_run (o : ω) (s : σ) : (world : Program ω σ σ) o s = (s, s) := rfl

@[simp] theorem answers_run (o : ω) (s : σ) : (answers : Program ω σ ω) o s = (o, s) := rfl

@[simp] theorem modify_run (change : σ → σ) (o : ω) (s : σ) :
    (modify change : Program ω σ Unit) o s = ((), change s) := rfl

/-- A loop over a list with an accumulator. -/
def fold (step : β → α → Program ω σ β) : List α → β → Program ω σ β
  | [], acc => pure acc
  | x :: rest, acc => do
    let acc ← step acc x
    fold step rest acc

/-- A loop over a list that a step may leave early. -/
def foldUntil (step : β → α → Program ω σ (Except ε β)) : List α → β → Program ω σ (Except ε β)
  | [], acc => pure (.ok acc)
  | x :: rest, acc => do
    match ← step acc x with
    | .error stop => pure (.error stop)
    | .ok acc => foldUntil step rest acc

/-- Go on with what a program returned, unless it stopped. -/
def andThen (x : Program ω σ (Except ε α)) (f : α → Program ω σ (Except ε β)) :
    Program ω σ (Except ε β) := do
  match ← x with
  | .error stop => pure (.error stop)
  | .ok value => f value

/-- Reword why a program stopped. -/
def orElse (x : Program ω σ (Except γ α)) (reword : γ → ε) : Program ω σ (Except ε α) :=
  Except.mapError reword <$> x

variable {o : ω} {s : σ}

/-- A chain that does not stop ran both of its parts. -/
theorem andThen_ok {x : Program ω σ (Except ε α)} {f : α → Program ω σ (Except ε β)} {b : β}
    (done : (andThen x f o s).1 = .ok b) : ∃ a, (x o s).1 = .ok a ∧ (f a o (x o s).2).1 = .ok b ∧
      (andThen x f o s).2 = (f a o (x o s).2).2 := by
  cases answer : (x o s).1 with
  | error stop => simp [andThen, answer] at done
  | ok a =>
    refine ⟨a, rfl, ?_, ?_⟩
    · simpa [andThen, answer] using done
    · simp [andThen, answer]

/-- What holds if the first part stops, and if it does not, holds of both. -/
theorem andThen_either {x : Program ω σ (Except ε α)} {f : α → Program ω σ (Except ε β)} (holds : σ → Prop)
    (stopped : holds (x o s).2) (then_ : ∀ a, (x o s).1 = .ok a → holds (f a o (x o s).2).2) :
    holds (andThen x f o s).2 := by
  cases answer : (x o s).1 with
  | error stop => simpa [andThen, answer] using stopped
  | ok a => simpa [andThen, answer] using then_ a answer

theorem orElse_ok {x : Program ω σ (Except γ α)} {reword : γ → ε} {a : α} (done : (orElse x reword o s).1 = .ok a) :
    (x o s).1 = .ok a := by
  cases answer : (x o s).1 with
  | error stop => simp [orElse, answer, Except.mapError] at done
  | ok value => simpa [orElse, answer, Except.mapError] using done

/-! ### Relations that every call respects -/

/-- A relation between an earlier and a later world that can be chained. -/
structure Chains (R : σ → σ → Prop) : Prop where
  refl : ∀ s, R s s
  trans : ∀ {s t u}, R s t → R t u → R s u

/-- A property that a later world has if the earlier one has it. -/
def Keeps (inv : σ → Prop) (s t : σ) : Prop := inv s → inv t

theorem keeps_chains (inv : σ → Prop) : Chains (Keeps inv) where
  refl _ := id
  trans first second := second ∘ first

/-- Running `x` keeps to the relation, from any world. -/
def Moves (o : ω) (R : σ → σ → Prop) (x : Program ω σ α) : Prop := ∀ s, R s (x o s).2

section
variable {o : ω} {R : σ → σ → Prop}
variable {xs : List α}

theorem Moves.pure (chains : Chains R) (value : α) : Moves o R (pure value : Program ω σ α) :=
  fun s => chains.refl s

theorem Moves.bind (chains : Chains R) {x : Program ω σ α} {f : α → Program ω σ β}
    (first : Moves o R x) (then_ : ∀ value, Moves o R (f value)) : Moves o R (x >>= f) :=
  fun s => chains.trans (first s) (then_ (x o s).1 (x o s).2)

theorem Moves.map {f : α → β} {x : Program ω σ α} (moves : Moves o R x) : Moves o R (f <$> x) := moves

theorem Moves.andThen (chains : Chains R) {x : Program ω σ (Except ε α)}
    {f : α → Program ω σ (Except ε β)} (first : Moves o R x) (then_ : ∀ value, Moves o R (f value)) :
    Moves o R (andThen x f) := by
  refine Moves.bind chains first fun answer => ?_
  cases answer with
  | error stop => exact Moves.pure chains _
  | ok value => exact then_ value

/-- The same from one world, where the second part may use what the first returned. -/
theorem Chains.andThen (chains : Chains R) {x : Program ω σ (Except ε α)} {f : α → Program ω σ (Except ε β)} {s : σ}
    (first : R s (x o s).2) (then_ : ∀ value, (x o s).1 = .ok value → R (x o s).2 (f value o (x o s).2).2) :
    R s (andThen x f o s).2 :=
  andThen_either (R s) first fun value answer => chains.trans first (then_ value answer)

theorem Moves.fold (chains : Chains R) {step : β → α → Program ω σ β} (each : ∀ acc, ∀ x ∈ xs, Moves o R (step acc x))
    (acc : β) : Moves o R (fold step xs acc) := by
  induction xs generalizing acc with
  | nil => exact Moves.pure chains acc
  | cons x rest ih =>
    exact Moves.bind chains (each acc x (by simp))
      fun acc => ih (fun acc y member => each acc y (by simp [member])) acc

theorem Moves.foldUntil (chains : Chains R) {step : β → α → Program ω σ (Except ε β)}
    (each : ∀ acc, ∀ x ∈ xs, Moves o R (step acc x)) (acc : β) : Moves o R (foldUntil step xs acc) := by
  induction xs generalizing acc with
  | nil => exact Moves.pure chains _
  | cons x rest ih =>
    refine Moves.bind chains (each acc x (by simp)) fun answer => ?_
    cases answer with
    | error stop => exact Moves.pure chains _
    | ok acc => exact ih (fun acc y member => each acc y (by simp [member])) acc

/-- A loop visits each of its elements, in a world between the first and the last. -/
theorem fold_visits (chains : Chains R) {step : β → α → Program ω σ β}
    (each : ∀ acc, ∀ x ∈ xs, Moves o R (step acc x)) (acc : β) (s : σ) {x : α} (member : x ∈ xs) :
    ∃ at_ t, R s t ∧ R (step at_ x o t).2 (fold step xs acc o s).2 := by
  induction xs generalizing acc s with
  | nil => simp at member
  | cons y rest ih =>
    have later : ∀ acc, ∀ z ∈ rest, Moves o R (step acc z) :=
      fun acc z inside => each acc z (by simp [inside])
    rcases List.mem_cons.mp member with rfl | inside
    · exact ⟨acc, s, chains.refl s, Moves.fold chains later _ _⟩
    · obtain ⟨at_, t, before, after⟩ := ih later (step acc y o s).1 (step acc y o s).2 inside
      exact ⟨at_, t, chains.trans (each acc y (by simp) s) before, after⟩

theorem foldUntil_append (step : β → α → Program ω σ (Except ε β)) (xs ys : List α) (acc : β) :
    foldUntil step (xs ++ ys) acc = andThen (foldUntil step xs acc) (foldUntil step ys) := by
  induction xs generalizing acc with
  | nil => rfl
  | cons x rest ih =>
    funext o s
    simp only [List.cons_append, foldUntil, andThen, bind_run]
    cases (step acc x o s).1 with
    | error stop => rfl
    | ok next =>
      have later := congrFun (congrFun (ih next) o) (step acc x o s).2
      simpa only [andThen, bind_run] using later

/-- What a loop adds to a log is added in the turn of one of its elements, in the world in
which the elements before it have gone through. -/
theorem foldUntil_turn {step : β → α → Program ω σ (Except ε β)} {log : σ → List γ}
    (grows : ∀ acc, ∀ x ∈ xs, ∀ s, log s <+: log (step acc x o s).2) {acc : β} {s : σ} {front back : List γ} {e : γ}
    (logged : log (foldUntil step xs acc o s).2 = front ++ e :: back) (before : log s <+: front) :
    ∃ done x rest at_ t, xs = done ++ x :: rest ∧ foldUntil step done acc o s = (.ok at_, t) ∧ log t <+: front ∧
      front ++ [e] <+: log (step at_ x o t).2 := by
  induction xs generalizing acc s with
  | nil =>
    have longer := before.length_le
    have same : log s = front ++ e :: back := logged
    rw [same, List.length_append, List.length_cons] at longer
    omega
  | cons x rest ih =>
    by_cases here : front ++ [e] <+: log (step acc x o s).2
    · exact ⟨[], x, rest, acc, s, rfl, rfl, before, here⟩
    · -- the two are prefixes of one log, so the shorter is a prefix of the longer
      have whole : front ++ [e] <+: log (foldUntil step (x :: rest) acc o s).2 := ⟨back, by simp [logged]⟩
      cases answer : (step acc x o s).1 with
      | error stop =>
        refine absurd ?_ here
        simpa [foldUntil, answer] using whole
      | ok next =>
        have loops : foldUntil step (x :: rest) acc o s = foldUntil step rest next o (step acc x o s).2 := by
          simp [foldUntil, answer]
        rw [loops] at logged whole
        have chains : Chains fun s t => log s <+: log t := ⟨fun _ => List.prefix_rfl, List.IsPrefix.trans⟩
        have later : log (step acc x o s).2 <+: log (foldUntil step rest next o (step acc x o s).2).2 :=
          Moves.foldUntil chains (fun acc y member => grows acc y (List.mem_cons_of_mem x member)) next _
        have reached : log (step acc x o s).2 <+: front := by
          rcases List.prefix_or_prefix_of_prefix later whole with shorter | longer
          · rcases List.prefix_concat_iff.mp shorter with same | shorter
            · exact absurd (same ▸ List.prefix_rfl) here
            · exact shorter
          · exact absurd longer here
        obtain ⟨done, y, after, at_, t, shape, went, early, late⟩ :=
          ih (fun acc y member => grows acc y (by simp [member])) logged reached
        refine ⟨x :: done, y, after, at_, t, by rw [shape]; rfl, ?_, early, late⟩
        simpa [foldUntil, answer] using went

end

/-! ### Pre- and postconditions -/

/-- From every world that satisfies `pre`, running `x` ends in `post`. -/
def Holds (o : ω) (pre : σ → Prop) (x : Program ω σ α) (post : α → σ → Prop) : Prop :=
  ∀ s, pre s → post (x o s).1 (x o s).2

section
variable {o : ω} {pre : σ → Prop} {post : α → σ → Prop}

theorem Holds.pure {value : α} (already : ∀ s, pre s → post value s) :
    Holds o pre (pure value : Program ω σ α) post := already

theorem Holds.bind {x : Program ω σ α} {f : α → Program ω σ β} {after : β → σ → Prop}
    (first : Holds o pre x post) (then_ : ∀ value, Holds o (post value) (f value) after) :
    Holds o pre (x >>= f) after :=
  fun s start => then_ _ _ (first s start)

theorem Holds.weaken {x : Program ω σ α} {pre' : σ → Prop} {post' : α → σ → Prop}
    (holds : Holds o pre x post) (stronger : ∀ s, pre' s → pre s)
    (weaker : ∀ value s, post value s → post' value s) : Holds o pre' x post' :=
  fun s start => weaker _ _ (holds s (stronger s start))

/-- A loop invariant that knows which elements have been handled. -/
theorem Holds.fold {step : β → α → Program ω σ β} (inv : List α → β → σ → Prop) (xs : List α)
    (each : ∀ done x rest acc, xs = done ++ x :: rest →
      Holds o (inv done acc) (step acc x) (inv (done ++ [x]))) (acc : β) :
    Holds o (inv [] acc) (fold step xs acc) (inv xs) := by
  suffices general : ∀ rest done acc, xs = done ++ rest →
      Holds o (inv done acc) (Program.fold step rest acc) (inv xs) from general xs [] acc rfl
  intro rest
  induction rest with
  | nil =>
    intro done acc split s start
    simpa [Program.fold, split] using start
  | cons x rest ih =>
    intro done acc split
    exact Holds.bind (each done x rest acc split) fun acc => ih (done ++ [x]) acc (by simp [split])

/-- A postcondition for a program that may stop: one for the reason, one for the
value. -/
def Until (stopped : ε → σ → Prop) (done : β → σ → Prop) : Except ε β → σ → Prop
  | .error stop, s => stopped stop s
  | .ok value, s => done value s

/-- The same for a loop that may be left early. -/
theorem Holds.foldUntil {step : β → α → Program ω σ (Except ε β)} (inv : List α → β → σ → Prop)
    (stopped : ε → σ → Prop) (xs : List α)
    (each : ∀ done x rest acc, xs = done ++ x :: rest →
      Holds o (inv done acc) (step acc x) (Until stopped (inv (done ++ [x])))) (acc : β) :
    Holds o (inv [] acc) (foldUntil step xs acc) (Until stopped (inv xs)) := by
  suffices general : ∀ rest done acc, xs = done ++ rest →
      Holds o (inv done acc) (Program.foldUntil step rest acc) (Until stopped (inv xs)) from
    general xs [] acc rfl
  intro rest
  induction rest with
  | nil =>
    intro done acc split s start
    simpa [Program.foldUntil, Until, split] using start
  | cons x rest ih =>
    intro done acc split
    refine Holds.bind (each done x rest acc split) fun answer => ?_
    cases answer with
    | error stop => exact Holds.pure fun s ended => ended
    | ok acc => exact ih (done ++ [x]) acc (by simp [split])

end

/-! ### Why a program stops -/

/-- Every reason for which `x` stops satisfies `fits`. -/
def Stops (o : ω) (fits : ε → Prop) (x : Program ω σ (Except ε α)) : Prop :=
  ∀ s stop, (x o s).1 = .error stop → fits stop

section
variable {o : ω} {fits : ε → Prop}

theorem Stops.ok (value : α) : Stops o fits (pure (.ok value) : Program ω σ (Except ε α)) := by
  intro s stop stopped
  cases stopped

theorem Stops.error {stop : ε} (holds : fits stop) : Stops o fits (pure (.error stop) : Program ω σ (Except ε α)) := by
  intro s other stopped
  cases stopped
  exact holds

theorem Stops.map (f : γ → α) (x : Program ω σ γ) : Stops o fits ((fun value => .ok (f value)) <$> x) := by
  intro s stop stopped
  cases stopped

theorem Stops.bind {x : Program ω σ γ} {f : γ → Program ω σ (Except ε α)}
    (then_ : ∀ value, Stops o fits (f value)) : Stops o fits (x >>= f) :=
  fun _ stop stopped => then_ _ _ stop stopped

theorem Stops.andThen {x : Program ω σ (Except ε α)} {f : α → Program ω σ (Except ε β)} (first : Stops o fits x)
    (then_ : ∀ value, Stops o fits (f value)) : Stops o fits (andThen x f) := by
  intro s stop stopped
  cases answer : (x o s).1 with
  | error reason =>
    refine first s stop ?_
    simpa [Program.andThen, answer] using stopped
  | ok value =>
    refine then_ value (x o s).2 stop ?_
    simpa [Program.andThen, answer] using stopped

theorem Stops.orElse {x : Program ω σ (Except γ α)} {reword : γ → ε} {why : γ → Prop} (first : Stops o why x)
    (holds : ∀ reason, why reason → fits (reword reason)) : Stops o fits (orElse x reword) := by
  intro s stop stopped
  cases answer : (x o s).1 with
  | error reason =>
    obtain rfl : reword reason = stop := by
      simpa [Program.orElse, answer, Except.mapError] using stopped
    exact holds reason (first s reason answer)
  | ok value => simp [Program.orElse, answer, Except.mapError] at stopped

/-- A program that rewords every reason. -/
theorem Stops.reworded {x : Program ω σ (Except γ α)} {reword : γ → ε} (holds : ∀ reason, fits (reword reason)) :
    Stops o fits (Program.orElse x reword) :=
  Stops.orElse (fun _ _ _ => trivial) fun reason (_ : True) => holds reason

theorem Stops.ite {condition : Prop} [Decidable condition] {x y : Program ω σ (Except ε α)}
    (yes : condition → Stops o fits x) (no : ¬ condition → Stops o fits y) :
    Stops o fits (if condition then x else y) := by
  split
  · exact yes ‹_›
  · exact no ‹_›

theorem Stops.foldUntil {step : β → α → Program ω σ (Except ε β)} {xs : List α}
    (each : ∀ acc, ∀ x ∈ xs, Stops o fits (step acc x)) (acc : β) : Stops o fits (foldUntil step xs acc) := by
  induction xs generalizing acc with
  | nil => exact .ok acc
  | cons x rest ih =>
    exact .andThen (each acc x (by simp)) fun next =>
      ih (fun acc y member => each acc y (by simp [member])) next

end

/-! ### Audited programs -/

/-- `audited` does what `plain` does and notes more, which `erase` forgets. -/
def Erases (erase : α → β) (audited : Program ω σ α) (plain : Program ω σ β) : Prop :=
  ∀ o s, plain o s = (erase (audited o s).1, (audited o s).2)

section
variable {erase : α → β} {audited : Program ω σ α} {plain : Program ω σ β}

theorem Erases.pure {noted : α} {value : β} (same : value = erase noted) :
    Erases erase (pure noted : Program ω σ α) (pure value) := fun _ _ => by rw [pure_run, pure_run, same]

theorem Erases.bind {forget : γ → ε} {f : α → Program ω σ γ} {g : β → Program ω σ ε}
    (first : Erases erase audited plain) (then_ : ∀ noted, Erases forget (f noted) (g (erase noted))) :
    Erases forget (audited >>= f) (plain >>= g) := fun o s => by
  rw [bind_run, bind_run, first o s]
  exact then_ _ o _

/-- A part that both programs share. -/
theorem Erases.after {x : Program ω σ α} {f : α → Program ω σ γ} {g : α → Program ω σ ε} {forget : γ → ε}
    (then_ : ∀ value, Erases forget (f value) (g value)) : Erases forget (x >>= f) (x >>= g) :=
  fun o _ => then_ _ o _

theorem Erases.fold {note : β → α → Program ω σ β} {step : γ → α → Program ω σ γ} {forget : β → γ}
    (each : ∀ acc x, Erases forget (note acc x) (step (forget acc) x)) (xs : List α) (acc : β) :
    Erases forget (fold note xs acc) (fold step xs (forget acc)) := by
  induction xs generalizing acc with
  | nil => exact .pure rfl
  | cons x rest ih => exact (each acc x).bind ih

end

end Program

end Portage.Process
