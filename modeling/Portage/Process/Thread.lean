import Portage.Process.Program
import Portage.Process.Run
import Mathlib.Logic.Function.Basic

/-! Threads that share a world and touch it in atomic calls. A thread is what it calls
next and how it goes on with the reply; a pool lets any number of them take turns. -/
namespace Portage.Process

variable {κ : Type} {ρ : κ → Type} {ω σ α β ε : Type}

inductive Thread (κ : Type) (ρ : κ → Type) (α : Type) where
  | done (value : α)
  | call (request : κ) (next : ρ request → Thread κ ρ α)

namespace Thread

def bind : Thread κ ρ α → (α → Thread κ ρ β) → Thread κ ρ β
  | done value, f => f value
  | call request next, f => call request fun reply => (next reply).bind f

instance : Monad (Thread κ ρ) where
  pure := done
  bind := Thread.bind

/-- The thread that makes one call. -/
def ask (request : κ) : Thread κ ρ (ρ request) := call request done

/-- Go on with what a thread returned, unless it stopped. -/
def andThen (x : Thread κ ρ (Except ε α)) (f : α → Thread κ ρ (Except ε β)) : Thread κ ρ (Except ε β) := do
  match ← x with
  | .error stop => pure (.error stop)
  | .ok value => f value

/-- A loop over a list that a step may leave early. -/
def foldUntil (step : β → α → Thread κ ρ (Except ε β)) : List α → β → Thread κ ρ (Except ε β)
  | [], acc => pure (.ok acc)
  | x :: rest, acc => do
    match ← step acc x with
    | .error stop => pure (.error stop)
    | .ok acc => foldUntil step rest acc

/-- The call that a thread makes next. -/
def pending : Thread κ ρ α → Option κ
  | done _ => none
  | call request _ => some request

@[simp] theorem bind_done (value : α) (f : α → Thread κ ρ β) : (done value >>= f) = f value := rfl

@[simp] theorem bind_call (request : κ) (next : ρ request → Thread κ ρ α) (f : α → Thread κ ρ β) :
    (call request next >>= f) = call request fun reply => next reply >>= f := rfl

/-! ### A thread that runs alone -/

section
variable (serve : (request : κ) → Program ω σ (ρ request))

/-- Serve the calls of one thread, one after the other. -/
def run : Thread κ ρ α → Program ω σ α
  | done value => pure value
  | call request next => serve request >>= fun reply => (next reply).run

@[simp] theorem run_pure (value : α) : (pure value : Thread κ ρ α).run serve = pure value := rfl

@[simp] theorem run_ask (request : κ) : (ask request : Thread κ ρ _).run serve = serve request := rfl

@[simp] theorem run_bind (x : Thread κ ρ α) (f : α → Thread κ ρ β) :
    (x >>= f).run serve = x.run serve >>= fun value => (f value).run serve := by
  induction x with
  | done value => rfl
  | call request next ih =>
    funext o s
    exact congrFun (congrFun (ih (serve request o s).1) o) (serve request o s).2

/-- Two programs agree if their parts do. -/
theorem run_bind_eq {serve : (request : κ) → Program ω σ (ρ request)} {x : Thread κ ρ α} {f : α → Thread κ ρ β}
    {y : Program ω σ α} {g : α → Program ω σ β} (first : x.run serve = y)
    (then_ : ∀ value, (f value).run serve = g value) : (x >>= f).run serve = y >>= g := by
  rw [run_bind, first]
  exact congrArg (y >>= ·) (funext then_)

@[simp] theorem run_map (f : α → β) (x : Thread κ ρ α) : (f <$> x).run serve = f <$> x.run serve := by
  have mapped : (f <$> x) = x >>= fun value => pure (f value) := rfl
  rw [mapped, run_bind]
  rfl

@[simp] theorem run_andThen (x : Thread κ ρ (Except ε α)) (f : α → Thread κ ρ (Except ε β)) :
    (x.andThen f).run serve = Program.andThen (x.run serve) fun value => (f value).run serve := by
  refine run_bind_eq rfl fun answer => ?_
  cases answer <;> rfl

@[simp] theorem run_foldUntil (step : β → α → Thread κ ρ (Except ε β)) (xs : List α) (acc : β) :
    (foldUntil step xs acc).run serve = Program.foldUntil (fun acc x => (step acc x).run serve) xs acc := by
  induction xs generalizing acc with
  | nil => rfl
  | cons x rest ih =>
    refine run_bind_eq rfl fun answer => ?_
    cases answer with
    | error stop => rfl
    | ok next => exact ih next

end

/-! ### What a thread may call -/

/-- Every call that the thread can ever make is allowed. -/
def Calls (allowed : κ → Prop) : Thread κ ρ α → Prop
  | done _ => True
  | call request next => allowed request ∧ ∀ reply, (next reply).Calls allowed

section
variable {allowed : κ → Prop}
variable {x : Thread κ ρ α}

theorem Calls.pure (value : α) : (pure value : Thread κ ρ α).Calls allowed := trivial

theorem Calls.mono {wider : κ → Prop} (lawful : x.Calls allowed)
    (implies : ∀ request, allowed request → wider request) : x.Calls wider := by
  induction x with
  | done value => trivial
  | call request next ih => exact ⟨implies request lawful.1, fun reply => ih reply (lawful.2 reply)⟩

theorem Calls.ask {request : κ} (fits : allowed request) : (ask request : Thread κ ρ _).Calls allowed :=
  ⟨fits, fun _ => trivial⟩

theorem Calls.bind {f : α → Thread κ ρ β} (first : x.Calls allowed) (then_ : ∀ value, (f value).Calls allowed) :
    (x >>= f).Calls allowed := by
  induction x with
  | done value => exact then_ value
  | call request next ih => exact ⟨first.1, fun reply => ih reply (first.2 reply)⟩

theorem Calls.andThen {x : Thread κ ρ (Except ε α)} {f : α → Thread κ ρ (Except ε β)} (first : x.Calls allowed)
    (then_ : ∀ value, (f value).Calls allowed) : (x.andThen f).Calls allowed := by
  refine Calls.bind first fun answer => ?_
  cases answer with
  | error stop => exact Calls.pure _
  | ok value => exact then_ value

theorem Calls.foldUntil {step : β → α → Thread κ ρ (Except ε β)} {xs : List α}
    (each : ∀ acc, ∀ x ∈ xs, (step acc x).Calls allowed) (acc : β) :
    (foldUntil step xs acc).Calls allowed := by
  induction xs generalizing acc with
  | nil => exact Calls.pure _
  | cons x rest ih =>
    refine Calls.bind (each acc x (by simp)) fun answer => ?_
    cases answer with
    | error stop => exact Calls.pure _
    | ok next => exact ih (fun acc y member => each acc y (by simp [member])) next

/-- A thread that runs alone moves the world only as its calls do. -/
theorem Calls.run {serve : (request : κ) → Program ω σ (ρ request)} {R : σ → σ → Prop} (lawful : x.Calls allowed)
    (chains : Program.Chains R) (each : ∀ request, allowed request → ∀ o s, R s (serve request o s).2) (o : ω) (s : σ) :
    R s (x.run serve o s).2 := by
  induction x generalizing s with
  | done value => exact chains.refl s
  | call request next ih =>
    exact chains.trans (each request lawful.1 o s) (ih _ (lawful.2 _) _)

end

/-! ### What a thread achieves among others -/

section
variable (serve : (request : κ) → Program ω σ (ρ request)) (R : σ → σ → Prop)

/-- From a world `s`, if the others only move the world by `R` between two calls, the
thread ends with `post`. -/
def Ends (post : α → σ → Prop) : Thread κ ρ α → σ → Prop
  | done value, s => ∀ t, R s t → post value t
  | call request next, s => ∀ t, R s t → ∀ o, Ends post (next (serve request o t).1) (serve request o t).2

variable {serve} {R} {post : α → σ → Prop}
variable {x : Thread κ ρ α} {s : σ}

/-- The others may go on moving. -/
theorem Ends.moved (chains : Program.Chains R) {t : σ} (ends : x.Ends serve R post s) (moves : R s t) :
    x.Ends serve R post t := by
  cases x with
  | done value => exact fun u later => ends u (chains.trans moves later)
  | call request next => exact fun u later => ends u (chains.trans moves later)

theorem Ends.mono {weaker : α → σ → Prop} (ends : x.Ends serve R post s)
    (implies : ∀ value t, post value t → weaker value t) : x.Ends serve R weaker s := by
  induction x generalizing s with
  | done value => exact fun t moves => implies _ _ (ends t moves)
  | call request next ih => exact fun t moves o => ih _ (ends t moves o)

theorem Ends.bind (chains : Program.Chains R) {f : α → Thread κ ρ β} {after : β → σ → Prop}
    (first : x.Ends serve R post s) (then_ : ∀ value t, post value t → (f value).Ends serve R after t) :
    (x >>= f).Ends serve R after s := by
  induction x generalizing s with
  | done value => exact then_ value s (first s (chains.refl s))
  | call request next ih => exact fun t moves o => ih _ (first t moves o)

/-- A thread that runs alone ends so, too. -/
theorem Ends.run (chains : Program.Chains R) (ends : x.Ends serve R post s) (o : ω) :
    post (x.run serve o s).1 (x.run serve o s).2 := by
  induction x generalizing s with
  | done value => exact ends s (chains.refl s)
  | call request next ih => exact ih _ (ends s (chains.refl s) o)

/-- Make a call once the others have moved, and go on. -/
theorem Ends.ask {request : κ} {f : ρ request → Thread κ ρ α}
    (each : ∀ t, R s t → ∀ o, (f (serve request o t).1).Ends serve R post (serve request o t).2) :
    (ask request >>= f).Ends serve R post s := each

theorem Ends.pure {value : α} (holds : ∀ t, R s t → post value t) :
    (pure value : Thread κ ρ α).Ends serve R post s := holds

/-- A loop invariant among others that knows which elements have been handled. -/
theorem Ends.foldUntil (chains : Program.Chains R) {step : β → α → Thread κ ρ (Except ε β)}
    (inv : List α → β → σ → Prop) (stable : ∀ {done acc s t}, inv done acc s → R s t → inv done acc t) (xs : List α)
      (each : ∀ done x acc s, inv done acc s → (step acc x).Ends serve R (Program.Until (fun _ _ => True) (inv (done
      ++ [x]))) s) {acc : β} (initial : inv [] acc s) :
    (foldUntil step xs acc).Ends serve R (Program.Until (fun _ _ => True) (inv xs)) s := by
  suffices general : ∀ rest done acc s, inv done acc s →
      (Thread.foldUntil step rest acc).Ends serve R (Program.Until (fun _ _ => True) (inv (done ++ rest))) s from
    general xs [] acc s initial
  intro rest
  induction rest with
  | nil =>
    intro done acc s holds t moves
    simpa [Program.Until] using stable holds moves
  | cons x rest ih =>
    intro done acc s holds
    refine Ends.bind chains (each done x acc s holds) fun answer t after => ?_
    cases answer with
    | error stop => exact fun _ _ => trivial
    | ok next => simpa using ih (done ++ [x]) next t after

end

end Thread

/-! ### Pools -/

/-- A world and the threads that run on it, each under the call that started it. -/
structure Pool (σ χ κ : Type) (ρ : κ → Type) (α : Type) where
  world : σ
  threads : Nat → Option (χ × Thread κ ρ α) := fun _ => none

inductive PoolTurn (χ ω : Type) where
  | start (id : Nat) (job : χ)
  | step (id : Nat) (answers : ω)

namespace Pool

variable {χ : Type}

section
variable (program : χ → Thread κ ρ α) (serve : (request : κ) → Program ω σ (ρ request))

/-- One turn, if it can be taken: a fresh thread is started, or a running one makes its
next call. -/
def act (pool : Pool σ χ κ ρ α) : PoolTurn χ ω → Option (Pool σ χ κ ρ α)
  | .start id job =>
    match pool.threads id with
    | none => some { pool with threads := Function.update pool.threads id (some (job, program job)) }
    | some _ => none
  | .step id answers =>
    match pool.threads id with
    | some (job, .call request next) =>
      let (reply, world) := serve request answers pool.world
      some { world, threads := Function.update pool.threads id (some (job, next reply)) }
    | _ => none

/-- The call that a turn makes. -/
def called (pool : Pool σ χ κ ρ α) : PoolTurn χ ω → Option κ
  | .start _ _ => none
  | .step id _ => (pool.threads id).bind fun thread => thread.2.pending

abbrev Runs (start : Pool σ χ κ ρ α) := Run (act program serve) (fun _ _ after => after) start

end

section
variable {program : χ → Thread κ ρ α} {serve : (request : κ) → Program ω σ (ρ request)}
variable {pool after : Pool σ χ κ ρ α} {turn : PoolTurn χ ω} {id : Nat} {allowed : κ → Prop} {R : σ → σ → Prop}
variable {job : χ} {thread : Thread κ ρ α}

/-- The turns that can be taken, and where they lead. -/
inductive Taken (program : χ → Thread κ ρ α) (serve : (request : κ) → Program ω σ (ρ request))
    (pool : Pool σ χ κ ρ α) : PoolTurn χ ω → Pool σ χ κ ρ α → Prop where
  | started {id : Nat} {job : χ} (free : pool.threads id = none) :
      Taken program serve pool (.start id job)
        { pool with threads := Function.update pool.threads id (some (job, program job)) }
  | served {id : Nat} {o : ω} {job : χ} {request : κ} {next : ρ request → Thread κ ρ α}
      (running : pool.threads id = some (job, .call request next)) :
      Taken program serve pool (.step id o)
        { world := (serve request o pool.world).2
          threads := Function.update pool.threads id (some (job, next (serve request o pool.world).1)) }

theorem act_taken (acted : act program serve pool turn = some after) : Taken program serve pool turn after := by
  cases turn with
  | start id job =>
    cases found : pool.threads id with
    | none =>
      obtain rfl := Option.some.inj (by simpa only [act, found] using acted)
      exact .started found
    | some other => simp [act, found] at acted
  | step id answers =>
    cases found : pool.threads id with
    | none => simp [act, found] at acted
    | some running =>
      obtain ⟨job, thread⟩ := running
      cases thread with
      | done value => simp [act, found] at acted
      | call request next =>
        obtain rfl := Option.some.inj (by simpa only [act, found] using acted)
        exact .served found

theorem act_started (free : pool.threads id = none) :
    act program serve pool (.start id job) =
      some { pool with threads := Function.update pool.threads id (some (job, program job)) } := by
  simp only [act, free]

theorem act_served {request : κ} {next : ρ request → Thread κ ρ α} (o : ω)
    (running : pool.threads id = some (job, .call request next)) :
    act program serve pool (.step id o) = some
      { world := (serve request o pool.world).2
        threads := Function.update pool.threads id (some (job, next (serve request o pool.world).1)) } := by
  simp only [act, running]

/-- A turn leaves the world alone or serves the call that it makes. -/
theorem act_serves (acted : act program serve pool turn = some after) :
    after.world = pool.world ∨
      ∃ request o, pool.called turn = some request ∧ after.world = (serve request o pool.world).2 := by
  cases act_taken acted with
  | started free => exact .inl rfl
  | @served _ o _ request _ running => exact .inr ⟨request, o, by simp [called, running, Thread.pending], rfl⟩

/-- A thread is as it was, or the turn started it, or it made its call in the turn. -/
theorem act_thread (acted : act program serve pool turn = some after)
    (running : after.threads id = some (job, thread)) :
    pool.threads id = some (job, thread) ∨ (pool.threads id = none ∧ thread = program job) ∨
      ∃ request next o, pool.threads id = some (job, .call request next) ∧
        thread = next (serve request o pool.world).1 ∧ after.world = (serve request o pool.world).2 := by
  cases act_taken acted with
  | @started other _ free =>
    by_cases same : id = other
    · subst same
      simp only [Function.update_self, Option.some.injEq, Prod.mk.injEq] at running
      exact .inr (.inl ⟨free, by rw [← running.1, running.2]⟩)
    · exact .inl (by simpa [same] using running)
  | @served other o _ request next stepping =>
    by_cases same : id = other
    · subst same
      simp only [Function.update_self, Option.some.injEq, Prod.mk.injEq] at running
      obtain ⟨rfl, rfl⟩ := running
      exact .inr (.inr ⟨request, next, o, stepping, rfl, rfl⟩)
    · exact .inl (by simpa [same] using running)

/-- Once a thread is started it stays under the same call. -/
theorem act_keeps (acted : act program serve pool turn = some after) (running : pool.threads id = some (job, thread)) :
    ∃ later, after.threads id = some (job, later) := by
  cases act_taken acted with
  | @started other _ free =>
    have different : id ≠ other := by
      rintro rfl
      simp [free] at running
    exact ⟨thread, by simpa [different] using running⟩
  | @served other o _ request next stepping =>
    by_cases same : id = other
    · subst same
      obtain ⟨rfl, _⟩ := Prod.mk.inj (Option.some.inj (stepping.symm.trans running))
      exact ⟨next (serve request o pool.world).1, by simp⟩
    · exact ⟨thread, by simpa [same] using running⟩

variable {start state : Pool σ χ κ ρ α} {steps : List (Step (Pool σ χ κ ρ α) (PoolTurn χ ω) (Pool σ χ κ ρ α))}

/-- A thread of a pool makes only calls that its own program keeps to. -/
theorem Runs.calls_own {allowed : χ → κ → Prop} (run : Runs program serve start steps state)
    (empty : ∀ id, start.threads id = none) (lawful : ∀ job, (program job).Calls (allowed job))
    (running : state.threads id = some (job, thread)) : thread.Calls (allowed job) := by
  induction run generalizing job thread with
  | nil => simp [empty] at running
  | snoc earlier taken ih =>
    rcases act_thread taken running with before | ⟨_, rfl⟩ | ⟨request, next, o, before, rfl, _⟩
    · exact ih before
    · exact lawful job
    · exact (ih before).2 _

/-- The threads of a pool make only calls that every program keeps to. -/
theorem Runs.calls (run : Runs program serve start steps state) (empty : ∀ id, start.threads id = none)
    (lawful : ∀ job, (program job).Calls allowed) (running : state.threads id = some (job, thread)) :
    thread.Calls allowed :=
  Runs.calls_own run empty lawful running

/-- Every thread of a pool was started by a turn of the run. -/
theorem Runs.started (run : Runs program serve start steps state) (empty : ∀ id, start.threads id = none)
    (running : state.threads id = some (job, thread)) : ∃ step ∈ steps, step.input = .start id job := by
  induction run generalizing job thread with
  | nil => simp [empty] at running
  | @snoc steps state turn after earlier taken ih =>
    have before {other : Thread κ ρ α} (found : state.threads id = some (job, other)) :
        ∃ step ∈ steps ++ [⟨state, turn, after⟩], step.input = .start id job := by
      obtain ⟨step, member, begun⟩ := ih found
      exact ⟨step, List.mem_append_left _ member, begun⟩
    cases act_taken taken with
    | @started other begun free =>
      by_cases same : id = other
      · subst same
        obtain ⟨rfl, -⟩ : begun = job ∧ _ := by simpa using running
        exact ⟨_, List.mem_append_right _ (List.mem_singleton_self _), rfl⟩
      · exact before (by simpa [same] using running)
    | @served other o begun request next stepping =>
      by_cases same : id = other
      · subst same
        obtain ⟨rfl, -⟩ : begun = job ∧ _ := by simpa using running
        exact before stepping
      · exact before (by simpa [same] using running)

/-- A turn makes only calls that every program keeps to. -/
theorem Runs.called_allowed (run : Runs program serve start steps state) (empty : ∀ id, start.threads id = none)
    (lawful : ∀ job, (program job).Calls allowed) {request : κ} (called : state.called turn = some request) :
    allowed request := by
  cases turn with
  | start id job => cases called
  | step id answers =>
    cases found : state.threads id with
    | none => simp [Pool.called, found] at called
    | some running =>
      obtain ⟨job, thread⟩ := running
      cases thread with
      | done value => simp [Pool.called, found, Thread.pending] at called
      | call pending next =>
        obtain rfl : pending = request := by simpa [Pool.called, found, Thread.pending] using called
        exact (Runs.calls run empty lawful found).1

/-- What every allowed call keeps to holds between any two worlds of a run. -/
theorem Runs.guarantee (run : Runs program serve start steps state) (empty : ∀ id, start.threads id = none)
    (lawful : ∀ job, (program job).Calls allowed) (chains : Program.Chains R)
    (each : ∀ request, allowed request → ∀ o s, R s (serve request o s).2) :
    ∀ step ∈ steps, R step.before.world state.world := by
  induction run with
  | nil => simp
  | @snoc steps state turn after earlier taken ih =>
    have moved : R state.world after.world := by
      rcases act_serves taken with same | ⟨request, o, called, served⟩
      · rw [same]
        exact chains.refl _
      · rw [served]
        exact each request (Runs.called_allowed earlier empty lawful called) o _
    intro step member
    rcases List.mem_append.mp member with inside | here
    · exact chains.trans (ih step inside) moved
    · obtain rfl := List.mem_singleton.mp here
      exact moved

/-- A thread among others that keep to `R` from its start on ends as it does alone
among moves of `R`. -/
theorem Runs.ends {post : α → σ → Prop} (run : Runs program serve start steps state) (chains : Program.Chains R)
    {earlier later : List (Step (Pool σ χ κ ρ α) (PoolTurn χ ω) (Pool σ χ κ ρ α))}
    {begun : Step (Pool σ χ κ ρ α) (PoolTurn χ ω) (Pool σ χ κ ρ α)} (split : steps = earlier ++ begun :: later)
    (started : begun.input = .start id job) (moves : ∀ step ∈ later, R step.before.world step.output.world)
    (ends : ∀ s, (program job).Ends serve R post s) :
    ∃ thread, state.threads id = some (job, thread) ∧ thread.Ends serve R post state.world := by
  induction run generalizing later with
  | nil => simp at split
  | @snoc steps state turn after before taken ih =>
    rcases List.eq_nil_or_concat later with rfl | ⟨initial, last, rfl⟩
    · obtain ⟨_, same⟩ := List.append_inj' split rfl
      obtain rfl : (⟨state, turn, after⟩ : Step _ _ _) = begun := by simpa using same
      obtain rfl : turn = .start id job := started
      cases found : state.threads id with
      | some other => simp [act, found] at taken
      | none =>
        obtain rfl := Option.some.inj (by simpa only [act, found] using taken)
        exact ⟨program job, by simp, ends _⟩
    · rw [List.concat_eq_append, ← List.cons_append, ← List.append_assoc] at split
      obtain ⟨same, lastSame⟩ := List.append_inj' split rfl
      obtain rfl : (⟨state, turn, after⟩ : Step _ _ _) = last := by simpa using lastSame
      obtain ⟨thread, running, going⟩ := ih same fun step member => moves step (by simp [member])
      have moved : R state.world after.world := moves ⟨state, turn, after⟩ (by simp)
      obtain ⟨next, kept⟩ := act_keeps taken running
      refine ⟨next, kept, ?_⟩
      rcases act_thread taken kept with unchanged | ⟨none, _⟩ | ⟨request, go, o, own, rfl, served⟩
      · obtain ⟨_, rfl⟩ := Prod.mk.inj (Option.some.inj (running.symm.trans unchanged))
        exact going.moved chains moved
      · simp [running] at none
      · obtain ⟨_, rfl⟩ := Prod.mk.inj (Option.some.inj (running.symm.trans own))
        rw [served]
        exact going _ (chains.refl _) o

end

end Pool

end Portage.Process
