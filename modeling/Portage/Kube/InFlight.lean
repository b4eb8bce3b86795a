import Portage.Kube.World
import Portage.Process.Replay

/-! Passes that run at the same time. Between two calls of one the others may make
theirs. -/
namespace Portage.Kube

open Go Process

/-- How the `n`th call was answered, if it was made. -/
def answerAt (calls : List (Clusters × Oracle)) (n : Nat) (read : Oracle → α) (unanswered : α) : α :=
  match calls[n]? with
  | some (_, o) => read o
  | none => unanswered

/-- The answers to the calls that were made, each of which found the clusters beside
it; every later call fails and leaves no trace. -/
def Oracle.replay (calls : List (Clusters × Oracle)) : Oracle where
  fault n req := answerAt calls n (fun o => o.fault n req) (some {})
  lost n := answerAt calls n (fun o => o.lost n) false
  drift n clusters :=
    match calls[n]? with
    | some (found, _) => found
    | none => clusters
  exec n command := answerAt calls n (fun o => o.exec n command) {}
  mover n := answerAt calls n (fun o => o.mover n) none
  replicated n clusters := answerAt calls n (fun o => o.replicated n clusters) clusters
  probe n := answerAt calls n (fun o => o.probe n) {}
  sync n := answerAt calls n (fun o => o.sync n) (.ok (true, ""))
  applied n payloads := answerAt calls n (fun o => o.applied n payloads) payloads
  hook n := answerAt calls n (fun o => o.hook n) none
  listed n := answerAt calls n (fun o => o.listed n) []
  random n := answerAt calls n (fun o => o.random n) ""

/-- The calls that were made have only found clusters that satisfy `inv`. -/
theorem Oracle.replay_drift {inv : Clusters → Prop} {calls : List (Clusters × Oracle)}
    (found : ∀ entry ∈ calls, inv entry.1) (n : Nat) {clusters : Clusters} (holds : inv clusters) :
    inv ((Oracle.replay calls).drift n clusters) := by
  cases made : calls[n]? with
  | none => simpa [Oracle.replay, made] using holds
  | some entry => simpa [Oracle.replay, made] using found entry (List.mem_of_getElem? made)

abbrev PassFlight (χ : Type) := Replay.Flight Clusters χ Oracle

/-- Where a pass stands. -/
def standing (program : χ → Prog α) (action : Action) (flight : PassFlight χ) : World :=
  (program flight.job (Oracle.replay flight.calls) { clusters := flight.began, action }).2

/-- Passes that take turns, and others that move the clusters. -/
def passRules (program : χ → Prog α) (action : Action) (moved : ε → Clusters → Clusters) :
    Replay.Rules Clusters χ Oracle ε where
  calling flight := flight.calls.length < (standing program action flight).calls
  after flight := (standing program action flight).clusters
  moved := moved

end Portage.Kube
