import Portage.Movers.VolSync.Secrets
import Portage.Process.Thread

/-! The Secrets under concurrent calls: each function is cut into its calls to the API
servers, and any number of functions take turns. -/
namespace Portage.VolSync

open Go Kube ObjectStore Process

/-- A call on a Secret, or for random bytes. -/
inductive SecretCall where
  | random
  | get (c : ClusterId) (key : ObjKey)
  | create (side : Side) (c : ClusterId) (key : ObjKey) (secret : Secret)
  | update (side : Side) (c : ClusterId) (key : ObjKey) (before after : Secret)
  | overwrite (c : ClusterId) (key : ObjKey) (secret : Secret)

@[reducible] def SecretCall.Reply : SecretCall → Type
  | random => String
  | get .. => Except ApiError Secret
  | create .. | update .. | overwrite .. => Except ApiError Unit

def SecretCall.serve : (call : SecretCall) → Prog call.Reply
  | random => randomHex
  | get c key => getObject c .secrets key (·.secrets key)
  | create side c key secret => createSecret side c key secret
  | update side c key before after => updateSecret side c key before after
  | overwrite c key secret => overwriteSecret c key secret

abbrev SecretThread := Thread SecretCall SecretCall.Reply

namespace Calls

open Thread

def randomHex : SecretThread String := ask SecretCall.random

def getSecret (c : ClusterId) (key : ObjKey) : SecretThread (Except ApiError Secret) := ask (SecretCall.get c key)

def createSecret (side : Side) (c : ClusterId) (key : ObjKey) (secret : Secret) :
    SecretThread (Except ApiError Unit) := ask (SecretCall.create side c key secret)

def updateSecret (side : Side) (c : ClusterId) (key : ObjKey) (before after : Secret) :
    SecretThread (Except ApiError Unit) := ask (SecretCall.update side c key before after)

def overwriteSecret (c : ClusterId) (key : ObjKey) (secret : Secret) : SecretThread (Except ApiError Unit) :=
  ask (SecretCall.overwrite c key secret)

def upsertSecret (c : ClusterId) (key : ObjKey) (secret : Secret) : SecretThread (Except ApiError Unit) := do
  match ← createSecret .source c key secret with
  | .ok _ => pure (.ok ())
  | .error refused =>
    if refused.reason = .alreadyExists then overwriteSecret c key secret else pure (.error refused)

def ensureResticSecret (c : ClusterId) (creds : Creds) (repository ns workload : String) :
    SecretThread (Except ApiError Unit) := do
  let password ← randomHex
  let key : ObjKey := ⟨ns, resticSecretName workload⟩
  match ← getSecret c key with
  | .ok cur =>
    let old := cur.data.get "RESTIC_PASSWORD"
    updateSecret .source c key cur
      { cur with data := repositoryData creds repository (if old = "" then password else old) }
  | .error refused =>
    if refused.reason ≠ .notFound then pure (.error refused)
    else ignoreExists <$> createSecret .source c key { data := repositoryData creds repository password }

def ensureTLSSecret (c : ClusterId) (ns : String) : SecretThread (Except ApiError Unit) := do
  let psk ← randomHex
  let key : ObjKey := ⟨ns, tlsSecretName⟩
  match ← getSecret c key with
  | .ok _ => pure (.ok ())
  | .error refused =>
    if refused.reason = .notFound then
      ignoreExists <$> createSecret .source c key { data := .table [("psk", psk)] }
    else pure (ignoreExists (.error refused))

def ensureStoreSecrets (c : ClusterId) (creds : Creds) (repository ns workload : String) :
    SecretThread (Except ApiError Unit) :=
  if creds.accessKey = "" then pure (.ok ())
  else andThen (upsertSecret c ⟨ns, rcloneSecretName⟩ { data := .table [("rclone.conf", rcloneINI creds)] })
    fun _ => ensureResticSecret c creds repository ns workload

def ensureSecrets (c : ClusterId) (creds : Creds) (repository ns workload : String) :
    SecretThread (Except ApiError Unit) :=
  if ns = "" then pure (.ok ())
  else andThen (ensureStoreSecrets c creds repository ns workload) fun _ => ensureTLSSecret c ns

def placeSecret (c : ClusterId) (key : ObjKey) (secret : Secret) : SecretThread (Except ApiError Unit) := do
  match ← getSecret c key with
  | .ok cur => updateSecret .dest c key cur { cur with data := secret.data }
  | .error refused =>
    if refused.reason = .notFound then ignoreExists <$> createSecret .dest c key secret
    else pure (.error refused)

def copySecret (src dst : ClusterId) (ns : String) (_ : Unit) (name : String) :
    SecretThread (Except String Unit) := do
  let key : ObjKey := ⟨ns, name⟩
  match ← getSecret src key with
  | .error refused =>
    if refused.reason = .notFound then pure (.ok ()) else pure (.error refused.message)
  | .ok secret =>
    Except.mapError (fun refused => "copy " ++ name ++ ": " ++ refused.message) <$> placeSecret dst key secret

/-- The Secrets that a copy takes over. -/
def copied (ns workload : String) : List String :=
  if ns = "" then [] else [rcloneSecretName, resticSecretName workload, tlsSecretName]

def copySecrets (src dst : ClusterId) (ns workload : String) : SecretThread (Except String Unit) :=
  if src = dst then pure (.ok ()) else foldUntil (copySecret src dst ns) (copied ns workload) ()

/-! ### Alone, the calls are those of the pass -/

section
variable (c : ClusterId) (key : ObjKey) (secret : Secret)

theorem run_upsertSecret :
    (upsertSecret c key secret).run SecretCall.serve = VolSync.upsertSecret c key secret := by
  refine run_bind_eq rfl fun answer => ?_
  cases answer with
  | ok _ => rfl
  | error refused =>
    dsimp only
    split <;> rfl

theorem run_ensureResticSecret (m : Mover) (w : Workload) :
    (ensureResticSecret c m.creds (m.creds.resticRepository m.parseAuthority (m.objectPath w)) w.namespace_
      w.name).run SecretCall.serve = VolSync.ensureResticSecret m c w := by
  refine run_bind_eq rfl fun password => run_bind_eq rfl fun answer => ?_
  cases answer with
  | ok cur => rfl
  | error refused =>
    dsimp only
    split
    · rfl
    · rw [run_map]
      rfl

theorem run_ensureTLSSecret (ns : String) :
    (ensureTLSSecret c ns).run SecretCall.serve = VolSync.ensureTLSSecret c ns := by
  refine run_bind_eq rfl fun psk => run_bind_eq rfl fun answer => ?_
  cases answer with
  | ok cur => rfl
  | error refused =>
    dsimp only
    split
    · rw [run_map]
      rfl
    · rfl

theorem run_ensureSecrets (m : Mover) (w : Workload) (client : m.kube = some c) :
    (ensureSecrets c m.creds (m.creds.resticRepository m.parseAuthority (m.objectPath w)) w.namespace_ w.name).run
      SecretCall.serve = VolSync.ensureSecrets m w := by
  simp only [ensureSecrets, VolSync.ensureSecrets, client, ensureStoreSecrets, VolSync.ensureStoreSecrets]
  split
  · rfl
  · rw [run_andThen]
    simp only [run_ensureTLSSecret]
    split
    · rfl
    · simp only [run_andThen, run_upsertSecret, run_ensureResticSecret]

theorem run_placeSecret : (placeSecret c key secret).run SecretCall.serve = VolSync.placeSecret c key secret := by
  refine run_bind_eq rfl fun answer => ?_
  cases answer with
  | ok cur => rfl
  | error refused =>
    dsimp only
    split
    · rw [run_map]
      rfl
    · rfl

theorem run_copySecrets (src dst : ClusterId) (ns workload : String) :
    (copySecrets src dst ns workload).run SecretCall.serve =
      VolSync.copySecrets (some src) (some dst) ns workload := by
  have each (acc : Unit) (name : String) :
      (copySecret src dst ns acc name).run SecretCall.serve = VolSync.copySecret src dst ns acc name := by
    refine run_bind_eq rfl fun answer => ?_
    cases answer with
    | error refused =>
      dsimp only
      split <;> rfl
    | ok secret =>
      rw [run_map, run_placeSecret]
      rfl
  by_cases same : src = dst
  · simp [copySecrets, VolSync.copySecrets, same]
  · by_cases unnamed : ns = ""
    · simp [copySecrets, VolSync.copySecrets, same, unnamed, copied, foldUntil]
    · simp [copySecrets, VolSync.copySecrets, same, unnamed, copied, each]

end

end Calls

/-! ### What the calls ask for -/

/-- The writes that the functions ask for, between a source `a` and a destination `b`:
an update of a restic Secret keeps the password that it found. -/
inductive Lawful (a b : ClusterId) : SecretCall → Prop where
  | random : Lawful a b .random
  | get (c : ClusterId) (key : ObjKey) : Lawful a b (.get c key)
  | seed (key : ObjKey) (secret : Secret) : Lawful a b (.create .source a key secret)
  | renew {key : ObjKey} {workload : String} (named : key.name = resticSecretName workload)
      (before after : Secret) (kept : before.data.get "RESTIC_PASSWORD" ≠ "" →
        after.data.get "RESTIC_PASSWORD" = before.data.get "RESTIC_PASSWORD") :
      Lawful a b (.update .source a key before after)
  | rewrite {key : ObjKey} (named : key.name = rcloneSecretName) (secret : Secret) :
      Lawful a b (.overwrite a key secret)
  | place (key : ObjKey) (secret : Secret) : Lawful a b (.create .dest b key secret)
  | refresh (key : ObjKey) (before after : Secret) : Lawful a b (.update .dest b key before after)

namespace Calls

open Thread

section
variable {a b : ClusterId}

private theorem repositoryData_password (creds : Creds) (repository password : String) :
    (repositoryData creds repository password).get "RESTIC_PASSWORD" = password := rfl

theorem lawful_upsertSecret (ns : String) (secret : Secret) :
    (upsertSecret a ⟨ns, rcloneSecretName⟩ secret).Calls (Lawful a b) := by
  refine Calls.bind (Calls.ask (.seed _ _)) fun answer => ?_
  cases answer with
  | ok _ => exact Calls.pure _
  | error refused =>
    dsimp only
    split
    · exact Calls.ask (.rewrite rfl _)
    · exact Calls.pure _

theorem lawful_ensureResticSecret (creds : Creds) (repository ns workload : String) :
    (ensureResticSecret a creds repository ns workload).Calls (Lawful a b) := by
  refine Calls.bind (Calls.ask .random) fun password => Calls.bind (Calls.ask (.get _ _)) fun answer => ?_
  cases answer with
  | ok cur =>
    refine Calls.ask (.renew rfl _ _ fun present => ?_)
    simp [repositoryData_password, present]
  | error refused =>
    dsimp only
    split
    · exact Calls.pure _
    · exact Calls.bind (Calls.ask (.seed _ _)) fun _ => Calls.pure _

theorem lawful_ensureTLSSecret (ns : String) : (ensureTLSSecret a ns).Calls (Lawful a b) := by
  refine Calls.bind (Calls.ask .random) fun psk => Calls.bind (Calls.ask (.get _ _)) fun answer => ?_
  cases answer with
  | ok _ => exact Calls.pure _
  | error refused =>
    dsimp only
    split
    · exact Calls.bind (Calls.ask (.seed _ _)) fun _ => Calls.pure _
    · exact Calls.pure _

theorem lawful_ensureSecrets (creds : Creds) (repository ns workload : String) :
    (ensureSecrets a creds repository ns workload).Calls (Lawful a b) := by
  unfold ensureSecrets ensureStoreSecrets
  split
  · exact Calls.pure _
  · refine Calls.andThen ?_ fun _ => lawful_ensureTLSSecret ns
    split
    · exact Calls.pure _
    · exact Calls.andThen (lawful_upsertSecret ns _) fun _ => lawful_ensureResticSecret _ _ _ _

theorem lawful_copySecrets (ns workload : String) : (copySecrets a b ns workload).Calls (Lawful a b) := by
  unfold copySecrets
  split
  · exact Calls.pure _
  · refine Calls.foldUntil (fun _ name _ => Calls.bind (Calls.ask (.get _ _)) fun answer => ?_) _
    cases answer with
    | error refused =>
      dsimp only
      split <;> exact Calls.pure _
    | ok secret =>
      refine Calls.bind (Calls.bind (Calls.ask (.get _ _)) fun answer => ?_) fun _ => Calls.pure _
      cases answer with
      | ok cur => exact Calls.ask (.refresh _ _ _)
      | error refused =>
        dsimp only
        split
        · exact Calls.bind (Calls.ask (.place _ _)) fun _ => Calls.pure _
        · exact Calls.pure _

end

end Calls

/-! ### Worlds between two calls -/

/-- The answers to a call during which nobody else moves: what the others do, they do in
calls of their own. -/
def atomically (o : Oracle) : Oracle := { o with drift := fun _ clusters => clusters }

theorem atomically_still (o : Oracle) : (atomically o).Still := fun _ _ => rfl

def SecretCall.serveAtomically (call : SecretCall) : Prog call.Reply := fun o => call.serve (atomically o)

/-- Where a call puts which Secret. -/
def SecretCall.puts : SecretCall → Option (ClusterId × ObjKey × Secret)
  | random | get .. => none
  | create _ c key secret | overwrite c key secret => some (c, key, secret)
  | update _ c key _ after => some (c, key, after)

/-- What a write must find in order to be carried out. -/
def SecretCall.Finds (s : World) : SecretCall → Prop
  | random | get .. => True
  | create _ c key _ => (s.clusters c).secrets key = none
  | update _ c key before _ => (s.clusters c).secrets key = some before
  | overwrite c key _ => (s.clusters c).secrets key ≠ none

/-- The Secrets after a Secret was put. -/
structure Put (c : ClusterId) (key : ObjKey) (secret : Secret) (s t : World) : Prop where
  here : (t.clusters c).secrets key = some secret
  elsewhere : ∀ other place, (other ≠ c ∨ place ≠ key) →
    (t.clusters other).secrets place = (s.clusters other).secrets place

variable {c a b : ClusterId} {key : ObjKey} {secret : Secret} {s : World} {o : Oracle} {side : Side}
  {ns workload : String}

theorem put_of_clusters {t : World} (moved : t.clusters = fun other => if other = c then Cluster.putSecret key secret
      (s.clusters c) else s.clusters other) : Put c key secret s t := by
  refine ⟨by simp [moved, Cluster.putSecret], fun other place apart => ?_⟩
  by_cases here : other = c
  · subst here
    have different : place ≠ key := apart.resolve_left fun no => no rfl
    simp [moved, Cluster.putSecret, different]
  · simp [moved, here]

section
variable {o : Oracle} (still : o.Still) (c : ClusterId) (key : ObjKey) (s : World)
include still

theorem createSecret_clusters (side : Side) (secret : Secret) :
    (createSecret side c key secret o s).2.clusters = s.clusters ∨
      (s.clusters c).secrets key = none ∧ Put c key secret s (createSecret side c key secret o s).2 := by
  rcases send_clusters _ c _ still s with same | ⟨after, changed, moved⟩
  · exact .inl same
  · split at changed
    · cases changed
    · rename_i absent
      cases changed
      exact .inr ⟨by simpa using absent, put_of_clusters moved⟩

theorem updateSecret_clusters (side : Side) (before secret : Secret) :
    (updateSecret side c key before secret o s).2.clusters = s.clusters ∨
      (s.clusters c).secrets key = some before ∧ Put c key secret s (updateSecret side c key before secret o s).2 := by
  rcases send_clusters _ c _ still s with same | ⟨after, changed, moved⟩
  · exact .inl same
  · split at changed
    · cases changed
    · rename_i now stored
      split at changed
      · rename_i current
        cases changed
        exact .inr ⟨stored.trans (congrArg some current), put_of_clusters moved⟩
      · cases changed

theorem overwriteSecret_clusters (secret : Secret) :
    (overwriteSecret c key secret o s).2.clusters = s.clusters ∨
      (s.clusters c).secrets key ≠ none ∧ Put c key secret s (overwriteSecret c key secret o s).2 := by
  rcases send_clusters _ c _ still s with same | ⟨after, changed, moved⟩
  · exact .inl same
  · split at changed
    · cases changed
    · rename_i now stored
      cases changed
      exact .inr ⟨by simp [stored], put_of_clusters moved⟩

end

/-- A create or an update that succeeds has put its Secret. -/
theorem createSecret_ok (still : o.Still) (done : (createSecret side c key secret o s).1 = .ok ()) :
    Put c key secret s (createSecret side c key secret o s).2 := by
  obtain ⟨after, changed, moved⟩ := send_ok still done
  split at changed
  · cases changed
  · exact put_of_clusters (by rw [Except.ok.inj changed]; exact moved)

theorem updateSecret_ok (still : o.Still) {before : Secret}
    (done : (updateSecret side c key before secret o s).1 = .ok ()) :
    Put c key secret s (updateSecret side c key before secret o s).2 := by
  obtain ⟨after, changed, moved⟩ := send_ok still done
  split at changed
  · cases changed
  · split at changed
    · exact put_of_clusters (by rw [Except.ok.inj changed]; exact moved)
    · cases changed

/-- A create that finds a Secret leaves it. -/
theorem createSecret_exists (still : o.Still) {refused : ApiError}
    (answer : (createSecret side c key secret o s).1 = .error refused) (there : refused.reason = .alreadyExists) :
    (s.clusters c).secrets key ≠ none ∧ (createSecret side c key secret o s).2.clusters = s.clusters := by
  obtain ⟨changed, unchanged⟩ := send_exists still answer there
  refine ⟨fun absent => ?_, unchanged⟩
  simp [absent] at changed

/-- A call leaves the clusters alone or puts its Secret, if it finds what it must. -/
theorem SecretCall.serve_clusters (call : SecretCall) (o : Oracle) (s : World) :
    (call.serveAtomically o s).2.clusters = s.clusters ∨
      ∃ c key secret, call.puts = some (c, key, secret) ∧ call.Finds s ∧
        Put c key secret s (call.serveAtomically o s).2 := by
  have still := atomically_still o
  cases call with
  | random => exact .inl (by simp [serveAtomically, serve, randomHex, tick, atomically])
  | get c key => exact .inl (by simp [serveAtomically, serve, getObject, fetch_still still])
  | create side c key secret =>
    rcases createSecret_clusters still c key s side secret with same | ⟨absent, put⟩
    · exact .inl same
    · exact .inr ⟨c, key, secret, rfl, absent, put⟩
  | update side c key before after =>
    rcases updateSecret_clusters still c key s side before after with same | ⟨stored, put⟩
    · exact .inl same
    · exact .inr ⟨c, key, after, rfl, stored, put⟩
  | overwrite c key secret =>
    rcases overwriteSecret_clusters still c key s secret with same | ⟨there, put⟩
    · exact .inl same
    · exact .inr ⟨c, key, secret, rfl, there, put⟩

/-! ### What never changes -/

/-- The value of a field of a Secret, or the empty text. -/
def secretField (s : World) (c : ClusterId) (key : ObjKey) (field : String) : String :=
  match (s.clusters c).secrets key with
  | none => ""
  | some secret => secret.data.get field

/-- The fields that the peers of a replication must agree on for good. -/
inductive Pinned (key : ObjKey) (field : String) : Prop where
  | password (workload : String) (named : key.name = resticSecretName workload) (restic : field = "RESTIC_PASSWORD")
  | psk (named : key.name = tlsSecretName) (tls : field = "psk")

/-- A value that is there stays. -/
def Unrotated (c : ClusterId) (key : ObjKey) (field : String) (s t : World) : Prop :=
  secretField s c key field ≠ "" → secretField t c key field = secretField s c key field

theorem unrotated_chains (c : ClusterId) (key : ObjKey) (field : String) : Program.Chains (Unrotated c key field) where
  refl _ _ := rfl
  trans := by
    intro s t u first second present
    have same := first present
    rw [second (by rwa [same]), same]

private theorem resticSecretName_ne (workload : String) :
    resticSecretName workload ≠ rcloneSecretName ∧ resticSecretName workload ≠ tlsSecretName := by
  constructor <;> intro same <;>
    simpa [resticSecretName, resticSecretStart, rcloneSecretName, tlsSecretName] using congrArg String.toList same

theorem Pinned.ne_rclone {field : String} (pinned : Pinned key field) : key.name ≠ rcloneSecretName := by
  cases pinned with
  | password workload named => rw [named]; exact (resticSecretName_ne workload).1
  | psk named => rw [named]; decide

/-- No lawful call changes a value that is there. -/
theorem Lawful.unrotated (distinct : a ≠ b) {call : SecretCall} (lawful : Lawful a b call) {field : String}
    (pinned : Pinned key field) (o : Oracle) (s : World) : Unrotated a key field s (call.serveAtomically o s).2 := by
  intro present
  have same_of {t : World} (same : (t.clusters a).secrets key = (s.clusters a).secrets key) :
      secretField t a key field = secretField s a key field := by
    simp only [secretField, same]
  rcases call.serve_clusters o s with same | ⟨c, place, secret, puts, finds, put⟩
  · exact same_of (by rw [same])
  · by_cases here : a = c ∧ key = place
    · obtain ⟨rfl, rfl⟩ := here
      cases lawful with
      | random | get => cases puts
      | seed =>
        cases puts
        have absent : (s.clusters a).secrets key = none := finds
        simp [secretField, absent] at present
      | renew named before after kept =>
        cases puts
        have stored : (s.clusters a).secrets key = some before := finds
        cases pinned with
        | password _ _ restic =>
          simp only [secretField, stored, restic] at present
          simp only [secretField, put.here, stored, restic]
          exact kept present
        | psk tls => exact absurd (named.symm.trans tls) (resticSecretName_ne _).2
      | rewrite named =>
        cases puts
        exact absurd named pinned.ne_rclone
      | place | refresh =>
        cases puts
        exact absurd rfl distinct
    · exact same_of (put.elsewhere a key (by tauto))

/-! ### What a copy leaves -/

section
variable {a b : ClusterId}
variable {s : World}

/-- The destination has the data of a Secret that the source has. -/
def Synced (a b : ClusterId) (key : ObjKey) (s : World) : Prop :=
  ∀ secret, (s.clusters a).secrets key = some secret →
    ∃ cur, (s.clusters b).secrets key = some cur ∧ cur.data = secret.data

def SameSource (a : ClusterId) (s t : World) : Prop :=
  ∀ key, (t.clusters a).secrets key = (s.clusters a).secrets key

/-- Moves that leave the source alone and put only current data on the destination. -/
structure Calm (a b : ClusterId) (s t : World) : Prop where
  source : SameSource a s t
  synced : ∀ key, Synced a b key s → Synced a b key t
  absent : ∀ key, (s.clusters b).secrets key = none → (t.clusters b).secrets key = none ∨ Synced a b key t

theorem calm_chains (a b : ClusterId) : Program.Chains (Calm a b) where
  refl s := ⟨fun _ => rfl, fun _ synced => synced, fun _ none => .inl none⟩
  trans := by
    intro s t u first second
    refine ⟨fun key => (second.source key).trans (first.source key), fun key synced =>
      second.synced key (first.synced key synced), fun key none => ?_⟩
    rcases first.absent key none with still | synced
    · exact second.absent key still
    · exact .inr (second.synced key synced)

/-- A write to the destination of data that the source does not have, or not any more. -/
def SecretCall.stale (a : ClusterId) (s : World) : SecretCall → Bool
  | .create .dest _ key secret | .update .dest _ key _ secret =>
    ((s.clusters a).secrets key).map Secret.data != some secret.data
  | _ => false

private theorem calm_of_same {t : World} (same : ∀ c, (t.clusters c).secrets = (s.clusters c).secrets) :
    Calm a b s t := by
  refine ⟨fun key => by rw [same], fun key synced => ?_, fun key none => .inl (by rw [same, none])⟩
  intro secret found
  rw [same] at found ⊢
  exact synced secret found

private theorem calm_of_put (distinct : a ≠ b) {key : ObjKey} {secret : Secret} {t : World}
    (put : Put b key secret s t) (current : ((s.clusters a).secrets key).map Secret.data = some secret.data) :
    Calm a b s t := by
  have source (place : ObjKey) : (t.clusters a).secrets place = (s.clusters a).secrets place :=
    put.elsewhere a place (.inl distinct)
  have here : Synced a b key t := by
    intro original found
    rw [source] at found
    refine ⟨secret, put.here, ?_⟩
    simpa [found, eq_comm] using current
  refine ⟨source, fun place synced => ?_, fun place none => ?_⟩
  · by_cases same : place = key
    · exact same ▸ here
    · intro original found
      rw [source] at found
      rw [put.elsewhere b place (.inr same)]
      exact synced original found
  · by_cases same : place = key
    · exact .inr (same ▸ here)
    · exact .inl (by rw [put.elsewhere b place (.inr same), none])

/-- A lawful call that is not stale and leaves the source's Secrets alone is calm. -/
theorem Lawful.calm (distinct : a ≠ b) {call : SecretCall} (lawful : Lawful a b call) {o : Oracle}
    (current : call.stale a s = false) (same : SameSource a s (call.serveAtomically o s).2) :
    Calm a b s (call.serveAtomically o s).2 := by
  rcases call.serve_clusters o s with unchanged | ⟨c, key, secret, puts, finds, put⟩
  · exact calm_of_same fun _ => by rw [unchanged]
  · have elsewhere (here : c = a) : Calm a b s (call.serveAtomically o s).2 := by
      refine calm_of_same fun cluster => funext fun place => ?_
      by_cases source : cluster = a
      · rw [source]
        exact same place
      · exact put.elsewhere cluster place (.inl (here ▸ source))
    cases lawful with
    | random | get => cases puts
    | seed | renew | rewrite => cases puts; exact elsewhere rfl
    | place | refresh =>
      cases puts
      exact calm_of_put distinct put (by simpa [SecretCall.stale] using current)

private theorem calm_get (c : ClusterId) (key : ObjKey) (o : Oracle) (s : World) :
    Calm a b s ((SecretCall.get c key).serveAtomically o s).2 := by
  rcases (SecretCall.get c key).serve_clusters o s with unchanged | ⟨_, _, _, puts, _⟩
  · exact calm_of_same fun _ => by rw [unchanged]
  · cases puts

/-- A Secret that the source has is placed on the destination as it is, whoever else
is placing it. -/
private theorem ends_placeSecret (distinct : a ≠ b) {key : ObjKey} {secret : Secret}
    (found : (s.clusters a).secrets key = some secret) :
    (Calls.placeSecret b key secret).Ends SecretCall.serveAtomically (Calm a b)
      (Program.Until (fun _ _ => True) fun _ t => Calm a b s t ∧ Synced a b key t) s := by
  have chains := calm_chains a b
  refine Thread.Ends.ask fun t moved o => ?_
  have read := calm_get (a := a) (b := b) b key o t
  have source (u : World) (calm : Calm a b s u) : (u.clusters a).secrets key = some secret :=
    (calm.source key).trans found
  have current (u : World) (calm : Calm a b s u) : ((u.clusters a).secrets key).map Secret.data = some secret.data := by
    rw [source u calm]; rfl
  have placed {cur : Secret} {u v : World} (calm : Calm a b s u) (put : Put b key cur u v)
      (same : cur.data = secret.data) : Calm a b s v ∧ Synced a b key v := by
    have step := calm_of_put distinct put (by rw [current u calm, same])
    have reached := chains.trans calm step
    refine ⟨reached, fun original stored => ⟨cur, put.here, ?_⟩⟩
    rw [source v reached] at stored
    rw [same, Option.some.inj stored]
  have still (p : Oracle) := atomically_still p
  have first := chains.trans moved read
  cases answer : ((SecretCall.get b key).serveAtomically o t).1 with
  | ok cur =>
    intro u moving p v later
    cases done : ((SecretCall.update .dest b key cur { cur with data := secret.data }).serveAtomically p u).1 with
    | error refused => trivial
    | ok _ =>
      obtain ⟨reached, synced⟩ := placed (chains.trans first moving) (updateSecret_ok (still p) done) rfl
      exact ⟨chains.trans reached later, later.synced key synced⟩
  | error refused =>
    dsimp only
    split
    · rename_i gone
      have absent : (t.clusters b).secrets key = none := getObject_notFound (still o) answer gone
      refine Thread.Ends.ask fun u moving p => Thread.Ends.pure fun v later => ?_
      have reached := chains.trans first moving
      cases done : ((SecretCall.create .dest b key secret).serveAtomically p u).1 with
      | ok _ =>
        obtain ⟨reached, synced⟩ := placed reached (createSecret_ok (still p) done) rfl
        exact ⟨chains.trans reached later, later.synced key synced⟩
      | error refusal =>
        by_cases there : refusal.reason = .alreadyExists
        · -- Somebody else has created it since, and only with current data.
          obtain ⟨present, unchanged⟩ := createSecret_exists (still p) done there
          have since : Synced a b key u :=
            ((chains.trans read moving).absent key absent).resolve_left present
          have same : Calm a b u ((SecretCall.create .dest b key secret).serveAtomically p u).2 :=
            calm_of_same fun _ => by rw [SecretCall.serveAtomically, SecretCall.serve, unchanged]
          simp only [ignoreExists, there, ↓reduceIte]
          exact ⟨chains.trans reached (chains.trans same later), later.synced key (same.synced key since)⟩
        · simp [ignoreExists, there, Program.Until]
    · exact Thread.Ends.pure fun _ _ => trivial

private theorem ends_copySecret (distinct : a ≠ b) (ns name : String) (s : World) :
    (Calls.copySecret a b ns () name).Ends SecretCall.serveAtomically (Calm a b)
      (Program.Until (fun _ _ => True) fun _ t => Calm a b s t ∧ Synced a b ⟨ns, name⟩ t) s := by
  have chains := calm_chains a b
  refine Thread.Ends.ask fun t moved o => ?_
  have read := calm_get (a := a) (b := b) a ⟨ns, name⟩ o t
  have reached := chains.trans moved read
  cases answer : ((SecretCall.get a ⟨ns, name⟩).serveAtomically o t).1 with
  | error refused =>
    dsimp only
    split
    · rename_i gone
      have absent : (t.clusters a).secrets ⟨ns, name⟩ = none :=
        getObject_notFound (atomically_still o) answer gone
      refine Thread.Ends.pure fun u later => ⟨chains.trans reached later, fun secret found => ?_⟩
      rw [(chains.trans read later).source, absent] at found
      cases found
    · exact Thread.Ends.pure fun _ _ => trivial
  | ok secret =>
    have stored : (t.clusters a).secrets ⟨ns, name⟩ = some secret := getObject_ok (atomically_still o) answer
    refine Thread.Ends.bind chains (ends_placeSecret distinct ((read.source _).trans stored)) fun done u after => ?_
    cases done with
    | error refused => exact Thread.Ends.pure fun _ _ => trivial
    | ok _ =>
      exact Thread.Ends.pure fun v later =>
        ⟨chains.trans reached (chains.trans after.1 later), later.synced _ after.2⟩

/-- Among calm moves, a copy that succeeds leaves every Secret that it takes over as the
source has it. -/
theorem ends_copySecrets (distinct : a ≠ b) (ns workload : String) (s : World) :
    (Calls.copySecrets a b ns workload).Ends SecretCall.serveAtomically (Calm a b)
      (Program.Until (fun _ _ => True) fun _ t => ∀ name ∈ Calls.copied ns workload, Synced a b ⟨ns, name⟩ t) s := by
  have chains := calm_chains a b
  simp only [Calls.copySecrets, distinct, ↓reduceIte]
  refine Thread.Ends.foldUntil chains (fun done _ t => ∀ name ∈ done, Synced a b ⟨ns, name⟩ t) ?_ _ ?_ (by simp)
  · intro done _ t u holds moved name member
    exact moved.synced _ (holds name member)
  · intro done name _ t holds
    refine (ends_copySecret distinct ns name t).mono fun answer u after => ?_
    cases answer with
    | error text => trivial
    | ok _ =>
      intro other member
      rcases List.mem_append.mp member with earlier | here
      · exact after.1.synced _ (holds other earlier)
      · rw [List.mem_singleton.mp here]
        exact after.2

end

private theorem run_atomically {α : Type} (x : SecretThread α) (o : Oracle) (s : World) :
    x.run SecretCall.serveAtomically o s = x.run SecretCall.serve (atomically o) s := by
  induction x generalizing s with
  | done value => rfl
  | call request next ih => exact ih _ _

/-- A copy that succeeds alone leaves every Secret that it takes over as the source has
it. -/
theorem copySecrets_ok (still : o.Still) (distinct : a ≠ b)
    (done : (copySecrets (some a) (some b) ns workload o s).1 = .ok ()) :
    ∀ name ∈ Calls.copied ns workload,
      Synced a b ⟨ns, name⟩ (copySecrets (some a) (some b) ns workload o s).2 := by
  have same : atomically o = o := by
    have unmoved : o.drift = fun _ clusters => clusters := funext fun n => funext fun clusters => still n clusters
    rw [atomically, ← unmoved]
  have ran := (ends_copySecrets distinct ns workload s).run (calm_chains a b) o
  rw [run_atomically, same, Calls.run_copySecrets, done] at ran
  exact ran

/-! ### Any number of calls at once -/

/-- A call of one of the two functions. -/
inductive SecretJob where
  | ensure (creds : Creds) (authority : String → Option String) (ns destPath workload : String)
  | copy (ns workload : String)

def SecretJob.program (a b : ClusterId) : SecretJob → SecretThread (Except String Unit)
  | ensure creds authority ns destPath workload => Except.mapError ApiError.message <$>
      Calls.ensureSecrets a creds (creds.resticRepository authority destPath) ns workload
  | copy ns workload => Calls.copySecrets a b ns workload

abbrev SecretPool := Pool World SecretJob SecretCall SecretCall.Reply (Except String Unit)

abbrev SecretTurn := PoolTurn SecretJob Oracle

/-- Interleavings of calls between a source `a` and a destination `b`. -/
abbrev SecretRuns (a b : ClusterId) (start : SecretPool) :=
  Pool.Runs (SecretJob.program a b) SecretCall.serveAtomically start

abbrev SecretStep := Step SecretPool SecretTurn SecretPool

theorem SecretJob.lawful (a b : ClusterId) (job : SecretJob) : (job.program a b).Calls (Lawful a b) := by
  cases job with
  | ensure creds authority ns destPath workload =>
    exact Thread.Calls.bind (Calls.lawful_ensureSecrets _ _ _ _) fun _ => Thread.Calls.pure _
  | copy ns workload => exact Calls.lawful_copySecrets ns workload

/-- No turn makes a call that is stale. -/
def Current (a : ClusterId) (step : SecretStep) : Prop :=
  ∀ call ∈ step.before.called step.input, call.stale a step.before.world = false

/-- Every copy that has returned success, with no write to a source Secret since it
began, has left the Secrets that it takes over as the source has them. -/
def CopiesAgree (a b : ClusterId) (steps : List SecretStep) (state : SecretPool) : Prop :=
  ∀ earlier begun later id ns workload, steps = earlier ++ begun :: later →
    begun.input = .start id (.copy ns workload) →
    (∀ step ∈ later, SameSource a step.before.world step.output.world) →
    state.threads id = some (.copy ns workload, .done (.ok ())) →
    ∀ name ∈ Calls.copied ns workload, Synced a b ⟨ns, name⟩ state.world

section
variable {a b : ClusterId} {start state : SecretPool} {steps : List SecretStep}

private theorem step_calm (distinct : a ≠ b) (run : SecretRuns a b start steps state)
    (idle : ∀ id, start.threads id = none) {step : SecretStep} (member : step ∈ steps) (current : Current a step)
    (same : SameSource a step.before.world step.output.world) :
    Calm a b step.before.world step.output.world := by
  obtain ⟨earlier, later, split⟩ := List.append_of_mem member
  obtain ⟨before, taken⟩ := run.reached earlier later step split
  rcases Pool.act_serves taken with unchanged | ⟨call, o, called, served⟩
  · rw [unchanged]
    exact (calm_chains a b).refl _
  · have lawful := Pool.Runs.called_allowed before idle (SecretJob.lawful a b) called
    rw [served] at same ⊢
    exact lawful.calm distinct (current call called) same

/-- In every interleaving a password or a key that a source Secret holds is never
changed. If no copy places data that the source does not have any more, every copy
that succeeds undisturbed leaves the destination with the source's data. -/
theorem run_secrets (distinct : a ≠ b) (run : SecretRuns a b start steps state)
    (idle : ∀ id, start.threads id = none) :
    (∀ key field, Pinned key field → ∀ step ∈ steps, Unrotated a key field step.before.world state.world) ∧
      ((∀ step ∈ steps, Current a step) → CopiesAgree a b steps state) := by
  constructor
  · intro key field pinned
    exact Pool.Runs.guarantee run idle (SecretJob.lawful a b) (unrotated_chains a key field)
      fun call lawful o s => lawful.unrotated distinct pinned o s
  · intro current earlier begun later id ns workload split started same finished
    have inside (step : SecretStep) (member : step ∈ later) : step ∈ steps := by simp [split, member]
    obtain ⟨thread, running, ends⟩ := Pool.Runs.ends run (calm_chains a b) split started
      (fun step member => step_calm distinct run idle (inside step member) (current step (inside step member))
        (same step member)) (ends_copySecrets distinct ns workload)
    obtain ⟨_, rfl⟩ := Prod.mk.inj (Option.some.inj (running.symm.trans finished))
    exact ends state.world ((calm_chains a b).refl _)

end

/-! ### Two workloads of one namespace -/

/-- Keys that replace older ones in the source's rclone Secret. -/
def rotated : Creds := { accessKey := "new", secretKey := "key", bucket := "store" }

def rcloneKey : ObjKey := ⟨"shop", rcloneSecretName⟩

/-- A source whose rclone Secret still has the older keys, and an empty destination. -/
def olderKeys : SecretPool where
  world := {
    clusters := fun c =>
      if c = 0 then Cluster.putSecret rcloneKey { data := .table [("rclone.conf", "old")] } {} else {}
    action := { spec := { type := .replicate, policyRef := "shop" } } }

/-- The turn begins a copy. -/
private def starts (turn : SecretTurn) (id : Nat) (ns workload : String) : Bool :=
  match turn with
  | .start other (.copy space name) => other == id && space == ns && name == workload
  | _ => false

private def returned (pool : SecretPool) (id : Nat) (ns workload : String) : Bool :=
  match pool.threads id with
  | some (.copy space name, .done (.ok _)) => space == ns && name == workload
  | _ => false

private theorem starts_eq {turn : SecretTurn} {id : Nat} (begins : starts turn id ns workload = true) :
    turn = .start id (.copy ns workload) := by
  unfold starts at begins
  split at begins
  · simp only [Bool.and_eq_true, beq_iff_eq] at begins
    obtain ⟨⟨rfl, rfl⟩, rfl⟩ := begins
    rfl
  · contradiction

private theorem returned_eq {pool : SecretPool} {id : Nat} (back : returned pool id ns workload = true) :
    pool.threads id = some (.copy ns workload, .done (.ok ())) := by
  unfold returned at back
  split at back
  · rename_i running
    simp only [Bool.and_eq_true, beq_iff_eq] at back
    obtain ⟨rfl, rfl⟩ := back
    exact running
  · contradiction

private def turns (id count : Nat) : List SecretTurn :=
  List.replicate count (.step id { random := fun _ => "secret" })

/-- The keys are rotated and then copied: the copy takes over what it finds. -/
theorem run_secrets_rotated : ∃ steps state, SecretRuns 0 1 olderKeys steps state ∧
    state.threads 1 = some (.copy "shop" "web", .done (.ok ())) ∧
    secretField state.world 1 ⟨"shop", resticSecretName "web"⟩ "RESTIC_PASSWORD" = "secret" ∧
    (∀ key field, Pinned key field → ∀ step ∈ steps, Unrotated 0 key field step.before.world state.world) ∧
      CopiesAgree 0 1 steps state := by
  obtain ⟨steps, state, run, done, copied, current⟩ : ∃ steps state, SecretRuns 0 1 olderKeys steps state ∧
      returned state 1 "shop" "web" = true ∧
      secretField state.world 1 ⟨"shop", resticSecretName "web"⟩ "RESTIC_PASSWORD" = "secret" ∧
      ∀ step ∈ steps, ∀ call ∈ step.before.called step.input, call.stale 0 step.before.world = false :=
    Run.exists_of_execute (.start 0 (.ensure rotated some "shop" "s3://store" "web") :: turns 0 8 ++
      .start 1 (.copy "shop" "web") :: turns 1 9) (by decide +kernel)
  obtain ⟨kept, agree⟩ := run_secrets (by decide) run (fun _ => rfl)
  exact ⟨steps, state, run, returned_eq done, copied, kept, agree current⟩

private theorem sameSource_of_puts {pool after : SecretPool} {turn : SecretTurn}
    (taken : Pool.act (SecretJob.program a b) SecretCall.serveAtomically pool turn = some after)
    (spared : ∀ call ∈ pool.called turn, ∀ put ∈ call.puts, put.1 ≠ a) : SameSource a pool.world after.world := by
  intro key
  rcases Pool.act_serves taken with unchanged | ⟨call, o, called, served⟩
  · rw [unchanged]
  · rw [served]
    rcases call.serve_clusters o pool.world with same | ⟨c, place, secret, puts, _, put⟩
    · rw [same]
    · exact put.elsewhere a key (.inl (spared call called _ puts).symm)

/-- A copy for one workload reads the older keys, which are then replaced; a copy for
another reads the new ones, finds that the first has created the Secret meanwhile, and
succeeds with the older keys on the destination. -/
theorem run_copies_disagree : ∃ steps state, SecretRuns 0 1 olderKeys steps state ∧
    ¬ CopiesAgree 0 1 steps state := by
  obtain ⟨steps, state, run, ⟨begun, taken, begins⟩, spared, done, secret, stored, different⟩ : ∃ steps state,
      SecretRuns 0 1 olderKeys steps state ∧ (∃ begun ∈ steps[5]?, starts begun.input 2 "shop" "api" = true) ∧
      (∀ step ∈ steps.drop 6, ∀ call ∈ step.before.called step.input, ∀ put ∈ call.puts, put.1 ≠ 0) ∧
      returned state 2 "shop" "api" = true ∧ ∃ secret ∈ (state.world.clusters 0).secrets rcloneKey,
        ((state.world.clusters 1).secrets rcloneKey).map Secret.data ≠ some secret.data :=
    Run.exists_of_execute (.start 0 (.copy "shop" "web") :: turns 0 1 ++
      .start 1 (.ensure rotated some "shop" "s3://store" "web") :: turns 1 2 ++
      .start 2 (.copy "shop" "api") :: turns 2 2 ++ turns 0 2 ++ turns 2 3) (by decide +kernel)
  refine ⟨steps, state, run, fun agree => different ?_⟩
  have split : steps = steps.take 5 ++ begun :: steps.drop 6 := by
    obtain ⟨inside, same⟩ := List.getElem?_eq_some_iff.mp taken
    rw [← same, ← List.drop_eq_getElem_cons inside, List.take_append_drop]
  have undisturbed (step : SecretStep) (member : step ∈ steps.drop 6) :
      SameSource 0 step.before.world step.output.world :=
    sameSource_of_puts (run.taken step (List.mem_of_mem_drop member)) (spared step member)
  have synced := agree _ begun _ 2 "shop" "api" split (starts_eq begins) undisturbed (returned_eq done)
    rcloneSecretName (by simp [Calls.copied])
  obtain ⟨cur, found, same⟩ := synced secret stored
  have there : (state.world.clusters 1).secrets rcloneKey = some cur := found
  simp [there, same]

end Portage.VolSync
