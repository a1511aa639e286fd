import ValkeyOperator.AclText
import ValkeyOperator.WorkQueue

/-!
The watch on Secrets. A pass reads the object and then one Secret after the other, while anybody
may change them; `mapSecretToValkeyCluster` says which clusters a changed Secret wakes. The
question is whether a rotated password can stay out of valkey.conf.
-/

set_option autoImplicit false

namespace ValkeyOperator
open TextScan Dialogue WorkQueue

structure ClusterKey where
  ns : Text
  name : Text
  deriving DecidableEq

/-- What of the object decides whether and with which spec a pass writes the ConfigMap. -/
structure WatchedCluster where
  spec : ConfSpec
  deleting : Bool
  finalizer : Bool

inductive WatchInput
  | cluster (k : ClusterKey)
  | secret (ns name : Text)
  deriving DecidableEq

inductive WatchValue
  | cluster (c : Option WatchedCluster)
  | secret (data : Except Text (Text → Option Text))

def WatchValue.getCluster : WatchValue → Option WatchedCluster
  | .cluster c => c
  | .secret _ => none

def WatchValue.getSecret : WatchValue → Except Text (Text → Option Text)
  | .cluster _ => .error []
  | .secret data => data

def secretsOf (quote : Text → Text) (ns : Text) (w : WatchInput → WatchValue) : ConfInput :=
  ⟨ns, quote, fun name => (w (.secret ns name)).getSecret, none⟩

def secretRead (quote : Text → Text) (ns : Text) (v : WatchValue) : ConfInput :=
  ⟨ns, quote, fun _ => v.getSecret, none⟩

abbrev Reading := ExceptT Text (Prog WatchInput WatchValue)

def Reading.get {β : Type} (n : WatchInput) (f : WatchValue → Except Text β) : Reading β :=
  ExceptT.mk (do return f (← call n))

def Reading.give {β : Type} (x : Except Text β) : Reading β := ExceptT.mk (return x)

def Reading.wrapErr {β : Type} (context : String) (p : Reading β) : Reading β :=
  ExceptT.mk (do return ValkeyOperator.wrapErr context (← p.run))

section
variable (quote : Text → Text) (ns : Text)

def readSecretKey (ref : SecretRef) : Reading Text :=
  .get (.secret ns ref.name) (fun v => resolveSecretKey (secretRead quote ns v) ref)

/-- An invalid key pattern is an error before the Secret is read. -/
def readACLUser (u : ACLUserSpec) : Reading ResolvedACLUser :=
  match u.keyPatterns.find? (fun kp => !validACLKeyPattern kp) with
  | some kp => .give (.error ("ACL user ".toList ++ quote u.name ++ ": invalid key pattern ".toList ++
      quote kp ++ " (must start with ~ or %)".toList))
  | none => .get (.secret ns u.passwordSecret.name)
      (fun v => resolveACLUser (secretRead quote ns v) u)

def readACLUsers : List ACLUserSpec → Reading (List ResolvedACLUser)
  | [] => return []
  | u :: users => do
    let user ← readACLUser quote ns u
    let rest ← readACLUsers users
    return user :: rest

def readMetrics (spec : ConfSpec) : Reading Text :=
  match spec.metrics with
  | none => return []
  | some metrics =>
    if metrics.enabled then readSecretKey quote ns metrics.metricsSecret else return []

/-- `resolveConf` with a Get for every Secret. -/
def readConf (spec : ConfSpec) : Reading ACLConfig := do
  let operatorPassword ← (readSecretKey quote ns spec.operatorSecret).wrapErr "resolving operator secret: "
  Reading.give (wrapErr "invalid operator password: " (validatePassword operatorPassword))
  let appUsers ← (readACLUsers quote ns spec.aclUsers).wrapErr "resolving ACL users: "
  let metricsPassword ← (readMetrics quote ns spec).wrapErr "resolving metrics secret: "
  return ⟨operatorPassword, metricsPassword, spec.metrics.any (fun m => m.enabled), appUsers⟩

end

/-- A pass up to the ConfigMap. Without the finalizer it only adds it and asks for another pass. -/
def configPass (quote : Text → Text) (k : ClusterKey) : Prog WatchInput WatchValue (Outcome Text) := do
  match (← call (.cluster k)).getCluster with
  | none => return .done
  | some c =>
    if c.deleting then return .done
    else if c.finalizer then
      match ← (readConf quote k.ns c.spec).run with
      | .error _ => return .retry
      | .ok a => return .put (buildValkeyConfig c.spec a.operatorPassword a.metricsPassword a.users)
    else return .retry

def referencesSecret (spec : ConfSpec) (secretName : Text) : Bool :=
  spec.operatorSecret.name = secretName ||
    spec.aclUsers.any (fun user => user.passwordSecret.name = secretName) ||
    spec.metrics.any (fun metrics => metrics.metricsSecret.name = secretName)

/-- `names` are the names that clusters ever have. A List that fails wakes nobody. -/
def mapSecretToValkeyCluster (names : List ClusterKey) (w : WatchInput → WatchValue) (listed : Bool)
    (ns secretName : Text) : List ClusterKey :=
  if listed then
    names.filter (fun k => k.ns = ns &&
      (w (.cluster k)).getCluster.any (fun c => referencesSecret c.spec secretName))
  else []

/-- An object wakes itself. -/
def watches (names : List ClusterKey) (w : WatchInput → WatchValue) (listed : Bool) :
    WatchInput → List ClusterKey
  | .cluster k => [k]
  | .secret ns secretName => mapSecretToValkeyCluster names w listed ns secretName

abbrev WatchRuntime (μ : Type) := Runtime ClusterKey WatchInput μ

abbrev WatchState (μ : Type) := State ClusterKey WatchInput WatchValue Text μ

abbrev WatchEvent := WorkQueue.Event ClusterKey WatchInput WatchValue Text

section
variable {μ : Type} (rt : WatchRuntime μ)

def startupEnqueuer (names : List ClusterKey) (w : WatchInput → WatchValue) (m : μ) : μ :=
  (names.filter (fun k => (w (.cluster k)).getCluster.isSome)).foldl rt.add m

def startup (names : List ClusterKey) (w : WatchInput → WatchValue) (m : μ)
    (stored : ClusterKey → Option Text) : WatchState μ :=
  ⟨w, startupEnqueuer rt names w m, none, stored⟩

def watchRun (quote : Text → Text) (names : List ClusterKey) (w : WatchInput → WatchValue) (m : μ)
    (stored : ClusterKey → Option Text) (es : List WatchEvent) : WatchState μ :=
  run rt (configPass quote) (watches names) (startup rt names w m stored) es

end

section
variable {w : WatchInput → WatchValue} {n : WatchInput} {quote : Text → Text} {ns : Text}

theorem Reading.eval_bind {β γ : Type} (p : Reading β) (f : β → Reading γ) :
    eval w (p >>= f).run = (eval w p.run >>= fun a => eval w (f a).run) := by
  refine (WorkQueue.eval_bind w p.run (ExceptT.bindCont f)).trans ?_
  cases eval w p.run with
  | error err => rfl
  | ok a => rfl

theorem Reading.eval_wrapErr {β : Type} (context : String) (p : Reading β) :
    eval w (p.wrapErr context).run = ValkeyOperator.wrapErr context (eval w p.run) :=
  WorkQueue.eval_bind w p.run _

theorem eval_readACLUser (u : ACLUserSpec) :
    eval w (readACLUser quote ns u).run = resolveACLUser (secretsOf quote ns w) u := by
  unfold readACLUser resolveACLUser
  cases hfind : u.keyPatterns.find? (fun kp => !validACLKeyPattern kp) with
  | some kp => rfl
  | none => rfl

theorem eval_readACLUsers (users : List ACLUserSpec) :
    eval w (readACLUsers quote ns users).run = resolveACLUsers (secretsOf quote ns w) users := by
  unfold resolveACLUsers
  induction users with
  | nil => rfl
  | cons u users ih =>
    rw [readACLUsers,Reading.eval_bind,eval_readACLUser,List.mapM_cons]
    refine congrArg _ (funext fun user => ?_)
    rw [Reading.eval_bind,ih]
    rfl

theorem eval_readMetrics (spec : ConfSpec) :
    eval w (readMetrics quote ns spec).run = resolveMetrics (secretsOf quote ns w) spec := by
  unfold readMetrics resolveMetrics
  cases spec.metrics with
  | none => rfl
  | some metrics =>
    dsimp only
    split_ifs
    · rfl
    · rfl

theorem eval_readConf (spec : ConfSpec) :
    eval w (readConf quote ns spec).run = resolveConf (secretsOf quote ns w) spec := by
  simp only [readConf,Reading.eval_bind,Reading.eval_wrapErr,eval_readACLUsers,eval_readMetrics]
  rfl

theorem eval_configPass (k : ClusterKey) :
    eval w (configPass quote k) = match (w (.cluster k)).getCluster with
      | none => .done
      | some c =>
        if c.deleting then .done
        else if c.finalizer then
          match reconcileConfigMap (secretsOf quote k.ns w) c.spec with
          | .error _ => .retry
          | .ok conf => .put conf
        else .retry := by
  refine (WorkQueue.eval_bind w (call (.cluster k)) _).trans ?_
  simp only [call,eval]
  cases (w (.cluster k)).getCluster with
  | none => rfl
  | some c =>
    dsimp only
    split_ifs
    · rfl
    · rw [WorkQueue.eval_bind,eval_readConf,reconcileConfigMap]
      cases resolveConf (secretsOf quote k.ns w) c.spec with
      | error err => rfl
      | ok a => rfl
    · rfl

theorem Reading.asks_bind {β γ : Type} {p : Reading β} {f : β → Reading γ}
    (h : Asks w n (p >>= f).run) : Asks w n p.run ∨ ∃ a, Asks w n (f a).run := by
  rcases (WorkQueue.asks_bind (p := p.run) (f := ExceptT.bindCont f)).mp h with hp | hf
  · exact .inl hp
  · cases heval : eval w p.run with
    | error err =>
      rw [heval] at hf
      exact hf.elim
    | ok a =>
      rw [heval] at hf
      exact .inr ⟨a, hf⟩

theorem Reading.asks_wrapErr {β : Type} {context : String} {p : Reading β}
    (h : Asks w n (p.wrapErr context).run) : Asks w n p.run :=
  (WorkQueue.asks_bind.mp h).elim id False.elim

theorem Reading.asks_get {β : Type} {m : WatchInput} {f : WatchValue → Except Text β}
    (h : Asks w n (Reading.get m f).run) : n = m :=
  h.elim Eq.symm False.elim

theorem asks_readACLUser {u : ACLUserSpec} (h : Asks w n (readACLUser quote ns u).run) :
    n = .secret ns u.passwordSecret.name := by
  unfold readACLUser at h
  split at h
  · exact h.elim
  · exact Reading.asks_get h

theorem asks_readACLUsers {users : List ACLUserSpec} (h : Asks w n (readACLUsers quote ns users).run) :
    ∃ u ∈ users, n = .secret ns u.passwordSecret.name := by
  induction users with
  | nil => exact h.elim
  | cons u users ih =>
    rcases Reading.asks_bind h with hu | ⟨user,hrest⟩
    · exact ⟨u, List.mem_cons_self, asks_readACLUser hu⟩
    · rcases Reading.asks_bind hrest with husers | ⟨rest,hend⟩
      · obtain ⟨v,hv,hn⟩ := ih husers
        exact ⟨v, List.mem_cons_of_mem _ hv, hn⟩
      · exact hend.elim

theorem asks_readMetrics {spec : ConfSpec} (h : Asks w n (readMetrics quote ns spec).run) :
    ∃ metrics ∈ spec.metrics, n = .secret ns metrics.metricsSecret.name := by
  unfold readMetrics at h
  split at h
  · exact h.elim
  · next metrics hmetrics =>
    split_ifs at h
    · exact ⟨metrics, hmetrics, Reading.asks_get h⟩
    · exact h.elim

/-- A pass reads no Secret that the map function would not see it refer to. -/
theorem asks_readConf {spec : ConfSpec} (h : Asks w n (readConf quote ns spec).run) :
    ∃ secretName, n = .secret ns secretName ∧ referencesSecret spec secretName = true := by
  unfold referencesSecret
  rcases Reading.asks_bind h with hop | ⟨password,h⟩
  · exact ⟨_, Reading.asks_get (Reading.asks_wrapErr hop), by simp⟩
  rcases Reading.asks_bind h with hvalid | ⟨_,h⟩
  · exact hvalid.elim
  rcases Reading.asks_bind h with husers | ⟨users,h⟩
  · obtain ⟨u,hu,hn⟩ := asks_readACLUsers (Reading.asks_wrapErr husers)
    have hany : spec.aclUsers.any (fun user => user.passwordSecret.name = u.passwordSecret.name) = true :=
      List.any_eq_true.mpr ⟨u, hu, by simp⟩
    exact ⟨_, hn, by rw [hany]; simp⟩
  rcases Reading.asks_bind h with hmetrics | ⟨metrics,h⟩
  · obtain ⟨metrics,hsome,hn⟩ := asks_readMetrics (Reading.asks_wrapErr hmetrics)
    exact ⟨_, hn, by simp [Option.mem_def.mp hsome]⟩
  · exact h.elim

theorem asks_configPass {k : ClusterKey} (h : Asks w n (configPass quote k)) :
    n = .cluster k ∨ ∃ c secretName, (w (.cluster k)).getCluster = some c ∧ n = .secret k.ns secretName ∧
      referencesSecret c.spec secretName = true := by
  rcases WorkQueue.asks_bind.mp h with hcluster | h
  · exact .inl (hcluster.elim Eq.symm False.elim)
  refine .inr ?_
  simp only [call,eval] at h
  split at h
  · exact h.elim
  · next c hc =>
    split_ifs at h
    · exact h.elim
    · rcases WorkQueue.asks_bind.mp h with hconf | hend
      · obtain ⟨secretName,hn,hreferences⟩ := asks_readConf hconf
        exact ⟨c, secretName, hc, hn, hreferences⟩
      · split at hend
        · exact hend.elim
        · exact hend.elim
    · exact h.elim

end

def LiveCluster (names : List ClusterKey) (w : WatchInput → WatchValue) (k : ClusterKey) : Prop :=
  k ∈ names ∧ ∃ c, (w (.cluster k)).getCluster = some c ∧ c.deleting = false

theorem mem_mapSecretToValkeyCluster {names : List ClusterKey} {w : WatchInput → WatchValue}
    {ns secretName : Text} {k : ClusterKey} :
    k ∈ mapSecretToValkeyCluster names w true ns secretName ↔ k ∈ names ∧ k.ns = ns ∧
      ∃ c, (w (.cluster k)).getCluster = some c ∧ referencesSecret c.spec secretName = true := by
  simp [mapSecretToValkeyCluster,Option.any_eq_true]

theorem watches_congr {names : List ClusterKey} {w w' : WatchInput → WatchValue} {k : ClusterKey}
    (h : w' (.cluster k) = w (.cluster k)) {m : WatchInput} (hk : k ∈ watches names w true m) :
    k ∈ watches names w' true m := by
  cases m with
  | cluster k' => exact hk
  | secret ns secretName =>
    simp only [watches,mem_mapSecretToValkeyCluster] at hk ⊢
    rw [h]
    exact hk

theorem watches_covers (quote : Text → Text) (names : List ClusterKey) :
    Covers (configPass quote) (watches names) (LiveCluster names) := by
  have hself : ∀ w k, k ∈ watches names w true (.cluster k) := fun _ _ => List.mem_cons_self
  refine ⟨?_, ?_, ?_⟩
  · intro w n v k hlive hasked
    rcases asks_configPass hasked with rfl | ⟨c,secretName,hc,rfl,hreferences⟩
    · exact hself _ k
    · have hsame : Function.update w (.secret k.ns secretName) v (.cluster k) = w (.cluster k) :=
        Function.update_of_ne (by simp) ..
      refine watches_congr hsame ?_
      exact mem_mapSecretToValkeyCluster.mpr ⟨hlive.1, rfl, c, hc, hreferences⟩
  · intro w n v k hlive
    by_cases hn : WatchInput.cluster k = n
    · subst hn
      exact .inr (hself _ k)
    · obtain ⟨hk,hexists⟩ := hlive
      rw [Function.update_of_ne hn] at hexists
      exact .inl ⟨hk, hexists⟩
  · intro w n v m k hlive hk
    by_cases hn : WatchInput.cluster k = n
    · subst hn
      exact .inr (hself _ k)
    · exact .inl (watches_congr (Function.update_of_ne hn ..) hk)

section
variable {μ : Type} {rt : WatchRuntime μ}

theorem startupEnqueuer_waiting (hrt : rt.Lawful) {ks : List ClusterKey} {m : μ} {k : ClusterKey}
    (h : k ∈ ks ∨ rt.waiting m k) : rt.waiting (ks.foldl rt.add m) k := by
  induction ks generalizing m with
  | nil => exact h.resolve_left List.not_mem_nil
  | cons j ks ih =>
    refine ih ?_
    rcases h with hmem | hwaiting
    · rcases List.mem_cons.mp hmem with rfl | hmem
      · exact .inr (hrt.added m k)
      · exact .inl hmem
    · exact .inr (hrt.add_waiting m j k hwaiting)

theorem startup_kept (hrt : rt.Lawful) (quote : Text → Text) (names : List ClusterKey)
    (w : WatchInput → WatchValue) (m : μ) (stored : ClusterKey → Option Text) :
    ∀ k, LiveCluster names w k →
      WorkQueue.Kept rt (configPass quote) (watches names) (startup rt names w m stored) k := by
  rintro k ⟨hk,c,hc,-⟩
  exact .inr (.inl (startupEnqueuer_waiting hrt (.inl (List.mem_filter.mpr ⟨hk, by simp [hc]⟩))))

/-- No List fails in `mapSecretToValkeyCluster`, which has no other way to hear of the change again. -/
def Listed (es : List WatchEvent) : Prop := ∀ ns secretName, .deliver (.input (.secret ns secretName)) false ∉ es

theorem Listed.finds {es : List WatchEvent} (h : Listed es) (names : List ClusterKey) :
    ∀ e ∈ es, Finds (watches names) e := by
  intro e he
  cases e with
  | deliver note listed =>
    cases note with
    | value k => trivial
    | input n =>
      cases n with
      | cluster k => exact fun _ => rfl
      | secret ns secretName =>
        cases listed with
        | true => exact fun _ => rfl
        | false => exact absurd he (h ns secretName)
  | _ => trivial

/-- Whatever order specs and Secrets change in, ConfigMaps are touched, notes arrive, passes read
and passes fail: once nothing is left to do, the valkey.conf of every cluster is the one that its
spec and the Secrets as they are give. -/
theorem configMap_current (hrt : rt.Lawful) (quote : Text → Text) (names : List ClusterKey)
    (w : WatchInput → WatchValue) (m : μ) (stored : ClusterKey → Option Text) (es : List WatchEvent)
    (hlisted : Listed es) (hquiet : WorkQueue.Quiet rt (watchRun rt quote names w m stored es))
    {k : ClusterKey} {c : WatchedCluster} (hk : k ∈ names)
    (hc : ((watchRun rt quote names w m stored es).world (.cluster k)).getCluster = some c)
    (hdeleting : c.deleting = false) :
    c.finalizer = true ∧ ∃ conf,
      reconcileConfigMap (secretsOf quote k.ns (watchRun rt quote names w m stored es).world) c.spec = .ok conf ∧
      (watchRun rt quote names w m stored es).stored k = some conf := by
  have hkept := kept_run hrt (watches_covers quote names) (hlisted.finds names)
    (startup_kept hrt quote names w m stored) k ⟨hk, c, hc, hdeleting⟩
  have hsettled := hkept.settled hquiet
  change Settled ((watchRun rt quote names w m stored es).stored k)
    (eval (watchRun rt quote names w m stored es).world (configPass quote k)) at hsettled
  generalize watchRun rt quote names w m stored es = s at *
  rw [eval_configPass,hc] at hsettled
  simp only [hdeleting] at hsettled
  cases hfinalizer : c.finalizer with
  | false =>
    rw [hfinalizer] at hsettled
    exact hsettled.elim
  | true =>
    refine ⟨rfl, ?_⟩
    rw [hfinalizer] at hsettled
    cases hconf : reconcileConfigMap (secretsOf quote k.ns s.world) c.spec with
    | error err =>
      rw [hconf] at hsettled
      exact hsettled.elim
    | ok conf =>
      rw [hconf] at hsettled
      exact ⟨conf, rfl, hsettled⟩

end

def cacheKey : ClusterKey := ⟨"prod".toList, "cache".toList⟩

def firstSecrets : WatchInput → WatchValue
  | .cluster k => .cluster (if k = cacheKey then some ⟨appSpec, false, true⟩ else none)
  | .secret _ _ => .secret (.ok (fun _ => some "first".toList))

def operatorInput : WatchInput := .secret cacheKey.ns appSpec.operatorSecret.name

def rotation : List WatchEvent :=
  [.start, .read, .read, .change operatorInput (.secret (.ok (fun _ => some "second".toList))),
    .deliver (.input operatorInput) true, .read, .finish, .start, .read, .read, .read, .finish]

abbrev WatchLists := List (Note ClusterKey WatchInput) × List ClusterKey

def rotated : WatchState WatchLists := watchRun fifo id [cacheKey] firstSecrets ([], []) (fun _ => none) rotation

theorem rotation_written : WorkQueue.Quiet fifo rotated ∧ ∃ conf,
    reconcileConfigMap (secretsOf id cacheKey.ns rotated.world) appSpec = .ok conf ∧
      rotated.stored cacheKey = some conf := by
  have hquiet : WorkQueue.Quiet fifo rotated :=
    ⟨fun _ => List.not_mem_nil, fun _ => List.not_mem_nil, rfl⟩
  have hlisted : Listed rotation := by simp [Listed,rotation]
  exact ⟨hquiet, (configMap_current fifo_lawful id [cacheKey] firstSecrets ([], []) (fun _ => none) rotation
    hlisted hquiet (c := ⟨appSpec, false, true⟩) List.mem_cons_self rfl rfl).2⟩

end ValkeyOperator
