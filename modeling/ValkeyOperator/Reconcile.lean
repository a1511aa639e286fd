import ValkeyOperator.Acl
import ValkeyOperator.Recovery
import ValkeyOperator.ShardStats
import ValkeyOperator.Failover

/-!
One pass of Reconcile, from the Get to the status patch. Everything the pass is
answered on its way is in its input.
-/

set_option autoImplicit false

namespace ValkeyOperator
open TextScan

inductive StsLookup where
  | notFound
  | failed
  | found : StatefulSetStatus → StsLookup
  deriving DecidableEq, Repr

structure StableInput where
  sts : StsLookup
  listed : Option (List Pod)

/-- An error of the API server is `none`. -/
def isStatefulSetStable (i : StableInput) (vc : ValkeyCluster) : Option Bool :=
  match i.sts with
  | .notFound => some false
  | .failed => none
  | .found sts =>
    if sts.currentRevision ≠ sts.updateRevision then some false
    else if sts.replicas ≠ totalPods vc then some false
    else if sts.readyReplicas ≠ totalPods vc then some false
    else
      match i.listed with
      | none => none
      | some pods => some (!pods.any (·.deleting))

/-- `reply` holds CLUSTER INFO and CLUSTER NODES of a pod that answers both. -/
structure StatusInput where
  sts : StsLookup
  availableAt : Time
  rollingAt : Time
  secretOK : Bool
  listed : Option (List Pod)
  reply : Pod → Option (Text × Text)
  patchOK : Bool

def World.setStatus (f : Status → Status) (w : World) : World :=
  { w with vc := { w.vc with status := f w.vc.status } }

def podRole (vc : ValkeyCluster) (entries : List NodeRoleEntry) (pod : Pod) : Option Role :=
  match ipToRole entries pod.podIP with
  | some role => some role
  | none => hostnameToRole entries (stableDNS vc pod)

def podRoles (vc : ValkeyCluster) (entries : List NodeRoleEntry) (pods : List Pod) :
    Text → Option Role :=
  pods.foldl (fun roles pod =>
    match podRole vc entries pod with
    | none => roles
    | some role => Function.update roles pod.name (some role)) (fun _ => none)

def refreshClusterStatus (i : StatusInput) (w : World) : World :=
  if !i.secretOK then w
  else
    match i.listed with
    | none => w
    | some pods =>
      match (readyWithIP pods).findSome? i.reply with
      | none => w
      | some (info, nodesRaw) =>
        w.setStatus (fun s => { s with
          clusterState := parseClusterInfoField info "cluster_state".toList
          slotsOk := int32 (parseClusterInfoInt info "cluster_slots_ok".toList)
          nodesOk := int32 (parseClusterInfoInt info "cluster_known_nodes".toList)
          podRoles := podRoles w.vc (parseNodeRoles nodesRaw) pods })

def setPhase (phase : Phase) (w : World) : World := w.setStatus (fun s => { s with phase := phase })

def setAvailability (i : StatusInput) (ready : Int) (w : World) : World :=
  let total := totalPods w.vc
  if ready = 0 then setPhase .initializing w
  else if ready < total then
    let w := if w.vc.status.phase ≠ .initializing then setPhase .degraded w else w
    w.setCondition i.availableAt ⟨.available, .false, "PartiallyReady",
      toString ready ++ "/" ++ toString total ++ " pods ready", w.vc.generation, 0⟩
  else if ready = total then
    (setPhase .running w).setCondition i.availableAt ⟨.available, .true, "ClusterReady",
      "All " ++ toString total ++ " pods ready", w.vc.generation, 0⟩
  else w

def setRollingUpdate (i : StatusInput) (sts : StatefulSetStatus) (w : World) : World :=
  if sts.currentRevision ≠ sts.updateRevision then
    (setPhase .updating w).setCondition i.rollingAt ⟨.rollingUpdate, .true, "UpdateInProgress",
      "rolling update in progress: " ++ toString sts.updatedReplicas ++ "/" ++
        toString (totalPods w.vc) ++ " pods updated", w.vc.generation, 0⟩
  else
    w.setCondition i.rollingAt ⟨.rollingUpdate, .false, "UpdateComplete",
      "all " ++ toString (totalPods w.vc) ++ " pods on current revision", w.vc.generation, 0⟩

def mergeStatus (base cur stored : Status) : Status where
  phase := MergePatch.field base.phase cur.phase stored.phase
  readyReplicas := MergePatch.field base.readyReplicas cur.readyReplicas stored.readyReplicas
  observedGeneration :=
    MergePatch.field base.observedGeneration cur.observedGeneration stored.observedGeneration
  clusterState := MergePatch.field base.clusterState cur.clusterState stored.clusterState
  slotsOk := MergePatch.field base.slotsOk cur.slotsOk stored.slotsOk
  nodesOk := MergePatch.field base.nodesOk cur.nodesOk stored.nodesOk
  podRoles := MergePatch.keyed base.podRoles cur.podRoles stored.podRoles
  nodes := MergePatch.field base.nodes cur.nodes stored.nodes
  conditions := MergePatch.field base.conditions cur.conditions stored.conditions

/-- `Status().Patch(ctx, vc, MergeFrom(base))`: of the difference only the status is stored. -/
def World.patchStatus (ok : Bool) (base : ValkeyCluster) (w : World) : World :=
  let w := w.emit (.patchStatus w.vc.status)
  if ok then
    let response := { w.stored with status := mergeStatus base.status w.vc.status w.stored.status }
    { w with vc := response, stored := response }
  else w

def fillStatus (i : StatusInput) (sts : StatefulSetStatus) (w : World) : World :=
  let w := w.setStatus (fun s => { s with
    readyReplicas := sts.readyReplicas
    observedGeneration := w.vc.generation })
  let w := setAvailability i sts.readyReplicas w
  let w := if sts.specReplicas ≠ totalPods w.vc then setPhase .scaling w else w
  refreshClusterStatus i (setRollingUpdate i sts w)

/-- The second component is whether an error is returned. -/
def updateStatus (i : StatusInput) (base : ValkeyCluster) (w : World) : World × Bool :=
  match i.sts with
  | .notFound => (w, false)
  | .failed => (w, true)
  | .found sts => ((fillStatus i sts w).patchStatus i.patchOK base, !i.patchOK)

inductive ReadResult where
  | notFound | failed | found
  deriving DecidableEq, Repr

/-- Whether each of the steps 1 to 4 that can end the pass succeeds. -/
structure SetupInput where
  configMapOK : Bool
  serviceAccountOK : Bool
  internalServiceOK : Bool
  clientServiceOK : Bool
  statefulSetOK : Bool

def SetupInput.ok (i : SetupInput) : Bool :=
  i.configMapOK && i.serviceAccountOK && i.internalServiceOK && i.clientServiceOK && i.statefulSetOK

structure PassInput where
  read : ReadResult
  updateOK : Bool
  initOK : Bool
  setup : SetupInput
  acl : ACLInput
  crash : CrashInput
  topology : TopologyInput
  health : HealthInput
  roles : RolesInput
  stable : StableInput
  drain : DrainInput
  orphans : OrphanInput
  stats : StatsInput
  rebalance : RebalanceInput
  status : StatusInput

def PassInput.listings (i : PassInput) : List (Option (List Pod)) :=
  [i.acl.listed, i.crash.listed, i.topology.listed, i.topology.gossip.listed, i.health.listed,
    i.health.statusPods, i.health.resetPods, i.health.forget.listed, i.health.placedPods,
    i.roles.listed, i.stable.listed, i.drain.listed, i.orphans.listed, i.stats.listed,
    i.rebalance.listed, i.status.listed]

/-- `requeueAfter` is zero when no time is set. -/
structure PassResult where
  world : World
  requeue : Bool
  requeueAfter : Int
  err : Bool

def requeueInterval : Int := 3*second

/-- An Update of the whole object: the response is what was sent. -/
def World.update (ok : Bool) (vc : ValkeyCluster) (w : World) : World :=
  if ok then { w with vc := vc, stored := vc } else { w with vc := vc }

def handleDeletion (i : PassInput) (w : World) : PassResult :=
  if !w.vc.finalizer then ⟨w, false, 0, false⟩
  else ⟨w.update i.updateOK { w.vc with finalizer := false }, false, 0, !i.updateOK⟩

def finishPass (i : PassInput) (base : ValkeyCluster) (w : World) : PassResult :=
  match updateStatus i.status base w with
  | (w, true) => ⟨w, false, 0, true⟩
  | (w, false) => ⟨w, false, requeueInterval, false⟩

/-- Steps 12 to 14. -/
def mutateCluster (i : PassInput) (w : World) : World :=
  let w := (reconcileOrphanReplicas i.orphans w).1
  let w := (reconcileShardStats i.stats w).1
  match w.vc.spec.rebalance with
  | some rebalance => if rebalance.enabled then (reconcileRebalance i.rebalance w).1 else w
  | none => w

/-- Steps 8 and 9. -/
def observeCluster (i : PassInput) (w : World) : World :=
  (reconcileReplicaRoles i.roles (reconcileClusterHealth i.health w).1).1

/-- Steps 8 to 14 and the status, on a formed cluster. -/
def reconcileFormed (i : PassInput) (base : ValkeyCluster) (w : World) : PassResult :=
  let w := observeCluster i w
  match isStatefulSetStable i.stable w.vc with
  | none => ⟨w, false, 5*second, false⟩
  | some false => ⟨(updateStatus i.status base w).1, false, requeueInterval, false⟩
  | some true =>
    match reconcileNodeDrainFailover i.drain w with
    | (w, .requeued) => ⟨w, false, 2*second, false⟩
    | (w, _) => finishPass i base (mutateCluster i w)

def afterTopology (i : PassInput) (base : ValkeyCluster) (t : TopologyResult) : PassResult :=
  if t.err then ⟨t.world, false, 5*second, false⟩
  else if t.isBootstrapped then reconcileFormed i base t.world
  else finishPass i base t.world

section
variable (sum256 : Text → Digest)

/-- From the snapshot of the status patch on. -/
def reconcileSteps (i : PassInput) (w : World) : PassResult :=
  if !i.setup.ok then ⟨w, false, 0, true⟩
  else
    match reconcileACLs sum256 i.acl w with
    | (w, true) => ⟨w, false, 5*second, false⟩
    | (w', false) =>
      afterTopology i w.vc
        (reconcileClusterTopology i.topology (reconcileCrashLoopRecovery i.crash w').1)

def reconcile (i : PassInput) (stored : ValkeyCluster) : PassResult :=
  let w := World.start stored
  match i.read with
  | .notFound => ⟨w, false, 0, false⟩
  | .failed => ⟨w, false, 0, true⟩
  | .found =>
    if w.vc.deleting then handleDeletion i w
    else if !w.vc.finalizer then
      ⟨w.update i.updateOK { w.vc with finalizer := true }, i.updateOK, 0, !i.updateOK⟩
    else if w.vc.status.phase = .none then
      let w := w.update i.initOK { w.vc with status := { w.vc.status with phase := .pending } }
      if i.initOK then reconcileSteps sum256 i w else ⟨w, false, 0, true⟩
    else reconcileSteps sum256 i w

def entryObject (stored : ValkeyCluster) : ValkeyCluster :=
  if stored.status.phase = .none then { stored with status := { stored.status with phase := .pending } }
  else stored

theorem entryObject_annotations (stored : ValkeyCluster) :
    (entryObject stored).annotations = stored.annotations := by
  unfold entryObject
  split <;> rfl

theorem entryObject_fixed (stored : ValkeyCluster) : (entryObject stored).fixed = stored.fixed := by
  unfold entryObject
  split <;> rfl

/-- Steps 1 to 6 let the pass come to step 7. -/
def reachesTopology (i : PassInput) (stored : ValkeyCluster) : Bool :=
  i.read = .found && !stored.deleting && stored.finalizer &&
    (decide (stored.status.phase ≠ .none) || i.initOK) && i.setup.ok &&
    i.acl.config.isSome && i.acl.listed.isSome

def beforeTopology (i : PassInput) (stored : ValkeyCluster) : World :=
  (reconcileCrashLoopRecovery i.crash
    (reconcileACLs sum256 i.acl (World.start (entryObject stored))).1).1

theorem reconcileSteps_reaches {i : PassInput} {w : World} (hs : i.setup.ok = true)
    (hc : i.acl.config.isSome = true) (hl : i.acl.listed.isSome = true) :
    reconcileSteps sum256 i w = afterTopology i w.vc (reconcileClusterTopology i.topology
      (reconcileCrashLoopRecovery i.crash (reconcileACLs sum256 i.acl w).1).1) := by
  have herr : (reconcileACLs sum256 i.acl w).2 = false := by
    rw [reconcileACLs_err]
    simp [Option.isNone_eq_false_iff,hc,hl]
  have heq : reconcileACLs sum256 i.acl w = ((reconcileACLs sum256 i.acl w).1, false) := by
    rw [← herr]
  unfold reconcileSteps
  rw [hs,heq]
  rfl

theorem reconcile_reaches {i : PassInput} {stored : ValkeyCluster}
    (h : reachesTopology i stored = true) :
    reconcile sum256 i stored = afterTopology i (entryObject stored)
      (reconcileClusterTopology i.topology (beforeTopology sum256 i stored)) := by
  simp only [reachesTopology,Bool.and_eq_true,Bool.or_eq_true,decide_eq_true_eq,
    Bool.not_eq_true'] at h
  obtain ⟨⟨⟨⟨⟨⟨hread,hdel⟩,hfin⟩,hphase⟩,hsetup⟩,hconfig⟩,hlisted⟩ := h
  have hsteps : ∀ w, reconcileSteps sum256 i w = _ :=
    fun w => reconcileSteps_reaches sum256 hsetup hconfig hlisted
  have hstart : (World.start stored).vc = stored := rfl
  unfold reconcile beforeTopology entryObject
  rw [hread]
  simp only [hstart,hdel,hfin,Bool.not_true,Bool.false_eq_true,if_false]
  by_cases hp : stored.status.phase = .none
  · have hinit : i.initOK = true := hphase.resolve_left (fun hne => hne hp)
    simp only [if_pos hp,hinit,if_true]
    exact hsteps _
  · simp only [if_neg hp]
    exact hsteps _

theorem reconcileSteps_stopped {i : PassInput}
    (h : (i.setup.ok && i.acl.config.isSome && i.acl.listed.isSome) = false) (w : World) :
    (reconcileSteps sum256 i w).world = w := by
  unfold reconcileSteps
  cases hs : i.setup.ok with
  | false => rfl
  | true =>
    have hacl : reconcileACLs sum256 i.acl w = (w, true) := by
      unfold reconcileACLs
      cases hc : i.acl.config with
      | none => rfl
      | some c =>
        cases hl : i.acl.listed with
        | none => rfl
        | some pods => simp [hs,hc,hl] at h
    rw [hacl]
    rfl

/-- A pass that does not come to step 7 sends no command and stores no annotation. -/
theorem reconcile_early {i : PassInput} {stored : ValkeyCluster}
    (h : reachesTopology i stored = false) :
    (reconcile sum256 i stored).world.log = [] ∧
      (reconcile sum256 i stored).world.stored.annotations = stored.annotations := by
  -- the finalizer and the first phase are written as a whole object, with its annotations
  have hupdate : ∀ (ok : Bool) (vc : ValkeyCluster), vc.annotations = stored.annotations →
      ((World.start stored).update ok vc).log = [] ∧
      ((World.start stored).update ok vc).stored.annotations = stored.annotations := by
    intro ok vc hvc
    cases ok with
    | false => exact ⟨rfl, rfl⟩
    | true => exact ⟨rfl, hvc⟩
  have hstart : (World.start stored).vc = stored := rfl
  unfold reconcile
  cases hread : i.read with
  | notFound => exact ⟨rfl, rfl⟩
  | failed => exact ⟨rfl, rfl⟩
  | found =>
    simp only [hstart]
    split_ifs with hdel hfin hp hinit
    · unfold handleDeletion
      split
      · exact ⟨rfl, rfl⟩
      · exact hupdate i.updateOK _ rfl
    · exact hupdate i.updateOK _ rfl
    · have hfin' : stored.finalizer = true := by simpa using hfin
      rw [reconcileSteps_stopped sum256 (by simpa [reachesTopology,hread,hdel,hfin',hp,hinit] using h)]
      exact hupdate i.initOK _ rfl
    · exact hupdate i.initOK _ rfl
    · have hfin' : stored.finalizer = true := by simpa using hfin
      rw [reconcileSteps_stopped sum256 (by simpa [reachesTopology,hread,hdel,hfin',hp] using h)]
      exact ⟨rfl, rfl⟩

theorem beforeTopology_frame {keys : AnnotationKey → Prop} {acts : Event → Prop}
    (h₁ : ¬ keys .aclHash) (h₂ : ∀ pod, ¬ keys (.crashSince pod))
    (ha : ∀ e, e.IsACL → acts e) (hr : ∀ e, e.IsRecovery → acts e)
    (i : PassInput) (stored : ValkeyCluster) :
    Frame keys acts (World.start (entryObject stored)) (beforeTopology sum256 i stored) := by
  have hacl : Frame keys acts (World.start (entryObject stored)) _ :=
    reconcileACLs_frame sum256 h₁ ha i.acl (World.start (entryObject stored))
  exact hacl.trans (reconcileCrashLoopRecovery_frame h₂ hr i.crash _)

end

structure Ends (keys : AnnotationKey → Prop) (acts : Event → Prop) (w w' : World) : Prop where
  keeps : ∀ k, keys k → w.Synced k → w'.stored.annotations k = w.stored.annotations k
  emits : ∃ es, w'.log = w.log ++ es ∧ ∀ e ∈ es, acts e

section
variable {keys : AnnotationKey → Prop} {acts : Event → Prop} {w w' w'' : World}

theorem Frame.ends (h : Frame keys acts w w') : Ends keys acts w w' :=
  ⟨fun k hk hs => (h.keeps k hk hs).2, h.emits⟩

theorem Frame.trans_ends (h₁ : Frame keys acts w w') (h₂ : Ends keys acts w' w'') :
    Ends keys acts w w'' where
  keeps k hk hs := (h₂.keeps k hk (h₁.synced hk hs)).trans (h₁.keeps k hk hs).2
  emits := by
    obtain ⟨es,hlog,hes⟩ := h₁.emits
    obtain ⟨es',hlog',hes'⟩ := h₂.emits
    refine ⟨es ++ es', by rw [hlog',hlog,List.append_assoc], ?_⟩
    intro e he
    rcases List.mem_append.mp he with he | he
    · exact hes e he
    · exact hes' e he

theorem Ends.mem_log (h : Ends keys acts w w') {e : Event} (he : e ∈ w'.log) :
    e ∈ w.log ∨ acts e := by
  obtain ⟨es,hlog,hes⟩ := h.emits
  rw [hlog] at he
  rcases List.mem_append.mp he with he | he
  · exact .inl he
  · exact .inr (hes e he)

theorem Ends.log_start {stored : ValkeyCluster} (h : Ends keys acts (World.start stored) w') :
    ∀ e ∈ w'.log, acts e :=
  fun _ he => (h.mem_log he).resolve_left (by simp [World.start])

end

def Restates (type : ConditionType) (w w' : World) : Prop :=
  ∃ s : Status, w' = { w with vc := { w.vc with status := s } } ∧
    conditionsOf type s.conditions = conditionsOf type w.vc.status.conditions

namespace Restates
variable {type : ConditionType} {w w' w'' : World}

theorem refl (type : ConditionType) (w : World) : Restates type w w := ⟨w.vc.status, rfl, rfl⟩

theorem trans (h₁ : Restates type w w') (h₂ : Restates type w' w'') : Restates type w w'' := by
  obtain ⟨s,rfl,hs⟩ := h₁
  obtain ⟨s',rfl,hs'⟩ := h₂
  exact ⟨s', rfl, hs'.trans hs⟩

theorem setStatus {f : Status → Status} (hf : (f w.vc.status).conditions = w.vc.status.conditions) :
    Restates type w (w.setStatus f) :=
  ⟨f w.vc.status, rfl, by rw [hf]⟩

theorem setCondition {cond : Condition} (h : cond.type ≠ type) (now : Time) (w : World) :
    Restates type w (w.setCondition now cond) :=
  ⟨_, rfl, setCondition_conditionsOf_other now h w.vc.status.conditions⟩

end Restates

theorem setAvailability_restates {type : ConditionType} (h : .available ≠ type) (i : StatusInput)
    (ready : Int) (w : World) : Restates type w (setAvailability i ready w) := by
  have hphase : ∀ (phase : Phase) (w : World), Restates type w (setPhase phase w) :=
    fun phase w => Restates.setStatus rfl
  unfold setAvailability
  dsimp only
  split_ifs
  · exact hphase .initializing w
  · exact (hphase .degraded w).trans (Restates.setCondition h i.availableAt _)
  · exact Restates.setCondition h i.availableAt _
  · exact (hphase .running w).trans (Restates.setCondition h i.availableAt _)
  · exact Restates.refl type w

theorem setRollingUpdate_restates {type : ConditionType} (h : .rollingUpdate ≠ type)
    (i : StatusInput) (sts : StatefulSetStatus) (w : World) :
    Restates type w (setRollingUpdate i sts w) := by
  have hphase : Restates type w (setPhase .updating w) := Restates.setStatus rfl
  unfold setRollingUpdate
  split
  · exact hphase.trans (Restates.setCondition h i.rollingAt _)
  · exact Restates.setCondition h i.rollingAt _

theorem refreshClusterStatus_restates {type : ConditionType} (i : StatusInput) (w : World) :
    Restates type w (refreshClusterStatus i w) := by
  unfold refreshClusterStatus
  split
  · exact Restates.refl type w
  split
  · exact Restates.refl type w
  split
  · exact Restates.refl type w
  · exact Restates.setStatus rfl

theorem fillStatus_restates {type : ConditionType} (h₁ : .available ≠ type)
    (h₂ : .rollingUpdate ≠ type) (i : StatusInput) (sts : StatefulSetStatus) (w : World) :
    Restates type w (fillStatus i sts w) := by
  have hcount : Restates type w (w.setStatus (fun s => { s with
      readyReplicas := sts.readyReplicas
      observedGeneration := w.vc.generation })) := Restates.setStatus rfl
  have havail := hcount.trans (setAvailability_restates h₁ i sts.readyReplicas _)
  have hrolling : ∀ w' : World, Restates type w w' →
      Restates type w (refreshClusterStatus i (setRollingUpdate i sts w')) :=
    fun w' h => (h.trans (setRollingUpdate_restates h₂ i sts w')).trans
      (refreshClusterStatus_restates i _)
  unfold fillStatus
  dsimp only
  split
  · exact hrolling _ (havail.trans (Restates.setStatus rfl))
  · exact hrolling _ havail

def statusEvents (i : StatusInput) (w : World) : List Event :=
  match i.sts with
  | .found sts => [.patchStatus (fillStatus i sts w).vc.status]
  | _ => []

theorem patchStatus_log (ok : Bool) (base : ValkeyCluster) (w : World) :
    (w.patchStatus ok base).log = w.log ++ [.patchStatus w.vc.status] ∧
      (w.patchStatus ok base).stored.annotations = w.stored.annotations := by
  cases ok <;> exact ⟨rfl, rfl⟩

theorem updateStatus_log (i : StatusInput) (base : ValkeyCluster) (w : World) :
    (updateStatus i base w).1.log = w.log ++ statusEvents i w ∧
      (updateStatus i base w).1.stored.annotations = w.stored.annotations := by
  unfold updateStatus statusEvents
  cases i.sts with
  | notFound => simp
  | failed => simp
  | found sts =>
    have hrestates : Restates (.other "") w (fillStatus i sts w) :=
      fillStatus_restates (by simp) (by simp) i sts w
    obtain ⟨s,hs,-⟩ := hrestates
    have hpatch := patchStatus_log i.patchOK base (fillStatus i sts w)
    have hlog : (fillStatus i sts w).log = w.log := by rw [hs]
    have hstored : (fillStatus i sts w).stored = w.stored := by rw [hs]
    rw [hlog,hstored] at hpatch
    exact hpatch

theorem finishPass_world (i : PassInput) (base : ValkeyCluster) (w : World) :
    (finishPass i base w).world = (updateStatus i.status base w).1 := by
  unfold finishPass
  cases h : updateStatus i.status base w with
  | mk w' err => cases err <;> rfl

section
variable {keys : AnnotationKey → Prop} {acts : Event → Prop}

theorem updateStatus_ends (ha : ∀ s, acts (.patchStatus s)) (i : StatusInput) (base : ValkeyCluster)
    (w : World) : Ends keys acts w (updateStatus i base w).1 := by
  obtain ⟨hlog,hann⟩ := updateStatus_log i base w
  refine ⟨fun k _ _ => by rw [hann], statusEvents i w, hlog, ?_⟩
  intro e he
  unfold statusEvents at he
  split at he
  · rw [List.mem_singleton.mp he]
    exact ha _
  · simp at he

theorem finishPass_ends (ha : ∀ s, acts (.patchStatus s)) (i : PassInput) (base : ValkeyCluster)
    (w : World) : Ends keys acts w (finishPass i base w).world := by
  rw [finishPass_world]
  exact updateStatus_ends ha i.status base w

theorem mutateCluster_frame (hk : ¬ keys .shardImbalancedSince) (ht : ∀ e, e.IsTopologySet → acts e)
    (hb : ∀ e, e.IsRebalance → acts e) (i : PassInput) (w : World) :
    Frame keys acts w (mutateCluster i w) := by
  have horphans : Frame keys acts w _ := (reconcileOrphanReplicas_emits i.orphans w).frame ht
  have hstats := horphans.trans (reconcileShardStats_frame hk i.stats _)
  unfold mutateCluster
  dsimp only
  split
  · split
    · exact hstats.trans ((reconcileRebalance_emits i.rebalance _).frame hb)
    · exact hstats
  · exact hstats

/-- What a pass does on a formed cluster, except for resets. -/
structure FormedActs (acts : Event → Prop) : Prop where
  forget : ∀ pod id, acts (.forget pod id)
  read : ∀ c, acts (.readUnderReplicated c)
  roles : ∀ e, e.IsRoleStep → acts e
  failover : ∀ e, e.IsFailover → acts e
  rebalance : ∀ e, e.IsRebalance → acts e
  status : ∀ s, acts (.patchStatus s)

theorem FormedActs.topology (h : FormedActs acts) (e : Event) (he : e.IsTopologySet) : acts e :=
  h.roles e he.isRoleStep

theorem observeCluster_frame (h₁ : ¬ keys .clusterNotOKSince) (h₂ : ¬ keys .lastResetTime)
    (h₃ : ∀ id, ¬ keys (.staleSince id)) (ha : FormedActs acts) {w : World}
    (hr : w.vc.annotations .clusterNotOKSince = none ∨ ∀ e, e.IsReset → acts e) (i : PassInput) :
    Frame keys acts w (observeCluster i w) := by
  have hhealth := reconcileClusterHealth_frame h₁ h₂ h₃ ha.forget hr i.health
  have hread := hhealth.trans (Frame.emit (ha.read (conditionsOf .shardUnderReplicated
    (reconcileClusterHealth i.health w).1.vc.status.conditions)) _)
  exact hread.trans ((reconcileReplicaRoles_emits i.roles _).frame ha.roles)

theorem reconcileFormed_rest (hk : ¬ keys .shardImbalancedSince) (ha : FormedActs acts)
    (i : PassInput) (base : ValkeyCluster) (w : World) :
    Ends keys acts (observeCluster i w) (reconcileFormed i base w).world := by
  have hdrain : Frame keys acts (observeCluster i w) _ :=
    (reconcileNodeDrainFailover_emits i.drain (observeCluster i w)).frame ha.failover
  unfold reconcileFormed
  dsimp only
  split
  · exact (Frame.refl keys acts _).ends
  · exact updateStatus_ends ha.status i.status base _
  · split
    · rename_i w' heq
      rw [heq] at hdrain
      exact hdrain.ends
    · rename_i w' _ _ heq
      rw [heq] at hdrain
      exact (hdrain.trans (mutateCluster_frame hk ha.topology ha.rebalance i w')).trans_ends
        (finishPass_ends ha.status i base _)

theorem reconcileFormed_ends (h₁ : ¬ keys .clusterNotOKSince) (h₂ : ¬ keys .lastResetTime)
    (h₃ : ∀ id, ¬ keys (.staleSince id)) (h₄ : ¬ keys .shardImbalancedSince) (ha : FormedActs acts)
    {w : World} (hr : w.vc.annotations .clusterNotOKSince = none ∨ ∀ e, e.IsReset → acts e)
    (i : PassInput) (base : ValkeyCluster) : Ends keys acts w (reconcileFormed i base w).world :=
  (observeCluster_frame h₁ h₂ h₃ ha hr i).trans_ends (reconcileFormed_rest h₄ ha i base w)

theorem afterTopology_ends (ha : ∀ s, acts (.patchStatus s)) (i : PassInput) (base : ValkeyCluster)
    (w : World) (err : Bool) : Ends keys acts w (afterTopology i base ⟨w, false, err⟩).world := by
  unfold afterTopology
  cases err with
  | true => exact (Frame.refl keys acts w).ends
  | false => exact finishPass_ends ha i base w

theorem afterTopology_annotations (i : PassInput) (base : ValkeyCluster) (w : World) (err : Bool) :
    (afterTopology i base ⟨w, false, err⟩).world.stored.annotations = w.stored.annotations := by
  unfold afterTopology
  cases err with
  | true => rfl
  | false =>
    have hworld := finishPass_world i base w
    simp only [Bool.false_eq_true,if_false,hworld]
    exact (updateStatus_log i.status base w).2

theorem okPass_ends {i : PassInput} (hview : clusterView i.topology = .ok) {w : World}
    (hs : w.Synced .clusterNotOKSince) (ha : FormedActs acts)
    (hl : ∀ pod role, acts (.labelPod pod role)) (base : ValkeyCluster) :
    Ends (fun _ => False) acts (w.emit .clusterOK)
      (afterTopology i base (reconcileClusterTopology i.topology w)).world := by
  rw [reconcileClusterTopology_cases,hview]
  have hclear : Frame (fun _ => False) acts (w.emit .clusterOK)
      (w.emit .clusterOK |> clearClusterNotOKAnnotation i.topology.clearOK) :=
    clear_frame (fun h => h) (fun h => h) i.topology.clearOK _
  have hnone := clear_none (.inl rfl) i.topology.clearOK (w := w.emit .clusterOK) (.inl hs)
  generalize clearClusterNotOKAnnotation i.topology.clearOK (w.emit .clusterOK) = w₁ at hclear hnone
  have hsync := syncRoleLabels_emits hl i.topology.sync i.topology.readyPods w₁
  have hformed : Ends (fun _ => False) acts _ _ := reconcileFormed_ends (fun h => h) (fun h => h)
    (fun _ h => h) (fun h => h) ha (.inl (by rw [hsync.vc_eq]; exact hnone)) i base
  exact (hclear.trans (hsync.frame (fun _ h => h))).trans_ends hformed

theorem waitingPass_ends {i : PassInput} (hview : clusterView i.topology = .failing) {w : World}
    (hexp : notOKExpired w.vc i.topology.timer.now = false) (hk : ¬ keys .clusterNotOKSince)
    (ha : ∀ s, acts (.patchStatus s)) (base : ValkeyCluster) :
    Ends keys acts w (afterTopology i base (reconcileClusterTopology i.topology w)).world := by
  rw [reconcileClusterTopology_cases,hview]
  simp only [hexp,Bool.false_eq_true,if_false]
  exact (clusterNotOKTimedOut_frame hk i.topology.timer w).trans_ends
    (afterTopology_ends ha i base _ false)

theorem recoveringPass_ends {i : PassInput} (hview : clusterView i.topology = .failing) {w : World}
    (hexp : notOKExpired w.vc i.topology.timer.now = true) (ht : ∀ e, e.IsTopologySet → acts e)
    (ha : ∀ s, acts (.patchStatus s)) (base : ValkeyCluster) :
    Ends (fun _ => False) acts w
      (afterTopology i base (reconcileClusterTopology i.topology w)).world := by
  rw [reconcileClusterTopology_cases,hview]
  simp only [hexp,if_true]
  have hclear : Frame (fun _ => False) acts w _ :=
    clear_frame (fun h => h) (fun h => h) i.topology.timerClearOK w
  have hgossip := hclear.trans ((reconcileGossipRecovery_emits i.topology.gossip _).frame ht)
  exact hgossip.trans_ends (afterTopology_ends ha i base _ _)

theorem unknownPass_ends {i : PassInput} (hview : clusterView i.topology = .unknown) (w : World)
    (ha : ∀ s, acts (.patchStatus s)) (base : ValkeyCluster) :
    Ends keys acts w (afterTopology i base (reconcileClusterTopology i.topology w)).world := by
  rw [reconcileClusterTopology_cases,hview]
  exact afterTopology_ends ha i base w _

end

def infoText (state slots : String) : Text :=
  ("cluster_state:" ++ state ++ "\r\ncluster_slots_assigned:" ++ slots ++ "\r\n").toList

def nodeText (digit : Char) (flags slots : String) : Text :=
  List.replicate 40 digit ++ " 10.0.0.".toList ++ digit :: ":6379@16379 ".toList ++ flags.toList ++
    " - 0 1700000000000 1 connected ".toList ++ slots.toList ++ ['\n']

def threeNodes : Text :=
  nodeText '1' "myself,master" "0-5460" ++ nodeText '2' "master" "5461-10922" ++
    nodeText '3' "master" "10923-16383"

def threeNodesReply (state : String) : ClusterReply where
  nodesRaw := threeNodes
  info := infoText state "16384"
  ids := by decide +kernel

def settledSts : StatefulSetStatus := ⟨3, 3, 3, 3, "r1".toList, "r1".toList⟩

def calmPass (now : Time) (info : Pod → Option Text) : PassInput where
  read := .found
  updateOK := true
  initOK := true
  setup := ⟨true, true, true, true, true⟩
  acl := ⟨some appConfig, some threePods, fun _ => now, fun _ => true, true⟩
  crash := ⟨some threePods, now, fun _ => .notFound, fun _ => true, fun _ => true, true⟩
  topology :=
    { secretOK := true
      listed := some threePods
      info := info
      arrival := Arrival.inOrder
      clearOK := true
      sync := ⟨fun _ => some threeNodes, fun _ => true⟩
      timer := ⟨now, true⟩
      timerClearOK := true
      gossip := ⟨some threePods, fun _ => .reply 1⟩
      bootstrap :=
        { secretOK := true
          reply := fun _ => .reply 1 "ready"
          arrival := Arrival.inOrder
          timer := ⟨now, true⟩
          staleReset := ⟨now, fun _ => .done, now, true⟩
          clearOK := true
          job := .notFound
          freshReset := ⟨now, fun _ => .done, now, true⟩
          createOK := true } }
  health :=
    { secretOK := true
      listed := some threePods
      reply := fun _ => some (threeNodesReply "ok")
      statusPods := some threePods
      degradedAt := now
      timer := ⟨now, true⟩
      resetPods := some threePods
      reset := ⟨now, fun _ => .done, now, true⟩
      clearOK := true
      underReplicatedAt := now
      forget := ⟨some settledSts, some threePods, now, true, fun _ => true⟩
      placedPods := some threePods
      colocatedAt := now }
  roles := ⟨true, some threePods, fun _ _ => some threeNodes, fun _ => some (infoText "ok" "16384"),
    fun _ => .reply 1⟩
  stable := ⟨.found settledSts, some threePods⟩
  drain := ⟨some threePods, fun _ => some false, true, fun _ => none, fun _ => true, fun _ => none,
    fun _ => true, none⟩
  orphans := ⟨true, some threePods, fun _ => some threeNodes, fun _ => none, fun _ => none,
    fun _ => .reply 1⟩
  stats := ⟨true, some threePods, fun _ => none, now, now, true⟩
  rebalance := ⟨.notFound, true, some threePods, .created⟩
  status := ⟨.found settledSts, now, now, true, some threePods,
    fun _ => some (infoText "ok" "16384", threeNodes), true⟩

end ValkeyOperator
