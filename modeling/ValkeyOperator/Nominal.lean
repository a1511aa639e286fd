import ValkeyOperator.StatusFlow
import ValkeyOperator.Orders

/-!
The nominal cycle: a pass over a cluster whose pods are all up and whose nodes all
have their place is to observe and not to repair.
-/

set_option autoImplicit false

namespace ValkeyOperator
open TextScan

def Event.repairs : Event → Bool
  | .reset _ | .topologySet _ _ | .forget _ _ | .failover _ | .createJob _ | .deletePod _ => true
  | _ => false

def Event.Calm (e : Event) : Prop := e.repairs = false

theorem isImbalanced_iff (vc : ValkeyCluster) :
    isImbalanced vc = (conditionsOf .shardImbalanced vc.status.conditions).any
      (fun c => c.status = .true) := by
  unfold isImbalanced conditionsOf
  rw [List.any_filter]

def Imbalance (cs : List Condition) (w : World) : Prop :=
  conditionsOf .shardImbalanced w.vc.status.conditions = cs ∧
    conditionsOf .shardImbalanced w.stored.status.conditions = cs

/-- A step that repairs nothing and leaves the balance to step 13. -/
structure Quiet (w w' : World) : Prop where
  frame : Frame (fun _ => False) Event.Calm w w'
  imbalance : ∀ cs, Imbalance cs w → Imbalance cs w'

namespace Quiet
variable {w w' w'' : World}

theorem refl (w : World) : Quiet w w := ⟨Frame.refl _ _ w, fun _ h => h⟩

theorem trans (h₁ : Quiet w w') (h₂ : Quiet w' w'') : Quiet w w'' :=
  ⟨h₁.frame.trans h₂.frame, fun cs h => h₂.imbalance cs (h₁.imbalance cs h)⟩

theorem append {es : List Event} (hes : ∀ e ∈ es, e.Calm) (w : World) :
    Quiet w { w with log := w.log ++ es } :=
  ⟨Frame.append hes w, fun _ h => h⟩

theorem emit {e : Event} (he : e.Calm) (w : World) : Quiet w (w.emit e) :=
  append (by simpa using he) w

theorem emits {acts : Event → Prop} (h : Emits acts w w') (ha : ∀ e, acts e → e.Calm) :
    Quiet w w' := by
  obtain ⟨es,hes,rfl⟩ := h
  exact append (fun e he => ha e (hes e he)) w

theorem setNodes (nodes : List NodeStatus) (w : World) : Quiet w (w.setNodes nodes) :=
  ⟨Frame.setNodes nodes w, fun _ h => h⟩

theorem setCondition {cond : Condition} (h : cond.type ≠ .shardImbalanced) (now : Time) (w : World) :
    Quiet w (w.setCondition now cond) := by
  refine ⟨Frame.setCondition now cond w, fun cs hcs => ⟨?_, hcs.2⟩⟩
  exact (setCondition_conditionsOf_other now h w.vc.status.conditions).trans hcs.1

theorem editPatch (h : Edit (fun _ => False) w w') (ok : Bool) : Quiet w (w'.patch ok w.vc) := by
  refine ⟨Frame.editPatch h ok, fun cs hcs => ?_⟩
  have hvc : w'.vc.status = w.vc.status := by rw [h.only]
  have hst : w'.stored.status = w.stored.status := congrArg ValkeyCluster.status h.stored
  cases ok with
  | false =>
    rw [World.patch_failed]
    unfold Imbalance
    rw [hvc,hst]
    exact hcs
  | true =>
    have hback : Imbalance cs (w'.patch true w.vc) ↔
        conditionsOf .shardImbalanced w'.stored.status.conditions = cs := and_self_iff
    rw [hback,hst]
    exact hcs.2

theorem edit (h : Edit (fun _ => False) w w') : Quiet w w' := editPatch h false

end Quiet

section
variable (sum256 : Text → Digest)

theorem reconcileACLs_quiet (i : ACLInput) (w : World) : Quiet w (reconcileACLs sum256 i w).1 := by
  unfold reconcileACLs
  cases i.config with
  | none => exact Quiet.refl w
  | some c =>
    cases i.listed with
    | none => exact Quiet.refl w
    | some pods =>
      dsimp only
      generalize aclHashChanged sum256 w.vc c = hashChanged
      have hacts : ∀ e ∈ pods.flatMap (visitACLPod i hashChanged), e.Calm := by
        intro e he
        obtain ⟨pod,-,he⟩ := List.mem_flatMap.mp he
        unfold visitACLPod at he
        split_ifs at he
        · simp at he
        · rw [List.mem_singleton.mp he]
          rfl
        · rw [List.mem_singleton.mp he]
          rfl
      have hlog := Quiet.append hacts w
      split
      · exact hlog.trans (Quiet.editPatch (Edit.annotate (fun h => h) _ _) i.patchOK)
      · exact hlog

end

theorem visits_edit {i : CrashInput} {pods : List Pod}
    (hpods : ∀ pod ∈ pods, isCrashLoopBackOff pod = false) (s : CrashScan) :
    Edit (fun _ => False) s.world (pods.foldl (CrashScan.visit i) s).world := by
  induction pods generalizing s with
  | nil => exact Edit.refl _ s.world
  | cons pod pods ih =>
    have hpod := hpods pod (by simp)
    have hvisit : Edit (fun _ => False) s.world (s.visit i pod).world := by
      unfold CrashScan.visit
      simp only [hpod,Bool.not_false,if_true]
      split
      · exact Edit.refl _ s.world
      · exact Edit.annotate (fun h => h) none s.world
    exact hvisit.trans (ih (fun p hp => hpods p (by simp [hp])) _)

theorem reconcileCrashLoopRecovery_quiet {i : CrashInput}
    (hpods : ∀ pods, i.listed = some pods → ∀ pod ∈ pods, isCrashLoopBackOff pod = false)
    (w : World) : Quiet w (reconcileCrashLoopRecovery i w).1 := by
  unfold reconcileCrashLoopRecovery
  cases hl : i.listed with
  | none => exact Quiet.refl w
  | some pods =>
    have hedit := visits_edit (i := i) (hpods pods hl) ⟨w, false⟩
    dsimp only
    split
    · exact Quiet.editPatch hedit i.patchOK
    · exact Quiet.edit hedit

theorem clear_quiet (ok : Bool) (w : World) : Quiet w (w |> clearClusterNotOKAnnotation ok) := by
  have hedit : Edit (fun _ => False) w
      ((w.annotate .clusterNotOKSince none).annotate .lastResetTime none) :=
    (Edit.annotate (fun h => h) none w).trans (Edit.annotate (fun h => h) none _)
  unfold clearClusterNotOKAnnotation
  split
  · exact Quiet.refl w
  · exact Quiet.editPatch hedit ok

structure HealthyPod (pod : Pod) : Prop where
  running : pod.phase = .running
  ready : pod.ready = some .true
  hasIP : pod.podIP ≠ []
  stays : pod.deleting = false
  started : ∀ c ∈ pod.containers, c.waitingReason = none

theorem HealthyPod.notCrashing {pod : Pod} (h : HealthyPod pod) : isCrashLoopBackOff pod = false := by
  simp only [isCrashLoopBackOff,List.any_eq_false]
  intro c hc
  simp [h.started c hc]

def CoveredMaster (expectedReplicas : Int) (nodes : List ClusterNodeState) (n : ClusterNodeState) :
    Prop :=
  hasMaster n.flags = true ∧ n.slots ≠ [] ∧ expectedReplicas ≤ replicaCount nodes n.id

instance (expectedReplicas : Int) (nodes : List ClusterNodeState) (n : ClusterNodeState) :
    Decidable (CoveredMaster expectedReplicas nodes n) := inferInstanceAs (Decidable (_ ∧ _ ∧ _))

/-- The nodes are the pods, none of them fails, and each has its place in a shard. -/
structure HealthyView (expectedReplicas : Int) (pods : List Pod) (nodesRaw : Text) : Prop where
  live : ∀ n ∈ parseClusterNodes nodesRaw, isFailing n.flags = false
  placed : ∀ n ∈ parseClusterNodes nodesRaw, ∃ pod ∈ pods, pod.podIP = n.ip
  listed : ∀ pod ∈ pods, ∃ n ∈ parseClusterNodes nodesRaw, n.ip = pod.podIP
  roles : ∀ n ∈ parseClusterNodes nodesRaw,
    CoveredMaster expectedReplicas (parseClusterNodes nodesRaw) n ∨
    (hasMaster n.flags = false ∧ hasSlave n.flags = true ∧ ∃ m ∈ parseClusterNodes nodesRaw,
      m.id = n.masterID ∧ CoveredMaster expectedReplicas (parseClusterNodes nodesRaw) m)

theorem HealthyView.no_candidate {expectedReplicas : Int} {pods : List Pod} {nodesRaw : Text}
    (h : HealthyView expectedReplicas pods nodesRaw) :
    ∀ n ∈ parseClusterNodes nodesRaw, (!healthyMaster n || decide (n.slots ≠ [])) = true := by
  intro n hn
  rcases h.roles n hn with ⟨-,hslots,-⟩ | ⟨hmaster,-,-⟩
  · simp [hslots]
  · simp [healthyMaster,hmaster]

def InfoOK (info : Text) : Prop :=
  parseClusterInfoField info "cluster_state".toList = "ok".toList ∧
    0 < parseClusterInfoInt info "cluster_slots_assigned".toList

theorem receive_ok {b : Best} (hb : 0 < b.slots → b.state = "ok".toList) {r : InfoResult}
    (hr : r.state = "ok".toList) : 0 < (b.receive r).slots → (b.receive r).state = "ok".toList := by
  unfold Best.receive
  split_ifs
  · exact hb
  · exact fun _ => hr
  · exact hb

theorem receives_ok {b : Best} (hb : 0 < b.slots → b.state = "ok".toList) {rs : List InfoResult}
    (hrs : ∀ r ∈ rs, r.state = "ok".toList) :
    0 < (rs.foldl Best.receive b).slots → (rs.foldl Best.receive b).state = "ok".toList := by
  induction rs generalizing b with
  | nil => exact hb
  | cons r rs ih =>
    exact ih (receive_ok hb (hrs r (by simp))) (fun s hs => hrs s (by simp [hs]))

theorem queryClusterInfo_ok {reply : Pod → Option Text} (arrival : Arrival) {pods : List Pod}
    (hne : pods ≠ []) (h : ∀ pod ∈ pods, ∃ info, reply pod = some info ∧ InfoOK info) :
    ∃ best, queryClusterInfo reply arrival pods = some best ∧ 0 < best.slots ∧
      best.state = "ok".toList := by
  have hstate : ∀ pod ∈ pods, (infoResult (reply pod)).state = "ok".toList := by
    intro pod hpod
    obtain ⟨info,hinfo,hok⟩ := h pod hpod
    rw [hinfo]
    exact hok.1
  have hslots : ∃ pod ∈ pods, 0 < (infoResult (reply pod)).slots := by
    obtain ⟨pod,hpod⟩ := List.exists_mem_of_ne_nil pods hne
    obtain ⟨info,hinfo,hok⟩ := h pod hpod
    refine ⟨pod, hpod, ?_⟩
    rw [hinfo]
    exact hok.2
  obtain ⟨best,hbest,hpos,-⟩ := queryClusterInfo_formed arrival
    (fun pod hpod => .inr (.inl (hstate pod hpod))) hslots
  refine ⟨best, hbest, hpos, ?_⟩
  unfold queryClusterInfo at hbest
  dsimp only at hbest
  split at hbest
  · cases hbest
  · cases hbest
    refine receives_ok (b := ⟨[], 0, 0⟩) (fun h0 => absurd h0 (by decide)) ?_ hpos
    intro r hr
    obtain ⟨pod,hpod,rfl⟩ := List.mem_map.mp hr
    exact hstate pod ((arrival.perm pods).mem_iff.mp hpod)

theorem checkClusterState_quiet (i : HealthInput) (w : World) :
    Quiet w (checkClusterState i "ok".toList w) := by
  have hne : ConditionType.clusterDegraded ≠ .shardImbalanced := by decide
  unfold checkClusterState
  rw [if_neg (fun h => h.2 rfl)]
  exact (clear_quiet i.clearOK w).trans (Quiet.setCondition hne i.degradedAt _)

theorem checkReplication_quiet (i : HealthInput) (nodes : List ClusterNodeState) (w : World) :
    Quiet w (checkReplication i nodes w) := by
  have hne : ConditionType.shardUnderReplicated ≠ .shardImbalanced := by decide
  have htype : (underReplicatedCondition w.vc nodes).type ≠ .shardImbalanced := by
    unfold underReplicatedCondition
    dsimp only
    split <;> exact hne
  exact Quiet.setCondition htype i.underReplicatedAt w

theorem detectShardColocation_quiet (listed : Option (List Pod)) (now : Time)
    (nodes : List ClusterNodeState) (w : World) :
    Quiet w (detectShardColocation listed now nodes w) := by
  have hne : ConditionType.shardColocated ≠ .shardImbalanced := by decide
  unfold detectShardColocation
  split
  · exact Quiet.refl w
  · dsimp only
    split <;> exact Quiet.setCondition hne now w

theorem forgetStaleNodes_quiet (i : ForgetInput) {nodes : List ClusterNodeState}
    (hlive : ∀ n ∈ nodes, isFailing n.flags = false) (w : World) :
    Quiet w (forgetStaleNodes i nodes w).1 := by
  rw [forgetStaleNodes_eq]
  cases guardedPods w.vc i with
  | none => exact Quiet.refl w
  | some pods =>
    have hnone : (staleScan i.now pods nodes w).staleIDs = [] := by
      refine List.eq_nil_iff_forall_not_mem.mpr (fun id hid => ?_)
      obtain ⟨⟨n,hn,-,hstale⟩,-⟩ := (staleScan_spec i.now pods nodes w id).1.due hid
      simp [isStale,hlive n hn] at hstale
    have hevents : forgetEvents i pods nodes w = [] := by simp [forgetEvents,hnone]
    have hedit : Edit (fun _ => False) w (staleScan i.now pods nodes w).world :=
      staleScan_edit (fun _ h => h) i.now pods nodes w
    have htrack : Quiet w (trackStale i pods nodes w) := by
      unfold trackStale
      dsimp only
      split
      · exact Quiet.editPatch hedit i.patchOK
      · exact Quiet.edit hedit
    dsimp only
    rw [hevents,List.append_nil,← trackStale_log i pods nodes w]
    exact htrack

theorem reconcileClusterHealth_quiet {i : HealthInput}
    (h : ∀ reply, fetchClusterState i = some reply → InfoOK reply.info ∧
      ∀ n ∈ parseClusterNodes reply.nodesRaw, isFailing n.flags = false) (w : World) :
    Quiet w (reconcileClusterHealth i w).1 := by
  have hne : ConditionType.clusterDegraded ≠ .shardImbalanced := by decide
  unfold reconcileClusterHealth
  split
  · exact Quiet.refl w
  · cases hf : fetchClusterState i with
    | none => exact Quiet.setCondition hne i.degradedAt w
    | some reply =>
      obtain ⟨hinfo,hlive⟩ := h reply hf
      dsimp only
      rw [hinfo.1]
      have hnodes : Quiet w (updateStatusNodes i (parseClusterNodes reply.nodesRaw) w) := by
        unfold updateStatusNodes
        split
        · exact Quiet.refl w
        · exact Quiet.setNodes _ w
      have hchecks := (hnodes.trans (checkClusterState_quiet i _)).trans (checkReplication_quiet i
        (parseClusterNodes reply.nodesRaw) _)
      exact (hchecks.trans (forgetStaleNodes_quiet i.forget hlive _)).trans
        (detectShardColocation_quiet i.placedPods i.colocatedAt _ _)

theorem readyWithIP_healthy {pods : List Pod} (h : ∀ pod ∈ pods, HealthyPod pod) :
    readyWithIP pods = pods := by
  refine List.filter_eq_self.mpr (fun pod hpod => ?_)
  simp [isPodReady,(h pod hpod).running,(h pod hpod).ready,(h pod hpod).hasIP]

theorem reconcileReplicaRoles_quiet {i : RolesInput} {expectedReplicas : Int} {pods : List Pod}
    (h : ∀ listed nodesRaw seed, i.listed = some listed →
      fetchClusterNodesWithSeed (i.fetch 0) (readyWithIP listed) = some (nodesRaw, seed) →
      HealthyView expectedReplicas pods nodesRaw) (w : World) :
    Quiet w (reconcileReplicaRoles i w).1 := by
  have hnone : roleVisits i w.vc = [] := by
    unfold roleVisits
    cases hstart : rolesStart i w.vc with
    | none => rfl
    | some start =>
      obtain ⟨listed,seed,hl,-,hfetch⟩ := rolesStart_some hstart
      have hview := h listed start.1 seed hl hfetch
      have hcandidates : candidates start.1 start.2 = [] := by
        refine List.filterMap_eq_nil_iff.mpr (fun n hn => ?_)
        rw [candidatePod,if_pos (hview.no_candidate n hn)]
      dsimp only
      rw [hcandidates]
      rfl
  have hcalm : ∀ e ∈ roleEvents i w.vc, e.Calm := by
    unfold roleEvents
    rw [hnone]
    split
    · exact List.forall_mem_nil _
    · exact List.forall_mem_singleton.mpr rfl
  have hread : ∀ cs, (Event.readUnderReplicated cs).Calm := fun _ => rfl
  rw [reconcileReplicaRoles_events]
  exact Quiet.append (List.forall_mem_cons.mpr ⟨hread _, hcalm⟩) w

theorem HealthyView.not_orphan {expectedReplicas : Int} {pods : List Pod} {nodesRaw : Text}
    (h : HealthyView expectedReplicas pods nodesRaw) (i : OrphanInput) (vc : ValkeyCluster)
    {pod : Pod} (hpod : pod ∈ pods) : isOrphan i vc nodesRaw pod = false := by
  obtain ⟨n,hn,hip⟩ := h.listed pod hpod
  have hlive := h.live n hn
  obtain ⟨line,hline,hparse⟩ := List.mem_filterMap.mp hn
  have hknown : (knownAddrs nodesRaw).any (fun a => a.1 = pod.podIP || a.2 = stableDNS vc pod) = true := by
    unfold parseNodeLine at hparse
    split at hparse
    · rename_i id addrRaw flags masterID _ _ _ _ slots hfields
      cases hparse
      simp only [isFailing,Bool.or_eq_false_iff] at hlive
      refine List.any_eq_true.mpr ⟨(addrIP addrRaw, addrHostname addrRaw), ?_, by simp [← hip]⟩
      refine List.mem_filterMap.mpr ⟨line, hline, ?_⟩
      simp [hfields,hlive.2]
    · cases hparse
  simp [isOrphan,hknown]

theorem reconcileOrphanReplicas_none {i : OrphanInput} {expectedReplicas : Int} {pods : List Pod}
    (hlist : ∀ listed, i.listed = some listed → ∀ pod ∈ listed, pod ∈ pods)
    (hview : ∀ pod ∈ pods, ∀ nodesRaw, i.nodes pod = some nodesRaw →
      HealthyView expectedReplicas pods nodesRaw) (w : World) :
    (reconcileOrphanReplicas i w).1 = w := by
  have hnone : orphanOrders i w.vc = [] := by
    unfold orphanOrders
    cases hstart : orphanStart i with
    | none => rfl
    | some s =>
      obtain ⟨listed,hl,hrunning,hfetch⟩ := orphanStart_some hstart
      obtain ⟨hseed,hreply,-⟩ := fetchClusterNodesWithSeed_some hfetch
      have hmem : ∀ pod ∈ s.runningPods, pod ∈ pods :=
        fun pod hpod => hlist listed hl pod (hrunning pod hpod)
      have hv := hview s.seed (hmem s.seed (List.mem_of_mem_filter hseed)) s.nodesRaw hreply
      have horphans : s.orphans i w.vc = [] := by
        refine List.filter_eq_nil_iff.mpr (fun pod hpod => ?_)
        simp [needsRepair,hv.not_orphan i w.vc (hmem pod hpod)]
      simp [horphans]
  rw [reconcileOrphanReplicas_orders,hnone]
  rfl

/-- What step 13 leaves of the conditions it finds: all of them if it cannot read, else
those behind the first one. -/
def imbalanceLeft (i : StatsInput) (conditions : List Condition) : Bool :=
  let found := conditionsOf .shardImbalanced conditions
  (if i.credsOK && i.listed.isSome then found.tail else found).any (fun c => c.status = .true)

theorem clearShardImbalanced_left {cs : List Condition} {w : World} (h : Imbalance cs w)
    (now : Time) :
    isImbalanced (clearShardImbalanced now w).vc = cs.tail.any (fun c => c.status = .true) := by
  have hset := setCondition_conditionsOf now ⟨.shardImbalanced, .false, "Balanced",
    "Memory distribution across shards is within threshold", w.vc.generation, 0⟩
    w.vc.status.conditions
  obtain ⟨c,hbody,hlist⟩ := hset
  have hc : c.status = .false := congrArg (fun b => b.2.1) hbody
  rw [h.1] at hlist
  have hlist' : conditionsOf .shardImbalanced (clearShardImbalanced now w).vc.status.conditions =
      c :: cs.tail := hlist
  rw [isImbalanced_iff,hlist']
  simp [hc]

theorem lowerShardImbalanced_left {cs : List Condition} {w : World} (h : Imbalance cs w)
    (i : StatsInput) :
    isImbalanced (lowerShardImbalanced i w).vc = cs.tail.any (fun c => c.status = .true) := by
  have hedit : Edit (fun _ => False) w (w.annotate .shardImbalancedSince none) :=
    Edit.annotate (fun h => h) none w
  unfold lowerShardImbalanced
  cases w.vc.annotations .shardImbalancedSince with
  | none => exact clearShardImbalanced_left h i.conditionAt
  | some v => exact clearShardImbalanced_left ((Quiet.editPatch hedit i.patchOK).imbalance cs h) _

/-- Shards in balance: the condition is lowered wherever step 13 gets to it. -/
theorem reconcileShardStats_left {i : StatsInput} {w : World} {conditions : List Condition}
    (hcs : Imbalance (conditionsOf .shardImbalanced conditions) w)
    (hskew : ∀ pods, i.listed = some pods →
      memorySkew (shardStats i (primaryPods w.vc pods)) ≤ imbalanceThreshold w.vc) :
    isImbalanced (reconcileShardStats i w).1.vc = imbalanceLeft i conditions := by
  have hunread : isImbalanced w.vc =
      (conditionsOf .shardImbalanced conditions).any (fun c => c.status = .true) := by
    rw [isImbalanced_iff,hcs.1]
  have hclear := clearShardImbalanced_left hcs i.conditionAt
  unfold reconcileShardStats imbalanceLeft
  cases hc : i.credsOK with
  | false => simpa using hunread
  | true =>
    cases hl : i.listed with
    | none => simpa using hunread
    | some pods =>
      have hle := hskew pods hl
      simp only [Bool.not_true,Bool.false_eq_true,if_false,Option.isSome_some,Bool.and_true,if_true]
      split
      · exact hclear
      · split
        · exact hclear
        · exact hclear
        · rename_i first rest _ hs
          rw [hs] at hle
          have hgt : ¬ skewPct (maxMem first.memoryBytes rest) (minMem first.memoryBytes rest) >
              imbalanceThreshold w.vc := Int.not_lt.mpr hle
          rw [if_neg hgt]
          exact lowerShardImbalanced_left hcs i

def rebalanceEnabled (vc : ValkeyCluster) : Bool :=
  match vc.spec.rebalance with
  | some rebalance => rebalance.enabled
  | none => false

/-- No rebalance Job is there, a ready pod was last seen as a primary, and a Job can
be created. -/
def rebalanceCreates (i : RebalanceInput) (vc : ValkeyCluster) : Bool :=
  i.job = .notFound && i.create = .created &&
    (readyWithIP (i.listed.getD [])).any (fun pod => vc.status.podRoles pod.name = some .primary)

def CalmLog (w : World) : Prop := ∀ e ∈ w.log, e.Calm

theorem calmLog_append {w w' : World} {es : List Event} (h : w'.log = w.log ++ es) :
    CalmLog w' ↔ CalmLog w ∧ ∀ e ∈ es, e.Calm := by
  unfold CalmLog
  rw [h]
  exact List.forall_mem_append

theorem Frame.calmLog {keys : AnnotationKey → Prop} {w w' : World}
    (h : Frame keys Event.Calm w w') : CalmLog w' ↔ CalmLog w := by
  obtain ⟨es,hlog,hes⟩ := h.emits
  rw [calmLog_append hlog]
  exact and_iff_left hes

theorem reconcileRebalance_calm (i : RebalanceInput) (w : World) :
    CalmLog (reconcileRebalance i w).1 ↔
      CalmLog w ∧ (isImbalanced w.vc && rebalanceCreates i w.vc) = false := by
  have hdelete : CalmLog (deleteRebalanceJob i w).1 ↔ CalmLog w := by
    have hcalm : (Event.deleteJob .rebalance).Calm := rfl
    unfold deleteRebalanceJob
    split
    · exact (Quiet.emit hcalm w).frame.calmLog
    · exact Iff.rfl
  unfold reconcileRebalance
  cases hi : isImbalanced w.vc with
  | false => simp
  | true =>
    simp only [Bool.not_true,Bool.false_eq_true,if_false,Bool.true_and]
    cases hj : i.job with
    | failed => simp [rebalanceCreates,hj]
    | found completed succeeded failures =>
      have hno : rebalanceCreates i w.vc = false := by simp [rebalanceCreates,hj]
      simp only [hno,and_true]
      split_ifs
      · exact Iff.rfl
      · exact hdelete
      · exact hdelete
      · exact Iff.rfl
    | notFound =>
      cases hl : i.listed with
      | none => simp [rebalanceCreates,hl,readyWithIP]
      | some pods =>
        simp only [rebalanceCreates,hj,hl,Option.getD_some,decide_true,Bool.true_and]
        cases hp : (readyWithIP pods).any (fun pod => w.vc.status.podRoles pod.name = some .primary) with
        | false => simp
        | true =>
          cases i.create with
          | created =>
            have hlog : (w.emit (.createJob .rebalance)).log = w.log ++ [.createJob .rebalance] := rfl
            simp [calmLog_append hlog,Event.Calm,Event.repairs]
          | alreadyExists => simp
          | failed => simp

theorem mutateCluster_calm {i : PassInput} {w : World} {conditions : List Condition}
    (hf : w.vc.fixed = w.stored.fixed)
    (horphans : (reconcileOrphanReplicas i.orphans w).1 = w)
    (hcs : Imbalance (conditionsOf .shardImbalanced conditions) w)
    (hskew : ∀ pods, i.stats.listed = some pods →
      memorySkew (shardStats i.stats (primaryPods w.vc pods)) ≤ imbalanceThreshold w.vc) :
    CalmLog (mutateCluster i w) ↔ CalmLog w ∧ (rebalanceEnabled w.vc &&
      (imbalanceLeft i.stats conditions && rebalanceCreates i.rebalance w.vc)) = false := by
  have hstats : Frame (fun _ => False) Event.Calm w (reconcileShardStats i.stats w).1 :=
    reconcileShardStats_frame (fun h => h) i.stats w
  have hleft := reconcileShardStats_left hcs hskew
  have hfixed := (hstats.fixed hf).1
  have hspec : (reconcileShardStats i.stats w).1.vc.spec = w.vc.spec :=
    congrArg (fun f => f.2.2.2.1) hfixed
  have hroles : (reconcileShardStats i.stats w).1.vc.status.podRoles = w.vc.status.podRoles :=
    congrArg (fun f => f.2.2.2.2) hfixed
  have hcreates : rebalanceCreates i.rebalance (reconcileShardStats i.stats w).1.vc =
      rebalanceCreates i.rebalance w.vc := by
    unfold rebalanceCreates
    rw [hroles]
  unfold mutateCluster rebalanceEnabled
  simp only [horphans,hspec]
  cases w.vc.spec.rebalance with
  | none => simpa using hstats.calmLog
  | some rebalance =>
    cases he : rebalance.enabled with
    | false => simpa [he] using hstats.calmLog
    | true =>
      simp only [he,if_true,Bool.true_and]
      rw [reconcileRebalance_calm,hleft,hcreates,hstats.calmLog]

/-- A pass over the pods `pods` that all are up, on schedulable nodes, and answer with a
formed cluster in which each has its place. Calls to the API server may still fail. -/
structure Healthy (i : PassInput) (stored : ValkeyCluster) (pods : List Pod) : Prop where
  up : ∀ pod ∈ pods, HealthyPod pod
  ips : (pods.map (·.podIP)).Nodup
  lists : ∀ listed, some listed ∈ i.listings → listed.Perm pods
  schedulable : ∀ pod ∈ pods, i.drain.unschedulable pod.nodeName ≠ some true
  info : ∀ pod ∈ pods, ∃ info, i.topology.info pod = some info ∧ InfoOK info
  state : ∀ pod ∈ pods, ∃ reply, i.health.reply pod = some reply ∧ InfoOK reply.info ∧
    HealthyView stored.spec.replicasPerShard pods reply.nodesRaw
  fetched : ∀ (k : Nat), ∀ pod ∈ pods, ∃ nodesRaw, i.roles.fetch k pod = some nodesRaw ∧
    HealthyView stored.spec.replicasPerShard pods nodesRaw
  nodes : ∀ pod ∈ pods, ∃ nodesRaw, i.orphans.nodes pod = some nodesRaw ∧
    HealthyView stored.spec.replicasPerShard pods nodesRaw
  balanced : ∀ listed, i.stats.listed = some listed →
    memorySkew (shardStats i.stats (primaryPods stored listed)) ≤ imbalanceThreshold stored

namespace Healthy
variable {i : PassInput} {stored : ValkeyCluster} {pods : List Pod}

theorem mem_of_listed (h : Healthy i stored pods) {listed : List Pod}
    (hl : some listed ∈ i.listings) : ∀ pod ∈ listed, pod ∈ pods :=
  fun _ hpod => (h.lists listed hl).mem_iff.mp hpod

theorem up_of_listed (h : Healthy i stored pods) {listed : List Pod}
    (hl : some listed ∈ i.listings) : ∀ pod ∈ listed, HealthyPod pod :=
  fun pod hpod => h.up pod (h.mem_of_listed hl pod hpod)

theorem view (h : Healthy i stored pods) :
    clusterView i.topology =
      if i.topology.secretOK && decide (i.topology.listed.getD [] ≠ []) then .ok else .unknown := by
  unfold clusterView
  cases hs : i.topology.secretOK with
  | false => rfl
  | true =>
    cases hl : i.topology.listed with
    | none => rfl
    | some listed =>
      have hmem : some listed ∈ i.listings := by simp [PassInput.listings,hl]
      simp only [readyWithIP_healthy (h.up_of_listed hmem),Bool.not_true,Bool.false_eq_true,if_false,
        Option.getD_some,Bool.true_and,decide_eq_true_eq]
      by_cases hne : listed = []
      · simp [hne]
      · obtain ⟨best,hbest,hslots,hstate⟩ := queryClusterInfo_ok i.topology.arrival hne
          (fun pod hpod => h.info pod (h.mem_of_listed hmem pod hpod))
        simp [hne,hbest,hslots,hstate]

theorem health (h : Healthy i stored pods) (w : World) : Quiet w (reconcileClusterHealth i.health w).1 := by
  refine reconcileClusterHealth_quiet (fun reply hreply => ?_) w
  unfold fetchClusterState at hreply
  cases hl : i.health.listed with
  | none => simp [hl] at hreply
  | some listed =>
    simp only [hl] at hreply
    obtain ⟨pod,hpod,hsome⟩ := List.exists_of_findSome?_eq_some hreply
    have hmem : some listed ∈ i.listings := by simp [PassInput.listings,hl]
    obtain ⟨r,hr,hinfo,hview⟩ := h.state pod
      (h.mem_of_listed hmem pod (List.mem_of_mem_filter hpod))
    simp only [hr] at hsome
    split at hsome
    · cases hsome
    · cases hsome
      exact ⟨hinfo, hview.live⟩

theorem roles (h : Healthy i stored pods) (w : World) : Quiet w (reconcileReplicaRoles i.roles w).1 := by
  have hview : ∀ listed nodesRaw seed, i.roles.listed = some listed →
      fetchClusterNodesWithSeed (i.roles.fetch 0) (readyWithIP listed) = some (nodesRaw, seed) →
      HealthyView stored.spec.replicasPerShard pods nodesRaw := by
    intro listed nodesRaw seed hl hfetch
    obtain ⟨hseed,hreply,-⟩ := fetchClusterNodesWithSeed_some hfetch
    have hmem : some listed ∈ i.listings := by simp [PassInput.listings,hl]
    have hin := h.mem_of_listed hmem seed (List.mem_of_mem_filter (List.mem_of_mem_filter hseed))
    obtain ⟨raw,hraw,hview⟩ := h.fetched 0 seed hin
    rw [hreply] at hraw
    cases hraw
    exact hview
  exact reconcileReplicaRoles_quiet hview w

theorem orphans (h : Healthy i stored pods) (w : World) :
    (reconcileOrphanReplicas i.orphans w).1 = w := by
  have hview : ∀ pod ∈ pods, ∀ nodesRaw, i.orphans.nodes pod = some nodesRaw →
      HealthyView stored.spec.replicasPerShard pods nodesRaw := by
    intro pod hpod nodesRaw hreply
    obtain ⟨raw,hraw,hview⟩ := h.nodes pod hpod
    rw [hreply] at hraw
    cases hraw
    exact hview
  have hlist : ∀ listed, i.orphans.listed = some listed → ∀ pod ∈ listed, pod ∈ pods :=
    fun listed hl => h.mem_of_listed (by simp [PassInput.listings,hl])
  exact reconcileOrphanReplicas_none hlist hview w

theorem drain (h : Healthy i stored pods) (w : World) :
    ∃ r, reconcileNodeDrainFailover i.drain w = (w, r) ∧ r ≠ .requeued := by
  unfold reconcileNodeDrainFailover
  cases hl : i.drain.listed with
  | none => exact ⟨.err, rfl, by decide⟩
  | some listed =>
    have hmem : some listed ∈ i.listings := by simp [PassInput.listings,hl]
    have hnone : listed.find? (onDrainedNode i.drain) = none := by
      refine List.find?_eq_none.mpr (fun pod hpod => ?_)
      simp [onDrainedNode,h.schedulable pod (h.mem_of_listed hmem pod hpod)]
    exact ⟨.nothing, by simp [hnone], by decide⟩

end Healthy

def comesToRebalance (i : PassInput) (stored : ValkeyCluster) : Bool :=
  reachesTopology i stored && i.topology.secretOK && decide (i.topology.listed.getD [] ≠ []) &&
    decide (isStatefulSetStable i.stable stored = some true) && rebalanceEnabled stored

/-- Step 14 acts on a condition that is not about this pass. -/
def rebalancesOnLeftover (i : PassInput) (stored : ValkeyCluster) : Bool :=
  comesToRebalance i stored && rebalanceCreates i.rebalance stored &&
    imbalanceLeft i.stats stored.status.conditions

section
variable (sum256 : Text → Digest)

theorem Healthy.before {i : PassInput} {stored : ValkeyCluster} {pods : List Pod}
    (h : Healthy i stored pods) :
    Quiet (World.start (entryObject stored)) (beforeTopology sum256 i stored) := by
  refine (reconcileACLs_quiet sum256 i.acl _).trans (reconcileCrashLoopRecovery_quiet ?_ _)
  intro listed hl pod hpod
  exact (h.up_of_listed (by simp [PassInput.listings,hl]) pod hpod).notCrashing

theorem entry_imbalance (stored : ValkeyCluster) :
    Imbalance (conditionsOf .shardImbalanced stored.status.conditions)
      (World.start (entryObject stored)) := by
  unfold entryObject
  split <;> exact ⟨rfl, rfl⟩

theorem afterTopology_ok {i : PassInput} (hview : clusterView i.topology = .ok) (base : ValkeyCluster)
    (w : World) :
    ∃ w', afterTopology i base (reconcileClusterTopology i.topology w) = reconcileFormed i base w' ∧
      Quiet w w' := by
  rw [reconcileClusterTopology_cases,hview]
  refine ⟨_, rfl, ?_⟩
  have hcalm : Event.clusterOK.Calm := rfl
  have hclear := (Quiet.emit hcalm w).trans (clear_quiet i.topology.clearOK _)
  have hlabel : ∀ pod role, (Event.labelPod pod role).Calm := fun _ _ => rfl
  have hlabels := syncRoleLabels_emits hlabel i.topology.sync i.topology.readyPods
    (w.emit .clusterOK |> clearClusterNotOKAnnotation i.topology.clearOK)
  exact hclear.trans (Quiet.emits hlabels (fun _ h => h))

theorem updateStatus_calm (i : StatusInput) (base : ValkeyCluster) (w : World) :
    CalmLog (updateStatus i base w).1 ↔ CalmLog w := by
  rw [calmLog_append (updateStatus_log i base w).1]
  refine and_iff_left (fun e he => ?_)
  unfold statusEvents at he
  split at he
  · rw [List.mem_singleton.mp he]
    rfl
  · simp at he

theorem Healthy.mutated {i : PassInput} {stored : ValkeyCluster} {pods : List Pod}
    (h : Healthy i stored pods) {w : World} (hw : Quiet (World.start (entryObject stored)) w) :
    CalmLog (mutateCluster i w) ↔ (rebalanceEnabled stored &&
      (imbalanceLeft i.stats stored.status.conditions && rebalanceCreates i.rebalance stored)) = false := by
  have hkept := entry_kept hw.frame
  have hroles : w.vc.status.podRoles = stored.status.podRoles :=
    congrArg (fun f => f.2.2.2.2) hkept.fixed
  have hbalanced : ∀ listed, i.stats.listed = some listed →
      memorySkew (shardStats i.stats (primaryPods w.vc listed)) ≤ imbalanceThreshold w.vc := by
    intro listed hl
    have hb := h.balanced listed hl
    unfold primaryPods imbalanceThreshold at hb ⊢
    rw [hroles,hkept.spec]
    exact hb
  have henabled : rebalanceEnabled w.vc = rebalanceEnabled stored := by
    unfold rebalanceEnabled
    rw [hkept.spec]
  have hcreates : rebalanceCreates i.rebalance w.vc = rebalanceCreates i.rebalance stored := by
    unfold rebalanceCreates
    rw [hroles]
  have hmutate := mutateCluster_calm (hw.frame.fixed_eq rfl) (h.orphans w)
    (hw.imbalance _ (entry_imbalance stored)) hbalanced
  rw [henabled,hcreates,hw.frame.calmLog] at hmutate
  simpa [CalmLog,World.start] using hmutate

theorem Healthy.formed {i : PassInput} {stored : ValkeyCluster} {pods : List Pod}
    (h : Healthy i stored pods) {w : World} (hw : Quiet (World.start (entryObject stored)) w)
    (base : ValkeyCluster) :
    CalmLog (reconcileFormed i base w).world ↔
      (decide (isStatefulSetStable i.stable stored = some true) && rebalanceEnabled stored &&
        rebalanceCreates i.rebalance stored && imbalanceLeft i.stats stored.status.conditions) = false := by
  have hobserve : Quiet w (observeCluster i w) :=
    (h.health w).trans (h.roles (reconcileClusterHealth i.health w).1)
  have hquiet := hw.trans hobserve
  have hkept := entry_kept hquiet.frame
  have hlog : CalmLog (observeCluster i w) := by
    rw [hquiet.frame.calmLog]
    simp [CalmLog,World.start]
  unfold reconcileFormed
  dsimp only
  rw [hkept.stable]
  cases hst : isStatefulSetStable i.stable stored with
  | none => simpa using hlog
  | some stable =>
    cases stable with
    | false => simpa [updateStatus_calm] using hlog
    | true =>
      obtain ⟨r,hdrain,hr⟩ := h.drain (observeCluster i w)
      have hfinish : CalmLog (finishPass i base (mutateCluster i (observeCluster i w))).world ↔
          CalmLog (mutateCluster i (observeCluster i w)) := by
        rw [finishPass_world,updateStatus_calm]
      rw [hdrain]
      cases r with
      | requeued => exact absurd rfl hr
      | nothing | err =>
        dsimp only
        rw [hfinish,h.mutated hquiet]
        simp only [decide_true,Bool.true_and,Bool.and_assoc]
        rw [Bool.and_comm (imbalanceLeft i.stats stored.status.conditions)]

/-- A pass over a healthy cluster repairs nothing, whatever is left in the object, unless
step 14 still finds it imbalanced. -/
theorem nominal_calm_iff {i : PassInput} {stored : ValkeyCluster} {pods : List Pod}
    (h : Healthy i stored pods) :
    (∀ e ∈ (reconcile sum256 i stored).world.log, e.repairs = false) ↔
      rebalancesOnLeftover i stored = false := by
  unfold rebalancesOnLeftover comesToRebalance
  cases hreach : reachesTopology i stored with
  | false => simp [(reconcile_early sum256 hreach).1]
  | true =>
    have hbefore := h.before sum256
    have hview := h.view
    rw [reconcile_reaches sum256 hreach]
    cases hok : i.topology.secretOK && decide (i.topology.listed.getD [] ≠ []) with
    | false =>
      rw [hok,if_neg (by decide)] at hview
      have hends : Ends (fun _ => False) Event.Calm (beforeTopology sum256 i stored) _ :=
        unknownPass_ends hview (beforeTopology sum256 i stored) (fun _ => rfl) (entryObject stored)
      have hcalm := (hbefore.frame.trans_ends hends).log_start
      rw [Bool.true_and,hok]
      simp only [Bool.false_and,iff_true]
      exact hcalm
    | true =>
      rw [hok,if_pos rfl] at hview
      obtain ⟨w,hpass,hquiet⟩ := afterTopology_ok hview (entryObject stored)
        (beforeTopology sum256 i stored)
      have hformed := h.formed (hbefore.trans hquiet) (entryObject stored)
      rw [hpass,Bool.true_and,hok,Bool.true_and]
      exact hformed

end

def balancedPass (credsOK : Bool) : PassInput :=
  { formedPass (60*second) with
    stats := ⟨credsOK, some threePods, fun _ => some ["memory_bytes".toList, "100".toList],
      60*second, 60*second, true⟩ }

def onceImbalanced (conditions : List Condition) : ValkeyCluster :=
  { threeShards (fun _ => none) with
    spec := { (threeShards (fun _ => none)).spec with rebalance := some ⟨true, 20⟩ }
    status := { (threeShards (fun _ => none)).status with
      podRoles := fun _ => some .primary, conditions := conditions } }

def imbalancedCondition : Condition :=
  ⟨.shardImbalanced, .true, "MemorySkew",
    "memory skew 90% exceeds threshold 20% (max 1000 bytes, min 100 bytes)", 1, 0⟩

theorem threeNodes_healthy : HealthyView 0 threePods threeNodes :=
  ⟨by decide +kernel, by decide +kernel, by decide +kernel, by decide +kernel⟩

theorem balancedPass_healthy (credsOK : Bool) (conditions : List Condition) :
    Healthy (balancedPass credsOK) (onceImbalanced conditions) threePods where
  up pod hpod := by
    have hup : ∀ digit, HealthyPod (readyPod digit) :=
      fun digit => ⟨rfl, rfl, by simp [readyPod], rfl, by simp [readyPod]⟩
    simp only [threePods,List.mem_cons,List.not_mem_nil,or_false] at hpod
    rcases hpod with rfl | rfl | rfl
    · exact hup '1'
    · exact hup '2'
    · exact hup '3'
  ips := by decide
  lists listed hl := by
    have heq : listed = threePods := by
      simpa [PassInput.listings,balancedPass,formedPass,calmPass] using hl
    rw [heq]
  schedulable pod _ := by simp [balancedPass,formedPass,calmPass]
  info pod _ := ⟨infoText "ok" "16384", rfl, by decide +kernel, by decide +kernel⟩
  state pod _ := ⟨threeNodesReply "ok", rfl, ⟨by decide +kernel, by decide +kernel⟩, threeNodes_healthy⟩
  fetched _ pod _ := ⟨threeNodes, rfl, threeNodes_healthy⟩
  nodes pod _ := ⟨threeNodes, rfl, threeNodes_healthy⟩
  balanced listed hl := by
    have heq : listed = threePods := by simpa [balancedPass] using hl.symm
    have hskew : memorySkew (shardStats (balancedPass true).stats
        (primaryPods (onceImbalanced []) threePods)) ≤ imbalanceThreshold (onceImbalanced []) := by
      decide +kernel
    rw [heq]
    exact hskew

theorem balancedPass_calm :
    isImbalanced (onceImbalanced [imbalancedCondition]) = true ∧
    ∀ e ∈ (reconcile (fun _ => appDigest) (balancedPass true)
      (onceImbalanced [imbalancedCondition])).world.log, e.repairs = false :=
  ⟨by decide, (nominal_calm_iff _ (balancedPass_healthy true _)).mpr (by decide +kernel)⟩

def createdJobs (log : List Event) : List JobName :=
  log.filterMap (fun e => match e with
    | .createJob name => some name
    | _ => none)

theorem balancedPass_rebalances :
    Healthy (balancedPass false) (onceImbalanced [imbalancedCondition]) threePods ∧
    createdJobs (reconcile (fun _ => appDigest) (balancedPass false)
      (onceImbalanced [imbalancedCondition])).world.log = [.rebalance] ∧
    Healthy (balancedPass true) (onceImbalanced [imbalancedCondition,imbalancedCondition]) threePods ∧
    createdJobs (reconcile (fun _ => appDigest) (balancedPass true)
      (onceImbalanced [imbalancedCondition,imbalancedCondition])).world.log = [.rebalance] :=
  ⟨balancedPass_healthy false _, by decide +kernel, balancedPass_healthy true _, by decide +kernel⟩

end ValkeyOperator
