import ValkeyOperator.Topology
import ValkeyOperator.StaleNodes

/-! Step 8 of a pass: conditions from one pod's view, and the repairs they start. -/

set_option autoImplicit false

namespace ValkeyOperator
open TextScan

def shortID (id : Text) : String := String.ofList (id.take 8)

structure ClusterReply where
  nodesRaw : Text
  info : Text
  ids : ∀ n ∈ parseClusterNodes nodesRaw, n.id.length = 40

def replicaCount (nodes : List ClusterNodeState) (id : Text) : Nat :=
  (nodes.filter (fun n => hasSlave n.flags && decide (n.masterID ≠ ['-']) &&
    decide (n.masterID ≠ []) && decide (n.masterID = id))).length

def detectUnderReplicatedShards (nodes : List ClusterNodeState) (expectedReplicas : Int) :
    List String :=
  nodes.filterMap (fun n =>
    if !hasMaster n.flags then none
    else if isFailing n.flags then none
    else
      let count := replicaCount nodes n.id
      if (count : Int) < expectedReplicas then
        some (shortID n.id ++ "(" ++ toString count ++ "/" ++ toString expectedReplicas ++ " replicas)")
      else none)

def underReplicatedCondition (vc : ValkeyCluster) (nodes : List ClusterNodeState) : Condition :=
  let underReplicated := detectUnderReplicatedShards nodes vc.spec.replicasPerShard
  if underReplicated ≠ [] then
    ⟨.shardUnderReplicated, .true, "MissingReplica",
      "shards under-replicated: " ++ ", ".intercalate underReplicated, vc.generation, 0⟩
  else
    ⟨.shardUnderReplicated, .false, "ReplicationOK",
      "All shards have " ++ toString vc.spec.replicasPerShard ++ " replica(s)", vc.generation, 0⟩

theorem underReplicatedCondition_type (vc : ValkeyCluster) (nodes : List ClusterNodeState) :
    (underReplicatedCondition vc nodes).type = .shardUnderReplicated := by
  unfold underReplicatedCondition
  dsimp only
  split <;> rfl

def ipToPodName (pods : List Pod) (ip : Text) : Text :=
  match pods.reverse.find? (fun pod => decide (pod.podIP ≠ []) && decide (pod.podIP = ip)) with
  | none => []
  | some pod => pod.name

def nodeStatuses (pods : List Pod) (nodes : List ClusterNodeState) : List NodeStatus :=
  (nodes.filter (fun n => !hasNoaddr n.flags)).map (fun n =>
    { nodeID := n.id
      podName := ipToPodName pods n.ip
      ip := n.ip
      role := if hasMaster n.flags then .primary else .replica
      masterID := if n.masterID = ['-'] then [] else n.masterID
      slots := n.slots })

/-- Node names by pod IP and by stable DNS name; a later pod overwrites an earlier one. -/
def keyToPlacement (vc : ValkeyCluster) (pods : List Pod) : List (Text × Text) :=
  pods.flatMap (fun pod =>
    if pod.nodeName = [] then []
    else (if pod.podIP = [] then [] else [(pod.podIP, pod.nodeName)]) ++
      [(stableDNS vc pod, pod.nodeName)])

def placementOf (placements : List (Text × Text)) (key : Text) : Option Text :=
  (placements.reverse.find? (fun p => p.1 = key)).map (·.2)

def nodePlacement (placements : List (Text × Text)) (n : ClusterNodeState) : Option Text :=
  match placementOf placements n.ip with
  | some p => some p
  | none => if n.hostname ≠ [] then placementOf placements n.hostname else none

def nodeByID (nodes : List ClusterNodeState) (id : Text) : Option ClusterNodeState :=
  nodes.reverse.find? (fun n => n.id = id)

def colocated (placements : List (Text × Text)) (nodes : List ClusterNodeState) : List String :=
  nodes.filterMap (fun n =>
    if !hasSlave n.flags || decide (n.masterID = ['-']) || decide (n.masterID = []) then none
    else
      match nodeByID nodes n.masterID with
      | none => none
      | some primary =>
        match nodePlacement placements n, nodePlacement placements primary with
        | some replicaNode, some primaryNode =>
          if replicaNode ≠ [] ∧ replicaNode = primaryNode then
            some ("primary " ++ shortID primary.id ++ " + replica " ++ shortID n.id ++ " on node " ++
              String.ofList replicaNode)
          else none
        | _, _ => none)

/-- Zones are looked up but never compared, so that only node names are kept. -/
def detectShardColocation (listed : Option (List Pod)) (now : Time)
    (nodes : List ClusterNodeState) (w : World) : World :=
  match listed with
  | none => w
  | some pods =>
    let found := colocated (keyToPlacement w.vc pods) nodes
    if found ≠ [] then
      w.setCondition now ⟨.shardColocated, .true, "PrimaryReplicaColocated",
        "shard colocation detected (reduced fault tolerance): " ++ "; ".intercalate found,
        w.vc.generation, 0⟩
    else
      w.setCondition now ⟨.shardColocated, .false, "TopologyOK",
        "No primary/replica colocation detected", w.vc.generation, 0⟩

structure HealthInput where
  secretOK : Bool
  listed : Option (List Pod)
  reply : Pod → Option ClusterReply
  statusPods : Option (List Pod)
  degradedAt : Time
  timer : TimerInput
  resetPods : Option (List Pod)
  reset : ResetInput
  clearOK : Bool
  underReplicatedAt : Time
  forget : ForgetInput
  placedPods : Option (List Pod)
  colocatedAt : Time

def fetchClusterState (i : HealthInput) : Option ClusterReply :=
  match i.listed with
  | none => none
  | some pods => (readyWithIP pods).findSome? (fun pod =>
      match i.reply pod with
      | none => none
      | some reply => if reply.nodesRaw = [] ∨ reply.info = [] then none else some reply)

def updateStatusNodes (i : HealthInput) (nodes : List ClusterNodeState) (w : World) : World :=
  match i.statusPods with
  | none => w
  | some pods => w.setNodes (nodeStatuses pods nodes)

/-- Check 1. An empty state is unknown and counts as healthy. -/
def checkClusterState (i : HealthInput) (clusterState : Text) (w : World) : World :=
  if clusterState ≠ [] ∧ clusterState ≠ "ok".toList then
    let w := w.setCondition i.degradedAt ⟨.clusterDegraded, .true, "ClusterStateFail",
      "cluster_state=" ++ String.ofList clusterState, w.vc.generation, 0⟩
    match clusterNotOKTimedOut i.timer w with
    | (false, w) => w
    | (true, w) =>
      let w := match i.resetPods with
        | none => w
        | some pods => (resetAllNodes i.reset (readyWithIP pods) w).1
      clearClusterNotOKAnnotation i.clearOK w
  else
    let w := clearClusterNotOKAnnotation i.clearOK w
    w.setCondition i.degradedAt ⟨.clusterDegraded, .false, "ClusterOK", "cluster_state=ok",
      w.vc.generation, 0⟩

def checkReplication (i : HealthInput) (nodes : List ClusterNodeState) (w : World) : World :=
  w.setCondition i.underReplicatedAt (underReplicatedCondition w.vc nodes)

def reconcileClusterHealth (i : HealthInput) (w : World) : World × Bool :=
  if !i.secretOK then (w, true)
  else
    match fetchClusterState i with
    | none =>
      (w.setCondition i.degradedAt ⟨.clusterDegraded, .true, "Unreachable",
        "No Valkey node is reachable", w.vc.generation, 0⟩, false)
    | some reply =>
      let nodes := parseClusterNodes reply.nodesRaw
      let clusterState := parseClusterInfoField reply.info "cluster_state".toList
      let w := updateStatusNodes i nodes w
      let w := checkClusterState i clusterState w
      let w := checkReplication i nodes w
      let w := (forgetStaleNodes i.forget nodes w).1
      (detectShardColocation i.placedPods i.colocatedAt nodes w, false)

theorem updateStatusNodes_frame {keys : AnnotationKey → Prop} {acts : Event → Prop}
    (i : HealthInput) (nodes : List ClusterNodeState) (w : World) :
    Frame keys acts w (updateStatusNodes i nodes w) := by
  unfold updateStatusNodes
  split
  · exact Frame.refl keys acts w
  · exact Frame.setNodes _ w

theorem updateStatusNodes_annotations (i : HealthInput) (nodes : List ClusterNodeState) (w : World) :
    (updateStatusNodes i nodes w).vc.annotations = w.vc.annotations := by
  unfold updateStatusNodes
  split <;> rfl

theorem detectShardColocation_frame {keys : AnnotationKey → Prop} {acts : Event → Prop}
    (listed : Option (List Pod)) (now : Time) (nodes : List ClusterNodeState) (w : World) :
    Frame keys acts w (detectShardColocation listed now nodes w) := by
  unfold detectShardColocation
  split
  · exact Frame.refl keys acts w
  · dsimp only
    split <;> exact Frame.setCondition now _ w

/-- Without a running timer check 1 starts one at most: it resets nothing. -/
theorem checkClusterState_frame {keys : AnnotationKey → Prop} {acts : Event → Prop}
    (h₁ : ¬ keys .clusterNotOKSince) (h₂ : ¬ keys .lastResetTime) {w : World}
    (hr : w.vc.annotations .clusterNotOKSince = none ∨ ∀ e, e.IsReset → acts e)
    (i : HealthInput) (clusterState : Text) :
    Frame keys acts w (checkClusterState i clusterState w) := by
  unfold checkClusterState
  split
  · dsimp only
    generalize hw : w.setCondition i.degradedAt _ = w₁
    have hset : Frame keys acts w w₁ := hw ▸ Frame.setCondition i.degradedAt _ w
    have hann : w₁.vc.annotations = w.vc.annotations := by
      rw [← hw]
      rfl
    cases hexp : notOKExpired w₁.vc i.timer.now with
    | false =>
      rw [clusterNotOKTimedOut_waits hexp]
      exact hset.trans (clusterNotOKTimedOut_frame h₁ i.timer w₁)
    | true =>
      -- an expired timer is one that was running, so resets are allowed here
      have hresets : ∀ e, e.IsReset → acts e := by
        refine hr.resolve_left (fun hnone => ?_)
        simp [notOKExpired,hann,hnone] at hexp
      rw [clusterNotOKTimedOut_expired hexp]
      cases i.resetPods with
      | none => exact hset.trans (clear_frame h₁ h₂ i.clearOK w₁)
      | some pods =>
        have hreset := resetAllNodes_frame h₂ hresets i.reset (readyWithIP pods) w₁
        exact (hset.trans hreset).trans (clear_frame h₁ h₂ i.clearOK _)
  · exact (clear_frame h₁ h₂ i.clearOK w).trans (Frame.setCondition i.degradedAt _ _)

theorem checkReplication_frame {keys : AnnotationKey → Prop} {acts : Event → Prop}
    (i : HealthInput) (nodes : List ClusterNodeState) (w : World) :
    Frame keys acts w (checkReplication i nodes w) :=
  Frame.setCondition i.underReplicatedAt _ w

theorem reconcileClusterHealth_frame {keys : AnnotationKey → Prop} {acts : Event → Prop}
    (h₁ : ¬ keys .clusterNotOKSince) (h₂ : ¬ keys .lastResetTime)
    (h₃ : ∀ id, ¬ keys (.staleSince id)) (hf : ∀ pod id, acts (.forget pod id)) {w : World}
    (hr : w.vc.annotations .clusterNotOKSince = none ∨ ∀ e, e.IsReset → acts e)
    (i : HealthInput) : Frame keys acts w (reconcileClusterHealth i w).1 := by
  unfold reconcileClusterHealth
  split
  · exact Frame.refl keys acts w
  · split
    · exact Frame.setCondition i.degradedAt _ w
    · rename_i reply _
      have hnodes : Frame keys acts w _ :=
        updateStatusNodes_frame i (parseClusterNodes reply.nodesRaw) w
      rw [← updateStatusNodes_annotations i (parseClusterNodes reply.nodesRaw) w] at hr
      have hstate := hnodes.trans (checkClusterState_frame h₁ h₂ hr i
        (parseClusterInfoField reply.info "cluster_state".toList))
      have hrepl := hstate.trans (checkReplication_frame i (parseClusterNodes reply.nodesRaw) _)
      have hforget := hrepl.trans
        (forgetStaleNodes_frame h₃ hf i.forget (parseClusterNodes reply.nodesRaw) _)
      exact hforget.trans (detectShardColocation_frame i.placedPods i.colocatedAt _ _)

end ValkeyOperator
