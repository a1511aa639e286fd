import ValkeyOperator.Repair
import ValkeyOperator.Runs
import ValkeyOperator.Selection
import Mathlib.Data.Char
import Mathlib.Data.Int.Order.Basic
import Mathlib.Data.List.Lex
import Mathlib.Data.Prod.Lex

/-!
The orders of a repair pass: which pod is told to replicate which primary, and from which
view of the cluster. Both repairs send their commands from such a list.
-/

set_option autoImplicit false

namespace ValkeyOperator
open TextScan

def takesReplicas (n : ClusterNodeState) : Bool := healthyMaster n && decide (n.slots ≠ [])

theorem pickStep_eq (nodes : List ClusterNodeState) (best : Text × Int) (n : ClusterNodeState) :
    pickStep nodes best n =
      if takesReplicas n = true ∧ ((replicaCount nodes n.id : Int) < best.2 ∨
        ((replicaCount nodes n.id : Int) = best.2 ∧ n.id < best.1))
      then (n.id, (replicaCount nodes n.id : Int)) else best := by
  unfold pickStep takesReplicas
  cases healthyMaster n <;> by_cases hslots : n.slots = [] <;> simp [hslots]

theorem parseClusterNodes_id {nodesRaw : Text} {n : ClusterNodeState}
    (h : n ∈ parseClusterNodes nodesRaw) : n.id ≠ [] := by
  obtain ⟨line,-,hparse⟩ := List.mem_filterMap.mp h
  unfold parseNodeLine at hparse
  split at hparse
  · rename_i id addrRaw flags masterID _ _ _ _ slots hfields
    cases hparse
    have hid : id ∈ fields line := by simp [hfields]
    exact (fields_token hid).1
  · cases hparse

theorem pickStep_foldl (nodes : List ClusterNodeState) (expectedReplicas : Int) :
    nodes.foldl (pickStep nodes) ([], expectedReplicas + 1) = ([], expectedReplicas + 1) ∨
      ∃ n ∈ nodes, takesReplicas n = true ∧ (replicaCount nodes n.id : Int) ≤ expectedReplicas ∧
        nodes.foldl (pickStep nodes) ([], expectedReplicas + 1) =
          (n.id, (replicaCount nodes n.id : Int)) := by
  refine List.foldlRecOn (motive := fun best => best = ([], expectedReplicas + 1) ∨
    ∃ n ∈ nodes, takesReplicas n = true ∧ (replicaCount nodes n.id : Int) ≤ expectedReplicas ∧
      best = (n.id, (replicaCount nodes n.id : Int))) nodes (pickStep nodes) (.inl rfl)
    (fun best hbest n hn => ?_)
  rw [pickStep_eq]
  split
  · rename_i htake
    refine .inr ⟨n, hn, htake.1, ?_, rfl⟩
    rcases hbest with rfl | ⟨m,-,-,hm,rfl⟩
    · -- no ID is smaller than the empty one of the start
      rcases htake.2 with hlt | ⟨-,hid⟩
      · exact Int.lt_add_one_iff.mp hlt
      · exact absurd hid (List.not_lt_nil n.id)
    · rcases htake.2 with hlt | ⟨heq,-⟩ <;> dsimp only at * <;> omega
  · exact hbest

def nodeRank (nodes : List ClusterNodeState) (n : ClusterNodeState) : Int ×ₗ Text :=
  toLex ((replicaCount nodes n.id : Int), n.id)

def bestRank (best : Text × Int) : Int ×ₗ Text := toLex (best.2, best.1)

theorem pickStep_first (nodes : List ClusterNodeState) (start : Text × Int) :
    ∀ q ∈ nodes, takesReplicas q = true →
      bestRank (nodes.foldl (pickStep nodes) start) ≤ nodeRank nodes q := by
  have hkeep : ∀ (best : Text × Int) (n : ClusterNodeState),
      bestRank (pickStep nodes best n) ≤ bestRank best := by
    intro best n
    rw [pickStep_eq,Prod.Lex.le_iff]
    split
    · rename_i htake
      rcases htake.2 with hlt | ⟨heq,hid⟩
      · exact .inl hlt
      · exact .inr ⟨heq, le_of_lt hid⟩
    · exact .inr ⟨rfl, le_refl _⟩
  have hsee : ∀ (best : Text × Int) (n : ClusterNodeState), takesReplicas n = true →
      bestRank (pickStep nodes best n) ≤ nodeRank nodes n := by
    intro best n htakes
    rw [pickStep_eq,Prod.Lex.le_iff]
    split
    · exact .inr ⟨rfl, le_refl _⟩
    · rename_i hkeeps
      rcases lt_trichotomy best.2 (replicaCount nodes n.id : Int) with hlt | heq | hgt
      · exact .inl hlt
      · exact .inr ⟨heq, not_lt.mp (fun hid => hkeeps ⟨htakes, .inr ⟨heq.symm, hid⟩⟩)⟩
      · exact absurd ⟨htakes, .inl hgt⟩ hkeeps
  exact (Selection.foldl_least hkeep hsee start nodes).2

theorem pickStep_least (nodes : List ClusterNodeState) (start : Text × Int) :
    ∀ q ∈ nodes, takesReplicas q = true →
      (nodes.foldl (pickStep nodes) start).2 ≤ replicaCount nodes q.id := by
  intro q hq htakes
  rcases Prod.Lex.le_iff.mp (pickStep_first nodes start q hq htakes) with hlt | ⟨heq,-⟩
  · exact le_of_lt hlt
  · exact le_of_eq heq

theorem pickMasterForReplica_eq (nodesRaw : Text) (expectedReplicas : Int) :
    pickMasterForReplica nodesRaw expectedReplicas =
      let best := (parseClusterNodes nodesRaw).foldl (pickStep (parseClusterNodes nodesRaw))
        ([], expectedReplicas + 1)
      if best.1 = [] then none else some best.1 := rfl

/-- The choice: none with fewer replicas, and not more than there should be. -/
theorem pickMasterForReplica_some {nodesRaw masterID : Text} {expectedReplicas : Int}
    (h : pickMasterForReplica nodesRaw expectedReplicas = some masterID) :
    (∃ n ∈ parseClusterNodes nodesRaw, takesReplicas n = true ∧ n.id = masterID) ∧
      (replicaCount (parseClusterNodes nodesRaw) masterID : Int) ≤ expectedReplicas ∧
      ∀ q ∈ parseClusterNodes nodesRaw, takesReplicas q = true →
        replicaCount (parseClusterNodes nodesRaw) masterID ≤
          replicaCount (parseClusterNodes nodesRaw) q.id := by
  have hleast := pickStep_least (parseClusterNodes nodesRaw) ([], expectedReplicas + 1)
  rw [pickMasterForReplica_eq] at h
  dsimp only at h
  rcases pickStep_foldl (parseClusterNodes nodesRaw) expectedReplicas with hstart | ⟨n,hn,htakes,hle,hbest⟩
  · simp [hstart] at h
  · rw [hbest] at hleast
    rw [hbest,if_neg (parseClusterNodes_id hn)] at h
    cases h
    refine ⟨⟨n, hn, htakes, rfl⟩, hle, fun q hq hqt => ?_⟩
    exact Int.ofNat_le.mp (hleast q hq hqt)

theorem pickMasterForReplica_none {nodesRaw : Text} {expectedReplicas : Int}
    (h : pickMasterForReplica nodesRaw expectedReplicas = none) :
    ∀ q ∈ parseClusterNodes nodesRaw, takesReplicas q = true →
      expectedReplicas < replicaCount (parseClusterNodes nodesRaw) q.id := by
  have hleast := pickStep_least (parseClusterNodes nodesRaw) ([], expectedReplicas + 1)
  rw [pickMasterForReplica_eq] at h
  dsimp only at h
  rcases pickStep_foldl (parseClusterNodes nodesRaw) expectedReplicas with hstart | ⟨n,hn,-,-,hbest⟩
  · rw [hstart] at hleast
    intro q hq hqt
    have hlt := hleast q hq hqt
    dsimp only at hlt
    omega
  · rw [hbest,if_neg (parseClusterNodes_id hn)] at h
    cases h

/-- `view` is the CLUSTER NODES text the primary was picked from. -/
structure ReplicaOrder where
  pod : Pod
  view : Text
  masterID : Text
  ip : Text
  deriving DecidableEq

def orderFor (vc : ValkeyCluster) (nodesRaw : Text) (pod : Pod) : Option ReplicaOrder :=
  (pickMasterForReplica nodesRaw vc.spec.replicasPerShard).bind (fun masterID =>
    if primaryIP nodesRaw masterID = [] then none
    else some ⟨pod, nodesRaw, masterID, primaryIP nodesRaw masterID⟩)

def ReplicaOrder.payload (vc : ValkeyCluster) (o : ReplicaOrder) : Text := replicaPayload vc o.view o.ip

theorem orderFor_some {vc : ValkeyCluster} {nodesRaw : Text} {pod : Pod} {o : ReplicaOrder}
    (h : orderFor vc nodesRaw pod = some o) :
    pickMasterForReplica nodesRaw vc.spec.replicasPerShard = some o.masterID ∧ o.pod = pod ∧
      o.view = nodesRaw ∧ o.ip = primaryIP nodesRaw o.masterID ∧ o.ip ≠ [] := by
  obtain ⟨masterID,hpick,ho⟩ := Option.bind_eq_some_iff.mp h
  split at ho
  · cases ho
  · rename_i hip
    cases ho
    exact ⟨hpick, rfl, rfl, rfl, hip⟩

def sendOrders (reply : Pod → TopologyReply) (orders : List ReplicaOrder) (w : World) : World :=
  orders.foldl (fun w o => setTopology reply o.pod (o.payload w.vc) w) w

theorem setTopology_vc (reply : Pod → TopologyReply) (pod : Pod) (payload : Text) (w : World) :
    (setTopology reply pod payload w).vc = w.vc := by
  unfold setTopology
  split <;> rfl

theorem sendOrders_log (reply : Pod → TopologyReply) (orders : List ReplicaOrder) (w : World) :
    (sendOrders reply orders w).log = w.log ++
      (orders.filter (fun o => reply o.pod ≠ .unreachable)).map
        (fun o => Event.topologySet o.pod (o.payload w.vc)) := by
  induction orders generalizing w with
  | nil => simp [sendOrders]
  | cons o orders ih =>
    have hnext := ih (setTopology reply o.pod (o.payload w.vc) w)
    rw [setTopology_vc] at hnext
    unfold sendOrders at hnext ⊢
    rw [List.foldl_cons,hnext]
    by_cases h : reply o.pod = .unreachable
    · simp [setTopology,h]
    · simp [setTopology,h,World.emit]

theorem reintegratePod_order (i : OrphanInput) (nodesRaw : Text) (pod : Pod) (w : World) :
    (reintegratePod i nodesRaw pod w).1 =
      sendOrders i.reply (orderFor w.vc nodesRaw pod).toList w := by
  unfold reintegratePod orderFor
  cases pickMasterForReplica nodesRaw w.vc.spec.replicasPerShard with
  | none => rfl
  | some masterID =>
    dsimp only [Option.bind_some]
    split
    · rfl
    · rfl

def candidatePod (readyPods : List Pod) (n : ClusterNodeState) : Option Pod :=
  if !healthyMaster n || decide (n.slots ≠ []) then none
  else readyPods.reverse.find? (fun pod => pod.podIP = n.ip)

/-- The views that are fetched for the candidates, up to the first fetch that fails or
view that offers no primary. -/
def visits (i : RolesInput) (readyPods : List Pod) (expectedReplicas : Int) :
    Nat → List Pod → List (Pod × Text)
  | _, [] => []
  | fetched, pod :: rest =>
    match fetchClusterNodesWithSeed (i.fetch fetched) readyPods with
    | none => []
    | some (nodesRaw, _) =>
      (pod, nodesRaw) :: if pickMasterForReplica nodesRaw expectedReplicas = none then []
        else visits i readyPods expectedReplicas (fetched + 1) rest

def visitOrder (vc : ValkeyCluster) (v : Pod × Text) : Option ReplicaOrder := orderFor vc v.2 v.1

theorem visits_cons (i : RolesInput) (readyPods : List Pod) (expectedReplicas : Int) (fetched : Nat)
    (pod : Pod) (rest : List Pod) :
    visits i readyPods expectedReplicas fetched (pod :: rest) =
      match fetchClusterNodesWithSeed (i.fetch fetched) readyPods with
      | none => []
      | some (nodesRaw, _) =>
        (pod, nodesRaw) :: if pickMasterForReplica nodesRaw expectedReplicas = none then []
          else visits i readyPods expectedReplicas (fetched + 1) rest := rfl

/-- What a visit leaves in the log: its view, and the command if the pod can be reached. -/
def visitEvents (i : RolesInput) (vc : ValkeyCluster) (v : Pod × Text) : List Event :=
  .fetchedNodes v.2 :: ((visitOrder vc v).toList.filter (fun o => i.reply o.pod ≠ .unreachable)).map
    (fun o => .topologySet o.pod (o.payload vc))

theorem assignReplicas_cons (i : RolesInput) (readyPods : List Pod) (fetched : Nat)
    (n : ClusterNodeState) (rest : List ClusterNodeState) (w : World) :
    assignReplicas i readyPods fetched (n :: rest) w =
      match candidatePod readyPods n with
      | none => assignReplicas i readyPods fetched rest w
      | some pod =>
        match fetchClusterNodesWithSeed (i.fetch fetched) readyPods with
        | none => w
        | some (nodesRaw, _) =>
          if pickMasterForReplica nodesRaw w.vc.spec.replicasPerShard = none then
            { w with log := w.log ++ visitEvents i w.vc (pod, nodesRaw) }
          else assignReplicas i readyPods (fetched + 1) rest
            { w with log := w.log ++ visitEvents i w.vc (pod, nodesRaw) } := by
  rw [assignReplicas,candidatePod]
  cases !healthyMaster n || decide (n.slots ≠ []) with
  | true => rfl
  | false =>
    rw [if_neg (by decide),if_neg (by decide)]
    cases readyPods.reverse.find? (fun pod => pod.podIP = n.ip) with
    | none => rfl
    | some pod =>
      cases fetchClusterNodesWithSeed (i.fetch fetched) readyPods with
      | none => rfl
      | some found =>
        dsimp only [World.emit_vc,visitEvents,visitOrder,orderFor]
        cases pickMasterForReplica found.1 w.vc.spec.replicasPerShard with
        | none => rfl
        | some masterID =>
          rw [if_neg (by simp),Option.bind_some]
          dsimp only
          split
          · rfl
          · by_cases hreply : i.reply pod = .unreachable
            · simp [setTopology,hreply,World.emit]
            · simp [setTopology,hreply,World.emit,ReplicaOrder.payload]

theorem sendOrders_vc (reply : Pod → TopologyReply) (orders : List ReplicaOrder) (w : World) :
    (sendOrders reply orders w).vc = w.vc := by
  induction orders generalizing w with
  | nil => rfl
  | cons o orders ih => exact (ih _).trans (setTopology_vc reply o.pod _ w)

theorem sendOrders_append (reply : Pod → TopologyReply) (before after : List ReplicaOrder) (w : World) :
    sendOrders reply (before ++ after) w = sendOrders reply after (sendOrders reply before w) := by
  simp [sendOrders]

theorem filterMap_cons_toList {α β : Type} (f : α → Option β) (a : α) (l : List α) :
    (a :: l).filterMap f = (f a).toList ++ l.filterMap f := by
  cases h : f a <;> simp [h]

theorem assignReplicas_events (i : RolesInput) (readyPods : List Pod) (fetched : Nat)
    (ns : List ClusterNodeState) (w : World) :
    assignReplicas i readyPods fetched ns w =
      { w with log := w.log ++ (visits i readyPods w.vc.spec.replicasPerShard fetched
        (ns.filterMap (candidatePod readyPods))).flatMap (visitEvents i w.vc) } := by
  induction ns generalizing fetched w with
  | nil => simp [assignReplicas,visits]
  | cons n rest ih =>
    rw [assignReplicas_cons,List.filterMap_cons]
    cases candidatePod readyPods n with
    | none => exact ih fetched w
    | some pod =>
      dsimp only
      rw [visits_cons]
      cases fetchClusterNodesWithSeed (i.fetch fetched) readyPods with
      | none => simp
      | some found =>
        dsimp only
        split
        · simp
        · rw [ih,List.flatMap_cons,List.append_assoc]

def rolesStart (i : RolesInput) (vc : ValkeyCluster) : Option (Text × List Pod) :=
  if isUnderReplicated vc && i.secretOK then
    i.listed.bind (fun pods =>
      (fetchClusterNodesWithSeed (i.fetch 0) (readyWithIP pods)).bind (fun found =>
        (i.info (stableIP found.1 (readyWithIP pods))).bind (fun info =>
          if parseClusterInfoInt info "cluster_known_nodes".toList > totalPods vc then none
          else some (found.1, readyWithIP pods))))
  else none

theorem rolesStart_some {i : RolesInput} {vc : ValkeyCluster} {nodesRaw : Text} {readyPods : List Pod}
    (h : rolesStart i vc = some (nodesRaw, readyPods)) :
    ∃ pods seed, i.listed = some pods ∧ readyPods = readyWithIP pods ∧
      fetchClusterNodesWithSeed (i.fetch 0) (readyWithIP pods) = some (nodesRaw, seed) := by
  unfold rolesStart at h
  split at h
  · obtain ⟨pods,hlisted,hfound⟩ := Option.bind_eq_some_iff.mp h
    obtain ⟨⟨raw,seed⟩,hfetch,hinfo⟩ := Option.bind_eq_some_iff.mp hfound
    obtain ⟨info,-,hknown⟩ := Option.bind_eq_some_iff.mp hinfo
    split at hknown
    · cases hknown
    · cases hknown
      exact ⟨pods, seed, hlisted, rfl, hfetch⟩
  · cases h

def candidates (nodesRaw : Text) (readyPods : List Pod) : List Pod :=
  (parseClusterNodes nodesRaw).filterMap (candidatePod readyPods)

def roleVisits (i : RolesInput) (vc : ValkeyCluster) : List (Pod × Text) :=
  match rolesStart i vc with
  | none => []
  | some (nodesRaw, readyPods) =>
    visits i readyPods vc.spec.replicasPerShard 1 (candidates nodesRaw readyPods)

def roleOrders (i : RolesInput) (vc : ValkeyCluster) : List ReplicaOrder :=
  (roleVisits i vc).filterMap (visitOrder vc)

def firstView (i : RolesInput) (vc : ValkeyCluster) : Option (Text × List Pod) :=
  if isUnderReplicated vc && i.secretOK then
    i.listed.bind (fun pods => (fetchClusterNodesWithSeed (i.fetch 0) (readyWithIP pods)).map
      (fun found => (found.1, readyWithIP pods)))
  else none

def roleEvents (i : RolesInput) (vc : ValkeyCluster) : List Event :=
  match firstView i vc with
  | none => []
  | some (nodesRaw, _) => .fetchedNodes nodesRaw :: (roleVisits i vc).flatMap (visitEvents i vc)

/-- Step 9 fetches its views, sends its orders and does nothing else. -/
theorem reconcileReplicaRoles_events (i : RolesInput) (w : World) :
    (reconcileReplicaRoles i w).1 =
      { w with log := w.log ++ (.readUnderReplicated (conditionsOf .shardUnderReplicated w.vc.status.conditions) ::
        roleEvents i w.vc) } := by
  have hvc : ∀ (e : Event) (v : World), (v.emit e).vc = v.vc := fun _ _ => rfl
  have hread : ∀ a b, (w.emit a).emit b = { w with log := w.log ++ [a, b] } := by simp [World.emit]
  unfold reconcileReplicaRoles roleEvents firstView roleVisits rolesStart
  dsimp only
  rw [hvc]
  cases isUnderReplicated w.vc with
  | false => rfl
  | true =>
    cases i.secretOK with
    | false => rfl
    | true =>
      cases i.listed with
      | none => rfl
      | some pods =>
        have hempty : fetchClusterNodesWithSeed (i.fetch 0) [] = none := rfl
        simp only [Bool.not_true,Bool.false_eq_true,if_false,Bool.and_self,if_true,Option.bind_some]
        split
        · rename_i hnone
          rw [hnone,hempty]
          rfl
        cases fetchClusterNodesWithSeed (i.fetch 0) (readyWithIP pods) with
        | none => rfl
        | some found =>
          dsimp only [Option.bind_some,Option.map_some]
          rw [hvc,hvc,hread]
          cases i.info (stableIP found.1 (readyWithIP pods)) with
          | none => rfl
          | some info =>
            dsimp only [Option.bind_some]
            split
            · rfl
            · rw [assignReplicas_events,List.append_assoc]
              rfl

structure OrphanStart where
  runningPods : List Pod
  nodesRaw : Text
  seed : Pod
  deriving DecidableEq

def orphanStart (i : OrphanInput) : Option OrphanStart :=
  if i.secretOK then
    i.listed.bind (fun pods =>
      let runningPods := pods.filter (fun pod =>
        pod.phase = .running && decide (pod.podIP ≠ []) && !pod.deleting)
      (fetchClusterNodesWithSeed i.nodes runningPods).map (fun found =>
        ⟨runningPods, found.1, found.2⟩))
  else none

theorem orphanStart_some {i : OrphanInput} {s : OrphanStart} (h : orphanStart i = some s) :
    ∃ pods, i.listed = some pods ∧ (∀ pod ∈ s.runningPods, pod ∈ pods) ∧
      fetchClusterNodesWithSeed i.nodes s.runningPods = some (s.nodesRaw, s.seed) := by
  unfold orphanStart at h
  split at h
  · obtain ⟨pods,hlisted,hfound⟩ := Option.bind_eq_some_iff.mp h
    obtain ⟨⟨raw,seed⟩,hfetch,rfl⟩ := Option.map_eq_some_iff.mp hfound
    exact ⟨pods, hlisted, fun pod hpod => List.mem_of_mem_filter hpod, hfetch⟩
  · cases h

/-- The seed itself is never looked at. -/
def needsRepair (i : OrphanInput) (vc : ValkeyCluster) (nodesRaw : Text) (seed pod : Pod) : Bool :=
  decide (pod.name ≠ seed.name) && isOrphan i vc nodesRaw pod

def OrphanStart.orphans (i : OrphanInput) (vc : ValkeyCluster) (s : OrphanStart) : List Pod :=
  s.runningPods.filter (needsRepair i vc s.nodesRaw s.seed)

def orphanOrders (i : OrphanInput) (vc : ValkeyCluster) : List ReplicaOrder :=
  match orphanStart i with
  | none => []
  | some s => (s.orphans i vc).filterMap (orderFor vc s.nodesRaw)

theorem repairOrphan_order (i : OrphanInput) (nodesRaw : Text) (seed : Pod) (w : World) (pod : Pod) :
    repairOrphan i nodesRaw seed w pod =
      if needsRepair i w.vc nodesRaw seed pod then
        sendOrders i.reply (orderFor w.vc nodesRaw pod).toList w
      else w := by
  unfold repairOrphan needsRepair
  by_cases hseed : pod.name = seed.name
  · simp [hseed]
  · cases horphan : isOrphan i w.vc nodesRaw pod with
    | false => simp [hseed]
    | true => simp [hseed,reintegratePod_order]

theorem repairOrphans_orders (i : OrphanInput) (nodesRaw : Text) (seed : Pod) (pods : List Pod)
    (w : World) :
    pods.foldl (repairOrphan i nodesRaw seed) w =
      sendOrders i.reply ((pods.filter (needsRepair i w.vc nodesRaw seed)).filterMap
        (orderFor w.vc nodesRaw)) w := by
  induction pods generalizing w with
  | nil => rfl
  | cons pod pods ih =>
    rw [List.foldl_cons,ih,repairOrphan_order]
    cases hneeds : needsRepair i w.vc nodesRaw seed pod with
    | false =>
      rw [List.filter_cons_of_neg (by simp [hneeds])]
      rfl
    | true =>
      rw [if_pos rfl,sendOrders_vc,← sendOrders_append,List.filter_cons_of_pos hneeds,
        filterMap_cons_toList]

theorem reconcileOrphanReplicas_orders (i : OrphanInput) (w : World) :
    (reconcileOrphanReplicas i w).1 = sendOrders i.reply (orphanOrders i w.vc) w := by
  unfold reconcileOrphanReplicas orphanOrders orphanStart
  cases i.secretOK with
  | false => rfl
  | true =>
    cases i.listed with
    | none => rfl
    | some pods =>
      dsimp only [Option.bind_some]
      simp only [Bool.not_true,Bool.false_eq_true,if_false,if_true]
      split
      · rename_i hnone
        rw [hnone]
        rfl
      · rename_i hsome
        rw [hsome]
        exact repairOrphans_orders i _ _ _ w

end ValkeyOperator
