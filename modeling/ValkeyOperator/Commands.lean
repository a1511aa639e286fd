import ValkeyOperator.Reconcile

/-! Whom a pass sends its commands to: pods that it has listed. -/

set_option autoImplicit false

namespace ValkeyOperator
open TextScan

/-- The pods that ACL, TOPOLOGY.SET (and with it MEET), RESET and FORGET commands go to. -/
def Event.targets : Event → List Pod
  | .applyACLs pod _ => [pod]
  | .reset round => round.outcomes.map (fun o => o.1)
  | .topologySet pod _ => [pod]
  | .forget pod _ => [pod]
  | _ => []

def Event.To (P : Pod → Prop) (e : Event) : Prop := ∀ pod ∈ e.targets, P pod

def Lists (P : Pod → Prop) (listed : Option (List Pod)) : Prop := ∀ pod ∈ listed.getD [], P pod

theorem Lists.mem {P : Pod → Prop} {listed : Option (List Pod)} (h : Lists P listed) {pods : List Pod}
    (hl : listed = some pods) : ∀ pod ∈ pods, P pod := by
  rw [hl] at h
  exact h

theorem mem_of_readyWithIP {P : Pod → Prop} {pods : List Pod} (h : ∀ pod ∈ pods, P pod) :
    ∀ pod ∈ readyWithIP pods, P pod :=
  fun pod hpod => h pod (List.mem_filter.mp hpod).1

/-- From `w` on, commands to pods with `P` only. -/
def Sends (P : Pod → Prop) (w w' : World) : Prop := ∃ es, w'.log = w.log ++ es ∧ ∀ e ∈ es, e.To P

namespace Sends
variable {P : Pod → Prop} {w w' w'' : World}

theorem of_log (h : w'.log = w.log) : Sends P w w' := ⟨[], by simp [h], by simp⟩

theorem refl (P : Pod → Prop) (w : World) : Sends P w w := of_log rfl

theorem trans (h₁ : Sends P w w') (h₂ : Sends P w' w'') : Sends P w w'' := by
  obtain ⟨es,hlog,hes⟩ := h₁
  obtain ⟨es',hlog',hes'⟩ := h₂
  refine ⟨es ++ es', by rw [hlog',hlog,List.append_assoc], ?_⟩
  intro e he
  rcases List.mem_append.mp he with he | he
  · exact hes e he
  · exact hes' e he

theorem emit {e : Event} (he : e.To P) (w : World) : Sends P w (w.emit e) :=
  ⟨[e], rfl, by simpa using he⟩

theorem of_emits {acts : Event → Prop} (ha : ∀ e, acts e → e.targets = []) (h : Emits acts w w') :
    Sends P w w' := by
  obtain ⟨es,hes,rfl⟩ := h
  refine ⟨es, rfl, fun e he pod hpod => ?_⟩
  rw [ha e (hes e he)] at hpod
  cases hpod

theorem of_silent (h : Frame (fun _ => False) (fun _ => False) w w') : Sends P w w' := of_log h.log_eq

end Sends

theorem Event.to_of_no_targets {P : Pod → Prop} {e : Event} (h : e.targets = []) : e.To P := by
  intro pod hpod
  rw [h] at hpod
  cases hpod

section
variable {P : Pod → Prop}

theorem visitACLPod_to {i : ACLInput} {hashChanged : Bool} {pod : Pod} (hpod : P pod) :
    ∀ e ∈ visitACLPod i hashChanged pod, e.To P := by
  intro e he
  unfold visitACLPod at he
  split_ifs at he
  · simp at he
  · rw [List.mem_singleton.mp he]
    exact Event.to_of_no_targets rfl
  · rw [List.mem_singleton.mp he]
    simpa [Event.To,Event.targets] using hpod

theorem reconcileACLs_sends (sum256 : Text → Digest) {i : ACLInput} (h : Lists P i.listed) (w : World) :
    Sends P w (reconcileACLs sum256 i w).1 := by
  unfold reconcileACLs
  cases i.config with
  | none => exact Sends.refl P w
  | some c =>
    cases hl : i.listed with
    | none => exact Sends.refl P w
    | some pods =>
      refine ⟨pods.flatMap (visitACLPod i (aclHashChanged sum256 w.vc c)), ?_, ?_⟩
      · dsimp only
        split <;> simp
      · intro e he
        obtain ⟨pod,hpod,he⟩ := List.mem_flatMap.mp he
        exact visitACLPod_to (h.mem hl pod hpod) e he

theorem reconcileCrashLoopRecovery_sends (i : CrashInput) (w : World) :
    Sends P w (reconcileCrashLoopRecovery i w).1 := by
  have hrec : ∀ e : Event, e.IsRecovery → e.To P := by
    intro e he
    refine Event.to_of_no_targets ?_
    cases e <;> first | rfl | exact he.elim
  have hframe : Frame (fun _ => False) (Event.To P) w (reconcileCrashLoopRecovery i w).1 :=
    reconcileCrashLoopRecovery_frame (fun _ h => h) hrec i w
  exact hframe.emits

theorem resetAllNodes_sends (i : ResetInput) {pods : List Pod} (h : ∀ pod ∈ pods, P pod) (w : World) :
    Sends P w (resetAllNodes i pods w).1 := by
  refine ⟨resetEvents i pods w.vc, resetAllNodes_log i pods w, ?_⟩
  intro e he
  unfold resetEvents at he
  split_ifs at he
  · simp at he
  · rw [List.mem_singleton.mp he]
    simpa [Event.To,Event.targets,ResetInput.round] using h

theorem clear_sends (ok : Bool) (w : World) : Sends P w (w |> clearClusterNotOKAnnotation ok) :=
  Sends.of_log (clear_log ok w)

theorem runBootstrapJob_sends (i : BootstrapInput) {pods : List Pod} (h : ∀ pod ∈ pods, P pod)
    (w : World) : Sends P w (runBootstrapJob i pods w).1 := by
  obtain ⟨es,hlog,hes⟩ := resetAllNodes_sends i.freshReset h w
  have hjob : ∀ e ∈ jobEvents i, e.To P := by
    intro e he
    refine Event.to_of_no_targets ?_
    unfold jobEvents at he
    split at he
    · split at he
      · rw [List.mem_singleton.mp he]; rfl
      split at he
      · split at he
        · rw [List.mem_singleton.mp he]; rfl
        · simp at he
      · simp at he
    · simp at he
    · split at he
      · rw [List.mem_singleton.mp he]; rfl
      · simp at he
  have hreset : ∀ e ∈ resetEvents i.freshReset pods w.vc, e.To P := by
    rw [resetAllNodes_log,List.append_cancel_left_eq] at hlog
    rw [hlog]
    exact hes
  refine ⟨_, (runBootstrapJob_log i pods w).trans (List.append_assoc _ _ _), fun e he => ?_⟩
  rcases List.mem_append.mp he with he | he
  · split at he
    · exact hreset e he
    · simp at he
  · exact hjob e he

theorem reconcileBootstrapJob_sends (i : BootstrapInput) {pods : List Pod} (h : ∀ pod ∈ pods, P pod)
    (w : World) : Sends P w (reconcileBootstrapJob i pods w).1 := by
  unfold reconcileBootstrapJob
  split
  · exact Sends.refl P w
  split
  · exact Sends.refl P w
  dsimp only
  split
  · exact runBootstrapJob_sends i h w
  split
  · exact Sends.refl P w
  split
  · cases hexp : notOKExpired w.vc i.timer.now with
    | false =>
      rw [clusterNotOKTimedOut_waits hexp]
      exact Sends.of_log (clusterNotOKTimedOut_log i.timer w)
    | true =>
      rw [clusterNotOKTimedOut_expired hexp]
      have hreset := resetAllNodes_sends i.staleReset h w
      simp only [resetAllNodes_err,Bool.false_eq_true,if_false]
      exact (hreset.trans (clear_sends i.clearOK _)).trans (runBootstrapJob_sends i h _)
  · exact Sends.refl P w

theorem pushTopology_sends (reply : Pod → TopologyReply) (payload : Text) {pods : List Pod}
    (h : ∀ pod ∈ pods, P pod) (w : World) : Sends P w (pushTopology reply payload pods w) := by
  induction pods generalizing w with
  | nil => exact Sends.refl P w
  | cons pod pods ih =>
    have hrest := ih (fun p hp => h p (by simp [hp]))
    unfold pushTopology
    rw [List.foldl_cons]
    split
    · exact hrest w
    · have hpod : (Event.topologySet pod payload).To P := by
        simpa [Event.To,Event.targets] using h pod (by simp)
      exact (Sends.emit hpod w).trans (hrest _)

def gossipPeers (i : GossipInput) : List Pod :=
  (i.listed.getD []).filter (fun pod => pod.phase = .running && decide (pod.podIP ≠ []) && !pod.deleting)

theorem reconcileGossipRecovery_world (i : GossipInput) (w : World) :
    (reconcileGossipRecovery i w).1 =
      pushTopology i.reply (gossipPayload w.vc (gossipPeers i)) (gossipPeers i) w := by
  unfold reconcileGossipRecovery gossipPeers
  cases i.listed with
  | none => rfl
  | some pods =>
    dsimp only
    split
    · rename_i hnil
      rw [Option.getD_some,hnil]
      rfl
    · rfl

theorem reconcileGossipRecovery_sends {i : GossipInput} (h : Lists P i.listed) (w : World) :
    Sends P w (reconcileGossipRecovery i w).1 := by
  rw [reconcileGossipRecovery_world]
  exact pushTopology_sends i.reply _ (fun pod hpod => h pod (List.mem_filter.mp hpod).1) w

theorem reconcileClusterTopology_sends {i : TopologyInput} (h : Lists P i.listed)
    (hgossip : Lists P i.gossip.listed) (w : World) : Sends P w (reconcileClusterTopology i w).world := by
  have hready : ∀ pod ∈ i.readyPods, P pod := mem_of_readyWithIP h
  rw [reconcileClusterTopology_cases]
  split
  · exact Sends.refl P w
  · have hok : Sends P w (w.emit .clusterOK) := Sends.emit (Event.to_of_no_targets rfl) w
    have hlabels : ∀ w', Sends P w' (syncRoleLabels i.sync i.readyPods w').1 := fun w' =>
      Sends.of_emits (fun _ he => he) (syncRoleLabels_emits (fun _ _ => rfl) i.sync i.readyPods w')
    exact (hok.trans (clear_sends i.clearOK _)).trans (hlabels _)
  · split
    · exact (clear_sends i.timerClearOK w).trans (reconcileGossipRecovery_sends hgossip _)
    · exact Sends.of_log (clusterNotOKTimedOut_log i.timer w)
  · exact reconcileBootstrapJob_sends i.bootstrap hready w

theorem checkClusterState_sends {i : HealthInput} (h : Lists P i.resetPods) (clusterState : Text)
    (w : World) : Sends P w (checkClusterState i clusterState w) := by
  unfold checkClusterState
  split
  · dsimp only
    generalize hw : w.setCondition i.degradedAt _ = w₁
    have hset : Sends P w w₁ := Sends.of_log (by rw [← hw]; rfl)
    cases hexp : notOKExpired w₁.vc i.timer.now with
    | false =>
      rw [clusterNotOKTimedOut_waits hexp]
      exact hset.trans (Sends.of_log (clusterNotOKTimedOut_log i.timer w₁))
    | true =>
      rw [clusterNotOKTimedOut_expired hexp]
      cases hl : i.resetPods with
      | none => exact hset.trans (clear_sends i.clearOK w₁)
      | some pods =>
        have hreset := resetAllNodes_sends i.reset (mem_of_readyWithIP (h.mem hl)) w₁
        exact (hset.trans hreset).trans (clear_sends i.clearOK _)
  · exact (clear_sends i.clearOK w).trans (Sends.of_log rfl)

theorem forgetStaleNodes_sends {i : ForgetInput} (h : Lists P i.listed) (nodes : List ClusterNodeState)
    (w : World) : Sends P w (forgetStaleNodes i nodes w).1 := by
  rw [forgetStaleNodes_eq]
  cases hg : guardedPods w.vc i with
  | none => exact Sends.refl P w
  | some pods =>
    refine ⟨forgetEvents i pods nodes w, rfl, ?_⟩
    intro e he
    simp only [forgetEvents,List.mem_flatMap,List.mem_map,List.mem_filter] at he
    obtain ⟨pod,⟨hpod,-⟩,id,-,rfl⟩ := he
    have hto := mem_of_readyWithIP (h.mem (guardedPods_some hg).1) pod hpod
    simpa [Event.To,Event.targets] using hto

theorem reconcileClusterHealth_sends {i : HealthInput} (hreset : Lists P i.resetPods)
    (hforget : Lists P i.forget.listed) (w : World) : Sends P w (reconcileClusterHealth i w).1 := by
  unfold reconcileClusterHealth
  split
  · exact Sends.refl P w
  split
  · exact Sends.of_log rfl
  · rename_i reply _
    have hnodes : Sends P w _ :=
      Sends.of_silent (updateStatusNodes_frame i (parseClusterNodes reply.nodesRaw) w)
    have hstate := hnodes.trans (checkClusterState_sends hreset
      (parseClusterInfoField reply.info "cluster_state".toList) _)
    have hrepl := hstate.trans
      (Sends.of_silent (checkReplication_frame i (parseClusterNodes reply.nodesRaw) _))
    have hsent := hrepl.trans (forgetStaleNodes_sends hforget (parseClusterNodes reply.nodesRaw) _)
    exact hsent.trans (Sends.of_silent (detectShardColocation_frame i.placedPods i.colocatedAt _ _))

theorem setTopology_sends (reply : Pod → TopologyReply) {pod : Pod} (hpod : P pod) (payload : Text)
    (w : World) : Sends P w (setTopology reply pod payload w) := by
  have hto : (Event.topologySet pod payload).To P := by simpa [Event.To,Event.targets] using hpod
  unfold setTopology
  split
  · exact Sends.refl P w
  · exact Sends.emit hto w

theorem Sends.fetched (nodesRaw : Text) (w : World) : Sends P w (w.emit (.fetchedNodes nodesRaw)) :=
  Sends.emit (Event.to_of_no_targets rfl) w

theorem assignReplicas_sends (i : RolesInput) {readyPods : List Pod} (h : ∀ pod ∈ readyPods, P pod)
    (fetched : Nat) (ns : List ClusterNodeState) (w : World) :
    Sends P w (assignReplicas i readyPods fetched ns w) := by
  induction ns generalizing fetched w with
  | nil => exact Sends.refl P w
  | cons n rest ih =>
    unfold assignReplicas
    split
    · exact ih fetched w
    split
    · exact ih fetched w
    · rename_i pod hfind
      have hpod : P pod := h pod (List.mem_reverse.mp (List.mem_of_find?_eq_some hfind))
      split
      · exact Sends.refl P w
      rename_i nodesRaw _ _
      refine (Sends.fetched nodesRaw w).trans ?_
      dsimp only
      split
      · exact Sends.refl P _
      split
      · exact ih _ _
      · exact (setTopology_sends i.reply hpod _ _).trans (ih _ _)

theorem reconcileReplicaRoles_sends {i : RolesInput} (h : Lists P i.listed) (w : World) :
    Sends P w (reconcileReplicaRoles i w).1 := by
  unfold reconcileReplicaRoles
  dsimp only
  generalize hw : w.emit (.readUnderReplicated _) = w₁
  have hread : Sends P w w₁ := by
    rw [← hw]
    exact Sends.emit (Event.to_of_no_targets rfl) w
  split
  · exact hread
  split
  · exact hread
  cases hl : i.listed with
  | none => exact hread
  | some pods =>
    dsimp only
    split
    · exact hread
    split
    · exact hread
    rename_i nodesRaw _ _
    have hfetched := hread.trans (Sends.fetched nodesRaw w₁)
    split
    · exact hfetched
    split
    · exact hfetched
    · exact hfetched.trans (assignReplicas_sends i (mem_of_readyWithIP (h.mem hl)) 1 _ _)

theorem repairOrphan_sends (i : OrphanInput) (nodesRaw : Text) (seed : Pod) {pod : Pod} (hpod : P pod)
    (w : World) : Sends P w (repairOrphan i nodesRaw seed w pod) := by
  unfold repairOrphan reintegratePod
  dsimp only
  split
  · exact Sends.refl P w
  split
  · split
    · exact Sends.refl P w
    split
    · exact Sends.refl P w
    · exact setTopology_sends i.reply hpod _ w
  · exact Sends.refl P w

theorem reconcileOrphanReplicas_sends {i : OrphanInput} (h : Lists P i.listed) (w : World) :
    Sends P w (reconcileOrphanReplicas i w).1 := by
  have hloop : ∀ (nodesRaw : Text) (seed : Pod) (pods : List Pod), (∀ pod ∈ pods, P pod) →
      ∀ w : World, Sends P w (pods.foldl (repairOrphan i nodesRaw seed) w) := by
    intro nodesRaw seed pods
    induction pods with
    | nil => exact fun _ w => Sends.refl P w
    | cons pod pods ih =>
      intro hpods w
      exact (repairOrphan_sends i nodesRaw seed (hpods pod (by simp)) w).trans
        (ih (fun p hp => hpods p (by simp [hp])) _)
  unfold reconcileOrphanReplicas
  split
  · exact Sends.refl P w
  cases hl : i.listed with
  | none => exact Sends.refl P w
  | some pods =>
    dsimp only
    split
    · exact Sends.refl P w
    · exact hloop _ _ _ (fun pod hpod => h.mem hl pod (List.mem_filter.mp hpod).1) w

theorem mutateCluster_sends {i : PassInput} (h : Lists P i.orphans.listed) (w : World) :
    Sends P w (mutateCluster i w) := by
  have hrebalance : ∀ w', Sends P w' (reconcileRebalance i.rebalance w').1 := by
    intro w'
    refine Sends.of_emits (fun e he => ?_) (reconcileRebalance_emits i.rebalance w')
    cases e <;> first | rfl | exact he.elim
  have hstats := (reconcileOrphanReplicas_sends h w).trans
    (Sends.of_silent (reconcileShardStats_frame (fun hk => hk) i.stats _))
  unfold mutateCluster
  dsimp only
  split
  · split
    · exact hstats.trans (hrebalance _)
    · exact hstats
  · exact hstats

theorem updateStatus_sends (i : StatusInput) (base : ValkeyCluster) (w : World) :
    Sends P w (updateStatus i base w).1 := by
  have hends : Ends (fun _ => False) (Event.To P) w (updateStatus i base w).1 :=
    updateStatus_ends (fun _ => Event.to_of_no_targets rfl) i base w
  exact hends.emits

theorem finishPass_sends (i : PassInput) (base : ValkeyCluster) (w : World) :
    Sends P w (finishPass i base w).world := by
  rw [finishPass_world]
  exact updateStatus_sends i.status base w

def PassInput.ListsOnly (P : Pod → Prop) (i : PassInput) : Prop := ∀ listed ∈ i.listings, Lists P listed

theorem reconcileFormed_sends {i : PassInput} (h : i.ListsOnly P) (base : ValkeyCluster) (w : World) :
    Sends P w (reconcileFormed i base w).world := by
  have hhealth := reconcileClusterHealth_sends (h i.health.resetPods (by simp [PassInput.listings]))
    (h i.health.forget.listed (by simp [PassInput.listings])) w
  have hobserve : Sends P w (observeCluster i w) :=
    hhealth.trans (reconcileReplicaRoles_sends (h i.roles.listed (by simp [PassInput.listings])) _)
  have hdrain : Sends P w (reconcileNodeDrainFailover i.drain (observeCluster i w)).1 := by
    refine hobserve.trans (Sends.of_emits (fun e he => ?_) (reconcileNodeDrainFailover_emits i.drain _))
    cases e <;> first | rfl | exact he.elim
  have hmutate : ∀ w', Sends P w' (mutateCluster i w') :=
    mutateCluster_sends (h i.orphans.listed (by simp [PassInput.listings]))
  unfold reconcileFormed
  dsimp only
  split
  · exact hobserve
  · exact hobserve.trans (updateStatus_sends i.status base _)
  · split
    · rename_i w' heq
      rw [heq] at hdrain
      exact hdrain
    · rename_i w' _ _ heq
      rw [heq] at hdrain
      exact (hdrain.trans (hmutate w')).trans (finishPass_sends i base _)

/-- A pass sends its commands to pods that it has listed. -/
theorem reconcile_targets (sum256 : Text → Digest) {i : PassInput} (h : i.ListsOnly P)
    (stored : ValkeyCluster) : ∀ e ∈ (reconcile sum256 i stored).world.log, e.To P := by
  cases hr : reachesTopology i stored with
  | false =>
    rw [(reconcile_early sum256 hr).1]
    simp
  | true =>
    have hacl := reconcileACLs_sends sum256 (h i.acl.listed (by simp [PassInput.listings]))
      (World.start (entryObject stored))
    have hcrash := hacl.trans (reconcileCrashLoopRecovery_sends i.crash _)
    have htopology := hcrash.trans (reconcileClusterTopology_sends
      (h i.topology.listed (by simp [PassInput.listings]))
      (h i.topology.gossip.listed (by simp [PassInput.listings])) _)
    have hpass : Sends P (World.start (entryObject stored)) (reconcile sum256 i stored).world := by
      rw [reconcile_reaches sum256 hr]
      unfold afterTopology
      split
      · exact htopology
      split
      · exact htopology.trans (reconcileFormed_sends h _ _)
      · exact htopology.trans (finishPass_sends i _ _)
    obtain ⟨es,hlog,hes⟩ := hpass
    rw [hlog]
    exact hes

end

end ValkeyOperator
