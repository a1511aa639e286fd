import ValkeyOperator.Picking

/-!
The views that the two repairs act on. Step 9 looks for candidates in one view and picks
primaries from later ones; step 12 sees the cluster through the pod that happens to be
listed first.
-/

set_option autoImplicit false

namespace ValkeyOperator
open TextScan

def Event.IsFetch : Event → Prop
  | .fetchedNodes _ => True
  | _ => False

def roleLog (i : RolesInput) (w : World) : List Event :=
  (reconcileReplicaRoles i w).1.log.drop w.log.length

theorem roleLog_eq (i : RolesInput) (w : World) :
    roleLog i w = .readUnderReplicated (conditionsOf .shardUnderReplicated w.vc.status.conditions) ::
      roleEvents i w.vc := by
  rw [roleLog,reconcileReplicaRoles_events,List.drop_left]

def candidateNodes (nodesRaw : Text) (readyPods : List Pod) : List (ClusterNodeState × Pod) :=
  (parseClusterNodes nodesRaw).filterMap (fun n => (candidatePod readyPods n).map (fun pod => (n, pod)))

def fetchedView (i : RolesInput) (readyPods : List Pod) (fetched : Nat) : Option Text :=
  (fetchClusterNodesWithSeed (i.fetch fetched) readyPods).map (fun found => found.1)

theorem candidates_eq (nodesRaw : Text) (readyPods : List Pod) :
    candidates nodesRaw readyPods = (candidateNodes nodesRaw readyPods).map (fun c => c.2) := by
  unfold candidates candidateNodes
  rw [List.map_filterMap]
  refine List.filterMap_congr (fun n _ => ?_)
  rw [Option.map_map]
  exact Option.map_id'.symm

theorem mem_candidateNodes {nodesRaw : Text} {readyPods : List Pod} {n : ClusterNodeState} {pod : Pod}
    (h : (n, pod) ∈ candidateNodes nodesRaw readyPods) :
    healthyMaster n = true ∧ n.slots = [] ∧ pod.podIP = n.ip := by
  obtain ⟨m,-,hm⟩ := List.mem_filterMap.mp h
  obtain ⟨p,hpod,heq⟩ := Option.map_eq_some_iff.mp hm
  cases heq
  unfold candidatePod at hpod
  split at hpod
  · cases hpod
  · rename_i hcandidate
    simp only [Bool.or_eq_true,not_or,Bool.not_eq_true,Bool.not_eq_false',decide_eq_false_iff_not,
      not_not] at hcandidate
    exact ⟨hcandidate.1, hcandidate.2, by simpa using List.find?_some hpod⟩

theorem mem_visits_cons {i : RolesInput} {readyPods : List Pod} {expectedReplicas : Int} {fetched : Nat}
    {pod : Pod} {rest : List Pod} {v : Pod × Text} :
    v ∈ visits i readyPods expectedReplicas fetched (pod :: rest) ↔
      (pod = v.1 ∧ fetchedView i readyPods fetched = some v.2) ∨
        (∃ view, fetchedView i readyPods fetched = some view ∧ pickMasterForReplica view expectedReplicas ≠ none) ∧
          v ∈ visits i readyPods expectedReplicas (fetched + 1) rest := by
  rw [visits_cons]
  unfold fetchedView
  cases fetchClusterNodesWithSeed (i.fetch fetched) readyPods with
  | none => simp
  | some found =>
    simp only [List.mem_cons,Option.map_some,Option.some.injEq,exists_eq_left']
    refine or_congr ⟨?_, ?_⟩ ?_
    · rintro rfl
      exact ⟨rfl, rfl⟩
    · rintro ⟨rfl,hview⟩
      rw [hview]
    · split_ifs with hpick <;> simp [hpick]

theorem mem_visits_iff {i : RolesInput} {readyPods : List Pod} {expectedReplicas : Int} {fetched : Nat}
    {pods : List Pod} {v : Pod × Text} :
    v ∈ visits i readyPods expectedReplicas fetched pods ↔
      ∃ k, pods[k]? = some v.1 ∧ fetchedView i readyPods (fetched + k) = some v.2 ∧
        ∀ j < k, ∃ view, fetchedView i readyPods (fetched + j) = some view ∧
          pickMasterForReplica view expectedReplicas ≠ none := by
  induction pods generalizing fetched with
  | nil => simp [visits]
  | cons pod rest ih =>
    have hshift : ∀ j, fetched + 1 + j = fetched + (j + 1) := by omega
    rw [← Nat.or_exists_add_one,mem_visits_cons,ih]
    simp only [hshift,Nat.forall_lt_succ_left,Nat.add_zero,List.getElem?_cons_zero,List.getElem?_cons_succ,
      Option.some.injEq,Nat.not_lt_zero,false_implies,implies_true,and_true]
    refine or_congr_right ⟨?_, ?_⟩
    · rintro ⟨hfirst,k,hpod,hview,hbefore⟩
      exact ⟨k, hpod, hview, hfirst, hbefore⟩
    · rintro ⟨k,hpod,hview,hfirst,hbefore⟩
      exact ⟨hfirst, k, hpod, hview, hbefore⟩

theorem visitEvents_of_order {i : RolesInput} {vc : ValkeyCluster} {v : Pod × Text} {o : ReplicaOrder}
    (h : visitOrder vc v = some o) (hreply : i.reply v.1 ≠ .unreachable) :
    visitEvents i vc v = [.fetchedNodes v.2, .topologySet v.1 (replicaPayload vc v.2 o.ip)] := by
  obtain ⟨-,hpod,hview,-⟩ := orderFor_some h
  simp [visitEvents,h,hpod,hview,hreply,ReplicaOrder.payload]

theorem visitEvents_cases (i : RolesInput) (vc : ValkeyCluster) (v : Pod × Text) :
    visitEvents i vc v = [.fetchedNodes v.2] ∨
      ∃ o, visitOrder vc v = some o ∧ i.reply v.1 ≠ .unreachable := by
  cases horder : visitOrder vc v with
  | none => exact .inl (by simp [visitEvents,horder])
  | some o =>
    obtain ⟨-,hpod,-⟩ := orderFor_some horder
    by_cases hreply : i.reply v.1 = .unreachable
    · exact .inl (by simp [visitEvents,horder,hpod,hreply])
    · exact .inr ⟨o, rfl, hreply⟩

theorem visitEvents_split {i : RolesInput} {vc : ValkeyCluster} {vs : List (Pod × Text)}
    {before after : List Event} {pod : Pod} {payload : Text}
    (h : vs.flatMap (visitEvents i vc) = before ++ .topologySet pod payload :: after) :
    ∃ v ∈ vs, ∃ o, visitOrder vc v = some o ∧ i.reply v.1 ≠ .unreachable ∧ pod = v.1 ∧
      payload = replicaPayload vc v.2 o.ip ∧ ∃ earlier, before = earlier ++ [.fetchedNodes v.2] := by
  induction vs generalizing before with
  | nil => simp at h
  | cons v vs ih =>
    rw [List.flatMap_cons] at h
    -- the command is in the events of the first visit or in those of the others
    rcases List.append_eq_append_iff.mp h with ⟨rest,hbefore,hrest⟩ | ⟨rest,hfirst,hrest⟩
    · obtain ⟨u,hu,o,horder,hreply,hpod,hpayload,earlier,hearlier⟩ := ih hrest
      refine ⟨u, List.mem_cons_of_mem v hu, o, horder, hreply, hpod, hpayload, visitEvents i vc v ++ earlier, ?_⟩
      rw [hbefore,hearlier,List.append_assoc]
    · cases rest with
      | nil =>
        have hothers : vs.flatMap (visitEvents i vc) = [] ++ .topologySet pod payload :: after := hrest.symm
        obtain ⟨u,-,-,-,-,-,-,earlier,hearlier⟩ := ih hothers
        exact absurd hearlier (by simp)
      | cons e rest =>
        rw [List.cons_append,List.cons.injEq] at hrest
        obtain ⟨rfl,-⟩ := hrest
        rcases visitEvents_cases i vc v with hnone | ⟨o,horder,hreply⟩
        · rw [hnone] at hfirst
          cases before with
          | nil => simp at hfirst
          | cons b before => simp at hfirst
        · rw [visitEvents_of_order horder hreply] at hfirst
          cases before with
          | nil => simp at hfirst
          | cons b before =>
            cases before with
            | nil =>
              simp only [List.cons_append,List.nil_append,List.cons.injEq,Event.topologySet.injEq] at hfirst
              obtain ⟨rfl,⟨rfl,rfl⟩,-⟩ := hfirst
              exact ⟨v, List.mem_cons_self, o, horder, hreply, rfl, rfl, [], rfl⟩
            | cons b' before => simp at hfirst

theorem roleEvents_split {i : RolesInput} {vc : ValkeyCluster} {before after : List Event} {pod : Pod}
    {payload : Text} (h : roleEvents i vc = before ++ .topologySet pod payload :: after) :
    ∃ v ∈ roleVisits i vc, ∃ o, visitOrder vc v = some o ∧ i.reply v.1 ≠ .unreachable ∧ pod = v.1 ∧
      payload = replicaPayload vc v.2 o.ip ∧ ∃ earlier, before = earlier ++ [.fetchedNodes v.2] := by
  unfold roleEvents at h
  split at h
  · simp at h
  · cases before with
    | nil => simp at h
    | cons first before =>
      simp only [List.cons_append,List.cons.injEq] at h
      obtain ⟨rfl,hrest⟩ := h
      obtain ⟨v,hv,o,horder,hreply,hpod,hpayload,earlier,rfl⟩ := visitEvents_split hrest
      exact ⟨v, hv, o, horder, hreply, hpod, hpayload, _ :: earlier, rfl⟩

theorem firstView_of_start {i : RolesInput} {vc : ValkeyCluster} {start : Text × List Pod}
    (h : rolesStart i vc = some start) : firstView i vc = some start := by
  unfold rolesStart at h
  unfold firstView
  split at h
  · rename_i hgate
    obtain ⟨pods,hlisted,hfound⟩ := Option.bind_eq_some_iff.mp h
    obtain ⟨found,hfetch,hinfo⟩ := Option.bind_eq_some_iff.mp hfound
    obtain ⟨info,-,hknown⟩ := Option.bind_eq_some_iff.mp hinfo
    split at hknown
    · cases hknown
    · rw [if_pos hgate,hlisted,Option.bind_some,hfetch]
      exact hknown
  · cases h

theorem roleEvents_of_visit {i : RolesInput} {vc : ValkeyCluster} {v : Pod × Text} {o : ReplicaOrder}
    (hv : v ∈ roleVisits i vc) (horder : visitOrder vc v = some o) (hreply : i.reply v.1 ≠ .unreachable) :
    ∃ earlier later, roleEvents i vc =
      (earlier ++ [.fetchedNodes v.2]) ++ .topologySet v.1 (replicaPayload vc v.2 o.ip) :: later := by
  obtain ⟨before,after,hsplit⟩ := List.append_of_mem hv
  cases hstart : rolesStart i vc with
  | none => simp [roleVisits,hstart] at hv
  | some start =>
    refine ⟨.fetchedNodes start.1 :: before.flatMap (visitEvents i vc), after.flatMap (visitEvents i vc), ?_⟩
    rw [roleEvents,firstView_of_start hstart,hsplit]
    simp [visitEvents_of_order horder hreply]

theorem replicaPayload_inj {vc : ValkeyCluster} {view ip ip' : Text}
    (h : replicaPayload vc view ip = replicaPayload vc view ip') : ip = ip' := by
  unfold replicaPayload nodeAddr at h
  exact List.append_cancel_right (List.append_cancel_right
    (List.append_cancel_left (List.append_cancel_right h)))

def ListsSlotless (view : Text) (pod : Pod) : Prop :=
  ∃ n ∈ parseClusterNodes view, n.ip = pod.podIP ∧ healthyMaster n = true ∧ n.slots = []

instance (view : Text) (pod : Pod) : Decidable (ListsSlotless view pod) :=
  inferInstanceAs (Decidable (∃ n ∈ parseClusterNodes view, _))

/-- The later view has an entry at the address that is marked, fares and owns as `n` did. -/
def Unmoved (n : ClusterNodeState) (view : Text) : Prop :=
  ∃ m ∈ parseClusterNodes view, m.ip = n.ip ∧ hasMaster m.flags = hasMaster n.flags ∧
    isFailing m.flags = isFailing n.flags ∧ m.slots = n.slots

/-- No primary whose ID stands for the address is first in line for a replica. -/
def Outranked (expectedReplicas : Int) (ip view : Text) : Prop :=
  ∀ m ∈ parseClusterNodes view, takesReplicas m = true → primaryIP view m.id = ip →
    expectedReplicas < replicaCount (parseClusterNodes view) m.id ∨
      ∃ q ∈ parseClusterNodes view, takesReplicas q = true ∧
        nodeRank (parseClusterNodes view) q < nodeRank (parseClusterNodes view) m

theorem unmoved_iff {n : ClusterNodeState} {pod : Pod} {view : Text} (hhealthy : healthyMaster n = true)
    (hslots : n.slots = []) (hip : pod.podIP = n.ip) : Unmoved n view ↔ ListsSlotless view pod := by
  have hn := hhealthy
  rw [healthyMaster,Bool.and_eq_true,Bool.not_eq_true'] at hn
  unfold Unmoved ListsSlotless
  rw [hn.1,hn.2,hslots,hip]
  simp only [healthyMaster,Bool.and_eq_true,Bool.not_eq_true',and_assoc]

theorem outranked_iff {view ip masterID : Text} {expectedReplicas : Int}
    (h : pickMasterForReplica view expectedReplicas = some masterID) :
    Outranked expectedReplicas ip view ↔ primaryIP view masterID ≠ ip := by
  obtain ⟨p,hp,htakes,rfl,hle,hleast⟩ := pickMasterForReplica_some_iff.mp h
  constructor
  · intro hout hip
    rcases hout p hp htakes hip with hgt | ⟨q,hq,hqtakes,hlt⟩
    · exact absurd hle (not_le.mpr hgt)
    · exact absurd (hleast q hq hqtakes) (not_le.mpr hlt)
  · intro hip m hm hmtakes hmip
    by_contra hfirst
    push Not at hfirst
    -- then `m` is a choice as well, and the choice is unique
    have hm' : pickMasterForReplica view expectedReplicas = some m.id :=
      pickMasterForReplica_some_iff.mpr ⟨m, hm, hmtakes, rfl, hfirst.1, hfirst.2⟩
    rw [h,Option.some.injEq] at hm'
    exact hip (hm' ▸ hmip)

/-- Every command of step 9 goes to a pod that the latest view still lists as a primary
without slots, and to replicate another pod, exactly when no candidate's entry has moved
between the first view and the one that is fetched for it. -/
theorem roles_sent_iff (i : RolesInput) (w : World) :
    (∀ before pod payload after, roleLog i w = before ++ .topologySet pod payload :: after →
        ∃ view between ip, Runs.Latest Event.IsFetch before (.fetchedNodes view) between ∧
          payload = replicaPayload w.vc view ip ∧ ListsSlotless view pod ∧ ip ≠ pod.podIP) ↔
      ∀ nodesRaw readyPods, rolesStart i w.vc = some (nodesRaw, readyPods) →
        ∀ k n pod view, (candidateNodes nodesRaw readyPods)[k]? = some (n, pod) →
          (∀ j < k, ∃ view, fetchedView i readyPods (1 + j) = some view ∧
            pickMasterForReplica view w.vc.spec.replicasPerShard ≠ none) →
          fetchedView i readyPods (1 + k) = some view → i.reply pod ≠ .unreachable →
          (orderFor w.vc view pod).isSome = true →
          Unmoved n view ∧ Outranked w.vc.spec.replicasPerShard n.ip view := by
  rw [roleLog_eq]
  constructor
  · intro h nodesRaw readyPods hstart k n pod view hk hbefore hview hreply hsome
    obtain ⟨o,horder⟩ := Option.isSome_iff_exists.mp hsome
    obtain ⟨hhealthy,hslots,hip⟩ := mem_candidateNodes (List.mem_of_getElem? hk)
    have hv : (pod, view) ∈ roleVisits i w.vc := by
      rw [roleVisits,hstart]
      refine mem_visits_iff.mpr ⟨k, ?_, hview, hbefore⟩
      rw [candidates_eq,List.getElem?_map,hk,Option.map_some]
    obtain ⟨earlier,later,hevents⟩ := roleEvents_of_visit hv horder hreply
    obtain ⟨view',between,ip',hlatest,hpayload,hlists,hother⟩ :=
      h (_ :: (earlier ++ [.fetchedNodes view])) pod _ later (by rw [hevents]; rfl)
    rw [← List.cons_append] at hlatest
    cases hlatest.concat_eq trivial
    obtain rfl := replicaPayload_inj hpayload
    obtain ⟨hpick,-,-,hoip,-⟩ := orderFor_some horder
    refine ⟨(unmoved_iff hhealthy hslots hip).mpr hlists, (outranked_iff hpick).mpr ?_⟩
    rw [← hoip,← hip]
    exact hother
  · intro h before pod payload after hlog
    cases before with
    | nil => simp at hlog
    | cons first before =>
      simp only [List.cons_append,List.cons.injEq] at hlog
      obtain ⟨rfl,hevents⟩ := hlog
      obtain ⟨v,hv,o,horder,hreply,rfl,rfl,earlier,rfl⟩ := roleEvents_split hevents
      cases hstart : rolesStart i w.vc with
      | none => simp [roleVisits,hstart] at hv
      | some start =>
        rw [roleVisits,hstart] at hv
        obtain ⟨k,hpod,hview,hbefore⟩ := mem_visits_iff.mp hv
        rw [candidates_eq,List.getElem?_map,Option.map_eq_some_iff] at hpod
        obtain ⟨c,hk,hc⟩ := hpod
        have hcandidate : (c.1, c.2) ∈ candidateNodes start.1 start.2 := List.mem_of_getElem? hk
        obtain ⟨hhealthy,hslots,hip⟩ := mem_candidateNodes hcandidate
        rw [hc] at hip
        obtain ⟨hunmoved,hout⟩ := h start.1 start.2 hstart k c.1 v.1 v.2 (by rw [hk,← hc]) hbefore hview hreply
          (Option.isSome_iff_exists.mpr ⟨o, horder⟩)
        obtain ⟨hpick,-,-,hoip,-⟩ := orderFor_some horder
        refine ⟨v.2, [], o.ip, Runs.Latest.now (_ :: earlier) trivial, rfl, (unmoved_iff hhealthy hslots hip).mp hunmoved, ?_⟩
        rw [hoip,hip]
        exact (outranked_iff hpick).mp hout

def underReplicated : ValkeyCluster :=
  { threeShards (fun _ => none) with
    spec := ⟨3, 1, 6379, 2000, none⟩
    status := { (threeShards (fun _ => none)).status with
      conditions := [⟨.shardUnderReplicated, .true, "MissingReplica", "", 1, 0⟩] } }

def thirdOwning (slots : String) : Text :=
  entryText '1' '1' "myself,master" ['-'] " 100-8191" ++
    entryText '2' '2' "master" ['-'] " 8192-16383" ++ entryText '0' '3' "master" ['-'] slots

def reshardedPass : RolesInput where
  secretOK := true
  listed := some threePods
  fetch := fun fetched _ => some (thirdOwning (if fetched = 0 then "" else " 0-99"))
  info := fun _ => some "cluster_known_nodes:3".toList
  reply := fun _ => .reply 1

theorem resharded_replicates_itself :
    roleLog reshardedPass (World.start underReplicated) =
      [.readUnderReplicated underReplicated.status.conditions,
        .fetchedNodes (thirdOwning ""), .fetchedNodes (thirdOwning " 0-99"),
        .topologySet (readyPod '3') (replicaPayload underReplicated (thirdOwning " 0-99") (readyPod '3').podIP)] ∧
      ¬ ListsSlotless (thirdOwning " 0-99") (readyPod '3') := by
  refine ⟨?_, by decide +kernel⟩
  have hvisits : roleVisits reshardedPass underReplicated = [(readyPod '3', thirdOwning " 0-99")] := by
    decide +kernel
  have horder : visitOrder underReplicated (readyPod '3', thirdOwning " 0-99") =
      some ⟨readyPod '3', thirdOwning " 0-99", nodeID '0', (readyPod '3').podIP⟩ := by
    decide +kernel
  have hfirst : firstView reshardedPass underReplicated = some (thirdOwning "", threePods) := by decide +kernel
  have hreached : reshardedPass.reply (readyPod '3') ≠ .unreachable := by decide
  have hvc : (World.start underReplicated).vc = underReplicated := rfl
  rw [roleLog_eq,hvc,roleEvents,hfirst,hvisits]
  dsimp only
  rw [List.flatMap_singleton,visitEvents_of_order horder hreached]
  rfl

def runningWithIP (pods : List Pod) : List Pod :=
  pods.filter (fun pod => pod.phase = .running && decide (pod.podIP ≠ []) && !pod.deleting)

def isKnown (vc : ValkeyCluster) (nodesRaw : Text) (pod : Pod) : Bool :=
  (knownAddrs nodesRaw).any (fun a => a.1 = pod.podIP || a.2 = stableDNS vc pod)

def isStandalone (i : OrphanInput) (pod : Pod) : Bool :=
  decide (getPodClusterRole (i.replication pod) = some .primary) &&
    match i.info pod with
    | none => false
    | some info => decide (parseClusterInfoInt info "cluster_known_nodes".toList ≤ 1)

theorem isOrphan_eq (i : OrphanInput) (vc : ValkeyCluster) (nodesRaw : Text) (pod : Pod) :
    isOrphan i vc nodesRaw pod = (!isKnown vc nodesRaw pod && isStandalone i pod) := by
  unfold isOrphan
  dsimp only
  cases hknown : isKnown vc nodesRaw pod with
  | true =>
    unfold isKnown at hknown
    rw [if_pos hknown]
    rfl
  | false =>
    unfold isKnown at hknown
    rw [hknown,if_neg (by decide),isStandalone]
    cases i.info pod <;> by_cases hrole : getPodClusterRole (i.replication pod) = some .primary <;>
      simp [hrole]

def isSeed (i : OrphanInput) (pod : Pod) : Bool :=
  isPodReady pod && decide (pod.podIP ≠ []) && decide ((i.nodes pod).getD [] ≠ [])

/-- Seen from the seed the pod is outside of the cluster, and there is a primary for it. -/
def repairedFrom (i : OrphanInput) (vc : ValkeyCluster) (seed pod : Pod) : Bool :=
  decide (pod.name ≠ seed.name) && !isKnown vc ((i.nodes seed).getD []) pod &&
    (orderFor vc ((i.nodes seed).getD []) pod).isSome

/-- The pods that get OPERATOR.TOPOLOGY.SET when the pods are listed in this order. -/
def orphanTargets (i : OrphanInput) (vc : ValkeyCluster) (pods : List Pod) : List Pod :=
  ((orphanOrders { i with listed := some pods } vc).filter
    (fun o => i.reply o.pod ≠ .unreachable)).map (fun o => o.pod)

theorem reconcileOrphanReplicas_targets (i : OrphanInput) (pods : List Pod) (w : World) (pod : Pod) :
    (∃ payload, Event.topologySet pod payload ∈
      ((reconcileOrphanReplicas { i with listed := some pods } w).1.log.drop w.log.length)) ↔
      pod ∈ orphanTargets i w.vc pods := by
  rw [reconcileOrphanReplicas_orders,sendOrders_log,List.drop_left]
  simp only [orphanTargets,List.mem_map,List.mem_filter]
  constructor
  · rintro ⟨payload,o,ho,heq⟩
    cases heq
    exact ⟨o, ho, rfl⟩
  · rintro ⟨o,ho,rfl⟩
    exact ⟨o.payload w.vc, o, ho, rfl⟩

theorem fetchClusterNodesWithSeed_find (i : OrphanInput) (pods : List Pod) :
    fetchClusterNodesWithSeed i.nodes pods =
      (pods.find? (isSeed i)).map (fun seed => ((i.nodes seed).getD [], seed)) := by
  unfold fetchClusterNodesWithSeed readyWithIP
  induction pods with
  | nil => rfl
  | cons pod pods ih =>
    rw [List.filter_cons]
    cases hready : isPodReady pod && decide (pod.podIP ≠ []) with
    | false =>
      have hno : isSeed i pod = false := by rw [isSeed,hready,Bool.false_and]
      rw [if_neg (by decide),List.find?_cons_of_neg (by simp [hno])]
      exact ih
    | true =>
      rw [if_pos rfl,List.findSome?_cons]
      cases hnodes : i.nodes pod with
      | none =>
        have hno : isSeed i pod = false := by simp [isSeed,hnodes]
        rw [List.find?_cons_of_neg (by simp [hno])]
        exact ih
      | some raw =>
        by_cases hraw : raw = []
        · have hno : isSeed i pod = false := by simp [isSeed,hnodes,hraw]
          rw [List.find?_cons_of_neg (by simp [hno])]
          simpa [hraw] using ih
        · have hyes : isSeed i pod = true := by
            rw [isSeed,hready]
            simpa [hnodes] using hraw
          rw [List.find?_cons_of_pos hyes]
          simp [hraw,hnodes]

theorem orphanStart_find (i : OrphanInput) (pods : List Pod) :
    orphanStart { i with listed := some pods } =
      if i.secretOK then ((runningWithIP pods).find? (isSeed i)).map
        (fun seed => ⟨runningWithIP pods, (i.nodes seed).getD [], seed⟩)
      else none := by
  have hfetch := fetchClusterNodesWithSeed_find i (runningWithIP pods)
  unfold orphanStart
  dsimp only [Option.bind_some]
  rw [← runningWithIP,hfetch,Option.map_map]
  rfl

theorem mem_orphanTargets (i : OrphanInput) (vc : ValkeyCluster) (pods : List Pod) (pod : Pod) :
    pod ∈ orphanTargets i vc pods ↔ i.secretOK = true ∧ pod ∈ runningWithIP pods ∧
      isStandalone i pod = true ∧ i.reply pod ≠ .unreachable ∧
      ∃ seed, (runningWithIP pods).find? (isSeed i) = some seed ∧ repairedFrom i vc seed pod = true := by
  unfold orphanTargets orphanOrders
  rw [orphanStart_find]
  cases i.secretOK with
  | false => simp
  | true =>
    rw [if_pos rfl]
    cases (runningWithIP pods).find? (isSeed i) with
    | none => simp
    | some seed =>
      simp only [Option.map_some,List.mem_map,List.mem_filter,List.mem_filterMap,OrphanStart.orphans,
        needsRepair,Bool.and_eq_true,decide_eq_true_eq,Option.some.injEq,true_and]
      constructor
      · rintro ⟨o,⟨⟨p,⟨hp,hname,horphan⟩,horder⟩,hreply⟩,rfl⟩
        obtain ⟨-,hpod,-⟩ := orderFor_some horder
        rw [isOrphan_eq,Bool.and_eq_true] at horphan
        rw [hpod] at hreply ⊢
        refine ⟨hp, horphan.2, hreply, seed, rfl, ?_⟩
        simp [repairedFrom,hname,horder,show isKnown vc _ p = false by simpa using horphan.1]
      · rintro ⟨hp,hstand,hreply,_,rfl,hfrom⟩
        simp only [repairedFrom,Bool.and_eq_true,decide_eq_true_eq] at hfrom
        obtain ⟨⟨hname,hunknown⟩,hsome⟩ := hfrom
        obtain ⟨o,horder⟩ := Option.isSome_iff_exists.mp hsome
        obtain ⟨-,hpod,-⟩ := orderFor_some horder
        refine ⟨o, ⟨⟨pod, ⟨hp, hname, ?_⟩, horder⟩, by rwa [hpod]⟩, hpod⟩
        rw [isOrphan_eq,Bool.and_eq_true]
        exact ⟨hunknown, hstand⟩

theorem exists_seed_first {i : OrphanInput} {pods : List Pod} {seed : Pod}
    (hmem : seed ∈ runningWithIP pods) (hseed : isSeed i seed = true) :
    ∃ pods', pods'.Perm pods ∧ (runningWithIP pods').find? (isSeed i) = some seed := by
  obtain ⟨hpods,hrunning⟩ := List.mem_filter.mp hmem
  refine ⟨seed :: pods.erase seed, (List.perm_cons_erase hpods).symm, ?_⟩
  unfold runningWithIP
  rw [List.filter_cons,hrunning,if_pos rfl,List.find?_cons_of_pos hseed]

theorem mem_runningWithIP_perm {pods pods' : List Pod} (h : pods'.Perm pods) (pod : Pod) :
    pod ∈ runningWithIP pods' ↔ pod ∈ runningWithIP pods :=
  (h.filter _).mem_iff

/-- The targets do not depend on the order of the pod list exactly when they do not
depend on which pod is asked for its view. -/
theorem orphan_targets_iff (i : OrphanInput) (vc : ValkeyCluster) (pods : List Pod) :
    (∀ pods', pods'.Perm pods → ∀ pod, pod ∈ orphanTargets i vc pods' ↔ pod ∈ orphanTargets i vc pods) ↔
      (i.secretOK = true → ∀ seed ∈ runningWithIP pods, ∀ seed' ∈ runningWithIP pods,
        isSeed i seed = true → isSeed i seed' = true → ∀ pod ∈ runningWithIP pods,
        isStandalone i pod = true → i.reply pod ≠ .unreachable →
        repairedFrom i vc seed pod = repairedFrom i vc seed' pod) := by
  constructor
  · intro h hsecret seed hmem seed' hmem' hseed hseed' pod hpod hstand hreply
    -- whichever pod comes first, the target is decided by its view
    have hfirst : ∀ s, s ∈ runningWithIP pods → isSeed i s = true →
        (repairedFrom i vc s pod = true ↔ pod ∈ orphanTargets i vc pods) := by
      intro s hs hseeds
      obtain ⟨pods',hperm,hfind⟩ := exists_seed_first hs hseeds
      rw [← h pods' hperm pod,mem_orphanTargets,mem_runningWithIP_perm hperm,hfind]
      simp [hsecret,hpod,hstand,hreply]
    exact Bool.eq_iff_iff.mpr ((hfirst seed hmem hseed).trans (hfirst seed' hmem' hseed').symm)
  · intro h pods' hperm pod
    rw [mem_orphanTargets,mem_orphanTargets,mem_runningWithIP_perm hperm]
    refine and_congr_right (fun hsecret => and_congr_right (fun hpod => and_congr_right (fun hstand =>
      and_congr_right (fun hreply => ?_))))
    have hsame : ∀ l l' : List Pod, l.Perm pods → l'.Perm pods →
        (∃ seed, (runningWithIP l).find? (isSeed i) = some seed ∧ repairedFrom i vc seed pod = true) →
        ∃ seed, (runningWithIP l').find? (isSeed i) = some seed ∧ repairedFrom i vc seed pod = true := by
      rintro l l' hl hl' ⟨seed,hfind,hfrom⟩
      have hseed := List.find?_some hfind
      have hmem := (mem_runningWithIP_perm hl seed).mp (List.mem_of_find?_eq_some hfind)
      obtain ⟨seed',hfind'⟩ : ∃ seed', (runningWithIP l').find? (isSeed i) = some seed' := by
        refine Option.isSome_iff_exists.mp (List.find?_isSome.mpr ⟨seed, ?_, hseed⟩)
        exact (mem_runningWithIP_perm hl' seed).mpr hmem
      have hmem' := (mem_runningWithIP_perm hl' seed').mp (List.mem_of_find?_eq_some hfind')
      have heq := h hsecret seed hmem seed' hmem' hseed (List.find?_some hfind') pod hpod hstand hreply
      exact ⟨seed', hfind', heq ▸ hfrom⟩
    exact ⟨hsame pods' pods hperm (List.Perm.refl pods), hsame pods pods' (List.Perm.refl pods) hperm⟩

def besideShard : OrphanInput where
  secretOK := true
  listed := none
  nodes := fun pod =>
    if pod.name = (readyPod '3').name then some (entryText '3' '3' "myself,master" ['-'] "")
    else some (entryText '1' '1' "myself,master" ['-'] " 0-16383" ++
      entryText '2' '2' "slave" (nodeID '1') "")
  replication := fun _ => some "role:master".toList
  info := fun pod => some (if pod.name = (readyPod '3').name then "cluster_known_nodes:1".toList
    else "cluster_known_nodes:2".toList)
  reply := fun _ => .reply 1

theorem besideShard_depends_on_order :
    orphanTargets besideShard underReplicated [readyPod '1', readyPod '3'] = [readyPod '3'] ∧
      orphanTargets besideShard underReplicated [readyPod '3', readyPod '1'] = [] := by
  decide +kernel

end ValkeyOperator
