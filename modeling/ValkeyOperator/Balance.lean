import ValkeyOperator.RepairViews
import ValkeyOperator.Filling

/-!
How many replicas each primary has after a repair pass. Step 9 looks at the counts again
for every candidate, step 12 only once.
-/

set_option autoImplicit false

namespace ValkeyOperator
open TextScan Filling

def primaries (nodes : List ClusterNodeState) : Finset Text :=
  ((nodes.filter takesReplicas).map (fun n => n.id)).toFinset

theorem mem_primaries {nodes : List ClusterNodeState} {p : Text} :
    p ∈ primaries nodes ↔ ∃ n ∈ nodes, takesReplicas n = true ∧ n.id = p := by
  simp only [primaries,List.mem_toFinset,List.mem_map,List.mem_filter]
  constructor
  · rintro ⟨n,⟨hn,htakes⟩,rfl⟩
    exact ⟨n, hn, htakes, rfl⟩
  · rintro ⟨n,hn,htakes,rfl⟩
    exact ⟨n, ⟨hn, htakes⟩, rfl⟩

def missing (nodes : List ClusterNodeState) (expectedReplicas : Int) : Nat :=
  lacking (primaries nodes) expectedReplicas.toNat (replicaCount nodes)

def madeOrder (i : RolesInput) (vc : ValkeyCluster) (v : Pod × Text) : Option ReplicaOrder :=
  (visitOrder vc v).filter (fun o => i.reply o.pod = .reply 1)

def assignments (i : RolesInput) (vc : ValkeyCluster) : List ReplicaOrder :=
  (roleVisits i vc).filterMap (madeOrder i vc)

theorem assignments_eq (i : RolesInput) (vc : ValkeyCluster) :
    assignments i vc = (roleOrders i vc).filter (fun o => i.reply o.pod = .reply 1) := by
  unfold assignments roleOrders
  rw [List.filter_filterMap]
  rfl

/-- A later view that differs from the first by these assignments. -/
def Reflects (first later : List ClusterNodeState) (orders : List ReplicaOrder) : Prop :=
  primaries later = primaries first ∧ ∀ p ∈ primaries first,
    replicaCount later p = placed (replicaCount first) (orders.map (fun o => o.masterID)) p

instance (first later : List ClusterNodeState) (orders : List ReplicaOrder) :
    Decidable (Reflects first later orders) := inferInstanceAs (Decidable (_ ∧ _))

/-- Every view of the visits differs from the first by what was assigned before. -/
def Reflecting (i : RolesInput) (vc : ValkeyCluster) (first : List ClusterNodeState)
    (vs : List (Pod × Text)) : Prop :=
  ∀ before v after, vs = before ++ v :: after →
    Reflects first (parseClusterNodes v.2) (before.filterMap (madeOrder i vc))

theorem Reflecting.greedy {i : RolesInput} {vc : ValkeyCluster} {first : List ClusterNodeState}
    {vs : List (Pod × Text)} (h : Reflecting i vc first vs) :
    Greedy (primaries first) (replicaCount first)
      ((vs.filterMap (madeOrder i vc)).map (fun o => o.masterID)) := by
  intro before p after heq
  obtain ⟨orders,rest,hmade,rfl,hrest⟩ := List.map_eq_append_iff.mp heq
  obtain ⟨o,orders',rfl,rfl,-⟩ := List.map_eq_cons_iff.mp hrest
  obtain ⟨vs₁,vs₂,rfl,rfl,hsecond⟩ := List.filterMap_eq_append_iff.mp hmade
  obtain ⟨skipped,v,later,rfl,hnone,hv,-⟩ := List.filterMap_eq_cons_iff.mp hsecond
  -- the visits between two assignments leave the counts alone
  have hview := h (vs₁ ++ skipped) v later (by simp)
  rw [List.filterMap_append,List.filterMap_eq_nil_iff.mpr hnone,List.append_nil] at hview
  obtain ⟨hpick,-⟩ := orderFor_some (Option.filter_eq_some_iff.mp hv).1
  obtain ⟨hmem,-,hleast⟩ := pickMasterForReplica_some hpick
  have hp : o.masterID ∈ primaries first := by
    rw [← hview.1]
    exact mem_primaries.mpr hmem
  refine ⟨hp, fun q hq => ?_⟩
  rw [← hview.2 o.masterID hp,← hview.2 q hq]
  rw [← hview.1] at hq
  obtain ⟨n,hn,htakes,rfl⟩ := mem_primaries.mp hq
  exact hleast n hn htakes

theorem visits_length_le (i : RolesInput) (readyPods : List Pod) (expectedReplicas : Int)
    (fetched : Nat) (pods : List Pod) :
    (visits i readyPods expectedReplicas fetched pods).length ≤ pods.length := by
  induction pods generalizing fetched with
  | nil => exact Nat.le_refl _
  | cons pod pods ih =>
    rw [visits_cons]
    split
    · exact Nat.zero_le _
    · split
      · simp
      · simpa using ih (fetched + 1)

theorem assignments_length_le {i : RolesInput} {vc : ValkeyCluster} {nodesRaw : Text}
    {readyPods : List Pod} (hstart : rolesStart i vc = some (nodesRaw, readyPods)) :
    (assignments i vc).length ≤ (candidates nodesRaw readyPods).length := by
  have hvisits := visits_length_le i readyPods vc.spec.replicasPerShard 1 (candidates nodesRaw readyPods)
  have hmade := List.length_filterMap_le (madeOrder i vc) (roleVisits i vc)
  unfold assignments
  rw [roleVisits,hstart] at hmade ⊢
  exact Nat.le_trans hmade hvisits

def countAfter (i : RolesInput) (vc : ValkeyCluster) (nodesRaw p : Text) : Nat :=
  placed (replicaCount (parseClusterNodes nodesRaw)) ((assignments i vc).map (fun o => o.masterID)) p

/-- If the primaries lack a replica for every candidate, step 9 gives none of them too
many; if they lack exactly that many and every candidate gets its role, all are full. -/
theorem roles_balanced {i : RolesInput} {vc : ValkeyCluster} {nodesRaw : Text} {readyPods : List Pod}
    (hstart : rolesStart i vc = some (nodesRaw, readyPods))
    (hreflect : Reflecting i vc (parseClusterNodes nodesRaw) (roleVisits i vc)) :
    ((candidates nodesRaw readyPods).length ≤
        missing (parseClusterNodes nodesRaw) vc.spec.replicasPerShard →
      ∀ p ∈ primaries (parseClusterNodes nodesRaw), countAfter i vc nodesRaw p ≤
        max (replicaCount (parseClusterNodes nodesRaw) p) vc.spec.replicasPerShard.toNat) ∧
    ((candidates nodesRaw readyPods).length =
        missing (parseClusterNodes nodesRaw) vc.spec.replicasPerShard →
      (assignments i vc).length = (candidates nodesRaw readyPods).length →
      ∀ p ∈ primaries (parseClusterNodes nodesRaw),
        vc.spec.replicasPerShard.toNat ≤ countAfter i vc nodesRaw p) := by
  have hgreedy := hreflect.greedy
  have hlen := assignments_length_le hstart
  constructor
  · intro henough p _
    have hfits : ((assignments i vc).map (fun o => o.masterID)).length ≤
        missing (parseClusterNodes nodesRaw) vc.spec.replicasPerShard := by
      rw [List.length_map]
      omega
    exact (hgreedy.fills hfits).2 p
  · intro hexact hall p hp
    have hfull : ((assignments i vc).map (fun o => o.masterID)).length =
        missing (parseClusterNodes nodesRaw) vc.spec.replicasPerShard := by
      rw [List.length_map]
      omega
    exact hgreedy.full hfull p hp

def twoShards (third : String) (master : Text) : Text :=
  entryText '1' '1' "myself,master" ['-'] " 0-8191" ++
    entryText '2' '2' "master" ['-'] " 8192-16383" ++
    entryText '3' '3' third master "" ++ entryText '4' '4' "master" ['-'] ""

def fourPods : List Pod := [readyPod '1', readyPod '2', readyPod '3', readyPod '4']

def beforeRoles : Text := twoShards "master" ['-']

def afterFirstRole : Text := twoShards "slave" (nodeID '1')

def twoCandidates : RolesInput where
  secretOK := true
  listed := some fourPods
  fetch := fun fetched _ => some (if fetched ≤ 1 then beforeRoles else afterFirstRole)
  info := fun _ => some "cluster_known_nodes:4".toList
  reply := fun _ => .reply 1

theorem twoCandidates_run :
    rolesStart twoCandidates underReplicated = some (beforeRoles, fourPods) ∧
      roleVisits twoCandidates underReplicated =
        [(readyPod '3', beforeRoles), (readyPod '4', afterFirstRole)] ∧
      Reflects (parseClusterNodes beforeRoles) (parseClusterNodes beforeRoles) [] ∧
      Reflects (parseClusterNodes beforeRoles) (parseClusterNodes afterFirstRole)
        ([(readyPod '3', beforeRoles)].filterMap (madeOrder twoCandidates underReplicated)) := by
  decide +kernel

theorem twoCandidates_counts :
    (candidates beforeRoles fourPods).length = missing (parseClusterNodes beforeRoles) 1 ∧
      (assignments twoCandidates underReplicated).length = (candidates beforeRoles fourPods).length ∧
      (∀ p ∈ primaries (parseClusterNodes beforeRoles),
        max (replicaCount (parseClusterNodes beforeRoles) p) 1 = 1) ∧
      primaries (parseClusterNodes beforeRoles) = {nodeID '1', nodeID '2'} := by
  decide +kernel

theorem twoCandidates_reflecting : Reflecting twoCandidates underReplicated
    (parseClusterNodes beforeRoles) (roleVisits twoCandidates underReplicated) := by
  obtain ⟨-,hvisits,hfirst,hsecond⟩ := twoCandidates_run
  intro before v after heq
  rw [hvisits] at heq
  match before with
  | [] =>
    cases heq
    exact hfirst
  | [u] =>
    cases heq
    exact hsecond
  | _ :: _ :: _ => simp at heq

theorem twoCandidates_balanced :
    countAfter twoCandidates underReplicated beforeRoles (nodeID '1') = 1 ∧
      countAfter twoCandidates underReplicated beforeRoles (nodeID '2') = 1 := by
  obtain ⟨hexact,hall,hcap,hprimaries⟩ := twoCandidates_counts
  have hones : ∀ p ∈ primaries (parseClusterNodes beforeRoles),
      countAfter twoCandidates underReplicated beforeRoles p = 1 := by
    intro p hp
    obtain ⟨hmost,hleast⟩ := roles_balanced twoCandidates_run.1 twoCandidates_reflecting
    have hle := hmost (Nat.le_of_eq hexact) p hp
    have hge := hleast hexact hall p hp
    exact Nat.le_antisymm (Nat.le_trans hle (Nat.le_of_eq (hcap p hp))) hge
  rw [hprimaries] at hones
  exact ⟨hones _ (by simp), hones _ (by simp)⟩

theorem visits_length {i : RolesInput} {readyPods : List Pod} {expectedReplicas : Int}
    (hfetch : ∀ fetched, fetchClusterNodesWithSeed (i.fetch fetched) readyPods ≠ none)
    (fetched : Nat) (pods : List Pod)
    (hpick : ∀ v ∈ visits i readyPods expectedReplicas fetched pods,
      pickMasterForReplica v.2 expectedReplicas ≠ none) :
    (visits i readyPods expectedReplicas fetched pods).length = pods.length := by
  induction pods generalizing fetched with
  | nil => rfl
  | cons pod pods ih =>
    rw [visits_cons] at hpick ⊢
    cases hfound : fetchClusterNodesWithSeed (i.fetch fetched) readyPods with
    | none => exact absurd hfound (hfetch fetched)
    | some found =>
      rw [hfound] at hpick
      dsimp only at hpick ⊢
      have hoffers := hpick _ List.mem_cons_self
      rw [if_neg hoffers] at hpick ⊢
      rw [List.length_cons,ih (fetched + 1) (fun v hv => hpick v (List.mem_cons_of_mem _ hv)),
        List.length_cons]

theorem Reflecting.offers {i : RolesInput} {vc : ValkeyCluster} {first : List ClusterNodeState}
    {vs : List (Pod × Text)} (h : Reflecting i vc first vs)
    (hlen : vs.length ≤ missing first vc.spec.replicasPerShard) :
    ∀ v ∈ vs, pickMasterForReplica v.2 vc.spec.replicasPerShard ≠ none := by
  intro v hv hnone
  obtain ⟨before,after,rfl⟩ := List.append_of_mem hv
  have hview := h before v after rfl
  have hbefore : Reflecting i vc first before := by
    rintro earlier u later rfl
    exact h earlier u (later ++ v :: after) (by simp)
  have hmade := List.length_filterMap_le (madeOrder i vc) before
  simp only [List.length_append,List.length_cons] at hlen
  have hfits : ((before.filterMap (madeOrder i vc)).map (fun o => o.masterID)).length ≤
      missing first vc.spec.replicasPerShard := by
    rw [List.length_map]
    omega
  have hsum := (hbefore.greedy.fills hfits).1
  rw [List.length_map] at hsum
  have hpos : lacking (primaries first) vc.spec.replicasPerShard.toNat (placed (replicaCount first)
      ((before.filterMap (madeOrder i vc)).map (fun o => o.masterID))) ≠ 0 := by
    unfold missing at hlen
    omega
  obtain ⟨q,hq,hlack⟩ := Finset.exists_ne_zero_of_sum_ne_zero hpos
  rw [← hview.2 q hq] at hlack
  rw [← hview.1] at hq
  obtain ⟨n,hn,htakes,rfl⟩ := mem_primaries.mp hq
  have hover := pickMasterForReplica_none hnone n hn htakes
  omega

/-- Every candidate gets its role when the pods answer and the primaries have addresses. -/
theorem roles_all_assigned {i : RolesInput} {vc : ValkeyCluster} {nodesRaw : Text}
    {readyPods : List Pod} (hstart : rolesStart i vc = some (nodesRaw, readyPods))
    (hreflect : Reflecting i vc (parseClusterNodes nodesRaw) (roleVisits i vc))
    (hfetch : ∀ fetched, fetchClusterNodesWithSeed (i.fetch fetched) readyPods ≠ none)
    (hreply : ∀ pod, i.reply pod = .reply 1)
    (haddr : ∀ v ∈ roleVisits i vc, ∀ p ∈ primaries (parseClusterNodes v.2), primaryIP v.2 p ≠ [])
    (henough : (candidates nodesRaw readyPods).length ≤
      missing (parseClusterNodes nodesRaw) vc.spec.replicasPerShard) :
    (assignments i vc).length = (candidates nodesRaw readyPods).length := by
  have hvisits : roleVisits i vc = visits i readyPods vc.spec.replicasPerShard 1
      (candidates nodesRaw readyPods) := by
    rw [roleVisits,hstart]
  have hle : (roleVisits i vc).length ≤ (candidates nodesRaw readyPods).length := by
    rw [hvisits]
    exact visits_length_le i readyPods _ 1 _
  have hoffers := hreflect.offers (Nat.le_trans hle henough)
  have hmade : ∀ v ∈ roleVisits i vc, (madeOrder i vc v).isSome = true := by
    intro v hv
    obtain ⟨masterID,hpick⟩ := Option.ne_none_iff_exists'.mp (hoffers v hv)
    have hip := haddr v hv masterID (mem_primaries.mpr (pickMasterForReplica_some hpick).1)
    simp [madeOrder,visitOrder,orderFor,hpick,hip,hreply]
  have hall : (assignments i vc).length = (roleVisits i vc).length :=
    List.filterMap_length_eq_length.mpr hmade
  rw [hall]
  rw [hvisits] at hoffers ⊢
  exact visits_length hfetch 1 _ hoffers

def orphanAssignments (i : OrphanInput) (vc : ValkeyCluster) : List ReplicaOrder :=
  (orphanOrders i vc).filter (fun o => i.reply o.pod = .reply 1)

def lackOf (nodes : List ClusterNodeState) (expectedReplicas : Int) (p : Text) : Nat :=
  expectedReplicas.toNat - replicaCount nodes p

/-- All orphans of a pass go to one primary. -/
theorem orphanAssignments_picked {i : OrphanInput} {vc : ValkeyCluster} {s : OrphanStart}
    (hstart : orphanStart i = some s) :
    ∀ o ∈ orphanAssignments i vc,
      pickMasterForReplica s.nodesRaw vc.spec.replicasPerShard = some o.masterID := by
  intro o ho
  have horders := List.mem_of_mem_filter ho
  rw [orphanOrders,hstart] at horders
  obtain ⟨pod,-,horder⟩ := List.mem_filterMap.mp horders
  exact (orderFor_some horder).1

theorem lackOf_le_picked {nodesRaw masterID : Text} {expectedReplicas : Int}
    (h : pickMasterForReplica nodesRaw expectedReplicas = some masterID) :
    masterID ∈ primaries (parseClusterNodes nodesRaw) ∧
      ∀ p ∈ primaries (parseClusterNodes nodesRaw),
        lackOf (parseClusterNodes nodesRaw) expectedReplicas p ≤
          lackOf (parseClusterNodes nodesRaw) expectedReplicas masterID := by
  obtain ⟨hmem,-,hleast⟩ := pickMasterForReplica_some h
  refine ⟨mem_primaries.mpr hmem, fun p hp => ?_⟩
  obtain ⟨n,hn,htakes,rfl⟩ := mem_primaries.mp hp
  have hle := hleast n hn htakes
  unfold lackOf
  omega

/-- No primary gets more orphans than it lacks replicas exactly when one primary alone
lacks a replica for each of them. -/
theorem orphans_within_lack_iff {i : OrphanInput} {vc : ValkeyCluster} {s : OrphanStart}
    (hstart : orphanStart i = some s)
    (hall : (orphanAssignments i vc).length = (s.orphans i vc).length) :
    ((s.orphans i vc).length ≤ missing (parseClusterNodes s.nodesRaw) vc.spec.replicasPerShard →
        ∀ p ∈ primaries (parseClusterNodes s.nodesRaw),
          ((orphanAssignments i vc).map (fun o => o.masterID)).count p ≤
            lackOf (parseClusterNodes s.nodesRaw) vc.spec.replicasPerShard p) ↔
      ((s.orphans i vc).length ≤ missing (parseClusterNodes s.nodesRaw) vc.spec.replicasPerShard →
        s.orphans i vc = [] ∨ ∃ p ∈ primaries (parseClusterNodes s.nodesRaw),
          (s.orphans i vc).length ≤
            lackOf (parseClusterNodes s.nodesRaw) vc.spec.replicasPerShard p) := by
  refine imp_congr_right (fun _ => ?_)
  have hpicked : ∀ o ∈ orphanAssignments i vc,
      pickMasterForReplica s.nodesRaw vc.spec.replicasPerShard = some o.masterID :=
    orphanAssignments_picked hstart
  cases horders : orphanAssignments i vc with
  | nil =>
    rw [horders] at hall
    have hnone : s.orphans i vc = [] := List.length_eq_zero_iff.mp hall.symm
    simp [hnone]
  | cons o orders =>
    rw [horders] at hall hpicked
    have hsome : s.orphans i vc ≠ [] := by
      intro hnone
      simp [hnone] at hall
    have hpick := hpicked o (by simp)
    obtain ⟨hmem,hmost⟩ := lackOf_le_picked hpick
    have hsame : (o :: orders).map (fun o => o.masterID) =
        List.replicate (s.orphans i vc).length o.masterID := by
      refine List.eq_replicate_iff.mpr ⟨by rw [List.length_map,hall], fun p hp => ?_⟩
      obtain ⟨o',ho',rfl⟩ := List.mem_map.mp hp
      exact Option.some.inj ((hpicked o' ho').symm.trans hpick)
    rw [hsame]
    constructor
    · intro h
      exact .inr ⟨o.masterID, hmem, by simpa using h o.masterID hmem⟩
    · intro h p hp
      obtain ⟨q,hq,hle⟩ := h.resolve_left hsome
      by_cases hsameID : p = o.masterID
      · rw [hsameID,List.count_replicate_self]
        exact Nat.le_trans hle (hmost q hq)
      · have hne : o.masterID ≠ p := fun heq => hsameID heq.symm
        simp [List.count_replicate,hne]

def strayView : Text :=
  entryText '1' '1' "myself,master" ['-'] " 0-8191" ++ entryText '2' '2' "master" ['-'] " 8192-16383"

def strayPods (pods : List Pod) : OrphanInput where
  secretOK := true
  listed := some (readyPod '1' :: readyPod '2' :: pods)
  nodes := fun _ => some strayView
  replication := fun _ => some "role:master".toList
  info := fun pod => some (if pod ∈ pods then "cluster_known_nodes:1".toList
    else "cluster_known_nodes:2".toList)
  reply := fun _ => .reply 1

def lackingPairs : ValkeyCluster :=
  { underReplicated with spec := ⟨3, 2, 6379, 2000, none⟩ }

theorem strayPair_counts :
    orphanStart (strayPods [readyPod '3', readyPod '4']) = some ⟨fourPods, strayView, readyPod '1'⟩ ∧
      (orphanAssignments (strayPods [readyPod '3', readyPod '4']) lackingPairs).length =
        (OrphanStart.orphans (strayPods [readyPod '3', readyPod '4']) lackingPairs
          ⟨fourPods, strayView, readyPod '1'⟩).length ∧
      (OrphanStart.orphans (strayPods [readyPod '3', readyPod '4']) lackingPairs
          ⟨fourPods, strayView, readyPod '1'⟩).length = 2 ∧
      missing (parseClusterNodes strayView) lackingPairs.spec.replicasPerShard = 4 ∧
      nodeID '1' ∈ primaries (parseClusterNodes strayView) ∧
      lackOf (parseClusterNodes strayView) lackingPairs.spec.replicasPerShard (nodeID '1') = 2 := by
  decide +kernel

theorem strayPair_within_lack :
    ((orphanAssignments (strayPods [readyPod '3', readyPod '4']) lackingPairs).map
      (fun o => o.masterID)).count (nodeID '1') ≤
      lackOf (parseClusterNodes strayView) lackingPairs.spec.replicasPerShard (nodeID '1') := by
  obtain ⟨hstart,hall,htwo,hmissing,hmem,hlack⟩ := strayPair_counts
  refine (orphans_within_lack_iff hstart hall).mpr (fun _ => .inr ⟨nodeID '1', hmem, ?_⟩) ?_ _ hmem
  · rw [hlack,htwo]
  · rw [htwo,hmissing]
    decide

theorem twoStrays_one_primary :
    orphanStart (strayPods [readyPod '3', readyPod '4']) = some ⟨fourPods, strayView, readyPod '1'⟩ ∧
      (OrphanStart.orphans (strayPods [readyPod '3', readyPod '4']) underReplicated
        ⟨fourPods, strayView, readyPod '1'⟩).length = 2 ∧
      missing (parseClusterNodes strayView) underReplicated.spec.replicasPerShard = 2 ∧
      lackOf (parseClusterNodes strayView) underReplicated.spec.replicasPerShard (nodeID '1') = 1 ∧
      (orphanAssignments (strayPods [readyPod '3', readyPod '4']) underReplicated).map
        (fun o => (o.pod, o.masterID)) = [(readyPod '3', nodeID '1'), (readyPod '4', nodeID '1')] := by
  decide +kernel

end ValkeyOperator
