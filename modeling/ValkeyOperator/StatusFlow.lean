import ValkeyOperator.Carried
import ValkeyOperator.Resets

/-!
The ShardUnderReplicated condition on its way through a pass: set in memory by
step 8, read by step 9, sent with the status. A patch in between answers with the
stored object, and that replaces the copy in memory.
-/

set_option autoImplicit false

namespace ValkeyOperator
open TextScan

def verdict (s : Status) : List (ConditionType × ConditionStatus × String × String × Int) :=
  (conditionsOf .shardUnderReplicated s.conditions).map Condition.body

/-- What step 9 reads and the status patch sends about replication. -/
def Event.verdict? : Event → Option (List (ConditionType × ConditionStatus × String × String × Int))
  | .readUnderReplicated cs => some (cs.map Condition.body)
  | .patchStatus s => some (verdict s)
  | _ => none

def verdicts (log : List Event) : List (List (ConditionType × ConditionStatus × String × String × Int)) :=
  log.filterMap Event.verdict?

/-- There is a condition, and every one that is there says this. -/
def SaysOnly (b : ConditionType × ConditionStatus × String × String × Int)
    (v : List (ConditionType × ConditionStatus × String × String × Int)) : Prop :=
  v ≠ [] ∧ ∀ c ∈ v, c = b

instance (b : ConditionType × ConditionStatus × String × String × Int)
    (v : List (ConditionType × ConditionStatus × String × String × Int)) : Decidable (SaysOnly b v) :=
  inferInstanceAs (Decidable (_ ∧ _))

theorem saysOnly_cons {b : ConditionType × ConditionStatus × String × String × Int}
    {v : List (ConditionType × ConditionStatus × String × String × Int)} :
    SaysOnly b (b :: v) ↔ ∀ c ∈ v, c = b := by
  simp [SaysOnly]

theorem SaysOnly.tail {b : ConditionType × ConditionStatus × String × String × Int}
    {v : List (ConditionType × ConditionStatus × String × String × Int)} (h : SaysOnly b v) :
    ∀ c ∈ v.tail, c = b :=
  fun c hc => h.2 c (List.mem_of_mem_tail hc)

/-- Which of the two values, the computed condition and the stored ones, each branch of a pass shows. -/
theorem saysOnly_sent_iff {computed : ConditionType × ConditionStatus × String × String × Int}
    {old : List (ConditionType × ConditionStatus × String × String × Int)} {unstable : Prop} [Decidable unstable]
    {stale stats late sends : Bool} (hunstable : unstable → late = false) :
    (∀ v ∈ [] ++ [if stale then old else computed :: old.tail] ++
        if unstable then if sends then [if stale then old else computed :: old.tail] else []
        else if late then [if stats then old else if stale then old else computed :: old.tail] else [],
      SaysOnly computed v) ↔
    SaysOnly computed old ∨
      ((∀ c ∈ old.tail, c = computed) ∧ stale = false ∧ ¬ (late = true ∧ stats = true)) := by
  have hfresh : SaysOnly computed (computed :: old.tail) ↔ ∀ c ∈ old.tail, c = computed := saysOnly_cons
  by_cases hold : SaysOnly computed old
  · have htail := hfresh.mpr hold.tail
    simp only [hold,true_or,iff_true]
    split_ifs <;> simp [hold,htail]
  · rw [← hfresh]
    by_cases htail : SaysOnly computed (computed :: old.tail) <;> split_ifs <;> simp_all

def Event.Silent (e : Event) : Prop := e.verdict? = none

theorem verdicts_append (xs ys : List Event) : verdicts (xs ++ ys) = verdicts xs ++ verdicts ys :=
  List.filterMap_append

theorem verdicts_silent {es : List Event} (h : ∀ e ∈ es, e.Silent) : verdicts es = [] :=
  List.filterMap_eq_nil_iff.mpr h

theorem Frame.verdicts_eq {keys : AnnotationKey → Prop} {w w' : World}
    (h : Frame keys Event.Silent w w') : verdicts w'.log = verdicts w.log := by
  obtain ⟨es,hlog,hes⟩ := h.emits
  rw [hlog,verdicts_append,verdicts_silent hes,List.append_nil]

theorem Emits.verdicts_eq {acts : Event → Prop} {w w' : World} (h : Emits acts w w')
    (ha : ∀ e, acts e → e.Silent) : verdicts w'.log = verdicts w.log := by
  have hframe : Frame (fun _ => False) Event.Silent w w' := h.frame ha
  exact hframe.verdicts_eq

theorem isRoleStep_silent {e : Event} (h : e.IsRoleStep) : e.Silent := by
  cases e with
  | topologySet | fetchedNodes => rfl
  | _ => exact h.elim

theorem isFailover_silent {e : Event} (h : e.IsFailover) : e.Silent := by
  cases e with
  | failover | labelPod | unlabelPod => rfl
  | _ => exact h.elim

theorem isRebalance_silent {e : Event} (h : e.IsRebalance) : e.Silent := by
  cases e with
  | createJob | deleteJob => rfl
  | _ => exact h.elim

/-- The scan for stale nodes writes to the API server and gets an answer. -/
def stalePatches (i : ForgetInput) (nodes : List ClusterNodeState) (vc : ValkeyCluster) : Bool :=
  match guardedPods vc i with
  | none => false
  | some pods => i.patchOK && nodes.any (staleChange i.now pods vc.annotations)

theorem trackStale_status (i : ForgetInput) (pods : List Pod) (nodes : List ClusterNodeState)
    (w : World) :
    (trackStale i pods nodes w).vc.status =
      if i.patchOK && nodes.any (staleChange i.now pods w.vc.annotations) then w.stored.status
      else w.vc.status := by
  have hedit : Edit (fun _ => False) w (staleScan i.now pods nodes w).world :=
    staleScan_edit (fun _ h => h) i.now pods nodes w
  have hchanged := staleScan_changed i.now pods nodes w
  unfold trackStale
  dsimp only
  rw [← hchanged]
  cases hc : (staleScan i.now pods nodes w).annotationsChanged with
  | false => simp [staleScan_unchanged hc]
  | true =>
    cases hp : i.patchOK with
    | false =>
      have hstatus := congrArg ValkeyCluster.status hedit.only
      simpa using hstatus
    | true =>
      have hstatus := congrArg ValkeyCluster.status hedit.stored
      simpa [World.patch] using hstatus

theorem forgetStaleNodes_status (i : ForgetInput) (nodes : List ClusterNodeState) (w : World) :
    (forgetStaleNodes i nodes w).1.vc.status =
      if stalePatches i nodes w.vc then w.stored.status else w.vc.status := by
  rw [forgetStaleNodes_eq]
  unfold stalePatches
  cases guardedPods w.vc i with
  | none => simp
  | some pods => exact trackStale_status i pods nodes w

theorem Restates.verdict_eq {w w' : World} (h : Restates .shardUnderReplicated w w') :
    verdict w'.vc.status = verdict w.vc.status := by
  obtain ⟨s,rfl,hs⟩ := h
  unfold verdict
  rw [hs]

theorem detectShardColocation_restates (listed : Option (List Pod)) (now : Time)
    (nodes : List ClusterNodeState) (w : World) :
    Restates .shardUnderReplicated w (detectShardColocation listed now nodes w) := by
  have hne : ConditionType.shardColocated ≠ .shardUnderReplicated := by decide
  unfold detectShardColocation
  split
  · exact Restates.refl _ w
  · dsimp only
    split <;> exact Restates.setCondition hne now w

theorem checkReplication_verdict (i : HealthInput) (nodes : List ClusterNodeState) (w : World) :
    verdict (checkReplication i nodes w).vc.status =
      (underReplicatedCondition w.vc nodes).body :: (verdict w.vc.status).tail := by
  obtain ⟨c,hbody,hset⟩ := setCondition_conditionsOf i.underReplicatedAt (underReplicatedCondition w.vc nodes)
    w.vc.status.conditions
  rw [underReplicatedCondition_type] at hset
  have hset' : conditionsOf .shardUnderReplicated (checkReplication i nodes w).vc.status.conditions =
      c :: (conditionsOf .shardUnderReplicated w.vc.status.conditions).tail := hset
  unfold verdict
  rw [hset',List.map_cons,hbody,List.map_tail]

theorem clearShardImbalanced_verdict (now : Time) (w : World) :
    verdict (clearShardImbalanced now w).vc.status = verdict w.vc.status := by
  have hne : ConditionType.shardImbalanced ≠ .shardUnderReplicated := by decide
  exact Restates.verdict_eq (Restates.setCondition hne now w)

/-- A patch, even one without a difference, brings back the stored status. -/
theorem patch_verdict (ok : Bool) (base : ValkeyCluster) (w : World) :
    verdict (w.patch ok base).vc.status = if ok then verdict w.stored.status else verdict w.vc.status := by
  cases ok <;> rfl

theorem raiseShardImbalanced_verdict (i : StatsInput) (max min : Int) (w : World) :
    verdict (raiseShardImbalanced i max min w).vc.status =
      if i.patchOK && (w.vc.annotations .shardImbalancedSince).isNone then verdict w.stored.status
      else verdict w.vc.status := by
  have hne : ConditionType.shardImbalanced ≠ .shardUnderReplicated := by decide
  unfold raiseShardImbalanced
  cases w.vc.annotations .shardImbalancedSince with
  | none =>
    dsimp only
    rw [patch_verdict]
    simp [World.annotate]
  | some v =>
    simp only [Option.isNone_some,Bool.and_false,Bool.false_eq_true,if_false]
    split
    · rfl
    · split
      · rfl
      · exact Restates.verdict_eq (Restates.setCondition hne i.conditionAt w)

theorem lowerShardImbalanced_verdict (i : StatsInput) (w : World) :
    verdict (lowerShardImbalanced i w).vc.status =
      if i.patchOK && (w.vc.annotations .shardImbalancedSince).isSome then verdict w.stored.status
      else verdict w.vc.status := by
  unfold lowerShardImbalanced
  rw [clearShardImbalanced_verdict]
  cases w.vc.annotations .shardImbalancedSince with
  | none => simp
  | some v =>
    dsimp only
    rw [patch_verdict]
    simp [World.annotate]

theorem reconcileShardStats_verdict (i : StatsInput) (w : World) :
    verdict (reconcileShardStats i w).1.vc.status =
      if statsPatches i w.vc then verdict w.stored.status else verdict w.vc.status := by
  have hclear := clearShardImbalanced_verdict i.conditionAt w
  unfold reconcileShardStats statsPatches
  cases hc : i.credsOK with
  | false => cases i.listed <;> simp
  | true =>
    cases hl : i.listed with
    | none => simp
    | some pods =>
      have hle : (shardStats i (primaryPods w.vc pods)).length ≤ (primaryPods w.vc pods).length :=
        List.length_filterMap_le _ _
      simp only [Bool.not_true,Bool.false_eq_true,if_false,Bool.true_and]
      split
      · have hfew : ¬ 2 ≤ (shardStats i (primaryPods w.vc pods)).length := by omega
        simp [hfew,hclear]
      · cases hs : shardStats i (primaryPods w.vc pods) with
        | nil => simp [hclear]
        | cons first rest =>
          cases rest with
          | nil => simp [hclear]
          | cons next rest =>
            have hskew : memorySkew (first :: next :: rest) =
                skewPct (maxMem first.memoryBytes (next :: rest))
                  (minMem first.memoryBytes (next :: rest)) := rfl
            rw [hskew]
            dsimp only
            split
            · rename_i hgt
              rw [raiseShardImbalanced_verdict]
              cases w.vc.annotations .shardImbalancedSince <;> simp [hgt]
            · rename_i hgt
              rw [lowerShardImbalanced_verdict]
              cases w.vc.annotations .shardImbalancedSince <;> simp [hgt]

/-- What the later steps read from the object is as it is stored. -/
structure Kept (keys : AnnotationKey → Prop) (vc stored : ValkeyCluster) : Prop where
  fixed : vc.fixed = stored.fixed
  keys : ∀ k, keys k → vc.annotations k = stored.annotations k

namespace Kept
variable {keys : AnnotationKey → Prop} {vc stored : ValkeyCluster}

theorem spec (h : Kept keys vc stored) : vc.spec = stored.spec :=
  congrArg (fun f => f.2.2.2.1) h.fixed

theorem computed (h : Kept keys vc stored) (nodes : List ClusterNodeState) :
    underReplicatedCondition vc nodes = underReplicatedCondition stored nodes := by
  have hgen : vc.generation = stored.generation := congrArg (fun f => f.2.2.1) h.fixed
  unfold underReplicatedCondition
  rw [h.spec,hgen]

theorem stable (h : Kept keys vc stored) (i : StableInput) :
    isStatefulSetStable i vc = isStatefulSetStable i stored := by
  unfold isStatefulSetStable totalPods
  rw [h.spec]

theorem drain (h : Kept keys vc stored) (i : DrainInput) :
    drainRequeues i vc = drainRequeues i stored := by
  have hname : vc.name = stored.name := congrArg (fun f => f.1) h.fixed
  unfold drainRequeues failoverSucceeds failoverConfirmed stableDNS internalServiceName
  rw [hname]

theorem stale (h : Kept keys vc stored) (hk : ∀ id, keys (.staleSince id)) (i : ForgetInput)
    (nodes : List ClusterNodeState) : stalePatches i nodes vc = stalePatches i nodes stored := by
  have hchange : ∀ pods, staleChange i.now pods vc.annotations =
      staleChange i.now pods stored.annotations := by
    intro pods
    funext n
    unfold staleChange
    rw [h.keys _ (hk n.id)]
  unfold stalePatches guardedPods stsMoving totalPods
  simp only [hchange,h.spec]

theorem stats (h : Kept keys vc stored) (hk : keys .shardImbalancedSince) (i : StatsInput) :
    statsPatches i vc = statsPatches i stored := by
  have hroles : vc.status.podRoles = stored.status.podRoles := congrArg (fun f => f.2.2.2.2) h.fixed
  unfold statsPatches primaryPods imbalanceThreshold
  rw [hroles,h.spec,h.keys _ hk]

end Kept

theorem Frame.kept {keys : AnnotationKey → Prop} {acts : Event → Prop} {w w' : World}
    (h : Frame keys acts w w') (hf : w.vc.fixed = w.stored.fixed) (hs : ∀ k, keys k → w.Synced k) :
    Kept keys w'.vc w.vc :=
  ⟨(h.fixed hf).1, fun k hk => (h.keeps k hk (hs k hk)).1⟩

def Recalls (cs : List Condition) : World → Prop :=
  Carries (fun conditions => conditionsOf .shardUnderReplicated conditions = cs)

theorem Recalls.verdict {cs : List Condition} {w : World} (h : Recalls cs w) :
    verdict w.vc.status = cs.map Condition.body := by
  unfold ValkeyOperator.verdict
  rw [h.seen]

/-- Step 8 ends with the condition it computed, or with the stored ones. -/
theorem reconcileClusterHealth_verdict {i : HealthInput} {reply : ClusterReply}
    (hsecret : i.secretOK = true) (hreply : fetchClusterState i = some reply) {w : World}
    {cs : List Condition} (hcs : Recalls cs w)
    (hf : w.vc.fixed = w.stored.fixed) (hs : ∀ id, w.Synced (.staleSince id)) :
    verdict (reconcileClusterHealth i w).1.vc.status =
      if stalePatches i.forget (parseClusterNodes reply.nodesRaw) w.vc then cs.map Condition.body
      else (underReplicatedCondition w.vc (parseClusterNodes reply.nodesRaw)).body ::
        (cs.map Condition.body).tail := by
  have hsynced : ∀ k, (∃ id, k = .staleSince id) → w.Synced k := by
    rintro k ⟨id,rfl⟩
    exact hs id
  have hspares : Spares (fun conditions => conditionsOf .shardUnderReplicated conditions = cs) .clusterDegraded :=
    spares_conditionsOf (by decide) cs
  unfold reconcileClusterHealth
  simp only [hsecret,hreply,Bool.not_true,Bool.false_eq_true,if_false]
  rw [(detectShardColocation_restates _ _ _ _).verdict_eq,forgetStaleNodes_status]
  generalize parseClusterNodes reply.nodesRaw = nodes
  generalize parseClusterInfoField reply.info "cluster_state".toList = state
  -- checks 1 and 2 leave alone what the scan for stale nodes reads
  have hnodes : Frame (fun k => ∃ id, k = .staleSince id) (fun _ => True) w _ :=
    updateStatusNodes_frame i nodes w
  have hstate := hnodes.trans (checkClusterState_frame (by simp) (by simp)
    (.inr (fun _ _ => trivial)) i state)
  have hrepl := hstate.trans (checkReplication_frame i nodes _)
  have hrecalls : Recalls cs (checkClusterState i state (updateStatusNodes i nodes w)) :=
    (hcs.nodes i nodes).state hspares i state
  rw [(hrepl.kept hf hsynced).stale (fun id => ⟨id, rfl⟩),hrepl.status]
  split
  · unfold verdict
    rw [hcs.stored]
  · rw [checkReplication_verdict,(hstate.kept hf hsynced).computed,hrecalls.verdict]

def StatusInput.sends (i : StatusInput) : Bool :=
  match i.sts with
  | .found _ => true
  | _ => false

theorem updateStatus_verdicts (i : StatusInput) (base : ValkeyCluster) (w : World) :
    verdicts (updateStatus i base w).1.log =
      verdicts w.log ++ if i.sends then [verdict w.vc.status] else [] := by
  rw [(updateStatus_log i base w).1,verdicts_append]
  unfold statusEvents StatusInput.sends
  cases i.sts with
  | notFound => rfl
  | failed => rfl
  | found sts =>
    have hfill : Restates .shardUnderReplicated w (fillStatus i sts w) :=
      fillStatus_restates (by decide) (by decide) i sts w
    have hsent : verdicts [.patchStatus (fillStatus i sts w).vc.status] =
        [verdict (fillStatus i sts w).vc.status] := rfl
    rw [hsent,hfill.verdict_eq]
    rfl

theorem mutateCluster_verdict (i : PassInput) (w : World) :
    verdict (mutateCluster i w).vc.status =
      if statsPatches i.stats w.vc then verdict w.stored.status else verdict w.vc.status := by
  have horphans := reconcileOrphanReplicas_emits i.orphans w
  have hstats := reconcileShardStats_verdict i.stats (reconcileOrphanReplicas i.orphans w).1
  rw [horphans.vc_eq,horphans.stored_eq] at hstats
  rw [← hstats]
  unfold mutateCluster
  dsimp only
  split
  · split
    · rw [(reconcileRebalance_emits i.rebalance _).vc_eq]
    · rfl
  · rfl

theorem mutateCluster_verdicts (i : PassInput) (w : World) :
    verdicts (mutateCluster i w).log = verdicts w.log := by
  have hframe : Frame (fun _ => False) Event.Silent w (mutateCluster i w) :=
    mutateCluster_frame (fun h => h) (fun _ h => isRoleStep_silent h.isRoleStep) (fun _ => isRebalance_silent) i w
  exact hframe.verdicts_eq

def sendsLate (i : PassInput) (vc : ValkeyCluster) : Bool :=
  decide (isStatefulSetStable i.stable vc = some true) && !drainRequeues i.drain vc && i.status.sends

theorem observeCluster_verdicts (i : PassInput) (w : World) :
    (observeCluster i w).vc = (reconcileClusterHealth i.health w).1.vc ∧
    (observeCluster i w).stored = (reconcileClusterHealth i.health w).1.stored ∧
    verdicts (observeCluster i w).log = verdicts (reconcileClusterHealth i.health w).1.log ++
      [verdict (reconcileClusterHealth i.health w).1.vc.status] := by
  have hroles := reconcileReplicaRoles_emits i.roles (reconcileClusterHealth i.health w).1
  refine ⟨hroles.vc_eq, hroles.stored_eq, ?_⟩
  have hlog := hroles.verdicts_eq (fun _ => isRoleStep_silent)
  rw [World.emit_log,verdicts_append] at hlog
  exact hlog

theorem reconcileFormed_verdicts (i : PassInput) (base : ValkeyCluster) (w : World) :
    verdicts (reconcileFormed i base w).world.log = verdicts (observeCluster i w).log ++
      if isStatefulSetStable i.stable (observeCluster i w).vc = some false then
        if i.status.sends then [verdict (observeCluster i w).vc.status] else []
      else if sendsLate i (observeCluster i w).vc then
        [if statsPatches i.stats (observeCluster i w).vc then verdict (observeCluster i w).stored.status
          else verdict (observeCluster i w).vc.status]
      else [] := by
  unfold reconcileFormed sendsLate
  dsimp only
  generalize observeCluster i w = v
  have hdrain := reconcileNodeDrainFailover_emits i.drain v
  have hrequeued := reconcileNodeDrainFailover_requeued i.drain v
  have hsilent := hdrain.verdicts_eq (fun _ => isFailover_silent)
  cases hst : isStatefulSetStable i.stable v.vc with
  | none => simp
  | some stable =>
    cases stable with
    | false => simp [updateStatus_verdicts]
    | true =>
      cases hres : reconcileNodeDrainFailover i.drain v with
      | mk w' r =>
        rw [hres] at hdrain hrequeued hsilent
        have hfinish : verdicts (finishPass i base (mutateCluster i w')).world.log =
            verdicts v.log ++ if i.status.sends then
              [if statsPatches i.stats v.vc then verdict v.stored.status else verdict v.vc.status]
            else [] := by
          rw [finishPass_world,updateStatus_verdicts,mutateCluster_verdict,mutateCluster_verdicts,
            hdrain.vc_eq,hdrain.stored_eq,hsilent]
        cases r with
        | requeued =>
          have hd : drainRequeues i.drain v.vc = true := hrequeued.mp rfl
          simpa [hd] using hsilent
        | nothing | err =>
          have hd : drainRequeues i.drain v.vc = false := by
            rw [Bool.eq_false_iff]
            exact fun h => by cases hrequeued.mpr h
          simpa [hd] using hfinish

def statusKeys (k : AnnotationKey) : Prop := k = .shardImbalancedSince ∨ ∃ id, k = .staleSince id

theorem okPass_formed {i : PassInput} (hview : clusterView i.topology = .ok) (base : ValkeyCluster)
    (w : World) :
    afterTopology i base (reconcileClusterTopology i.topology w) =
        reconcileFormed i base (reconcileClusterTopology i.topology w).world ∧
      Frame statusKeys Event.Silent w (reconcileClusterTopology i.topology w).world := by
  rw [reconcileClusterTopology_cases,hview]
  refine ⟨rfl, ?_⟩
  have hsilent : Event.clusterOK.Silent := rfl
  have hemit : Frame statusKeys Event.Silent w (w.emit .clusterOK) := Frame.emit hsilent w
  have hclear := hemit.trans (clear_frame (by simp [statusKeys]) (by simp [statusKeys])
    i.topology.clearOK _)
  exact hclear.trans ((syncRoleLabels_emits (fun _ _ => rfl) i.topology.sync _ _).frame (fun _ h => h))

section
variable (sum256 : Text → Digest)

theorem beforeTopology_silent (i : PassInput) (stored : ValkeyCluster) :
    Frame statusKeys Event.Silent (World.start (entryObject stored)) (beforeTopology sum256 i stored) := by
  refine beforeTopology_frame sum256 (by simp [statusKeys]) (by simp [statusKeys]) ?_ ?_ i stored
  · intro e he
    cases e with
    | skipACLs | applyACLs => rfl
    | _ => exact he.elim
  · intro e he
    cases e with
    | createJob | deletePod => rfl
    | _ => exact he.elim

theorem entry_kept {keys : AnnotationKey → Prop} {acts : Event → Prop} {stored : ValkeyCluster}
    {w : World} (h : Frame keys acts (World.start (entryObject stored)) w) : Kept keys w.vc stored := by
  have hkept := h.kept rfl (fun k _ => World.start_synced _ k)
  constructor
  · rw [hkept.fixed]
    exact entryObject_fixed stored
  · intro k hk
    rw [hkept.keys k hk,← entryObject_annotations stored]
    rfl

theorem entry_verdict (stored : ValkeyCluster) :
    verdict (entryObject stored).status = verdict stored.status := by
  unfold entryObject
  split <;> rfl

theorem beforeTopology_recalls (i : PassInput) (stored : ValkeyCluster) :
    Recalls (conditionsOf .shardUnderReplicated stored.status.conditions) (beforeTopology sum256 i stored) := by
  have hconditions : (entryObject stored).status.conditions = stored.status.conditions := by
    unfold entryObject
    split <;> rfl
  have hstart : Recalls (conditionsOf .shardUnderReplicated stored.status.conditions)
      (World.start (entryObject stored)) := by
    refine ⟨?_, ?_, List.not_mem_nil⟩ <;> exact congrArg (conditionsOf .shardUnderReplicated) hconditions
  exact (hstart.acls sum256 i.acl).crashes i.crash

/-- What the pass reads and sends is what it computed, unless the stored status has further
conditions of the type that say something else, or a patch after step 8's second check brings
back a stored one that does. -/
theorem condition_carried_iff {i : PassInput} {stored : ValkeyCluster} {reply : ClusterReply}
    (hreach : reachesTopology i stored = true) (hview : clusterView i.topology = .ok)
    (hsecret : i.health.secretOK = true) (hreply : fetchClusterState i.health = some reply) :
    (∀ v ∈ verdicts (reconcile sum256 i stored).world.log,
      SaysOnly (underReplicatedCondition stored (parseClusterNodes reply.nodesRaw)).body v) ↔
    SaysOnly (underReplicatedCondition stored (parseClusterNodes reply.nodesRaw)).body (verdict stored.status) ∨
      ((∀ c ∈ (verdict stored.status).tail,
          c = (underReplicatedCondition stored (parseClusterNodes reply.nodesRaw)).body) ∧
        stalePatches i.health.forget (parseClusterNodes reply.nodesRaw) stored = false ∧
        ¬ (sendsLate i stored = true ∧ statsPatches i.stats stored = true)) := by
  obtain ⟨hpass,hok⟩ := okPass_formed hview (entryObject stored) (beforeTopology sum256 i stored)
  have hstart := (beforeTopology_silent sum256 i stored).trans hok
  have hrecalls := (beforeTopology_recalls sum256 i stored).topology i.topology
  generalize (reconcileClusterTopology i.topology (beforeTopology sum256 i stored)).world = w
    at hpass hok hstart hrecalls
  have hsynced : ∀ k, statusKeys k → w.Synced k :=
    fun k hk => hstart.synced hk (World.start_synced _ k)
  have hhealth : Frame (fun k => k = .shardImbalancedSince) Event.Silent w
      (reconcileClusterHealth i.health w).1 :=
    reconcileClusterHealth_frame (by simp) (by simp) (by simp) (fun _ _ => rfl)
      (.inr (fun e he => by obtain ⟨r,rfl⟩ := he.exists_round; rfl)) i.health
  have hobserved := (hstart.mono (fun k hk => .inl hk) (fun _ h => h)).trans hhealth
  have hkept := entry_kept hobserved
  have hverdict := reconcileClusterHealth_verdict hsecret hreply hrecalls (hstart.fixed_eq rfl)
    (fun id => hsynced _ (.inr ⟨id, rfl⟩))
  rw [(entry_kept hstart).stale (fun id => .inr ⟨id, rfl⟩),(entry_kept hstart).computed,
    ← verdict] at hverdict
  obtain ⟨hvc,hst,hlog⟩ := observeCluster_verdicts i w
  have hquiet : verdicts (reconcileClusterHealth i.health w).1.log = [] := hobserved.verdicts_eq
  have hback : verdict (observeCluster i w).stored.status = verdict stored.status := by
    rw [hst,hobserved.status]
    exact entry_verdict stored
  have hunstable : isStatefulSetStable i.stable stored = some false → sendsLate i stored = false := by
    intro h
    simp [sendsLate,h]
  have hlate : sendsLate i (observeCluster i w).vc = sendsLate i stored := by
    unfold sendsLate
    rw [hvc,hkept.stable,hkept.drain]
  rw [reconcile_reaches sum256 hreach,hpass,reconcileFormed_verdicts,hlog,hquiet,hlate,hback,hvc,
    hkept.stable,hkept.stats rfl,hverdict]
  exact saysOnly_sent_iff hunstable

end

def formedPass (now : Time) : PassInput := calmPass now (fun _ => some (infoText "ok" "16384"))

def scaledDown (annotations : Annotations) : ValkeyCluster :=
  { threeShards annotations with
    status := { (threeShards annotations).status with
      conditions := [⟨.shardUnderReplicated, .true, "MissingReplica",
        "shards under-replicated: 22222222(0/1 replicas)", 0, 0⟩] } }

theorem scaledDown_carried :
    ¬ SaysOnly (underReplicatedCondition (scaledDown (fun _ => none))
          (parseClusterNodes (threeNodesReply "ok").nodesRaw)).body (verdict (scaledDown (fun _ => none)).status) ∧
    ∀ v ∈ verdicts (reconcile (fun _ => appDigest) (formedPass (60*second))
        (scaledDown (fun _ => none))).world.log,
      SaysOnly (underReplicatedCondition (scaledDown (fun _ => none))
        (parseClusterNodes (threeNodesReply "ok").nodesRaw)).body v := by
  refine ⟨by decide +kernel, ?_⟩
  refine (condition_carried_iff _ (by decide) (by decide +kernel) rfl rfl).mpr (.inr ⟨?_, ?_, ?_⟩)
  · decide +kernel
  · decide +kernel
  · decide +kernel

def recoveredNode : Annotations := fun k =>
  if k = .staleSince (List.replicate 40 '2') then some (.stamp 0) else none

theorem scaledDown_lost :
    verdicts (reconcile (fun _ => appDigest) (formedPass (60*second))
        (scaledDown recoveredNode)).world.log =
      [verdict (scaledDown recoveredNode).status, verdict (scaledDown recoveredNode).status] ∧
    ¬ ∀ v ∈ verdicts (reconcile (fun _ => appDigest) (formedPass (60*second))
        (scaledDown recoveredNode)).world.log,
      SaysOnly (underReplicatedCondition (scaledDown recoveredNode)
        (parseClusterNodes (threeNodesReply "ok").nodesRaw)).body v := by
  constructor
  · decide +kernel
  · decide +kernel

end ValkeyOperator
