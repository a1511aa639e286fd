import ValkeyOperator.Reconcile

/-!
Conditions on their way through a pass. A step that sets no condition of some type keeps what
both copies of the object say about it: a patch in between brings back the stored ones.
-/

set_option autoImplicit false

namespace ValkeyOperator
open TextScan

/-- The conditions of both copies satisfy `P`, and no rebalance was started. -/
structure Carries (P : List Condition → Prop) (w : World) : Prop where
  seen : P w.vc.status.conditions
  stored : P w.stored.status.conditions
  log : .createJob .rebalance ∉ w.log

/-- A new condition of this type does not touch what `P` says. -/
def Spares (P : List Condition → Prop) (type : ConditionType) : Prop :=
  ∀ now cond conditions, cond.type = type → P conditions → P (setCondition now cond conditions)

theorem spares_conditionsOf {type other : ConditionType} (h : other ≠ type) (cs : List Condition) :
    Spares (fun conditions => conditionsOf type conditions = cs) other := by
  intro now cond conditions hcond hcs
  rw [setCondition_conditionsOf_other now (hcond ▸ h),hcs]

namespace Carries
variable {P : List Condition → Prop} {w w' : World}

theorem same (h : Carries P w) (hvc : w'.vc.status.conditions = w.vc.status.conditions)
    (hstored : w'.stored.status.conditions = w.stored.status.conditions) (hlog : w'.log = w.log) :
    Carries P w' :=
  ⟨by rw [hvc]; exact h.seen, by rw [hstored]; exact h.stored, hlog ▸ h.log⟩

theorem append (h : Carries P w) {es : List Event} (hes : .createJob .rebalance ∉ es) :
    Carries P { w with log := w.log ++ es } := by
  refine ⟨h.seen, h.stored, ?_⟩
  rw [List.mem_append]
  exact fun hmem => hmem.elim h.log hes

theorem emits (h : Carries P w) {acts : Event → Prop} (hw : Emits acts w w')
    (ha : ¬ acts (.createJob .rebalance)) : Carries P w' := by
  obtain ⟨es,hes,rfl⟩ := hw
  exact h.append (fun hmem => ha (hes _ hmem))

theorem patch (h : Carries P w) (ok : Bool) (base : ValkeyCluster) : Carries P (w.patch ok base) := by
  cases ok with
  | false => exact h
  | true => exact ⟨h.stored, h.stored, h.log⟩

theorem annotate (h : Carries P w) (k : AnnotationKey) (v : Option AnnotationValue) :
    Carries P (w.annotate k v) :=
  h.same rfl rfl rfl

theorem edit {keys : AnnotationKey → Prop} (h : Carries P w) (hw : Edit keys w w') : Carries P w' :=
  h.same (by rw [hw.only]) (by rw [hw.stored]) hw.log

theorem setCondition {type : ConditionType} (h : Carries P w) (hP : Spares P type) {cond : Condition}
    (hcond : cond.type = type) (now : Time) : Carries P (w.setCondition now cond) :=
  ⟨hP now cond _ hcond h.seen, h.stored, h.log⟩

theorem acls (h : Carries P w) (sum256 : Text → Digest) (i : ACLInput) :
    Carries P (reconcileACLs sum256 i w).1 := by
  unfold reconcileACLs
  cases i.config with
  | none => exact h
  | some c =>
    cases i.listed with
    | none => exact h
    | some pods =>
      dsimp only
      generalize aclHashChanged sum256 w.vc c = hashChanged
      have hacts : .createJob .rebalance ∉ pods.flatMap (visitACLPod i hashChanged) := by
        intro hmem
        obtain ⟨pod,-,hmem⟩ := List.mem_flatMap.mp hmem
        unfold visitACLPod at hmem
        split_ifs at hmem
        · cases hmem
        · cases List.mem_singleton.mp hmem
        · cases List.mem_singleton.mp hmem
      split_ifs
      · exact ((h.append hacts).annotate _ _).patch _ _
      · exact h.append hacts

theorem worked (h : Carries P w) {keys : AnnotationKey → Prop} {acts : Event → Prop} {w' : World}
    (hw : Worked keys acts w w') (ha : ¬ acts (.createJob .rebalance)) : Carries P w' := by
  obtain ⟨es,hes,hedit⟩ := hw
  exact (h.append (fun hmem => ha (hes _ hmem))).edit hedit

theorem crashes (h : Carries P w) (i : CrashInput) :
    Carries P (reconcileCrashLoopRecovery i w).1 := by
  unfold reconcileCrashLoopRecovery
  cases i.listed with
  | none => exact h
  | some pods =>
    have hworked : Worked (fun _ => False) Event.IsRecovery w (pods.foldl (CrashScan.visit i) ⟨w, false⟩).world :=
      visits_worked (Worked.refl _ _ w) i (fun _ _ h => h) (fun _ _ _ he => he.isRecovery)
    have hscan := h.worked hworked (fun h => h)
    dsimp only
    split_ifs
    · exact hscan.patch _ _
    · exact hscan

theorem timer (h : Carries P w) (i : TimerInput) : Carries P (clusterNotOKTimedOut i w).2 := by
  unfold clusterNotOKTimedOut
  cases w.vc.annotations .clusterNotOKSince with
  | none =>
    have hpatch := (h.annotate .clusterNotOKSince (some (formatRFC3339 i.now))).patch i.patchOK w.vc
    dsimp only
    split_ifs
    · exact hpatch
    · exact hpatch.annotate _ _
  | some start => exact h

theorem clear (h : Carries P w) (ok : Bool) : Carries P (w |> clearClusterNotOKAnnotation ok) := by
  unfold clearClusterNotOKAnnotation
  split_ifs
  · exact h
  · exact ((h.annotate _ _).annotate _ _).patch _ _

theorem emit (h : Carries P w) {e : Event} (he : e ≠ .createJob .rebalance) : Carries P (w.emit e) :=
  h.append (fun hmem => he (List.mem_singleton.mp hmem).symm)

theorem reset (h : Carries P w) (i : ResetInput) (pods : List Pod) :
    Carries P (resetAllNodes i pods w).1 := by
  unfold resetAllNodes
  split_ifs
  · exact h
  · exact ((h.emit (by rintro ⟨⟩)).annotate _ _).patch _ _

theorem job (h : Carries P w) (i : BootstrapInput) (readyPods : List Pod) :
    Carries P (runBootstrapJob i readyPods w).1 := by
  unfold runBootstrapJob
  have hdelete := h.emit (e := .deleteJob .bootstrap) (by rintro ⟨⟩)
  split
  · split_ifs
    · exact hdelete
    · split
      · split_ifs
        · exact hdelete
        · exact h
      · exact h
  · exact h
  · have hreset := h.reset i.freshReset readyPods
    dsimp only
    split_ifs
    · exact hreset
    · exact hreset.emit (by rintro ⟨⟩)
    · exact hreset

theorem bootstrap (h : Carries P w) (i : BootstrapInput) (readyPods : List Pod) :
    Carries P (reconcileBootstrapJob i readyPods w).1 := by
  unfold reconcileBootstrapJob
  dsimp only
  split_ifs
  · exact h
  · exact h
  · exact h.job i readyPods
  · exact h
  · have htimer := h.timer i.timer
    split
    · next w' heq =>
      rw [heq] at htimer
      exact htimer
    · next w' heq =>
      rw [heq] at htimer
      have hreset := htimer.reset i.staleReset readyPods
      split_ifs
      · exact hreset
      · exact (hreset.clear i.clearOK).job i readyPods
  · exact h

theorem topology (h : Carries P w) (i : TopologyInput) :
    Carries P (reconcileClusterTopology i w).world := by
  rw [reconcileClusterTopology_cases]
  cases clusterView i with
  | unknown => exact h
  | ok =>
    have hclear := (h.emit (e := .clusterOK) (by rintro ⟨⟩)).clear i.clearOK
    have hlabels : Emits (fun e => ∃ pod role, e = .labelPod pod role) _ (syncRoleLabels i.sync i.readyPods
        (w.emit .clusterOK |> clearClusterNotOKAnnotation i.clearOK)).1 :=
      syncRoleLabels_emits (fun pod role => ⟨pod, role, rfl⟩) i.sync i.readyPods _
    exact hclear.emits hlabels (by rintro ⟨pod,role,⟨⟩⟩)
  | failing =>
    dsimp only
    split_ifs
    · exact (h.clear i.timerClearOK).emits (reconcileGossipRecovery_emits i.gossip _) (fun h => h)
    · exact h.timer i.timer
  | unformed => exact h.bootstrap i.bootstrap i.readyPods

theorem nodes (h : Carries P w) (i : HealthInput) (ns : List ClusterNodeState) :
    Carries P (updateStatusNodes i ns w) := by
  unfold updateStatusNodes
  split
  · exact h
  · exact h.same rfl rfl rfl

theorem state (h : Carries P w) (hP : Spares P .clusterDegraded) (i : HealthInput) (clusterState : Text) :
    Carries P (checkClusterState i clusterState w) := by
  unfold checkClusterState
  dsimp only
  split_ifs
  · generalize hset : w.setCondition i.degradedAt _ = degraded
    have hdegraded : Carries P degraded := hset ▸ h.setCondition hP rfl i.degradedAt
    have htimer := hdegraded.timer i.timer
    split
    · next w' heq =>
      rw [heq] at htimer
      exact htimer
    · next w' heq =>
      rw [heq] at htimer
      refine Carries.clear ?_ i.clearOK
      split
      · exact htimer
      · exact htimer.reset i.reset _
  · exact (h.clear i.clearOK).setCondition hP rfl i.degradedAt

theorem forget (h : Carries P w) (i : ForgetInput) (nodes : List ClusterNodeState) :
    Carries P (forgetStaleNodes i nodes w).1 := by
  rw [forgetStaleNodes_eq]
  cases guardedPods w.vc i with
  | none => exact h
  | some pods =>
    have hedit : Edit (fun _ => False) w (staleScan i.now pods nodes w).world :=
      staleScan_edit (fun _ h => h) i.now pods nodes w
    have htrack : Carries P (trackStale i pods nodes w) := by
      unfold trackStale
      dsimp only
      split_ifs
      · exact (h.edit hedit).patch _ _
      · exact h.edit hedit
    have hevents : .createJob .rebalance ∉ forgetEvents i pods nodes w := by
      simp [forgetEvents]
    have hsent := htrack.append hevents
    rw [trackStale_log] at hsent
    exact hsent

theorem health (h : Carries P w) (hdegraded : Spares P .clusterDegraded)
    (hreplicas : Spares P .shardUnderReplicated) (hcolocated : Spares P .shardColocated) (i : HealthInput) :
    Carries P (reconcileClusterHealth i w).1 := by
  unfold reconcileClusterHealth
  split_ifs
  · exact h
  · split
    · exact h.setCondition hdegraded rfl i.degradedAt
    · next reply _ =>
      have hstate := (h.nodes i (parseClusterNodes reply.nodesRaw)).state hdegraded i
        (parseClusterInfoField reply.info "cluster_state".toList)
      have hchecked : Carries P (checkReplication i (parseClusterNodes reply.nodesRaw) _) :=
        hstate.setCondition hreplicas (underReplicatedCondition_type _ _) i.underReplicatedAt
      have hforget := hchecked.forget i.forget (parseClusterNodes reply.nodesRaw)
      dsimp only
      unfold detectShardColocation
      split
      · exact hforget
      · dsimp only
        split <;> exact hforget.setCondition hcolocated rfl i.colocatedAt

theorem phase (h : Carries P w) (phase : Phase) : Carries P (setPhase phase w) := h.same rfl rfl rfl

theorem availability (h : Carries P w) (havailable : Spares P .available) (i : StatusInput) (ready : Int) :
    Carries P (setAvailability i ready w) := by
  unfold setAvailability
  dsimp only
  split_ifs
  · exact h.phase .initializing
  · exact (h.phase .degraded).setCondition havailable rfl i.availableAt
  · exact h.setCondition havailable rfl i.availableAt
  · exact (h.phase .running).setCondition havailable rfl i.availableAt
  · exact h

theorem rolling (h : Carries P w) (hrolling : Spares P .rollingUpdate) (i : StatusInput) (sts : StatefulSetStatus) :
    Carries P (setRollingUpdate i sts w) := by
  unfold setRollingUpdate
  split_ifs
  · exact (h.phase .updating).setCondition hrolling rfl i.rollingAt
  · exact h.setCondition hrolling rfl i.rollingAt

theorem refresh (h : Carries P w) (i : StatusInput) : Carries P (refreshClusterStatus i w) := by
  unfold refreshClusterStatus
  split_ifs
  · exact h
  · split
    · exact h
    · split
      · exact h
      · exact h.same rfl rfl rfl

theorem fill (h : Carries P w) (havailable : Spares P .available) (hrolling : Spares P .rollingUpdate)
    (i : StatusInput) (sts : StatefulSetStatus) : Carries P (fillStatus i sts w) := by
  have hcounted : Carries P (w.setStatus (fun s => { s with
      readyReplicas := sts.readyReplicas
      observedGeneration := w.vc.generation })) := h.same rfl rfl rfl
  have hset := hcounted.availability havailable i sts.readyReplicas
  unfold fillStatus
  dsimp only
  split_ifs
  · exact ((hset.phase .scaling).rolling hrolling i sts).refresh i
  · exact (hset.rolling hrolling i sts).refresh i

theorem update (h : Carries P w) (havailable : Spares P .available) (hrolling : Spares P .rollingUpdate)
    (i : StatusInput) (base : ValkeyCluster) : Carries P (updateStatus i base w).1 := by
  unfold updateStatus
  split
  · exact h
  · exact h
  · next sts _ =>
    have hfill := h.fill havailable hrolling i sts
    have hemit : Carries P ((fillStatus i sts w).emit (.patchStatus (fillStatus i sts w).vc.status)) :=
      hfill.emit (by rintro ⟨⟩)
    unfold World.patchStatus
    dsimp only
    split_ifs
    · have hmerged : P (mergeStatus base.status (fillStatus i sts w).vc.status
          (fillStatus i sts w).stored.status).conditions := by
        unfold mergeStatus MergePatch.field
        dsimp only
        split_ifs
        · exact hfill.stored
        · exact hfill.seen
      exact ⟨hmerged, hmerged, hemit.log⟩
    · exact hemit

end Carries

end ValkeyOperator
