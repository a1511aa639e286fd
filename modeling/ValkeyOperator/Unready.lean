import ValkeyOperator.NodeReady
import ValkeyOperator.Reconcile

/-!
Passes that find no pod Ready. The probe of every pod looks at the whole cluster, so trouble in one
shard can leave the operator without a pod to work with.
-/

set_option autoImplicit false

namespace ValkeyOperator
open TextScan

/-- What a pass still does while no pod is Ready. -/
def Event.Preparing (e : Event) : Prop := e.IsACL ∨ e.IsRecovery ∨ ∃ status, e = .patchStatus status

def NoneReady (i : TopologyInput) : Prop :=
  ∀ pods, i.listed = some pods → ∀ pod ∈ pods, isPodReady pod = false

theorem NoneReady.view {i : TopologyInput} (h : NoneReady i) : clusterView i = .unknown := by
  unfold clusterView
  split_ifs
  · rfl
  · cases hpods : i.listed with
    | none => rfl
    | some pods =>
      have hnone : readyWithIP pods = [] := by
        refine List.filter_eq_nil_iff.mpr ?_
        intro pod hpod hcond
        rw [h pods hpods pod hpod] at hcond
        cases hcond
      exact if_pos hnone

theorem idle_pass {i : PassInput} {stored : ValkeyCluster}
    (h : ∀ w : World, w.vc.spec = stored.spec → ∃ err, reconcileClusterTopology i.topology w = ⟨w, false, err⟩)
    (sum256 : Text → Digest) : ∀ e ∈ (reconcile sum256 i stored).world.log, e.Preparing := by
  cases hreach : reachesTopology i stored with
  | false =>
    rw [(reconcile_early sum256 hreach).1]
    exact List.forall_mem_nil _
  | true =>
    have hbefore : Frame (fun _ => False) Event.Preparing (World.start (entryObject stored))
        (beforeTopology sum256 i stored) :=
      beforeTopology_frame sum256 (fun h => h) (fun _ h => h) (fun _ h => .inl h) (fun _ h => .inr (.inl h)) i stored
    have hfixed := (hbefore.fixed rfl).1.trans (entryObject_fixed stored)
    obtain ⟨err,hidle⟩ := h (beforeTopology sum256 i stored) (congrArg (fun f => f.2.2.2.1) hfixed)
    rw [reconcile_reaches sum256 hreach,hidle]
    have hrest : Ends (fun _ => False) Event.Preparing (beforeTopology sum256 i stored) _ :=
      afterTopology_ends (fun status => .inr (.inr ⟨status, rfl⟩)) i (entryObject stored) _ err
    exact (hbefore.trans_ends hrest).log_start

theorem NoneReady.pass {i : PassInput} (h : NoneReady i.topology) (sum256 : Text → Digest) (stored : ValkeyCluster) :
    ∀ e ∈ (reconcile sum256 i stored).world.log, e.Preparing := by
  refine idle_pass (fun w _ => ⟨!i.topology.secretOK || i.topology.listed.isNone, ?_⟩) sum256
  rw [reconcileClusterTopology_cases,h.view]

theorem operatorNodeReady_inv {calls : ReadyCalls} (h : (operatorNodeReady calls).1 = 1) :
    ∃ rinfo entries cinfo, calls.replication = some rinfo ∧ calls.aclList = some entries ∧
      calls.clusterInfo = some cinfo ∧ entries.any (fun entry => entry.any activeAppUser) = true ∧
      ¬ 0 < counter cinfo "cluster_slots_fail".toList ∧
      roleBlocks (parseFieldStr rinfo "role".toList 16) rinfo cinfo = none := by
  obtain ⟨replication,aclList,clusterInfo⟩ := calls
  unfold operatorNodeReady at h
  cases replication with
  | none => cases h
  | some rinfo =>
    dsimp only at h
    split_ifs at h
    · cases h
    · cases aclList with
      | none => cases h
      | some entries =>
        dsimp only at h
        split_ifs at h with hscan
        · cases h
        · rw [Bool.not_eq_true',Bool.not_eq_false] at hscan
          cases clusterInfo with
          | none => cases h
          | some cinfo =>
            dsimp only at h
            split_ifs at h with hfail
            · cases h
            · split at h
              · cases h
              · next hblocks => exact ⟨rinfo, entries, cinfo, rfl, rfl, rfl, hscan, hfail, hblocks⟩

end ValkeyOperator
