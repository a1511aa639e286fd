import ValkeyOperator.Repair

/-! Steps 10 and 14 of a pass: the primary role leaves a node that is being drained, and
slots move between shards of unequal size. -/

set_option autoImplicit false

namespace ValkeyOperator
open TextScan

/-- `bestReplica` is what the choice among the shard's replicas comes to,
`polled` the CLUSTER NODES text that is to confirm the failover. -/
structure DrainInput where
  listed : Option (List Pod)
  unschedulable : Text → Option Bool
  secretOK : Bool
  bestReplica : Pod → Option Pod
  connects : Pod → Bool
  replication : Pod → Option Text
  failoverOK : Pod → Bool
  polled : Option Text

def failoverConfirmed (i : DrainInput) (vc : ValkeyCluster) (newPrimary : Pod) : Bool :=
  match i.polled with
  | none => false
  | some nodesRaw =>
    let entry := (parseNodeRoles nodesRaw).find? (fun e => e.ip = newPrimary.podIP ||
      (decide (e.hostname ≠ []) && decide (e.hostname = stableDNS vc newPrimary)))
    match entry with
    | none => false
    | some e => decide (e.role = .primary)

/-- The second component is whether an error is returned. -/
def clusterFailover (i : DrainInput) (primary : Pod) (w : World) : World × Bool :=
  match i.bestReplica primary with
  | none => (w, true)
  | some best =>
    if !i.connects best then (w, true)
    else if getPodClusterRole (i.replication best) = some .primary then (w, false)
    else
      let w := w.emit (.failover best)
      if !i.failoverOK best || !failoverConfirmed i w.vc best then (w, true)
      else ((applyPodRoleLabel .primary best w).emit (.unlabelPod primary), false)

def onDrainedNode (i : DrainInput) (pod : Pod) : Bool :=
  pod.roleLabel = some .primary && !pod.deleting && decide (pod.nodeName ≠ []) &&
    i.unschedulable pod.nodeName = some true

inductive DrainResult where
  | nothing | requeued | err
  deriving DecidableEq, Repr

def reconcileNodeDrainFailover (i : DrainInput) (w : World) : World × DrainResult :=
  match i.listed with
  | none => (w, .err)
  | some pods =>
    match pods.find? (onDrainedNode i) with
    | none => (w, .nothing)
    | some pod =>
      if !i.secretOK then (w, .err)
      else
        let (w, err) := clusterFailover i pod w
        (w, if err then .err else .requeued)

def failoverSucceeds (i : DrainInput) (vc : ValkeyCluster) (primary : Pod) : Bool :=
  match i.bestReplica primary with
  | none => false
  | some best => i.connects best && (decide (getPodClusterRole (i.replication best) = some .primary) ||
      (i.failoverOK best && failoverConfirmed i vc best))

def drainRequeues (i : DrainInput) (vc : ValkeyCluster) : Bool :=
  match i.listed with
  | none => false
  | some pods =>
    match pods.find? (onDrainedNode i) with
    | none => false
    | some pod => i.secretOK && failoverSucceeds i vc pod

theorem clusterFailover_err (i : DrainInput) (primary : Pod) (w : World) :
    (clusterFailover i primary w).2 = !failoverSucceeds i w.vc primary := by
  unfold clusterFailover failoverSucceeds
  cases i.bestReplica primary with
  | none => rfl
  | some best =>
    cases hc : i.connects best with
    | false => simp [hc]
    | true =>
      by_cases hr : getPodClusterRole (i.replication best) = some .primary
      · simp [hc,hr]
      · cases hf : i.failoverOK best <;> cases hd : failoverConfirmed i w.vc best <;> simp [hc,hr,hf,hd]

theorem reconcileNodeDrainFailover_requeued (i : DrainInput) (w : World) :
    (reconcileNodeDrainFailover i w).2 = .requeued ↔ drainRequeues i w.vc = true := by
  unfold reconcileNodeDrainFailover drainRequeues
  cases i.listed with
  | none => simp
  | some pods =>
    cases hp : pods.find? (onDrainedNode i) with
    | none => simp [hp]
    | some pod =>
      have herr := clusterFailover_err i pod w
      cases hs : i.secretOK <;> cases hf : failoverSucceeds i w.vc pod <;> simp [hp,hf,herr]

inductive RebalanceJob where
  | notFound
  | failed
  | found : (completed : Bool) → (succeeded failures : Int) → RebalanceJob
  deriving DecidableEq, Repr

inductive CreateResult where
  | created | alreadyExists | failed
  deriving DecidableEq, Repr

/-- `deleteOK` also holds when the Job is gone already. -/
structure RebalanceInput where
  job : RebalanceJob
  deleteOK : Bool
  listed : Option (List Pod)
  create : CreateResult

def isImbalanced (vc : ValkeyCluster) : Bool :=
  vc.status.conditions.any (fun c => c.type = .shardImbalanced && c.status = .true)

def deleteRebalanceJob (i : RebalanceInput) (w : World) : World × Bool :=
  if i.deleteOK then (w.emit (.deleteJob .rebalance), false) else (w, true)

def reconcileRebalance (i : RebalanceInput) (w : World) : World × Bool :=
  if !isImbalanced w.vc then (w, false)
  else
    match i.job with
    | .failed => (w, true)
    | .found completed succeeded failures =>
      if !completed && decide (succeeded = 0) && decide (failures = 0) then (w, false)
      else if completed then deleteRebalanceJob i w
      else if failures > 0 then deleteRebalanceJob i w
      else (w, false)
    | .notFound =>
      match i.listed with
      | none => (w, true)
      | some pods =>
        if !(readyWithIP pods).any (fun pod => w.vc.status.podRoles pod.name = some .primary) then
          (w, false)
        else
          match i.create with
          | .created => (w.emit (.createJob .rebalance), false)
          | .alreadyExists => (w, false)
          | .failed => (w, true)

def Event.IsFailover : Event → Prop
  | .failover _ => True
  | .labelPod _ _ => True
  | .unlabelPod _ => True
  | _ => False

def Event.IsRebalance : Event → Prop
  | .createJob .rebalance => True
  | .deleteJob .rebalance => True
  | _ => False

theorem clusterFailover_emits (i : DrainInput) (primary : Pod) (w : World) :
    Emits Event.IsFailover w (clusterFailover i primary w).1 := by
  unfold clusterFailover
  split
  · exact Emits.refl _ w
  · rename_i best _
    have hsent : Emits Event.IsFailover w (w.emit (.failover best)) :=
      Emits.emit (e := .failover best) trivial w
    split
    · exact Emits.refl _ w
    split
    · exact Emits.refl _ w
    dsimp only
    split
    · exact hsent
    · exact (hsent.trans (applyPodRoleLabel_emits (fun _ _ => trivial) .primary best _)).trans
        (Emits.emit (e := .unlabelPod primary) trivial _)

theorem reconcileNodeDrainFailover_emits (i : DrainInput) (w : World) :
    Emits Event.IsFailover w (reconcileNodeDrainFailover i w).1 := by
  unfold reconcileNodeDrainFailover
  split
  · exact Emits.refl _ w
  split
  · exact Emits.refl _ w
  split
  · exact Emits.refl _ w
  · exact clusterFailover_emits i _ w

theorem deleteRebalanceJob_emits (i : RebalanceInput) (w : World) :
    Emits Event.IsRebalance w (deleteRebalanceJob i w).1 := by
  unfold deleteRebalanceJob
  split
  · exact Emits.emit (e := .deleteJob .rebalance) trivial w
  · exact Emits.refl _ w

theorem reconcileRebalance_emits (i : RebalanceInput) (w : World) :
    Emits Event.IsRebalance w (reconcileRebalance i w).1 := by
  have hdelete := deleteRebalanceJob_emits i w
  unfold reconcileRebalance
  split
  · exact Emits.refl _ w
  split
  · exact Emits.refl _ w
  · split_ifs
    · exact Emits.refl _ w
    · exact hdelete
    · exact hdelete
    · exact Emits.refl _ w
  · split
    · exact Emits.refl _ w
    split
    · exact Emits.refl _ w
    split
    · exact Emits.emit (e := .createJob .rebalance) trivial w
    · exact Emits.refl _ w
    · exact Emits.refl _ w

end ValkeyOperator
