import ValkeyOperator.Health

/-! Steps 9 and 12 of a pass: primaries without slots and pods outside of the cluster
become replicas of the shard that lacks one most. -/

set_option autoImplicit false

namespace ValkeyOperator
open TextScan

def healthyMaster (n : ClusterNodeState) : Bool := hasMaster n.flags && !isFailing n.flags

/-- Fewer replicas win, then the smaller ID. -/
def pickStep (nodes : List ClusterNodeState) (best : Text × Int) (n : ClusterNodeState) :
    Text × Int :=
  if !healthyMaster n || decide (n.slots = []) then best
  else
    let count : Int := replicaCount nodes n.id
    if count < best.2 ∨ (count = best.2 ∧ n.id < best.1) then (n.id, count) else best

def pickMasterForReplica (nodesRaw : Text) (expectedReplicas : Int) : Option Text :=
  let nodes := parseClusterNodes nodesRaw
  let best := nodes.foldl (pickStep nodes) ([], expectedReplicas + 1)
  if best.1 = [] then none else some best.1

/-- `answer` is what each pod replies to CLUSTER NODES. -/
def fetchClusterNodesWithSeed (answer : Pod → Option Text) (pods : List Pod) :
    Option (Text × Pod) :=
  (readyWithIP pods).findSome? (fun pod =>
    match answer pod with
    | none => none
    | some raw => if raw = [] then none else some (raw, pod))

def nodeAddr (vc : ValkeyCluster) (ip : Text) : Text :=
  ip ++ [':'] ++ (toString (effectivePort vc)).toList

def primaryIP (nodesRaw masterID : Text) : Text :=
  match (parseClusterNodes nodesRaw).find? (fun n => n.id = masterID) with
  | none => []
  | some n => n.ip

def peersJSON (addrs : List Text) : Text := ['['] ++ [','].intercalate (addrs.map quoted) ++ [']']

def replicaPayload (vc : ValkeyCluster) (nodesRaw ip : Text) : Text :=
  let peers := (parseClusterNodes nodesRaw).filter (fun n => decide (n.ip ≠ []) && !hasNoaddr n.flags)
  "\x7b\"peers\":".toList ++ peersJSON (peers.map (fun n => nodeAddr vc n.ip)) ++
    ",\"role\":\"replica\",\"primary_addr\":\"".toList ++ nodeAddr vc ip ++ "\"\x7d".toList

def setTopology (reply : Pod → TopologyReply) (pod : Pod) (payload : Text) (w : World) : World :=
  if reply pod = .unreachable then w else w.emit (.topologySet pod payload)

/-- CLUSTER NODES is fetched again for every candidate: `fetch` counts the fetches. -/
structure RolesInput where
  secretOK : Bool
  listed : Option (List Pod)
  fetch : Nat → Pod → Option Text
  info : Text → Option Text
  reply : Pod → TopologyReply

def isUnderReplicated (vc : ValkeyCluster) : Bool :=
  vc.status.conditions.any (fun c => c.type = .shardUnderReplicated && c.status = .true)

/-- A primary with slots among the ready pods, or else the first of them. -/
def stableIP (nodesRaw : Text) (readyPods : List Pod) : Text :=
  let stable := (parseClusterNodes nodesRaw).find? (fun n => hasMaster n.flags &&
    decide (n.slots ≠ []) && readyPods.any (fun pod => pod.podIP = n.ip))
  match stable with
  | some n => n.ip
  | none => (readyPods.head?.map (·.podIP)).getD []

def assignReplicas (i : RolesInput) (readyPods : List Pod) :
    Nat → List ClusterNodeState → World → World
  | _, [], w => w
  | fetched, n :: rest, w =>
    if !healthyMaster n || decide (n.slots ≠ []) then assignReplicas i readyPods fetched rest w
    else
      match readyPods.reverse.find? (fun pod => pod.podIP = n.ip) with
      | none => assignReplicas i readyPods fetched rest w
      | some pod =>
        -- a fetch or a choice that fails ends the loop
        match fetchClusterNodesWithSeed (i.fetch fetched) readyPods with
        | none => w
        | some (nodesRaw, _) =>
          let w := w.emit (.fetchedNodes nodesRaw)
          match pickMasterForReplica nodesRaw w.vc.spec.replicasPerShard with
          | none => w
          | some masterID =>
            let ip := primaryIP nodesRaw masterID
            if ip = [] then assignReplicas i readyPods (fetched + 1) rest w
            else assignReplicas i readyPods (fetched + 1) rest
              (setTopology i.reply pod (replicaPayload w.vc nodesRaw ip) w)

/-- The gate is recorded with all it looks at, each fetch with the view it brings. -/
def reconcileReplicaRoles (i : RolesInput) (w : World) : World × Bool :=
  let w := w.emit (.readUnderReplicated
    (conditionsOf .shardUnderReplicated w.vc.status.conditions))
  if !isUnderReplicated w.vc then (w, false)
  else if !i.secretOK then (w, true)
  else
    match i.listed with
    | none => (w, true)
    | some pods =>
      let readyPods := readyWithIP pods
      if readyPods = [] then (w, false)
      else
        match fetchClusterNodesWithSeed (i.fetch 0) readyPods with
        | none => (w, false)
        | some (nodesRaw, _) =>
          let w := w.emit (.fetchedNodes nodesRaw)
          match i.info (stableIP nodesRaw readyPods) with
          | none => (w, false)
          | some info =>
            if parseClusterInfoInt info "cluster_known_nodes".toList > totalPods w.vc then (w, false)
            else (assignReplicas i readyPods 1 (parseClusterNodes nodesRaw) w, false)

structure OrphanInput where
  secretOK : Bool
  listed : Option (List Pod)
  nodes : Pod → Option Text
  replication : Pod → Option Text
  info : Pod → Option Text
  reply : Pod → TopologyReply

def knownAddrs (nodesRaw : Text) : List (Text × Text) :=
  (lines nodesRaw).filterMap (fun line =>
    match fields line with
    | _ :: addrRaw :: flags :: _ =>
      if hasNoaddr flags then none else some (addrIP addrRaw, addrHostname addrRaw)
    | _ => none)

/-- An INFO text without the field is an error. -/
def getPodClusterRole (info : Option Text) : Option Role :=
  match info with
  | none => none
  | some info =>
    match findField info "role:".toList with
    | none => none
    | some val => if val = "master".toList then some .primary else some .replica

def isOrphan (i : OrphanInput) (vc : ValkeyCluster) (nodesRaw : Text) (pod : Pod) : Bool :=
  let known := (knownAddrs nodesRaw).any (fun a => a.1 = pod.podIP || a.2 = stableDNS vc pod)
  if known then false
  else if getPodClusterRole (i.replication pod) ≠ some .primary then false
  else
    match i.info pod with
    | none => false
    | some info => decide (parseClusterInfoInt info "cluster_known_nodes".toList ≤ 1)

def reintegratePod (i : OrphanInput) (nodesRaw : Text) (pod : Pod) (w : World) : World × Bool :=
  match pickMasterForReplica nodesRaw w.vc.spec.replicasPerShard with
  | none => (w, true)
  | some masterID =>
    let ip := primaryIP nodesRaw masterID
    if ip = [] then (w, true)
    else (setTopology i.reply pod (replicaPayload w.vc nodesRaw ip) w,
      decide (i.reply pod ≠ .reply 1))

def repairOrphan (i : OrphanInput) (nodesRaw : Text) (seed : Pod) (w : World) (pod : Pod) : World :=
  if pod.name = seed.name then w
  else if isOrphan i w.vc nodesRaw pod then (reintegratePod i nodesRaw pod w).1
  else w

def reconcileOrphanReplicas (i : OrphanInput) (w : World) : World × Bool :=
  if !i.secretOK then (w, true)
  else
    match i.listed with
    | none => (w, true)
    | some pods =>
      let runningPods := pods.filter (fun pod =>
        pod.phase = .running && decide (pod.podIP ≠ []) && !pod.deleting)
      match fetchClusterNodesWithSeed i.nodes runningPods with
      | none => (w, false)
      | some (nodesRaw, seed) => (runningPods.foldl (repairOrphan i nodesRaw seed) w, false)

theorem fetchClusterNodesWithSeed_some {answer : Pod → Option Text} {pods : List Pod} {nodesRaw : Text}
    {seed : Pod} (h : fetchClusterNodesWithSeed answer pods = some (nodesRaw, seed)) :
    seed ∈ readyWithIP pods ∧ answer seed = some nodesRaw ∧ nodesRaw ≠ [] := by
  obtain ⟨pod,hpod,hreply⟩ := List.exists_of_findSome?_eq_some h
  cases ha : answer pod with
  | none => simp [ha] at hreply
  | some raw =>
    simp only [ha] at hreply
    split at hreply
    · cases hreply
    · rename_i hne
      cases hreply
      exact ⟨hpod, ha, hne⟩

theorem setTopology_emits (reply : Pod → TopologyReply) (pod : Pod) (payload : Text) (w : World) :
    Emits Event.IsTopologySet w (setTopology reply pod payload w) := by
  unfold setTopology
  split
  · exact Emits.refl _ w
  · exact Emits.emit (e := .topologySet pod payload) trivial w

def Event.IsRoleStep : Event → Prop
  | .topologySet _ _ | .fetchedNodes _ => True
  | _ => False

theorem Event.IsTopologySet.isRoleStep {e : Event} (h : e.IsTopologySet) : e.IsRoleStep := by
  cases e with
  | topologySet pod payload => trivial
  | _ => exact h.elim

theorem assignReplicas_emits (i : RolesInput) (readyPods : List Pod) (fetched : Nat)
    (ns : List ClusterNodeState) (w : World) :
    Emits Event.IsRoleStep w (assignReplicas i readyPods fetched ns w) := by
  induction ns generalizing fetched w with
  | nil => exact Emits.refl _ w
  | cons n rest ih =>
    unfold assignReplicas
    split
    · exact ih fetched w
    · split
      · exact ih fetched w
      · split
        · exact Emits.refl _ w
        · rename_i nodesRaw _ _
          have hfetch : Emits Event.IsRoleStep w (w.emit (.fetchedNodes nodesRaw)) := Emits.emit trivial w
          refine hfetch.trans ?_
          dsimp only
          split
          · exact Emits.refl _ _
          · split
            · exact ih _ _
            · have hset := setTopology_emits i.reply
              exact ((hset _ _ _).mono (fun _ h => h.isRoleStep)).trans (ih _ _)

theorem reconcileReplicaRoles_emits (i : RolesInput) (w : World) :
    Emits Event.IsRoleStep (w.emit (.readUnderReplicated
      (conditionsOf .shardUnderReplicated w.vc.status.conditions))) (reconcileReplicaRoles i w).1 := by
  unfold reconcileReplicaRoles
  dsimp only
  generalize w.emit (.readUnderReplicated _) = v
  split
  · exact Emits.refl _ _
  split
  · exact Emits.refl _ _
  split
  · exact Emits.refl _ _
  split
  · exact Emits.refl _ _
  split
  · exact Emits.refl _ _
  rename_i nodesRaw _ _
  have hfetch : Emits Event.IsRoleStep v (v.emit (.fetchedNodes nodesRaw)) := Emits.emit trivial v
  refine hfetch.trans ?_
  split
  · exact Emits.refl _ _
  split
  · exact Emits.refl _ _
  · exact assignReplicas_emits i _ 1 _ _

theorem repairOrphan_emits (i : OrphanInput) (nodesRaw : Text) (seed : Pod) (w : World) (pod : Pod) :
    Emits Event.IsTopologySet w (repairOrphan i nodesRaw seed w pod) := by
  unfold repairOrphan reintegratePod
  dsimp only
  split
  · exact Emits.refl _ w
  · split
    · split
      · exact Emits.refl _ w
      · split
        · exact Emits.refl _ w
        · exact setTopology_emits i.reply pod _ w
    · exact Emits.refl _ w

theorem reconcileOrphanReplicas_emits (i : OrphanInput) (w : World) :
    Emits Event.IsTopologySet w (reconcileOrphanReplicas i w).1 := by
  have hloop : ∀ (nodesRaw : Text) (seed : Pod) (pods : List Pod) (w : World),
      Emits Event.IsTopologySet w (pods.foldl (repairOrphan i nodesRaw seed) w) := by
    intro nodesRaw seed pods
    induction pods with
    | nil => exact fun w => Emits.refl _ w
    | cons pod pods ih => exact fun w => (repairOrphan_emits i nodesRaw seed w pod).trans (ih _)
  unfold reconcileOrphanReplicas
  split
  · exact Emits.refl _ w
  split
  · exact Emits.refl _ w
  · dsimp only
    split
    · exact Emits.refl _ w
    · exact hloop _ _ _ w

end ValkeyOperator
