import Mathlib.Data.Int.Cast.Defs
import ValkeyOperator.Failover
import ValkeyOperator.Selection

/-! Which replica takes over from a primary: the candidates a CLUSTER NODES text gives,
and the choice among them by replication offset and zone. -/

set_option autoImplicit false

namespace ValkeyOperator
open TextScan

structure PodAssignment where
  podIndex : Int
  preferredValues : List Text
  deriving DecidableEq, Repr

structure TopologySpec where
  nodeTopologyKey : Text
  podAssignments : List PodAssignment
  avoidSameZoneAsFailed : Bool
  electionTopologyWeight : Int
  deriving DecidableEq, Repr

/-- The answers on the way to a choice. `myID`, `nodes` and `replication` are what pods
reply to CLUSTER MYID, CLUSTER NODES and INFO replication, `getPod` is a pod read by its
name and `label` a node's label, empty where the read fails. -/
structure ElectionInput where
  topology : Option TopologySpec
  myID : Pod → Option Text
  listed : Option (List Pod)
  nodes : Pod → Option Text
  replication : Pod → Option Text
  getPod : Text → Option Pod
  label : Text → Text → Text
  arrival : Arrival

def getNodeID (e : ElectionInput) (pod : Pod) : Option Text :=
  (e.myID pod).map (fun id => trimSpace (stripVerbatimPrefix id))

structure ReplicationEntry where
  ip : Text
  hostname : Text
  flags : Text
  masterID : Text
  deriving DecidableEq, Repr

def parseReplicationLine (line : Text) : Option ReplicationEntry :=
  match fields line with
  | _ :: addrRaw :: flags :: masterID :: _ =>
    some ⟨addrIP addrRaw, addrHostname addrRaw, flags, masterID⟩
  | _ => none

def replicationEntries (nodesRaw : Text) : List ReplicationEntry :=
  (lines nodesRaw).filterMap parseReplicationLine

def ReplicationEntry.isSlaveOf (n : ReplicationEntry) (masterID : Text) : Bool :=
  hasSlave n.flags && decide (n.masterID = masterID)

def parseReplicaAddrsForMaster (nodesRaw masterNodeID : Text) : List Text × List Text :=
  let slaves := (replicationEntries nodesRaw).filter (·.isSlaveOf masterNodeID)
  ((slaves.map (·.ip)).filter (fun ip => ip ≠ []),
    (slaves.map (·.hostname)).filter (fun hostname => hostname ≠ []))

/-- The first ready pod that answers decides, even with an empty text. -/
def fetchForElection (e : ElectionInput) (pods : List Pod) : Option Text :=
  match (readyWithIP pods).findSome? e.nodes with
  | none => none
  | some raw => if raw = [] then none else some raw

/-- A pod that can receive the command: readiness is not asked for. -/
def canReceive (primary pod : Pod) : Bool :=
  decide (pod.name ≠ primary.name) && !pod.deleting && decide (pod.podIP ≠ []) &&
    decide (pod.phase = .running)

def isReplicaPod (vc : ValkeyCluster) (nodesRaw masterNodeID : Text) (primary pod : Pod) : Bool :=
  let addrs := parseReplicaAddrsForMaster nodesRaw masterNodeID
  canReceive primary pod &&
    (addrs.1.contains pod.podIP || addrs.2.contains (stableDNS vc pod))

def findReplicaPodsForMaster (e : ElectionInput) (vc : ValkeyCluster) (masterNodeID : Text)
    (primary : Pod) : Option (List Pod) :=
  match e.listed with
  | none => none
  | some pods =>
    match fetchForElection e pods with
    | none => none
    | some nodesRaw => some (pods.filter (isReplicaPod vc nodesRaw masterNodeID primary))

def parseIntField (info field : Text) : Int :=
  match findField info field with
  | none => -1
  | some val => (sscanfInt val).getD (-1)

def getReplicaOffset (reply : Option Text) : Option Int :=
  match reply with
  | none => none
  | some info =>
    let offset := parseIntField info "slave_repl_offset:".toList
    some (if offset < 0 then parseIntField info "master_repl_offset:".toList else offset)

/-- The first of the largest offsets to arrive; -1 and what cannot be read do not count. -/
def lagStep (e : ElectionInput) (best : Option Pod × Int) (pod : Pod) : Option Pod × Int :=
  let offset := (getReplicaOffset (e.replication pod)).getD (-1)
  if offset > best.2 then (some pod, offset) else best

def pickBestReplicaByLag (e : ElectionInput) (candidates : List Pod) : Option Pod :=
  ((e.arrival.order candidates).foldl (lagStep e) (none, -1)).1

structure PodTopologyInfo where
  pod : Pod
  domainValue : Text
  replicaOffset : Int
  deriving DecidableEq, Repr

/-- An offset that cannot be read is zero here. -/
def collectCandidates (e : ElectionInput) (topologyKey : Text) (candidates : List Pod) :
    List PodTopologyInfo :=
  (e.arrival.order candidates).map (fun pod =>
    { pod := pod
      domainValue := if pod.nodeName = [] then [] else e.label pod.nodeName topologyKey
      replicaOffset := (getReplicaOffset (e.replication pod)).getD 0 })

def podTopologyDomain (e : ElectionInput) (podName topologyKey : Text) : Text :=
  match e.getPod podName with
  | none => []
  | some pod => if pod.nodeName = [] then [] else e.label pod.nodeName topologyKey

def podOrdinal (podName clusterName : Text) : Int :=
  match cutPrefix podName (clusterName ++ ['-']) with
  | none => -1
  | some suffix => (sscanfInt suffix).getD (-1)

def preferredZonesForIndex (topo : TopologySpec) (podIndex : Int) : List Text :=
  match topo.podAssignments.find? (fun a => a.podIndex = podIndex) with
  | none => []
  | some a => a.preferredValues

section
variable {F : Type} [IntCast F] [Add F] [Sub F] [Mul F] [Div F] [LT F] [DecidableLT F]

/-- Scores are of type `float64`. Nothing is assumed of its arithmetic. -/
def topologyScore (candidateZone failedZone : Text) (preferredZones : List Text)
    (avoidSameZone : Bool) : F :=
  if avoidSameZone && decide (candidateZone ≠ []) && decide (candidateZone = failedZone) then
    ((0 : Int) : F)
  else if preferredZones.contains candidateZone then ((1 : Int) : F)
  else ((1 : Int) : F) / ((2 : Int) : F)

def candidateScore (topo : TopologySpec) (maxOffset : Int) (failedZone : Text)
    (preferredZones : List Text) (c : PodTopologyInfo) : F :=
  let weight : F := (topo.electionTopologyWeight : F) / ((100 : Int) : F)
  let lagScore : F := if maxOffset > 0 then (c.replicaOffset : F) / (maxOffset : F) else ((1 : Int) : F)
  let topoScore : F := topologyScore c.domainValue failedZone preferredZones topo.avoidSameZoneAsFailed
  (((1 : Int) : F) - weight) * lagScore + weight * topoScore

def scoreStep (score : PodTopologyInfo → F) (best : Option (PodTopologyInfo × F))
    (c : PodTopologyInfo) : Option (PodTopologyInfo × F) :=
  match best with
  | none => some (c, score c)
  | some (b, bestScore) => if bestScore < score c then some (c, score c) else some (b, bestScore)

variable (F) in
def pickBestReplicaTopologyAware (e : ElectionInput) (vc : ValkeyCluster) (topo : TopologySpec)
    (failedPrimaryName : Text) (candidates : List Pod) : Option Pod :=
  let topologyKey :=
    if topo.nodeTopologyKey = [] then "topology.kubernetes.io/zone".toList else topo.nodeTopologyKey
  let failedZone := podTopologyDomain e failedPrimaryName topologyKey
  let infos := collectCandidates e topologyKey candidates
  let maxOffset := infos.foldl (fun m c => if c.replicaOffset > m then c.replicaOffset else m) 0
  let preferredZones := preferredZonesForIndex topo (int32 (podOrdinal failedPrimaryName vc.name))
  let score : PodTopologyInfo → F := candidateScore topo maxOffset failedZone preferredZones
  (infos.foldl (scoreStep score) none).map (·.1.pod)

variable (F) in
def pickBestReplicaForShard (e : ElectionInput) (vc : ValkeyCluster) (primary : Pod) : Option Pod :=
  match getNodeID e primary with
  | none => none
  | some primaryNodeID =>
    match findReplicaPodsForMaster e vc primaryNodeID primary with
    | none => none
    | some replicaPods =>
      if replicaPods = [] then none
      else
        match e.topology with
        | some topo => pickBestReplicaTopologyAware F e vc topo primary.name replicaPods
        | none => pickBestReplicaByLag e replicaPods

theorem pickBestReplicaByLag_mem {e : ElectionInput} {candidates : List Pod} {best : Pod}
    (h : pickBestReplicaByLag e candidates = some best) : best ∈ candidates := by
  have hstep : ∀ (s : Option Pod × Int) (pod : Pod),
      (lagStep e s pod).1 = s.1 ∨ (lagStep e s pod).1 = some pod := by
    intro s pod
    unfold lagStep
    dsimp only
    split
    · exact .inr rfl
    · exact .inl rfl
  rcases Selection.foldl_choice hstep (none, -1) (e.arrival.order candidates)
    with hnone | ⟨pod,hpod,hpick⟩
  · exact absurd (h.symm.trans hnone) (by simp)
  · have heq : some best = some pod := h.symm.trans hpick
    cases heq
    exact (e.arrival.perm candidates).mem_iff.mp hpod

variable (F) in
theorem pickBestReplicaTopologyAware_mem {e : ElectionInput} {vc : ValkeyCluster}
    {topo : TopologySpec} {name : Text} {candidates : List Pod} {best : Pod}
    (h : pickBestReplicaTopologyAware F e vc topo name candidates = some best) :
    best ∈ candidates := by
  have hstep : ∀ (score : PodTopologyInfo → F) (s : Option (PodTopologyInfo × F))
      (c : PodTopologyInfo), (scoreStep score s c).map (·.1.pod) = s.map (·.1.pod) ∨
        (scoreStep score s c).map (·.1.pod) = some c.pod := by
    intro score s c
    unfold scoreStep
    split
    · exact .inr rfl
    · split
      · exact .inr rfl
      · exact .inl rfl
  unfold pickBestReplicaTopologyAware at h
  dsimp only at h
  generalize candidateScore (F := F) topo _ _ _ = score at h
  rcases Selection.foldl_choice (hstep score) none (collectCandidates e _ candidates)
    with hnone | ⟨c,hc,hpick⟩
  · exact absurd (h.symm.trans hnone) (by simp)
  · have heq : some best = some c.pod := h.symm.trans hpick
    cases heq
    obtain ⟨pod,hpod,rfl⟩ := List.mem_map.mp hc
    exact (e.arrival.perm candidates).mem_iff.mp hpod

/-- Whatever the offsets and zones are, the choice is among the pods that the view of the
first answering pod matches. -/
theorem pickBestReplicaForShard_mem {e : ElectionInput} {vc : ValkeyCluster} {primary best : Pod}
    (h : pickBestReplicaForShard F e vc primary = some best) :
    ∃ pods masterID nodesRaw, e.listed = some pods ∧ getNodeID e primary = some masterID ∧
      fetchForElection e pods = some nodesRaw ∧ best ∈ pods ∧
      isReplicaPod vc nodesRaw masterID primary best = true := by
  unfold pickBestReplicaForShard at h
  split at h
  · cases h
  · rename_i masterID hid
    split at h
    · cases h
    · rename_i replicaPods hfind
      have hmem : best ∈ replicaPods := by
        split at h
        · cases h
        · split at h
          · exact pickBestReplicaTopologyAware_mem F h
          · exact pickBestReplicaByLag_mem h
      unfold findReplicaPodsForMaster at hfind
      split at hfind
      · cases hfind
      · rename_i pods hl
        split at hfind
        · cases hfind
        · rename_i nodesRaw hfetch
          cases hfind
          obtain ⟨hpod,hrep⟩ := List.mem_filter.mp hmem
          exact ⟨pods, masterID, nodesRaw, hl, hid, hfetch, hpod, hrep⟩

def electing (F : Type) [IntCast F] [Add F] [Sub F] [Mul F] [Div F] [LT F] [DecidableLT F]
    (i : DrainInput) (e : ElectionInput) (vc : ValkeyCluster) : DrainInput :=
  { i with bestReplica := pickBestReplicaForShard F e vc }

end

def ReplicationEntry.isAt (vc : ValkeyCluster) (pod : Pod) (n : ReplicationEntry) : Bool :=
  decide (n.ip = pod.podIP) || decide (n.hostname = stableDNS vc pod)

theorem stableDNS_ne_nil (vc : ValkeyCluster) (pod : Pod) : stableDNS vc pod ≠ [] := by
  simp [stableDNS]

theorem isReplicaPod_iff (vc : ValkeyCluster) (nodesRaw masterNodeID : Text) (primary pod : Pod) :
    isReplicaPod vc nodesRaw masterNodeID primary pod = true ↔
      canReceive primary pod = true ∧ ∃ n ∈ replicationEntries nodesRaw,
        n.isSlaveOf masterNodeID = true ∧ n.isAt vc pod = true := by
  have hdns := stableDNS_ne_nil vc pod
  simp only [isReplicaPod,parseReplicaAddrsForMaster,Bool.and_eq_true,Bool.or_eq_true,
    List.contains_iff_mem,List.mem_filter,List.mem_map,decide_eq_true_eq,ReplicationEntry.isAt]
  constructor
  · rintro ⟨hrecv,⟨⟨n,⟨hn,hslave⟩,hip⟩,-⟩ | ⟨⟨n,⟨hn,hslave⟩,hhost⟩,-⟩⟩
    · exact ⟨hrecv, n, hn, hslave, .inl hip⟩
    · exact ⟨hrecv, n, hn, hslave, .inr hhost⟩
  · rintro ⟨hrecv,n,hn,hslave,hip | hhost⟩
    · have hne : pod.podIP ≠ [] := by
        simp only [canReceive,Bool.and_eq_true,decide_eq_true_eq] at hrecv
        exact hrecv.1.2
      exact ⟨hrecv, .inl ⟨⟨n, ⟨hn, hslave⟩, hip⟩, hne⟩⟩
    · exact ⟨hrecv, .inr ⟨⟨n, ⟨hn, hslave⟩, hhost⟩, hdns⟩⟩

def liveEntries (nodesRaw : Text) : List ReplicationEntry :=
  (replicationEntries nodesRaw).filter (fun n => !isFailing n.flags)

/-- A live node is at the pod's address, and it belongs to this primary's shard. -/
structure LiveSlave (vc : ValkeyCluster) (nodesRaw masterNodeID : Text) (pod : Pod) : Prop where
  present : ∃ n ∈ liveEntries nodesRaw, n.isAt vc pod = true
  slave : ∀ n ∈ liveEntries nodesRaw, n.isAt vc pod = true → n.isSlaveOf masterNodeID = true

structure RightTarget (vc : ValkeyCluster) (nodesRaw masterNodeID : Text) (primary pod : Pod) :
    Prop where
  running : pod.phase = .running
  stays : pod.deleting = false
  other : pod.name ≠ primary.name
  live : LiveSlave vc nodesRaw masterNodeID pod

def failovers (log : List Event) : List Pod :=
  log.filterMap (fun e => match e with
    | .failover pod => some pod
    | _ => none)

theorem clusterFailover_failovers (i : DrainInput) (primary : Pod) (vc : ValkeyCluster) :
    failovers (clusterFailover i primary (World.start vc)).1.log = [] ∨
      ∃ best, i.bestReplica primary = some best ∧
        failovers (clusterFailover i primary (World.start vc)).1.log = [best] := by
  unfold clusterFailover
  cases hb : i.bestReplica primary with
  | none => exact .inl rfl
  | some best =>
    have hlabel : ∀ w : World,
        failovers ((applyPodRoleLabel .primary best w).emit (.unlabelPod primary)).log = failovers w.log := by
      intro w
      unfold applyPodRoleLabel
      split
      · simp [failovers]
      · simp [failovers]
    dsimp only
    split_ifs
    · exact .inl rfl
    · exact .inl rfl
    · exact .inr ⟨best, rfl, rfl⟩
    · refine .inr ⟨best, rfl, ?_⟩
      rw [hlabel]
      rfl

def offsetOne : Text := "slave_repl_offset:1".toList

def favouring (pod : Pod) (pods : List Pod) (id nodesRaw : Text) : ElectionInput where
  topology := none
  myID := fun _ => some id
  listed := some pods
  nodes := fun _ => some nodesRaw
  replication := fun p => if p = pod then some offsetOne else none
  getPod := fun _ => none
  label := fun _ _ => []
  arrival := Arrival.inOrder

def reachable (pods : List Pod) : DrainInput where
  listed := some pods
  unschedulable := fun _ => some true
  secretOK := true
  bestReplica := fun _ => none
  connects := fun _ => true
  replication := fun _ => none
  failoverOK := fun _ => false
  polled := none

theorem favouring_picks {pod : Pod} {pods candidates : List Pod} {id nodesRaw : Text}
    (h : pod ∈ candidates) :
    pickBestReplicaByLag (favouring pod pods id nodesRaw) candidates = some pod := by
  have hoffset : getReplicaOffset (some offsetOne) = some 1 := by decide +kernel
  have hstep : ∀ (s : Option Pod × Int) (p : Pod),
      lagStep (favouring pod pods id nodesRaw) s p =
        if p = pod then (if 1 > s.2 then (some pod, 1) else s) else if -1 > s.2 then (some p, -1) else s := by
    intro s p
    unfold lagStep favouring
    by_cases hp : p = pod
    · subst hp
      simp [hoffset]
    · simp [hp,getReplicaOffset]
  have hfold : ∀ (l : List Pod) (s : Option Pod × Int), (s = (none, -1) ∧ pod ∈ l) ∨ s = (some pod, 1) →
      l.foldl (lagStep (favouring pod pods id nodesRaw)) s = (some pod, 1) := by
    intro l
    induction l with
    | nil => simp
    | cons p l ih =>
      intro s hs
      rw [List.foldl_cons,hstep]
      apply ih
      rcases hs with ⟨rfl,hmem⟩ | rfl
      · by_cases hp : p = pod
        · simp [hp]
        · left
          simpa [hp,Ne.symm hp] using hmem
      · right
        simp
  unfold pickBestReplicaByLag
  have hall := hfold candidates (none, -1) (.inl ⟨rfl, h⟩)
  have horder : (favouring pod pods id nodesRaw).arrival.order candidates = candidates := rfl
  rw [horder,hall]

section
variable (F : Type) [IntCast F] [Add F] [Sub F] [Mul F] [Div F] [LT F] [DecidableLT F]

theorem favouring_elects {vc : ValkeyCluster} {nodesRaw id : Text} {pods : List Pod}
    {primary pod : Pod} (hpod : pod ∈ pods) (hraw : nodesRaw ≠ []) (hready : readyWithIP pods ≠ [])
    (hrep : isReplicaPod vc nodesRaw (trimSpace (stripVerbatimPrefix id)) primary pod = true) :
    fetchForElection (favouring pod pods id nodesRaw) pods = some nodesRaw ∧
      pickBestReplicaForShard F (favouring pod pods id nodesRaw) vc primary = some pod := by
  have hfetch : fetchForElection (favouring pod pods id nodesRaw) pods = some nodesRaw := by
    unfold fetchForElection
    cases hr : readyWithIP pods with
    | nil => exact absurd hr hready
    | cons first rest => simp [favouring,hraw]
  refine ⟨hfetch, ?_⟩
  have hmem : pod ∈ pods.filter
      (isReplicaPod vc nodesRaw (trimSpace (stripVerbatimPrefix id)) primary) :=
    List.mem_filter.mpr ⟨hpod, hrep⟩
  have hfind : findReplicaPodsForMaster (favouring pod pods id nodesRaw) vc
      (trimSpace (stripVerbatimPrefix id)) primary = some (pods.filter
        (isReplicaPod vc nodesRaw (trimSpace (stripVerbatimPrefix id)) primary)) := by
    unfold findReplicaPodsForMaster
    have hl : (favouring pod pods id nodesRaw).listed = some pods := rfl
    simp only [hl,hfetch]
  have hid : getNodeID (favouring pod pods id nodesRaw) primary =
      some (trimSpace (stripVerbatimPrefix id)) := rfl
  have htopo : (favouring pod pods id nodesRaw).topology = none := rfl
  unfold pickBestReplicaForShard
  simp only [hid,hfind,if_neg (List.ne_nil_of_mem hmem),htopo]
  exact favouring_picks hmem

/-- Over all answers with this pod list and this view, CLUSTER FAILOVER goes to a live
replica of the drained primary exactly when no pod is matched by an entry of its replicas
without being one. -/
theorem failover_target_iff (vc : ValkeyCluster) (nodesRaw id : Text) (pods : List Pod)
    (primary : Pod) :
    (∀ (e : ElectionInput) (i : DrainInput) (pod : Pod), e.listed = some pods →
        e.myID primary = some id → fetchForElection e pods = some nodesRaw →
        pod ∈ failovers (clusterFailover (electing F i e vc) primary (World.start vc)).1.log →
        RightTarget vc nodesRaw (trimSpace (stripVerbatimPrefix id)) primary pod) ↔
      readyWithIP pods = [] ∨ ∀ pod ∈ pods, canReceive primary pod = true →
        ∀ n ∈ replicationEntries nodesRaw,
          n.isSlaveOf (trimSpace (stripVerbatimPrefix id)) = true → n.isAt vc pod = true →
          LiveSlave vc nodesRaw (trimSpace (stripVerbatimPrefix id)) pod := by
  constructor
  · intro h
    by_cases hready : readyWithIP pods = []
    · exact .inl hready
    · refine .inr (fun pod hpod hrecv n hn hslave hat => ?_)
      have hraw : nodesRaw ≠ [] := by
        have hempty : replicationEntries [] = [] := by decide
        rintro rfl
        simp [hempty] at hn
      have hrep := (isReplicaPod_iff vc nodesRaw _ primary pod).mpr ⟨hrecv, n, hn, hslave, hat⟩
      -- some answers make the matched pod the choice, so that the command goes to it
      obtain ⟨hfetch,hpick⟩ := favouring_elects F hpod hraw hready hrep
      have hsent : pod ∈ failovers (clusterFailover
          (electing F (reachable pods) (favouring pod pods id nodesRaw) vc) primary
          (World.start vc)).1.log := by
        simp [clusterFailover,electing,reachable,getPodClusterRole,hpick,failovers]
      exact (h _ (reachable pods) pod rfl rfl hfetch hsent).live
  · rintro (hready | h) e i pod hl hid hfetch hsent
    · simp [fetchForElection,hready] at hfetch
    · obtain ⟨best,hpick,hone⟩ := (clusterFailover_failovers (electing F i e vc) primary vc).resolve_left
        (List.ne_nil_of_mem hsent)
      rw [hone,List.mem_singleton] at hsent
      subst hsent
      obtain ⟨pods',m,raw,hl',hid',hfetch',hpod,hrep⟩ := pickBestReplicaForShard_mem hpick
      rw [hl] at hl'
      cases hl'
      rw [hfetch] at hfetch'
      cases hfetch'
      have hm : m = trimSpace (stripVerbatimPrefix id) := by
        simpa [getNodeID,hid] using hid'.symm
      subst hm
      obtain ⟨hrecv,n,hn,hslave,hat⟩ := (isReplicaPod_iff vc nodesRaw _ primary pod).mp hrep
      have hlive := h pod hpod hrecv n hn hslave hat
      simp only [canReceive,Bool.and_eq_true,decide_eq_true_eq,Bool.not_eq_true'] at hrecv
      exact ⟨hrecv.2, hrecv.1.1.2, hrecv.1.1.1, hlive⟩

end

def reusedAddress : Text :=
  entryText '1' '1' "myself,master" ['-'] " 0-8191" ++
    entryText '2' '2' "master" ['-'] " 8192-16383" ++
    entryText '3' '3' "slave" (nodeID '2') "" ++ entryText '4' '3' "slave,fail" (nodeID '1') ""

theorem failover_wrong_shard :
    ((liveEntries reusedAddress).map (·.ip)).Nodup ∧
    ((liveEntries reusedAddress).map (·.hostname)).Nodup ∧
    failovers (clusterFailover (electing Int (reachable threePods)
        (favouring (readyPod '3') threePods (nodeID '1') reusedAddress) (threeShards (fun _ => none)))
      (readyPod '1') (World.start (threeShards (fun _ => none)))).1.log = [readyPod '3'] ∧
    (liveEntries reusedAddress).filter (·.isAt (threeShards (fun _ => none)) (readyPod '3')) =
      [⟨"10.0.0.3".toList, announcedHostname '3', "slave".toList, nodeID '2'⟩] := by
  decide +kernel

end ValkeyOperator
