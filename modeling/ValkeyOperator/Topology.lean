import ValkeyOperator.Bootstrap
import ValkeyOperator.ClusterText

/-! Step 7 of a pass: what state the cluster is in and which repair that calls for. -/

set_option autoImplicit false

namespace ValkeyOperator
open TextScan

structure InfoResult where
  state : Text
  slots : Int
  deriving DecidableEq, Repr

/-- A pod that cannot be queried sends the zero result. -/
def infoResult : Option Text → InfoResult
  | none => ⟨[], 0⟩
  | some info => ⟨parseClusterInfoField info "cluster_state".toList,
      parseClusterInfoInt info "cluster_slots_assigned".toList⟩

structure Best where
  state : Text
  slots : Int
  responded : Nat
  deriving DecidableEq, Repr

def Best.receive (best : Best) (r : InfoResult) : Best :=
  if r.slots = 0 ∧ r.state = [] then best
  else if r.slots > best.slots ∨ (r.slots = best.slots ∧ r.state = "ok".toList) then
    ⟨r.state, r.slots, best.responded + 1⟩
  else { best with responded := best.responded + 1 }

def queryClusterInfo (reply : Pod → Option Text) (arrival : Arrival) (pods : List Pod) :
    Option InfoResult :=
  let results := (arrival.order pods).map (fun pod => infoResult (reply pod))
  let best := results.foldl Best.receive ⟨[], 0, 0⟩
  if best.responded = 0 then none else some ⟨best.state, best.slots⟩

structure SyncInput where
  nodes : Pod → Option Text
  patchOK : Pod → Bool

def convergedView (i : SyncInput) (expectedNodes : Int) (pods : List Pod) : Option Text :=
  pods.findSome? (fun seed =>
    match i.nodes seed with
    | none => none
    | some raw =>
      let knownNodes := ((raw.splitOn '\n').filter (fun line => trimSpace line ≠ [])).length
      if (knownNodes : Int) < expectedNodes then none else some raw)

def syncedRole (vc : ValkeyCluster) (entries : List NodeRoleEntry) (pod : Pod) : Option Role :=
  match ipToRole entries pod.podIP with
  | some role => some role
  | none => if pod.podIP = [] then hostnameToRole entries (stableDNS vc pod) else none

/-- A pod that carries the label already is not patched. -/
def applyPodRoleLabel (role : Role) (pod : Pod) (w : World) : World :=
  if pod.roleLabel = some role then w else w.emit (.labelPod pod role)

def labelStep (i : SyncInput) (vc : ValkeyCluster) (entries : List NodeRoleEntry)
    (acc : World × Bool) (pod : Pod) : World × Bool :=
  match syncedRole vc entries pod with
  | none => acc
  | some role =>
    let failed := pod.roleLabel ≠ some role && !i.patchOK pod
    (applyPodRoleLabel role pod acc.1, acc.2 || failed)

/-- The second component is whether an error is returned. -/
def syncRoleLabels (i : SyncInput) (pods : List Pod) (w : World) : World × Bool :=
  if pods = [] then (w, false)
  else
    match convergedView i (totalPods w.vc) pods with
    | none => (w, true)
    | some [] => (w, true)
    | some nodesRaw => pods.foldl (labelStep i w.vc (parseNodeRoles nodesRaw)) (w, false)

inductive TopologyReply where
  | unreachable
  | failed
  | reply : Int → TopologyReply
  deriving DecidableEq, Repr

def podAddr (vc : ValkeyCluster) (pod : Pod) : Text :=
  pod.podIP ++ [':'] ++ (toString (effectivePort vc)).toList

/-- `%q` of an address, which has nothing to escape. -/
def quoted (s : Text) : Text := ['"'] ++ s ++ ['"']

def buildGossipPeersJSON (vc : ValkeyCluster) (pods : List Pod) : Text :=
  ['['] ++ [','].intercalate (pods.map (fun pod => quoted (podAddr vc pod))) ++ [']']

structure GossipInput where
  listed : Option (List Pod)
  reply : Pod → TopologyReply

def gossipPayload (vc : ValkeyCluster) (pods : List Pod) : Text :=
  "\x7b\"peers\":".toList ++ buildGossipPeersJSON vc pods ++ ",\"role\":\"primary\"\x7d".toList

/-- The payload is built once and pushed to every pod that can be reached. -/
def pushTopology (reply : Pod → TopologyReply) (payload : Text) (pods : List Pod) (w : World) :
    World :=
  pods.foldl (fun w pod => if reply pod = .unreachable then w else w.emit (.topologySet pod payload)) w

def reconcileGossipRecovery (i : GossipInput) (w : World) : World × Bool :=
  match i.listed with
  | none => (w, true)
  | some pods =>
    let runningPods := pods.filter (fun pod =>
      pod.phase = .running && decide (pod.podIP ≠ []) && !pod.deleting)
    if runningPods = [] then (w, false)
    else (pushTopology i.reply (gossipPayload w.vc runningPods) runningPods w,
      runningPods.all (fun pod => i.reply pod ≠ .reply 1))

structure TopologyInput where
  secretOK : Bool
  listed : Option (List Pod)
  info : Pod → Option Text
  arrival : Arrival
  clearOK : Bool
  sync : SyncInput
  timer : TimerInput
  timerClearOK : Bool
  gossip : GossipInput
  bootstrap : BootstrapInput

structure TopologyResult where
  world : World
  isBootstrapped : Bool
  err : Bool

def reconcileClusterTopology (i : TopologyInput) (w : World) : TopologyResult :=
  if !i.secretOK then ⟨w, false, true⟩
  else
    match i.listed with
    | none => ⟨w, false, true⟩
    | some podList =>
      let readyPods := readyWithIP podList
      if readyPods = [] then ⟨w, false, false⟩
      else
        let runBootstrap : TopologyResult :=
          let (w, err) := reconcileBootstrapJob i.bootstrap readyPods w
          ⟨w, false, err⟩
        match queryClusterInfo i.info i.arrival readyPods with
        | none => runBootstrap
        | some best =>
          if best.slots > 0 ∧ best.state = "ok".toList then
            let w := clearClusterNotOKAnnotation i.clearOK (w.emit .clusterOK)
            ⟨(syncRoleLabels i.sync readyPods w).1, true, false⟩
          else if best.slots > 0 ∧ best.state = "fail".toList then
            match clusterNotOKTimedOut i.timer w with
            | (true, w) =>
              let (w, err) := reconcileGossipRecovery i.gossip
                (w |> clearClusterNotOKAnnotation i.timerClearOK)
              ⟨w, false, err⟩
            | (false, w) => ⟨w, false, false⟩
          else runBootstrap

/-- What the collecting loop keeps: no fewer slots than any reply, and with
slots a state that some reply gave. -/
structure Best.Sane (b : Best) : Prop where
  slots : 0 ≤ b.slots
  state : 0 < b.slots → b.state = "ok".toList ∨ b.state = "fail".toList
  responded : 0 < b.slots → 0 < b.responded

/-- A pod that answers has state ok or fail; one that does not sends the zero result. -/
def InfoResult.Valid (r : InfoResult) : Prop :=
  r = ⟨[], 0⟩ ∨ r.state = "ok".toList ∨ r.state = "fail".toList

instance (r : InfoResult) : Decidable r.Valid := inferInstanceAs (Decidable (_ ∨ _ ∨ _))

theorem Best.Sane.receive {b : Best} (hb : b.Sane) {r : InfoResult} (hr : r.Valid) :
    (b.receive r).Sane ∧ b.slots ≤ (b.receive r).slots ∧ r.slots ≤ (b.receive r).slots := by
  have h0 := hb.slots
  unfold Best.receive
  split_ifs with hzero hbetter
  · exact ⟨hb, Int.le_refl _, by omega⟩
  -- a result that is taken over is not the zero result
  · have hstate : r.state = "ok".toList ∨ r.state = "fail".toList := by
      rcases hr with rfl | hr
      · exact absurd ⟨rfl,rfl⟩ hzero
      · exact hr
    refine ⟨⟨?_, fun _ => hstate, fun _ => Nat.succ_pos _⟩, ?_, Int.le_refl _⟩
    · rcases hbetter with h | ⟨h,-⟩ <;> dsimp only <;> omega
    · rcases hbetter with h | ⟨h,-⟩ <;> dsimp only <;> omega
  · refine ⟨⟨h0, hb.state, fun _ => Nat.succ_pos _⟩, Int.le_refl _, ?_⟩
    have hnot : ¬ r.slots > b.slots := fun h => hbetter (.inl h)
    dsimp only
    omega

theorem Best.Sane.foldl {b : Best} (hb : b.Sane) {rs : List InfoResult} (hrs : ∀ r ∈ rs, r.Valid) :
    (rs.foldl Best.receive b).Sane ∧ b.slots ≤ (rs.foldl Best.receive b).slots ∧
      ∀ r ∈ rs, r.slots ≤ (rs.foldl Best.receive b).slots := by
  induction rs generalizing b with
  | nil => exact ⟨hb, Int.le_refl _, by simp⟩
  | cons r rs ih =>
    obtain ⟨hstep,hmono,hr⟩ := hb.receive (hrs r (by simp))
    obtain ⟨hsane,hle,hall⟩ := ih hstep (fun s hs => hrs s (by simp [hs]))
    refine ⟨hsane, Int.le_trans hmono hle, ?_⟩
    intro s hs
    rcases List.mem_cons.mp hs with rfl | hs
    · exact Int.le_trans hr hle
    · exact hall s hs

/-- One pod with slots decides that the cluster is formed, in every order of arrival. -/
theorem queryClusterInfo_formed {reply : Pod → Option Text} (arrival : Arrival) {pods : List Pod}
    (hvalid : ∀ pod ∈ pods, (infoResult (reply pod)).Valid)
    (hslots : ∃ pod ∈ pods, 0 < (infoResult (reply pod)).slots) :
    ∃ best, queryClusterInfo reply arrival pods = some best ∧ 0 < best.slots ∧
      (best.state = "ok".toList ∨ best.state = "fail".toList) := by
  have hmem : ∀ pod, pod ∈ arrival.order pods ↔ pod ∈ pods :=
    fun pod => (arrival.perm pods).mem_iff
  have hstart : (⟨[], 0, 0⟩ : Best).Sane :=
    ⟨Int.le_refl _, fun h => absurd h (by decide), fun h => absurd h (by decide)⟩
  have hrs : ∀ r ∈ (arrival.order pods).map (fun pod => infoResult (reply pod)), r.Valid := by
    intro r hr
    obtain ⟨pod,hpod,rfl⟩ := List.mem_map.mp hr
    exact hvalid pod ((hmem pod).mp hpod)
  obtain ⟨hsane,-,hall⟩ := hstart.foldl hrs
  obtain ⟨pod,hpod,hpos⟩ := hslots
  have hle := hall _ (List.mem_map_of_mem ((hmem pod).mpr hpod))
  have hbest := Int.lt_of_lt_of_le hpos hle
  have hresp := hsane.responded hbest
  unfold queryClusterInfo
  dsimp only
  rw [if_neg (by omega)]
  exact ⟨_, rfl, hbest, hsane.state hbest⟩

theorem applyPodRoleLabel_emits {acts : Event → Prop} (ha : ∀ pod role, acts (.labelPod pod role))
    (role : Role) (pod : Pod) (w : World) : Emits acts w (applyPodRoleLabel role pod w) := by
  unfold applyPodRoleLabel
  split
  · exact Emits.refl acts w
  · exact Emits.emit (ha pod role) w

theorem labelSteps_emits {acts : Event → Prop} (ha : ∀ pod role, acts (.labelPod pod role))
    (i : SyncInput) (vc : ValkeyCluster) (entries : List NodeRoleEntry) (pods : List Pod)
    (acc : World × Bool) : Emits acts acc.1 (pods.foldl (labelStep i vc entries) acc).1 := by
  induction pods generalizing acc with
  | nil => exact Emits.refl acts acc.1
  | cons pod pods ih =>
    have hstep : Emits acts acc.1 (labelStep i vc entries acc pod).1 := by
      unfold labelStep
      split
      · exact Emits.refl acts acc.1
      · exact applyPodRoleLabel_emits ha _ pod acc.1
    exact hstep.trans (ih _)

theorem syncRoleLabels_emits {acts : Event → Prop} (ha : ∀ pod role, acts (.labelPod pod role))
    (i : SyncInput) (pods : List Pod) (w : World) : Emits acts w (syncRoleLabels i pods w).1 := by
  unfold syncRoleLabels
  split
  · exact Emits.refl acts w
  split
  · exact Emits.refl acts w
  · exact Emits.refl acts w
  · exact labelSteps_emits ha i w.vc _ pods (w, false)

def Event.IsTopologySet : Event → Prop
  | .topologySet _ _ => True
  | _ => False

theorem pushTopology_emits (reply : Pod → TopologyReply) (payload : Text) (pods : List Pod)
    (w : World) : Emits Event.IsTopologySet w (pushTopology reply payload pods w) := by
  induction pods generalizing w with
  | nil => exact Emits.refl _ w
  | cons pod pods ih =>
    unfold pushTopology
    rw [List.foldl_cons]
    split
    · exact ih w
    · exact (Emits.emit (e := .topologySet pod payload) trivial w).trans (ih _)

theorem reconcileGossipRecovery_emits (i : GossipInput) (w : World) :
    Emits Event.IsTopologySet w (reconcileGossipRecovery i w).1 := by
  unfold reconcileGossipRecovery
  split
  · exact Emits.refl _ w
  · dsimp only
    split
    · exact Emits.refl _ w
    · exact pushTopology_emits i.reply _ _ w

inductive ClusterView where
  | unknown
  | ok
  | failing
  | unformed
  deriving DecidableEq, Repr

def clusterView (i : TopologyInput) : ClusterView :=
  if !i.secretOK then .unknown
  else
    match i.listed with
    | none => .unknown
    | some podList =>
      if readyWithIP podList = [] then .unknown
      else
        match queryClusterInfo i.info i.arrival (readyWithIP podList) with
        | none => .unformed
        | some best =>
          if best.slots > 0 ∧ best.state = "ok".toList then .ok
          else if best.slots > 0 ∧ best.state = "fail".toList then .failing
          else .unformed

def TopologyInput.readyPods (i : TopologyInput) : List Pod := readyWithIP (i.listed.getD [])

theorem reconcileClusterTopology_cases (i : TopologyInput) (w : World) :
    reconcileClusterTopology i w =
      match clusterView i with
      | .unknown => ⟨w, false, !i.secretOK || i.listed.isNone⟩
      | .ok => ⟨(syncRoleLabels i.sync i.readyPods
          (w.emit .clusterOK |> clearClusterNotOKAnnotation i.clearOK)).1, true, false⟩
      | .failing =>
        if notOKExpired w.vc i.timer.now then
          let r := reconcileGossipRecovery i.gossip (w |> clearClusterNotOKAnnotation i.timerClearOK)
          ⟨r.1, false, r.2⟩
        else ⟨(clusterNotOKTimedOut i.timer w).2, false, false⟩
      | .unformed =>
        let r := reconcileBootstrapJob i.bootstrap i.readyPods w
        ⟨r.1, false, r.2⟩ := by
  unfold reconcileClusterTopology clusterView TopologyInput.readyPods
  cases hs : i.secretOK with
  | false => simp
  | true =>
    cases hl : i.listed with
    | none => simp
    | some podList =>
      by_cases hr : readyWithIP podList = []
      · simp [hr]
      · simp only [hr,Bool.not_true,Bool.false_eq_true,if_false,Option.getD_some]
        cases hq : queryClusterInfo i.info i.arrival (readyWithIP podList) with
        | none => rfl
        | some best =>
          by_cases hok : best.slots > 0 ∧ best.state = "ok".toList
          · simp only [if_pos hok]
          · by_cases hfail : best.slots > 0 ∧ best.state = "fail".toList
            · simp only [if_neg hok,if_pos hfail]
              cases hexp : notOKExpired w.vc i.timer.now with
              | true => simp [clusterNotOKTimedOut_expired hexp]
              | false =>
                rw [clusterNotOKTimedOut_waits hexp]
                rfl
            · simp only [if_neg hok,if_neg hfail]

end ValkeyOperator
