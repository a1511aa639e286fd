import Mathlib.Data.Finset.Card
import ValkeyOperator.Election

/-!
Step 10 from pass to pass while the same nodes stay cordoned: how often the primary
role can move.
-/

set_option autoImplicit false

namespace ValkeyOperator
open TextScan

/-- The master of each pod, by name; a primary has none. -/
abbrev Roles := Text → Option Text

/-- CLUSTER FAILOVER that succeeds: the replica takes the place of its master, which
follows it now together with its other replicas. -/
def Roles.failover (roles : Roles) (best : Text) : Roles :=
  match roles best with
  | none => roles
  | some master => fun name =>
    if name = best then none
    else if name = master ∨ roles name = some master then some best
    else roles name

/-- Where the pods are and which nodes are cordoned. -/
structure Placement where
  names : Finset Text
  node : Text → Text
  unschedulable : Text → Bool

def Placement.cordoned (p : Placement) (name : Text) : Bool := p.unschedulable (p.node name)

def Placement.exposed (p : Placement) (roles : Roles) : Finset Text :=
  p.names.filter (fun name => roles name = none ∧ p.cordoned name = true)

structure DrainPass where
  vc : ValkeyCluster
  input : DrainInput
  election : ElectionInput

def DrainPass.draining (p : DrainPass) : Option Pod :=
  (p.input.listed.getD []).find? (onDrainedNode p.input)

structure DrainRecord where
  sent : List Pod
  before : Roles
  after : Roles

section
variable (F : Type) [IntCast F] [Add F] [Sub F] [Mul F] [Div F] [LT F] [DecidableLT F]

def drainPass (roles : Roles) (p : DrainPass) : Roles × DrainRecord :=
  let sent := failovers (reconcileNodeDrainFailover (electing F p.input p.election p.vc)
    (World.start p.vc)).1.log
  let after := sent.foldl (fun roles pod => roles.failover pod.name) roles
  (after, ⟨sent, roles, after⟩)

end

/-- The pods are where they were, the same nodes are cordoned, and the labels say what
the roles are. -/
structure Follows (placement : Placement) (roles : Roles) (p : DrainPass) : Prop where
  placed : ∀ pods, p.input.listed = some pods →
    ∀ pod ∈ pods, pod.name ∈ placement.names ∧ pod.nodeName = placement.node pod.name
  elected : ∀ pods, p.election.listed = some pods → ∀ pod ∈ pods, pod.name ∈ placement.names
  nodes : ∀ node b, p.input.unschedulable node = some b → b = placement.unschedulable node
  labels : ∀ pods, p.input.listed = some pods →
    ∀ pod ∈ pods, pod.roleLabel = some .primary → roles pod.name = none

/-- The view names the replicas of the primary that is drained, and none of them is on a
cordoned node itself. -/
structure ReplicasOff (placement : Placement) (roles : Roles) (p : DrainPass) : Prop where
  current : ∀ primary pods masterID nodesRaw, p.draining = some primary →
    p.election.listed = some pods → getNodeID p.election primary = some masterID →
    fetchForElection p.election pods = some nodesRaw →
    ∀ pod ∈ pods, isReplicaPod p.vc nodesRaw masterID primary pod = true →
      roles pod.name = some primary.name
  off : ∀ primary, p.draining = some primary → ∀ name ∈ placement.names,
    roles name = some primary.name → placement.cordoned name = false

section
variable (F : Type) [IntCast F] [Add F] [Sub F] [Mul F] [Div F] [LT F] [DecidableLT F]

theorem drainPass_sent (roles : Roles) (p : DrainPass) :
    (drainPass F roles p).2.sent = [] ∨
      ∃ primary best, p.draining = some primary ∧
        pickBestReplicaForShard F p.election p.vc primary = some best ∧
        (drainPass F roles p).2.sent = [best] := by
  have hsent : (drainPass F roles p).2.sent = failovers (reconcileNodeDrainFailover
      (electing F p.input p.election p.vc) (World.start p.vc)).1.log := rfl
  rw [hsent]
  unfold reconcileNodeDrainFailover DrainPass.draining
  have hl : (electing F p.input p.election p.vc).listed = p.input.listed := rfl
  have hd : onDrainedNode (electing F p.input p.election p.vc) = onDrainedNode p.input := rfl
  rw [hl,hd]
  cases p.input.listed with
  | none => exact .inl rfl
  | some pods =>
    simp only [Option.getD_some]
    cases hp : pods.find? (onDrainedNode p.input) with
    | none => exact .inl rfl
    | some primary =>
      dsimp only
      split
      · exact .inl rfl
      · rcases clusterFailover_failovers (electing F p.input p.election p.vc) primary p.vc
          with hnone | ⟨best,hbest,hone⟩
        · exact .inl hnone
        · exact .inr ⟨primary, best, rfl, hbest, hone⟩

end

theorem exposed_failover {placement : Placement} {roles : Roles} {primary best : Text}
    (hp : primary ∈ placement.exposed roles) (hb : roles best = some primary)
    (hoff : placement.cordoned best = false) :
    placement.exposed (roles.failover best) ⊂ placement.exposed roles := by
  obtain ⟨hname,hprimary,hcordoned⟩ := Finset.mem_filter.mp hp
  have hne : primary ≠ best := by
    rintro rfl
    rw [hprimary] at hb
    cases hb
  refine (Finset.ssubset_iff_of_subset ?_).mpr ⟨primary, hp, ?_⟩
  · intro name hname
    obtain ⟨hmem,hnone,hcord⟩ := Finset.mem_filter.mp hname
    refine Finset.mem_filter.mpr ⟨hmem, ?_, hcord⟩
    -- only the new primary lost its master, and it is not on a cordoned node
    simp only [Roles.failover,hb] at hnone
    split_ifs at hnone with h₁ h₂
    · rw [h₁,hoff] at hcord
      cases hcord
    · exact hnone
  · intro hmem
    have hnone := (Finset.mem_filter.mp hmem).2.1
    simp [Roles.failover,hb,hne] at hnone

section
variable (F : Type) [IntCast F] [Add F] [Sub F] [Mul F] [Div F] [LT F] [DecidableLT F]

theorem drainPass_exposed {placement : Placement} {roles : Roles} {p : DrainPass}
    (hf : Follows placement roles p) (hoff : ReplicasOff placement roles p) :
    (drainPass F roles p).2.sent.length + (placement.exposed (drainPass F roles p).1).card ≤
      (placement.exposed roles).card := by
  have hafter : (drainPass F roles p).1 =
      (drainPass F roles p).2.sent.foldl (fun roles pod => roles.failover pod.name) roles := rfl
  rcases drainPass_sent F roles p with hnone | ⟨primary,best,hdrain,hbest,hone⟩
  · rw [hafter,hnone]
    simp
  · obtain ⟨pods,masterID,nodesRaw,hl,hid,hfetch,hpod,hrep⟩ := pickBestReplicaForShard_mem hbest
    have hmaster := hoff.current primary pods masterID nodesRaw hdrain hl hid hfetch best hpod hrep
    have hcord := hoff.off primary hdrain best.name (hf.elected pods hl best hpod) hmaster
    -- the drained pod is listed with the primary's label on a cordoned node
    have hprimary : primary.name ∈ placement.exposed roles := by
      unfold DrainPass.draining at hdrain
      cases hlist : p.input.listed with
      | none => simp [hlist] at hdrain
      | some listed =>
        rw [hlist,Option.getD_some] at hdrain
        have hmem := List.mem_of_find?_eq_some hdrain
        have hon := List.find?_some hdrain
        simp only [onDrainedNode,Bool.and_eq_true,decide_eq_true_eq] at hon
        obtain ⟨hin,hnode⟩ := hf.placed listed hlist primary hmem
        have hb := hf.nodes primary.nodeName true hon.2
        refine Finset.mem_filter.mpr ⟨hin, hf.labels listed hlist primary hmem hon.1.1.1, ?_⟩
        unfold Placement.cordoned
        rw [← hnode,← hb]
    have hlt := Finset.card_lt_card (exposed_failover hprimary hmaster hcord)
    rw [hafter,hone]
    simp only [List.length_singleton,List.foldl_cons,List.foldl_nil]
    omega

/-- As long as the replicas of what is drained are not on cordoned nodes themselves, every
failover takes a primary off such a node, and there are no more failovers than such
primaries at the start. -/
theorem drain_failovers_bounded (placement : Placement) {start : Roles} {passes : List DrainPass}
    (hrun : Runs.Along (drainPass F)
      (fun roles p => Follows placement roles p ∧ ReplicasOff placement roles p) start passes) :
    (∀ q ∈ Runs.log (drainPass F) start passes, q.2.sent ≠ [] →
      (placement.exposed q.2.after).card < (placement.exposed q.2.before).card) ∧
    ((Runs.log (drainPass F) start passes).flatMap (fun q => q.2.sent)).length ≤
      (placement.exposed start).card := by
  constructor
  · refine Runs.Along.forall_log (fun roles p hp => ?_) hrun
    intro hsent
    have hstep := drainPass_exposed F hp.1 hp.2
    have hpos := List.length_pos_of_ne_nil hsent
    have hafter : (drainPass F roles p).2.after = (drainPass F roles p).1 := rfl
    have hbefore : (drainPass F roles p).2.before = roles := rfl
    dsimp only at hpos ⊢
    rw [hafter,hbefore]
    omega
  · exact hrun.length_flatMap_le (fun q => q.2.sent) (fun roles => (placement.exposed roles).card)
      (fun roles p hp => drainPass_exposed F hp.1 hp.2)

end

def pairPods (primary : Char) : List Pod :=
  ['1','2'].map (fun digit => { readyPod digit with
    roleLabel := some (if digit = primary then .primary else .replica) })

def pairView (primary replica : Char) : Text :=
  entryText primary primary "myself,master" ['-'] " 0-16383" ++
    entryText replica replica "slave" (nodeID primary) ""

def pairPass (cordoned : Text → Bool) (primary replica : Char) : DrainPass where
  vc := threeShards (fun _ => none)
  input := { reachable (pairPods primary) with unschedulable := fun node => some (cordoned node) }
  election := favouring { readyPod replica with roleLabel := some .replica } (pairPods primary)
    (nodeID primary) (pairView primary replica)

def pairRoles (primary replica : Char) : Roles := fun name =>
  if name = (readyPod replica).name then some (readyPod primary).name else none

def pairPlacement (cordoned : Text → Bool) : Placement where
  names := {(readyPod '1').name, (readyPod '2').name}
  node := fun name => 'n' :: name.drop 3
  unschedulable := cordoned

theorem pairPass_follows (cordoned : Text → Bool) {primary replica : Char} {roles : Roles}
    (hlabels : ∀ pod ∈ pairPods primary, pod.roleLabel = some .primary → roles pod.name = none) :
    Follows (pairPlacement cordoned) roles (pairPass cordoned primary replica) := by
  have hplaced : ∀ pod ∈ pairPods primary, pod.name ∈ (pairPlacement cordoned).names ∧
      pod.nodeName = (pairPlacement cordoned).node pod.name := by
    simp [pairPods,pairPlacement,readyPod]
  constructor
  · rintro pods ⟨⟩
    exact hplaced
  · rintro pods ⟨⟩
    exact fun pod hpod => (hplaced pod hpod).1
  · rintro node b ⟨⟩
    rfl
  · rintro pods ⟨⟩
    exact hlabels

theorem firstNode_off : ReplicasOff (pairPlacement (· = "n1".toList)) (pairRoles '1' '2')
    (pairPass (· = "n1".toList) '1' '2') := by
  have hdrain : (pairPass (· = "n1".toList) '1' '2').draining =
      some { readyPod '1' with roleLabel := some .primary } := by decide +kernel
  have hid : getNodeID (pairPass (· = "n1".toList) '1' '2').election
      { readyPod '1' with roleLabel := some .primary } = some (nodeID '1') := by decide +kernel
  have hfetch : fetchForElection (pairPass (· = "n1".toList) '1' '2').election (pairPods '1') =
      some (pairView '1' '2') := by decide +kernel
  constructor
  · rintro primary pods masterID nodesRaw hp ⟨⟩ hm hraw
    rw [hdrain] at hp
    cases hp
    rw [hid] at hm
    cases hm
    rw [hfetch] at hraw
    cases hraw
    decide +kernel
  · intro primary hp
    rw [hdrain] at hp
    cases hp
    decide

theorem firstNode_drained :
    ((Runs.log (drainPass Int) (pairRoles '1' '2') [pairPass (· = "n1".toList) '1' '2']).flatMap
      (fun q => q.2.sent)).length = 1 ∧
    ((Runs.log (drainPass Int) (pairRoles '1' '2') [pairPass (· = "n1".toList) '1' '2']).flatMap
      (fun q => q.2.sent)).length ≤
      ((pairPlacement (· = "n1".toList)).exposed (pairRoles '1' '2')).card := by
  have hrun : Runs.Along (drainPass Int)
      (fun roles p => Follows (pairPlacement (· = "n1".toList)) roles p ∧
        ReplicasOff (pairPlacement (· = "n1".toList)) roles p) (pairRoles '1' '2')
      [pairPass (· = "n1".toList) '1' '2'] :=
    ⟨⟨pairPass_follows _ (by decide), firstNode_off⟩, trivial⟩
  exact ⟨by decide +kernel, (drain_failovers_bounded Int _ hrun).2⟩

theorem bothNodes_alternate :
    Runs.Along (drainPass Int) (Follows (pairPlacement (fun _ => true))) (pairRoles '1' '2')
      [pairPass (fun _ => true) '1' '2', pairPass (fun _ => true) '2' '1'] ∧
    ((pairPlacement (fun _ => true)).exposed (pairRoles '1' '2')).card = 1 ∧
    (Runs.log (drainPass Int) (pairRoles '1' '2')
      [pairPass (fun _ => true) '1' '2', pairPass (fun _ => true) '2' '1']).map
        (fun q => (q.2.sent.map (·.name), ((pairPlacement (fun _ => true)).exposed q.2.after).card)) =
      [(["vk-2".toList], 1), (["vk-1".toList], 1)] := by
  refine ⟨⟨pairPass_follows _ (by decide), pairPass_follows _ ?_, trivial⟩, by decide, ?_⟩
  · decide +kernel
  · decide +kernel

end ValkeyOperator
