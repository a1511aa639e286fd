import ValkeyOperator.PodLabels
import ValkeyOperator.Scoring
import ValkeyOperator.Resets
import ValkeyOperator.Unready
import Mathlib.Data.List.Pairwise
import Mathlib.Data.List.Perm.Subperm

/-!
Where the pods of a ValkeyCluster may run: the anti-affinity and the spread constraints of the
StatefulSet's pods, and what they come to over any order of placements, terminations and passes, if
the scheduler keeps to them.
-/

set_option autoImplicit false

namespace ValkeyOperator
open TextScan
open Runs

inductive SpreadPolicy
  | hard | soft | none
  deriving DecidableEq, Repr

/-- A policy that is not given is the empty string. -/
structure SpreadSpec extends TopologySpec where
  nodeSpreadPolicy : Option SpreadPolicy
  zoneSpreadPolicy : Option SpreadPolicy

structure AffinityTerm where
  selector : List (Text × Text)
  topologyKey : Text
  deriving DecidableEq, Repr

structure PodAntiAffinity where
  required : List AffinityTerm
  preferred : List (Int × AffinityTerm)
  deriving DecidableEq, Repr

inductive WhenUnsatisfiable
  | doNotSchedule | scheduleAnyway
  deriving DecidableEq, Repr

structure SpreadConstraint where
  maxSkew : Int
  topologyKey : Text
  whenUnsatisfiable : WhenUnsatisfiable
  selector : List (Text × Text)
  deriving DecidableEq, Repr

def hostnameKey : Text := "kubernetes.io/hostname".toList

def metav1LabelSelector (vc : ValkeyCluster) : List (Text × Text) :=
  [(nameLabel, "valkeycluster".toList), (instanceLabel, vc.name)]

def nodePolicy (topo : Option SpreadSpec) : SpreadPolicy :=
  (topo.bind (fun t => t.nodeSpreadPolicy)).getD .hard

def PodAntiAffinity.add (vc : ValkeyCluster) (policy : Option SpreadPolicy) (key : Text) (affinity : PodAntiAffinity) :
    PodAntiAffinity :=
  match policy with
  | some .hard => { affinity with required := affinity.required ++ [⟨metav1LabelSelector vc, key⟩] }
  | some .soft => { affinity with preferred := affinity.preferred ++ [(100, ⟨metav1LabelSelector vc, key⟩)] }
  | _ => affinity

def buildPodAffinity (vc : ValkeyCluster) (topo : Option SpreadSpec) : PodAntiAffinity :=
  let affinity := PodAntiAffinity.add vc (some (nodePolicy topo)) hostnameKey ⟨[], []⟩
  match topo with
  | none => affinity
  | some t =>
    -- the node level is not repeated
    if zoneKey t.toTopologySpec = hostnameKey then affinity
    else affinity.add vc t.zoneSpreadPolicy (zoneKey t.toTopologySpec)

def spreadConstraints (vc : ValkeyCluster) (policy : Option SpreadPolicy) (key : Text) : List SpreadConstraint :=
  match policy with
  | some .hard => [⟨1, key, .doNotSchedule, metav1LabelSelector vc⟩]
  | some .soft => [⟨1, key, .scheduleAnyway, metav1LabelSelector vc⟩]
  | _ => []

def buildTopologySpreadConstraints (vc : ValkeyCluster) (topo : Option SpreadSpec) : List SpreadConstraint :=
  let constraints := spreadConstraints vc (some (nodePolicy topo)) hostnameKey
  match topo with
  | none => constraints
  | some t =>
    if zoneKey t.toTopologySpec = hostnameKey then constraints
    else constraints ++ spreadConstraints vc t.zoneSpreadPolicy (zoneKey t.toTopologySpec)

def hardKey (policy : Option SpreadPolicy) (key : Text) : List Text := if policy = some .hard then [key] else []

/-- The levels on which no two of the pods may meet. -/
def hardKeys (topo : Option SpreadSpec) : List Text :=
  hardKey (some (nodePolicy topo)) hostnameKey ++
    match topo with
    | none => []
    | some t =>
      if zoneKey t.toTopologySpec = hostnameKey then []
      else hardKey t.zoneSpreadPolicy (zoneKey t.toTopologySpec)

theorem hostname_hard {topo : Option SpreadSpec} (h : nodePolicy topo = .hard) : hostnameKey ∈ hardKeys topo := by
  have hkey : hardKey (some (nodePolicy topo)) hostnameKey = [hostnameKey] := if_pos (congrArg some h)
  unfold hardKeys
  rw [hkey]
  exact List.mem_append_left _ List.mem_cons_self

structure ZonesHard (t : SpreadSpec) : Prop where
  policy : t.zoneSpreadPolicy = some .hard
  key : zoneKey t.toTopologySpec ≠ hostnameKey

theorem ZonesHard.mem {t : SpreadSpec} (h : ZonesHard t) : zoneKey t.toTopologySpec ∈ hardKeys (some t) := by
  unfold hardKeys
  dsimp only
  rw [if_neg h.key,hardKey,hardKey,if_pos h.policy]
  exact List.mem_append_right _ List.mem_cons_self

theorem add_required (vc : ValkeyCluster) (policy : Option SpreadPolicy) (key : Text) (affinity : PodAntiAffinity) :
    (affinity.add vc policy key).required =
      affinity.required ++ (hardKey policy key).map (fun key => ⟨metav1LabelSelector vc, key⟩) := by
  rcases policy with _ | (_ | _ | _) <;> simp [PodAntiAffinity.add,hardKey]

theorem spreadConstraints_blocking (vc : ValkeyCluster) (policy : Option SpreadPolicy) (key : Text) :
    (spreadConstraints vc policy key).filter (fun c => c.whenUnsatisfiable = .doNotSchedule) =
      (hardKey policy key).map (fun key => ⟨1, key, .doNotSchedule, metav1LabelSelector vc⟩) := by
  rcases policy with _ | (_ | _ | _) <;> simp [spreadConstraints,hardKey]

theorem required_eq (vc : ValkeyCluster) (topo : Option SpreadSpec) :
    (buildPodAffinity vc topo).required = (hardKeys topo).map (fun key => ⟨metav1LabelSelector vc, key⟩) := by
  unfold buildPodAffinity hardKeys
  rw [List.map_append]
  cases topo with
  | none => simp [add_required]
  | some t =>
    dsimp only
    split_ifs
    · simp [add_required]
    · simp [add_required]

theorem blocking_eq (vc : ValkeyCluster) (topo : Option SpreadSpec) :
    (buildTopologySpreadConstraints vc topo).filter (fun c => c.whenUnsatisfiable = .doNotSchedule) =
      (hardKeys topo).map (fun key => ⟨1, key, .doNotSchedule, metav1LabelSelector vc⟩) := by
  unfold buildTopologySpreadConstraints hardKeys
  rw [List.map_append]
  cases topo with
  | none => simp [spreadConstraints_blocking]
  | some t =>
    dsimp only
    split_ifs
    · simp [spreadConstraints_blocking]
    · rw [List.filter_append,spreadConstraints_blocking,spreadConstraints_blocking]

structure Site where
  nodes : List Text
  label : Text → Text → Option Text

def Site.together (site : Site) (key n m : Text) : Bool :=
  (site.label n key).isSome && decide (site.label n key = site.label m key)

section
variable {vc : ValkeyCluster} (topo : Option SpreadSpec)

/-- No pod of a Job has an affinity or a constraint of its own. -/
def OwnedPod.keys (p : OwnedPod vc) : List Text :=
  match p.owner with
  | .statefulSet => hardKeys topo
  | .job _ => []

def OwnedPod.terms (p : OwnedPod vc) : List AffinityTerm :=
  match p.owner with
  | .statefulSet => (buildPodAffinity vc topo).required
  | .job _ => []

def OwnedPod.constraints (p : OwnedPod vc) : List SpreadConstraint :=
  match p.owner with
  | .statefulSet => (buildTopologySpreadConstraints vc topo).filter (fun c => c.whenUnsatisfiable = .doNotSchedule)
  | .job _ => []

def OwnedPod.live (p : OwnedPod vc) : Bool := p.pod.phase != .succeeded && p.pod.phase != .failed

/-- What is assumed of the scheduler about a node that it gives to a pod: the required terms of the
new pod and those of the pods that have not finished hold there, and the node has the label of every
constraint that blocks. -/
@[mk_iff] structure Admitted (site : Site) (placed : List (OwnedPod vc)) (p : OwnedPod vc) (n : Text) : Prop where
  node : n ∈ site.nodes
  incoming : ∀ e ∈ placed, e.live = true → ∀ term ∈ p.terms topo, e.matches term.selector = true →
    site.together term.topologyKey n e.pod.nodeName = false
  existing : ∀ e ∈ placed, e.live = true → ∀ term ∈ e.terms topo, p.matches term.selector = true →
    site.together term.topologyKey n e.pod.nodeName = false
  labels : ∀ c ∈ p.constraints topo, (site.label n c.topologyKey).isSome = true

instance (site : Site) (placed : List (OwnedPod vc)) (p : OwnedPod vc) (n : Text) :
    Decidable (Admitted topo site placed p n) :=
  haveI : Decidable (n ∈ site.nodes) := decidable_of_iff (among n site.nodes = true) among_iff
  decidable_of_iff' _ (admitted_iff topo site placed p n)

end

section
variable {vc : ValkeyCluster} {topo : Option SpreadSpec}

theorem OwnedPod.terms_eq (p : OwnedPod vc) :
    p.terms topo = (p.keys topo).map (fun key => ⟨metav1LabelSelector vc, key⟩) := by
  unfold OwnedPod.terms OwnedPod.keys
  cases p.owner with
  | statefulSet => exact required_eq vc topo
  | job name => rfl

theorem OwnedPod.constraints_eq (p : OwnedPod vc) :
    p.constraints topo = (p.keys topo).map (fun key => ⟨1, key, .doNotSchedule, metav1LabelSelector vc⟩) := by
  unfold OwnedPod.constraints OwnedPod.keys
  cases p.owner with
  | statefulSet => exact blocking_eq vc topo
  | job name => rfl

theorem OwnedPod.listed_iff (p : OwnedPod vc) :
    p.matches (metav1LabelSelector vc) = true ↔ p.owner ≠ .job .bootstrap := p.matches_iff

end

def OwnedPod.withPod {vc : ValkeyCluster} (p : OwnedPod vc) (pod : Pod) : OwnedPod vc :=
  ⟨pod, p.owner, p.label, p.labelled⟩

def OwnedPod.bound {vc : ValkeyCluster} (p : OwnedPod vc) (n : Text) : OwnedPod vc :=
  p.withPod { p.pod with nodeName := n }

def OwnedPod.terminating {vc : ValkeyCluster} (p : OwnedPod vc) : OwnedPod vc :=
  p.withPod { p.pod with deleting := true }

def OwnedPod.enters {vc : ValkeyCluster} (p : OwnedPod vc) (phase : PodPhase) : OwnedPod vc :=
  p.withPod { p.pod with phase := phase }

/-- The pods that have a node, and whether a Job has been created to form the cluster. -/
structure Town (vc : ValkeyCluster) where
  placed : List (OwnedPod vc)
  formed : Bool

def Town.empty (vc : ValkeyCluster) : Town vc := ⟨[], false⟩

inductive TownEvent (vc : ValkeyCluster)
  | bind (p : OwnedPod vc) (node : Text)
  | phase (name : Text) (phase : PodPhase)
  | terminate (name : Text)
  | remove (name : Text)
  | pass (input : PassInput) (stored : ValkeyCluster)

def Event.formsCluster : Event → Bool
  | .createJob .bootstrap => true
  | _ => false

section
variable {vc : ValkeyCluster} (sum256 : Text → Digest)

def Town.change (t : Town vc) (name : Text) (f : OwnedPod vc → OwnedPod vc) : Town vc :=
  ⟨t.placed.map (fun e => if e.pod.name = name then f e else e), t.formed⟩

def townStep (t : Town vc) : TownEvent vc → Town vc × List Event
  | .bind p node => (⟨t.placed ++ [p.bound node], t.formed⟩, [])
  | .phase name phase => (t.change name (fun e => e.enters phase), [])
  | .terminate name => (t.change name OwnedPod.terminating, [])
  | .remove name => (⟨t.placed.filter (fun e => e.pod.name ≠ name), t.formed⟩, [])
  | .pass input stored =>
    (⟨t.placed, t.formed || (reconcile sum256 input stored).world.log.any Event.formsCluster⟩,
      (reconcile sum256 input stored).world.log)

/-- No two pods have one name, and one that has finished stays so. -/
def Scheduled (site : Site) (topo : Option SpreadSpec) (t : Town vc) : TownEvent vc → Prop
  | .bind p node => p.pod.name ∉ t.placed.map (fun e => e.pod.name) ∧ Admitted topo site t.placed p node
  | .phase name phase => ∀ e ∈ t.placed, e.pod.name = name → (e.enters phase).live = true → e.live = true
  | _ => True

end

section
variable {vc : ValkeyCluster} {site : Site} {topo : Option SpreadSpec} {sum256 : Text → Digest}

theorem Site.together_comm (site : Site) (key n m : Text) : site.together key n m = site.together key m n := by
  rw [Bool.eq_iff_iff]
  simp only [Site.together,Bool.and_eq_true,decide_eq_true_eq]
  constructor
  · rintro ⟨hsome,heq⟩
    exact ⟨heq ▸ hsome, heq.symm⟩
  · rintro ⟨hsome,heq⟩
    exact ⟨heq ▸ hsome, heq.symm⟩

def Distant (site : Site) (topo : Option SpreadSpec) (a b : OwnedPod vc) : Prop :=
  (b.owner ≠ .job .bootstrap → ∀ key ∈ a.keys topo, site.together key a.pod.nodeName b.pod.nodeName = false) ∧
    (a.owner ≠ .job .bootstrap → ∀ key ∈ b.keys topo, site.together key a.pod.nodeName b.pod.nodeName = false)

theorem Distant.symm {a b : OwnedPod vc} (h : Distant site topo a b) : Distant site topo b a := by
  constructor
  · intro ha key hkey
    rw [site.together_comm]
    exact h.2 ha key hkey
  · intro hb key hkey
    rw [site.together_comm]
    exact h.1 hb key hkey

theorem Admitted.distant {placed : List (OwnedPod vc)} {p : OwnedPod vc} {n : Text}
    (h : Admitted topo site placed p n) {e : OwnedPod vc} (he : e ∈ placed) (hlive : e.live = true) :
    Distant site topo (p.bound n) e := by
  constructor
  · intro howner key hkey
    refine h.incoming e he hlive ⟨metav1LabelSelector vc, key⟩ ?_ (e.listed_iff.mpr howner)
    rw [p.terms_eq]
    exact List.mem_map_of_mem hkey
  · intro howner key hkey
    refine h.existing e he hlive ⟨metav1LabelSelector vc, key⟩ ?_ (p.listed_iff.mpr howner)
    rw [e.terms_eq]
    exact List.mem_map_of_mem hkey

def NotSharing (site : Site) (topo : Option SpreadSpec) (a b : OwnedPod vc) : Prop :=
  a.live = true → b.live = true → Distant site topo a b

instance : Std.Symm (@NotSharing vc site topo) := ⟨fun _ _ h hb ha => (h ha hb).symm⟩

structure Exclusive (site : Site) (topo : Option SpreadSpec) (placed : List (OwnedPod vc)) : Prop where
  names : (placed.map (fun e => e.pod.name)).Nodup
  apart : placed.Pairwise (NotSharing site topo)
  labels : ∀ e ∈ placed, e.pod.nodeName ∈ site.nodes ∧
    ∀ key ∈ e.keys topo, (site.label e.pod.nodeName key).isSome = true

theorem Exclusive.bind {placed : List (OwnedPod vc)} (h : Exclusive site topo placed) {p : OwnedPod vc} {node : Text}
    (hname : p.pod.name ∉ placed.map (fun e => e.pod.name)) (hadmitted : Admitted topo site placed p node) :
    Exclusive site topo (placed ++ [p.bound node]) := by
  refine ⟨?_, ?_, ?_⟩
  · rw [List.map_append]
    refine List.nodup_append.mpr ⟨h.names, by simp, ?_⟩
    intro a ha b hb heq
    rw [heq,List.mem_singleton.mp hb] at ha
    exact hname ha
  · refine List.pairwise_append.mpr ⟨h.apart, List.pairwise_singleton _ _, ?_⟩
    intro e he q hq
    obtain rfl := List.mem_singleton.mp hq
    exact fun hlive _ => (hadmitted.distant he hlive).symm
  · intro e he
    rcases List.mem_append.mp he with he | he
    · exact h.labels e he
    · obtain rfl := List.mem_singleton.mp he
      refine ⟨hadmitted.node, fun key hkey => ?_⟩
      refine hadmitted.labels ⟨1, key, .doNotSchedule, metav1LabelSelector vc⟩ ?_
      rw [p.constraints_eq]
      exact List.mem_map_of_mem hkey

theorem Exclusive.map {placed : List (OwnedPod vc)} (h : Exclusive site topo placed) {g : OwnedPod vc → OwnedPod vc}
    (hg : ∀ e, (g e).owner = e.owner ∧ (g e).pod.name = e.pod.name ∧ (g e).pod.nodeName = e.pod.nodeName)
    (hlive : ∀ e ∈ placed, (g e).live = true → e.live = true) : Exclusive site topo (placed.map g) := by
  have hkeys : ∀ e, (g e).keys topo = e.keys topo := by
    intro e
    unfold OwnedPod.keys
    rw [(hg e).1]
  refine ⟨?_, ?_, ?_⟩
  · have hnames : (placed.map g).map (fun e => e.pod.name) = placed.map (fun e => e.pod.name) := by
      simp [Function.comp_def,hg]
    rw [hnames]
    exact h.names
  · refine List.pairwise_map.mpr (h.apart.imp_of_mem (fun {a b} ha hb hab => ?_))
    intro hlivea hliveb
    have hdistant := hab (hlive a ha hlivea) (hlive b hb hliveb)
    simpa only [Distant,hkeys,hg] using hdistant
  · intro e he
    obtain ⟨e',he',rfl⟩ := List.mem_map.mp he
    rw [hkeys,(hg e').2.2]
    exact h.labels e' he'

theorem Exclusive.filter {placed : List (OwnedPod vc)} (h : Exclusive site topo placed) (keep : OwnedPod vc → Bool) :
    Exclusive site topo (placed.filter keep) where
  names := h.names.sublist (List.filter_sublist.map _)
  apart := h.apart.filter keep
  labels := fun e he => h.labels e (List.mem_filter.mp he).1

theorem Exclusive.change {t : Town vc} (h : Exclusive site topo t.placed) {name : Text}
    {f : OwnedPod vc → OwnedPod vc}
    (hf : ∀ e, (f e).owner = e.owner ∧ (f e).pod.name = e.pod.name ∧ (f e).pod.nodeName = e.pod.nodeName)
    (hlive : ∀ e ∈ t.placed, e.pod.name = name → (f e).live = true → e.live = true) :
    Exclusive site topo (t.change name f).placed := by
  refine h.map (fun e => ?_) (fun e he => ?_)
  · split_ifs
    · exact hf e
    · exact ⟨rfl, rfl, rfl⟩
  · split_ifs with hname
    · exact hlive e he hname
    · exact fun hsame => hsame

theorem Exclusive.step {t : Town vc} (h : Exclusive site topo t.placed) {event : TownEvent vc}
    (hevent : Scheduled site topo t event) : Exclusive site topo (townStep sum256 t event).1.placed := by
  cases event with
  | bind p node => exact h.bind hevent.1 hevent.2
  | phase name phase => exact h.change (fun e => ⟨rfl, rfl, rfl⟩) hevent
  | terminate name => exact h.change (fun e => ⟨rfl, rfl, rfl⟩) (fun e _ _ hlive => hlive)
  | remove name => exact h.filter _
  | pass input stored => exact h

theorem Exclusive.empty (vc : ValkeyCluster) : Exclusive site topo (Town.empty vc).placed :=
  ⟨List.nodup_nil, List.Pairwise.nil, by simp [Town.empty]⟩

theorem Exclusive.labels_ne {placed : List (OwnedPod vc)} (h : Exclusive site topo placed) {a b : OwnedPod vc}
    (ha : a ∈ placed) (hb : b ∈ placed) (hlivea : a.live = true) (hliveb : b.live = true)
    (hserver : a.owner = .statefulSet) (hlisted : b.owner ≠ .job .bootstrap)
    (hne : a.pod.name ≠ b.pod.name) {key : Text} (hkey : key ∈ hardKeys topo) :
    site.label a.pod.nodeName key ≠ site.label b.pod.nodeName key := by
  have hpair : NotSharing site topo a b := by
    refine h.apart.forall ha hb ?_
    rintro rfl
    exact hne rfl
  have hkeys : key ∈ a.keys topo := by
    rw [OwnedPod.keys,hserver]
    exact hkey
  have hsome := (h.labels a ha).2 key hkeys
  have hapart := (hpair hlivea hliveb).1 hlisted key hkeys
  intro heq
  rw [Site.together,hsome,decide_eq_true heq] at hapart
  cases hapart

theorem run_exclusive {events : List (TownEvent vc)}
    (hrun : Along (townStep sum256) (Scheduled site topo) (Town.empty vc) events) :
    Exclusive site topo (final (townStep sum256) (Town.empty vc) events).placed :=
  hrun.final (fun _ t => Exclusive site topo t.placed) (Exclusive.empty vc) (fun _ _ _ h hevent => h.step hevent)

/-- Over every run, a server shares no domain that its policies make exclusive with another
server or with the pod of a rebalance or a recovery, unless one of them has finished; under the
default policy, no node. -/
theorem placement_exclusive {events : List (TownEvent vc)}
    (hrun : Along (townStep sum256) (Scheduled site topo) (Town.empty vc) events) :
    ∀ a ∈ (final (townStep sum256) (Town.empty vc) events).placed,
    ∀ b ∈ (final (townStep sum256) (Town.empty vc) events).placed, a.live = true → b.live = true →
      a.owner = .statefulSet → b.owner ≠ .job .bootstrap → a.pod.name ≠ b.pod.name →
        (nodePolicy topo = .hard → a.pod.nodeName ≠ b.pod.nodeName) ∧
        ∀ t, topo = some t → ZonesHard t →
          site.label a.pod.nodeName (zoneKey t.toTopologySpec) ≠
            site.label b.pod.nodeName (zoneKey t.toTopologySpec) := by
  intro a ha b hb hlivea hliveb hserver hlisted hne
  have hapart := run_exclusive hrun
  constructor
  · intro hpolicy hnode
    exact hapart.labels_ne ha hb hlivea hliveb hserver hlisted hne (hostname_hard hpolicy) (by rw [hnode])
  · rintro t rfl hzones
    exact hapart.labels_ne ha hb hlivea hliveb hserver hlisted hne hzones.mem

def placedServers (placed : List (OwnedPod vc)) : List (OwnedPod vc) :=
  placed.filter (fun e => decide (e.owner = .statefulSet) && e.live)

theorem mem_placedServers {placed : List (OwnedPod vc)} {e : OwnedPod vc} :
    e ∈ placedServers placed ↔ e ∈ placed ∧ e.owner = .statefulSet ∧ e.live = true := by
  simp only [placedServers,List.mem_filter,Bool.and_eq_true,decide_eq_true_eq]

/-- A pass lists as Ready no pod but servers that have a node, the spec is the one that was
scheduled for, and as long as no Job has been created no server owns slots. -/
def TownLaw (t : Town vc) : TownEvent vc → Prop
  | .pass input stored => stored.spec = vc.spec ∧
      (∀ pods, input.topology.listed = some pods → (pods.map (fun pod => pod.name)).Nodup ∧
        ∀ pod ∈ pods, isPodReady pod = true → ∃ e ∈ placedServers t.placed, e.pod.name = pod.name) ∧
      (t.formed = false → ∀ pod, (infoResult (input.topology.info pod)).slots = 0)
  | _ => True

theorem receive_slotless {best : Best} (h : best.slots = 0) {r : InfoResult} (hr : r.slots = 0) :
    (best.receive r).slots = 0 := by
  unfold Best.receive
  split_ifs
  · exact h
  · exact hr
  · exact h

theorem query_slotless {info : Pod → Option Text} (h : ∀ pod, (infoResult (info pod)).slots = 0) (arrival : Arrival)
    (pods : List Pod) {best : InfoResult} (hbest : queryClusterInfo info arrival pods = some best) :
    best.slots = 0 := by
  have hfold : ∀ (l : List Pod) (b : Best), b.slots = 0 →
      ((l.map (fun pod => infoResult (info pod))).foldl Best.receive b).slots = 0 := by
    intro l
    induction l with
    | nil => exact fun b hb => hb
    | cons pod l ih => exact fun b hb => ih _ (receive_slotless hb (h pod))
  unfold queryClusterInfo at hbest
  dsimp only at hbest
  split_ifs at hbest
  rw [← Option.some.inj hbest]
  exact hfold _ _ rfl

theorem slotless_view {i : TopologyInput} (h : ∀ pod, (infoResult (i.info pod)).slots = 0) :
    clusterView i = .unknown ∨ clusterView i = .unformed := by
  unfold clusterView
  split_ifs
  · exact .inl rfl
  · cases i.listed with
    | none => exact .inl rfl
    | some pods =>
      dsimp only
      split_ifs
      · exact .inl rfl
      · cases hquery : queryClusterInfo i.info i.arrival (readyWithIP pods) with
        | none => exact .inr rfl
        | some best =>
          have hnone : ¬ best.slots > 0 := by
            rw [query_slotless h _ _ hquery]
            exact Int.lt_irrefl 0
          dsimp only
          rw [if_neg (fun hok => hnone hok.1),if_neg (fun hfail => hnone hfail.1)]
          exact .inr rfl

/-- Too few pods are Ready to form a cluster, and none is formed yet. -/
theorem fewReady_pass {i : PassInput} {stored : ValkeyCluster}
    (hslots : ∀ pod, (infoResult (i.topology.info pod)).slots = 0)
    (hfew : (i.topology.readyPods.length : Int) < totalPods stored) (sum256 : Text → Digest) :
    ∀ e ∈ (reconcile sum256 i stored).world.log, e.Preparing := by
  refine idle_pass (fun w hspec => ?_) sum256
  rw [reconcileClusterTopology_cases]
  rcases slotless_view hslots with hview | hview
  · rw [hview]
    exact ⟨_, rfl⟩
  · have hfew' : (i.topology.readyPods.length : Int) < totalPods w.vc := by
      unfold totalPods
      rw [hspec]
      exact hfew
    rw [hview]
    dsimp only
    unfold reconcileBootstrapJob
    split_ifs
    · exact ⟨true, rfl⟩
    · exact ⟨false, rfl⟩

/-- No more servers than zones have a node. -/
theorem Exclusive.servers_le {t : SpreadSpec} {placed : List (OwnedPod vc)} (h : Exclusive site (some t) placed)
    (hzones : ZonesHard t) {zones : List Text}
    (hsite : ∀ n ∈ site.nodes, ∀ value, site.label n (zoneKey t.toTopologySpec) = some value → value ∈ zones) :
    (placedServers placed).length ≤ zones.length := by
  have hkeys : ∀ e ∈ placedServers placed, zoneKey t.toTopologySpec ∈ e.keys (some t) := by
    intro e he
    rw [OwnedPod.keys,(mem_placedServers.mp he).2.1]
    exact hzones.mem
  have hnodup : ((placedServers placed).map (fun e => site.label e.pod.nodeName (zoneKey t.toTopologySpec))).Nodup := by
    refine List.pairwise_map.mpr ((h.filter _).apart.imp_of_mem ?_)
    intro a b ha hb hpair heq
    obtain ⟨-,hserver,hliveb⟩ := mem_placedServers.mp hb
    have hlisted : b.owner ≠ .job .bootstrap := by
      rw [hserver]
      exact fun h => nomatch h
    have hapart := (hpair (mem_placedServers.mp ha).2.2 hliveb).1 hlisted _ (hkeys a ha)
    rw [Site.together,((h.filter _).labels a ha).2 _ (hkeys a ha),decide_eq_true heq] at hapart
    cases hapart
  have hsub : (placedServers placed).map (fun e => site.label e.pod.nodeName (zoneKey t.toTopologySpec)) ⊆
      zones.map some := by
    intro value hvalue
    obtain ⟨e,he,rfl⟩ := List.mem_map.mp hvalue
    obtain ⟨hnode,hlabels⟩ := (h.filter _).labels e he
    obtain ⟨v,hv⟩ := Option.isSome_iff_exists.mp (hlabels _ (hkeys e he))
    rw [hv]
    exact List.mem_map_of_mem (hsite _ hnode v hv)
  simpa using (List.subperm_of_subset hnodup hsub).length_le

theorem readyPods_le {placed : List (OwnedPod vc)} {pods : List Pod} (hnames : (pods.map (fun pod => pod.name)).Nodup)
    (hready : ∀ pod ∈ pods, isPodReady pod = true → ∃ e ∈ placedServers placed, e.pod.name = pod.name) :
    (readyWithIP pods).length ≤ (placedServers placed).length := by
  have hnodup : ((readyWithIP pods).map (fun pod => pod.name)).Nodup :=
    hnames.sublist (List.filter_sublist.map _)
  have hsub : (readyWithIP pods).map (fun pod => pod.name) ⊆ (placedServers placed).map (fun e => e.pod.name) := by
    intro name hname
    obtain ⟨pod,hpod,rfl⟩ := List.mem_map.mp hname
    obtain ⟨hmem,hcond⟩ := List.mem_filter.mp hpod
    rw [Bool.and_eq_true] at hcond
    obtain ⟨e,he,heq⟩ := hready pod hmem hcond.1
    exact List.mem_map.mpr ⟨e, he, heq⟩
  simpa using (List.subperm_of_subset hnodup hsub).length_le

structure Waits (site : Site) (t : SpreadSpec) (town : Town vc) : Prop where
  apart : Exclusive site (some t) town.placed
  unformed : town.formed = false

theorem Preparing.notForming {e : Event} (h : e.Preparing) : e.formsCluster = false := by
  rcases h with h | h | ⟨status,rfl⟩
  · cases e <;> first | rfl | exact h.elim
  · cases e with
    | createJob job => cases job <;> first | rfl | exact h.elim
    | _ => rfl
  · rfl

/-- Servers that may not share a zone, and more of them than there are zones. -/
structure ZonesShort (site : Site) (t : SpreadSpec) (zones : List Text) (vc : ValkeyCluster) : Prop where
  hard : ZonesHard t
  known : ∀ n ∈ site.nodes, ∀ value, site.label n (zoneKey t.toTopologySpec) = some value → value ∈ zones
  short : (zones.length : Int) < totalPods vc

section
variable {t : SpreadSpec} {zones : List Text}

theorem Waits.pass {town : Town vc} (h : Waits site t town) (hshort : ZonesShort site t zones vc)
    {input : PassInput} {stored : ValkeyCluster} (hlaw : TownLaw town (.pass input stored)) :
    ∀ e ∈ (reconcile sum256 input stored).world.log, e.Preparing := by
  obtain ⟨hspec,hlisted,hslots⟩ := hlaw
  refine fewReady_pass (hslots h.unformed) ?_ sum256
  have htotal : totalPods stored = totalPods vc := by
    unfold totalPods
    rw [hspec]
  have hready : input.topology.readyPods.length ≤ zones.length := by
    unfold TopologyInput.readyPods
    cases hpods : input.topology.listed with
    | none => simp [readyWithIP]
    | some pods =>
      obtain ⟨hnames,hplaced⟩ := hlisted pods hpods
      exact (readyPods_le hnames hplaced).trans (h.apart.servers_le hshort.hard hshort.known)
  have hfew := hshort.short
  omega

theorem Waits.step {town : Town vc} (h : Waits site t town) (hshort : ZonesShort site t zones vc)
    {event : TownEvent vc} (hevent : Scheduled site (some t) town event) (hlaw : TownLaw town event) :
    Waits site t (townStep sum256 town event).1 := by
  refine ⟨h.apart.step hevent, ?_⟩
  cases event with
  | pass input stored =>
    have hquiet : (reconcile sum256 input stored).world.log.any Event.formsCluster = false := by
      rw [List.any_eq_false]
      intro e he
      rw [Preparing.notForming (h.pass hshort hlaw e he)]
      exact Bool.false_ne_true
    rw [townStep,h.unformed,hquiet]
    rfl
  | bind p node => exact h.unformed
  | phase name phase => exact h.unformed
  | terminate name => exact h.unformed
  | remove name => exact h.unformed

end

end

def twoZones : Site where
  nodes := ["n1".toList, "n2".toList, "n3".toList]
  label := fun n key =>
    if key = hostnameKey then some n
    else if key = "topology.kubernetes.io/zone".toList then some (if n = "n2".toList then ['b'] else ['a'])
    else none

def newServer (digit : Char) : OwnedPod (threeShards (fun _ => none)) :=
  ownedPod _ .statefulSet { readyPod digit with nodeName := [] }

def recoveryPod : OwnedPod (threeShards (fun _ => none)) :=
  ownedPod _ (.job (.rdbRecovery "vk-2".toList)) { readyPod '4' with name := "vk-2-rdb-recovery-x7k2p".toList }

def filledRun : List (TownEvent (threeShards (fun _ => none))) :=
  [.bind (newServer '1') "n1".toList, .bind recoveryPod "n2".toList, .phase recoveryPod.pod.name .succeeded,
    .bind (newServer '2') "n2".toList, .bind (newServer '3') "n3".toList]

def filledTown : Town (threeShards (fun _ => none)) :=
  final (townStep (fun _ => appDigest)) (Town.empty _) filledRun

theorem filledRun_scheduled :
    Along (townStep (fun _ => appDigest)) (Scheduled twoZones none) (Town.empty _) filledRun :=
  ⟨⟨by decide, by decide +kernel⟩, ⟨by decide +kernel, by decide +kernel⟩, by unfold Scheduled; decide +kernel,
    ⟨by decide +kernel, by decide +kernel⟩, ⟨by decide +kernel, by decide +kernel⟩, trivial⟩

theorem filledTown_exclusive :
    filledTown.placed.map (fun e => (e.pod.name, e.pod.nodeName, e.live)) =
        [("vk-1".toList, "n1".toList, true), (recoveryPod.pod.name, "n2".toList, false),
          ("vk-2".toList, "n2".toList, true), ("vk-3".toList, "n3".toList, true)] ∧
      ∀ a ∈ filledTown.placed.head?, ∀ b ∈ filledTown.placed.getLast?, a.pod.nodeName ≠ b.pod.nodeName := by
  refine ⟨by decide +kernel, fun a ha b hb => ?_⟩
  have hfirst : filledTown.placed.head?.map (fun e => (e.pod.name, e.owner, e.live)) =
      some ("vk-1".toList, .statefulSet, true) := by decide +kernel
  have hlast : filledTown.placed.getLast?.map (fun e => (e.pod.name, e.owner, e.live)) =
      some ("vk-3".toList, .statefulSet, true) := by decide +kernel
  rw [Option.mem_def.mp ha,Option.map_some,Option.some.injEq,Prod.mk.injEq,Prod.mk.injEq] at hfirst
  rw [Option.mem_def.mp hb,Option.map_some,Option.some.injEq,Prod.mk.injEq,Prod.mk.injEq] at hlast
  obtain ⟨hnamea,hownera,hlivea⟩ := hfirst
  obtain ⟨hnameb,hownerb,hliveb⟩ := hlast
  refine (placement_exclusive filledRun_scheduled a (List.mem_of_mem_head? ha) b (List.mem_of_getLast? hb)
    hlivea hliveb hownera ?_ ?_).1 rfl
  · rw [hownerb]
    exact fun h => nomatch h
  · rw [hnamea,hnameb]
    decide

end ValkeyOperator
