import ValkeyOperator.Commands
import Mathlib.Data.List.Nodup

/-!
The labels of the pods that belong to a ValkeyCluster, and whom the operator's selector
finds by them while one of its Jobs runs.
-/

set_option autoImplicit false

namespace ValkeyOperator
open TextScan

def nameLabel : Text := "app.kubernetes.io/name".toList
def instanceLabel : Text := "app.kubernetes.io/instance".toList
def managedByLabel : Text := "app.kubernetes.io/managed-by".toList

def commonLabels (vc : ValkeyCluster) : List (Text × Text) :=
  [(nameLabel, "valkeycluster".toList), (instanceLabel, vc.name), (managedByLabel, "valkey-operator".toList)]

def podSelector (vc : ValkeyCluster) : List (Text × Text) :=
  [(nameLabel, "valkeycluster".toList), (instanceLabel, vc.name)]

def podSelectorMap (vc : ValkeyCluster) : List (Text × Text) :=
  [(nameLabel, "valkeycluster".toList), (instanceLabel, vc.name)]

def bootstrapJobLabels (vc : ValkeyCluster) : List (Text × Text) :=
  [(nameLabel, "valkeycluster-bootstrap".toList), (instanceLabel, vc.name),
    (managedByLabel, "valkey-operator".toList)]

inductive Owner
  | statefulSet
  | job : JobName → Owner
  deriving DecidableEq, Repr

/-- The labels of the pod template in reconcileStatefulSet and in the three Job builders. -/
def templateLabels (vc : ValkeyCluster) : Owner → List (Text × Text)
  | .statefulSet => commonLabels vc
  | .job .bootstrap => bootstrapJobLabels vc
  | .job .rebalance => commonLabels vc
  | .job (.rdbRecovery _) => commonLabels vc

/-- A pod in the namespace with the labels of its template, and with any others. -/
structure OwnedPod (vc : ValkeyCluster) where
  pod : Pod
  owner : Owner
  label : Text → Option Text
  labelled : ∀ kv ∈ templateLabels vc owner, label kv.1 = some kv.2

structure Population (vc : ValkeyCluster) where
  pods : List (OwnedPod vc)
  names : (pods.map (fun p => p.pod.name)).Nodup

section
variable {vc : ValkeyCluster}

def OwnedPod.matches (selector : List (Text × Text)) (p : OwnedPod vc) : Bool :=
  selector.all (fun kv => decide (p.label kv.1 = some kv.2))

def listPods (all : Population vc) : List Pod :=
  (all.pods.filter (fun p => p.matches (podSelector vc))).map (fun p => p.pod)

/-- The client Service publishes ready addresses only. -/
def clientEndpoints (all : Population vc) : List Pod :=
  (all.pods.filter (fun p => p.matches (podSelectorMap vc) && isPodReady p.pod)).map (fun p => p.pod)

def servers (all : Population vc) : List Pod :=
  (all.pods.filter (fun p => p.owner = .statefulSet)).map (fun p => p.pod)

/-- The name label tells the pods of the bootstrap Job apart, and no others. -/
theorem OwnedPod.matches_iff (p : OwnedPod vc) :
    p.matches (podSelector vc) = true ↔ p.owner ≠ .job .bootstrap := by
  have hlabel := p.labelled
  cases howner : p.owner with
  | statefulSet =>
    simp only [howner,templateLabels,commonLabels,List.forall_mem_cons] at hlabel
    simp [OwnedPod.matches,podSelector,hlabel.1,hlabel.2.1]
  | job name =>
    cases name with
    | bootstrap =>
      simp only [howner,templateLabels,bootstrapJobLabels,List.forall_mem_cons] at hlabel
      simp [OwnedPod.matches,podSelector,hlabel.1]
    | rebalance =>
      simp only [howner,templateLabels,commonLabels,List.forall_mem_cons] at hlabel
      simp [OwnedPod.matches,podSelector,hlabel.1,hlabel.2.1]
    | rdbRecovery name =>
      simp only [howner,templateLabels,commonLabels,List.forall_mem_cons] at hlabel
      simp [OwnedPod.matches,podSelector,hlabel.1,hlabel.2.1]

theorem mem_servers {all : Population vc} {pod : Pod} :
    pod ∈ servers all ↔ ∃ p ∈ all.pods, p.owner = .statefulSet ∧ p.pod = pod := by
  simp only [servers,List.mem_map,List.mem_filter,decide_eq_true_eq,and_assoc]

theorem Population.not_server (all : Population vc) {p : OwnedPod vc} (hp : p ∈ all.pods)
    (h : p.owner ≠ .statefulSet) : p.pod ∉ servers all := by
  intro hmem
  obtain ⟨q,hq,howner,hpod⟩ := mem_servers.mp hmem
  have hname : q.pod.name = p.pod.name := by rw [hpod]
  have hsame := List.inj_on_of_nodup_map all.names hq hp hname
  rw [hsame] at howner
  exact h howner

def Population.Plain (all : Population vc) : Prop :=
  ∀ p ∈ all.pods, p.owner = .statefulSet ∨ p.owner = .job .bootstrap

theorem Population.Plain.matches_iff {all : Population vc} (h : all.Plain) {p : OwnedPod vc}
    (hp : p ∈ all.pods) : p.matches (podSelector vc) = true ↔ p.owner = .statefulSet := by
  rw [p.matches_iff]
  constructor
  · exact fun hne => (h p hp).resolve_right hne
  · intro hsts hboot
    rw [hsts] at hboot
    cases hboot

theorem Population.Plain.listPods {all : Population vc} (h : all.Plain) : listPods all = servers all := by
  unfold ValkeyOperator.listPods servers
  refine congrArg (List.map _) (List.filter_congr (fun p hp => ?_))
  rw [Bool.eq_iff_iff,decide_eq_true_eq]
  exact h.matches_iff hp

/-- What the operator takes for granted of its selector: it finds servers only, so that as
many ready pods as there should be are all of them, and neither a command nor a client comes
to the pod of a Job. -/
structure ServersOnly (all : Population vc) : Prop where
  listed : ∀ p ∈ all.pods, p.matches (podSelector vc) = true → p.owner = .statefulSet
  ready : totalPods vc ≤ (readyWithIP (listPods all)).length → ∀ pod ∈ servers all, isPodReady pod = true
  commands : ∀ (sum256 : Text → Digest) (i : PassInput), i.ListsOnly (fun pod => pod ∈ listPods all) →
    ∀ e ∈ (reconcile sum256 i vc).world.log, ∀ p ∈ all.pods, p.owner ≠ .statefulSet → p.pod ∉ e.targets
  peers : ∀ i : PassInput, i.ListsOnly (fun pod => pod ∈ listPods all) →
    ∀ p ∈ all.pods, p.owner ≠ .statefulSet → p.pod ∉ gossipPeers i.topology.gossip
  endpoints : ∀ p ∈ all.pods, p.owner ≠ .statefulSet → p.pod ∉ clientEndpoints all

/-- The pods of a rebalance or of a recovery carry the labels of a server. Without them the
selector does its work, as long as the StatefulSet has no pods too many. -/
theorem serversOnly_iff (all : Population vc) :
    ServersOnly all ↔ all.Plain ∧
      (totalPods vc ≤ (readyWithIP (servers all)).length → ∀ pod ∈ servers all, isPodReady pod = true) := by
  constructor
  · intro h
    have hplain : all.Plain := by
      intro p hp
      by_cases hboot : p.owner = .job .bootstrap
      · exact .inr hboot
      · exact .inl (h.listed p hp (p.matches_iff.mpr hboot))
    have hready := h.ready
    rw [hplain.listPods] at hready
    exact ⟨hplain, hready⟩
  · rintro ⟨hplain,hready⟩
    have hlist := hplain.listPods
    refine ⟨fun p hp => (hplain.matches_iff hp).mp, by rw [hlist]; exact hready, ?_, ?_, ?_⟩
    · intro sum256 i hi e he p hp howner htarget
      rw [hlist] at hi
      exact all.not_server hp howner (reconcile_targets sum256 hi vc e he p.pod htarget)
    · intro i hi p hp howner hpeer
      rw [hlist] at hi
      have hlisted := hi i.topology.gossip.listed (by simp [PassInput.listings])
      exact all.not_server hp howner (hlisted p.pod (List.mem_filter.mp hpeer).1)
    · intro p hp howner hend
      refine all.not_server hp howner ?_
      rw [← hlist]
      simp only [clientEndpoints,ValkeyOperator.listPods,List.mem_map,List.mem_filter,Bool.and_eq_true] at hend ⊢
      obtain ⟨q,⟨hq,hmatch,-⟩,hpod⟩ := hend
      exact ⟨q, ⟨hq, hmatch⟩, hpod⟩

/-- A StatefulSet that has no more pods than it should does not hide one that is not ready. -/
theorem servers_ready {all : Population vc} (hfits : ((servers all).length : Int) ≤ totalPods vc)
    (h : totalPods vc ≤ (readyWithIP (servers all)).length) : ∀ pod ∈ servers all, isPodReady pod = true := by
  have hle := List.length_filter_le (fun pod => isPodReady pod && decide (pod.podIP ≠ [])) (servers all)
  have hall : (readyWithIP (servers all)).length = (servers all).length := by
    unfold readyWithIP at h ⊢
    omega
  intro pod hpod
  have hready := List.length_filter_eq_length_iff.mp hall pod hpod
  rw [Bool.and_eq_true] at hready
  exact hready.1

end

def ownedPod (vc : ValkeyCluster) (owner : Owner) (pod : Pod) : OwnedPod vc where
  pod := pod
  owner := owner
  label := fun k => (templateLabels vc owner).lookup k
  labelled := by
    have hlookup : ∀ name : Text, ∀ kv ∈ [(nameLabel, name), (instanceLabel, vc.name),
        (managedByLabel, "valkey-operator".toList)],
        [(nameLabel, name), (instanceLabel, vc.name),
          (managedByLabel, "valkey-operator".toList)].lookup kv.1 = some kv.2 := by
      intro name
      have hname : (instanceLabel == nameLabel) = false := by decide
      have hmanaged : (managedByLabel == nameLabel) = false := by decide
      have hinstance : (managedByLabel == instanceLabel) = false := by decide
      simp [List.lookup_cons,hname,hmanaged,hinstance]
    cases owner with
    | statefulSet => exact hlookup _
    | job name => cases name <;> exact hlookup _

def recovering : Population (threeShards (fun _ => none)) where
  pods := [ownedPod _ .statefulSet (readyPod '1'), ownedPod _ .statefulSet (readyPod '2'),
    ownedPod _ .statefulSet { readyPod '3' with ready := some .false },
    ownedPod _ (.job (.rdbRecovery "vk-3".toList)) { readyPod '4' with name := "vk-3-rdb-recovery-x7k2p".toList }]
  names := by decide

theorem recovering_counts_job :
    totalPods (threeShards (fun _ => none)) ≤ (readyWithIP (listPods recovering)).length ∧
      (∃ pod ∈ servers recovering, isPodReady pod = false) ∧
      { readyPod '4' with name := "vk-3-rdb-recovery-x7k2p".toList } ∈ clientEndpoints recovering ∧
      ¬ ServersOnly recovering := by
  have hcount : totalPods (threeShards (fun _ => none)) ≤ (readyWithIP (listPods recovering)).length := by
    decide +kernel
  have hdown : ∃ pod ∈ servers recovering, isPodReady pod = false := by decide +kernel
  refine ⟨hcount, hdown, by decide +kernel, fun h => ?_⟩
  obtain ⟨pod,hpod,hnot⟩ := hdown
  rw [h.ready hcount pod hpod] at hnot
  cases hnot

end ValkeyOperator
