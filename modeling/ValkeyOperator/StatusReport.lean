import ValkeyOperator.Reconcile

/-!
What the status reports: the role of each pod beside the label that the pod gets from the same
view, and the Available condition from one pass to the next.
-/

set_option autoImplicit false

namespace ValkeyOperator
open TextScan

structure PodList where
  pods : List Pod
  names : (pods.map (fun pod => pod.name)).Nodup

def recordRole (vc : ValkeyCluster) (entries : List NodeRoleEntry) (roles : Text → Option Role)
    (pod : Pod) : Text → Option Role :=
  match podRole vc entries pod with
  | none => roles
  | some role => Function.update roles pod.name (some role)

theorem recordRole_other {vc : ValkeyCluster} {entries : List NodeRoleEntry} {pod : Pod} {name : Text}
    (h : name ≠ pod.name) (roles : Text → Option Role) :
    recordRole vc entries roles pod name = roles name := by
  unfold recordRole
  cases podRole vc entries pod with
  | none => rfl
  | some role => exact Function.update_of_ne h ..

theorem recordRoles_other (vc : ValkeyCluster) (entries : List NodeRoleEntry) (pods : List Pod)
    (roles : Text → Option Role) {name : Text} (h : name ∉ pods.map (fun pod => pod.name)) :
    pods.foldl (recordRole vc entries) roles name = roles name := by
  induction pods generalizing roles with
  | nil => rfl
  | cons pod pods ih =>
    simp only [List.map_cons,List.mem_cons,not_or] at h
    rw [List.foldl_cons,ih _ h.2,recordRole_other h.1]

theorem podRoles_name (vc : ValkeyCluster) (entries : List NodeRoleEntry) (all : PodList) {pod : Pod}
    (h : pod ∈ all.pods) : podRoles vc entries all.pods pod.name = podRole vc entries pod := by
  obtain ⟨before,after,hsplit,hfront,hback⟩ := pods_split all.names h
  have hbefore : pod.name ∉ before.map (fun p => p.name) := by
    intro hmem
    obtain ⟨p,hp,hname⟩ := List.mem_map.mp hmem
    exact hfront p hp hname
  have hafter : pod.name ∉ after.map (fun p => p.name) := by
    intro hmem
    obtain ⟨p,hp,hname⟩ := List.mem_map.mp hmem
    exact hback p hp hname
  rw [hsplit]
  have hfold : podRoles vc entries (before ++ pod :: after) =
      (before ++ pod :: after).foldl (recordRole vc entries) (fun _ => none) := rfl
  rw [hfold,List.foldl_append,List.foldl_cons,recordRoles_other vc entries after _ hafter]
  unfold recordRole
  cases podRole vc entries pod with
  | none => exact recordRoles_other vc entries before _ hbefore
  | some role => exact Function.update_self ..

/-- syncRoleLabels patches the pods that are matched and do not have the label of their role yet. -/
def roleLabelPatch (vc : ValkeyCluster) (entries : List NodeRoleEntry) (pod : Pod) : List Event :=
  match syncedRole vc entries pod with
  | none => []
  | some role => if pod.roleLabel = some role then [] else [.labelPod pod role]

theorem foldl_labelStep_log (i : SyncInput) (vc : ValkeyCluster) (entries : List NodeRoleEntry)
    (pods : List Pod) (acc : World × Bool) :
    (pods.foldl (labelStep i vc entries) acc).1.log =
      acc.1.log ++ pods.flatMap (roleLabelPatch vc entries) := by
  induction pods generalizing acc with
  | nil => simp
  | cons pod pods ih =>
    have hstep : (labelStep i vc entries acc pod).1.log = acc.1.log ++ roleLabelPatch vc entries pod := by
      unfold labelStep roleLabelPatch
      cases syncedRole vc entries pod with
      | none => simp
      | some role =>
        by_cases hlabel : pod.roleLabel = some role
        · simp [applyPodRoleLabel,hlabel]
        · simp [applyPodRoleLabel,hlabel,World.emit]
    rw [List.foldl_cons,ih,hstep,List.flatMap_cons,List.append_assoc]

theorem syncRoleLabels_log {i : SyncInput} {pods : List Pod} {w : World} {nodesRaw : Text}
    (hview : convergedView i (totalPods w.vc) pods = some nodesRaw) (hne : nodesRaw ≠ []) :
    (syncRoleLabels i pods w).1.log =
      w.log ++ pods.flatMap (roleLabelPatch w.vc (parseNodeRoles nodesRaw)) := by
  have hpods : pods ≠ [] := by
    rintro rfl
    cases hview
  unfold syncRoleLabels
  rw [if_neg hpods,hview]
  cases nodesRaw with
  | nil => exact absurd rfl hne
  | cons c nodesRaw => exact foldl_labelStep_log i w.vc _ pods (w, false)

/-- A status input that reads the pods and the view that syncRoleLabels reads. -/
def StatusInput.reading (i : StatusInput) (all : PodList) (info nodesRaw : Text) : StatusInput :=
  { i with secretOK := true, listed := some all.pods, reply := fun _ => some (info, nodesRaw) }

theorem refreshClusterStatus_podRoles (i : StatusInput) (all : PodList) (info nodesRaw : Text)
    (w : World) {pod : Pod} (h : pod ∈ readyWithIP all.pods) :
    (refreshClusterStatus (i.reading all info nodesRaw) w).vc.status.podRoles =
      podRoles w.vc (parseNodeRoles nodesRaw) all.pods := by
  obtain ⟨first,rest,hready⟩ := List.exists_cons_of_ne_nil (List.ne_nil_of_mem h)
  simp [refreshClusterStatus,StatusInput.reading,hready,World.setStatus]

/-- The labels and PodRoles differ at a pod whose address is not in the view while its name is:
only PodRoles goes by the name then. -/
theorem roles_agree_iff (i : StatusInput) (w : World) (all : PodList) (info nodesRaw : Text) :
    (∀ pod ∈ readyWithIP all.pods, syncedRole w.vc (parseNodeRoles nodesRaw) pod =
        (refreshClusterStatus (i.reading all info nodesRaw) w).vc.status.podRoles pod.name) ↔
      ∀ pod ∈ readyWithIP all.pods, (ipToRole (parseNodeRoles nodesRaw) pod.podIP).isSome = true ∨
        hostnameToRole (parseNodeRoles nodesRaw) (stableDNS w.vc pod) = none := by
  have hone : ∀ pod ∈ readyWithIP all.pods,
      (syncedRole w.vc (parseNodeRoles nodesRaw) pod =
          (refreshClusterStatus (i.reading all info nodesRaw) w).vc.status.podRoles pod.name ↔
        (ipToRole (parseNodeRoles nodesRaw) pod.podIP).isSome = true ∨
          hostnameToRole (parseNodeRoles nodesRaw) (stableDNS w.vc pod) = none) := by
    intro pod hpod
    obtain ⟨hmem,hready⟩ := List.mem_filter.mp hpod
    have hip : pod.podIP ≠ [] := by
      simp only [Bool.and_eq_true,decide_eq_true_eq] at hready
      exact hready.2
    rw [refreshClusterStatus_podRoles i all info nodesRaw w hpod,podRoles_name _ _ all hmem]
    unfold syncedRole podRole
    cases ipToRole (parseNodeRoles nodesRaw) pod.podIP with
    | some role => simp
    | none => simp [hip,eq_comm]
  constructor
  · intro h pod hpod
    exact (hone pod hpod).mp (h pod hpod)
  · intro h pod hpod
    exact (hone pod hpod).mpr (h pod hpod)

def movedView : Text :=
  entryText '1' '1' "myself,master" ['-'] " 0-8191" ++
    entryText '2' '2' "master" ['-'] " 8192-16383" ++ entryText '3' '9' "slave" (nodeID '2') ""

def unlabelled (digit : Char) : Pod := { readyPod digit with roleLabel := none }

def freshPods : PodList where
  pods := [unlabelled '1', unlabelled '2', unlabelled '3']
  names := by decide

def quietStatus : StatusInput where
  sts := .notFound
  availableAt := 0
  rollingAt := 0
  secretOK := false
  listed := none
  reply := fun _ => none
  patchOK := true

def labelledPods (log : List Event) : List (Pod × Role) :=
  log.filterMap (fun e => match e with
    | .labelPod pod role => some (pod, role)
    | _ => none)

theorem moved_pod_roles :
    labelledPods (syncRoleLabels ⟨fun _ => some movedView, fun _ => true⟩ (readyWithIP freshPods.pods)
      (World.start (threeShards (fun _ => none)))).1.log =
        [(unlabelled '1', .primary), (unlabelled '2', .primary)] ∧
    unlabelled '3' ∈ readyWithIP freshPods.pods ∧
    syncedRole (threeShards (fun _ => none)) (parseNodeRoles movedView) (unlabelled '3') = none ∧
    (refreshClusterStatus (quietStatus.reading freshPods [] movedView)
      (World.start (threeShards (fun _ => none)))).vc.status.podRoles (unlabelled '3').name =
        some .replica := by
  decide +kernel

/-! The Available condition. -/

def availability (vc : ValkeyCluster) : Option ConditionStatus :=
  (findCondition .available vc.status.conditions).map (fun c => c.status)

/-- What Available should say about a StatefulSet. -/
def expectedStatus (vc : ValkeyCluster) (sts : StatefulSetStatus) : ConditionStatus :=
  if sts.readyReplicas = totalPods vc then .true else .false

def decides (vc : ValkeyCluster) (sts : StatefulSetStatus) : Bool :=
  decide (sts.readyReplicas ≠ 0) && decide (sts.readyReplicas ≤ totalPods vc)

theorem decides_iff {vc : ValkeyCluster} {sts : StatefulSetStatus} :
    decides vc sts = true ↔ sts.readyReplicas ≠ 0 ∧ sts.readyReplicas ≤ totalPods vc := by
  simp [decides]

theorem Restates.availability {w w' : World} (h : Restates .available w w') :
    availability w'.vc = availability w.vc := by
  obtain ⟨s,rfl,hsame⟩ := h
  unfold ValkeyOperator.availability
  rw [findCondition_eq,findCondition_eq,hsame]

theorem setCondition_availability (now : Time) (cond : Condition) (h : cond.type = .available)
    (w : World) : availability (w.setCondition now cond).vc = some cond.status := by
  obtain ⟨c,hfind,hbody⟩ := setCondition_find now cond w.vc.status.conditions
  have hstatus : c.status = cond.status := by
    simp only [Condition.body,Prod.mk.injEq] at hbody
    exact hbody.2.1
  rw [h] at hfind
  unfold availability World.setCondition
  dsimp only
  rw [hfind,Option.map_some,hstatus]

theorem setAvailability_availability (i : StatusInput) (sts : StatefulSetStatus) (w : World) :
    availability (setAvailability i sts.readyReplicas w).vc =
      if decides w.vc sts then some (expectedStatus w.vc sts) else availability w.vc := by
  unfold setAvailability expectedStatus
  dsimp only
  by_cases hzero : sts.readyReplicas = 0
  · have hkeep : ¬ decides w.vc sts = true := fun h => (decides_iff.mp h).1 hzero
    rw [if_pos hzero,if_neg hkeep]
    rfl
  · rw [if_neg hzero]
    by_cases hless : sts.readyReplicas < totalPods w.vc
    · have hnot : sts.readyReplicas ≠ totalPods w.vc := by omega
      rw [if_pos hless,if_pos (decides_iff.mpr ⟨hzero, by omega⟩),if_neg hnot]
      exact setCondition_availability _ _ rfl _
    · rw [if_neg hless]
      by_cases hall : sts.readyReplicas = totalPods w.vc
      · rw [if_pos hall,if_pos (decides_iff.mpr ⟨hzero, by omega⟩),if_pos hall]
        exact setCondition_availability _ _ rfl _
      · have hkeep : ¬ decides w.vc sts = true := fun h => by
          have hle := (decides_iff.mp h).2
          omega
        rw [if_neg hall,if_neg hkeep]

theorem fillStatus_availability (i : StatusInput) (sts : StatefulSetStatus) (w : World) :
    availability (fillStatus i sts w).vc =
      if decides w.vc sts then some (expectedStatus w.vc sts) else availability w.vc := by
  have hrest : ∀ w' : World, availability (refreshClusterStatus i (setRollingUpdate i sts w')).vc =
      availability w'.vc := fun w' =>
    ((setRollingUpdate_restates (by simp) i sts w').trans
      (refreshClusterStatus_restates i _)).availability
  have hset := setAvailability_availability i sts (w.setStatus (fun s => { s with
    readyReplicas := sts.readyReplicas
    observedGeneration := w.vc.generation }))
  unfold fillStatus
  dsimp only
  rw [hrest]
  split
  · exact hset
  · exact hset

theorem fillStatus_stored (i : StatusInput) (sts : StatefulSetStatus) (w : World) :
    (fillStatus i sts w).stored = w.stored := by
  obtain ⟨s,hs,-⟩ : Restates (.other "") w (fillStatus i sts w) :=
    fillStatus_restates (by simp) (by simp) i sts w
  rw [hs]

theorem patchStatus_conditions (base : ValkeyCluster) {w : World}
    (h : w.stored.status.conditions = base.status.conditions) (ok : Bool) :
    (w.patchStatus ok base).vc.status.conditions = w.vc.status.conditions := by
  cases ok with
  | false => rfl
  | true =>
    have hmerge : (w.patchStatus true base).vc.status.conditions =
        MergePatch.field base.status.conditions w.vc.status.conditions w.stored.status.conditions := rfl
    rw [hmerge,h,MergePatch.field_base]

/-- One pass over an object as it is stored, with a StatefulSet that exists. -/
def statusPass (vc : ValkeyCluster) (i : StatusInput) (sts : StatefulSetStatus) : World :=
  (updateStatus { i with sts := .found sts } vc (World.start vc)).1

theorem statusPass_availability (vc : ValkeyCluster) (i : StatusInput) (sts : StatefulSetStatus) :
    availability (statusPass vc i sts).vc =
      if decides vc sts then some (expectedStatus vc sts) else availability vc := by
  have hfill := fillStatus_availability { i with sts := .found sts } sts (World.start vc)
  have hpass : statusPass vc i sts = (fillStatus { i with sts := .found sts } sts
      (World.start vc)).patchStatus i.patchOK vc := rfl
  have hstored := fillStatus_stored { i with sts := .found sts } sts (World.start vc)
  have hconditions := patchStatus_conditions vc
    (congrArg (fun v => v.status.conditions) hstored) i.patchOK
  rw [hpass]
  unfold availability at hfill ⊢
  rw [hconditions]
  exact hfill

/-- Available is right after a pass that sets it, and otherwise if it happened to be right. -/
theorem statusPass_right_iff (vc : ValkeyCluster) (i : StatusInput) (sts : StatefulSetStatus) :
    availability (statusPass vc i sts).vc = some (expectedStatus vc sts) ↔
      (sts.readyReplicas ≠ 0 ∧ sts.readyReplicas ≤ totalPods vc) ∨
        availability vc = some (expectedStatus vc sts) := by
  rw [statusPass_availability,← decides_iff]
  by_cases h : decides vc sts = true
  · simp [h]
  · simp [h]

theorem patchStatus_totalPods (ok : Bool) (base : ValkeyCluster) (w : World) :
    totalPods (w.patchStatus ok base).stored = totalPods w.stored := by
  cases ok <;> rfl

theorem statusPass_stored (vc : ValkeyCluster) (i : StatusInput) (sts : StatefulSetStatus) :
    totalPods (statusPass vc i sts).stored = totalPods vc ∧
      availability (statusPass vc i sts).stored =
        if i.patchOK && decides vc sts then some (expectedStatus vc sts) else availability vc := by
  have hvc := statusPass_availability vc i sts
  have hpass : statusPass vc i sts = (fillStatus { i with sts := .found sts } sts
      (World.start vc)).patchStatus i.patchOK vc := rfl
  have hfill := fillStatus_stored { i with sts := .found sts } sts (World.start vc)
  rw [hpass] at hvc ⊢
  constructor
  · rw [patchStatus_totalPods,hfill]
    rfl
  · cases hok : i.patchOK with
    | false =>
      rw [hok] at hfill
      exact congrArg availability hfill
    | true =>
      rw [hok] at hvc
      exact hvc

def statusRun (vc : ValkeyCluster) (passes : List (StatusInput × StatefulSetStatus)) : ValkeyCluster :=
  passes.foldl (fun vc p => (statusPass vc p.1 p.2).stored) vc

/-- After a run Available says what the last pass that set it found, however many passes have
seen other counts since. -/
theorem statusRun_availability (vc : ValkeyCluster) (passes : List (StatusInput × StatefulSetStatus)) :
    totalPods (statusRun vc passes) = totalPods vc ∧
      availability (statusRun vc passes) =
        ((passes.reverse.find? (fun p => p.1.patchOK && decides vc p.2)).map
          (fun p => expectedStatus vc p.2)).or (availability vc) := by
  induction passes using List.reverseRecOn with
  | nil => exact ⟨rfl, rfl⟩
  | append_singleton passes p ih =>
    have hconcat : statusRun vc (passes ++ [p]) = (statusPass (statusRun vc passes) p.1 p.2).stored := by
      simp [statusRun]
    obtain ⟨htotal,havail⟩ := statusPass_stored (statusRun vc passes) p.1 p.2
    have hdecides : decides (statusRun vc passes) p.2 = decides vc p.2 := by
      unfold decides
      rw [ih.1]
    have hexpected : expectedStatus (statusRun vc passes) p.2 = expectedStatus vc p.2 := by
      unfold expectedStatus
      rw [ih.1]
    rw [hconcat]
    refine ⟨htotal.trans ih.1, ?_⟩
    rw [havail,hdecides,hexpected,List.reverse_concat,List.find?_cons,ih.2]
    cases p.1.patchOK && decides vc p.2 <;> rfl

def noPodReady : StatefulSetStatus := ⟨3, 3, 0, 3, [], []⟩
def allPodsReady : StatefulSetStatus := ⟨3, 3, 3, 3, [], []⟩

theorem available_without_pods :
    totalPods (threeShards (fun _ => none)) = 3 ∧
    availability (statusRun (threeShards (fun _ => none)) [(quietStatus, allPodsReady)]) = some .true ∧
    availability (statusRun (threeShards (fun _ => none))
      [(quietStatus, allPodsReady), (quietStatus, noPodReady)]) = some .true ∧
    (statusRun (threeShards (fun _ => none))
      [(quietStatus, allPodsReady), (quietStatus, noPodReady)]).status.readyReplicas = 0 := by
  decide +kernel

end ValkeyOperator
