import ValkeyOperator.ClusterText

/-! Nodes that are gone: observed, timed by an annotation for each, and forgotten. -/

set_option autoImplicit false

namespace ValkeyOperator
open TextScan

structure StatefulSetStatus where
  specReplicas : Int
  replicas : Int
  readyReplicas : Int
  updatedReplicas : Int
  currentRevision : Text
  updateRevision : Text
  deriving DecidableEq, Repr

def staleNodeTimeout : Int := 30*second

/-- `sts` and `listed` are missing when their read fails. -/
structure ForgetInput where
  sts : Option StatefulSetStatus
  listed : Option (List Pod)
  now : Time
  patchOK : Bool
  connects : Pod → Bool

def stsMoving (vc : ValkeyCluster) : Option StatefulSetStatus → Bool
  | none => false
  | some sts => sts.currentRevision ≠ sts.updateRevision || decide (sts.replicas ≠ totalPods vc)

def knownIPs (pods : List Pod) : List Text := (pods.map (·.podIP)).filter (fun ip => ip ≠ [])

def isStale (pods : List Pod) (n : ClusterNodeState) : Bool :=
  isFailing n.flags && !(knownIPs pods).contains n.ip

structure StaleScan where
  world : World
  annotationsChanged : Bool
  staleIDs : List Text

def StaleScan.observe (now : Time) (pods : List Pod) (s : StaleScan) (n : ClusterNodeState) :
    StaleScan :=
  let key := AnnotationKey.staleSince n.id
  if !isStale pods n then
    match s.world.vc.annotations key with
    | none => s
    | some _ => { s with world := s.world.annotate key none, annotationsChanged := true }
  else
    match s.world.vc.annotations key with
    | none =>
      { s with world := s.world.annotate key (some (formatRFC3339 now)), annotationsChanged := true }
    | some firstSeenStr =>
      match parseRFC3339 firstSeenStr with
      | none => s
      | some firstSeen =>
        if now - firstSeen < staleNodeTimeout then s
        else { s with staleIDs := s.staleIDs ++ [n.id] }

def StaleScan.untrack (s : StaleScan) (id : Text) : StaleScan :=
  { s with world := s.world.annotate (.staleSince id) none, annotationsChanged := true }

def sendForget (staleIDs : List Text) (w : World) (pod : Pod) : World :=
  staleIDs.foldl (fun w id => w.emit (.forget pod id)) w

def staleScan (now : Time) (pods : List Pod) (nodes : List ClusterNodeState) (w : World) :
    StaleScan :=
  let scan := nodes.foldl (StaleScan.observe now pods) ⟨w, false, []⟩
  scan.staleIDs.foldl StaleScan.untrack scan

/-- One patch covers what the scan changed. -/
def trackStale (i : ForgetInput) (pods : List Pod) (nodes : List ClusterNodeState) (w : World) :
    World :=
  let scan := staleScan i.now pods nodes w
  if scan.annotationsChanged then scan.world.patch i.patchOK w.vc else scan.world

def forgetStaleNodes (i : ForgetInput) (nodes : List ClusterNodeState) (w : World) : World × Bool :=
  if stsMoving w.vc i.sts then (w, false)
  else
    match i.listed with
    | none => (w, true)
    | some pods =>
      if pods.any (·.deleting) then (w, false)
      else
        let staleIDs := (staleScan i.now pods nodes w).staleIDs
        let patched := trackStale i pods nodes w
        (((readyWithIP pods).filter i.connects).foldl (sendForget staleIDs) patched, false)

inductive Observed (now : Time) (pods : List Pod) (s : StaleScan) (n : ClusterNodeState) :
    StaleScan → Prop where
  | untracked : isStale pods n = false → s.world.vc.annotations (.staleSince n.id) = none →
      Observed now pods s n s
  | cleared : isStale pods n = false → s.world.vc.annotations (.staleSince n.id) ≠ none →
      Observed now pods s n
        ⟨s.world.annotate (.staleSince n.id) none, true, s.staleIDs⟩
  | started : isStale pods n = true → s.world.vc.annotations (.staleSince n.id) = none →
      Observed now pods s n
        ⟨s.world.annotate (.staleSince n.id) (some (formatRFC3339 now)), true, s.staleIDs⟩
  | waiting : isStale pods n = true → s.world.vc.annotations (.staleSince n.id) ≠ none →
      Observed now pods s n s
  | due (v : AnnotationValue) (firstSeen : Time) : isStale pods n = true →
      s.world.vc.annotations (.staleSince n.id) = some v → parseRFC3339 v = some firstSeen →
      staleNodeTimeout ≤ now - firstSeen →
      Observed now pods s n ⟨s.world, s.annotationsChanged, s.staleIDs ++ [n.id]⟩

theorem observe_cases (now : Time) (pods : List Pod) (s : StaleScan) (n : ClusterNodeState) :
    Observed now pods s n (s.observe now pods n) := by
  unfold StaleScan.observe
  dsimp only
  cases hst : isStale pods n with
  | false =>
    cases hv : s.world.vc.annotations (.staleSince n.id) with
    | none => exact .untracked hst hv
    | some v => exact .cleared hst (by simp [hv])
  | true =>
    cases hv : s.world.vc.annotations (.staleSince n.id) with
    | none => exact .started hst hv
    | some v =>
      have hne : s.world.vc.annotations (.staleSince n.id) ≠ none := by simp [hv]
      cases hp : parseRFC3339 v with
      | none => simpa [hp] using Observed.waiting hst hne
      | some firstSeen =>
        by_cases hw : now - firstSeen < staleNodeTimeout
        · simpa [hp,hw] using Observed.waiting hst hne
        · simpa [hp,hw] using Observed.due v firstSeen hst hv hp (Int.not_lt.mp hw)

/-- What a scan knows about one node ID, from the annotation `a` it started with. -/
structure Scanned (now : Time) (pods : List Pod) (a : Option AnnotationValue) (id : Text)
    (nodes : List ClusterNodeState) (s : StaleScan) : Prop where
  value : s.world.vc.annotations (.staleSince id) = a ∨
    s.world.vc.annotations (.staleSince id) = none ∨
    s.world.vc.annotations (.staleSince id) = some (formatRFC3339 now)
  started : s.world.vc.annotations (.staleSince id) ≠ a →
    s.world.vc.annotations (.staleSince id) ≠ none → ∃ n ∈ nodes, n.id = id ∧ isStale pods n = true
  kept : s.world.vc.annotations (.staleSince id) ≠ none → (∃ n ∈ nodes, n.id = id) →
    ∃ n ∈ nodes, n.id = id ∧ isStale pods n = true
  due : id ∈ s.staleIDs → (∃ n ∈ nodes, n.id = id ∧ isStale pods n = true) ∧
    ∃ v firstSeen, a = some v ∧ parseRFC3339 v = some firstSeen ∧ staleNodeTimeout ≤ now - firstSeen

theorem formatRFC3339_not_due (now : Time) {firstSeen : Time}
    (h : parseRFC3339 (formatRFC3339 now) = some firstSeen) :
    ¬ staleNodeTimeout ≤ now - firstSeen := by
  have hlt := Stamps.lt_truncate_add second_pos now
  rw [parseRFC3339_format] at h
  cases h
  have hs : second = 1000000000 := rfl
  have ht : staleNodeTimeout = 30*second := rfl
  omega

section
variable {now : Time} {pods : List Pod} {a : Option AnnotationValue} {id : Text}
  {nodes : List ClusterNodeState} {s : StaleScan}

theorem exists_concat (n : ClusterNodeState) {P : ClusterNodeState → Prop}
    (h : ∃ m ∈ nodes, m.id = id ∧ P m) : ∃ m ∈ nodes ++ [n], m.id = id ∧ P m := by
  obtain ⟨m,hm,hid,hP⟩ := h
  exact ⟨m, by simp [hm], hid, hP⟩

theorem Scanned.observe_self {n : ClusterNodeState} (h : Scanned now pods a n.id nodes s) :
    Scanned now pods a n.id (nodes ++ [n]) (s.observe now pods n) := by
  have hcases := observe_cases now pods s n
  have hnew : isStale pods n = true → ∃ m ∈ nodes ++ [n], m.id = n.id ∧ isStale pods m = true :=
    fun hst => ⟨n, by simp, rfl, hst⟩
  have hdue := fun hd => And.intro (exists_concat n (h.due hd).1) (h.due hd).2
  generalize s.observe now pods n = s' at hcases
  cases hcases with
  | untracked hst hv => exact ⟨h.value, fun _ hne => absurd hv hne, fun hne => absurd hv hne, hdue⟩
  | cleared hst hv =>
    exact ⟨.inr (.inl (by simp)), fun _ hne => absurd (by simp) hne, fun hne => absurd (by simp) hne, hdue⟩
  | started hst hv => exact ⟨.inr (.inr (by simp)), fun _ _ => hnew hst, fun _ _ => hnew hst, hdue⟩
  | waiting hst hv => exact ⟨h.value, fun _ _ => hnew hst, fun _ _ => hnew hst, hdue⟩
  | due v firstSeen hst hv hp ht =>
    refine ⟨h.value, fun _ _ => hnew hst, fun _ _ => hnew hst, fun _ => ⟨hnew hst, ?_⟩⟩
    rcases h.value with ha | hnone | hnow
    · exact ⟨v, firstSeen, ha.symm.trans hv, hp, ht⟩
    · rw [hnone] at hv
      cases hv
    · rw [hnow] at hv
      cases hv
      exact absurd ht (formatRFC3339_not_due now hp)

theorem Scanned.observe_other {n : ClusterNodeState} (hid : n.id ≠ id) (h : Scanned now pods a id nodes s) :
    Scanned now pods a id (nodes ++ [n]) (s.observe now pods n) := by
  have hcases := observe_cases now pods s n
  have hkey : AnnotationKey.staleSince id ≠ .staleSince n.id := by
    intro hh
    cases hh
    exact hid rfl
  have hsame : (s.observe now pods n).world.vc.annotations (.staleSince id) =
      s.world.vc.annotations (.staleSince id) := by
    generalize s.observe now pods n = s' at hcases
    cases hcases <;> simp [hkey]
  have hids : id ∈ (s.observe now pods n).staleIDs ↔ id ∈ s.staleIDs := by
    generalize s.observe now pods n = s' at hcases
    cases hcases <;> simp [hid.symm]
  refine ⟨by rw [hsame]; exact h.value, ?_, ?_, ?_⟩
  · rw [hsame]
    exact fun h₁ h₂ => exists_concat n (h.started h₁ h₂)
  · rw [hsame]
    rintro hne ⟨m,hm,hmid⟩
    rcases List.mem_append.mp hm with hm | hm
    · exact exists_concat n (h.kept hne ⟨m,hm,hmid⟩)
    · rw [List.mem_singleton.mp hm] at hmid
      exact absurd hmid hid
  · intro hd
    have hd' := h.due (hids.mp hd)
    exact ⟨exists_concat n hd'.1, hd'.2⟩

theorem Scanned.observe (h : Scanned now pods a id nodes s) (n : ClusterNodeState) :
    Scanned now pods a id (nodes ++ [n]) (s.observe now pods n) := by
  by_cases hid : n.id = id
  · subst hid
    exact h.observe_self
  · exact h.observe_other hid

end

theorem Scanned.foldl {now : Time} {pods : List Pod} {a : Option AnnotationValue} {id : Text}
    {seen : List ClusterNodeState} {s : StaleScan} (h : Scanned now pods a id seen s)
    (nodes : List ClusterNodeState) :
    Scanned now pods a id (seen ++ nodes) (nodes.foldl (StaleScan.observe now pods) s) := by
  induction nodes generalizing seen s with
  | nil => simpa using h
  | cons n nodes ih => simpa using ih (h.observe n)

theorem untrack_foldl (ids : List Text) (s : StaleScan) :
    (ids.foldl StaleScan.untrack s).staleIDs = s.staleIDs ∧
    ∀ id, (ids.foldl StaleScan.untrack s).world.vc.annotations (.staleSince id) =
      if id ∈ ids then none else s.world.vc.annotations (.staleSince id) := by
  induction ids generalizing s with
  | nil => simp
  | cons j ids ih =>
    obtain ⟨hids,hval⟩ := ih (s.untrack j)
    refine ⟨hids, fun id => ?_⟩
    rw [List.foldl_cons,hval id]
    by_cases hmem : id ∈ ids
    · simp [hmem]
    · by_cases hj : id = j
      · subst hj
        simp [hmem,StaleScan.untrack]
      · have hkey : AnnotationKey.staleSince id ≠ .staleSince j := by
          intro hh
          cases hh
          exact hj rfl
        simp [hmem,hj,StaleScan.untrack,hkey]

theorem staleScan_spec (now : Time) (pods : List Pod) (nodes : List ClusterNodeState) (w : World)
    (id : Text) :
    Scanned now pods (w.vc.annotations (.staleSince id)) id nodes (staleScan now pods nodes w) ∧
    (id ∈ (staleScan now pods nodes w).staleIDs →
      (staleScan now pods nodes w).world.vc.annotations (.staleSince id) = none) := by
  have hstart : Scanned now pods (w.vc.annotations (.staleSince id)) id [] ⟨w, false, []⟩ :=
    ⟨.inl rfl, fun hne => absurd rfl hne, by simp, by simp⟩
  have hscan := hstart.foldl nodes
  rw [List.nil_append] at hscan
  unfold staleScan
  dsimp only
  generalize nodes.foldl (StaleScan.observe now pods) ⟨w, false, []⟩ = scan at hscan
  obtain ⟨hids,hval⟩ := untrack_foldl scan.staleIDs scan
  have hv := hval id
  by_cases hmem : id ∈ scan.staleIDs
  · rw [if_pos hmem] at hv
    refine ⟨⟨.inr (.inl hv), fun _ hne => absurd hv hne, fun hne => absurd hv hne, ?_⟩, fun _ => hv⟩
    rw [hids]
    exact hscan.due
  · rw [if_neg hmem] at hv
    refine ⟨⟨?_, ?_, ?_, ?_⟩, ?_⟩
    · rw [hv]
      exact hscan.value
    · rw [hv]
      exact hscan.started
    · rw [hv]
      exact hscan.kept
    · rw [hids]
      exact hscan.due
    · rw [hids]
      exact fun h => absurd h hmem

theorem observe_edit {keys : AnnotationKey → Prop} (hk : ∀ id, ¬ keys (.staleSince id))
    (now : Time) (pods : List Pod) (nodes : List ClusterNodeState) (s : StaleScan) :
    Edit keys s.world (nodes.foldl (StaleScan.observe now pods) s).world := by
  induction nodes generalizing s with
  | nil => exact Edit.refl keys s.world
  | cons n nodes ih =>
    refine Edit.trans ?_ (ih (s.observe now pods n))
    have hcases := observe_cases now pods s n
    generalize s.observe now pods n = s' at hcases
    cases hcases with
    | untracked | waiting | due => exact Edit.refl keys s.world
    | cleared | started => exact Edit.annotate (hk n.id) _ s.world

theorem untrack_edit {keys : AnnotationKey → Prop} (hk : ∀ id, ¬ keys (.staleSince id))
    (ids : List Text) (s : StaleScan) :
    Edit keys s.world (ids.foldl StaleScan.untrack s).world := by
  induction ids generalizing s with
  | nil => exact Edit.refl keys s.world
  | cons id ids ih => exact (Edit.annotate (hk id) none s.world).trans (ih (s.untrack id))

theorem staleScan_edit {keys : AnnotationKey → Prop} (hk : ∀ id, ¬ keys (.staleSince id))
    (now : Time) (pods : List Pod) (nodes : List ClusterNodeState) (w : World) :
    Edit keys w (staleScan now pods nodes w).world :=
  (observe_edit hk now pods nodes ⟨w, false, []⟩).trans (untrack_edit hk _ _)

theorem observe_unchanged (now : Time) (pods : List Pod) (nodes : List ClusterNodeState)
    (s : StaleScan)
    (h : (nodes.foldl (StaleScan.observe now pods) s).annotationsChanged = false) :
    s.annotationsChanged = false ∧ (nodes.foldl (StaleScan.observe now pods) s).world = s.world := by
  induction nodes generalizing s with
  | nil => exact ⟨h, rfl⟩
  | cons n nodes ih =>
    obtain ⟨hflag,hworld⟩ := ih (s.observe now pods n) h
    have hcases := observe_cases now pods s n
    rw [List.foldl_cons,hworld]
    generalize s.observe now pods n = s' at hcases hflag
    cases hcases with
    | untracked | waiting | due => exact ⟨hflag, rfl⟩
    | cleared | started => simp at hflag

theorem untrack_changed (ids : List Text) (s : StaleScan) :
    (ids.foldl StaleScan.untrack s).annotationsChanged = (s.annotationsChanged || !ids.isEmpty) := by
  induction ids generalizing s with
  | nil => simp
  | cons id ids ih =>
    rw [List.foldl_cons,ih]
    simp [StaleScan.untrack]

theorem staleScan_unchanged {now : Time} {pods : List Pod} {nodes : List ClusterNodeState}
    {w : World} (h : (staleScan now pods nodes w).annotationsChanged = false) :
    (staleScan now pods nodes w).world = w := by
  unfold staleScan at h ⊢
  dsimp only at h ⊢
  rw [untrack_changed,Bool.or_eq_false_iff] at h
  obtain ⟨hflag,hids⟩ := h
  have hnil : (nodes.foldl (StaleScan.observe now pods) ⟨w, false, []⟩).staleIDs = [] := by
    simpa using hids
  rw [hnil]
  exact (observe_unchanged now pods nodes ⟨w, false, []⟩ hflag).2

def staleChange (now : Time) (pods : List Pod) (annotations : Annotations) (n : ClusterNodeState) :
    Bool :=
  match annotations (.staleSince n.id) with
  | none => isStale pods n
  | some firstSeenStr =>
    !isStale pods n ||
      match parseRFC3339 firstSeenStr with
      | none => false
      | some firstSeen => decide (staleNodeTimeout ≤ now - firstSeen)

def StaleScan.dirty (s : StaleScan) : Bool := s.annotationsChanged || !s.staleIDs.isEmpty

theorem observe_change (now : Time) (pods : List Pod) (s : StaleScan) (n : ClusterNodeState) :
    if staleChange now pods s.world.vc.annotations n then (s.observe now pods n).dirty = true
    else s.observe now pods n = s := by
  unfold StaleScan.observe staleChange
  dsimp only
  cases hst : isStale pods n with
  | false => cases hv : s.world.vc.annotations (.staleSince n.id) <;> simp [StaleScan.dirty]
  | true =>
    cases hv : s.world.vc.annotations (.staleSince n.id) with
    | none => simp [StaleScan.dirty]
    | some v =>
      cases hp : parseRFC3339 v with
      | none => simp [hp]
      | some firstSeen =>
        by_cases hw : now - firstSeen < staleNodeTimeout
        · have hnot : ¬ staleNodeTimeout ≤ now - firstSeen := Int.not_le.mpr hw
          simp [hp,hw,hnot]
        · have hle : staleNodeTimeout ≤ now - firstSeen := Int.not_lt.mp hw
          simp [hp,hw,hle,StaleScan.dirty]

theorem observe_dirty (now : Time) (pods : List Pod) (nodes : List ClusterNodeState) (s : StaleScan) :
    (nodes.foldl (StaleScan.observe now pods) s).dirty =
      (s.dirty || nodes.any (staleChange now pods s.world.vc.annotations)) := by
  induction nodes generalizing s with
  | nil => simp
  | cons n nodes ih =>
    have hstep := observe_change now pods s n
    rw [List.foldl_cons,ih,List.any_cons]
    cases hn : staleChange now pods s.world.vc.annotations n with
    | false =>
      rw [hn,if_neg Bool.false_ne_true] at hstep
      simp [hstep]
    | true =>
      rw [hn,if_pos rfl] at hstep
      simp [hstep]

theorem staleScan_changed (now : Time) (pods : List Pod) (nodes : List ClusterNodeState) (w : World) :
    (staleScan now pods nodes w).annotationsChanged =
      nodes.any (staleChange now pods w.vc.annotations) := by
  have hdirty := observe_dirty now pods nodes ⟨w, false, []⟩
  unfold staleScan
  dsimp only
  rw [untrack_changed]
  simpa [StaleScan.dirty] using hdirty

theorem trackStale_stored {i : ForgetInput} {pods : List Pod} {nodes : List ClusterNodeState}
    {w : World} (hp : i.patchOK = true) {k : AnnotationKey} (hs : w.Synced k) :
    (trackStale i pods nodes w).stored.annotations k =
      (staleScan i.now pods nodes w).world.vc.annotations k := by
  have hedit : Edit (fun _ => False) w (staleScan i.now pods nodes w).world :=
    staleScan_edit (fun _ h => h) i.now pods nodes w
  unfold trackStale
  dsimp only
  cases hc : (staleScan i.now pods nodes w).annotationsChanged with
  | true =>
    rw [if_pos rfl,hp]
    exact hedit.patched hs
  | false =>
    rw [if_neg (by simp),staleScan_unchanged hc]
    exact hs.symm

theorem trackStale_frame {keys : AnnotationKey → Prop} {acts : Event → Prop}
    (hk : ∀ id, ¬ keys (.staleSince id)) (i : ForgetInput) (pods : List Pod)
    (nodes : List ClusterNodeState) (w : World) : Frame keys acts w (trackStale i pods nodes w) := by
  have hedit := staleScan_edit hk i.now pods nodes w
  unfold trackStale
  dsimp only
  split
  · exact Frame.editPatch hedit i.patchOK
  · exact Frame.edit hedit

theorem trackStale_log (i : ForgetInput) (pods : List Pod) (nodes : List ClusterNodeState)
    (w : World) : (trackStale i pods nodes w).log = w.log := by
  have h : Frame (fun _ => False) (fun _ => False) w (trackStale i pods nodes w) :=
    trackStale_frame (fun _ h => h) i pods nodes w
  exact h.log_eq

theorem sendForget_eq (ids : List Text) (w : World) (pod : Pod) :
    sendForget ids w pod = { w with log := w.log ++ ids.map (Event.forget pod) } := by
  unfold sendForget
  induction ids generalizing w with
  | nil => simp
  | cons id ids ih =>
    rw [List.foldl_cons,ih]
    simp

theorem sendForgets_eq (ids : List Text) (pods : List Pod) (w : World) :
    pods.foldl (sendForget ids) w =
      { w with log := w.log ++ pods.flatMap (fun pod => ids.map (Event.forget pod)) } := by
  induction pods generalizing w with
  | nil => simp
  | cons pod pods ih => simp [ih,sendForget_eq]

def guardedPods (vc : ValkeyCluster) (i : ForgetInput) : Option (List Pod) :=
  if stsMoving vc i.sts then none
  else
    match i.listed with
    | none => none
    | some pods => if pods.any (·.deleting) then none else some pods

theorem guardedPods_some {vc : ValkeyCluster} {i : ForgetInput} {pods : List Pod}
    (h : guardedPods vc i = some pods) :
    i.listed = some pods ∧ ∀ pod ∈ pods, pod.deleting = false := by
  unfold guardedPods at h
  split at h
  · cases h
  · split at h
    · cases h
    · split at h
      · cases h
      · rename_i hl hd
        cases h
        exact ⟨hl, by simpa using hd⟩

def forgetEvents (i : ForgetInput) (pods : List Pod) (nodes : List ClusterNodeState) (w : World) :
    List Event :=
  ((readyWithIP pods).filter i.connects).flatMap
    (fun pod => (staleScan i.now pods nodes w).staleIDs.map (Event.forget pod))

theorem forgetStaleNodes_eq (i : ForgetInput) (nodes : List ClusterNodeState) (w : World) :
    (forgetStaleNodes i nodes w).1 =
      match guardedPods w.vc i with
      | none => w
      | some pods =>
        { trackStale i pods nodes w with log := w.log ++ forgetEvents i pods nodes w } := by
  unfold forgetStaleNodes guardedPods forgetEvents
  cases hm : stsMoving w.vc i.sts with
  | true => rfl
  | false =>
    cases hl : i.listed with
    | none => rfl
    | some pods =>
      cases hd : pods.any (·.deleting) with
      | true => simp [hd]
      | false => simp [hd,sendForgets_eq,trackStale_log]

theorem forgetStaleNodes_frame {keys : AnnotationKey → Prop} {acts : Event → Prop}
    (hk : ∀ id, ¬ keys (.staleSince id)) (ha : ∀ pod id, acts (.forget pod id))
    (i : ForgetInput) (nodes : List ClusterNodeState) (w : World) :
    Frame keys acts w (forgetStaleNodes i nodes w).1 := by
  rw [forgetStaleNodes_eq]
  cases hg : guardedPods w.vc i with
  | none => exact Frame.refl keys acts w
  | some pods =>
    have hes : ∀ e ∈ forgetEvents i pods nodes w, acts e := by
      intro e he
      simp only [forgetEvents,List.mem_flatMap,List.mem_map] at he
      obtain ⟨pod,-,id,-,rfl⟩ := he
      exact ha pod id
    have hsend := (trackStale_frame hk i pods nodes w).trans (Frame.append hes _)
    rw [trackStale_log] at hsend
    exact hsend

structure ForgetPass where
  others : OtherWrites (fun k => ∃ id, k = .staleSince id)
  input : ForgetInput
  view : NodesView

structure ForgetRecord where
  vc : ValkeyCluster
  events : List Event

def forgetPass (stored : ValkeyCluster) (p : ForgetPass) : ValkeyCluster × ForgetRecord :=
  let vc := p.others.write stored
  let w := (forgetStaleNodes p.input p.view.nodes (World.start vc)).1
  (w.stored, ⟨vc, w.log⟩)

abbrev ForgetEntry := ForgetPass × ForgetRecord

def PastGuards (q : ForgetEntry) : Prop := (guardedPods q.2.vc q.1.input).isSome = true

def ListsNode (id : Text) (q : ForgetEntry) : Prop := ∃ n ∈ q.1.view.nodes, n.id = id

def SawStale (id : Text) (q : ForgetEntry) : Prop :=
  ∃ pods, q.1.input.listed = some pods ∧
    ∃ n ∈ q.1.view.nodes, n.id = id ∧ isStale pods n = true

def Forgot (id : Text) (q : ForgetEntry) : Prop := ∃ pod, Event.forget pod id ∈ q.2.events

/-- Nothing in this pass speaks against the node being gone since earlier. -/
def StillStale (id : Text) (q : ForgetEntry) : Prop :=
  (PastGuards q → ListsNode id q → SawStale id q) ∧ ¬ Forgot id q

/-- The annotation of a node is the time of an earlier pass that saw it stale,
and the node has been stale since. -/
def Tracked (past : List ForgetEntry) (stored : ValkeyCluster) : Prop :=
  ∀ id v, stored.annotations (.staleSince id) = some v →
    Runs.Since (StillStale id)
      (fun q => PastGuards q ∧ SawStale id q ∧ v = formatRFC3339 q.1.input.now) past

theorem mem_forgetEvents {i : ForgetInput} {pods : List Pod} {nodes : List ClusterNodeState}
    {w : World} {pod : Pod} {id : Text} (h : Event.forget pod id ∈ forgetEvents i pods nodes w) :
    id ∈ (staleScan i.now pods nodes w).staleIDs := by
  simp only [forgetEvents,List.mem_flatMap,List.mem_map] at h
  obtain ⟨p,-,j,hj,he⟩ := h
  cases he
  exact hj

theorem forgetPass_guarded {stored : ValkeyCluster} {p : ForgetPass}
    (h : guardedPods (p.others.write stored) p.input = none) :
    forgetPass stored p = (p.others.write stored, ⟨p.others.write stored, []⟩) := by
  have hw : guardedPods (World.start (p.others.write stored)).vc p.input = none := h
  unfold forgetPass
  dsimp only
  rw [forgetStaleNodes_eq,hw]
  rfl

theorem forgetPass_open {stored : ValkeyCluster} {p : ForgetPass} {pods : List Pod}
    (h : guardedPods (p.others.write stored) p.input = some pods) (hp : p.input.patchOK = true) :
    (forgetPass stored p).2 =
      ⟨p.others.write stored,
        forgetEvents p.input pods p.view.nodes (World.start (p.others.write stored))⟩ ∧
    ∀ k, (forgetPass stored p).1.annotations k =
      (staleScan p.input.now pods p.view.nodes
        (World.start (p.others.write stored))).world.vc.annotations k := by
  have hw : guardedPods (World.start (p.others.write stored)).vc p.input = some pods := h
  unfold forgetPass
  dsimp only
  rw [forgetStaleNodes_eq,hw]
  exact ⟨rfl, fun k => trackStale_stored hp (World.start_synced _ k)⟩

/-- What a pass past the guards does about one node, with its annotation before and after. -/
structure NodePass (id : Text) (old new : Option AnnotationValue) (pods : List Pod) (q : ForgetEntry) : Prop where
  listed : q.1.input.listed = some pods
  quiet : ∀ pod ∈ pods, pod.deleting = false
  guards : PastGuards q
  kept : new ≠ none → ListsNode id q → SawStale id q
  started : new ≠ none → new ≠ old → SawStale id q ∧ new = some (formatRFC3339 q.1.input.now)
  forgot : Forgot id q → new = none ∧ (∃ n ∈ q.1.view.nodes, n.id = id ∧ isStale pods n = true) ∧
    ∃ v firstSeen, old = some v ∧ parseRFC3339 v = some firstSeen ∧
      staleNodeTimeout ≤ q.1.input.now - firstSeen

theorem forgetPass_open_node {stored : ValkeyCluster} {p : ForgetPass} {pods : List Pod} (id : Text)
    (h : guardedPods (p.others.write stored) p.input = some pods) (hp : p.input.patchOK = true) :
    NodePass id (stored.annotations (.staleSince id)) ((forgetPass stored p).1.annotations (.staleSince id))
      pods (p, (forgetPass stored p).2) := by
  obtain ⟨hlisted,hquiet⟩ := guardedPods_some h
  obtain ⟨hrecord,hstored⟩ := forgetPass_open h hp
  obtain ⟨hscan,huntracked⟩ := staleScan_spec p.input.now pods p.view.nodes
    (World.start (p.others.write stored)) id
  have hothers : (World.start (p.others.write stored)).vc.annotations (.staleSince id) =
      stored.annotations (.staleSince id) := p.others.keeps stored _ ⟨id,rfl⟩
  rw [hothers] at hscan
  rw [← hstored] at huntracked
  have hdue : Forgot id (p, (forgetPass stored p).2) → id ∈ (staleScan p.input.now pods p.view.nodes
      (World.start (p.others.write stored))).staleIDs := by
    rintro ⟨pod,hpod⟩
    rw [hrecord] at hpod
    exact mem_forgetEvents hpod
  refine ⟨hlisted, hquiet, ?_, ?_, ?_, fun hf => ⟨huntracked (hdue hf), hscan.due (hdue hf)⟩⟩
  · rw [hrecord]
    simp [PastGuards,h]
  · rw [hstored]
    exact fun hne hl => ⟨pods, hlisted, hscan.kept hne hl⟩
  · rw [hstored]
    intro hne hnew
    refine ⟨⟨pods, hlisted, hscan.started hnew hne⟩, ?_⟩
    rcases hscan.value with hv | hv | hv
    · exact absurd hv hnew
    · exact absurd hv hne
    · exact hv

theorem forgetPass_node (stored : ValkeyCluster) {p : ForgetPass} (hp : p.input.patchOK = true) (id : Text) :
    (¬ PastGuards (p, (forgetPass stored p).2) ∧ ¬ Forgot id (p, (forgetPass stored p).2) ∧
      (forgetPass stored p).1.annotations (.staleSince id) = stored.annotations (.staleSince id)) ∨
    ∃ pods, NodePass id (stored.annotations (.staleSince id))
      ((forgetPass stored p).1.annotations (.staleSince id)) pods (p, (forgetPass stored p).2) := by
  cases hg : guardedPods (p.others.write stored) p.input with
  | none =>
    left
    rw [forgetPass_guarded hg]
    refine ⟨by simp [PastGuards,hg], ?_, p.others.keeps stored _ ⟨id,rfl⟩⟩
    rintro ⟨pod,hpod⟩
    simp at hpod
  | some pods => exact .inr ⟨pods, forgetPass_open_node id hg hp⟩

theorem tracked_step {past : List ForgetEntry} {stored : ValkeyCluster} {p : ForgetPass}
    (hinv : Tracked past stored) (hp : p.input.patchOK = true) :
    Tracked (past ++ [(p, (forgetPass stored p).2)]) (forgetPass stored p).1 := by
  intro id v hv
  rcases forgetPass_node stored hp id with ⟨hguards,hforgot,hsame⟩ | ⟨pods,hnode⟩
  · exact (hinv id v (hsame.symm.trans hv)).snoc ⟨fun hpast => absurd hpast hguards, hforgot⟩
  · rw [hv] at hnode
    have hhold : StillStale id (p, (forgetPass stored p).2) :=
      ⟨fun _ hl => hnode.kept (by simp) hl, fun hf => by cases (hnode.forgot hf).1⟩
    -- the value is the old one, or this pass has just started the timer
    by_cases hsame : stored.annotations (.staleSince id) = some v
    · exact (hinv id v hsame).snoc hhold
    · obtain ⟨hsaw,hstamp⟩ := hnode.started (by simp) (Ne.symm hsame)
      exact Runs.Since.now past ⟨hnode.guards, hsaw, Option.some.inj hstamp⟩ hhold

theorem isStale_iff {pods : List Pod} {n : ClusterNodeState} :
    isStale pods n = true ↔ isFailing n.flags = true ∧
      ∀ pod ∈ pods, pod.podIP ≠ [] → pod.podIP ≠ n.ip := by
  have hknown : n.ip ∉ knownIPs pods ↔ ∀ pod ∈ pods, pod.podIP ≠ [] → pod.podIP ≠ n.ip := by
    simp only [knownIPs,List.mem_filter,List.mem_map,not_and,decide_eq_true_eq]
    constructor
    · intro h pod hpod hne heq
      exact h ⟨pod, hpod, heq⟩ (heq ▸ hne)
    · rintro h ⟨pod,hpod,heq⟩ hne
      exact h pod hpod (heq ▸ hne) heq
  rw [← hknown]
  simp [isStale]

/-- A node is forgotten only when it is stale, no pod is terminating, and it has
been stale in every pass since one more than 29 seconds ago. -/
theorem forget_only_after_grace {start : ValkeyCluster}
    (hstart : ∀ id, start.annotations (.staleSince id) = none) {passes : List ForgetPass}
    (hpatch : ∀ p ∈ passes, p.input.patchOK = true) {before after : List ForgetEntry}
    {p : ForgetPass} {r : ForgetRecord}
    (hlog : Runs.log forgetPass start passes = before ++ (p, r) :: after) {id : Text}
    (hforgot : Forgot id (p, r)) :
    (∃ pods, p.input.listed = some pods ∧ (∀ pod ∈ pods, pod.deleting = false) ∧
      ∃ n ∈ p.view.nodes, n.id = id ∧ isFailing n.flags = true ∧
        ∀ pod ∈ pods, pod.podIP ≠ [] → pod.podIP ≠ n.ip) ∧
    ∃ earlier q between, before = earlier ++ q :: between ∧
      29*second < p.input.now - q.1.input.now ∧ PastGuards q ∧ SawStale id q ∧
      (∀ e ∈ q :: between ++ [(p, r)], PastGuards e → ListsNode id e → SawStale id e) ∧
      ∀ e ∈ q :: between, ¬ Forgot id e := by
  have hinit : Tracked [] start := by
    intro j v hv
    rw [hstart j] at hv
    cases hv
  have halong : Runs.Along forgetPass (fun _ i => i.input.patchOK = true) start passes :=
    Runs.along_of_forall start hpatch
  obtain ⟨stored,hinv,hp,rfl⟩ := halong.invariant Tracked hinit
    (fun past s i hpast hok => tracked_step hpast hok) hlog
  rcases forgetPass_node stored hp id with ⟨-,hnot,-⟩ | ⟨pods,hnode⟩
  · exact absurd hforgot hnot
  · obtain ⟨-,⟨n,hn,hid,hst⟩,v,firstSeen,hv,hparse,hdue⟩ := hnode.forgot hforgot
    refine ⟨⟨pods, hnode.listed, hnode.quiet, n, hn, hid, isStale_iff.mp hst⟩, ?_⟩
    obtain ⟨earlier,q,between,hbefore,⟨hguards,hsaw,hstamp⟩,hhold⟩ := hinv id v hv
    refine ⟨earlier, q, between, hbefore, ?_, hguards, hsaw, ?_, fun e he => (hhold e he).2⟩
    · have hgap := elapsed_since (hstamp ▸ hparse) hdue
      have ht : staleNodeTimeout = 30*second := rfl
      dsimp only at hgap
      omega
    · intro e he hguard hlists
      rcases List.mem_append.mp he with he | he
      · exact (hhold e he).1 hguard hlists
      · rw [List.mem_singleton.mp he]
        exact ⟨pods, hnode.listed, n, hn, hid, hst⟩

def goneNode : ClusterNodeState :=
  ⟨List.replicate 40 'a', "10.0.0.9".toList, [], "master,fail".toList, ['-'], []⟩

def gonePass (now : Time) : ForgetPass where
  others := OtherWrites.nothing _
  input := ⟨none, some [readyPod '1'], now, true, fun _ => true⟩
  view := ⟨[goneNode], by decide⟩

def goneTracked : ValkeyCluster × ForgetRecord :=
  forgetPass (threeShards (fun _ => none)) (gonePass 0)

theorem goneNode_forgotten :
    Forgot goneNode.id (gonePass (31*second), (forgetPass goneTracked.1 (gonePass (31*second))).2) ∧
    ∃ earlier q between, [(gonePass 0, goneTracked.2)] = earlier ++ q :: between ∧
      29*second < 31*second - q.1.input.now ∧ SawStale goneNode.id q := by
  have hlog : Runs.log forgetPass (threeShards (fun _ => none)) [gonePass 0, gonePass (31*second)] =
      [(gonePass 0, goneTracked.2)] ++
      (gonePass (31*second), (forgetPass goneTracked.1 (gonePass (31*second))).2) :: [] := rfl
  have hevents : (forgetPass goneTracked.1 (gonePass (31*second))).2.events =
      [Event.forget (readyPod '1') goneNode.id] := rfl
  have hforgot : Forgot goneNode.id (gonePass (31*second),
      (forgetPass goneTracked.1 (gonePass (31*second))).2) := ⟨readyPod '1', by rw [hevents]; simp⟩
  obtain ⟨-,earlier,q,between,hbefore,hgap,-,hsaw,-⟩ :=
    forget_only_after_grace (fun _ => rfl) (by simp [gonePass]) hlog hforgot
  exact ⟨hforgot, earlier, q, between, hbefore, hgap, hsaw⟩

end ValkeyOperator
