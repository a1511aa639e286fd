import ValkeyOperator.RecoveryRuns

/-!
How long a pod has been crashing when the operator deletes it. The time is kept in an annotation
from one pass to the next.
-/

set_option autoImplicit false

namespace ValkeyOperator
open TextScan

structure CrashPass where
  others : OtherWrites (fun k => ∃ pod, k = .crashSince pod)
  input : CrashInput
  names : ∀ pods, input.listed = some pods → (pods.map (fun pod => pod.name)).Nodup

def crashLoopPass (stored : ValkeyCluster) (p : CrashPass) : ValkeyCluster × List Event :=
  let w := (reconcileCrashLoopRecovery p.input (World.start (p.others.write stored))).1
  (w.stored, w.log)

abbrev CrashEntry := CrashPass × List Event

def CrashLists (name : Text) (q : CrashEntry) : Prop :=
  ∃ pods, q.1.input.listed = some pods ∧ ∃ pod ∈ pods, pod.name = name

def SawCrash (name : Text) (q : CrashEntry) : Prop :=
  ∃ pods, q.1.input.listed = some pods ∧
    ∃ pod ∈ pods, pod.name = name ∧ isCrashLoopBackOff pod = true

def DeletedPod (name : Text) (q : CrashEntry) : Prop := ∃ pod, .deletePod pod ∈ q.2 ∧ pod.name = name

/-- Nothing in this pass speaks against the pod crashing since earlier. -/
def StillCrashing (name : Text) (q : CrashEntry) : Prop :=
  (CrashLists name q → SawCrash name q) ∧ ¬ DeletedPod name q

/-- The annotation of a pod is the time of an earlier pass that saw it crash, and the pod has
been crashing since. -/
def CrashTracked (past : List CrashEntry) (stored : ValkeyCluster) : Prop :=
  ∀ name v, stored.annotations (.crashSince name) = some v →
    Runs.Since (StillCrashing name)
      (fun q => SawCrash name q ∧ v = formatRFC3339 q.1.input.now) past

theorem not_deletedPod {name : Text} {q : CrashEntry} (h : ∀ e ∈ q.2, e.deletes name = false) :
    ¬ DeletedPod name q := by
  rintro ⟨pod,hmem,hname⟩
  have hdel := h _ hmem
  simp [Event.deletes,hname] at hdel

section
variable {stored : ValkeyCluster} {p : CrashPass}

theorem CrashPass.found_since (p : CrashPass) (stored : ValkeyCluster) (name : Text) :
    (p.others.write stored).annotations (.crashSince name) = stored.annotations (.crashSince name) :=
  p.others.keeps stored _ ⟨name, rfl⟩

theorem crashLoopPass_listed (stored : ValkeyCluster) {pods : List Pod} {pod : Pod} (hl : p.input.listed = some pods)
    (hpod : pod ∈ pods) (hp : p.input.patchOK = true) :
    ∃ es, CrashVisit p.input pod (stored.annotations (.crashSince pod.name))
        ((crashLoopPass stored p).1.annotations (.crashSince pod.name)) es ∧
      ∀ e ∈ (crashLoopPass stored p).2, e.PassesBy pod.name ∨ e ∈ es := by
  obtain ⟨front,back,rfl,hfront,hback⟩ := pods_split (p.names pods hl) hpod
  obtain ⟨before,es,after,now,hlog,hbefore,hafter,hvisit,hstored⟩ :=
    crashLoop_listed (p.others.write stored) hl hfront hback
  rw [p.found_since] at hvisit
  rcases hstored with rfl | ⟨hfail,-⟩
  · refine ⟨es, hvisit, fun e he => ?_⟩
    have he' : e ∈ before ++ (es ++ after) := hlog ▸ he
    rcases List.mem_append.mp he' with he' | he'
    · exact .inl (hbefore e he')
    · exact (List.mem_append.mp he').symm.imp (hafter e) id
  · rw [hp] at hfail
    cases hfail

theorem crashLoopPass_unlisted (stored : ValkeyCluster) {name : Text} {o : List Event} (h : ¬ CrashLists name (p, o)) :
    (∀ e ∈ (crashLoopPass stored p).2, e.PassesBy name) ∧
      (crashLoopPass stored p).1.annotations (.crashSince name) =
        stored.annotations (.crashSince name) := by
  rw [← p.found_since stored name]
  exact crashLoop_unlisted (p.others.write stored) (fun pods hl pod hpod hname =>
    h ⟨pods, hl, pod, hpod, hname⟩)

theorem crashTracked_step {past : List CrashEntry} (hinv : CrashTracked past stored)
    (hp : p.input.patchOK = true) :
    CrashTracked (past ++ [(p, (crashLoopPass stored p).2)]) (crashLoopPass stored p).1 := by
  intro name v hv
  by_cases hlists : CrashLists name (p, (crashLoopPass stored p).2)
  · obtain ⟨pods,hl,pod,hpod,rfl⟩ := hlists
    obtain ⟨es,hvisit,hes⟩ := crashLoopPass_listed stored hl hpod hp
    have hsaw : isCrashLoopBackOff pod = true → SawCrash pod.name (p, (crashLoopPass stored p).2) :=
      fun hc => ⟨pods, hl, pod, hpod, rfl, hc⟩
    have hheld : isCrashLoopBackOff pod = true → (∀ e ∈ es, e.deletes pod.name = false) →
        StillCrashing pod.name (p, (crashLoopPass stored p).2) := by
      intro hc hdel
      refine ⟨fun _ => hsaw hc, not_deletedPod (fun e he => ?_)⟩
      rcases hes e he with hpass | hmem
      · exact hpass.2
      · exact hdel e hmem
    -- the pod still has an annotation, so that the visit found it crashing and did not delete it
    rw [hv] at hvisit
    generalize hwas : stored.annotations (.crashSince pod.name) = was at hvisit
    cases hvisit with
    | started hc => exact Runs.Since.now past ⟨hsaw hc, rfl⟩ (hheld hc (by simp))
    | waiting v hc => exact (hinv pod.name v hwas).snoc (hheld hc (by simp))
    | created v hc hj => exact (hinv pod.name v hwas).snoc (hheld hc (by simp [Event.deletes]))
  · obtain ⟨hpass,hkept⟩ := crashLoopPass_unlisted stored hlists
    refine (hinv name v (hkept.symm.trans hv)).snoc ⟨fun h => absurd h hlists, ?_⟩
    exact not_deletedPod (fun e he => (hpass e he).2)

theorem crashLoopPass_deletes {pod : Pod} (h : .deletePod pod ∈ (crashLoopPass stored p).2)
    (hp : p.input.patchOK = true) :
    (∃ pods, p.input.listed = some pods ∧ pod ∈ pods) ∧
      CrashVisit p.input pod (stored.annotations (.crashSince pod.name)) none [.deletePod pod] := by
  have hnot : ¬ (Event.deletePod pod).PassesBy pod.name := by simp [Event.PassesBy,Event.deletes]
  by_cases hlists : CrashLists pod.name (p, (crashLoopPass stored p).2)
  · obtain ⟨pods,hl,found,hfound,hname⟩ := hlists
    obtain ⟨es,hvisit,hes⟩ := crashLoopPass_listed stored hl hfound hp
    rw [hname] at hvisit hes
    have hmem := (hes _ h).resolve_left hnot
    generalize (crashLoopPass stored p).1.annotations _ = now at hvisit
    generalize hwas : stored.annotations (.crashSince pod.name) = was at hvisit ⊢
    cases hvisit with
    | deleted v firstSeen f a c hc hparse hdue hj hf hgoing hok =>
      cases List.mem_singleton.mp hmem
      exact ⟨⟨pods, hl, hfound⟩, .deleted v firstSeen f a c hc hparse hdue hj hf hgoing hok⟩
    | created v hc hj => cases List.mem_singleton.mp hmem
    | healthy a hc => cases hmem
    | started hc => cases hmem
    | waiting v hc => cases hmem
  · exact absurd ((crashLoopPass_unlisted stored hlists).1 _ h) hnot

end

theorem isCrashLoopBackOff_iff {pod : Pod} :
    isCrashLoopBackOff pod = true ↔ ∃ cs ∈ pod.containers, cs.name = "valkey".toList ∧
      cs.waitingReason = some "CrashLoopBackOff".toList ∧ 3 ≤ cs.restartCount := by
  simp only [isCrashLoopBackOff,List.any_eq_true,Bool.and_eq_true,decide_eq_true_eq,and_assoc,ge_iff_le]

/-- A pod is deleted only while it crashes and its recovery Job runs or has succeeded, and after
it has been crashing in every pass since one more than 179 seconds ago. -/
theorem delete_only_after_threshold {start : ValkeyCluster}
    (hstart : ∀ name, start.annotations (.crashSince name) = none) {passes : List CrashPass}
    (hpatch : ∀ p ∈ passes, p.input.patchOK = true) {before after : List CrashEntry}
    {p : CrashPass} {events : List Event}
    (hlog : Runs.log crashLoopPass start passes = before ++ (p, events) :: after) {pod : Pod}
    (hdelete : .deletePod pod ∈ events) :
    (∃ pods, p.input.listed = some pods ∧ pod ∈ pods) ∧
    (∃ cs ∈ pod.containers, cs.name = "valkey".toList ∧
      cs.waitingReason = some "CrashLoopBackOff".toList ∧ 3 ≤ cs.restartCount) ∧
    (∃ failures active succeeded, p.input.job pod = .found failures active succeeded ∧
      failures ≤ 0 ∧ (0 < active ∨ 0 < succeeded)) ∧
    ∃ earlier q between, before = earlier ++ q :: between ∧
      179*second < p.input.now - q.1.input.now ∧ SawCrash pod.name q ∧
      (∀ e ∈ q :: between ++ [(p, events)], CrashLists pod.name e → SawCrash pod.name e) ∧
      ∀ e ∈ q :: between, ¬ DeletedPod pod.name e := by
  have hinit : CrashTracked [] start := by
    intro name v hv
    rw [hstart name] at hv
    cases hv
  have halong : Runs.Along crashLoopPass (fun _ i => i.input.patchOK = true) start passes :=
    Runs.along_of_forall start hpatch
  obtain ⟨stored,hinv,hp,rfl⟩ := halong.invariant CrashTracked hinit
    (fun past s i hpast hok => crashTracked_step hpast hok) hlog
  obtain ⟨⟨pods,hl,hpod⟩,hvisit⟩ := crashLoopPass_deletes hdelete hp
  generalize hwas : stored.annotations (.crashSince pod.name) = was at hvisit
  cases hvisit with
  | deleted v firstSeen f a c hc hparse hdue hj hf hgoing hok =>
    refine ⟨⟨pods, hl, hpod⟩, isCrashLoopBackOff_iff.mp hc, ⟨f, a, c, hj, hf, hgoing⟩, ?_⟩
    obtain ⟨earlier,q,between,hbefore,⟨hsaw,hstamp⟩,hhold⟩ := hinv pod.name v hwas
    refine ⟨earlier, q, between, hbefore, ?_, hsaw, ?_, fun e he => (hhold e he).2⟩
    · have hgap := elapsed_since (hstamp ▸ hparse) hdue
      have ht : crashLoopThreshold = 180*second := rfl
      omega
    · intro e he hlists
      rcases List.mem_append.mp he with he | he
      · exact (hhold e he).1 hlists
      · rw [List.mem_singleton.mp he]
        exact ⟨pods, hl, pod, hpod, rfl, hc⟩

def crashingAt (now : Time) (job : Option JobState) : CrashPass where
  others := .nothing _
  input := (crashPass now job).input
  names := by
    intro pods hl
    cases hl
    simp

def crashTimed : ValkeyCluster × List Event :=
  crashLoopPass (threeShards (fun _ => none)) (crashingAt 0 none)

theorem crashingPod_deleted :
    .deletePod crashingPod ∈ (crashLoopPass crashTimed.1 (crashingAt (180*second) (some running))).2 ∧
    ∃ earlier q between, [(crashingAt 0 none, crashTimed.2)] = earlier ++ q :: between ∧
      179*second < 180*second - q.1.input.now ∧ SawCrash crashingPod.name q := by
  have hlog : Runs.log crashLoopPass (threeShards (fun _ => none))
      [crashingAt 0 none, crashingAt (180*second) (some running)] =
      [(crashingAt 0 none, crashTimed.2)] ++ (crashingAt (180*second) (some running),
        (crashLoopPass crashTimed.1 (crashingAt (180*second) (some running))).2) :: [] := rfl
  have hevents : (crashLoopPass crashTimed.1 (crashingAt (180*second) (some running))).2 =
      [.deletePod crashingPod] := rfl
  have hdelete : .deletePod crashingPod ∈
      (crashLoopPass crashTimed.1 (crashingAt (180*second) (some running))).2 := by
    rw [hevents]
    simp
  obtain ⟨-,-,-,earlier,q,between,hbefore,hgap,hsaw,-⟩ :=
    delete_only_after_threshold (fun _ => rfl) (by simp [crashingAt,crashPass]) hlog hdelete
  exact ⟨hdelete, earlier, q, between, hbefore, hgap, hsaw⟩

end ValkeyOperator
