import ValkeyOperator.Recovery

/-!
Recoveries over runs of passes: the Job that cleans a volume, the timer of the pod and the
pod itself live apart from each other.
-/

set_option autoImplicit false

namespace ValkeyOperator
open TextScan Runs

def jobTTL : Int := 300*second

structure JobState where
  failures : Int
  active : Int
  succeeded : Int
  finished : Option Time
  deriving DecidableEq, Repr

def JobState.fresh : JobState := ⟨0, 0, 0, none⟩

def jobAnswer : Option JobState → RecoveryJob
  | none => .notFound
  | some j => .found j.failures j.active j.succeeded

/-- The object as stored, the recovery Job of each pod, and the time of the last pass. -/
structure RecoveryState where
  vc : ValkeyCluster
  jobs : Text → Option JobState
  clock : Time

/-- `jobs` is what the Job controller has made of the Jobs when the pass runs. -/
structure RecoveryPass where
  others : OtherWrites (fun k => ∃ pod, k = .crashSince pod)
  jobs : Text → Option JobState
  input : CrashInput

def Event.creates (name : Text) : Event → Bool
  | .createJob (.rdbRecovery pod) => pod = name
  | _ => false

def Event.deletes (name : Text) : Event → Bool
  | .deletePod pod => pod.name = name
  | _ => false

def RecoveryPass.found (p : RecoveryPass) (s : RecoveryState) : ValkeyCluster := p.others.write s.vc

def RecoveryPass.world (p : RecoveryPass) (s : RecoveryState) : World :=
  (reconcileCrashLoopRecovery p.input (World.start (p.found s))).1

def recoveryPass (s : RecoveryState) (p : RecoveryPass) : RecoveryState × List Event :=
  let w := p.world s
  (⟨w.stored, fun name => if w.log.any (Event.creates name) then some .fresh else p.jobs name,
    p.input.now⟩, w.log)

/-- Only the operator creates a recovery Job, and one that is finished stays for its TTL. -/
inductive JobMoves (clock now : Time) : Option JobState → Option JobState → Prop
  | absent : JobMoves clock now none none
  | changed (j j' : JobState) : (∀ t, j.finished = some t → j'.finished = some t) →
      (j.finished = none → ∀ t, j'.finished = some t → clock ≤ t ∧ t ≤ now) →
      JobMoves clock now (some j) (some j')
  | removed (j : JobState) (t : Time) : (j.finished = some t ∨ (j.finished = none ∧ clock ≤ t)) →
      t + jobTTL ≤ now → JobMoves clock now (some j) none

/-- What the cluster around the operator keeps to. -/
structure Lawful (s : RecoveryState) (p : RecoveryPass) : Prop where
  clock : s.clock ≤ p.input.now
  names : ∀ pods, p.input.listed = some pods → (pods.map (fun pod => pod.name)).Nodup
  jobs : ∀ name, JobMoves s.clock p.input.now (s.jobs name) (p.jobs name)
  reads : ∀ pod, p.input.job pod = .failed ∨ p.input.job pod = jobAnswer (p.jobs pod.name)

/-- What one visit does to the annotation of its pod, what it sends, and why. -/
inductive CrashVisit (i : CrashInput) (pod : Pod) :
    Option AnnotationValue → Option AnnotationValue → List Event → Prop
  | healthy (a : Option AnnotationValue) : isCrashLoopBackOff pod = false → CrashVisit i pod a none []
  | started : isCrashLoopBackOff pod = true → CrashVisit i pod none (some (formatRFC3339 i.now)) []
  | waiting (v : AnnotationValue) : isCrashLoopBackOff pod = true → CrashVisit i pod (some v) (some v) []
  | created (v : AnnotationValue) : isCrashLoopBackOff pod = true → i.job pod = .notFound →
      CrashVisit i pod (some v) (some v) [.createJob (.rdbRecovery pod.name)]
  | deleted (v : AnnotationValue) (firstSeen : Time) (failures active succeeded : Int) :
      isCrashLoopBackOff pod = true → parseRFC3339 v = some firstSeen →
      crashLoopThreshold ≤ i.now - firstSeen → i.job pod = .found failures active succeeded →
      failures ≤ 0 → 0 < active ∨ 0 < succeeded → i.deleteOK pod = true →
      CrashVisit i pod (some v) none [.deletePod pod]

theorem recoverCorruptedPod_cases (i : CrashInput) (pod : Pod) (w : World) :
    ((recoverCorruptedPod i pod w).1 = w ∧ (recoverCorruptedPod i pod w).2 ≠ .podDeleted) ∨
      (i.job pod = .notFound ∧
        recoverCorruptedPod i pod w = (w.emit (.createJob (.rdbRecovery pod.name)), .waiting)) ∨
      ∃ failures active succeeded, (i.job pod = .found failures active succeeded ∧ failures ≤ 0 ∧
          (0 < active ∨ 0 < succeeded) ∧ i.deleteOK pod = true) ∧
        recoverCorruptedPod i pod w = (w.emit (.deletePod pod), .podDeleted) := by
  unfold recoverCorruptedPod
  cases i.job pod with
  | failed => simp
  | notFound => cases i.createOK pod <;> simp
  | found failures active succeeded =>
    dsimp only
    split_ifs with hfail hgoing hok
    · simp
    · exact .inr (.inr ⟨failures, active, succeeded, ⟨rfl, by omega, hgoing, hok⟩, rfl⟩)
    · simp
    · simp

theorem visit_recovers (i : CrashInput) (s : CrashScan) (pod : Pod) :
    ∃ es, (s.visit i pod).world.log = s.world.log ++ es ∧
      CrashVisit i pod (s.world.vc.annotations (.crashSince pod.name))
        ((s.visit i pod).world.vc.annotations (.crashSince pod.name)) es := by
  unfold CrashScan.visit
  dsimp only
  cases hc : isCrashLoopBackOff pod with
  | false =>
    cases ha : s.world.vc.annotations (.crashSince pod.name) with
    | none => exact ⟨[], by simp, by simpa [ha] using CrashVisit.healthy none hc⟩
    | some v => exact ⟨[], by simp, by simpa using CrashVisit.healthy (some v) hc⟩
  | true =>
    cases ha : s.world.vc.annotations (.crashSince pod.name) with
    | none => exact ⟨[], by simp, by simpa using CrashVisit.started hc⟩
    | some v =>
      have hwait : CrashVisit i pod (some v) (s.world.vc.annotations (.crashSince pod.name)) [] := by
        rw [ha]
        exact .waiting v hc
      simp only [Bool.not_true,Bool.false_eq_true,if_false]
      cases hparse : parseRFC3339 v with
      | none => exact ⟨[], by simp, hwait⟩
      | some firstSeen =>
        dsimp only
        split
        · exact ⟨[], by simp, hwait⟩
        · rename_i hdue
          rcases recoverCorruptedPod_cases i pod s.world with ⟨hw,hres⟩ | ⟨hj,heq⟩ | ⟨f,a,c,⟨hj,hf,hgoing,hok⟩,heq⟩
          · cases hr : recoverCorruptedPod i pod s.world with
            | mk w res =>
              rw [hr] at hw hres
              dsimp only at hw hres
              subst hw
              cases res with
              | podDeleted => exact absurd rfl hres
              | waiting => exact ⟨[], by simp, hwait⟩
              | err => exact ⟨[], by simp, hwait⟩
          · rw [heq]
            exact ⟨_, rfl, by simpa [ha] using CrashVisit.created v hc hj⟩
          · rw [heq]
            have hvisit := CrashVisit.deleted v firstSeen f a c hc hparse (Int.not_lt.mp hdue) hj hf hgoing hok
            exact ⟨_, rfl, by simpa using hvisit⟩

theorem visit_unchanged {i : CrashInput} {s : CrashScan} {pod : Pod}
    (h : (s.visit i pod).annotationsChanged = false) :
    s.annotationsChanged = false ∧ (s.visit i pod).world.vc.annotations = s.world.vc.annotations := by
  revert h
  unfold CrashScan.visit
  dsimp only
  split
  · split
    · exact fun h => ⟨h, rfl⟩
    · exact fun h => by cases h
  split
  · exact fun h => by cases h
  split
  · exact fun h => ⟨h, rfl⟩
  split
  · exact fun h => ⟨h, rfl⟩
  rcases recoverCorruptedPod_cases i pod s.world with ⟨hw,-⟩ | ⟨-,heq⟩ | ⟨f,a,c,-,heq⟩
  · cases hr : recoverCorruptedPod i pod s.world with
    | mk w res =>
      rw [hr] at hw
      dsimp only at hw
      subst hw
      cases res with
      | podDeleted => exact fun h => by cases h
      | waiting => exact fun h => ⟨h, rfl⟩
      | err => exact fun h => ⟨h, rfl⟩
  · rw [heq]
    exact fun h => ⟨h, rfl⟩
  · rw [heq]
    exact fun h => by cases h

theorem visits_unchanged {i : CrashInput} {s : CrashScan} {pods : List Pod}
    (h : (pods.foldl (CrashScan.visit i) s).annotationsChanged = false) :
    s.annotationsChanged = false ∧
      (pods.foldl (CrashScan.visit i) s).world.vc.annotations = s.world.vc.annotations := by
  induction pods generalizing s with
  | nil => exact ⟨h, rfl⟩
  | cons pod pods ih =>
    obtain ⟨hflag,hann⟩ := ih h
    obtain ⟨hflag',hann'⟩ := visit_unchanged hflag
    exact ⟨hflag', hann.trans hann'⟩

def Event.PassesBy (name : Text) (e : Event) : Prop := e.creates name = false ∧ e.deletes name = false

theorem Event.Recovers.passesBy {pod : Pod} {e : Event} {name : Text} (h : e.Recovers pod)
    (hne : pod.name ≠ name) : e.PassesBy name := by
  rcases h with rfl | rfl <;> simp [Event.PassesBy,Event.creates,Event.deletes,hne]

theorem visits_others {i : CrashInput} {s : CrashScan} {pods : List Pod} {name : Text}
    (h : ∀ pod ∈ pods, pod.name ≠ name) :
    Worked (fun k => k = .crashSince name) (Event.PassesBy name) s.world
      (pods.foldl (CrashScan.visit i) s).world := by
  refine visits_worked (Worked.refl _ _ s.world) i (fun pod hpod hk => ?_)
    (fun pod hpod e he => he.passesBy (h pod hpod))
  exact h pod hpod (AnnotationKey.crashSince.inj hk)

theorem Worked.log_eq {keys : AnnotationKey → Prop} {acts : Event → Prop} {w w' : World}
    (h : Worked keys acts w w') : ∃ es, w'.log = w.log ++ es ∧ ∀ e ∈ es, acts e := by
  obtain ⟨es,hes,hedit⟩ := h
  exact ⟨es, hedit.log, hes⟩

theorem Worked.keeps {keys : AnnotationKey → Prop} {acts : Event → Prop} {w w' : World}
    (h : Worked keys acts w w') {k : AnnotationKey} (hk : keys k) :
    w'.vc.annotations k = w.vc.annotations k := by
  obtain ⟨es,-,hedit⟩ := h
  exact hedit.keeps k hk

theorem crashLoop_stored {i : CrashInput} (vc : ValkeyCluster) {pods : List Pod}
    (hl : i.listed = some pods) (k : AnnotationKey) :
    ((reconcileCrashLoopRecovery i (World.start vc)).1.stored.annotations k =
        (pods.foldl (CrashScan.visit i) ⟨World.start vc, false⟩).world.vc.annotations k) ∨
      (i.patchOK = false ∧
        (reconcileCrashLoopRecovery i (World.start vc)).1.stored.annotations k = vc.annotations k) := by
  have hworked : Worked (fun _ => False) (fun _ => True) (World.start vc)
      (pods.foldl (CrashScan.visit i) ⟨World.start vc, false⟩).world :=
    visits_worked (s := ⟨World.start vc, false⟩) (Worked.refl _ _ _) i (fun _ _ h => h)
      (fun _ _ _ _ => trivial)
  obtain ⟨es,-,hedit⟩ := hworked
  have hsame : (pods.foldl (CrashScan.visit i) ⟨World.start vc, false⟩).annotationsChanged = false →
      (pods.foldl (CrashScan.visit i) ⟨World.start vc, false⟩).world.vc.annotations = vc.annotations :=
    fun h => (visits_unchanged h).2
  unfold reconcileCrashLoopRecovery
  rw [hl]
  dsimp only
  generalize pods.foldl (CrashScan.visit i) ⟨World.start vc, false⟩ = scan at hedit hsame
  cases hflag : scan.annotationsChanged with
  | false =>
    left
    rw [hsame hflag,if_neg (by decide),hedit.stored]
    rfl
  | true =>
    cases hp : i.patchOK with
    | true => exact .inl (hedit.patched rfl)
    | false =>
      right
      rw [if_pos rfl,World.patch_failed,hedit.stored]
      exact ⟨rfl, rfl⟩

theorem crashLoop_log {i : CrashInput} (vc : ValkeyCluster) {pods : List Pod} (hl : i.listed = some pods) :
    (reconcileCrashLoopRecovery i (World.start vc)).1.log =
      (pods.foldl (CrashScan.visit i) ⟨World.start vc, false⟩).world.log := by
  unfold reconcileCrashLoopRecovery
  rw [hl]
  dsimp only
  split <;> simp

theorem crashLoop_unlisted {i : CrashInput} (vc : ValkeyCluster) {name : Text}
    (h : ∀ pods, i.listed = some pods → ∀ pod ∈ pods, pod.name ≠ name) :
    (∀ e ∈ (reconcileCrashLoopRecovery i (World.start vc)).1.log, e.PassesBy name) ∧
      (reconcileCrashLoopRecovery i (World.start vc)).1.stored.annotations (.crashSince name) =
        vc.annotations (.crashSince name) := by
  cases hl : i.listed with
  | none =>
    have hworld : (reconcileCrashLoopRecovery i (World.start vc)).1 = World.start vc := by
      unfold reconcileCrashLoopRecovery
      rw [hl]
    rw [hworld]
    exact ⟨by simp [World.start], rfl⟩
  | some pods =>
    have hothers := visits_others (i := i) (s := ⟨World.start vc, false⟩) (h pods hl)
    obtain ⟨es,hlog,hes⟩ := hothers.log_eq
    constructor
    · rw [crashLoop_log vc hl,hlog]
      exact hes
    · rcases crashLoop_stored vc hl (.crashSince name) with hst | ⟨-,hst⟩
      · exact hst.trans (hothers.keeps rfl)
      · exact hst

theorem crashLoop_listed {i : CrashInput} (vc : ValkeyCluster) {pod : Pod} {front back : List Pod}
    (hl : i.listed = some (front ++ pod :: back)) (hfront : ∀ q ∈ front, q.name ≠ pod.name)
    (hback : ∀ q ∈ back, q.name ≠ pod.name) :
    ∃ before es after now,
      (reconcileCrashLoopRecovery i (World.start vc)).1.log = before ++ (es ++ after) ∧
      (∀ e ∈ before, e.PassesBy pod.name) ∧ (∀ e ∈ after, e.PassesBy pod.name) ∧
      CrashVisit i pod (vc.annotations (.crashSince pod.name)) now es ∧
      ((reconcileCrashLoopRecovery i (World.start vc)).1.stored.annotations (.crashSince pod.name) = now ∨
        (i.patchOK = false ∧
          (reconcileCrashLoopRecovery i (World.start vc)).1.stored.annotations (.crashSince pod.name) =
            vc.annotations (.crashSince pod.name))) := by
  have hf := visits_others (i := i) (s := ⟨World.start vc, false⟩) hfront
  have hstored := crashLoop_stored vc hl (.crashSince pod.name)
  have hlog := crashLoop_log vc hl
  rw [List.foldl_append,List.foldl_cons] at hstored hlog
  generalize front.foldl (CrashScan.visit i) ⟨World.start vc, false⟩ = scan at hf hstored hlog
  have hb := visits_others (i := i) (s := scan.visit i pod) hback
  obtain ⟨es,hvisit,hstep⟩ := visit_recovers i scan pod
  obtain ⟨before,hbefore,hbefore'⟩ := hf.log_eq
  obtain ⟨after,hafter,hafter'⟩ := hb.log_eq
  have hsince : scan.world.vc.annotations (.crashSince pod.name) = vc.annotations (.crashSince pod.name) :=
    hf.keeps rfl
  rw [hb.keeps rfl] at hstored
  rw [hsince] at hstep
  rw [hafter,hvisit,hbefore] at hlog
  exact ⟨before, es, after, _, by simpa [World.start] using hlog, hbefore', hafter', hstep, hstored⟩

def RecoveryState.since (s : RecoveryState) (name : Text) : Option AnnotationValue :=
  s.vc.annotations (.crashSince name)

theorem RecoveryPass.found_since (p : RecoveryPass) (s : RecoveryState) (name : Text) :
    (p.found s).annotations (.crashSince name) = s.since name :=
  p.others.keeps s.vc _ ⟨name, rfl⟩

def StartsTimer (s : RecoveryState) (p : RecoveryPass) (name : Text) : Prop :=
  s.since name = none ∧ ∃ pods, p.input.listed = some pods ∧
    ∃ pod ∈ pods, pod.name = name ∧ isCrashLoopBackOff pod = true

/-- The timer of the pod has run out, its Job is at work or done, and the pod can be deleted. -/
structure DueDeletion (s : RecoveryState) (p : RecoveryPass) (pod : Pod) : Prop where
  listed : ∃ pods, p.input.listed = some pods ∧ pod ∈ pods
  crashing : isCrashLoopBackOff pod = true
  expired : ∃ v firstSeen, s.since pod.name = some v ∧ parseRFC3339 v = some firstSeen ∧
    crashLoopThreshold ≤ p.input.now - firstSeen
  job : ∃ failures active succeeded, p.input.job pod = .found failures active succeeded ∧
    failures ≤ 0 ∧ (0 < active ∨ 0 < succeeded)
  accepted : p.input.deleteOK pod = true

/-- One pass, from where a pod of this name stands. -/
inductive PodEffect (s : RecoveryState) (p : RecoveryPass) (name : Text) : Prop
  | idle : (∀ e ∈ (p.world s).log, e.PassesBy name) →
      ((recoveryPass s p).1.since name = s.since name ∨ (recoveryPass s p).1.since name = none) →
      PodEffect s p name
  | started : (∀ e ∈ (p.world s).log, e.PassesBy name) → StartsTimer s p name → PodEffect s p name
  | created (before after : List Event) :
      (p.world s).log = before ++ .createJob (.rdbRecovery name) :: after →
      (∀ e ∈ after, e.PassesBy name) → (∀ e ∈ before, e.PassesBy name) → PodEffect s p name
  | deleted (pod : Pod) (before after : List Event) : pod.name = name →
      (p.world s).log = before ++ .deletePod pod :: after → (∀ e ∈ after, e.PassesBy name) →
      (∀ e ∈ before, e.PassesBy name) → DueDeletion s p pod →
      (p.input.patchOK = true → (recoveryPass s p).1.since name = none) → PodEffect s p name

theorem podEffect_unlisted {s : RecoveryState} {p : RecoveryPass} {name : Text}
    (h : ∀ pods, p.input.listed = some pods → ∀ pod ∈ pods, pod.name ≠ name) : PodEffect s p name := by
  obtain ⟨hlog,hstored⟩ := crashLoop_unlisted (p.found s) h
  refine .idle hlog (.inl ?_)
  rw [← p.found_since s]
  exact hstored

theorem podEffect_listed {s : RecoveryState} {p : RecoveryPass} {pod : Pod} {front back : List Pod}
    (hl : p.input.listed = some (front ++ pod :: back)) (hfront : ∀ q ∈ front, q.name ≠ pod.name)
    (hback : ∀ q ∈ back, q.name ≠ pod.name) : PodEffect s p pod.name := by
  obtain ⟨before,es,after,now,hlog,hbefore,hafter,hvisit,hstored⟩ :=
    crashLoop_listed (p.found s) hl hfront hback
  rw [p.found_since s] at hvisit hstored
  have hquiet : es = [] → ∀ e ∈ (p.world s).log, e.PassesBy pod.name := by
    intro hnil e he
    have hlog' : (p.world s).log = before ++ after := by
      rw [hnil,List.nil_append] at hlog
      exact hlog
    rw [hlog'] at he
    exact (List.mem_append.mp he).elim (hbefore e) (hafter e)
  change (recoveryPass s p).1.since pod.name = _ ∨ _ ∧ (recoveryPass s p).1.since pod.name = _ at hstored
  generalize hwas : s.since pod.name = was at hvisit hstored
  cases hvisit with
  | healthy => exact .idle (hquiet rfl) (hwas ▸ hstored.symm.imp (fun h => h.2) id)
  | waiting => exact .idle (hquiet rfl) (.inl (hwas ▸ hstored.elim id (fun h => h.2)))
  | started hcrash => exact .started (hquiet rfl) ⟨hwas, _, hl, pod, by simp, rfl, hcrash⟩
  | created v hcrash hjob => exact .created before after hlog hafter hbefore
  | deleted v firstSeen failures active succeeded hcrash hparse hdue hjob hnone hgoing hok =>
    have hdeletion : DueDeletion s p pod :=
      ⟨⟨_, hl, by simp⟩, hcrash, ⟨v, firstSeen, hwas, hparse, hdue⟩,
        ⟨failures, active, succeeded, hjob, hnone, hgoing⟩, hok⟩
    refine .deleted pod before after rfl hlog hafter hbefore hdeletion (fun hp => ?_)
    rcases hstored with h | ⟨hfail,-⟩
    · exact h
    · rw [hp] at hfail
      cases hfail

/-- No two pods have one name, so that a pass comes to each at most once. -/
theorem podEffect {s : RecoveryState} {p : RecoveryPass} (h : Lawful s p) (name : Text) :
    PodEffect s p name := by
  by_cases hex : ∃ pods, p.input.listed = some pods ∧ ∃ pod ∈ pods, pod.name = name
  · obtain ⟨pods,hl,pod,hpod,rfl⟩ := hex
    obtain ⟨front,back,rfl,hfront,hback⟩ := pods_split (h.names pods hl) hpod
    exact podEffect_listed hl hfront hback
  · refine podEffect_unlisted (fun pods hl pod hpod heq => ?_)
    exact hex ⟨pods, hl, pod, hpod, heq⟩

def Undoubled (name : Text) (e e' : Event) : Prop := ¬ (e.deletes name = true ∧ e'.deletes name = true)

def Creates (name : Text) (e : Event) : Prop := e.creates name = true

/-- Between a deletion and the next Job the timer is off or there is no Job left. -/
structure RecoveryInv (name : Text) (past : List Event) (s : RecoveryState) : Prop where
  spaced : Spaced (Undoubled name) (Creates name) past
  calm : ∀ e, Open (Creates name) past e → e.deletes name = true → s.since name = none ∨ s.jobs name = none

theorem RecoveryInv.quiet {name : Text} {past es : List Event} {s s' : RecoveryState}
    (h : RecoveryInv name past s) (hes : ∀ e ∈ es, e.deletes name = false)
    (hcalm : (s.since name = none ∨ s.jobs name = none) → (∀ e ∈ es, ¬ Creates name e) →
      s'.since name = none ∨ s'.jobs name = none) : RecoveryInv name (past ++ es) s' := by
  constructor
  · refine h.spaced.append (fun before y after heq x _ hboth => ?_)
    have hy := hes y (by simp [heq])
    rw [hboth.2] at hy
    cases hy
  · intro e he hdel
    rcases he.of_append with hnew | ⟨hold,hstop⟩
    · rw [hes e hnew.mem] at hdel
      cases hdel
    · exact hcalm (h.calm e hold hdel) hstop

theorem RecoveryInv.deleted {name : Text} {past before after : List Event} {pod : Pod}
    {s s' : RecoveryState} (h : RecoveryInv name past s) (hbefore : ∀ e ∈ before, e.PassesBy name)
    (hafter : ∀ e ∈ after, e.PassesBy name) (hbusy : s.since name ≠ none ∧ s.jobs name ≠ none)
    (hnone : s'.since name = none) :
    RecoveryInv name (past ++ (before ++ .deletePod pod :: after)) s' := by
  refine ⟨h.spaced.append (fun front y back heq x hx hboth => ?_), fun _ _ _ => .inl hnone⟩
  -- the only entry of the pass that can be the second deletion is the one in the middle
  have hpassed : ∀ {e : Event}, e.PassesBy name → e.deletes name = true → False := by
    intro e hpass hdel
    rw [hpass.2] at hdel
    cases hdel
  have hmiddle : front = before → False := by
    rintro rfl
    rcases hx.of_append with hnew | ⟨hold,-⟩
    · exact hpassed (hbefore x hnew.mem) hboth.1
    · exact (h.calm x hold hboth.1).elim hbusy.1 hbusy.2
  rcases List.append_eq_append_iff.mp heq with ⟨mid,hfront,hmid⟩ | ⟨mid,hmid,hback⟩
  · cases mid with
    | nil => exact hmiddle (by simpa using hfront)
    | cons z mid =>
      simp only [List.cons_append,List.cons.injEq] at hmid
      exact hpassed (hafter y (by simp [hmid.2])) hboth.2
  · cases mid with
    | nil => exact hmiddle (by simpa using hmid.symm)
    | cons z mid =>
      simp only [List.cons_append,List.cons.injEq] at hback
      exact hpassed (hbefore y (by simp [hmid,hback.1])) hboth.2

/-- The pass starts no timer while a Job of the pod is left, and records its deletions. -/
structure CleanStart (s : RecoveryState) (p : RecoveryPass) : Prop where
  started : ∀ name, StartsTimer s p name → p.jobs name = none
  recorded : ∀ pod, DueDeletion s p pod → p.input.patchOK = true

theorem JobMoves.none {clock now : Time} {j : Option JobState} (h : JobMoves clock now none j) :
    j = none := by
  cases h
  rfl

theorem recoveryPass_jobs {s : RecoveryState} {p : RecoveryPass} {name : Text}
    (h : ∀ e ∈ (p.world s).log, ¬ Creates name e) : (recoveryPass s p).1.jobs name = p.jobs name := by
  have hany : (p.world s).log.any (Event.creates name) = false := by
    rw [List.any_eq_false]
    exact h
  simp only [recoveryPass,hany,Bool.false_eq_true,if_false]

theorem recoveryInv_step {name : Text} {past : List Event} {s : RecoveryState} {p : RecoveryPass}
    (h : RecoveryInv name past s) (hl : Lawful s p) (hc : CleanStart s p) :
    RecoveryInv name (past ++ (recoveryPass s p).2) (recoveryPass s p).1 := by
  have hgone : s.jobs name = none → p.jobs name = none := by
    intro hnone
    have hmoves := hl.jobs name
    rw [hnone] at hmoves
    exact hmoves.none
  have hevents : (recoveryPass s p).2 = (p.world s).log := rfl
  rw [hevents]
  cases podEffect hl name with
  | idle hquiet hsince =>
    refine h.quiet (fun e he => (hquiet e he).2) (fun hcalm hstop => ?_)
    rcases hcalm with hoff | hnone
    · left
      rcases hsince with hs | hs
      · exact hs.trans hoff
      · exact hs
    · exact .inr ((recoveryPass_jobs hstop).trans (hgone hnone))
  | started hquiet hstart =>
    refine h.quiet (fun e he => (hquiet e he).2) (fun _ hstop => .inr ?_)
    exact (recoveryPass_jobs hstop).trans (hc.started name hstart)
  | created before after hlog hafter hbefore =>
    refine h.quiet (fun e he => ?_) (fun _ hstop => ?_)
    · rw [hlog] at he
      rcases List.mem_append.mp he with he | he
      · exact (hbefore e he).2
      rcases List.mem_cons.mp he with rfl | he
      · rfl
      · exact (hafter e he).2
    · refine absurd ?_ (hstop (.createJob (.rdbRecovery name)) (by simp [hlog]))
      simp [Creates,Event.creates]
  | deleted pod before after hname hlog hafter hbefore hdue hnone =>
    obtain ⟨v,firstSeen,hon,-⟩ := hdue.expired
    obtain ⟨failures,active,succeeded,hfound,-⟩ := hdue.job
    rw [hlog]
    refine h.deleted hbefore hafter ⟨?_, fun hjob => ?_⟩ (hnone (hc.recorded pod hdue))
    · rw [← hname,hon]
      exact Option.some_ne_none v
    · -- with the Job gone the pass would not have found it
      rcases hl.reads pod with hread | hread
      · rw [hfound] at hread
        cases hread
      · rw [hfound,hname,hgone hjob] at hread
        cases hread

def recoveryEvents (start : RecoveryState) (passes : List RecoveryPass) : List Event :=
  (log recoveryPass start passes).flatMap (fun q => q.2)

/-- Between two deletions of a pod name comes a new recovery Job for it. -/
def Backed (events : List Event) : Prop :=
  ∀ before pod between pod' after,
    events = before ++ .deletePod pod :: (between ++ .deletePod pod' :: after) → pod'.name = pod.name →
    .createJob (.rdbRecovery pod.name) ∈ between

theorem creates_eq {name : Text} {e : Event} (h : e.creates name = true) :
    e = .createJob (.rdbRecovery name) := by
  cases e with
  | createJob job =>
    cases job with
    | rdbRecovery pod =>
      simp only [Event.creates,decide_eq_true_eq] at h
      rw [h]
    | _ => cases h
  | _ => cases h

theorem backed_of_spaced {events : List Event}
    (h : ∀ name, Spaced (Undoubled name) (Creates name) events) : Backed events := by
  intro before pod between pod' after heq hname
  by_contra hnone
  refine h pod.name (before ++ .deletePod pod :: between) (.deletePod pod') after (by simp [heq])
    (.deletePod pod) ⟨before, between, rfl, fun e he hcreates => ?_⟩ ⟨?_, ?_⟩
  · rw [creates_eq hcreates] at he
    exact hnone he
  · simp [Event.deletes]
  · simp [Event.deletes,hname]

/-- Each deletion has its own cleanup as long as no timer starts beside the Job of an earlier
recovery and the annotation of a deleted pod is really removed. -/
theorem deletions_backed {start : RecoveryState} {passes : List RecoveryPass}
    (hrun : Along recoveryPass (fun s p => Lawful s p ∧ CleanStart s p) start passes) :
    Backed (recoveryEvents start passes) := by
  refine backed_of_spaced (fun name => ?_)
  have hinv := hrun.final (fun past s => RecoveryInv name (past.flatMap (fun q => q.2)) s)
    ⟨fun before y after heq => by simp at heq, fun e he => by simpa using he.mem⟩
    (fun past s p hinv hp => by
      have hnext := recoveryInv_step hinv hp.1 hp.2
      simpa using hnext)
  exact hinv.spaced

/-! One pod that keeps crashing, for concrete runs. -/

def crashingPod : Pod :=
  { readyPod '1' with
    ready := some .false
    containers := [⟨"valkey".toList, some "CrashLoopBackOff".toList, 3⟩] }

def jobsOf (job : Option JobState) (name : Text) : Option JobState :=
  if name = crashingPod.name then job else none

def crashPass (now : Time) (job : Option JobState) : RecoveryPass where
  others := .nothing _
  jobs := jobsOf job
  input := ⟨some [crashingPod], now, fun pod => jobAnswer (jobsOf job pod.name), fun _ => true, fun _ => true, true⟩

def running : JobState := ⟨0, 1, 0, none⟩

def succeededAt (t : Time) : JobState := ⟨0, 0, 1, some t⟩

def crashStart : RecoveryState := ⟨threeShards (fun _ => none), fun _ => none, 0⟩

theorem crashStart_jobs : crashStart.jobs = jobsOf none := by
  funext name
  simp [crashStart,jobsOf]

theorem crashPass_lawful {s : RecoveryState} {now : Time} {job job' : Option JobState}
    (hjobs : s.jobs = jobsOf job) (hclock : s.clock ≤ now) (hmoves : JobMoves s.clock now job job') :
    Lawful s (crashPass now job') where
  clock := hclock
  names := by
    intro pods hl
    cases hl
    simp
  jobs := by
    intro name
    rw [hjobs]
    unfold crashPass jobsOf
    dsimp only
    split
    · exact hmoves
    · exact .absent
  reads := fun _ => .inr rfl

theorem crashPass_clean {s : RecoveryState} {now : Time} {job : Option JobState}
    (h : s.since crashingPod.name = none → job = none) : CleanStart s (crashPass now job) where
  started := by
    rintro name ⟨hnone,pods,hl,pod,hpod,rfl,-⟩
    cases hl
    rw [List.mem_singleton.mp hpod] at hnone ⊢
    simpa [crashPass,jobsOf] using h hnone
  recorded := fun _ _ => rfl

theorem crashPass_jobs {s : RecoveryState} {now : Time} {job : Option JobState}
    (hlog : ((crashPass now job).world s).log = [] ∨
      ((crashPass now job).world s).log = [.deletePod crashingPod]) :
    (recoveryPass s (crashPass now job)).1.jobs = jobsOf job := by
  funext name
  refine recoveryPass_jobs (fun e he => ?_)
  rcases hlog with hlog | hlog
  · simp [hlog] at he
  · rw [hlog,List.mem_singleton] at he
    simp [he,Creates,Event.creates]

theorem crashPass_creates {s : RecoveryState} {now : Time}
    (hlog : ((crashPass now none).world s).log = [.createJob (.rdbRecovery crashingPod.name)]) :
    (recoveryPass s (crashPass now none)).1.jobs = jobsOf (some .fresh) := by
  funext name
  by_cases hname : name = crashingPod.name
  · simp [recoveryPass,hlog,Event.creates,jobsOf,hname]
  · have hkept : (recoveryPass s (crashPass now none)).1.jobs name = jobsOf none name := by
      refine recoveryPass_jobs (fun e he => ?_)
      rw [hlog,List.mem_singleton] at he
      simp [he,Creates,Event.creates,Ne.symm hname]
    simp [hkept,jobsOf,hname]

theorem fresh_runs (clock now : Time) : JobMoves clock now (some .fresh) (some running) :=
  .changed _ _ (by simp [JobState.fresh]) (by simp [running])

def lateRelapse : List RecoveryPass :=
  [crashPass 0 none, crashPass (180*second) none, crashPass (183*second) (some running),
    crashPass (500*second) none, crashPass (680*second) none, crashPass (683*second) (some running)]

theorem lateRelapse_backed :
    recoveryEvents crashStart lateRelapse =
        [.createJob (.rdbRecovery crashingPod.name), .deletePod crashingPod,
          .createJob (.rdbRecovery crashingPod.name), .deletePod crashingPod] ∧
      Backed (recoveryEvents crashStart lateRelapse) := by
  refine ⟨rfl, deletions_backed ⟨⟨?_, ?_⟩, ⟨?_, ?_⟩, ⟨?_, ?_⟩, ⟨?_, ?_⟩, ⟨?_, ?_⟩, ⟨?_, ?_⟩, trivial⟩⟩
  · exact crashPass_lawful crashStart_jobs (by decide) .absent
  · exact crashPass_clean (fun _ => rfl)
  · exact crashPass_lawful (crashPass_jobs (.inl rfl)) (by decide) .absent
  · exact crashPass_clean (fun _ => rfl)
  · exact crashPass_lawful (crashPass_creates rfl) (by decide) (fresh_runs _ _)
  · exact crashPass_clean (fun h => by cases h)
  · exact crashPass_lawful (crashPass_jobs (.inr rfl)) (by decide) (.removed _ (190*second) (.inr ⟨rfl, by decide⟩) (by decide))
  · exact crashPass_clean (fun _ => rfl)
  · exact crashPass_lawful (crashPass_jobs (.inl rfl)) (by decide) .absent
  · exact crashPass_clean (fun _ => rfl)
  · exact crashPass_lawful (crashPass_creates rfl) (by decide) (fresh_runs _ _)
  · exact crashPass_clean (fun h => by cases h)

def earlyRelapse : List RecoveryPass :=
  [crashPass 0 none, crashPass (180*second) none, crashPass (183*second) (some running),
    crashPass (240*second) (some (succeededAt (190*second))),
    crashPass (420*second) (some (succeededAt (190*second)))]

theorem earlyRelapse_unbacked :
    Along recoveryPass Lawful crashStart earlyRelapse ∧
      recoveryEvents crashStart earlyRelapse =
        [.createJob (.rdbRecovery crashingPod.name), .deletePod crashingPod, .deletePod crashingPod] ∧
      ¬ Backed (recoveryEvents crashStart earlyRelapse) := by
  have hevents : recoveryEvents crashStart earlyRelapse =
      [.createJob (.rdbRecovery crashingPod.name), .deletePod crashingPod, .deletePod crashingPod] := rfl
  refine ⟨⟨?_, ?_, ?_, ?_, ?_, trivial⟩, hevents, fun h => ?_⟩
  · exact crashPass_lawful crashStart_jobs (by decide) .absent
  · exact crashPass_lawful (crashPass_jobs (.inl rfl)) (by decide) .absent
  · exact crashPass_lawful (crashPass_creates rfl) (by decide) (fresh_runs _ _)
  · exact crashPass_lawful (crashPass_jobs (.inr rfl)) (by decide)
      (.changed _ _ (by simp [running]) (fun _ t ht => by cases ht; exact ⟨by decide, by decide⟩))
  · exact crashPass_lawful (crashPass_jobs (.inl rfl)) (by decide)
      (.changed _ _ (by simp) (by simp [succeededAt]))
  · have hmem := h [.createJob (.rdbRecovery crashingPod.name)] crashingPod [] crashingPod [] hevents rfl
    cases hmem

end ValkeyOperator
