import ValkeyOperator.ClusterObject
import ValkeyOperator.ModuleText

/-!
The timers of a degraded cluster and the bootstrap state machine. Every
function takes what the environment answers in one call and the world before
it; clock readings are part of the answers.
-/

set_option autoImplicit false

namespace ValkeyOperator
open TextScan

def resetCooldown : Int := 5*minute

def convergenceTimeoutFor (vc : ValkeyCluster) : Int :=
  let nodeTimeoutMs := if vc.spec.clusterNodeTimeout ≤ 0 then 2000 else vc.spec.clusterNodeTimeout
  let d := nodeTimeoutMs * 1000000 * 10
  let d := if d < 30*second then 30*second else d
  if d > 120*second then 120*second else d

structure TimerInput where
  now : Time
  patchOK : Bool

def notOKExpired (vc : ValkeyCluster) (now : Time) : Bool :=
  match vc.annotations .clusterNotOKSince with
  | none => false
  | some start =>
    match parseRFC3339 start with
    | none => false
    | some t => decide (convergenceTimeoutFor vc ≤ now - t)

/-- A first call starts the timer and reverts it in memory when the patch fails. -/
def clusterNotOKTimedOut (i : TimerInput) (w : World) : Bool × World :=
  match w.vc.annotations .clusterNotOKSince with
  | none =>
    let w' := (w.annotate .clusterNotOKSince (some (formatRFC3339 i.now))).patch i.patchOK w.vc
    (false, if i.patchOK then w' else w'.annotate .clusterNotOKSince none)
  | some _ => (notOKExpired w.vc i.now, w)

def clearClusterNotOKAnnotation (patchOK : Bool) (w : World) : World :=
  if w.vc.annotations .clusterNotOKSince = none ∧ w.vc.annotations .lastResetTime = none then w
  else ((w.annotate .clusterNotOKSince none).annotate .lastResetTime none).patch patchOK w.vc

structure ResetInput where
  checkedAt : Time
  outcome : Pod → ResetOutcome
  recordedAt : Time
  patchOK : Bool

def ResetInput.round (i : ResetInput) (pods : List Pod) : ResetRound :=
  ⟨i.checkedAt, pods.map (fun pod => (pod, i.outcome pod)), i.recordedAt⟩

def cooldownActive (vc : ValkeyCluster) (now : Time) : Bool :=
  match vc.annotations .lastResetTime with
  | none => false
  | some lastStr =>
    match parseRFC3339 lastStr with
    | none => false
    | some last => decide (now - last < resetCooldown)

/-- The second component is whether the call returns an error: it never does. -/
def resetAllNodes (i : ResetInput) (pods : List Pod) (w : World) : World × Bool :=
  if cooldownActive w.vc i.checkedAt then (w, false)
  else
    let w' := w.emit (.reset (i.round pods))
    ((w'.annotate .lastResetTime (some (formatRFC3339 i.recordedAt))).patch i.patchOK w'.vc, false)

def ownsSlots : String := "node already owns slots — already part of a cluster"
def stalePeers : String := "stale peers in nodes.conf — CLUSTER RESET SOFT required"

/-- What OPERATOR.BOOTSTRAP.READY comes to for the operator. -/
inductive BootstrapReply where
  | unreachable
  | commandError : String → BootstrapReply
  | reply : Int → String → BootstrapReply
  deriving DecidableEq, Repr

def BootstrapReply.ready : BootstrapReply → Bool
  | .reply ready _ => ready == 1
  | _ => false

def BootstrapReply.reason : BootstrapReply → String
  | .unreachable => "unreachable"
  | .commandError err => "command error: " ++ err
  | .reply _ reason => reason

inductive JobLookup where
  | notFound
  | failed
  | found : (succeeded failures : Int) → (backoffLimit : Option Int) → JobLookup
  deriving DecidableEq, Repr

structure BootstrapInput where
  secretOK : Bool
  reply : Pod → BootstrapReply
  arrival : Arrival
  timer : TimerInput
  staleReset : ResetInput
  clearOK : Bool
  job : JobLookup
  freshReset : ResetInput
  createOK : Bool

def notReadyReasons (i : BootstrapInput) (pods : List Pod) : List String :=
  (((i.arrival.order pods).map i.reply).filter (fun r => !r.ready)).map BootstrapReply.reason

def runBootstrapJob (i : BootstrapInput) (readyPods : List Pod) (w : World) : World × Bool :=
  match i.job with
  | .found succeeded failures backoffLimit =>
    if succeeded > 0 then (w.emit (.deleteJob .bootstrap), false)
    else
      match backoffLimit with
      | some limit => if failures > limit then (w.emit (.deleteJob .bootstrap), false) else (w, false)
      | none => (w, false)
  | .failed => (w, true)
  | .notFound =>
    let (w, err) := resetAllNodes i.freshReset readyPods w
    if err then (w, false)
    else if i.createOK then (w.emit (.createJob .bootstrap), false)
    else (w, true)

def reconcileBootstrapJob (i : BootstrapInput) (readyPods : List Pod) (w : World) : World × Bool :=
  if !i.secretOK then (w, true)
  else if (readyPods.length : Int) < totalPods w.vc then (w, false)
  else
    let reasons := notReadyReasons i readyPods
    if reasons = [] then runBootstrapJob i readyPods w
    else if reasons.all (fun reason => reason = ownsSlots) then (w, false)
    else if reasons.contains stalePeers then
      match clusterNotOKTimedOut i.timer w with
      | (false, w) => (w, false)
      | (true, w) =>
        let (w, err) := resetAllNodes i.staleReset readyPods w
        if err then (w, false)
        else runBootstrapJob i readyPods (w |> clearClusterNotOKAnnotation i.clearOK)
    else (w, false)

theorem clusterNotOKTimedOut_fst (i : TimerInput) (w : World) :
    (clusterNotOKTimedOut i w).1 = notOKExpired w.vc i.now := by
  unfold clusterNotOKTimedOut
  cases h : w.vc.annotations .clusterNotOKSince with
  | none => simp [notOKExpired,h]
  | some start => rfl

theorem clusterNotOKTimedOut_expired {i : TimerInput} {w : World}
    (h : notOKExpired w.vc i.now = true) : clusterNotOKTimedOut i w = (true, w) := by
  unfold clusterNotOKTimedOut
  cases ha : w.vc.annotations .clusterNotOKSince with
  | none => simp [notOKExpired,ha] at h
  | some start => simp [h]

theorem clusterNotOKTimedOut_waits {i : TimerInput} {w : World}
    (h : notOKExpired w.vc i.now = false) :
    clusterNotOKTimedOut i w = (false, (clusterNotOKTimedOut i w).2) := by
  rw [← h,← clusterNotOKTimedOut_fst]

theorem clusterNotOKTimedOut_frame {keys : AnnotationKey → Prop} {acts : Event → Prop}
    (hk : ¬ keys .clusterNotOKSince) (i : TimerInput) (w : World) :
    Frame keys acts w (clusterNotOKTimedOut i w).2 := by
  unfold clusterNotOKTimedOut
  cases h : w.vc.annotations .clusterNotOKSince with
  | none =>
    have hedit : Edit keys w (w.annotate .clusterNotOKSince (some (formatRFC3339 i.now))) :=
      Edit.annotate hk _ w
    have hpatch : Frame keys acts w _ := Frame.editPatch hedit i.patchOK
    by_cases hp : i.patchOK
    · simpa [hp] using hpatch
    · have hrevert := hpatch.trans (Frame.edit (Edit.annotate hk none _))
      simpa [hp] using hrevert
  | some start => exact Frame.refl keys acts w

theorem clusterNotOKTimedOut_log (i : TimerInput) (w : World) :
    (clusterNotOKTimedOut i w).2.log = w.log := by
  have h : Frame (fun _ => False) (fun _ => False) w (clusterNotOKTimedOut i w).2 :=
    clusterNotOKTimedOut_frame (fun hk => hk) i w
  exact h.log_eq

theorem clear_none {k : AnnotationKey} (hk : k = .clusterNotOKSince ∨ k = .lastResetTime)
    (ok : Bool) {w : World} (h : w.Synced k ∨ w.vc.annotations k ≠ none) :
    (w |> clearClusterNotOKAnnotation ok).vc.annotations k = none := by
  unfold clearClusterNotOKAnnotation
  by_cases hboth : w.vc.annotations .clusterNotOKSince = none ∧ w.vc.annotations .lastResetTime = none
  · rw [if_pos hboth]
    rcases hk with rfl | rfl
    · exact hboth.1
    · exact hboth.2
  · rw [if_neg hboth]
    have hcur : ((w.annotate .clusterNotOKSince none).annotate .lastResetTime none).vc.annotations k
        = none := by
      rcases hk with rfl | rfl
      · rw [World.annotate_ne (by decide)]
        exact World.annotate_self _ _ _
      · exact World.annotate_self _ _ _
    cases ok with
    | false => exact hcur
    | true =>
      rw [World.patch_annotations]
      unfold MergePatch.keyed
      rw [hcur]
      by_cases hb : w.vc.annotations k = none
      · have hs : w.Synced k := h.resolve_right (fun hne => hne hb)
        have hst : w.stored.annotations k = none := hs.symm.trans hb
        simp [hb,hst]
      · exact MergePatch.field_changed _ (fun hh => hb hh.symm)

theorem clear_frame {keys : AnnotationKey → Prop} {acts : Event → Prop}
    (h₁ : ¬ keys .clusterNotOKSince) (h₂ : ¬ keys .lastResetTime) (ok : Bool) (w : World) :
    Frame keys acts w (w |> clearClusterNotOKAnnotation ok) := by
  unfold clearClusterNotOKAnnotation
  split
  · exact Frame.refl keys acts w
  · exact Frame.editPatch ((Edit.annotate h₁ none w).trans (Edit.annotate h₂ none _)) ok

@[simp] theorem clear_log (ok : Bool) (w : World) :
    (w |> clearClusterNotOKAnnotation ok).log = w.log := by
  unfold clearClusterNotOKAnnotation
  split <;> simp

def resetEvents (i : ResetInput) (pods : List Pod) (vc : ValkeyCluster) : List Event :=
  if cooldownActive vc i.checkedAt then [] else [.reset (i.round pods)]

@[simp] theorem resetAllNodes_err (i : ResetInput) (pods : List Pod) (w : World) :
    (resetAllNodes i pods w).2 = false := by
  unfold resetAllNodes
  split <;> rfl

theorem resetAllNodes_log (i : ResetInput) (pods : List Pod) (w : World) :
    (resetAllNodes i pods w).1.log = w.log ++ resetEvents i pods w.vc := by
  unfold resetAllNodes resetEvents
  split
  · simp
  · simp

def Event.IsReset : Event → Prop
  | .reset _ => True
  | _ => False

theorem resetAllNodes_frame {keys : AnnotationKey → Prop} {acts : Event → Prop}
    (hk : ¬ keys .lastResetTime) (ha : ∀ e, e.IsReset → acts e)
    (i : ResetInput) (pods : List Pod) (w : World) :
    Frame keys acts w (resetAllNodes i pods w).1 := by
  unfold resetAllNodes
  split
  · exact Frame.refl keys acts w
  · have hround : acts (.reset (i.round pods)) := ha (.reset (i.round pods)) trivial
    exact (Frame.emit hround w).trans (Frame.editPatch (Edit.annotate hk _ _) i.patchOK)

/-- After a call the cooldown annotation can be cleared: it is there, or both
copies agree. -/
theorem resetAllNodes_clearable (i : ResetInput) (pods : List Pod) (w : World) :
    (resetAllNodes i pods w).1.Synced .lastResetTime ∨
      (resetAllNodes i pods w).1.vc.annotations .lastResetTime ≠ none := by
  unfold resetAllNodes
  by_cases hc : cooldownActive w.vc i.checkedAt
  · rw [if_pos hc]
    refine .inr (fun hnone => ?_)
    have hw : w.vc.annotations .lastResetTime = none := hnone
    simp [cooldownActive,hw] at hc
  · rw [if_neg hc]
    cases hp : i.patchOK with
    | false =>
      refine .inr ?_
      simp
    | true => exact .inl rfl

theorem clear_inactive (ok : Bool) (i : ResetInput) (pods : List Pod) (w : World) (now : Time) :
    cooldownActive ((resetAllNodes i pods w).1 |> clearClusterNotOKAnnotation ok).vc now = false := by
  have hnone := clear_none (.inr rfl) ok (resetAllNodes_clearable i pods w)
  simp [cooldownActive,hnone]

def jobEvents (i : BootstrapInput) : List Event :=
  match i.job with
  | .found succeeded failures backoffLimit =>
    if succeeded > 0 then [.deleteJob .bootstrap]
    else
      match backoffLimit with
      | some limit => if failures > limit then [.deleteJob .bootstrap] else []
      | none => []
  | .failed => []
  | .notFound => if i.createOK then [.createJob .bootstrap] else []

theorem runBootstrapJob_log (i : BootstrapInput) (readyPods : List Pod) (w : World) :
    (runBootstrapJob i readyPods w).1.log =
      w.log ++ (if i.job = .notFound then resetEvents i.freshReset readyPods w.vc else []) ++
        jobEvents i := by
  unfold runBootstrapJob jobEvents
  cases hj : i.job with
  | notFound =>
    have hlog := resetAllNodes_log i.freshReset readyPods w
    cases hc : i.createOK <;> simp [hlog]
  | failed => simp
  | found succeeded failures backoffLimit =>
    simp only [reduceCtorEq,if_false,List.append_nil]
    cases backoffLimit with
    | none => dsimp only; split_ifs <;> simp
    | some limit => dsimp only; split_ifs <;> simp

/-- The stale-peers branch with an expired timer, where both resets stand. -/
structure ForcesReset (i : BootstrapInput) (readyPods : List Pod) (vc : ValkeyCluster) : Prop where
  secret : i.secretOK = true
  enough : totalPods vc ≤ readyPods.length
  stale : stalePeers ∈ notReadyReasons i readyPods
  expired : notOKExpired vc i.timer.now = true

theorem reconcileBootstrapJob_forced {i : BootstrapInput} {readyPods : List Pod} {w : World}
    (h : ForcesReset i readyPods w.vc) :
    (reconcileBootstrapJob i readyPods w).1.log =
      w.log ++ resetEvents i.staleReset readyPods w.vc ++
        (if i.job = .notFound then [.reset (i.freshReset.round readyPods)] else []) ++
        jobEvents i := by
  have hlen : ¬ ((readyPods.length : Int) < totalPods w.vc) := by
    have := h.enough
    omega
  have hne : notReadyReasons i readyPods ≠ [] := List.ne_nil_of_mem h.stale
  have hall : ¬ (notReadyReasons i readyPods).all (fun reason => reason = ownsSlots) = true := by
    intro hh
    have := List.all_eq_true.mp hh _ h.stale
    revert this
    decide
  have hcon : (notReadyReasons i readyPods).contains stalePeers = true := by
    simpa using h.stale
  unfold reconcileBootstrapJob
  simp only [h.secret,Bool.not_true,Bool.false_eq_true,if_false,hlen,hne,hall,hcon,if_true,
    clusterNotOKTimedOut_expired h.expired,resetAllNodes_err,runBootstrapJob_log,clear_log,
    resetAllNodes_log]
  -- the record of the first round is cleared, so the second finds no cooldown
  have hfresh : resetEvents i.freshReset readyPods
      ((resetAllNodes i.staleReset readyPods w).1 |> clearClusterNotOKAnnotation i.clearOK).vc =
      [.reset (i.freshReset.round readyPods)] := by
    simp [resetEvents,clear_inactive]
  rw [hfresh]

theorem reconcileBootstrapJob_unforced {i : BootstrapInput} {readyPods : List Pod} {w : World}
    (h : ¬ ForcesReset i readyPods w.vc) :
    (reconcileBootstrapJob i readyPods w).1.log = w.log ∨
      notReadyReasons i readyPods = [] ∧
      (reconcileBootstrapJob i readyPods w).1.log =
        w.log ++ (if i.job = .notFound then resetEvents i.freshReset readyPods w.vc else []) ++
          jobEvents i := by
  unfold reconcileBootstrapJob
  by_cases hs : i.secretOK = true
  · by_cases hlen : (readyPods.length : Int) < totalPods w.vc
    · simp [hs,hlen]
    · by_cases hne : notReadyReasons i readyPods = []
      · right
        refine ⟨hne, ?_⟩
        simp [hs,hlen,hne,runBootstrapJob_log]
      · left
        by_cases hst : stalePeers ∈ notReadyReasons i readyPods
        · have hexp : notOKExpired w.vc i.timer.now = false := by
            by_contra hh
            exact h ⟨hs, by omega, hst, by simpa using hh⟩
          have hlog := clusterNotOKTimedOut_log i.timer w
          simp only [hs,Bool.not_true,Bool.false_eq_true,if_false,hlen,hne]
          rw [clusterNotOKTimedOut_waits hexp]
          split_ifs <;> simp [hlog]
        · have hcon : (notReadyReasons i readyPods).contains stalePeers = false := by
            simpa using hst
          simp only [hs,Bool.not_true,Bool.false_eq_true,if_false,hlen,hne,hcon]
          split_ifs <;> rfl
  · simp [hs]

def Event.IsBootstrap : Event → Prop
  | .reset _ => True
  | .createJob name => name = .bootstrap
  | .deleteJob name => name = .bootstrap
  | _ => False

theorem Event.IsReset.isBootstrap {e : Event} (h : e.IsReset) : e.IsBootstrap := by
  cases e with
  | reset r => trivial
  | _ => exact h.elim

structure ResetRecorded (i : ResetInput) (pods : List Pod) (w w' : World) : Prop where
  inactive : cooldownActive w.vc i.checkedAt = false
  log : ∃ es, w'.log = w.log ++ .reset (i.round pods) :: es ∧ ∀ e ∈ es, ¬ e.IsReset
  recorded : w'.stored.annotations .lastResetTime = some (formatRFC3339 i.recordedAt)

theorem ResetRecorded.emit {i : ResetInput} {pods : List Pod} {w w' : World}
    (h : ResetRecorded i pods w w') {e : Event} (he : ¬ e.IsReset) :
    ResetRecorded i pods w (w'.emit e) := by
  obtain ⟨hc,⟨es,hlog,hes⟩,hrec⟩ := h
  refine ⟨hc, ⟨es ++ [e], by simp [hlog], ?_⟩, hrec⟩
  intro x hx
  rcases List.mem_append.mp hx with hx | hx
  · exact hes x hx
  · rw [List.mem_singleton.mp hx]
    exact he

theorem resetAllNodes_recorded {i : ResetInput} (hp : i.patchOK = true) {w : World}
    (hs : w.Synced .lastResetTime) (hc : cooldownActive w.vc i.checkedAt = false) (pods : List Pod) :
    ResetRecorded i pods w (resetAllNodes i pods w).1 := by
  unfold resetAllNodes
  rw [if_neg (by simp [hc]),hp]
  have hemit : (w.emit (.reset (i.round pods))).Synced .lastResetTime := hs
  exact ⟨hc, ⟨[], by simp, by simp⟩, World.annotate_patched hemit _⟩

theorem resetAllNodes_skipped {i : ResetInput} {w : World}
    (hc : cooldownActive w.vc i.checkedAt = true) (pods : List Pod) :
    (resetAllNodes i pods w).1 = w := by
  simp [resetAllNodes,hc]

theorem runBootstrapJob_recorded {i : BootstrapInput} (hp : i.freshReset.patchOK = true) {w : World}
    (hs : w.Synced .lastResetTime) (pods : List Pod) :
    Emits (fun e => ¬ e.IsReset) w (runBootstrapJob i pods w).1 ∨
      ResetRecorded i.freshReset pods w (runBootstrapJob i pods w).1 := by
  have hdelete : Emits (fun e => ¬ e.IsReset) w (w.emit (.deleteJob .bootstrap)) :=
    Emits.emit (e := .deleteJob .bootstrap) (fun h => h) w
  unfold runBootstrapJob
  cases i.job with
  | failed => exact .inl (Emits.refl _ w)
  | found succeeded failures backoffLimit =>
    left
    cases backoffLimit with
    | none =>
      dsimp only
      split_ifs
      · exact hdelete
      · exact Emits.refl _ w
    | some limit =>
      dsimp only
      split_ifs
      · exact hdelete
      · exact hdelete
      · exact Emits.refl _ w
  | notFound =>
    have hcreate : ¬ (Event.createJob .bootstrap).IsReset := fun h => h
    cases hc : cooldownActive w.vc i.freshReset.checkedAt with
    | true =>
      left
      simp only [resetAllNodes_err,Bool.false_eq_true,if_false,resetAllNodes_skipped hc]
      split
      · exact Emits.emit hcreate w
      · exact Emits.refl _ w
    | false =>
      right
      have hround := resetAllNodes_recorded hp hs hc pods
      simp only [resetAllNodes_err,Bool.false_eq_true,if_false]
      split
      · exact hround.emit hcreate
      · exact hround

/-- A call that does not force the resets sends one round at most. -/
theorem reconcileBootstrapJob_recorded {i : BootstrapInput} {pods : List Pod} {w : World}
    (h : ¬ ForcesReset i pods w.vc) (hp : i.freshReset.patchOK = true)
    (hs : w.Synced .lastResetTime) :
    Frame (fun k => k = .lastResetTime) (fun e => ¬ e.IsReset) w (reconcileBootstrapJob i pods w).1 ∨
      ResetRecorded i.freshReset pods w (reconcileBootstrapJob i pods w).1 := by
  unfold reconcileBootstrapJob
  by_cases hsec : i.secretOK = true
  · by_cases hlen : (pods.length : Int) < totalPods w.vc
    · simp only [hsec,hlen,Bool.not_true,Bool.false_eq_true,if_false,if_true]
      exact .inl (Frame.refl _ _ w)
    · simp only [hsec,hlen,Bool.not_true,Bool.false_eq_true,if_false]
      split_ifs with hreasons hall hstale
      · rcases runBootstrapJob_recorded hp hs pods with hemits | hrec
        · exact .inl (hemits.frame (fun _ h => h))
        · exact .inr hrec
      · exact .inl (Frame.refl _ _ w)
      · have hexp : notOKExpired w.vc i.timer.now = false := by
          by_contra hh
          exact h ⟨hsec, by omega, by simpa using hstale, by simpa using hh⟩
        rw [clusterNotOKTimedOut_waits hexp]
        exact .inl (clusterNotOKTimedOut_frame (by simp) i.timer w)
      · exact .inl (Frame.refl _ _ w)
  · simp only [hsec,Bool.not_false,if_true]
    exact .inl (Frame.refl _ _ w)

theorem notReadyReasons_nil {i : BootstrapInput} {pods : List Pod} :
    notReadyReasons i pods = [] ↔ ∀ pod ∈ pods, (i.reply pod).ready = true := by
  have hmem : ∀ pod, pod ∈ i.arrival.order pods ↔ pod ∈ pods :=
    fun pod => (i.arrival.perm pods).mem_iff
  simp [notReadyReasons,List.filter_eq_nil_iff,hmem]

theorem mem_notReadyReasons {i : BootstrapInput} {pods : List Pod} {reason : String} :
    reason ∈ notReadyReasons i pods ↔
      ∃ pod ∈ pods, (i.reply pod).ready = false ∧ (i.reply pod).reason = reason := by
  have hmem : ∀ pod, pod ∈ i.arrival.order pods ↔ pod ∈ pods :=
    fun pod => (i.arrival.perm pods).mem_iff
  simp [notReadyReasons,hmem,and_assoc]

theorem mem_resetEvents {i : ResetInput} {pods : List Pod} {vc : ValkeyCluster} {e : Event} :
    e ∈ resetEvents i pods vc ↔
      cooldownActive vc i.checkedAt = false ∧ e = .reset (i.round pods) := by
  unfold resetEvents
  cases cooldownActive vc i.checkedAt <;> simp

theorem createJob_mem_jobEvents {i : BootstrapInput} :
    Event.createJob .bootstrap ∈ jobEvents i ↔ i.job = .notFound ∧ i.createOK = true := by
  unfold jobEvents
  cases hj : i.job with
  | notFound => cases i.createOK <;> simp
  | failed => simp
  | found succeeded failures backoffLimit =>
    cases backoffLimit <;> dsimp only <;> split_ifs <;> simp

theorem reset_not_mem_jobEvents (i : BootstrapInput) (r : ResetRound) :
    Event.reset r ∉ jobEvents i := by
  unfold jobEvents
  cases hj : i.job with
  | notFound => cases i.createOK <;> simp
  | failed => simp
  | found succeeded failures backoffLimit =>
    cases backoffLimit <;> dsimp only <;> split_ifs <;> simp

def bootstrapLog (i : BootstrapInput) (readyPods : List Pod) (w : World) : List Event :=
  (reconcileBootstrapJob i readyPods { w with log := [] }).1.log

def ResetDone (log : List Event) (pod : Pod) : Prop :=
  ∃ r, Event.reset r ∈ log ∧ (pod, ResetOutcome.done) ∈ r.outcomes

theorem round_done {i : ResetInput} {pods : List Pod} {pod : Pod} :
    (pod, ResetOutcome.done) ∈ (i.round pods).outcomes ↔ pod ∈ pods ∧ i.outcome pod = .done := by
  simp only [ResetInput.round,List.mem_map,Prod.mk.injEq]
  constructor
  · rintro ⟨p,hp,rfl,hdone⟩
    exact ⟨hp, hdone⟩
  · rintro ⟨hp,hdone⟩
    exact ⟨pod, hp, rfl, hdone⟩

theorem mem_bootstrapLog_forced {i : BootstrapInput} {readyPods : List Pod} {w : World}
    (h : ForcesReset i readyPods w.vc) (e : Event) :
    e ∈ bootstrapLog i readyPods w ↔
      (cooldownActive w.vc i.staleReset.checkedAt = false ∧ e = .reset (i.staleReset.round readyPods)) ∨
      (i.job = .notFound ∧ e = .reset (i.freshReset.round readyPods)) ∨ e ∈ jobEvents i := by
  have hw : ForcesReset i readyPods ({ w with log := [] } : World).vc := h
  unfold bootstrapLog
  rw [reconcileBootstrapJob_forced hw]
  by_cases hj : i.job = .notFound <;> simp [hj,mem_resetEvents]

theorem resetDone_forced {i : BootstrapInput} {readyPods : List Pod} {w : World}
    (h : ForcesReset i readyPods w.vc) {pod : Pod} (hpod : pod ∈ readyPods) :
    ResetDone (bootstrapLog i readyPods w) pod ↔
      (cooldownActive w.vc i.staleReset.checkedAt = false ∧ i.staleReset.outcome pod = .done) ∨
      (i.job = .notFound ∧ i.freshReset.outcome pod = .done) := by
  constructor
  · rintro ⟨r,hr,hdone⟩
    rcases (mem_bootstrapLog_forced h _).mp hr with ⟨hc,he⟩ | ⟨hj,he⟩ | he
    · cases he
      exact .inl ⟨hc, (round_done.mp hdone).2⟩
    · cases he
      exact .inr ⟨hj, (round_done.mp hdone).2⟩
    · exact absurd he (reset_not_mem_jobEvents i r)
  · rintro (⟨hc,hdone⟩ | ⟨hj,hdone⟩)
    · refine ⟨i.staleReset.round readyPods, ?_, round_done.mpr ⟨hpod, hdone⟩⟩
      exact (mem_bootstrapLog_forced h _).mpr (.inl ⟨hc, rfl⟩)
    · refine ⟨i.freshReset.round readyPods, ?_, round_done.mpr ⟨hpod, hdone⟩⟩
      exact (mem_bootstrapLog_forced h _).mpr (.inr (.inl ⟨hj, rfl⟩))

/-- The Job is created only for pods that replied ready or were reset, unless a
forced call leaves out one of the pods. -/
theorem bootstrapJob_fresh_iff (i : BootstrapInput) (readyPods : List Pod) (w : World) :
    (Event.createJob .bootstrap ∈ bootstrapLog i readyPods w →
      ∀ pod ∈ readyPods, (i.reply pod).ready = true ∨ ResetDone (bootstrapLog i readyPods w) pod) ↔
    (ForcesReset i readyPods w.vc → i.job = .notFound → i.createOK = true →
      ∀ pod ∈ readyPods, (i.reply pod).ready = true ∨
        (cooldownActive w.vc i.staleReset.checkedAt = false ∧ i.staleReset.outcome pod = .done) ∨
        i.freshReset.outcome pod = .done) := by
  by_cases hf : ForcesReset i readyPods w.vc
  · have hcreate : Event.createJob .bootstrap ∈ bootstrapLog i readyPods w ↔
        i.job = .notFound ∧ i.createOK = true := by
      rw [mem_bootstrapLog_forced hf,createJob_mem_jobEvents]
      simp
    rw [hcreate]
    constructor
    · intro h _ hj hc pod hpod
      rcases h ⟨hj,hc⟩ pod hpod with hready | hdone
      · exact .inl hready
      · rcases (resetDone_forced hf hpod).mp hdone with h₁ | h₂
        · exact .inr (.inl h₁)
        · exact .inr (.inr h₂.2)
    · rintro h ⟨hj,hc⟩ pod hpod
      rcases h hf hj hc pod hpod with hready | h₁ | h₂
      · exact .inl hready
      · exact .inr ((resetDone_forced hf hpod).mpr (.inl h₁))
      · exact .inr ((resetDone_forced hf hpod).mpr (.inr ⟨hj,h₂⟩))
  · refine iff_of_true ?_ (fun h => absurd h hf)
    intro hcreate pod hpod
    have hw : ¬ ForcesReset i readyPods ({ w with log := [] } : World).vc := hf
    rcases reconcileBootstrapJob_unforced hw with hlog | ⟨hreasons,-⟩
    · unfold bootstrapLog at hcreate
      rw [hlog] at hcreate
      simp at hcreate
    · exact .inl (notReadyReasons_nil.mp hreasons pod hpod)

def halfReset : BootstrapInput where
  secretOK := true
  reply pod := if pod = readyPod '1' then .reply 0 stalePeers else .reply 1 "ready"
  arrival := Arrival.inOrder
  timer := ⟨60*second, true⟩
  staleReset := ⟨61*second, fun pod => if pod = readyPod '1' then .unreachable else .done, 62*second, true⟩
  clearOK := true
  job := .notFound
  freshReset := ⟨63*second, fun pod => if pod = readyPod '1' then .unreachable else .done, 64*second, true⟩
  createOK := true

def expiredTimer : Annotations := fun k => if k = .clusterNotOKSince then some (.stamp 0) else none

theorem halfReset_forces : ForcesReset halfReset threePods (threeShards expiredTimer) :=
  ⟨rfl, by decide, by decide, by decide⟩

theorem bootstrapJob_on_stale_pod :
    ¬ (Event.createJob .bootstrap ∈
        bootstrapLog halfReset threePods (World.start (threeShards expiredTimer)) →
      ∀ pod ∈ threePods, (halfReset.reply pod).ready = true ∨
        ResetDone (bootstrapLog halfReset threePods (World.start (threeShards expiredTimer))) pod) := by
  have hf : ForcesReset halfReset threePods (World.start (threeShards expiredTimer)).vc :=
    halfReset_forces
  intro h
  have hcreate := (mem_bootstrapLog_forced hf (.createJob .bootstrap)).mpr
    (.inr (.inr (createJob_mem_jobEvents.mpr ⟨rfl,rfl⟩)))
  rcases h hcreate (readyPod '1') (by decide) with hready | hdone
  · revert hready
    decide
  · rcases (resetDone_forced hf (by decide)).mp hdone with ⟨-,h₁⟩ | ⟨-,h₂⟩
    · revert h₁
      decide
    · revert h₂
      decide

end ValkeyOperator
