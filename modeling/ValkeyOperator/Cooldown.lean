import ValkeyOperator.Resets

/-!
The cooldown over runs of passes: how far two rounds of CLUSTER RESET SOFT are
apart that no ok state separates.
-/

set_option autoImplicit false

namespace ValkeyOperator
open TextScan Runs

def Event.round? : Event → Option ResetRound
  | .reset r => some r
  | _ => none

def rounds (es : List Event) : List ResetRound := es.filterMap Event.round?

theorem rounds_quiet {es : List Event} (h : ∀ e ∈ es, ¬ e.IsReset) : rounds es = [] := by
  unfold rounds
  rw [List.filterMap_eq_nil_iff]
  intro e he
  cases e with
  | reset r => exact absurd trivial (h _ he)
  | _ => rfl

/-- From the record of the first round to the check before the second, up to
the second that the stored stamp drops. -/
def Apart (e e' : Event) : Prop :=
  ∀ r r', e = .reset r → e' = .reset r' → resetCooldown - second < r'.checkedAt - r.recordedAt

def IsClusterOK (e : Event) : Prop := e = .clusterOK

/-- A later check still sees the round, or the round is too long ago to matter. -/
def Guarded (vc : ValkeyCluster) (clock : Time) (r : ResetRound) : Prop :=
  (∃ last, vc.annotations .lastResetTime = some (.stamp last) ∧ r.recordedAt < last + second) ∨
    resetCooldown - second < clock - r.recordedAt

theorem Guarded.apart {vc : ValkeyCluster} {clock now : Time} {r : ResetRound}
    (h : Guarded vc clock r) (hc : cooldownActive vc now = false) (hnow : clock ≤ now) :
    resetCooldown - second < now - r.recordedAt := by
  dsimp only [Time] at hnow
  rcases h with ⟨last,hlast,hrec⟩ | h
  · simp only [cooldownActive,hlast,parseRFC3339,decide_eq_false_iff_not] at hc
    dsimp only [Time] at hc hrec
    omega
  · omega

theorem Guarded.mono {vc vc' : ValkeyCluster} {clock clock' : Time} {r : ResetRound}
    (h : Guarded vc clock r)
    (hann : vc'.annotations .lastResetTime = vc.annotations .lastResetTime)
    (hclock : clock ≤ clock') : Guarded vc' clock' r := by
  unfold Guarded at h ⊢
  dsimp only [Time] at hclock
  rw [hann]
  rcases h with h | h
  · exact .inl h
  · right
    omega

structure CooldownInv (past : List Event) (vc : ValkeyCluster) (clock : Time) : Prop where
  spaced : Spaced Apart IsClusterOK past
  guarded : ∀ r, Open IsClusterOK past (.reset r) → Guarded vc clock r

theorem Spaced.quiet {past es : List Event} (h : Spaced Apart IsClusterOK past)
    (hq : ∀ e ∈ es, ¬ e.IsReset) : Spaced Apart IsClusterOK (past ++ es) := by
  refine h.append (fun before y after hes x _ r r' _ hy => ?_)
  have hmem : y ∈ es := by simp [hes]
  rw [hy] at hmem
  exact absurd trivial (hq _ hmem)

theorem CooldownInv.quiet {past es : List Event} {vc vc' : ValkeyCluster} {clock clock' : Time}
    (h : CooldownInv past vc clock) (hq : ∀ e ∈ es, ¬ e.IsReset)
    (hg : ∀ r, Guarded vc clock r → Guarded vc' clock' r) :
    CooldownInv (past ++ es) vc' clock' := by
  refine ⟨Spaced.quiet h.spaced hq, fun r hr => ?_⟩
  rcases hr.of_append with hes | ⟨hpast,-⟩
  · exact absurd trivial (hq _ hes.mem)
  · exact hg r (h.guarded r hpast)

theorem CooldownInv.settled {past es : List Event} {vc vc' : ValkeyCluster} {clock clock' : Time}
    (h : CooldownInv past vc clock) (hq : ∀ e ∈ es, ¬ e.IsReset) (hok : .clusterOK ∈ es) :
    CooldownInv (past ++ es) vc' clock' := by
  refine ⟨Spaced.quiet h.spaced hq, fun r hr => ?_⟩
  rcases hr.of_append with hes | ⟨-,hnone⟩
  · exact absurd trivial (hq _ hes.mem)
  · exact absurd rfl (hnone _ hok)

theorem CooldownInv.reset {past : List Event} {vc vc' : ValkeyCluster} {clock clock' : Time}
    {r : ResetRound} (h : CooldownInv past vc clock) (hc : cooldownActive vc r.checkedAt = false)
    (hclock : clock ≤ r.checkedAt) (hrec : r.checkedAt ≤ r.recordedAt)
    (hann : vc'.annotations .lastResetTime = some (formatRFC3339 r.recordedAt)) :
    CooldownInv (past ++ [.reset r]) vc' clock' := by
  have hapart : ∀ r₀, Open IsClusterOK past (.reset r₀) →
      resetCooldown - second < r.checkedAt - r₀.recordedAt :=
    fun r₀ hr₀ => (h.guarded r₀ hr₀).apart hc hclock
  have hstamp := Stamps.lt_truncate_add second_pos r.recordedAt
  constructor
  · refine h.spaced.append (fun before y after hes x hx r₀ r' hx₀ hy => ?_)
    cases before with
    | nil =>
      simp only [List.nil_append,List.cons.injEq] at hes
      obtain ⟨rfl,-⟩ := hes
      cases hy
      rw [hx₀,List.append_nil] at hx
      exact hapart r₀ hx
    | cons z before => simp at hes
  · intro r₀ hr₀
    left
    refine ⟨Stamps.truncate second r.recordedAt, hann, ?_⟩
    rcases hr₀.of_append with hnew | ⟨hold,-⟩
    · have hmem := hnew.mem
      simp only [List.mem_singleton,Event.reset.injEq] at hmem
      rw [hmem]
      exact hstamp
    -- an older round that is still open lies before the new stamp as well
    · have hpos : second < resetCooldown := by decide
      have := hapart r₀ hold
      dsimp only [Time] at hrec ⊢
      omega

def patchesSucceed (i : PassInput) : Bool :=
  i.acl.patchOK && i.crash.patchOK && i.topology.clearOK && i.topology.timer.patchOK &&
    i.topology.timerClearOK && i.topology.bootstrap.timer.patchOK &&
    i.topology.bootstrap.staleReset.patchOK && i.topology.bootstrap.clearOK &&
    i.topology.bootstrap.freshReset.patchOK && i.health.timer.patchOK && i.health.reset.patchOK &&
    i.health.clearOK && i.health.forget.patchOK && i.stats.patchOK

/-- The pass neither forces a reset nor erases a cooldown that is still active. -/
structure Unhurried (i : PassInput) (vc : ValkeyCluster) : Prop where
  notForced : clusterView i.topology = .unformed →
    ¬ ForcesReset i.topology.bootstrap i.topology.readyPods vc
  notErased : clusterView i.topology = .failing → notOKExpired vc i.topology.timer.now = true →
    cooldownActive vc i.topology.timer.now = false

inductive PassEffect (i : PassInput) (before after : ValkeyCluster) (es : List Event) : Prop where
  | settled : (∀ e ∈ es, ¬ e.IsReset) → .clusterOK ∈ es → PassEffect i before after es
  | kept : (∀ e ∈ es, ¬ e.IsReset) →
      after.annotations .lastResetTime = before.annotations .lastResetTime →
      PassEffect i before after es
  | lapsed : (∀ e ∈ es, ¬ e.IsReset) → cooldownActive before i.topology.timer.now = false →
      PassEffect i before after es
  | reset (pre post : List Event) :
      es = pre ++ .reset (i.topology.bootstrap.freshReset.round i.topology.readyPods) :: post →
      (∀ e ∈ pre, ¬ e.IsReset) → (∀ e ∈ post, ¬ e.IsReset) →
      cooldownActive before i.topology.bootstrap.freshReset.checkedAt = false →
      after.annotations .lastResetTime =
        some (formatRFC3339 i.topology.bootstrap.freshReset.recordedAt) →
      PassEffect i before after es

theorem Ends.kept {i : PassInput} {stored : ValkeyCluster} {w : World}
    (h : Ends (fun k => k = .lastResetTime) (fun e => ¬ e.IsReset)
      (World.start (entryObject stored)) w) : PassEffect i stored w.stored w.log := by
  refine .kept h.log_start ?_
  rw [h.keeps .lastResetTime rfl (World.start_synced _ _),← entryObject_annotations stored]
  rfl

section
variable (sum256 : Text → Digest)

theorem unformedPass_effect {i : PassInput} {stored : ValkeyCluster}
    (hp : i.topology.bootstrap.freshReset.patchOK = true)
    (hview : clusterView i.topology = .unformed)
    (hf : ¬ ForcesReset i.topology.bootstrap i.topology.readyPods stored)
    (hbefore : Frame (fun k => k = .lastResetTime) (fun e => ¬ e.IsReset)
      (World.start (entryObject stored)) (beforeTopology sum256 i stored)) :
    PassEffect i stored
      (afterTopology i (entryObject stored) (reconcileClusterTopology i.topology
        (beforeTopology sum256 i stored))).world.stored
      (afterTopology i (entryObject stored) (reconcileClusterTopology i.topology
        (beforeTopology sum256 i stored))).world.log := by
  have htimers := beforeTopology_timers sum256 i stored
  have hsynced := hbefore.synced rfl (World.start_synced _ _)
  have hcall := reconcileBootstrapJob_recorded (fun h => hf ((htimers.forces _ _).mp h)) hp hsynced
  rw [reconcileClusterTopology_cases,hview]
  dsimp only
  generalize reconcileBootstrapJob i.topology.bootstrap i.topology.readyPods
    (beforeTopology sum256 i stored) = r at hcall
  have hann := afterTopology_annotations i (entryObject stored) r.1 r.2
  have hends : Ends (fun k => k = .lastResetTime) (fun e => ¬ e.IsReset) r.1 _ :=
    afterTopology_ends (fun _ h => h) i (entryObject stored) r.1 r.2
  rcases hcall with hframe | hrec
  · exact Ends.kept ((hbefore.trans hframe).trans_ends hends)
  · obtain ⟨hc,⟨es,hlog,hes⟩,hrecorded⟩ := hrec
    obtain ⟨es',hlog',hes'⟩ := hends.emits
    refine .reset (beforeTopology sum256 i stored).log (es ++ es') ?_ hbefore.ends.log_start ?_ ?_ ?_
    · simp [hlog',hlog]
    · intro e he
      rcases List.mem_append.mp he with he | he
      · exact hes e he
      · exact hes' e he
    · rw [← htimers.cooldown]
      exact hc
    · rw [hann]
      exact hrecorded

theorem reconcile_effect {i : PassInput} {stored : ValkeyCluster} (hp : patchesSucceed i = true)
    (hu : reachesTopology i stored = true → Unhurried i stored) :
    PassEffect i stored (reconcile sum256 i stored).world.stored
      (reconcile sum256 i stored).world.log := by
  cases hreach : reachesTopology i stored with
  | false =>
    obtain ⟨hlog,hann⟩ := reconcile_early sum256 hreach
    exact .kept (by simp [hlog]) (by rw [hann])
  | true =>
    have hfresh : i.topology.bootstrap.freshReset.patchOK = true := by
      simp only [patchesSucceed,Bool.and_eq_true] at hp
      simp [hp]
    obtain ⟨hforced,herased⟩ := hu hreach
    have hall := beforeTopology_noReset sum256 i stored
    have hbefore := hall.mono (fun k (h : k = .lastResetTime) => .inr h) (fun _ h => h)
    have hstart := hall.mono (fun k (h : False) => h.elim) (fun _ h => h)
    have hsynced : (beforeTopology sum256 i stored).Synced .clusterNotOKSince :=
      hall.synced (.inl rfl) (World.start_synced _ _)
    rw [reconcile_reaches sum256 hreach]
    cases hview : clusterView i.topology with
    | unknown => exact (hbefore.trans_ends (unknownPass_ends hview _ (fun _ h => h) _)).kept
    | unformed => exact unformedPass_effect sum256 hfresh hview (hforced hview) hbefore
    | ok =>
      -- the ok state is on record before any later step acts
      have hok := okPass_ends hview hsynced formedActs_noReset (fun _ _ h => h) (entryObject stored)
      have hemit := hstart.trans (Frame.emit (fun h : Event.clusterOK.IsReset => h) _)
      refine .settled (hemit.trans_ends hok).log_start ?_
      obtain ⟨es,hlog,-⟩ := hok.emits
      simp [hlog]
    | failing =>
      have hsame := (beforeTopology_timers sum256 i stored).expired i.topology.timer.now
      cases hexp : notOKExpired (beforeTopology sum256 i stored).vc i.topology.timer.now with
      | false =>
        have hkey : ¬ AnnotationKey.clusterNotOKSince = .lastResetTime := by decide
        exact (hbefore.trans_ends (waitingPass_ends hview hexp hkey (fun _ h => h) _)).kept
      | true =>
        have hrecover := recoveringPass_ends hview hexp formedActs_noReset.topology (fun _ h => h)
          (entryObject stored)
        exact .lapsed (hstart.trans_ends hrecover).log_start (herased hview (hsame ▸ hexp))

end

structure CooldownPass where
  others : OtherWrites (fun k => k = .lastResetTime)
  input : PassInput
  endAt : Time

/-- The clock does not go back within a pass that starts at `start`. -/
structure Timely (start : Time) (p : CooldownPass) : Prop where
  timer : start ≤ p.input.topology.timer.now
  finish : p.input.topology.timer.now ≤ p.endAt
  check : start ≤ p.input.topology.bootstrap.freshReset.checkedAt
  record : p.input.topology.bootstrap.freshReset.checkedAt ≤
    p.input.topology.bootstrap.freshReset.recordedAt

theorem Timely.start_le {start : Time} {p : CooldownPass} (h : Timely start p) :
    start ≤ p.endAt := by
  have h₁ := h.timer
  have h₂ := h.finish
  dsimp only [Time] at h₁ h₂ ⊢
  omega

theorem PassEffect.rounds_le {i : PassInput} {before after : ValkeyCluster} {es : List Event}
    (h : PassEffect i before after es) : (rounds es).length ≤ 1 := by
  cases h with
  | settled hq => simp [rounds_quiet hq]
  | kept hq => simp [rounds_quiet hq]
  | lapsed hq => simp [rounds_quiet hq]
  | reset pre post hes hpre hpost =>
    have happend : ∀ xs ys, rounds (xs ++ ys) = rounds xs ++ rounds ys :=
      fun xs ys => List.filterMap_append
    have hround : ∀ r, rounds (.reset r :: post) = r :: rounds post := fun r => rfl
    rw [hes,happend,hround,rounds_quiet hpre,rounds_quiet hpost]
    simp

theorem CooldownInv.pass {past es : List Event} {vc after : ValkeyCluster} {clock : Time}
    {p : CooldownPass} (h : CooldownInv past vc clock) (htime : Timely clock p)
    (heffect : PassEffect p.input (p.others.write vc) after es) :
    CooldownInv (past ++ es) after p.endAt := by
  have hkeeps := p.others.keeps vc .lastResetTime rfl
  have hwritten : CooldownInv past (p.others.write vc) clock :=
    ⟨h.spaced, fun r hr => (h.guarded r hr).mono hkeeps (Int.le_refl clock)⟩
  cases heffect with
  | settled hq hok => exact hwritten.settled hq hok
  | kept hq hann => exact hwritten.quiet hq (fun r hr => hr.mono hann htime.start_le)
  | lapsed hq hc =>
    refine hwritten.quiet hq (fun r hr => .inr ?_)
    have hapart := hr.apart hc htime.timer
    have hfinish := htime.finish
    dsimp only [Time] at hfinish
    omega
  | reset pre post hes hpre hpost hc hann =>
    -- the round stands between two parts of the pass that send none
    have hfirst := hwritten.quiet hpre (fun r hr => hr)
    have hround : CooldownInv (past ++ pre ++ [.reset (p.input.topology.bootstrap.freshReset.round
        p.input.topology.readyPods)]) after p.endAt :=
      hfirst.reset hc htime.check htime.record hann
    have hlast := hround.quiet hpost (fun r hr => hr)
    rw [hes]
    simpa using hlast

section
variable (sum256 : Text → Digest)

def cooldownPass (s : ValkeyCluster × Time) (p : CooldownPass) :
    (ValkeyCluster × Time) × List Event :=
  let r := reconcile sum256 p.input (p.others.write s.1)
  ((r.world.stored, p.endAt), r.world.log)

def UnhurriedPass (s : ValkeyCluster × Time) (p : CooldownPass) : Prop :=
  patchesSucceed p.input = true ∧ Timely s.2 p ∧
    (reachesTopology p.input (p.others.write s.1) = true →
      Unhurried p.input (p.others.write s.1))

/-- In a run whose passes neither force a reset nor erase an active cooldown, two
rounds are the cooldown apart unless the cluster was ok in between. -/
theorem rounds_apart {stored : ValkeyCluster} {clock : Time} {passes : List CooldownPass}
    (hrun : Along (cooldownPass sum256) UnhurriedPass (stored, clock) passes) :
    Spaced Apart IsClusterOK
        ((Runs.log (cooldownPass sum256) (stored, clock) passes).flatMap Prod.snd) ∧
      ∀ q ∈ Runs.log (cooldownPass sum256) (stored, clock) passes, (rounds q.2).length ≤ 1 := by
  have hinit : CooldownInv [] stored clock := by
    constructor
    · intro before y after heq
      simp at heq
    · intro r hr
      exact absurd hr.mem (by simp)
  have hfinal := hrun.final
    (fun past s => CooldownInv (past.flatMap Prod.snd) s.1 s.2 ∧
      ∀ q ∈ past, (rounds q.2).length ≤ 1) ⟨hinit, by simp⟩ ?_
  · exact ⟨hfinal.1.spaced, hfinal.2⟩
  · intro past s p hinv hpass
    obtain ⟨hinv,hrounds⟩ := hinv
    obtain ⟨hpatch,htime,hunhurried⟩ := hpass
    have heffect := reconcile_effect sum256 hpatch hunhurried
    have hnext := hinv.pass htime heffect
    refine ⟨by simpa [cooldownPass] using hnext, ?_⟩
    intro q hq
    rcases List.mem_append.mp hq with hq | hq
    · exact hrounds q hq
    · rw [List.mem_singleton.mp hq]
      exact heffect.rounds_le

end

def freshPass (now : Time) : CooldownPass :=
  ⟨OtherWrites.nothing _, calmPass now (fun _ => none), now⟩

theorem freshPass_unhurried (now : Time) (vc : ValkeyCluster) : Unhurried (freshPass now).input vc := by
  constructor
  · intro _ h
    have hnone : notReadyReasons (freshPass now).input.topology.bootstrap
        (freshPass now).input.topology.readyPods = [] := notReadyReasons_nil.mpr (fun _ _ => rfl)
    have hstale := h.stale
    simp [hnone] at hstale
  · intro h
    cases h

theorem freshPass_timely {start now : Time} (h : start ≤ now) : Timely start (freshPass now) :=
  ⟨h, Int.le_refl now, h, Int.le_refl now⟩

theorem freshPasses_apart :
    let log := Runs.log (cooldownPass (fun _ => appDigest)) (threeShards (fun _ => none), 0)
      [freshPass 0, freshPass (5*minute)]
    log.map (fun q => (rounds q.2).length) = [1, 1] ∧
      Spaced Apart IsClusterOK (log.flatMap Prod.snd) ∧ ∀ q ∈ log, (rounds q.2).length ≤ 1 := by
  refine ⟨by decide +kernel, rounds_apart _ ⟨⟨rfl, ?_, ?_⟩, ⟨rfl, ?_, ?_⟩, trivial⟩⟩
  · exact freshPass_timely (by decide)
  · exact fun _ => freshPass_unhurried 0 _
  · exact freshPass_timely (by decide)
  · exact fun _ => freshPass_unhurried (5*minute) _

def stalePass : CooldownPass :=
  let i := calmPass (300*second) (fun _ => none)
  let bootstrap := { i.topology.bootstrap with
    reply := fun _ => .reply 0 stalePeers
    staleReset := ⟨301*second, fun _ => .done, 302*second, true⟩
    freshReset := ⟨303*second, fun _ => .done, 304*second, true⟩ }
  ⟨OtherWrites.nothing _, { i with topology := { i.topology with bootstrap := bootstrap } }, 305*second⟩

theorem stalePass_resets_twice :
    let log := Runs.log (cooldownPass (fun _ => appDigest)) (threeShards expiredTimer, 0) [stalePass]
    patchesSucceed stalePass.input = true ∧ Timely 0 stalePass ∧
      log.flatMap (fun q => (rounds q.2).map (fun r =>
          (r.checkedAt, r.recordedAt, r.outcomes.map Prod.snd))) =
        [(301*second, 302*second, [.done, .done, .done]),
          (303*second, 304*second, [.done, .done, .done])] ∧
      ¬ (Spaced Apart IsClusterOK (log.flatMap Prod.snd) ∧ ∀ q ∈ log, (rounds q.2).length ≤ 1) := by
  refine ⟨rfl, ⟨by decide, by decide, by decide, by decide⟩, by decide +kernel, fun h => ?_⟩
  have hlength := h.2 _ (List.mem_singleton.mpr rfl)
  revert hlength
  decide +kernel

end ValkeyOperator
