import ValkeyOperator.Cooldown

/-!
The cluster-not-ok-since timer over runs of passes: when step 7 pushes the topology, how long
ago a pass last saw the cluster ok, and how long ago one last pushed.
-/

set_option autoImplicit false

namespace ValkeyOperator
open TextScan Runs

/-- What can become of the timer: it is left, cleared, or started at one of the times. -/
inductive TimerMove (starts : Time → Prop) (before after : Option AnnotationValue) : Prop where
  | kept : after = before → TimerMove starts before after
  | cleared : after = none → TimerMove starts before after
  | started (now : Time) : starts now → after = some (formatRFC3339 now) →
      TimerMove starts before after

theorem TimerMove.trans {starts : Time → Prop} {a b c : Option AnnotationValue}
    (h₁ : TimerMove starts a b) (h₂ : TimerMove starts b c) : TimerMove starts a c := by
  cases h₂ with
  | kept h => exact h ▸ h₁
  | cleared h => exact .cleared h
  | started now hnow h => exact .started now hnow h

def MovesTimer (starts : Time → Prop) (w w' : World) : Prop :=
  w.Synced .clusterNotOKSince → w'.Synced .clusterNotOKSince ∧
    TimerMove starts (w.stored.annotations .clusterNotOKSince) (w'.stored.annotations .clusterNotOKSince)

section
variable {starts : Time → Prop} {w w' w'' : World}

theorem MovesTimer.trans (h₁ : MovesTimer starts w w') (h₂ : MovesTimer starts w' w'') :
    MovesTimer starts w w'' := by
  intro hs
  obtain ⟨hs',hmove⟩ := h₁ hs
  obtain ⟨hs'',hmove'⟩ := h₂ hs'
  exact ⟨hs'', hmove.trans hmove'⟩

theorem Frame.movesTimer {acts : Event → Prop}
    (h : Frame (fun k => k = .clusterNotOKSince) acts w w') : MovesTimer starts w w' := by
  intro hs
  exact ⟨h.synced rfl hs, .kept (h.keeps _ rfl hs).2⟩

theorem MovesTimer.refl (w : World) : MovesTimer starts w w :=
  (Frame.refl _ (fun _ => True) w).movesTimer

theorem clusterNotOKTimedOut_moves {i : TimerInput} (hp : i.patchOK = true) (hnow : starts i.now)
    (w : World) : MovesTimer starts w (clusterNotOKTimedOut i w).2 := by
  unfold clusterNotOKTimedOut
  cases hann : w.vc.annotations .clusterNotOKSince with
  | none =>
    simp only [hp,if_true]
    intro hs
    exact ⟨rfl, .started i.now hnow (World.annotate_patched hs _)⟩
  | some start => exact MovesTimer.refl w

theorem clear_stored (hs : w.Synced .clusterNotOKSince) :
    (w |> clearClusterNotOKAnnotation true).Synced .clusterNotOKSince ∧
      (w |> clearClusterNotOKAnnotation true).stored.annotations .clusterNotOKSince = none := by
  have hnone := clear_none (.inl rfl) true (w := w) (.inl hs)
  have hsynced : (w |> clearClusterNotOKAnnotation true).Synced .clusterNotOKSince := by
    unfold clearClusterNotOKAnnotation
    split
    · exact hs
    · rfl
  exact ⟨hsynced, hsynced.symm.trans hnone⟩

theorem clear_moves {ok : Bool} (hok : ok = true) (w : World) :
    MovesTimer starts w (w |> clearClusterNotOKAnnotation ok) := by
  intro hs
  rw [hok]
  exact ⟨(clear_stored hs).1, .cleared (clear_stored hs).2⟩

theorem resetAllNodes_moves (i : ResetInput) (pods : List Pod) (w : World) :
    MovesTimer starts w (resetAllNodes i pods w).1 := by
  have hframe : Frame (fun k => k = .clusterNotOKSince) (fun _ => True) w _ :=
    resetAllNodes_frame (by simp) (fun _ _ => trivial) i pods w
  exact hframe.movesTimer

theorem runBootstrapJob_moves (i : BootstrapInput) (pods : List Pod) (w : World) :
    MovesTimer starts w (runBootstrapJob i pods w).1 := by
  have hemit : ∀ (e : Event) (w : World), MovesTimer starts w (w.emit e) := by
    intro e w hs
    exact ⟨hs, .kept rfl⟩
  unfold runBootstrapJob
  cases i.job with
  | failed => exact MovesTimer.refl w
  | found succeeded failures backoffLimit =>
    cases backoffLimit with
    | none =>
      dsimp only
      split_ifs
      · exact hemit _ w
      · exact MovesTimer.refl w
    | some limit =>
      dsimp only
      split_ifs
      · exact hemit _ w
      · exact hemit _ w
      · exact MovesTimer.refl w
  | notFound =>
    have hreset : MovesTimer starts w _ := resetAllNodes_moves i.freshReset pods w
    simp only [resetAllNodes_err,Bool.false_eq_true,if_false]
    split
    · exact hreset.trans (hemit _ _)
    · exact hreset

theorem reconcileBootstrapJob_moves {i : BootstrapInput} (hp : i.timer.patchOK = true)
    (hc : i.clearOK = true) (hnow : starts i.timer.now) (pods : List Pod) (w : World) :
    MovesTimer starts w (reconcileBootstrapJob i pods w).1 := by
  unfold reconcileBootstrapJob
  dsimp only
  split_ifs
  · exact MovesTimer.refl w
  · exact MovesTimer.refl w
  · exact runBootstrapJob_moves i pods w
  · exact MovesTimer.refl w
  · cases hexp : notOKExpired w.vc i.timer.now with
    | false =>
      rw [clusterNotOKTimedOut_waits hexp]
      exact clusterNotOKTimedOut_moves hp hnow w
    | true =>
      rw [clusterNotOKTimedOut_expired hexp]
      simp only [resetAllNodes_err,Bool.false_eq_true,if_false]
      exact ((resetAllNodes_moves i.staleReset pods w).trans (clear_moves hc _)).trans
        (runBootstrapJob_moves i pods _)
  · exact MovesTimer.refl w

theorem checkClusterState_moves {i : HealthInput} (hp : i.timer.patchOK = true)
    (hc : i.clearOK = true) (hnow : starts i.timer.now) (clusterState : Text) (w : World) :
    MovesTimer starts w (checkClusterState i clusterState w) := by
  have hset : ∀ (cond : Condition) (w : World), MovesTimer starts w (w.setCondition i.degradedAt cond) := by
    intro cond w hs
    exact ⟨hs, .kept rfl⟩
  unfold checkClusterState
  split
  · dsimp only
    generalize hw : w.setCondition i.degradedAt _ = w₁
    have hdegraded : MovesTimer starts w w₁ := hw ▸ hset _ w
    refine hdegraded.trans ?_
    cases hexp : notOKExpired w₁.vc i.timer.now with
    | false =>
      rw [clusterNotOKTimedOut_waits hexp]
      exact clusterNotOKTimedOut_moves hp hnow w₁
    | true =>
      rw [clusterNotOKTimedOut_expired hexp]
      cases i.resetPods with
      | none => exact clear_moves hc w₁
      | some pods => exact (resetAllNodes_moves i.reset (readyWithIP pods) w₁).trans (clear_moves hc _)
  · exact (clear_moves hc w).trans (hset _ _)

theorem reconcileClusterHealth_moves {i : HealthInput} (hp : i.timer.patchOK = true)
    (hc : i.clearOK = true) (hnow : starts i.timer.now) (w : World) :
    MovesTimer starts w (reconcileClusterHealth i w).1 := by
  unfold reconcileClusterHealth
  split
  · exact MovesTimer.refl w
  · split
    · intro hs
      exact ⟨hs, .kept rfl⟩
    · rename_i reply _
      have hnodes : Frame (fun k => k = .clusterNotOKSince) (fun _ => True) w _ :=
        updateStatusNodes_frame i (parseClusterNodes reply.nodesRaw) w
      have hstate := hnodes.movesTimer.trans (checkClusterState_moves hp hc hnow
        (parseClusterInfoField reply.info "cluster_state".toList) _)
      dsimp only
      refine hstate.trans ?_
      generalize checkClusterState i _ _ = w₁
      have hrepl : Frame (fun k => k = .clusterNotOKSince) (fun _ => True) w₁ _ :=
        checkReplication_frame i (parseClusterNodes reply.nodesRaw) w₁
      have hforget := hrepl.trans (forgetStaleNodes_frame (by simp) (fun _ _ => trivial) i.forget
        (parseClusterNodes reply.nodesRaw) _)
      exact (hforget.trans (detectShardColocation_frame i.placedPods i.colocatedAt _ _)).movesTimer

theorem observeCluster_moves {i : PassInput} (hp : i.health.timer.patchOK = true)
    (hc : i.health.clearOK = true) (hnow : starts i.health.timer.now) (w : World) :
    MovesTimer starts w (observeCluster i w) := by
  refine (reconcileClusterHealth_moves hp hc hnow w).trans ?_
  have hroles := reconcileReplicaRoles_emits i.roles (reconcileClusterHealth i.health w).1
  have hframe : Frame (fun k => k = .clusterNotOKSince) (fun _ => True)
      (reconcileClusterHealth i.health w).1 (observeCluster i w) :=
    (Frame.emit trivial _).trans (hroles.frame (fun _ _ => trivial))
  exact hframe.movesTimer

theorem okPass_moves {i : PassInput} (hview : clusterView i.topology = .ok)
    (hclear : i.topology.clearOK = true) (hp : i.health.timer.patchOK = true)
    (hc : i.health.clearOK = true) (hnow : starts i.health.timer.now)
    (hs : w.Synced .clusterNotOKSince) (base : ValkeyCluster) :
    TimerMove starts none
      ((afterTopology i base (reconcileClusterTopology i.topology w)).world.stored.annotations
        .clusterNotOKSince) := by
  have hemit : (w.emit .clusterOK).Synced .clusterNotOKSince := hs
  obtain ⟨hs₁,hnone⟩ := clear_stored hemit
  rw [reconcileClusterTopology_cases,hview]
  dsimp only
  rw [hclear]
  generalize clearClusterNotOKAnnotation true (w.emit .clusterOK) = w₁ at hs₁ hnone
  have hsync : Emits (fun _ => True) w₁ _ :=
    syncRoleLabels_emits (fun _ _ => trivial) i.topology.sync i.topology.readyPods w₁
  generalize (syncRoleLabels i.topology.sync i.topology.readyPods w₁).1 = w₂ at hsync
  have hlabels : Frame (fun k => k = .clusterNotOKSince) (fun _ => True) w₁ w₂ :=
    hsync.frame (fun _ h => h)
  obtain ⟨hs₂,hmove⟩ := (hlabels.movesTimer.trans (observeCluster_moves hp hc hnow w₂)) hs₁
  have hrest : Ends (fun k => k = .clusterNotOKSince) (fun _ => True) _ _ :=
    reconcileFormed_rest (by simp) ⟨by simp, by simp, by simp, by simp, by simp, by simp⟩ i base w₂
  rw [hnone] at hmove
  exact (hrest.keeps _ rfl hs₂).symm ▸ hmove

theorem afterTopology_moves (h : MovesTimer starts w w') (hs : w.Synced .clusterNotOKSince)
    (i : PassInput) (base : ValkeyCluster) (err : Bool) :
    TimerMove starts (w.stored.annotations .clusterNotOKSince)
      ((afterTopology i base ⟨w', false, err⟩).world.stored.annotations .clusterNotOKSince) := by
  rw [afterTopology_annotations]
  exact (h hs).2

end

def observesOK (i : PassInput) (stored : ValkeyCluster) : Bool :=
  reachesTopology i stored && i.topology.secretOK &&
    (queryClusterInfo i.topology.info i.topology.arrival i.topology.readyPods).any
      (fun best => decide (best.slots > 0 ∧ best.state = "ok".toList))

theorem clusterView_ok {i : TopologyInput} : clusterView i = .ok ↔
    i.secretOK = true ∧ (queryClusterInfo i.info i.arrival i.readyPods).any
      (fun best => decide (best.slots > 0 ∧ best.state = "ok".toList)) = true := by
  unfold clusterView TopologyInput.readyPods
  cases hs : i.secretOK with
  | false => simp
  | true =>
    have hnone : queryClusterInfo i.info i.arrival [] = none := by
      have horder : i.arrival.order [] = [] := (i.arrival.perm []).eq_nil
      simp [queryClusterInfo,horder]
    cases hl : i.listed with
    | none => simp [readyWithIP,hnone]
    | some podList =>
      by_cases hr : readyWithIP podList = []
      · simp [hr,hnone]
      · simp only [hr,Bool.not_true,Bool.false_eq_true,if_false,Option.getD_some]
        cases hq : queryClusterInfo i.info i.arrival (readyWithIP podList) with
        | none => simp
        | some best =>
          by_cases hok : best.slots > 0 ∧ best.state = "ok".toList
          · simp [hok]
          · dsimp only
            rw [if_neg hok]
            refine iff_of_false ?_ (fun h => hok (of_decide_eq_true h.2))
            split <;> simp

section
variable (sum256 : Text → Digest)

def runsGossipRecovery (i : PassInput) (stored : ValkeyCluster) : Bool :=
  reachesTopology i stored && decide (clusterView i.topology = .failing) &&
    (clusterNotOKTimedOut i.topology.timer (beforeTopology sum256 i stored)).1

theorem runsGossipRecovery_topology {i : PassInput} {stored : ValkeyCluster}
    (h : runsGossipRecovery sum256 i stored = true) :
    reconcileClusterTopology i.topology (beforeTopology sum256 i stored) =
      let r := reconcileGossipRecovery i.topology.gossip
        (beforeTopology sum256 i stored |> clearClusterNotOKAnnotation i.topology.timerClearOK)
      ⟨r.1, false, r.2⟩ := by
  simp only [runsGossipRecovery,clusterNotOKTimedOut_fst,Bool.and_eq_true,decide_eq_true_eq] at h
  rw [reconcileClusterTopology_cases,h.1.2]
  simp only [h.2,if_true]

theorem runsGossipRecovery_expired {i : PassInput} {stored : ValkeyCluster}
    (h : runsGossipRecovery sum256 i stored = true) :
    observesOK i stored = false ∧ ∃ v t, stored.annotations .clusterNotOKSince = some v ∧
      parseRFC3339 v = some t ∧ convergenceTimeoutFor stored ≤ i.topology.timer.now - t := by
  simp only [runsGossipRecovery,clusterNotOKTimedOut_fst,Bool.and_eq_true,decide_eq_true_eq] at h
  obtain ⟨⟨-,hview⟩,hexp⟩ := h
  constructor
  · have hnot : ¬ clusterView i.topology = .ok := by simp [hview]
    by_contra hok
    simp only [observesOK,Bool.not_eq_false,Bool.and_eq_true] at hok
    exact hnot (clusterView_ok.mpr ⟨hok.1.2, hok.2⟩)
  · rw [(beforeTopology_timers sum256 i stored).expired] at hexp
    unfold notOKExpired at hexp
    cases hv : stored.annotations .clusterNotOKSince with
    | none => simp [hv] at hexp
    | some v =>
      cases ht : parseRFC3339 v with
      | none => simp [hv,ht] at hexp
      | some t => exact ⟨v, t, rfl, ht, by simpa [hv,ht] using hexp⟩

def PassInput.timerStarts (i : PassInput) (now : Time) : Prop :=
  now = i.topology.timer.now ∨ now = i.topology.bootstrap.timer.now ∨ now = i.health.timer.now

theorem beforeTopology_timer (i : PassInput) (stored : ValkeyCluster) :
    (beforeTopology sum256 i stored).Synced .clusterNotOKSince ∧
      (beforeTopology sum256 i stored).stored.annotations .clusterNotOKSince =
        stored.annotations .clusterNotOKSince := by
  have hbefore := beforeTopology_noBootstrap sum256 i stored
  have hstart := World.start_synced (entryObject stored) .clusterNotOKSince
  refine ⟨hbefore.synced (.inl rfl) hstart, ?_⟩
  rw [(hbefore.keeps _ (.inl rfl) hstart).2,← entryObject_annotations stored]
  rfl

theorem gossipRecovery_clears {i : PassInput} (hp : patchesSucceed i = true) {stored : ValkeyCluster}
    (h : runsGossipRecovery sum256 i stored = true) :
    (reconcile sum256 i stored).world.stored.annotations .clusterNotOKSince = none := by
  have hreach : reachesTopology i stored = true := by
    simp only [runsGossipRecovery,Bool.and_eq_true] at h
    exact h.1.1
  have hclear : i.topology.timerClearOK = true := by
    simp only [patchesSucceed,Bool.and_eq_true] at hp
    simp [hp]
  rw [reconcile_reaches sum256 hreach,runsGossipRecovery_topology sum256 h,afterTopology_annotations,
    (reconcileGossipRecovery_emits _ _).stored_eq,hclear]
  exact (clear_stored (beforeTopology_timer sum256 i stored).1).2

theorem reconcile_moves {i : PassInput} (hp : patchesSucceed i = true) {stored : ValkeyCluster}
    (h : runsGossipRecovery sum256 i stored = false) :
    TimerMove i.timerStarts (if observesOK i stored then none else stored.annotations .clusterNotOKSince)
      ((reconcile sum256 i stored).world.stored.annotations .clusterNotOKSince) := by
  simp only [patchesSucceed,Bool.and_eq_true] at hp
  cases hreach : reachesTopology i stored with
  | false =>
    have hunseen : observesOK i stored = false := by simp [observesOK,hreach]
    rw [(reconcile_early sum256 hreach).2,hunseen]
    exact .kept rfl
  | true =>
    obtain ⟨hsynced,hstart⟩ := beforeTopology_timer sum256 i stored
    have hseen : observesOK i stored = true ↔ clusterView i.topology = .ok := by
      rw [clusterView_ok]
      simp [observesOK,hreach]
    rw [reconcile_reaches sum256 hreach]
    cases hview : clusterView i.topology with
    | ok =>
      rw [if_pos (hseen.mpr hview)]
      exact okPass_moves hview (by simp [hp]) (by simp [hp]) (by simp [hp]) (.inr (.inr rfl)) hsynced _
    | unknown =>
      rw [if_neg (by simp [hseen,hview]),← hstart,reconcileClusterTopology_cases,hview]
      exact afterTopology_moves (MovesTimer.refl _) hsynced i _ _
    | unformed =>
      rw [if_neg (by simp [hseen,hview]),← hstart,reconcileClusterTopology_cases,hview]
      exact afterTopology_moves (reconcileBootstrapJob_moves (by simp [hp]) (by simp [hp])
        (.inr (.inl rfl)) _ _) hsynced i _ _
    | failing =>
      have hexp : notOKExpired (beforeTopology sum256 i stored).vc i.topology.timer.now = false := by
        simpa [runsGossipRecovery,hreach,hview,clusterNotOKTimedOut_fst] using h
      rw [if_neg (by simp [hseen,hview]),← hstart,reconcileClusterTopology_cases,hview]
      simp only [hexp,Bool.false_eq_true,if_false]
      exact afterTopology_moves (clusterNotOKTimedOut_moves (by simp [hp]) (.inl rfl) _) hsynced i _ _

end

/-- A pass in a run: what others write before it, when CLUSTER INFO was answered, when the
topology was pushed if it was, and when it ends. -/
structure GossipPass where
  others : OtherWrites (fun k => k = .clusterNotOKSince)
  input : PassInput
  queriedAt : Time
  pushedAt : Time
  endAt : Time

/-- The clock does not go back within a pass that starts at `start`. -/
structure GossipPass.InOrder (start : Time) (p : GossipPass) : Prop where
  query : start ≤ p.queriedAt
  timers : ∀ now, p.input.timerStarts now → p.queriedAt ≤ now
  push : p.input.topology.timer.now ≤ p.pushedAt
  finish : p.pushedAt ≤ p.endAt

structure PassRecord where
  vc : ValkeyCluster
  sawOK : Bool
  pushed : Bool

def Marks (q : GossipPass × PassRecord) (t : Time) : Prop :=
  (q.2.sawOK = true ∧ t = q.1.queriedAt) ∨ (q.2.pushed = true ∧ t = q.1.pushedAt)

/-- No pass saw the cluster ok or pushed the topology after that time. -/
def QuietSince (past : List (GossipPass × PassRecord)) (t : Time) : Prop :=
  ∀ q ∈ past, ∀ mark, Marks q mark → mark ≤ t

/-- A timer that runs was started after all that happened so far. -/
structure TimerInv (past : List (GossipPass × PassRecord)) (s : ValkeyCluster × Time) : Prop where
  clock : QuietSince past s.2
  timer : ∀ v, s.1.annotations .clusterNotOKSince = some v →
    ∃ started, v = formatRFC3339 started ∧ QuietSince past started

theorem QuietSince.mono {past : List (GossipPass × PassRecord)} {t t' : Time} (h : QuietSince past t)
    (ht : t ≤ t') : QuietSince past t' :=
  fun q hq mark hmark => Int.le_trans (h q hq mark hmark) ht

theorem QuietSince.snoc {past : List (GossipPass × PassRecord)} {t : Time} (h : QuietSince past t)
    {q : GossipPass × PassRecord} (hq : ∀ mark, Marks q mark → mark ≤ t) : QuietSince (past ++ [q]) t := by
  intro q' hq'
  rcases List.mem_append.mp hq' with hq' | hq'
  · exact h q' hq'
  · rw [List.mem_singleton.mp hq']
    exact hq

section
variable (sum256 : Text → Digest)

def gossipPass (s : ValkeyCluster × Time) (p : GossipPass) : (ValkeyCluster × Time) × PassRecord :=
  let vc := p.others.write s.1
  (((reconcile sum256 p.input vc).world.stored, p.endAt),
    ⟨vc, observesOK p.input vc, runsGossipRecovery sum256 p.input vc⟩)

def OrderedPass (s : ValkeyCluster × Time) (p : GossipPass) : Prop :=
  patchesSucceed p.input = true ∧ p.InOrder s.2

/-- A timer that runs after a pass was started in it after the query, or before it, and then
the pass neither saw the cluster ok nor pushed. -/
theorem gossipPass_timer {s : ValkeyCluster × Time} {p : GossipPass} (hp : OrderedPass s p)
    {v : AnnotationValue} (hv : (gossipPass sum256 s p).1.1.annotations .clusterNotOKSince = some v) :
    (gossipPass sum256 s p).2.pushed = false ∧
      ((∃ now, p.queriedAt ≤ now ∧ v = formatRFC3339 now) ∨
        ((gossipPass sum256 s p).2.sawOK = false ∧ s.1.annotations .clusterNotOKSince = some v)) := by
  obtain ⟨hpatch,horder⟩ := hp
  cases hpush : runsGossipRecovery sum256 p.input (p.others.write s.1) with
  | true =>
    have hnone := gossipRecovery_clears sum256 hpatch hpush
    cases hnone.symm.trans hv
  | false =>
    refine ⟨hpush, ?_⟩
    have hmove := reconcile_moves sum256 hpatch hpush
    cases hmove with
    | cleared hnone => cases hnone.symm.trans hv
    | started now hnow hsome => exact .inl ⟨now, horder.timers now hnow, Option.some.inj (hv.symm.trans hsome)⟩
    | kept hsame =>
      cases hok : observesOK p.input (p.others.write s.1) with
      | true =>
        rw [hok] at hsame
        cases hsame.symm.trans hv
      | false =>
        rw [hok] at hsame
        have hkeeps := p.others.keeps s.1 .clusterNotOKSince rfl
        exact .inr ⟨hok, hkeeps.symm.trans (hsame.symm.trans hv)⟩

theorem TimerInv.pass {past : List (GossipPass × PassRecord)} {s : ValkeyCluster × Time}
    {p : GossipPass} (h : TimerInv past s) (hp : OrderedPass s p) :
    TimerInv (past ++ [(p, (gossipPass sum256 s p).2)]) (gossipPass sum256 s p).1 := by
  have horder := hp.2
  have hquery : p.queriedAt ≤ p.pushedAt := Int.le_trans (horder.timers _ (.inl rfl)) horder.push
  have hpast : QuietSince past p.queriedAt := h.clock.mono horder.query
  constructor
  · refine (hpast.mono (Int.le_trans hquery horder.finish)).snoc ?_
    intro mark hmark
    rcases hmark with ⟨-,rfl⟩ | ⟨-,rfl⟩
    · exact Int.le_trans hquery horder.finish
    · exact horder.finish
  · intro v hv
    obtain ⟨hpush,⟨now,hnow,rfl⟩ | ⟨hok,hkept⟩⟩ := gossipPass_timer sum256 hp hv
    · refine ⟨now, rfl, (hpast.mono hnow).snoc ?_⟩
      intro mark hmark
      rcases hmark with ⟨-,rfl⟩ | ⟨hpushed,-⟩
      · exact hnow
      · cases hpush.symm.trans hpushed
    · obtain ⟨started,hstarted,hquiet⟩ := h.timer v hkept
      refine ⟨started, hstarted, hquiet.snoc ?_⟩
      intro mark hmark
      rcases hmark with ⟨hsaw,-⟩ | ⟨hpushed,-⟩
      · cases hok.symm.trans hsaw
      · cases hpush.symm.trans hpushed

/-- When a pass pushes the topology, no pass of the convergence timeout before it, up to a
second, saw the cluster ok or pushed the topology. -/
theorem push_after_quiet {stored : ValkeyCluster} {clock : Time} {passes : List GossipPass}
    (hnone : stored.annotations .clusterNotOKSince = none)
    (hrun : Along (gossipPass sum256) OrderedPass (stored, clock) passes)
    {pre post : List (GossipPass × PassRecord)} {p : GossipPass} {r : PassRecord}
    (hlog : log (gossipPass sum256) (stored, clock) passes = pre ++ (p, r) :: post)
    (hpush : r.pushed = true) :
    r.sawOK = false ∧
      ∀ q ∈ pre, ∀ mark, Marks q mark → convergenceTimeoutFor r.vc - second < p.pushedAt - mark := by
  have hinit : TimerInv [] (stored, clock) := by
    refine ⟨by simp [QuietSince], ?_⟩
    intro v hv
    cases hnone.symm.trans hv
  obtain ⟨s,hinv,⟨-,horder⟩,rfl⟩ := hrun.invariant TimerInv hinit
    (fun past s p hinv hp => hinv.pass sum256 hp) hlog
  obtain ⟨hsaw,v,t,hv,ht,hexp⟩ := runsGossipRecovery_expired sum256 hpush
  refine ⟨hsaw, ?_⟩
  intro q hq mark hmark
  obtain ⟨started,rfl,hquiet⟩ := hinv.timer v ((p.others.keeps s.1 .clusterNotOKSince rfl).symm.trans hv)
  have hmark := hquiet q hq mark hmark
  have helapsed := elapsed_since ht hexp
  have hpushed := horder.push
  dsimp only [Time,gossipPass] at hmark helapsed hpushed ⊢
  omega

end

def gossipAt (now : Time) (state : String) : GossipPass :=
  ⟨OtherWrites.nothing _, calmPass now (fun _ => some (infoText state "16384")), now, now, now⟩

theorem gossipAt_ordered {start now : Time} (h : start ≤ now) (state : String) (vc : ValkeyCluster) :
    OrderedPass (vc, start) (gossipAt now state) := by
  refine ⟨rfl, h, ?_, Int.le_refl now, Int.le_refl now⟩
  intro t ht
  have hnow : t = now := by simpa [PassInput.timerStarts,gossipAt,calmPass] using ht
  exact Int.le_of_eq hnow.symm

theorem thirdPass_pushes :
    ∃ pre p r, Runs.log (gossipPass (fun _ => appDigest)) (threeShards (fun _ => none), 0)
        [gossipAt 0 "ok", gossipAt (10*second) "fail", gossipAt (60*second) "fail"] = pre ++ [(p, r)] ∧
      pre.map (fun q => (q.2.sawOK, q.2.pushed)) = [(true, false), (false, false)] ∧
      r.pushed = true ∧ r.sawOK = false ∧
      ∀ q ∈ pre, ∀ mark, Marks q mark → convergenceTimeoutFor r.vc - second < p.pushedAt - mark := by
  have hrun : Along (gossipPass (fun _ => appDigest)) OrderedPass (threeShards (fun _ => none), 0)
      [gossipAt 0 "ok", gossipAt (10*second) "fail", gossipAt (60*second) "fail"] :=
    ⟨gossipAt_ordered (by decide) _ _, gossipAt_ordered (by decide) _ _,
      gossipAt_ordered (by decide) _ _, trivial⟩
  refine ⟨[_, _], _, _, rfl, by decide +kernel, by decide +kernel, ?_⟩
  exact push_after_quiet _ rfl hrun rfl (by decide +kernel)

end ValkeyOperator
