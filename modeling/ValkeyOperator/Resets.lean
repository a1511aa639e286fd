import ValkeyOperator.Reconcile

/-! CLUSTER RESET SOFT over whole passes: when a pass sends it, and to whom. -/

set_option autoImplicit false

namespace ValkeyOperator
open TextScan

theorem Event.IsReset.exists_round {e : Event} (h : e.IsReset) : ∃ r, e = .reset r := by
  cases e with
  | reset r => exact ⟨r, rfl⟩
  | _ => exact h.elim

theorem formedActs_noReset : FormedActs (fun e => ¬ e.IsReset) where
  forget _ _ h := h
  read _ h := h
  roles e he h := by
    obtain ⟨r,rfl⟩ := h.exists_round
    exact he
  failover e he h := by
    obtain ⟨r,rfl⟩ := h.exists_round
    exact he
  rebalance e he h := by
    obtain ⟨r,rfl⟩ := h.exists_round
    exact he
  status _ h := h

theorem clusterView_formed {i : TopologyInput}
    (hvalid : ∀ pod ∈ i.readyPods, (infoResult (i.info pod)).Valid)
    (hslots : ∃ pod ∈ i.readyPods, 0 < (infoResult (i.info pod)).slots) :
    clusterView i ≠ .unformed := by
  unfold clusterView
  split
  · simp
  · cases hl : i.listed with
    | none => simp
    | some podList =>
      have hpods : i.readyPods = readyWithIP podList := by simp [TopologyInput.readyPods,hl]
      rw [hpods] at hvalid hslots
      obtain ⟨best,hbest,hpos,hstate⟩ := queryClusterInfo_formed i.arrival hvalid hslots
      dsimp only
      split
      · simp
      · rw [hbest]
        dsimp only
        split_ifs with hok hfail
        · simp
        · simp
        · rcases hstate with h | h
          · exact absurd ⟨hpos, h⟩ hok
          · exact absurd ⟨hpos, h⟩ hfail

def resetKeys (k : AnnotationKey) : Prop := k = .clusterNotOKSince ∨ k = .lastResetTime

section
variable (sum256 : Text → Digest)

theorem beforeTopology_noBootstrap (i : PassInput) (stored : ValkeyCluster) :
    Frame resetKeys (fun e => ¬ e.IsBootstrap) (World.start (entryObject stored))
      (beforeTopology sum256 i stored) := by
  refine beforeTopology_frame sum256 (by simp [resetKeys]) (by simp [resetKeys]) ?_ ?_ i stored
  · intro e he h
    cases e with
    | skipACLs | applyACLs => exact h
    | _ => exact he
  · intro e he h
    cases e with
    | createJob name => cases name with
      | rdbRecovery pod => cases h
      | _ => exact he
    | deletePod pod => exact h
    | _ => exact he

theorem beforeTopology_noReset (i : PassInput) (stored : ValkeyCluster) :
    Frame resetKeys (fun e => ¬ e.IsReset) (World.start (entryObject stored))
      (beforeTopology sum256 i stored) :=
  (beforeTopology_noBootstrap sum256 i stored).mono (fun _ h => h) (fun _ h hr => h hr.isBootstrap)

/-- Step 7 finds the timers and the specification as they are stored. -/
structure SameTimers (vc vc' : ValkeyCluster) : Prop where
  spec : vc.spec = vc'.spec
  keys : ∀ k, resetKeys k → vc.annotations k = vc'.annotations k

theorem beforeTopology_timers (i : PassInput) (stored : ValkeyCluster) :
    SameTimers (beforeTopology sum256 i stored).vc stored := by
  have hframe := beforeTopology_noBootstrap sum256 i stored
  constructor
  · have hfixed := (hframe.fixed rfl).1.trans (entryObject_fixed stored)
    exact congrArg (fun f => f.2.2.2.1) hfixed
  · intro k hk
    rw [(hframe.keeps k hk (World.start_synced _ _)).1,← entryObject_annotations stored]
    rfl

end

theorem SameTimers.cooldown {vc vc' : ValkeyCluster} (h : SameTimers vc vc') (now : Time) :
    cooldownActive vc now = cooldownActive vc' now := by
  unfold cooldownActive
  rw [h.keys .lastResetTime (.inr rfl)]

theorem SameTimers.expired {vc vc' : ValkeyCluster} (h : SameTimers vc vc') (now : Time) :
    notOKExpired vc now = notOKExpired vc' now := by
  unfold notOKExpired convergenceTimeoutFor
  rw [h.keys .clusterNotOKSince (.inl rfl),h.spec]

theorem SameTimers.forces {vc vc' : ValkeyCluster} (h : SameTimers vc vc') (i : BootstrapInput)
    (pods : List Pod) : ForcesReset i pods vc ↔ ForcesReset i pods vc' := by
  have htotal : totalPods vc = totalPods vc' := by
    unfold totalPods
    rw [h.spec]
  constructor
  · intro hf
    exact ⟨hf.secret, htotal ▸ hf.enough, hf.stale, (h.expired _) ▸ hf.expired⟩
  · intro hf
    exact ⟨hf.secret, htotal ▸ hf.enough, hf.stale, (h.expired _) ▸ hf.expired⟩

section
variable (sum256 : Text → Digest)

/-- A pass in which one pod reports slots resets no pod: an ok reply clears the
timer before step 8 looks at it, and a fail reply leads to no reset. -/
theorem no_reset_with_slots {i : PassInput} (stored : ValkeyCluster)
    (hvalid : ∀ pod ∈ i.topology.readyPods, (infoResult (i.topology.info pod)).Valid)
    (hslots : ∃ pod ∈ i.topology.readyPods, 0 < (infoResult (i.topology.info pod)).slots) :
    ∀ e ∈ (reconcile sum256 i stored).world.log, ¬ e.IsReset := by
  cases hreach : reachesTopology i stored with
  | false =>
    rw [(reconcile_early sum256 hreach).1]
    simp
  | true =>
    have hbefore := beforeTopology_noReset sum256 i stored
    have hsynced : (beforeTopology sum256 i stored).Synced .clusterNotOKSince :=
      hbefore.synced (.inl rfl) (World.start_synced _ _)
    have hstart : Frame (fun _ => False) (fun e => ¬ e.IsReset) (World.start (entryObject stored))
        (beforeTopology sum256 i stored) := hbefore.mono (fun _ h => h.elim) (fun _ h => h)
    have hends : Ends (fun _ => False) (fun e => ¬ e.IsReset) (beforeTopology sum256 i stored)
        (afterTopology i (entryObject stored) (reconcileClusterTopology i.topology
          (beforeTopology sum256 i stored))).world := by
      cases hview : clusterView i.topology with
      | unknown => exact unknownPass_ends hview _ (fun _ h => h) _
      -- one reply with slots rules out the bootstrap branch
      | unformed => exact absurd hview (clusterView_formed hvalid hslots)
      | ok =>
        have hok := okPass_ends hview hsynced formedActs_noReset (fun _ _ h => h) (entryObject stored)
        exact (Frame.emit (fun h => h) _).trans_ends hok
      | failing =>
        cases hexp : notOKExpired (beforeTopology sum256 i stored).vc i.topology.timer.now with
        | false => exact waitingPass_ends hview hexp (fun h => h) (fun _ h => h) _
        | true => exact recoveringPass_ends hview hexp formedActs_noReset.topology (fun _ h => h) _
    rw [reconcile_reaches sum256 hreach]
    exact (hstart.trans_ends hends).log_start

end

def splitInfo (pod : Pod) : Option Text :=
  if pod = readyPod '1' then some (infoText "ok" "16384")
  else if pod = readyPod '2' then none
  else some (infoText "fail" "5461")

def splitPass : PassInput :=
  let i := calmPass (300*second) splitInfo
  { i with health := { i.health with reply := fun _ => some (threeNodesReply "fail") } }

theorem splitPass_no_reset :
    (∃ pod ∈ splitPass.topology.readyPods, 0 < (infoResult (splitInfo pod)).slots) ∧
    ∀ e ∈ (reconcile (fun _ => appDigest) splitPass (threeShards expiredTimer)).world.log,
      ¬ e.IsReset := by
  have hpods : splitPass.topology.readyPods = threePods := by decide
  have hvalid : ∀ pod ∈ splitPass.topology.readyPods, (infoResult (splitInfo pod)).Valid := by
    rw [hpods]
    decide +kernel
  have hslots : ∃ pod ∈ splitPass.topology.readyPods, 0 < (infoResult (splitInfo pod)).slots := by
    rw [hpods]
    exact ⟨readyPod '1', by decide, by decide +kernel⟩
  exact ⟨hslots, no_reset_with_slots _ _ hvalid hslots⟩

def SendsReset (log : List Event) : Prop :=
  ∃ r, Event.reset r ∈ log ∧ ∃ p ∈ r.outcomes, p.2 ≠ .unreachable

def Reaches (i : ResetInput) (pods : List Pod) : Prop := ∃ pod ∈ pods, i.outcome pod ≠ .unreachable

theorem round_reaches {i : ResetInput} {pods : List Pod} :
    (∃ p ∈ (i.round pods).outcomes, p.2 ≠ .unreachable) ↔ Reaches i pods := by
  simp [ResetInput.round,Reaches]

section
variable (sum256 : Text → Digest)

theorem bootstrapPass_mem {i : PassInput} {stored : ValkeyCluster}
    (hreach : reachesTopology i stored = true) (hview : clusterView i.topology = .unformed)
    {e : Event} (he : e.IsBootstrap) :
    e ∈ (reconcile sum256 i stored).world.log ↔
      e ∈ (reconcileBootstrapJob i.topology.bootstrap i.topology.readyPods
        (beforeTopology sum256 i stored)).1.log := by
  rw [reconcile_reaches sum256 hreach,reconcileClusterTopology_cases,hview]
  dsimp only
  generalize reconcileBootstrapJob i.topology.bootstrap i.topology.readyPods
    (beforeTopology sum256 i stored) = r
  have hends : Ends (fun _ => False) (fun e => ¬ e.IsBootstrap) r.1 _ :=
    afterTopology_ends (fun _ h => h) i (entryObject stored) r.1 r.2
  constructor
  · intro h
    exact (hends.mem_log h).resolve_right (fun hn => hn he)
  · intro h
    obtain ⟨es,hlog,-⟩ := hends.emits
    rw [hlog]
    exact List.mem_append_left es h

theorem bootstrapPass_forced {i : PassInput} {stored : ValkeyCluster}
    (hreach : reachesTopology i stored = true) (hview : clusterView i.topology = .unformed)
    (hf : ForcesReset i.topology.bootstrap i.topology.readyPods stored) {e : Event}
    (he : e.IsBootstrap) :
    e ∈ (reconcile sum256 i stored).world.log ↔
      (cooldownActive stored i.topology.bootstrap.staleReset.checkedAt = false ∧
        e = .reset (i.topology.bootstrap.staleReset.round i.topology.readyPods)) ∨
      (i.topology.bootstrap.job = .notFound ∧
        e = .reset (i.topology.bootstrap.freshReset.round i.topology.readyPods)) ∨
      e ∈ jobEvents i.topology.bootstrap := by
  have htimers := beforeTopology_timers sum256 i stored
  have hf' := (htimers.forces _ _).mpr hf
  have hnot : e ∉ (beforeTopology sum256 i stored).log :=
    fun hmem => (beforeTopology_noBootstrap sum256 i stored).ends.log_start e hmem he
  rw [bootstrapPass_mem sum256 hreach hview he,reconcileBootstrapJob_forced hf',← htimers.cooldown,
    ← mem_resetEvents]
  by_cases hj : i.topology.bootstrap.job = .notFound <;> simp [hj,hnot]

theorem forcedPass_sends_iff {i : PassInput} {stored : ValkeyCluster}
    (hreach : reachesTopology i stored = true) (hview : clusterView i.topology = .unformed)
    (hf : ForcesReset i.topology.bootstrap i.topology.readyPods stored) :
    SendsReset (reconcile sum256 i stored).world.log ↔
      (cooldownActive stored i.topology.bootstrap.staleReset.checkedAt = false ∧
        Reaches i.topology.bootstrap.staleReset i.topology.readyPods) ∨
      (i.topology.bootstrap.job = .notFound ∧
        Reaches i.topology.bootstrap.freshReset i.topology.readyPods) := by
  have hmem := fun r => bootstrapPass_forced sum256 hreach hview hf (e := .reset r) trivial
  constructor
  · intro h
    obtain ⟨r,hr,hout⟩ := h
    rcases (hmem r).mp hr with ⟨hc,heq⟩ | ⟨hj,heq⟩ | hjob
    · cases heq
      exact .inl ⟨hc, round_reaches.mp hout⟩
    · cases heq
      exact .inr ⟨hj, round_reaches.mp hout⟩
    · exact absurd hjob (reset_not_mem_jobEvents _ r)
  · intro h
    rcases h with ⟨hc,hout⟩ | ⟨hj,hout⟩
    · exact ⟨_, (hmem _).mpr (.inl ⟨hc, rfl⟩), round_reaches.mpr hout⟩
    · exact ⟨_, (hmem _).mpr (.inr (.inl ⟨hj, rfl⟩)), round_reaches.mpr hout⟩

theorem unforcedPass_none {i : PassInput} {stored : ValkeyCluster}
    (hreach : reachesTopology i stored = true) (hview : clusterView i.topology = .unformed)
    (hf : ¬ ForcesReset i.topology.bootstrap i.topology.readyPods stored)
    (hreasons : notReadyReasons i.topology.bootstrap i.topology.readyPods ≠ []) {e : Event}
    (he : e.IsBootstrap) : e ∉ (reconcile sum256 i stored).world.log := by
  have hf' : ¬ ForcesReset i.topology.bootstrap i.topology.readyPods
      (beforeTopology sum256 i stored).vc :=
    fun h => hf (((beforeTopology_timers sum256 i stored).forces _ _).mp h)
  have hlog := (reconcileBootstrapJob_unforced hf').resolve_right (fun h => hreasons h.1)
  intro hmem
  rw [bootstrapPass_mem sum256 hreach hview he,hlog] at hmem
  exact (beforeTopology_noBootstrap sum256 i stored).ends.log_start e hmem he

/-- A slot owner among the pods is left alone unless another pod's stale peers
force the reset and the call reaches a pod or creates the Job. -/
theorem slotOwner_untouched_iff {i : PassInput} {stored : ValkeyCluster}
    (hreach : reachesTopology i stored = true) (hview : clusterView i.topology = .unformed)
    (howner : ∃ pod ∈ i.topology.readyPods, (i.topology.bootstrap.reply pod).ready = false ∧
      (i.topology.bootstrap.reply pod).reason = ownsSlots) :
    (¬ SendsReset (reconcile sum256 i stored).world.log ∧
      Event.createJob .bootstrap ∉ (reconcile sum256 i stored).world.log) ↔
    ¬ (ForcesReset i.topology.bootstrap i.topology.readyPods stored ∧
      ((cooldownActive stored i.topology.bootstrap.staleReset.checkedAt = false ∧
        Reaches i.topology.bootstrap.staleReset i.topology.readyPods) ∨
      (i.topology.bootstrap.job = .notFound ∧
        (Reaches i.topology.bootstrap.freshReset i.topology.readyPods ∨
          i.topology.bootstrap.createOK = true)))) := by
  by_cases hf : ForcesReset i.topology.bootstrap i.topology.readyPods stored
  · have hcreate := (bootstrapPass_forced sum256 hreach hview hf (e := .createJob .bootstrap) rfl).trans
      (by simp [createJob_mem_jobEvents] : _ ↔ i.topology.bootstrap.job = .notFound ∧
        i.topology.bootstrap.createOK = true)
    rw [forcedPass_sends_iff sum256 hreach hview hf,hcreate]
    tauto
  · have hreasons : notReadyReasons i.topology.bootstrap i.topology.readyPods ≠ [] :=
      List.ne_nil_of_mem (mem_notReadyReasons.mpr howner)
    refine iff_of_true ⟨?_, unforcedPass_none sum256 hreach hview hf hreasons rfl⟩ (fun h => hf h.1)
    intro h
    obtain ⟨r,hr,-⟩ := h
    exact unforcedPass_none sum256 hreach hview hf hreasons (e := .reset r) trivial hr

end

def mixedPass : PassInput :=
  let i := calmPass (300*second) (fun _ => none)
  let reply := fun pod =>
    if pod = readyPod '1' then BootstrapReply.reply 0 ownsSlots
    else if pod = readyPod '2' then .reply 0 stalePeers
    else .reply 1 "ready"
  { i with topology := { i.topology with bootstrap := { i.topology.bootstrap with reply := reply } } }

theorem mixedPass_owner : ∃ pod ∈ mixedPass.topology.readyPods,
    (mixedPass.topology.bootstrap.reply pod).ready = false ∧
      (mixedPass.topology.bootstrap.reply pod).reason = ownsSlots :=
  ⟨readyPod '1', by decide, by decide, by decide⟩

theorem mixedPass_waits :
    ¬ SendsReset (reconcile (fun _ => appDigest) mixedPass (threeShards (fun _ => none))).world.log ∧
      Event.createJob .bootstrap ∉
        (reconcile (fun _ => appDigest) mixedPass (threeShards (fun _ => none))).world.log := by
  refine (slotOwner_untouched_iff _ (by decide) rfl mixedPass_owner).mpr (fun h => ?_)
  have hexp := h.1.expired
  revert hexp
  decide

theorem mixedPass_resets :
    ¬ ((∃ pod ∈ mixedPass.topology.readyPods,
        (mixedPass.topology.bootstrap.reply pod).ready = false ∧
          (mixedPass.topology.bootstrap.reply pod).reason = ownsSlots) →
      ¬ SendsReset (reconcile (fun _ => appDigest) mixedPass (threeShards expiredTimer)).world.log ∧
      Event.createJob .bootstrap ∉
        (reconcile (fun _ => appDigest) mixedPass (threeShards expiredTimer)).world.log) := by
  have hforces : ForcesReset mixedPass.topology.bootstrap mixedPass.topology.readyPods
      (threeShards expiredTimer) := ⟨rfl, by decide, by decide, by decide⟩
  have hmem := bootstrapPass_forced (fun _ => appDigest) (i := mixedPass) (by decide) rfl hforces
    (e := .createJob .bootstrap) rfl
  intro h
  refine (h mixedPass_owner).2 (hmem.mpr (.inr (.inr ?_)))
  exact createJob_mem_jobEvents.mpr ⟨rfl, rfl⟩

end ValkeyOperator
