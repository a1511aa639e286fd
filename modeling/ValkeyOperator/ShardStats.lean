import ValkeyOperator.ClusterText

/-! Step 13 of a pass: memory skew between the shards and its grace period. -/

set_option autoImplicit false

namespace ValkeyOperator
open TextScan

def shardImbalancedGracePeriod : Int := 60*second
def defaultImbalanceThreshold : Int := 20

/-- Go's `int64` arithmetic wraps. -/
def int64 (n : Int) : Int := Int.bmod n 0x10000000000000000

structure ShardStat where
  podName : Text
  memoryBytes : Int
  keys : Int
  deriving DecidableEq, Repr

/-- The reply is a flat list of names and values; what does not parse is skipped. -/
def readPairs (stat : ShardStat) : List Text → ShardStat
  | name :: value :: rest =>
    let stat :=
      if name = "memory_bytes".toList then
        match parseInt64 value with
        | some v => { stat with memoryBytes := v }
        | none => stat
      else if name = "keys".toList then
        match parseInt64 value with
        | some v => { stat with keys := v }
        | none => stat
      else stat
    readPairs stat rest
  | _ => stat

structure StatsInput where
  credsOK : Bool
  listed : Option (List Pod)
  stats : Pod → Option (List Text)
  now : Time
  conditionAt : Time
  patchOK : Bool

def primaryPods (vc : ValkeyCluster) (pods : List Pod) : List Pod :=
  (readyWithIP pods).filter (fun pod => vc.status.podRoles pod.name = some .primary)

def shardStats (i : StatsInput) (primaries : List Pod) : List ShardStat :=
  primaries.filterMap (fun pod => (i.stats pod).map (readPairs ⟨pod.name, 0, 0⟩))

def maxMem (first : Int) (stats : List ShardStat) : Int :=
  stats.foldl (fun m s => if s.memoryBytes > m then s.memoryBytes else m) first

def minMem (first : Int) (stats : List ShardStat) : Int :=
  stats.foldl (fun m s => if s.memoryBytes < m then s.memoryBytes else m) first

def skewPct (maxMem minMem : Int) : Int :=
  if maxMem > 0 then Int.tdiv (int64 (int64 (maxMem - minMem) * 100)) maxMem else 0

def imbalanceThreshold (vc : ValkeyCluster) : Int :=
  match vc.spec.rebalance with
  | some rebalance => if rebalance.threshold > 0 then rebalance.threshold else defaultImbalanceThreshold
  | none => defaultImbalanceThreshold

def clearShardImbalanced (now : Time) (w : World) : World :=
  w.setCondition now ⟨.shardImbalanced, .false, "Balanced",
    "Memory distribution across shards is within threshold", w.vc.generation, 0⟩

def skewMessage (vc : ValkeyCluster) (max min : Int) : String :=
  "memory skew " ++ toString (skewPct max min) ++ "% exceeds threshold " ++
    toString (imbalanceThreshold vc) ++ "% (max " ++ toString max ++ " bytes, min " ++
    toString min ++ " bytes)"

/-- The first observation takes the base of its patch after the annotation is set. -/
def raiseShardImbalanced (i : StatsInput) (max min : Int) (w : World) : World :=
  match w.vc.annotations .shardImbalancedSince with
  | none =>
    let w' := w.annotate .shardImbalancedSince (some (formatRFC3339 i.now))
    w'.patch i.patchOK w'.vc
  | some firstSeenStr =>
    match parseRFC3339 firstSeenStr with
    | none => w
    | some firstSeen =>
      if i.now - firstSeen < shardImbalancedGracePeriod then w
      else w.setCondition i.conditionAt ⟨.shardImbalanced, .true, "MemorySkew",
        skewMessage w.vc max min, w.vc.generation, 0⟩

def lowerShardImbalanced (i : StatsInput) (w : World) : World :=
  let w' :=
    match w.vc.annotations .shardImbalancedSince with
    | none => w
    | some _ => (w.annotate .shardImbalancedSince none).patch i.patchOK w.vc
  clearShardImbalanced i.conditionAt w'

def reconcileShardStats (i : StatsInput) (w : World) : World × Bool :=
  if !i.credsOK then (w, true)
  else
    match i.listed with
    | none => (w, true)
    | some pods =>
      let primaries := primaryPods w.vc pods
      if primaries.length < 2 then (clearShardImbalanced i.conditionAt w, false)
      else
        match shardStats i primaries with
        | [] => (clearShardImbalanced i.conditionAt w, false)
        | [_] => (clearShardImbalanced i.conditionAt w, false)
        | first :: rest =>
          let max := maxMem first.memoryBytes rest
          let min := minMem first.memoryBytes rest
          if skewPct max min > imbalanceThreshold w.vc then (raiseShardImbalanced i max min w, false)
          else (lowerShardImbalanced i w, false)

def memorySkew : List ShardStat → Int
  | [] => 0
  | first :: rest => skewPct (maxMem first.memoryBytes rest) (minMem first.memoryBytes rest)

structure Skewed (i : StatsInput) (vc : ValkeyCluster) (pods : List Pod) : Prop where
  creds : i.credsOK = true
  listed : i.listed = some pods
  reported : 2 ≤ (shardStats i (primaryPods vc pods)).length
  exceeds : imbalanceThreshold vc < memorySkew (shardStats i (primaryPods vc pods))

theorem reconcileShardStats_skewed {i : StatsInput} {w : World} {pods : List Pod}
    (h : Skewed i w.vc pods) :
    ∃ max min, (reconcileShardStats i w).1 = raiseShardImbalanced i max min w := by
  have hlen : ¬ (primaryPods w.vc pods).length < 2 := by
    have hle : (shardStats i (primaryPods w.vc pods)).length ≤ (primaryPods w.vc pods).length :=
      List.length_filterMap_le _ _
    have hrep := h.reported
    omega
  have hrep := h.reported
  have hexc := h.exceeds
  unfold reconcileShardStats
  simp only [h.creds,Bool.not_true,Bool.false_eq_true,if_false,h.listed,hlen]
  cases hs : shardStats i (primaryPods w.vc pods) with
  | nil => simp [hs] at hrep
  | cons first rest =>
    cases rest with
    | nil => simp [hs] at hrep
    | cons next rest =>
      rw [hs] at hexc
      refine ⟨maxMem first.memoryBytes (next :: rest), minMem first.memoryBytes (next :: rest), ?_⟩
      have hgt : skewPct (maxMem first.memoryBytes (next :: rest))
          (minMem first.memoryBytes (next :: rest)) > imbalanceThreshold w.vc := hexc
      simp only [if_pos hgt]

/-- The base of the patch holds the new annotation already, so nothing is stored. -/
theorem raiseShardImbalanced_stored (i : StatsInput) (max min : Int) (w : World) :
    (raiseShardImbalanced i max min w).stored = w.stored := by
  unfold raiseShardImbalanced
  cases hv : w.vc.annotations .shardImbalancedSince with
  | none =>
    dsimp only
    cases i.patchOK with
    | false => rfl
    | true => simp [World.patch]
  | some v =>
    dsimp only
    split
    · rfl
    · split <;> rfl

theorem raiseShardImbalanced_frame {keys : AnnotationKey → Prop} {acts : Event → Prop}
    (hk : ¬ keys .shardImbalancedSince) (i : StatsInput) (max min : Int) (w : World) :
    Frame keys acts w (raiseShardImbalanced i max min w) := by
  unfold raiseShardImbalanced
  split
  · have hset : Frame keys acts w _ :=
      Frame.edit (Edit.annotate hk (some (formatRFC3339 i.now)) w)
    exact hset.trans (Frame.editPatch (Edit.refl keys _) i.patchOK)
  · split
    · exact Frame.refl keys acts w
    · split
      · exact Frame.refl keys acts w
      · exact Frame.setCondition i.conditionAt _ w

theorem lowerShardImbalanced_frame {keys : AnnotationKey → Prop} {acts : Event → Prop}
    (hk : ¬ keys .shardImbalancedSince) (i : StatsInput) (w : World) :
    Frame keys acts w (lowerShardImbalanced i w) := by
  unfold lowerShardImbalanced clearShardImbalanced
  split
  · exact Frame.setCondition i.conditionAt _ w
  · have hclear : Frame keys acts w _ :=
      Frame.editPatch (Edit.annotate hk none w) i.patchOK
    exact hclear.trans (Frame.setCondition i.conditionAt _ _)

theorem reconcileShardStats_frame {keys : AnnotationKey → Prop} {acts : Event → Prop}
    (hk : ¬ keys .shardImbalancedSince) (i : StatsInput) (w : World) :
    Frame keys acts w (reconcileShardStats i w).1 := by
  have hclear : Frame keys acts w (clearShardImbalanced i.conditionAt w) :=
    Frame.setCondition i.conditionAt _ w
  unfold reconcileShardStats
  split
  · exact Frame.refl keys acts w
  split
  · exact Frame.refl keys acts w
  dsimp only
  split
  · exact hclear
  split
  · exact hclear
  · exact hclear
  · split
    · exact raiseShardImbalanced_frame hk i _ _ w
    · exact lowerShardImbalanced_frame hk i w

def statsPatches (i : StatsInput) (vc : ValkeyCluster) : Bool :=
  match i.listed with
  | none => false
  | some pods =>
    let stats := shardStats i (primaryPods vc pods)
    i.credsOK && i.patchOK && decide (2 ≤ stats.length) &&
      (decide (memorySkew stats > imbalanceThreshold vc) !=
        (vc.annotations .shardImbalancedSince).isSome)

def ImbalancedTrue (vc : ValkeyCluster) : Prop :=
  ∃ c, findCondition .shardImbalanced vc.status.conditions = some c ∧ c.status = .true

def GraceElapsed (since : Option AnnotationValue) (now : Time) : Prop :=
  ∃ v firstSeen, since = some v ∧ parseRFC3339 v = some firstSeen ∧
    shardImbalancedGracePeriod ≤ now - firstSeen

theorem raiseShardImbalanced_true_iff (i : StatsInput) (max min : Int) (vc : ValkeyCluster) :
    ImbalancedTrue (raiseShardImbalanced i max min (World.start vc)).vc ↔
      GraceElapsed (vc.annotations .shardImbalancedSince) i.now ∨ ImbalancedTrue vc := by
  unfold raiseShardImbalanced GraceElapsed
  have hstart : (World.start vc).vc = vc := rfl
  rw [hstart]
  cases hv : vc.annotations .shardImbalancedSince with
  | none =>
    have hsame : ∀ ok : Bool, ∀ w' : World, w'.vc.status = vc.status → w'.stored = vc →
        (w'.patch ok w'.vc).vc.status = vc.status := by
      intro ok w' h₁ h₂
      cases ok with
      | false => exact h₁
      | true =>
        rw [← h₂]
        rfl
    dsimp only
    unfold ImbalancedTrue
    rw [hsame i.patchOK _ rfl rfl]
    simp
  | some v =>
    dsimp only
    cases hp : parseRFC3339 v with
    | none => simp [World.start,hp]
    | some firstSeen =>
      by_cases hw : i.now - firstSeen < shardImbalancedGracePeriod
      · have hnot : ¬ shardImbalancedGracePeriod ≤ i.now - firstSeen := Int.not_le.mpr hw
        simp [World.start,hp,hw,hnot]
      · have hle : shardImbalancedGracePeriod ≤ i.now - firstSeen := Int.not_lt.mp hw
        simp only [if_neg hw]
        refine iff_of_true ?_ (.inl ⟨v, firstSeen, rfl, hp, hle⟩)
        obtain ⟨c,hc,hbody⟩ := setCondition_find i.conditionAt
          ⟨.shardImbalanced, .true, "MemorySkew", skewMessage vc max min, vc.generation, 0⟩
          vc.status.conditions
        exact ⟨c, hc, congrArg (fun b => b.2.1) hbody⟩

structure StatsPass where
  others : OtherWrites (fun k => k = .shardImbalancedSince)
  input : StatsInput

structure StatsRecord where
  read : ValkeyCluster
  vc : ValkeyCluster

def statsPass (stored : ValkeyCluster) (p : StatsPass) : ValkeyCluster × StatsRecord :=
  let vc := p.others.write stored
  let w := (reconcileShardStats p.input (World.start vc)).1
  (w.stored, ⟨vc, w.vc⟩)

def SkewedPass (stored : ValkeyCluster) (p : StatsPass) : Prop :=
  (∃ pods, Skewed p.input (p.others.write stored) pods) ∧ p.input.patchOK = true

theorem statsPass_skewed {stored : ValkeyCluster} {p : StatsPass} (h : SkewedPass stored p) :
    (statsPass stored p).1 = p.others.write stored ∧
    (ImbalancedTrue (statsPass stored p).2.vc ↔
      GraceElapsed (stored.annotations .shardImbalancedSince) p.input.now ∨
        ImbalancedTrue (statsPass stored p).2.read) := by
  have hothers := p.others.keeps stored .shardImbalancedSince rfl
  obtain ⟨⟨pods,hskewed⟩,-⟩ := h
  have hw : Skewed p.input (World.start (p.others.write stored)).vc pods := hskewed
  obtain ⟨max,min,hraise⟩ := reconcileShardStats_skewed hw
  unfold statsPass
  dsimp only
  rw [hraise,raiseShardImbalanced_stored,raiseShardImbalanced_true_iff,← hothers]
  exact ⟨rfl, Iff.rfl⟩

/-- In a run that never leaves the skew, the last pass finds the condition True
exactly when the annotation was stored before the run started, early enough,
or the condition was True already. -/
theorem imbalance_raised_iff {start : ValkeyCluster} {passes : List StatsPass}
    (hrun : Runs.Along statsPass SkewedPass start passes) {before : List (StatsPass × StatsRecord)}
    {p : StatsPass} {r : StatsRecord} (hlog : Runs.log statsPass start passes = before ++ [(p, r)]) :
    ImbalancedTrue r.vc ↔
      GraceElapsed (start.annotations .shardImbalancedSince) p.input.now ∨ ImbalancedTrue r.read := by
  let Inv : List (StatsPass × StatsRecord) → ValkeyCluster → Prop := fun _ s =>
    s.annotations .shardImbalancedSince = start.annotations .shardImbalancedSince
  have hstep : ∀ past s i, Inv past s → SkewedPass s i →
      Inv (past ++ [(i, (statsPass s i).2)]) (statsPass s i).1 := by
    intro past s i hs hi
    dsimp only [Inv]
    rw [(statsPass_skewed hi).1,i.others.keeps s .shardImbalancedSince rfl]
    exact hs
  obtain ⟨stored,hinv,hp,rfl⟩ := hrun.invariant Inv rfl hstep hlog
  rw [← hinv]
  exact (statsPass_skewed hp).2

def onePrimaryFull : StatsInput where
  credsOK := true
  listed := some threePods
  stats pod := some ["memory_bytes".toList,
    if pod = readyPod '1' then "1000".toList else "100".toList, "keys".toList, "7".toList]
  now := 0
  conditionAt := 0
  patchOK := true

def skewedPass (now : Time) : StatsPass where
  others := OtherWrites.nothing _
  input := { onePrimaryFull with now := now, conditionAt := now }

def threePrimaries (since : Option AnnotationValue) : ValkeyCluster :=
  { threeShards (fun k => if k = .shardImbalancedSince then since else none) with
    status := { (threeShards (fun _ => none)).status with podRoles := fun _ => some .primary } }

theorem skewedPass_skewed (since : Option AnnotationValue) (now : Time) :
    SkewedPass (threePrimaries since) (skewedPass now) := by
  have hreported : 2 ≤ (shardStats onePrimaryFull
      (primaryPods (threePrimaries none) threePods)).length := by decide
  have hexceeds : imbalanceThreshold (threePrimaries none) < memorySkew (shardStats onePrimaryFull
      (primaryPods (threePrimaries none) threePods)) := by decide
  exact ⟨⟨threePods, rfl, rfl, hreported, hexceeds⟩, rfl⟩

theorem imbalance_raised_from_annotation :
    ImbalancedTrue (statsPass (threePrimaries (some (.stamp 0))) (skewedPass (61*second))).2.vc := by
  have hrun : Runs.Along statsPass SkewedPass (threePrimaries (some (.stamp 0)))
      [skewedPass (61*second)] := ⟨skewedPass_skewed _ _, trivial⟩
  have hlog : Runs.log statsPass (threePrimaries (some (.stamp 0))) [skewedPass (61*second)] =
      [] ++ [(skewedPass (61*second),
        (statsPass (threePrimaries (some (.stamp 0))) (skewedPass (61*second))).2)] := rfl
  exact (imbalance_raised_iff hrun hlog).mpr (.inl ⟨.stamp 0, 0, rfl, rfl, by decide⟩)

theorem imbalance_not_raised :
    ¬ (Runs.Along statsPass SkewedPass (threePrimaries none) [skewedPass 0, skewedPass (61*second)] →
      61*second ≤ (skewedPass (61*second)).input.now - (skewedPass 0).input.now →
      ImbalancedTrue (statsPass (statsPass (threePrimaries none) (skewedPass 0)).1
        (skewedPass (61*second))).2.vc) := by
  have hstored : (statsPass (threePrimaries none) (skewedPass 0)).1 = threePrimaries none :=
    (statsPass_skewed (skewedPass_skewed none 0)).1
  have hsecond : SkewedPass (statsPass (threePrimaries none) (skewedPass 0)).1
      (skewedPass (61*second)) := by
    rw [hstored]
    exact skewedPass_skewed none (61*second)
  intro h
  have htrue := h ⟨skewedPass_skewed none 0, hsecond, trivial⟩ (by decide)
  rw [hstored] at htrue
  obtain ⟨c,hc,-⟩ := htrue
  have hconditions : (statsPass (threePrimaries none) (skewedPass (61*second))).2.vc.status.conditions
      = [] := rfl
  rw [hconditions] at hc
  simp [findCondition] at hc

end ValkeyOperator
