import Mathlib.Algebra.Order.Field.Basic
import Mathlib.Algebra.Order.Field.Rat
import Mathlib.Tactic.Linarith
import ValkeyOperator.Election

/-!
The two rules for choosing a replica side by side: by offset alone, and by the weighted sum of
an offset score and a zone score.
-/

set_option autoImplicit false

namespace ValkeyOperator
open TextScan

/-- INFO replication was answered, and it has an offset: -1 stands for a missing field. -/
def offsetRead (e : ElectionInput) (pod : Pod) : Bool :=
  match getReplicaOffset (e.replication pod) with
  | none => false
  | some offset => decide (0 ≤ offset)

def zoneKey (topo : TopologySpec) : Text :=
  if topo.nodeTopologyKey = [] then "topology.kubernetes.io/zone".toList else topo.nodeTopologyKey

def podInfo (e : ElectionInput) (topo : TopologySpec) (pod : Pod) : PodTopologyInfo where
  pod := pod
  domainValue := if pod.nodeName = [] then [] else e.label pod.nodeName (zoneKey topo)
  replicaOffset := (getReplicaOffset (e.replication pod)).getD 0

def maxOffset (e : ElectionInput) (topo : TopologySpec) (pods : List Pod) : Int :=
  (pods.map (podInfo e topo)).foldl (fun m c => if c.replicaOffset > m then c.replicaOffset else m) 0

theorem foldl_maxOffset_perm {l m : List PodTopologyInfo} (h : l.Perm m) (start : Int) :
    l.foldl (fun m c => if c.replicaOffset > m then c.replicaOffset else m) start =
      m.foldl (fun m c => if c.replicaOffset > m then c.replicaOffset else m) start := by
  refine h.foldl_eq' (fun x _ y _ z => ?_) start
  split_ifs <;> omega

theorem foldl_maxOffset_ge (l : List PodTopologyInfo) (start : Int) :
    start ≤ l.foldl (fun m c => if c.replicaOffset > m then c.replicaOffset else m) start ∧
      ∀ c ∈ l, c.replicaOffset ≤
        l.foldl (fun m c => if c.replicaOffset > m then c.replicaOffset else m) start := by
  induction l generalizing start with
  | nil => simp
  | cons c l ih =>
    rw [List.foldl_cons]
    obtain ⟨hstart,hall⟩ := ih (if c.replicaOffset > start then c.replicaOffset else start)
    refine ⟨?_, fun d hd => ?_⟩
    · split_ifs at hstart ⊢ <;> omega
    · rcases List.mem_cons.mp hd with rfl | hd
      · split_ifs at hstart ⊢ <;> omega
      · exact hall d hd

theorem foldl_scoreStep {F : Type} [LinearOrder F] (score : PodTopologyInfo → F) (l : List PodTopologyInfo) :
    (l = [] ∧ l.foldl (scoreStep score) none = none) ∨
      ∃ c, l.foldl (scoreStep score) none = some (c, score c) ∧ Selection.FirstMax score l c :=
  Selection.foldl_firstMax (fun _ => rfl) (fun _ _ _ => rfl) l

section
variable (F : Type) [IntCast F] [Add F] [Sub F] [Mul F] [Div F] [LinearOrder F]
variable (e : ElectionInput) (vc : ValkeyCluster) (topo : TopologySpec) (failedPrimaryName : Text)

def zoneScore (pod : Pod) : F :=
  topologyScore (podInfo e topo pod).domainValue (podTopologyDomain e failedPrimaryName (zoneKey topo))
    (preferredZonesForIndex topo (int32 (podOrdinal failedPrimaryName vc.name)))
    topo.avoidSameZoneAsFailed

/-- The score of one of the candidates. It does not depend on the order of the replies. -/
def podScore (candidates : List Pod) (pod : Pod) : F :=
  candidateScore topo (maxOffset e topo candidates)
    (podTopologyDomain e failedPrimaryName (zoneKey topo))
    (preferredZonesForIndex topo (int32 (podOrdinal failedPrimaryName vc.name))) (podInfo e topo pod)

theorem pickBestReplicaTopologyAware_firstMax (candidates : List Pod) :
    (candidates = [] ∧ pickBestReplicaTopologyAware F e vc topo failedPrimaryName candidates = none) ∨
      ∃ best, pickBestReplicaTopologyAware F e vc topo failedPrimaryName candidates = some best ∧
        Selection.FirstMax (podScore F e vc topo failedPrimaryName candidates)
          (e.arrival.order candidates) best := by
  have hinfos : collectCandidates e (zoneKey topo) candidates =
      (e.arrival.order candidates).map (podInfo e topo) := rfl
  have hmax : (collectCandidates e (zoneKey topo) candidates).foldl
      (fun m c => if c.replicaOffset > m then c.replicaOffset else m) 0 = maxOffset e topo candidates := by
    rw [hinfos]
    exact foldl_maxOffset_perm ((e.arrival.perm candidates).map _) 0
  have hpick : pickBestReplicaTopologyAware F e vc topo failedPrimaryName candidates =
      (((e.arrival.order candidates).map (podInfo e topo)).foldl (scoreStep (candidateScore (F := F) topo
        (maxOffset e topo candidates) (podTopologyDomain e failedPrimaryName (zoneKey topo))
        (preferredZonesForIndex topo (int32 (podOrdinal failedPrimaryName vc.name))))) none).map
          (·.1.pod) := by
    rw [← hmax,← hinfos]
    rfl
  rw [hpick]
  rcases foldl_scoreStep (candidateScore (F := F) topo (maxOffset e topo candidates) _ _)
    ((e.arrival.order candidates).map (podInfo e topo)) with ⟨hnil,hfold⟩ | ⟨c,hfold,hfirst⟩
  · left
    have hempty := e.arrival.perm candidates
    rw [List.map_eq_nil_iff.mp hnil] at hempty
    exact ⟨hempty.symm.eq_nil, by rw [hfold]; rfl⟩
  · right
    obtain ⟨best,rfl,hbest⟩ := hfirst.of_map
    exact ⟨best, by rw [hfold]; rfl, hbest⟩

/-- What an election owes to the candidates whose offset is known. -/
structure ElectsRead (candidates : List Pod) (elected : Option Pod) : Prop where
  read : (∃ c ∈ candidates, offsetRead e c = true) → ∀ best, elected = some best → offsetRead e best = true
  nothing : (∀ c ∈ candidates, offsetRead e c = false) → elected = none

end

theorem offsetRead_iff (e : ElectionInput) (pod : Pod) :
    offsetRead e pod = true ↔ -1 < (getReplicaOffset (e.replication pod)).getD (-1) := by
  unfold offsetRead
  cases getReplicaOffset (e.replication pod) with
  | none => simp
  | some offset =>
    simp only [decide_eq_true_eq,Option.getD_some]
    omega

theorem foldl_lagStep (e : ElectionInput) (l : List Pod) :
    (l.foldl (lagStep e) (none, -1) = (none, -1) ∧ ∀ c ∈ l, offsetRead e c = false) ∨
      ∃ best, l.foldl (lagStep e) (none, -1) =
        (some best, (getReplicaOffset (e.replication best)).getD (-1)) ∧ offsetRead e best = true := by
  induction l using List.reverseRecOn with
  | nil => exact .inl ⟨rfl, by simp⟩
  | append_singleton l pod ih =>
    rw [List.foldl_append,List.foldl_cons,List.foldl_nil]
    rcases ih with ⟨hfold,hnone⟩ | ⟨best,hfold,hbest⟩
    · rw [hfold]
      unfold lagStep
      by_cases hread : offsetRead e pod = true
      · exact .inr ⟨pod, if_pos ((offsetRead_iff e pod).mp hread), hread⟩
      · refine .inl ⟨if_neg (fun h => hread ((offsetRead_iff e pod).mpr h)), fun c hc => ?_⟩
        rcases List.mem_append.mp hc with hc | hc
        · exact hnone c hc
        · rw [List.mem_singleton.mp hc]
          exact Bool.eq_false_iff.mpr hread
    · right
      rw [hfold]
      unfold lagStep
      have hlow := (offsetRead_iff e best).mp hbest
      dsimp only
      split
      · rename_i hmore
        exact ⟨pod, rfl, (offsetRead_iff e pod).mpr (lt_trans hlow hmore)⟩
      · exact ⟨best, rfl, hbest⟩

theorem pickBestReplicaByLag_electsRead (e : ElectionInput) (candidates : List Pod) :
    ElectsRead e candidates (pickBestReplicaByLag e candidates) := by
  have hmem : ∀ best, pickBestReplicaByLag e candidates = some best → best ∈ candidates :=
    fun _ h => pickBestReplicaByLag_mem h
  unfold pickBestReplicaByLag at hmem ⊢
  rcases foldl_lagStep e (e.arrival.order candidates) with ⟨hfold,-⟩ | ⟨best,hfold,hbest⟩
  · rw [hfold]
    exact ⟨fun _ best h => (nomatch h), fun _ => rfl⟩
  · rw [hfold] at hmem ⊢
    constructor
    · rintro - c hc
      cases hc
      exact hbest
    · intro hnone
      rw [hnone best (hmem best rfl)] at hbest
      cases hbest

def unreadFirst (e : ElectionInput) : Arrival where
  order pods := pods.filter (fun pod => !offsetRead e pod) ++ pods.filter (fun pod => offsetRead e pod)
  perm pods := by
    have hparts := List.filter_append_perm (fun pod => !offsetRead e pod) pods
    simpa using hparts

/-- In every order of the replies the two rules keep to the offsets that were read exactly when,
for the rule with zones, one such candidate scores above all the others. -/
theorem electsRead_iff (F : Type) [IntCast F] [Add F] [Sub F] [Mul F] [Div F] [LinearOrder F]
    (e : ElectionInput) (vc : ValkeyCluster) (topo : TopologySpec) (failedPrimaryName : Text)
    (candidates : List Pod) :
    (∀ arrival : Arrival,
        ElectsRead e candidates (pickBestReplicaByLag { e with arrival := arrival } candidates) ∧
        ElectsRead e candidates (pickBestReplicaTopologyAware F { e with arrival := arrival } vc topo
          failedPrimaryName candidates)) ↔
      candidates = [] ∨ ∃ c ∈ candidates, offsetRead e c = true ∧
        ∀ u ∈ candidates, offsetRead e u = false →
          podScore F e vc topo failedPrimaryName candidates u <
            podScore F e vc topo failedPrimaryName candidates c := by
  constructor
  · intro h
    -- an order in which a tie goes to a candidate without an offset
    obtain ⟨hread,hnothing⟩ := (h (unreadFirst e)).2
    rcases pickBestReplicaTopologyAware_firstMax F { e with arrival := unreadFirst e } vc topo
      failedPrimaryName candidates with ⟨hnil,-⟩ | ⟨best,hpick,hfirst⟩
    · exact .inl hnil
    · right
      have hbest : best ∈ candidates := ((unreadFirst e).perm candidates).mem_iff.mp hfirst.mem
      have hsome : ∃ c ∈ candidates, offsetRead e c = true := by
        by_contra hno
        have hnone := hnothing (fun c hc => Bool.eq_false_iff.mpr (fun hc' => hno ⟨c, hc, hc'⟩))
        rw [hpick] at hnone
        cases hnone
      have hbestRead := hread hsome best hpick
      refine ⟨best, hbest, hbestRead, fun u hu hunread => ?_⟩
      exact hfirst.lt_of_append (by simp [hbestRead]) u (by simp [hu,hunread])
  · intro h arrival
    obtain ⟨hread,hnothing⟩ := pickBestReplicaByLag_electsRead { e with arrival := arrival } candidates
    refine ⟨⟨hread, hnothing⟩, ?_⟩
    rcases pickBestReplicaTopologyAware_firstMax F { e with arrival := arrival } vc topo
      failedPrimaryName candidates with ⟨-,hnone⟩ | ⟨best,hpick,hfirst⟩
    · rw [hnone]
      exact ⟨fun _ _ h => (nomatch h), fun _ => rfl⟩
    · have hbest : best ∈ candidates := (arrival.perm candidates).mem_iff.mp hfirst.mem
      rcases h with rfl | ⟨c,hc,hread,hbelow⟩
      · cases hbest
      · have hle := hfirst.le ((arrival.perm candidates).mem_iff.mpr hc)
        rw [hpick]
        constructor
        · rintro - b hb
          cases hb
          by_contra hunread
          exact absurd (hbelow best hbest (Bool.eq_false_iff.mpr hunread)) (not_lt.mpr hle)
        · intro hnone
          rw [hnone c hc] at hread
          cases hread

def zoned (weight : Int) : TopologySpec where
  nodeTopologyKey := []
  podAssignments := [⟨1, ["eu-a".toList]⟩]
  avoidSameZoneAsFailed := true
  electionTopologyWeight := weight

def zonedReplies (replication : Pod → Option Text) : ElectionInput :=
  { favouring (readyPod '2') threePods (nodeID '1') [] with
    replication := replication
    label := fun node _ => if node = ['n','3'] then "eu-a".toList else "eu-b".toList }

theorem unread_replica_elected :
    (offsetRead (zonedReplies (fun p => if p = readyPod '2' then some offsetOne else none))
        (readyPod '2') = true ∧
      offsetRead (zonedReplies (fun p => if p = readyPod '2' then some offsetOne else none))
        (readyPod '3') = false ∧
      pickBestReplicaTopologyAware ℚ
        (zonedReplies (fun p => if p = readyPod '2' then some offsetOne else none))
        (threeShards (fun _ => none)) (zoned 70) (readyPod '1').name [readyPod '2', readyPod '3'] =
          some (readyPod '3')) ∧
    (pickBestReplicaByLag (zonedReplies (fun _ => none)) [readyPod '2', readyPod '3'] = none ∧
      pickBestReplicaTopologyAware ℚ (zonedReplies (fun _ => none)) (threeShards (fun _ => none))
        (zoned 70) (readyPod '1').name [readyPod '2', readyPod '3'] = some (readyPod '3')) := by
  decide +kernel

/-! The choice among offsets that are not negative, with exact scores. -/

section
variable (e : ElectionInput) (vc : ValkeyCluster) (topo : TopologySpec) (failedPrimaryName : Text)

/-- At least as far and as well placed, and better in a respect that has a weight. -/
structure Dominates (d c : Pod) : Prop where
  offset : (podInfo e topo c).replicaOffset ≤ (podInfo e topo d).replicaOffset
  zone : zoneScore ℚ e vc topo failedPrimaryName c ≤ zoneScore ℚ e vc topo failedPrimaryName d
  better : (topo.electionTopologyWeight < 100 ∧
      (podInfo e topo c).replicaOffset < (podInfo e topo d).replicaOffset) ∨
    (0 < topo.electionTopologyWeight ∧
      zoneScore ℚ e vc topo failedPrimaryName c < zoneScore ℚ e vc topo failedPrimaryName d)

def lagScore (candidates : List Pod) (pod : Pod) : ℚ :=
  if maxOffset e topo candidates > 0 then
    ((podInfo e topo pod).replicaOffset : ℚ) / (maxOffset e topo candidates : ℚ)
  else 1

theorem podScore_eq (candidates : List Pod) (pod : Pod) :
    podScore ℚ e vc topo failedPrimaryName candidates pod =
      (1 - (topo.electionTopologyWeight : ℚ)/100) * lagScore e topo candidates pod +
        (topo.electionTopologyWeight : ℚ)/100 * zoneScore ℚ e vc topo failedPrimaryName pod := by
  simp [podScore,candidateScore,lagScore,zoneScore]

end

theorem weighted_lt {w a b c d : ℚ} (hlow : 0 ≤ w) (hhigh : w ≤ 1) (hab : a ≤ b) (hcd : c ≤ d)
    (h : (w < 1 ∧ a < b) ∨ (0 < w ∧ c < d)) : (1 - w)*a + w*c < (1 - w)*b + w*d := by
  have hfirst : (1 - w)*a ≤ (1 - w)*b := mul_le_mul_of_nonneg_left hab (by linarith)
  have hsecond : w*c ≤ w*d := mul_le_mul_of_nonneg_left hcd hlow
  rcases h with ⟨hw,hlt⟩ | ⟨hw,hlt⟩
  · exact add_lt_add_of_lt_of_le (mul_lt_mul_of_pos_left hlt (by linarith)) hsecond
  · exact add_lt_add_of_le_of_lt hfirst (mul_lt_mul_of_pos_left hlt hw)

section
variable {e : ElectionInput} {vc : ValkeyCluster} {topo : TopologySpec} {failedPrimaryName : Text}
variable {candidates : List Pod} {c d : Pod}

theorem replicaOffset_le_maxOffset (h : c ∈ candidates) :
    (podInfo e topo c).replicaOffset ≤ maxOffset e topo candidates :=
  (foldl_maxOffset_ge (candidates.map (podInfo e topo)) 0).2 _ (List.mem_map_of_mem h)

theorem lagScore_le (h : (podInfo e topo c).replicaOffset ≤ (podInfo e topo d).replicaOffset) :
    lagScore e topo candidates c ≤ lagScore e topo candidates d := by
  unfold lagScore
  split_ifs with hmax
  · have hpos : (0 : ℚ) < maxOffset e topo candidates := Int.cast_pos.mpr hmax
    exact (div_le_div_iff_of_pos_right hpos).mpr (Int.cast_le.mpr h)
  · exact le_refl _

theorem lagScore_lt (hc : 0 ≤ (podInfo e topo c).replicaOffset) (hd : d ∈ candidates)
    (h : (podInfo e topo c).replicaOffset < (podInfo e topo d).replicaOffset) :
    lagScore e topo candidates c < lagScore e topo candidates d := by
  have hmax : maxOffset e topo candidates > 0 := by
    have hle : (podInfo e topo d).replicaOffset ≤ maxOffset e topo candidates :=
      replicaOffset_le_maxOffset hd
    omega
  have hpos : (0 : ℚ) < maxOffset e topo candidates := Int.cast_pos.mpr hmax
  unfold lagScore
  rw [if_pos hmax,if_pos hmax]
  exact (div_lt_div_iff_of_pos_right hpos).mpr (Int.cast_lt.mpr h)

theorem Dominates.podScore_lt (h : Dominates e vc topo failedPrimaryName d c)
    (hlow : 0 ≤ topo.electionTopologyWeight) (hhigh : topo.electionTopologyWeight ≤ 100)
    (hc : 0 ≤ (podInfo e topo c).replicaOffset) (hd : d ∈ candidates) :
    podScore ℚ e vc topo failedPrimaryName candidates c <
      podScore ℚ e vc topo failedPrimaryName candidates d := by
  have hw : (0 : ℚ) ≤ topo.electionTopologyWeight := Int.cast_nonneg hlow
  have hw' : (topo.electionTopologyWeight : ℚ) ≤ 100 := by exact_mod_cast hhigh
  rw [podScore_eq,podScore_eq]
  refine weighted_lt (by linarith) (by linarith) (lagScore_le h.offset) h.zone ?_
  rcases h.better with ⟨hweight,hlt⟩ | ⟨hweight,hlt⟩
  · have hbelow : (topo.electionTopologyWeight : ℚ) < 100 := by exact_mod_cast hweight
    exact .inl ⟨by linarith, lagScore_lt hc hd hlt⟩
  · have habove : (0 : ℚ) < topo.electionTopologyWeight := Int.cast_pos.mpr hweight
    exact .inr ⟨by linarith, hlt⟩

end

theorem elected_not_dominated (e : ElectionInput) (vc : ValkeyCluster) (topo : TopologySpec)
    (failedPrimaryName : Text) (candidates : List Pod) (hne : candidates ≠ [])
    (hoffset : ∀ c ∈ candidates, 0 ≤ (podInfo e topo c).replicaOffset)
    (hlow : 0 ≤ topo.electionTopologyWeight) (hhigh : topo.electionTopologyWeight ≤ 100) :
    ∃ best ∈ candidates,
      pickBestReplicaTopologyAware ℚ e vc topo failedPrimaryName candidates = some best ∧
      ∀ d ∈ candidates, ¬ Dominates e vc topo failedPrimaryName d best := by
  rcases pickBestReplicaTopologyAware_firstMax ℚ e vc topo failedPrimaryName candidates
    with ⟨hnil,-⟩ | ⟨best,hpick,hfirst⟩
  · exact absurd hnil hne
  · have hbest : best ∈ candidates := (e.arrival.perm candidates).mem_iff.mp hfirst.mem
    refine ⟨best, hbest, hpick, fun d hd hdom => ?_⟩
    have hlt := hdom.podScore_lt hlow hhigh (hoffset best hbest) hd
    have hle := hfirst.le ((e.arrival.perm candidates).mem_iff.mpr hd)
    exact absurd hlt (not_lt.mpr hle)

theorem elected_preferred_zone :
    (∀ c ∈ [readyPod '2', readyPod '3'],
      0 ≤ (podInfo (zonedReplies (fun _ => some offsetOne)) (zoned 70) c).replicaOffset) ∧
    ∃ best ∈ [readyPod '2', readyPod '3'],
      pickBestReplicaTopologyAware ℚ (zonedReplies (fun _ => some offsetOne))
        (threeShards (fun _ => none)) (zoned 70) (readyPod '1').name [readyPod '2', readyPod '3'] =
          some best ∧
      ∀ d ∈ [readyPod '2', readyPod '3'], ¬ Dominates (zonedReplies (fun _ => some offsetOne))
        (threeShards (fun _ => none)) (zoned 70) (readyPod '1').name d best := by
  have hoffset : ∀ c ∈ [readyPod '2', readyPod '3'],
      0 ≤ (podInfo (zonedReplies (fun _ => some offsetOne)) (zoned 70) c).replicaOffset := by
    decide +kernel
  exact ⟨hoffset, elected_not_dominated _ _ _ _ _ (by simp) hoffset (by decide) (by decide)⟩

end ValkeyOperator
