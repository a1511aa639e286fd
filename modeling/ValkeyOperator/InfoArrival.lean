import ValkeyOperator.Reconcile

/-!
The replies to CLUSTER INFO arrive in any order. What queryClusterInfo makes of them, and
so the branch that reconcileClusterTopology takes, does not depend on it.
-/

set_option autoImplicit false

namespace ValkeyOperator
open TextScan

def SoundReply (reply : Option Text) : Prop :=
  reply = none ∨ (((infoResult reply).state = "ok".toList ∨ (infoResult reply).state = "fail".toList) ∧
    0 ≤ (infoResult reply).slots)

instance (reply : Option Text) : Decidable (SoundReply reply) := inferInstanceAs (Decidable (_ ∨ _))

theorem SoundReply.valid {reply : Option Text} (h : SoundReply reply) : (infoResult reply).Valid := by
  rcases h with rfl | ⟨hstate,-⟩
  · exact .inl rfl
  · exact .inr hstate

theorem SoundReply.nonneg {reply : Option Text} (h : SoundReply reply) : 0 ≤ (infoResult reply).slots := by
  rcases h with rfl | ⟨-,hslots⟩
  · exact Int.le_refl 0
  · exact hslots

theorem SoundReply.zero_iff {reply : Option Text} (h : SoundReply reply) :
    infoResult reply = ⟨[], 0⟩ ↔ reply = none := by
  constructor
  · intro hzero
    refine h.resolve_right (fun hsome => ?_)
    rw [hzero] at hsome
    exact absurd hsome.1 (by decide)
  · rintro rfl
    rfl

theorem Best.receive_zero (b : Best) : b.receive ⟨[], 0⟩ = b := by simp [Best.receive]

theorem Best.receive_state {r : InfoResult} (h : r.state = "ok".toList ∨ r.state = "fail".toList)
    (b : Best) :
    b.receive r =
      if b.slots < r.slots ∨ (r.slots = b.slots ∧ r.state = "ok".toList)
      then ⟨r.state, r.slots, b.responded + 1⟩ else ⟨b.state, b.slots, b.responded + 1⟩ := by
  have hne : r.state ≠ [] := by
    rcases h with h | h <;> rw [h] <;> decide
  unfold Best.receive
  rw [if_neg (fun hzero => hne hzero.2)]

theorem Best.receive_swap (b : Best) {r s : InfoResult} (hr : r.Valid) (hs : s.Valid) :
    (b.receive r).receive s = (b.receive s).receive r := by
  rcases hr with rfl | hr
  · rw [Best.receive_zero,Best.receive_zero]
  rcases hs with rfl | hs
  · rw [Best.receive_zero,Best.receive_zero]
  have hdiff : "ok".toList ≠ "fail".toList := by decide
  simp only [Best.receive_state hr,Best.receive_state hs]
  generalize "ok".toList = ok at *
  generalize "fail".toList = fail at *
  grind

structure Best.Summary (rs : List InfoResult) (b : Best) : Prop where
  responded : b.responded = 0 ↔ ∀ r ∈ rs, r = ⟨[], 0⟩
  nonneg : 0 ≤ b.slots
  bound : ∀ r ∈ rs, r.slots ≤ b.slots
  reached : 0 < b.slots → ∃ r ∈ rs, r.slots = b.slots
  state : 0 < b.slots → b.state =
    if ∃ r ∈ rs, r.slots = b.slots ∧ r.state = "ok".toList then "ok".toList else "fail".toList

theorem Best.Summary.start : Best.Summary [] ⟨[], 0, 0⟩ :=
  ⟨by simp, Int.le_refl 0, by simp, fun h => absurd h (by decide), fun h => absurd h (by decide)⟩

theorem Best.Summary.beaten {rs : List InfoResult} {b : Best} (h : b.Summary rs) {r : InfoResult}
    (hle : r.slots ≤ b.slots) (hworse : r.slots = b.slots → r.state ≠ "ok".toList) {n : Nat}
    (hn : n = 0 ↔ ∀ s ∈ rs ++ [r], s = ⟨[], 0⟩) : Best.Summary (rs ++ [r]) { b with responded := n } := by
  have hex : (∃ s ∈ rs ++ [r], s.slots = b.slots ∧ s.state = "ok".toList) ↔
      ∃ s ∈ rs, s.slots = b.slots ∧ s.state = "ok".toList := by
    simp only [List.mem_append,List.mem_singleton]
    constructor
    · rintro ⟨s,hs | rfl,heq,hok⟩
      · exact ⟨s, hs, heq, hok⟩
      · exact absurd hok (hworse heq)
    · rintro ⟨s,hs,hs'⟩
      exact ⟨s, .inl hs, hs'⟩
  refine ⟨hn, h.nonneg, ?_, ?_, ?_⟩
  · intro s hs
    rcases List.mem_append.mp hs with hs | hs
    · exact h.bound s hs
    · rw [List.mem_singleton.mp hs]
      exact hle
  · intro hpos
    obtain ⟨s,hs,heq⟩ := h.reached hpos
    exact ⟨s, by simp [hs], heq⟩
  · intro hpos
    simp only [hex]
    exact h.state hpos

theorem Best.Summary.taken {rs : List InfoResult} {b : Best} (h : b.Summary rs) {r : InfoResult}
    (hstate : r.state = "ok".toList ∨ r.state = "fail".toList) (hslots : 0 ≤ r.slots)
    (hbetter : r.slots > b.slots ∨ (r.slots = b.slots ∧ r.state = "ok".toList)) {n : Nat}
    (hn : n = 0 ↔ ∀ s ∈ rs ++ [r], s = ⟨[], 0⟩) : Best.Summary (rs ++ [r]) ⟨r.state, r.slots, n⟩ := by
  have hle : ∀ s ∈ rs, s.slots ≤ r.slots := by
    intro s hs
    have := h.bound s hs
    rcases hbetter with hlt | ⟨heq,-⟩ <;> omega
  refine ⟨hn, hslots, ?_, fun _ => ⟨r, by simp, rfl⟩, ?_⟩
  · intro s hs
    rcases List.mem_append.mp hs with hs | hs
    · exact hle s hs
    · obtain rfl := List.mem_singleton.mp hs
      exact Int.le_refl _
  · intro _
    rcases hstate with hok | hfail
    · rw [if_pos ⟨r, by simp, rfl, hok⟩]
      exact hok
    · have hnot : r.state ≠ "ok".toList := by
        rw [hfail]
        decide
      -- a fail is only taken over with more slots than anyone had
      have hlt : b.slots < r.slots := hbetter.resolve_right (fun heq => hnot heq.2)
      rw [if_neg]
      · exact hfail
      · rintro ⟨s,hs,heq,hok⟩
        rcases List.mem_append.mp hs with hs | hs
        · have := h.bound s hs
          dsimp only at heq
          omega
        · rw [List.mem_singleton.mp hs] at hok
          exact hnot hok

theorem Best.Summary.zero {rs : List InfoResult} {b : Best} (h : b.Summary rs) :
    b.Summary (rs ++ [⟨[], 0⟩]) := by
  have hnone : ([] : Text) ≠ "ok".toList := by decide
  have hn : b.responded = 0 ↔ ∀ s ∈ rs ++ [⟨[], 0⟩], s = ⟨[], 0⟩ := by
    rw [h.responded]
    simp [or_imp]
  exact h.beaten h.nonneg (fun _ => hnone) hn

theorem Best.Summary.receive {rs : List InfoResult} {b : Best} (h : b.Summary rs) {r : InfoResult}
    (hstate : r.state = "ok".toList ∨ r.state = "fail".toList) (hslots : 0 ≤ r.slots) :
    (b.receive r).Summary (rs ++ [r]) := by
  have hne : r ≠ ⟨[], 0⟩ := by
    rintro rfl
    exact absurd hstate (by decide)
  have hall : ¬ ∀ s ∈ rs ++ [r], s = ⟨[], 0⟩ := fun hzero => hne (hzero r (by simp))
  have hn : b.responded + 1 = 0 ↔ ∀ s ∈ rs ++ [r], s = ⟨[], 0⟩ := iff_of_false (Nat.succ_ne_zero _) hall
  rw [Best.receive_state hstate]
  split
  · rename_i hbetter
    exact h.taken hstate hslots hbetter hn
  · rename_i hworse
    simp only [not_or,not_and,Int.not_lt] at hworse
    exact h.beaten hworse.1 hworse.2 hn

theorem Best.summary {rs : List InfoResult} (hrs : ∀ r ∈ rs, r.Valid ∧ 0 ≤ r.slots) :
    (rs.foldl Best.receive ⟨[], 0, 0⟩).Summary rs := by
  induction rs using List.reverseRecOn with
  | nil => exact Best.Summary.start
  | append_singleton rs r ih =>
    have hbest := ih (fun s hs => hrs s (by simp [hs]))
    obtain ⟨hvalid,hslots⟩ := hrs r (by simp)
    rw [List.foldl_append,List.foldl_cons,List.foldl_nil]
    rcases hvalid with rfl | hstate
    · rw [Best.receive_zero]
      exact hbest.zero
    · exact hbest.receive hstate hslots

section
variable {reply : Pod → Option Text} {pods : List Pod}

theorem queryClusterInfo_order (h : ∀ pod ∈ pods, SoundReply (reply pod)) (a b : Arrival) :
    queryClusterInfo reply a pods = queryClusterInfo reply b pods := by
  have hperm : (a.order pods).Perm (b.order pods) := (a.perm pods).trans (b.perm pods).symm
  have hvalid : ∀ r ∈ (a.order pods).map (fun pod => infoResult (reply pod)), r.Valid := by
    intro r hr
    obtain ⟨pod,hpod,rfl⟩ := List.mem_map.mp hr
    exact (h pod ((a.perm pods).mem_iff.mp hpod)).valid
  have hfold : ((a.order pods).map (fun pod => infoResult (reply pod))).foldl Best.receive ⟨[], 0, 0⟩ =
      ((b.order pods).map (fun pod => infoResult (reply pod))).foldl Best.receive ⟨[], 0, 0⟩ :=
    (hperm.map _).foldl_eq'
      (fun r hr s hs best => Best.receive_swap best (hvalid r hr) (hvalid s hs)) ⟨[], 0, 0⟩
  unfold queryClusterInfo
  dsimp only
  rw [hfold]

theorem queryClusterInfo_summary (h : ∀ pod ∈ pods, SoundReply (reply pod)) (a : Arrival) :
    ∃ b : Best, b.Summary (pods.map (fun pod => infoResult (reply pod))) ∧
      queryClusterInfo reply a pods = if b.responded = 0 then none else some ⟨b.state, b.slots⟩ := by
  rw [queryClusterInfo_order h a Arrival.inOrder]
  refine ⟨(pods.map (fun pod => infoResult (reply pod))).foldl Best.receive ⟨[], 0, 0⟩, ?_, rfl⟩
  refine Best.summary (fun r hr => ?_)
  obtain ⟨pod,hpod,rfl⟩ := List.mem_map.mp hr
  exact ⟨(h pod hpod).valid, (h pod hpod).nonneg⟩

end

/-- The most slots that a pod reports, with ok if one of the pods that report them says so. -/
structure MostInformed (reply : Pod → Option Text) (pods : List Pod) (best : InfoResult) : Prop where
  bound : ∀ pod ∈ pods, reply pod ≠ none → (infoResult (reply pod)).slots ≤ best.slots
  reached : ∃ pod ∈ pods, reply pod ≠ none ∧ (infoResult (reply pod)).slots = best.slots
  state : 0 < best.slots → best.state =
    if ∃ pod ∈ pods, (infoResult (reply pod)).slots = best.slots ∧
      (infoResult (reply pod)).state = "ok".toList
    then "ok".toList else "fail".toList

theorem queryClusterInfo_none {reply : Pod → Option Text} {pods : List Pod}
    (h : ∀ pod ∈ pods, SoundReply (reply pod)) (a : Arrival) :
    queryClusterInfo reply a pods = none ↔ ∀ pod ∈ pods, reply pod = none := by
  obtain ⟨b,hb,hquery⟩ := queryClusterInfo_summary h a
  have hzero : b.responded = 0 ↔ ∀ pod ∈ pods, reply pod = none := by
    rw [hb.responded]
    simp only [List.forall_mem_map]
    exact forall₂_congr (fun pod hpod => (h pod hpod).zero_iff)
  rw [hquery,← hzero]
  split <;> simp_all

theorem queryClusterInfo_some {reply : Pod → Option Text} {pods : List Pod}
    (h : ∀ pod ∈ pods, SoundReply (reply pod)) {a : Arrival} {best : InfoResult}
    (hbest : queryClusterInfo reply a pods = some best) : MostInformed reply pods best := by
  obtain ⟨b,hb,hquery⟩ := queryClusterInfo_summary h a
  have hsome : ¬ ∀ pod ∈ pods, reply pod = none := by
    rw [← queryClusterInfo_none h a,hbest]
    simp
  rw [hquery] at hbest
  split at hbest
  · cases hbest
  cases hbest
  have hbound : ∀ pod ∈ pods, (infoResult (reply pod)).slots ≤ b.slots :=
    fun pod hpod => hb.bound _ (List.mem_map_of_mem hpod)
  refine ⟨fun pod hpod _ => hbound pod hpod, ?_, fun hpos => ?_⟩
  · by_cases hpos : 0 < b.slots
    · obtain ⟨r,hr,heq⟩ := hb.reached hpos
      obtain ⟨pod,hpod,rfl⟩ := List.mem_map.mp hr
      refine ⟨pod, hpod, fun hnone => ?_, heq⟩
      rw [hnone] at heq
      exact absurd (heq ▸ hpos) (by decide)
    -- without slots anyone who answered reports the most of them
    · push Not at hsome
      obtain ⟨pod,hpod,hreply⟩ := hsome
      have hle := hbound pod hpod
      have hge := (h pod hpod).nonneg
      have hzero := hb.nonneg
      exact ⟨pod, hpod, hreply, by dsimp only; omega⟩
  · rw [hb.state hpos]
    simp only [List.mem_map,exists_exists_and_eq_and]

/-- Whatever the order of arrival: an error if nobody answers, and else the most informed
reply; and reconcileClusterTopology does the same. -/
theorem queryClusterInfo_any_order {i : TopologyInput}
    (h : ∀ pod ∈ i.readyPods, SoundReply (i.info pod)) :
    (∀ a : Arrival, queryClusterInfo i.info a i.readyPods = queryClusterInfo i.info i.arrival i.readyPods ∧
      (queryClusterInfo i.info a i.readyPods = none ↔ ∀ pod ∈ i.readyPods, i.info pod = none) ∧
      ∀ best, queryClusterInfo i.info a i.readyPods = some best →
        MostInformed i.info i.readyPods best) ∧
      ∀ (a : Arrival) (w : World), reconcileClusterTopology { i with arrival := a } w =
        reconcileClusterTopology i w := by
  refine ⟨fun a => ⟨queryClusterInfo_order h a i.arrival, queryClusterInfo_none h a,
    fun best hbest => queryClusterInfo_some h hbest⟩, fun a w => ?_⟩
  unfold reconcileClusterTopology
  dsimp only
  cases hl : i.listed with
  | none => rfl
  | some podList =>
    have hsame : queryClusterInfo i.info a (readyWithIP podList) =
        queryClusterInfo i.info i.arrival (readyWithIP podList) := by
      refine queryClusterInfo_order (fun pod hpod => h pod ?_) a i.arrival
      simpa [TopologyInput.readyPods,hl] using hpod
    dsimp only
    rw [hsame]

def tiedInfo (pod : Pod) : Option Text :=
  if pod = readyPod '1' then some (infoText "fail" "16384")
  else if pod = readyPod '2' then some (infoText "ok" "16384")
  else none

theorem tiedInfo_ok :
    threePods.map tiedInfo = [some (infoText "fail" "16384"), some (infoText "ok" "16384"), none] ∧
      ∀ a : Arrival, queryClusterInfo tiedInfo a threePods = some ⟨"ok".toList, 16384⟩ := by
  have hpods : (calmPass 0 tiedInfo).topology.readyPods = threePods := by decide
  have hsound : ∀ pod ∈ (calmPass 0 tiedInfo).topology.readyPods, SoundReply (tiedInfo pod) := by
    rw [hpods]
    decide +kernel
  have hfirst : queryClusterInfo tiedInfo Arrival.inOrder threePods = some ⟨"ok".toList, 16384⟩ := by
    decide +kernel
  refine ⟨by decide +kernel, ?_⟩
  intro a
  have hany := ((queryClusterInfo_any_order hsound).1 a).1
  rw [hpods] at hany
  exact hany.trans hfirst

end ValkeyOperator
