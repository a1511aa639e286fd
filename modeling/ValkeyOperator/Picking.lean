import ValkeyOperator.NodesText
import ValkeyOperator.Orders

/-!
The choice of a primary for a new replica, over whole CLUSTER NODES texts: which node it
is, that the order of the lines does not matter, and when there is no choice.
-/

set_option autoImplicit false

namespace ValkeyOperator
open TextScan

def HexID (id : Text) : Prop := id.length = 40 ∧ id.all isHex = true

instance (id : Text) : Decidable (HexID id) := inferInstanceAs (Decidable (_ ∧ _))

def HexIDs (nodesRaw : Text) : Prop :=
  ∀ line ∈ nodesRaw.splitOn '\n', ∀ id ∈ (fields line).head?, HexID id

instance (nodesRaw : Text) : Decidable (HexIDs nodesRaw) :=
  decidable_of_iff (∀ line ∈ nodesRaw.splitOn '\n', (fields line).head?.all (fun id => HexID id) = true)
    (by simp [HexIDs,Option.all_eq_true])

theorem HexID.no_colon {id : Text} (h : HexID id) : ':' ∉ id := by
  intro hmem
  have hhex := List.all_eq_true.mp h.2 ':' hmem
  exact absurd hhex (by decide)

theorem no_id_before_colon {front tail : Text} (hshort : front.length < 40)
    (h : ∀ id ∈ (fields (front ++ ':' :: tail)).head?, HexID id) : False := by
  have hcolon : isSpace ':' = false := by decide
  induction front with
  | nil =>
    rw [List.nil_append,fields_head hcolon] at h
    exact (h _ rfl).no_colon (by simp)
  | cons c front ih =>
    rw [List.length_cons] at hshort
    cases hc : isSpace c with
    | true =>
      have hskip := fields_append_cons hc [] (front ++ ':' :: tail)
      rw [List.cons_append,← List.nil_append (c :: (front ++ ':' :: tail)),hskip] at h
      exact ih (by omega) h
    | false =>
      rw [List.cons_append,fields_head hc] at h
      have hid := h _ rfl
      rw [List.takeWhile_append] at hid
      split at hid
      · exact hid.no_colon (by simp [hcolon])
      · have hlen := hid.1
        have hle := (List.takeWhile_prefix (l := front) (fun d => !isSpace d)).length_le
        rw [List.length_cons] at hlen
        omega

theorem HexIDs.stripVerbatimPrefix {nodesRaw : Text} (h : HexIDs nodesRaw) :
    stripVerbatimPrefix nodesRaw = nodesRaw := by
  rcases stripVerbatimPrefix_cases nodesRaw with hs | ⟨format,rest,rfl,hlen,hline,-⟩
  · exact hs
  · have hfirst : ∃ tail, format ++ ':' :: tail ∈ (format ++ ':' :: rest).splitOn '\n' := by
      refine ⟨rest.takeWhile (fun x => !(x == '\n')), List.mem_of_mem_head? ?_⟩
      have hformat : ∀ c ∈ format, (!(c == '\n')) = true := by
        intro c hc
        have hne : c ≠ '\n' := fun heq => hline (heq ▸ hc)
        simpa using hne
      rw [List.splitOn_eq_splitOnP,splitOnP_head,List.takeWhile_append_of_pos hformat]
      simp
    obtain ⟨tail,hmem⟩ := hfirst
    have hshort : format.length < 40 := by
      have hle := length_le_utf8 format
      omega
    exact (no_id_before_colon hshort (h _ hmem)).elim

theorem HexIDs.nodes {nodesRaw : Text} (h : HexIDs nodesRaw) :
    parseClusterNodes nodesRaw = (nodesRaw.splitOn '\n').filterMap parseNodeLine := by
  rw [parseClusterNodes_lines,h.stripVerbatimPrefix]

theorem HexIDs.id {nodesRaw : Text} (h : HexIDs nodesRaw) {n : ClusterNodeState}
    (hn : n ∈ parseClusterNodes nodesRaw) : HexID n.id := by
  rw [h.nodes] at hn
  obtain ⟨line,hline,hparse⟩ := List.mem_filterMap.mp hn
  unfold parseNodeLine at hparse
  split at hparse
  · rename_i hfields
    cases hparse
    exact h line hline _ (by rw [hfields]; rfl)
  · cases hparse

theorem HexIDs.perm {nodesRaw nodesRaw' : Text} (h : HexIDs nodesRaw)
    (hperm : (nodesRaw'.splitOn '\n').Perm (nodesRaw.splitOn '\n')) :
    (parseClusterNodes nodesRaw').Perm (parseClusterNodes nodesRaw) := by
  have h' : HexIDs nodesRaw' := fun line hline => h line (hperm.mem_iff.mp hline)
  rw [h.nodes,h'.nodes]
  exact hperm.filterMap parseNodeLine

def slaveLines (nodes : List ClusterNodeState) (id : Text) : Nat :=
  nodes.countP (fun n => hasSlave n.flags && decide (n.masterID = id))

theorem HexID.replicaCount {id : Text} (h : HexID id) (nodes : List ClusterNodeState) :
    replicaCount nodes id = slaveLines nodes id := by
  have hlen := h.1
  unfold ValkeyOperator.replicaCount slaveLines
  rw [List.countP_eq_length_filter]
  refine congrArg List.length (List.filter_congr (fun n _ => ?_))
  by_cases hid : n.masterID = id
  · have hdash : id ≠ ['-'] := by
      rintro rfl
      simp at hlen
    have hempty : id ≠ [] := by
      rintro rfl
      simp at hlen
    simp [hid,hdash,hempty]
  · simp [hid]

/-- Fewer replicas, or as many and not a larger ID. -/
def Precedes (nodes : List ClusterNodeState) (n q : ClusterNodeState) : Prop :=
  slaveLines nodes n.id < slaveLines nodes q.id ∨
    (slaveLines nodes n.id = slaveLines nodes q.id ∧ ¬ q.id < n.id)

/-- The choice, by what it is and not by how it is found. -/
theorem pickMasterForReplica_some_iff {nodesRaw id : Text} {expectedReplicas : Int} :
    pickMasterForReplica nodesRaw expectedReplicas = some id ↔
      ∃ n ∈ parseClusterNodes nodesRaw, takesReplicas n = true ∧ n.id = id ∧
        (replicaCount (parseClusterNodes nodesRaw) n.id : Int) ≤ expectedReplicas ∧
        ∀ q ∈ parseClusterNodes nodesRaw, takesReplicas q = true →
          nodeRank (parseClusterNodes nodesRaw) n ≤ nodeRank (parseClusterNodes nodesRaw) q := by
  have hpicked : ∀ id, pickMasterForReplica nodesRaw expectedReplicas = some id →
      ∃ n ∈ parseClusterNodes nodesRaw, takesReplicas n = true ∧ n.id = id ∧
        (replicaCount (parseClusterNodes nodesRaw) n.id : Int) ≤ expectedReplicas ∧
        ∀ q ∈ parseClusterNodes nodesRaw, takesReplicas q = true →
          nodeRank (parseClusterNodes nodesRaw) n ≤ nodeRank (parseClusterNodes nodesRaw) q := by
    intro id h
    have hfirst := pickStep_first (parseClusterNodes nodesRaw) ([], expectedReplicas + 1)
    rw [pickMasterForReplica_eq] at h
    dsimp only at h
    rcases pickStep_foldl (parseClusterNodes nodesRaw) expectedReplicas with
      hstart | ⟨n,hn,htakes,hle,hbest⟩
    · simp [hstart] at h
    · rw [hbest] at hfirst
      rw [hbest,if_neg (parseClusterNodes_id hn)] at h
      exact ⟨n, hn, htakes, Option.some.inj h, hle, hfirst⟩
  constructor
  · exact hpicked id
  · rintro ⟨n,hn,htakes,rfl,hle,hleast⟩
    cases hpick : pickMasterForReplica nodesRaw expectedReplicas with
    | none => exact absurd hle (not_le.mpr (pickMasterForReplica_none hpick n hn htakes))
    | some id =>
      obtain ⟨m,hm,hmtakes,rfl,-,hmleast⟩ := hpicked id hpick
      have heq := le_antisymm (hmleast n hn htakes) (hleast m hm hmtakes)
      have hid := congrArg (fun k => (ofLex k).2) heq
      exact congrArg some hid

theorem replicaCount_perm {nodes nodes' : List ClusterNodeState} (h : nodes'.Perm nodes) (id : Text) :
    replicaCount nodes' id = replicaCount nodes id :=
  (h.filter _).length_eq

theorem pickMasterForReplica_perm {nodesRaw nodesRaw' : Text}
    (h : (parseClusterNodes nodesRaw').Perm (parseClusterNodes nodesRaw)) (expectedReplicas : Int) :
    pickMasterForReplica nodesRaw' expectedReplicas = pickMasterForReplica nodesRaw expectedReplicas := by
  have hrank : ∀ n, nodeRank (parseClusterNodes nodesRaw') n = nodeRank (parseClusterNodes nodesRaw) n := by
    intro n
    unfold nodeRank
    rw [replicaCount_perm h]
  refine Option.ext (fun id => ?_)
  rw [pickMasterForReplica_some_iff,pickMasterForReplica_some_iff]
  simp only [h.mem_iff,replicaCount_perm h,hrank]

theorem HexIDs.precedes {nodesRaw : Text} (h : HexIDs nodesRaw) {n q : ClusterNodeState}
    (hn : n ∈ parseClusterNodes nodesRaw) (hq : q ∈ parseClusterNodes nodesRaw)
    (hrank : nodeRank (parseClusterNodes nodesRaw) n ≤ nodeRank (parseClusterNodes nodesRaw) q) :
    Precedes (parseClusterNodes nodesRaw) n q := by
  unfold Precedes
  rw [← (h.id hn).replicaCount,← (h.id hq).replicaCount]
  rcases Prod.Lex.le_iff.mp hrank with hlt | ⟨heq,hid⟩
  · exact .inl (Int.ofNat_lt.mp hlt)
  · exact .inr ⟨Int.ofNat_inj.mp heq, not_lt.mpr hid⟩

def reportedNodes (nodes : List ClusterNodeState) (expectedReplicas : Int) : List ClusterNodeState :=
  nodes.filter (fun n => healthyMaster n && decide ((replicaCount nodes n.id : Int) < expectedReplicas))

def reportText (nodes : List ClusterNodeState) (expectedReplicas : Int) (n : ClusterNodeState) : String :=
  shortID n.id ++ "(" ++ toString (replicaCount nodes n.id) ++ "/" ++ toString expectedReplicas ++
    " replicas)"

theorem detectUnderReplicatedShards_eq (nodes : List ClusterNodeState) (expectedReplicas : Int) :
    detectUnderReplicatedShards nodes expectedReplicas =
      (reportedNodes nodes expectedReplicas).map (reportText nodes expectedReplicas) := by
  unfold detectUnderReplicatedShards reportedNodes
  rw [← List.filterMap_eq_map,List.filterMap_filter]
  refine List.filterMap_congr (fun n _ => ?_)
  unfold healthyMaster
  cases hasMaster n.flags <;> cases isFailing n.flags <;> simp [reportText]

theorem pick_reported {nodesRaw : Text} {expectedReplicas : Int}
    (h : ∃ n ∈ reportedNodes (parseClusterNodes nodesRaw) expectedReplicas, takesReplicas n = true) :
    ∃ m ∈ reportedNodes (parseClusterNodes nodesRaw) expectedReplicas, takesReplicas m = true ∧
      pickMasterForReplica nodesRaw expectedReplicas = some m.id := by
  obtain ⟨n,hrep,htakes⟩ := h
  simp only [reportedNodes,List.mem_filter,Bool.and_eq_true,decide_eq_true_eq] at hrep ⊢
  obtain ⟨hn,-,hlt⟩ := hrep
  cases hpick : pickMasterForReplica nodesRaw expectedReplicas with
  | none =>
    have hgt := pickMasterForReplica_none hpick n hn htakes
    omega
  | some id =>
    obtain ⟨m,hm,hmtakes,rfl,-,hleast⟩ := pickMasterForReplica_some_iff.mp hpick
    have hfewer : (replicaCount (parseClusterNodes nodesRaw) m.id : Int) ≤
        replicaCount (parseClusterNodes nodesRaw) n.id := by
      rcases Prod.Lex.le_iff.mp (hleast n hn htakes) with hlt | ⟨heq,-⟩
      · exact le_of_lt hlt
      · exact le_of_eq heq
    have hhealthy : healthyMaster m = true := by
      simp only [takesReplicas,Bool.and_eq_true] at hmtakes
      exact hmtakes.1
    exact ⟨m, ⟨hm, hhealthy, by omega⟩, hmtakes, rfl⟩

/-- The choice is the first of the primaries that can take a replica, the lines may come in
any order, and it is under-replicated if any of those primaries is. -/
theorem picked_first {nodesRaw : Text} {expectedReplicas : Int} (hids : HexIDs nodesRaw) :
    (∀ id, pickMasterForReplica nodesRaw expectedReplicas = some id →
      ∃ n ∈ parseClusterNodes nodesRaw, n.id = id ∧ takesReplicas n = true ∧
        ∀ q ∈ parseClusterNodes nodesRaw, takesReplicas q = true →
          Precedes (parseClusterNodes nodesRaw) n q) ∧
      (∀ nodesRaw', (nodesRaw'.splitOn '\n').Perm (nodesRaw.splitOn '\n') →
        pickMasterForReplica nodesRaw' expectedReplicas =
          pickMasterForReplica nodesRaw expectedReplicas) ∧
      (detectUnderReplicatedShards (parseClusterNodes nodesRaw) expectedReplicas =
          (reportedNodes (parseClusterNodes nodesRaw) expectedReplicas).map
            (reportText (parseClusterNodes nodesRaw) expectedReplicas) ∧
        ((∃ n ∈ reportedNodes (parseClusterNodes nodesRaw) expectedReplicas, takesReplicas n = true) →
          ∃ m ∈ reportedNodes (parseClusterNodes nodesRaw) expectedReplicas, takesReplicas m = true ∧
            pickMasterForReplica nodesRaw expectedReplicas = some m.id)) := by
  refine ⟨fun id hpick => ?_, fun nodesRaw' hperm => ?_, detectUnderReplicatedShards_eq _ _, pick_reported⟩
  · obtain ⟨n,hn,htakes,hid,-,hleast⟩ := pickMasterForReplica_some_iff.mp hpick
    exact ⟨n, hn, hid, htakes, fun q hq hqt => hids.precedes hn hq (hleast q hq hqt)⟩
  · exact pickMasterForReplica_perm (hids.perm hperm) expectedReplicas

def shardLines : List Text :=
  [entryText '1' '1' "myself,master" ['-'] " 0-8191", entryText '2' '2' "master" ['-'] " 8192-16383",
    entryText '3' '3' "slave" (nodeID '1') ""]

theorem secondShard_picked :
    pickMasterForReplica shardLines.flatten 1 = some (nodeID '2') ∧
      pickMasterForReplica shardLines.reverse.flatten 1 = some (nodeID '2') := by
  have hids : HexIDs shardLines.flatten := by decide +kernel
  have hpick : pickMasterForReplica shardLines.flatten 1 = some (nodeID '2') := by decide +kernel
  have hperm : (shardLines.reverse.flatten.splitOn '\n').Perm (shardLines.flatten.splitOn '\n') := by
    decide +kernel
  exact ⟨hpick, ((picked_first hids).2.1 _ hperm).trans hpick⟩

/-- An error means that there is no primary to choose, unless every primary that could be
chosen has more replicas than there should be. -/
theorem pick_fails_iff (nodesRaw : Text) (expectedReplicas : Int) :
    (pickMasterForReplica nodesRaw expectedReplicas = none ↔
        ¬ ∃ n ∈ parseClusterNodes nodesRaw, takesReplicas n = true) ↔
      ((∃ n ∈ parseClusterNodes nodesRaw, takesReplicas n = true) →
        ∃ n ∈ parseClusterNodes nodesRaw, takesReplicas n = true ∧
          (replicaCount (parseClusterNodes nodesRaw) n.id : Int) ≤ expectedReplicas) := by
  constructor
  · intro h hex
    cases hpick : pickMasterForReplica nodesRaw expectedReplicas with
    | none => exact absurd hex (h.mp hpick)
    | some id =>
      obtain ⟨n,hn,htakes,-,hle,-⟩ := pickMasterForReplica_some_iff.mp hpick
      exact ⟨n, hn, htakes, hle⟩
  · intro h
    constructor
    · intro hpick hex
      obtain ⟨n,hn,htakes,hle⟩ := h hex
      have hgt := pickMasterForReplica_none hpick n hn htakes
      omega
    · intro hnone
      cases hpick : pickMasterForReplica nodesRaw expectedReplicas with
      | none => rfl
      | some id =>
        obtain ⟨n,hn,htakes,-⟩ := pickMasterForReplica_some_iff.mp hpick
        exact absurd ⟨n, hn, htakes⟩ hnone

def crowdedShard : Text :=
  entryText '1' '1' "myself,master" ['-'] " 0-16383" ++ entryText '2' '2' "slave" (nodeID '1') "" ++
    entryText '3' '3' "slave,fail" (nodeID '1') ""

theorem crowdedShard_no_choice :
    (∃ n ∈ parseClusterNodes crowdedShard, takesReplicas n = true) ∧
      pickMasterForReplica crowdedShard 1 = none := by
  decide +kernel

end ValkeyOperator
