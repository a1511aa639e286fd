import ValkeyOperator.ModuleText

/-!
OPERATOR.CLUSTER.SAFE, the question the PreStop hook asks before a node stops, and
what its answer says about the majority of the primaries.
-/

set_option autoImplicit false

namespace ValkeyOperator
open TextScan

inductive NodeRole
  | master | slave | unknown
  deriving DecidableEq, Repr

structure NodeFlags where
  myself : Bool
  role : NodeRole
  pfail : Bool
  fail : Bool
  handshake : Bool
  noaddr : Bool
  nofailover : Bool
  deriving DecidableEq, Repr

/-- Valkey's table of flag names, in its order. -/
def NodeFlags.names (f : NodeFlags) : List Text :=
  (if f.myself then ["myself".toList] else []) ++
  (if f.role = .master then ["master".toList] else []) ++
  (if f.role = .slave then ["slave".toList] else []) ++
  (if f.pfail then ["fail?".toList] else []) ++
  (if f.fail then ["fail".toList] else []) ++
  (if f.handshake then ["handshake".toList] else []) ++
  (if f.noaddr then ["noaddr".toList] else []) ++
  (if f.nofailover then ["nofailover".toList] else [])

def NodeFlags.text (f : NodeFlags) : Text :=
  if f.names = [] then "noflags".toList else [','].intercalate f.names

structure NodeLine where
  id : Text
  addr : Text
  flags : NodeFlags
  rest : Text
  id_word : ∀ c ∈ id, c ≠ ' ' ∧ c ≠ '\n'
  addr_word : ∀ c ∈ addr, c ≠ ' ' ∧ c ≠ '\n'
  rest_line : ∀ c ∈ rest, c ≠ '\n'

def NodeLine.text (r : NodeLine) : Text :=
  r.id ++ ' ' :: (r.addr ++ ' ' :: (r.flags.text ++ ' ' :: r.rest))

/-- What CLUSTER NODES prints on a primary: one line is the node's own. -/
structure PrimaryNodes where
  lines : List NodeLine
  oneself : lines.countP (fun r => r.flags.myself) = 1
  primary : ∀ r ∈ lines, r.flags.myself = true → r.flags.role = .master

def PrimaryNodes.text (v : PrimaryNodes) : Text :=
  v.lines.flatMap (fun r => r.text ++ ['\n'])

structure SafeCalls where
  clusterInfo : Option Text
  replication : Option Text
  nodes : Option Text

def flagsField (line : Text) : Option Text :=
  match line.splitOnP (fun c => c == ' ') with
  | _ :: _ :: flags :: _ => some (flags.take 63)
  | _ => none

def countsLine (line : Text) : Bool :=
  match flagsField line with
  | none => false
  | some flags =>
    !contains flags "myself".toList && contains flags "master".toList &&
      !(contains flags "fail".toList || contains flags "noaddr".toList)

def healthyOtherPrimaries (nodes : Text) : Nat :=
  (nodes.splitOnP (fun c => c == '\n')).countP countsLine

def operatorClusterSafe (i : SafeCalls) : Int × Text :=
  match i.clusterInfo with
  | none => (0, "ERR failed to call CLUSTER INFO".toList)
  | some cinfo =>
    if parseFieldStr cinfo "cluster_state".toList 16 ≠ "ok".toList then
      (0, "cluster_state is not ok — already degraded".toList)
    else match i.replication with
      | none => (0, "ERR failed to call INFO replication".toList)
      | some rinfo =>
        if parseFieldStr rinfo "role".toList 16 = "slave".toList then
          (1, "replica — safe to stop".toList)
        else if parseFieldLL rinfo "connected_slaves".toList ≤ 0 then
          (0, "primary has no connected replica — failover not possible".toList)
        else match i.nodes with
          | none => (0, "ERR failed to call CLUSTER NODES".toList)
          | some nodes =>
            if healthyOtherPrimaries nodes < 2 then
              (0, "only ".toList ++ (toString (healthyOtherPrimaries nodes)).toList ++
                " other healthy primary(s) reachable — stopping would risk quorum loss".toList)
            else (1, "safe to stop".toList)

def plain (t : Text) : Bool := t.all (fun c => c != ' ' && c != '\n')

theorem plain_iff {t : Text} : plain t = true ↔ ∀ c ∈ t, c ≠ ' ' ∧ c ≠ '\n' := by
  simp [plain]

theorem NodeFlags.text_word (f : NodeFlags) :
    f.text.length ≤ 63 ∧ ∀ c ∈ f.text, c ≠ ' ' ∧ c ≠ '\n' := by
  rw [← plain_iff]
  obtain ⟨myself,role,pfail,fail,handshake,noaddr,nofailover⟩ := f
  cases myself <;> cases role <;> cases pfail <;> cases fail <;> cases handshake <;>
    cases noaddr <;> cases nofailover <;> decide

theorem NodeFlags.names_any (f : NodeFlags) (p : Text → Bool) :
    f.names.any p = (f.myself && p "myself".toList || (f.role = .master && p "master".toList) ||
      (f.role = .slave && p "slave".toList) || (f.pfail && p "fail?".toList) ||
      (f.fail && p "fail".toList) || (f.handshake && p "handshake".toList) ||
      (f.noaddr && p "noaddr".toList) || (f.nofailover && p "nofailover".toList)) := by
  have hite : ∀ (b : Prop) [Decidable b] (name : Text),
      (if b then [name] else []).any p = (decide b && p name) := by
    intro b _ name
    by_cases hb : b <;> simp [hb]
  simp only [NodeFlags.names,List.any_append,hite]
  simp

theorem NodeFlags.contains_text (f : NodeFlags) {needle : Text} (hcomma : ',' ∉ needle)
    (hne : needle ≠ []) (hno : ¬ needle <:+: "noflags".toList) :
    contains f.text needle = f.names.any (fun name => contains name needle) := by
  have hiff : needle <:+: f.text ↔ ∃ name ∈ f.names, needle <:+: name := by
    unfold NodeFlags.text
    split_ifs with hnil
    · simpa [hnil] using hno
    · exact infix_intercalate hcomma hne f.names
  rw [Bool.eq_iff_iff,List.any_eq_true]
  simpa [contains] using hiff

def NodeFlags.failing (f : NodeFlags) : Bool := f.pfail || f.fail || f.noaddr

theorem NodeFlags.contains_myself (f : NodeFlags) :
    contains f.text "myself".toList = f.myself := by
  rw [f.contains_text (by decide) (by decide) (by decide),f.names_any]
  simp +decide [contains]

theorem NodeFlags.contains_master (f : NodeFlags) :
    contains f.text "master".toList = decide (f.role = .master) := by
  rw [f.contains_text (by decide) (by decide) (by decide),f.names_any]
  simp +decide [contains]

/-- The test for `fail` also matches `nofailover`. -/
theorem NodeFlags.contains_fail (f : NodeFlags) :
    contains f.text "fail".toList = (f.pfail || f.fail || f.nofailover) := by
  rw [f.contains_text (by decide) (by decide) (by decide),f.names_any]
  simp +decide [contains]

theorem NodeFlags.contains_noaddr (f : NodeFlags) :
    contains f.text "noaddr".toList = f.noaddr := by
  rw [f.contains_text (by decide) (by decide) (by decide),f.names_any]
  simp +decide [contains]

def NodeLine.counted (r : NodeLine) : Bool :=
  !r.flags.myself && r.flags.role = .master && !(r.flags.failing || r.flags.nofailover)

theorem flagsField_words {id addr flags : Text} (hid : ' ' ∉ id) (haddr : ' ' ∉ addr) (hflags : ' ' ∉ flags)
    (rest : Text) :
    flagsField (id ++ ' ' :: (addr ++ ' ' :: (flags ++ ' ' :: rest))) = some (flags.take 63) := by
  have hword : ∀ {w : Text}, ' ' ∉ w → ∀ c ∈ w, (c == ' ') = false := by
    intro w hw c hc
    have hne : c ≠ ' ' := fun heq => hw (heq ▸ hc)
    simpa using hne
  unfold flagsField
  rw [List.splitOnP_append_cons_of_forall_mem (hword hid) _ (by decide),
    List.splitOnP_append_cons_of_forall_mem (hword haddr) _ (by decide),
    List.splitOnP_append_cons_of_forall_mem (hword hflags) _ (by decide)]

theorem countsLine_text (r : NodeLine) : countsLine r.text = r.counted := by
  have hspace : ∀ {w : Text}, (∀ c ∈ w, c ≠ ' ' ∧ c ≠ '\n') → ' ' ∉ w := fun hw hc => (hw _ hc).1 rfl
  have hflags := r.flags.text_word
  have hfield : flagsField r.text = some r.flags.text := by
    have hcut := flagsField_words (hspace r.id_word) (hspace r.addr_word) (hspace hflags.2) r.rest
    rwa [List.take_of_length_le hflags.1] at hcut
  simp only [countsLine,hfield,NodeFlags.contains_myself,NodeFlags.contains_master,
    NodeFlags.contains_fail,NodeFlags.contains_noaddr,NodeLine.counted,NodeFlags.failing]
  cases r.flags.pfail <;> cases r.flags.fail <;> cases r.flags.noaddr <;>
    cases r.flags.nofailover <;> rfl

theorem NodeLine.text_line (r : NodeLine) : ∀ c ∈ r.text, (c == '\n') = false := by
  intro c hc
  simp only [NodeLine.text,List.mem_append,List.mem_cons] at hc
  simp only [beq_eq_false_iff_ne]
  rcases hc with h | rfl | h | rfl | h | rfl | h
  · exact (r.id_word c h).2
  · decide
  · exact (r.addr_word c h).2
  · decide
  · exact (r.flags.text_word.2 c h).2
  · decide
  · exact r.rest_line c h

theorem healthyOtherPrimaries_lines {lines : List Text} (h : ∀ l ∈ lines, '\n' ∉ l) :
    healthyOtherPrimaries (lines.flatMap (fun l => l ++ ['\n'])) = lines.countP countsLine := by
  have hlast : countsLine [] = false := by decide
  have hsplit := splitOn_lines h
  rw [List.splitOn_eq_splitOnP] at hsplit
  unfold healthyOtherPrimaries
  rw [hsplit,List.countP_append]
  simp [hlast]

theorem healthyOtherPrimaries_text (lines : List NodeLine) :
    healthyOtherPrimaries (lines.flatMap (fun r => r.text ++ ['\n'])) =
      lines.countP NodeLine.counted := by
  have hline : ∀ l ∈ lines.map NodeLine.text, '\n' ∉ l := by
    intro l hl hmem
    obtain ⟨r,-,rfl⟩ := List.mem_map.mp hl
    exact absurd (r.text_line _ hmem) (by decide)
  have hcount := healthyOtherPrimaries_lines hline
  rw [List.flatMap_map,List.countP_map] at hcount
  rw [hcount]
  exact List.countP_congr (fun r _ => by rw [Function.comp_apply,countsLine_text])

def NodeLine.isMaster (r : NodeLine) : Bool := r.flags.role = .master

def NodeLine.otherHealthy (r : NodeLine) : Bool :=
  r.isMaster && !r.flags.myself && !r.flags.failing

def NodeLine.otherFailing (r : NodeLine) : Bool :=
  r.isMaster && !r.flags.myself && r.flags.failing

def PrimaryNodes.masters (v : PrimaryNodes) : Nat := v.lines.countP NodeLine.isMaster

def PrimaryNodes.healthyOthers (v : PrimaryNodes) : Nat := v.lines.countP NodeLine.otherHealthy

def PrimaryNodes.failingOthers (v : PrimaryNodes) : Nat := v.lines.countP NodeLine.otherFailing

theorem countP_masters (lines : List NodeLine) :
    lines.countP NodeLine.isMaster =
      lines.countP (fun r => r.flags.myself && r.isMaster) +
        lines.countP NodeLine.otherHealthy + lines.countP NodeLine.otherFailing := by
  induction lines with
  | nil => rfl
  | cons r lines ih =>
    simp only [List.countP_cons,ih,NodeLine.otherHealthy,NodeLine.otherFailing]
    by_cases hm : r.isMaster <;> by_cases hs : r.flags.myself <;>
      by_cases hf : r.flags.failing <;> simp [hm,hs,hf] <;> omega

theorem PrimaryNodes.masters_eq (v : PrimaryNodes) :
    v.masters = 1 + v.healthyOthers + v.failingOthers := by
  have hself : v.lines.countP (fun r => r.flags.myself && r.isMaster) = 1 := by
    rw [← v.oneself]
    refine List.countP_congr (fun r hr => ?_)
    cases hm : r.flags.myself with
    | false => simp
    | true => simp [NodeLine.isMaster,v.primary r hr hm]
  have hsplit := countP_masters v.lines
  rw [hself] at hsplit
  exact hsplit

def SafeCalls.StateOK (i : SafeCalls) : Prop :=
  ∃ cinfo, i.clusterInfo = some cinfo ∧
    parseFieldStr cinfo "cluster_state".toList 16 = "ok".toList

def SafeCalls.connectedSlaves (i : SafeCalls) : Int :=
  (i.replication.map (fun rinfo => parseFieldLL rinfo "connected_slaves".toList)).getD (-1)

/-- INFO replication does not call the node a replica. -/
def SafeCalls.OnPrimary (i : SafeCalls) : Prop :=
  ∀ rinfo, i.replication = some rinfo → parseFieldStr rinfo "role".toList 16 ≠ "slave".toList

theorem operatorClusterSafe_primary {i : SafeCalls} {v : PrimaryNodes} (hrole : i.OnPrimary)
    (hnodes : i.nodes = some v.text) :
    (operatorClusterSafe i).1 = 1 ↔
      i.StateOK ∧ 0 < i.connectedSlaves ∧ 2 ≤ v.lines.countP NodeLine.counted := by
  have hcount : healthyOtherPrimaries v.text = v.lines.countP NodeLine.counted :=
    healthyOtherPrimaries_text v.lines
  have hno : (0 : Int) ≠ 1 := by decide
  unfold operatorClusterSafe
  cases hc : i.clusterInfo with
  | none =>
    refine iff_of_false hno (fun h => ?_)
    obtain ⟨⟨cinfo,hsome,-⟩,-⟩ := h
    rw [hc] at hsome
    cases hsome
  | some cinfo =>
    have hstate : i.StateOK ↔ parseFieldStr cinfo "cluster_state".toList 16 = "ok".toList := by
      simp only [SafeCalls.StateOK,hc,Option.some.injEq,exists_eq_left']
    rw [hstate]
    dsimp only
    split_ifs with hbad
    · exact iff_of_false hno (fun h => hbad h.1)
    · have hok := Decidable.not_not.mp hbad
      cases hr : i.replication with
      | none =>
        refine iff_of_false hno (fun h => ?_)
        have hslaves : i.connectedSlaves = -1 := by simp only [SafeCalls.connectedSlaves,hr]; rfl
        omega
      | some rinfo =>
        have hslaves : i.connectedSlaves = parseFieldLL rinfo "connected_slaves".toList := by
          simp only [SafeCalls.connectedSlaves,hr]
          rfl
        rw [hslaves]
        dsimp only
        rw [if_neg (hrole rinfo hr)]
        split_ifs with hnone
        · exact iff_of_false hno (fun h => by omega)
        · rw [hnodes]
          dsimp only
          rw [hcount]
          split_ifs with hfew
          · exact iff_of_false hno (fun h => by omega)
          · exact iff_of_true rfl ⟨hok, by omega, by omega⟩

/-- The reply keeps the majority unless it lets the node stop while the failing
others are about as many as the healthy ones: the threshold does not grow with
the number of shards. -/
theorem clusterSafe_majority_iff {i : SafeCalls} {v : PrimaryNodes} (hrole : i.OnPrimary)
    (hnodes : i.nodes = some v.text) :
    ((operatorClusterSafe i).1 = 1 → v.masters < 2*v.healthyOthers) ↔
      (i.StateOK → 0 < i.connectedSlaves → 2 ≤ v.lines.countP NodeLine.counted →
        2*v.failingOthers + 2 < v.masters) := by
  have hmasters := v.masters_eq
  have hiff : v.masters < 2*v.healthyOthers ↔ 2*v.failingOthers + 2 < v.masters := by
    omega
  rw [operatorClusterSafe_primary hrole hnodes,hiff]
  constructor
  · intro h hok hslaves htwo
    exact h ⟨hok, hslaves, htwo⟩
  · intro h hsafe
    exact h hsafe.1 hsafe.2.1 hsafe.2.2

def masterFlags : NodeFlags := ⟨false, .master, false, false, false, false, false⟩

def shardLine (n : Fin 10) (flags : NodeFlags) : NodeLine where
  id := List.replicate 40 (Char.ofNat (97 + n))
  addr := "10.0.0.".toList ++ Char.ofNat (48 + n) :: ":6379@16379".toList
  flags := flags
  rest := "- 0 1700000000000 1 connected 0-5460".toList
  id_word := by
    intro c hc
    rw [List.eq_of_mem_replicate hc]
    clear hc
    revert n
    decide
  addr_word := by
    refine plain_iff.mp ?_
    revert n
    decide
  rest_line := by simp

def safeCalls (v : PrimaryNodes) : SafeCalls where
  clusterInfo := some "cluster_state:ok\r\ncluster_slots_assigned:16384\r\n".toList
  replication := some "# Replication\r\nrole:master\r\nconnected_slaves:1\r\n".toList
  nodes := some v.text

theorem safeCalls_ok (v : PrimaryNodes) :
    (safeCalls v).StateOK ∧ (safeCalls v).OnPrimary ∧ (safeCalls v).connectedSlaves = 1 := by
  refine ⟨⟨_, rfl, by decide⟩, ?_, rfl⟩
  intro rinfo h
  rw [← Option.some.inj h]
  decide

def threeHealthy : PrimaryNodes where
  lines := [shardLine 1 { masterFlags with myself := true }, shardLine 2 masterFlags,
    shardLine 3 masterFlags]
  oneself := rfl
  primary := by decide

theorem threeHealthy_majority :
    (operatorClusterSafe (safeCalls threeHealthy)).1 = 1 ∧
      threeHealthy.masters < 2*threeHealthy.healthyOthers := by
  obtain ⟨hok,hrole,hslaves⟩ := safeCalls_ok threeHealthy
  have hsafe : (operatorClusterSafe (safeCalls threeHealthy)).1 = 1 :=
    (operatorClusterSafe_primary hrole rfl).mpr ⟨hok, by rw [hslaves]; decide, by decide⟩
  exact ⟨hsafe, (clusterSafe_majority_iff hrole rfl).mpr (fun _ _ _ => by decide) hsafe⟩

def twoSuspected : PrimaryNodes where
  lines := [shardLine 1 { masterFlags with myself := true }, shardLine 2 masterFlags,
    shardLine 3 masterFlags, shardLine 4 { masterFlags with pfail := true },
    shardLine 5 { masterFlags with pfail := true }]
  oneself := rfl
  primary := by decide

theorem twoSuspected_stops :
    ¬ ((operatorClusterSafe (safeCalls twoSuspected)).1 = 1 →
      twoSuspected.masters < 2*twoSuspected.healthyOthers) := by
  obtain ⟨hok,hrole,hslaves⟩ := safeCalls_ok twoSuspected
  have hsafe : (operatorClusterSafe (safeCalls twoSuspected)).1 = 1 :=
    (operatorClusterSafe_primary hrole rfl).mpr ⟨hok, by rw [hslaves]; decide, by decide⟩
  intro h
  have hmajority := h hsafe
  revert hmajority
  decide

end ValkeyOperator
