import ValkeyOperator.ModuleText

/-!
OPERATOR.NODE.READY, the readiness probe of a pod, and what it answers on a replica whose
primary is gone.
-/

set_option autoImplicit false

namespace ValkeyOperator
open TextScan

/-- `none` is a call that fails; an entry of ACL LIST that is no string is `none` too. -/
structure ReadyCalls where
  replication : Option Text
  aclList : Option (List (Option Text))
  clusterInfo : Option Text

/-- Any account that is on, but for the default and the operator's. -/
def activeAppUser (entry : Text) : Bool :=
  if "user default ".toList.isPrefixOf entry then false
  else if "user operator ".toList.isPrefixOf entry then false
  else contains entry " on ".toList || (decide (8 < entry.length) && " on".toList.isSuffixOf entry)

def counter (cinfo field : Text) : Int :=
  let n := parseFieldLL cinfo field
  if n < 0 then 0 else n

def primaryBlocks (cinfo : Text) : Option Text :=
  let slotsAssigned := counter cinfo "cluster_slots_assigned".toList
  let slotsOK := counter cinfo "cluster_slots_ok".toList
  if parseFieldStr cinfo "cluster_state".toList 16 ≠ "ok".toList then
    some "cluster_state is not ok — gossip not converged".toList
  else if slotsAssigned ≠ slotsOK then
    some ("slots not fully ok: assigned=".toList ++ (toString slotsAssigned).toList ++ " ok=".toList ++
      (toString slotsOK).toList)
  else none

def replicaBlocks (rinfo : Text) : Option Text :=
  let masterReplOffset := parseFieldLL rinfo "master_repl_offset".toList
  let slaveReplOffset := parseFieldLL rinfo "slave_repl_offset".toList
  let linkUp := parseFieldStr rinfo "master_link_status".toList 16 = "up".toList
  if parseFieldLL rinfo "master_sync_in_progress".toList = 1 then
    some "full resync in progress — replica not yet caught up".toList
  else if slaveReplOffset = 0 ∧ ¬ linkUp then
    some "initial sync not complete — replica has no data yet".toList
  else if linkUp ∧ masterReplOffset > 0 ∧ slaveReplOffset ≥ 0 ∧ masterReplOffset - slaveReplOffset > 1024 then
    some ("replication lag ".toList ++ (toString (masterReplOffset - slaveReplOffset)).toList ++
      " bytes — not fully synced".toList)
  else none

/-- While no slot is assigned anywhere the checks of both roles are left out. -/
def roleBlocks (role rinfo cinfo : Text) : Option Text :=
  if counter cinfo "cluster_slots_assigned".toList = 0 then none
  else if role = "master".toList then primaryBlocks cinfo
  else if role = "slave".toList then replicaBlocks rinfo
  else none

def operatorNodeReady (i : ReadyCalls) : Int × Text :=
  match i.replication with
  | none => (0, "ERR failed to call INFO replication".toList)
  | some rinfo =>
    let role := parseFieldStr rinfo "role".toList 16
    if role = [] then (0, "role not yet determined".toList)
    else match i.aclList with
      | none => (0, "ERR failed to call ACL LIST".toList)
      | some entries =>
        if !entries.any (fun entry => entry.any activeAppUser) then
          (0, "ACL not yet applied — no active application user".toList)
        else match i.clusterInfo with
          | none => (0, "ERR failed to call CLUSTER INFO".toList)
          | some cinfo =>
            let slotsFail := counter cinfo "cluster_slots_fail".toList
            if slotsFail > 0 then
              (0, "cluster has ".toList ++ (toString slotsFail).toList ++ " slot(s) in fail state".toList)
            else
              match roleBlocks role rinfo cinfo with
              | some msg => (0, msg)
              | none => (1, "ready".toList)

/-- The first place with the name of the field is the field, with this value. -/
def Shows (info field value : Text) : Prop :=
  ∃ after, strstr field info = some (field ++ ':' :: (value ++ '\r' :: after))

theorem Shows.fieldValue {info field value : Text} (h : Shows info field value) :
    ∃ after, ValkeyOperator.fieldValue info field = some (value ++ '\r' :: after) := by
  obtain ⟨after,hfound⟩ := h
  refine ⟨after, ?_⟩
  unfold ValkeyOperator.fieldValue
  rw [hfound]
  simp

theorem Shows.parseFieldStr {info field value : Text} (h : Shows info field value) {buflen : Nat}
    (hline : ∀ c ∈ value, c ≠ '\r' ∧ c ≠ '\n') (hfits : value.length < buflen) :
    parseFieldStr info field buflen = value := by
  obtain ⟨after,hvalue⟩ := h.fieldValue
  have htake : (value ++ '\r' :: after).takeWhile (fun c => c ≠ '\r' && c ≠ '\n') = value := by
    rw [List.takeWhile_append_of_pos (fun c hc => by simpa using hline c hc)]
    simp
  unfold ValkeyOperator.parseFieldStr
  rw [hvalue]
  dsimp only
  rw [htake,List.take_of_length_le (by omega)]

theorem Shows.parseFieldLL {info field value : Text} (h : Shows info field value) (hne : value ≠ [])
    (hdigits : ∀ c ∈ value, c.isDigit = true) : parseFieldLL info field = clampLL (leadingDigits 0 value) := by
  obtain ⟨after,hvalue⟩ := h.fieldValue
  unfold ValkeyOperator.parseFieldLL
  rw [hvalue]
  exact congrArg clampLL (signedNumber_digits hne hdigits (by simp))

def ActiveEntry (entry : Text) : Prop :=
  ∃ name rules, name ≠ [] ∧ ' ' ∉ name ∧ name ≠ "default".toList ∧ name ≠ "operator".toList ∧
    entry = "user ".toList ++ (name ++ (" on".toList ++ rules)) ∧ (rules = [] ∨ rules.head? = some ' ')

theorem not_prefix_entry {account name tail : Text} (hname : ' ' ∉ name) (haccount : ' ' ∉ account)
    (hne : name ≠ account) :
    ("user ".toList ++ (account ++ [' '])).isPrefixOf ("user ".toList ++ (name ++ ' ' :: tail)) = false := by
  rw [← Bool.not_eq_true,List.isPrefixOf_iff_prefix,List.prefix_append_right_inj]
  rintro ⟨rest,heq⟩
  rw [List.append_assoc,List.singleton_append] at heq
  have hfirst := congrArg (List.takeWhile (fun c => c ≠ ' ')) heq
  rw [takeWhile_until haccount,takeWhile_until hname] at hfirst
  exact hne hfirst.symm

theorem ActiveEntry.activeAppUser {entry : Text} (h : ActiveEntry entry) :
    activeAppUser entry = true := by
  obtain ⟨name,rules,hsome,hname,hdefault,hoperator,rfl,hrules⟩ := h
  have hno : "user default ".toList.isPrefixOf ("user ".toList ++ (name ++ (" on".toList ++ rules))) = false :=
    not_prefix_entry hname (by decide) hdefault
  have hnot : "user operator ".toList.isPrefixOf ("user ".toList ++ (name ++ (" on".toList ++ rules))) = false :=
    not_prefix_entry hname (by decide) hoperator
  unfold ValkeyOperator.activeAppUser
  rw [if_neg (Bool.eq_false_iff.mp hno),if_neg (Bool.eq_false_iff.mp hnot),Bool.or_eq_true]
  rcases hrules with rfl | hblank
  · right
    have hlen := List.length_pos_of_ne_nil hsome
    rw [Bool.and_eq_true,decide_eq_true_eq,List.isSuffixOf_iff_suffix]
    refine ⟨?_, ⟨"user ".toList ++ name, by simp⟩⟩
    simp only [List.length_append,List.append_nil]
    have : "user ".toList.length = 5 := rfl
    have : " on".toList.length = 3 := rfl
    omega
  · left
    obtain ⟨tail,rfl⟩ : ∃ tail, rules = ' ' :: tail := by
      cases rules with
      | nil => cases hblank
      | cons c tail => exact ⟨tail, by rw [Option.some.inj hblank]⟩
    rw [contains,decide_eq_true_eq]
    exact ⟨"user ".toList ++ name, tail, by simp⟩

/-- A replica that has data, whose primary is gone: the replies of its server. -/
structure StrandedReplica where
  replication : Text
  aclList : List (Option Text)
  clusterInfo : Text
  offset : Text
  role : Shows replication "role".toList "slave".toList
  sync : Shows replication "master_sync_in_progress".toList ['0']
  offset_shown : Shows replication "slave_repl_offset".toList offset
  offset_digits : ∀ c ∈ offset, c.isDigit = true
  offset_pos : 0 < leadingDigits 0 offset
  link : Shows replication "master_link_status".toList "down".toList
  user : ∃ entry, some entry ∈ aclList ∧ ActiveEntry entry

def StrandedReplica.calls (r : StrandedReplica) : ReadyCalls :=
  ⟨some r.replication, some r.aclList, some r.clusterInfo⟩

theorem StrandedReplica.replicaBlocks (r : StrandedReplica) : replicaBlocks r.replication = none := by
  have hsync : parseFieldLL r.replication "master_sync_in_progress".toList = 0 :=
    r.sync.parseFieldLL (by decide) (List.all_eq_true.mp (by decide))
  have hoffset : parseFieldLL r.replication "slave_repl_offset".toList ≠ 0 := by
    have hpos := r.offset_pos
    rw [r.offset_shown.parseFieldLL (fun hnil => by simp [hnil,leadingDigits] at hpos) r.offset_digits]
    unfold clampLL
    split_ifs <;> omega
  have hlink : parseFieldStr r.replication "master_link_status".toList 16 ≠ "up".toList := by
    rw [r.link.parseFieldStr (by simp) (by decide)]
    decide
  unfold ValkeyOperator.replicaBlocks
  dsimp only
  rw [hsync,if_neg (by decide),if_neg (fun h => hoffset h.1),if_neg (fun h => hlink h.1)]

/-- The replica stays ready as long as no slot of the cluster counts as failed. Once its
primary does, the slots of that primary are. -/
theorem strandedReplica_ready_iff (r : StrandedReplica) :
    (operatorNodeReady r.calls).1 = 1 ↔ parseFieldLL r.clusterInfo "cluster_slots_fail".toList ≤ 0 := by
  have hrole : parseFieldStr r.replication "role".toList 16 = "slave".toList :=
    r.role.parseFieldStr (by simp) (by decide)
  have huser : r.aclList.any (fun entry => entry.any activeAppUser) = true := by
    obtain ⟨entry,hmem,hactive⟩ := r.user
    exact List.any_eq_true.mpr ⟨some entry, hmem, hactive.activeAppUser⟩
  have hother : "slave".toList ≠ "master".toList := by decide
  have hblocks : roleBlocks "slave".toList r.replication r.clusterInfo = none := by
    unfold roleBlocks
    rw [r.replicaBlocks,if_neg hother,if_pos rfl,ite_self]
  have hfail : counter r.clusterInfo "cluster_slots_fail".toList > 0 ↔
      ¬ parseFieldLL r.clusterInfo "cluster_slots_fail".toList ≤ 0 := by
    unfold counter
    dsimp only
    split_ifs with hneg <;> omega
  unfold operatorNodeReady StrandedReplica.calls
  dsimp only
  rw [hrole,if_neg (by decide),huser,hblocks]
  simp only [Bool.not_true,Bool.false_eq_true,if_false]
  split_ifs with hslots
  · exact iff_of_false (by simp) (hfail.mp hslots)
  · exact iff_of_true rfl (Decidable.not_not.mp (fun h => hslots (hfail.mpr h)))

theorem shows_of_isPrefixOf {info field value : Text}
    (h : (strstr field info).any (fun p => (field ++ ':' :: (value ++ ['\r'])).isPrefixOf p) = true) :
    Shows info field value := by
  unfold Shows
  cases hfound : strstr field info with
  | none => simp [hfound] at h
  | some p =>
    rw [hfound,Option.any_some,List.isPrefixOf_iff_prefix] at h
    obtain ⟨after,rfl⟩ := h
    exact ⟨after, by simp⟩

def afterCrash : StrandedReplica where
  replication := "role:slave\r\n".toList ++ "master_link_status:down\r\n".toList ++
    "master_sync_in_progress:0\r\n".toList ++ "slave_repl_offset:4096\r\n".toList
  aclList := [some "user default off".toList, some "user app on #0f ~* &* +@all".toList]
  clusterInfo := "cluster_state:fail\r\n".toList ++ "cluster_slots_assigned:16384\r\n".toList ++
    "cluster_slots_ok:10923\r\n".toList ++ "cluster_slots_fail:5461\r\n".toList
  offset := "4096".toList
  role := shows_of_isPrefixOf (by decide +kernel)
  sync := shows_of_isPrefixOf (by decide +kernel)
  offset_shown := shows_of_isPrefixOf (by decide +kernel)
  offset_digits := List.all_eq_true.mp (by decide)
  offset_pos := by decide
  link := shows_of_isPrefixOf (by decide +kernel)
  user := ⟨_, List.mem_cons_of_mem _ (List.mem_singleton.mpr rfl), "app".toList, " #0f ~* &* +@all".toList,
    by decide⟩

theorem afterCrash_not_ready : operatorNodeReady afterCrash.calls =
    (0, "cluster has 5461 slot(s) in fail state".toList) := by
  decide +kernel

end ValkeyOperator
