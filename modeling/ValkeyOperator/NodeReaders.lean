import ValkeyOperator.Election
import ValkeyOperator.NodesText

/-!
The operator's four readers of CLUSTER NODES: what the first one makes of a list of records as
a server prints them, and how the other three follow from it.
-/

set_option autoImplicit false

namespace ValkeyOperator
open TextScan

def isHexDigit (c : Char) : Bool := c.isDigit || ('a' ≤ c && c ≤ 'f') || ('A' ≤ c && c ≤ 'F')

/-- A line of CLUSTER NODES. The server does not check what an IP looks like. -/
structure NodeRecord where
  id : Text
  ip : Text
  port : Text
  busPort : Text
  hostname : Option Text
  aux : List Text
  flags : Text
  masterID : Text
  pingSent : Text
  pongRecv : Text
  configEpoch : Text
  linkState : Text
  slots : List Text
  id_length : id.length = 40
  id_hex : ∀ c ∈ id, isHexDigit c = true
  ip_chars : ∀ c ∈ ip, isSpace c = false ∧ c ≠ '@'
  port_digits : ∀ c ∈ port, c.isDigit = true
  bus_digits : ∀ c ∈ busPort, c.isDigit = true
  hostname_chars : ∀ c ∈ hostname.getD [], isSpace c = false ∧ c ≠ ','
  aux_chars : ∀ t ∈ aux, ∀ c ∈ t, isSpace c = false
  tokens : ∀ t ∈ flags :: masterID :: pingSent :: pongRecv :: configEpoch :: linkState :: slots, IsToken t

namespace NodeRecord
variable (n : NodeRecord)

/-- The fields behind the bus port: a hostname, perhaps empty, and then others. -/
def announced : Text :=
  match n.hostname with
  | none => []
  | some hostname => ',' :: [','].intercalate (hostname :: n.aux)

def addrRaw : Text := n.ip ++ ':' :: n.port ++ '@' :: n.busPort ++ n.announced

def fieldTexts : List Text :=
  n.id :: n.addrRaw :: n.flags :: n.masterID :: n.pingSent :: n.pongRecv :: n.configEpoch ::
    n.linkState :: n.slots

def text : Text := [' '].intercalate n.fieldTexts

def state : ClusterNodeState :=
  ⟨n.id, n.ip, n.hostname.getD [], n.flags, n.masterID, [' '].intercalate n.slots⟩

end NodeRecord

inductive NodesLine
  | record (n : NodeRecord)
  | blank (t : Text) (h : ∀ c ∈ t, isSpace c = true ∧ c ≠ '\n')

def NodesLine.text : NodesLine → Text
  | .record n => n.text
  | .blank t _ => t

def NodesLine.record? : NodesLine → Option NodeRecord
  | .record n => some n
  | .blank _ _ => none

/-- A text that ends with a line feed has an empty line at its end. -/
def render (ls : List NodesLine) : Text := ['\n'].intercalate (ls.map NodesLine.text)

theorem isSpace_of_isHexDigit {c : Char} (h : isHexDigit c = true) : isSpace c = false :=
  isSpace_of_addrChar (by simp only [isHexDigit,Bool.or_eq_true] at h; simp only [addrChar,Bool.or_eq_true,h,true_or])

namespace NodeRecord
variable (n : NodeRecord)

theorem port_not_mem {c : Char} (hc : c.isDigit = false) : c ∉ n.port := by
  intro hmem
  rw [n.port_digits c hmem] at hc
  cases hc

theorem bus_not_mem {c : Char} (hc : c.isDigit = false) : c ∉ n.busPort := by
  intro hmem
  rw [n.bus_digits c hmem] at hc
  cases hc

theorem not_mem_announced {c : Char} (h : isSpace c = true) : c ∉ n.announced := by
  have hcomma : c ≠ ',' := by
    rintro rfl
    exact absurd h (by decide)
  have hname : c ∉ n.hostname.getD [] := by
    intro hmem
    rw [(n.hostname_chars c hmem).1] at h
    cases h
  have haux : ∀ t ∈ n.aux, c ∉ t := by
    intro t ht hmem
    rw [n.aux_chars t ht c hmem] at h
    cases h
  unfold announced
  cases hh : n.hostname with
  | none => simp
  | some hostname =>
    rw [hh] at hname
    have hall : ∀ t ∈ hostname :: n.aux, c ∉ t := List.forall_mem_cons.mpr ⟨hname, haux⟩
    simp only [List.mem_cons,not_or]
    exact ⟨hcomma, not_mem_intercalate hcomma hall⟩

theorem addrRaw_token : IsToken n.addrRaw := by
  refine ⟨by simp [addrRaw], fun c hc => ?_⟩
  simp only [addrRaw,List.mem_append,List.mem_cons,List.append_assoc,List.cons_append] at hc
  rcases hc with hc | rfl | hc | rfl | hc | hc
  · exact (n.ip_chars c hc).1
  · decide
  · exact isSpace_digit (n.port_digits c hc)
  · decide
  · exact isSpace_digit (n.bus_digits c hc)
  · cases hs : isSpace c with
    | false => rfl
    | true => exact absurd hc (n.not_mem_announced hs)

theorem fieldTexts_token : ∀ t ∈ n.fieldTexts, IsToken t := by
  have hid : IsToken n.id := by
    refine ⟨fun hnil => ?_, fun c hc => isSpace_of_isHexDigit (n.id_hex c hc)⟩
    have hlen := n.id_length
    simp [hnil] at hlen
  exact List.forall_mem_cons.mpr ⟨hid, List.forall_mem_cons.mpr ⟨n.addrRaw_token, n.tokens⟩⟩

theorem no_newline : '\n' ∉ n.text :=
  not_mem_intercalate (by decide) (fun t ht => (n.fieldTexts_token t ht).newline)

theorem addrRaw_split : '@' ∉ n.ip ++ ':' :: n.port ∧
    n.addrRaw = (n.ip ++ ':' :: n.port) ++ '@' :: (n.busPort ++ n.announced) := by
  constructor
  · simp only [List.mem_append,List.mem_cons,not_or]
    exact ⟨fun h => (n.ip_chars _ h).2 rfl, by decide, n.port_not_mem (by decide)⟩
  · simp [addrRaw]

theorem addrIP_addrRaw : addrIP n.addrRaw = n.ip := by
  obtain ⟨hat,hshape⟩ := n.addrRaw_split
  unfold addrIP
  rw [hshape,takeWhile_until hat]
  unfold splitAddrIP
  rw [if_pos (by simp),rdropWhile_until (n.port_not_mem (by decide)),List.dropLast_concat]

theorem announced_name : (match (n.busPort ++ n.announced).dropWhile (fun c => c ≠ ',') with
    | [] => []
    | _ :: after => after.takeWhile (fun c => c ≠ ',')) = n.hostname.getD [] := by
  have hbus : ',' ∉ n.busPort := n.bus_not_mem (by decide)
  have hname : ',' ∉ n.hostname.getD [] := fun h => (n.hostname_chars _ h).2 rfl
  unfold announced
  cases hh : n.hostname with
  | none =>
    dsimp only
    rw [List.append_nil,dropWhile_without hbus]
    rfl
  | some hostname =>
    rw [hh,Option.getD_some] at hname
    dsimp only
    rw [dropWhile_until hbus]
    cases n.aux with
    | nil =>
      rw [List.intercalate_singleton]
      exact takeWhile_without hname
    | cons t aux =>
      rw [List.intercalate_cons_cons,List.append_assoc,List.singleton_append]
      exact takeWhile_until hname _

theorem addrHostname_addrRaw : addrHostname n.addrRaw = n.hostname.getD [] := by
  obtain ⟨hat,hshape⟩ := n.addrRaw_split
  unfold addrHostname
  rw [hshape,dropWhile_until hat]
  exact n.announced_name

theorem parseNodeLine_text : parseNodeLine n.text = some n.state := by
  unfold parseNodeLine text
  rw [fields_intercalate n.fieldTexts_token]
  simp only [fieldTexts,state,n.addrIP_addrRaw,n.addrHostname_addrRaw]

end NodeRecord

theorem NodesLine.parse (l : NodesLine) : parseNodeLine l.text = l.record?.map NodeRecord.state := by
  cases l with
  | record n => exact n.parseNodeLine_text
  | blank t h =>
    unfold parseNodeLine NodesLine.text
    rw [fields_blank (fun c hc => (h c hc).1)]
    rfl

theorem NodesLine.no_newline (l : NodesLine) : '\n' ∉ l.text := by
  cases l with
  | record n => exact n.no_newline
  | blank t h => exact fun hmem => (h _ hmem).2 rfl

theorem render_cons (l : NodesLine) (ls : List NodesLine) :
    ∃ rest, render (l :: ls) = l.text ++ rest ∧ (rest = [] ∨ rest = '\n' :: render ls) := by
  cases ls with
  | nil => exact ⟨[], by simp [render], .inl rfl⟩
  | cons l' ls => exact ⟨_, by simp [render,List.intercalate_cons_cons], .inr rfl⟩

theorem render_front (ls : List NodesLine) {k : Nat} (hk : k ≤ 40) :
    ∀ c ∈ (render ls).take k, isSpace c = true ∨ isHexDigit c = true := by
  induction ls generalizing k with
  | nil => simp [render]
  | cons l ls ih =>
    obtain ⟨rest,hrender,hrest⟩ := render_cons l ls
    intro c hc
    rw [hrender] at hc
    cases l with
    | record n =>
      have hid : NodesLine.text (.record n) = n.id ++ ' ' :: [' '].intercalate n.fieldTexts.tail := by
        simp [NodesLine.text,NodeRecord.text,NodeRecord.fieldTexts,List.intercalate_cons_cons]
      rw [hid,List.append_assoc,List.take_append_of_le_length (by rw [n.id_length]; exact hk)] at hc
      exact .inr (n.id_hex c (List.mem_of_mem_take hc))
    | blank t h =>
      rw [List.take_append] at hc
      rcases List.mem_append.mp hc with hc | hc
      · exact .inl (h c (List.mem_of_mem_take hc)).1
      · rcases hrest with rfl | rfl
        · simp at hc
        · cases hj : k - t.length with
          | zero => simp [NodesLine.text,hj] at hc
          | succ j =>
            simp only [NodesLine.text,hj,List.take_succ_cons,List.mem_cons] at hc
            rcases hc with rfl | hc
            · exact .inl (by decide)
            · exact ih (by omega) c hc

theorem stripVerbatimPrefix_render (ls : List NodesLine) : stripVerbatimPrefix (render ls) = render ls := by
  refine stripVerbatimPrefix_front (fun hmem => ?_)
  rcases render_front ls (by decide) ':' hmem with h | h
  · exact absurd h (by decide)
  · exact absurd h (by decide)

theorem parseClusterNodes_stripped {s : Text} {ls : List NodesLine} (h : stripVerbatimPrefix s = render ls) :
    parseClusterNodes s = (ls.filterMap NodesLine.record?).map NodeRecord.state := by
  rw [parseClusterNodes_lines,h]
  cases ls with
  | nil => decide
  | cons l ls =>
    have hsplit : (render (l :: ls)).splitOn '\n' = (l :: ls).map NodesLine.text := by
      refine List.splitOn_intercalate '\n' (fun t ht => ?_) (by simp)
      obtain ⟨m,-,rfl⟩ := List.mem_map.mp ht
      exact m.no_newline
    rw [hsplit,List.filterMap_map,List.map_filterMap]
    exact List.filterMap_congr (fun m _ => m.parse)

/-- Parsing undoes printing, behind the front of a verbatim string or without it. -/
theorem parseClusterNodes_render (ls : List NodesLine) (verbatim : Bool) :
    parseClusterNodes ((if verbatim then "txt:".toList else []) ++ render ls) =
      (ls.filterMap NodesLine.record?).map NodeRecord.state := by
  cases verbatim with
  | false => exact parseClusterNodes_stripped (stripVerbatimPrefix_render ls)
  | true =>
    cases hr : render ls with
    | nil =>
      -- the front alone is too short to be cut off; it is read as a line of one field
      have hempty : parseClusterNodes [] = _ := parseClusterNodes_stripped hr.symm
      rw [← hempty]
      decide
    | cons d rest => exact parseClusterNodes_stripped (by rw [hr]; rfl)

/-! The projections. -/

/-- What buildKnownAddrSets returns: the sets of the known addresses and names, without the empty
text. -/
def buildKnownAddrSets (nodesRaw : Text) : List Text × List Text :=
  ((knownAddrs nodesRaw).map (·.1) |>.filter (fun ip => ip ≠ []),
    (knownAddrs nodesRaw).map (·.2) |>.filter (fun hostname => hostname ≠ []))

def ClusterNodeState.roleEntry (n : ClusterNodeState) : Option NodeRoleEntry :=
  (flagsRole n.flags).map (fun role => ⟨role, n.ip, n.hostname⟩)

def addrSets (nodes : List ClusterNodeState) : List Text × List Text :=
  ((nodes.map (·.ip)).filter (fun ip => ip ≠ []), (nodes.map (·.hostname)).filter (fun h => h ≠ []))

/-- A line that is blank or has all the fields up to the link state. -/
def WholeLine (line : Text) : Prop := line = [] ∨ 8 ≤ (fields line).length

theorem WholeLine.cases {line : Text} (h : WholeLine line) :
    fields line = [] ∨ ∃ id addrRaw flags masterID ping pong epoch link slots,
      fields line = id :: addrRaw :: flags :: masterID :: ping :: pong :: epoch :: link :: slots := by
  rcases h with rfl | h
  · exact .inl rfl
  · right
    match hf : fields line with
    | id :: addrRaw :: flags :: masterID :: ping :: pong :: epoch :: link :: slots =>
      exact ⟨id, addrRaw, flags, masterID, ping, pong, epoch, link, slots, rfl⟩
    | [] => simp [hf] at h
    | [_] => simp [hf] at h
    | [_,_] => simp [hf] at h
    | [_,_,_] => simp [hf] at h
    | [_,_,_,_] => simp [hf] at h
    | [_,_,_,_,_] => simp [hf] at h
    | [_,_,_,_,_,_] => simp [hf] at h
    | [_,_,_,_,_,_,_] => simp [hf] at h

instance (line : Text) : Decidable (WholeLine line) := inferInstanceAs (Decidable (_ ∨ _))

def knownLine (line : Text) : Option (Text × Text) :=
  match fields line with
  | _ :: addrRaw :: flags :: _ =>
    if hasNoaddr flags then none else some (addrIP addrRaw, addrHostname addrRaw)
  | _ => none

theorem WholeLine.readers {line : Text} (h : WholeLine line) :
    parseRoleLine line = (parseNodeLine line).bind ClusterNodeState.roleEntry ∧
    parseReplicationLine line =
      (parseNodeLine line).map (fun n => ⟨n.ip, n.hostname, n.flags, n.masterID⟩) ∧
    knownLine line = (parseNodeLine line).bind (fun n =>
      if hasNoaddr n.flags then none else some (n.ip, n.hostname)) := by
  rcases h.cases with hf | ⟨id,addrRaw,flags,masterID,ping,pong,epoch,link,slots,hf⟩
  · simp [parseRoleLine,parseReplicationLine,knownLine,parseNodeLine,hf]
  · simp [parseRoleLine,parseReplicationLine,knownLine,parseNodeLine,ClusterNodeState.roleEntry,hf]

section
variable {nodesRaw : Text} (h : ∀ line ∈ lines nodesRaw, WholeLine line)
include h

theorem parseNodeRoles_project :
    parseNodeRoles nodesRaw = (parseClusterNodes nodesRaw).filterMap ClusterNodeState.roleEntry := by
  unfold parseNodeRoles parseClusterNodes
  rw [List.filterMap_filterMap]
  exact List.filterMap_congr (fun line hline => (h line hline).readers.1)

theorem replicationEntries_project : replicationEntries nodesRaw =
    (parseClusterNodes nodesRaw).map (fun n => ⟨n.ip, n.hostname, n.flags, n.masterID⟩) := by
  unfold replicationEntries parseClusterNodes
  rw [List.map_filterMap]
  exact List.filterMap_congr (fun line hline => (h line hline).readers.2.1)

theorem knownAddrs_project : knownAddrs nodesRaw =
    ((parseClusterNodes nodesRaw).filter (fun n => !hasNoaddr n.flags)).map
      (fun n => (n.ip, n.hostname)) := by
  have hlines : knownAddrs nodesRaw = (lines nodesRaw).filterMap knownLine := rfl
  have hfilter : ∀ ns : List ClusterNodeState,
      ns.filterMap (fun n => if hasNoaddr n.flags then none else some (n.ip, n.hostname)) =
        (ns.filter (fun n => !hasNoaddr n.flags)).map (fun n => (n.ip, n.hostname)) := by
    intro ns
    induction ns with
    | nil => rfl
    | cons n ns ih => cases hn : hasNoaddr n.flags <;> simp [hn,ih]
  rw [hlines,← hfilter]
  unfold parseClusterNodes
  rw [List.filterMap_filterMap]
  exact List.filterMap_congr (fun line hline => (h line hline).readers.2.2)

end

/-- The lists are equal entry by entry, and so are the sets that the source keeps them in. -/
theorem readers_project (nodesRaw masterNodeID : Text) (h : ∀ line ∈ lines nodesRaw, WholeLine line) :
    parseNodeRoles nodesRaw = (parseClusterNodes nodesRaw).filterMap ClusterNodeState.roleEntry ∧
    parseReplicaAddrsForMaster nodesRaw masterNodeID = addrSets ((parseClusterNodes nodesRaw).filter
      (fun n => hasSlave n.flags && decide (n.masterID = masterNodeID))) ∧
    buildKnownAddrSets nodesRaw =
      addrSets ((parseClusterNodes nodesRaw).filter (fun n => !hasNoaddr n.flags)) := by
  refine ⟨parseNodeRoles_project h, ?_, ?_⟩
  · have hslaves : (replicationEntries nodesRaw).filter (·.isSlaveOf masterNodeID) =
        ((parseClusterNodes nodesRaw).filter (fun n => hasSlave n.flags &&
          decide (n.masterID = masterNodeID))).map (fun n => ⟨n.ip, n.hostname, n.flags, n.masterID⟩) := by
      rw [replicationEntries_project h,List.filter_map]
      rfl
    unfold parseReplicaAddrsForMaster addrSets
    dsimp only
    rw [hslaves,List.map_map,List.map_map]
    rfl
  · unfold buildKnownAddrSets addrSets
    rw [knownAddrs_project h,List.map_map,List.map_map]
    rfl

theorem readers_project_reusedAddress :
    (∀ line ∈ lines reusedAddress, WholeLine line) ∧
    parseNodeRoles reusedAddress =
      (parseClusterNodes reusedAddress).filterMap ClusterNodeState.roleEntry := by
  have hlines : ∀ line ∈ lines reusedAddress, WholeLine line := by decide +kernel
  exact ⟨hlines, (readers_project reusedAddress [] hlines).1⟩

/-- The test of reconcileOrphanReplicas in terms of the two sets; its pods have an IP. -/
theorem knownAddrs_any {nodesRaw : Text} {vc : ValkeyCluster} {pod : Pod} (h : pod.podIP ≠ []) :
    (knownAddrs nodesRaw).any (fun a => a.1 = pod.podIP || a.2 = stableDNS vc pod) = true ↔
      pod.podIP ∈ (buildKnownAddrSets nodesRaw).1 ∨ stableDNS vc pod ∈ (buildKnownAddrSets nodesRaw).2 := by
  have hdns := stableDNS_ne_nil vc pod
  simp only [List.any_eq_true,Bool.or_eq_true,decide_eq_true_eq,buildKnownAddrSets,List.mem_filter,
    List.mem_map,h,hdns,not_false_eq_true,ne_eq,and_true]
  constructor
  · rintro ⟨a,ha,hip | hname⟩
    · exact .inl ⟨a, ha, hip⟩
    · exact .inr ⟨a, ha, hname⟩
  · rintro (⟨a,ha,hip⟩ | ⟨a,ha,hname⟩)
    · exact ⟨a, ha, .inl hip⟩
    · exact ⟨a, ha, .inr hname⟩

end ValkeyOperator
