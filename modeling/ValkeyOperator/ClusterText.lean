import ValkeyOperator.ClusterObject

/-! The operator's readers of CLUSTER INFO and CLUSTER NODES. -/

set_option autoImplicit false

namespace ValkeyOperator
open TextScan

/-- Valkey sends a verbatim string with a three-letter format and a colon in front. -/
def stripVerbatimPrefix (s : Text) : Text :=
  match splitBytes 3 s with
  | some (format, ':' :: d :: rest) => if '\n' ∈ format then s else d :: rest
  | _ => s

theorem stripVerbatimPrefix_cases (s : Text) : stripVerbatimPrefix s = s ∨
    ∃ format rest, s = format ++ ':' :: rest ∧ (utf8 format).length = 3 ∧ '\n' ∉ format ∧
      stripVerbatimPrefix s = rest := by
  unfold stripVerbatimPrefix
  split
  · rename_i format d rest hsplit
    split
    · exact .inl rfl
    · rename_i hline
      obtain ⟨hs,hlen⟩ := splitBytes_eq hsplit
      exact .inr ⟨format, d :: rest, hs, hlen, hline, rfl⟩
  · exact .inl rfl

theorem stripVerbatimPrefix_cut {format rest : Text} (hlen : (utf8 format).length = 3)
    (hline : '\n' ∉ format) (hrest : rest ≠ []) : stripVerbatimPrefix (format ++ ':' :: rest) = rest := by
  obtain ⟨d,rest,rfl⟩ := List.exists_cons_of_ne_nil hrest
  have hsplit := splitBytes_append format (':' :: d :: rest)
  rw [hlen] at hsplit
  unfold stripVerbatimPrefix
  rw [hsplit]
  exact if_neg hline

theorem stripVerbatimPrefix_front {s : Text} (h : ':' ∉ s.take 4) : stripVerbatimPrefix s = s := by
  rcases stripVerbatimPrefix_cases s with hs | ⟨format,rest,rfl,hlen,-,-⟩
  · exact hs
  · have hshort := length_le_utf8 format
    exact absurd (mem_take_append_cons (by omega) ':' rest) h

def lines (s : Text) : List Text := ((stripVerbatimPrefix s).splitOn '\n').map trimSpace

def findField (info key : Text) : Option Text :=
  (lines info).findSome? (fun line => (cutPrefix line key).map trimSpace)

def parseClusterInfoField (info field : Text) : Text :=
  (findField info (field ++ [':'])).getD []

def parseClusterInfoInt (info field : Text) : Int :=
  match findField info (field ++ [':']) with
  | none => 0
  | some val => (parseInt64 val).getD 0

def splitAddrIP (atPart : Text) : Text :=
  if ':' ∈ atPart then ((atPart.rdropWhile (· ≠ ':')).dropLast) else atPart

def addrIP (addrRaw : Text) : Text := splitAddrIP (addrRaw.takeWhile (· ≠ '@'))

/-- The hostname stands between the first two commas of the bus part. -/
def addrHostname (addrRaw : Text) : Text :=
  match addrRaw.dropWhile (· ≠ '@') with
  | [] => []
  | _ :: busPart =>
    match busPart.dropWhile (· ≠ ',') with
    | [] => []
    | _ :: after => after.takeWhile (· ≠ ',')

structure ClusterNodeState where
  id : Text
  ip : Text
  hostname : Text
  flags : Text
  masterID : Text
  slots : Text
  deriving DecidableEq, Repr

def parseNodeLine (line : Text) : Option ClusterNodeState :=
  match fields line with
  | id :: addrRaw :: flags :: masterID :: _ :: _ :: _ :: _ :: slots =>
    some ⟨id, addrIP addrRaw, addrHostname addrRaw, flags, masterID, [' '].intercalate slots⟩
  | _ => none

def parseClusterNodes (nodesRaw : Text) : List ClusterNodeState :=
  (lines nodesRaw).filterMap parseNodeLine

theorem parseClusterNodes_lines (nodesRaw : Text) :
    parseClusterNodes nodesRaw =
      ((stripVerbatimPrefix nodesRaw).splitOn '\n').filterMap parseNodeLine := by
  have hline : ∀ line, parseNodeLine (trimSpace line) = parseNodeLine line := by
    intro line
    unfold parseNodeLine
    rw [fields_trimSpace]
  unfold parseClusterNodes lines
  rw [List.filterMap_map]
  exact List.filterMap_congr (fun line _ => hline line)

structure NodeRoleEntry where
  role : Role
  ip : Text
  hostname : Text
  deriving DecidableEq, Repr

def hasMaster (flags : Text) : Bool := contains flags "master".toList
def hasSlave (flags : Text) : Bool := contains flags "slave".toList
def hasNoaddr (flags : Text) : Bool := contains flags "noaddr".toList

/-- The test all health checks share; "fail?" passes it as well. -/
def isFailing (flags : Text) : Bool := contains flags "fail".toList || hasNoaddr flags

def flagsRole (flags : Text) : Option Role :=
  if hasMaster flags then some .primary
  else if hasSlave flags then some .replica
  else none

def parseRoleLine (line : Text) : Option NodeRoleEntry :=
  match fields line with
  | _ :: addrRaw :: flags :: _ =>
    (flagsRole flags).map (fun role => ⟨role, addrIP addrRaw, addrHostname addrRaw⟩)
  | _ => none

def parseNodeRoles (nodesRaw : Text) : List NodeRoleEntry :=
  (lines nodesRaw).filterMap parseRoleLine

/-- A Go map filled in order: the last entry with a key stays. -/
def lastRole (key : NodeRoleEntry → Text) (entries : List NodeRoleEntry) (name : Text) :
    Option Role :=
  if name = [] then none else (entries.reverse.find? (fun e => key e = name)).map (·.role)

def ipToRole (entries : List NodeRoleEntry) (ip : Text) : Option Role :=
  lastRole (·.ip) entries ip

def hostnameToRole (entries : List NodeRoleEntry) (hostname : Text) : Option Role :=
  lastRole (·.hostname) entries hostname

/-- A CLUSTER NODES view. Node IDs have 40 digits, so that the operator's
`id[:8]` in messages never reaches past the end. -/
structure NodesView where
  nodes : List ClusterNodeState
  ids : ∀ n ∈ nodes, n.id.length = 40

example : parseClusterInfoField "txt:cluster_state:ok\r\ncluster_slots_assigned:16384\r\n".toList
    "cluster_state".toList = "ok".toList := by decide +kernel

example : parseClusterInfoInt "cluster_state:fail\r\ncluster_slots_assigned:12\r\n".toList
    "cluster_slots_assigned".toList = 12 := by decide +kernel

example : parseClusterNodes
    "07c 10.0.0.1:6379@16379,vk-0,shard-id=1 myself,master - 0 0 1 connected 0-5 7".toList =
    [⟨"07c".toList, "10.0.0.1".toList, "vk-0".toList, "myself,master".toList, ['-'],
      "0-5 7".toList⟩] := by decide +kernel

/-! Lines of CLUSTER NODES for concrete runs. -/

def nodeID (digit : Char) : Text := List.replicate 40 digit

def announcedHostname (digit : Char) : Text :=
  "vk-".toList ++ digit :: ".vk-internal.db.svc.cluster.local".toList

def entryText (id ip : Char) (flags : String) (master : Text) (slots : String) : Text :=
  nodeID id ++ " 10.0.0.".toList ++ ip :: ":6379@16379,".toList ++ announcedHostname id ++
    ' ' :: flags.toList ++ ' ' :: master ++ " 0 1700000000000 1 connected".toList ++ slots.toList ++
    ['\n']

end ValkeyOperator
