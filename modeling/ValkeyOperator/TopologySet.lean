import ValkeyOperator.ModuleText
import ValkeyOperator.Repair

/-!
OPERATOR.TOPOLOGY.SET on the server: how the module reads the operator's payload, which
peers it meets and which primary it replicates.
-/

set_option autoImplicit false

namespace ValkeyOperator
open TextScan

def maxPeers : Nat := 64
def maxAddrLen : Nat := 64

def fieldPattern (field : Text) : Text := '"' :: (field ++ ['"'])

/-- From behind the field's name on, without blanks and colons. -/
def jsonValue (json field : Text) : Option Text :=
  (strstr (fieldPattern field) json).map (fun p =>
    (p.drop (fieldPattern field).length).dropWhile (fun c => c == ' ' || c == '\t' || c == ':'))

/-- What is in the buffer afterwards, and whether the closing quote was reached. The
buffers start empty, and the callers do not look at the result. -/
def jsonExtractString (json field : Text) (buflen : Nat) : Text × Bool :=
  match jsonValue json field with
  | some ('"' :: value) =>
    let buf := (value.takeWhile (fun c => c ≠ '"')).take (buflen - 1)
    (buf, (value.drop buf.length).head? == some '"')
  | _ => ([], false)

/-- The loop over the entries; the number is the room that is left. -/
def readStrings : Nat → Text → List Text
  | 0, _ => []
  | room + 1, p =>
    if p = [] ∨ p.head? = some ']' then []
    else
      match p.dropWhile (fun c => c == ' ' || c == '\t' || c == '\n' || c == ',') with
      | '"' :: value =>
        let addr := (value.takeWhile (fun c => c ≠ '"')).take (maxAddrLen - 1)
        match value.drop addr.length with
        | '"' :: rest => addr :: readStrings room rest
        | rest => addr :: readStrings room rest
      | _ => []

def jsonExtractArrayStrings (json field : Text) (maxCount : Nat) : Option (List Text) :=
  match jsonValue json field with
  | some ('[' :: p) => some (readStrings maxCount p)
  | _ => none

structure TopologyFields where
  role : Text
  primaryAddr : Text
  peers : List Text
  deriving DecidableEq, Repr

def parseTopology (json : Text) : TopologyFields where
  role := (jsonExtractString json "role".toList 16).1
  primaryAddr := (jsonExtractString json "primary_addr".toList maxAddrLen).1
  peers := (jsonExtractArrayStrings json "peers".toList maxPeers).getD []

/-- At the last colon; an ip that does not fit its buffer is an error. -/
def splitAddr (addr : Text) (ipLen portLen : Nat) : Option (Text × Text) :=
  if ':' ∈ addr then
    let ip := (addr.rdropWhile (fun c => c ≠ ':')).dropLast
    if ip.length ≥ ipLen then none
    else some (ip, (addr.rtakeWhile (fun c => c ≠ ':')).take (portLen - 1))
  else none

def nextLine (p : Text) : Text := (p.dropWhile (fun c => c ≠ '\n')).tail

/-- The scan for addresses up to the @, with the room that is left in the table. Each
round goes to the next line, so that as many rounds as characters are enough. -/
def knownLoop : Nat → Nat → Text → List Text
  | 0, _, _ => []
  | rounds + 1, room, line =>
    if line = [] ∨ room = 0 ∨ ' ' ∉ line then []
    else
      let addrStart := (line.dropWhile (fun c => c ≠ ' ')).tail
      let addr := addrStart.takeWhile (fun c => c ≠ '@')
      if '@' ∈ addrStart ∧ 0 < addr.length ∧ addr.length < maxAddrLen then
        addr :: knownLoop rounds (room - 1) (nextLine line)
      else knownLoop rounds room (nextLine line)

def knownAddrTable (nodes : Option Text) : List Text :=
  match nodes with
  | none => []
  | some nodes => knownLoop nodes.length maxPeers nodes

/-- The first line with the address decides, whatever its flags are. -/
def nodeIDLoop (target : Text) : Nat → Text → Option Text
  | 0, _ => none
  | rounds + 1, line =>
    if line = [] ∨ ' ' ∉ line then none
    else
      let id := line.takeWhile (fun c => c ≠ ' ')
      let addrStart := (line.dropWhile (fun c => c ≠ ' ')).tail
      if ' ' ∉ addrStart then none
      else
        let addr :=
          if '@' ∈ addrStart then addrStart.takeWhile (fun c => c ≠ '@')
          else addrStart.takeWhile (fun c => c ≠ ' ')
        if addr.length < maxAddrLen ∧ addr = target then
          if id.length < 64 then some id else none
        else nodeIDLoop target rounds (nextLine (addrStart.dropWhile (fun c => c ≠ ' ')))

def getNodeIDForAddr (nodes : Option Text) (target : Text) : Option Text :=
  match nodes with
  | none => none
  | some nodes => nodeIDLoop target nodes.length nodes

def isAlreadyReplicaOf (info : Option Text) (primaryIP : Text) : Bool :=
  match info with
  | none => false
  | some info =>
    let isSlave := contains info "\nrole:slave\r".toList || contains info "\nrole:slave\n".toList
    let correctMaster := contains info ("\nmaster_host:".toList ++ primaryIP ++ ['\r']) ||
      contains info ("\nmaster_host:".toList ++ primaryIP ++ ['\n'])
    isSlave && correctMaster

/-- What the server answers to the module's calls. `replicateErr` is the error of CLUSTER
REPLICATE, if there is one. -/
structure TopologyCalls where
  meetNodes : Option Text
  meetOK : Text × Text → Bool
  replication : Option Text
  replicateNodes : Option Text
  replicateErr : Option Text

structure TopologyOutcome where
  ok : Int
  message : Text
  meets : List (Text × Text)
  replicate : Option Text
  meetCount : Nat
  deriving DecidableEq, Repr

def meetCalls (known peers : List Text) : List (Text × Text) :=
  (peers.filter (fun peer => !known.contains peer)).filterMap
    (fun peer => splitAddr peer maxAddrLen 16)

def operatorTopologySet (calls : TopologyCalls) (json : Text) : TopologyOutcome :=
  let f := parseTopology json
  if f.role = [] then ⟨0, "missing required field: role".toList, [], none, 0⟩
  else if f.role = "replica".toList ∧ f.primaryAddr = [] then
    ⟨0, "missing required field: primary_addr (required for replica)".toList, [], none, 0⟩
  else
    let meets := meetCalls (knownAddrTable calls.meetNodes) f.peers
    let meetCount := meets.countP calls.meetOK
    if f.role = "replica".toList then
      let primaryIP := ((splitAddr f.primaryAddr maxAddrLen 16).map (·.1)).getD []
      if primaryIP ≠ [] ∧ isAlreadyReplicaOf calls.replication primaryIP = true then
        ⟨1, "ok".toList, meets, none, meetCount⟩
      else
        match getNodeIDForAddr calls.replicateNodes f.primaryAddr with
        | none =>
          ⟨0, "primary node ID not yet known — retry after gossip converges".toList, meets, none,
            meetCount⟩
        | some nodeID =>
          match calls.replicateErr with
          | some err => ⟨0, err, meets, some nodeID, meetCount⟩
          | none => ⟨1, "ok".toList, meets, some nodeID, meetCount⟩
    else ⟨1, "ok".toList, meets, none, meetCount⟩

def addrChar (c : Char) : Bool :=
  c.isDigit || ('a' ≤ c && c ≤ 'f') || ('A' ≤ c && c ≤ 'F') || c == '.' || c == ':'

structure IsAddress (a : Text) : Prop where
  nonempty : a ≠ []
  chars : a.all addrChar = true
  colon : ':' ∈ a
  fits : a.length < maxAddrLen

theorem IsAddress.not_mem {a : Text} (h : IsAddress a) {c : Char} (hc : addrChar c = false) : c ∉ a := by
  intro hmem
  have hall := List.all_eq_true.mp h.chars c hmem
  rw [hc] at hall
  cases hall

def primaryPayload (addrs : List Text) : Text :=
  "\x7b\"peers\":".toList ++ peersJSON addrs ++ ",\"role\":\"primary\"\x7d".toList

def replicaRolePayload (addrs : List Text) (primaryAddr : Text) : Text :=
  "\x7b\"peers\":".toList ++ peersJSON addrs ++ ",\"role\":\"replica\",\"primary_addr\":\"".toList ++
    primaryAddr ++ "\"\x7d".toList

theorem gossipPayload_eq (vc : ValkeyCluster) (pods : List Pod) :
    gossipPayload vc pods = primaryPayload (pods.map (podAddr vc)) := by
  unfold gossipPayload primaryPayload buildGossipPeersJSON peersJSON
  rw [List.map_map]
  rfl

def payloadPeers (vc : ValkeyCluster) (nodesRaw : Text) : List Text :=
  ((parseClusterNodes nodesRaw).filter (fun n => decide (n.ip ≠ []) && !hasNoaddr n.flags)).map
    (fun n => nodeAddr vc n.ip)

theorem replicaPayload_eq (vc : ValkeyCluster) (nodesRaw ip : Text) :
    replicaPayload vc nodesRaw ip = replicaRolePayload (payloadPeers vc nodesRaw) (nodeAddr vc ip) := by
  rfl

/-- The peers up to and with the comma behind them: no key of the payload starts there. -/
def peersPart (addrs : List Text) : Text := peersJSON addrs ++ [',']

theorem peersPart_not_mem {addrs : List Text} (h : ∀ a ∈ addrs, IsAddress a) {c : Char}
    (hc : addrChar c = false) (hsep : c ∉ ['[',']',',','"']) : c ∉ peersPart addrs := by
  simp only [List.mem_cons,List.not_mem_nil,or_false,not_or] at hsep
  obtain ⟨hopen,hclose,hcomma,hquote⟩ := hsep
  have hparts : c ∉ [','].intercalate (addrs.map quoted) := by
    refine not_mem_intercalate hcomma (fun t ht => ?_)
    obtain ⟨a,ha,rfl⟩ := List.mem_map.mp ht
    simp [quoted,hquote,(h a ha).not_mem hc]
  simp [peersPart,peersJSON,hopen,hclose,hcomma,hparts]

theorem peersPart_last (addrs : List Text) : (peersPart addrs).getLast? ≠ some '"' := by
  simp [peersPart]

theorem strstr_behind_peers {addrs : List Text} (h : ∀ a ∈ addrs, IsAddress a) {x : Char}
    {needle : Text} (hx : addrChar x = false) (hsep : x ∉ ['[',']',',','"'])
    (hkey : ∀ X, strstr ('"' :: x :: needle) ("\x7b\"peers\":".toList ++ X) =
      strstr ('"' :: x :: needle) X) (rest : Text) :
    strstr ('"' :: x :: needle) ("\x7b\"peers\":".toList ++ (peersPart addrs ++ rest)) =
      strstr ('"' :: x :: needle) rest := by
  rw [hkey]
  exact strstr_skip (peersPart_not_mem h hx hsep) (peersPart_last addrs) rest

theorem jsonValue_role {addrs : List Text} (h : ∀ a ∈ addrs, IsAddress a) (rest : Text) :
    jsonValue ("\x7b\"peers\":".toList ++ (peersPart addrs ++ ("\"role\":\"".toList ++ rest)))
      "role".toList = some ('"' :: rest) := by
  have hfind : strstr (fieldPattern "role".toList)
      ("\x7b\"peers\":".toList ++ (peersPart addrs ++ ("\"role\":\"".toList ++ rest))) =
      strstr (fieldPattern "role".toList) ("\"role\":\"".toList ++ rest) :=
    strstr_behind_peers h (by decide) (by decide) (fun _ => rfl) _
  unfold jsonValue
  rw [hfind]
  rfl

theorem jsonValue_primaryAddr {addrs : List Text} (h : ∀ a ∈ addrs, IsAddress a) (rest : Text) :
    jsonValue ("\x7b\"peers\":".toList ++ (peersPart addrs ++
      ("\"role\":\"replica\",\"primary_addr\":\"".toList ++ rest))) "primary_addr".toList =
      some ('"' :: rest) := by
  have hfind : strstr (fieldPattern "primary_addr".toList)
      ("\x7b\"peers\":".toList ++ (peersPart addrs ++
        ("\"role\":\"replica\",\"primary_addr\":\"".toList ++ rest))) =
      strstr (fieldPattern "primary_addr".toList)
        ("\"role\":\"replica\",\"primary_addr\":\"".toList ++ rest) :=
    strstr_behind_peers h (by decide) (by decide) (fun _ => rfl) _
  unfold jsonValue
  rw [hfind]
  rfl

theorem jsonValue_noPrimaryAddr {addrs : List Text} (h : ∀ a ∈ addrs, IsAddress a) :
    jsonValue ("\x7b\"peers\":".toList ++ (peersPart addrs ++ "\"role\":\"primary\"\x7d".toList))
      "primary_addr".toList = none := by
  have hfind : strstr (fieldPattern "primary_addr".toList)
      ("\x7b\"peers\":".toList ++ (peersPart addrs ++ "\"role\":\"primary\"\x7d".toList)) =
      strstr (fieldPattern "primary_addr".toList) "\"role\":\"primary\"\x7d".toList :=
    strstr_behind_peers h (by decide) (by decide) (fun _ => rfl) _
  unfold jsonValue
  rw [hfind]
  rfl

theorem jsonExtractString_fits {json field value rest : Text} {buflen : Nat}
    (hjson : jsonValue json field = some ('"' :: (value ++ '"' :: rest))) (hq : '"' ∉ value)
    (hlen : value.length < buflen) : jsonExtractString json field buflen = (value, true) := by
  unfold jsonExtractString
  simp only [hjson,takeWhile_until hq,List.take_of_length_le (show value.length ≤ buflen - 1 by omega)]
  simp

theorem readStrings_entry {a : Text} (ha : IsAddress a) {seps : Text} (hseps : seps = [] ∨ seps = [','])
    (room : Nat) (rest : Text) :
    readStrings (room + 1) (seps ++ '"' :: (a ++ '"' :: rest)) = a :: readStrings room rest := by
  have hq : '"' ∉ a := ha.not_mem (by decide)
  have hfits : a.length ≤ maxAddrLen - 1 := Nat.le_sub_one_of_lt ha.fits
  have hbody : (seps ++ '"' :: (a ++ '"' :: rest)).dropWhile
      (fun c => c == ' ' || c == '\t' || c == '\n' || c == ',') = '"' :: (a ++ '"' :: rest) := by
    rcases hseps with rfl | rfl <;> rfl
  have hgoes : ¬ (seps ++ '"' :: (a ++ '"' :: rest) = [] ∨
      (seps ++ '"' :: (a ++ '"' :: rest)).head? = some ']') := by
    rcases hseps with rfl | rfl <;> simp
  rw [readStrings,if_neg hgoes,hbody]
  simp only [takeWhile_until hq,List.take_of_length_le hfits,List.drop_left]

theorem readStrings_more {addrs : List Text} (h : ∀ a ∈ addrs, IsAddress a) (room : Nat)
    (rest : Text) :
    readStrings room (addrs.flatMap (fun a => ',' :: quoted a) ++ ']' :: rest) = addrs.take room := by
  induction addrs generalizing room with
  | nil => cases room <;> simp [readStrings]
  | cons a addrs ih =>
    cases room with
    | zero => simp [readStrings]
    | succ room =>
      have hentry := readStrings_entry (h a (by simp)) (.inr rfl) room
        (addrs.flatMap (fun a => ',' :: quoted a) ++ ']' :: rest)
      have hshape : (a :: addrs).flatMap (fun a => ',' :: quoted a) ++ ']' :: rest =
          [','] ++ '"' :: (a ++ '"' :: (addrs.flatMap (fun a => ',' :: quoted a) ++ ']' :: rest)) := by
        simp [quoted]
      rw [hshape,hentry,ih (fun b hb => h b (by simp [hb]))]
      rfl

theorem intercalate_quoted (a : Text) (addrs : List Text) :
    [','].intercalate ((a :: addrs).map quoted) =
      quoted a ++ addrs.flatMap (fun b => ',' :: quoted b) := by
  induction addrs generalizing a with
  | nil => simp
  | cons b addrs ih =>
    have hnext := ih b
    rw [List.map_cons] at hnext
    rw [List.map_cons,List.map_cons,List.intercalate_cons_cons,hnext]
    simp

theorem jsonExtractArrayStrings_peers {addrs : List Text} (h : ∀ a ∈ addrs, IsAddress a)
    (maxCount : Nat) (rest : Text) :
    jsonExtractArrayStrings ("\x7b\"peers\":".toList ++ (peersPart addrs ++ rest)) "peers".toList
      maxCount = some (addrs.take maxCount) := by
  have hvalue : jsonValue ("\x7b\"peers\":".toList ++ (peersPart addrs ++ rest)) "peers".toList =
      some ('[' :: ([','].intercalate (addrs.map quoted) ++ ']' :: ',' :: rest)) := by
    have hshape : peersPart addrs ++ rest =
        '[' :: ([','].intercalate (addrs.map quoted) ++ ']' :: ',' :: rest) := by
      simp [peersPart,peersJSON]
    rw [hshape]
    rfl
  have hread : readStrings maxCount ([','].intercalate (addrs.map quoted) ++ ']' :: ',' :: rest) =
      addrs.take maxCount := by
    cases addrs with
    | nil => cases maxCount <;> simp [readStrings]
    | cons a addrs =>
      cases maxCount with
      | zero => simp [readStrings]
      | succ room =>
        have hentry := readStrings_entry (h a (by simp)) (.inl rfl) room
          (addrs.flatMap (fun b => ',' :: quoted b) ++ ']' :: ',' :: rest)
        have hshape : [','].intercalate ((a :: addrs).map quoted) ++ ']' :: ',' :: rest =
            [] ++ '"' :: (a ++ '"' :: (addrs.flatMap (fun b => ',' :: quoted b) ++ ']' :: ',' :: rest)) := by
          rw [intercalate_quoted]
          simp [quoted]
        rw [hshape,hentry,readStrings_more (fun b hb => h b (by simp [hb]))]
        rfl
  unfold jsonExtractArrayStrings
  simp only [hvalue,hread]

theorem primaryPayload_parts (addrs : List Text) :
    primaryPayload addrs = "\x7b\"peers\":".toList ++ (peersPart addrs ++
      "\"role\":\"primary\"\x7d".toList) := by
  unfold primaryPayload peersPart
  rw [List.append_assoc,List.append_assoc (peersJSON addrs)]
  rfl

theorem replicaRolePayload_parts (addrs : List Text) (primaryAddr : Text) :
    replicaRolePayload addrs primaryAddr = "\x7b\"peers\":".toList ++ (peersPart addrs ++
      ("\"role\":\"replica\",\"primary_addr\":\"".toList ++ (primaryAddr ++ "\"\x7d".toList))) := by
  unfold replicaRolePayload peersPart
  rw [List.append_assoc,List.append_assoc,List.append_assoc,List.append_assoc (peersJSON addrs)]
  rfl

theorem parseTopology_primary {addrs : List Text} (h : ∀ a ∈ addrs, IsAddress a) :
    parseTopology (primaryPayload addrs) = ⟨"primary".toList, [], addrs.take maxPeers⟩ := by
  have hvalue : jsonValue (primaryPayload addrs) "role".toList =
      some ('"' :: ("primary".toList ++ '"' :: "\x7d".toList)) := by
    rw [primaryPayload_parts]
    exact jsonValue_role h ("primary\"\x7d".toList)
  have hrole : jsonExtractString (primaryPayload addrs) "role".toList 16 = ("primary".toList, true) :=
    jsonExtractString_fits hvalue (by decide) (by decide)
  have haddr : jsonExtractString (primaryPayload addrs) "primary_addr".toList maxAddrLen =
      ([], false) := by
    unfold jsonExtractString
    rw [primaryPayload_parts,jsonValue_noPrimaryAddr h]
  have hpeers : jsonExtractArrayStrings (primaryPayload addrs) "peers".toList maxPeers =
      some (addrs.take maxPeers) := by
    rw [primaryPayload_parts]
    exact jsonExtractArrayStrings_peers h maxPeers _
  unfold parseTopology
  rw [hrole,haddr,hpeers]
  rfl

theorem parseTopology_replica {addrs : List Text} (h : ∀ a ∈ addrs, IsAddress a)
    {primaryAddr : Text} (hp : IsAddress primaryAddr) :
    parseTopology (replicaRolePayload addrs primaryAddr) =
      ⟨"replica".toList, primaryAddr, addrs.take maxPeers⟩ := by
  have hroleValue : jsonValue (replicaRolePayload addrs primaryAddr) "role".toList =
      some ('"' :: ("replica".toList ++ '"' ::
        (",\"primary_addr\":\"".toList ++ (primaryAddr ++ "\"\x7d".toList)))) := by
    rw [replicaRolePayload_parts]
    exact jsonValue_role h ("replica\",\"primary_addr\":\"".toList ++ (primaryAddr ++ "\"\x7d".toList))
  have hrole : jsonExtractString (replicaRolePayload addrs primaryAddr) "role".toList 16 =
      ("replica".toList, true) :=
    jsonExtractString_fits hroleValue (by decide) (by decide)
  have haddrValue : jsonValue (replicaRolePayload addrs primaryAddr) "primary_addr".toList =
      some ('"' :: (primaryAddr ++ '"' :: "\x7d".toList)) := by
    rw [replicaRolePayload_parts]
    exact jsonValue_primaryAddr h (primaryAddr ++ "\"\x7d".toList)
  have haddr : jsonExtractString (replicaRolePayload addrs primaryAddr) "primary_addr".toList
      maxAddrLen = (primaryAddr, true) :=
    jsonExtractString_fits haddrValue (hp.not_mem (by decide)) hp.fits
  have hpeers : jsonExtractArrayStrings (replicaRolePayload addrs primaryAddr) "peers".toList
      maxPeers = some (addrs.take maxPeers) := by
    rw [replicaRolePayload_parts]
    exact jsonExtractArrayStrings_peers h maxPeers _
  unfold parseTopology
  rw [hrole,haddr,hpeers]
  rfl

theorem operatorTopologySet_other {json role primaryAddr : Text} {peers : List Text}
    (h : parseTopology json = ⟨role, primaryAddr, peers⟩) (hrole : role ≠ [])
    (hother : role ≠ "replica".toList) (calls : TopologyCalls) :
    (operatorTopologySet calls json).replicate = none ∧
      (operatorTopologySet calls json).meets = meetCalls (knownAddrTable calls.meetNodes) peers := by
  unfold operatorTopologySet
  rw [h]
  dsimp only
  rw [if_neg hrole,if_neg (fun hboth => hother hboth.1),if_neg hother]
  exact ⟨rfl, rfl⟩

theorem operatorTopologySet_replica {json role primaryAddr : Text} {peers : List Text}
    (h : parseTopology json = ⟨role, primaryAddr, peers⟩) (hrole : role ≠ [])
    (hreplica : role = "replica".toList) (hne : primaryAddr ≠ []) (calls : TopologyCalls) :
    (operatorTopologySet calls json).meets = meetCalls (knownAddrTable calls.meetNodes) peers ∧
      (operatorTopologySet calls json).replicate =
        if ((splitAddr primaryAddr maxAddrLen 16).map (·.1)).getD [] ≠ [] ∧
          isAlreadyReplicaOf calls.replication
            (((splitAddr primaryAddr maxAddrLen 16).map (·.1)).getD []) = true then none
        else getNodeIDForAddr calls.replicateNodes primaryAddr := by
  unfold operatorTopologySet
  rw [h]
  dsimp only
  rw [if_neg hrole,if_neg (fun hboth => hne hboth.2),if_pos hreplica]
  split
  · exact ⟨rfl, rfl⟩
  · cases getNodeIDForAddr calls.replicateNodes primaryAddr with
    | none => exact ⟨rfl, rfl⟩
    | some nodeID => cases calls.replicateErr <;> exact ⟨rfl, rfl⟩

/-- What the Go side writes is what the module reads, up to its 64 peers, and a gossip
recovery leaves the replication as it is. -/
theorem topology_payload_read (addrs : List Text) (primaryAddr : Text)
    (h : ∀ a ∈ addrs, IsAddress a) (hp : IsAddress primaryAddr) :
    parseTopology (primaryPayload addrs) = ⟨"primary".toList, [], addrs.take maxPeers⟩ ∧
      parseTopology (replicaRolePayload addrs primaryAddr) =
        ⟨"replica".toList, primaryAddr, addrs.take maxPeers⟩ ∧
      (∀ (vc : ValkeyCluster) (nodesRaw ip : Text), payloadPeers vc nodesRaw = addrs →
        nodeAddr vc ip = primaryAddr →
        replicaPayload vc nodesRaw ip = replicaRolePayload addrs primaryAddr) ∧
      ∀ (vc : ValkeyCluster) (pods : List Pod), pods.map (podAddr vc) = addrs →
        gossipPayload vc pods = primaryPayload addrs ∧
        ∀ calls : TopologyCalls, (operatorTopologySet calls (gossipPayload vc pods)).replicate = none := by
  refine ⟨parseTopology_primary h, parseTopology_replica h hp, ?_, ?_⟩
  · intro vc nodesRaw ip hpeers hprimary
    rw [replicaPayload_eq,hpeers,hprimary]
  · intro vc pods hpods
    have hpayload : gossipPayload vc pods = primaryPayload addrs := by
      rw [gossipPayload_eq,hpods]
    refine ⟨hpayload, fun calls => ?_⟩
    rw [hpayload]
    exact (operatorTopologySet_other (parseTopology_primary h) (by decide) (by decide) calls).1

instance (a : Text) : Decidable (IsAddress a) :=
  decidable_of_iff (a ≠ [] ∧ a.all addrChar = true ∧ ':' ∈ a ∧ a.length < maxAddrLen)
    ⟨fun h => ⟨h.1, h.2.1, h.2.2.1, h.2.2.2⟩, fun h => ⟨h.nonempty, h.chars, h.colon, h.fits⟩⟩

theorem twoPeers_read :
    parseTopology (replicaRolePayload ["10.0.0.1:6379".toList, "fd00::2:6379".toList]
      "10.0.0.1:6379".toList) =
      ⟨"replica".toList, "10.0.0.1:6379".toList, ["10.0.0.1:6379".toList, "fd00::2:6379".toList]⟩ :=
  (topology_payload_read ["10.0.0.1:6379".toList, "fd00::2:6379".toList] "10.0.0.1:6379".toList
    (by decide) (by decide)).2.1

end ValkeyOperator
