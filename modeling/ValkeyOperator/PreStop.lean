import ValkeyOperator.Dialogue
import ValkeyOperator.ShellText
import ValkeyOperator.FlagNames
import ValkeyOperator.ShardStats

/-!
The PreStop hook of a pod: the questions its script asks through valkey-cli, what it reads out
of the answers, and in which order it hands a primary over.
-/

set_option autoImplicit false

namespace ValkeyOperator
open TextScan
open ShellText
open Dialogue

/-- A run of valkey-cli, with its standard output as the answer, or a sleep in milliseconds.
All but the failover go to the pod itself. -/
inductive HookCall
  | clusterSafe
  | infoReplication
  | clusterMyID
  | clusterNodes
  | clusterFailover (replicaIP replicaPort : Text)
  | failoverPrepare (timeoutMs : Int)
  | sleep (ms : Nat)
  deriving DecidableEq

/-- How grep matches a line. Letters, digits and blanks of a pattern stand for themselves. -/
structure Grep where
  hits : Text → Text → Bool
  literal : ∀ pattern line, pattern.all (fun c => c.isAlphanum || c == ' ') = true →
    hits pattern line = contains line pattern

def saysSafe (result : Text) : Bool :=
  (inputLines (capture result ++ ['\n'])).any (fun l => l.head? = some '1')

def roleOf (info : Text) : Text :=
  let lines := (inputLines info).filter (fun l => "role:".toList.isPrefixOf l)
  capture ((printLines (lines.map (cut ':' (fun fs => (fs.drop 1).take 1)))).filter (fun c => c ≠ '\r'))

def myIDOf (out : Text) : Text := capture (out.filter (fun c => c ≠ '\r'))

section
variable (g : Grep)

def replicaLine (myID line : Text) : Bool :=
  g.hits ("slave ".toList ++ myID) line && !(contains line "fail".toList || contains line "noaddr".toList)

def replicaAddr (myID nodes : Text) : Text :=
  let picked := ((inputLines nodes).filter (replicaLine g myID)).take 1
  capture (printLines (picked.map (fun l => cut '@' (fun fs => fs.take 1) (secondField l))))

def replicaIP (addr : Text) : Text := (cut ':' (fun fs => fs.drop 1) addr.reverse).reverse

def replicaPort (addr : Text) : Text := (cut ':' (fun fs => fs.take 1) addr.reverse).reverse

def clusterSafeMaxWait : Nat := 50

def preStopTimeoutMs (terminationGracePeriodSeconds : Int) : Int :=
  let gracePeriod := if terminationGracePeriodSeconds = 0 then 60 else terminationGracePeriodSeconds
  let timeoutMs := int64 ((gracePeriod - 5 - clusterSafeMaxWait) * 1000)
  if timeoutMs < 1000 then 1000 else timeoutMs

inductive HookEnd
  | replica | noReplica | swapped | unconfirmed
  deriving DecidableEq, Repr

def waitSafe : Prog HookCall Text (Option Unit) := do
  let result ← call .clusterSafe
  if saysSafe result then return some ()
  else
    let _ ← call (.sleep 1000)
    return none

def awaitSlave : Prog HookCall Text (Option Unit) := do
  let info ← call .infoReplication
  if roleOf info = "slave".toList then return some ()
  else
    let _ ← call (.sleep 100)
    return none

def handOver (timeoutMs : Int) (addr : Text) : Prog HookCall Text HookEnd := do
  let _ ← call (.clusterFailover (replicaIP addr) (replicaPort addr))
  let _ ← call (.failoverPrepare timeoutMs)
  let swapped ← upTo 50 awaitSlave
  return if swapped.isSome then .swapped else .unconfirmed

def preStopScript (timeoutMs : Int) : Prog HookCall Text HookEnd := do
  let _ ← upTo clusterSafeMaxWait waitSafe
  let info ← call .infoReplication
  if roleOf info ≠ "master".toList then return .replica
  else
    let myID ← call .clusterMyID
    let nodes ← call .clusterNodes
    let addr := replicaAddr g (myIDOf myID) nodes
    if addr = [] then return .noReplica
    else handOver timeoutMs addr

end

abbrev HookTalk := List (HookCall × Text)

def HookCall.pause : HookCall → Nat
  | .sleep ms => ms
  | _ => 0

def HookCall.handover : HookCall → Nat
  | .clusterFailover _ _ => 1
  | _ => 0

def HookCall.safePoll : HookCall → Nat
  | .clusterSafe => 1
  | _ => 0

def slept (t : HookTalk) : Nat := total HookCall.pause t

def handovers (t : HookTalk) : Nat := total HookCall.handover t

def safePolls (t : HookTalk) : Nat := total HookCall.safePoll t

theorem slept_concat (t : HookTalk) (k : HookCall) (r : Text) : slept (t ++ [(k, r)]) = slept t + k.pause :=
  total_concat _ t k r

theorem handovers_concat (t : HookTalk) (k : HookCall) (r : Text) :
    handovers (t ++ [(k, r)]) = handovers t + k.handover := total_concat _ t k r

theorem safePolls_concat (t : HookTalk) (k : HookCall) (r : Text) :
    safePolls (t ++ [(k, r)]) = safePolls t + k.safePoll := total_concat _ t k r

/-- What phase 1 waits for: the last answer says that the node may stop, or every poll is used up. -/
def Waited (past : HookTalk) : Prop :=
  (∃ front result, past = front ++ [(.clusterSafe, result)] ∧ saysSafe result = true) ∨
    (safePolls past = clusterSafeMaxWait ∧ slept past = 50000)

/-- The failover comes right after the questions that name its replica. -/
def Orderly (g : Grep) (timeoutMs : Int) (past : HookTalk) : HookCall → Prop
  | .clusterSafe => handovers past = 0
  | .clusterFailover ip port => handovers past = 0 ∧ ∃ waits info myID nodes,
      past = waits ++ [(.infoReplication, info), (.clusterMyID, myID), (.clusterNodes, nodes)] ∧
        Waited waits ∧ roleOf info = "master".toList ∧ replicaAddr g (myIDOf myID) nodes ≠ [] ∧
        ip = replicaIP (replicaAddr g (myIDOf myID) nodes) ∧
        port = replicaPort (replicaAddr g (myIDOf myID) nodes)
  | .failoverPrepare ms => ms = timeoutMs ∧
      ∃ before ip port r, past = before ++ [(.clusterFailover ip port, r)]
  | _ => True

structure Finished (g : Grep) (past : HookTalk) (e : HookEnd) : Prop where
  slept_le : slept past ≤ 55000
  handed : handovers past = if e = .swapped ∨ e = .unconfirmed then 1 else 0
  -- no line is left of the answer to CLUSTER NODES
  unfound : e = .noReplica → ∃ waits info myID nodes,
    past = waits ++ [(.infoReplication, info), (.clusterMyID, myID), (.clusterNodes, nodes)] ∧
      roleOf info = "master".toList ∧ replicaAddr g (myIDOf myID) nodes = []
  confirmed : e = .swapped → ∃ front info, past = front ++ [(.infoReplication, info)] ∧
    roleOf info = "slave".toList

section
variable {g : Grep} {timeoutMs : Int}

/-- With `n` polls left. -/
structure Waiting (n : Nat) (past : HookTalk) : Prop where
  polls : safePolls past + n = clusterSafeMaxWait
  slept_eq : slept past = 1000 * safePolls past
  handed : handovers past = 0

theorem waitSafe_meets {n : Nat} {past : HookTalk} (h : Waiting (n + 1) past) :
    Meets (Orderly g timeoutMs)
      (fun past r => r.elim (Waiting n past) (fun _ => Waited past ∧ slept past ≤ 50000 ∧ handovers past = 0))
      waitSafe past := by
  obtain ⟨hpolls,hslept,hhanded⟩ := h
  have hmax : clusterSafeMaxWait = 50 := rfl
  unfold waitSafe
  rw [meets_call]
  refine ⟨hhanded, fun result => ?_⟩
  split_ifs with hsafe
  · rw [meets_pure]
    refine ⟨.inl ⟨past, result, rfl, hsafe⟩, ?_, ?_⟩
    · simp only [slept_concat,HookCall.pause]
      omega
    · rw [handovers_concat,hhanded]
      rfl
  · rw [meets_call]
    refine ⟨trivial, fun r => ?_⟩
    rw [meets_pure]
    constructor
    · simp only [safePolls_concat,HookCall.safePoll]
      omega
    · simp only [slept_concat,safePolls_concat,HookCall.safePoll,HookCall.pause]
      omega
    · rw [handovers_concat,handovers_concat,hhanded]
      rfl

structure Swapping (n : Nat) (past : HookTalk) : Prop where
  rounds : n ≤ 50
  slept_le : slept past + 100 * n ≤ 55000
  handed : handovers past = 1

theorem awaitSlave_meets {n : Nat} {past : HookTalk} (h : Swapping (n + 1) past) :
    Meets (Orderly g timeoutMs)
      (fun past r => r.elim (Swapping n past) (fun _ => Finished g past .swapped)) awaitSlave past := by
  obtain ⟨hrounds,hslept,hhanded⟩ := h
  unfold awaitSlave
  rw [meets_call]
  refine ⟨trivial, fun info => ?_⟩
  split_ifs with hslave
  · rw [meets_pure]
    constructor
    · simp only [slept_concat,HookCall.pause]
      omega
    · rw [handovers_concat,hhanded]
      rfl
    · simp
    · intro _
      exact ⟨past, info, rfl, hslave⟩
  · rw [meets_call]
    refine ⟨trivial, fun r => ?_⟩
    rw [meets_pure]
    constructor
    · omega
    · simp only [slept_concat,HookCall.pause]
      omega
    · rw [handovers_concat,handovers_concat,hhanded]
      rfl

theorem handOver_meets {past : HookTalk} {addr : Text} (hslept : slept past ≤ 50000)
    (h : Orderly g timeoutMs past (.clusterFailover (replicaIP addr) (replicaPort addr))) :
    Meets (Orderly g timeoutMs) (Finished g) (handOver timeoutMs addr) past := by
  have hhanded : handovers past = 0 := h.1
  unfold handOver
  rw [meets_call]
  refine ⟨h, fun r => ?_⟩
  rw [meets_call]
  refine ⟨⟨rfl, past, _, _, r, rfl⟩, fun r' => ?_⟩
  refine Meets.bind (Meets.upTo Swapping
    (fun past swapped => Finished g past (if swapped.isSome then .swapped else .unconfirmed))
    (fun n past hn => awaitSlave_meets hn) ?_ ?_) ?_
  · intro past hend
    exact ⟨by have := hend.slept_le; omega, by simpa using hend.handed, by simp, by simp⟩
  · constructor
    · omega
    · simp only [slept_concat,HookCall.pause]
      omega
    · rw [handovers_concat,handovers_concat,hhanded]
      rfl
  · intro past swapped hend
    rw [meets_pure]
    exact hend

theorem quiet_concat {past : HookTalk} (k : HookCall) (r : Text) (hk : k.handover = 0) (hp : k.pause = 0)
    (h : slept past ≤ 50000 ∧ handovers past = 0) :
    slept (past ++ [(k, r)]) ≤ 50000 ∧ handovers (past ++ [(k, r)]) = 0 := by
  simpa [slept_concat,handovers_concat,hk,hp] using h

theorem preStopScript_meets (g : Grep) (timeoutMs : Int) :
    Meets (Orderly g timeoutMs) (Finished g) (preStopScript g timeoutMs) [] := by
  unfold preStopScript
  refine Meets.bind (Meets.upTo Waiting
    (fun past _ => Waited past ∧ slept past ≤ 50000 ∧ handovers past = 0)
    (fun n past hn => waitSafe_meets hn) ?_ ⟨rfl, rfl, rfl⟩) ?_
  · intro past hend
    obtain ⟨hpolls,hslept,hhanded⟩ := hend
    have hmax : clusterSafeMaxWait = 50 := rfl
    exact ⟨.inr ⟨hpolls, by omega⟩, by omega, hhanded⟩
  · intro waits _ hwaited
    obtain ⟨hwaits,hslept,hhanded⟩ := hwaited
    rw [meets_call]
    refine ⟨trivial, fun info => ?_⟩
    have hinfo := quiet_concat .infoReplication info rfl rfl ⟨hslept,hhanded⟩
    split_ifs with hrole
    · rw [meets_pure]
      exact ⟨by omega, by simpa using hinfo.2, by simp, by simp⟩
    · rw [meets_call]
      refine ⟨trivial, fun myID => ?_⟩
      have hmyID := quiet_concat .clusterMyID myID rfl rfl hinfo
      rw [meets_call]
      refine ⟨trivial, fun nodes => ?_⟩
      have hnodes := quiet_concat .clusterNodes nodes rfl rfl hmyID
      dsimp only
      split_ifs with hnone
      · rw [meets_pure]
        refine ⟨by omega, by simpa using hnodes.2, fun _ => ?_, by simp⟩
        exact ⟨waits, info, myID, nodes, by simp, Decidable.not_not.mp hrole, hnone⟩
      · refine handOver_meets hnodes.1 ⟨hnodes.2, waits, info, myID, nodes, by simp, hwaits, ?_, hnone, rfl, rfl⟩
        exact Decidable.not_not.mp hrole

end

/-- A line as the server prints it: behind the flags it holds hex digits, numbers, slots and
connected or disconnected. -/
structure ShownEntry extends FlagEntry where
  master_length : masterID.length ≤ 40
  behind : ∀ t ∈ masterID :: pingSent :: pongRecv :: configEpoch :: linkState :: slots, 'l' ∉ t ∧ 'r' ∉ t
  host : ¬ "slave".toList <:+ bus

/-- Standard output of valkey-cli, which ends an answer with a line feed of its own. -/
def cliText (answer : Text) : Text := answer ++ ['\n']

def shownText (ns : List ShownEntry) : Text := nodesText (ns.map (fun n => n.toNodeEntry))

def ShownEntry.hostFails (n : ShownEntry) : Bool :=
  contains n.bus "fail".toList || contains n.bus "noaddr".toList

/-- What the hook takes for a replica it can hand over to. -/
def ShownEntry.takesOver (myID : Text) (n : ShownEntry) : Bool :=
  n.names.getLast? = some .slave && myID.isPrefixOf n.masterID &&
    !(n.failing || n.has .nofailover || n.hostFails)

theorem isAlphanum_of_isHex {c : Char} (h : isHex c = true) : c.isAlphanum = true := by
  simp only [isHex,Bool.or_eq_true,Bool.and_eq_true,decide_eq_true_eq] at h
  rcases h with h | h
  · rw [Char.isAlphanum,h,Bool.or_true]
  · exact isAlphanum_iff.mpr (.inl (.inr ⟨h.1, UInt32.le_trans h.2 (by decide)⟩))

theorem Grep.slave_literal (g : Grep) {myID : Text} (hmyID : myID.all isHex = true) (line : Text) :
    g.hits ("slave ".toList ++ myID) line = contains line ("slave ".toList ++ myID) := by
  refine g.literal _ _ ?_
  rw [List.all_append,Bool.and_eq_true]
  refine ⟨by decide, List.all_eq_true.mpr (fun c hc => ?_)⟩
  rw [isAlphanum_of_isHex (List.all_eq_true.mp hmyID c hc)]
  rfl

namespace ShownEntry

theorem contains_behind (n : ShownEntry) {needle : Text} (h : 'l' ∈ needle ∨ 'r' ∈ needle) :
    ∀ t ∈ n.masterID :: n.pingSent :: n.pongRecv :: n.configEpoch :: n.linkState :: n.slots, ¬ needle <:+: t := by
  intro t ht hin
  obtain ⟨hl,hr⟩ := n.behind t ht
  rcases h with h | h
  · exact hl (hin.subset h)
  · exact hr (hin.subset h)

theorem contains_text (n : ShownEntry) {needle : Text} (hblank : ' ' ∉ needle) (hat : '@' ∉ needle)
    (hword : 'l' ∈ needle ∨ 'r' ∈ needle) :
    contains n.text needle = (contains n.bus needle || contains n.flags needle) := by
  have hne : needle ≠ [] := by
    rintro rfl
    simp at hword
  -- neither an id nor an endpoint has one of the two letters
  have hletter : ∀ t : Text, t.all addrChar = true → ¬ needle <:+: t := by
    intro t ht hin
    rcases hword with h | h
    · exact absurd (List.all_eq_true.mp ht _ (hin.subset h)) (by decide)
    · exact absurd (List.all_eq_true.mp ht _ (hin.subset h)) (by decide)
  have hid : ¬ needle <:+: n.id := hletter _ (List.all_eq_true.mpr (fun c hc => n.id_chars hc))
  have hend : ¬ needle <:+: n.endpoint.text := hletter _ n.endpoint.isAddress.chars
  have hbehind : ¬ ∃ t ∈ n.masterID :: n.pingSent :: n.pongRecv :: n.configEpoch :: n.linkState :: n.slots,
      needle <:+: t := by
    rintro ⟨t,ht,hin⟩
    exact n.contains_behind hword t ht hin
  have haddr : needle <:+: n.addrRaw ↔ needle <:+: n.bus := by
    rw [NodeEntry.addrRaw,infix_append_cons hat]
    simp [hend]
  rw [Bool.eq_iff_iff]
  simp only [contains,Bool.or_eq_true,decide_eq_true_eq,NodeEntry.text,infix_intercalate hblank hne,
    NodeEntry.rest]
  rw [List.exists_mem_cons_iff,List.exists_mem_cons_iff,List.exists_mem_cons_iff,haddr]
  simp only [hid,hbehind,false_or,or_false]

theorem slave_suffix (n : ShownEntry) : "slave".toList <:+ n.flags ↔ n.names.getLast? = some .slave := by
  have hname : ∀ f : FlagName, "slave".toList <:+ f.text ↔ f = .slave := by
    intro f
    cases f <;> decide
  rw [n.flags_names,suffix_intercalate (by decide) (by decide),List.getLast?_map]
  cases n.names.getLast? with
  | none => simp
  | some f => simpa using hname f

theorem slaveOf_text (n : ShownEntry) {myID : Text} (hmyID : ' ' ∉ myID) :
    contains n.text ("slave ".toList ++ myID) = true ↔ n.names.getLast? = some .slave ∧ myID <+: n.masterID := by
  have hneedle : "slave ".toList ++ myID = "slave".toList ++ ' ' :: myID := rfl
  have hid : ¬ "slave".toList <:+ n.id := by
    intro h
    exact n.id_not_mem (by decide) (h.subset (show 's' ∈ "slave".toList by decide))
  have haddr : ¬ "slave".toList <:+ n.addrRaw := by
    rw [NodeEntry.addrRaw,suffix_append_cons (by decide)]
    exact n.host
  have hbehind : ∀ {x y : Text}, [x, y] <:+: n.masterID :: n.pingSent :: n.pongRecv :: n.configEpoch ::
      n.linkState :: n.slots → ¬ "slave".toList <:+ x := by
    intro x y hxy h
    exact n.contains_behind (.inl (by decide)) x (hxy.subset (by simp)) h.isInfix
  have hblank : ∀ t ∈ n.id :: n.addrRaw :: n.rest, ' ' ∉ t := by
    intro t ht hin
    exact absurd ((n.fields_token t ht).2 ' ' hin) (by decide)
  simp only [contains,decide_eq_true_eq]
  rw [hneedle,NodeEntry.text,infix_words (by decide) hmyID hblank,← n.slave_suffix]
  constructor
  · rintro ⟨x,y,hxy,hx,hy⟩
    rw [NodeEntry.rest] at hxy
    rcases List.infix_cons_iff.mp hxy with h | hxy
    · obtain ⟨rfl,-⟩ := List.cons_prefix_cons.mp h
      exact absurd hx hid
    · rcases List.infix_cons_iff.mp hxy with h | hxy
      · obtain ⟨rfl,-⟩ := List.cons_prefix_cons.mp h
        exact absurd hx haddr
      · rcases List.infix_cons_iff.mp hxy with h | hxy
        · obtain ⟨rfl,hnext⟩ := List.cons_prefix_cons.mp h
          obtain ⟨rfl,-⟩ := List.cons_prefix_cons.mp hnext
          exact ⟨hx, hy⟩
        · exact absurd hx (hbehind hxy)
  · rintro ⟨hx,hy⟩
    exact ⟨n.flags, n.masterID, ⟨[n.id, n.addrRaw], _, rfl⟩, hx, hy⟩

theorem replicaLine_text (n : ShownEntry) (g : Grep) {myID : Text} (hmyID : myID.all isHex = true) :
    replicaLine g myID n.text = n.takesOver myID := by
  have hblank : ' ' ∉ myID := by
    intro h
    exact absurd (List.all_eq_true.mp hmyID _ h) (by decide)
  have hslave : contains n.text ("slave ".toList ++ myID) =
      (n.names.getLast? = some .slave && myID.isPrefixOf n.masterID) := by
    rw [Bool.eq_iff_iff,n.slaveOf_text hblank]
    simp
  have hfail : (contains n.text "fail".toList || contains n.text "noaddr".toList) =
      (n.failing || n.has .nofailover || n.hostFails) := by
    have hflags := n.isFailing_flags
    rw [n.contains_text (by decide) (by decide) (by decide),n.contains_text (by decide) (by decide) (by decide),
      ← hflags]
    simp only [hostFails,isFailing,hasNoaddr]
    generalize contains n.bus "fail".toList = a
    generalize contains n.bus "noaddr".toList = b
    generalize contains n.flags "fail".toList = c
    generalize contains n.flags "noaddr".toList = d
    cases a <;> cases b <;> cases c <;> cases d <;> rfl
  unfold replicaLine takesOver
  rw [g.slave_literal hmyID,hslave,hfail]

theorem addr_text (n : ShownEntry) : cut '@' (fun fs => fs.take 1) (secondField n.text) = n.endpoint.text := by
  have htokens := n.fields_token
  rw [NodeEntry.text,secondField_words (htokens _ (by simp)) (htokens _ (by simp)),NodeEntry.addrRaw]
  exact cut_front (n.endpoint.isAddress.not_mem (by decide)) _

end ShownEntry

theorem inputLines_shown (ns : List ShownEntry) :
    inputLines (cliText (shownText ns)) = ns.map (fun n => n.text) ++ [[]] := by
  have hprint : cliText (shownText ns) = printLines (ns.map (fun n => n.text) ++ [[]]) := by
    simp [cliText,shownText,nodesText,printLines,List.flatMap_map]
  rw [hprint,inputLines_printLines]
  intro l hl
  rcases List.mem_append.mp hl with hl | hl
  · obtain ⟨n,-,rfl⟩ := List.mem_map.mp hl
    exact n.no_newline
  · rw [List.mem_singleton.mp hl]
    simp

/-- The first line of a replica of `myID` without a mark of a failure; with no id at all, of a
replica of any primary. -/
theorem replicaAddr_shown (g : Grep) {myID : Text} (hmyID : myID.all isHex = true) (ns : List ShownEntry) :
    replicaAddr g myID (cliText (shownText ns)) =
      ((ns.find? (fun n => n.takesOver myID)).map (fun n => n.endpoint.text)).getD [] := by
  have hempty : replicaLine g myID [] = false := by
    unfold replicaLine
    rw [g.slave_literal hmyID]
    simp [contains]
  have hlines : ∀ n : ShownEntry, replicaLine g myID n.text = n.takesOver myID :=
    fun n => n.replicaLine_text g hmyID
  have hpicked : ((inputLines (cliText (shownText ns))).filter (replicaLine g myID)).take 1 =
      ((ns.find? (fun n => n.takesOver myID)).map (fun n => n.text)).toList := by
    rw [inputLines_shown,List.filter_append,List.filter_map,List.filter_singleton,hempty,cond_false,
      List.append_nil,List.take_one,List.head?_map,List.head?_filter]
    simp only [Function.comp_def,hlines]
  unfold replicaAddr
  rw [hpicked]
  cases ns.find? (fun n => n.takesOver myID) with
  | none => rfl
  | some n =>
    have hline : '\n' ∉ n.endpoint.text := n.endpoint.isAddress.not_mem (by decide)
    simp only [Option.map_some,Option.toList_some,List.map_singleton,n.addr_text,printLines,
      List.flatMap_singleton,Option.getD_some]
    exact capture_line hline

theorem replicaIP_endpoint (e : Endpoint) : replicaIP e.text = e.ip := by
  have hport : ':' ∉ e.port.reverse := by simpa using e.port_colon
  unfold replicaIP Endpoint.text
  rw [List.reverse_append,List.reverse_cons,List.append_assoc,List.singleton_append,cut_back hport,
    List.reverse_reverse]

theorem replicaPort_endpoint (e : Endpoint) : replicaPort e.text = e.port := by
  have hport : ':' ∉ e.port.reverse := by simpa using e.port_colon
  unfold replicaPort Endpoint.text
  rw [List.reverse_append,List.reverse_cons,List.append_assoc,List.singleton_append,cut_front hport,
    List.reverse_reverse]

section
variable {g : Grep} {timeoutMs : Int} {t : HookTalk} {e : HookEnd}

/-- Whatever the answers are. -/
theorem preStop_order (h : Held (preStopScript g timeoutMs) t e) :
    (∀ before k r after, t = before ++ (k, r) :: after → Orderly g timeoutMs before k) ∧ Finished g t e := by
  simpa using (preStopScript_meets g timeoutMs).held h

end

theorem FlagName.text_alone (f : FlagName) : f.text = [','].intercalate ([f].map FlagName.text) := by
  simp

def replicaShown (host : Text) (htoken : IsToken ("16379,".toList ++ host))
    (hhost : ¬ "slave".toList <:+ "16379,".toList ++ host) : ShownEntry where
  id := nodeID '7'
  endpoint := ⟨"10.0.3.2".toList, "7379".toList, by decide, by decide, by decide, by decide⟩
  bus := "16379,".toList ++ host
  flags := "slave".toList
  masterID := nodeID '1'
  pingSent := ['0']
  pongRecv := "1700000000002".toList
  configEpoch := ['2']
  linkState := "connected".toList
  slots := []
  id_length := by decide
  id_hex := by decide
  tokens := by
    simp only [List.forall_mem_cons]
    exact ⟨htoken, by decide, by decide, by decide, by decide, by decide, by decide, by simp⟩
  names := [.slave]
  flags_names := FlagName.text_alone .slave
  master_length := by decide
  behind := by decide
  host := hhost

def literalGrep : Grep := ⟨fun pattern line => contains line pattern, fun _ _ _ => rfl⟩

def oneReplica : List ShownEntry := [replicaShown (announcedHostname '2') (by decide) (by decide)]

def swiftAnswers : List Text :=
  [cliText "1\nsafe to stop".toList, cliText "# Replication\r\nrole:master\r\n".toList, cliText (nodeID '1'),
    cliText (shownText oneReplica), cliText "OK".toList, cliText "1\nok\n3".toList,
    cliText "# Replication\r\nrole:master\r\n".toList, [], cliText "# Replication\r\nrole:slave\r\n".toList]

def swiftCalls : List HookCall :=
  [.clusterSafe, .infoReplication, .clusterMyID, .clusterNodes, .clusterFailover "10.0.3.2".toList "7379".toList,
    .failoverPrepare 5000, .infoReplication, .sleep 100, .infoReplication]

theorem swift_held : Held (preStopScript literalGrep 5000) (swiftCalls.zip swiftAnswers) .swapped :=
  Prog.held_follow swiftAnswers (by decide +kernel)

theorem swift_order : Finished literalGrep (swiftCalls.zip swiftAnswers) .swapped ∧
    slept (swiftCalls.zip swiftAnswers) = 100 :=
  ⟨(preStop_order swift_held).2, by decide⟩

section
variable {g : Grep} {timeoutMs : Int} {t : HookTalk} {e : HookEnd}

def HookCall.prepare : HookCall → Nat
  | .failoverPrepare _ => 1
  | _ => 0

theorem prepares_le {t : HookTalk}
    (h : ∀ before k r after, t = before ++ (k, r) :: after → Orderly g timeoutMs before k) :
    total HookCall.prepare t ≤ handovers t ∧
      ((∃ before ip port r, t = before ++ [(.clusterFailover ip port, r)]) →
        total HookCall.prepare t + 1 ≤ handovers t) := by
  induction t using List.reverseRecOn with
  | nil => simp [total]
  | append_singleton t q ih =>
    obtain ⟨k,r⟩ := q
    obtain ⟨hle,hlast⟩ := ih (fun before k' r' after heq => h before k' r' (after ++ [(k, r)]) (by simp [heq]))
    have hend : ∀ before ip port r', t ++ [(k, r)] = before ++ [(.clusterFailover ip port, r')] →
        k = .clusterFailover ip port := by
      intro before ip port r' heq
      have hq := List.append_inj_right' heq rfl
      simpa using (congrArg (List.map Prod.fst) hq)
    rw [total_concat,handovers_concat]
    cases k with
    | clusterFailover ip port =>
      simp only [HookCall.prepare,HookCall.handover]
      exact ⟨by omega, fun _ => by omega⟩
    | failoverPrepare ms =>
      have hprev := hlast (h t _ r [] rfl).2
      refine ⟨by simp only [HookCall.prepare,HookCall.handover]; omega, ?_⟩
      rintro ⟨before,ip,port,r',heq⟩
      cases hend before ip port r' heq
    | _ =>
      refine ⟨by simpa [HookCall.prepare,HookCall.handover] using hle, ?_⟩
      rintro ⟨before,ip,port,r',heq⟩
      cases hend before ip port r' heq

theorem preStop_failover (h : Held (preStopScript g timeoutMs) t e) {ip port r : Text}
    (hmem : (.clusterFailover ip port, r) ∈ t) : ∃ myID nodes, (.clusterMyID, myID) ∈ t ∧ (.clusterNodes, nodes) ∈ t ∧
      replicaAddr g (myIDOf myID) nodes ≠ [] ∧ ip = replicaIP (replicaAddr g (myIDOf myID) nodes) ∧
      port = replicaPort (replicaAddr g (myIDOf myID) nodes) := by
  obtain ⟨before,after,rfl⟩ := List.append_of_mem hmem
  obtain ⟨-,waits,info,myID,nodes,rfl,-,-,hne,hip,hport⟩ := ((preStopScript_meets g timeoutMs).held h).1 _ _ _ _ rfl
  exact ⟨myID, nodes, by simp, by simp, hne, hip, hport⟩

section
variable {myID : Text} {ns : List ShownEntry} (h : Held (preStopScript g timeoutMs) t e)
  (hhex : myID.all isHex = true) (hmyID : ∀ r, (.clusterMyID, r) ∈ t → myIDOf r = myID)
  (hnodes : ∀ r, (.clusterNodes, r) ∈ t → r = cliText (shownText ns))
include h hhex hmyID hnodes

theorem failover_found {ip port r : Text} (hmem : (.clusterFailover ip port, r) ∈ t) :
    ∃ n, ns.find? (fun n => n.takesOver myID) = some n ∧ ip = n.endpoint.ip ∧ port = n.endpoint.port := by
  obtain ⟨out,nodes,hout,hlist,hne,hip,hport⟩ := preStop_failover h hmem
  rw [hmyID out hout,hnodes nodes hlist,replicaAddr_shown g hhex ns] at hne hip hport
  cases hfind : ns.find? (fun n => n.takesOver myID) with
  | none => simp [hfind] at hne
  | some n =>
    rw [hfind] at hip hport
    exact ⟨n, rfl, hip.trans (replicaIP_endpoint _), hport.trans (replicaPort_endpoint _)⟩

theorem noReplica_found (he : e = .noReplica) : ∀ n ∈ ns, n.takesOver myID = false := by
  intro n hn
  obtain ⟨waits,info,out,nodes,rfl,-,hnone⟩ := ((preStopScript_meets g timeoutMs).held h).2.unfound he
  rw [hmyID out (by simp),hnodes nodes (by simp),replicaAddr_shown g hhex ns] at hnone
  cases hfind : ns.find? (fun n => n.takesOver myID) with
  | none => simpa using List.find?_eq_none.mp hfind n hn
  | some m =>
    rw [hfind] at hnone
    exact absurd hnone m.endpoint.isAddress.nonempty

/-- With the id of the node itself the failover goes to the first of its own replicas that no
mark of a failure keeps out, and is only left out when there is none. -/
theorem preStop_target :
    (∀ ip port r, (.clusterFailover ip port, r) ∈ t → ∃ n, ns.find? (fun n => n.takesOver myID) = some n ∧
      ip = n.endpoint.ip ∧ port = n.endpoint.port) ∧
    (e = .noReplica → ∀ n ∈ ns, n.takesOver myID = false) :=
  ⟨fun _ _ _ hmem => failover_found h hhex hmyID hnodes hmem, noReplica_found h hhex hmyID hnodes⟩

end

end

theorem swift_target : (.clusterFailover "10.0.3.2".toList "7379".toList, cliText "OK".toList) ∈ swiftCalls.zip swiftAnswers ∧
    ∃ n, oneReplica.find? (fun n => n.takesOver (nodeID '1')) = some n ∧
      "10.0.3.2".toList = n.endpoint.ip ∧ "7379".toList = n.endpoint.port := by
  have hmyID : ∀ q ∈ swiftCalls.zip swiftAnswers, q.1 = .clusterMyID → myIDOf q.2 = nodeID '1' := by decide +kernel
  have hnodes : ∀ q ∈ swiftCalls.zip swiftAnswers, q.1 = .clusterNodes → q.2 = cliText (shownText oneReplica) := by
    decide +kernel
  have hasked : (.clusterFailover "10.0.3.2".toList "7379".toList, cliText "OK".toList) ∈ swiftCalls.zip swiftAnswers := by
    decide +kernel
  exact ⟨hasked, (preStop_target swift_held (by decide) (fun r hr => hmyID _ hr rfl) (fun r hr => hnodes _ hr rfl)).1
    _ _ _ hasked⟩

theorem ShownEntry.takesOver_host {n : ShownEntry} (h : n.hostFails = true) (myID : Text) :
    n.takesOver myID = false := by
  simp [takesOver,h]

theorem contains_stableDNS {vc : ValkeyCluster} {needle : Text} (h : contains vc.name needle = true) (pod : Pod) :
    contains (stableDNS vc pod) needle = true := by
  have hname : needle <:+: vc.name := of_decide_eq_true h
  refine decide_eq_true (hname.trans
    ⟨pod.name ++ ['.'], "-internal".toList ++ ['.'] ++ pod.ns ++ ".svc.cluster.local".toList, ?_⟩)
  simp only [stableDNS,internalServiceName,List.append_assoc]

theorem not_takesOver_named {vc : ValkeyCluster} (hname : contains vc.name "fail".toList = true) {n : ShownEntry}
    {busPort : Text} {pod : Pod} (hbus : n.bus = busPort ++ ',' :: stableDNS vc pod) (myID : Text) :
    n.takesOver myID = false := by
  have hhost : "fail".toList <:+: stableDNS vc pod := of_decide_eq_true (contains_stableDNS hname pod)
  refine ShownEntry.takesOver_host ?_ myID
  rw [ShownEntry.hostFails,Bool.or_eq_true,hbus]
  refine .inl (decide_eq_true (hhost.trans ⟨busPort ++ [','], [], ?_⟩))
  simp

/-- In a cluster with `fail` in its name the line of each replica is left out for its host name. -/
theorem failNamed_neverHandsOver {g : Grep} {timeoutMs : Int} {t : HookTalk} {e : HookEnd} {myID : Text}
    {ns : List ShownEntry} {vc : ValkeyCluster} (h : Held (preStopScript g timeoutMs) t e)
    (hhex : myID.all isHex = true) (hmyID : ∀ r, (.clusterMyID, r) ∈ t → myIDOf r = myID)
    (hnodes : ∀ r, (.clusterNodes, r) ∈ t → r = cliText (shownText ns))
    (hname : contains vc.name "fail".toList = true)
    (hhosts : ∀ n ∈ ns, ∃ busPort pod, n.bus = busPort ++ ',' :: stableDNS vc pod) :
    (∀ ip port r, (.clusterFailover ip port, r) ∉ t) ∧ (e = .replica ∨ e = .noReplica) := by
  have hnever : ∀ ip port r, (.clusterFailover ip port, r) ∉ t := by
    intro ip port r hmem
    obtain ⟨n,hfind,-⟩ := failover_found h hhex hmyID hnodes hmem
    obtain ⟨busPort,pod,hbus⟩ := hhosts n (List.mem_of_find?_eq_some hfind)
    have htakes := List.find?_some hfind
    rw [not_takesOver_named hname hbus myID] at htakes
    cases htakes
  refine ⟨hnever, ?_⟩
  have hzero : handovers t = 0 := by
    refine total_eq_zero.mpr ?_
    rintro ⟨k,r⟩ hmem
    cases k with
    | clusterFailover ip port => exact absurd hmem (hnever ip port r)
    | _ => rfl
  have hhanded := ((preStopScript_meets g timeoutMs).held h).2.handed
  rw [List.nil_append,hzero] at hhanded
  cases e with
  | replica => exact .inl rfl
  | noReplica => exact .inr rfl
  | swapped => simp at hhanded
  | unconfirmed => simp at hhanded

def failNamed : ValkeyCluster := { threeShards (fun _ => none) with name := "failsafe".toList }

def failNamedNodes : List ShownEntry :=
  [replicaShown (stableDNS failNamed (readyPod '2')) (by decide) (by decide)]

def failNamedAnswers : List Text :=
  [cliText "1\nsafe to stop".toList, cliText "role:master\r\n".toList, cliText (nodeID '1'),
    cliText (shownText failNamedNodes)]

def failNamedCalls : List HookCall := [.clusterSafe, .infoReplication, .clusterMyID, .clusterNodes]

theorem failNamed_stops : Held (preStopScript literalGrep 5000) (failNamedCalls.zip failNamedAnswers) .noReplica ∧
    ∀ ip port r, (.clusterFailover ip port, r) ∉ failNamedCalls.zip failNamedAnswers := by
  have hheld : Held (preStopScript literalGrep 5000) (failNamedCalls.zip failNamedAnswers) .noReplica :=
    Prog.held_follow failNamedAnswers (by decide +kernel)
  have hmyID : ∀ q ∈ failNamedCalls.zip failNamedAnswers, q.1 = .clusterMyID → myIDOf q.2 = nodeID '1' := by
    decide +kernel
  have hnodes : ∀ q ∈ failNamedCalls.zip failNamedAnswers, q.1 = .clusterNodes →
      q.2 = cliText (shownText failNamedNodes) := by decide +kernel
  have hname : contains failNamed.name "fail".toList = true := by decide
  refine ⟨hheld, (failNamed_neverHandsOver hheld (by decide) (fun r hr => hmyID _ hr rfl)
    (fun r hr => hnodes _ hr rfl) hname ?_).1⟩
  intro n hn
  rw [List.mem_singleton.mp hn]
  exact ⟨"16379".toList, readyPod '2', rfl⟩

end ValkeyOperator
