import ValkeyOperator.FlagNames

/-!
OPERATOR.NODE.STATE, with its own scanner of CLUSTER NODES, and what its has_slots has to do
with the slots that the operator keeps of the same line.
-/

set_option autoImplicit false

namespace ValkeyOperator
open TextScan

/-- The scan of the slot fields; the flag says that it is inside a migration marker. -/
def scanSlots : Bool → Text → Bool
  | _, [] => false
  | true, c :: s => scanSlots (c ≠ ']') s
  | false, c :: s =>
    if c = '\r' then false
    else if c = '[' then scanSlots true s
    else if c ≠ ' ' then true
    else scanSlots false s

/-- Field 3 goes to a buffer of 64 bytes, or stays out. -/
def keepMasterID (fieldIdx : Nat) (field masterID : Text) : Text :=
  if fieldIdx = 3 ∧ 0 < field.length ∧ field.length < 64 then
    if field = ['-'] then [] else field
  else masterID

def scanFields (fieldIdx : Nat) (field masterID : Text) : Text → Text × Bool
  | [] => (masterID, false)
  | c :: p =>
    if c = '\r' then (masterID, false)
    else if c = ' ' then
      let masterID := keepMasterID fieldIdx field masterID
      -- a field counts when a blank follows it: a line that ends with field 7 has no slots
      if fieldIdx = 7 then (masterID, scanSlots false (p.dropWhile (fun d => d = ' ')))
      else scanFields (fieldIdx + 1) [] masterID p
    else scanFields fieldIdx (field ++ [c]) masterID p

/-- The first line with the letters of `myself` anywhere in it. -/
def parseMyselfLine (nodes : Option Text) : Text × Bool :=
  match nodes with
  | none => ([], false)
  | some nodes =>
    match (nodes.splitOn '\n').find? (fun line => contains line "myself".toList) with
    | none => ([], false)
    | some line => scanFields 0 [] [] line

inductive StateRole
  | primary | replica | unknown
  deriving DecidableEq, Repr

structure NodeStateReply where
  role : StateRole
  masterID : Text
  masterAddr : Text
  hasSlots : Int
  deriving DecidableEq, Repr

def operatorNodeState (replication nodes : Option Text) : Except Text NodeStateReply :=
  match replication with
  | none => .error "ERR failed to call INFO replication".toList
  | some rinfo =>
    let rawRole := parseFieldStr rinfo "role".toList 16
    let masterHost := parseFieldStr rinfo "master_host".toList 128
    let masterPort := parseFieldStr rinfo "master_port".toList 16
    let role : StateRole :=
      if rawRole = "master".toList then .primary
      else if rawRole = "slave".toList then .replica
      else .unknown
    let masterAddr := if masterHost ≠ [] ∧ masterPort ≠ [] then masterHost ++ ':' :: masterPort else []
    let (masterID, hasOwnSlots) := parseMyselfLine nodes
    .ok ⟨role, masterID, masterAddr, if hasOwnSlots then 1 else 0⟩

def isMarker : Text → Bool
  | '[' :: t => t.dropWhile (fun c => c ≠ ']') == [']']
  | _ => false

structure SlotEntry extends FlagEntry where
  bracketed : ∀ t ∈ slots, t.head? = some '[' → isMarker t = true

def SlotEntry.owns (n : SlotEntry) : Bool := n.slots.any (fun t => !isMarker t)

theorem scanSlots_inner {inner : Text} (h : ']' ∉ inner) (rest : Text) :
    scanSlots true (inner ++ ']' :: rest) = scanSlots false rest := by
  induction inner with
  | nil => simp [scanSlots]
  | cons c inner ih =>
    simp only [List.mem_cons,not_or] at h
    have hc : c ≠ ']' := Ne.symm h.1
    simp [scanSlots,hc,ih h.2]

theorem isMarker_eq {t : Text} (h : isMarker t = true) :
    ∃ inner, ']' ∉ inner ∧ t = '[' :: (inner ++ [']']) := by
  unfold isMarker at h
  split at h
  · rename_i t
    rw [beq_iff_eq] at h
    have hsplit := List.takeWhile_append_dropWhile (p := fun c => decide (c ≠ ']')) (l := t)
    rw [h] at hsplit
    refine ⟨t.takeWhile (fun c => decide (c ≠ ']')), fun hmem => ?_, by rw [hsplit]⟩
    have hne := List.mem_takeWhile_imp hmem
    simp at hne
  · cases h

theorem scanSlots_marker {t : Text} (h : isMarker t = true) (rest : Text) :
    scanSlots false (t ++ rest) = scanSlots false rest := by
  obtain ⟨inner,hinner,rfl⟩ := isMarker_eq h
  have hskip := scanSlots_inner hinner rest
  simpa [scanSlots] using hskip

theorem scanSlots_real {t : Text} (ht : IsToken t) (h : t.head? ≠ some '[') (rest : Text) :
    scanSlots false (t ++ rest) = true := by
  obtain ⟨c,t,rfl⟩ := List.exists_cons_of_ne_nil ht.1
  have hc := ht.2 c (by simp)
  have hreturn : c ≠ '\r' := by
    rintro rfl
    exact absurd hc (by decide)
  have hblank : c ≠ ' ' := by
    rintro rfl
    exact absurd hc (by decide)
  have hopen : c ≠ '[' := by simpa using h
  simp [scanSlots,hreturn,hblank,hopen]

theorem scanSlots_fields {ts : List Text} (htok : ∀ t ∈ ts, IsToken t)
    (hform : ∀ t ∈ ts, t.head? = some '[' → isMarker t = true) :
    scanSlots false ([' '].intercalate ts) = ts.any (fun t => !isMarker t) := by
  have hone : ∀ t ∈ ts, ∀ rest, scanSlots false (t ++ rest) = (!isMarker t || scanSlots false rest) := by
    intro t ht rest
    cases hm : isMarker t with
    | true => rw [scanSlots_marker hm]; rfl
    | false =>
      refine scanSlots_real (htok t ht) (fun hopen => ?_) rest
      rw [hform t ht hopen] at hm
      cases hm
  induction ts with
  | nil => rfl
  | cons t ts ih =>
    have hrest := ih (fun u hu => htok u (by simp [hu])) (fun u hu => hform u (by simp [hu]))
      (fun u hu => hone u (by simp [hu]))
    have ht := hone t (by simp)
    cases ts with
    | nil =>
      have hend := ht []
      rw [List.append_nil] at hend
      rw [List.intercalate_singleton,hend]
      rfl
    | cons u ts =>
      have hblank : ∀ s, scanSlots false (' ' :: s) = scanSlots false s := fun _ => rfl
      rw [List.intercalate_cons_cons,List.append_assoc,List.singleton_append,ht,hblank,hrest]
      rfl

theorem scanFields_word {t : Text} (ht : IsToken t) (fieldIdx : Nat) (field masterID rest : Text) :
    scanFields fieldIdx field masterID (t ++ rest) = scanFields fieldIdx (field ++ t) masterID rest := by
  have hchars := ht.2
  clear ht
  induction t generalizing field with
  | nil => simp
  | cons c t ih =>
    have hc := hchars c (by simp)
    have hreturn : c ≠ '\r' := by
      rintro rfl
      exact absurd hc (by decide)
    have hblank : c ≠ ' ' := by
      rintro rfl
      exact absurd hc (by decide)
    rw [List.cons_append,scanFields,if_neg hreturn,if_neg hblank,
      ih (field ++ [c]) (fun d hd => hchars d (by simp [hd])),List.append_assoc,List.singleton_append]

theorem scanFields_token {t : Text} (ht : IsToken t) {fieldIdx : Nat} (hidx : fieldIdx ≠ 7)
    (masterID rest : Text) :
    scanFields fieldIdx [] masterID (t ++ ' ' :: rest) =
      scanFields (fieldIdx + 1) [] (keepMasterID fieldIdx t masterID) rest := by
  rw [scanFields_word ht,List.nil_append,scanFields,if_neg (by decide),if_pos rfl]
  dsimp only
  rw [if_neg hidx]

theorem scanSlots_dropWhile (s : Text) :
    scanSlots false (s.dropWhile (fun d => d = ' ')) = scanSlots false s := by
  induction s with
  | nil => rfl
  | cons c s ih =>
    by_cases hc : c = ' '
    · simp [hc,ih,scanSlots]
    · simp [hc]

theorem SlotEntry.scanFields_text (n : SlotEntry) :
    scanFields 0 [] [] n.text = (keepMasterID 3 n.masterID [], n.owns) := by
  have htok := n.fields_token
  have hslots : ∀ t ∈ n.slots, IsToken t := fun t ht => htok t (by simp [NodeEntry.rest,ht])
  simp only [NodeEntry.rest,List.forall_mem_cons] at htok
  obtain ⟨hid,haddr,hflags,hmaster,hping,hpong,hepoch,hlink,-⟩ := htok
  have hfront : ∀ last, scanFields 0 [] [] (n.id ++ ' ' :: (n.addrRaw ++ ' ' :: (n.flags ++ ' ' ::
      (n.masterID ++ ' ' :: (n.pingSent ++ ' ' :: (n.pongRecv ++ ' ' :: (n.configEpoch ++ ' ' :: last))))))) =
      scanFields 7 [] (keepMasterID 3 n.masterID []) last := by
    intro last
    rw [scanFields_token hid (by decide),scanFields_token haddr (by decide),scanFields_token hflags (by decide),
      scanFields_token hmaster (by decide),scanFields_token hping (by decide),
      scanFields_token hpong (by decide),scanFields_token hepoch (by decide)]
    rfl
  unfold NodeEntry.text NodeEntry.rest SlotEntry.owns
  cases hs : n.slots with
  | nil =>
    have hend := hfront n.linkState
    rw [← List.append_nil n.linkState,scanFields_word hlink] at hend
    simp only [List.intercalate_cons_cons,List.intercalate_singleton,List.append_assoc,
      List.singleton_append]
    rw [← List.append_nil n.linkState,hend]
    rfl
  | cons t ts =>
    have hscan := scanSlots_fields hslots n.bracketed
    have hend := hfront (n.linkState ++ ' ' :: [' '].intercalate (t :: ts))
    rw [scanFields_word hlink,scanFields,if_neg (by decide),if_pos rfl] at hend
    simp only [if_true,scanSlots_dropWhile] at hend
    rw [hs] at hscan
    rw [hscan] at hend
    simp only [List.intercalate_cons_cons,List.append_assoc,List.singleton_append] at hend ⊢
    exact hend

/-- CLUSTER NODES on a node: one line is the node's own. -/
structure OwnView where
  before : List SlotEntry
  self : SlotEntry
  after : List SlotEntry
  flagged : self.has .myself = true
  others : ∀ n ∈ before ++ after, n.has .myself = false

def OwnView.lines (v : OwnView) : List SlotEntry := v.before ++ v.self :: v.after

def OwnView.text (v : OwnView) : Text := nodesText (v.lines.map (fun n => n.toNodeEntry))

def SlotEntry.mentionsMyself (n : SlotEntry) : Bool := contains n.text "myself".toList

def OwnView.scanned (v : OwnView) : SlotEntry := (v.before.find? SlotEntry.mentionsMyself).getD v.self

theorem OwnView.self_mentions (v : OwnView) : v.self.mentionsMyself = true := by
  have hflags : contains v.self.flags "myself".toList = true := v.self.contains_myself.trans v.flagged
  simp only [SlotEntry.mentionsMyself,contains,decide_eq_true_eq] at hflags ⊢
  refine hflags.trans ⟨v.self.id ++ ' ' :: (v.self.addrRaw ++ [' ']), ' ' :: [' '].intercalate
    (v.self.masterID :: v.self.pingSent :: v.self.pongRecv :: v.self.configEpoch :: v.self.linkState ::
      v.self.slots), ?_⟩
  simp [NodeEntry.text,NodeEntry.rest,List.intercalate_cons_cons]

theorem OwnView.find_self (v : OwnView) :
    v.lines.find? SlotEntry.mentionsMyself = some v.scanned := by
  rw [OwnView.lines,List.find?_append,List.find?_cons_of_pos v.self_mentions,OwnView.scanned]
  cases v.before.find? SlotEntry.mentionsMyself <;> rfl

theorem OwnView.lines_text (v : OwnView) :
    v.text.splitOn '\n' = v.lines.map (fun n => n.text) ++ [[]] := by
  have hsep : ∀ l ∈ v.lines.map (fun n => n.text), '\n' ∉ l := by
    intro l hl
    obtain ⟨n,-,rfl⟩ := List.mem_map.mp hl
    exact n.no_newline
  rw [← splitOn_lines hsep,List.flatMap_map,OwnView.text,nodesText,List.flatMap_map]

theorem OwnView.find_line (v : OwnView) :
    (v.text.splitOn '\n').find? (fun line => contains line "myself".toList) = some v.scanned.text := by
  rw [v.lines_text,List.find?_append,List.find?_map]
  have hself := v.find_self
  unfold SlotEntry.mentionsMyself at hself
  rw [Function.comp_def,hself]
  rfl

theorem parseMyselfLine_text (v : OwnView) :
    parseMyselfLine (some v.text) = (keepMasterID 3 v.scanned.masterID [], v.scanned.owns) := by
  unfold parseMyselfLine
  dsimp only
  rw [v.find_line]
  exact v.scanned.scanFields_text

theorem operatorNodeState_text (rinfo : Text) (v : OwnView) :
    ∃ reply, operatorNodeState (some rinfo) (some v.text) = .ok reply ∧
      reply.masterID = keepMasterID 3 v.scanned.masterID [] ∧
      (reply.hasSlots = 1 ↔ v.scanned.owns = true) := by
  refine ⟨_, rfl, ?_, ?_⟩
  · change (parseMyselfLine (some v.text)).1 = _
    rw [parseMyselfLine_text]
  · change (if (parseMyselfLine (some v.text)).2 then (1 : Int) else 0) = 1 ↔ v.scanned.owns = true
    rw [parseMyselfLine_text]
    cases v.scanned.owns <;> simp

theorem NodeEntry.slots_ne_nil_iff (n : NodeEntry) : n.state.slots ≠ [] ↔ n.slots ≠ [] := by
  have hjoin : fields n.state.slots = n.slots :=
    fields_intercalate (fun t ht => n.fields_token t (by simp [NodeEntry.rest,ht]))
  constructor
  · intro h hnil
    exact h (by rw [NodeEntry.state,hnil]; rfl)
  · intro h hnil
    rw [hnil] at hjoin
    exact h hjoin.symm

/-- The operator's test on the node's own line and the server module's has_slots, and both
against the slots that are not on their way. -/
def OwnView.SlotsAgree (v : OwnView) (rinfo : Text) : Prop :=
  ∃ node reply, parseNodeLine v.self.text = some node ∧
    operatorNodeState (some rinfo) (some v.text) = .ok reply ∧
    (node.slots ≠ [] ↔ reply.hasSlots = 1) ∧
    (reply.hasSlots = 1 ↔ ∃ t ∈ v.self.slots, isMarker t = false)

/-- The two agree unless the node's own line has migration markers and nothing else, or an
earlier line with `myself` in a hostname answers for it. -/
theorem slotsAgree_iff (v : OwnView) (rinfo : Text) :
    v.SlotsAgree rinfo ↔
      (v.self.slots ≠ [] → v.self.owns = true) ∧ v.scanned.owns = v.self.owns := by
  have howns : v.self.owns = true ↔ ∃ t ∈ v.self.slots, isMarker t = false := by
    simp [SlotEntry.owns]
  have hsome : v.self.owns = true → v.self.slots ≠ [] := by
    intro h hnil
    rw [SlotEntry.owns,hnil] at h
    cases h
  have hparse := parseNodeLine_text v.self.toNodeEntry
  have hslots := v.self.slots_ne_nil_iff
  obtain ⟨reply,hreply,-,hhas⟩ := operatorNodeState_text rinfo v
  constructor
  · rintro ⟨node,reply',hnode,hreply',hgo,hmarker⟩
    rw [hparse] at hnode
    rw [hreply] at hreply'
    cases hnode
    cases hreply'
    rw [← howns,hhas] at hmarker
    rw [hslots,hhas] at hgo
    exact ⟨fun hne => hmarker.mp (hgo.mp hne), Bool.eq_iff_iff.mpr hmarker⟩
  · rintro ⟨hreal,hscanned⟩
    rw [hscanned] at hhas
    exact ⟨_, reply, hparse, hreply, hslots.trans ⟨fun h => hhas.mpr (hreal h), fun h => hsome (hhas.mp h)⟩,
      hhas.trans howns⟩

def lastSlotMoving : OwnView where
  before := []
  self :=
    { plainEntry "myself,master".toList [("[5461->-".toList ++ nodeID '2') ++ [']']] (by decide) with
      names := [.myself, .master]
      flags_names := by decide
      bracketed := by decide }
  after := []
  flagged := by decide
  others := by simp

theorem lastSlotMoving_differs : ¬ lastSlotMoving.SlotsAgree "role:master\r\n".toList := by
  rintro ⟨node,reply,hnode,hreply,hgo,-⟩
  obtain ⟨reply',hreply',-,hhas⟩ := operatorNodeState_text "role:master\r\n".toList lastSlotMoving
  rw [parseNodeLine_text] at hnode
  rw [hreply'] at hreply
  cases hnode
  cases hreply
  have hslots : lastSlotMoving.self.state.slots ≠ [] := by decide +kernel
  exact absurd (hhas.mp (hgo.mp hslots)) (by decide +kernel)

end ValkeyOperator
