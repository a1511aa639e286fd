import ValkeyOperator.NodeState

/-!
OPERATOR.SLOT.STATS, and which line of CLUSTER NODES it and OPERATOR.NODE.STATE take for the
node's own.
-/

set_option autoImplicit false

namespace ValkeyOperator
open TextScan

def sizeValues : Nat := 0x10000000000000000

def sizeSub (a b : Nat) : Nat := (a + sizeValues - b) % sizeValues

/-- One token behind the others; the length of the text is the number of written bytes. -/
def copyToken (buflen : Nat) (buf tok : Text) : Text :=
  if tok.head? ≠ some '[' ∧ tok.length > 0 then
    let buf := if buf.length > 0 ∧ buf.length < sizeSub buflen 1 then buf ++ [' '] else buf
    let copy := if buf.length + tok.length ≥ buflen then sizeSub (sizeSub buflen buf.length) 1 else tok.length
    buf ++ tok.take copy
  else buf

def skipFields : Nat → Text → Text
  | 0, p => p
  | _ + 1, [] => []
  | field + 1, p => skipFields field ((p.dropWhile (fun c => c ≠ ' ')).dropWhile (fun c => c = ' '))

/-- A run of blanks has empty tokens in it, which are not copied. -/
def copySlots (buflen : Nat) (p : Text) : Text := (p.splitOn ' ').foldl (copyToken buflen) []

def linecopySize : Nat := 1024

def showsMyself (linecopy : Text) : Bool :=
  contains linecopy " myself".toList || contains linecopy ",myself".toList

/-- The copy of a line that is searched for slots. -/
def slotsLine (nodes : Text) : Option Text :=
  ((nodes.splitOn '\n').map (fun line => line.take (linecopySize - 1))).find? showsMyself

def extractMyselfSlots (nodes : Text) (buflen : Nat) : Option Text :=
  (slotsLine nodes).map (fun linecopy => copySlots buflen (skipFields 8 linecopy))

def extractKeyspaceKeys (info : Text) : Int :=
  match strstr "db0:keys=".toList info with
  | none => 0
  | some p => atoll (p.drop "db0:keys=".toList.length)

structure SlotStatsReply where
  keys : Int
  memoryBytes : Int
  role : StateRole
  slots : Text
  replOffset : Int
  deriving DecidableEq, Repr

def slotsBufSize : Nat := 256

def operatorSlotStats (info nodes : Option Text) : Except Text SlotStatsReply :=
  match info with
  | none => .error "ERR failed to call INFO all".toList
  | some info =>
    let memory := parseFieldLL info "used_memory".toList
    let roleRaw := parseFieldStr info "role".toList 16
    let masterOff := parseFieldLL info "master_repl_offset".toList
    let slaveOff := parseFieldLL info "slave_repl_offset".toList
    let replOffset := if roleRaw = "slave".toList ∧ slaveOff ≥ 0 then slaveOff else masterOff
    match nodes with
    | none => .error "ERR failed to call CLUSTER NODES".toList
    | some nodes =>
      .ok
        { keys := extractKeyspaceKeys info
          memoryBytes := if memory < 0 then 0 else memory
          role := if roleRaw = "master".toList then .primary else .replica
          -- the buffer is empty when no line is found
          slots := (extractMyselfSlots nodes slotsBufSize).getD []
          replOffset := if replOffset < 0 then 0 else replOffset }

theorem sizeSub_eq {a b : Nat} (hb : b ≤ a) (ha : a < sizeValues) : sizeSub a b = a - b := by
  unfold sizeSub sizeValues at *
  omega

def separator (buf : Text) : Text := if buf = [] then [] else [' ']

def isRange (tok : Text) : Bool := tok.head? ≠ some '[' ∧ tok ≠ []

theorem copyToken_take {m : Nat} (hm : m + 1 < sizeValues) {buf tok : Text} (hbuf : buf.length ≤ m)
    (htok : isRange tok = true) :
    copyToken (m + 1) buf tok = (buf ++ (separator buf ++ tok)).take m := by
  simp only [isRange,decide_eq_true_eq] at htok
  have hlen : tok.length > 0 := List.length_pos_iff.mpr htok.2
  have hone : sizeSub (m + 1) 1 = m := sizeSub_eq (by omega) hm
  have hcopy : ∀ w, w ≤ m → sizeSub (sizeSub (m + 1) w) 1 = m - w := by
    intro w hw
    rw [sizeSub_eq (by omega) hm,sizeSub_eq (by omega) (by omega)]
    omega
  have hfill : ∀ w : Text, w.length ≤ m →
      w ++ tok.take (if w.length + tok.length ≥ m + 1 then sizeSub (sizeSub (m + 1) w.length) 1
        else tok.length) = (w ++ tok).take m := by
    intro w hw
    rw [List.take_append,List.take_of_length_le hw,hcopy w.length hw]
    split
    · rfl
    · rw [List.take_of_length_le (Nat.le_refl _),List.take_of_length_le (by omega)]
  unfold copyToken
  rw [if_pos ⟨htok.1, hlen⟩,hone]
  dsimp only
  by_cases hnil : buf = []
  · subst hnil
    rw [if_neg (by simp),hfill [] (by simp)]
    rfl
  · have hpos : buf.length > 0 := List.length_pos_iff.mpr hnil
    have hsep : separator buf = [' '] := if_neg hnil
    by_cases hfull : buf.length < m
    · have hroom : (buf ++ [' ']).length ≤ m := by simp; omega
      rw [if_pos ⟨hpos, hfull⟩,hfill _ hroom,hsep,List.append_assoc]
    · have hend : buf.length = m := by omega
      rw [if_neg (fun h => hfull h.2),hfill buf hbuf]
      simp [hend]

theorem copyToken_skip {tok : Text} (h : isRange tok = false) (buflen : Nat) (buf : Text) :
    copyToken buflen buf tok = buf := by
  unfold copyToken
  refine if_neg (fun htok => ?_)
  have hne : tok ≠ [] := List.length_pos_iff.mp htok.2
  simp [isRange,htok.1,hne] at h

def joined (buf tok : Text) : Text := buf ++ (separator buf ++ tok)

theorem joined_take (m : Nat) (full tok : Text) :
    (joined (full.take m) tok).take m = (joined full tok).take m := by
  rcases Nat.lt_or_ge m full.length with hcut | hfits
  · have hlen : (full.take m).length = m := by simp; omega
    unfold joined
    rw [List.take_append_of_le_length (by omega),List.take_append_of_le_length (by omega),List.take_take,
      Nat.min_self]
  · rw [List.take_of_length_le hfits]

theorem foldl_copyToken {m : Nat} (hm : m + 1 < sizeValues) (toks : List Text) (full : Text) :
    toks.foldl (copyToken (m + 1)) (full.take m) = ((toks.filter isRange).foldl joined full).take m := by
  induction toks generalizing full with
  | nil => rfl
  | cons tok toks ih =>
    rw [List.foldl_cons]
    cases htok : isRange tok with
    | false => rw [copyToken_skip htok,List.filter_cons_of_neg (by simp [htok]),ih]
    | true =>
      have hstep : copyToken (m + 1) (full.take m) tok = (joined full tok).take m :=
        (copyToken_take hm (List.length_take_le m full) htok).trans (joined_take m full tok)
      rw [hstep,List.filter_cons_of_pos htok,List.foldl_cons,ih]

theorem foldl_joined_cons {tok : Text} (htok : tok ≠ []) (toks : List Text) (h : ∀ t ∈ toks, t ≠ []) :
    toks.foldl joined tok = [' '].intercalate (tok :: toks) := by
  induction toks generalizing tok with
  | nil => simp
  | cons t toks ih =>
    have hjoin : joined tok t = tok ++ ' ' :: t := by simp [joined,separator,htok]
    rw [List.foldl_cons,hjoin,ih (by simp) (fun u hu => h u (by simp [hu]))]
    cases toks with
    | nil => simp [List.intercalate_cons_cons]
    | cons u toks => simp [List.intercalate_cons_cons]

theorem copySlots_eq {m : Nat} (hm : m + 1 < sizeValues) (p : Text) :
    copySlots (m + 1) p = ([' '].intercalate ((p.splitOn ' ').filter isRange)).take m := by
  have hfold := foldl_copyToken hm (p.splitOn ' ') []
  rw [List.take_nil] at hfold
  rw [copySlots,hfold]
  cases hranges : (p.splitOn ' ').filter isRange with
  | nil => rfl
  | cons tok toks =>
    have hne : ∀ t ∈ tok :: toks, t ≠ [] := by
      intro t ht
      rw [← hranges] at ht
      have hrange := (List.mem_filter.mp ht).2
      simp only [isRange,decide_eq_true_eq] at hrange
      exact hrange.2
    have hfirst : joined [] tok = tok := rfl
    rw [List.foldl_cons,hfirst,foldl_joined_cons (hne tok (by simp)) toks (fun t ht => hne t (by simp [ht]))]

theorem filter_isRange (s : Text) :
    (s.splitOn ' ').filter isRange = (words s).filter (fun w => w.head? ≠ some '[') := by
  rw [words,List.filter_filter]
  refine List.filter_congr (fun w _ => ?_)
  simp [isRange]

theorem words_skipFields {p : Text} (h : p.head? ≠ some ' ') (field : Nat) :
    words (skipFields field p) = (words p).drop field := by
  induction field generalizing p with
  | zero => rfl
  | succ field ih =>
    cases p with
    | nil => rfl
    | cons c p =>
      rw [skipFields,ih (head_dropWhile_blank _),words_skip h,List.drop_drop]
      · rw [Nat.add_comm]
      · simp

/-- The slot fields in the copy of the line, without those that are on their way. -/
def NodeEntry.shownSlots (n : NodeEntry) : List Text :=
  ((words (n.text.take (linecopySize - 1))).drop 8).filter (fun w => w.head? ≠ some '[')

theorem NodeEntry.text_head (n : NodeEntry) : n.text.head? ≠ some ' ' := by
  have hid := n.fields_token n.id (by simp)
  obtain ⟨c,id,hc⟩ := List.exists_cons_of_ne_nil hid.1
  have hne : c ≠ ' ' := by
    rintro rfl
    exact absurd (hid.2 ' ' (by simp [hc])) (by decide)
  simpa [NodeEntry.text,NodeEntry.rest,List.intercalate_cons_cons,hc] using hne

theorem NodeEntry.copySlots_line (n : NodeEntry) :
    copySlots slotsBufSize (skipFields 8 (n.text.take (linecopySize - 1))) =
      ([' '].intercalate n.shownSlots).take (slotsBufSize - 1) := by
  have hhead : (n.text.take (linecopySize - 1)).head? ≠ some ' ' := by
    rw [List.head?_take,if_neg (by decide)]
    exact n.text_head
  have hcopy := copySlots_eq (m := slotsBufSize - 1) (by decide) (skipFields 8 (n.text.take (linecopySize - 1)))
  rw [filter_isRange,words_skipFields hhead] at hcopy
  exact hcopy

theorem NodeEntry.shownSlots_fits (n : NodeEntry) (h : n.text.length < linecopySize) :
    n.shownSlots = n.slots.filter (fun t => t.head? ≠ some '[') := by
  have hline : n.text.take (linecopySize - 1) = n.text := List.take_of_length_le (by omega)
  unfold NodeEntry.shownSlots
  rw [hline,NodeEntry.text,words_intercalate n.fields_token]
  rfl

def myselfLine (nodes : Text) : Option Text :=
  (nodes.splitOn '\n').find? (fun line => contains line "myself".toList)

/-- Both commands take the line with the flag for the node's own: its master, whether it has
slots that are not on their way, and which these are. -/
structure OwnView.ReadsOwn (v : OwnView) : Prop where
  scanned : myselfLine v.text = some v.self.text
  state : ∀ rinfo, ∃ reply, operatorNodeState (some rinfo) (some v.text) = .ok reply ∧
    reply.masterID = (if v.self.masterID = ['-'] then [] else v.self.masterID) ∧
    (reply.hasSlots = 1 ↔ ∃ t ∈ v.self.slots, isMarker t = false)
  copied : slotsLine v.text = some (v.self.text.take (linecopySize - 1))
  stats : ∀ info, ∃ reply, operatorSlotStats (some info) (some v.text) = .ok reply ∧
    reply.slots = ([' '].intercalate v.self.shownSlots).take (slotsBufSize - 1)

theorem NodeEntry.flags_of_text {n m : NodeEntry} (h : n.text = m.text) : n.flags = m.flags := by
  have hn := words_intercalate n.fields_token
  have hm := words_intercalate m.fields_token
  unfold NodeEntry.text at h
  rw [h,hm] at hn
  simp only [NodeEntry.rest,List.cons.injEq] at hn
  exact hn.2.2.1.symm

theorem OwnView.text_other (v : OwnView) {n : SlotEntry} (hn : n ∈ v.before) : n.text ≠ v.self.text := by
  intro h
  have hflags := NodeEntry.flags_of_text h
  have hother := n.contains_myself.trans (v.others n (by simp [hn]))
  have hself := v.self.contains_myself.trans v.flagged
  rw [hflags,hself] at hother
  cases hother

theorem OwnView.scanned_iff (v : OwnView) :
    myselfLine v.text = some v.self.text ↔ ∀ n ∈ v.before, n.mentionsMyself = false := by
  rw [myselfLine,v.find_line,Option.some.injEq,OwnView.scanned]
  cases hfind : v.before.find? SlotEntry.mentionsMyself with
  | none => simpa using List.find?_eq_none.mp hfind
  | some n =>
    have hn := List.mem_of_find?_eq_some hfind
    have hsays := List.find?_some hfind
    refine ⟨fun h => absurd h (v.text_other hn), fun h => ?_⟩
    rw [h n hn] at hsays
    cases hsays

theorem showsMyself_take {line : Text} {k : Nat} (h : showsMyself (line.take k) = true) :
    contains line "myself".toList = true := by
  simp only [showsMyself,contains,Bool.or_eq_true,decide_eq_true_eq] at h ⊢
  have hblank : "myself".toList <:+: " myself".toList := by decide
  have hcomma : "myself".toList <:+: ",myself".toList := by decide
  have hcut := (List.take_prefix k line).isInfix
  rcases h with h | h
  · exact hblank.trans (h.trans hcut)
  · exact hcomma.trans (h.trans hcut)

theorem showsMyself_infix {line copy : Text} (hcopy : line <:+: copy) (h : showsMyself line = true) :
    showsMyself copy = true := by
  simp only [showsMyself,contains,Bool.or_eq_true,decide_eq_true_eq] at h ⊢
  exact h.imp (fun hblank => hblank.trans hcopy) (fun hcomma => hcomma.trans hcopy)

theorem showsMyself_names {names : List FlagName} (h : .myself ∈ names) {c : Char} (hc : c = ' ' ∨ c = ',') :
    showsMyself (c :: [','].intercalate (names.map FlagName.text)) = true := by
  induction names generalizing c with
  | nil => simp at h
  | cons f names ih =>
    by_cases hf : f = .myself
    · subst hf
      have hfront : c :: "myself".toList <+: c :: [','].intercalate ((.myself :: names).map FlagName.text) := by
        cases names with
        | nil => exact List.prefix_refl _
        | cons g names =>
          rw [List.map_cons,List.map_cons,List.intercalate_cons_cons]
          exact ⟨_, rfl⟩
      refine showsMyself_infix hfront.isInfix ?_
      rcases hc with rfl | rfl <;> decide
    · have hmem : .myself ∈ names := by simpa [Ne.symm hf] using h
      have hrest := ih hmem (.inr rfl)
      cases names with
      | nil => simp at hmem
      | cons g names =>
        refine showsMyself_infix ⟨c :: f.text, [], ?_⟩ hrest
        simp [List.intercalate_cons_cons]

theorem OwnView.showsMyself_fits (v : OwnView)
    (h : v.self.id.length + v.self.addrRaw.length + v.self.flags.length + 2 < linecopySize) :
    showsMyself (v.self.text.take (linecopySize - 1)) = true := by
  have hmem : .myself ∈ v.self.names := by simpa [FlagEntry.has] using v.flagged
  have hflags := showsMyself_names hmem (.inl rfl)
  rw [← v.self.flags_names] at hflags
  refine showsMyself_infix ?_ hflags
  have hfront : v.self.id ++ (' ' :: v.self.addrRaw ++ (' ' :: v.self.flags)) <+: v.self.text := by
    refine ⟨' ' :: [' '].intercalate (v.self.masterID :: v.self.pingSent :: v.self.pongRecv ::
      v.self.configEpoch :: v.self.linkState :: v.self.slots), ?_⟩
    simp [NodeEntry.text,NodeEntry.rest,List.intercalate_cons_cons]
  have hcopy : v.self.id ++ (' ' :: v.self.addrRaw ++ (' ' :: v.self.flags)) <+:
      v.self.text.take (linecopySize - 1) := by
    refine List.prefix_take_iff.mpr ⟨hfront, ?_⟩
    simp only [List.length_append,List.length_cons]
    omega
  exact (List.suffix_append _ _).isInfix.trans ((List.suffix_append _ _).isInfix.trans hcopy.isInfix)

theorem OwnView.slotsLine_text (v : OwnView) (h : ∀ n ∈ v.before, n.mentionsMyself = false) :
    slotsLine v.text = some (v.self.text.take (linecopySize - 1)) ↔
      showsMyself (v.self.text.take (linecopySize - 1)) = true := by
  refine ⟨List.find?_some, fun hself => ?_⟩
  have hbefore : v.before.find? (fun n => showsMyself (n.text.take (linecopySize - 1))) = none := by
    refine List.find?_eq_none.mpr (fun n hn hshows => ?_)
    have hsays : n.mentionsMyself = true := showsMyself_take hshows
    rw [h n hn] at hsays
    cases hsays
  unfold slotsLine
  rw [v.lines_text,List.map_append,List.map_map,List.find?_append,List.find?_map,OwnView.lines,
    List.find?_append,Function.comp_def,Function.comp_def,hbefore,List.find?_cons,hself]
  rfl

theorem keepMasterID_iff {masterID : Text} (h : masterID ≠ []) :
    keepMasterID 3 masterID [] = (if masterID = ['-'] then [] else masterID) ↔ masterID.length < 64 := by
  have hpos : 0 < masterID.length := List.length_pos_iff.mpr h
  unfold keepMasterID
  constructor
  · intro heq
    by_contra hlong
    have hdash : masterID ≠ ['-'] := by
      rintro rfl
      exact hlong (by decide)
    rw [if_neg (fun hcond => hlong hcond.2.2),if_neg hdash] at heq
    exact h heq.symm
  · intro hfits
    rw [if_pos ⟨rfl, hpos, hfits⟩]

/-- They do unless `myself` stands in an earlier line, in a hostname for example, or the
flag, or an id of more than 63 characters, is behind the end of a buffer. -/
theorem readsOwn_iff (v : OwnView) :
    v.ReadsOwn ↔ (∀ n ∈ v.before, n.mentionsMyself = false) ∧ v.self.masterID.length < 64 ∧
      showsMyself (v.self.text.take (linecopySize - 1)) = true := by
  have hmaster : v.self.masterID ≠ [] := (v.self.tokens v.self.masterID (by simp)).1
  have hscanned : (∀ n ∈ v.before, n.mentionsMyself = false) → v.scanned = v.self := by
    intro h
    have hnone : v.before.find? SlotEntry.mentionsMyself = none :=
      List.find?_eq_none.mpr (fun n hn => by simp [h n hn])
    rw [OwnView.scanned,hnone]
    rfl
  constructor
  · intro h
    have hbefore := v.scanned_iff.mp h.scanned
    obtain ⟨reply,hreply,hid,-⟩ := h.state []
    obtain ⟨reply',hreply',hkept,-⟩ := operatorNodeState_text [] v
    rw [hreply'] at hreply
    cases hreply
    rw [hkept,hscanned hbefore] at hid
    exact ⟨hbefore, (keepMasterID_iff hmaster).mp hid, (v.slotsLine_text hbefore).mp h.copied⟩
  · rintro ⟨hbefore,hfits,hshown⟩
    have hcopied := (v.slotsLine_text hbefore).mpr hshown
    refine ⟨v.scanned_iff.mpr hbefore, fun rinfo => ?_, hcopied, fun info => ⟨_, rfl, ?_⟩⟩
    · obtain ⟨reply,hreply,hkept,hhas⟩ := operatorNodeState_text rinfo v
      rw [hscanned hbefore] at hkept hhas
      refine ⟨reply, hreply, hkept.trans ((keepMasterID_iff hmaster).mpr hfits), ?_⟩
      rw [hhas]
      simp [SlotEntry.owns]
    · change (extractMyselfSlots v.text slotsBufSize).getD [] = _
      rw [extractMyselfSlots,hcopied,Option.map_some,v.self.copySlots_line]
      rfl

def namedMyself : OwnView where
  before :=
    [{ id := nodeID '2'
       endpoint := ⟨"10.0.0.2".toList, "7002".toList, by decide, by decide, by decide, by decide⟩
       bus := "17002,myself-0.myself-internal.db.svc.cluster.local".toList
       flags := "slave".toList
       masterID := nodeID '3'
       pingSent := ['0']
       pongRecv := "1700000000002".toList
       configEpoch := ['3']
       linkState := "connected".toList
       slots := []
       id_length := by decide
       id_hex := by decide
       tokens := by decide +kernel
       names := [.slave]
       flags_names := by decide
       bracketed := by simp }]
  self :=
    { plainEntry "myself,master".toList ["0-5460".toList] (by decide) with
      names := [.myself, .master]
      flags_names := by decide
      bracketed := by decide }
  after := []
  flagged := by decide
  others := by decide

theorem namedMyself_answers :
    parseMyselfLine (some namedMyself.text) = (nodeID '3', false) ∧ namedMyself.self.masterID = ['-'] ∧
      namedMyself.self.slots = ["0-5460".toList] ∧ extractMyselfSlots namedMyself.text slotsBufSize = some [] := by
  decide +kernel

end ValkeyOperator
