import ValkeyOperator.SlotStats
import ValkeyOperator.CheckedBuffer

/-!
`extract_myself_slots` with the buffer it writes to. A write outside of the buffer fails here,
and so does a subtraction or an addition of size_t that would wrap around.
-/

set_option autoImplicit false

namespace ValkeyOperator
open TextScan

def checkedSub (a b : Nat) : Option Nat := if b ≤ a then some (a - b) else none

def checkedAdd (a b : Nat) : Option Nat := if a + b < sizeValues then some (a + b) else none

structure SlotsBuffer where
  buf : Text
  written : Nat

def putSeparator (buflen : Nat) (b : SlotsBuffer) : Option SlotsBuffer :=
  if b.written > 0 then do
    let last ← checkedSub buflen 1
    if b.written < last then do
      let buf ← CheckedBuffer.write b.buf b.written ' '
      some ⟨buf, b.written + 1⟩
    else some b
  else some b

def copyLength (buflen written tokLen : Nat) : Option Nat := do
  let stop ← checkedAdd written tokLen
  if stop ≥ buflen then do
    let room ← checkedSub buflen written
    checkedSub room 1
  else some tokLen

def putToken (buflen : Nat) (b : SlotsBuffer) (tok : Text) : Option SlotsBuffer :=
  if tok.head? ≠ some '[' ∧ tok.length > 0 then do
    let b ← putSeparator buflen b
    let count ← copyLength buflen b.written tok.length
    let buf ← CheckedBuffer.copy b.buf b.written tok count
    some ⟨buf, b.written + count⟩
  else some b

def afterToken (p : Text) : Text := (p.dropWhile (fun c => c ≠ ' ')).dropWhile (fun c => c = ' ')

theorem afterToken_length (c : Char) (p : Text) : (afterToken (c :: p)).length < (c :: p).length := by
  have hfirst := (List.dropWhile_suffix (l := p) (fun d => d ≠ ' ')).length_le
  have hblank : ∀ q : Text, (q.dropWhile (fun d => d = ' ')).length ≤ q.length :=
    fun q => (List.dropWhile_suffix (fun d => d = ' ')).length_le
  unfold afterToken
  by_cases hc : c = ' '
  · have hp := hblank p
    rw [List.dropWhile_cons_of_neg (by simp [hc]),List.dropWhile_cons_of_pos (by simp [hc]),List.length_cons]
    omega
  · have hp := hblank (p.dropWhile (fun d => d ≠ ' '))
    rw [List.dropWhile_cons_of_pos (by simp [hc]),List.length_cons]
    omega

theorem afterToken_rest {p : Text} (h : afterToken p ≠ []) :
    (p.takeWhile (fun c => c ≠ ' ')).length + 1 + (afterToken p).length ≤ p.length := by
  unfold afterToken at *
  by_cases hmem : ' ' ∈ p
  · obtain ⟨tok,rest,rfl,htok⟩ := List.eq_append_cons_of_mem hmem
    have hrest := (List.dropWhile_suffix (l := rest) (fun d => d = ' ')).length_le
    rw [takeWhile_until htok,dropWhile_until htok,List.dropWhile_cons_of_pos (by simp),List.length_append,
      List.length_cons]
    omega
  · rw [dropWhile_without hmem] at h
    exact absurd rfl h

def putTokens (buflen : Nat) (b : SlotsBuffer) : Text → Option SlotsBuffer
  | [] => some b
  | c :: p => do
    let b ← putToken buflen b ((c :: p).takeWhile (fun d => d ≠ ' '))
    putTokens buflen b (afterToken (c :: p))
termination_by p => p.length
decreasing_by exact afterToken_length c p

/-- The loop over the lines, up to the copy of the first that shows the flag. Behind the last line
nothing is left. -/
def scanLines : Text → Option Text
  | [] => none
  | c :: s =>
    let linecopy := ((c :: s).takeWhile (fun d => d ≠ '\n')).take (linecopySize - 1)
    if showsMyself linecopy then some linecopy
    else scanLines ((c :: s).dropWhile (fun d => d ≠ '\n')).tail
termination_by s => s.length
decreasing_by
  have hlen := (List.dropWhile_suffix (l := c :: s) (fun d => d ≠ '\n')).length_le
  simp only [List.length_tail,List.length_cons] at hlen ⊢
  omega

/-- The returned value and the buffer. -/
def extractMyselfSlotsInto (nodes buf : Text) (buflen : Nat) : Option (Int × Text) := do
  let buf ← CheckedBuffer.write buf 0 '\x00'
  match scanLines nodes with
  | none => some (-1, buf)
  | some linecopy => do
    let b ← putTokens buflen ⟨buf, 0⟩ (skipFields 8 linecopy)
    let buf ← CheckedBuffer.write b.buf b.written '\x00'
    some (0, buf)

theorem checkedSub_eq {a b : Nat} (h : b ≤ a) : checkedSub a b = some (a - b) := if_pos h

theorem checkedAdd_eq {a b : Nat} (h : a + b < sizeValues) : checkedAdd a b = some (a + b) := if_pos h

/-- The buffer holds the text and has room for the byte that ends it. -/
structure SlotsBuffer.Holds (buflen : Nat) (b : SlotsBuffer) (text : Text) : Prop where
  filled : CheckedBuffer.Filled buflen text b.buf
  written : b.written = text.length
  fits : text.length < buflen

namespace SlotsBuffer.Holds
variable {buflen : Nat} {b : SlotsBuffer} {text : Text} (h : b.Holds buflen text)

include h

theorem separator (hsize : buflen < sizeValues) :
    ∃ out, putSeparator buflen b = some out ∧ out.Holds buflen
      (if text.length > 0 ∧ text.length < sizeSub buflen 1 then text ++ [' '] else text) := by
  have hfits := h.fits
  rw [sizeSub_eq (by omega) hsize]
  unfold putSeparator
  rw [h.written]
  by_cases hpos : text.length > 0
  · rw [if_pos hpos,checkedSub_eq (by omega)]
    by_cases hlast : text.length < buflen - 1
    · obtain ⟨buf,hwrite,hbuf⟩ := h.filled.write (a := ' ') hfits
      refine ⟨⟨buf, text.length + 1⟩, by simp [hlast,hwrite], ?_⟩
      rw [if_pos ⟨hpos,hlast⟩]
      exact ⟨hbuf, by simp, by simp; omega⟩
    · exact ⟨b, by simp [hlast], by rw [if_neg (fun hboth => hlast hboth.2)]; exact h⟩
  · exact ⟨b, if_neg hpos, by rw [if_neg (fun hboth => hpos hboth.1)]; exact h⟩

theorem copied (hsize : buflen < sizeValues) {tok : Text} (hroom : text.length + tok.length < sizeValues) :
    ∃ out count, copyLength buflen b.written tok.length = some count ∧
      CheckedBuffer.copy b.buf b.written tok count = some out ∧
      SlotsBuffer.Holds buflen ⟨out, b.written + count⟩ (text ++ tok.take
        (if text.length + tok.length ≥ buflen then sizeSub (sizeSub buflen text.length) 1 else tok.length)) := by
  have hfits := h.fits
  have hsub : sizeSub (sizeSub buflen text.length) 1 = buflen - text.length - 1 := by
    rw [sizeSub_eq (by omega) hsize,sizeSub_eq (by omega) (by omega)]
  have hcount : ∀ count ≤ tok.length, text.length + count < buflen →
      ∃ out, CheckedBuffer.copy b.buf b.written tok count = some out ∧
        SlotsBuffer.Holds buflen ⟨out, b.written + count⟩ (text ++ tok.take count) := by
    intro count hle hlt
    obtain ⟨out,hcopy,hout⟩ := h.filled.copy hle (by omega)
    rw [h.written]
    exact ⟨out, hcopy, hout, by simp [hle], by simp; omega⟩
  unfold copyLength
  rw [hsub,h.written,checkedAdd_eq hroom]
  by_cases hcut : text.length + tok.length ≥ buflen
  · obtain ⟨out,hcopy,hout⟩ := hcount (buflen - text.length - 1) (by omega) (by omega)
    rw [if_pos hcut]
    refine ⟨out, buflen - text.length - 1, ?_, h.written ▸ hcopy, h.written ▸ hout⟩
    simp [hcut,checkedSub_eq (show text.length ≤ buflen by omega),
      checkedSub_eq (show 1 ≤ buflen - text.length by omega)]
  · obtain ⟨out,hcopy,hout⟩ := hcount tok.length (Nat.le_refl _) (by omega)
    rw [if_neg hcut]
    exact ⟨out, tok.length, by simp [hcut], h.written ▸ hcopy, h.written ▸ hout⟩

theorem token (hsize : buflen < sizeValues) {tok : Text}
    (hroom : text.length + tok.length + 1 < sizeValues) :
    ∃ out, putToken buflen b tok = some out ∧ out.Holds buflen (copyToken buflen text tok) := by
  unfold putToken copyToken
  by_cases htok : tok.head? ≠ some '[' ∧ tok.length > 0
  · rw [if_pos htok,if_pos htok]
    obtain ⟨sep,hsep,hheld⟩ := h.separator hsize
    dsimp only
    generalize hnext : (if text.length > 0 ∧ text.length < sizeSub buflen 1 then text ++ [' '] else text) =
      next at hheld ⊢
    have hlen : next.length ≤ text.length + 1 := by
      rw [← hnext]
      split
      · simp
      · omega
    obtain ⟨out,count,hcount,hcopy,hout⟩ := hheld.copied hsize (show next.length + tok.length < sizeValues by omega)
    exact ⟨⟨out, sep.written + count⟩, by simp [hsep,hcount,hcopy], hout⟩
  · rw [if_neg htok,if_neg htok]
    exact ⟨b, rfl, h⟩

end SlotsBuffer.Holds

theorem copyToken_empty (buflen : Nat) (text : Text) : copyToken buflen text [] = text :=
  copyToken_skip rfl buflen text

theorem splitOn_blank (p : Text) : (' ' :: p).splitOn ' ' = [] :: p.splitOn ' ' :=
  splitOn_line List.not_mem_nil p

theorem foldl_copyToken_blanks (buflen : Nat) (text p : Text) :
    ((p.dropWhile (fun c => c = ' ')).splitOn ' ').foldl (copyToken buflen) text =
      (p.splitOn ' ').foldl (copyToken buflen) text := by
  induction p with
  | nil => rfl
  | cons c p ih =>
    by_cases hc : c = ' '
    · rw [hc,List.dropWhile_cons_of_pos (by simp),splitOn_blank,List.foldl_cons,copyToken_empty,ih]
    · rw [List.dropWhile_cons_of_neg (by simpa using hc)]

theorem foldl_copyToken_first (buflen : Nat) (text p : Text) :
    (p.splitOn ' ').foldl (copyToken buflen) text = ((afterToken p).splitOn ' ').foldl (copyToken buflen)
      (copyToken buflen text (p.takeWhile (fun c => c ≠ ' '))) := by
  unfold afterToken
  by_cases hmem : ' ' ∈ p
  · obtain ⟨tok,rest,rfl,htok⟩ := List.eq_append_cons_of_mem hmem
    rw [takeWhile_until htok,dropWhile_until htok,splitOn_line htok,List.foldl_cons,foldl_copyToken_blanks,
      splitOn_blank,List.foldl_cons,copyToken_empty]
  · rw [takeWhile_without hmem,dropWhile_without hmem,List.splitOn_eq_singleton hmem]
    exact (copyToken_empty buflen _).symm

theorem copyToken_length {buflen : Nat} (hsize : buflen < sizeValues) {text : Text}
    (hfits : text.length < buflen) (tok : Text) :
    (copyToken buflen text tok).length ≤ text.length + tok.length + 1 := by
  obtain ⟨m,rfl⟩ : ∃ m, buflen = m + 1 := ⟨buflen - 1, by omega⟩
  cases htok : isRange tok with
  | false =>
    rw [copyToken_skip htok]
    omega
  | true =>
    have hsep : (separator text).length ≤ 1 := by
      unfold separator
      split <;> simp
    rw [copyToken_take hsize (by omega) htok]
    refine (List.length_take_le' _ _).trans ?_
    simp only [List.length_append]
    omega

/-- The loop never fails. The text written so far and the rest of the line are together no longer
than the line, so that no sum wraps around. -/
theorem putTokens_holds {buflen : Nat} (hsize : buflen < sizeValues) (p : Text) {b : SlotsBuffer} {text : Text}
    (h : b.Holds buflen text) (hroom : p ≠ [] → text.length + p.length + 1 < sizeValues) :
    ∃ out, putTokens buflen b p = some out ∧
      out.Holds buflen ((p.splitOn ' ').foldl (copyToken buflen) text) := by
  induction hn : p.length using Nat.strongRecOn generalizing p b text with
  | ind n ih =>
    cases p with
    | nil => exact ⟨b, by rw [putTokens], by simpa [copyToken_empty] using h⟩
    | cons c p =>
      have hline := hroom (by simp)
      have htok := (List.takeWhile_prefix (l := c :: p) (fun d => d ≠ ' ')).length_le
      obtain ⟨next,hput,hnext⟩ := h.token hsize
        (show text.length + ((c :: p).takeWhile (fun d => d ≠ ' ')).length + 1 < sizeValues by omega)
      have hlonger := copyToken_length hsize h.fits ((c :: p).takeWhile (fun d => d ≠ ' '))
      have hafter := afterToken_length c p
      have hrest : afterToken (c :: p) ≠ [] →
          (copyToken buflen text ((c :: p).takeWhile (fun d => d ≠ ' '))).length +
            (afterToken (c :: p)).length + 1 < sizeValues := by
        intro hne
        have hle := afterToken_rest hne
        omega
      obtain ⟨out,hputs,hout⟩ := ih _ (by omega) (afterToken (c :: p)) hnext hrest rfl
      refine ⟨out, ?_, ?_⟩
      · rw [putTokens,hput]
        exact hputs
      · rw [foldl_copyToken_first]
        exact hout

theorem slotsLine_first (s : Text) : slotsLine s =
    if showsMyself ((s.takeWhile (fun d => d ≠ '\n')).take (linecopySize - 1)) then
      some ((s.takeWhile (fun d => d ≠ '\n')).take (linecopySize - 1))
    else slotsLine (s.dropWhile (fun d => d ≠ '\n')).tail := by
  have hempty : slotsLine [] = none := by decide
  by_cases hmem : '\n' ∈ s
  · obtain ⟨line,rest,rfl,hline⟩ := List.eq_append_cons_of_mem hmem
    rw [takeWhile_until hline,dropWhile_until hline,List.tail_cons]
    unfold slotsLine
    rw [splitOn_line hline,List.map_cons,List.find?_cons]
    cases hshows : showsMyself (line.take (linecopySize - 1)) <;> rfl
  · rw [takeWhile_without hmem,dropWhile_without hmem,List.tail_nil,hempty]
    unfold slotsLine
    rw [List.splitOn_eq_singleton hmem,List.map_cons,List.find?_cons]
    cases hshows : showsMyself (s.take (linecopySize - 1)) <;> rfl

theorem scanLines_eq (nodes : Text) : scanLines nodes = slotsLine nodes := by
  induction hn : nodes.length using Nat.strongRecOn generalizing nodes with
  | ind n ih =>
    cases nodes with
    | nil =>
      rw [scanLines]
      decide
    | cons c s =>
      have hstep : slotsLine (c :: s) =
          if showsMyself (((c :: s).takeWhile (fun d => d ≠ '\n')).take (linecopySize - 1)) then
            some (((c :: s).takeWhile (fun d => d ≠ '\n')).take (linecopySize - 1))
          else slotsLine ((c :: s).dropWhile (fun d => d ≠ '\n')).tail := slotsLine_first _
      have hshorter : ((c :: s).dropWhile (fun d => d ≠ '\n')).tail.length < n := by
        have hle := (List.dropWhile_suffix (l := c :: s) (fun d => d ≠ '\n')).length_le
        simp only [List.length_tail,List.length_cons] at hle hn ⊢
        omega
      rw [scanLines,hstep,ih _ hshorter _ rfl]

def lineFields (line : Text) : List Text :=
  if line.head? = some ' ' then [] :: words line else words line

theorem words_skipFields_succ (p : Text) (field : Nat) :
    words (skipFields (field + 1) p) = (lineFields p).drop (field + 1) := by
  unfold lineFields
  by_cases h : p.head? = some ' '
  · obtain ⟨q,rfl⟩ : ∃ q, p = ' ' :: q := by
      cases p with
      | nil => cases h
      | cons c q => exact ⟨q, by rw [Option.some.inj h]⟩
    have hskip : skipFields (field + 1) (' ' :: q) = skipFields field (q.dropWhile (fun d => d = ' ')) := by
      rw [skipFields,List.dropWhile_cons_of_neg (by simp),List.dropWhile_cons_of_pos (by simp)]
      simp
    rw [if_pos h,hskip,words_skipFields (head_dropWhile_blank q),words_dropWhile,words_blank,List.drop_succ_cons]
  · rw [if_neg h,words_skipFields h]

/-- The slots that a line shows: its fields from the ninth on, without those that are on their way. -/
def lineSlots (line : Text) : Text :=
  [' '].intercalate (((lineFields line).drop 8).filter (fun w => w.head? ≠ some '['))

theorem copySlots_line {buflen : Nat} (hpos : 1 ≤ buflen) (hsize : buflen < sizeValues) (line : Text) :
    copySlots buflen (skipFields 8 line) = (lineSlots line).take (buflen - 1) := by
  obtain ⟨m,rfl⟩ : ∃ m, buflen = m + 1 := ⟨buflen - 1, by omega⟩
  rw [copySlots_eq hsize,filter_isRange,words_skipFields_succ]
  rfl

theorem skipFields_suffix (field : Nat) (p : Text) : skipFields field p <:+ p := by
  induction field generalizing p with
  | zero => exact List.suffix_refl p
  | succ field ih =>
    cases p with
    | nil => exact List.suffix_refl []
    | cons c p =>
      rw [skipFields]
      · exact (ih _).trans ((List.dropWhile_suffix _).trans (List.dropWhile_suffix _))
      · simp

theorem slotsLine_length {nodes linecopy : Text} (h : slotsLine nodes = some linecopy) :
    linecopy.length < linecopySize := by
  obtain ⟨line,-,rfl⟩ := List.mem_map.mp (List.mem_of_find?_eq_some h)
  have hle := List.length_take_le (linecopySize - 1) line
  have hsize : linecopySize = 1024 := rfl
  omega

theorem extractMyselfSlotsInto_holds (nodes : Text) {buf : Text} {buflen : Nat} (hpos : 1 ≤ buflen)
    (hsize : buflen < sizeValues) (hbuf : buf.length = buflen) :
    ∃ ret out, extractMyselfSlotsInto nodes buf buflen = some (ret, out) ∧ out.length = buflen ∧
      match extractMyselfSlots nodes buflen with
      | none => ret = -1
      | some slots => ret = 0 ∧ slots ++ ['\x00'] <+: out := by
  have hempty : CheckedBuffer.Filled buflen ([] : Text) buf := ⟨hbuf, List.nil_prefix⟩
  obtain ⟨first,hwrite,hfirst⟩ := hempty.write (a := '\x00') hpos
  have hwrite' : CheckedBuffer.write buf 0 '\x00' = some first := hwrite
  unfold extractMyselfSlotsInto extractMyselfSlots
  rw [scanLines_eq,hwrite']
  cases hline : slotsLine nodes with
  | none => exact ⟨-1, first, rfl, hfirst.length, rfl⟩
  | some linecopy =>
    have hshort : (skipFields 8 linecopy).length < linecopySize :=
      Nat.lt_of_le_of_lt (skipFields_suffix 8 linecopy).length_le (slotsLine_length hline)
    have hstart : SlotsBuffer.Holds buflen ⟨first, 0⟩ [] :=
      ⟨⟨hfirst.length, List.nil_prefix⟩, rfl, hpos⟩
    have hroom : skipFields 8 linecopy ≠ [] →
        ([] : Text).length + (skipFields 8 linecopy).length + 1 < sizeValues := by
      intro _
      unfold linecopySize at hshort
      unfold sizeValues
      simp only [List.length_nil]
      omega
    obtain ⟨b,hput,hb⟩ := putTokens_holds hsize (skipFields 8 linecopy) hstart hroom
    obtain ⟨out,hend,hout⟩ := hb.filled.write (a := '\x00') hb.fits
    rw [← hb.written] at hend
    refine ⟨0, out, ?_, hout.length, rfl, hout.front⟩
    simp [hput,hend]

def cString (buf : Text) : Text := buf.takeWhile (fun c => c ≠ '\x00')

theorem lineSlots_zero {line : Text} (h : '\x00' ∉ line) : '\x00' ∉ lineSlots line := by
  have hwords : ∀ w ∈ words line, '\x00' ∉ w := by
    intro w hw hmem
    exact h (mem_of_mem_splitOn (List.mem_of_mem_filter hw) hmem)
  refine not_mem_intercalate (by decide) (fun w hw => ?_)
  have hfield := List.mem_of_mem_drop (List.mem_of_mem_filter hw)
  unfold lineFields at hfield
  split at hfield
  · rcases List.mem_cons.mp hfield with rfl | hin
    · exact List.not_mem_nil
    · exact hwords w hin
  · exact hwords w hfield

theorem slotsLine_zero {nodes linecopy : Text} (h : slotsLine nodes = some linecopy) (hnodes : '\x00' ∉ nodes) :
    '\x00' ∉ linecopy := by
  obtain ⟨line,hline,rfl⟩ := List.mem_map.mp (List.mem_of_find?_eq_some h)
  exact fun hmem => hnodes (mem_of_mem_splitOn hline (List.mem_of_mem_take hmem))

/-- Neither the nodes text nor the size of the buffer leads to a failing access. -/
theorem extractMyselfSlotsInto_safe {nodes buf : Text} {buflen : Nat} (hnodes : '\x00' ∉ nodes) (hpos : 1 ≤ buflen)
    (hsize : buflen < sizeValues) (hbuf : buf.length = buflen) :
    ∃ ret out, extractMyselfSlotsInto nodes buf buflen = some (ret, out) ∧ out.length = buflen ∧
      match slotsLine nodes with
      | none => ret = -1
      | some linecopy => ret = 0 ∧ cString out = (lineSlots linecopy).take (buflen - 1) := by
  obtain ⟨ret,out,hrun,hlen,hheld⟩ := extractMyselfSlotsInto_holds nodes hpos hsize hbuf
  refine ⟨ret, out, hrun, hlen, ?_⟩
  unfold extractMyselfSlots at hheld
  cases hline : slotsLine nodes with
  | none =>
    rw [hline] at hheld
    exact hheld
  | some linecopy =>
    rw [hline] at hheld
    obtain ⟨hret,rest,hout⟩ := hheld
    dsimp only at hout
    have hzero : '\x00' ∉ (lineSlots linecopy).take (buflen - 1) := fun hmem =>
      lineSlots_zero (slotsLine_zero hline hnodes) (List.mem_of_mem_take hmem)
    rw [copySlots_line hpos hsize,List.append_assoc,List.singleton_append] at hout
    refine ⟨hret, ?_⟩
    rw [cString,← hout,takeWhile_until hzero]

def tightNodes : Text :=
  "a1 10.0.0.1:6379@16379 myself,master - 0 0 1 connected 0-5460 [93->-b2] 7000\n".toList

theorem tightNodes_separator :
    ∃ out, extractMyselfSlotsInto tightNodes (List.replicate 8 'x') 8 = some (0, out) ∧
      cString out = "0-5460 ".toList := by
  obtain ⟨ret,out,hrun,-,hread⟩ := extractMyselfSlotsInto_safe (show '\x00' ∉ tightNodes by decide)
    (show 1 ≤ 8 by decide) (by decide) (show (List.replicate 8 'x').length = 8 by decide)
  have hline : slotsLine tightNodes = some tightNodes.dropLast := by decide +kernel
  have hslots : (lineSlots tightNodes.dropLast).take 7 = "0-5460 ".toList := by decide +kernel
  rw [hline] at hread
  exact ⟨out, by rw [hrun,hread.1], hread.2.trans hslots⟩

end ValkeyOperator
