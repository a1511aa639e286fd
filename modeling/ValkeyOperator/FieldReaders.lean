import ValkeyOperator.ModuleText
import ValkeyOperator.ClusterText

/-!
One field of an INFO text, as the server modules look for it and as the operator does: the
modules take the first place where the letters of its name stand.
-/

set_option autoImplicit false

namespace ValkeyOperator
open TextScan

theorem stripVerbatimPrefix_line (first rest : Text) :
    ∃ body, body <:+ first ∧ stripVerbatimPrefix (first ++ '\n' :: rest) = body ++ '\n' :: rest := by
  rcases stripVerbatimPrefix_cases (first ++ '\n' :: rest) with hs | ⟨format,tail,hs,-,hline,hstrip⟩
  · exact ⟨first, List.suffix_refl first, hs⟩
  · rw [hstrip]
    have hline' : '\n' ∉ format ++ [':'] := by simpa using hline
    have happ : first ++ '\n' :: rest = (format ++ [':']) ++ tail := by simpa using hs
    rcases List.append_eq_append_iff.mp happ with ⟨c,hfront,hc⟩ | ⟨body,hfirst,htail⟩
    · cases c with
      | nil => exact ⟨[], List.nil_suffix, by simpa using hc.symm⟩
      | cons x c =>
        have hx : '\n' = x := (List.cons.inj hc).1
        rw [hfront,hx] at hline'
        exact absurd (by simp) hline'
    · exact ⟨body, ⟨format ++ [':'], hfirst.symm⟩, htail⟩

/-- A line of INFO. Both line ends occur. -/
structure InfoLine where
  key : Text
  value : Text
  crlf : Bool
  key_ne : key ≠ []
  key_chars : ∀ c ∈ key, isSpace c = false ∧ c ≠ ':'
  value_line : '\n' ∉ value

def lineEnd (crlf : Bool) : Text := if crlf then ['\r'] else []

def InfoLine.body (l : InfoLine) : Text := l.key ++ ':' :: (l.value ++ lineEnd l.crlf)

def renderInfo (ls : List InfoLine) : Text := printLines (ls.map InfoLine.body)

theorem renderInfo_append (ls ms : List InfoLine) : renderInfo (ls ++ ms) = renderInfo ls ++ renderInfo ms := by
  simp [renderInfo,printLines]

theorem renderInfo_cons (l : InfoLine) (ls : List InfoLine) :
    renderInfo (l :: ls) = l.body ++ '\n' :: renderInfo ls := by
  simp [renderInfo,printLines]

theorem renderInfo_end (ls : List InfoLine) :
    renderInfo ls = [] ∨ (renderInfo ls).getLast? = some '\n' := by
  rcases List.eq_nil_or_concat ls with rfl | ⟨init,l,rfl⟩
  · exact .inl rfl
  · right
    rw [List.concat_eq_append,renderInfo_append,renderInfo_cons]
    simp [renderInfo,printLines]

theorem lineEnd_newline (crlf : Bool) : '\n' ∉ lineEnd crlf := by
  cases crlf <;> decide

theorem lineEnd_space (crlf : Bool) : ∀ c ∈ lineEnd crlf, isSpace c = true :=
  List.all_eq_true.mp (by cases crlf <;> decide)

theorem lineEnd_colon (crlf : Bool) : ':' ∉ lineEnd crlf := by
  cases crlf <;> decide

namespace InfoLine
variable (l : InfoLine)

theorem body_newline : '\n' ∉ l.body := by
  have hkey : '\n' ∉ l.key := fun h => absurd (l.key_chars _ h).1 (by decide)
  simp only [body,List.mem_append,List.mem_cons,not_or]
  exact ⟨hkey, by decide, l.value_line, lineEnd_newline l.crlf⟩

theorem key_colon : ':' ∉ l.key := fun h => (l.key_chars _ h).2 rfl

theorem key_token : IsToken (l.key ++ [':']) := by
  refine ⟨by simp, fun c hc => ?_⟩
  rcases List.mem_append.mp hc with hc | hc
  · exact (l.key_chars c hc).1
  · rw [List.mem_singleton.mp hc]
    decide

end InfoLine

theorem parseFieldLL_found {info field rest : Text} (h : strstr field info = some (field ++ ':' :: rest)) :
    parseFieldLL info field = atoll rest := by
  simp [parseFieldLL,fieldValue,h]

theorem parseFieldLL_longer {info field rest : Text} {c : Char} (hc : c ≠ ':')
    (h : strstr field info = some (field ++ c :: rest)) : parseFieldLL info field = -1 := by
  have hvalue : fieldValue info field = none := by
    unfold fieldValue
    rw [h]
    dsimp only
    rw [List.drop_left]
    split
    · rename_i heq
      exact absurd (List.cons.inj heq).1 hc
    · rfl
  rw [parseFieldLL,hvalue]

theorem parseFieldLL_neg_iff (info field : Text) : parseFieldLL info field = -1 ↔
    ∀ rest, strstr field info = some (field ++ ':' :: rest) → atoll rest = -1 := by
  constructor
  · intro h rest hfound
    rw [← parseFieldLL_found hfound,h]
  · intro h
    cases hs : strstr field info with
    | none => simp [parseFieldLL,fieldValue,hs]
    | some p =>
      obtain ⟨t,rfl⟩ := strstr_front hs
      cases t with
      | nil => simp [parseFieldLL,fieldValue,hs]
      | cons c t =>
        by_cases hc : c = ':'
        · subst hc
          rw [parseFieldLL_found hs,h t hs]
        · exact parseFieldLL_longer hc hs

def found (field line : Text) : Option Text :=
  (cutPrefix (trimSpace line) (field ++ [':'])).map trimSpace

theorem findField_eq (info field : Text) : findField info (field ++ [':']) =
    ((stripVerbatimPrefix info).splitOn '\n').findSome? (found field) := by
  unfold findField lines
  rw [List.findSome?_map]
  rfl

theorem found_within {field line value : Text} (h : found field line = some value) :
    field ++ [':'] <:+: line := by
  unfold found at h
  obtain ⟨r,hcut,-⟩ := Option.map_eq_some_iff.mp h
  have htrim := trimSpace_infix line
  rw [cutPrefix_eq hcut] at htrim
  exact (List.prefix_append _ r).isInfix.trans htrim

theorem found_without_colon {field line : Text} (h : ':' ∉ line) : found field line = none := by
  cases hf : found field line with
  | none => rfl
  | some value => exact absurd ((found_within hf).subset (by simp)) h

def IsName (field : Text) : Prop := ∀ l : InfoLine, l.key ++ ':' :: l.value ≠ field

theorem isName_of_colon {field : Text} (h : ':' ∉ field) : IsName field := by
  rintro l rfl
  exact h (by simp)

theorem InfoLine.key_of_front (l : InfoLine) {field tail r : Text} (h : IsName field)
    (htail : '\n' ∉ tail) (heq : l.key ++ ':' :: tail = field ++ ':' :: r) : l.key = field := by
  by_cases hf : ':' ∈ field
  · -- the colon of the key stands in the name, so that the rest of the name is a value
    obtain ⟨k,v,rfl,hk⟩ := List.eq_append_cons_of_mem hf
    have hsplit : (k ++ ':' :: v) ++ ':' :: r = k ++ ':' :: (v ++ ':' :: r) := by simp
    rw [hsplit] at heq
    obtain ⟨rfl,rfl⟩ := append_cons_inj l.key_colon hk heq
    have hline : '\n' ∉ v := fun hmem => htail (List.mem_append_left _ hmem)
    exact absurd rfl (h ⟨l.key, v, l.crlf, l.key_ne, l.key_chars, hline⟩)
  · exact (append_cons_inj l.key_colon hf heq).1

theorem InfoLine.found_body (l : InfoLine) {field : Text} (h : IsName field) :
    found field l.body = if l.key = field then some (trimSpace l.value) else none := by
  have hbody : l.body = (l.key ++ [':']) ++ (l.value ++ lineEnd l.crlf) := by simp [body]
  unfold found
  rw [hbody,trimSpace_word l.key_token,List.append_assoc,List.singleton_append]
  split
  · rename_i heq
    rw [← heq,cutPrefix_colon l.key_colon l.key_colon,if_pos rfl,Option.map_some,trimSpace_rdropWhile,
      trimSpace_blank (lineEnd_space l.crlf)]
  · rename_i hne
    cases hcut : cutPrefix (l.key ++ ':' :: (l.value ++ lineEnd l.crlf).rdropWhile isSpace) (field ++ [':']) with
    | none => rfl
    | some r =>
      have heq := cutPrefix_eq hcut
      rw [List.append_assoc,List.singleton_append] at heq
      refine absurd (l.key_of_front h (fun hmem => ?_) heq) hne
      have hin := (List.rdropWhile_prefix isSpace _).subset hmem
      exact (List.mem_append.mp hin).elim l.value_line (lineEnd_newline l.crlf)

def firstValue (field : Text) (ls : List InfoLine) : Option Text :=
  (ls.find? (fun l => l.key = field)).map (fun l => trimSpace l.value)

theorem firstValue_none {field : Text} {ls : List InfoLine} (h : ∀ l ∈ ls, l.key ≠ field) :
    firstValue field ls = none := by
  unfold firstValue
  rw [List.find?_eq_none.mpr (fun l hl => by simpa using h l hl)]
  rfl

theorem findSome_render {field : Text} (h : IsName field) (ls : List InfoLine) (rest : Text) :
    ((renderInfo ls ++ rest).splitOn '\n').findSome? (found field) =
      (firstValue field ls).or ((rest.splitOn '\n').findSome? (found field)) := by
  induction ls with
  | nil => rfl
  | cons l ls ih =>
    rw [renderInfo_cons,List.append_assoc,List.cons_append,splitOn_line l.body_newline,List.findSome?_cons,
      l.found_body h]
    by_cases hkey : l.key = field
    · simp [hkey,firstValue]
    · simpa [hkey,firstValue] using ih

theorem findSome_end (field : Text) : (([] : Text).splitOn '\n').findSome? (found field) = none := by
  have hend : ([] : Text).splitOn '\n' = [[]] := by decide
  rw [hend,List.findSome?_cons,found_without_colon (by simp)]
  rfl

theorem findSome_renderInfo {field : Text} (h : IsName field) (ls : List InfoLine) :
    ((renderInfo ls).splitOn '\n').findSome? (found field) = firstValue field ls := by
  have hrender := findSome_render h ls []
  rwa [List.append_nil,findSome_end,Option.or_none] at hrender

theorem findSome_others {ls : List InfoLine} {field : Text} (hf : ':' ∉ field)
    (h : ∀ l ∈ ls, l.key ≠ field) (rest : Text) :
    ((renderInfo ls ++ rest).splitOn '\n').findSome? (found field) =
      (rest.splitOn '\n').findSome? (found field) := by
  rw [findSome_render (isName_of_colon hf),firstValue_none h,Option.none_or]

theorem value_colon {v : Text} {n : Int} (h : parseInt64 v = some n) : ':' ∉ v := by
  obtain ⟨ds,-,hall,hv,-⟩ := parseInt64_iff.mp h
  have hds : ':' ∉ ds := by
    intro hmem
    exact absurd (hall _ hmem) (by decide)
  rcases hv with ⟨rfl,-⟩ | ⟨rfl | rfl,-⟩
  · simpa using hds
  · simpa using hds
  · exact hds

theorem InfoLine.stripVerbatimPrefix_own {l : InfoLine} {n : Int} (hvalue : parseInt64 l.value = some n)
    (hthree : (utf8 l.key).length ≠ 3) (rest : Text) :
    stripVerbatimPrefix (l.body ++ '\n' :: rest) = l.body ++ '\n' :: rest := by
  have hbody : l.body ++ '\n' :: rest = l.key ++ ':' :: ((l.value ++ lineEnd l.crlf ++ ['\n']) ++ rest) := by
    simp [body]
  rcases stripVerbatimPrefix_cases (l.body ++ '\n' :: rest) with hs | ⟨format,tail,hs,hlen,-,-⟩
  · exact hs
  · exfalso
    rw [hbody] at hs
    by_cases hf : ':' ∈ format
    · -- a second colon would have to stand in the first two characters behind the key's
      obtain ⟨a,b,rfl,ha⟩ := List.eq_append_cons_of_mem hf
      have hformat : (a ++ ':' :: b) ++ ':' :: tail = a ++ ':' :: (b ++ ':' :: tail) := by simp
      rw [hformat] at hs
      obtain ⟨rfl,hrest⟩ := append_cons_inj l.key_colon ha hs
      have hshort : b.length < 2 := by
        have hle := length_le_utf8 (l.key ++ ':' :: b)
        have hpos := List.length_pos_of_ne_nil l.key_ne
        rw [List.length_append,List.length_cons] at hle
        omega
      have htwo : 2 ≤ (l.value ++ lineEnd l.crlf ++ ['\n']).length := by
        have hpos := List.length_pos_of_ne_nil (parseInt64_token hvalue).1
        simp only [List.length_append,List.length_singleton]
        omega
      have hmem := mem_take_append_cons hshort ':' tail
      rw [← hrest,List.take_append_of_le_length htwo] at hmem
      have hcolon : ':' ∉ l.value ++ lineEnd l.crlf ++ ['\n'] := by
        simpa [value_colon hvalue] using lineEnd_colon l.crlf
      exact hcolon (List.mem_of_mem_take hmem)
    · exact hthree ((append_cons_inj l.key_colon hf hs).1 ▸ hlen)

theorem parseClusterInfoInt_of_find {info field value : Text} {n : Int}
    (h : findField info (field ++ [':']) = some value) (hvalue : parseInt64 value = some n) :
    parseClusterInfoInt info field = n := by
  unfold parseClusterInfoInt
  rw [h]
  dsimp only
  rw [hvalue,Option.getD_some]

theorem InfoLine.findSome_own {l : InfoLine} {field : Text} {n : Int} (hkey : l.key = field)
    (hvalue : parseInt64 l.value = some n) (rest : Text) :
    ((l.body ++ '\n' :: rest).splitOn '\n').findSome? (found field) = some l.value := by
  have hname : IsName field := isName_of_colon (hkey ▸ l.key_colon)
  rw [splitOn_line l.body_newline,List.findSome?_cons,l.found_body hname,if_pos hkey,
    trimSpace_token (parseInt64_token hvalue)]

/-- A field name with the lines around the place of its own. -/
structure InfoFrame where
  field : Text
  before : List InfoLine
  after : List InfoLine
  field_ne : field ≠ []
  field_chars : ∀ c ∈ field, isSpace c = false ∧ c ≠ ':'
  others : ∀ l ∈ before ++ after, l.key ≠ field

namespace InfoFrame
variable (f : InfoFrame)

theorem field_colon : ':' ∉ f.field := fun h => (f.field_chars _ h).2 rfl

theorem field_newline : '\n' ∉ f.field := fun h => absurd (f.field_chars _ h).1 (by decide)

def text (l : InfoLine) : Text := renderInfo (f.before ++ l :: f.after)

theorem text_eq (l : InfoLine) :
    f.text l = renderInfo f.before ++ (l.body ++ '\n' :: renderInfo f.after) := by
  rw [text,renderInfo_append,renderInfo_cons]

def line (value : Text) (h : '\n' ∉ value) : InfoLine :=
  ⟨f.field, value, true, f.field_ne, f.field_chars, h⟩

/-- The letters of the name do not stand in any line in front. -/
def Clear : Prop := ¬ f.field <:+: renderInfo f.before

variable {f}

theorem Clear.strstr (h : f.Clear) (rest : Text) :
    strstr f.field (renderInfo f.before ++ rest) = TextScan.strstr f.field rest :=
  strstr_past_lines f.field_newline (renderInfo_end f.before) h rest

theorem Clear.parseFieldLL (h : f.Clear) {l : InfoLine} {n : Int} (hkey : l.key = f.field)
    (hvalue : parseInt64 l.value = some n) : parseFieldLL (f.text l) f.field = n := by
  have hfound : TextScan.strstr f.field (f.text l) =
      some (f.field ++ ':' :: (l.value ++ (lineEnd l.crlf ++ '\n' :: renderInfo f.after))) := by
    rw [f.text_eq,h.strstr,InfoLine.body,hkey,List.append_assoc,strstr_self f.field_ne]
    simp
  rw [parseFieldLL_found hfound]
  refine atoll_parseInt64 hvalue (fun c hc => ?_)
  cases hcrlf : l.crlf with
  | false =>
    have hend : '\n' = c := by simpa [hcrlf,lineEnd] using hc
    rw [← hend]
    decide
  | true =>
    have hend : '\r' = c := by simpa [hcrlf,lineEnd] using hc
    rw [← hend]
    decide

/-- If the name stands in a line in front, the value of the field has no influence on what is read. -/
theorem parseFieldLL_unclear (h : ¬ f.Clear) :
    ∃ r, ∀ l : InfoLine, l.key = f.field → ValkeyOperator.parseFieldLL (f.text l) f.field = r := by
  obtain ⟨skipped,tail,hsplit,htail⟩ := strstr_within f.field_ne (not_not.mp h)
  have hne : tail ≠ [] := by
    -- the text ends with a line feed, and the name has none
    rintro rfl
    have hlast := renderInfo_end f.before
    rw [hsplit,List.append_nil,List.getLast?_append_of_ne_nil _ f.field_ne] at hlast
    rcases hlast with hnil | hlast
    · exact f.field_ne (List.append_eq_nil_iff.mp hnil).2
    · exact f.field_newline (List.mem_of_getLast? hlast)
  obtain ⟨c,tail,rfl⟩ := List.exists_cons_of_ne_nil hne
  by_cases hc : c = ':'
  · subst hc
    refine ⟨atoll (tail ++ f.field ++ [':']), fun l hkey => ?_⟩
    have hfound : TextScan.strstr f.field (f.text l) = some (f.field ++ ':' :: (tail ++ f.field ++
        ':' :: (l.value ++ (lineEnd l.crlf ++ '\n' :: renderInfo f.after)))) := by
      rw [f.text_eq,htail,InfoLine.body,hkey]
      simp
    rw [parseFieldLL_found hfound,atoll_colon]
  · refine ⟨-1, fun l hkey => ?_⟩
    have hfound := htail (l.body ++ '\n' :: renderInfo f.after)
    rw [← f.text_eq,List.cons_append] at hfound
    exact parseFieldLL_longer hc hfound

theorem Clear.parseClusterInfoInt (h : f.Clear) (hthree : f.before = [] → (utf8 f.field).length ≠ 3)
    {l : InfoLine} {n : Int} (hkey : l.key = f.field) (hvalue : parseInt64 l.value = some n) :
    parseClusterInfoInt (f.text l) f.field = n := by
  refine parseClusterInfoInt_of_find ?_ hvalue
  rw [findField_eq,f.text_eq]
  cases hb : f.before with
  | nil =>
    have hnone : renderInfo [] = [] := rfl
    rw [hnone,List.nil_append,InfoLine.stripVerbatimPrefix_own hvalue (hkey ▸ hthree hb)]
    exact InfoLine.findSome_own hkey hvalue _
  | cons m ms =>
    obtain ⟨body,hbody,hstrip⟩ := stripVerbatimPrefix_line m.body
      (renderInfo ms ++ (l.body ++ '\n' :: renderInfo f.after))
    have hline : '\n' ∉ body := fun hmem => m.body_newline (hbody.subset hmem)
    have hnone : found f.field body = none := by
      cases hf : found f.field body with
      | none => rfl
      | some value =>
        refine absurd ?_ h
        rw [hb,renderInfo_cons]
        exact (List.prefix_append f.field [':']).isInfix.trans ((found_within hf).trans
          (hbody.isInfix.trans (List.prefix_append _ _).isInfix))
    have hothers : ∀ m' ∈ ms, m'.key ≠ f.field := fun m' hm' => f.others m' (by simp [hb,hm'])
    rw [renderInfo_cons,List.append_assoc,List.cons_append,hstrip,splitOn_line hline,List.findSome?_cons,
      hnone]
    dsimp only
    rw [findSome_others f.field_colon hothers]
    exact InfoLine.findSome_own hkey hvalue _

/-- A name of three bytes on the first line is cut off with its colon. -/
theorem parseClusterInfoInt_cut (hb : f.before = []) (hthree : (utf8 f.field).length = 3) {l : InfoLine}
    {n : Int} (hkey : l.key = f.field) (hvalue : parseInt64 l.value = some n) :
    ValkeyOperator.parseClusterInfoInt (f.text l) f.field = 0 := by
  have hstrip : stripVerbatimPrefix (f.text l) =
      (l.value ++ lineEnd l.crlf) ++ '\n' :: renderInfo f.after := by
    have htext : f.text l = f.field ++ ':' :: ((l.value ++ lineEnd l.crlf) ++ '\n' :: renderInfo f.after) := by
      rw [f.text_eq,hb,InfoLine.body,hkey]
      simp [renderInfo,printLines]
    rw [htext,stripVerbatimPrefix_cut hthree f.field_newline (by simp)]
  have hline : '\n' ∉ l.value ++ lineEnd l.crlf := by
    simp only [List.mem_append,not_or]
    exact ⟨l.value_line, lineEnd_newline l.crlf⟩
  have hcolon : ':' ∉ l.value ++ lineEnd l.crlf := by
    simp only [List.mem_append,not_or]
    exact ⟨value_colon hvalue, lineEnd_colon l.crlf⟩
  have hothers : ∀ m ∈ f.after, m.key ≠ f.field := fun m hm => f.others m (by simp [hm])
  unfold ValkeyOperator.parseClusterInfoInt
  rw [findField_eq,hstrip,splitOn_line hline,List.findSome?_cons,found_without_colon hcolon]
  dsimp only
  rw [findSome_renderInfo (isName_of_colon f.field_colon),firstValue_none hothers]

end InfoFrame

/-- Both readers take the value of the field from its own line, for every value that it may have,
and the module's gives -1 without it. -/
structure InfoFrame.Exact (f : InfoFrame) : Prop where
  held : ∀ (l : InfoLine) (n : Int), l.key = f.field → parseInt64 l.value = some n →
    parseFieldLL (renderInfo (f.before ++ l :: f.after)) f.field = n ∧
      parseClusterInfoInt (renderInfo (f.before ++ l :: f.after)) f.field = n
  missing : parseFieldLL (renderInfo (f.before ++ f.after)) f.field = -1

theorem InfoFrame.exact_iff (f : InfoFrame) :
    f.Exact ↔ contains (renderInfo f.before) f.field = false ∧ (f.before = [] → (utf8 f.field).length ≠ 3) ∧
      ∀ rest, strstr f.field (renderInfo f.after) = some (f.field ++ ':' :: rest) → atoll rest = -1 := by
  have hclear : contains (renderInfo f.before) f.field = false ↔ f.Clear := by
    unfold contains InfoFrame.Clear
    exact decide_eq_false_iff_not
  have hmissing : f.Clear → (parseFieldLL (renderInfo (f.before ++ f.after)) f.field = -1 ↔
      ∀ rest, strstr f.field (renderInfo f.after) = some (f.field ++ ':' :: rest) → atoll rest = -1) := by
    intro h
    rw [parseFieldLL_neg_iff,renderInfo_append,h.strstr]
  rw [hclear]
  constructor
  · intro h
    have hread : parseInt64 ['0'] = some 0 ∧ parseInt64 ['1'] = some 1 := by decide
    have hzero := h.held (f.line ['0'] (by decide)) 0 rfl hread.1
    have hone := h.held (f.line ['1'] (by decide)) 1 rfl hread.2
    have hc : f.Clear := by
      by_contra hno
      obtain ⟨r,hr⟩ := InfoFrame.parseFieldLL_unclear hno
      have hzero' := hr (f.line ['0'] (by decide)) rfl
      have hone' := hr (f.line ['1'] (by decide)) rfl
      rw [InfoFrame.text] at hzero' hone'
      rw [hzero.1] at hzero'
      rw [hone.1] at hone'
      omega
    refine ⟨hc, fun hb hthree => ?_, (hmissing hc).mp h.missing⟩
    have hcut := InfoFrame.parseClusterInfoInt_cut hb hthree (l := f.line ['1'] (by decide)) rfl hread.2
    rw [InfoFrame.text,hone.2] at hcut
    cases hcut
  · rintro ⟨hc,hthree,hrest⟩
    exact ⟨fun l n hkey hvalue => ⟨hc.parseFieldLL hkey hvalue,
      hc.parseClusterInfoInt hthree hkey hvalue⟩, (hmissing hc).mpr hrest⟩

theorem nameChars {t : Text} (h : t.all (fun c => !isSpace c && c != ':') = true) :
    ∀ c ∈ t, isSpace c = false ∧ c ≠ ':' := by
  simpa using h

def longerKeyFirst : InfoFrame where
  field := "cluster_slots_ok".toList
  before :=
    [⟨"cluster_slots_ok_extra".toList, "999".toList, true, by decide, nameChars (by decide), by decide⟩]
  after := []
  field_ne := by decide
  field_chars := nameChars (by decide)
  others := by decide

theorem longerKeyFirst_hides :
    parseInt64 "42".toList = some 42 ∧
      parseFieldLL (longerKeyFirst.text (longerKeyFirst.line "42".toList (by decide))) longerKeyFirst.field = -1 ∧
      parseClusterInfoInt (longerKeyFirst.text (longerKeyFirst.line "42".toList (by decide)))
        longerKeyFirst.field = 42 := by
  decide +kernel

end ValkeyOperator
