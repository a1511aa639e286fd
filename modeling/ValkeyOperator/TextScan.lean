import Mathlib.Data.List.Infix
import Mathlib.Data.List.DropRight

/-!
The text functions of the two source languages, over lists of characters:
`strings` and `strconv` on the Go side, `strstr` and `atoll` on the C side.
-/

set_option autoImplicit false

namespace TextScan

abbrev Text := List Char

def isSpace (c : Char) : Bool :=
  let n := c.toNat
  (9 ≤ n && n ≤ 13) || n == 32 || n == 0x85 || n == 0xA0 || n == 0x1680 ||
    (0x2000 ≤ n && n ≤ 0x200A) || n == 0x2028 || n == 0x2029 || n == 0x202F ||
    n == 0x205F || n == 0x3000

theorem isSpace_of_visible {c : Char} (hlow : 32 < c.toNat) (hhigh : c.toNat < 127) :
    isSpace c = false := by
  simp only [isSpace,Bool.or_eq_false_iff,Bool.and_eq_false_iff,decide_eq_false_iff_not,
    beq_eq_false_iff_ne]
  omega

theorem isSpace_digit {c : Char} (h : c.isDigit = true) : isSpace c = false := by
  simp only [Char.isDigit,Bool.and_eq_true,decide_eq_true_eq] at h
  have hlow : 48 ≤ c.toNat := UInt32.le_iff_toNat_le.mp h.1
  have hhigh : c.toNat ≤ 57 := UInt32.le_iff_toNat_le.mp h.2
  exact isSpace_of_visible (by omega) (by omega)

def trimSpace (s : Text) : Text := (s.dropWhile isSpace).rdropWhile isSpace

def fields (s : Text) : List Text := (s.splitOnP isSpace).filter (fun w => w ≠ [])

/-- `strings.Contains`, and `strstr` where only its truth value is used. -/
def contains (s needle : Text) : Bool := decide (needle <:+: s)

/-- `strings.HasPrefix` with `strings.TrimPrefix`: the rest after the prefix. -/
def cutPrefix : Text → Text → Option Text
  | s, [] => some s
  | [], _ :: _ => none
  | c :: s, d :: p => if c = d then cutPrefix s p else none

/-- The bytes of a text, by which Go counts. -/
def utf8 (s : Text) : List UInt8 := s.flatMap String.utf8EncodeChar

/-- `s[:n]` and `s[n:]`, if a character ends there. -/
def splitBytes : Nat → Text → Option (Text × Text)
  | 0, s => some ([], s)
  | _ + 1, [] => none
  | n + 1, c :: s =>
    if c.utf8Size ≤ n + 1 then
      (splitBytes (n + 1 - c.utf8Size) s).map (fun parts => (c :: parts.1, parts.2))
    else none

theorem utf8_append (a b : Text) : utf8 (a ++ b) = utf8 a ++ utf8 b := List.flatMap_append

theorem utf8_length_cons (c : Char) (s : Text) : (utf8 (c :: s)).length = c.utf8Size + (utf8 s).length := by
  simp [utf8]

theorem length_le_utf8 (s : Text) : s.length ≤ (utf8 s).length := by
  induction s with
  | nil => exact le_refl 0
  | cons c s ih =>
    have hpos := c.utf8Size_pos
    rw [utf8_length_cons,List.length_cons]
    omega

theorem splitBytes_eq {n : Nat} {s front rest : Text} (h : splitBytes n s = some (front,rest)) :
    s = front ++ rest ∧ (utf8 front).length = n := by
  induction s generalizing n front with
  | nil =>
    cases n with
    | zero => cases h; exact ⟨rfl, rfl⟩
    | succ n => cases h
  | cons c s ih =>
    cases n with
    | zero => cases h; exact ⟨rfl, rfl⟩
    | succ n =>
      rw [splitBytes] at h
      split at h
      · rename_i hc
        obtain ⟨⟨front,rest⟩,hsplit,heq⟩ := Option.map_eq_some_iff.mp h
        cases heq
        obtain ⟨hs,hlen⟩ := ih hsplit
        refine ⟨congrArg (List.cons c) hs, ?_⟩
        rw [utf8_length_cons,hlen]
        omega
      · cases h

theorem splitBytes_append (front rest : Text) :
    splitBytes (utf8 front).length (front ++ rest) = some (front,rest) := by
  induction front with
  | nil =>
    cases rest with
    | nil => rfl
    | cons c rest => rfl
  | cons c front ih =>
    have hpos := c.utf8Size_pos
    obtain ⟨n,hn⟩ : ∃ n, c.utf8Size + (utf8 front).length = n + 1 := ⟨c.utf8Size + (utf8 front).length - 1, by omega⟩
    have hrest : n + 1 - c.utf8Size = (utf8 front).length := by omega
    rw [utf8_length_cons,hn,List.cons_append,splitBytes,if_pos (by omega),hrest,ih]
    rfl

def IsToken (t : Text) : Prop := t ≠ [] ∧ ∀ c ∈ t, isSpace c = false

instance (t : Text) : Decidable (IsToken t) :=
  decidable_of_iff (t ≠ [] ∧ t.all (fun c => !isSpace c) = true) (by simp [IsToken])

theorem fields_token_cons {t : Text} (ht : IsToken t) {c : Char} (hc : isSpace c = true)
    (rest : Text) : fields (t ++ c :: rest) = t :: fields rest := by
  unfold fields
  rw [List.splitOnP_append_cons_of_forall_mem ht.2 c hc]
  simp [ht.1]

theorem fields_single {t : Text} (ht : IsToken t) : fields t = [t] := by
  unfold fields
  rw [List.splitOnP_eq_singleton ht.2]
  simp [ht.1]

theorem fields_intercalate {ts : List Text} (h : ∀ t ∈ ts, IsToken t) :
    fields ([' '].intercalate ts) = ts := by
  induction ts with
  | nil => rfl
  | cons t ts ih =>
    have ht := h t (by simp)
    cases ts with
    | nil => simpa using fields_single ht
    | cons u ts =>
      rw [List.intercalate_cons_cons,List.append_assoc,List.singleton_append,
        fields_token_cons ht (by decide),ih (fun v hv => h v (by simp [hv]))]

theorem splitOnP_append_cons {p : Char → Bool} {sep : Char} (hsep : p sep = true) (a b : Text) :
    (a ++ sep :: b).splitOnP p = a.splitOnP p ++ b.splitOnP p := by
  induction a with
  | nil => simp [List.splitOnP_cons_eq_if_modifyHead,hsep]
  | cons x a ih =>
    rw [List.cons_append,List.splitOnP_cons_eq_if_modifyHead,List.splitOnP_cons_eq_if_modifyHead,ih]
    cases p x with
    | true => rfl
    | false =>
      obtain ⟨v,vs,hv⟩ := List.exists_cons_of_ne_nil (List.splitOnP_ne_nil p a)
      simp [hv]

theorem fields_append_cons {c : Char} (hc : isSpace c = true) (a b : Text) :
    fields (a ++ c :: b) = fields a ++ fields b := by
  unfold fields
  rw [splitOnP_append_cons hc,List.filter_append]

theorem fields_dropWhile (s : Text) : fields (s.dropWhile isSpace) = fields s := by
  induction s with
  | nil => rfl
  | cons c s ih =>
    cases hc : isSpace c with
    | true =>
      have hskip := fields_append_cons hc [] s
      rw [List.dropWhile_cons_of_pos hc,ih]
      exact hskip.symm
    | false => rw [List.dropWhile_cons_of_neg (by simp [hc])]

theorem fields_blank {s : Text} (h : ∀ c ∈ s, isSpace c = true) : fields s = [] := by
  rw [← fields_dropWhile,List.dropWhile_eq_nil_iff.mpr h]
  rfl

theorem fields_rdropWhile (s : Text) : fields (s.rdropWhile isSpace) = fields s := by
  induction s using List.reverseRecOn with
  | nil => rfl
  | append_singleton s c ih =>
    cases hc : isSpace c with
    | true =>
      have hskip := fields_append_cons hc s []
      rw [List.rdropWhile_concat_pos _ _ _ hc,ih,hskip]
      exact (List.append_nil _).symm
    | false => rw [List.rdropWhile_concat_neg _ _ _ (by simp [hc])]

theorem fields_trimSpace (s : Text) : fields (trimSpace s) = fields s := by
  unfold trimSpace
  rw [fields_rdropWhile,fields_dropWhile]

theorem splitOnP_head (p : Char → Bool) (s : Text) :
    (s.splitOnP p).head? = some (s.takeWhile (fun c => !p c)) := by
  induction s with
  | nil => rfl
  | cons x s ih =>
    rw [List.splitOnP_cons_eq_if_modifyHead]
    cases hx : p x with
    | true => simp [hx]
    | false => simp [hx,ih]

theorem fields_head {c : Char} (hc : isSpace c = false) (s : Text) :
    (fields (c :: s)).head? = some (c :: s.takeWhile (fun d => !isSpace d)) := by
  have hfirst := splitOnP_head isSpace (c :: s)
  unfold fields
  cases hsplit : (c :: s).splitOnP isSpace with
  | nil => simp [hsplit] at hfirst
  | cons v vs =>
    rw [hsplit,List.head?_cons,List.takeWhile_cons_of_pos (by simp [hc])] at hfirst
    rw [Option.some.inj hfirst]
    rfl

theorem not_mem_intercalate {c sep : Char} (hc : c ≠ sep) {ts : List Text} (h : ∀ t ∈ ts, c ∉ t) :
    c ∉ [sep].intercalate ts := by
  induction ts with
  | nil => simp
  | cons t ts ih =>
    have ht := h t (by simp)
    have hrest := ih (fun u hu => h u (by simp [hu]))
    cases ts with
    | nil => simpa using ht
    | cons u ts =>
      rw [List.intercalate_cons_cons]
      simp [ht,hc,hrest]

theorem mem_intercalate {c : Char} {t : Text} (hc : c ∈ t) {ts : List Text} (ht : t ∈ ts) (sep : Text) :
    c ∈ sep.intercalate ts := by
  induction ts with
  | nil => cases ht
  | cons u ts ih =>
    cases ts with
    | nil =>
      rw [List.intercalate_singleton,← List.mem_singleton.mp ht]
      exact hc
    | cons v ts =>
      rw [List.intercalate_cons_cons]
      rcases List.mem_cons.mp ht with rfl | ht
      · simp [hc]
      · simp [ih ht]

theorem mem_of_mem_splitOn {c sep : Char} {s t : Text} (ht : t ∈ s.splitOn sep) (hc : c ∈ t) : c ∈ s := by
  have hin := mem_intercalate hc ht [sep]
  rwa [List.intercalate_splitOn] at hin

theorem splitOn_line {sep : Char} {first : Text} (h : sep ∉ first) (rest : Text) :
    (first ++ sep :: rest).splitOn sep = first :: rest.splitOn sep := by
  have hl : ∀ c ∈ first, (c == sep) = false := by
    intro c hc
    have hne : c ≠ sep := fun heq => h (heq ▸ hc)
    simpa using hne
  rw [List.splitOn_eq_splitOnP,List.splitOn_eq_splitOnP,
    List.splitOnP_append_cons_of_forall_mem hl sep (by simp)]

theorem splitOn_lines {sep : Char} {ls : List Text} (h : ∀ l ∈ ls, sep ∉ l) :
    (ls.flatMap (fun l => l ++ [sep])).splitOn sep = ls ++ [[]] := by
  induction ls with
  | nil => simp
  | cons l ls ih =>
    have hrest := ih (fun l' hl' => h l' (by simp [hl']))
    rw [List.flatMap_cons,List.append_assoc,List.singleton_append,splitOn_line (h l (by simp)),hrest]
    rfl

theorem splitOnP_separated {p : Char → Bool} (s : Text) :
    ∀ w ∈ s.splitOnP p, ∀ c ∈ w, p c = false := by
  induction s with
  | nil => simp
  | cons x s ih =>
    rw [List.splitOnP_cons_eq_if_modifyHead]
    cases hx : p x with
    | true => simpa using ih
    | false =>
      cases hs : s.splitOnP p with
      | nil => simp
      | cons v vs =>
        rw [hs] at ih
        simpa [hx] using ih

theorem fields_token {s w : Text} (h : w ∈ fields s) : IsToken w := by
  simp only [fields,List.mem_filter,decide_eq_true_eq] at h
  exact ⟨h.2, splitOnP_separated s w h.1⟩

def tokenLines (s : Text) : List (List Text) := (s.splitOn '\n').map fields

def printLines (ls : List Text) : Text := ls.flatMap (fun l => l ++ ['\n'])

theorem tokenLines_append (a b : Text) : tokenLines (a ++ '\n' :: b) = tokenLines a ++ tokenLines b := by
  have hsep : ('\n' == '\n') = true := by decide
  have hsplit := splitOnP_append_cons (p := fun c => c == '\n') hsep a b
  unfold tokenLines
  rw [List.splitOn_eq_splitOnP,hsplit,List.map_append]
  rfl

theorem tokenLines_printLines (ls : List Text) :
    tokenLines (printLines ls) = ls.flatMap tokenLines ++ [[]] := by
  induction ls with
  | nil => rfl
  | cons l ls ih =>
    have hcons : printLines (l :: ls) = l ++ '\n' :: printLines ls := by simp [printLines]
    rw [hcons,tokenLines_append,ih,List.flatMap_cons,List.append_assoc]

theorem tokenLines_line {s : Text} (h : '\n' ∉ s) : tokenLines s = [fields s] := by
  unfold tokenLines
  rw [List.splitOn_eq_singleton h]
  rfl

theorem newline_of_tokenLines {s : Text} {x : List Text} (h : tokenLines s = [x]) : '\n' ∉ s := by
  intro hmem
  obtain ⟨a,b,rfl⟩ := List.append_of_mem hmem
  have hlen : ∀ t : Text, 0 < (tokenLines t).length := by
    intro t
    unfold tokenLines
    rw [List.length_map,List.splitOn_eq_splitOnP]
    exact List.length_pos_of_ne_nil (List.splitOnP_ne_nil _ t)
  have htwo := congrArg List.length h
  rw [tokenLines_append,List.length_append,List.length_singleton] at htwo
  have ha := hlen a
  have hb := hlen b
  omega

theorem isToken_of_tokenLines {s w : Text} {x : List Text} (hx : x ∈ tokenLines s) (hw : w ∈ x) :
    IsToken w := by
  obtain ⟨l,-,rfl⟩ := List.mem_map.mp hx
  exact fields_token hw

theorem IsToken.newline {t : Text} (h : IsToken t) : '\n' ∉ t := by
  intro hmem
  have hspace := h.2 '\n' hmem
  exact absurd hspace (by decide)

theorem tokenLines_intercalate {ts : List Text} (h : ∀ t ∈ ts, IsToken t) :
    tokenLines ([' '].intercalate ts) = [ts] := by
  rw [tokenLines_line (not_mem_intercalate (by decide) (fun t ht => (h t ht).newline)),
    fields_intercalate h]

def among (s : Text) (ts : List Text) : Bool := ts.any (fun t => t = s)

theorem among_iff {s : Text} {ts : List Text} : among s ts = true ↔ s ∈ ts := by
  simp [among]

theorem isAlphanum_iff {c : Char} : c.isAlphanum = true ↔
    (('A'.val ≤ c.val ∧ c.val ≤ 'Z'.val) ∨ ('a'.val ≤ c.val ∧ c.val ≤ 'z'.val)) ∨
      ('0'.val ≤ c.val ∧ c.val ≤ '9'.val) := by
  have hdef : c.isAlphanum = (decide ('A'.val ≤ c.val ∧ c.val ≤ 'Z'.val) ||
      (decide ('a'.val ≤ c.val) && decide (c.val ≤ 'z'.val)) ||
      (decide ('0'.val ≤ c.val) && decide (c.val ≤ '9'.val))) := rfl
  rw [hdef]
  simp only [Bool.or_eq_true,Bool.and_eq_true,decide_eq_true_eq]

def decimal (n : Int) : Text := (toString n).toList

theorem decimal_newline (n : Int) : '\n' ∉ decimal n := by
  have hnat : ∀ m : Nat, '\n' ∉ (Nat.repr m).toList := by
    intro m hmem
    rw [Nat.repr,String.toList_ofList] at hmem
    have hdigit := Nat.isDigit_of_mem_toDigits (by decide) (by decide) hmem
    exact absurd hdigit (by decide)
  unfold decimal
  cases n with
  | ofNat m => exact hnat m
  | negSucc m =>
    have hneg : toString (Int.negSucc m) = "-" ++ Nat.repr (m + 1) := rfl
    rw [hneg,String.toList_append]
    simpa using hnat (m + 1)

theorem decimal_chars (n : Int) : (decimal n).all (fun c => c.isDigit || c = '-') = true := by
  have hnat : ∀ m : Nat, (Nat.repr m).toList.all (fun c => c.isDigit || c = '-') = true := by
    intro m
    rw [List.all_eq_true]
    intro c hc
    rw [Nat.repr,String.toList_ofList] at hc
    rw [Nat.isDigit_of_mem_toDigits (by decide) (by decide) hc]
    rfl
  unfold decimal
  cases n with
  | ofNat m => exact hnat m
  | negSucc m =>
    have hneg : toString (Int.negSucc m) = "-" ++ Nat.repr (m + 1) := rfl
    rw [hneg,String.toList_append,List.all_append,hnat]
    rfl

def readDigits (acc : Nat) : Text → Option Nat
  | [] => some acc
  | c :: cs => if c.isDigit then readDigits (acc*10 + (c.toNat - 48)) cs else none

/-- `strconv.ParseInt(s, 10, 64)`; an error is `none`. -/
def parseInt64 (s : Text) : Option Int :=
  let (neg,ds) := match s with
    | '-' :: r => (true,r)
    | '+' :: r => (false,r)
    | r => (false,r)
  if ds = [] then none else
    match readDigits 0 ds with
    | none => none
    | some n =>
      if neg then (if n ≤ 0x8000000000000000 then some (-(n : Int)) else none)
      else if n < 0x8000000000000000 then some (n : Int) else none

/-- A sign or none and decimal digits, in the range of `int64`. -/
def IsInt64 (s : Text) (n : Int) : Prop :=
  ∃ ds : Text, ds ≠ [] ∧ (∀ c ∈ ds, c.isDigit = true) ∧
    ((s = '-' :: ds ∧ n = -(Nat.ofDigitChars 10 ds 0 : Int)) ∨
      ((s = '+' :: ds ∨ s = ds) ∧ n = (Nat.ofDigitChars 10 ds 0 : Int))) ∧
    -0x8000000000000000 ≤ n ∧ n < 0x8000000000000000

/-- `fmt.Sscanf(s, "%d", _)` into an `int64`: a sign and the digits up to the first other
character. -/
def sscanfInt (s : Text) : Option Int :=
  match s.dropWhile isSpace with
  | '-' :: r => parseInt64 ('-' :: r.takeWhile Char.isDigit)
  | '+' :: r => parseInt64 ('+' :: r.takeWhile Char.isDigit)
  | r => parseInt64 (r.takeWhile Char.isDigit)

/-- `strstr`: the text from the first occurrence on. -/
def strstr (needle : Text) : Text → Option Text
  | [] => if needle = [] then some [] else none
  | c :: cs => if needle.isPrefixOf (c :: cs) then some (c :: cs) else strstr needle cs

theorem strstr_skip {a x : Char} {needle skipped : Text} (hx : x ∉ skipped)
    (hlast : skipped.getLast? ≠ some a) (rest : Text) :
    strstr (a :: x :: needle) (skipped ++ rest) = strstr (a :: x :: needle) rest := by
  induction skipped with
  | nil => rfl
  | cons c skipped ih =>
    have hne : (a :: x :: needle).isPrefixOf (c :: (skipped ++ rest)) = false := by
      cases skipped with
      | nil =>
        have hca : a ≠ c := fun h => hlast (by simp [h])
        simp [List.isPrefixOf,hca]
      | cons d skipped =>
        have hxd : x ≠ d := fun h => hx (by simp [h])
        simp [List.isPrefixOf,hxd]
    have hrest : strstr (a :: x :: needle) (skipped ++ rest) = strstr (a :: x :: needle) rest := by
      cases skipped with
      | nil => rfl
      | cons d skipped => exact ih (fun h => hx (by simp [h])) (by simpa using hlast)
    simp only [List.cons_append,strstr,hne]
    simpa using hrest

/-- The digits `atoll` reads before the first other character. -/
def leadingDigits (acc : Nat) : Text → Nat
  | [] => acc
  | c :: cs => if c.isDigit then leadingDigits (acc*10 + (c.toNat - 48)) cs else acc

def signedNumber (s : Text) : Int :=
  match s.dropWhile (fun c => (9 ≤ c.toNat && c.toNat ≤ 13) || c == ' ') with
  | '-' :: ds => -(leadingDigits 0 ds : Int)
  | '+' :: ds => (leadingDigits 0 ds : Int)
  | ds => (leadingDigits 0 ds : Int)

/-- What does not fit into a `long long` becomes the bound next to it. -/
def clampLL (n : Int) : Int :=
  if n < -0x8000000000000000 then -0x8000000000000000
  else if 0x7fffffffffffffff < n then 0x7fffffffffffffff
  else n

/-- `atoll` as `strtoll` does it. -/
def atoll (s : Text) : Int := clampLL (signedNumber s)

theorem clampLL_of_range {n : Int} (hlow : -0x8000000000000000 ≤ n) (hhigh : n < 0x8000000000000000) :
    clampLL n = n := by
  unfold clampLL
  rw [if_neg (by omega),if_neg (by omega)]

theorem leadingDigits_append {ds rest : Text} (hds : ∀ c ∈ ds, c.isDigit = true)
    (hrest : ∀ c ∈ rest.head?, c.isDigit = false) (acc : Nat) :
    leadingDigits acc (ds ++ rest) = leadingDigits acc ds := by
  induction ds generalizing acc with
  | nil =>
    cases rest with
    | nil => rfl
    | cons c rest =>
      have hc := hrest c rfl
      simp [leadingDigits,hc]
  | cons c ds ih =>
    have hc := hds c (by simp)
    simp [leadingDigits,hc,ih (fun d hd => hds d (by simp [hd]))]

theorem signedNumber_digits {ds rest : Text} (hne : ds ≠ []) (hds : ∀ c ∈ ds, c.isDigit = true)
    (hrest : ∀ c ∈ rest.head?, c.isDigit = false) : signedNumber (ds ++ rest) = leadingDigits 0 ds := by
  have hread := leadingDigits_append hds hrest 0
  obtain ⟨c,ds,rfl⟩ := List.exists_cons_of_ne_nil hne
  have hc := hds c (by simp)
  have hlow : 48 ≤ c.toNat := by
    simp only [Char.isDigit,Bool.and_eq_true,decide_eq_true_eq] at hc
    exact UInt32.le_iff_toNat_le.mp hc.1
  have hvisible : ((9 ≤ c.toNat && c.toNat ≤ 13) || c == ' ') = false := by
    have hblank : c ≠ ' ' := by
      rintro rfl
      exact absurd hc (by decide)
    simp only [Bool.or_eq_false_iff,Bool.and_eq_false_iff,decide_eq_false_iff_not,beq_eq_false_iff_ne]
    exact ⟨.inr (by omega), hblank⟩
  have hsign : c ≠ '-' ∧ c ≠ '+' := by
    constructor <;> rintro rfl <;> exact absurd hc (by decide)
  unfold signedNumber
  rw [List.cons_append,List.dropWhile_cons_of_neg (by simp [hvisible])]
  split
  · rename_i heq
    exact absurd (List.cons.inj heq).1 hsign.1
  · rename_i heq
    exact absurd (List.cons.inj heq).1 hsign.2
  · rw [← List.cons_append,hread]

theorem takeWhile_until {sep : Char} {t : Text} (h : sep ∉ t) (rest : Text) :
    (t ++ sep :: rest).takeWhile (fun c => c ≠ sep) = t := by
  induction t with
  | nil => simp
  | cons c t ih =>
    simp only [List.mem_cons,not_or] at h
    have hc : c ≠ sep := Ne.symm h.1
    simpa [hc] using ih h.2

theorem dropWhile_until {sep : Char} {t : Text} (h : sep ∉ t) (rest : Text) :
    (t ++ sep :: rest).dropWhile (fun c => c ≠ sep) = sep :: rest := by
  induction t with
  | nil => simp
  | cons c t ih =>
    simp only [List.mem_cons,not_or] at h
    have hc : c ≠ sep := Ne.symm h.1
    simpa [hc] using ih h.2

theorem append_cons_inj {sep : Char} {a b x y : Text} (ha : sep ∉ a) (hb : sep ∉ b)
    (h : a ++ sep :: x = b ++ sep :: y) : a = b ∧ x = y := by
  have hfront := takeWhile_until ha x
  have hback := dropWhile_until ha x
  rw [h,takeWhile_until hb] at hfront
  rw [h,dropWhile_until hb] at hback
  exact ⟨hfront.symm, (List.cons.inj hback).2.symm⟩

theorem printLines_append (a b : List Text) : printLines (a ++ b) = printLines a ++ printLines b :=
  List.flatMap_append

theorem printLines_append_inj {a b : List Text} (ha : ∀ l ∈ a, '\n' ∉ l) (hb : ∀ l ∈ b, '\n' ∉ l)
    (hlength : a.length = b.length) {x y : Text} (h : printLines a ++ x = printLines b ++ y) :
    a = b ∧ x = y := by
  induction a generalizing b with
  | nil =>
    rw [List.eq_nil_of_length_eq_zero hlength.symm] at h ⊢
    exact ⟨rfl, h⟩
  | cons l a ih =>
    cases b with
    | nil => cases hlength
    | cons m b =>
      obtain ⟨hl,ha⟩ := List.forall_mem_cons.mp ha
      obtain ⟨hm,hb⟩ := List.forall_mem_cons.mp hb
      simp only [printLines,List.flatMap_cons,List.append_assoc,List.singleton_append] at h
      obtain ⟨hline,hrest⟩ := append_cons_inj hl hm h
      obtain ⟨hlines,hxy⟩ := ih ha hb (Nat.succ.inj hlength) hrest
      exact ⟨by rw [hline,hlines], hxy⟩

theorem mem_take_append_cons {front : Text} {n : Nat} (h : front.length < n) (c : Char) (rest : Text) :
    c ∈ (front ++ c :: rest).take n := by
  obtain ⟨k,hk⟩ : ∃ k, n - front.length = k + 1 := ⟨n - front.length - 1, by omega⟩
  rw [List.take_append,hk,List.take_succ_cons]
  exact List.mem_append_right _ List.mem_cons_self

theorem takeWhile_without {sep : Char} {t : Text} (h : sep ∉ t) :
    t.takeWhile (fun c => c ≠ sep) = t := by
  refine List.takeWhile_eq_self_iff.mpr (fun c hc => ?_)
  have hne : c ≠ sep := fun heq => h (heq ▸ hc)
  simpa using hne

theorem dropWhile_without {sep : Char} {t : Text} (h : sep ∉ t) :
    t.dropWhile (fun c => c ≠ sep) = [] := by
  refine List.dropWhile_eq_nil_iff.mpr (fun c hc => ?_)
  have hne : c ≠ sep := fun heq => h (heq ▸ hc)
  simpa using hne

/-- The fields of a text in which blanks are the only separators. -/
def words (s : Text) : List Text := (s.splitOn ' ').filter (fun w => w ≠ [])

theorem words_blank (s : Text) : words (' ' :: s) = words s := by
  have hsplit : (' ' :: s).splitOnP (fun c => c == ' ') = [[]] ++ s.splitOnP (fun c => c == ' ') :=
    splitOnP_append_cons rfl [] s
  unfold words List.splitOn
  rw [hsplit,List.filter_append]
  rfl

theorem words_dropWhile (s : Text) : words (s.dropWhile (fun c => c = ' ')) = words s := by
  induction s with
  | nil => rfl
  | cons c s ih =>
    by_cases hc : c = ' '
    · rw [hc,List.dropWhile_cons_of_pos (by simp),ih,words_blank]
    · rw [List.dropWhile_cons_of_neg (by simpa using hc)]

theorem words_intercalate {ts : List Text} (h : ∀ t ∈ ts, IsToken t) : words ([' '].intercalate ts) = ts := by
  have hblank : ∀ t ∈ ts, ' ' ∉ t := fun t ht hmem => absurd ((h t ht).2 ' ' hmem) (by decide)
  have hne : ∀ t ∈ ts, decide (t ≠ []) = true := fun t ht => decide_eq_true (h t ht).1
  cases ts with
  | nil => rfl
  | cons t ts => rw [words,List.splitOn_intercalate ' ' hblank (by simp),List.filter_eq_self.mpr hne]

theorem words_cons {w : Text} (hne : w ≠ []) (hw : ' ' ∉ w) (rest : Text) :
    words (w ++ ' ' :: rest) = w :: words rest := by
  rw [words,splitOn_line hw,List.filter_cons_of_pos (by simpa using hne)]
  rfl

theorem head_dropWhile_blank (s : Text) : (s.dropWhile (fun c => c = ' ')).head? ≠ some ' ' := by
  intro hblank
  have hnot := List.head?_dropWhile_not (fun c => decide (c = ' ')) s
  rw [hblank] at hnot
  simp at hnot

theorem words_skip {p : Text} (h : p.head? ≠ some ' ') :
    words ((p.dropWhile (fun c => c ≠ ' ')).dropWhile (fun c => c = ' ')) = (words p).drop 1 := by
  by_cases hmem : ' ' ∈ p
  · obtain ⟨w,rest,rfl,hw⟩ := List.eq_append_cons_of_mem hmem
    have hne : w ≠ [] := by
      rintro rfl
      exact h rfl
    rw [words_dropWhile,dropWhile_until hw,words_blank,words_cons hne hw]
    rfl
  · have hlast : (words p).length ≤ 1 := by
      rw [words,List.splitOn_eq_singleton hmem]
      exact List.length_filter_le _ _
    rw [words_dropWhile,dropWhile_without hmem,List.drop_of_length_le hlast]
    rfl

theorem rdropWhile_until {sep : Char} {t : Text} (h : sep ∉ t) (s : Text) :
    (s ++ sep :: t).rdropWhile (fun c => c ≠ sep) = s ++ [sep] := by
  have hrev : sep ∉ t.reverse := by simpa using h
  have hdrop := dropWhile_until hrev s.reverse
  unfold List.rdropWhile
  simp only [List.reverse_append,List.reverse_cons,List.append_assoc,List.singleton_append,hdrop,
    List.reverse_reverse]

theorem rtakeWhile_until {sep : Char} {t : Text} (h : sep ∉ t) (s : Text) :
    (s ++ sep :: t).rtakeWhile (fun c => c ≠ sep) = t := by
  have hrev : sep ∉ t.reverse := by simpa using h
  have htake := takeWhile_until hrev s.reverse
  unfold List.rtakeWhile
  simp only [List.reverse_append,List.reverse_cons,List.append_assoc,List.singleton_append,htake,
    List.reverse_reverse]

theorem prefix_of_append_cons {sep : Char} {needle : Text} (hn : sep ∉ needle) {a b : Text}
    (h : needle <+: a ++ sep :: b) : needle <+: a := by
  induction needle generalizing a with
  | nil => exact List.nil_prefix
  | cons x needle ih =>
    simp only [List.mem_cons,not_or] at hn
    cases a with
    | nil =>
      obtain ⟨hx,-⟩ := List.cons_prefix_cons.mp h
      exact absurd hx.symm hn.1
    | cons y a =>
      obtain ⟨rfl,ht⟩ := List.cons_prefix_cons.mp h
      exact List.cons_prefix_cons.mpr ⟨rfl, ih hn.2 ht⟩

theorem infix_append_cons {sep : Char} {needle : Text} (hn : sep ∉ needle) (a b : Text) :
    needle <:+: a ++ sep :: b ↔ needle <:+: a ∨ needle <:+: b := by
  induction a with
  | nil =>
    rw [List.nil_append,List.infix_cons_iff]
    constructor
    · rintro (h | h)
      · have hnil := prefix_of_append_cons (a := []) hn h
        exact .inl hnil.isInfix
      · exact .inr h
    · rintro (h | h)
      · rw [List.infix_nil.mp h]
        exact .inr (List.nil_infix)
      · exact .inr h
  | cons x a ih =>
    rw [List.cons_append,List.infix_cons_iff,ih,List.infix_cons_iff]
    constructor
    · rintro (h | h | h)
      · exact .inl (.inl (prefix_of_append_cons (a := x :: a) hn h))
      · exact .inl (.inr h)
      · exact .inr h
    · rintro ((h | h) | h)
      · exact .inl (h.trans (List.prefix_append (x :: a) (sep :: b)))
      · exact .inr (.inl h)
      · exact .inr (.inr h)

theorem infix_intercalate {sep : Char} {needle : Text} (hn : sep ∉ needle) (hne : needle ≠ [])
    (names : List Text) :
    needle <:+: [sep].intercalate names ↔ ∃ name ∈ names, needle <:+: name := by
  induction names with
  | nil => simp [hne]
  | cons name names ih =>
    cases names with
    | nil => simp
    | cons next names =>
      rw [List.intercalate_cons_cons,List.append_assoc,List.singleton_append,
        infix_append_cons hn,ih]
      simp

theorem strstr_self {needle : Text} (h : needle ≠ []) (rest : Text) :
    strstr needle (needle ++ rest) = some (needle ++ rest) := by
  obtain ⟨c,needle,rfl⟩ := List.exists_cons_of_ne_nil h
  have hfound : (c :: needle).isPrefixOf (c :: (needle ++ rest)) = true :=
    List.isPrefixOf_iff_prefix.mpr ⟨rest, rfl⟩
  rw [List.cons_append,strstr,if_pos hfound]

theorem strstr_front {needle s p : Text} (h : strstr needle s = some p) : ∃ t, p = needle ++ t := by
  induction s with
  | nil =>
    rw [strstr] at h
    split at h
    · rename_i hnil
      exact ⟨[], by simpa [hnil] using (Option.some.inj h).symm⟩
    · cases h
  | cons c s ih =>
    rw [strstr] at h
    split at h
    · rename_i hpre
      obtain ⟨t,ht⟩ := List.isPrefixOf_iff_prefix.mp hpre
      exact ⟨t, by rw [ht]; exact (Option.some.inj h).symm⟩
    · exact ih h

theorem strstr_within {needle front : Text} (hne : needle ≠ []) (h : needle <:+: front) :
    ∃ skipped tail, front = skipped ++ (needle ++ tail) ∧
      ∀ rest, strstr needle (front ++ rest) = some (needle ++ (tail ++ rest)) := by
  induction front with
  | nil => exact absurd (List.infix_nil.mp h) hne
  | cons c front ih =>
    by_cases hhere : needle <+: c :: front
    · obtain ⟨tail,htail⟩ := hhere
      refine ⟨[], tail, htail.symm, fun rest => ?_⟩
      rw [← htail,List.append_assoc,strstr_self hne]
    · have hlater := (List.infix_cons_iff.mp h).resolve_left hhere
      obtain ⟨skipped,tail,hsplit,htail⟩ := ih hlater
      refine ⟨c :: skipped, tail, by rw [hsplit]; rfl, fun rest => ?_⟩
      have hnot : needle.isPrefixOf (c :: (front ++ rest)) = false := by
        rw [← Bool.not_eq_true,List.isPrefixOf_iff_prefix]
        intro hpre
        -- the needle is no longer than the front, so that it does not reach into the rest
        have hlen := hlater.length_le
        exact hhere (List.prefix_of_prefix_length_le hpre ⟨rest, rfl⟩ (by simp; omega))
      rw [List.cons_append,strstr,hnot]
      exact htail rest

theorem strstr_past_lines {needle front : Text} (hline : '\n' ∉ needle)
    (hend : front = [] ∨ front.getLast? = some '\n') (h : ¬ needle <:+: front) (rest : Text) :
    strstr needle (front ++ rest) = strstr needle rest := by
  induction front with
  | nil => rfl
  | cons c front ih =>
    have hlast : (c :: front).getLast? = some '\n' := hend.resolve_left (by simp)
    have hnot : needle.isPrefixOf (c :: (front ++ rest)) = false := by
      rw [← Bool.not_eq_true,List.isPrefixOf_iff_prefix]
      intro hpre
      rcases Nat.le_total needle.length (c :: front).length with hle | hle
      · exact h (List.prefix_of_prefix_length_le hpre ⟨rest, rfl⟩ hle).isInfix
      · obtain ⟨more,hmore⟩ : c :: front <+: needle :=
          List.prefix_of_prefix_length_le ⟨rest, rfl⟩ hpre hle
        rw [← hmore] at hline
        exact hline (List.mem_append_left more (List.mem_of_getLast? hlast))
    have hend' : front = [] ∨ front.getLast? = some '\n' := by
      cases front with
      | nil => exact .inl rfl
      | cons d front => exact .inr (by simpa [List.getLast?_cons_cons] using hlast)
    rw [List.cons_append,strstr,hnot]
    exact ih hend' (fun hin => h (List.infix_cons hin))

theorem leadingDigits_colon (acc : Nat) (s rest : Text) :
    leadingDigits acc (s ++ ':' :: rest) = leadingDigits acc (s ++ [':']) := by
  induction s generalizing acc with
  | nil => simp [leadingDigits]
  | cons c s ih => simp [leadingDigits,ih]

theorem atoll_colon (s rest : Text) : atoll (s ++ ':' :: rest) = atoll (s ++ [':']) := by
  refine congrArg clampLL ?_
  have hdrop : ∀ r : Text, (s ++ ':' :: r).dropWhile (fun c => (9 ≤ c.toNat && c.toNat ≤ 13) || c == ' ') =
      s.dropWhile (fun c => (9 ≤ c.toNat && c.toNat ≤ 13) || c == ' ') ++ ':' :: r := by
    intro r
    rw [List.dropWhile_append]
    split
    · rename_i hnil
      rw [List.isEmpty_iff.mp hnil]
      rfl
    · rfl
  unfold signedNumber
  rw [hdrop rest,hdrop []]
  generalize s.dropWhile _ = d
  cases d with
  | nil => rfl
  | cons c d =>
    by_cases hminus : c = '-'
    · subst hminus
      simp only [List.cons_append,leadingDigits_colon 0 d rest]
    · by_cases hplus : c = '+'
      · subst hplus
        simp only [List.cons_append,leadingDigits_colon 0 d rest]
      · have hread := leadingDigits_colon 0 (c :: d) rest
        simp only [List.cons_append] at hread ⊢
        split
        · rename_i heq
          exact absurd (List.cons.inj heq).1 hminus
        · rename_i heq
          exact absurd (List.cons.inj heq).1 hplus
        · split
          · rename_i heq
            exact absurd (List.cons.inj heq).1 hminus
          · rename_i heq
            exact absurd (List.cons.inj heq).1 hplus
          · rw [hread]

theorem readDigits_eq_some {ds : Text} {acc n : Nat} :
    readDigits acc ds = some n ↔ (∀ c ∈ ds, c.isDigit = true) ∧ Nat.ofDigitChars 10 ds acc = n := by
  induction ds generalizing acc with
  | nil => simp [readDigits]
  | cons c ds ih =>
    have hstep : 10 * acc + (c.toNat - '0'.toNat) = acc * 10 + (c.toNat - 48) := by
      rw [Nat.mul_comm]
      rfl
    rw [readDigits,Nat.ofDigitChars_cons,hstep]
    by_cases hc : c.isDigit = true
    · rw [if_pos hc,ih]
      simp [hc]
    · simp [hc]

theorem readDigits_signed (neg : Bool) (ds : Text) (n : Int) :
    (if ds = [] then none else
      match readDigits 0 ds with
      | none => none
      | some n =>
        if neg then (if n ≤ 0x8000000000000000 then some (-(n : Int)) else none)
        else if n < 0x8000000000000000 then some (n : Int) else none) = some n ↔
    ds ≠ [] ∧ (∀ c ∈ ds, c.isDigit = true) ∧
      n = (if neg then -(Nat.ofDigitChars 10 ds 0 : Int) else (Nat.ofDigitChars 10 ds 0 : Int)) ∧
      -0x8000000000000000 ≤ n ∧ n < 0x8000000000000000 := by
  by_cases hne : ds = []
  · simp [hne]
  · rw [if_neg hne]
    cases hread : readDigits 0 ds with
    | none =>
      have hno : ¬ ∀ c ∈ ds, c.isDigit = true := by
        intro hall
        have hsome : readDigits 0 ds = some (Nat.ofDigitChars 10 ds 0) := readDigits_eq_some.mpr ⟨hall, rfl⟩
        rw [hread] at hsome
        cases hsome
      simp [hno]
    | some m =>
      obtain ⟨hall,rfl⟩ := readDigits_eq_some.mp hread
      rw [and_iff_right hne,and_iff_right hall]
      cases neg with
      | true =>
        simp only [if_true,Option.ite_none_right_eq_some,Option.some.injEq]
        omega
      | false =>
        simp only [Bool.false_eq_true,if_false,Option.ite_none_right_eq_some,Option.some.injEq]
        omega

theorem parseInt64_iff {s : Text} {n : Int} : parseInt64 s = some n ↔ IsInt64 s n := by
  constructor
  · intro h
    unfold parseInt64 at h
    split at h
    rename_i neg ds heq
    obtain ⟨hne,hall,hn,hrange⟩ := (readDigits_signed neg ds n).mp h
    refine ⟨ds, hne, hall, ?_, hrange⟩
    split at heq
    · cases heq
      exact .inl ⟨rfl, hn⟩
    · cases heq
      exact .inr ⟨.inl rfl, hn⟩
    · cases heq
      exact .inr ⟨.inr rfl, hn⟩
  · rintro ⟨ds,hne,hall,⟨rfl,hn⟩ | ⟨rfl | rfl,hn⟩,hrange⟩
    · exact (readDigits_signed true ds n).mpr ⟨hne,hall,hn,hrange⟩
    · exact (readDigits_signed false ds n).mpr ⟨hne,hall,hn,hrange⟩
    · -- a digit is not a sign
      unfold parseInt64
      split
      rename_i neg ds heq
      split at heq
      · exact absurd (hall '-' (by simp)) (by decide)
      · exact absurd (hall '+' (by simp)) (by decide)
      · cases heq
        exact (readDigits_signed false _ n).mpr ⟨hne,hall,hn,hrange⟩

theorem leadingDigits_digits {ds : Text} (h : ∀ c ∈ ds, c.isDigit = true) (acc : Nat) :
    leadingDigits acc ds = Nat.ofDigitChars 10 ds acc := by
  induction ds generalizing acc with
  | nil => simp [leadingDigits]
  | cons c ds ih =>
    obtain ⟨hc,hds⟩ := List.forall_mem_cons.mp h
    rw [leadingDigits,if_pos hc,ih hds,Nat.ofDigitChars_cons,Nat.mul_comm acc 10]
    rfl

/-- `atoll` and `strconv.ParseInt` read the same number from the same text. -/
theorem atoll_parseInt64 {s : Text} {n : Int} (h : parseInt64 s = some n) {rest : Text}
    (hrest : ∀ c ∈ rest.head?, c.isDigit = false) : atoll (s ++ rest) = n := by
  obtain ⟨ds,hne,hall,hshape,hlow,hhigh⟩ := parseInt64_iff.mp h
  have hread := leadingDigits_append hall hrest 0
  have hsigned : signedNumber (s ++ rest) = n := by
    rw [← leadingDigits_digits hall] at hshape
    rcases hshape with ⟨rfl,rfl⟩ | ⟨rfl | rfl,rfl⟩
    · have hminus : signedNumber ('-' :: ds ++ rest) = -(leadingDigits 0 (ds ++ rest) : Int) := rfl
      rw [hminus,hread]
    · have hplus : signedNumber ('+' :: ds ++ rest) = (leadingDigits 0 (ds ++ rest) : Int) := rfl
      rw [hplus,hread]
    · exact signedNumber_digits hne hall hrest
  rw [atoll,hsigned,clampLL_of_range hlow hhigh]

theorem parseInt64_token {s : Text} {n : Int} (h : parseInt64 s = some n) : IsToken s := by
  obtain ⟨ds,hne,hall,⟨rfl,-⟩ | ⟨rfl | rfl,-⟩,-⟩ := parseInt64_iff.mp h
  · exact ⟨by simp, List.forall_mem_cons.mpr ⟨by decide, fun c hc => isSpace_digit (hall c hc)⟩⟩
  · exact ⟨by simp, List.forall_mem_cons.mpr ⟨by decide, fun c hc => isSpace_digit (hall c hc)⟩⟩
  · exact ⟨hne, fun c hc => isSpace_digit (hall c hc)⟩

theorem trimSpace_word {t : Text} (ht : IsToken t) (rest : Text) :
    trimSpace (t ++ rest) = t ++ rest.rdropWhile isSpace := by
  have hfirst : (t ++ rest).dropWhile isSpace = t ++ rest := by
    obtain ⟨c,t,rfl⟩ := List.exists_cons_of_ne_nil ht.1
    have hc : isSpace c = false := ht.2 c (by simp)
    simp [hc]
  have hlast : t.reverse.dropWhile isSpace = t.reverse := by
    obtain ⟨c,u,hu⟩ := List.exists_cons_of_ne_nil (fun h => ht.1 (List.reverse_eq_nil_iff.mp h))
    have hc : isSpace c = false := ht.2 c (by rw [← List.mem_reverse,hu]; simp)
    rw [hu,List.dropWhile_cons_of_neg (by simp [hc])]
  unfold trimSpace
  rw [hfirst]
  unfold List.rdropWhile
  rw [List.reverse_append,List.dropWhile_append]
  split
  · rename_i hnil
    rw [hlast,List.isEmpty_iff.mp hnil]
    simp
  · simp

theorem trimSpace_token {v : Text} (h : IsToken v) : trimSpace v = v := by
  have hword := trimSpace_word h []
  simpa using hword

theorem rdropWhile_blank {blank : Text} (h : ∀ c ∈ blank, isSpace c = true) (s : Text) :
    (s ++ blank).rdropWhile isSpace = s.rdropWhile isSpace := by
  unfold List.rdropWhile
  rw [List.reverse_append,List.dropWhile_append_of_pos (by simpa using h)]

theorem trimSpace_blank {blank : Text} (h : ∀ c ∈ blank, isSpace c = true) (s : Text) :
    trimSpace (s ++ blank) = trimSpace s := by
  unfold trimSpace
  rw [List.dropWhile_append]
  split
  · rename_i hnil
    rw [List.dropWhile_eq_nil_iff.mpr h,List.isEmpty_iff.mp hnil]
  · exact rdropWhile_blank h _

theorem trimSpace_rdropWhile (s : Text) : trimSpace (s.rdropWhile isSpace) = trimSpace s := by
  have hblank : ∀ c ∈ s.rtakeWhile isSpace, isSpace c = true := fun c hc => List.mem_rtakeWhile_imp hc
  rw [← trimSpace_blank hblank,List.rdropWhile_append_rtakeWhile]

theorem trimSpace_infix (s : Text) : trimSpace s <:+: s :=
  (List.rdropWhile_prefix isSpace _).isInfix.trans (List.dropWhile_suffix isSpace).isInfix

theorem cutPrefix_eq {s p r : Text} (h : cutPrefix s p = some r) : s = p ++ r := by
  induction p generalizing s with
  | nil =>
    cases s <;> simpa [cutPrefix] using h
  | cons d p ih =>
    cases s with
    | nil => simp [cutPrefix] at h
    | cons c s =>
      rw [cutPrefix] at h
      split at h
      · rename_i hcd
        rw [hcd,ih h]
        rfl
      · cases h

theorem cutPrefix_append (p r : Text) : cutPrefix (p ++ r) p = some r := by
  induction p with
  | nil => cases r <;> rfl
  | cons c p ih => simpa [cutPrefix] using ih

theorem cutPrefix_colon {k field : Text} (hk : ':' ∉ k) (hf : ':' ∉ field) (rest : Text) :
    cutPrefix (k ++ ':' :: rest) (field ++ [':']) = if k = field then some rest else none := by
  induction k generalizing field with
  | nil =>
    cases field with
    | nil => simp [cutPrefix]
    | cons d field =>
      simp only [List.mem_cons,not_or] at hf
      simp [cutPrefix,hf.1]
  | cons c k ih =>
    simp only [List.mem_cons,not_or] at hk
    cases field with
    | nil => simp [cutPrefix,Ne.symm hk.1]
    | cons d field =>
      simp only [List.mem_cons,not_or] at hf
      by_cases hcd : c = d
      · simp [cutPrefix,hcd,ih hk.2 hf.2]
      · simp [cutPrefix,hcd]

end TextScan
