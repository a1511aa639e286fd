import ValkeyOperator.TextScan

/-!
What a shell makes of its variables, what the text tools of a pipeline make of the lines they
read, and where a search with a blank in it can strike in a line of words.
-/

set_option autoImplicit false

namespace ShellText
open TextScan

/-- The last line need not end with a line feed. -/
def inputLines (s : Text) : List Text :=
  if (s.splitOn '\n').getLast? = some [] then (s.splitOn '\n').dropLast else s.splitOn '\n'

/-- What `$(...)` keeps of an output. -/
def capture (s : Text) : Text := s.rdropWhile (fun c => c = '\n')

/-- `cut -d sep -f`; a line without the separator is passed on whole. -/
def cut (sep : Char) (pick : List Text → List Text) (line : Text) : Text :=
  if sep ∈ line then [sep].intercalate (pick (line.splitOn sep)) else line

/-- `${s%sep*}`: up to the last separator. -/
def beforeLast (sep : Char) (s : Text) : Text := (cut sep (fun fs => fs.drop 1) s.reverse).reverse

/-- `${s##*sep}`: behind the last separator. -/
def afterLast (sep : Char) (s : Text) : Text := (cut sep (fun fs => fs.take 1) s.reverse).reverse

/-- What an expansion without quotes is split into. -/
def splitWords (s : Text) : List Text :=
  (s.splitOnP (fun c => c = ' ' || c = '\t' || c = '\n')).filter (fun w => w ≠ [])

def nameChar (c : Char) : Bool := c.isAlphanum || c = '_'

/-- What a text between double quotes becomes, with the name of the variable that is being read.
A `$` without a name stays. -/
def expandFrom (env : Text → Text) : Option Text → Text → Text
  | none, [] => []
  | none, c :: s => if c = '$' then expandFrom env (some []) s else c :: expandFrom env none s
  | some name, [] => if name = [] then ['$'] else env name
  | some name, c :: s =>
    if nameChar c then expandFrom env (some (name ++ [c])) s
    else (if name = [] then ['$'] else env name) ++
      if c = '$' then expandFrom env (some []) s else c :: expandFrom env none s

def expand (env : Text → Text) (s : Text) : Text := expandFrom env none s

/-- `awk '{print $2}'` -/
def secondField (line : Text) : Text :=
  ((line.splitOnP (fun c => c = ' ' || c = '\t')).filter (fun w => w ≠ []))[1]?.getD []

theorem inputLines_printLines {ls : List Text} (h : ∀ l ∈ ls, '\n' ∉ l) : inputLines (printLines ls) = ls := by
  unfold inputLines printLines
  rw [splitOn_lines h]
  simp

theorem capture_end {s : Text} (h : s.getLast? ≠ some '\n') : capture (s ++ ['\n']) = s := by
  unfold capture
  rw [List.rdropWhile_concat_pos _ _ _ (by decide)]
  rcases List.eq_nil_or_concat s with rfl | ⟨init,last,rfl⟩
  · rfl
  · rw [List.concat_eq_append] at h ⊢
    exact List.rdropWhile_concat_neg _ _ _ (by simpa using h)

theorem capture_line {s : Text} (h : '\n' ∉ s) : capture (s ++ ['\n']) = s := by
  refine capture_end (fun hlast => h ?_)
  exact List.mem_of_getLast? hlast

theorem cut_front {sep : Char} {a : Text} (h : sep ∉ a) (b : Text) :
    cut sep (fun fs => fs.take 1) (a ++ sep :: b) = a := by
  unfold cut
  rw [if_pos (by simp),splitOn_line h]
  simp

theorem cut_back {sep : Char} {a : Text} (h : sep ∉ a) (b : Text) :
    cut sep (fun fs => fs.drop 1) (a ++ sep :: b) = b := by
  unfold cut
  rw [if_pos (by simp),splitOn_line h]
  exact List.intercalate_splitOn sep

theorem beforeLast_append {sep : Char} {b : Text} (h : sep ∉ b) (a : Text) : beforeLast sep (a ++ sep :: b) = a := by
  have hrev : (a ++ sep :: b).reverse = b.reverse ++ sep :: a.reverse := by simp
  rw [beforeLast,hrev,cut_back (by simpa using h),List.reverse_reverse]

theorem afterLast_append {sep : Char} {b : Text} (h : sep ∉ b) (a : Text) : afterLast sep (a ++ sep :: b) = b := by
  have hrev : (a ++ sep :: b).reverse = b.reverse ++ sep :: a.reverse := by simp
  rw [afterLast,hrev,cut_front (by simpa using h),List.reverse_reverse]

theorem splitWords_intercalate {ts : List Text} (h : ∀ t ∈ ts, IsToken t) : splitWords ([' '].intercalate ts) = ts := by
  have hblank : ∀ t ∈ ts, ∀ c ∈ t, (decide (c = ' ') || decide (c = '\t') || decide (c = '\n')) = false := by
    intro t ht c hc
    have hspace := (h t ht).2 c hc
    have hne : (c ≠ ' ' ∧ c ≠ '\t') ∧ c ≠ '\n' := by
      refine ⟨⟨?_, ?_⟩, ?_⟩ <;> rintro rfl <;> revert hspace <;> decide
    simpa using hne
  unfold splitWords
  induction ts with
  | nil => rfl
  | cons t ts ih =>
    have hne : t ≠ [] := (h t List.mem_cons_self).1
    have hrest := ih (fun t' ht' => h t' (List.mem_cons_of_mem _ ht'))
      (fun t' ht' => hblank t' (List.mem_cons_of_mem _ ht'))
    have hhead := hblank t List.mem_cons_self
    cases ts with
    | nil =>
      rw [List.intercalate_singleton,List.splitOnP_eq_singleton hhead]
      simp [hne]
    | cons u us =>
      rw [List.intercalate_cons_cons,List.append_assoc,List.singleton_append,
        List.splitOnP_append_cons_of_forall_mem hhead ' ' (by decide),
        List.filter_cons_of_pos (by simpa using hne),hrest]

theorem expand_text {s : Text} (h : '$' ∉ s) (env : Text → Text) (rest : Text) :
    expand env (s ++ rest) = s ++ expand env rest := by
  unfold expand
  induction s with
  | nil => rfl
  | cons c s ih =>
    have hc : c ≠ '$' := fun heq => h (heq ▸ List.mem_cons_self)
    have hs : '$' ∉ s := fun hmem => h (List.mem_cons_of_mem c hmem)
    rw [List.cons_append,expandFrom,if_neg hc,ih hs]
    rfl

theorem expandFrom_name {name : Text} (h : name.all nameChar = true) (env : Text → Text) {c : Char}
    (hc : nameChar c = false) (hdollar : c ≠ '$') {read : Text} (hne : read ++ name ≠ []) (rest : Text) :
    expandFrom env (some read) (name ++ c :: rest) = env (read ++ name) ++ c :: expand env rest := by
  induction name generalizing read with
  | nil =>
    rw [List.append_nil] at hne ⊢
    rw [List.nil_append,expandFrom,if_neg (by simp [hc]),if_neg hne,if_neg hdollar]
    rfl
  | cons d name ih =>
    obtain ⟨hd,hname⟩ := by simpa only [List.all_cons,Bool.and_eq_true] using h
    rw [List.cons_append,expandFrom,if_pos hd,ih hname (by simp)]
    simp

theorem expand_variable {name : Text} (h : name.all nameChar = true) (hne : name ≠ []) (env : Text → Text)
    {c : Char} (hc : nameChar c = false) (hdollar : c ≠ '$') (rest : Text) :
    expand env ('$' :: (name ++ c :: rest)) = env name ++ c :: expand env rest := by
  rw [expand,expandFrom,if_pos rfl,expandFrom_name h env hc hdollar (by simpa using hne),List.nil_append]

theorem IsToken.blank {t : Text} (h : IsToken t) : ∀ c ∈ t, (decide (c = ' ') || decide (c = '\t')) = false := by
  intro c hc
  have hspace := h.2 c hc
  have hne : c ≠ ' ' ∧ c ≠ '\t' := by
    constructor <;> rintro rfl <;> revert hspace <;> decide
  simpa using hne

theorem secondField_words {x y : Text} (hx : IsToken x) (hy : IsToken y) (ts : List Text) :
    secondField ([' '].intercalate (x :: y :: ts)) = y := by
  have hline : ∀ s, (x ++ ' ' :: s).splitOnP (fun c => c = ' ' || c = '\t') =
      x :: s.splitOnP (fun c => c = ' ' || c = '\t') := fun s =>
    List.splitOnP_append_cons_of_forall_mem (IsToken.blank hx) ' ' (by decide) s
  unfold secondField
  rw [List.intercalate_cons_cons,List.append_assoc,List.singleton_append,hline]
  cases ts with
  | nil =>
    rw [List.intercalate_singleton,List.splitOnP_eq_singleton (IsToken.blank hy)]
    simp [hx.1,hy.1]
  | cons t ts =>
    rw [List.intercalate_cons_cons,List.append_assoc,List.singleton_append,
      List.splitOnP_append_cons_of_forall_mem (IsToken.blank hy) ' ' (by decide)]
    simp [hx.1,hy.1]

theorem suffix_append_cons {sep : Char} {needle : Text} (hn : sep ∉ needle) (a b : Text) :
    needle <:+ a ++ sep :: b ↔ needle <:+ b := by
  constructor
  · intro h
    have hback : sep :: b <:+ a ++ sep :: b := List.suffix_append a _
    rcases List.suffix_or_suffix_of_suffix h hback with h | h
    · rcases List.suffix_cons_iff.mp h with rfl | h
      · exact absurd List.mem_cons_self hn
      · exact h
    · exact absurd (h.subset List.mem_cons_self) hn
  · intro h
    exact h.trans ((List.suffix_cons sep b).trans (List.suffix_append a _))

theorem suffix_intercalate {sep : Char} {needle : Text} (hn : sep ∉ needle) (hne : needle ≠ [])
    (names : List Text) :
    needle <:+ [sep].intercalate names ↔ ∃ name, names.getLast? = some name ∧ needle <:+ name := by
  induction names with
  | nil => simp [hne]
  | cons name names ih =>
    cases names with
    | nil => simp
    | cons next names =>
      rw [List.intercalate_cons_cons,List.append_assoc,List.singleton_append,suffix_append_cons hn,ih,
        List.getLast?_cons_cons]

theorem infix_cons_iff {sep : Char} {a b t rest : Text} (ha : sep ∉ a) (ht : sep ∉ t) :
    a ++ sep :: b <:+: t ++ sep :: rest ↔ (a <:+ t ∧ b <+: rest) ∨ a ++ sep :: b <:+: rest := by
  constructor
  · rintro ⟨front,back,heq⟩
    have hsplit : (front ++ a) ++ sep :: (b ++ back) = t ++ sep :: rest := by simpa using heq
    rcases List.append_eq_append_iff.mp hsplit with ⟨m,hm,hback⟩ | ⟨m,hm,hback⟩
    · cases m with
      | nil =>
        have hrest : b ++ back = rest := (List.cons.inj hback).2
        exact .inl ⟨⟨front, by simpa using hm.symm⟩, ⟨back, hrest⟩⟩
      | cons c m =>
        obtain ⟨rfl,-⟩ := List.cons.inj hback
        exact absurd (by rw [hm]; simp) ht
    · cases m with
      | nil =>
        have hrest : rest = b ++ back := (List.cons.inj hback).2
        exact .inl ⟨⟨front, by simpa using hm⟩, ⟨back, hrest.symm⟩⟩
      | cons c m =>
        obtain ⟨rfl,rfl⟩ := List.cons.inj hback
        -- `a` has no separator, so it ends behind the one after `t`
        have hsuffix : a <:+ m := by
          rw [← suffix_append_cons ha t m,← hm]
          exact List.suffix_append front a
        obtain ⟨m₀,rfl⟩ := hsuffix
        exact .inr ⟨m₀, back, by simp⟩
  · rintro (⟨⟨front,rfl⟩,⟨back,rfl⟩⟩ | ⟨front,back,rfl⟩)
    · exact ⟨front, back, by simp⟩
    · exact ⟨t ++ sep :: front, back, by simp⟩

theorem infix_words {sep : Char} {a b : Text} (ha : sep ∉ a) (hb : sep ∉ b) {ts : List Text}
    (hts : ∀ t ∈ ts, sep ∉ t) :
    a ++ sep :: b <:+: [sep].intercalate ts ↔ ∃ x y, [x, y] <:+: ts ∧ a <:+ x ∧ b <+: y := by
  induction ts with
  | nil => simp
  | cons t ts ih =>
    cases ts with
    | nil =>
      refine iff_of_false ?_ ?_
      · intro h
        rw [List.intercalate_singleton] at h
        have hsep : sep ∈ a ++ sep :: b := by simp
        exact hts t (by simp) (h.subset hsep)
      · rintro ⟨x,y,h,-⟩
        have hlen := h.length_le
        simp at hlen
    | cons u us =>
      have hnext : b <+: [sep].intercalate (u :: us) ↔ b <+: u := by
        cases us with
        | nil => simp
        | cons v vs =>
          rw [List.intercalate_cons_cons,List.append_assoc,List.singleton_append]
          exact ⟨prefix_of_append_cons hb, fun h => h.trans (List.prefix_append _ _)⟩
      rw [List.intercalate_cons_cons,List.append_assoc,List.singleton_append,
        infix_cons_iff ha (hts t (by simp)),hnext,ih (fun t' ht' => hts t' (by simp [ht']))]
      constructor
      · rintro (⟨hx,hy⟩ | ⟨x,y,h,hx,hy⟩)
        · exact ⟨t, u, ⟨[], us, rfl⟩, hx, hy⟩
        · exact ⟨x, y, List.infix_cons h, hx, hy⟩
      · rintro ⟨x,y,h,hx,hy⟩
        rcases List.infix_cons_iff.mp h with h | h
        · simp only [List.cons_prefix_cons] at h
          obtain ⟨rfl,rfl,-⟩ := h
          exact .inl ⟨hx, hy⟩
        · exact .inr ⟨x, y, h, hx, hy⟩

theorem inner_word {sep : Char} {w : Text} (hw : sep ∉ w) {t : Text} (ht : sep ∉ t) {ws : List Text}
    (hws : ∀ x ∈ ws, sep ∉ x) : sep :: (w ++ [sep]) <:+: [sep].intercalate (t :: ws) ↔ w ∈ ws.dropLast := by
  induction ws generalizing t with
  | nil =>
    refine iff_of_false (fun h => ?_) (by simp)
    rw [List.intercalate_singleton] at h
    exact ht (h.subset List.mem_cons_self)
  | cons u us ih =>
    have hu : sep ∉ u := hws u List.mem_cons_self
    have hrest := ih hu (fun x hx => hws x (List.mem_cons_of_mem _ hx))
    have hfirst : sep :: (w ++ [sep]) <:+: t ++ sep :: [sep].intercalate (u :: us) ↔
        ([] <:+ t ∧ w ++ [sep] <+: [sep].intercalate (u :: us)) ∨
          sep :: (w ++ [sep]) <:+: [sep].intercalate (u :: us) := infix_cons_iff List.not_mem_nil ht
    rw [List.intercalate_cons_cons,List.append_assoc,List.singleton_append,hfirst,hrest]
    simp only [List.nil_suffix,true_and]
    cases us with
    | nil =>
      refine iff_of_false ?_ (by simp)
      rintro (h | h)
      · rw [List.intercalate_singleton] at h
        exact hu (h.subset (by simp))
      · simp at h
    | cons v vs =>
      have hhead : w ++ [sep] <+: [sep].intercalate (u :: v :: vs) ↔ w = u := by
        rw [List.intercalate_cons_cons,List.append_assoc,List.singleton_append]
        constructor
        · rintro ⟨back,heq⟩
          rw [List.append_assoc,List.singleton_append] at heq
          exact (append_cons_inj hw hu heq).1
        · rintro rfl
          exact ⟨_, by rw [List.append_assoc,List.singleton_append]⟩
      rw [hhead,List.dropLast_cons_of_ne_nil (List.cons_ne_nil v vs),List.mem_cons]

theorem suffix_cons_cases {sep : Char} {w : Text} (hw : sep ∉ w) (t rest : Text) :
    sep :: w <:+ t ++ sep :: rest ↔ w = rest ∨ sep :: w <:+ rest := by
  constructor
  · rintro ⟨front,heq⟩
    rcases List.append_eq_append_iff.mp heq with ⟨m,-,hm⟩ | ⟨m,-,hm⟩
    · cases m with
      | nil => exact .inl (List.cons.inj hm).2
      | cons c m =>
        obtain ⟨-,rfl⟩ := List.cons.inj hm
        exact absurd (by simp) hw
    · cases m with
      | nil => exact .inl (List.cons.inj hm).2.symm
      | cons c m =>
        obtain ⟨-,rfl⟩ := List.cons.inj hm
        exact .inr (List.suffix_append m _)
  · rintro (rfl | h)
    · exact List.suffix_append t _
    · exact h.trans ((List.suffix_cons sep rest).trans (List.suffix_append t _))

theorem last_word {sep : Char} {w : Text} (hw : sep ∉ w) {t : Text} (ht : sep ∉ t) {ws : List Text}
    (hws : ∀ x ∈ ws, sep ∉ x) : sep :: w <:+ [sep].intercalate (t :: ws) ↔ ws.getLast? = some w := by
  induction ws generalizing t with
  | nil =>
    refine iff_of_false (fun h => ?_) (by simp)
    rw [List.intercalate_singleton] at h
    exact ht (h.subset List.mem_cons_self)
  | cons u us ih =>
    have hrest := ih (hws u List.mem_cons_self) (fun x hx => hws x (List.mem_cons_of_mem _ hx))
    rw [List.intercalate_cons_cons,List.append_assoc,List.singleton_append,suffix_cons_cases hw,hrest]
    cases us with
    | nil => simp [eq_comm]
    | cons v vs =>
      have hne : w ≠ [sep].intercalate (u :: v :: vs) := by
        rintro rfl
        rw [List.intercalate_cons_cons] at hw
        exact hw (by simp)
      rw [List.getLast?_cons_cons,or_iff_right hne]

end ShellText
