import Mathlib.Data.List.Induction
import Mathlib.Order.Lattice

/-!
Loops that go through a list and keep the best element so far. Nothing here knows
what is better.
-/

set_option autoImplicit false

namespace Selection

/-- Each step keeps its choice or takes the element it looks at: then the choice in the
end is the one from the start or an element of the list. -/
theorem foldl_choice {σ α β : Type*} {step : σ → α → σ} {choice : σ → Option β} {value : α → β}
    (hstep : ∀ s a, choice (step s a) = choice s ∨ choice (step s a) = some (value a)) (s : σ)
    (l : List α) :
    choice (l.foldl step s) = choice s ∨ ∃ a ∈ l, choice (l.foldl step s) = some (value a) := by
  induction l generalizing s with
  | nil => exact .inl rfl
  | cons a l ih =>
    rcases ih (step s a) with hkeep | ⟨b,hb,hchoice⟩
    · rw [List.foldl_cons,hkeep]
      rcases hstep s a with h | h
      · exact .inl h
      · exact .inr ⟨a, by simp, h⟩
    · exact .inr ⟨b, by simp [hb], hchoice⟩

/-- Each step comes out below where it starts, and below the element it looks at if that
can be taken: then the end is below all of them. -/
theorem foldl_least {σ α κ : Type*} [Preorder κ] {step : σ → α → σ} {key : σ → κ} {value : α → κ}
    {eligible : α → Prop} (hkeep : ∀ s a, key (step s a) ≤ key s)
    (hsee : ∀ s a, eligible a → key (step s a) ≤ value a) (s : σ) (l : List α) :
    key (l.foldl step s) ≤ key s ∧ ∀ a ∈ l, eligible a → key (l.foldl step s) ≤ value a := by
  induction l generalizing s with
  | nil => simp
  | cons a l ih =>
    obtain ⟨hle,hall⟩ := ih (step s a)
    refine ⟨le_trans hle (hkeep s a), fun b hb heligible => ?_⟩
    rcases List.mem_cons.mp hb with rfl | hb
    · exact le_trans hle (hsee s b heligible)
    · exact hall b hb heligible

section
variable {α κ : Type*} [LinearOrder κ] {value : α → κ}

/-- The first of the greatest elements of a list. -/
def FirstMax (value : α → κ) (l : List α) (a : α) : Prop :=
  ∃ pre post, l = pre ++ a :: post ∧ (∀ b ∈ pre, value b < value a) ∧ ∀ b ∈ post, value b ≤ value a

theorem FirstMax.mem {l : List α} {a : α} (h : FirstMax value l a) : a ∈ l := by
  obtain ⟨pre,post,rfl,-,-⟩ := h
  simp

theorem FirstMax.le {l : List α} {a b : α} (h : FirstMax value l a) (hb : b ∈ l) :
    value b ≤ value a := by
  obtain ⟨pre,post,rfl,hpre,hpost⟩ := h
  rcases List.mem_append.mp hb with hb | hb
  · exact le_of_lt (hpre b hb)
  · rcases List.mem_cons.mp hb with rfl | hb
    · exact le_refl _
    · exact hpost b hb

theorem FirstMax.lt_of_append {front back : List α} {a : α} (h : FirstMax value (front ++ back) a)
    (ha : a ∉ front) : ∀ b ∈ front, value b < value a := by
  obtain ⟨pre,post,hsplit,hpre,-⟩ := h
  rcases List.append_eq_append_iff.mp hsplit with ⟨mid,hmid,-⟩ | ⟨mid,hmid,hrest⟩
  · intro b hb
    exact hpre b (by simp [hmid,hb])
  · cases mid with
    | nil =>
      intro b hb
      exact hpre b (by simpa [hmid] using hb)
    | cons c mid =>
      have hc : a = c := (List.cons.inj hrest).1
      exact absurd (by simp [hmid,hc]) ha

theorem FirstMax.of_map {β : Type*} {f : β → α} {l : List β} {a : α}
    (h : FirstMax value (l.map f) a) : ∃ b, f b = a ∧ FirstMax (fun b => value (f b)) l b := by
  obtain ⟨pre,post,hsplit,hpre,hpost⟩ := h
  obtain ⟨front,tail,rfl,rfl,htail⟩ := List.map_eq_append_iff.mp hsplit
  obtain ⟨b,back,rfl,rfl,rfl⟩ := List.map_eq_cons_iff.mp htail
  refine ⟨b, rfl, front, back, rfl, fun c hc => ?_, fun c hc => ?_⟩
  · exact hpre (f c) (List.mem_map_of_mem hc)
  · exact hpost (f c) (List.mem_map_of_mem hc)

theorem foldl_firstMax {step : Option (α × κ) → α → Option (α × κ)}
    (hnone : ∀ a, step none a = some (a, value a))
    (hsome : ∀ b v a, step (some (b, v)) a = if v < value a then some (a, value a) else some (b, v))
    (l : List α) :
    (l = [] ∧ l.foldl step none = none) ∨
      ∃ a, l.foldl step none = some (a, value a) ∧ FirstMax value l a := by
  induction l using List.reverseRecOn with
  | nil => exact .inl ⟨rfl, rfl⟩
  | append_singleton l a ih =>
    right
    rw [List.foldl_append,List.foldl_cons,List.foldl_nil]
    rcases ih with ⟨rfl,hfold⟩ | ⟨b,hfold,pre,post,rfl,hpre,hpost⟩
    · exact ⟨a, by rw [hfold,hnone], [], [], rfl, by simp, by simp⟩
    · rw [hfold,hsome]
      by_cases hlt : value b < value a
      · refine ⟨a, if_pos hlt, pre ++ b :: post, [], by simp, ?_, by simp⟩
        intro c hc
        exact lt_of_le_of_lt (FirstMax.le ⟨pre, post, rfl, hpre, hpost⟩ hc) hlt
      · refine ⟨b, if_neg hlt, pre, post ++ [a], by simp, hpre, ?_⟩
        intro c hc
        rcases List.mem_append.mp hc with hc | hc
        · exact hpost c hc
        · rw [List.mem_singleton.mp hc]
          exact not_lt.mp hlt

end

end Selection
