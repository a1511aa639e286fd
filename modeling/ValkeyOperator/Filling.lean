import Mathlib.Algebra.BigOperators.Group.Finset.Basic
import Mathlib.Algebra.Order.BigOperators.Group.Finset

/-!
Filling places up to a target, one at a time and each time where there is least. Nothing
here knows what is placed.
-/

set_option autoImplicit false

namespace Filling

variable {ι : Type*} [DecidableEq ι]

def placed (start : ι → Nat) (picks : List ι) (i : ι) : Nat := start i + picks.count i

def lacking (places : Finset ι) (target : Nat) (count : ι → Nat) : Nat :=
  ∑ i ∈ places, (target - count i)

/-- Every pick is a place that had the least when it was picked. -/
def Greedy (places : Finset ι) (start : ι → Nat) (picks : List ι) : Prop :=
  ∀ before p after, picks = before ++ p :: after →
    p ∈ places ∧ ∀ q ∈ places, placed start before p ≤ placed start before q

theorem placed_concat (start : ι → Nat) (picks : List ι) (p i : ι) :
    placed start (picks ++ [p]) i = placed start picks i + if i = p then 1 else 0 := by
  by_cases h : i = p
  · simp [placed,h]
    omega
  · have hne : p ≠ i := fun heq => h heq.symm
    simp [placed,h,hne]

theorem Greedy.init {places : Finset ι} {start : ι → Nat} {picks : List ι} {p : ι}
    (h : Greedy places start (picks ++ [p])) : Greedy places start picks := by
  intro before q after heq
  exact h before q (after ++ [p]) (by simp [heq])

theorem Greedy.lacks {places : Finset ι} {start : ι → Nat} {picks : List ι} {p : ι} {target : Nat}
    (h : Greedy places start (picks ++ [p]))
    (hpos : 0 < lacking places target (placed start picks)) :
    p ∈ places ∧ placed start picks p < target := by
  obtain ⟨hmem,hleast⟩ := h picks p [] rfl
  obtain ⟨q,hq,hne⟩ := Finset.exists_ne_zero_of_sum_ne_zero (Nat.pos_iff_ne_zero.mp hpos)
  have hle := hleast q hq
  exact ⟨hmem, by omega⟩

theorem lacking_concat {places : Finset ι} {start : ι → Nat} {picks : List ι} {p : ι} {target : Nat}
    (hp : p ∈ places) (hlt : placed start picks p < target) :
    lacking places target (placed start (picks ++ [p])) + 1 =
      lacking places target (placed start picks) := by
  unfold lacking
  rw [← Finset.add_sum_erase places _ hp,
    ← Finset.add_sum_erase places (fun i => target - placed start picks i) hp]
  have hrest : ∑ i ∈ places.erase p, (target - placed start (picks ++ [p]) i) =
      ∑ i ∈ places.erase p, (target - placed start picks i) := by
    refine Finset.sum_congr rfl (fun i hi => ?_)
    rw [placed_concat,if_neg (Finset.ne_of_mem_erase hi),Nat.add_zero]
  rw [hrest,placed_concat,if_pos rfl]
  omega

/-- As long as there is enough to fill, each pick fills, and no place goes over the
target because of it. -/
theorem Greedy.fills {places : Finset ι} {start : ι → Nat} {target : Nat} {picks : List ι}
    (h : Greedy places start picks) (hlen : picks.length ≤ lacking places target start) :
    lacking places target (placed start picks) + picks.length = lacking places target start ∧
      ∀ p, placed start picks p ≤ max (start p) target := by
  induction picks using List.reverseRecOn with
  | nil => simp [placed,lacking]
  | append_singleton picks p ih =>
    simp only [List.length_append,List.length_singleton] at hlen ⊢
    obtain ⟨hsum,hmax⟩ := ih h.init (by omega)
    have hpos : 0 < lacking places target (placed start picks) := by omega
    obtain ⟨hp,hlt⟩ := h.lacks hpos
    have hstep := lacking_concat hp hlt
    refine ⟨by omega, fun q => ?_⟩
    rw [placed_concat]
    by_cases hq : q = p
    · rw [if_pos hq,hq]
      omega
    · rw [if_neg hq]
      exact hmax q

theorem Greedy.full {places : Finset ι} {start : ι → Nat} {target : Nat} {picks : List ι}
    (h : Greedy places start picks) (hlen : picks.length = lacking places target start) :
    ∀ p ∈ places, target ≤ placed start picks p := by
  intro p hp
  obtain ⟨hsum,-⟩ := h.fills (Nat.le_of_eq hlen)
  have hzero : lacking places target (placed start picks) = 0 := by omega
  have hterm := (Finset.sum_eq_zero_iff.mp hzero) p hp
  omega

end Filling
