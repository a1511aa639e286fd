import Mathlib.Logic.Function.Basic

/-!
Merge patches between three copies of the same data: the `base` a client took
before it changed anything, the `cur`rent copy it wants stored, and what the
server has `stored`. A patch carries the difference of the first two and is
applied to the third.
-/

set_option autoImplicit false

namespace MergePatch

section
variable {α : Type*} [DecidableEq α]

/-- A field that did not change is not part of the patch. -/
def field (base cur stored : α) : α := if cur = base then stored else cur

@[simp] theorem field_unchanged (base stored : α) : field base base stored = stored := by
  simp [field]

@[simp] theorem field_base (base cur : α) : field base cur base = cur := by
  unfold field
  split
  · rename_i h
    exact h.symm
  · rfl

theorem field_changed {base cur : α} (stored : α) (h : cur ≠ base) :
    field base cur stored = cur := by simp [field,h]

end

section
variable {κ α : Type*} [DecidableEq α]

/-- Objects are patched key by key; a missing key is `none`, so that removing
a key is a change like any other. -/
def keyed (base cur stored : κ → Option α) : κ → Option α :=
  fun k => field (base k) (cur k) (stored k)

theorem keyed_unchanged {base cur stored : κ → Option α} {k : κ} (h : cur k = base k) :
    keyed base cur stored k = stored k := by simp [keyed,h]

theorem keyed_base {base cur stored : κ → Option α} {k : κ} (h : stored k = base k) :
    keyed base cur stored k = cur k := by simp [keyed,h]

@[simp] theorem keyed_self (base stored : κ → Option α) : keyed base base stored = stored := by
  funext k
  exact keyed_unchanged rfl

end

end MergePatch
