import Mathlib.Data.List.Infix

/-!
A buffer of fixed size that is filled from the front. Every write names its index and fails
outside of the buffer.
-/

set_option autoImplicit false

namespace CheckedBuffer

variable {α : Type*}

def write (buf : List α) (i : Nat) (a : α) : Option (List α) :=
  if i < buf.length then some (buf.set i a) else none

/-- `memcpy` of a number of elements, all of which the source must have. -/
def copy (buf : List α) (i : Nat) : List α → Nat → Option (List α)
  | _, 0 => some buf
  | [], _ + 1 => none
  | a :: src, n + 1 => (write buf i a).bind (fun buf => copy buf (i + 1) src n)

/-- The buffer has its size, and the text stands at its front. -/
structure Filled (size : Nat) (text buf : List α) : Prop where
  length : buf.length = size
  front : text <+: buf

namespace Filled
variable {size : Nat} {text buf : List α} (h : Filled size text buf)

include h

theorem write {a : α} (hroom : text.length < size) :
    ∃ out, CheckedBuffer.write buf text.length a = some out ∧ Filled size (text ++ [a]) out := by
  obtain ⟨rest,rfl⟩ := h.front
  have hlen := h.length
  rw [List.length_append] at hlen
  obtain ⟨b,rest,rfl⟩ := List.exists_cons_of_ne_nil (List.ne_nil_of_length_pos (l := rest) (by omega))
  refine ⟨text ++ a :: rest, ?_, ?_, ⟨rest, by simp⟩⟩
  · simp [CheckedBuffer.write]
  · simpa using hlen

theorem copy {src : List α} {n : Nat} (hsrc : n ≤ src.length) (hroom : text.length + n ≤ size) :
    ∃ out, CheckedBuffer.copy buf text.length src n = some out ∧ Filled size (text ++ src.take n) out := by
  induction n generalizing text buf src with
  | zero => exact ⟨buf, by cases src <;> rfl, by simpa using h⟩
  | succ n ih =>
    cases src with
    | nil => simp at hsrc
    | cons a src =>
      obtain ⟨next,hwrite,hnext⟩ := h.write (a := a) (by omega)
      have hlen : (text ++ [a]).length = text.length + 1 := by simp
      obtain ⟨out,hcopy,hout⟩ := ih hnext (show n ≤ src.length by simpa using hsrc) (by omega)
      rw [hlen] at hcopy
      refine ⟨out, ?_, by simpa using hout⟩
      rw [CheckedBuffer.copy,hwrite,Option.bind_some,hcopy]

end Filled

end CheckedBuffer
