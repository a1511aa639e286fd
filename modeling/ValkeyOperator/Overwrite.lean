import Mathlib.Data.List.Infix

/-!
Partial assignments: each one sets some cells and leaves the others, and a later
one wins. A table of named records is updated name by name with lists of them.
-/

set_option autoImplicit false

namespace Overwrite

section
variable {κ α : Type}

abbrev Write (κ α : Type) := κ → Option α

def put (f : κ → α) (w : Write κ α) : κ → α := fun k => (w k).getD (f k)

def putAll (f : κ → α) (ws : List (Write κ α)) : κ → α := ws.foldl put f

def Spares (ws : List (Write κ α)) (k : κ) : Prop := ∀ w ∈ ws, w k = none

theorem putAll_spared {ws : List (Write κ α)} {k : κ} (h : Spares ws k) (f : κ → α) :
    putAll f ws k = f k := by
  induction ws generalizing f with
  | nil => rfl
  | cons w ws ih =>
    have hw : w k = none := h w List.mem_cons_self
    have hws : Spares ws k := fun v hv => h v (List.mem_cons_of_mem w hv)
    calc putAll f (w :: ws) k = putAll (put f w) ws k := rfl
      _ = put f w k := ih hws _
      _ = f k := by simp [put,hw]

theorem putAll_set {ws : List (Write κ α)} {k : κ} (h : ¬ Spares ws k) (f g : κ → α) :
    putAll f ws k = putAll g ws k := by
  induction ws generalizing f g with
  | nil => exact absurd (fun w hw => absurd hw List.not_mem_nil) h
  | cons w ws ih =>
    by_cases hws : Spares ws k
    · -- the last assignment to the cell is the first of the list
      have hw : w k ≠ none := by
        intro hw
        exact h (fun v hv => (List.mem_cons.mp hv).elim (fun e => e ▸ hw) (hws v))
      obtain ⟨a,ha⟩ := Option.ne_none_iff_exists'.mp hw
      have hput : ∀ f : κ → α, putAll f (w :: ws) k = a := by
        intro f
        calc putAll f (w :: ws) k = putAll (put f w) ws k := rfl
          _ = put f w k := putAll_spared hws _
          _ = a := by simp [put,ha]
      rw [hput f,hput g]
    · exact ih hws _ _

theorem putAll_keeps (P : α → Prop) {ws : List (Write κ α)} {k : κ} (h : ∀ w ∈ ws, ∀ a, w k = some a → P a)
    {f : κ → α} (hf : P (f k)) : P (putAll f ws k) := by
  induction ws generalizing f with
  | nil => exact hf
  | cons w ws ih =>
    refine ih (fun v hv => h v (List.mem_cons_of_mem w hv)) ?_
    unfold put
    cases hw : w k with
    | none => exact hf
    | some a => exact h w List.mem_cons_self a hw

theorem putAll_sets (P : α → Prop) {ws : List (Write κ α)} {k : κ} (h : ∀ w ∈ ws, ∀ a, w k = some a → P a)
    {w : Write κ α} (hw : w ∈ ws) {a : α} (ha : w k = some a) (f : κ → α) : P (putAll f ws k) := by
  have hset : ¬ Spares ws k := by
    intro hspares
    rw [hspares w hw] at ha
    cases ha
  rw [putAll_set hset f (fun _ => a)]
  exact putAll_keeps P h (h w hw a ha)

/-- Two starting points lead to one result when they agree on what is never set. -/
theorem putAll_eq_iff {ws : List (Write κ α)} {f g : κ → α} :
    putAll f ws = putAll g ws ↔ ∀ k, Spares ws k → f k = g k := by
  constructor
  · intro h k hk
    rw [← putAll_spared hk f,h,putAll_spared hk g]
  · intro h
    funext k
    by_cases hk : Spares ws k
    · rw [putAll_spared hk,putAll_spared hk,h k hk]
    · exact putAll_set hk f g

end

section
variable {ν κ α : Type} [DecidableEq ν] (fresh : κ → α)

def upsert (t : ν → Option (κ → α)) (c : ν × List (Write κ α)) : ν → Option (κ → α) :=
  fun n => if n = c.1 then some (putAll ((t n).getD fresh) c.2) else t n

def writesFor (cs : List (ν × List (Write κ α))) (n : ν) : List (Write κ α) :=
  cs.flatMap (fun c => if n = c.1 then c.2 else [])

theorem upsertAll_getD (t : ν → Option (κ → α)) (cs : List (ν × List (Write κ α))) (n : ν) :
    (cs.foldl (upsert fresh) t n).getD fresh = putAll ((t n).getD fresh) (writesFor cs n) := by
  induction cs generalizing t with
  | nil => rfl
  | cons c cs ih =>
    rw [List.foldl_cons,ih]
    by_cases hn : n = c.1
    · simp [upsert,writesFor,putAll,hn]
    · simp [upsert,writesFor,hn]

theorem upsertAll_isSome (t : ν → Option (κ → α)) (cs : List (ν × List (Write κ α))) (n : ν) :
    (cs.foldl (upsert fresh) t n).isSome = true ↔ (t n).isSome = true ∨ n ∈ cs.map Prod.fst := by
  induction cs generalizing t with
  | nil => simp
  | cons c cs ih =>
    rw [List.foldl_cons,ih]
    by_cases hn : n = c.1
    · simp [upsert,hn]
    · simp [upsert,hn]

theorem upsertAll_other (t : ν → Option (κ → α)) {cs : List (ν × List (Write κ α))} {n : ν}
    (h : n ∉ cs.map Prod.fst) : cs.foldl (upsert fresh) t n = t n := by
  induction cs generalizing t with
  | nil => rfl
  | cons c cs ih =>
    simp only [List.map_cons,List.mem_cons,not_or] at h
    rw [List.foldl_cons,ih _ h.2]
    simp [upsert,h.1]

theorem upsertAll_named (t : ν → Option (κ → α)) {cs : List (ν × List (Write κ α))} {n : ν}
    (h : n ∈ cs.map Prod.fst) :
    cs.foldl (upsert fresh) t n = some (putAll ((t n).getD fresh) (writesFor cs n)) := by
  have hsome := (upsertAll_isSome fresh t cs n).mpr (.inr h)
  obtain ⟨u,hu⟩ := Option.isSome_iff_exists.mp hsome
  have hget := upsertAll_getD fresh t cs n
  rw [hu] at hget
  rw [hu,← hget]
  rfl

end

end Overwrite
