import Mathlib.Data.List.Pairwise
import Mathlib.Data.List.Basic

/-!
One named place in a store that a controller sees through a cache. The cache lags, but never goes
back. The controller fills the place only when it sees it empty and clears it only when it sees a
dead occupant there; what it clears in fact is whatever stands there by then.
-/

set_option autoImplicit false

namespace CachedSlot

variable {J : Type}

/-- What the cache shows, and what has been written since, oldest first. -/
structure Slot (J : Type) where
  cached : Option J
  ahead : List (Option J)

def Slot.versions (s : Slot J) : List (Option J) := s.cached :: s.ahead

def Slot.latest (s : Slot J) : Option J := s.versions.getLast (List.cons_ne_nil _ _)

def Slot.write (s : Slot J) (v : Option J) : Slot J := ⟨s.cached, s.ahead ++ [v]⟩

def Slot.refresh (s : Slot J) : Slot J :=
  match s.ahead with
  | [] => s
  | v :: rest => ⟨v, rest⟩

/-- Nobody else fills the place, or clears it before the cache has shown that it is filled. -/
inductive Step (dead : J → Prop) : Slot J → Slot J → Prop
  | idle (s : Slot J) : Step dead s s
  | refresh (s : Slot J) : Step dead s s.refresh
  | move {s : Slot J} {j j' : J} : s.latest = some j → (dead j → dead j') → Step dead s (s.write (some j'))
  | remove {s : Slot J} : s.cached ≠ none → Step dead s (s.write none)
  | create {s : Slot J} {j : J} : s.cached = none → s.latest = none → Step dead s (s.write (some j))
  | delete {s : Slot J} {j : J} : s.cached = some j → dead j → Step dead s (s.write none)

/-- Behind the cache there is one life at most: the end of it if the cache shows an occupant, and
the beginning if it shows none. Who is dead stays so. -/
structure OneLife (dead : J → Prop) (s : Slot J) : Prop where
  ages : s.versions.Pairwise (fun v v' => ∀ j ∈ v, dead j → ∀ j' ∈ v', dead j')
  born : s.cached = none → s.versions.Pairwise (fun v v' => v' = none → v = none)
  gone : s.cached ≠ none → s.versions.Pairwise (fun v v' => v = none → v' = none)

theorem OneLife.synced (dead : J → Prop) (v : Option J) : OneLife dead ⟨v, []⟩ :=
  ⟨List.pairwise_singleton .., fun _ => List.pairwise_singleton .., fun _ => List.pairwise_singleton ..⟩

variable {dead : J → Prop} {s s' : Slot J}

theorem Slot.pairwise_write {R : Option J → Option J → Prop} {v : Option J}
    (h : s.versions.Pairwise R) (hv : ∀ u ∈ s.versions, R u v) : (s.write v).versions.Pairwise R :=
  List.pairwise_append.mpr ⟨h, List.pairwise_singleton .., by simpa using hv⟩

theorem Slot.pairwise_latest {R : Option J → Option J → Prop} (h : s.versions.Pairwise R)
    (hrefl : R s.latest s.latest) : ∀ v ∈ s.versions, R v s.latest :=
  fun _ hv => h.rel_getLast_of_rel_getLast_getLast hv hrefl

theorem OneLife.dead_latest (h : OneLife dead s) {v : Option J} (hv : v ∈ s.versions) {j : J} (hj : j ∈ v)
    (hdead : dead j) : ∀ j' ∈ s.latest, dead j' := by
  have hrefl : ∀ j ∈ s.latest, dead j → ∀ j' ∈ s.latest, dead j' := by
    intro j hj hd j' hj'
    rwa [Option.mem_unique hj' hj]
  exact Slot.pairwise_latest h.ages hrefl v hv j hj hdead

theorem OneLife.refresh (h : OneLife dead s) : OneLife dead s.refresh := by
  unfold Slot.refresh
  split
  · exact h
  · next v rest hahead =>
    have hversions : s.versions = s.cached :: v :: rest := by rw [Slot.versions,hahead]
    have hages := h.ages
    have hborn := h.born
    have hgone := h.gone
    rw [hversions] at hages hborn hgone
    refine ⟨hages.of_cons, fun hv => ?_, fun hv => ?_⟩
    · by_cases hcached : s.cached = none
      · exact (hborn hcached).of_cons
      · -- the occupant has gone, and nobody has come since
        have hrest := (List.pairwise_cons.mp (hgone hcached).of_cons).1
        have hnone : ∀ u ∈ v :: rest, u = none :=
          List.forall_mem_cons.mpr ⟨hv, fun u hu => hrest u hu hv⟩
        exact List.pairwise_of_forall_mem_list (fun u hu _ _ _ => hnone u hu)
    · by_cases hcached : s.cached = none
      · -- the occupant has come, and nobody has gone since
        have hrest := (List.pairwise_cons.mp (hborn hcached).of_cons).1
        have hsome : ∀ u ∈ v :: rest, u ≠ none :=
          List.forall_mem_cons.mpr ⟨hv, fun u hu hnone => hv (hrest u hu hnone)⟩
        exact List.pairwise_of_forall_mem_list (fun u hu _ _ hnone => absurd hnone (hsome u hu))
      · exact (hgone hcached).of_cons

theorem OneLife.create (h : OneLife dead s) (hcached : s.cached = none) (hlatest : s.latest = none) (j : J) :
    OneLife dead (s.write (some j)) := by
  have hborn := h.born hcached
  have hnone : ∀ v ∈ s.versions, v = none :=
    fun v hv => Slot.pairwise_latest hborn (fun hl => hl) v hv hlatest
  refine ⟨Slot.pairwise_write h.ages ?_, fun _ => Slot.pairwise_write hborn ?_, fun hne => absurd hcached hne⟩
  · intro v hv j hj
    rw [hnone v hv] at hj
    cases hj
  · intro v hv hnone
    cases hnone

theorem OneLife.clear (h : OneLife dead s) (hcached : s.cached ≠ none) : OneLife dead (s.write none) := by
  refine ⟨Slot.pairwise_write h.ages ?_, fun hnone => absurd hnone hcached,
    fun _ => Slot.pairwise_write (h.gone hcached) (fun _ _ _ => rfl)⟩
  intro v hv j hj hdead j' hj'
  cases hj'

theorem OneLife.move (h : OneLife dead s) {j j' : J} (hlatest : s.latest = some j) (hmove : dead j → dead j') :
    OneLife dead (s.write (some j')) := by
  refine ⟨Slot.pairwise_write h.ages ?_, fun hnone => Slot.pairwise_write (h.born hnone) ?_,
    fun hne => Slot.pairwise_write (h.gone hne) ?_⟩
  · intro v hv i hi hdead i' hi'
    cases hi'
    exact hmove (h.dead_latest hv hi hdead j hlatest)
  · intro v hv hnone
    cases hnone
  · intro v hv hnone
    have := Slot.pairwise_latest (h.gone hne) (fun hl => hl) v hv hnone
    rw [hlatest] at this
    cases this

theorem OneLife.step (h : OneLife dead s) (hstep : Step dead s s') : OneLife dead s' := by
  cases hstep with
  | idle => exact h
  | refresh => exact h.refresh
  | move hlatest hmove => exact h.move hlatest hmove
  | remove hcached => exact h.clear hcached
  | create hcached hlatest => exact h.create hcached hlatest _
  | delete hcached hdead => exact h.clear (by simp [hcached])

end CachedSlot
