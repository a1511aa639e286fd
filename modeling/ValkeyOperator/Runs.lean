import Mathlib.Tactic.TypeStar

/-!
Runs of a deterministic step over a list of inputs, kept as a log of inputs
with their outputs, and clock readings that are stored with a coarser grain
than they are taken. Nothing here knows what the steps are.
-/

set_option autoImplicit false

namespace Runs

variable {σ ι ο : Type*}

/-- The inputs of a run in order, each with what its step put out. -/
def log (step : σ → ι → σ × ο) : σ → List ι → List (ι × ο)
  | _, [] => []
  | s, i :: is => (i, (step s i).2) :: log step (step s i).1 is

/-- Every step of the run starts in a state that meets `P` with its input. -/
def Along (step : σ → ι → σ × ο) (P : σ → ι → Prop) : σ → List ι → Prop
  | _, [] => True
  | s, i :: is => P s i ∧ Along step P (step s i).1 is

theorem mem_log {step : σ → ι → σ × ο} {s : σ} {is : List ι} {i : ι} {o : ο}
    (h : (i, o) ∈ log step s is) : i ∈ is ∧ ∃ s', o = (step s' i).2 := by
  induction is generalizing s with
  | nil => simp [log] at h
  | cons j js ih =>
    rcases List.mem_cons.mp h with h | h
    · cases h
      exact ⟨by simp, s, rfl⟩
    · obtain ⟨hi,ho⟩ := ih h
      exact ⟨by simp [hi], ho⟩

theorem along_of_forall {step : σ → ι → σ × ο} {P : ι → Prop} (s : σ) {is : List ι}
    (h : ∀ i ∈ is, P i) : Along step (fun _ i => P i) s is := by
  induction is generalizing s with
  | nil => trivial
  | cons i is ih =>
    exact ⟨h i (by simp), ih _ (fun j hj => h j (by simp [hj]))⟩

/-- The invariant of a run relates the log so far to the state reached. It is
carried to the start of every entry of the log, also past earlier entries. -/
theorem Along.invariant_from {step : σ → ι → σ × ο} {P : σ → ι → Prop}
    {Inv : List (ι × ο) → σ → Prop}
    (hstep : ∀ past s i, Inv past s → P s i →
      Inv (past ++ [(i, (step s i).2)]) (step s i).1)
    {s : σ} {is : List ι} (hrun : Along step P s is)
    (before : List (ι × ο)) (hinv : Inv before s)
    {pre post : List (ι × ο)} {i : ι} {o : ο}
    (hlog : log step s is = pre ++ (i, o) :: post) :
    ∃ s', Inv (before ++ pre) s' ∧ P s' i ∧ o = (step s' i).2 := by
  induction is generalizing s before pre with
  | nil => simp [log] at hlog
  | cons j js ih =>
    obtain ⟨hP,hrest⟩ := hrun
    cases pre with
    | nil =>
      simp only [log,List.nil_append,List.cons.injEq,Prod.mk.injEq] at hlog
      obtain ⟨⟨rfl,rfl⟩,-⟩ := hlog
      exact ⟨s, by simpa using hinv, hP, rfl⟩
    | cons e pre =>
      simp only [log,List.cons_append,List.cons.injEq] at hlog
      obtain ⟨rfl,htail⟩ := hlog
      have hnext := ih hrest (before ++ [(j, (step s j).2)]) (hstep before s j hinv hP) htail
      simpa using hnext

theorem Along.invariant {step : σ → ι → σ × ο} {P : σ → ι → Prop} {s : σ} {is : List ι}
    (hrun : Along step P s is) (Inv : List (ι × ο) → σ → Prop) (hinit : Inv [] s)
    (hstep : ∀ past s i, Inv past s → P s i →
      Inv (past ++ [(i, (step s i).2)]) (step s i).1)
    {pre post : List (ι × ο)} {i : ι} {o : ο}
    (hlog : log step s is = pre ++ (i, o) :: post) :
    ∃ s', Inv pre s' ∧ P s' i ∧ o = (step s' i).2 := by
  simpa using Along.invariant_from hstep hrun [] hinit hlog

def final (step : σ → ι → σ × ο) : σ → List ι → σ
  | s, [] => s
  | s, i :: is => final step (step s i).1 is

theorem final_append (step : σ → ι → σ × ο) (s : σ) (is js : List ι) :
    final step s (is ++ js) = final step (final step s is) js := by
  induction is generalizing s with
  | nil => rfl
  | cons i is ih => exact ih _

theorem mem_log_iff {step : σ → ι → σ × ο} {s : σ} {is : List ι} {i : ι} {o : ο} :
    (i, o) ∈ log step s is ↔
      ∃ before after, is = before ++ i :: after ∧ o = (step (final step s before) i).2 := by
  induction is generalizing s with
  | nil => simp [log]
  | cons j js ih =>
    rw [log,List.mem_cons,ih]
    constructor
    · rintro (heq | ⟨before,after,rfl,ho⟩)
      · obtain ⟨rfl,rfl⟩ := Prod.mk.inj heq
        exact ⟨[], js, rfl, rfl⟩
      · exact ⟨j :: before, after, rfl, ho⟩
    · rintro ⟨before,after,heq,ho⟩
      cases before with
      | nil =>
        obtain ⟨rfl,rfl⟩ := List.cons.inj heq
        exact .inl (by rw [ho]; rfl)
      | cons k before =>
        obtain ⟨rfl,rfl⟩ := List.cons.inj heq
        exact .inr ⟨before, after, rfl, ho⟩

theorem Along.final_from {step : σ → ι → σ × ο} {P : σ → ι → Prop}
    {Inv : List (ι × ο) → σ → Prop}
    (hstep : ∀ past s i, Inv past s → P s i →
      Inv (past ++ [(i, (step s i).2)]) (step s i).1)
    {s : σ} {is : List ι} (hrun : Along step P s is)
    (before : List (ι × ο)) (hinv : Inv before s) :
    Inv (before ++ log step s is) (final step s is) := by
  induction is generalizing s before with
  | nil => simpa [log,final] using hinv
  | cons i is ih =>
    obtain ⟨hP,hrest⟩ := hrun
    have hnext := ih hrest (before ++ [(i, (step s i).2)]) (hstep before s i hinv hP)
    simpa [log,final] using hnext

theorem Along.final {step : σ → ι → σ × ο} {P : σ → ι → Prop} {s : σ} {is : List ι}
    (hrun : Along step P s is) (Inv : List (ι × ο) → σ → Prop) (hinit : Inv [] s)
    (hstep : ∀ past s i, Inv past s → P s i →
      Inv (past ++ [(i, (step s i).2)]) (step s i).1) :
    Inv (log step s is) (Runs.final step s is) := by
  simpa using Along.final_from hstep hrun [] hinit

theorem Along.forall_log {step : σ → ι → σ × ο} {P : σ → ι → Prop} {Q : ι × ο → Prop}
    (hstep : ∀ s i, P s i → Q (i, (step s i).2)) {s : σ} {is : List ι}
    (hrun : Along step P s is) : ∀ q ∈ log step s is, Q q := by
  induction is generalizing s with
  | nil => simp [log]
  | cons i is ih =>
    obtain ⟨hP,hrest⟩ := hrun
    intro q hq
    rcases List.mem_cons.mp hq with rfl | hq
    · exact hstep s i hP
    · exact ih hrest q hq

/-- Whatever a step puts out it takes from a rank: then a run puts out no more than the
rank it starts with. -/
theorem Along.length_flatMap_le {τ : Type*} {step : σ → ι → σ × ο} {P : σ → ι → Prop} {s : σ}
    {is : List ι} (hrun : Along step P s is) (out : ι × ο → List τ) (rank : σ → Nat)
    (hstep : ∀ s i, P s i → (out (i, (step s i).2)).length + rank (step s i).1 ≤ rank s) :
    ((log step s is).flatMap out).length ≤ rank s := by
  induction is generalizing s with
  | nil => simp [log]
  | cons i is ih =>
    obtain ⟨hP,hrest⟩ := hrun
    have hfirst := hstep s i hP
    have hlater := ih hrest
    simp only [log,List.flatMap_cons,List.length_append]
    omega

def Open {α : Type*} (stop : α → Prop) (past : List α) (x : α) : Prop :=
  ∃ before after, past = before ++ x :: after ∧ ∀ y ∈ after, ¬ stop y

theorem Open.mem {α : Type*} {stop : α → Prop} {past : List α} {x : α} (h : Open stop past x) :
    x ∈ past := by
  obtain ⟨before,after,rfl,-⟩ := h
  simp

theorem Open.of_append {α : Type*} {stop : α → Prop} {past es : List α} {x : α}
    (h : Open stop (past ++ es) x) :
    Open stop es x ∨ (Open stop past x ∧ ∀ y ∈ es, ¬ stop y) := by
  obtain ⟨before,after,heq,hstop⟩ := h
  rcases List.append_eq_append_iff.mp heq with ⟨mid,hbefore,hes⟩ | ⟨mid,hpast,hafter⟩
  · exact .inl ⟨mid, after, hes, hstop⟩
  · cases mid with
    | nil => exact .inl ⟨[], after, by simpa using hafter.symm, hstop⟩
    | cons y mid =>
      simp only [List.cons_append,List.cons.injEq] at hafter
      obtain ⟨rfl,rfl⟩ := hafter
      refine .inr ⟨⟨before, mid, hpast, fun z hz => hstop z (by simp [hz])⟩, ?_⟩
      exact fun z hz => hstop z (by simp [hz])

/-- Each entry is in the relation to all that are still open before it. -/
def Spaced {α : Type*} (R : α → α → Prop) (stop : α → Prop) (entries : List α) : Prop :=
  ∀ before y after, entries = before ++ y :: after → ∀ x, Open stop before x → R x y

theorem Spaced.append {α : Type*} {R : α → α → Prop} {stop : α → Prop} {past es : List α}
    (h : Spaced R stop past)
    (hes : ∀ before y after, es = before ++ y :: after → ∀ x, Open stop (past ++ before) x → R x y) :
    Spaced R stop (past ++ es) := by
  intro before y after heq x hx
  rcases List.append_eq_append_iff.mp heq with ⟨mid,rfl,hmid⟩ | ⟨mid,hpast,hafter⟩
  · exact hes mid y after hmid x hx
  · cases mid with
    | nil =>
      have hes' : es = [] ++ y :: after := by simpa using hafter.symm
      refine hes [] y after hes' x ?_
      rw [hpast]
      simpa using hx
    | cons z mid =>
      simp only [List.cons_append,List.cons.injEq] at hafter
      obtain ⟨rfl,-⟩ := hafter
      exact h before y mid hpast x hx

/-- Some entry of the past was a `start`, and from it on every entry `hold`s. -/
def Since {α : Type*} (hold start : α → Prop) (past : List α) : Prop :=
  ∃ before e between, past = before ++ e :: between ∧ start e ∧ ∀ q ∈ e :: between, hold q

theorem Since.snoc {α : Type*} {hold start : α → Prop} {past : List α} {e : α}
    (h : Since hold start past) (he : hold e) : Since hold start (past ++ [e]) := by
  obtain ⟨before,e₀,between,rfl,hstart,hhold⟩ := h
  refine ⟨before, e₀, between ++ [e], by simp, hstart, ?_⟩
  intro q hq
  rw [← List.cons_append,List.mem_append] at hq
  rcases hq with hq | hq
  · exact hhold q hq
  · rw [List.mem_singleton.mp hq]
    exact he

theorem Since.now {α : Type*} {hold start : α → Prop} (past : List α) {e : α}
    (hs : start e) (he : hold e) : Since hold start (past ++ [e]) :=
  ⟨past, e, [], rfl, hs, by simpa using he⟩

/-- `q` is the last entry with `P`, and `after` is what came after it. -/
def Latest {α : Type*} (P : α → Prop) (past : List α) (q : α) (after : List α) : Prop :=
  (∃ before, past = before ++ q :: after) ∧ P q ∧ ∀ x ∈ after, ¬ P x

theorem Latest.snoc {α : Type*} {P : α → Prop} {past after : List α} {q e : α}
    (h : Latest P past q after) (he : ¬ P e) : Latest P (past ++ [e]) q (after ++ [e]) := by
  obtain ⟨⟨before,rfl⟩,hq,hafter⟩ := h
  refine ⟨⟨before, by simp⟩, hq, ?_⟩
  intro x hx
  rcases List.mem_append.mp hx with hx | hx
  · exact hafter x hx
  · rw [List.mem_singleton.mp hx]
    exact he

theorem Latest.now {α : Type*} {P : α → Prop} (past : List α) {e : α} (he : P e) :
    Latest P (past ++ [e]) e [] :=
  ⟨⟨past, rfl⟩, he, by simp⟩

theorem Latest.concat_eq {α : Type*} {P : α → Prop} {past after : List α} {q e : α}
    (h : Latest P (past ++ [e]) q after) (he : P e) : q = e := by
  obtain ⟨⟨before,heq⟩,-,hafter⟩ := h
  have hlast := congrArg List.getLast? heq
  rcases List.eq_nil_or_concat after with rfl | ⟨init,last,rfl⟩
  · simpa [eq_comm] using hlast
  · have hend : e = last := by simpa [List.getLast?_cons] using hlast
    exact absurd (hend ▸ he) (hafter last (by simp))

end Runs

namespace Stamps

def truncate (grain t : Int) : Int := t / grain * grain

theorem lt_truncate_add {grain : Int} (hg : 0 < grain) (t : Int) :
    t < truncate grain t + grain := by
  have h := Int.lt_ediv_add_one_mul_self t hg
  simpa [truncate,Int.add_mul] using h

/-- Waiting `d` since the stored reading is waiting `d` since the real one,
up to the grain. -/
theorem elapsed {grain d t now : Int} (hg : 0 < grain) (h : d ≤ now - truncate grain t) :
    d - grain < now - t := by
  have ht := lt_truncate_add hg t
  omega

end Stamps
