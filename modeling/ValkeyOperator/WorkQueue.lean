import Mathlib.Logic.Function.Basic
import ValkeyOperator.Dialogue

/-!
A worker that takes keys from a queue and computes a value for each out of a world that others
change while it reads. Notes of the changes arrive late and in any order, and put the keys they
concern on the queue. What keeps notes and keys is a parameter, with its promises as hypotheses.
Once no note, no key and no work is left, every key has the value that the world as it then is
gives it.
-/

set_option autoImplicit false

namespace WorkQueue
open Dialogue

variable {κ ν α ρ τ β μ : Type}

def eval (w : ν → α) : Prog ν α τ → τ
  | .ret r => r
  | .ask n next => eval w (next (w n))

def Asks (w : ν → α) (n : ν) : Prog ν α τ → Prop
  | .ret _ => False
  | .ask m next => m = n ∨ Asks w n (next (w m))

theorem eval_bind (w : ν → α) (p : Prog ν α τ) (f : τ → Prog ν α β) :
    eval w (p >>= f) = eval w (f (eval w p)) := by
  induction p with
  | ret r => rfl
  | ask m next ih => exact ih (w m)

theorem asks_bind {w : ν → α} {n : ν} {p : Prog ν α τ} {f : τ → Prog ν α β} :
    Asks w n (p >>= f) ↔ Asks w n p ∨ Asks w n (f (eval w p)) := by
  induction p with
  | ret r => exact (iff_of_eq (false_or _)).symm
  | ask m next ih => exact (or_congr_right (ih (w m))).trans or_assoc.symm

theorem unasked [DecidableEq ν] {w : ν → α} {n : ν} {p : Prog ν α τ} (h : ¬ Asks w n p) (v : α) :
    eval (Function.update w n v) p = eval w p ∧
      ∀ m, Asks (Function.update w n v) m p ↔ Asks w m p := by
  induction p with
  | ret r => exact ⟨rfl, fun _ => Iff.rfl⟩
  | ask k next ih =>
    have hne : k ≠ n := fun heq => h (.inl heq)
    have hread : Function.update w n v k = w k := Function.update_of_ne hne v w
    obtain ⟨heval,hasks⟩ := ih (w k) (fun hnext => h (.inr hnext))
    constructor
    · rw [eval,hread]
      exact heval
    · intro m
      rw [Asks,hread]
      exact or_congr_right (hasks m)

/-- How work on a key ends: it has to be done again, there is nothing to store, or a value is. -/
inductive Outcome (ρ : Type)
  | retry
  | done
  | put (v : ρ)
  deriving DecidableEq

/-- A note that an input has changed, or that somebody else has touched the value of a key. -/
inductive Note (κ ν : Type)
  | input (n : ν)
  | value (k : κ)
  deriving DecidableEq

/-- What keeps the notes that are still to be handed on and the keys that wait, in a memory `μ` of
its own. -/
structure Runtime (κ ν μ : Type) where
  owed : μ → Note κ ν → Prop
  waiting : μ → κ → Prop
  note : μ → Note κ ν → μ
  hand : μ → Note κ ν → List κ → μ
  add : μ → κ → μ
  take : μ → Option (κ × μ)

/-- It forgets no note before it has handed it on, and no key before the worker has it. -/
structure Runtime.Lawful (rt : Runtime κ ν μ) : Prop where
  noted : ∀ m n, rt.owed (rt.note m n) n
  note_owed : ∀ m n n', rt.owed m n' → rt.owed (rt.note m n) n'
  note_waiting : ∀ m n k, rt.waiting m k → rt.waiting (rt.note m n) k
  handed : ∀ m n ks, ∀ k ∈ ks, rt.waiting (rt.hand m n ks) k
  hand_owed : ∀ m n ks n', n' ≠ n → rt.owed m n' → rt.owed (rt.hand m n ks) n'
  hand_waiting : ∀ m n ks k, rt.waiting m k → rt.waiting (rt.hand m n ks) k
  added : ∀ m k, rt.waiting (rt.add m k) k
  add_owed : ∀ m k n, rt.owed m n → rt.owed (rt.add m k) n
  add_waiting : ∀ m k k', rt.waiting m k' → rt.waiting (rt.add m k) k'
  take_owed : ∀ m k m' n, rt.take m = some (k, m') → rt.owed m n → rt.owed m' n
  take_waiting : ∀ m k m' k', rt.take m = some (k, m') → rt.waiting m k' → k' = k ∨ rt.waiting m' k'

structure State (κ ν α ρ μ : Type) where
  world : ν → α
  mem : μ
  worker : Option (κ × Prog ν α (Outcome ρ))
  stored : κ → Option ρ

/-- `listed` is whether the keys that a note concerns could be looked up. Work can `fail` at any
point of it, and anybody may `add` a key. -/
inductive Event (κ ν α ρ : Type)
  | change (n : ν) (v : α)
  | touch (k : κ) (v : Option ρ)
  | deliver (note : Note κ ν) (listed : Bool)
  | add (k : κ)
  | start
  | read
  | finish
  | fail

section
variable [DecidableEq κ] [DecidableEq ν] (rt : Runtime κ ν μ)
  (prog : κ → Prog ν α (Outcome ρ)) (notify : (ν → α) → Bool → ν → List κ)

def concerned (w : ν → α) (listed : Bool) : Note κ ν → List κ
  | .input n => notify w listed n
  | .value k => [k]

def step (s : State κ ν α ρ μ) : Event κ ν α ρ → State κ ν α ρ μ
  | .change n v => { s with world := Function.update s.world n v, mem := rt.note s.mem (.input n) }
  | .touch k v => { s with stored := Function.update s.stored k v, mem := rt.note s.mem (.value k) }
  | .deliver note listed => { s with mem := rt.hand s.mem note (concerned notify s.world listed note) }
  | .add k => { s with mem := rt.add s.mem k }
  | .start =>
    match s.worker, rt.take s.mem with
    | none, some (k, m) => { s with mem := m, worker := some (k, prog k) }
    | _, _ => s
  | .read =>
    match s.worker with
    | some (k, .ask n next) => { s with worker := some (k, next (s.world n)) }
    | _ => s
  | .finish =>
    match s.worker with
    | some (k, .ret .retry) => { s with worker := none, mem := rt.add s.mem k }
    | some (_, .ret .done) => { s with worker := none }
    | some (k, .ret (.put v)) =>
      { s with worker := none, stored := Function.update s.stored k (some v) }
    | _ => s
  | .fail =>
    match s.worker with
    | some (k, _) => { s with worker := none, mem := rt.add s.mem k }
    | none => s

def run (s : State κ ν α ρ μ) (es : List (Event κ ν α ρ)) : State κ ν α ρ μ :=
  es.foldl (step rt prog notify) s

end

/-- The value agrees with an end of the work on the world as it is. -/
def Settled (stored : Option ρ) : Outcome ρ → Prop
  | .retry => False
  | .done => True
  | .put v => stored = some v

/-- The worker has read nothing that has changed since. -/
def OnTrack (prog : κ → Prog ν α (Outcome ρ)) (s : State κ ν α ρ μ) (k : κ) : Prop :=
  ∃ p, s.worker = some (k, p) ∧ eval s.world p = eval s.world (prog k) ∧
    ∀ n, Asks s.world n p → Asks s.world n (prog k)

def UpToDate (prog : κ → Prog ν α (Outcome ρ)) (s : State κ ν α ρ μ) (k : κ) : Prop :=
  (∀ p, s.worker ≠ some (k, p)) ∧ Settled (s.stored k) (eval s.world (prog k))

/-- No change is lost on `k`: it is going to be worked on, or is right. -/
def Kept (rt : Runtime κ ν μ) (prog : κ → Prog ν α (Outcome ρ)) (notify : (ν → α) → Bool → ν → List κ)
    (s : State κ ν α ρ μ) (k : κ) : Prop :=
  (∃ note, rt.owed s.mem note ∧ k ∈ concerned notify s.world true note) ∨ rt.waiting s.mem k ∨
    OnTrack prog s k ∨ UpToDate prog s k

/-- A change concerns every key that asks for what changed, every key that it brings to life,
and every key that an earlier change no longer concerns because of it. -/
structure Covers [DecidableEq ν] (prog : κ → Prog ν α (Outcome ρ)) (notify : (ν → α) → Bool → ν → List κ)
    (live : (ν → α) → κ → Prop) : Prop where
  asked : ∀ w n v k, live (Function.update w n v) k → Asks w n (prog k) →
    k ∈ notify (Function.update w n v) true n
  born : ∀ w n v k, live (Function.update w n v) k → live w k ∨ k ∈ notify (Function.update w n v) true n
  stays : ∀ w n v m k, live (Function.update w n v) k → k ∈ notify w true m →
    k ∈ notify (Function.update w n v) true m ∨ k ∈ notify (Function.update w n v) true n

section
variable {rt : Runtime κ ν μ} {prog : κ → Prog ν α (Outcome ρ)} {notify : (ν → α) → Bool → ν → List κ}
  {live : (ν → α) → κ → Prop} {s : State κ ν α ρ μ} {k : κ}

theorem concerned_change [DecidableEq ν] (hrt : rt.Lawful) (hcovers : Covers prog notify live) {n : ν} {v : α}
    (hlive : live (Function.update s.world n v) k) {note : Note κ ν} (hnote : rt.owed s.mem note)
    (hk : k ∈ concerned notify s.world true note) :
    ∃ note, rt.owed (rt.note s.mem (.input n)) note ∧
      k ∈ concerned notify (Function.update s.world n v) true note := by
  cases note with
  | value k' => exact ⟨_, hrt.note_owed _ _ _ hnote, hk⟩
  | input m =>
    rcases hcovers.stays _ n v m k hlive hk with hstays | hnew
    · exact ⟨_, hrt.note_owed _ _ _ hnote, hstays⟩
    · exact ⟨.input n, hrt.noted .., hnew⟩

theorem kept_end {s' : State κ ν α ρ μ} {k' : κ} {p : Prog ν α (Outcome ρ)} (h : Kept rt prog notify s k)
    (hworker : s.worker = some (k', p)) (hworld : s'.world = s.world)
    (howed : ∀ note, rt.owed s.mem note → rt.owed s'.mem note)
    (hwaiting : ∀ j, rt.waiting s.mem j → rt.waiting s'.mem j) (hidle : s'.worker = none)
    (hothers : ∀ j, j ≠ k' → s'.stored j = s.stored j)
    (hself : eval s.world p = eval s.world (prog k') →
      rt.waiting s'.mem k' ∨ Settled (s'.stored k') (eval s.world (prog k'))) :
    Kept rt prog notify s' k := by
  have hnone : ∀ p, s'.worker ≠ some (k, p) := by simp [hidle]
  rcases h with ⟨note,hnote,hk⟩ | hmem | ⟨q,hq,heval,-⟩ | ⟨hnot,hsettled⟩
  · rw [← hworld] at hk
    exact .inl ⟨note, howed note hnote, hk⟩
  · exact .inr (.inl (hwaiting k hmem))
  · rw [hworker] at hq
    obtain ⟨rfl,rfl⟩ := Prod.mk.inj (Option.some.inj hq)
    rcases hself heval with hback | hright
    · exact .inr (.inl hback)
    · exact .inr (.inr (.inr ⟨hnone, hworld.symm ▸ hright⟩))
  · have hk : k ≠ k' := by
      rintro rfl
      exact hnot _ hworker
    refine .inr (.inr (.inr ⟨hnone, ?_⟩))
    rw [hworld,hothers k hk]
    exact hsettled

theorem kept_again (hrt : rt.Lawful) (h : Kept rt prog notify s k) {k' : κ} {p : Prog ν α (Outcome ρ)}
    (hworker : s.worker = some (k', p)) :
    Kept rt prog notify { s with worker := none, mem := rt.add s.mem k' } k :=
  kept_end h hworker rfl (hrt.add_owed _ _) (hrt.add_waiting _ _) rfl (fun _ _ => rfl) (fun _ => .inl (hrt.added ..))

structure Quiet (rt : Runtime κ ν μ) (s : State κ ν α ρ μ) : Prop where
  owed : ∀ note, ¬ rt.owed s.mem note
  waiting : ∀ k, ¬ rt.waiting s.mem k
  worker : s.worker = none

theorem Kept.settled (h : Kept rt prog notify s k) (hquiet : Quiet rt s) :
    Settled (s.stored k) (eval s.world (prog k)) := by
  rcases h with ⟨note,hnote,-⟩ | hmem | ⟨p,hp,-⟩ | ⟨-,hsettled⟩
  · exact absurd hnote (hquiet.owed note)
  · exact absurd hmem (hquiet.waiting k)
  · rw [hquiet.worker] at hp
    cases hp
  · exact hsettled

variable [DecidableEq κ] [DecidableEq ν] (hrt : rt.Lawful)
include hrt

theorem kept_change (hcovers : Covers prog notify live) {n : ν} {v : α}
    (hlive : live (Function.update s.world n v) k) (h : live s.world k → Kept rt prog notify s k) :
    Kept rt prog notify (step rt prog notify s (.change n v)) k := by
  have hnew : k ∈ notify (Function.update s.world n v) true n →
      Kept rt prog notify (step rt prog notify s (.change n v)) k :=
    fun hk => .inl ⟨.input n, hrt.noted .., hk⟩
  rcases hcovers.born _ n v k hlive with hbefore | hborn
  swap
  · exact hnew hborn
  by_cases hasked : Asks s.world n (prog k)
  · exact hnew (hcovers.asked _ n v k hlive hasked)
  -- what `k` rests on has not changed, so neither has what the worker makes of the rest
  obtain ⟨heval,hasks⟩ := unasked hasked v
  rcases h hbefore with ⟨note,hnote,hk⟩ | hwaiting | ⟨p,hworker,hp,hsub⟩ | ⟨hidle,hsettled⟩
  · exact .inl (concerned_change hrt hcovers hlive hnote hk)
  · exact .inr (.inl (hrt.note_waiting _ _ _ hwaiting))
  · obtain ⟨heval',hasks'⟩ := unasked (fun hn => hasked (hsub n hn)) v
    refine .inr (.inr (.inl ⟨p, hworker, heval'.trans (hp.trans heval.symm), ?_⟩))
    intro m hm
    exact (hasks m).mpr (hsub m ((hasks' m).mp hm))
  · refine .inr (.inr (.inr ⟨hidle, ?_⟩))
    change Settled (s.stored k) (eval (Function.update s.world n v) (prog k))
    rw [heval]
    exact hsettled

theorem kept_touch (h : Kept rt prog notify s k) (k' : κ) (v : Option ρ) :
    Kept rt prog notify (step rt prog notify s (.touch k' v)) k := by
  by_cases hk : k = k'
  · subst hk
    exact .inl ⟨.value k, hrt.noted .., List.mem_cons_self⟩
  rcases h with ⟨note,hnote,hconcerned⟩ | hwaiting | htrack | ⟨hidle,hsettled⟩
  · exact .inl ⟨note, hrt.note_owed _ _ _ hnote, hconcerned⟩
  · exact .inr (.inl (hrt.note_waiting _ _ _ hwaiting))
  · exact .inr (.inr (.inl htrack))
  · refine .inr (.inr (.inr ⟨hidle, ?_⟩))
    change Settled (Function.update s.stored k' v k) _
    rw [Function.update_of_ne hk]
    exact hsettled

theorem kept_deliver (h : Kept rt prog notify s k) {note : Note κ ν} {listed : Bool}
    (hfound : concerned notify s.world listed note = concerned notify s.world true note) :
    Kept rt prog notify (step rt prog notify s (.deliver note listed)) k := by
  rcases h with ⟨note',hnote',hconcerned⟩ | hwaiting | hrest
  · by_cases heq : note' = note
    · subst heq
      exact .inr (.inl (hrt.handed _ _ _ k (hfound.symm ▸ hconcerned)))
    · exact .inl ⟨note', hrt.hand_owed _ _ _ _ heq hnote', hconcerned⟩
  · exact .inr (.inl (hrt.hand_waiting _ _ _ _ hwaiting))
  · exact .inr (.inr hrest)

theorem kept_add (h : Kept rt prog notify s k) (k' : κ) :
    Kept rt prog notify (step rt prog notify s (.add k')) k := by
  rcases h with ⟨note,hnote,hconcerned⟩ | hwaiting | hrest
  · exact .inl ⟨note, hrt.add_owed _ _ _ hnote, hconcerned⟩
  · exact .inr (.inl (hrt.add_waiting _ _ _ hwaiting))
  · exact .inr (.inr hrest)

theorem kept_start (h : Kept rt prog notify s k) : Kept rt prog notify (step rt prog notify s .start) k := by
  simp only [step]
  split
  · next k' m hworker htake =>
    rcases h with ⟨note,hnote,hconcerned⟩ | hwaiting | ⟨p,hp,-⟩ | ⟨-,hsettled⟩
    · exact .inl ⟨note, hrt.take_owed _ _ _ _ htake hnote, hconcerned⟩
    · rcases hrt.take_waiting _ _ _ _ htake hwaiting with rfl | hwaiting
      · exact .inr (.inr (.inl ⟨prog k, rfl, rfl, fun _ hn => hn⟩))
      · exact .inr (.inl hwaiting)
    · rw [hworker] at hp
      cases hp
    · by_cases hk : k' = k
      · subst hk
        exact .inr (.inr (.inl ⟨prog k', rfl, rfl, fun _ hn => hn⟩))
      · exact .inr (.inr (.inr ⟨fun p hp => hk (Prod.mk.inj (Option.some.inj hp)).1, hsettled⟩))
  · exact h

omit hrt in
theorem kept_read (h : Kept rt prog notify s k) : Kept rt prog notify (step rt prog notify s .read) k := by
  simp only [step]
  split
  · next k' n next hworker =>
    rcases h with hnote | hwaiting | ⟨p,hp,heval,hasks⟩ | ⟨hidle,hsettled⟩
    · exact .inl hnote
    · exact .inr (.inl hwaiting)
    · rw [hworker] at hp
      obtain ⟨rfl,rfl⟩ := Prod.mk.inj (Option.some.inj hp)
      exact .inr (.inr (.inl ⟨_, rfl, heval, fun m hm => hasks m (.inr hm)⟩))
    · refine .inr (.inr (.inr ⟨fun p hp => ?_, hsettled⟩))
      obtain ⟨rfl,-⟩ := Prod.mk.inj (Option.some.inj hp)
      exact hidle _ hworker
  · exact h

theorem kept_finish (h : Kept rt prog notify s k) : Kept rt prog notify (step rt prog notify s .finish) k := by
  simp only [step]
  split
  · next k' hworker => exact kept_again hrt h hworker
  · next k' hworker =>
    refine kept_end h hworker rfl (fun _ hn => hn) (fun _ hj => hj) rfl (fun _ _ => rfl) (fun heval => .inr ?_)
    rw [← heval]
    trivial
  · next k' v hworker =>
    refine kept_end h hworker rfl (fun _ hn => hn) (fun _ hj => hj) rfl
      (fun j hj => Function.update_of_ne hj ..) ?_
    intro heval
    rw [← heval]
    exact .inr (Function.update_self ..)
  · exact h

theorem kept_fail (h : Kept rt prog notify s k) : Kept rt prog notify (step rt prog notify s .fail) k := by
  simp only [step]
  split
  · next k' p hworker => exact kept_again hrt h hworker
  · exact h

omit hrt in
theorem step_world {e : Event κ ν α ρ} (he : ∀ n v, e ≠ .change n v) :
    (step rt prog notify s e).world = s.world := by
  cases e with
  | change n v => exact absurd rfl (he n v)
  | touch k' v => rfl
  | deliver note listed => rfl
  | add k' => rfl
  | start =>
    simp only [step]
    split <;> rfl
  | read =>
    simp only [step]
    split <;> rfl
  | finish =>
    simp only [step]
    split <;> rfl
  | fail =>
    simp only [step]
    split <;> rfl

def Finds (notify : (ν → α) → Bool → ν → List κ) : Event κ ν α ρ → Prop
  | .deliver (.input n) listed => ∀ w, notify w listed n = notify w true n
  | _ => True

theorem kept_step (hcovers : Covers prog notify live) {e : Event κ ν α ρ} (he : Finds notify e)
    (h : ∀ k, live s.world k → Kept rt prog notify s k) (k : κ)
    (hlive : live (step rt prog notify s e).world k) : Kept rt prog notify (step rt prog notify s e) k := by
  have hbefore : (∀ n v, e ≠ .change n v) → Kept rt prog notify s k :=
    fun hsame => h k (step_world hsame ▸ hlive)
  cases e with
  | change n v => exact kept_change hrt hcovers hlive (h k)
  | touch k' v => exact kept_touch hrt (hbefore (by simp)) k' v
  | deliver note listed =>
    refine kept_deliver hrt (hbefore (by simp)) ?_
    cases note with
    | input n => exact he s.world
    | value k' => rfl
  | add k' => exact kept_add hrt (hbefore (by simp)) k'
  | start => exact kept_start hrt (hbefore (by simp))
  | read => exact kept_read (hbefore (by simp))
  | finish => exact kept_finish hrt (hbefore (by simp))
  | fail => exact kept_fail hrt (hbefore (by simp))

theorem kept_run (hcovers : Covers prog notify live) {es : List (Event κ ν α ρ)}
    (hfinds : ∀ e ∈ es, Finds notify e) (h : ∀ k, live s.world k → Kept rt prog notify s k) :
    ∀ k, live (run rt prog notify s es).world k → Kept rt prog notify (run rt prog notify s es) k := by
  induction es generalizing s with
  | nil => exact h
  | cons e es ih =>
    rw [List.forall_mem_cons] at hfinds
    exact ih hfinds.2 (kept_step hrt hcovers hfinds.1 h)

end

section
variable [DecidableEq κ] [DecidableEq ν]

/-- Two lists, first in, first out. -/
def fifo : Runtime κ ν (List (Note κ ν) × List κ) where
  owed m n := n ∈ m.1
  waiting m k := k ∈ m.2
  note m n := (m.1 ++ [n], m.2)
  hand m n ks := (m.1.erase n, m.2 ++ ks)
  add m k := (m.1, m.2 ++ [k])
  take m :=
    match m.2 with
    | [] => none
    | k :: rest => some (k, (m.1, rest))

theorem fifo_take {m m' : List (Note κ ν) × List κ} {k : κ} (h : fifo.take m = some (k, m')) :
    m.2 = k :: m'.2 ∧ m'.1 = m.1 := by
  simp only [fifo] at h
  split at h
  · cases h
  · next j rest hqueue =>
    cases h
    exact ⟨hqueue, rfl⟩

theorem fifo_lawful : (fifo : Runtime κ ν _).Lawful where
  noted m n := List.mem_append_right _ List.mem_cons_self
  note_owed m n n' h := List.mem_append_left _ h
  note_waiting m n k h := h
  handed m n ks k hk := List.mem_append_right _ hk
  hand_owed m n ks n' hne h := (List.mem_erase_of_ne hne).mpr h
  hand_waiting m n ks k h := List.mem_append_left _ h
  added m k := List.mem_append_right _ List.mem_cons_self
  add_owed m k n h := h
  add_waiting m k k' h := List.mem_append_left _ h
  take_owed m k m' n htake h := by
    change n ∈ m'.1
    rw [(fifo_take htake).2]
    exact h
  take_waiting m k m' k' htake h := by
    change k' ∈ m.2 at h
    rw [(fifo_take htake).1] at h
    exact List.mem_cons.mp h

end

end WorkQueue
