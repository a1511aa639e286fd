import Mathlib.Data.List.Basic

/-!
Programs that ask one question after the other of a world they know nothing about, with the
dialogues they can hold, rules for what every dialogue keeps to, and programs whose questions
are answered by programs of a lower level.
-/

set_option autoImplicit false

namespace Dialogue

inductive Prog (κ ρ α : Type) where
  | ret (a : α) : Prog κ ρ α
  | ask (k : κ) (next : ρ → Prog κ ρ α) : Prog κ ρ α

variable {κ ρ α β : Type}

def Prog.bind : Prog κ ρ α → (α → Prog κ ρ β) → Prog κ ρ β
  | .ret a, f => f a
  | .ask k next, f => .ask k (fun r => (next r).bind f)

instance : Monad (Prog κ ρ) where
  pure := .ret
  bind := .bind

def call (k : κ) : Prog κ ρ ρ := .ask k .ret

/-- The body at most `n` times, until it ends with a value. -/
def upTo : Nat → Prog κ ρ (Option α) → Prog κ ρ (Option α)
  | 0, _ => .ret none
  | n+1, body => body.bind (fun
    | some a => .ret (some a)
    | none => upTo n body)

/-- A whole dialogue, with what the program makes of it in the end. -/
inductive Held : Prog κ ρ α → List (κ × ρ) → α → Prop
  | ret (a : α) : Held (.ret a) [] a
  | ask {k : κ} {next : ρ → Prog κ ρ α} {r : ρ} {t : List (κ × ρ)} {a : α} :
      Held (next r) t a → Held (.ask k next) ((k, r) :: t) a

theorem held_pure {a b : α} {t : List (κ × ρ)} : Held (pure a : Prog κ ρ α) t b ↔ t = [] ∧ b = a := by
  constructor
  · intro h
    cases h
    exact ⟨rfl, rfl⟩
  · rintro ⟨rfl,rfl⟩
    exact .ret _

theorem held_call {k : κ} {f : ρ → Prog κ ρ α} {t : List (κ × ρ)} {a : α} :
    Held (call k >>= f) t a ↔ ∃ r t', t = (k, r) :: t' ∧ Held (f r) t' a := by
  constructor
  · intro h
    cases h with
    | ask h => exact ⟨_, _, rfl, h⟩
  · rintro ⟨r,t',rfl,h⟩
    exact .ask h

theorem held_bind {p : Prog κ ρ α} {f : α → Prog κ ρ β} {t : List (κ × ρ)} {b : β}
    (h : Held (p >>= f) t b) : ∃ t₁ t₂ a, t = t₁ ++ t₂ ∧ Held p t₁ a ∧ Held (f a) t₂ b := by
  induction p generalizing t with
  | ret a => exact ⟨[], t, a, rfl, .ret a, h⟩
  | ask k next ih =>
    obtain ⟨r,t',rfl,hnext⟩ := held_call.mp h
    obtain ⟨t₁,t₂,a,rfl,h₁,h₂⟩ := ih r hnext
    exact ⟨(k, r) :: t₁, t₂, a, rfl, .ask h₁, h₂⟩

def Prog.follow : Prog κ ρ α → List ρ → Option (List (κ × ρ) × α)
  | .ret a, [] => some ([], a)
  | .ask k next, r :: rs => ((next r).follow rs).map (fun q => ((k, r) :: q.1, q.2))
  | _, _ => none

theorem Prog.held_follow {p : Prog κ ρ α} (rs : List ρ) {t : List (κ × ρ)} {a : α}
    (h : p.follow rs = some (t, a)) : Held p t a := by
  induction p generalizing rs t with
  | ret b =>
    cases rs with
    | nil =>
      obtain ⟨rfl,rfl⟩ := Prod.mk.inj (Option.some.inj h)
      exact .ret _
    | cons r rs => cases h
  | ask k next ih =>
    cases rs with
    | nil => cases h
    | cons r rs =>
      obtain ⟨q,hq,heq⟩ := Option.map_eq_some_iff.mp h
      obtain ⟨rfl,rfl⟩ := Prod.mk.inj heq
      exact .ask (ih r rs hq)

def total (weight : κ → Nat) (t : List (κ × ρ)) : Nat := t.foldr (fun q n => weight q.1 + n) 0

theorem total_cons (weight : κ → Nat) (q : κ × ρ) (t : List (κ × ρ)) :
    total weight (q :: t) = weight q.1 + total weight t := rfl

theorem total_append (weight : κ → Nat) (a b : List (κ × ρ)) :
    total weight (a ++ b) = total weight a + total weight b := by
  induction a with
  | nil => simp [total]
  | cons q a ih =>
    rw [List.cons_append,total_cons,total_cons,ih]
    omega

theorem total_concat (weight : κ → Nat) (t : List (κ × ρ)) (k : κ) (r : ρ) :
    total weight (t ++ [(k, r)]) = total weight t + weight k := total_append weight t [(k, r)]

theorem total_eq_zero {weight : κ → Nat} {t : List (κ × ρ)} : total weight t = 0 ↔ ∀ q ∈ t, weight q.1 = 0 := by
  induction t with
  | nil => simp [total]
  | cons q t ih =>
    rw [total_cons,Nat.add_eq_zero_iff,ih,List.forall_mem_cons]

/-- From `past` on the program asks only what is allowed, and ends as `post` says. -/
def Meets (allowed : List (κ × ρ) → κ → Prop) (post : List (κ × ρ) → α → Prop) :
    Prog κ ρ α → List (κ × ρ) → Prop
  | .ret a, past => post past a
  | .ask k next, past => allowed past k ∧ ∀ r, Meets allowed post (next r) (past ++ [(k, r)])

theorem split_unique {τ : Type} (P : τ → Prop) {a b front back : List τ} {x y : τ}
    (h : a ++ x :: b = front ++ y :: back) (hx : P x) (hfront : ∀ q ∈ front, ¬ P q) (hback : ∀ q ∈ back, ¬ P q) :
    x = y ∧ b = back := by
  rcases List.append_eq_append_iff.mp h with ⟨m,rfl,hm⟩ | ⟨m,rfl,hm⟩
  · cases m with
    | nil =>
      obtain ⟨rfl,rfl⟩ := List.cons.inj hm
      exact ⟨rfl, rfl⟩
    | cons z m =>
      obtain ⟨rfl,-⟩ := List.cons.inj hm
      exact absurd hx (hfront x (by simp))
  · cases m with
    | nil =>
      obtain ⟨rfl,rfl⟩ := List.cons.inj hm
      exact ⟨rfl, rfl⟩
    | cons z m =>
      obtain ⟨rfl,rfl⟩ := List.cons.inj hm
      exact absurd hx (hback x (by simp))

section
variable {allowed : List (κ × ρ) → κ → Prop} {post mid : List (κ × ρ) → α → Prop}

theorem Meets.held {p : Prog κ ρ α} {past t : List (κ × ρ)} {a : α} (h : Meets allowed post p past)
    (ht : Held p t a) :
    (∀ before k r after, t = before ++ (k, r) :: after → allowed (past ++ before) k) ∧
      post (past ++ t) a := by
  induction ht generalizing past with
  | ret a =>
    rw [List.append_nil]
    exact ⟨by simp, h⟩
  | @ask k next r t a _ ih =>
    obtain ⟨hk,hnext⟩ := h
    obtain ⟨hcalls,hend⟩ := ih (hnext r)
    refine ⟨?_, by simpa using hend⟩
    intro before k' r' after heq
    cases before with
    | nil =>
      obtain ⟨⟨rfl,-⟩,-⟩ := by simpa using heq
      simpa using hk
    | cons q before =>
      simp only [List.cons_append,List.cons.injEq] at heq
      obtain ⟨rfl,rfl⟩ := heq
      simpa using hcalls before k' r' after rfl

theorem meets_pure {a : α} {past : List (κ × ρ)} :
    Meets allowed post (pure a : Prog κ ρ α) past ↔ post past a := Iff.rfl

theorem meets_call {k : κ} {f : ρ → Prog κ ρ α} {past : List (κ × ρ)} :
    Meets allowed post (call k >>= f) past ↔
      allowed past k ∧ ∀ r, Meets allowed post (f r) (past ++ [(k, r)]) := Iff.rfl

theorem Meets.bind {p : Prog κ ρ α} {f : α → Prog κ ρ β} {post' : List (κ × ρ) → β → Prop}
    {past : List (κ × ρ)} (h : Meets allowed mid p past)
    (hf : ∀ past a, mid past a → Meets allowed post' (f a) past) :
    Meets allowed post' (p >>= f) past := by
  induction p generalizing past with
  | ret a => exact hf past a h
  | ask k next ih => exact ⟨h.1, fun r => ih r (h.2 r)⟩

/-- `Inv n` holds when `n` rounds are left. -/
theorem Meets.upTo {body : Prog κ ρ (Option α)} (Inv : Nat → List (κ × ρ) → Prop)
    (post' : List (κ × ρ) → Option α → Prop)
    (hbody : ∀ n past, Inv (n + 1) past →
      Meets allowed (fun past r => r.elim (Inv n past) (fun a => post' past (some a))) body past)
    (hend : ∀ past, Inv 0 past → post' past none) {n : Nat} {past : List (κ × ρ)} (h : Inv n past) :
    Meets allowed post' (Dialogue.upTo n body) past := by
  induction n generalizing past with
  | zero => exact hend past h
  | succ n ih =>
    refine (hbody n past h).bind ?_
    intro past r hr
    cases r with
    | none => exact ih hr
    | some a => exact hr

end

section
variable {κ' ρ' : Type} {h : κ → Prog κ' ρ' ρ}

/-- The same program a level below: each question is answered by a program. -/
def Prog.interp (h : κ → Prog κ' ρ' ρ) : Prog κ ρ α → Prog κ' ρ' α
  | .ret a => .ret a
  | .ask k next => (h k).bind (fun r => (next r).interp h)

/-- `t` is the dialogue `top` with the dialogue of each answer in the place of its question. -/
inductive Expands (h : κ → Prog κ' ρ' ρ) : List (κ × ρ) → List (κ' × ρ') → Prop
  | nil : Expands h [] []
  | cons {k : κ} {r : ρ} {part t : List (κ' × ρ')} {top : List (κ × ρ)} :
      Held (h k) part r → Expands h top t → Expands h ((k, r) :: top) (part ++ t)

theorem Held.of_interp {p : Prog κ ρ α} {t : List (κ' × ρ')} {a : α} (ht : Held (p.interp h) t a) :
    ∃ top, Held p top a ∧ Expands h top t := by
  induction p generalizing t with
  | ret b =>
    cases ht with
    | ret => exact ⟨[], .ret _, .nil⟩
  | ask k next ih =>
    obtain ⟨t₁,t₂,r,rfl,h₁,h₂⟩ := held_bind ht
    obtain ⟨top,hp,hexp⟩ := ih r h₂
    exact ⟨(k, r) :: top, .ask hp, .cons h₁ hexp⟩

theorem Expands.of_append {a b : List (κ × ρ)} {t : List (κ' × ρ')} (hexp : Expands h (a ++ b) t) :
    ∃ ta tb, t = ta ++ tb ∧ Expands h a ta ∧ Expands h b tb := by
  induction a generalizing t with
  | nil => exact ⟨[], t, rfl, .nil, hexp⟩
  | cons q a ih =>
    cases hexp with
    | @cons k r part t top hheld hexp =>
      obtain ⟨ta,tb,rfl,ha,hb⟩ := ih hexp
      exact ⟨part ++ ta, tb, by simp, .cons hheld ha, hb⟩

theorem Expands.total_le {weight : κ → Nat} {weight' : κ' → Nat}
    (hle : ∀ k part r, Held (h k) part r → total weight' part ≤ weight k) {top : List (κ × ρ)}
    {t : List (κ' × ρ')} (hexp : Expands h top t) : total weight' t ≤ total weight top := by
  induction hexp with
  | nil => simp [total]
  | @cons k r part t top hheld hexp ih =>
    have hpart := hle k part r hheld
    simp only [total_append,total_cons]
    omega

theorem Expands.le_total {weight : κ → Nat} {weight' : κ' → Nat}
    (hle : ∀ k part r, Held (h k) part r → weight k ≤ total weight' part) {top : List (κ × ρ)}
    {t : List (κ' × ρ')} (hexp : Expands h top t) : total weight top ≤ total weight' t := by
  induction hexp with
  | nil => simp [total]
  | @cons k r part t top hheld hexp ih =>
    have hpart := hle k part r hheld
    simp only [total_append,total_cons]
    omega

/-- Where an entry of the lower dialogue belongs. -/
theorem Expands.locate {top : List (κ × ρ)} {t : List (κ' × ρ')} (hexp : Expands h top t)
    {before after : List (κ' × ρ')} {q : κ' × ρ'} (ht : t = before ++ q :: after) :
    ∃ top₁ k r top₂ t₁ part₁ part₂ t₂, top = top₁ ++ (k, r) :: top₂ ∧ before = t₁ ++ part₁ ∧
      after = part₂ ++ t₂ ∧ Expands h top₁ t₁ ∧ Held (h k) (part₁ ++ q :: part₂) r ∧ Expands h top₂ t₂ := by
  induction hexp generalizing before with
  | nil => simp at ht
  | @cons k r part t top hheld hexp ih =>
    rcases List.append_eq_append_iff.mp ht with ⟨m,hbefore,ht⟩ | ⟨m,hpart,hafter⟩
    · obtain ⟨top₁,k',r',top₂,t₁,part₁,part₂,t₂,rfl,rfl,rfl,h₁,hq,h₂⟩ := ih ht
      exact ⟨(k, r) :: top₁, k', r', top₂, part ++ t₁, part₁, part₂, t₂, rfl, by simp [hbefore], rfl,
        .cons hheld h₁, hq, h₂⟩
    · cases m with
      | nil =>
        have hstart : t = [] ++ q :: after := by simpa using hafter.symm
        obtain ⟨top₁,k',r',top₂,t₁,part₁,part₂,t₂,rfl,hnil,rfl,h₁,hq,h₂⟩ := ih hstart
        refine ⟨(k, r) :: top₁, k', r', top₂, part ++ t₁, part₁, part₂, t₂, rfl, ?_, rfl, .cons hheld h₁, hq, h₂⟩
        rw [List.append_assoc,← hnil,List.append_nil,hpart,List.append_nil]
      | cons q' m =>
        obtain ⟨rfl,rfl⟩ := List.cons.inj hafter
        rw [hpart] at hheld
        exact ⟨[], k, r, top, [], before, m, t, rfl, rfl, rfl, .nil, hheld, hexp⟩

theorem Expands.mem {top : List (κ × ρ)} {t : List (κ' × ρ')} (hexp : Expands h top t) {k : κ} {r : ρ}
    (hmem : (k, r) ∈ top) : ∃ part, Held (h k) part r ∧ part ⊆ t := by
  induction hexp with
  | nil => simp at hmem
  | @cons k' r' part t top hheld hexp ih =>
    rcases List.mem_cons.mp hmem with heq | hmem
    · obtain ⟨rfl,rfl⟩ := Prod.mk.inj heq
      exact ⟨part, hheld, List.subset_append_left _ _⟩
    · obtain ⟨part',hpart,hsub⟩ := ih hmem
      exact ⟨part', hpart, List.Subset.trans hsub (List.subset_append_right _ _)⟩

end

end Dialogue
