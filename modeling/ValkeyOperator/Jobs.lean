import ValkeyOperator.Bootstrap
import ValkeyOperator.Failover
import ValkeyOperator.CachedSlot
import ValkeyOperator.Runs

/-!
The bootstrap Job and the rebalance Job over runs of passes. A pass learns of its Job from the
cache of the manager and deletes it by name, so what it deletes need not be what it has looked at.
-/

set_option autoImplicit false

namespace ValkeyOperator
open TextScan Runs CachedSlot

def Event.aboutJob (name : JobName) : Event → Bool
  | .createJob n => n = name
  | .deleteJob n => n = name
  | _ => false

/-- A step of a pass that looks after one Job: what it sends when it runs on the Job as cached,
and whether a Create or a Delete that it sends goes through. -/
structure JobUser (J C : Type) where
  name : JobName
  fresh : J
  sends : Slot J → C → List Event
  creates : C → Bool
  deletes : C → Bool

/-- The cache catches up, the Job controller writes a status, somebody else removes the Job, or a
pass runs. -/
inductive JobEvent (J C : Type)
  | refresh
  | move (j : J)
  | remove
  | pass (c : C)

variable {J C : Type}

def JobUser.act (u : JobUser J C) (c : C) (s : Slot J) : Event → Slot J
  | .createJob _ => s.write (some u.fresh)
  | .deleteJob _ => if u.deletes c then s.write none else s
  | _ => s

def JobUser.step (u : JobUser J C) (s : Slot J) : JobEvent J C → Slot J × List Event
  | .refresh => (s.refresh, [])
  | .move j => (s.write (some j), [])
  | .remove => (s.write none, [])
  | .pass c => (((u.sends s c).filter (Event.aboutJob u.name)).foldl (u.act c) s, u.sends s c)

/-- The Job controller never takes back that a Job has ended, and the API server creates no second
Job under a name. -/
def JobLaw (u : JobUser J C) (ended : J → Prop) (s : Slot J) : JobEvent J C → Prop
  | .move j' => ∃ j, s.latest = some j ∧ (ended j → ended j')
  | .pass c => u.creates c = true → s.latest = none
  | _ => True

/-- Nobody else removes a Job that the cache has not shown yet. -/
def SeenRemoval (s : Slot J) : JobEvent J C → Prop
  | .remove => s.cached ≠ none
  | _ => True

def LawfulJob (u : JobUser J C) (ended : J → Prop) (s : Slot J) (e : JobEvent J C) : Prop :=
  JobLaw u ended s e ∧ SeenRemoval s e

/-- A pass sends at most one request about its Job, and not without having looked. -/
inductive Careful (u : JobUser J C) (ended : J → Prop) (s : Slot J) (c : C) : List Event → Prop
  | nothing : Careful u ended s c []
  | creates : s.cached = none → u.creates c = true → Careful u ended s c [.createJob u.name]
  | deletes (j : J) : s.cached = some j → ended j → Careful u ended s c [.deleteJob u.name]

section
variable {u : JobUser J C} {ended : J → Prop}
  (hu : ∀ s c, Careful u ended s c ((u.sends s c).filter (Event.aboutJob u.name)))
include hu

theorem JobUser.step_slot {s : Slot J} {e : JobEvent J C} (hlaw : LawfulJob u ended s e) :
    Step ended s (u.step s e).1 := by
  obtain ⟨hlaw,hseen⟩ := hlaw
  cases e with
  | refresh => exact .refresh s
  | move j' =>
    obtain ⟨j,hj,hmove⟩ := hlaw
    exact .move hj hmove
  | remove => exact .remove hseen
  | pass c =>
    simp only [JobUser.step]
    have hc := hu s c
    generalize (u.sends s c).filter (Event.aboutJob u.name) = es at hc ⊢
    cases hc with
    | nothing => exact .idle s
    | creates hcached hcreates => exact .create hcached (hlaw hcreates)
    | deletes j hcached hended =>
      simp only [List.foldl_cons,List.foldl_nil,JobUser.act]
      split_ifs
      · exact .delete hcached hended
      · exact .idle s

theorem JobUser.oneLife {v : Option J} {es : List (JobEvent J C)}
    (hrun : Along u.step (LawfulJob u ended) ⟨v, []⟩ es) : OneLife ended (final u.step ⟨v, []⟩ es) :=
  hrun.final (fun _ s => OneLife ended s) (OneLife.synced ended v)
    (fun _ _ _ h hlaw => h.step (JobUser.step_slot hu hlaw))

/-- A Job is created where none has been seen, and one that is deleted has ended. -/
theorem JobUser.safe {s : Slot J} (hs : OneLife ended s) {c : C} {e : Event} (he : e ∈ u.sends s c) :
    (e = .createJob u.name → s.cached = none) ∧
      (e = .deleteJob u.name → ∀ j, s.latest = some j → ended j) := by
  have hmem : e.aboutJob u.name = true → e ∈ (u.sends s c).filter (Event.aboutJob u.name) :=
    fun h => List.mem_filter.mpr ⟨he, h⟩
  have hc := hu s c
  generalize (u.sends s c).filter (Event.aboutJob u.name) = es at hc hmem
  constructor
  · rintro rfl
    have hin := hmem (by simp [Event.aboutJob])
    cases hc with
    | nothing => simp at hin
    | creates hcached hcreates => exact hcached
    | deletes j hcached hended => simp at hin
  · rintro rfl
    have hin := hmem (by simp [Event.aboutJob])
    cases hc with
    | nothing => simp at hin
    | creates hcached hcreates => simp at hin
    | deletes j hcached hended =>
      intro j' hj'
      have hv : s.cached ∈ s.versions := List.mem_cons_self
      exact hs.dead_latest hv hcached hended j' hj'

end

structure RebalanceStatus where
  completed : Bool
  succeeded : Int
  failures : Int
  deriving DecidableEq

/-- It has completed, or its only pod has failed. -/
def RebalanceStatus.Ended (j : RebalanceStatus) : Prop := j.completed = true ∨ 0 < j.failures

structure RebalanceCall where
  vc : ValkeyCluster
  getOK : Bool
  deleteOK : Bool
  listed : Option (List Pod)
  create : CreateResult

def RebalanceCall.input (c : RebalanceCall) (s : Slot RebalanceStatus) : RebalanceInput where
  job :=
    if !c.getOK then .failed
    else
      match s.cached with
      | none => .notFound
      | some j => .found j.completed j.succeeded j.failures
  deleteOK := c.deleteOK
  listed := c.listed
  create := c.create

def rebalanceUser : JobUser RebalanceStatus RebalanceCall where
  name := .rebalance
  fresh := ⟨false, 0, 0⟩
  sends s c := (reconcileRebalance (c.input s) (World.start c.vc)).1.log
  creates c := c.create = .created
  deletes c := c.deleteOK

theorem RebalanceCall.input_found {c : RebalanceCall} {s : Slot RebalanceStatus} {completed : Bool}
    {succeeded failures : Int} (h : (c.input s).job = .found completed succeeded failures) :
    s.cached = some ⟨completed, succeeded, failures⟩ := by
  simp only [RebalanceCall.input] at h
  split_ifs at h
  cases hcached : s.cached with
  | none => simp [hcached] at h
  | some j =>
    rw [hcached] at h
    cases h
    rfl

theorem RebalanceCall.input_notFound {c : RebalanceCall} {s : Slot RebalanceStatus}
    (h : (c.input s).job = .notFound) : s.cached = none := by
  simp only [RebalanceCall.input] at h
  split_ifs at h
  cases hcached : s.cached with
  | none => rfl
  | some j => simp [hcached] at h

theorem rebalanceUser_careful (s : Slot RebalanceStatus) (c : RebalanceCall) :
    Careful rebalanceUser RebalanceStatus.Ended s c
      ((rebalanceUser.sends s c).filter (Event.aboutJob rebalanceUser.name)) := by
  have hdelete : ∀ j, s.cached = some j → j.Ended →
      Careful rebalanceUser RebalanceStatus.Ended s c
        ((deleteRebalanceJob (c.input s) (World.start c.vc)).1.log.filter (Event.aboutJob .rebalance)) := by
    intro j hj hended
    unfold deleteRebalanceJob
    split
    · exact .deletes j hj hended
    · exact .nothing
  simp only [rebalanceUser,reconcileRebalance]
  split
  · exact .nothing
  · split
    · exact .nothing
    · next completed succeeded failures hjob =>
      have hcached := RebalanceCall.input_found hjob
      split_ifs with hrunning hcompleted hfailed
      · exact .nothing
      · exact hdelete _ hcached (.inl hcompleted)
      · exact hdelete _ hcached (.inr hfailed)
      · exact .nothing
    · next hjob =>
      have hcached := RebalanceCall.input_notFound hjob
      split
      · exact .nothing
      · split
        · exact .nothing
        · split
          · next hcreate => exact .creates hcached (decide_eq_true hcreate)
          · exact .nothing
          · exact .nothing

/-- However far the cache lags, a pass creates the rebalance Job only where it has seen none, and
never deletes one that is still at work. -/
theorem rebalanceJob_safe {v : Option RebalanceStatus} {es : List (JobEvent RebalanceStatus RebalanceCall)}
    (hrun : Along rebalanceUser.step (LawfulJob rebalanceUser RebalanceStatus.Ended) ⟨v, []⟩ es) (c : RebalanceCall) :
    ∀ e ∈ (reconcileRebalance (c.input (final rebalanceUser.step ⟨v, []⟩ es)) (World.start c.vc)).1.log,
      (e = .createJob .rebalance → (final rebalanceUser.step ⟨v, []⟩ es).cached = none) ∧
      (e = .deleteJob .rebalance → ∀ j, (final rebalanceUser.step ⟨v, []⟩ es).latest = some j → j.Ended) := by
  intro e he
  exact JobUser.safe rebalanceUser_careful (JobUser.oneLife rebalanceUser_careful hrun) he

def skewedCall : RebalanceCall where
  vc :=
    let vc := threeShards (fun _ => none)
    { vc with status := { vc.status with
      podRoles := fun _ => some .primary
      conditions := [⟨.shardImbalanced, .true, "MemorySkew", "", 1, 0⟩] } }
  getOK := true
  deleteOK := true
  listed := some threePods
  create := .created

def failedSince : List (JobEvent RebalanceStatus RebalanceCall) :=
  [.pass skewedCall, .refresh, .move ⟨false, 0, 1⟩, .refresh, .move ⟨false, 0, 2⟩]

theorem failedSince_safe :
    .deleteJob .rebalance ∈ (reconcileRebalance
        (skewedCall.input (final rebalanceUser.step ⟨none, []⟩ failedSince)) (World.start skewedCall.vc)).1.log ∧
      ∀ e ∈ (reconcileRebalance (skewedCall.input (final rebalanceUser.step ⟨none, []⟩ failedSince))
          (World.start skewedCall.vc)).1.log,
        (e = .createJob .rebalance → (final rebalanceUser.step ⟨none, []⟩ failedSince).cached = none) ∧
        (e = .deleteJob .rebalance →
          ∀ j, (final rebalanceUser.step ⟨none, []⟩ failedSince).latest = some j → j.Ended) := by
  have hcreate : LawfulJob rebalanceUser RebalanceStatus.Ended ⟨none, []⟩ (.pass skewedCall) :=
    ⟨fun _ => rfl, trivial⟩
  have hfirst : LawfulJob rebalanceUser RebalanceStatus.Ended
      (final rebalanceUser.step ⟨none, []⟩ [.pass skewedCall, .refresh]) (.move ⟨false, 0, 1⟩) :=
    ⟨⟨⟨false, 0, 0⟩, rfl, fun _ => .inr (by decide)⟩, trivial⟩
  have hsecond : LawfulJob rebalanceUser RebalanceStatus.Ended
      (final rebalanceUser.step ⟨none, []⟩ [.pass skewedCall, .refresh, .move ⟨false, 0, 1⟩, .refresh])
      (.move ⟨false, 0, 2⟩) :=
    ⟨⟨⟨false, 0, 1⟩, rfl, fun _ => .inr (by decide)⟩, trivial⟩
  have hrun : Along rebalanceUser.step (LawfulJob rebalanceUser RebalanceStatus.Ended) ⟨none, []⟩ failedSince :=
    ⟨hcreate, ⟨trivial, trivial⟩, hfirst, ⟨trivial, trivial⟩, hsecond, trivial⟩
  exact ⟨List.mem_cons_self, rebalanceJob_safe hrun skewedCall⟩

-- `SeenRemoval` is needed: the first Job comes and goes unseen, and on seeing its end a pass
-- deletes the second
example :
    let s := final rebalanceUser.step ⟨none, []⟩
      [.pass skewedCall, .move ⟨true, 1, 0⟩, .remove, .pass skewedCall, .refresh, .refresh]
    s.latest = some ⟨false, 0, 0⟩ ∧
      (reconcileRebalance (skewedCall.input s) (World.start skewedCall.vc)).1.log = [.deleteJob .rebalance] :=
  ⟨rfl, rfl⟩

structure BootstrapStatus where
  succeeded : Int
  failures : Int
  deriving DecidableEq

def bootstrapBackoffLimit : Int := 3

def BootstrapStatus.Ended (j : BootstrapStatus) : Prop := 0 < j.succeeded ∨ bootstrapBackoffLimit < j.failures

structure BootstrapCall where
  vc : ValkeyCluster
  readyPods : List Pod
  input : BootstrapInput
  getOK : Bool
  deleteOK : Bool

def BootstrapCall.seen (c : BootstrapCall) (s : Slot BootstrapStatus) : BootstrapInput :=
  { c.input with
    job :=
      if !c.getOK then .failed
      else
        match s.cached with
        | none => .notFound
        | some j => .found j.succeeded j.failures (some bootstrapBackoffLimit) }

def bootstrapUser : JobUser BootstrapStatus BootstrapCall where
  name := .bootstrap
  fresh := ⟨0, 0⟩
  sends s c := (reconcileBootstrapJob (c.seen s) c.readyPods (World.start c.vc)).1.log
  creates c := c.input.createOK
  deletes c := c.deleteOK

theorem resetEvents_about (i : ResetInput) (pods : List Pod) (vc : ValkeyCluster) (name : JobName) :
    (resetEvents i pods vc).filter (Event.aboutJob name) = [] := by
  unfold resetEvents
  split <;> rfl

theorem reconcileBootstrapJob_about (i : BootstrapInput) (readyPods : List Pod) (vc : ValkeyCluster) :
    (reconcileBootstrapJob i readyPods (World.start vc)).1.log.filter (Event.aboutJob .bootstrap) = [] ∨
      (reconcileBootstrapJob i readyPods (World.start vc)).1.log.filter (Event.aboutJob .bootstrap) =
        (jobEvents i).filter (Event.aboutJob .bootstrap) := by
  by_cases hforced : ForcesReset i readyPods vc
  · right
    rw [reconcileBootstrapJob_forced (w := World.start vc) hforced]
    simp only [World.start,List.nil_append,List.filter_append,resetEvents_about]
    split <;> rfl
  · rcases reconcileBootstrapJob_unforced (w := World.start vc) hforced with hlog | ⟨-,hlog⟩
    · exact .inl (by rw [hlog]; rfl)
    · right
      rw [hlog]
      simp only [World.start,List.nil_append,List.filter_append]
      split
      · rw [resetEvents_about,List.nil_append]
      · rfl

theorem BootstrapCall.seen_found {c : BootstrapCall} {s : Slot BootstrapStatus} {succeeded failures : Int}
    {limit : Option Int} (h : (c.seen s).job = .found succeeded failures limit) :
    s.cached = some ⟨succeeded, failures⟩ ∧ limit = some bootstrapBackoffLimit := by
  simp only [BootstrapCall.seen] at h
  split_ifs at h
  cases hcached : s.cached with
  | none => simp [hcached] at h
  | some j =>
    rw [hcached] at h
    cases h
    exact ⟨rfl, rfl⟩

theorem BootstrapCall.seen_notFound {c : BootstrapCall} {s : Slot BootstrapStatus}
    (h : (c.seen s).job = .notFound) : s.cached = none := by
  simp only [BootstrapCall.seen] at h
  split_ifs at h
  cases hcached : s.cached with
  | none => rfl
  | some j => simp [hcached] at h

theorem BootstrapCall.jobEvents_careful (c : BootstrapCall) (s : Slot BootstrapStatus) :
    Careful bootstrapUser BootstrapStatus.Ended s c
      ((jobEvents (c.seen s)).filter (Event.aboutJob bootstrapUser.name)) := by
  unfold jobEvents
  split
  · next succeeded failures limit hjob =>
    obtain ⟨hcached,rfl⟩ := BootstrapCall.seen_found hjob
    dsimp only
    split_ifs with hsucceeded hfailed
    · exact .deletes _ hcached (.inl hsucceeded)
    · exact .deletes _ hcached (.inr hfailed)
    · exact .nothing
  · exact .nothing
  · next hjob =>
    split_ifs with hcreate
    · exact .creates (BootstrapCall.seen_notFound hjob) hcreate
    · exact .nothing

theorem bootstrapUser_careful (s : Slot BootstrapStatus) (c : BootstrapCall) :
    Careful bootstrapUser BootstrapStatus.Ended s c
      ((bootstrapUser.sends s c).filter (Event.aboutJob bootstrapUser.name)) := by
  rcases reconcileBootstrapJob_about (c.seen s) c.readyPods c.vc with hnothing | hjob
  · have hsends : (bootstrapUser.sends s c).filter (Event.aboutJob bootstrapUser.name) = [] := hnothing
    rw [hsends]
    exact .nothing
  · have hsends : (bootstrapUser.sends s c).filter (Event.aboutJob bootstrapUser.name) =
        (jobEvents (c.seen s)).filter (Event.aboutJob bootstrapUser.name) := hjob
    rw [hsends]
    exact c.jobEvents_careful s

theorem bootstrapJob_safe {v : Option BootstrapStatus} {es : List (JobEvent BootstrapStatus BootstrapCall)}
    (hrun : Along bootstrapUser.step (LawfulJob bootstrapUser BootstrapStatus.Ended) ⟨v, []⟩ es) (c : BootstrapCall) :
    ∀ e ∈ (reconcileBootstrapJob (c.seen (final bootstrapUser.step ⟨v, []⟩ es)) c.readyPods
        (World.start c.vc)).1.log,
      (e = .createJob .bootstrap → (final bootstrapUser.step ⟨v, []⟩ es).cached = none) ∧
      (e = .deleteJob .bootstrap → ∀ j, (final bootstrapUser.step ⟨v, []⟩ es).latest = some j → j.Ended) := by
  intro e he
  exact JobUser.safe bootstrapUser_careful (JobUser.oneLife bootstrapUser_careful hrun) he

def allReadyCall : BootstrapCall where
  vc := threeShards (fun _ => none)
  readyPods := threePods
  input := { halfReset with reply := fun _ => .reply 1 "ready" }
  getOK := true
  deleteOK := true

def exhaustedSince : List (JobEvent BootstrapStatus BootstrapCall) :=
  [.pass allReadyCall, .refresh, .move ⟨0, 4⟩, .refresh, .move ⟨0, 5⟩]

theorem exhaustedSince_safe :
    .deleteJob .bootstrap ∈ (reconcileBootstrapJob
        (allReadyCall.seen (final bootstrapUser.step ⟨none, []⟩ exhaustedSince)) allReadyCall.readyPods
        (World.start allReadyCall.vc)).1.log ∧
      ∀ e ∈ (reconcileBootstrapJob (allReadyCall.seen (final bootstrapUser.step ⟨none, []⟩ exhaustedSince))
          allReadyCall.readyPods (World.start allReadyCall.vc)).1.log,
        (e = .createJob .bootstrap → (final bootstrapUser.step ⟨none, []⟩ exhaustedSince).cached = none) ∧
        (e = .deleteJob .bootstrap →
          ∀ j, (final bootstrapUser.step ⟨none, []⟩ exhaustedSince).latest = some j → j.Ended) := by
  have hcreate : LawfulJob bootstrapUser BootstrapStatus.Ended ⟨none, []⟩ (.pass allReadyCall) :=
    ⟨fun _ => rfl, trivial⟩
  have hfirst : LawfulJob bootstrapUser BootstrapStatus.Ended
      (final bootstrapUser.step ⟨none, []⟩ [.pass allReadyCall, .refresh]) (.move ⟨0, 4⟩) :=
    ⟨⟨⟨0, 0⟩, rfl, fun _ => .inr (by decide)⟩, trivial⟩
  have hsecond : LawfulJob bootstrapUser BootstrapStatus.Ended
      (final bootstrapUser.step ⟨none, []⟩ [.pass allReadyCall, .refresh, .move ⟨0, 4⟩, .refresh])
      (.move ⟨0, 5⟩) :=
    ⟨⟨⟨0, 4⟩, rfl, fun _ => .inr (by decide)⟩, trivial⟩
  have hrun : Along bootstrapUser.step (LawfulJob bootstrapUser BootstrapStatus.Ended) ⟨none, []⟩ exhaustedSince :=
    ⟨hcreate, ⟨trivial, trivial⟩, hfirst, ⟨trivial, trivial⟩, hsecond, trivial⟩
  exact ⟨List.mem_cons_self, bootstrapJob_safe hrun allReadyCall⟩

end ValkeyOperator
