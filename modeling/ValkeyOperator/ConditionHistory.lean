import Mathlib.Data.List.Nodup
import ValkeyOperator.ClusterObject

/-!
The conditions of a cluster after any sequence of updates: `setCondition` keeps no history,
but the list it leaves can be read off the calls.
-/

set_option autoImplicit false

namespace ValkeyOperator

/-- A call of `setCondition` with the time it is made at. -/
structure ConditionCall where
  now : Time
  cond : Condition

def setConditions (calls : List ConditionCall) : List Condition :=
  calls.foldl (fun conditions call => setCondition call.now call.cond conditions) []

def callsFor (type : ConditionType) (calls : List ConditionCall) : List ConditionCall :=
  calls.filter (fun call => call.cond.type = type)

/-- The calls for the type of `c` end in a run of calls with its status: the last of them set `c`,
and the first of them its time. -/
def SetBy (calls : List ConditionCall) (c : Condition) : Prop :=
  ∃ earlier first later last, callsFor c.type calls = earlier ++ first :: later ∧
    (∀ call ∈ first :: later, call.cond.status = c.status) ∧
    (∀ call, earlier.getLast? = some call → call.cond.status ≠ c.status) ∧
    (first :: later).getLast? = some last ∧
    c = { last.cond with lastTransitionTime := first.now }

/-- One condition for every type that was set, in the order in which the types came. -/
structure FollowsCalls (calls : List ConditionCall) (conditions : List Condition) : Prop where
  types : conditions.map Condition.type = (calls.map (fun call => call.cond.type)).eraseDups
  once : (conditions.map Condition.type).Nodup
  set : ∀ c ∈ conditions, SetBy calls c

theorem callsFor_other {type : ConditionType} {call : ConditionCall} (h : call.cond.type ≠ type)
    (calls : List ConditionCall) : callsFor type (calls ++ [call]) = callsFor type calls := by
  simp [callsFor,List.filter_append,h]

theorem callsFor_own {type : ConditionType} {call : ConditionCall} (h : call.cond.type = type)
    (calls : List ConditionCall) : callsFor type (calls ++ [call]) = callsFor type calls ++ [call] := by
  simp [callsFor,List.filter_append,h]

theorem SetBy.other {calls : List ConditionCall} {c : Condition} {call : ConditionCall}
    (h : SetBy calls c) (hne : call.cond.type ≠ c.type) : SetBy (calls ++ [call]) c := by
  unfold SetBy
  rw [callsFor_other hne]
  exact h

theorem SetBy.first {calls : List ConditionCall} {call : ConditionCall}
    (h : callsFor call.cond.type calls = []) :
    SetBy (calls ++ [call]) { call.cond with lastTransitionTime := call.now } := by
  refine ⟨[], call, [], call, ?_, by simp, by simp, rfl, rfl⟩
  rw [callsFor_own rfl]
  exact congrArg (· ++ [call]) h

theorem SetBy.again {calls : List ConditionCall} {c : Condition} {call : ConditionCall}
    (h : SetBy calls c) (htype : c.type = call.cond.type) :
    SetBy (calls ++ [call]) { call.cond with lastTransitionTime :=
      if c.status = call.cond.status then c.lastTransitionTime else call.now } := by
  obtain ⟨earlier,first,later,last,hcalls,hrun,hbefore,hlast,hc⟩ := h
  rw [htype] at hcalls
  have hown : callsFor call.cond.type (calls ++ [call]) = earlier ++ first :: later ++ [call] := by
    rw [callsFor_own rfl,hcalls]
  by_cases hs : c.status = call.cond.status
  · -- the run goes on
    refine ⟨earlier, first, later ++ [call], call, ?_, ?_, ?_, ?_, ?_⟩
    · rw [hown,List.append_assoc,List.cons_append]
    · intro x hx
      rw [← List.cons_append] at hx
      rcases List.mem_append.mp hx with hx | hx
      · exact (hrun x hx).trans hs
      · rw [List.mem_singleton.mp hx]
    · intro x hx
      exact hs ▸ hbefore x hx
    · rw [← List.cons_append,List.getLast?_append]
      simp
    · have htime : c.lastTransitionTime = first.now := by rw [hc]
      rw [if_pos hs,htime]
  · -- a new one begins, and the call before it is the last of the old one
    refine ⟨earlier ++ first :: later, call, [], call, hown, by simp, ?_, rfl, ?_⟩
    · intro x hx hstatus
      rw [List.getLast?_append_of_ne_nil _ (List.cons_ne_nil first later)] at hx
      exact hs ((hrun x (List.mem_of_getLast? hx)).symm.trans hstatus)
    · rw [if_neg hs]

theorem eraseDups_snoc {types : List ConditionType} (type : ConditionType) :
    (types ++ [type]).eraseDups =
      if type ∈ types then types.eraseDups else types.eraseDups ++ [type] := by
  rw [List.eraseDups_append]
  by_cases h : type ∈ types
  · simp [List.removeAll,h]
  · simp [List.removeAll,h,List.eraseDups_cons]

namespace FollowsCalls
variable {calls : List ConditionCall} {conditions : List Condition} (h : FollowsCalls calls conditions)
  (call : ConditionCall)

include h

theorem mem_types (type : ConditionType) :
    type ∈ calls.map (fun call => call.cond.type) ↔ type ∈ conditions.map Condition.type := by
  rw [h.types,List.mem_eraseDups]

theorem types_after : ((calls ++ [call]).map (fun call => call.cond.type)).eraseDups =
    if call.cond.type ∈ conditions.map Condition.type then conditions.map Condition.type
    else conditions.map Condition.type ++ [call.cond.type] := by
  rw [List.map_append,List.map_singleton,eraseDups_snoc,← h.types]
  simp only [h.mem_types]

theorem added (hnew : ∀ c ∈ conditions, c.type ≠ call.cond.type) :
    FollowsCalls (calls ++ [call]) (conditions ++ [{ call.cond with lastTransitionTime := call.now }]) := by
  have hnot : call.cond.type ∉ conditions.map Condition.type := by
    intro hin
    obtain ⟨c,hc,heq⟩ := List.mem_map.mp hin
    exact hnew c hc heq
  have hnone : callsFor call.cond.type calls = [] := by
    refine List.filter_eq_nil_iff.mpr (fun x hx htype => hnot ?_)
    rw [← of_decide_eq_true htype]
    exact (h.mem_types _).mp (List.mem_map_of_mem hx)
  refine ⟨?_, ?_, fun c hc => ?_⟩
  · rw [h.types_after,if_neg hnot,List.map_append,List.map_singleton]
  · rw [List.map_append,List.map_singleton,← List.concat_eq_append]
    exact List.Nodup.concat hnot h.once
  · rcases List.mem_append.mp hc with hc | hc
    · exact (h.set c hc).other (Ne.symm (hnew c hc))
    · rw [List.mem_singleton.mp hc]
      exact SetBy.first hnone

theorem replaced {before after : List Condition} {existing : Condition}
    (hsplit : conditions = before ++ existing :: after) (htype : existing.type = call.cond.type) :
    FollowsCalls (calls ++ [call]) (before ++ { call.cond with lastTransitionTime :=
      if existing.status = call.cond.status then existing.lastTransitionTime else call.now } :: after) := by
  have hin : call.cond.type ∈ conditions.map Condition.type := by
    rw [hsplit,← htype]
    simp
  have hnames : conditions.map Condition.type =
      before.map Condition.type ++ call.cond.type :: after.map Condition.type := by
    rw [hsplit,List.map_append,List.map_cons,htype]
  have honce := h.once
  rw [hnames,List.nodup_middle,List.nodup_cons,← List.map_append] at honce
  have hother : ∀ c ∈ before ++ after, SetBy (calls ++ [call]) c := by
    intro c hc
    refine (h.set c ?_).other (fun heq => honce.1 ?_)
    · rw [hsplit,List.mem_append,List.mem_cons]
      exact (List.mem_append.mp hc).imp_right .inr
    · rw [heq]
      exact List.mem_map_of_mem hc
  refine ⟨?_, ?_, fun c hc => ?_⟩
  · rw [h.types_after,if_pos hin,hnames,List.map_append,List.map_cons]
  · rw [List.map_append,List.map_cons,← hnames]
    exact h.once
  · rw [List.mem_append,List.mem_cons] at hc
    rcases hc with hc | hc | hc
    · exact hother c (List.mem_append_left _ hc)
    · rw [hc]
      exact (h.set existing (by simp [hsplit])).again htype
    · exact hother c (List.mem_append_right _ hc)

theorem step : FollowsCalls (calls ++ [call]) (setCondition call.now call.cond conditions) := by
  rcases setCondition_cases call.now call.cond conditions with
    ⟨hnew,hset⟩ | ⟨before,existing,after,hsplit,-,htype,hset⟩
  · rw [hset]
    exact h.added call hnew
  · rw [hset]
    exact h.replaced call hsplit htype

end FollowsCalls

theorem setConditions_follows (calls : List ConditionCall) : FollowsCalls calls (setConditions calls) := by
  induction calls using List.reverseRecOn with
  | nil => exact ⟨rfl, List.nodup_nil, fun c hc => by simp [setConditions] at hc⟩
  | append_singleton calls call ih =>
    have hrun : setConditions (calls ++ [call]) = setCondition call.now call.cond (setConditions calls) := by
      simp [setConditions]
    rw [hrun]
    exact ih.step call

end ValkeyOperator
