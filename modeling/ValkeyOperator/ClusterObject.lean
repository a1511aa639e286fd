import ValkeyOperator.Runs
import ValkeyOperator.MergePatch
import ValkeyOperator.TextScan

/-!
The ValkeyCluster object as one reconcile pass sees it: the copy in memory, the
copy the API server stores, and the commands and writes the pass has made.
-/

set_option autoImplicit false

namespace ValkeyOperator
open TextScan

/-- Instants and durations in nanoseconds, as in Go's `time`. -/
abbrev Time := Int

def second : Int := 1000000000
def minute : Int := 60*second

theorem second_pos : 0 < second := by decide

/-- An annotation's text as far as the operator looks into it: a text that
`time.Parse(time.RFC3339, _)` accepts stands for its instant. -/
inductive AnnotationValue where
  | stamp : Time → AnnotationValue
  | text : Text → AnnotationValue
  deriving DecidableEq, Repr

/-- `now.UTC().Format(time.RFC3339)` has no fraction of a second. -/
def formatRFC3339 (now : Time) : AnnotationValue := .stamp (Stamps.truncate second now)

def parseRFC3339 : AnnotationValue → Option Time
  | .stamp t => some t
  | .text _ => none

@[simp] theorem parseRFC3339_format (now : Time) :
    parseRFC3339 (formatRFC3339 now) = some (Stamps.truncate second now) := rfl

/-- A timeout that has passed since a stored time has passed since the real one, up to a second. -/
theorem elapsed_since {t now firstSeen : Time} {timeout : Int}
    (hparse : parseRFC3339 (formatRFC3339 t) = some firstSeen) (h : timeout ≤ now - firstSeen) :
    timeout - second < now - t := by
  cases hparse
  exact Stamps.elapsed second_pos h

inductive AnnotationKey where
  | clusterNotOKSince
  | lastResetTime
  | aclHash
  | shardImbalancedSince
  | staleSince : Text → AnnotationKey
  | crashSince : Text → AnnotationKey
  deriving DecidableEq, Repr

def AnnotationKey.text : AnnotationKey → Text
  | .clusterNotOKSince => "valkey.io/cluster-not-ok-since".toList
  | .lastResetTime => "valkey.io/last-reset-time".toList
  | .aclHash => "valkey.io/acl-hash".toList
  | .shardImbalancedSince => "valkey.io/shard-imbalanced-since".toList
  | .staleSince id => "valkey.io/stale-since.".toList ++ id
  | .crashSince pod => "valkey.io/crash-since.".toList ++ pod

def AnnotationKey.initials : AnnotationKey → Text
  | .clusterNotOKSince => ['c','l']
  | .lastResetTime => ['l','a']
  | .aclHash => ['a','c']
  | .shardImbalancedSince => ['s','h']
  | .staleSince _ => ['s','t']
  | .crashSince _ => ['c','r']

theorem AnnotationKey.text_initials (k : AnnotationKey) :
    (k.text.drop 10).take 2 = k.initials := by
  cases k <;> rfl

/-- No two timers share an annotation, whatever node IDs and pod names occur. -/
theorem AnnotationKey.text_injective : Function.Injective AnnotationKey.text := by
  intro a b h
  have hi : a.initials = b.initials := by rw [← a.text_initials,← b.text_initials,h]
  cases a <;> cases b <;> simp only [initials] at hi <;> try contradiction
  all_goals try rfl
  · rename_i x y
    have hx : "valkey.io/stale-since.".toList ++ x = "valkey.io/stale-since.".toList ++ y := h
    rw [List.append_cancel_left hx]
  · rename_i x y
    have hx : "valkey.io/crash-since.".toList ++ x = "valkey.io/crash-since.".toList ++ y := h
    rw [List.append_cancel_left hx]

abbrev Annotations := AnnotationKey → Option AnnotationValue

inductive ConditionType where
  | available | clusterDegraded | shardUnderReplicated | shardColocated
  | shardImbalanced | rollingUpdate
  | other : String → ConditionType
  deriving DecidableEq, Repr

inductive ConditionStatus where
  | true | false | unknown
  deriving DecidableEq, Repr

structure Condition where
  type : ConditionType
  status : ConditionStatus
  reason : String
  message : String
  observedGeneration : Int
  lastTransitionTime : Time
  deriving DecidableEq, Repr

def setCondition (now : Time) (cond : Condition) : List Condition → List Condition
  | [] => [{ cond with lastTransitionTime := now }]
  | existing :: rest =>
    if existing.type = cond.type then
      { cond with lastTransitionTime :=
          if existing.status = cond.status then existing.lastTransitionTime else now } :: rest
    else existing :: setCondition now cond rest

def findCondition (type : ConditionType) (conditions : List Condition) : Option Condition :=
  conditions.find? (fun c => c.type = type)

def conditionsOf (type : ConditionType) (conditions : List Condition) : List Condition :=
  conditions.filter (fun c => c.type = type)

def Condition.body (c : Condition) : ConditionType × ConditionStatus × String × String × Int :=
  (c.type, c.status, c.reason, c.message, c.observedGeneration)

theorem setCondition_cases (now : Time) (cond : Condition) (conditions : List Condition) :
    ((∀ c ∈ conditions, c.type ≠ cond.type) ∧
      setCondition now cond conditions = conditions ++ [{ cond with lastTransitionTime := now }]) ∨
    ∃ before existing after, conditions = before ++ existing :: after ∧
      (∀ c ∈ before, c.type ≠ cond.type) ∧ existing.type = cond.type ∧
      setCondition now cond conditions = before ++ { cond with lastTransitionTime :=
        if existing.status = cond.status then existing.lastTransitionTime else now } :: after := by
  induction conditions with
  | nil => exact .inl ⟨by simp, rfl⟩
  | cons existing rest ih =>
    by_cases h : existing.type = cond.type
    · exact .inr ⟨[], existing, rest, rfl, by simp, h, by simp [setCondition,h]⟩
    · have hset : setCondition now cond (existing :: rest) = existing :: setCondition now cond rest := by
        simp [setCondition,h]
      rcases ih with ⟨hnew,heq⟩ | ⟨before,old,after,hrest,hbefore,hold,heq⟩
      · exact .inl ⟨List.forall_mem_cons.mpr ⟨h,hnew⟩, by rw [hset,heq,List.cons_append]⟩
      · refine .inr ⟨existing :: before, old, after, by rw [hrest,List.cons_append], ?_, hold, ?_⟩
        · exact List.forall_mem_cons.mpr ⟨h,hbefore⟩
        · rw [hset,heq,List.cons_append]

theorem conditionsOf_none {type : ConditionType} {conditions : List Condition}
    (h : ∀ c ∈ conditions, c.type ≠ type) : conditionsOf type conditions = [] :=
  List.filter_eq_nil_iff.mpr (fun c hc => by simpa using h c hc)

theorem setCondition_conditionsOf_other (now : Time) {cond : Condition} {type : ConditionType}
    (h : cond.type ≠ type) (conditions : List Condition) :
    conditionsOf type (setCondition now cond conditions) = conditionsOf type conditions := by
  unfold conditionsOf
  rcases setCondition_cases now cond conditions with ⟨-,hset⟩ | ⟨before,existing,after,rfl,-,htype,hset⟩
  · simp [hset,h]
  · simp [hset,h,htype]

theorem setCondition_conditionsOf (now : Time) (cond : Condition) (conditions : List Condition) :
    ∃ c, c.body = cond.body ∧ conditionsOf cond.type (setCondition now cond conditions) =
      c :: (conditionsOf cond.type conditions).tail := by
  rcases setCondition_cases now cond conditions with ⟨hnew,hset⟩ | ⟨before,existing,after,rfl,hnew,htype,hset⟩
  · refine ⟨{ cond with lastTransitionTime := now }, rfl, ?_⟩
    have hnone := conditionsOf_none hnew
    unfold conditionsOf at hnone ⊢
    simp [hset,hnone]
  · refine ⟨{ cond with lastTransitionTime :=
      if existing.status = cond.status then existing.lastTransitionTime else now }, rfl, ?_⟩
    have hnone := conditionsOf_none hnew
    unfold conditionsOf at hnone ⊢
    simp [hset,hnone,htype]

theorem findCondition_eq (type : ConditionType) (conditions : List Condition) :
    findCondition type conditions = (conditionsOf type conditions).head? :=
  List.head?_filter.symm

theorem setCondition_find (now : Time) (cond : Condition) (conditions : List Condition) :
    ∃ c, findCondition cond.type (setCondition now cond conditions) = some c ∧
      c.body = cond.body := by
  obtain ⟨c,hbody,hset⟩ := setCondition_conditionsOf now cond conditions
  exact ⟨c, by rw [findCondition_eq,hset,List.head?_cons], hbody⟩

inductive Role where
  | primary | replica
  deriving DecidableEq, Repr

inductive Phase where
  | none | pending | initializing | running | degraded | scaling | updating
  deriving DecidableEq, Repr

structure NodeStatus where
  nodeID : Text
  podName : Text
  ip : Text
  role : Role
  masterID : Text
  slots : Text
  deriving DecidableEq, Repr

structure RebalanceSpec where
  enabled : Bool
  threshold : Int
  deriving DecidableEq, Repr

structure Spec where
  shards : Int
  replicasPerShard : Int
  port : Int
  clusterNodeTimeout : Int
  rebalance : Option RebalanceSpec

structure Status where
  phase : Phase
  readyReplicas : Int
  observedGeneration : Int
  clusterState : Text
  slotsOk : Int
  nodesOk : Int
  podRoles : Text → Option Role
  nodes : List NodeStatus
  conditions : List Condition

/-- `deleting` is that a DeletionTimestamp is set, `finalizer` that the
operator's finalizer is among the object's. -/
structure ValkeyCluster where
  name : Text
  ns : Text
  generation : Int
  deleting : Bool
  finalizer : Bool
  spec : Spec
  annotations : Annotations
  status : Status

/-- Go's `int32` arithmetic wraps. -/
def int32 (n : Int) : Int := Int.bmod n 0x100000000

def totalPods (vc : ValkeyCluster) : Int :=
  int32 (vc.spec.shards * int32 (1 + vc.spec.replicasPerShard))

def effectivePort (vc : ValkeyCluster) : Int :=
  if vc.spec.port ≠ 0 then vc.spec.port else 6379

def internalServiceName (vc : ValkeyCluster) : Text := vc.name ++ "-internal".toList

inductive PodPhase where
  | pending | running | succeeded | failed | unknown
  deriving DecidableEq, Repr

structure ContainerStatus where
  name : Text
  waitingReason : Option Text
  restartCount : Int
  deriving DecidableEq, Repr

/-- A pod as listed. `ready` is the status of its Ready condition, `deleting`
that a DeletionTimestamp is set, `uid` the identity a restart of the pod changes. -/
structure Pod where
  name : Text
  ns : Text
  uid : Text
  phase : PodPhase
  ready : Option ConditionStatus
  podIP : Text
  startTime : Option Time
  deleting : Bool
  nodeName : Text
  roleLabel : Option Role
  containers : List ContainerStatus
  deriving DecidableEq, Repr

def isPodReady (pod : Pod) : Bool :=
  pod.phase = .running && pod.ready = some .true

def readyWithIP (pods : List Pod) : List Pod :=
  pods.filter (fun pod => isPodReady pod && decide (pod.podIP ≠ []))

def stableDNS (vc : ValkeyCluster) (pod : Pod) : Text :=
  pod.name ++ ['.'] ++ internalServiceName vc ++ ['.'] ++ pod.ns ++ ".svc.cluster.local".toList

theorem pods_split {pods : List Pod} (h : (pods.map (fun pod => pod.name)).Nodup) {pod : Pod}
    (hpod : pod ∈ pods) :
    ∃ front back, pods = front ++ pod :: back ∧ (∀ q ∈ front, q.name ≠ pod.name) ∧
      ∀ q ∈ back, q.name ≠ pod.name := by
  obtain ⟨front,back,rfl⟩ := List.append_of_mem hpod
  simp only [List.map_append,List.map_cons,List.nodup_append,List.nodup_cons,List.mem_map,
    List.mem_cons] at h
  obtain ⟨-,⟨hback,-⟩,hfront⟩ := h
  refine ⟨front, back, rfl, fun q hq heq => ?_, fun q hq heq => ?_⟩
  · exact hfront _ ⟨q, hq, rfl⟩ _ (.inl rfl) heq
  · exact hback ⟨q, hq, heq⟩

/-- Replies of goroutines arrive on a channel in any order, one for each pod. -/
structure Arrival where
  order : List Pod → List Pod
  perm : ∀ pods, (order pods).Perm pods

def Arrival.inOrder : Arrival := ⟨id, fun pods => List.Perm.refl pods⟩

inductive ResetOutcome where
  | unreachable | failed | done
  deriving DecidableEq, Repr

/-- One call of resetAllNodes that was not skipped: when it looked at the
cooldown, what became of each pod, when it recorded the reset. -/
structure ResetRound where
  checkedAt : Time
  outcomes : List (Pod × ResetOutcome)
  recordedAt : Time

inductive JobName where
  | bootstrap | rebalance
  | rdbRecovery : Text → JobName
  deriving DecidableEq, Repr

/-- What a pass does to the cluster and to the API server, and what step 9 reads, in order. -/
inductive Event where
  | skipACLs : Pod → Event
  | applyACLs : Pod → Bool → Event
  | clusterOK : Event
  | reset : ResetRound → Event
  | topologySet : Pod → Text → Event
  | forget : Pod → Text → Event
  | labelPod : Pod → Role → Event
  | unlabelPod : Pod → Event
  | failover : Pod → Event
  | createJob : JobName → Event
  | deleteJob : JobName → Event
  | deletePod : Pod → Event
  | readUnderReplicated : List Condition → Event
  | fetchedNodes : Text → Event
  | patchStatus : Status → Event

structure World where
  vc : ValkeyCluster
  stored : ValkeyCluster
  log : List Event

def World.start (stored : ValkeyCluster) : World := ⟨stored,stored,[]⟩

def World.emit (e : Event) (w : World) : World := { w with log := w.log ++ [e] }

def World.annotate (k : AnnotationKey) (v : Option AnnotationValue) (w : World) : World :=
  { w with vc := { w.vc with annotations := Function.update w.vc.annotations k v } }

def World.setCondition (now : Time) (cond : Condition) (w : World) : World :=
  { w with vc := { w.vc with status := { w.vc.status with
      conditions := ValkeyOperator.setCondition now cond w.vc.status.conditions } } }

def World.setNodes (nodes : List NodeStatus) (w : World) : World :=
  { w with vc := { w.vc with status := { w.vc.status with nodes := nodes } } }

/-- `Client.Patch(ctx, vc, MergeFrom(base))`: the difference to `base` goes into
the stored object, whose status the main resource does not touch, and the
response replaces the copy in memory. A failed patch changes neither. -/
def World.patch (ok : Bool) (base : ValkeyCluster) (w : World) : World :=
  if ok then
    let annotations := MergePatch.keyed base.annotations w.vc.annotations w.stored.annotations
    let response := { w.stored with annotations := annotations }
    { w with vc := response, stored := response }
  else w

def World.Synced (w : World) (k : AnnotationKey) : Prop :=
  w.vc.annotations k = w.stored.annotations k

@[simp] theorem World.start_synced (stored : ValkeyCluster) (k : AnnotationKey) :
    (World.start stored).Synced k := rfl

@[simp] theorem World.annotate_self (k : AnnotationKey) (v : Option AnnotationValue) (w : World) :
    (w.annotate k v).vc.annotations k = v := by simp [World.annotate]

@[simp] theorem World.annotate_ne {k j : AnnotationKey} (h : j ≠ k) (v : Option AnnotationValue)
    (w : World) : (w.annotate k v).vc.annotations j = w.vc.annotations j := by
  simp [World.annotate,h]

@[simp] theorem World.annotate_stored (k : AnnotationKey) (v : Option AnnotationValue) (w : World) :
    (w.annotate k v).stored = w.stored := rfl

@[simp] theorem World.annotate_log (k : AnnotationKey) (v : Option AnnotationValue) (w : World) :
    (w.annotate k v).log = w.log := rfl

@[simp] theorem World.emit_vc (e : Event) (w : World) : (w.emit e).vc = w.vc := rfl

@[simp] theorem World.emit_stored (e : Event) (w : World) : (w.emit e).stored = w.stored := rfl

@[simp] theorem World.emit_log (e : Event) (w : World) : (w.emit e).log = w.log ++ [e] := rfl

@[simp] theorem World.patch_failed (base : ValkeyCluster) (w : World) :
    w.patch false base = w := rfl

@[simp] theorem World.patch_log (ok : Bool) (base : ValkeyCluster) (w : World) :
    (w.patch ok base).log = w.log := by cases ok <;> rfl

theorem World.patch_annotations (base : ValkeyCluster) (w : World) :
    (w.patch true base).vc.annotations =
      MergePatch.keyed base.annotations w.vc.annotations w.stored.annotations := rfl

/-- What no step before the final status update changes in either copy. -/
def ValkeyCluster.fixed (vc : ValkeyCluster) :
    Text × Text × Int × Spec × (Text → Option Role) :=
  (vc.name, vc.ns, vc.generation, vc.spec, vc.status.podRoles)

structure Edit (keys : AnnotationKey → Prop) (w w' : World) : Prop where
  only : w'.vc = { w.vc with annotations := w'.vc.annotations }
  keeps : ∀ k, keys k → w'.vc.annotations k = w.vc.annotations k
  stored : w'.stored = w.stored
  log : w'.log = w.log

namespace Edit
variable {keys : AnnotationKey → Prop} {w w' w'' : World}

theorem refl (keys : AnnotationKey → Prop) (w : World) : Edit keys w w :=
  ⟨rfl, fun _ _ => rfl, rfl, rfl⟩

theorem trans (h₁ : Edit keys w w') (h₂ : Edit keys w' w'') : Edit keys w w'' := by
  refine ⟨?_, fun k hk => (h₂.keeps k hk).trans (h₁.keeps k hk), h₂.stored.trans h₁.stored,
    h₂.log.trans h₁.log⟩
  have h := h₂.only
  rw [h₁.only] at h
  exact h

theorem annotate {k : AnnotationKey} (hk : ¬ keys k) (v : Option AnnotationValue) (w : World) :
    Edit keys w (w.annotate k v) := by
  refine ⟨rfl, fun j hj => ?_, rfl, rfl⟩
  have hne : j ≠ k := fun h => hk (h ▸ hj)
  exact World.annotate_ne hne v w

theorem patched (h : Edit keys w w') {k : AnnotationKey} (hs : w.Synced k) :
    (w'.patch true w.vc).stored.annotations k = w'.vc.annotations k := by
  have hbase : w'.stored.annotations k = w.vc.annotations k := by
    rw [h.stored]
    exact hs.symm
  exact MergePatch.keyed_base hbase

end Edit

theorem World.annotate_patched {w : World} {k : AnnotationKey} (hs : w.Synced k)
    (v : Option AnnotationValue) :
    ((w.annotate k v).patch true w.vc).stored.annotations k = v := by
  have hedit : Edit (fun _ => False) w (w.annotate k v) := Edit.annotate (fun h => h) v w
  exact (hedit.patched hs).trans (World.annotate_self k v w)

/-- What a step leaves alone: the annotations in `keys`, if the two copies
agreed on them before, the fixed part of the object and the stored status.
What it does is of the kind `acts`. -/
structure Frame (keys : AnnotationKey → Prop) (acts : Event → Prop) (w w' : World) : Prop where
  keeps : ∀ k, keys k → w.Synced k →
    w'.vc.annotations k = w.vc.annotations k ∧ w'.stored.annotations k = w.stored.annotations k
  fixed : w.vc.fixed = w.stored.fixed →
    w'.vc.fixed = w.vc.fixed ∧ w'.stored.fixed = w.stored.fixed
  status : w'.stored.status = w.stored.status
  emits : ∃ es, w'.log = w.log ++ es ∧ ∀ e ∈ es, acts e

namespace Frame
variable {keys keys' : AnnotationKey → Prop} {acts acts' : Event → Prop} {w w' w'' : World}

theorem refl (keys : AnnotationKey → Prop) (acts : Event → Prop) (w : World) :
    Frame keys acts w w :=
  ⟨fun _ _ _ => ⟨rfl,rfl⟩, fun _ => ⟨rfl,rfl⟩, rfl, [], by simp, by simp⟩

theorem synced (h : Frame keys acts w w') {k : AnnotationKey} (hk : keys k) (hs : w.Synced k) :
    w'.Synced k := by
  obtain ⟨hvc,hst⟩ := h.keeps k hk hs
  unfold World.Synced
  rw [hvc,hst]
  exact hs

theorem fixed_eq (h : Frame keys acts w w') (hs : w.vc.fixed = w.stored.fixed) :
    w'.vc.fixed = w'.stored.fixed := by
  obtain ⟨hvc,hst⟩ := h.fixed hs
  rw [hvc,hst]
  exact hs

theorem trans (h₁ : Frame keys acts w w') (h₂ : Frame keys acts w' w'') :
    Frame keys acts w w'' where
  keeps k hk hs := by
    obtain ⟨hvc,hst⟩ := h₁.keeps k hk hs
    obtain ⟨hvc',hst'⟩ := h₂.keeps k hk (h₁.synced hk hs)
    exact ⟨hvc'.trans hvc, hst'.trans hst⟩
  fixed hs := by
    obtain ⟨hvc,hst⟩ := h₁.fixed hs
    obtain ⟨hvc',hst'⟩ := h₂.fixed (h₁.fixed_eq hs)
    exact ⟨hvc'.trans hvc, hst'.trans hst⟩
  status := h₂.status.trans h₁.status
  emits := by
    obtain ⟨es,hlog,hes⟩ := h₁.emits
    obtain ⟨es',hlog',hes'⟩ := h₂.emits
    refine ⟨es ++ es', by rw [hlog',hlog,List.append_assoc], ?_⟩
    intro e he
    rcases List.mem_append.mp he with he | he
    · exact hes e he
    · exact hes' e he

theorem log_eq (h : Frame keys (fun _ => False) w w') : w'.log = w.log := by
  obtain ⟨es,hlog,hes⟩ := h.emits
  cases es with
  | nil => simpa using hlog
  | cons e es => exact (hes e (by simp)).elim

theorem mono (h : Frame keys acts w w') (hk : ∀ k, keys' k → keys k)
    (ha : ∀ e, acts e → acts' e) : Frame keys' acts' w w' where
  keeps k hk' := h.keeps k (hk k hk')
  fixed := h.fixed
  status := h.status
  emits := by
    obtain ⟨es,hlog,hes⟩ := h.emits
    exact ⟨es, hlog, fun e he => ha e (hes e he)⟩

theorem append {es : List Event} (hes : ∀ e ∈ es, acts e) (w : World) :
    Frame keys acts w { w with log := w.log ++ es } :=
  ⟨fun _ _ _ => ⟨rfl,rfl⟩, fun _ => ⟨rfl,rfl⟩, rfl, es, rfl, hes⟩

theorem emit {e : Event} (he : acts e) (w : World) : Frame keys acts w (w.emit e) :=
  append (by simpa using he) w

theorem setCondition (now : Time) (cond : Condition) (w : World) :
    Frame keys acts w (w.setCondition now cond) :=
  ⟨fun _ _ _ => ⟨rfl,rfl⟩, fun _ => ⟨rfl,rfl⟩, rfl, [], by simp [World.setCondition], by simp⟩

theorem setNodes (nodes : List NodeStatus) (w : World) : Frame keys acts w (w.setNodes nodes) :=
  ⟨fun _ _ _ => ⟨rfl,rfl⟩, fun _ => ⟨rfl,rfl⟩, rfl, [], by simp [World.setNodes], by simp⟩

theorem editPatch (h : Edit keys w w') (ok : Bool) : Frame keys acts w (w'.patch ok w.vc) := by
  have hvc := h.only
  have hst := h.stored
  have hlog := h.log
  cases ok with
  | false =>
    refine ⟨fun k hk _ => ⟨h.keeps k hk, by simp [hst]⟩, fun _ => ⟨?_, by simp [hst]⟩, by simp [hst],
      [], by simp [hlog], by simp⟩
    rw [World.patch_failed,hvc]
    rfl
  | true =>
    refine ⟨fun k hk hs => ?_, fun hs => ?_, ?_, [], by simp [hlog], by simp⟩
    · have hkeep : MergePatch.keyed w.vc.annotations w'.vc.annotations w'.stored.annotations k =
          w.stored.annotations k := by
        rw [MergePatch.keyed_unchanged (h.keeps k hk),hst]
      exact ⟨hkeep.trans hs.symm, hkeep⟩
    · have hfix : (w'.patch true w.vc).stored.fixed = w.stored.fixed := by
        rw [← hst]
        rfl
      exact ⟨hfix.trans hs.symm, hfix⟩
    · rw [← hst]
      rfl

theorem edit (h : Edit keys w w') : Frame keys acts w w' := editPatch h false

end Frame

def Emits (acts : Event → Prop) (w w' : World) : Prop :=
  ∃ es : List Event, (∀ e ∈ es, acts e) ∧ w' = { w with log := w.log ++ es }

namespace Emits
variable {acts : Event → Prop} {w w' w'' : World}

theorem refl (acts : Event → Prop) (w : World) : Emits acts w w := ⟨[], by simp, by simp⟩

theorem emit {e : Event} (he : acts e) (w : World) : Emits acts w (w.emit e) :=
  ⟨[e], by simpa using he, rfl⟩

theorem trans (h₁ : Emits acts w w') (h₂ : Emits acts w' w'') : Emits acts w w'' := by
  obtain ⟨es,hes,rfl⟩ := h₁
  obtain ⟨es',hes',rfl⟩ := h₂
  refine ⟨es ++ es', ?_, by simp⟩
  intro e he
  rcases List.mem_append.mp he with he | he
  · exact hes e he
  · exact hes' e he

theorem mono {acts' : Event → Prop} (h : Emits acts w w') (ha : ∀ e, acts e → acts' e) :
    Emits acts' w w' := by
  obtain ⟨es,hes,heq⟩ := h
  exact ⟨es, fun e he => ha e (hes e he), heq⟩

theorem vc_eq (h : Emits acts w w') : w'.vc = w.vc := by
  obtain ⟨es,-,rfl⟩ := h
  rfl

theorem stored_eq (h : Emits acts w w') : w'.stored = w.stored := by
  obtain ⟨es,-,rfl⟩ := h
  rfl

theorem frame {keys : AnnotationKey → Prop} {acts' : Event → Prop} (h : Emits acts w w')
    (ha : ∀ e, acts e → acts' e) : Frame keys acts' w w' := by
  obtain ⟨es,hes,rfl⟩ := h
  exact Frame.append (fun e he => ha e (hes e he)) w

end Emits

/-- What others write to the object between two passes: anything but the
annotations in `keys`, which only the operator sets. -/
structure OtherWrites (keys : AnnotationKey → Prop) where
  write : ValkeyCluster → ValkeyCluster
  keeps : ∀ vc k, keys k → (write vc).annotations k = vc.annotations k

def OtherWrites.nothing (keys : AnnotationKey → Prop) : OtherWrites keys := ⟨id, fun _ _ _ => rfl⟩

def threeShards (annotations : Annotations) : ValkeyCluster where
  name := "vk".toList
  ns := "db".toList
  generation := 1
  deleting := false
  finalizer := true
  spec := ⟨3, 0, 6379, 2000, none⟩
  annotations := annotations
  status := ⟨.running, 3, 1, "ok".toList, 16384, 3, fun _ => none, [], []⟩

def readyPod (digit : Char) : Pod where
  name := ['v','k','-',digit]
  ns := "db".toList
  uid := ['u',digit]
  phase := .running
  ready := some .true
  podIP := ['1','0','.','0','.','0','.',digit]
  startTime := some 0
  deleting := false
  nodeName := ['n',digit]
  roleLabel := some .primary
  containers := []

def threePods : List Pod := [readyPod '1', readyPod '2', readyPod '3']

end ValkeyOperator
