import ValkeyOperator.Carried
import ValkeyOperator.SlotStats

/-!
What OPERATOR.SLOT.STATS tells the operator. The module answers with names and numbers, the client
hands them on as strings, and on what they say a pass decides whether the shards need a rebalance.
-/

set_option autoImplicit false

namespace ValkeyOperator
open TextScan Runs

def StateRole.label : StateRole → Text
  | .primary => "primary".toList
  | .replica => "replica".toList
  | .unknown => "unknown".toList

/-- The array of five pairs. -/
def SlotStatsReply.elements (r : SlotStatsReply) : List ReplyElement :=
  [.string "keys".toList, .integer r.keys, .string "memory_bytes".toList, .integer r.memoryBytes,
    .string "role".toList, .string r.role.label, .string "slots".toList, .string r.slots,
    .string "repl_offset".toList, .integer r.replOffset]

section
variable (asStrSlice : List ReplyElement → List Text)

/-- What is assumed of the client's `AsStrSlice`: a string comes out as it is, an integer as the
empty string. -/
structure BlankIntegers : Prop where
  nil : asStrSlice [] = []
  string : ∀ text rest, asStrSlice (.string text :: rest) = text :: asStrSlice rest
  integer : ∀ n rest, asStrSlice (.integer n :: rest) = [] :: asStrSlice rest

def slotStatsCall (info nodes : Option Text) : Option (List Text) :=
  match operatorSlotStats info nodes with
  | .ok r => some (asStrSlice r.elements)
  | .error _ => none

def FromModule (stats : Option (List Text)) : Prop :=
  stats = none ∨ ∃ info nodes, stats = slotStatsCall asStrSlice info nodes

end

section
variable {asStrSlice : List ReplyElement → List Text}

theorem readPairs_asStrSlice (hclient : BlankIntegers asStrSlice) (name : Text) (r : SlotStatsReply) :
    readPairs ⟨name, 0, 0⟩ (asStrSlice r.elements) = ⟨name, 0, 0⟩ := by
  have hparse : parseInt64 [] = none := by decide
  have hkeys : "keys".toList ≠ "memory_bytes".toList := by decide
  have hrole : "role".toList ≠ "memory_bytes".toList ∧ "role".toList ≠ "keys".toList := by decide
  have hslots : "slots".toList ≠ "memory_bytes".toList ∧ "slots".toList ≠ "keys".toList := by decide
  have hoffset : "repl_offset".toList ≠ "memory_bytes".toList ∧ "repl_offset".toList ≠ "keys".toList := by
    decide
  simp only [SlotStatsReply.elements,hclient.nil,hclient.string,hclient.integer,readPairs,hparse,if_neg hkeys,
    if_neg hrole.1,if_neg hrole.2,if_neg hslots.1,if_neg hslots.2,if_neg hoffset.1,if_neg hoffset.2,if_true]

theorem shardStats_zero (hclient : BlankIntegers asStrSlice) {i : StatsInput}
    (h : ∀ pod, FromModule asStrSlice (i.stats pod)) (primaries : List Pod) :
    ∀ stat ∈ shardStats i primaries, stat.memoryBytes = 0 := by
  intro stat hstat
  obtain ⟨pod,-,hpod⟩ := List.mem_filterMap.mp hstat
  obtain ⟨pairs,hpairs,rfl⟩ := Option.map_eq_some_iff.mp hpod
  rcases h pod with hnone | ⟨info,nodes,hcall⟩
  · rw [hnone] at hpairs
    cases hpairs
  · rw [hcall,slotStatsCall] at hpairs
    split at hpairs
    · obtain rfl := Option.some.inj hpairs
      rw [readPairs_asStrSlice hclient]
    · cases hpairs

theorem maxMem_zero {stats : List ShardStat} (h : ∀ stat ∈ stats, stat.memoryBytes = 0) : maxMem 0 stats = 0 := by
  induction stats with
  | nil => rfl
  | cons stat rest ih =>
    have hhead := h stat List.mem_cons_self
    have hrest := ih (fun s hs => h s (List.mem_cons_of_mem stat hs))
    unfold maxMem at hrest ⊢
    rw [List.foldl_cons,hhead,if_neg (by decide)]
    exact hrest

theorem imbalanceThreshold_pos (vc : ValkeyCluster) : 0 < imbalanceThreshold vc := by
  unfold imbalanceThreshold
  split
  · split_ifs with hset
    · exact hset
    · decide
  · decide

/-- Every shard looks as empty as the others, so the step takes the balance for kept. -/
theorem reconcileShardStats_even (hclient : BlankIntegers asStrSlice) {i : StatsInput}
    (h : ∀ pod, FromModule asStrSlice (i.stats pod)) (w : World) :
    (reconcileShardStats i w).1 = w ∨ (reconcileShardStats i w).1 = clearShardImbalanced i.conditionAt w ∨
      (reconcileShardStats i w).1 = lowerShardImbalanced i w := by
  unfold reconcileShardStats
  split_ifs
  · exact .inl rfl
  · cases i.listed with
    | none => exact .inl rfl
    | some pods =>
      dsimp only
      have hzero := shardStats_zero hclient h (primaryPods w.vc pods)
      split_ifs
      · exact .inr (.inl rfl)
      · split
        · exact .inr (.inl rfl)
        · exact .inr (.inl rfl)
        · next first rest _ hstats =>
          rw [hstats] at hzero
          have hmax : maxMem first.memoryBytes rest = 0 := by
            rw [hzero first List.mem_cons_self]
            exact maxMem_zero (fun s hs => hzero s (List.mem_cons_of_mem first hs))
          have hskew : skewPct (maxMem first.memoryBytes rest) (minMem first.memoryBytes rest) = 0 := by
            rw [hmax]
            rfl
          have hlow : ¬ skewPct (maxMem first.memoryBytes rest) (minMem first.memoryBytes rest) >
              imbalanceThreshold w.vc := by
            rw [hskew]
            exact Int.not_lt.mpr (Int.le_of_lt (imbalanceThreshold_pos w.vc))
          rw [if_neg hlow]
          exact .inr (.inr rfl)

end

def Even (conditions : List Condition) : Prop :=
  conditions.any (fun c => c.type = .shardImbalanced && c.status = .true) = false

abbrev NoImbalance : World → Prop := Carries Even

theorem even_setCondition {cond : Condition} (hcond : ¬ (cond.type = .shardImbalanced ∧ cond.status = .true))
    (now : Time) {conditions : List Condition} (h : Even conditions) : Even (setCondition now cond conditions) := by
  unfold Even at h ⊢
  rw [List.any_eq_false] at h ⊢
  intro c hc
  have hnew : ∀ time, ¬ ((({ cond with lastTransitionTime := time } : Condition).type = .shardImbalanced &&
      ({ cond with lastTransitionTime := time } : Condition).status = .true) = true) := by
    intro time
    simpa using hcond
  rcases setCondition_cases now cond conditions with ⟨-,hset⟩ | ⟨before,old,after,hsplit,-,-,hset⟩
  · simp only [hset,List.mem_append,List.mem_singleton] at hc
    rcases hc with hc | rfl
    · exact h c hc
    · exact hnew now
  · simp only [hset,List.mem_append,List.mem_cons] at hc
    rw [hsplit] at h
    rcases hc with hc | rfl | hc
    · exact h c (by simp [hc])
    · exact hnew _
    · exact h c (by simp [hc])

theorem spares_even {type : ConditionType} (h : type ≠ .shardImbalanced) : Spares Even type :=
  fun now _ _ htype heven => even_setCondition (fun hcond => h (htype ▸ hcond.1)) now heven

section
variable {w : World} {asStrSlice : List ReplyElement → List Text}

theorem NoImbalance.stats (h : NoImbalance w) (hclient : BlankIntegers asStrSlice) {i : StatsInput} (hstats : ∀ pod, FromModule asStrSlice (i.stats pod)) :
    NoImbalance (reconcileShardStats i w).1 := by
  have hclear : ∀ {w}, NoImbalance w → NoImbalance (clearShardImbalanced i.conditionAt w) :=
    fun h => ⟨even_setCondition (fun hcond => by cases hcond.2) i.conditionAt h.seen, h.stored, h.log⟩
  rcases reconcileShardStats_even hclient hstats w with heq | heq | heq
  · rw [heq]
    exact h
  · rw [heq]
    exact hclear h
  · rw [heq]
    unfold lowerShardImbalanced
    refine hclear ?_
    split
    · exact h
    · exact (h.annotate _ _).patch _ _

theorem NoImbalance.rebalance (h : NoImbalance w) (i : RebalanceInput) : (reconcileRebalance i w).1 = w := by
  unfold reconcileRebalance
  rw [show isImbalanced w.vc = false from h.seen]
  rfl

theorem NoImbalance.mutate (h : NoImbalance w) (hclient : BlankIntegers asStrSlice) {i : PassInput} (hstats : ∀ pod, FromModule asStrSlice (i.stats.stats pod)) :
    NoImbalance (mutateCluster i w) := by
  have horphans := h.emits (reconcileOrphanReplicas_emits i.orphans w) (fun h => h)
  have hbalanced := NoImbalance.stats horphans hclient hstats
  unfold mutateCluster
  dsimp only
  split
  · split_ifs
    · rw [NoImbalance.rebalance hbalanced]
      exact hbalanced
    · exact hbalanced
  · exact hbalanced

theorem NoImbalance.formed (h : NoImbalance w) (hclient : BlankIntegers asStrSlice) {i : PassInput} (hstats : ∀ pod, FromModule asStrSlice (i.stats.stats pod))
    (base : ValkeyCluster) : NoImbalance (reconcileFormed i base w).world := by
  have hroles : NoImbalance (observeCluster i w) :=
    ((h.health (spares_even (by decide)) (spares_even (by decide)) (spares_even (by decide)) i.health).emit (by rintro ⟨⟩)).emits (reconcileReplicaRoles_emits i.roles _) (fun h => h)
  have hdrain := hroles.emits (reconcileNodeDrainFailover_emits i.drain (observeCluster i w)) (fun h => h)
  unfold reconcileFormed
  dsimp only
  split
  · exact hroles
  · exact hroles.update (spares_even (by decide)) (spares_even (by decide)) i.status base
  · split
    · next w' heq =>
      rw [heq] at hdrain
      exact hdrain
    · next w' _ _ heq =>
      rw [heq] at hdrain
      rw [finishPass_world]
      exact (NoImbalance.mutate hdrain hclient hstats).update (spares_even (by decide)) (spares_even (by decide)) i.status base

theorem NoImbalance.steps (h : NoImbalance w) (hclient : BlankIntegers asStrSlice) {i : PassInput} (hstats : ∀ pod, FromModule asStrSlice (i.stats.stats pod))
    (sum256 : Text → Digest) : NoImbalance (reconcileSteps sum256 i w).world := by
  have hacls := h.acls sum256 i.acl
  unfold reconcileSteps
  split_ifs
  · exact h
  · split
    · next w' heq =>
      rw [heq] at hacls
      exact hacls
    · next w' heq =>
      rw [heq] at hacls
      have htopology := (hacls.crashes i.crash).topology i.topology
      unfold afterTopology
      split_ifs
      · exact htopology
      · exact NoImbalance.formed htopology hclient hstats w.vc
      · rw [finishPass_world]
        exact htopology.update (spares_even (by decide)) (spares_even (by decide)) i.status w.vc

theorem NoImbalance.whole (h : NoImbalance w) (ok : Bool) {vc : ValkeyCluster}
    (hvc : vc.status.conditions = w.vc.status.conditions) : NoImbalance (w.update ok vc) := by
  have hseen : Even vc.status.conditions := by
    rw [hvc]
    exact h.seen
  unfold World.update
  split_ifs
  · exact ⟨hseen, hseen, h.log⟩
  · exact ⟨hseen, h.stored, h.log⟩

theorem noImbalance_pass (hclient : BlankIntegers asStrSlice) {stored : ValkeyCluster} (h : isImbalanced stored = false) {i : PassInput}
    (hstats : ∀ pod, FromModule asStrSlice (i.stats.stats pod)) (sum256 : Text → Digest) :
    NoImbalance (reconcile sum256 i stored).world := by
  have hstart : NoImbalance (World.start stored) := ⟨h, h, List.not_mem_nil⟩
  unfold reconcile
  dsimp only
  split
  · exact hstart
  · exact hstart
  · split_ifs
    · unfold handleDeletion
      split_ifs
      · exact hstart
      · exact NoImbalance.whole hstart _ rfl
    · exact NoImbalance.whole hstart _ rfl
    · refine NoImbalance.steps ?_ hclient hstats sum256
      exact NoImbalance.whole hstart _ rfl
    · exact NoImbalance.whole hstart _ rfl
    · exact NoImbalance.steps hstart hclient hstats sum256

end

/-- One pass of a run, with what others have written to the object before it. -/
structure ReportPass where
  write : ValkeyCluster → ValkeyCluster
  input : PassInput

def reportPass (sum256 : Text → Digest) (stored : ValkeyCluster) (p : ReportPass) : ValkeyCluster × List Event :=
  let w := (reconcile sum256 p.input (p.write stored)).world
  (w.stored, w.log)

/-- The status is the operator's own, and the module's replies come to it through the client. -/
structure ReportPass.Lawful (asStrSlice : List ReplyElement → List Text) (p : ReportPass) : Prop where
  status : ∀ vc, (p.write vc).status = vc.status
  stats : ∀ pod, FromModule asStrSlice (p.input.stats.stats pod)

/-- Whatever the shards hold, no pass ever finds them out of balance: none starts a rebalance, and none
leaves the condition behind that would. -/
theorem rebalance_neverStarted (sum256 : Text → Digest) {asStrSlice : List ReplyElement → List Text}
    (hclient : BlankIntegers asStrSlice) {stored : ValkeyCluster} (h : isImbalanced stored = false)
    {passes : List ReportPass} (hpasses : ∀ p ∈ passes, p.Lawful asStrSlice) :
    isImbalanced (final (reportPass sum256) stored passes) = false ∧
      ∀ entry ∈ log (reportPass sum256) stored passes, .createJob .rebalance ∉ entry.2 := by
  have hrun : Along (reportPass sum256) (fun _ => ReportPass.Lawful asStrSlice) stored passes := along_of_forall stored hpasses
  refine hrun.final (fun past vc => isImbalanced vc = false ∧ ∀ entry ∈ past, .createJob .rebalance ∉ entry.2)
    ⟨h, List.forall_mem_nil _⟩ ?_
  rintro past vc p ⟨hvc,hpast⟩ hlawful
  have hwritten : isImbalanced (p.write vc) = false := by
    unfold isImbalanced
    rw [hlawful.status]
    exact hvc
  have hpass := noImbalance_pass hclient hwritten hlawful.stats sum256
  refine ⟨hpass.stored, ?_⟩
  rw [List.forall_mem_append]
  exact ⟨hpast, by rw [List.forall_mem_singleton]; exact hpass.log⟩

def rebalancing : ValkeyCluster :=
  { threeShards (fun _ => none) with
    spec := { (threeShards (fun _ => none)).spec with rebalance := some ⟨true, 20⟩ }
    status := { (threeShards (fun _ => none)).status with podRoles := fun _ => some .primary } }

def unevenInfo (pod : Pod) : Text :=
  (if pod.name = (readyPod '1').name then "used_memory:1073741824\r\n" else "used_memory:1048576\r\n").toList

def blankIntegers (reply : List ReplyElement) : List Text :=
  reply.map (fun
    | .string text => text
    | .integer _ => [])

def unevenPass (now : Time) : ReportPass where
  write := id
  input := { calmPass now (fun _ => some (infoText "ok" "16384")) with
    stats := ⟨true, some threePods, fun pod => slotStatsCall blankIntegers (some (unevenInfo pod)) (some threeNodes), now, now, true⟩ }

theorem unevenRun_neverStarted :
    isImbalanced (final (reportPass (fun _ => appDigest)) rebalancing [unevenPass 0, unevenPass (90*second)]) = false ∧
      ∀ entry ∈ log (reportPass (fun _ => appDigest)) rebalancing [unevenPass 0, unevenPass (90*second)],
        .createJob .rebalance ∉ entry.2 := by
  have hclient : BlankIntegers blankIntegers := ⟨rfl, fun _ _ => rfl, fun _ _ => rfl⟩
  refine rebalance_neverStarted _ hclient rfl ?_
  have hlawful : ∀ now, (unevenPass now).Lawful blankIntegers :=
    fun now => ⟨fun _ => rfl, fun pod => .inr ⟨some (unevenInfo pod), some threeNodes, rfl⟩⟩
  simp only [List.forall_mem_cons,hlawful,true_and]
  exact List.forall_mem_nil _

end ValkeyOperator
