import ValkeyOperator.ClusterObject

/-! Step 5 of a pass: which pods get the ACL configuration and which are skipped. -/

set_option autoImplicit false

namespace ValkeyOperator
open TextScan

structure ResolvedACLUser where
  name : Text
  password : Text
  keyPatterns : List Text
  commands : Text
  deriving DecidableEq, Repr

structure ACLConfig where
  operatorPassword : Text
  metricsPassword : Text
  metricsEnabled : Bool
  users : List ResolvedACLUser
  deriving DecidableEq, Repr

def aclSkipAge : Int := 60*second

def userLine (u : ResolvedACLUser) : Text :=
  "user=".toList ++ u.name ++ " pass=".toList ++ u.password ++ " keys=[".toList ++
    [' '].intercalate u.keyPatterns ++ "] cmds=".toList ++ u.commands ++ ['\n']

def aclHashInput (c : ACLConfig) : Text :=
  "operator=".toList ++ c.operatorPassword ++ "\nmetricsEnabled=".toList ++
    (if c.metricsEnabled then "true".toList else "false".toList) ++
    "\nmetrics=".toList ++ c.metricsPassword ++ ['\n'] ++ c.users.flatMap userLine

abbrev Digest := Fin 32 → Fin 256

def hexDigit (n : Nat) : Char := "0123456789abcdef".toList.getD n '0'

def hexByte (b : Fin 256) : Text := [hexDigit (b.val / 16), hexDigit (b.val % 16)]

section
variable (sum256 : Text → Digest)

def aclHash (c : ACLConfig) : Text :=
  ((List.finRange 32).take 8).flatMap (fun i => hexByte (sum256 (aclHashInput c) i))

def shouldSkipACLPod (hashChanged : Bool) (startTime : Option Time) (now : Time) : Bool :=
  match startTime with
  | none => false
  | some start => !hashChanged && decide (now - start > aclSkipAge)

/-- `config` is missing when a Secret or a key pattern cannot be resolved. -/
structure ACLInput where
  config : Option ACLConfig
  listed : Option (List Pod)
  now : Pod → Time
  applyOK : Pod → Bool
  patchOK : Bool

def aclHashChanged (vc : ValkeyCluster) (c : ACLConfig) : Bool :=
  vc.annotations .aclHash ≠ some (.text (aclHash sum256 c))

def visitACLPod (i : ACLInput) (hashChanged : Bool) (pod : Pod) : List Event :=
  if pod.phase ≠ .running ∨ pod.podIP = [] then []
  else if shouldSkipACLPod hashChanged pod.startTime (i.now pod) then [.skipACLs pod]
  else [.applyACLs pod (i.applyOK pod)]

def appliedOn : Event → Bool
  | .applyACLs _ ok => ok
  | _ => false

def reconcileACLs (i : ACLInput) (w : World) : World × Bool :=
  match i.config with
  | none => (w, true)
  | some c =>
    let hashChanged := aclHashChanged sum256 w.vc c
    match i.listed with
    | none => (w, true)
    | some pods =>
      let events := pods.flatMap (visitACLPod i hashChanged)
      let applied := events.countP appliedOn
      let w' : World := { w with log := w.log ++ events }
      if hashChanged ∧ applied > 0 then
        ((w'.annotate .aclHash (some (.text (aclHash sum256 c)))).patch i.patchOK w'.vc, false)
      else (w', false)

def Event.IsACL : Event → Prop
  | .skipACLs _ => True
  | .applyACLs _ _ => True
  | _ => False

theorem reconcileACLs_err (i : ACLInput) (w : World) :
    (reconcileACLs sum256 i w).2 = (i.config.isNone || i.listed.isNone) := by
  unfold reconcileACLs
  cases i.config with
  | none => rfl
  | some c =>
    cases i.listed with
    | none => rfl
    | some pods =>
      dsimp only
      split <;> rfl

theorem reconcileACLs_frame {keys : AnnotationKey → Prop} {acts : Event → Prop}
    (hk : ¬ keys .aclHash) (ha : ∀ e, e.IsACL → acts e) (i : ACLInput) (w : World) :
    Frame keys acts w (reconcileACLs sum256 i w).1 := by
  unfold reconcileACLs
  cases i.config with
  | none => exact Frame.refl keys acts w
  | some c =>
    cases i.listed with
    | none => exact Frame.refl keys acts w
    | some pods =>
      dsimp only
      generalize aclHashChanged sum256 w.vc c = hashChanged
      have hacts : ∀ e ∈ pods.flatMap (visitACLPod i hashChanged), acts e := by
        intro e he
        obtain ⟨pod,-,he⟩ := List.mem_flatMap.mp he
        refine ha e ?_
        unfold visitACLPod at he
        split_ifs at he
        · simp at he
        · rw [List.mem_singleton.mp he]
          trivial
        · rw [List.mem_singleton.mp he]
          trivial
      have hlog : Frame keys acts w _ := Frame.append hacts w
      split
      · exact hlog.trans (Frame.editPatch (Edit.annotate hk _ _) i.patchOK)
      · exact hlog

structure ACLPass where
  others : OtherWrites (fun k => k = .aclHash)
  input : ACLInput

structure ACLRecord where
  vc : ValkeyCluster
  events : List Event

def aclPass (stored : ValkeyCluster) (p : ACLPass) : ValkeyCluster × ACLRecord :=
  let vc := p.others.write stored
  let w := (reconcileACLs sum256 p.input (World.start vc)).1
  (w.stored, ⟨vc, w.log⟩)

abbrev ACLEntry := ACLPass × ACLRecord

structure Visits (e : ACLEntry) (c : ACLConfig) (pods : List Pod) (hashChanged : Bool) : Prop where
  config : e.1.input.config = some c
  listed : e.1.input.listed = some pods
  changed : aclHashChanged sum256 e.2.vc c = hashChanged

def ReachablePod (pod : Pod) : Prop := pod.phase = .running ∧ pod.podIP ≠ []

def StoresHash (e : ACLEntry) : Prop :=
  ∃ c pods, Visits sum256 e c pods true ∧
    ∃ pod ∈ pods, ReachablePod pod ∧ e.1.input.applyOK pod = true

def AppliedTo (uid : Text) (e : ACLEntry) : Prop :=
  ∃ pod, pod.uid = uid ∧ Event.applyACLs pod true ∈ e.2.events

variable {sum256}

theorem mem_visitACLPod_apply {i : ACLInput} {hashChanged ok : Bool} {pod pod' : Pod} :
    Event.applyACLs pod' ok ∈ visitACLPod i hashChanged pod ↔
      pod' = pod ∧ ok = i.applyOK pod ∧ ReachablePod pod ∧
        shouldSkipACLPod hashChanged pod.startTime (i.now pod) = false := by
  unfold visitACLPod ReachablePod
  split_ifs with hreach hskip
  · simp only [List.not_mem_nil,false_iff]
    rintro ⟨-,-,⟨h₁,h₂⟩,-⟩
    rcases hreach with h | h
    · exact h h₁
    · exact h₂ h
  · simp [hskip]
  · simp only [not_or,ne_eq,Decidable.not_not] at hreach
    simp [hskip,hreach]

theorem mem_visitACLPod_skip {i : ACLInput} {hashChanged : Bool} {pod pod' : Pod}
    (h : Event.skipACLs pod' ∈ visitACLPod i hashChanged pod) :
    pod' = pod ∧ ReachablePod pod ∧
      shouldSkipACLPod hashChanged pod.startTime (i.now pod) = true := by
  unfold visitACLPod at h
  split_ifs at h with hreach hskip
  · simp at h
  · simp only [not_or,ne_eq,Decidable.not_not] at hreach
    simp only [List.mem_singleton,Event.skipACLs.injEq] at h
    exact ⟨h, hreach, hskip⟩
  · simp at h

theorem shouldSkipACLPod_changed (startTime : Option Time) (now : Time) :
    shouldSkipACLPod true startTime now = false := by
  unfold shouldSkipACLPod
  cases startTime <;> simp

theorem aclPass_visits {stored : ValkeyCluster} {p : ACLPass} {c : ACLConfig} {pods : List Pod}
    {hashChanged : Bool} (h : Visits sum256 (p, (aclPass sum256 stored p).2) c pods hashChanged) :
    (aclPass sum256 stored p).2.events = pods.flatMap (visitACLPod p.input hashChanged) := by
  have hc : p.input.config = some c := h.config
  have hl : p.input.listed = some pods := h.listed
  have hh : aclHashChanged sum256 (p.others.write stored) c = hashChanged := h.changed
  have hw : aclHashChanged sum256 (World.start (p.others.write stored)).vc c = hashChanged := hh
  unfold aclPass reconcileACLs
  simp only [hc,hl,hw]
  split_ifs <;> simp [World.start]

theorem aclPass_idle {stored : ValkeyCluster} {p : ACLPass}
    (h : p.input.config = none ∨ p.input.listed = none) :
    aclPass sum256 stored p = (p.others.write stored, ⟨p.others.write stored, []⟩) := by
  unfold aclPass reconcileACLs
  cases hc : p.input.config with
  | none => rfl
  | some c =>
    have hl : p.input.listed = none := h.resolve_left (by simp [hc])
    simp [hl,World.start]

theorem aclPass_event {stored : ValkeyCluster} {p : ACLPass} {ev : Event}
    (h : ev ∈ (aclPass sum256 stored p).2.events) :
    ∃ c pods hashChanged, Visits sum256 (p, (aclPass sum256 stored p).2) c pods hashChanged ∧
      ∃ pod ∈ pods, ev ∈ visitACLPod p.input hashChanged pod := by
  cases hc : p.input.config with
  | none =>
    rw [aclPass_idle (.inl hc)] at h
    simp at h
  | some c =>
    cases hl : p.input.listed with
    | none =>
      rw [aclPass_idle (.inr hl)] at h
      simp at h
    | some pods =>
      have hv : Visits sum256 (p, (aclPass sum256 stored p).2) c pods _ := ⟨hc, hl, rfl⟩
      rw [aclPass_visits hv] at h
      exact ⟨c, pods, _, hv, List.mem_flatMap.mp h⟩

theorem storesHash_of_applied {stored : ValkeyCluster} {p : ACLPass} {c : ACLConfig}
    {pods : List Pod} {uid : Text}
    (hv : Visits sum256 (p, (aclPass sum256 stored p).2) c pods true)
    (h : AppliedTo uid (p, (aclPass sum256 stored p).2)) :
    StoresHash sum256 (p, (aclPass sum256 stored p).2) := by
  obtain ⟨pod,-,hpod⟩ := h
  rw [aclPass_visits hv] at hpod
  obtain ⟨pod',hmem,hev⟩ := List.mem_flatMap.mp hpod
  obtain ⟨rfl,hok,hreach,-⟩ := mem_visitACLPod_apply.mp hev
  exact ⟨c, pods, hv, pod, hmem, hreach, hok.symm⟩

theorem storesHash_iff {stored : ValkeyCluster} {p : ACLPass} {c : ACLConfig} {pods : List Pod}
    (hc : p.input.config = some c) (hl : p.input.listed = some pods) :
    StoresHash sum256 (p, (aclPass sum256 stored p).2) ↔
      aclHashChanged sum256 (p.others.write stored) c = true ∧
      (pods.flatMap (visitACLPod p.input
        (aclHashChanged sum256 (p.others.write stored) c))).countP appliedOn > 0 := by
  rw [gt_iff_lt,List.countP_pos_iff]
  constructor
  · rintro ⟨c',pods',hv,pod,hmem,hreach,hok⟩
    obtain rfl := Option.some.inj (hc.symm.trans hv.config)
    obtain rfl := Option.some.inj (hl.symm.trans hv.listed)
    have hch : aclHashChanged sum256 (p.others.write stored) c = true := hv.changed
    refine ⟨hch, .applyACLs pod true, List.mem_flatMap.mpr ⟨pod, hmem, ?_⟩, rfl⟩
    rw [hch]
    exact mem_visitACLPod_apply.mpr ⟨rfl, hok.symm, hreach, shouldSkipACLPod_changed _ _⟩
  · rintro ⟨hch,ev,hev,hok⟩
    obtain ⟨pod,hmem,hvisit⟩ := List.mem_flatMap.mp hev
    cases ev with
    | applyACLs pod' ok =>
      obtain ⟨rfl,hok',hreach,-⟩ := mem_visitACLPod_apply.mp hvisit
      have hokt : ok = true := hok
      exact ⟨c, pods, ⟨hc, hl, hch⟩, pod', hmem, hreach, hok'.symm.trans hokt⟩
    | _ => cases hok

theorem aclPass_stored (sum256 : Text → Digest) (stored : ValkeyCluster) {p : ACLPass} (hp : p.input.patchOK = true) :
    (∀ c, p.input.config = some c → StoresHash sum256 (p, (aclPass sum256 stored p).2) →
      (aclPass sum256 stored p).1.annotations .aclHash = some (.text (aclHash sum256 c))) ∧
    (¬ StoresHash sum256 (p, (aclPass sum256 stored p).2) →
      (aclPass sum256 stored p).1.annotations .aclHash = stored.annotations .aclHash) := by
  have hothers := p.others.keeps stored .aclHash rfl
  cases hc : p.input.config with
  | none =>
    rw [aclPass_idle (.inl hc)]
    exact ⟨by simp, fun _ => hothers⟩
  | some c =>
    cases hl : p.input.listed with
    | none =>
      rw [aclPass_idle (.inr hl)]
      refine ⟨?_, fun _ => hothers⟩
      rintro c' - ⟨_,pods,hv,-⟩
      have hsome := hv.listed
      simp [hl] at hsome
    | some pods =>
      have hw : (World.start (p.others.write stored)).vc = p.others.write stored := rfl
      rw [storesHash_iff hc hl]
      unfold aclPass reconcileACLs
      simp only [hc,hl,hw]
      split_ifs with hcond
      · refine ⟨?_, fun hn => absurd hcond hn⟩
        rintro c' hc' -
        cases hc'
        rw [hp]
        apply World.annotate_patched
        rfl
      · exact ⟨fun c' _ hs => absurd hs hcond, fun _ => hothers⟩

/-- The stored hash was put there by the last pass that stored one, and every
pass since has read it. -/
def HashOrigin (sum256 : Text → Digest) (past : List ACLEntry) (stored : ValkeyCluster) : Prop :=
  ∀ v, stored.annotations .aclHash = some v →
    ∃ q after c, Runs.Latest (StoresHash sum256) past q after ∧ q.1.input.config = some c ∧
      v = .text (aclHash sum256 c) ∧ ∀ x ∈ after, x.2.vc.annotations .aclHash = some v

theorem hashOrigin_step {past : List ACLEntry} {stored : ValkeyCluster} {p : ACLPass}
    (hinv : HashOrigin sum256 past stored) (hp : p.input.patchOK = true) :
    HashOrigin sum256 (past ++ [(p, (aclPass sum256 stored p).2)])
      (aclPass sum256 stored p).1 := by
  have hothers := p.others.keeps stored .aclHash rfl
  obtain ⟨hnew,hold⟩ := aclPass_stored sum256 stored hp
  intro v hv
  by_cases hs : StoresHash sum256 (p, (aclPass sum256 stored p).2)
  · obtain ⟨c,pods,hvis,-⟩ := id hs
    have hc : p.input.config = some c := hvis.config
    rw [hnew c hc hs] at hv
    cases hv
    exact ⟨_, [], c, Runs.Latest.now past hs, hc, rfl, by simp⟩
  · rw [hold hs] at hv
    obtain ⟨q,after,c,hlatest,hc,rfl,hread⟩ := hinv v hv
    refine ⟨q, after ++ [(p, (aclPass sum256 stored p).2)], c, hlatest.snoc hs, hc, rfl, ?_⟩
    intro x hx
    rcases List.mem_append.mp hx with hx | hx
    · exact hread x hx
    · rw [List.mem_singleton.mp hx]
      exact hothers.trans hv

/-- Whoever stores a hash has applied it to every pod that it could reach. -/
def StoresForAll (sum256 : Text → Digest) (e : ACLEntry) : Prop :=
  StoresHash sum256 e → ∀ pods, e.1.input.listed = some pods →
    ∀ pod ∈ pods, ReachablePod pod → e.1.input.applyOK pod = true

def pastSkipAge (i : ACLInput) (pod : Pod) : Bool :=
  shouldSkipACLPod false pod.startTime (i.now pod)

def ReachesPod (uid : Text) (e : ACLEntry) : Prop :=
  ∃ pods, e.1.input.listed = some pods ∧ ∃ pod ∈ pods, pod.uid = uid ∧ ReachablePod pod

def ServedYoung (uid : Text) (e : ACLEntry) : Prop :=
  (∃ c, e.1.input.config = some c) ∧ ∃ pods, e.1.input.listed = some pods ∧
    ∃ pod ∈ pods, pod.uid = uid ∧ ReachablePod pod ∧ pastSkipAge e.1.input pod = false ∧
      e.1.input.applyOK pod = true

/-- A pod that is past the age for skipping could be reached when the hash was stored,
or has accepted the configuration since, before it came to that age. -/
def LatecomersServed (sum256 : Text → Digest) (past : List ACLEntry) (e : ACLEntry) : Prop :=
  ∀ c pods, Visits sum256 e c pods false →
    ∀ pod ∈ pods, ReachablePod pod → pastSkipAge e.1.input pod = true →
      ∀ q after, Runs.Latest (StoresHash sum256) past q after →
        ReachesPod pod.uid q ∨ ∃ x ∈ after, ServedYoung pod.uid x

def HashSeparates (sum256 : Text → Digest) (passes : List ACLPass) : Prop :=
  ∀ p ∈ passes, ∀ q ∈ passes, ∀ c d, p.input.config = some c → q.input.config = some d →
    aclHash sum256 c = aclHash sum256 d → c = d

def OfPass (sum256 : Text → Digest) (e : ACLEntry) : Prop :=
  ∃ stored p, e = (p, (aclPass sum256 stored p).2)

theorem ofPass_of_mem {start : ValkeyCluster} {passes : List ACLPass} {e : ACLEntry}
    (h : e ∈ Runs.log (aclPass sum256) start passes) : e.1 ∈ passes ∧ OfPass sum256 e := by
  obtain ⟨p,r⟩ := e
  obtain ⟨hp,stored,hr⟩ := Runs.mem_log h
  exact ⟨hp, stored, p, by rw [hr]⟩

theorem unchanged_read {e : ACLEntry} {c : ACLConfig} {pods : List Pod}
    (hv : Visits sum256 e c pods false) :
    e.2.vc.annotations .aclHash = some (.text (aclHash sum256 c)) := by
  simpa [aclHashChanged] using hv.changed

theorem unchanged_hash {e : ACLEntry} {c d : ACLConfig} {pods : List Pod}
    (hv : Visits sum256 e c pods false)
    (hread : e.2.vc.annotations .aclHash = some (.text (aclHash sum256 d))) :
    aclHash sum256 c = aclHash sum256 d :=
  AnnotationValue.text.inj (Option.some.inj ((unchanged_read hv).symm.trans hread))

theorem applied_unchanged {e : ACLEntry} (he : OfPass sum256 e) (hn : ¬ StoresHash sum256 e)
    {uid : Text} (h : AppliedTo uid e) : ∃ c pods, Visits sum256 e c pods false := by
  obtain ⟨stored,p,rfl⟩ := he
  obtain ⟨pod,-,hev⟩ := id h
  obtain ⟨c,pods,changed,hv,-⟩ := aclPass_event hev
  cases changed with
  | true => exact absurd (storesHash_of_applied hv h) hn
  | false => exact ⟨c, pods, hv⟩

theorem served_applied {e : ACLEntry} (he : OfPass sum256 e) (hn : ¬ StoresHash sum256 e)
    {uid : Text} (h : ServedYoung uid e) : AppliedTo uid e := by
  obtain ⟨stored,p,rfl⟩ := he
  obtain ⟨⟨c,hc⟩,pods,hl,pod,hmem,huid,hreach,hyoung,hok⟩ := h
  have hv : Visits sum256 (p, (aclPass sum256 stored p).2) c pods false := by
    refine ⟨hc, hl, ?_⟩
    by_contra hch
    exact hn ⟨c, pods, ⟨hc, hl, by simpa using hch⟩, pod, hmem, hreach, hok⟩
  refine ⟨pod, huid, ?_⟩
  rw [aclPass_visits hv]
  refine List.mem_flatMap.mpr ⟨pod, hmem, ?_⟩
  exact mem_visitACLPod_apply.mpr ⟨rfl, hok.symm, hreach, hyoung⟩

theorem stored_applied {e : ACLEntry} (he : OfPass sum256 e) (hs : StoresHash sum256 e)
    (hall : StoresForAll sum256 e) {uid : Text} (h : ReachesPod uid e) : AppliedTo uid e := by
  obtain ⟨stored,p,rfl⟩ := he
  obtain ⟨c,pods,hv,-⟩ := id hs
  obtain ⟨pods',hl,pod,hmem,huid,hreach⟩ := h
  obtain rfl := Option.some.inj (hl.symm.trans hv.listed)
  have hok := hall hs pods' hl pod hmem hreach
  refine ⟨pod, huid, ?_⟩
  rw [aclPass_visits hv]
  refine List.mem_flatMap.mpr ⟨pod, hmem, ?_⟩
  exact mem_visitACLPod_apply.mpr ⟨rfl, hok.symm, hreach, shouldSkipACLPod_changed _ _⟩

theorem hashOrigin_before {start : ValkeyCluster} (hstart : start.annotations .aclHash = none)
    {passes : List ACLPass} (hpatch : ∀ p ∈ passes, p.input.patchOK = true)
    {before after : List ACLEntry} {p : ACLPass} {r : ACLRecord}
    (hlog : Runs.log (aclPass sum256) start passes = before ++ (p, r) :: after) :
    ∃ stored, HashOrigin sum256 before stored ∧ r = (aclPass sum256 stored p).2 := by
  have hinit : HashOrigin sum256 [] start := by
    intro v hv
    rw [hstart] at hv
    cases hv
  have halong : Runs.Along (aclPass sum256) (fun _ i => i.input.patchOK = true) start passes :=
    Runs.along_of_forall start hpatch
  obtain ⟨stored,hinv,-,hr⟩ := halong.invariant (HashOrigin sum256) hinit
    (fun past s i hs hi => hashOrigin_step hs hi) hlog
  exact ⟨stored, hinv, hr⟩

theorem unchanged_since {start : ValkeyCluster} (hstart : start.annotations .aclHash = none)
    {passes : List ACLPass} (hpatch : ∀ p ∈ passes, p.input.patchOK = true)
    (hsep : HashSeparates sum256 passes) {before after : List ACLEntry} {p : ACLPass} {r : ACLRecord}
    (hlog : Runs.log (aclPass sum256) start passes = before ++ (p, r) :: after) {c : ACLConfig}
    {pods : List Pod} (hv : Visits sum256 (p, r) c pods false) (uid : Text) :
    ∃ q since, Runs.Latest (StoresHash sum256) before q since ∧ q.1.input.config = some c ∧
      ∀ x ∈ since, AppliedTo uid x → x.1.input.config = some c := by
  have hmem : ∀ x ∈ before ++ [(p, r)], x.1 ∈ passes ∧ OfPass sum256 x := by
    intro x hx
    have hx' : x ∈ Runs.log (aclPass sum256) start passes := by
      rw [hlog,← List.singleton_append,← List.append_assoc]
      exact List.mem_append_left after hx
    exact ofPass_of_mem hx'
  have hp : p ∈ passes := (hmem (p, r) (by simp)).1
  obtain ⟨stored,hinv,rfl⟩ := hashOrigin_before hstart hpatch hlog
  have hread : (p.others.write stored).annotations .aclHash = some (.text (aclHash sum256 c)) :=
    unchanged_read hv
  obtain ⟨q,since,d,hlatest,hd,hhash,hreads⟩ :=
    hinv _ ((p.others.keeps stored .aclHash rfl).symm.trans hread)
  obtain ⟨⟨earlier,rfl⟩,-,hnone⟩ := id hlatest
  obtain rfl : c = d := hsep p hp q.1 (hmem q (by simp)).1 c d hv.config hd
    (AnnotationValue.text.inj hhash)
  refine ⟨q, since, hlatest, hd, fun x hx hax => ?_⟩
  obtain ⟨hpass,hof⟩ := hmem x (by simp [hx])
  obtain ⟨cx,podsx,hvx⟩ := applied_unchanged hof (hnone x hx) hax
  have hcx : cx = c := hsep x.1 hpass p hp cx c hvx.config hv.config (unchanged_hash hvx (hreads x hx))
  rw [hvx.config,hcx]

/-- In a run where every stored hash stands for all pods that could be reached with it and
every later pod is served in time, a skipped pod has the current configuration:
it was applied, and nothing else has been since. -/
theorem skip_only_after_apply {start : ValkeyCluster} (hstart : start.annotations .aclHash = none)
    {passes : List ACLPass} (hpatch : ∀ p ∈ passes, p.input.patchOK = true)
    (hsep : HashSeparates sum256 passes)
    (hall : ∀ e ∈ Runs.log (aclPass sum256) start passes, StoresForAll sum256 e)
    (hlate : ∀ past e rest, Runs.log (aclPass sum256) start passes = past ++ e :: rest →
      LatecomersServed sum256 past e)
    {before after : List ACLEntry} {p : ACLPass} {r : ACLRecord}
    (hlog : Runs.log (aclPass sum256) start passes = before ++ (p, r) :: after) {pod : Pod}
    (hskip : Event.skipACLs pod ∈ r.events) :
    ∃ c earlier q between, p.input.config = some c ∧ before = earlier ++ q :: between ∧
      q.1.input.config = some c ∧ AppliedTo pod.uid q ∧
      ∀ x ∈ between, AppliedTo pod.uid x → x.1.input.config = some c := by
  have hmem : ∀ x ∈ before, x ∈ Runs.log (aclPass sum256) start passes := by
    intro x hx
    rw [hlog]
    exact List.mem_append_left _ hx
  have hlate' := hlate before (p, r) after hlog
  have hsince : ∀ c pods, Visits sum256 (p, r) c pods false → _ :=
    fun c pods hv => unchanged_since hstart hpatch hsep hlog hv pod.uid
  obtain ⟨stored,-,rfl⟩ := hashOrigin_before hstart hpatch hlog
  obtain ⟨c,pods,changed,hv,pod',hpod,hev⟩ := aclPass_event hskip
  obtain ⟨rfl,hreach,hskips⟩ := mem_visitACLPod_skip hev
  cases changed with
  | true =>
    rw [shouldSkipACLPod_changed] at hskips
    cases hskips
  | false =>
    obtain ⟨q,since,hlatest,hd,happlied⟩ := hsince c pods hv
    obtain ⟨⟨earlier,hsplit⟩,hstores,hnone⟩ := id hlatest
    have hq := hmem q (by simp [hsplit])
    -- the pod was reached by the pass that stored the hash, or by one since
    rcases hlate' c pods hv pod hpod hreach hskips q since hlatest with hreached | ⟨x,hx,hserved⟩
    · have happ := stored_applied (ofPass_of_mem hq).2 hstores (hall q hq) hreached
      exact ⟨c, earlier, q, since, hv.config, hsplit, hd, happ, happlied⟩
    · have hxmem := hmem x (by simp [hsplit,hx])
      have happ := served_applied (ofPass_of_mem hxmem).2 (hnone x hx) hserved
      obtain ⟨s₁,s₂,rfl⟩ := List.append_of_mem hx
      refine ⟨c, earlier ++ q :: s₁, x, s₂, hv.config, by simp [hsplit], happlied x hx happ, happ, ?_⟩
      intro y hy
      exact happlied y (by simp [hy])

end

def appConfig : ACLConfig where
  operatorPassword := "s3cret".toList
  metricsPassword := []
  metricsEnabled := false
  users := [⟨"app".toList, "pw".toList, ["~*".toList], "+@all".toList⟩]

/-- The SHA-256 digest of what is hashed for `appConfig`. -/
def appDigest : Digest := fun i => Fin.ofNat 256 ([74, 42, 40, 231, 177, 32, 254, 30, 243, 121, 196, 250, 115, 153, 213, 166, 218, 251, 69, 60, 184, 248, 255, 197, 40, 0, 134, 5, 142, 173, 186, 62].getD i.val 0)

def appPass (pods : List Pod) (now : Time) (applyOK : Pod → Bool) : ACLPass where
  others := OtherWrites.nothing _
  input := ⟨some appConfig, some pods, fun _ => now, applyOK, true⟩

theorem appPass_separates {passes : List ACLPass} (sum256 : Text → Digest)
    (h : ∀ p ∈ passes, p.input.config = some appConfig) : HashSeparates sum256 passes := by
  intro p hp q hq c d hc hd _
  rw [h p hp] at hc
  rw [h q hq] at hd
  exact (Option.some.inj hc).symm.trans (Option.some.inj hd)

example : (aclHash (fun _ => appDigest) appConfig) = "4a2a28e7b120fe1e".toList := by decide +kernel

def servedRun : List ACLPass :=
  [appPass [readyPod '1'] (10*second) (fun _ => true), appPass [readyPod '1'] (70*second) (fun _ => true)]

def servedFirst : ValkeyCluster × ACLRecord :=
  aclPass (fun _ => appDigest) (threeShards (fun _ => none))
    (appPass [readyPod '1'] (10*second) (fun _ => true))

def servedSecond : ValkeyCluster × ACLRecord :=
  aclPass (fun _ => appDigest) servedFirst.1 (appPass [readyPod '1'] (70*second) (fun _ => true))

theorem servedRun_applied :
    ∃ c earlier q between, some appConfig = some c ∧
      [(appPass [readyPod '1'] (10*second) (fun _ => true), servedFirst.2)] =
        earlier ++ q :: between ∧
      q.1.input.config = some c ∧ AppliedTo (readyPod '1').uid q ∧
      ∀ x ∈ between, AppliedTo (readyPod '1').uid x → x.1.input.config = some c := by
  have hconfig : ∀ p ∈ servedRun, p.input.config = some appConfig ∧
      p.input.listed = some [readyPod '1'] ∧ p.input.applyOK (readyPod '1') = true ∧
      p.input.patchOK = true := by
    intro p hp
    simp only [servedRun,List.mem_cons,List.not_mem_nil,or_false] at hp
    rcases hp with rfl | rfl <;> exact ⟨rfl, rfl, rfl, rfl⟩
  have hreach : ReachablePod (readyPod '1') := ⟨rfl, by decide⟩
  have hlog : Runs.log (aclPass (fun _ => appDigest)) (threeShards (fun _ => none)) servedRun =
      [(appPass [readyPod '1'] (10*second) (fun _ => true), servedFirst.2)] ++
      (appPass [readyPod '1'] (70*second) (fun _ => true), servedSecond.2) :: [] := rfl
  have hskip : servedSecond.2.events = [Event.skipACLs (readyPod '1')] := rfl
  refine skip_only_after_apply (by rfl) (fun p hp => (hconfig p hp).2.2.2)
    (appPass_separates _ (fun p hp => (hconfig p hp).1)) ?_ ?_ hlog (by rw [hskip]; simp)
  · intro e he _ pods hl pod hpod _
    obtain ⟨-,hlist,hok,-⟩ := hconfig e.1 (ofPass_of_mem he).1
    obtain rfl := Option.some.inj (hl.symm.trans hlist)
    obtain rfl := List.mem_singleton.mp hpod
    exact hok
  · intro past e rest hsplit c pods hv pod hpod _ _ q after hlatest
    obtain ⟨⟨earlier,rfl⟩,-,-⟩ := hlatest
    have he := hconfig e.1 (ofPass_of_mem (by rw [hsplit]; simp)).1
    have hq := hconfig q.1 (ofPass_of_mem (by rw [hsplit]; simp)).1
    obtain rfl := Option.some.inj (hv.listed.symm.trans he.2.1)
    obtain rfl := List.mem_singleton.mp hpod
    exact .inl ⟨_, hq.2.1, readyPod '1', by simp, rfl, hreach⟩

def halfRun : List ACLPass :=
  [appPass [readyPod '1', readyPod '2'] (10*second) (fun pod => pod = readyPod '1'),
    appPass [readyPod '1', readyPod '2'] (70*second) (fun _ => true)]

def halfFirst : ValkeyCluster × ACLRecord :=
  aclPass (fun _ => appDigest) (threeShards (fun _ => none))
    (appPass [readyPod '1', readyPod '2'] (10*second) (fun pod => pod = readyPod '1'))

def halfSecond : ValkeyCluster × ACLRecord :=
  aclPass (fun _ => appDigest) halfFirst.1
    (appPass [readyPod '1', readyPod '2'] (70*second) (fun _ => true))

theorem skipped_without_acls :
    ¬ ((∀ p ∈ halfRun, p.input.patchOK = true) → HashSeparates (fun _ => appDigest) halfRun →
      Runs.log (aclPass (fun _ => appDigest)) (threeShards (fun _ => none)) halfRun =
        [(appPass [readyPod '1', readyPod '2'] (10*second) (fun pod => pod = readyPod '1'), halfFirst.2),
          (appPass [readyPod '1', readyPod '2'] (70*second) (fun _ => true), halfSecond.2)] →
      Event.skipACLs (readyPod '2') ∈ halfSecond.2.events →
      AppliedTo (readyPod '2').uid
        (appPass [readyPod '1', readyPod '2'] (10*second) (fun pod => pod = readyPod '1'),
          halfFirst.2)) := by
  have hsep : HashSeparates (fun _ => appDigest) halfRun := by
    refine appPass_separates _ (fun p hp => ?_)
    simp only [halfRun,List.mem_cons,List.not_mem_nil,or_false] at hp
    rcases hp with rfl | rfl <;> rfl
  have hskip : halfSecond.2.events =
      [Event.skipACLs (readyPod '1'), Event.skipACLs (readyPod '2')] := rfl
  have hfirst : halfFirst.2.events =
      [Event.applyACLs (readyPod '1') true, Event.applyACLs (readyPod '2') false] := rfl
  intro h
  obtain ⟨pod,huid,hpod⟩ := h (by simp [halfRun,appPass]) hsep rfl (by rw [hskip]; simp)
  rw [hfirst] at hpod
  simp only [List.mem_cons,Event.applyACLs.injEq,List.not_mem_nil,or_false,and_true,
    Bool.true_eq_false,and_false] at hpod
  rw [hpod] at huid
  revert huid
  decide

end ValkeyOperator
