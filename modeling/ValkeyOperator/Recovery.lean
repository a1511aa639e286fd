import ValkeyOperator.ClusterObject

/-! Step 6 of a pass: pods that crash on a corrupted file get it removed by a Job. -/

set_option autoImplicit false

namespace ValkeyOperator
open TextScan

def crashLoopThreshold : Int := 3*minute

inductive RecoveryJob where
  | notFound
  | failed
  | found : (failures active succeeded : Int) → RecoveryJob
  deriving DecidableEq, Repr

/-- `deleteOK` also holds when the pod is gone already. -/
structure CrashInput where
  listed : Option (List Pod)
  now : Time
  job : Pod → RecoveryJob
  createOK : Pod → Bool
  deleteOK : Pod → Bool
  patchOK : Bool

def isCrashLoopBackOff (pod : Pod) : Bool :=
  pod.containers.any (fun cs => cs.name = "valkey".toList &&
    cs.waitingReason = some "CrashLoopBackOff".toList && cs.restartCount ≥ 3)

inductive RecoveryResult where
  | podDeleted | waiting | err
  deriving DecidableEq, Repr

def recoverCorruptedPod (i : CrashInput) (pod : Pod) (w : World) : World × RecoveryResult :=
  match i.job pod with
  | .failed => (w, .err)
  | .notFound =>
    if i.createOK pod then (w.emit (.createJob (.rdbRecovery pod.name)), .waiting) else (w, .err)
  | .found failures active succeeded =>
    if failures > 0 then (w, .err)
    else if active > 0 ∨ succeeded > 0 then
      if i.deleteOK pod then (w.emit (.deletePod pod), .podDeleted) else (w, .err)
    else (w, .waiting)

structure CrashScan where
  world : World
  annotationsChanged : Bool

def CrashScan.visit (i : CrashInput) (s : CrashScan) (pod : Pod) : CrashScan :=
  let key := AnnotationKey.crashSince pod.name
  if !isCrashLoopBackOff pod then
    match s.world.vc.annotations key with
    | none => s
    | some _ => ⟨s.world.annotate key none, true⟩
  else
    match s.world.vc.annotations key with
    | none => ⟨s.world.annotate key (some (formatRFC3339 i.now)), true⟩
    | some firstSeenStr =>
      match parseRFC3339 firstSeenStr with
      | none => s
      | some firstSeen =>
        if i.now - firstSeen < crashLoopThreshold then s
        else
          match recoverCorruptedPod i pod s.world with
          | (w, .podDeleted) => ⟨w.annotate key none, true⟩
          | (w, _) => { s with world := w }

/-- One patch against the object as it was before the loop. -/
def reconcileCrashLoopRecovery (i : CrashInput) (w : World) : World × Bool :=
  match i.listed with
  | none => (w, true)
  | some pods =>
    let scan := pods.foldl (CrashScan.visit i) ⟨w, false⟩
    if scan.annotationsChanged then (scan.world.patch i.patchOK w.vc, false)
    else (scan.world, false)

def Event.IsRecovery : Event → Prop
  | .createJob (.rdbRecovery _) => True
  | .deletePod _ => True
  | _ => False

/-- From `w` on, events of one kind and edits of annotations, in any order. -/
def Worked (keys : AnnotationKey → Prop) (acts : Event → Prop) (w w' : World) : Prop :=
  ∃ es : List Event, (∀ e ∈ es, acts e) ∧ Edit keys { w with log := w.log ++ es } w'

namespace Worked
variable {keys : AnnotationKey → Prop} {acts : Event → Prop} {w w' : World}

theorem refl (keys : AnnotationKey → Prop) (acts : Event → Prop) (w : World) :
    Worked keys acts w w :=
  ⟨[], by simp, by simpa using Edit.refl keys w⟩

theorem annotate (h : Worked keys acts w w') {k : AnnotationKey} (hk : ¬ keys k)
    (v : Option AnnotationValue) : Worked keys acts w (w'.annotate k v) := by
  obtain ⟨es,hes,hedit⟩ := h
  exact ⟨es, hes, hedit.trans (Edit.annotate hk v w')⟩

theorem emit (h : Worked keys acts w w') {e : Event} (he : acts e) :
    Worked keys acts w (w'.emit e) := by
  obtain ⟨es,hes,hedit⟩ := h
  refine ⟨es ++ [e], ?_, hedit.only, hedit.keeps, hedit.stored, ?_⟩
  · intro x hx
    rcases List.mem_append.mp hx with hx | hx
    · exact hes x hx
    · rw [List.mem_singleton.mp hx]
      exact he
  · simp [hedit.log]

theorem patched (h : Worked keys acts w w') (ok : Bool) : Frame keys acts w (w'.patch ok w.vc) := by
  obtain ⟨es,hes,hedit⟩ := h
  exact (Frame.append hes w).trans (Frame.editPatch hedit ok)

theorem frame (h : Worked keys acts w w') : Frame keys acts w w' := h.patched false

end Worked

def Event.Recovers (pod : Pod) (e : Event) : Prop :=
  e = .createJob (.rdbRecovery pod.name) ∨ e = .deletePod pod

theorem Event.Recovers.isRecovery {pod : Pod} {e : Event} (h : e.Recovers pod) : e.IsRecovery := by
  rcases h with rfl | rfl <;> trivial

theorem recoverCorruptedPod_worked {keys : AnnotationKey → Prop} {acts : Event → Prop}
    {w w' : World} (h : Worked keys acts w w') (i : CrashInput) {pod : Pod}
    (ha : ∀ e, e.Recovers pod → acts e) : Worked keys acts w (recoverCorruptedPod i pod w').1 := by
  unfold recoverCorruptedPod
  split
  · exact h
  · split
    · exact h.emit (ha _ (.inl rfl))
    · exact h
  · split_ifs
    · exact h
    · exact h.emit (ha _ (.inr rfl))
    · exact h
    · exact h

theorem visit_worked {keys : AnnotationKey → Prop} {acts : Event → Prop} {w : World} {s : CrashScan}
    (h : Worked keys acts w s.world) (i : CrashInput) {pod : Pod} (hk : ¬ keys (.crashSince pod.name))
    (ha : ∀ e, e.Recovers pod → acts e) : Worked keys acts w (s.visit i pod).world := by
  have hrec := recoverCorruptedPod_worked h i ha
  unfold CrashScan.visit
  dsimp only
  split
  · split
    · exact h
    · exact h.annotate hk none
  · split
    · exact h.annotate hk _
    · split
      · exact h
      · split
        · exact h
        · split
          · rename_i w₁ heq
            rw [heq] at hrec
            exact hrec.annotate hk none
          · rename_i w₁ _ _ heq
            rw [heq] at hrec
            exact hrec

theorem visits_worked {keys : AnnotationKey → Prop} {acts : Event → Prop} {w : World} {s : CrashScan}
    (h : Worked keys acts w s.world) (i : CrashInput) {pods : List Pod}
    (hk : ∀ pod ∈ pods, ¬ keys (.crashSince pod.name)) (ha : ∀ pod ∈ pods, ∀ e, e.Recovers pod → acts e) :
    Worked keys acts w (pods.foldl (CrashScan.visit i) s).world := by
  induction pods generalizing s with
  | nil => exact h
  | cons pod pods ih =>
    exact ih (visit_worked h i (hk pod (by simp)) (ha pod (by simp)))
      (fun p hp => hk p (by simp [hp])) (fun p hp => ha p (by simp [hp]))

theorem reconcileCrashLoopRecovery_frame {keys : AnnotationKey → Prop} {acts : Event → Prop}
    (hk : ∀ pod, ¬ keys (.crashSince pod)) (ha : ∀ e, e.IsRecovery → acts e)
    (i : CrashInput) (w : World) : Frame keys acts w (reconcileCrashLoopRecovery i w).1 := by
  unfold reconcileCrashLoopRecovery
  cases i.listed with
  | none => exact Frame.refl keys acts w
  | some pods =>
    have h : Worked keys acts w (pods.foldl (CrashScan.visit i) ⟨w, false⟩).world :=
      visits_worked (Worked.refl keys acts w) i (fun pod _ => hk pod.name)
        (fun _ _ e he => ha e he.isRecovery)
    dsimp only
    split
    · exact h.patched i.patchOK
    · exact h.frame

end ValkeyOperator
