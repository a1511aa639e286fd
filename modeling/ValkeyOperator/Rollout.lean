import ValkeyOperator.ValkeyConf
import ValkeyOperator.Runs

/-!
How a changed spec gets to the pods. A pass writes valkey.conf into the ConfigMap in its first
step and the hash of it, without the credentials, into the pod template in its third. A pod takes
the template when it is created and the file when its server starts.
-/

set_option autoImplicit false

namespace ValkeyOperator
open TextScan Runs

def configHashInput (spec : ConfSpec) : Text := buildValkeyConfig spec [] [] []

theorem settings_newline {ps : List (String × Text)}
    (h : ∀ p ∈ ps, '\n' ∉ p.1.toList ∧ '\n' ∉ p.2) : ∀ l ∈ settings ps, '\n' ∉ l := by
  intro l hl
  obtain ⟨p,hp,rfl⟩ := List.mem_map.mp hl
  simp [setting,h p hp]

theorem heading_newline {title : String} (h : '\n' ∉ title.toList) : ∀ l ∈ heading title, '\n' ∉ l := by
  simp [heading,setting,h]

theorem baseLines_newline (spec : ConfSpec) : ∀ l ∈ baseLines spec, '\n' ∉ l := by
  unfold baseLines
  dsimp only
  generalize (if spec.port = 0 then 6379 else spec.port) = port
  generalize (if spec.clusterNodeTimeout = 0 then 5000 else spec.clusterNodeTimeout) = timeout
  simp only [List.forall_mem_append]
  refine ⟨⟨⟨⟨⟨⟨⟨⟨?_, by simp⟩, ?_⟩, ?_⟩, ?_⟩, ?_⟩, ?_⟩, ?_⟩, ?_⟩
  · exact settings_newline (by decide)
  · exact settings_newline (by simp [decimal_newline])
  · exact heading_newline (by decide)
  · exact settings_newline (by simp [decimal_newline])
  · exact heading_newline (by decide)
  · exact settings_newline (by decide)
  · exact heading_newline (by decide)
  · exact settings_newline (by decide)

theorem baseLines_length (spec spec' : ConfSpec) : (baseLines spec).length = (baseLines spec').length := by
  simp only [baseLines,settings,heading,List.length_append,List.length_map,List.length_cons,List.length_nil]

/-- The credentials stand in one place behind the same number of lines, so a file with them says
no more about the spec than the file without. -/
theorem configHashInput_iff {spec spec' : ConfSpec} : configHashInput spec = configHashInput spec' ↔
    ∀ operatorPassword metricsPassword appUsers,
      buildValkeyConfig spec operatorPassword metricsPassword appUsers =
        buildValkeyConfig spec' operatorPassword metricsPassword appUsers := by
  constructor
  · intro h op mp users
    simp only [configHashInput,buildValkeyConfig,operatorLines,metricsLines,printLines_append,if_pos,
      List.map_nil,List.append_assoc] at h
    obtain ⟨hbase,htail⟩ := printLines_append_inj (baseLines_newline spec) (baseLines_newline spec')
      (baseLines_length spec spec') h
    have htail' : printLines (structuredLines spec) ++ printLines (customLines spec) =
        printLines (structuredLines spec') ++ printLines (customLines spec') := htail
    simp only [buildValkeyConfig,printLines_append,List.append_assoc]
    rw [hbase,htail']
  · intro h
    exact h [] [] []

/-- The file as it is mounted, which lags behind the ConfigMap, and as the server has read it. -/
structure RolloutPod where
  template : Text
  mounted : Text
  running : Text

/-- The ConfigMap as it is, and every hash that the pod template has had. -/
structure Rollout where
  configMap : Option Text
  templates : List Text
  pods : Text → Option RolloutPod

def Rollout.empty : Rollout := ⟨none, [], fun _ => none⟩

/-- `reachesSts` is whether the pass gets to its third step and that succeeds. The other events
are of the StatefulSet controller and the kubelet. -/
inductive RolloutEvent
  | pass (i : ConfInput) (spec : ConfSpec) (reachesSts : Bool)
  | createPod (name template conf : Text)
  | deletePod (name : Text)
  | mount (name conf : Text)
  | restart (name conf : Text)

/-- A pod is made from a template that was written, a file is mounted as the ConfigMap has it by
then, and a server reads the file that is mounted. -/
def Mounting (s : Rollout) : RolloutEvent → Prop
  | .createPod _ template conf => template ∈ s.templates ∧ s.configMap = some conf
  | .mount _ conf => s.configMap = some conf
  | .restart name conf => ∀ pod, s.pods name = some pod → pod.mounted = conf
  | _ => True

def Rollout.updatePod (s : Rollout) (name : Text) (f : RolloutPod → RolloutPod) : Rollout :=
  { s with pods := Function.update s.pods name ((s.pods name).map f) }

section
variable (sum256 : Text → Digest)

def configMapHash (spec : ConfSpec) : Text :=
  ((List.finRange 32).take 16).flatMap (fun i => hexByte (sum256 (configHashInput spec) i))

/-- The output is the specs whose file is written. -/
def rolloutStep (s : Rollout) : RolloutEvent → Rollout × List ConfSpec
  | .pass i spec reachesSts =>
    match reconcileConfigMap i spec with
    | .error _ => (s, [])
    | .ok conf =>
      ({ s with
        configMap := some conf
        templates := if reachesSts then s.templates ++ [configMapHash sum256 spec] else s.templates }, [spec])
  | .createPod name template conf =>
    ({ s with pods := Function.update s.pods name (some ⟨template, conf, conf⟩) }, [])
  | .deletePod name => ({ s with pods := Function.update s.pods name none }, [])
  | .mount name conf => (s.updatePod name (fun pod => { pod with mounted := conf }), [])
  | .restart name conf => (s.updatePod name (fun pod => { pod with running := conf }), [])

def writtenSpecs (es : List RolloutEvent) : List ConfSpec :=
  (log (rolloutStep sum256) Rollout.empty es).flatMap (fun entry => entry.2)

def rollout (es : List RolloutEvent) : Rollout := final (rolloutStep sum256) Rollout.empty es

end

/-- The file of the `n`th spec that was written, with some credentials. -/
def WrittenFile (ws : List ConfSpec) (n : Nat) (file : Text) : Prop :=
  ∃ spec operatorPassword metricsPassword appUsers, ws[n]? = some spec ∧
    file = buildValkeyConfig spec operatorPassword metricsPassword appUsers

section
variable {sum256 : Text → Digest}

def WrittenHash (sum256 : Text → Digest) (ws : List ConfSpec) (n : Nat) (hash : Text) : Prop :=
  ∃ spec, ws[n]? = some spec ∧ hash = configMapHash sum256 spec

/-- The template of a pod is no newer than the file its server runs on, and that no newer than
the one that is mounted. -/
structure InOrder (sum256 : Text → Digest) (ws : List ConfSpec) (pod : RolloutPod) : Prop where
  versions : ∃ a b c, a ≤ b ∧ b ≤ c ∧ WrittenHash sum256 ws a pod.template ∧
    WrittenFile ws b pod.running ∧ WrittenFile ws c pod.mounted

structure RolloutInv (sum256 : Text → Digest) (ws : List ConfSpec) (s : Rollout) : Prop where
  configMap : ∀ conf ∈ s.configMap, ∃ n, n + 1 = ws.length ∧ WrittenFile ws n conf
  templates : ∀ hash ∈ s.templates, ∃ n, WrittenHash sum256 ws n hash
  pods : ∀ name, ∀ pod ∈ s.pods name, InOrder sum256 ws pod

theorem at_append {ws : List ConfSpec} {n : Nat} {spec : ConfSpec} (h : ws[n]? = some spec) (ws' : List ConfSpec) :
    (ws ++ ws')[n]? = some spec := by
  obtain ⟨hn,-⟩ := List.getElem?_eq_some_iff.mp h
  rw [List.getElem?_append_left hn]
  exact h

theorem at_lt {ws : List ConfSpec} {n : Nat} {spec : ConfSpec} (h : ws[n]? = some spec) : n < ws.length :=
  (List.getElem?_eq_some_iff.mp h).1

theorem WrittenFile.append {ws : List ConfSpec} {n : Nat} {file : Text} (h : WrittenFile ws n file)
    (ws' : List ConfSpec) : WrittenFile (ws ++ ws') n file := by
  obtain ⟨spec,op,mp,users,hspec,hfile⟩ := h
  exact ⟨spec, op, mp, users, at_append hspec ws', hfile⟩

theorem WrittenHash.append {ws : List ConfSpec} {n : Nat} {hash : Text} (h : WrittenHash sum256 ws n hash)
    (ws' : List ConfSpec) : WrittenHash sum256 (ws ++ ws') n hash := by
  obtain ⟨spec,hspec,hhash⟩ := h
  exact ⟨spec, at_append hspec ws', hhash⟩

theorem InOrder.append {ws : List ConfSpec} {pod : RolloutPod} (h : InOrder sum256 ws pod)
    (ws' : List ConfSpec) : InOrder sum256 (ws ++ ws') pod := by
  obtain ⟨a,b,c,hab,hbc,ha,hb,hc⟩ := h.versions
  exact ⟨a, b, c, hab, hbc, ha.append ws', hb.append ws', hc.append ws'⟩

theorem RolloutInv.newest {ws : List ConfSpec} {s : Rollout} (h : RolloutInv sum256 ws s) {conf : Text}
    (hconf : s.configMap = some conf) {n : Nat} {spec : ConfSpec} (hn : ws[n]? = some spec) :
    ∃ m, n ≤ m ∧ WrittenFile ws m conf := by
  obtain ⟨m,hm,hfile⟩ := h.configMap conf hconf
  have hlt := at_lt hn
  exact ⟨m, by omega, hfile⟩

theorem reconcileConfigMap_file {i : ConfInput} {spec : ConfSpec} {conf : Text}
    (h : reconcileConfigMap i spec = .ok conf) :
    ∃ operatorPassword metricsPassword appUsers,
      conf = buildValkeyConfig spec operatorPassword metricsPassword appUsers := by
  cases hc : resolveConf i spec with
  | error err =>
    rw [reconcileConfigMap,hc] at h
    cases h
  | ok c => exact ⟨c.operatorPassword, c.metricsPassword, c.users, reconcileConfigMap_ok hc h⟩

theorem RolloutInv.pass {ws : List ConfSpec} {s : Rollout} (h : RolloutInv sum256 ws s) (i : ConfInput)
    (spec : ConfSpec) (reachesSts : Bool) :
    RolloutInv sum256 (ws ++ (rolloutStep sum256 s (.pass i spec reachesSts)).2)
      (rolloutStep sum256 s (.pass i spec reachesSts)).1 := by
  simp only [rolloutStep]
  split
  · rw [List.append_nil]
    exact h
  · next conf hconf =>
    have hlast : (ws ++ [spec])[ws.length]? = some spec := by simp
    refine ⟨?_, ?_, fun name pod hpod => (h.pods name pod hpod).append _⟩
    · intro file hfile
      cases hfile
      obtain ⟨op,mp,users,hfile⟩ := reconcileConfigMap_file hconf
      exact ⟨ws.length, by simp, spec, op, mp, users, hlast, hfile⟩
    · have hold : ∀ hash ∈ s.templates, ∃ n, WrittenHash sum256 (ws ++ [spec]) n hash := by
        intro hash hhash
        obtain ⟨n,hn⟩ := h.templates hash hhash
        exact ⟨n, hn.append _⟩
      dsimp only
      split_ifs
      · rw [List.forall_mem_append,List.forall_mem_singleton]
        exact ⟨hold, ws.length, spec, hlast, rfl⟩
      · exact hold

theorem RolloutInv.pods_update {ws : List ConfSpec} {s : Rollout} (h : RolloutInv sum256 ws s) (name : Text)
    {pod' : Option RolloutPod} (hpod' : ∀ pod ∈ pod', InOrder sum256 ws pod) :
    RolloutInv sum256 ws { s with pods := Function.update s.pods name pod' } := by
  refine ⟨h.configMap, h.templates, fun other pod hpod => ?_⟩
  by_cases hname : other = name
  · subst hname
    dsimp only at hpod
    rw [Function.update_self] at hpod
    exact hpod' pod hpod
  · dsimp only at hpod
    rw [Function.update_of_ne hname] at hpod
    exact h.pods other pod hpod

theorem RolloutInv.created {ws : List ConfSpec} {s : Rollout} (h : RolloutInv sum256 ws s) {template conf : Text}
    (htemplate : template ∈ s.templates) (hconf : s.configMap = some conf) :
    InOrder sum256 ws ⟨template, conf, conf⟩ := by
  obtain ⟨n,spec,hspec,hhash⟩ := h.templates template htemplate
  obtain ⟨m,hnm,hfile⟩ := h.newest hconf hspec
  exact ⟨n, m, m, hnm, Nat.le_refl m, ⟨spec, hspec, hhash⟩, hfile, hfile⟩

theorem RolloutInv.updatePod {ws : List ConfSpec} {s : Rollout} (h : RolloutInv sum256 ws s) (name : Text)
    {f : RolloutPod → RolloutPod}
    (hf : ∀ pod, s.pods name = some pod → InOrder sum256 ws pod → InOrder sum256 ws (f pod)) :
    RolloutInv sum256 ws (s.updatePod name f) := by
  refine h.pods_update name (fun pod hpod => ?_)
  obtain ⟨before,hbefore,rfl⟩ := Option.map_eq_some_iff.mp hpod
  exact hf before hbefore (h.pods name before hbefore)

theorem RolloutInv.mounts {ws : List ConfSpec} {s : Rollout} (h : RolloutInv sum256 ws s) {conf : Text}
    (hconf : s.configMap = some conf) {pod : RolloutPod} (hpod : InOrder sum256 ws pod) :
    InOrder sum256 ws { pod with mounted := conf } := by
  obtain ⟨a,b,c,hab,hbc,ha,hb,spec,op,mp,users,hspec,-⟩ := hpod.versions
  obtain ⟨m,hcm,hfile⟩ := h.newest hconf hspec
  exact ⟨a, b, m, hab, Nat.le_trans hbc hcm, ha, hb, hfile⟩

theorem InOrder.restarted {ws : List ConfSpec} {pod : RolloutPod} (h : InOrder sum256 ws pod) :
    InOrder sum256 ws { pod with running := pod.mounted } := by
  obtain ⟨a,b,c,hab,hbc,ha,hb,hc⟩ := h.versions
  exact ⟨a, c, c, Nat.le_trans hab hbc, Nat.le_refl c, ha, hc, hc⟩

theorem RolloutInv.step {ws : List ConfSpec} {s : Rollout} (h : RolloutInv sum256 ws s) {e : RolloutEvent}
    (he : Mounting s e) :
    RolloutInv sum256 (ws ++ (rolloutStep sum256 s e).2) (rolloutStep sum256 s e).1 := by
  cases e with
  | pass i spec reachesSts => exact h.pass i spec reachesSts
  | createPod name template conf =>
    rw [rolloutStep,List.append_nil]
    refine h.pods_update name (fun pod hpod => ?_)
    cases hpod
    exact h.created he.1 he.2
  | deletePod name =>
    rw [rolloutStep,List.append_nil]
    exact h.pods_update name (fun pod hpod => by cases hpod)
  | mount name conf =>
    rw [rolloutStep,List.append_nil]
    exact h.updatePod name (fun pod _ hpod => h.mounts he hpod)
  | restart name conf =>
    rw [rolloutStep,List.append_nil]
    refine h.updatePod name (fun pod hpod hin => ?_)
    rw [← he pod hpod]
    exact hin.restarted

theorem rollout_inv {es : List RolloutEvent} (hrun : Along (rolloutStep sum256) Mounting Rollout.empty es) :
    RolloutInv sum256 (writtenSpecs sum256 es) (rollout sum256 es) := by
  have hempty : RolloutInv sum256 [] Rollout.empty := by
    refine ⟨?_, ?_, ?_⟩
    all_goals simp [Rollout.empty]
  refine hrun.final (fun past s => RolloutInv sum256 (past.flatMap (fun entry => entry.2)) s) hempty ?_
  intro past s e hinv he
  rw [List.flatMap_append,List.flatMap_singleton]
  exact hinv.step he

/-- No spec is left and taken up again later. -/
def NoReturn (ws : List ConfSpec) : Prop :=
  ∀ (a b c : Nat) (first between last : ConfSpec), a ≤ b → b ≤ c → ws[a]? = some first → ws[b]? = some between →
    ws[c]? = some last → configHashInput first = configHashInput last →
    configHashInput between = configHashInput last

/-- A pod whose template carries the hash of the spec that was written last runs on the file of
that spec, up to the credentials, whatever passes were cut short and however pods were created,
restarted and updated in between. -/
theorem rollout_reached (sum256 : Text → Digest) {es : List RolloutEvent}
    (hrun : Along (rolloutStep sum256) Mounting Rollout.empty es)
    (hdistinct : ∀ a ∈ writtenSpecs sum256 es, ∀ b ∈ writtenSpecs sum256 es,
      configMapHash sum256 a = configMapHash sum256 b → configHashInput a = configHashInput b)
    (hreturn : NoReturn (writtenSpecs sum256 es)) {spec : ConfSpec}
    (hlast : (writtenSpecs sum256 es).getLast? = some spec) {name : Text} {pod : RolloutPod}
    (hpod : (rollout sum256 es).pods name = some pod)
    (htemplate : pod.template = configMapHash sum256 spec) :
    ∃ operatorPassword metricsPassword appUsers,
      pod.running = buildValkeyConfig spec operatorPassword metricsPassword appUsers := by
  obtain ⟨a,b,c,hab,-,⟨old,hold,hhash⟩,⟨ran,op,mp,users,hran,hfile⟩,-⟩ :=
    ((rollout_inv hrun).pods name pod hpod).versions
  generalize writtenSpecs sum256 es = ws at *
  have hspec : ws[ws.length - 1]? = some spec := by
    rw [← List.getLast?_eq_getElem?]
    exact hlast
  have hb := at_lt hran
  have hsame : configHashInput old = configHashInput spec :=
    hdistinct old (List.mem_of_getElem? hold) spec (List.mem_of_getElem? hspec) (hhash.symm.trans htemplate)
  have hbetween := hreturn a b (ws.length - 1) old ran spec hab (by omega) hold hran hspec hsame
  exact ⟨op, mp, users, hfile.trans (configHashInput_iff.mp hbetween op mp users)⟩

end

def oneDigest : Text → Digest := fun _ => appDigest

def rotatedUnder : List RolloutEvent :=
  [.pass (appSecrets "monday".toList) appSpec true,
    .createPod "vk-0".toList (configMapHash oneDigest appSpec) (appConf "monday".toList),
    .pass (appSecrets "tuesday".toList) appSpec true, .mount "vk-0".toList (appConf "tuesday".toList)]

def rotatedPod : RolloutPod := ⟨configMapHash oneDigest appSpec, appConf "tuesday".toList, appConf "monday".toList⟩

theorem rotatedUnder_reached :
    (rollout oneDigest rotatedUnder).pods "vk-0".toList = some rotatedPod ∧
      ∃ operatorPassword metricsPassword appUsers,
        rotatedPod.running = buildValkeyConfig appSpec operatorPassword metricsPassword appUsers := by
  have hwritten : writtenSpecs oneDigest rotatedUnder = [appSpec, appSpec] := rfl
  have hmem : ∀ a ∈ writtenSpecs oneDigest rotatedUnder, a = appSpec := by
    simp [hwritten]
  have hpod : (rollout oneDigest rotatedUnder).pods "vk-0".toList = some rotatedPod := rfl
  have hlast : (writtenSpecs oneDigest rotatedUnder).getLast? = some appSpec := by
    rw [hwritten]
    rfl
  have htemplate : rotatedPod.template = configMapHash oneDigest appSpec := rfl
  have hrun : Along (rolloutStep oneDigest) Mounting Rollout.empty rotatedUnder :=
    ⟨trivial, ⟨List.mem_cons_self, rfl⟩, trivial, rfl, trivial⟩
  refine ⟨hpod, rollout_reached oneDigest hrun ?_ ?_ hlast hpod htemplate⟩
  · intro a ha b hb _
    rw [hmem a ha,hmem b hb]
  · intro a b c first between last _ _ _ hbetween hlast _
    rw [hmem between (List.mem_of_getElem? hbetween),hmem last (List.mem_of_getElem? hlast)]

end ValkeyOperator
