import ValkeyOperator.AclTable
import ValkeyOperator.NodeReady
import ValkeyOperator.ShellText
import ValkeyOperator.Runs

/-!
The gate of a server that has just started: no redirections until a poll of ACL LIST shows an
account of an application, together with the passes of the operator that bring the accounts.
-/

set_option autoImplicit false

namespace ValkeyOperator
open TextScan
open Overwrite
open ShellText

def gateScan : List (Option Text) → Bool
  | [] => false
  | entry :: rest => if entry.any activeAppUser then true else gateScan rest

/-- `none` is a call that fails. -/
def gateCheckAclReady (reply : Option (List (Option Text))) : Bool :=
  match reply with
  | none => false
  | some entries => gateScan entries

/-- `timers` are the timers of the module that the server has still to fire, `created` is how
many it has handed out. -/
structure Gate where
  aclReady : Bool
  aclPollTimerID : Nat
  noRedirection : Bool
  timers : List Nat
  created : Nat
  deriving DecidableEq, Repr

def Gate.unloaded : Gate := ⟨false, 0, false, [], 0⟩

def Gate.createTimer (g : Gate) : Gate :=
  { g with aclPollTimerID := g.created + 1, timers := g.timers ++ [g.created + 1], created := g.created + 1 }

def Gate.redirect (g : Gate) : Gate := { g with aclReady := true, noRedirection := false }

def gateInit (reply : Option (List (Option Text))) (g : Gate) : Gate :=
  let g := { g with aclReady := false, noRedirection := true }
  if gateCheckAclReady reply then g.redirect else g.createTimer

def aclPollTimerCb (reply : Option (List (Option Text))) (g : Gate) : Gate :=
  let g := { g with aclPollTimerID := 0 }
  if gateCheckAclReady reply then g.redirect else g.createTimer

/-- The server takes a timer off its list before it calls back. -/
def Gate.fire (reply : Option (List (Option Text))) (g : Gate) : Gate :=
  match g.timers with
  | [] => g
  | _ :: rest => aclPollTimerCb reply { g with timers := rest }

structure GatedPod where
  table : AclTable
  gate : Gate

inductive GateStep
  | applyACLs (session : AclSession) (config : ACLConfig)
  | timer (listOK : Bool)

section
variable (s : AclServer)

def listReply (t : AclTable) (ok : Bool) : Option (List (Option Text)) :=
  if ok then some ((aclList s t).map some) else none

/-- What is put out is the error of a pass, or what a poll finds. -/
def gateStep (p : GatedPod) : GateStep → GatedPod × Bool
  | .applyACLs i c => ({ p with table := (applyACLsOnPod s i c p.table).1 }, (applyACLsOnPod s i c p.table).2)
  | .timer ok => ({ p with gate := p.gate.fire (listReply s p.table ok) }, gateCheckAclReady (listReply s p.table ok))

def loadedPod (t : AclTable) (ok : Bool) : GatedPod := ⟨t, gateInit (listReply s t ok) .unloaded⟩

end

structure Gate.Armed (g : Gate) : Prop where
  ready : g.aclReady = false
  flag : g.noRedirection = true
  timer : g.aclPollTimerID ≠ 0
  pending : g.timers = [g.aclPollTimerID]

structure Gate.Open (g : Gate) : Prop where
  ready : g.aclReady = true
  flag : g.noRedirection = false
  timer : g.aclPollTimerID = 0
  pending : g.timers = []

theorem gateInit_cases (reply : Option (List (Option Text))) :
    (gateCheckAclReady reply = true ∧ (gateInit reply .unloaded).Open) ∨
      (gateCheckAclReady reply = false ∧ (gateInit reply .unloaded).Armed) := by
  unfold gateInit
  cases hcheck : gateCheckAclReady reply with
  | true => exact .inl ⟨rfl, rfl, rfl, rfl, rfl⟩
  | false => exact .inr ⟨rfl, rfl, rfl, Nat.succ_ne_zero _, rfl⟩

theorem Gate.Armed.fire {g : Gate} (h : g.Armed) (reply : Option (List (Option Text))) :
    (gateCheckAclReady reply = true ∧ (g.fire reply).Open) ∨
      (gateCheckAclReady reply = false ∧ (g.fire reply).Armed) := by
  unfold Gate.fire
  rw [h.pending]
  dsimp only
  unfold aclPollTimerCb
  cases hcheck : gateCheckAclReady reply with
  | true => exact .inl ⟨rfl, rfl, rfl, rfl, rfl⟩
  | false => exact .inr ⟨rfl, h.ready, h.flag, Nat.succ_ne_zero _, rfl⟩

theorem Gate.Open.fire {g : Gate} (h : g.Open) (reply : Option (List (Option Text))) : g.fire reply = g := by
  unfold Gate.fire
  rw [h.pending]

theorem gateScan_eq (entries : List (Option Text)) : gateScan entries = entries.any (fun entry => entry.any activeAppUser) := by
  induction entries with
  | nil => rfl
  | cons entry rest ih =>
    rw [gateScan,List.any_cons,ih]
    cases entry.any activeAppUser <;> rfl

/-- How a server describes an account: on or off, and then words that are neither. -/
def Describes (s : AclServer) : Prop :=
  ∀ u : AclUser, ∃ rest, rest ≠ [] ∧ (∀ w ∈ rest, w ≠ "on".toList ∧ ' ' ∉ w) ∧
    s.describe u = [' '].intercalate ((if u .enabled then "on".toList else "off".toList) :: rest)

/-- An account that is on, or is called `on`. -/
def CountsAsApp (t : AclTable) (n : Text) : Prop :=
  n ≠ defaultUsername ∧ n ≠ operatorUsername ∧ ∃ u, t.user n = some u ∧ (u .enabled = true ∨ n = "on".toList)

def NoBlanks (t : AclTable) : Prop := ∀ n, (t.user n).isSome = true → ' ' ∉ n

section
variable {s : AclServer}

theorem entry_starts (account tail : Text) {n : Text} (haccount : ' ' ∉ account) (hn : ' ' ∉ n) :
    ("user ".toList ++ (account ++ [' '])).isPrefixOf ("user ".toList ++ (n ++ ' ' :: tail)) = true ↔ n = account := by
  constructor
  · intro h
    by_contra hne
    rw [not_prefix_entry hn haccount hne] at h
    cases h
  · rintro rfl
    rw [List.isPrefixOf_iff_prefix]
    exact ⟨tail, by simp⟩

theorem activeAppUser_entry (hd : Describes s) {n : Text} (hn : ' ' ∉ n) (u : AclUser) :
    activeAppUser ("user".toList ++ ' ' :: (n ++ ' ' :: s.describe u)) = true ↔
      n ≠ defaultUsername ∧ n ≠ operatorUsername ∧ (u .enabled = true ∨ n = "on".toList) := by
  obtain ⟨rest,hrest,hwords,hdescribe⟩ := hd u
  generalize hstate : (if u .enabled then "on".toList else "off".toList) = state at hdescribe
  have hon : state = "on".toList ↔ u .enabled = true := by
    rw [← hstate]
    cases u .enabled <;> decide
  have hblank : ' ' ∉ state := by
    rw [← hstate]
    cases u .enabled <;> decide
  have hentry : "user".toList ++ ' ' :: (n ++ ' ' :: s.describe u) =
      [' '].intercalate ("user".toList :: n :: state :: rest) := by
    rw [hdescribe,List.intercalate_cons_cons,List.intercalate_cons_cons]
    simp
  have hspaces : ∀ w ∈ n :: state :: rest, ' ' ∉ w := by
    simp only [List.forall_mem_cons]
    exact ⟨hn, hblank, fun w hw => (hwords w hw).2⟩
  have hinner : contains ("user".toList ++ ' ' :: (n ++ ' ' :: s.describe u)) " on ".toList = true ↔
      u .enabled = true ∨ n = "on".toList := by
    have hnone : "on".toList ∉ rest.dropLast := fun h => (hwords _ (List.mem_of_mem_dropLast h)).1 rfl
    have hword := inner_word (show ' ' ∉ "on".toList by decide) (show ' ' ∉ "user".toList by decide) hspaces
    rw [List.dropLast_cons_of_ne_nil (List.cons_ne_nil _ _),List.dropLast_cons_of_ne_nil hrest,List.mem_cons,
      List.mem_cons,or_iff_left hnone,eq_comm,eq_comm (a := "on".toList),hon] at hword
    rw [contains,decide_eq_true_eq,hentry,or_comm]
    exact hword
  have hlast : " on".toList.isSuffixOf ("user".toList ++ ' ' :: (n ++ ' ' :: s.describe u)) = false := by
    rw [← Bool.not_eq_true,List.isSuffixOf_iff_suffix,hentry]
    intro h
    have hword := (last_word (show ' ' ∉ "on".toList by decide) (show ' ' ∉ "user".toList by decide) hspaces).mp h
    rw [List.getLast?_cons_cons,List.getLast?_cons_of_ne_nil hrest] at hword
    exact (hwords _ (List.mem_of_getLast? hword)).1 rfl
  have hdefault := entry_starts defaultUsername (s.describe u) (by decide) hn
  have hoperator := entry_starts operatorUsername (s.describe u) (by decide) hn
  unfold activeAppUser
  rw [hlast,Bool.and_false,Bool.or_false]
  split_ifs with h₁ h₂
  · exact iff_of_false (by simp) (fun h => h.1 (hdefault.mp h₁))
  · exact iff_of_false (by simp) (fun h => h.2.1 (hoperator.mp h₂))
  · rw [hinner]
    exact ⟨fun h => ⟨fun hd => h₁ (hdefault.mpr hd), fun ho => h₂ (hoperator.mpr ho), h⟩, fun h => h.2.2⟩

theorem gateCheck_iff (hd : Describes s) {t : AclTable} (hnames : NoBlanks t) :
    gateCheckAclReady (listReply s t true) = true ↔ ∃ n, CountsAsApp t n := by
  have hcheck : gateCheckAclReady (listReply s t true) = (aclList s t).any activeAppUser := by
    have hscan : gateCheckAclReady (listReply s t true) = gateScan ((aclList s t).map some) := rfl
    rw [hscan,gateScan_eq,List.any_map]
    rfl
  rw [hcheck,List.any_eq_true]
  unfold aclList
  constructor
  · rintro ⟨entry,hmem,hactive⟩
    obtain ⟨n,hlisted,rfl⟩ := List.mem_map.mp hmem
    have hsome := (t.listed n).mp hlisted
    obtain ⟨u,hu⟩ := Option.isSome_iff_exists.mp hsome
    obtain ⟨hdefault,hoperator,hon⟩ := (activeAppUser_entry hd (hnames n hsome) _).mp hactive
    rw [hu] at hon
    exact ⟨n, hdefault, hoperator, u, hu, hon⟩
  · rintro ⟨n,hdefault,hoperator,u,hu,hon⟩
    have hsome : (t.user n).isSome = true := by simp [hu]
    refine ⟨_, List.mem_map_of_mem ((t.listed n).mpr hsome), ?_⟩
    refine (activeAppUser_entry hd (hnames n hsome) _).mpr ⟨hdefault, hoperator, ?_⟩
    rw [hu]
    exact hon

theorem runCommands_keeps {P : AclTable → Prop} {i : AclSession} {cs : List AclCommand}
    (hstep : ∀ c ∈ cs, ∀ t t', P t → execCommand s t c = some t' → P t') {t : AclTable} (h : P t) :
    P (runCommands s i cs t).1 := by
  induction cs generalizing t with
  | nil => exact h
  | cons c cs ih =>
    unfold runCommands
    split_ifs
    · exact h
    · cases hexec : execCommand s t c with
      | none => exact h
      | some t' =>
        exact ih (fun c' hc' => hstep c' (List.mem_cons_of_mem c hc')) (hstep c List.mem_cons_self t t' h hexec)

theorem applyACLsOnPod_keeps (P : AclTable → Prop) {i : AclSession} {c : ACLConfig}
    (hset : ∀ a ∈ accounts c, ∀ t t', P t → execCommand s t (.setuser a.1 a.2) = some t' → P t')
    (hdel : ∀ n, n ∉ desired c → ∀ t t', P t → execCommand s t (.deluser n) = some t' → P t')
    {t : AclTable} (h : P t) : P (applyACLsOnPod s i c t).1 := by
  have hsent : P (runCommands s i ((accounts c).map (fun a => AclCommand.setuser a.1 a.2)) t).1 := by
    refine runCommands_keeps ?_ h
    intro cmd hcmd
    obtain ⟨a,ha,rfl⟩ := List.mem_map.mp hcmd
    exact hset a ha
  unfold applyACLsOnPod
  split_ifs
  · exact h
  · dsimp only
    split
    · next t' hrun =>
      rw [hrun] at hsent
      exact hsent
    · next t' hrun =>
      rw [hrun] at hsent
      unfold removeStaleACLUsers
      split_ifs
      · exact hsent
      · refine runCommands_keeps ?_ hsent
        intro cmd hcmd
        obtain ⟨n,hn,rfl⟩ := List.mem_map.mp hcmd
        refine hdel n ?_
        simpa using (List.mem_filter.mp hn).2

theorem execCommand_noBlanks {t t' : AclTable} {cmd : AclCommand} (h : NoBlanks t)
    (hexec : execCommand s t cmd = some t') : NoBlanks t' := by
  cases cmd with
  | setuser name rules =>
    simp only [execCommand] at hexec
    split_ifs at hexec with hspaces
    obtain ⟨u,-,rfl⟩ := Option.map_eq_some_iff.mp hexec
    intro n hn
    by_cases hname : n = name
    · intro hblank
      refine hspaces (List.any_eq_true.mpr ⟨' ', hname ▸ hblank, by decide⟩)
    · refine h n ?_
      simpa [AclTable.set,hname] using hn
  | list => exact Option.some.inj hexec ▸ h
  | deluser name =>
    simp only [execCommand] at hexec
    split_ifs at hexec
    obtain rfl := Option.some.inj hexec
    intro n hn
    refine h n ?_
    by_cases hname : n = name
    · simp [AclTable.del,hname] at hn
    · simpa [AclTable.del,hname] using hn

theorem gateStep_noBlanks {p : GatedPod} (h : NoBlanks p.table) (step : GateStep) :
    NoBlanks (gateStep s p step).1.table := by
  cases step with
  | applyACLs i c =>
    exact applyACLsOnPod_keeps NoBlanks (fun _ _ _ _ ht he => execCommand_noBlanks ht he)
      (fun _ _ _ _ ht he => execCommand_noBlanks ht he) h
  | timer ok => exact h

/-- The gate has opened exactly when a poll so far has found an account. -/
structure GateFollows (loadFound : Bool) (past : List (GateStep × Bool)) (g : Gate) : Prop where
  found : (loadFound = true ∨ ∃ ok, (.timer ok, true) ∈ past) → g.Open
  unfound : ¬ (loadFound = true ∨ ∃ ok, (.timer ok, true) ∈ past) → g.Armed

theorem GateFollows.step {loadFound : Bool} {past : List (GateStep × Bool)} {p : GatedPod}
    (h : GateFollows loadFound past p.gate) (step : GateStep) :
    GateFollows loadFound (past ++ [(step, (gateStep s p step).2)]) (gateStep s p step).1.gate := by
  cases step with
  | applyACLs i c =>
    have hsame : (∃ ok, (.timer ok, true) ∈ past ++ [(.applyACLs i c, (gateStep s p (.applyACLs i c)).2)]) ↔
        ∃ ok, (.timer ok, true) ∈ past := by simp
    constructor
    · rw [hsame]
      exact h.found
    · rw [hsame]
      exact h.unfound
  | timer ok =>
    have hout : (gateStep s p (.timer ok)).2 = gateCheckAclReady (listReply s p.table ok) := rfl
    have hgate : (gateStep s p (.timer ok)).1.gate = p.gate.fire (listReply s p.table ok) := rfl
    rw [hout,hgate]
    by_cases hpast : loadFound = true ∨ ∃ ok, (.timer ok, true) ∈ past
    · have hopen := h.found hpast
      rw [hopen.fire]
      refine ⟨fun _ => hopen, fun hnone => absurd ?_ hnone⟩
      refine hpast.imp_right ?_
      rintro ⟨ok',hmem⟩
      exact ⟨ok', List.mem_append_left _ hmem⟩
    · have hload : loadFound = false := by
        cases loadFound with
        | true => exact absurd (.inl rfl) hpast
        | false => rfl
      rcases (h.unfound hpast).fire (listReply s p.table ok) with ⟨hcheck,hopen⟩ | ⟨hcheck,harmed⟩
      · rw [hcheck]
        exact ⟨fun _ => hopen, fun hnone => absurd (.inr ⟨ok, by simp⟩) hnone⟩
      · rw [hcheck]
        refine ⟨fun hfound => absurd ?_ hpast, fun _ => harmed⟩
        refine hfound.imp_right ?_
        rintro ⟨ok',hmem⟩
        exact ⟨ok', by simpa using hmem⟩

theorem gate_follows (t : AclTable) (ok : Bool) (steps : List GateStep) :
    GateFollows (gateCheckAclReady (listReply s t ok)) (Runs.log (gateStep s) (loadedPod s t ok) steps)
      (Runs.final (gateStep s) (loadedPod s t ok) steps).gate := by
  have hrun : Runs.Along (gateStep s) (fun _ _ => True) (loadedPod s t ok) steps :=
    Runs.along_of_forall _ (fun _ _ => trivial)
  refine hrun.final (fun past p => GateFollows _ past p.gate) ?_ (fun past p step h _ => h.step step)
  rcases gateInit_cases (listReply s t ok) with ⟨hcheck,hopen⟩ | ⟨hcheck,harmed⟩
  · exact ⟨fun _ => hopen, fun hnone => absurd (.inl hcheck) hnone⟩
  · exact ⟨fun hfound => by simp [hcheck] at hfound, fun _ => harmed⟩

theorem final_noBlanks {p : GatedPod} (h : NoBlanks p.table) (steps : List GateStep) :
    NoBlanks (Runs.final (gateStep s) p steps).table := by
  have hrun : Runs.Along (gateStep s) (fun _ _ => True) p steps := Runs.along_of_forall _ (fun _ _ => trivial)
  exact hrun.final (fun _ p => NoBlanks p.table) h (fun _ _ step hp _ => gateStep_noBlanks hp step)

theorem listReply_check (hd : Describes s) {t : AclTable} (hnames : NoBlanks t) (ok : Bool) :
    gateCheckAclReady (listReply s t ok) = true ↔ ok = true ∧ ∃ n, CountsAsApp t n := by
  cases ok with
  | false => exact iff_of_false (by simp [listReply,gateCheckAclReady]) (by simp)
  | true => rw [gateCheck_iff hd hnames,and_iff_right rfl]

/-- A configuration that turns the account on and says nothing that turns it off. -/
structure EnabledBy (s : AclServer) (c : ACLConfig) (n : Text) : Prop where
  named : n ∈ desired c
  rules : ∀ a ∈ accounts c, a.1 = n → "on".toList ∈ a.2 ∧ ∀ op ∈ a.2, ruleWrites s op .enabled ≠ some false

def Enabled (t : AclTable) (n : Text) : Prop := ∃ u, t.user n = some u ∧ u .enabled = true

theorem EnabledBy.keeps {c : ACLConfig} {n : Text} (h : EnabledBy s c n) {t : AclTable} (ht : Enabled t n)
    (i : AclSession) : Enabled (applyACLsOnPod s i c t).1 n := by
  refine applyACLsOnPod_keeps (fun t => Enabled t n) ?_ ?_ ht
  · intro a ha t t' ht hexec
    have huser := congrFun (execCommand_setuser hexec) n
    obtain ⟨u,hu,hon⟩ := ht
    by_cases hname : n = a.1
    · rw [upsert,if_pos hname] at huser
      refine ⟨_, huser, putAll_keeps (fun b => b = true) ?_ (by rw [hu]; exact hon)⟩
      intro w hw b hb
      obtain ⟨op,hop,rfl⟩ := List.mem_map.mp hw
      cases b with
      | true => rfl
      | false => exact absurd hb ((h.rules a ha hname.symm).2 op hop)
    · rw [upsert,if_neg hname] at huser
      exact ⟨u, huser.trans hu, hon⟩
  · intro m hm t t' ht hexec
    obtain ⟨u,hu,hon⟩ := ht
    simp only [execCommand] at hexec
    split_ifs at hexec
    obtain rfl := Option.some.inj hexec
    have hne : n ≠ m := fun heq => hm (heq ▸ h.named)
    exact ⟨u, by simpa [AclTable.del,hne] using hu, hon⟩

theorem mem_writesFor {accs : List (Text × List Text)} {n : Text} {w : Write Perm Bool} :
    w ∈ writesFor (accountWrites s accs) n ↔ ∃ a ∈ accs, a.1 = n ∧ ∃ op ∈ a.2, w = ruleWrites s op := by
  unfold writesFor accountWrites
  simp only [List.mem_flatMap,List.mem_map,List.mem_ite_nil_right,exists_exists_and_eq_and]
  constructor
  · rintro ⟨a,ha,hname,op,hop,rfl⟩
    exact ⟨a, ha, hname.symm, op, hop, rfl⟩
  · rintro ⟨a,ha,hname,op,hop,rfl⟩
    exact ⟨a, ha, hname.symm, op, hop, rfl⟩

theorem EnabledBy.sets {c : ACLConfig} {n : Text} (h : EnabledBy s c n) {i : AclSession} {t t' : AclTable}
    (hrun : applyACLsOnPod s i c t = (t', false)) : Enabled t' n := by
  have huser := applyACLsOnPod_user hrun n
  rw [if_pos h.named] at huser
  obtain ⟨a,ha,hname⟩ := List.mem_map.mp h.named
  have hon : ruleWrites s "on".toList ∈ writesFor (accountWrites s (accounts c)) n :=
    mem_writesFor.mpr ⟨a, ha, hname, _, (h.rules a ha hname).1, rfl⟩
  have hvalue : ruleWrites s "on".toList .enabled = some true := rfl
  refine ⟨_, huser, putAll_sets (fun b => b = true) ?_ hon hvalue _⟩
  intro w hw b hb
  obtain ⟨a',ha',hname',op,hop,rfl⟩ := mem_writesFor.mp hw
  cases b with
  | true => rfl
  | false => exact absurd hb ((h.rules a' ha' hname').2 op hop)

theorem enabled_run {n : Text} {p : GatedPod} (hp : Enabled p.table n) {steps : List GateStep}
    (h : ∀ i c, .applyACLs i c ∈ steps → EnabledBy s c n) : Enabled (Runs.final (gateStep s) p steps).table n := by
  induction steps generalizing p with
  | nil => exact hp
  | cons step steps ih =>
    refine ih ?_ (fun i c hmem => h i c (List.mem_cons_of_mem step hmem))
    cases step with
    | applyACLs i c => exact (h i c List.mem_cons_self).keeps hp i
    | timer ok => exact hp

/-- The first poll after a pass that has brought the account opens the gate, whatever faults the
passes in between have, and nothing that comes later closes it. -/
theorem gate_opens (hd : Describes s) {t : AclTable} (hnames : NoBlanks t) {n : Text}
    (hdefault : n ≠ defaultUsername) (hoperator : n ≠ operatorUsername) (ok : Bool)
    {before between : List GateStep} {i : AclSession} {c : ACLConfig} (hc : EnabledBy s c n)
    (hpass : (gateStep s (Runs.final (gateStep s) (loadedPod s t ok) before) (.applyACLs i c)).2 = false)
    (hbetween : ∀ i c, .applyACLs i c ∈ between → EnabledBy s c n) (later : List GateStep) :
    (Runs.final (gateStep s) (loadedPod s t ok)
      (before ++ .applyACLs i c :: (between ++ .timer true :: later))).gate.Open := by
  generalize hstart : loadedPod s t ok = start at hpass
  have hblanks : NoBlanks start.table := hstart ▸ hnames
  generalize hp : Runs.final (gateStep s) start before = p at hpass
  have hset : Enabled (gateStep s p (.applyACLs i c)).1.table n :=
    hc.sets (t := p.table) (i := i) (Prod.ext rfl hpass)
  have hpath : Runs.final (gateStep s) start (before ++ .applyACLs i c :: between) =
      Runs.final (gateStep s) (gateStep s p (.applyACLs i c)).1 between := by
    rw [Runs.final_append,hp]
    rfl
  have hon : Enabled (Runs.final (gateStep s) start (before ++ .applyACLs i c :: between)).table n := by
    rw [hpath]
    exact enabled_run hset hbetween
  obtain ⟨u,hu,htrue⟩ := hon
  have hcheck := (listReply_check hd (final_noBlanks hblanks (before ++ .applyACLs i c :: between)) true).mpr
    ⟨rfl, n, hdefault, hoperator, u, hu, .inl htrue⟩
  have hfollows := gate_follows (s := s) t ok (before ++ .applyACLs i c :: (between ++ .timer true :: later))
  rw [hstart] at hfollows
  refine hfollows.found (.inr ⟨true, Runs.mem_log_iff.mpr ⟨before ++ .applyACLs i c :: between, later, ?_, ?_⟩⟩)
  · simp
  · exact hcheck.symm

end

theorem demoHash_noBlank : ∀ h ∈ ["s3cret".toList, "n3w".toList, "0ld".toList].map demoHash, ' ' ∉ h := by
  decide +kernel

theorem demoServer_describes : Describes demoServer := by
  intro u
  refine ⟨demoWords u, List.append_ne_nil_of_right_ne_nil _ (List.cons_ne_nil _ _), ?_, rfl⟩
  unfold demoWords
  simp only [List.forall_mem_append,List.forall_mem_cons]
  refine ⟨⟨⟨⟨?_, by decide, List.forall_mem_nil _⟩, ?_⟩, ?_⟩, ?_, ?_, List.forall_mem_nil _⟩
  · cases u .nopass <;> decide
  · intro w hw
    obtain ⟨h,hh,rfl⟩ := List.mem_map.mp hw
    have hblank := demoHash_noBlank h (List.mem_of_mem_filter hh)
    have hhash : '#' ≠ 'o' ∧ ' ' ≠ '#' := by decide
    exact ⟨fun heq => hhash.1 (List.cons.inj heq).1, List.not_mem_cons_of_ne_of_not_mem hhash.2 hblank⟩
  · cases u .allKeys <;> decide
  · cases u .allChannels <;> decide
  · cases u (.command "get".toList) <;> decide

theorem initialTable_noBlanks : NoBlanks initialTable := by
  intro n hn
  by_cases hname : n = defaultUsername
  · rw [hname]
    decide
  · simp [initialTable,hname] at hn

theorem rotatedConfig_enables : EnabledBy demoServer rotatedConfig "app".toList :=
  ⟨by decide, by decide +kernel⟩

theorem rotatedConfig_opens :
    (Runs.final (gateStep demoServer) (loadedPod demoServer initialTable true)
      ([.timer true] ++ .applyACLs reachedPod rotatedConfig :: ([.timer false] ++ .timer true :: [.timer true]))).gate.Open :=
  gate_opens demoServer_describes initialTable_noBlanks (by decide) (by decide) true rotatedConfig_enables
    rfl (by simp) [.timer true]

end ValkeyOperator
