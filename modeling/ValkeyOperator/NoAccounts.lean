import ValkeyOperator.AclText
import ValkeyOperator.Gate
import ValkeyOperator.Unready

/-!
Clusters without accounts for applications. The readiness probe and the gate both wait for an
account besides the default and the operator's, and a pass forms the cluster out of Ready pods.
-/

set_option autoImplicit false

namespace ValkeyOperator
open TextScan Runs

/-- A server matches a directive without regard to case. -/
def IsUserWord (word : Text) : Prop := word.map Char.toLower = "user".toList

instance (word : Text) : Decidable (IsUserWord word) := inferInstanceAs (Decidable (_ = _))

/-- No account comes out of the spec, be it as an application, for metrics or as text. -/
structure NoAccounts (spec : ConfSpec) : Prop where
  users : spec.aclUsers = []
  metrics : spec.metrics.any (fun m => m.enabled) = false
  custom : Starts (fun word => ¬ IsUserWord word) spec.customConfig
  policy : ∀ cfg, spec.config = some cfg → Starts (fun word => ¬ IsUserWord word) (policyLine cfg)

def lineAccount : List Text → Option Text
  | word :: name :: _ => if IsUserWord word then some name else none
  | _ => none

def confAccounts (conf : Text) : List Text := (tokenLines conf).filterMap lineAccount

def Builtin (n : Text) : Prop := n = defaultUsername ∨ n = operatorUsername

def BuiltinOnly (t : AclTable) : Prop := ∀ n, (t.user n).isSome = true → Builtin n

section
variable {i : ConfInput} {spec : ConfSpec} {c : ACLConfig}

theorem NoAccounts.resolveMetrics (h : NoAccounts spec) : resolveMetrics i spec = .ok [] := by
  have hmetrics := h.metrics
  unfold ValkeyOperator.resolveMetrics
  cases hm : spec.metrics with
  | none => rfl
  | some m =>
    rw [hm] at hmetrics
    have hoff : m.enabled = false := hmetrics
    simp [hoff]

theorem NoAccounts.resolveACLConfig (h : NoAccounts spec) (hc : resolveACLConfig i spec = .ok c) :
    c.users = [] ∧ c.metricsPassword = [] := by
  unfold ValkeyOperator.resolveACLConfig at hc
  rw [h.resolveMetrics,h.users] at hc
  obtain ⟨op,-,hc⟩ := bind_ok hc
  obtain ⟨users,husers,hc⟩ := bind_ok hc
  obtain ⟨mp,hmp,hc⟩ := bind_ok hc
  cases husers
  cases hmp
  cases hc
  exact ⟨rfl, rfl⟩

theorem NoAccounts.resolveConf (h : NoAccounts spec) (hc : resolveConf i spec = .ok c) :
    c.users = [] ∧ c.metricsPassword = [] ∧ '\n' ∉ c.operatorPassword := by
  unfold ValkeyOperator.resolveConf at hc
  rw [h.resolveMetrics,h.users] at hc
  obtain ⟨op,-,hc⟩ := bind_ok hc
  obtain ⟨_,hvalid,hc⟩ := bind_ok hc
  obtain ⟨users,husers,hc⟩ := bind_ok hc
  obtain ⟨mp,hmp,hc⟩ := bind_ok hc
  cases husers
  cases hmp
  cases hc
  refine ⟨rfl, rfl, ?_⟩
  unfold validatePassword at hvalid
  split_ifs at hvalid with hcontrol
  · cases hvalid
  · exact fun hnewline => hcontrol (.inl hnewline)

end

theorem lineAccount_none {x : List Text} (h : ∀ word ∈ x.head?, ¬ IsUserWord word) : lineAccount x = none := by
  unfold lineAccount
  split
  · next word name rest => exact if_neg (h word rfl)
  · rfl

theorem starts_accounts {ls : List Text} (h : ∀ l ∈ ls, Starts (fun word => ¬ IsUserWord word) l) :
    (ls.flatMap tokenLines).filterMap lineAccount = [] := by
  rw [List.filterMap_eq_nil_iff]
  intro x hx
  obtain ⟨l,hl,hx⟩ := List.mem_flatMap.mp hx
  exact lineAccount_none (h l hl x hx)

theorem confNames_notUser : ∀ name ∈ confNames, ¬ IsUserWord name.toList := by decide

theorem customLines_starts {spec : ConfSpec} (h : Starts (fun word => ¬ IsUserWord word) spec.customConfig) :
    ∀ l ∈ customLines spec, Starts (fun word => ¬ IsUserWord word) l := by
  unfold customLines
  split_ifs
  · exact List.forall_mem_nil _
  · rw [List.forall_mem_append,List.forall_mem_singleton]
    exact ⟨heading_starts confNames_notUser (by decide), h⟩

/-- The name of an account stands before everything that the password could add to its line. -/
theorem lineAccount_setting {name : String} (hname : IsToken name.toList) {value : Text} (hvalue : '\n' ∉ value)
    {word : Text} (hword : IsToken word) (rest : Text) (heq : value = word ++ ' ' :: rest) :
    ∀ n ∈ (tokenLines (setting name value)).filterMap lineAccount, n = word := by
  subst heq
  rw [tokenLines_setting hname hvalue,fields_token_cons hword (by decide)]
  intro n hn
  obtain ⟨x,hx,hlineaccount⟩ := List.mem_filterMap.mp hn
  rw [List.mem_singleton.mp hx,lineAccount] at hlineaccount
  split_ifs at hlineaccount
  exact (Option.some.inj hlineaccount).symm

theorem operatorLines_accounts {password : Text} (h : '\n' ∉ password) :
    ∀ n ∈ ((operatorLines password).flatMap tokenLines).filterMap lineAccount, Builtin n := by
  unfold operatorLines
  split_ifs
  · simp
  · have hother : ∀ (name : String) (value : Text), IsToken name.toList → '\n' ∉ value →
        ¬ IsUserWord name.toList → (tokenLines (setting name value)).filterMap lineAccount = [] := by
      intro name value hname hvalue hne
      rw [tokenLines_setting hname hvalue,List.filterMap_cons,lineAccount_none]
      · rfl
      · intro word hword
        exact Option.some.inj hword ▸ hne
    have hauth := hother "masterauth" password (by decide +kernel) h (by decide)
    have hmaster := hother "masteruser" "operator".toList (by decide +kernel) (by decide) (by decide)
    have hline : '\n' ∉ "operator on >".toList ++ password ++ " ~* &* +@all".toList := by
      simp [h]
    intro n hn
    simp only [settings,List.map_cons,List.map_nil,List.flatMap_cons,List.flatMap_nil,List.filterMap_append,
      List.mem_append,hauth,hmaster,List.append_nil] at hn
    rcases hn with hn | hn | hn | hn
    · cases hn
    · cases hn
    · exact .inl (lineAccount_setting (by decide +kernel) (by decide) (by decide +kernel) "off".toList rfl n hn)
    · exact .inr (lineAccount_setting (by decide +kernel) hline (by decide +kernel)
        ("on >".toList ++ password ++ " ~* &* +@all".toList) rfl n hn)

theorem NoAccounts.confAccounts {i : ConfInput} {spec : ConfSpec} {conf : Text} (h : NoAccounts spec)
    (hconf : reconcileConfigMap i spec = .ok conf) : ∀ n ∈ confAccounts conf, Builtin n := by
  cases hc : ValkeyOperator.resolveConf i spec with
  | error err =>
    rw [reconcileConfigMap,hc] at hconf
    cases hconf
  | ok c =>
    obtain ⟨husers,hmetrics,hpassword⟩ := h.resolveConf hc
    intro n hn
    have hbase := starts_accounts (baseLines_starts confNames_notUser spec)
    have hstructured := starts_accounts ((structuredLines_starts confNames_notUser spec).mpr h.policy)
    have hcustom := starts_accounts (customLines_starts h.custom)
    rw [reconcileConfigMap_ok hc hconf,ValkeyOperator.confAccounts,conf_lines,husers,hmetrics] at hn
    simp only [metricsLines,if_true,List.flatMap_nil,List.append_nil,List.filterMap_append,hbase,
      List.nil_append,hstructured,hcustom,List.mem_append] at hn
    rcases hn with hn | hn
    · exact operatorLines_accounts hpassword n hn
    · cases hn

structure Fleet where
  pods : Text → Option GatedPod
  ready : Text → Bool

def Fleet.empty : Fleet := ⟨fun _ => none, fun _ => false⟩

/-- A server starts with the accounts of its file, goes on as in `GateStep`, or is probed; or a
pass runs over the object as stored. -/
inductive FleetEvent
  | boot (name : Text) (table : AclTable) (listOK : Bool)
  | server (name : Text) (step : GateStep)
  | probe (name : Text) (replication clusterInfo : Option Text) (listOK : Bool)
  | pass (input : PassInput) (stored : ValkeyCluster)

section
variable (s : AclServer) (sum256 : Text → Digest)

/-- Answer of the readiness probe: the first line that valkey-cli prints is `1`. -/
def probed (pod : GatedPod) (replication clusterInfo : Option Text) (listOK : Bool) : Bool :=
  (operatorNodeReady ⟨replication, listReply s pod.table listOK, clusterInfo⟩).1 = 1

def Fleet.setPod (f : Fleet) (name : Text) (pod : Option GatedPod) : Fleet :=
  { f with pods := Function.update f.pods name pod }

def Fleet.setReady (f : Fleet) (name : Text) (ready : Bool) : Fleet :=
  { f with ready := Function.update f.ready name ready }

/-- What is put out is the log of a pass. -/
def fleetStep (f : Fleet) : FleetEvent → Fleet × List Event
  | .boot name table listOK => ((f.setPod name (some (loadedPod s table listOK))).setReady name false, [])
  | .server name step => (f.setPod name ((f.pods name).map (fun pod => (gateStep s pod step).1)), [])
  | .probe name replication clusterInfo listOK =>
    (f.setReady name ((f.pods name).any (fun pod => probed s pod replication clusterInfo listOK)), [])
  | .pass input stored => (f, (reconcile sum256 input stored).world.log)

end

/-- Every file and every pass over the accounts comes from a spec without accounts; a server starts
with no account but the default and those that its file names; and the pods that are listed have the
probe, so that one is Ready only if its probe has said so. -/
def FleetLaw (f : Fleet) : FleetEvent → Prop
  | .boot _ table _ => ∃ i spec conf, NoAccounts spec ∧ reconcileConfigMap i spec = .ok conf ∧
      ∀ n, (table.user n).isSome = true → n = defaultUsername ∨ n ∈ confAccounts conf
  | .server _ (.applyACLs _ c) => ∃ i spec, NoAccounts spec ∧ resolveACLConfig i spec = .ok c
  | .server _ (.timer _) => True
  | .probe .. => True
  | .pass input _ => ∀ pods, input.topology.listed = some pods →
      ∀ pod ∈ pods, isPodReady pod = true → f.ready pod.name = true

section
variable {s : AclServer} {sum256 : Text → Digest}

theorem BuiltinOnly.noBlanks {t : AclTable} (h : BuiltinOnly t) : NoBlanks t := by
  intro n hn
  rcases h n hn with rfl | rfl
  · decide
  · decide

theorem BuiltinOnly.check (hd : Describes s) {t : AclTable} (h : BuiltinOnly t) (listOK : Bool) :
    gateCheckAclReady (listReply s t listOK) = false := by
  rw [Bool.eq_false_iff]
  intro hcheck
  obtain ⟨-,n,hdefault,hoperator,u,hu,-⟩ := (listReply_check hd h.noBlanks listOK).mp hcheck
  have hbuiltin := h n (by simp [hu])
  exact hbuiltin.elim hdefault hoperator

theorem BuiltinOnly.set {t : AclTable} (h : BuiltinOnly t) {name : Text} (hname : Builtin name) (u : AclUser) :
    BuiltinOnly (t.set name u) := by
  intro n hn
  by_cases heq : n = name
  · exact heq ▸ hname
  · exact h n (by simpa [AclTable.set,heq] using hn)

theorem BuiltinOnly.del {t : AclTable} (h : BuiltinOnly t) (name : Text) : BuiltinOnly (t.del name) := by
  intro n hn
  by_cases heq : n = name
  · simp [AclTable.del,heq] at hn
  · exact h n (by simpa [AclTable.del,heq] using hn)

theorem BuiltinOnly.applyACLs {t : AclTable} (h : BuiltinOnly t) {c : ACLConfig} (husers : c.users = [])
    (hmetrics : c.metricsPassword = []) (i : AclSession) : BuiltinOnly (applyACLsOnPod s i c t).1 := by
  refine applyACLsOnPod_keeps BuiltinOnly ?_ ?_ h
  · intro a ha t t' ht hexec
    have hname : Builtin a.1 := by
      simp only [accounts,husers,hmetrics,if_true,List.map_nil,List.append_nil,List.mem_cons,
        List.not_mem_nil,or_false] at ha
      rcases ha with rfl | rfl
      · exact .inl rfl
      · exact .inr rfl
    simp only [execCommand] at hexec
    split_ifs at hexec
    obtain ⟨u,-,rfl⟩ := Option.map_eq_some_iff.mp hexec
    exact ht.set hname u
  · intro n _ t t' ht hexec
    simp only [execCommand] at hexec
    split_ifs at hexec
    obtain rfl := Option.some.inj hexec
    exact ht.del n

theorem operatorNodeReady_check {i : ReadyCalls} (h : (operatorNodeReady i).1 = 1) :
    gateCheckAclReady i.aclList = true := by
  obtain ⟨rinfo,entries,cinfo,-,hentries,-,hscan,-,-⟩ := operatorNodeReady_inv h
  rw [hentries]
  exact (gateScan_eq entries).trans hscan

structure Unopened (pod : GatedPod) : Prop where
  accounts : BuiltinOnly pod.table
  gate : pod.gate.Armed

theorem Unopened.load (hd : Describes s) {t : AclTable} (h : BuiltinOnly t) (listOK : Bool) :
    Unopened (loadedPod s t listOK) := by
  refine ⟨h, ?_⟩
  rcases gateInit_cases (listReply s t listOK) with ⟨hcheck,hopen⟩ | ⟨hcheck,harmed⟩
  · rw [h.check hd] at hcheck
    cases hcheck
  · exact harmed

theorem Unopened.timer (hd : Describes s) {pod : GatedPod} (h : Unopened pod) (listOK : Bool) :
    Unopened (gateStep s pod (.timer listOK)).1 := by
  refine ⟨h.accounts, ?_⟩
  rcases h.gate.fire (listReply s pod.table listOK) with ⟨hcheck,hopen⟩ | ⟨hcheck,harmed⟩
  · rw [h.accounts.check hd] at hcheck
    cases hcheck
  · exact harmed

theorem Unopened.probe (hd : Describes s) {pod : GatedPod} (h : Unopened pod) (replication clusterInfo : Option Text)
    (listOK : Bool) : probed s pod replication clusterInfo listOK = false := by
  rw [probed,decide_eq_false_iff_not]
  intro hready
  have hcheck : gateCheckAclReady (listReply s pod.table listOK) = true := operatorNodeReady_check hready
  rw [h.accounts.check hd] at hcheck
  cases hcheck

structure Stuck (f : Fleet) : Prop where
  pods : ∀ name pod, f.pods name = some pod → Unopened pod
  ready : ∀ name, f.ready name = false

theorem Stuck.setPod {f : Fleet} (h : Stuck f) (name : Text) {pod : Option GatedPod} (hpod : ∀ p, pod = some p → Unopened p) :
    Stuck (f.setPod name pod) := by
  refine ⟨?_, h.ready⟩
  intro other p hp
  by_cases heq : other = name
  · simp only [Fleet.setPod,heq,Function.update_self] at hp
    exact hpod p hp
  · simp only [Fleet.setPod,Function.update_of_ne heq] at hp
    exact h.pods other p hp

theorem Stuck.setReady {f : Fleet} (h : Stuck f) (name : Text) {ready : Bool} (hready : ready = false) :
    Stuck (f.setReady name ready) := by
  refine ⟨h.pods, ?_⟩
  intro other
  by_cases heq : other = name
  · simp only [Fleet.setReady,heq,Function.update_self,hready]
  · simp only [Fleet.setReady,Function.update_of_ne heq,h.ready]

theorem Stuck.step (hd : Describes s) {f : Fleet} {event : FleetEvent} (h : Stuck f) (hlaw : FleetLaw f event) :
    Stuck (fleetStep s sum256 f event).1 := by
  cases event with
  | boot name table listOK =>
    obtain ⟨i,spec,conf,hspec,hconf,htable⟩ := hlaw
    have hbuiltin : BuiltinOnly table :=
      fun n hn => (htable n hn).elim .inl (hspec.confAccounts hconf n)
    refine (h.setPod name ?_).setReady name rfl
    intro p hp
    exact Option.some.inj hp ▸ Unopened.load hd hbuiltin listOK
  | server name step =>
    refine h.setPod name ?_
    intro p hp
    obtain ⟨pod,hpod,rfl⟩ := Option.map_eq_some_iff.mp hp
    have hheld := h.pods name pod hpod
    cases step with
    | applyACLs session c =>
      obtain ⟨i,spec,hspec,hc⟩ := hlaw
      obtain ⟨husers,hmetrics⟩ := hspec.resolveACLConfig hc
      exact ⟨hheld.accounts.applyACLs husers hmetrics session, hheld.gate⟩
    | timer listOK => exact hheld.timer hd listOK
  | probe name replication clusterInfo listOK =>
    refine h.setReady name ?_
    cases hpod : f.pods name with
    | none => rfl
    | some pod => exact (h.pods name pod hpod).probe hd replication clusterInfo listOK
  | pass input stored => exact h

end

def bareSpec : ConfSpec := { appSpec with aclUsers := [], customConfig := setting "maxclients" "1000".toList }

end ValkeyOperator
