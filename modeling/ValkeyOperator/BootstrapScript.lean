import ValkeyOperator.Dialogue
import ValkeyOperator.ShellText
import ValkeyOperator.ShardStats

/-!
The script of the bootstrap Job: the hosts it is given, how it waits for each of them, and the
one command with which it forms a cluster. The hosts are the names under which the servers
announce themselves.
-/

set_option autoImplicit false

namespace ValkeyOperator
open TextScan
open ShellText
open Dialogue

/-- A run of valkey-cli, with its standard output as the answer, or a sleep. -/
inductive JobCall
  | ping (host port : Text)
  | sleep (seconds : Nat)
  | create (hosts : List Text) (replicas : Int)
  deriving DecidableEq

/-- Go's `int` has 64 bits. -/
def bootstrapTotal (vc : ValkeyCluster) : Int :=
  int64 (vc.spec.shards * int64 (1 + vc.spec.replicasPerShard))

def bootstrapHost (vc : ValkeyCluster) (i : Nat) : Text :=
  vc.name ++ ['-'] ++ decimal i ++ ['.'] ++ internalServiceName vc ++ ['.'] ++ vc.ns ++
    ".svc.cluster.local:".toList ++ decimal (effectivePort vc)

def bootstrapHosts (vc : ValkeyCluster) : List Text :=
  (List.range (bootstrapTotal vc).toNat).map (bootstrapHost vc)

def hostList (vc : ValkeyCluster) : Text := [' '].intercalate (bootstrapHosts vc)

def saysPong (out : Text) : Bool := (inputLines out).any (fun l => contains l "PONG".toList)

def pingHost (host : Text) : JobCall := .ping (beforeLast ':' host) (afterLast ':' host)

/-- The loop has no bound of its own: `patience` is how many rounds the Job's pod lives through. -/
def awaitHost (patience : Nat) (host : Text) : Prog JobCall Text (Option Unit) :=
  upTo patience (do
    let out ← call (pingHost host)
    if saysPong out then return some ()
    else
      let _ ← call (.sleep 2)
      return none)

def awaitHosts (patience : Nat) : List Text → Prog JobCall Text (Option Unit)
  | [] => return some ()
  | host :: hosts => do
    match ← awaitHost patience host with
    | none => return none
    | some _ => awaitHosts patience hosts

/-- None when the pod is stopped while it waits. -/
def bootstrapScript (patience : Nat) (hosts : Text) (replicas : Int) : Prog JobCall Text (Option Text) := do
  match ← awaitHosts patience (splitWords hosts) with
  | none => return none
  | some _ =>
    let out ← call (.create (splitWords hosts) replicas)
    return some out

def buildBootstrapJob (patience : Nat) (vc : ValkeyCluster) : Prog JobCall Text (Option Text) :=
  bootstrapScript patience (hostList vc) vc.spec.replicasPerShard

def podEnv (pod : Pod) (name : Text) : Text :=
  if name = "POD_NAME".toList then pod.name
  else if name = "POD_NAMESPACE".toList then pod.ns
  else if name = "POD_IP".toList then pod.podIP
  else []

/-- The value of cluster-announce-hostname in the command of the valkey container. -/
def clusterAnnounceHostname (vc : ValkeyCluster) (pod : Pod) : Text :=
  expand (podEnv pod) ("$POD_NAME.".toList ++ internalServiceName vc ++
    ".$POD_NAMESPACE.svc.cluster.local".toList)

def dnsChar (c : Char) : Bool := c.isAlphanum || c = '-' || c = '.'

/-- The pods of the StatefulSet are numbered. -/
structure IsMember (vc : ValkeyCluster) (i : Nat) (pod : Pod) : Prop where
  name_eq : pod.name = vc.name ++ '-' :: decimal i
  ns_eq : pod.ns = vc.ns

theorem clusterAnnounceHostname_eq {vc : ValkeyCluster} (hname : vc.name.all dnsChar = true) (pod : Pod) :
    clusterAnnounceHostname vc pod = stableDNS vc pod := by
  have htemplate : "$POD_NAME.".toList ++ internalServiceName vc ++ ".$POD_NAMESPACE.svc.cluster.local".toList =
      '$' :: ("POD_NAME".toList ++ '.' :: ((internalServiceName vc ++ ['.']) ++
        '$' :: ("POD_NAMESPACE".toList ++ '.' :: ("svc.cluster.local".toList ++ [])))) := by
    rw [List.append_assoc,List.append_assoc]
    rfl
  have hservice : '$' ∉ internalServiceName vc ++ ['.'] := by
    simp only [internalServiceName,List.mem_append,not_or]
    refine ⟨⟨fun h => ?_, by decide⟩, by decide⟩
    exact absurd (List.all_eq_true.mp hname _ h) (by decide)
  have hdomain : '$' ∉ "svc.cluster.local".toList := by decide
  rw [clusterAnnounceHostname,htemplate,expand_variable (by decide) (by decide) _ (by decide) (by decide),
    expand_text hservice,expand_variable (by decide) (by decide) _ (by decide) (by decide),expand_text hdomain]
  simp [podEnv,stableDNS,expand,expandFrom]

theorem bootstrapHost_member {vc : ValkeyCluster} {i : Nat} {pod : Pod} (h : IsMember vc i pod) :
    bootstrapHost vc i = stableDNS vc pod ++ ':' :: decimal (effectivePort vc) := by
  have hend : ".svc.cluster.local:".toList = ".svc.cluster.local".toList ++ [':'] := by decide
  rw [bootstrapHost,stableDNS,h.name_eq,h.ns_eq,hend]
  simp

theorem pingHost_member {vc : ValkeyCluster} {i : Nat} {pod : Pod} (h : IsMember vc i pod) :
    pingHost (bootstrapHost vc i) = .ping (stableDNS vc pod) (decimal (effectivePort vc)) := by
  have hport : ':' ∉ decimal (effectivePort vc) := by
    intro hmem
    exact absurd (List.all_eq_true.mp (decimal_chars _) _ hmem) (by decide)
  rw [pingHost,bootstrapHost_member h,beforeLast_append hport,afterLast_append hport]

section
variable {vc : ValkeyCluster}

theorem bootstrapHost_chars (hname : vc.name.all dnsChar = true) (hns : vc.ns.all dnsChar = true) (i : Nat) :
    (bootstrapHost vc i).all (fun c => dnsChar c || c = ':') = true := by
  have hdns : ∀ s : Text, s.all dnsChar = true → s.all (fun c => dnsChar c || c = ':') = true := by
    intro s hs
    refine List.all_eq_true.mpr (fun c hc => ?_)
    rw [List.all_eq_true.mp hs c hc]
    rfl
  have hdec : ∀ n : Int, (decimal n).all (fun c => dnsChar c || c = ':') = true := by
    intro n
    refine hdns _ (List.all_eq_true.mpr (fun c hc => ?_))
    have hchar := List.all_eq_true.mp (decimal_chars n) c hc
    simp only [Bool.or_eq_true,decide_eq_true_eq] at hchar
    simp only [dnsChar,Char.isAlphanum,Bool.or_eq_true,decide_eq_true_eq]
    tauto
  simp only [bootstrapHost,internalServiceName,List.all_append,hdns _ hname,hdns _ hns,hdec]
  decide

theorem bootstrapHosts_token (hname : vc.name.all dnsChar = true) (hns : vc.ns.all dnsChar = true) :
    ∀ host ∈ bootstrapHosts vc, IsToken host := by
  intro host hhost
  obtain ⟨i,-,rfl⟩ := List.mem_map.mp hhost
  refine ⟨by simp [bootstrapHost], fun c hc => ?_⟩
  have hchar := List.all_eq_true.mp (bootstrapHost_chars hname hns i) c hc
  simp only [dnsChar,Bool.or_eq_true,decide_eq_true_eq,isAlphanum_iff] at hchar
  have hrange : ∀ lo hi : UInt32, 32 < lo.toNat → hi.toNat < 127 → lo ≤ c.val ∧ c.val ≤ hi →
      32 < c.toNat ∧ c.toNat < 127 := fun lo hi hlo hhi h =>
    ⟨Nat.lt_of_lt_of_le hlo (UInt32.le_iff_toNat_le.mp h.1),
      Nat.lt_of_le_of_lt (UInt32.le_iff_toNat_le.mp h.2) hhi⟩
  have hvisible : 32 < c.toNat ∧ c.toNat < 127 := by
    rcases hchar with ((((h | h) | h) | rfl) | rfl) | rfl
    · exact hrange _ _ (by decide) (by decide) h
    · exact hrange _ _ (by decide) (by decide) h
    · exact hrange _ _ (by decide) (by decide) h
    · decide
    · decide
    · decide
  exact isSpace_of_visible hvisible.1 hvisible.2

end

abbrev JobTalk := List (JobCall × Text)

def JobCall.forms : JobCall → Nat
  | .create _ _ => 1
  | _ => 0

def JobCall.pings : JobCall → Nat
  | .ping _ _ => 1
  | _ => 0

def Unanswered (host : Text) (q : JobCall × Text) : Prop :=
  q.1 = .sleep 2 ∨ (q.1 = pingHost host ∧ saysPong q.2 = false)

theorem Unanswered.forms {host : Text} {q : JobCall × Text} (h : Unanswered host q) : q.1.forms = 0 := by
  rcases h with h | ⟨h,-⟩
  · rw [h]
    rfl
  · rw [h]
    rfl

structure Knocking (patience : Nat) (host : Text) (n : Nat) (t : JobTalk) : Prop where
  rounds : total JobCall.pings t + n = patience
  unanswered : ∀ q ∈ t, Unanswered host q

def HostEnd (patience : Nat) (host : Text) (t : JobTalk) : Option Unit → Prop
  | none => Knocking patience host 0 t
  | some _ => ∃ front reply, t = front ++ [(pingHost host, reply)] ∧ saysPong reply = true ∧
      ∀ q ∈ front, Unanswered host q

theorem Knocking.again {patience n : Nat} {host reply : Text} {t : JobTalk} (h : Knocking patience host (n + 1) t)
    (hreply : ¬ saysPong reply = true) (out : Text) :
    Knocking patience host n (t ++ [(pingHost host, reply)] ++ [(.sleep 2, out)]) := by
  constructor
  · have hping : (pingHost host).pings = 1 := rfl
    have hsleep : (JobCall.sleep 2).pings = 0 := rfl
    have hrounds := h.rounds
    rw [total_concat,total_concat,hping,hsleep]
    omega
  · intro q hq
    simp only [List.mem_append,List.mem_singleton] at hq
    rcases hq with (hq | rfl) | rfl
    · exact h.unanswered q hq
    · exact .inr ⟨rfl, by simpa using hreply⟩
    · exact .inl rfl

theorem awaitHost_held {patience : Nat} {host : Text} {t : JobTalk} {r : Option Unit}
    (h : Held (awaitHost patience host) t r) : HostEnd patience host t r := by
  have hmeets : Meets (fun _ _ => True) (HostEnd patience host) (awaitHost patience host) [] := by
    refine Meets.upTo (Knocking patience host) (HostEnd patience host) ?_ (fun past hend => hend)
      ⟨Nat.zero_add _, by simp⟩
    intro n past hpast
    rw [meets_call]
    refine ⟨trivial, fun reply => ?_⟩
    split_ifs with hpong
    · rw [meets_pure]
      exact ⟨past, reply, rfl, hpong, hpast.unanswered⟩
    · rw [meets_call]
      refine ⟨trivial, fun out => ?_⟩
      rw [meets_pure]
      exact hpast.again hpong out
  exact (hmeets.held h).2

def HostsEnd (patience : Nat) (hosts : List Text) (t : JobTalk) : Option Unit → Prop
  | none => ∃ host ∈ hosts, ∃ front back, t = front ++ back ∧ Knocking patience host 0 back
  | some _ => ∀ host ∈ hosts, ∃ reply, (pingHost host, reply) ∈ t ∧ saysPong reply = true

theorem HostEnd.forms {patience : Nat} {host : Text} {t : JobTalk} {r : Option Unit}
    (h : HostEnd patience host t r) : ∀ q ∈ t, q.1.forms = 0 := by
  cases r with
  | none => exact fun q hq => (h.unanswered q hq).forms
  | some u =>
    obtain ⟨front,reply,rfl,-,hfront⟩ := h
    intro q hq
    rcases List.mem_append.mp hq with hq | hq
    · exact (hfront q hq).forms
    · obtain rfl := List.mem_singleton.mp hq
      rfl

theorem awaitHosts_held {patience : Nat} {hosts : List Text} {t : JobTalk} {r : Option Unit}
    (h : Held (awaitHosts patience hosts) t r) : (∀ q ∈ t, q.1.forms = 0) ∧ HostsEnd patience hosts t r := by
  induction hosts generalizing t with
  | nil =>
    obtain ⟨rfl,rfl⟩ := held_pure.mp h
    simp [HostsEnd]
  | cons host hosts ih =>
    obtain ⟨front,back,waited,rfl,hfirst,hrest⟩ := held_bind h
    have hhost := awaitHost_held hfirst
    cases waited with
    | none =>
      obtain ⟨rfl,rfl⟩ := held_pure.mp hrest
      rw [List.append_nil]
      exact ⟨hhost.forms, host, List.mem_cons_self, [], front, rfl, hhost⟩
    | some u =>
      obtain ⟨hquiet,hend⟩ := ih hrest
      refine ⟨fun q hq => (List.mem_append.mp hq).elim (hhost.forms q) (hquiet q), ?_⟩
      cases r with
      | none =>
        obtain ⟨host',hmem,front',back',rfl,hback⟩ := hend
        exact ⟨host', List.mem_cons_of_mem _ hmem, _, back', (List.append_assoc _ _ _).symm, hback⟩
      | some v =>
        intro host' hmem
        rcases List.mem_cons.mp hmem with rfl | hmem
        · obtain ⟨tries,reply,rfl,hpong,-⟩ := hhost
          exact ⟨reply, by simp, hpong⟩
        · obtain ⟨reply,hin,hpong⟩ := hend host' hmem
          exact ⟨reply, List.mem_append_right _ hin, hpong⟩

/-- Either the script comes to its last command, or it is stopped while it waits for a host. -/
inductive ScriptEnd (patience : Nat) (hosts : List Text) (replicas : Int) : JobTalk → Option Text → Prop
  | forms {waits : JobTalk} {out : Text} (quiet : ∀ q ∈ waits, q.1.forms = 0)
      (answered : ∀ host ∈ hosts, ∃ reply, (pingHost host, reply) ∈ waits ∧ saysPong reply = true) :
      ScriptEnd patience hosts replicas (waits ++ [(.create hosts replicas, out)]) (some out)
  | stopped {host : Text} {front back : JobTalk} (quiet : ∀ q ∈ front ++ back, q.1.forms = 0)
      (mem : host ∈ hosts) (knocks : Knocking patience host 0 back) :
      ScriptEnd patience hosts replicas (front ++ back) none

theorem bootstrapScript_held {patience : Nat} {text : Text} {replicas : Int} {t : JobTalk} {r : Option Text}
    (h : Held (bootstrapScript patience text replicas) t r) :
    ScriptEnd patience (splitWords text) replicas t r := by
  obtain ⟨waits,back,waited,rfl,hwaits,hrest⟩ := held_bind h
  obtain ⟨hquiet,hend⟩ := awaitHosts_held hwaits
  cases waited with
  | none =>
    obtain ⟨rfl,rfl⟩ := held_pure.mp hrest
    obtain ⟨host,hmem,front,back,rfl,hback⟩ := hend
    rw [List.append_nil]
    exact .stopped hquiet hmem hback
  | some u =>
    obtain ⟨answer,rest,rfl,hlast⟩ := held_call.mp hrest
    obtain ⟨rfl,rfl⟩ := held_pure.mp hlast
    exact .forms hquiet hend

/-- The Job forms a cluster at most once, as the last thing it does, out of all the pods of the
StatefulSet under the names they announce, each of which has answered it before. It gives up only
on a pod that has let every round pass. -/
theorem bootstrap_formsOnce {vc : ValkeyCluster} (hname : vc.name.all dnsChar = true)
    (hns : vc.ns.all dnsChar = true) {patience : Nat} {t : JobTalk} {r : Option Text}
    (h : Held (buildBootstrapJob patience vc) t r) {pods : Nat → Pod}
    (hpods : ∀ i, IsMember vc i (pods i)) :
    (∀ before hosts replicas out after, t = before ++ (.create hosts replicas, out) :: after →
      after = [] ∧ r = some out ∧ replicas = vc.spec.replicasPerShard ∧
      hosts = (List.range (bootstrapTotal vc).toNat).map
        (fun i => clusterAnnounceHostname vc (pods i) ++ ':' :: decimal (effectivePort vc)) ∧
      ∀ i < (bootstrapTotal vc).toNat, ∃ reply, saysPong reply = true ∧
        (.ping (stableDNS vc (pods i)) (decimal (effectivePort vc)), reply) ∈ before) ∧
    (total JobCall.forms t = 0 → r = none ∧ ∃ i < (bootstrapTotal vc).toNat, ∃ front back, t = front ++ back ∧
      total JobCall.pings back = patience ∧ ∀ q ∈ back, q.1 = .sleep 2 ∨
        (q.1 = .ping (stableDNS vc (pods i)) (decimal (effectivePort vc)) ∧ saysPong q.2 = false)) := by
  have hend := bootstrapScript_held h
  rw [hostList,splitWords_intercalate (bootstrapHosts_token hname hns)] at hend
  have hannounced : bootstrapHosts vc = (List.range (bootstrapTotal vc).toNat).map
      (fun i => clusterAnnounceHostname vc (pods i) ++ ':' :: decimal (effectivePort vc)) := by
    refine List.map_congr_left (fun i _ => ?_)
    rw [clusterAnnounceHostname_eq hname,bootstrapHost_member (hpods i)]
  cases hend with
  | @forms waits answer hquiet hanswered =>
    constructor
    · intro before hosts replicas out after heq
      obtain ⟨hentry,rfl⟩ := split_unique (fun q : JobCall × Text => q.1.forms = 1) heq.symm rfl
        (fun q hq hone => Nat.one_ne_zero (hone.symm.trans (hquiet q hq))) (by simp)
      rw [hentry] at heq
      obtain rfl : waits = before := List.append_cancel_right heq
      obtain ⟨⟨rfl,rfl⟩,rfl⟩ := by simpa using hentry
      refine ⟨rfl, rfl, rfl, hannounced, fun i hi => ?_⟩
      obtain ⟨reply,hin,hpong⟩ := hanswered (bootstrapHost vc i) (List.mem_map_of_mem (List.mem_range.mpr hi))
      rw [pingHost_member (hpods i)] at hin
      exact ⟨reply, hpong, hin⟩
    · intro hnone
      rw [total_concat] at hnone
      exact absurd (Nat.add_eq_zero_iff.mp hnone).2 Nat.one_ne_zero
  | @stopped host front back hquiet hmem hback =>
    constructor
    · intro before hosts replicas out after heq
      exact absurd (hquiet (.create hosts replicas, out) (by simp [heq])) Nat.one_ne_zero
    · intro _
      obtain ⟨i,hi,rfl⟩ := List.mem_map.mp hmem
      refine ⟨rfl, i, List.mem_range.mp hi, front, back, rfl, hback.rounds, fun q hq => ?_⟩
      rw [← pingHost_member (hpods i)]
      exact hback.unanswered q hq

def memberPod (i : Nat) : Pod :=
  { readyPod '0' with name := (threeShards (fun _ => none)).name ++ '-' :: decimal i }

def lateFirst : JobTalk :=
  [(.ping "vk-0.vk-internal.db.svc.cluster.local".toList "6379".toList, []), (.sleep 2, []),
    (.ping "vk-0.vk-internal.db.svc.cluster.local".toList "6379".toList, "PONG\n".toList),
    (.ping "vk-1.vk-internal.db.svc.cluster.local".toList "6379".toList, "PONG\n".toList),
    (.ping "vk-2.vk-internal.db.svc.cluster.local".toList "6379".toList, "PONG\n".toList),
    (.create ["vk-0.vk-internal.db.svc.cluster.local:6379".toList, "vk-1.vk-internal.db.svc.cluster.local:6379".toList,
      "vk-2.vk-internal.db.svc.cluster.local:6379".toList] 0, "[OK] All 16384 slots covered.\n".toList)]

theorem lateFirst_formsOnce :
    ["vk-0.vk-internal.db.svc.cluster.local:6379".toList, "vk-1.vk-internal.db.svc.cluster.local:6379".toList,
      "vk-2.vk-internal.db.svc.cluster.local:6379".toList] = (List.range 3).map (fun i =>
        clusterAnnounceHostname (threeShards (fun _ => none)) (memberPod i) ++ ':' :: "6379".toList) := by
  have hheld : Held (buildBootstrapJob 2 (threeShards (fun _ => none))) lateFirst
      (some "[OK] All 16384 slots covered.\n".toList) :=
    Prog.held_follow (lateFirst.map Prod.snd) (by decide +kernel)
  exact ((bootstrap_formsOnce (by decide) (by decide) hheld (fun i => ⟨rfl, rfl⟩)).1 _ _ _ _ _
    (List.dropLast_append_getLast? _ rfl).symm).2.2.2.1

end ValkeyOperator
