import ValkeyOperator.PreStop

/-!
The PreStop hook with the server commands behind it: OPERATOR.CLUSTER.SAFE and
OPERATOR.FAILOVER.PREPARE as the calls they make, and what holds of every shutdown on this level.
-/

set_option autoImplicit false

namespace ValkeyOperator
open TextScan
open ShellText
open Dialogue

/-- What the commands of the module call in their own server, what valkey-cli asks of it
directly, and the failover that goes to another server. `connect` is that valkey-cli gets in. -/
inductive ServerCall
  | connect
  | clusterInfo
  | infoReplication
  | clusterMyID
  | clusterNodes
  | clientPauseWrite (ms : Int)
  | wait (replicas timeoutMs : Nat)
  | clientUnpause
  | replicaFailover (ip port : Text)
  | sleep (ms : Nat)
  deriving DecidableEq

/-- `none` is a call that fails. -/
abbrev ServerTalk := List (ServerCall × Option Text)

abbrev ServerProg := Prog ServerCall (Option Text)

/-- The calls of OPERATOR.CLUSTER.SAFE, as far as its answer needs them. -/
def askClusterSafe : ServerProg (Int × Text) := do
  let cinfo ← call .clusterInfo
  if cinfo.all (fun c => parseFieldStr c "cluster_state".toList 16 ≠ "ok".toList) then
    return operatorClusterSafe ⟨cinfo, none, none⟩
  else
    let rinfo ← call .infoReplication
    if rinfo.all (fun r => parseFieldStr r "role".toList 16 = "slave".toList ||
        parseFieldLL r "connected_slaves".toList ≤ 0) then
      return operatorClusterSafe ⟨cinfo, rinfo, none⟩
    else
      let nodes ← call .clusterNodes
      return operatorClusterSafe ⟨cinfo, rinfo, nodes⟩

inductive CliReply
  | text (answer : Text)
  | array (elements : List ReplyElement)

/-- valkey-cli: what it prints of a reply, and what it prints when there is none. -/
structure ValkeyCli where
  print : CliReply → Text
  unanswered : Text

def ReplyElement.line : ReplyElement → Text
  | .string text => text
  | .integer value => decimal value

structure ValkeyCli.Faithful (c : ValkeyCli) : Prop where
  -- an array comes out line by line
  lines : ∀ es, es ≠ [] → (∀ e ∈ es, e.line ≠ [] ∧ '\n' ∉ e.line) →
    inputLines (capture (c.print (.array es)) ++ ['\n']) = es.map ReplyElement.line
  silent : saysSafe c.unanswered = false

/-- What the hook and the module rely on. `toLongLong` is `ValkeyModule_StringToLongLong`, and
`elapsedMs` what the monotonic clock shows. -/
structure ShutdownEnv where
  cli : ValkeyCli
  toLongLong : Text → Option Int
  elapsedMs : Int

def defaultTimeoutMs : Int := 5000

section
variable (env : ShutdownEnv)

def prepareTimeoutMs : Option Text → Int
  | none => defaultTimeoutMs
  | some arg =>
    match env.toLongLong arg with
    | none => defaultTimeoutMs
    | some n => if n ≤ 0 then defaultTimeoutMs else n

/-- The clock only goes into the third part of the reply. -/
def operatorFailoverPrepare (arg : Option Text) : ServerProg (Int × Text × Int) := do
  let rinfo ← call .infoReplication
  match rinfo with
  | none => return (0, "ERR failed to call INFO replication".toList, 0)
  | some rinfo =>
    let role := parseFieldStr rinfo "role".toList 16
    let connectedSlaves := parseFieldLL rinfo "connected_slaves".toList
    if role = "slave".toList then return (1, "replica — no action needed".toList, 0)
    else if role ≠ "master".toList then return (0, "unknown role — cannot prepare failover".toList, 0)
    else if connectedSlaves ≤ 0 then return (0, "no connected replica — failover not possible".toList, 0)
    else
      let _ ← call (.clientPauseWrite (prepareTimeoutMs env arg))
      let _ ← call (.wait 1 500)
      let _ ← call .clientUnpause
      return (1, "ok".toList, env.elapsedMs)

def cli (p : ServerProg (Option CliReply)) : ServerProg Text := do
  let conn ← call .connect
  match conn with
  | none => return env.cli.unanswered
  | some _ =>
    let reply ← p
    return (reply.map env.cli.print).getD env.cli.unanswered

def askText (k : ServerCall) : ServerProg (Option CliReply) := do
  let answer ← call k
  return answer.map .text

def safeReply (reply : Int × Text) : CliReply := .array [.integer reply.1, .string reply.2]

def prepareReply (reply : Int × Text × Int) : CliReply :=
  .array [.integer reply.1, .string reply.2.1, .integer reply.2.2]

def hookServer : HookCall → ServerProg Text
  | .clusterSafe => cli env (do let reply ← askClusterSafe; return some (safeReply reply))
  | .infoReplication => cli env (askText .infoReplication)
  | .clusterMyID => cli env (askText .clusterMyID)
  | .clusterNodes => cli env (askText .clusterNodes)
  | .clusterFailover ip port => do
    let answer ← call (.replicaFailover ip port)
    return (answer.map (fun a => env.cli.print (.text a))).getD env.cli.unanswered
  | .failoverPrepare timeoutMs => cli env (do
    let reply ← operatorFailoverPrepare env (some (decimal timeoutMs))
    return some (prepareReply reply))
  | .sleep ms => do
    let _ ← call (.sleep ms)
    return []

/-- A whole shutdown, down to the calls of the server. -/
def shutdown (g : Grep) (timeoutMs : Int) : ServerProg HookEnd :=
  (preStopScript g timeoutMs).interp (hookServer env)

end

section
variable {env : ShutdownEnv}

theorem askClusterSafe_reply {t : ServerTalk} {reply : Int × Text} (h : Held askClusterSafe t reply) :
    ∃ i : SafeCalls, reply = operatorClusterSafe i := by
  unfold askClusterSafe at h
  obtain ⟨cinfo,t,rfl,hinfo⟩ := held_call.mp h
  split_ifs at hinfo
  · exact ⟨_, (held_pure.mp hinfo).2⟩
  · obtain ⟨rinfo,t,rfl,hrole⟩ := held_call.mp hinfo
    split_ifs at hrole
    · exact ⟨_, (held_pure.mp hrole).2⟩
    · obtain ⟨nodes,t,rfl,hnodes⟩ := held_call.mp hrole
      exact ⟨_, (held_pure.mp hnodes).2⟩

theorem cli_held {p : ServerProg (Option CliReply)} {t : ServerTalk} {out : Text} (h : Held (cli env p) t out) :
    ∃ conn t', t = (.connect, conn) :: t' ∧ ((t' = [] ∧ out = env.cli.unanswered) ∨
      ∃ reply, Held p t' reply ∧ out = (reply.map env.cli.print).getD env.cli.unanswered) := by
  unfold cli at h
  obtain ⟨conn,t',rfl,hconn⟩ := held_call.mp h
  refine ⟨conn, t', rfl, ?_⟩
  cases conn with
  | none => exact .inl (held_pure.mp hconn)
  | some _ =>
    obtain ⟨t₁,t₂,reply,rfl,hp,hend⟩ := held_bind hconn
    obtain ⟨rfl,rfl⟩ := held_pure.mp hend
    exact .inr ⟨reply, by simpa using hp, rfl⟩

theorem operatorClusterSafe_form (i : SafeCalls) :
    ((operatorClusterSafe i).1 = 0 ∨ (operatorClusterSafe i).1 = 1) ∧
      '\n' ∉ (operatorClusterSafe i).2 ∧ (operatorClusterSafe i).2.head? ≠ some '1' ∧ (operatorClusterSafe i).2 ≠ [] := by
  have hcount : ∀ n : Nat, '\n' ∉ "only ".toList ++ (toString n).toList ++
      " other healthy primary(s) reachable — stopping would risk quorum loss".toList := by
    intro n
    have hn := decimal_newline (n : Int)
    rw [decimal] at hn
    simp only [List.mem_append,not_or]
    exact ⟨⟨by decide, hn⟩, by decide⟩
  unfold operatorClusterSafe
  split
  · decide
  · split_ifs
    · decide
    · split
      · decide
      · split_ifs
        · decide
        · decide
        · split
          · decide
          · split_ifs
            · exact ⟨.inl rfl, hcount _, by simp, by simp⟩
            · decide

theorem saysSafe_printed (hcli : env.cli.Faithful) (i : SafeCalls) :
    saysSafe (env.cli.print (safeReply (operatorClusterSafe i))) = true ↔ (operatorClusterSafe i).1 = 1 := by
  obtain ⟨hcode,hline,hhead,hne⟩ := operatorClusterSafe_form i
  generalize operatorClusterSafe i = reply at hcode hline hhead hne ⊢
  obtain ⟨code,msg⟩ := reply
  have hdigit : decimal code ≠ [] := by rcases hcode with rfl | rfl <;> decide
  have hlines := hcli.lines [.integer code, .string msg] (by simp)
    (by simp [ReplyElement.line,hdigit,decimal_newline,hne,hline])
  unfold saysSafe safeReply
  rw [hlines]
  simp only [List.map_cons,List.map_nil,ReplyElement.line,List.any_cons,List.any_nil,Bool.or_false,Bool.or_eq_true,
    decide_eq_true_eq,hhead,or_false]
  rcases hcode with rfl | rfl
  · decide
  · decide

def HookCall.serverCalls (env : ShutdownEnv) : HookCall → List ServerCall
  | .clusterSafe => [.connect, .clusterInfo, .infoReplication, .clusterNodes]
  | .infoReplication => [.connect, .infoReplication]
  | .clusterMyID => [.connect, .clusterMyID]
  | .clusterNodes => [.connect, .clusterNodes]
  | .clusterFailover ip port => [.replicaFailover ip port]
  | .failoverPrepare timeoutMs => [.connect, .infoReplication,
      .clientPauseWrite (prepareTimeoutMs env (some (decimal timeoutMs))), .wait 1 500, .clientUnpause]
  | .sleep ms => [.sleep ms]

theorem askClusterSafe_calls {t : ServerTalk} {reply : Int × Text} (h : Held askClusterSafe t reply) :
    ∀ q ∈ t, q.1 ∈ [.clusterInfo, .infoReplication, .clusterNodes] := by
  unfold askClusterSafe at h
  obtain ⟨cinfo,t,rfl,hinfo⟩ := held_call.mp h
  split_ifs at hinfo
  · obtain ⟨rfl,rfl⟩ := held_pure.mp hinfo
    simp
  · obtain ⟨rinfo,t,rfl,hrole⟩ := held_call.mp hinfo
    split_ifs at hrole
    · obtain ⟨rfl,rfl⟩ := held_pure.mp hrole
      simp
    · obtain ⟨nodes,t,rfl,hnodes⟩ := held_call.mp hrole
      obtain ⟨rfl,rfl⟩ := held_pure.mp hnodes
      simp

theorem operatorFailoverPrepare_held {arg : Option Text} {t : ServerTalk} {reply : Int × Text × Int}
    (h : Held (operatorFailoverPrepare env arg) t reply) :
    ∃ rinfo, t = [(.infoReplication, rinfo)] ∨ ∃ r₁ r₂ r₃, t = [(.infoReplication, rinfo),
      (.clientPauseWrite (prepareTimeoutMs env arg), r₁), (.wait 1 500, r₂), (.clientUnpause, r₃)] := by
  unfold operatorFailoverPrepare at h
  obtain ⟨rinfo,t,rfl,hrole⟩ := held_call.mp h
  refine ⟨rinfo, ?_⟩
  cases rinfo with
  | none => exact .inl (by rw [(held_pure.mp hrole).1])
  | some rinfo =>
    dsimp only at hrole
    split_ifs at hrole
    · exact .inl (by rw [(held_pure.mp hrole).1])
    · exact .inl (by rw [(held_pure.mp hrole).1])
    · exact .inl (by rw [(held_pure.mp hrole).1])
    · obtain ⟨r₁,t,rfl,hpause⟩ := held_call.mp hrole
      obtain ⟨r₂,t,rfl,hwait⟩ := held_call.mp hpause
      obtain ⟨r₃,t,rfl,hunpause⟩ := held_call.mp hwait
      obtain ⟨rfl,-⟩ := held_pure.mp hunpause
      exact .inr ⟨r₁, r₂, r₃, rfl⟩

theorem cli_then {α : Type} {p : ServerProg α} {reply : α → CliReply} {t : ServerTalk} {out : Text}
    (h : Held (cli env (do let a ← p; return some (reply a))) t out) :
    ∃ conn t', t = (.connect, conn) :: t' ∧
      ((t' = [] ∧ out = env.cli.unanswered) ∨ ∃ a, Held p t' a ∧ out = env.cli.print (reply a)) := by
  obtain ⟨conn,t',rfl,hrest⟩ := cli_held h
  refine ⟨conn, t', rfl, hrest.imp_right ?_⟩
  rintro ⟨answer,hp,rfl⟩
  obtain ⟨t₁,t₂,a,rfl,ha,hend⟩ := held_bind hp
  obtain ⟨rfl,rfl⟩ := held_pure.mp hend
  exact ⟨a, by simpa using ha, rfl⟩

theorem cli_call {c : ServerCall} {t : ServerTalk} {out : Text} (h : Held (cli env (askText c)) t out) :
    ∀ q ∈ t, q.1 ∈ [.connect, c] := by
  obtain ⟨conn,t',rfl,⟨rfl,-⟩ | ⟨answer,hc,-⟩⟩ := cli_held h
  · simp
  · obtain ⟨r,t,rfl,hend⟩ := held_call.mp hc
    obtain ⟨rfl,-⟩ := held_pure.mp hend
    simp

theorem hookServer_calls {k : HookCall} {part : ServerTalk} {out : Text}
    (h : Held (hookServer env k) part out) : ∀ q ∈ part, q.1 ∈ k.serverCalls env := by
  cases k with
  | clusterSafe =>
    obtain ⟨conn,t',rfl,⟨rfl,-⟩ | ⟨reply,hsafe,-⟩⟩ := cli_then h
    · simp [HookCall.serverCalls]
    · rw [List.forall_mem_cons]
      exact ⟨by simp [HookCall.serverCalls], fun q hq => List.mem_cons_of_mem _ (askClusterSafe_calls hsafe q hq)⟩
  | infoReplication => exact cli_call h
  | clusterMyID => exact cli_call h
  | clusterNodes => exact cli_call h
  | clusterFailover ip port =>
    obtain ⟨r,t,rfl,hend⟩ := held_call.mp h
    obtain ⟨rfl,-⟩ := held_pure.mp hend
    simp [HookCall.serverCalls]
  | failoverPrepare ms =>
    obtain ⟨conn,t',rfl,⟨rfl,-⟩ | ⟨reply,hprep,-⟩⟩ := cli_then h
    · simp [HookCall.serverCalls]
    · obtain ⟨rinfo,rfl | ⟨r₁,r₂,r₃,rfl⟩⟩ := operatorFailoverPrepare_held hprep
      · simp [HookCall.serverCalls]
      · simp [HookCall.serverCalls]
  | sleep ms =>
    obtain ⟨r,t,rfl,hend⟩ := held_call.mp h
    obtain ⟨rfl,-⟩ := held_pure.mp hend
    simp [HookCall.serverCalls]

theorem locate_call {top : HookTalk} {t before after : ServerTalk} {c : ServerCall}
    {r : Option Text} (hexp : Expands (hookServer env) top t) (ht : t = before ++ (c, r) :: after) :
    ∃ top₁ k out top₂ t₁ part₁ part₂ t₂, top = top₁ ++ (k, out) :: top₂ ∧ before = t₁ ++ part₁ ∧
      after = part₂ ++ t₂ ∧ Expands (hookServer env) top₁ t₁ ∧
      Held (hookServer env k) (part₁ ++ (c, r) :: part₂) out ∧
      Expands (hookServer env) top₂ t₂ ∧ c ∈ k.serverCalls env := by
  obtain ⟨top₁,k,out,top₂,t₁,part₁,part₂,t₂,htop,hbefore,hafter,h₁,hheld,h₂⟩ := hexp.locate ht
  exact ⟨top₁, k, out, top₂, t₁, part₁, part₂, t₂, htop, hbefore, hafter, h₁, hheld, h₂,
    hookServer_calls hheld (c, r) (by simp)⟩

def ServerCall.pause : ServerCall → Nat
  | .sleep ms => ms
  | _ => 0

def ServerCall.writePause : ServerCall → Nat
  | .clientPauseWrite _ => 1
  | _ => 0

theorem hookServer_slept {k : HookCall} {part : ServerTalk} {out : Text}
    (h : Held (hookServer env k) part out) : total ServerCall.pause part = k.pause := by
  have hcalls := hookServer_calls h
  have hawake : (∀ c ∈ k.serverCalls env, c.pause = 0) → total ServerCall.pause part = 0 :=
    fun hc => total_eq_zero.mpr (fun q hq => hc q.1 (hcalls q hq))
  cases k with
  | sleep ms =>
    obtain ⟨r,t,rfl,hend⟩ := held_call.mp h
    obtain ⟨rfl,-⟩ := held_pure.mp hend
    rfl
  | _ => exact hawake (by simp [HookCall.serverCalls,ServerCall.pause])

theorem hookServer_writePause {k : HookCall} {part : ServerTalk} {out : Text}
    (h : Held (hookServer env k) part out) : total ServerCall.writePause part ≤ k.prepare := by
  have hcalls := hookServer_calls h
  have hopen : (∀ c ∈ k.serverCalls env, c.writePause = 0) → total ServerCall.writePause part ≤ 0 :=
    fun hc => Nat.le_of_eq (total_eq_zero.mpr (fun q hq => hc q.1 (hcalls q hq)))
  cases k with
  | failoverPrepare ms =>
    obtain ⟨conn,t',rfl,⟨rfl,-⟩ | ⟨reply,hprep,-⟩⟩ := cli_then h
    · simp [total,ServerCall.writePause]
    · obtain ⟨rinfo,rfl | ⟨r₁,r₂,r₃,rfl⟩⟩ := operatorFailoverPrepare_held hprep
      · simp [total,ServerCall.writePause]
      · simp [total,ServerCall.writePause,HookCall.prepare]
  | _ => exact hopen (by simp [HookCall.serverCalls,ServerCall.writePause])

theorem expands_slept {top : HookTalk} {t : ServerTalk} (h : Expands (hookServer env) top t) :
    total ServerCall.pause t = slept top :=
  Nat.le_antisymm (h.total_le (fun _ _ _ hk => Nat.le_of_eq (hookServer_slept hk)))
    (h.le_total (fun _ _ _ hk => Nat.le_of_eq (hookServer_slept hk).symm))

/-- The last poll before `t` ends is a run of OPERATOR.CLUSTER.SAFE that has come to 1. -/
def SafeRun (t : ServerTalk) : Prop :=
  ∃ front run reply, t = front ++ run ∧ Held askClusterSafe run reply ∧ reply.1 = 1

theorem Waited.server (hcli : env.cli.Faithful) {waits : HookTalk} {t : ServerTalk} (hwaits : Waited waits)
    (hexp : Expands (hookServer env) waits t) : SafeRun t ∨ total ServerCall.pause t = 50000 := by
  rcases hwaits with ⟨front,result,rfl,hsafe⟩ | ⟨-,hslept⟩
  · obtain ⟨ta,tb,rfl,-,hb⟩ := hexp.of_append
    cases hb with
    | cons hpart hnil =>
      cases hnil
      obtain ⟨conn,t',rfl,⟨-,rfl⟩ | ⟨reply,hreply,rfl⟩⟩ := cli_then hpart
      · rw [hcli.silent] at hsafe
        cases hsafe
      · obtain ⟨i,rfl⟩ := askClusterSafe_reply hreply
        refine .inl ⟨ta ++ [(.connect, conn)], t', _, by simp, hreply, ?_⟩
        exact (saysSafe_printed hcli i).mp hsafe
  · exact .inr ((expands_slept hexp).trans hslept)

variable {g : Grep} {timeoutMs : Int} {t : ServerTalk} {e : HookEnd}

theorem shutdown_top (h : Held (shutdown env g timeoutMs) t e) :
    ∃ top, Expands (hookServer env) top t ∧ Finished g top e ∧
      ∀ before k r after, top = before ++ (k, r) :: after → Orderly g timeoutMs before k := by
  obtain ⟨top,hheld,hexp⟩ := Held.of_interp h
  have hmeets := (preStopScript_meets g timeoutMs).held hheld
  simp only [List.nil_append] at hmeets
  exact ⟨top, hexp, hmeets.2, hmeets.1⟩

/-- No failover is asked for before a run of OPERATOR.CLUSTER.SAFE has come to 1, with no sleep
behind it, or fifty seconds are slept through; and the whole shutdown sleeps no more than
fifty-five. -/
theorem shutdown_waits (hcli : env.cli.Faithful) (h : Held (shutdown env g timeoutMs) t e) :
    total ServerCall.pause t ≤ 55000 ∧
    ∀ before ip port r after, t = before ++ (.replicaFailover ip port, r) :: after →
      (∃ polled rest, before = polled ++ rest ∧ SafeRun polled ∧ total ServerCall.pause rest = 0) ∨
        50000 ≤ total ServerCall.pause before := by
  obtain ⟨top,hexp,hfinished,horderly⟩ := shutdown_top h
  refine ⟨by rw [expands_slept hexp]; exact hfinished.slept_le, ?_⟩
  intro before ip port r after ht
  obtain ⟨top₁,k,out,top₂,t₁,part₁,part₂,t₂,htop,rfl,-,h₁,hheld,-,hcall⟩ := locate_call hexp ht
  cases k with
  | clusterFailover ip' port' =>
    obtain ⟨-,waits,info,myID,nodes,rfl,hwaits,-⟩ := horderly top₁ _ out top₂ htop
    obtain ⟨ta,tb,rfl,ha,hb⟩ := h₁.of_append
    rw [List.append_assoc]
    rcases hwaits.server hcli ha with hrun | hslept
    · refine .inl ⟨ta, tb ++ part₁, rfl, hrun, ?_⟩
      have hasked : total ServerCall.pause tb = 0 := expands_slept hb
      have hfirst := hookServer_slept hheld
      rw [total_append,total_cons] at hfirst
      have hnone : HookCall.pause (.clusterFailover ip' port') = 0 := rfl
      rw [total_append]
      omega
    · refine .inr ?_
      rw [total_append,hslept]
      omega
  | _ => simp [HookCall.serverCalls] at hcall

theorem parseInt64_decimal {n : Int} (h0 : 0 ≤ n) (hn : n < 0x8000000000000000) : parseInt64 (decimal n) = some n := by
  obtain ⟨m,rfl⟩ := Int.eq_ofNat_of_zero_le h0
  have hdigits : decimal m = Nat.toDigits 10 m := String.toList_ofList
  rw [parseInt64_iff,hdigits]
  refine ⟨Nat.toDigits 10 m, Nat.toDigits_ne_nil, ?_, .inr ⟨.inr rfl, ?_⟩, by omega, hn⟩
  · intro c hc
    exact Nat.isDigit_of_mem_toDigits (by decide) (by decide) hc
  · rw [Nat.ofDigitChars_ten_toDigits]

/-- A positive number is read back from its digits. -/
def ShutdownEnv.ReadsDecimal (env : ShutdownEnv) : Prop :=
  ∀ n : Int, 0 < n → n < 0x8000000000000000 → env.toLongLong (decimal n) = some n

theorem ShutdownEnv.ReadsDecimal.prepareTimeoutMs (h : env.ReadsDecimal) {n : Int} (h0 : 0 < n)
    (hn : n < 0x8000000000000000) : prepareTimeoutMs env (some (decimal n)) = n := by
  unfold ValkeyOperator.prepareTimeoutMs
  dsimp only
  rw [h n h0 hn]
  exact if_neg (by omega)

theorem preStopTimeoutMs_range (grace : Int) :
    1000 ≤ preStopTimeoutMs grace ∧ preStopTimeoutMs grace < 0x8000000000000000 := by
  unfold preStopTimeoutMs
  dsimp only
  generalize ((if grace = 0 then 60 else grace) - 5 - (clusterSafeMaxWait : Int)) * 1000 = n
  have hlt : int64 n < 0x8000000000000000 := Int.bmod_lt (by decide)
  split_ifs
  · decide
  · omega

theorem prepare_pause {timeoutMs ms : Int} {part₁ part₂ : ServerTalk} {r : Option Text} {out : Text}
    (h : Held (hookServer env (.failoverPrepare timeoutMs)) (part₁ ++ (.clientPauseWrite ms, r) :: part₂) out) :
    ms = prepareTimeoutMs env (some (decimal timeoutMs)) ∧
      ∃ r₁ r₂, part₂ = [(.wait 1 500, r₁), (.clientUnpause, r₂)] := by
  obtain ⟨conn,t',hpart,⟨rfl,-⟩ | ⟨reply,hprep,-⟩⟩ := cli_then h
  · have hmem : (.clientPauseWrite ms, r) ∈ [(ServerCall.connect, conn)] := hpart ▸ by simp
    simp at hmem
  · obtain ⟨rinfo,rfl | ⟨r₁,r₂,r₃,rfl⟩⟩ := operatorFailoverPrepare_held hprep
    · have hmem : (.clientPauseWrite ms, r) ∈ [(ServerCall.connect, conn), (.infoReplication, rinfo)] :=
        hpart ▸ by simp
      simp at hmem
    · have hsplit : part₁ ++ (.clientPauseWrite ms, r) :: part₂ =
          [(.connect, conn), (.infoReplication, rinfo)] ++
            (.clientPauseWrite (prepareTimeoutMs env (some (decimal timeoutMs))), r₁) ::
              [(.wait 1 500, r₂), (.clientUnpause, r₃)] := hpart
      obtain ⟨hq,rfl⟩ := split_unique (fun q => q.1.writePause = 1) hsplit rfl
        (by simp [ServerCall.writePause]) (by simp [ServerCall.writePause])
      have hms := congrArg Prod.fst hq
      exact ⟨ServerCall.clientPauseWrite.inj hms, r₂, r₃, rfl⟩

/-- Writes are paused once, for the time the grace period leaves and after the failover was asked
for, and are let go on in the next step but one. -/
theorem shutdown_pauses (hread : env.ReadsDecimal) {grace : Int}
    (h : Held (shutdown env g (preStopTimeoutMs grace)) t e)
    {before after : ServerTalk} {ms : Int} {r : Option Text} (ht : t = before ++ (.clientPauseWrite ms, r) :: after) :
    ms = preStopTimeoutMs grace ∧ (∃ ip port r', (.replicaFailover ip port, r') ∈ before) ∧
      (∃ r₁ r₂ rest, after = (.wait 1 500, r₁) :: (.clientUnpause, r₂) :: rest) ∧
      total ServerCall.writePause t = 1 := by
  obtain ⟨top,hexp,hfinished,horderly⟩ := shutdown_top h
  have hone : total ServerCall.writePause t = 1 := by
    have hpos : 1 ≤ total ServerCall.writePause t := by
      rw [ht,total_append,total_cons,ServerCall.writePause]
      omega
    have hle : total ServerCall.writePause t ≤ total HookCall.prepare top :=
      hexp.total_le (fun _ _ _ hk => hookServer_writePause hk)
    have hprep := (prepares_le horderly).1
    have hhanded := hfinished.handed
    have hmost : handovers top ≤ 1 := by
      rw [hhanded]
      split_ifs <;> decide
    omega
  obtain ⟨top₁,k,out,top₂,t₁,part₁,part₂,t₂,htop,rfl,rfl,h₁,hheld,-,hcall⟩ := locate_call hexp ht
  cases k with
  | failoverPrepare timeoutMs =>
    obtain ⟨rfl,front,ip,port,r',rfl⟩ := horderly top₁ _ out top₂ htop
    obtain ⟨rfl,r₁,r₂,rfl⟩ := prepare_pause hheld
    obtain ⟨hpos,hlt⟩ := preStopTimeoutMs_range grace
    refine ⟨hread.prepareTimeoutMs (by omega) hlt, ?_, ⟨r₁, r₂, t₂, rfl⟩, hone⟩
    obtain ⟨part,hpart,hsub⟩ := h₁.mem (k := .clusterFailover ip port) (r := r') (by simp)
    obtain ⟨answer,t',rfl,-⟩ := held_call.mp hpart
    exact ⟨ip, port, answer, List.mem_append_left _ (hsub (by simp))⟩
  | _ => simp [HookCall.serverCalls] at hcall

end

def okText : Option Text := some "OK".toList

def primaryInfo : Option Text := some "# Replication\r\nrole:master\r\nconnected_slaves:1\r\n".toList

def swiftShutdown : ServerTalk :=
  [(.connect, okText), (.clusterInfo, some "cluster_state:ok\r\n".toList), (.infoReplication, primaryInfo),
    (.clusterNodes, some threeHealthy.text),
    (.connect, okText), (.infoReplication, primaryInfo),
    (.connect, okText), (.clusterMyID, some (nodeID '1')),
    (.connect, okText), (.clusterNodes, some (shownText oneReplica)),
    (.replicaFailover "10.0.3.2".toList "7379".toList, okText),
    (.connect, okText), (.infoReplication, primaryInfo), (.clientPauseWrite 5000, okText),
    (.wait 1 500, some "1".toList), (.clientUnpause, okText),
    (.connect, okText), (.infoReplication, some "# Replication\r\nrole:slave\r\n".toList)]

def plainCli : ValkeyCli where
  print
    | .text answer => cliText answer
    | .array es => printLines (es.map ReplyElement.line)
  unanswered := []

theorem plainCli_faithful : plainCli.Faithful where
  lines es hne hes := by
    obtain ⟨front,e,rfl⟩ := List.eq_nil_or_concat es |>.resolve_left hne
    rw [List.concat_eq_append] at hes ⊢
    obtain ⟨hfront,he⟩ := List.forall_mem_append.mp hes
    have hlast := List.forall_mem_singleton.mp he
    have hprint : plainCli.print (.array (front ++ [e])) =
        (printLines (front.map ReplyElement.line) ++ e.line) ++ ['\n'] := by
      simp [plainCli,printLines]
    have hend : (printLines (front.map ReplyElement.line) ++ e.line).getLast? ≠ some '\n' := by
      intro h
      rw [List.getLast?_append_of_ne_nil _ hlast.1] at h
      exact hlast.2 (List.mem_of_getLast? h)
    rw [hprint,capture_end hend,← hprint]
    refine inputLines_printLines (fun l hl => ?_)
    obtain ⟨x,hx,rfl⟩ := List.mem_map.mp hl
    exact (hes x hx).2
  silent := rfl

def plainEnv : ShutdownEnv := ⟨plainCli, parseInt64, 3⟩

theorem plainEnv_readsDecimal : plainEnv.ReadsDecimal :=
  fun _ h0 hn => parseInt64_decimal (Int.le_of_lt h0) hn

theorem swiftShutdown_held : Held (shutdown plainEnv literalGrep (preStopTimeoutMs 0)) swiftShutdown .swapped :=
  Prog.held_follow (swiftShutdown.map Prod.snd) (by decide +kernel)

theorem swiftShutdown_safe : ∃ polled rest, swiftShutdown.take 10 = polled ++ rest ∧ SafeRun polled ∧
    total ServerCall.pause rest = 0 := by
  have hfailover : swiftShutdown = swiftShutdown.take 10 ++
      (.replicaFailover "10.0.3.2".toList "7379".toList, okText) :: swiftShutdown.drop 11 := rfl
  exact ((shutdown_waits plainCli_faithful swiftShutdown_held).2 _ _ _ _ _ hfailover).resolve_right (by decide)

theorem swiftShutdown_pauses : total ServerCall.writePause swiftShutdown = 1 := by
  have hpause : swiftShutdown = swiftShutdown.take 13 ++ (.clientPauseWrite 5000, okText) :: swiftShutdown.drop 14 := rfl
  exact (shutdown_pauses plainEnv_readsDecimal swiftShutdown_held hpause).2.2.2

end ValkeyOperator
