import ValkeyOperator.AclTable
import ValkeyOperator.ShardStats

/-!
The valkey.conf that step 1 of a pass writes, with the accounts a server starts with, and
what a server reads back out of it.
-/

set_option autoImplicit false

namespace ValkeyOperator
open TextScan

structure SecretRef where
  name : Text
  key : Text
  deriving DecidableEq, Repr

structure ConfigParams where
  maxmemoryPolicy : Text
  maxmemoryRatio : Int
  hz : Int
  lazyfree : Bool
  tcpKeepalive : Int
  ioThreads : Option Int
  deriving DecidableEq, Repr

structure ACLUserSpec where
  name : Text
  passwordSecret : SecretRef
  keyPatterns : List Text
  commands : Text
  deriving DecidableEq, Repr

structure MetricsSpec where
  enabled : Bool
  metricsSecret : SecretRef
  deriving DecidableEq, Repr

/-- What of a spec goes into valkey.conf. The limits are in bytes and in thousandths of a CPU. -/
structure ConfSpec where
  port : Int
  clusterNodeTimeout : Int
  memoryLimit : Option Int
  cpuLimit : Option Int
  operatorSecret : SecretRef
  aclUsers : List ACLUserSpec
  metrics : Option MetricsSpec
  config : Option ConfigParams
  customConfig : Text
  deriving DecidableEq, Repr

/-- `quote` is `%q`; a Secret that cannot be read is an error with its text, and so is a
ConfigMap that cannot be written. -/
structure ConfInput where
  ns : Text
  quote : Text → Text
  secret : Text → Except Text (Text → Option Text)
  writeErr : Option Text

def resolveSecretKey (i : ConfInput) (ref : SecretRef) : Except Text Text :=
  match i.secret ref.name with
  | .error err => .error ("getting secret ".toList ++ i.ns ++ '/' :: ref.name ++ ": ".toList ++ err)
  | .ok data =>
    match data ref.key with
    | none => .error ("key ".toList ++ i.quote ref.key ++ " not found in secret ".toList ++ i.ns ++
        '/' :: ref.name)
    | some val => .ok val

def validatePassword (password : Text) : Except Text Unit :=
  if '\n' ∈ password ∨ '\r' ∈ password then
    .error "operator password contains control characters (newline/carriage return)".toList
  else .ok ()

def validACLKeyPattern (p : Text) : Bool := p.head? = some '~' || p.head? = some '%'

def wrapErr {α : Type} (context : String) (x : Except Text α) : Except Text α :=
  x.mapError (fun err => context.toList ++ err)

def resolveACLUser (i : ConfInput) (u : ACLUserSpec) : Except Text ResolvedACLUser :=
  match u.keyPatterns.find? (fun kp => !validACLKeyPattern kp) with
  | some kp => .error ("ACL user ".toList ++ i.quote u.name ++ ": invalid key pattern ".toList ++
      i.quote kp ++ " (must start with ~ or %)".toList)
  | none =>
    match resolveSecretKey i u.passwordSecret with
    | .error err => .error ("resolving password for ACL user ".toList ++ i.quote u.name ++
        ": ".toList ++ err)
    | .ok password => .ok ⟨u.name, password, u.keyPatterns, u.commands⟩

def resolveACLUsers (i : ConfInput) (users : List ACLUserSpec) : Except Text (List ResolvedACLUser) :=
  users.mapM (resolveACLUser i)

def resolveMetrics (i : ConfInput) (spec : ConfSpec) : Except Text Text :=
  match spec.metrics with
  | none => .ok []
  | some metrics => if metrics.enabled then resolveSecretKey i metrics.metricsSecret else .ok []

def setting (name : String) (value : Text) : Text := name.toList ++ ' ' :: value

def settings (ps : List (String × Text)) : List Text := ps.map (fun p => setting p.1 p.2)

def heading (title : String) : List Text := [[], setting "#" title.toList]

def computeIOThreads (spec : ConfSpec) : Int :=
  match spec.config with
  | none => 1
  | some cfg =>
    match cfg.ioThreads with
    | some n => n
    | none =>
      match spec.cpuLimit with
      | none => 1
      | some milli =>
        if milli = 0 then 1
        else
          let cpus := int32 (milli.tdiv 1000)
          if cpus ≥ 16 then 8 else if cpus ≥ 8 then 4 else if cpus ≥ 4 then 2 else 1

def computeMaxmemory (spec : ConfSpec) : Int :=
  match spec.config with
  | none => 0
  | some cfg =>
    match spec.memoryLimit with
    | none => 0
    | some limitBytes =>
      if limitBytes = 0 then 0
      else
        let ratio := if cfg.maxmemoryRatio ≤ 0 ∨ cfg.maxmemoryRatio ≥ 100 then 80 else cfg.maxmemoryRatio
        (int64 (limitBytes * ratio)).tdiv 100

def baseLines (spec : ConfSpec) : List Text :=
  let port := if spec.port = 0 then 6379 else spec.port
  let clusterNodeTimeout := if spec.clusterNodeTimeout = 0 then 5000 else spec.clusterNodeTimeout
  settings [("loadmodule", "/usr/local/lib/valkey-operator-module.so".toList)] ++ [[]] ++
  settings [("bind", "0.0.0.0".toList), ("port", decimal port), ("protected-mode", "no".toList),
    ("loglevel", "notice".toList), ("dir", "/data".toList)] ++
  heading "Cluster" ++
  settings [("cluster-enabled", "yes".toList), ("cluster-config-file", "/data/nodes.conf".toList),
    ("cluster-node-timeout", decimal clusterNodeTimeout), ("cluster-announce-port", decimal port),
    ("cluster-announce-bus-port", decimal (int32 (port + 10000))),
    ("cluster-preferred-endpoint-type", "ip".toList), ("cluster-allow-reads-when-down", "yes".toList)] ++
  heading "Persistence" ++
  settings [("appendonly", "no".toList), ("save", "3600 1".toList), ("save", "300 100".toList),
    ("save", "60 10000".toList)] ++
  heading "ACL" ++
  settings [("acllog-max-len", "128".toList)]

def operatorLines (operatorPassword : Text) : List Text :=
  if operatorPassword = [] then []
  else
    settings [("masterauth", operatorPassword), ("masteruser", "operator".toList),
      ("user", "default off".toList),
      ("user", "operator on >".toList ++ operatorPassword ++ " ~* &* +@all".toList)]

def metricsLines (metricsPassword : Text) : List Text :=
  if metricsPassword = [] then []
  else
    [setting "user" (metricsUsername ++ " on >".toList ++ metricsPassword ++
      ' ' :: [' '].intercalate metricsACLRules)]

def appUserLine (u : ResolvedACLUser) : Text :=
  setting "user" (u.name ++ " on ".toList ++ [' '].intercalate (buildACLRules u))

def policyLine (cfg : ConfigParams) : Text :=
  setting "maxmemory-policy" (if cfg.maxmemoryPolicy = [] then "allkeys-lru".toList else cfg.maxmemoryPolicy)

def structuredLines (spec : ConfSpec) : List Text :=
  match spec.config with
  | none => []
  | some cfg =>
    let maxmemoryBytes := computeMaxmemory spec
    let hz := if cfg.hz = 0 then 10 else cfg.hz
    let tcpKeepalive := if cfg.tcpKeepalive = 0 then 300 else cfg.tcpKeepalive
    let ioThreads := computeIOThreads spec
    heading "Structured configuration" ++
    (if maxmemoryBytes > 0 then settings [("maxmemory", decimal maxmemoryBytes)] else []) ++
    [policyLine cfg] ++ settings [("hz", decimal hz)] ++
    (if cfg.lazyfree then
      settings [("lazyfree-lazy-eviction", "yes".toList), ("lazyfree-lazy-expire", "yes".toList),
        ("lazyfree-lazy-server-del", "yes".toList), ("lazyfree-lazy-user-del", "yes".toList)]
    else []) ++
    settings [("tcp-keepalive", decimal tcpKeepalive)] ++
    (if ioThreads > 1 then settings [("io-threads", decimal ioThreads), ("io-threads-do-reads", "yes".toList)]
    else [])

def customLines (spec : ConfSpec) : List Text :=
  if spec.customConfig = [] then [] else heading "Custom configuration" ++ [spec.customConfig]

def buildValkeyConfig (spec : ConfSpec) (operatorPassword metricsPassword : Text)
    (appUsers : List ResolvedACLUser) : Text :=
  printLines (baseLines spec ++ operatorLines operatorPassword ++ metricsLines metricsPassword ++
    appUsers.map appUserLine ++ structuredLines spec ++ customLines spec)

/-- What the Secrets hold, up to the first thing that is missing or refused. -/
def resolveConf (i : ConfInput) (spec : ConfSpec) : Except Text ACLConfig := do
  let operatorPassword ← wrapErr "resolving operator secret: " (resolveSecretKey i spec.operatorSecret)
  wrapErr "invalid operator password: " (validatePassword operatorPassword)
  let appUsers ← wrapErr "resolving ACL users: " (resolveACLUsers i spec.aclUsers)
  let metricsPassword ← wrapErr "resolving metrics secret: " (resolveMetrics i spec)
  return ⟨operatorPassword, metricsPassword, spec.metrics.any (fun m => m.enabled), appUsers⟩

def reconcileConfigMap (i : ConfInput) (spec : ConfSpec) : Except Text Text := do
  let c ← resolveConf i spec
  match i.writeErr with
  | some err => .error err
  | none => return buildValkeyConfig spec c.operatorPassword c.metricsPassword c.users

theorem reconcileConfigMap_ok {i : ConfInput} {spec : ConfSpec} {c : ACLConfig} {conf : Text}
    (hc : resolveConf i spec = .ok c) (h : reconcileConfigMap i spec = .ok conf) :
    conf = buildValkeyConfig spec c.operatorPassword c.metricsPassword c.users := by
  unfold reconcileConfigMap at h
  rw [hc] at h
  cases hw : i.writeErr with
  | none =>
    rw [hw] at h
    exact (Except.ok.inj h).symm
  | some err =>
    rw [hw] at h
    cases h

/-- The first words of the lines of a text. -/
def Starts (P : Text → Prop) (l : Text) : Prop := ∀ x ∈ tokenLines l, ∀ word ∈ x.head?, P word

def confNames : List String :=
  ["#", "loadmodule", "bind", "port", "protected-mode", "loglevel", "dir", "cluster-enabled",
    "cluster-config-file", "cluster-node-timeout", "cluster-announce-port", "cluster-announce-bus-port",
    "cluster-preferred-endpoint-type", "cluster-allow-reads-when-down", "appendonly", "save",
    "acllog-max-len", "maxmemory", "hz", "lazyfree-lazy-eviction", "lazyfree-lazy-expire",
    "lazyfree-lazy-server-del", "lazyfree-lazy-user-del", "tcp-keepalive", "io-threads",
    "io-threads-do-reads"]

theorem tokenLines_setting {name : String} {value : Text} (hname : IsToken name.toList)
    (hvalue : '\n' ∉ value) : tokenLines (setting name value) = [name.toList :: fields value] := by
  have hline : '\n' ∉ setting name value := by
    simp [setting,hname.newline,hvalue]
  rw [tokenLines_line hline,setting,fields_token_cons hname (by decide)]

section
variable {P : Text → Prop} (hP : ∀ name ∈ confNames, P name.toList)
include hP

theorem settings_starts {ps : List (String × Text)}
    (hnames : ∀ name ∈ ps.map (fun p => p.1), IsToken name.toList ∧ name ∈ confNames)
    (hvalues : ∀ value ∈ ps.map (fun p => p.2), '\n' ∉ value) : ∀ l ∈ settings ps, Starts P l := by
  intro l hl x hx word hword
  obtain ⟨p,hp,rfl⟩ := List.mem_map.mp hl
  obtain ⟨htoken,hname⟩ := hnames p.1 (List.mem_map_of_mem hp)
  rw [tokenLines_setting htoken (hvalues p.2 (List.mem_map_of_mem hp)),List.mem_singleton] at hx
  rw [hx,List.head?_cons] at hword
  exact Option.some.inj hword ▸ hP p.1 hname

omit hP in
theorem blank_starts : Starts P [] := by
  intro x hx word hword
  rw [tokenLines_line List.not_mem_nil,List.mem_singleton] at hx
  rw [hx] at hword
  cases hword

theorem heading_starts {title : String} (h : '\n' ∉ title.toList) : ∀ l ∈ heading title, Starts P l := by
  have htitle : ∀ l ∈ settings [("#", title.toList)], Starts P l :=
    settings_starts hP (by simp only [List.map]; decide +kernel) (by simpa using h)
  simp only [heading,List.forall_mem_cons]
  exact ⟨blank_starts, htitle _ (by simp [settings]), by simp⟩

theorem baseLines_starts (spec : ConfSpec) : ∀ l ∈ baseLines spec, Starts P l := by
  have hblank : ∀ l ∈ [([] : Text)], Starts P l := by
    rw [List.forall_mem_singleton]
    exact blank_starts
  unfold baseLines
  dsimp only
  generalize (if spec.port = 0 then 6379 else spec.port) = port
  generalize (if spec.clusterNodeTimeout = 0 then 5000 else spec.clusterNodeTimeout) = timeout
  simp only [List.forall_mem_append]
  refine ⟨⟨⟨⟨⟨⟨⟨⟨?_, hblank⟩, ?_⟩, ?_⟩, ?_⟩, ?_⟩, ?_⟩, ?_⟩, ?_⟩
  · exact settings_starts hP (by decide +kernel) (by decide)
  · exact settings_starts hP (by simp only [List.map]; decide +kernel) (by simp [decimal_newline])
  · exact heading_starts hP (by decide)
  · exact settings_starts hP (by simp only [List.map]; decide +kernel) (by simp [decimal_newline])
  · exact heading_starts hP (by decide)
  · exact settings_starts hP (by decide +kernel) (by decide)
  · exact heading_starts hP (by decide)
  · exact settings_starts hP (by decide +kernel) (by decide)

theorem structuredLines_starts (spec : ConfSpec) :
    (∀ l ∈ structuredLines spec, Starts P l) ↔ ∀ cfg, spec.config = some cfg → Starts P (policyLine cfg) := by
  unfold structuredLines
  cases hcfg : spec.config with
  | none => simp
  | some cfg =>
    have hwhen : ∀ (b : Prop) [Decidable b] (ls : List Text), (∀ l ∈ ls, Starts P l) →
        ∀ l ∈ (if b then ls else []), Starts P l := by
      intro b _ ls h l hl
      split at hl
      · exact h l hl
      · simp at hl
    dsimp only
    generalize computeMaxmemory spec = maxmemoryBytes
    generalize computeIOThreads spec = ioThreads
    generalize (if cfg.hz = 0 then 10 else cfg.hz) = hz
    generalize (if cfg.tcpKeepalive = 0 then 300 else cfg.tcpKeepalive) = tcpKeepalive
    simp only [List.forall_mem_append,Option.some.injEq,forall_eq']
    constructor
    · intro h
      exact h.1.1.1.1.2 _ (by simp)
    · intro hpolicy
      refine ⟨⟨⟨⟨⟨⟨?_, ?_⟩, by simpa using hpolicy⟩, ?_⟩, ?_⟩, ?_⟩, ?_⟩
      · exact heading_starts hP (by decide)
      · exact hwhen _ _ (settings_starts hP (by simp only [List.map]; decide +kernel) (by simp [decimal_newline]))
      · exact settings_starts hP (by simp only [List.map]; decide +kernel) (by simp [decimal_newline])
      · exact hwhen _ _ (settings_starts hP (by decide +kernel) (by decide))
      · exact settings_starts hP (by simp only [List.map]; decide +kernel) (by simp [decimal_newline])
      · exact hwhen _ _ (settings_starts hP (by simp only [List.map]; decide +kernel) (by simp [decimal_newline]))

end

theorem conf_lines (spec : ConfSpec) (c : ACLConfig) :
    tokenLines (buildValkeyConfig spec c.operatorPassword c.metricsPassword c.users) =
      (baseLines spec).flatMap tokenLines ++ (operatorLines c.operatorPassword).flatMap tokenLines ++
        (metricsLines c.metricsPassword).flatMap tokenLines ++
        c.users.flatMap (fun u => tokenLines (appUserLine u)) ++
        (structuredLines spec).flatMap tokenLines ++ (customLines spec).flatMap tokenLines ++ [[]] := by
  unfold buildValkeyConfig
  rw [tokenLines_printLines]
  simp only [List.flatMap_append,List.flatMap_map]

/-- The account of an application, with the rules that ACL SETUSER is sent for it. -/
def appAccount (u : ResolvedACLUser) : Text × List Text := (u.name, "on".toList :: buildACLRules u)

def accountLine (a : Text × List Text) : List Text := "user".toList :: a.1 :: a.2

def operatorAccounts (password : Text) : List (Text × List Text) :=
  [(defaultUsername, ["off".toList]),
    (operatorUsername, ["on".toList, '>' :: password, "~*".toList, "&*".toList, "+@all".toList])]

/-- A metrics password may hold blanks: its line is then read with more rules. -/
def accountLines (c : ACLConfig) : List (List Text) :=
  (operatorAccounts c.operatorPassword).map accountLine ++ (metricsLines c.metricsPassword).map fields ++
    (c.users.map appAccount).map accountLine

/-- The file as it is meant, whatever the texts in it are. -/
def intendedLines (spec : ConfSpec) (c : ACLConfig) : List (List Text) :=
  (baseLines spec).flatMap tokenLines ++
    [["masterauth".toList, c.operatorPassword], ["masteruser".toList, operatorUsername]] ++
    accountLines c ++ (structuredLines spec).flatMap tokenLines ++ [[]]

def directives (name : String) (lines : List (List Text)) : List (List Text) :=
  lines.filter (fun x => x.head? = some name.toList)

/-- The server reads each line as it is meant: one for the password of the operator, one for
each account, and none that a text of an account has brought in. The applications have the rules
that they are given live. -/
structure ReadsBack (spec : ConfSpec) (c : ACLConfig) (conf : Text) : Prop where
  lines : tokenLines conf = intendedLines spec c
  masterauth : directives "masterauth" (tokenLines conf) = [["masterauth".toList, c.operatorPassword]]
  users : directives "user" (tokenLines conf) =
    accountLines c ++ directives "user" ((structuredLines spec).flatMap tokenLines)
  live : c.users.map appAccount <:+ accounts c

/-- The texts that valkey.conf can hold as they are. -/
structure PlainTexts (spec : ConfSpec) (c : ACLConfig) : Prop where
  operator : IsToken c.operatorPassword
  metrics : '\n' ∉ c.metricsPassword
  users : ∀ u ∈ c.users, IsToken u.name ∧ IsToken ('>' :: u.password) ∧ ∀ kp ∈ u.keyPatterns, IsToken kp
  policy : ∀ cfg, spec.config = some cfg → Starts (fun word => word ≠ "masterauth".toList) (policyLine cfg)

theorem directives_append (name : String) (a b : List (List Text)) :
    directives name (a ++ b) = directives name a ++ directives name b :=
  List.filter_append a b

theorem starts_directives (name : String) (ls : List Text) :
    (∀ l ∈ ls, Starts (fun word => word ≠ name.toList) l) ↔ directives name (ls.flatMap tokenLines) = [] := by
  simp only [directives,List.filter_eq_nil_iff,List.mem_flatMap,decide_eq_true_eq]
  constructor
  · rintro h x ⟨l,hl,hx⟩ hhead
    exact h l hl x hx _ hhead rfl
  · rintro h l hl x hx word hword rfl
    exact h x ⟨l, hl, hx⟩ hword

theorem accountLines_head (c : ACLConfig) : ∀ x ∈ accountLines c, x.head? = some "user".toList := by
  simp only [accountLines,List.forall_mem_append,List.forall_mem_map]
  refine ⟨⟨fun _ _ => rfl, ?_⟩, fun _ _ => rfl⟩
  intro l hl
  unfold metricsLines at hl
  split at hl
  · simp at hl
  · rw [List.mem_singleton.mp hl,setting,fields_token_cons (by decide) (by decide),List.head?_cons]

theorem directives_accountLines (c : ACLConfig) :
    directives "user" (accountLines c) = accountLines c ∧ directives "masterauth" (accountLines c) = [] := by
  constructor
  · refine List.filter_eq_self.mpr ?_
    intro x hx
    exact decide_eq_true (accountLines_head c x hx)
  · refine List.filter_eq_nil_iff.mpr ?_
    intro x hx
    rw [accountLines_head c x hx]
    decide

theorem intendedLines_directives (name : String) (spec : ConfSpec) (c : ACLConfig) :
    directives name (intendedLines spec c) = directives name ((baseLines spec).flatMap tokenLines) ++
      directives name [["masterauth".toList, c.operatorPassword], ["masteruser".toList, operatorUsername]] ++
      directives name (accountLines c) ++ directives name ((structuredLines spec).flatMap tokenLines) := by
  have hend : directives name [[]] = [] := rfl
  unfold intendedLines
  simp only [directives_append,hend,List.append_nil]

theorem intendedLines_user (spec : ConfSpec) (c : ACLConfig) :
    directives "user" (intendedLines spec c) =
      accountLines c ++ directives "user" ((structuredLines spec).flatMap tokenLines) := by
  have hbase := (starts_directives "user" _).mp (baseLines_starts (by decide) spec)
  rw [intendedLines_directives,hbase,(directives_accountLines c).1]
  rfl

theorem intendedLines_masterauth (spec : ConfSpec) (c : ACLConfig) :
    directives "masterauth" (intendedLines spec c) =
      ["masterauth".toList, c.operatorPassword] ::
        directives "masterauth" ((structuredLines spec).flatMap tokenLines) := by
  have hbase := (starts_directives "masterauth" _).mp (baseLines_starts (by decide) spec)
  rw [intendedLines_directives,hbase,(directives_accountLines c).2]
  rfl

theorem readsBack_iff (spec : ConfSpec) (c : ACLConfig) (conf : Text) :
    ReadsBack spec c conf ↔ tokenLines conf = intendedLines spec c ∧
      ∀ cfg, spec.config = some cfg → Starts (fun word => word ≠ "masterauth".toList) (policyLine cfg) := by
  rw [← structuredLines_starts (by decide),starts_directives]
  constructor
  · intro h
    have hauth := h.masterauth
    rw [h.lines,intendedLines_masterauth] at hauth
    exact ⟨h.lines, by simpa using hauth⟩
  · rintro ⟨hlines,hauth⟩
    exact ⟨hlines, by rw [hlines,intendedLines_masterauth,hauth], by rw [hlines,intendedLines_user],
      List.suffix_append _ _⟩

theorem operatorLines_tokens {password : Text} (h : IsToken password) :
    (operatorLines password).flatMap tokenLines =
      [["masterauth".toList, password], ["masteruser".toList, operatorUsername]] ++
        (operatorAccounts password).map accountLine := by
  have hrules : "operator on >".toList ++ password ++ " ~* &* +@all".toList =
      [' '].intercalate [operatorUsername, "on".toList, '>' :: password, "~*".toList, "&*".toList,
        "+@all".toList] := rfl
  have htokens : ∀ t ∈ [operatorUsername, "on".toList, '>' :: password, "~*".toList, "&*".toList,
      "+@all".toList], IsToken t := by
    have hpassword : IsToken ('>' :: password) := by
      simpa [IsToken] using ⟨by decide, h.2⟩
    simp only [List.forall_mem_cons]
    exact ⟨by decide, by decide, hpassword, by decide, by decide, by decide, by simp⟩
  rw [operatorLines,if_neg h.1,settings]
  simp only [List.map,List.flatMap_cons,List.flatMap_nil]
  rw [tokenLines_setting (by decide) h.newline,tokenLines_setting (by decide) (by decide),
    tokenLines_setting (by decide) (by decide),hrules,
    tokenLines_setting (by decide) (not_mem_intercalate (by decide) (fun t ht => (htokens t ht).newline)),
    fields_single h,fields_intercalate htokens]
  rfl

theorem appUserLine_eq (u : ResolvedACLUser) :
    appUserLine u = [' '].intercalate (accountLine (appAccount u)) := by
  unfold appUserLine accountLine appAccount
  have hrules : buildACLRules u ≠ [] := List.cons_ne_nil _ _
  generalize buildACLRules u = rules at hrules
  cases rules with
  | nil => exact absurd rfl hrules
  | cons r rs => simp [setting,List.intercalate_cons_cons]

theorem appAccount_tokens (u : ResolvedACLUser) :
    (∀ t ∈ accountLine (appAccount u), IsToken t) ↔
      IsToken u.name ∧ IsToken ('>' :: u.password) ∧ ∀ kp ∈ u.keyPatterns, IsToken kp := by
  have hfixed : IsToken "user".toList ∧ IsToken "on".toList ∧ IsToken "resetchannels".toList ∧
      IsToken "&*".toList := by decide
  have hcommands : ∀ t ∈ fields (if u.commands = [] then "+@all".toList else u.commands), IsToken t :=
    fun t => fields_token
  have hpatterns : (∀ kp ∈ (if u.keyPatterns = [] then ["~*".toList] else u.keyPatterns), IsToken kp) ↔
      ∀ kp ∈ u.keyPatterns, IsToken kp := by
    split
    · rename_i hnone
      rw [hnone]
      decide
    · rfl
  obtain ⟨huser,hon,hreset,hchannels⟩ := hfixed
  unfold accountLine appAccount buildACLRules
  simp only [List.forall_mem_cons,List.forall_mem_append,hpatterns]
  constructor
  · intro h
    exact ⟨h.2.1, h.2.2.2.1.1.1, h.2.2.2.1.2⟩
  · rintro ⟨hname,hpassword,hkps⟩
    exact ⟨huser, hname, hon, ⟨⟨hpassword, hreset, hchannels, by simp⟩, hkps⟩, hcommands⟩

theorem metricsLines_tokens (mp : Text) :
    (metricsLines mp).flatMap tokenLines = (metricsLines mp).map fields ↔ '\n' ∉ mp := by
  unfold metricsLines
  split
  · rename_i hnone
    simp [hnone]
  · have hrules : '\n' ∉ [' '].intercalate metricsACLRules := by decide
    have hline : '\n' ∉ setting "user" (metricsUsername ++ " on >".toList ++ mp ++
        ' ' :: [' '].intercalate metricsACLRules) ↔ '\n' ∉ mp := by
      have huser : '\n' ∉ "user".toList ∧ '\n' ∉ metricsUsername ∧ '\n' ∉ " on >".toList := by decide
      simp only [setting,List.mem_append,List.mem_cons,huser.1,huser.2.1,huser.2.2,hrules]
      simp
    rw [← hline,List.flatMap_singleton,List.map_singleton]
    exact ⟨newline_of_tokenLines, tokenLines_line⟩

/-- What the file must hold for its lines to be read as intended. The tokens of a line have no
blank, so a text that is read back as one token is one. -/
theorem intendedLines_iff {spec : ConfSpec} (hcustom : spec.customConfig = []) (c : ACLConfig) :
    tokenLines (buildValkeyConfig spec c.operatorPassword c.metricsPassword c.users) = intendedLines spec c ↔
      IsToken c.operatorPassword ∧ '\n' ∉ c.metricsPassword ∧
        ∀ u ∈ c.users, ∀ t ∈ accountLine (appAccount u), IsToken t := by
  have hsplit : IsToken c.operatorPassword → (∀ u ∈ c.users, ∀ t ∈ accountLine (appAccount u), IsToken t) →
      (tokenLines (buildValkeyConfig spec c.operatorPassword c.metricsPassword c.users) = intendedLines spec c ↔
        '\n' ∉ c.metricsPassword) := by
    intro hop husers
    have happs : c.users.flatMap (fun u => tokenLines (appUserLine u)) =
        (c.users.map appAccount).map accountLine := by
      have happ : ∀ u ∈ c.users, tokenLines (appUserLine u) = [accountLine (appAccount u)] := by
        intro u hu
        rw [appUserLine_eq,tokenLines_intercalate (husers u hu)]
      rw [List.flatMap_congr happ,List.map_map,← List.map_eq_flatMap]
      rfl
    have hnone : customLines spec = [] := if_pos hcustom
    rw [conf_lines,operatorLines_tokens hop,happs,← metricsLines_tokens,hnone]
    simp only [intendedLines,accountLines,List.flatMap_nil,List.append_nil,List.append_assoc,
      List.append_cancel_left_eq,List.append_cancel_right_eq]
  constructor
  · intro h
    have htoken : ∀ x ∈ intendedLines spec c, ∀ t ∈ x, IsToken t :=
      fun x hx t ht => isToken_of_tokenLines (h ▸ hx) ht
    have hop : IsToken c.operatorPassword :=
      htoken ["masterauth".toList, c.operatorPassword] (by simp [intendedLines]) _ (by simp)
    have husers : ∀ u ∈ c.users, ∀ t ∈ accountLine (appAccount u), IsToken t := by
      intro u hu
      refine htoken _ ?_
      have happ : accountLine (appAccount u) ∈ accountLines c :=
        List.mem_append_right _ (List.mem_map_of_mem (List.mem_map_of_mem hu))
      simp [intendedLines,happ]
    exact ⟨hop, (hsplit hop husers).mp h, husers⟩
  · rintro ⟨hop,hmetrics,husers⟩
    exact (hsplit hop husers).mpr hmetrics

theorem readsBack_iff_plainTexts {i : ConfInput} {spec : ConfSpec} {c : ACLConfig} {conf : Text}
    (hc : resolveConf i spec = .ok c) (hconf : reconcileConfigMap i spec = .ok conf)
    (hcustom : spec.customConfig = []) : ReadsBack spec c conf ↔ PlainTexts spec c := by
  rw [readsBack_iff,reconcileConfigMap_ok hc hconf,intendedLines_iff hcustom]
  simp only [appAccount_tokens]
  constructor
  · rintro ⟨⟨hop,hmetrics,husers⟩,hpolicy⟩
    exact ⟨hop, hmetrics, husers, hpolicy⟩
  · intro h
    exact ⟨⟨h.operator, h.metrics, h.users⟩, h.policy⟩

def appSpec : ConfSpec where
  port := 0
  clusterNodeTimeout := 0
  memoryLimit := none
  cpuLimit := none
  operatorSecret := ⟨"credentials".toList, "operator".toList⟩
  aclUsers := [⟨"app".toList, ⟨"credentials".toList, "app".toList⟩, ["~app:*".toList], "+@read +@write".toList⟩]
  metrics := none
  config := none
  customConfig := []

def appSecrets (password : Text) : ConfInput where
  ns := "default".toList
  quote := fun s => '"' :: s ++ ['"']
  secret := fun _ => .ok (fun key => some (if key = "app".toList then password else "op-pw".toList))
  writeErr := none

def appAccounts (password : Text) : ACLConfig :=
  ⟨"op-pw".toList, [], false, [⟨"app".toList, password, ["~app:*".toList], "+@read +@write".toList⟩]⟩

def appConf (password : Text) : Text :=
  buildValkeyConfig appSpec "op-pw".toList [] (appAccounts password).users

theorem appSecrets_resolved (password : Text) :
    resolveConf (appSecrets password) appSpec = .ok (appAccounts password) := rfl

theorem appSecrets_conf (password : Text) :
    reconcileConfigMap (appSecrets password) appSpec = .ok (appConf password) := by
  unfold reconcileConfigMap
  rw [appSecrets_resolved]
  rfl

theorem wordPassword_readsBack :
    resolveConf (appSecrets "app-pw".toList) appSpec = .ok (appAccounts "app-pw".toList) ∧
      reconcileConfigMap (appSecrets "app-pw".toList) appSpec = .ok (appConf "app-pw".toList) ∧
      ReadsBack appSpec (appAccounts "app-pw".toList) (appConf "app-pw".toList) := by
  have hresolved := appSecrets_resolved "app-pw".toList
  have hconf := appSecrets_conf "app-pw".toList
  refine ⟨hresolved, hconf, (readsBack_iff_plainTexts hresolved hconf rfl).mpr ?_⟩
  exact ⟨by decide, by decide, by decide, by simp [appSpec]⟩

def twoLines : Text := "pw\n".toList ++ "user eve on nopass".toList

theorem twoLines_adds_account :
    resolveConf (appSecrets twoLines) appSpec = .ok (appAccounts twoLines) ∧
      reconcileConfigMap (appSecrets twoLines) appSpec = .ok (appConf twoLines) ∧
      accountLine ("eve".toList, ["on".toList, "nopass".toList, "resetchannels".toList, "&*".toList,
        "~app:*".toList, "+@read".toList, "+@write".toList]) ∈ tokenLines (appConf twoLines) ∧
      ¬ ReadsBack appSpec (appAccounts twoLines) (appConf twoLines) := by
  refine ⟨appSecrets_resolved _, appSecrets_conf _, by decide +kernel, ?_⟩
  intro h
  have hcustom : appSpec.customConfig = [] := rfl
  have hplain := (intendedLines_iff hcustom (appAccounts twoLines)).mp h.lines
  have hpassword : ¬ IsToken ('>' :: twoLines) := by decide
  exact hpassword ((appAccount_tokens _).mp (hplain.2.2 _ (List.mem_singleton_self _))).2.1

end ValkeyOperator
