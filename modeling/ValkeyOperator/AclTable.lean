import ValkeyOperator.Acl
import ValkeyOperator.Overwrite

/-!
The ACL table of one pod and what `applyACLsOnPod` leaves in it. A user is the
set of what it is permitted; a rule of ACL SETUSER sets some of these and leaves
the others as an earlier configuration left them.
-/

set_option autoImplicit false

namespace ValkeyOperator
open TextScan
open Overwrite

/-- `allKeys` and `allChannels` are flags of their own in Valkey: `~*` and `&*`
set them and drop the lists of patterns. -/
inductive Perm
  | enabled
  | nopass
  | password (hash : Text)
  | allKeys
  | readKey (pattern : Text)
  | writeKey (pattern : Text)
  | allChannels
  | channel (pattern : Text)
  | command (name : Text)
  deriving DecidableEq

abbrev AclUser := Perm → Bool

/-- What ACL SETUSER starts from when the name is new. -/
def freshUser : AclUser := fun _ => false

inductive Rule
  | on | off | nopass | resetPass
  | addPassword (hash : Text)
  | removePassword (hash : Text)
  | allKeys | resetKeys
  | addKey (read write : Bool) (pattern : Text)
  | allChannels | resetChannels
  | addChannel (pattern : Text)
  | allCommands | noCommands
  | allow (body : Text)
  | deny (body : Text)
  | reset | other

/-- What is Valkey's own: password hashing, which commands a rule's body names,
which rules it can parse, and how it prints a user in ACL LIST. -/
structure AclServer where
  hash : Text → Text
  covers : Text → Text → Bool
  accepts : Text → Bool
  describe : AclUser → Text

/-- Matched without regard to case. -/
def keywords : List (Text × Rule) :=
  [("on".toList, .on), ("off".toList, .off), ("nopass".toList, .nopass),
    ("resetpass".toList, .resetPass), ("~*".toList, .allKeys), ("allkeys".toList, .allKeys),
    ("resetkeys".toList, .resetKeys), ("&*".toList, .allChannels),
    ("allchannels".toList, .allChannels), ("resetchannels".toList, .resetChannels),
    ("+@all".toList, .allCommands), ("allcommands".toList, .allCommands),
    ("-@all".toList, .noCommands), ("nocommands".toList, .noCommands), ("reset".toList, .reset)]

def keyPermissions (read write : Bool) : Text → Option (Bool × Bool × Text)
  | [] => if read || write then some (read, write, []) else none
  | c :: rest =>
    if (c = 'R' ∨ c = 'r') ∧ read = false then keyPermissions true write rest
    else if (c = 'W' ∨ c = 'w') ∧ write = false then keyPermissions read true rest
    else if c = '~' ∧ (read || write) then some (read, write, rest)
    else none

section
variable (s : AclServer)

def parseRule (op : Text) : Rule :=
  match keywords.lookup (op.map Char.toLower) with
  | some r => r
  | none =>
    match op with
    | '>' :: p => .addPassword (s.hash p)
    | '<' :: p => .removePassword (s.hash p)
    | '#' :: h => .addPassword h
    | '!' :: h => .removePassword h
    | '~' :: p => .addKey true true p
    | '%' :: p =>
      match keyPermissions false false p with
      | some (read, write, pattern) => .addKey read write pattern
      | none => .other
    | '&' :: p => .addChannel p
    | '+' :: b => .allow b
    | '-' :: b => .deny b
    | _ => .other

def Rule.writes : Rule → Write Perm Bool
  | .on => fun k => if k = .enabled then some true else none
  | .off => fun k => if k = .enabled then some false else none
  | .nopass => fun
    | .nopass => some true
    | .password _ => some false
    | _ => none
  | .resetPass => fun
    | .nopass => some false
    | .password _ => some false
    | _ => none
  -- a password, once added, ends `nopass`; the other passwords stay
  | .addPassword h => fun
    | .nopass => some false
    | .password h' => if h' = h then some true else none
    | _ => none
  | .removePassword h => fun
    | .password h' => if h' = h then some false else none
    | _ => none
  | .allKeys => fun
    | .allKeys => some true
    | .readKey _ => some false
    | .writeKey _ => some false
    | _ => none
  | .resetKeys => fun
    | .allKeys => some false
    | .readKey _ => some false
    | .writeKey _ => some false
    | _ => none
  | .addKey read write pattern => fun
    | .readKey p => if read && p = pattern then some true else none
    | .writeKey p => if write && p = pattern then some true else none
    | _ => none
  | .allChannels => fun
    | .allChannels => some true
    | .channel _ => some false
    | _ => none
  | .resetChannels => fun
    | .allChannels => some false
    | .channel _ => some false
    | _ => none
  | .addChannel pattern => fun
    | .channel p => if p = pattern then some true else none
    | _ => none
  | .allCommands => fun
    | .command _ => some true
    | _ => none
  | .noCommands => fun
    | .command _ => some false
    | _ => none
  | .allow body => fun
    | .command c => if s.covers body c then some true else none
    | _ => none
  | .deny body => fun
    | .command c => if s.covers body c then some false else none
    | _ => none
  | .reset => fun _ => some false
  | .other => fun _ => none

/-- A pattern after all keys or all channels, or the removal of a password that
is not there. -/
def Rule.rejected (u : AclUser) : Rule → Bool
  | .addKey _ _ _ => u .allKeys
  | .addChannel _ => u .allChannels
  | .removePassword h => !u (.password h)
  | _ => false

def ruleWrites (op : Text) : Write Perm Bool := (parseRule s op).writes s

def setRules (u : AclUser) : List Text → Option AclUser
  | [] => some u
  | op :: ops =>
    if s.accepts op = true ∧ (parseRule s op).rejected u = false then
      setRules (put u (ruleWrites s op)) ops
    else none

theorem setRules_eq {u u' : AclUser} {ops : List Text} (h : setRules s u ops = some u') :
    u' = putAll u (ops.map (ruleWrites s)) := by
  induction ops generalizing u with
  | nil => exact (Option.some.inj h).symm
  | cons op ops ih =>
    simp only [setRules] at h
    split_ifs at h with hok
    rw [ih h]
    rfl

/-- The order of `listing` is the server's. -/
structure AclTable where
  user : Text → Option AclUser
  listing : List Text
  listed : ∀ n, n ∈ listing ↔ (user n).isSome = true

def AclTable.set (t : AclTable) (name : Text) (u : AclUser) : AclTable where
  user n := if n = name then some u else t.user n
  listing := if name ∈ t.listing then t.listing else t.listing ++ [name]
  listed n := by
    have h := t.listed n
    by_cases hn : n = name
    · subst hn
      by_cases hmem : n ∈ t.listing <;> simp [hmem]
    · by_cases hmem : name ∈ t.listing <;> simp [hmem,hn,h]

def AclTable.del (t : AclTable) (name : Text) : AclTable where
  user n := if n = name then none else t.user n
  listing := t.listing.filter (fun n => n ≠ name)
  listed n := by
    have h := t.listed n
    by_cases hn : n = name <;> simp [hn,h]

inductive AclCommand
  | setuser (name : Text) (rules : List Text)
  | list
  | deluser (name : Text)
  deriving DecidableEq

/-- How one call fares: the two ways to connect, and the commands whose reply
arrives before the timeout. -/
structure AclSession where
  operatorConn : Bool
  plainConn : Bool
  delivers : AclCommand → Bool

/-- `isspace` and the zero byte are refused in user names. -/
def aclStringHasSpaces (name : Text) : Bool :=
  name.any (fun c => (9 ≤ c.toNat && c.toNat ≤ 13) || c == ' ' || c.toNat == 0)

def defaultUsername : Text := "default".toList

def operatorUsername : Text := "operator".toList

def metricsUsername : Text := "metrics".toList

def execCommand (t : AclTable) : AclCommand → Option AclTable
  | .setuser name rules =>
    if aclStringHasSpaces name then none
    else (setRules s ((t.user name).getD freshUser) rules).map (t.set name)
  | .list => some t
  | .deluser name => if name = defaultUsername then none else some (t.del name)

def runCommands (i : AclSession) : List AclCommand → AclTable → AclTable × Bool
  | [], t => (t, false)
  | c :: cs, t =>
    if i.delivers c = false then (t, true)
    else match execCommand s t c with
      | none => (t, true)
      | some t' => runCommands i cs t'

def metricsACLRules : List Text :=
  ["-@all".toList, "+@connection".toList, "+memory".toList, "+config|get".toList, "+info".toList,
    "+scan".toList, "+strlen".toList, "+type".toList, "+xlen".toList, "+xinfo".toList,
    "+zcard".toList, "+scard".toList, "+llen".toList, "+hlen".toList, "+get".toList,
    "+eval".toList, "+slowlog".toList, "+latency".toList, "+cluster|info".toList,
    "+cluster|slots".toList, "+cluster|nodes".toList, "+client".toList, "+pfcount".toList]

def buildACLRules (u : ResolvedACLUser) : List Text :=
  let keyPatterns := if u.keyPatterns = [] then ["~*".toList] else u.keyPatterns
  let commands := if u.commands = [] then "+@all".toList else u.commands
  ['>' :: u.password, "resetchannels".toList, "&*".toList] ++ keyPatterns ++ fields commands

/-- The accounts of steps 1 to 4 with their rules, in the order they are sent. -/
def accounts (c : ACLConfig) : List (Text × List Text) :=
  [(defaultUsername, ["off".toList, "nopass".toList, "resetkeys".toList, "nocommands".toList]),
    (operatorUsername, ["on".toList, '>' :: c.operatorPassword, "~*".toList, "&*".toList,
      "+@all".toList])] ++
  (if c.metricsPassword = [] then []
    else [(metricsUsername, "on".toList :: ('>' :: c.metricsPassword) :: metricsACLRules)]) ++
  c.users.map (fun u => (u.name, "on".toList :: buildACLRules u))

def desired (c : ACLConfig) : List Text := (accounts c).map Prod.fst

def aclList (t : AclTable) : List Text :=
  t.listing.map (fun n =>
    "user".toList ++ ' ' :: (n ++ ' ' :: s.describe ((t.user n).getD freshUser)))

def entryUsername (entry : Text) : Option Text :=
  match fields entry with
  | first :: name :: _ => if first = "user".toList then some name else none
  | _ => none

def staleUsers (c : ACLConfig) (entries : List Text) : List Text :=
  (entries.filterMap entryUsername).filter (fun n => n ∉ desired c)

def removeStaleACLUsers (i : AclSession) (c : ACLConfig) (t : AclTable) : AclTable × Bool :=
  if i.delivers .list = false then (t, true)
  else runCommands s i ((staleUsers c (aclList s t)).map .deluser) t

def applyACLsOnPod (i : AclSession) (c : ACLConfig) (t : AclTable) : AclTable × Bool :=
  if i.operatorConn = false ∧ i.plainConn = false then (t, true)
  else
    let sent := (accounts c).map (fun a => AclCommand.setuser a.1 a.2)
    match runCommands s i sent t with
    | (t', true) => (t', true)
    | (t', false) => removeStaleACLUsers s i c t'

variable {s}

theorem execCommand_setuser {t t' : AclTable} {name : Text} {rules : List Text}
    (h : execCommand s t (.setuser name rules) = some t') :
    t'.user = upsert freshUser t.user (name, rules.map (ruleWrites s)) := by
  simp only [execCommand] at h
  split_ifs at h
  obtain ⟨u,hu,rfl⟩ := Option.map_eq_some_iff.mp h
  funext n
  rw [setRules_eq s hu]
  by_cases hn : n = name
  · simp [AclTable.set,upsert,hn]
  · simp [AclTable.set,upsert,hn]

theorem runCommands_cons {i : AclSession} {c : AclCommand} {cs : List AclCommand}
    {t t' : AclTable} (h : runCommands s i (c :: cs) t = (t', false)) :
    ∃ t₁, execCommand s t c = some t₁ ∧ runCommands s i cs t₁ = (t', false) := by
  simp only [runCommands] at h
  split_ifs at h
  · simp at h
  · cases he : execCommand s t c with
    | none => simp [he] at h
    | some t₁ => exact ⟨t₁, rfl, by simpa [he] using h⟩

def accountWrites (s : AclServer) (accs : List (Text × List Text)) :
    List (Text × List (Write Perm Bool)) :=
  accs.map (fun a => (a.1, a.2.map (ruleWrites s)))

theorem runCommands_setuser {i : AclSession} {accs : List (Text × List Text)} {t t' : AclTable}
    (h : runCommands s i (accs.map (fun a => AclCommand.setuser a.1 a.2)) t = (t', false)) :
    t'.user = (accountWrites s accs).foldl (upsert freshUser) t.user := by
  induction accs generalizing t with
  | nil =>
    obtain rfl : t = t' := (Prod.mk.inj h).1
    rfl
  | cons a accs ih =>
    obtain ⟨t₁,hexec,hrun⟩ := runCommands_cons h
    rw [ih hrun,execCommand_setuser hexec]
    rfl

theorem runCommands_deluser {i : AclSession} {names : List Text} {t t' : AclTable}
    (h : runCommands s i (names.map .deluser) t = (t', false)) (n : Text) :
    t'.user n = if n ∈ names then none else t.user n := by
  induction names generalizing t with
  | nil =>
    obtain rfl : t = t' := (Prod.mk.inj h).1
    rfl
  | cons m names ih =>
    obtain ⟨t₁,hexec,hrun⟩ := runCommands_cons h
    simp only [execCommand] at hexec
    split_ifs at hexec
    obtain rfl := Option.some.inj hexec
    rw [ih hrun]
    by_cases hn : n = m
    · simp [AclTable.del,hn]
    · simp [AclTable.del,hn]

theorem entryUsername_token {entry n : Text} (h : entryUsername entry = some n) : IsToken n := by
  unfold entryUsername at h
  split at h
  next first name rest hf =>
    split_ifs at h
    obtain rfl := Option.some.inj h
    exact fields_token (by rw [hf]; simp)
  next => cases h

theorem entryUsername_line {n : Text} (hn : IsToken n) (description : Text) :
    entryUsername ("user".toList ++ ' ' :: (n ++ ' ' :: description)) = some n := by
  have huser : IsToken "user".toList := by decide
  unfold entryUsername
  rw [fields_token_cons huser (by decide),fields_token_cons hn (by decide)]
  simp

/-- Names with a space of Unicode are legal in Valkey but are not read back
whole from ACL LIST. -/
theorem mem_staleUsers {c : ACLConfig} {t : AclTable} {n : Text} (hn : (t.user n).isSome = true) :
    n ∈ staleUsers c (aclList s t) ↔ n ∉ desired c ∧ IsToken n := by
  simp only [staleUsers,aclList,List.mem_filter,List.mem_filterMap,decide_eq_true_eq]
  constructor
  · intro h
    obtain ⟨⟨entry,-,hentry⟩,hdes⟩ := h
    exact ⟨hdes, entryUsername_token hentry⟩
  · intro h
    refine ⟨⟨_, List.mem_map.mpr ⟨n, (t.listed n).mpr hn, rfl⟩, ?_⟩, h.1⟩
    exact entryUsername_line h.2 _

theorem applyACLsOnPod_user {i : AclSession} {c : ACLConfig} {t t' : AclTable}
    (h : applyACLsOnPod s i c t = (t', false)) (n : Text) :
    t'.user n =
      if n ∈ desired c then
        some (putAll ((t.user n).getD freshUser) (writesFor (accountWrites s (accounts c)) n))
      else if IsToken n then none else t.user n := by
  have hnames : (accountWrites s (accounts c)).map Prod.fst = desired c := by
    simp [accountWrites,desired,Function.comp_def]
  unfold applyACLsOnPod at h
  split_ifs at h with hconn
  · simp at h
  · dsimp only at h
    split at h
    · simp at h
    · next t₁ hset =>
      unfold removeStaleACLUsers at h
      split_ifs at h with hlist
      · simp at h
      · have hsets := runCommands_setuser hset
        have hdels := runCommands_deluser h n
        rw [hdels]
        by_cases hdes : n ∈ desired c
        · have hstay : n ∉ staleUsers c (aclList s t₁) := by simp [staleUsers,hdes]
          rw [if_neg hstay,if_pos hdes,hsets]
          exact upsertAll_named freshUser t.user (by rw [hnames]; exact hdes)
        · have hkeep : t₁.user n = t.user n := by
            rw [hsets]
            exact upsertAll_other freshUser t.user (by rw [hnames]; exact hdes)
          rw [if_neg hdes]
          cases huser : t.user n with
          | none => simp [hkeep,huser]
          | some u =>
            have hsome : (t₁.user n).isSome = true := by simp [hkeep,huser]
            have hstale := mem_staleUsers (s := s) (c := c) hsome
            rw [← huser,← hkeep]
            simp only [hstale,hdes,not_false_eq_true,true_and]

/-- Two calls that return nil leave equal tables exactly when the tables before
agree on whatever no rule sent for an account sets, and on the users that ACL LIST
does not let the operator name. -/
theorem applyACLsOnPod_equal_iff {i j : AclSession} {c : ACLConfig} {t₁ t₂ t₁' t₂' : AclTable}
    (h₁ : applyACLsOnPod s i c t₁ = (t₁', false)) (h₂ : applyACLsOnPod s j c t₂ = (t₂', false)) :
    t₁'.user = t₂'.user ↔
      (∀ n ∈ desired c, ∀ perm, Spares (writesFor (accountWrites s (accounts c)) n) perm →
        (t₁.user n).getD freshUser perm = (t₂.user n).getD freshUser perm) ∧
      ∀ n, n ∉ desired c → ¬ IsToken n → t₁.user n = t₂.user n := by
  have hpoint : ∀ n, t₁'.user n = t₂'.user n ↔
      if n ∈ desired c then
        ∀ perm, Spares (writesFor (accountWrites s (accounts c)) n) perm →
          (t₁.user n).getD freshUser perm = (t₂.user n).getD freshUser perm
      else ¬ IsToken n → t₁.user n = t₂.user n := by
    intro n
    rw [applyACLsOnPod_user h₁,applyACLsOnPod_user h₂]
    by_cases hdes : n ∈ desired c
    · simp only [hdes,if_true,Option.some.injEq]
      exact putAll_eq_iff
    · by_cases htok : IsToken n
      · simp [hdes,htok]
      · simp [hdes,htok]
  constructor
  · intro h
    refine ⟨fun n hn => ?_, fun n hn => ?_⟩
    · have hp := (hpoint n).mp (congrFun h n)
      rwa [if_pos hn] at hp
    · have hp := (hpoint n).mp (congrFun h n)
      rwa [if_neg hn] at hp
  · intro h
    funext n
    refine (hpoint n).mpr ?_
    split_ifs with hn
    · exact h.1 n hn
    · exact h.2 n hn

end

/-- The digests are those of SHA-256. -/
def demoHash (p : Text) : Text :=
  if p = "s3cret".toList then
    "1ec1c26b50d5d3c58d9583181af8076655fe00756bf7285940ba3670f99fcba0".toList
  else if p = "n3w".toList then
    "1dd4d43658e2257be3f31504829536107b671bb92b73e5cae2629749dc0daa14".toList
  else if p = "0ld".toList then
    "9a9f267e2f09dc4c51965582d04dbe55d3b46c7fd57d2beb7ac7092b6ca92193".toList
  else []

def demoWords (u : AclUser) : List Text :=
  (if u .nopass then ["nopass".toList] else []) ++ ["sanitize-payload".toList] ++
    (["s3cret".toList, "n3w".toList, "0ld".toList].map demoHash |>.filter (fun h => u (.password h))).map
      (fun h => '#' :: h) ++
    (if u .allKeys then ["~*".toList] else []) ++
    [if u .allChannels then "&*".toList else "resetchannels".toList,
      if u (.command "get".toList) then "+@all".toList else "-@all".toList]

def demoServer : AclServer where
  hash := demoHash
  covers body command := body = command
  accepts _ := true
  describe u := [' '].intercalate ((if u .enabled then "on".toList else "off".toList) :: demoWords u)

def reachedPod : AclSession := ⟨true, true, fun _ => true⟩

def rotatedConfig : ACLConfig where
  operatorPassword := "s3cret".toList
  metricsPassword := []
  metricsEnabled := false
  users := [⟨"app".toList, "n3w".toList, ["~*".toList], "+@all".toList⟩]

def initialUser : AclUser := fun
  | .enabled => true
  | .nopass => true
  | .allKeys => true
  | .allChannels => true
  | .command _ => true
  | _ => false

def initialTable : AclTable where
  user n := if n = defaultUsername then some initialUser else none
  listing := [defaultUsername]
  listed n := by by_cases hn : n = defaultUsername <;> simp [hn]

def formerTable : AclTable := initialTable.set "legacy".toList initialUser

theorem formerUser_removed :
    (applyACLsOnPod demoServer reachedPod rotatedConfig initialTable).1.user =
      (applyACLsOnPod demoServer reachedPod rotatedConfig formerTable).1.user := by
  have hbefore : ∀ n, n ≠ "legacy".toList → initialTable.user n = formerTable.user n := by
    intro n hn
    exact (if_neg hn).symm
  have hother : ∀ n, n ∈ desired rotatedConfig → n ≠ "legacy".toList := by decide
  have hinitial : applyACLsOnPod demoServer reachedPod rotatedConfig initialTable =
      ((applyACLsOnPod demoServer reachedPod rotatedConfig initialTable).1, false) := rfl
  have hformer : applyACLsOnPod demoServer reachedPod rotatedConfig formerTable =
      ((applyACLsOnPod demoServer reachedPod rotatedConfig formerTable).1, false) := rfl
  refine (applyACLsOnPod_equal_iff hinitial hformer).mpr ⟨?_,?_⟩
  · intro n hn perm _
    rw [hbefore n (hother n hn)]
  · intro n _ hn
    refine hbefore n (fun h => hn ?_)
    rw [h]
    decide

def oldConfig : ACLConfig :=
  { rotatedConfig with users := [⟨"app".toList, "0ld".toList, ["~*".toList], "+@all".toList⟩] }

def servedTable : AclTable := (applyACLsOnPod demoServer reachedPod oldConfig initialTable).1

theorem oldPassword_accepted :
    ¬ ((applyACLsOnPod demoServer reachedPod rotatedConfig initialTable).2 = false →
      (applyACLsOnPod demoServer reachedPod rotatedConfig servedTable).2 = false →
      (applyACLsOnPod demoServer reachedPod rotatedConfig initialTable).1.user =
        (applyACLsOnPod demoServer reachedPod rotatedConfig servedTable).1.user) := by
  intro h
  have huser := congrFun (h rfl rfl) "app".toList
  have hold : ((applyACLsOnPod demoServer reachedPod rotatedConfig servedTable).1.user
      "app".toList).map (fun u => u (.password (demoServer.hash "0ld".toList))) = some true := rfl
  have hnew : ((applyACLsOnPod demoServer reachedPod rotatedConfig initialTable).1.user
      "app".toList).map (fun u => u (.password (demoServer.hash "0ld".toList))) = some false := rfl
  rw [← huser,hnew] at hold
  cases hold

end ValkeyOperator
