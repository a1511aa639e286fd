import ValkeyOperator.NoAccounts

/-!
The account with which the operator gets into a server. A server starts with the password in its
file, and ACL SETUSER reaches it only over a connection that some account has been let in with.
What a server does at its door is a parameter, with what is assumed of it as hypotheses.
-/

set_option autoImplicit false

namespace ValkeyOperator
open TextScan Runs
open Overwrite

structure Network where
  operatorDial : Bool
  plainDial : Bool
  delivers : AclCommand → Bool

def AclCommand.name : AclCommand → Text
  | .setuser _ _ => "acl|setuser".toList
  | .list => "acl|list".toList
  | .deluser _ => "acl|deluser".toList

/-- AUTH, a connection without credentials, a command that an account sends, and the accounts there
are once a file has been read. -/
structure AclDoor where
  auth : AclTable → Text → Text → Bool
  plain : AclTable → Bool
  run : AclTable → Text → AclCommand → Option AclTable
  load : Text → Option AclTable

def MayRun (t : AclTable) (who : Text) (cmd : AclCommand) : Prop :=
  ∃ u, t.user who = some u ∧ u (.command cmd.name) = true

def NoQuotes (conf : Text) : Prop := ∀ ch ∈ conf, ch ≠ '"' ∧ ch ≠ '\''

/-- An account that is on gets in with one of its passwords, nobody gets in without credentials
while the default account is off, a command is run if the account has the right to it, and a file
without quotes brings the accounts of its `user` lines with their rules and no others. -/
structure AclDoor.Faithful (s : AclServer) (door : AclDoor) : Prop where
  auth : ∀ t name password, door.auth t name password = true ↔ ∃ u, t.user name = some u ∧
    u .enabled = true ∧ (u .nopass = true ∨ u (.password (s.hash password)) = true)
  plain : ∀ t, door.plain t = true → ∃ u, t.user defaultUsername = some u ∧ u .enabled = true
  granted : ∀ t who cmd, MayRun t who cmd → door.run t who cmd = execCommand s t cmd
  denied : ∀ t who cmd, ¬ MayRun t who cmd → door.run t who cmd = none
  named : ∀ conf t, NoQuotes conf → door.load conf = some t → ∀ word name rules, IsUserWord word →
    word :: name :: rules ∈ tokenLines conf → ∃ u, setRules s freshUser rules = some u ∧ t.user name = some u
  unnamed : ∀ conf t, NoQuotes conf → door.load conf = some t → ∀ name, name ∉ confAccounts conf →
    t.user name = initialTable.user name

section
variable (s : AclServer) (door : AclDoor)

def connect (net : Network) (password : Text) (t : AclTable) : Option Text :=
  if net.operatorDial && door.auth t operatorUsername password then some operatorUsername
  else if net.plainDial && door.plain t then some defaultUsername
  else none

def runCommandsAs (who : Text) (net : Network) : List AclCommand → AclTable → AclTable × Bool
  | [], t => (t, false)
  | cmd :: cmds, t =>
    if net.delivers cmd = false then (t, true)
    else match door.run t who cmd with
      | none => (t, true)
      | some t' => runCommandsAs who net cmds t'

/-- `applyACLsOnPod` with the server's part in it: it decides who gets in and what they may do. -/
def visitPod (net : Network) (c : ACLConfig) (t : AclTable) : AclTable × Bool :=
  match connect door net c.operatorPassword t with
  | none => (t, true)
  | some who =>
    match runCommandsAs door who net ((accounts c).map (fun a => AclCommand.setuser a.1 a.2)) t with
    | (t', true) => (t', true)
    | (t', false) =>
      if net.delivers .list = false ∨ door.run t' who .list = none then (t', true)
      else runCommandsAs door who net ((staleUsers c (aclList s t')).map .deluser) t'

end

structure OperatorUser (s : AclServer) (password : Text) (u : AclUser) : Prop where
  enabled : u .enabled = true
  nopass : u .nopass = false
  password : ∀ h, u (.password h) = true ↔ h = s.hash password
  commands : ∀ name, u (.command name) = true

structure Sealed (s : AclServer) (password : Text) (t : AclTable) : Prop where
  operator : ∃ u, t.user operatorUsername = some u ∧ OperatorUser s password u
  closed : ∀ u, t.user defaultUsername = some u → u .enabled = false

def OwnNames (c : ACLConfig) : Prop := ∀ u ∈ c.users, ¬ Builtin u.name

section
variable {s : AclServer} {door : AclDoor}

@[simp] theorem AclTable.set_self (t : AclTable) (name : Text) (u : AclUser) :
    (t.set name u).user name = some u := if_pos rfl

theorem AclTable.set_other (t : AclTable) {n name : Text} (h : n ≠ name) (u : AclUser) :
    (t.set name u).user n = t.user n := if_neg h

theorem ruleWrites_password (password : Text) :
    ruleWrites s ('>' :: password) = (Rule.addPassword (s.hash password)).writes s := by
  have hword : keywords.lookup (('>' :: password).map Char.toLower) = none := by
    have hhead : ('>' :: password).map Char.toLower = '>' :: password.map Char.toLower := rfl
    rw [hhead]
    rfl
  unfold ruleWrites parseRule
  rw [hword]
  rfl

theorem operatorRules {u u' : AclUser} {password : Text}
    (h : setRules s u ["on".toList, '>' :: password, "~*".toList, "&*".toList, "+@all".toList] = some u')
    (hu : ∀ hash, u (.password hash) = true → hash = s.hash password) : OperatorUser s password u' := by
  have heq := setRules_eq s h
  simp only [List.map_cons,List.map_nil,ruleWrites_password] at heq
  subst heq
  refine ⟨rfl, rfl, ?_, fun _ => rfl⟩
  intro hash
  have hvalue : putAll u [ruleWrites s "on".toList, (Rule.addPassword (s.hash password)).writes s,
      ruleWrites s "~*".toList, ruleWrites s "&*".toList, ruleWrites s "+@all".toList] (.password hash) =
      (if hash = s.hash password then some true else none).getD (u (.password hash)) := rfl
  rw [hvalue]
  split_ifs with hsame
  · exact iff_of_true rfl hsame
  · exact iff_of_false (fun hold => hsame (hu hash hold)) hsame

theorem defaultRules {u u' : AclUser}
    (h : setRules s u ["off".toList, "nopass".toList, "resetkeys".toList, "nocommands".toList] = some u') :
    u' .enabled = false ∧ ∀ name, u' (.command name) = false := by
  have heq := setRules_eq s h
  subst heq
  exact ⟨rfl, fun _ => rfl⟩

theorem execCommand_set {t t' : AclTable} {name : Text} {rules : List Text}
    (h : execCommand s t (.setuser name rules) = some t') :
    ∃ u, setRules s ((t.user name).getD freshUser) rules = some u ∧ t'.user name = some u ∧
      ∀ n, n ≠ name → t'.user n = t.user n := by
  simp only [execCommand] at h
  split_ifs at h
  obtain ⟨u,hu,rfl⟩ := Option.map_eq_some_iff.mp h
  exact ⟨u, hu, t.set_self name u, fun n hn => t.set_other hn u⟩

theorem execCommand_del {t t' : AclTable} {name : Text} (h : execCommand s t (.deluser name) = some t') :
    ∀ n, n ≠ name → t'.user n = t.user n := by
  simp only [execCommand] at h
  split_ifs at h
  obtain rfl := Option.some.inj h
  intro n hn
  exact if_neg hn

theorem accounts_cases {c : ACLConfig} (hc : OwnNames c) {a : Text × List Text} (ha : a ∈ accounts c) :
    a = (defaultUsername, ["off".toList, "nopass".toList, "resetkeys".toList, "nocommands".toList]) ∨
      a = (operatorUsername, ["on".toList, '>' :: c.operatorPassword, "~*".toList, "&*".toList,
        "+@all".toList]) ∨ ¬ Builtin a.1 := by
  simp only [accounts,List.mem_append,List.mem_cons,List.not_mem_nil,or_false,List.mem_map] at ha
  rcases ha with ((rfl | rfl) | ha) | ⟨u,hu,rfl⟩
  · exact .inl rfl
  · exact .inr (.inl rfl)
  · refine .inr (.inr ?_)
    split_ifs at ha
    · cases ha
    · have hmetrics : ¬ Builtin metricsUsername := by
        unfold Builtin
        decide
      rw [List.mem_singleton.mp ha]
      exact hmetrics
  · exact .inr (.inr (hc u hu))

theorem Sealed.user {password : Text} {t t' : AclTable} (h : Sealed s password t)
    (hdefault : t'.user defaultUsername = t.user defaultUsername)
    (hoperator : t'.user operatorUsername = t.user operatorUsername) : Sealed s password t' := by
  refine ⟨?_, ?_⟩
  · rw [hoperator]
    exact h.operator
  · rw [hdefault]
    exact h.closed

theorem Sealed.set {password : Text} {c : ACLConfig} (hc : OwnNames c)
    (hsame : s.hash c.operatorPassword = s.hash password) {a : Text × List Text} (ha : a ∈ accounts c)
    {t t' : AclTable} (h : Sealed s password t) (hexec : execCommand s t (.setuser a.1 a.2) = some t') :
    Sealed s password t' := by
  obtain ⟨u,hu,hnew,hother⟩ := execCommand_set hexec
  rcases accounts_cases hc ha with rfl | rfl | hown
  · refine ⟨?_, ?_⟩
    · rw [hother _ (by decide)]
      exact h.operator
    · intro u' hu'
      rw [hnew] at hu'
      exact Option.some.inj hu' ▸ (defaultRules hu).1
  · obtain ⟨old,hold,hoperator⟩ := h.operator
    simp only [hold,Option.getD_some] at hu
    have hrules : OperatorUser s c.operatorPassword u :=
      operatorRules hu (fun hash hhash => ((hoperator.password hash).mp hhash).trans hsame.symm)
    refine ⟨⟨u, hnew, hrules.enabled, hrules.nopass, ?_, hrules.commands⟩, ?_⟩
    · intro hash
      rw [hrules.password,hsame]
    · have hname : defaultUsername ≠ operatorUsername := by decide
      rw [hother _ hname]
      exact h.closed
  · exact h.user (hother _ (fun heq => hown (.inl heq.symm))) (hother _ (fun heq => hown (.inr heq.symm)))

theorem Sealed.del {password : Text} {c : ACLConfig} {n : Text} (hn : n ∉ desired c) {t t' : AclTable}
    (h : Sealed s password t) (hexec : execCommand s t (.deluser n) = some t') : Sealed s password t' := by
  have hother := execCommand_del hexec
  refine h.user (hother _ ?_) (hother _ ?_)
  · rintro rfl
    exact hn (List.mem_map.mpr ⟨_, List.mem_cons_self, rfl⟩)
  · rintro rfl
    exact hn (List.mem_map.mpr ⟨_, List.mem_cons_of_mem _ List.mem_cons_self, rfl⟩)

theorem AclDoor.Faithful.run_some (h : door.Faithful s) {t t' : AclTable} {who : Text} {cmd : AclCommand}
    (hrun : door.run t who cmd = some t') : execCommand s t cmd = some t' := by
  by_cases hmay : MayRun t who cmd
  · rw [← h.granted t who cmd hmay]
    exact hrun
  · rw [h.denied t who cmd hmay] at hrun
    cases hrun

theorem Sealed.auth_iff {password : Text} {t : AclTable} (h : Sealed s password t) (hdoor : door.Faithful s)
    (offered : Text) : door.auth t operatorUsername offered = true ↔ s.hash offered = s.hash password := by
  obtain ⟨u,hu,hoperator⟩ := h.operator
  rw [hdoor.auth,← hoperator.password]
  constructor
  · rintro ⟨u',hu',-,hpassword⟩
    obtain rfl := Option.some.inj (hu.symm.trans hu')
    rw [hoperator.nopass] at hpassword
    exact hpassword.resolve_left Bool.false_ne_true
  · intro hpassword
    exact ⟨u, hu, hoperator.enabled, .inr hpassword⟩

theorem Sealed.notPlain {password : Text} {t : AclTable} (h : Sealed s password t) (hdoor : door.Faithful s) :
    door.plain t = false := by
  rw [Bool.eq_false_iff]
  intro hplain
  obtain ⟨u,hu,hon⟩ := hdoor.plain t hplain
  rw [h.closed u hu] at hon
  cases hon

theorem Sealed.run_eq {password : Text} {t : AclTable} (h : Sealed s password t) (hdoor : door.Faithful s)
    (cmd : AclCommand) : door.run t operatorUsername cmd = execCommand s t cmd := by
  obtain ⟨u,hu,hoperator⟩ := h.operator
  exact hdoor.granted t _ cmd ⟨u, hu, hoperator.commands _⟩

/-- An account that keeps the right to run what it sends is never stopped for it. -/
theorem runCommandsAs_eq {P : AclTable → Prop} {who : Text} {net : Network} {i : AclSession}
    (hi : i.delivers = net.delivers) {cs : List AclCommand}
    (hstep : ∀ c ∈ cs, ∀ t t', P t → execCommand s t c = some t' → P t')
    (hrun : ∀ t, P t → ∀ cmd, door.run t who cmd = execCommand s t cmd) {t : AclTable} (h : P t) :
    runCommandsAs door who net cs t = runCommands s i cs t := by
  induction cs generalizing t with
  | nil => rfl
  | cons c cs ih =>
    unfold runCommandsAs runCommands
    simp only [hrun t h,hi]
    split_ifs
    · rfl
    · cases hexec : execCommand s t c with
      | none => rfl
      | some t' =>
        exact ih (fun c' hc' => hstep c' (List.mem_cons_of_mem c hc')) (hstep c List.mem_cons_self t t' h hexec)

theorem Sealed.visit_eq {password : Text} {c : ACLConfig} (hc : OwnNames c)
    (hsame : s.hash c.operatorPassword = s.hash password) {t : AclTable} (h : Sealed s password t)
    (hdoor : door.Faithful s) {net : Network} (hdial : net.operatorDial = true) :
    visitPod s door net c t = applyACLsOnPod s ⟨true, net.plainDial, net.delivers⟩ c t := by
  have hconnect : connect door net c.operatorPassword t = some operatorUsername := by
    rw [connect,hdial,(h.auth_iff hdoor c.operatorPassword).mpr hsame]
    rfl
  have hset : ∀ cmd ∈ (accounts c).map (fun a => AclCommand.setuser a.1 a.2), ∀ t t', Sealed s password t →
      execCommand s t cmd = some t' → Sealed s password t' := by
    intro cmd hcmd t t' ht hexec
    obtain ⟨a,ha,rfl⟩ := List.mem_map.mp hcmd
    exact ht.set hc hsame ha hexec
  have hdel : ∀ t₀, ∀ cmd ∈ (staleUsers c (aclList s t₀)).map AclCommand.deluser, ∀ t t', Sealed s password t →
      execCommand s t cmd = some t' → Sealed s password t' := by
    intro t₀ cmd hcmd t t' ht hexec
    obtain ⟨n,hn,rfl⟩ := List.mem_map.mp hcmd
    exact ht.del (by simpa using (List.mem_filter.mp hn).2) hexec
  have hrun : ∀ t, Sealed s password t → ∀ cmd, door.run t operatorUsername cmd = execCommand s t cmd :=
    fun _ ht cmd => ht.run_eq hdoor cmd
  have hsent : Sealed s password (runCommands s ⟨true, net.plainDial, net.delivers⟩
      ((accounts c).map (fun a => AclCommand.setuser a.1 a.2)) t).1 := runCommands_keeps hset h
  unfold visitPod applyACLsOnPod
  rw [hconnect]
  dsimp only
  rw [runCommandsAs_eq (i := ⟨true, net.plainDial, net.delivers⟩) rfl hset hrun h,if_neg (by simp)]
  generalize runCommands s ⟨true, net.plainDial, net.delivers⟩ _ t = sent at hsent ⊢
  obtain ⟨t',failed⟩ := sent
  cases failed with
  | true => rfl
  | false =>
    have hlist : door.run t' operatorUsername .list ≠ none := by
      rw [hsent.run_eq hdoor]
      exact Option.some_ne_none _
    unfold removeStaleACLUsers
    simp only [hlist,or_false]
    split_ifs
    · rfl
    · exact runCommandsAs_eq rfl (hdel t') hrun hsent

theorem Sealed.visit_other {password : Text} {c : ACLConfig} {t : AclTable} (h : Sealed s password t)
    (hdoor : door.Faithful s) (net : Network)
    (hother : net.operatorDial = false ∨ s.hash c.operatorPassword ≠ s.hash password) :
    visitPod s door net c t = (t, true) := by
  have hconnect : connect door net c.operatorPassword t = none := by
    have hoperator : (net.operatorDial && door.auth t operatorUsername c.operatorPassword) = false := by
      rw [Bool.and_eq_false_iff]
      refine hother.imp_right ?_
      intro hne
      rw [Bool.eq_false_iff]
      exact fun hauth => hne ((h.auth_iff hdoor _).mp hauth)
    rw [connect,hoperator,h.notPlain hdoor,Bool.and_false]
    rfl
  rw [visitPod,hconnect]

theorem Sealed.visit {password : Text} {c : ACLConfig} (hc : OwnNames c) {t : AclTable} (h : Sealed s password t)
    (hdoor : door.Faithful s) (net : Network) : Sealed s password (visitPod s door net c t).1 := by
  by_cases hin : net.operatorDial = true ∧ s.hash c.operatorPassword = s.hash password
  · rw [h.visit_eq hc hin.2 hdoor hin.1]
    refine applyACLsOnPod_keeps (Sealed s password) ?_ ?_ h
    · intro a ha t t' ht hexec
      exact ht.set hc hin.2 ha hexec
    · intro n hn t t' ht hexec
      exact ht.del hn hexec
  · rw [h.visit_other hdoor net (by rw [not_and_or] at hin; exact hin.imp_left Bool.eq_false_iff.mpr)]
    exact h

/-- After the first command of a pass `default` may run nothing at all. -/
theorem defaultRules_denied (hdoor : door.Faithful s) {t t' : AclTable}
    (h : execCommand s t (.setuser defaultUsername
      ["off".toList, "nopass".toList, "resetkeys".toList, "nocommands".toList]) = some t') (cmd : AclCommand) :
    door.run t' defaultUsername cmd = none := by
  obtain ⟨u,hu,hnew,-⟩ := execCommand_set h
  refine hdoor.denied t' _ cmd ?_
  rintro ⟨u',hu',hmay⟩
  obtain rfl := Option.some.inj (hnew.symm.trans hu')
  rw [(defaultRules hu).2] at hmay
  cases hmay

theorem runCommandsAs_denied {t : AclTable} {who : Text} (h : ∀ cmd, door.run t who cmd = none) (net : Network)
    (cmd : AclCommand) (cmds : List AclCommand) : runCommandsAs door who net (cmd :: cmds) t = (t, true) := by
  unfold runCommandsAs
  rw [h]
  exact ite_self _

/-- Without an account of its own the operator comes in as `default`, and the first thing it sends
takes from `default` the right to send the next. -/
theorem visit_withoutAccount (hdoor : door.Faithful s) {t : AclTable} (h : t.user operatorUsername = none)
    {c : ACLConfig} (net : Network) :
    (visitPod s door net c t).1.user operatorUsername = none ∧ (visitPod s door net c t).2 = true := by
  have hauth : door.auth t operatorUsername c.operatorPassword = false := by
    rw [Bool.eq_false_iff,Ne,hdoor.auth,h]
    rintro ⟨u,hu,-⟩
    cases hu
  unfold visitPod connect
  rw [hauth,Bool.and_false]
  simp only [Bool.false_eq_true,if_false]
  split_ifs
  · -- the two accounts that are sent first
    have hsent : (accounts c).map (fun a => AclCommand.setuser a.1 a.2) =
        .setuser defaultUsername ["off".toList, "nopass".toList, "resetkeys".toList, "nocommands".toList] ::
        .setuser operatorUsername ["on".toList, '>' :: c.operatorPassword, "~*".toList, "&*".toList,
          "+@all".toList] :: ((accounts c).drop 2).map (fun a => AclCommand.setuser a.1 a.2) := rfl
    rw [hsent]
    dsimp only
    unfold runCommandsAs
    split_ifs
    · exact ⟨h, rfl⟩
    · cases hrun : door.run t defaultUsername (.setuser defaultUsername ["off".toList, "nopass".toList,
          "resetkeys".toList, "nocommands".toList]) with
      | none => exact ⟨h, rfl⟩
      | some t' =>
        have hexec := hdoor.run_some hrun
        obtain ⟨-,-,-,hother⟩ := execCommand_set hexec
        have hname : operatorUsername ≠ defaultUsername := by decide
        dsimp only
        rw [runCommandsAs_denied (defaultRules_denied hdoor hexec)]
        exact ⟨(hother _ hname).trans h, rfl⟩
  · exact ⟨h, rfl⟩

theorem Sealed.load (hdoor : door.Faithful s) {spec : ConfSpec} {c : ACLConfig}
    (hpassword : IsToken c.operatorPassword) {t : AclTable}
    (hquotes : NoQuotes (buildValkeyConfig spec c.operatorPassword c.metricsPassword c.users))
    (h : door.load (buildValkeyConfig spec c.operatorPassword c.metricsPassword c.users) = some t) :
    Sealed s c.operatorPassword t := by
  have huser : IsUserWord "user".toList := by decide
  have hlines : ∀ a ∈ operatorAccounts c.operatorPassword,
      ∃ u, setRules s freshUser a.2 = some u ∧ t.user a.1 = some u := by
    intro a ha
    refine hdoor.named _ t hquotes h _ a.1 a.2 huser ?_
    rw [conf_lines,operatorLines_tokens hpassword]
    have hline : accountLine a ∈ (operatorAccounts c.operatorPassword).map accountLine := List.mem_map_of_mem ha
    simp only [List.mem_append]
    exact .inl (.inl (.inl (.inl (.inl (.inr (.inr hline))))))
  obtain ⟨ud,hud,hdefault⟩ := hlines _ List.mem_cons_self
  obtain ⟨uo,huo,hoperator⟩ := hlines _ (List.mem_cons_of_mem _ List.mem_cons_self)
  refine ⟨⟨uo, hoperator, operatorRules huo (fun _ hfresh => by cases hfresh)⟩, ?_⟩
  intro u hu
  obtain rfl := Option.some.inj (hdefault.symm.trans hu)
  rw [setRules_eq s hud]
  rfl

end

structure StartedPod where
  table : AclTable
  masterauth : Text

/-- A server starts from the file that some spec and Secrets give, or a pass comes to it with the
accounts as they are then. -/
inductive AccountEvent
  | start (name : Text) (i : ConfInput) (spec : ConfSpec)
  | visit (name : Text) (net : Network) (c : ACLConfig)

section
variable (s : AclServer) (door : AclDoor)

def startPod (i : ConfInput) (spec : ConfSpec) : Option StartedPod :=
  match resolveConf i spec, reconcileConfigMap i spec with
  | .ok c, .ok conf => (door.load conf).map (fun t => ⟨t, c.operatorPassword⟩)
  | _, _ => none

/-- What is put out is whether a visit has failed. -/
def accountStep (pods : Text → Option StartedPod) : AccountEvent → (Text → Option StartedPod) × Bool
  | .start name i spec => (Function.update pods name (startPod door i spec), false)
  | .visit name net c =>
    match pods name with
    | none => (pods, true)
    | some pod =>
      let r := visitPod s door net c pod.table
      (Function.update pods name (some { pod with table := r.1 }), r.2)

end

/-- A file has no quotes, a password in it is one word, and without one no other line brings the
account in its place; and no application has the name of one of the operator's accounts. -/
def AccountLaw : AccountEvent → Prop
  | .start _ i spec => ∀ c conf, resolveConf i spec = .ok c → reconcileConfigMap i spec = .ok conf →
      NoQuotes conf ∧ (IsToken c.operatorPassword ∨
        c.operatorPassword = [] ∧ operatorUsername ∉ confAccounts conf)
  | .visit _ _ c => OwnNames c

structure StartedPod.Kept (s : AclServer) (pod : StartedPod) : Prop where
  sealed : pod.masterauth ≠ [] → Sealed s pod.masterauth pod.table
  absent : pod.masterauth = [] → pod.table.user operatorUsername = none

section
variable {s : AclServer} {door : AclDoor} (hdoor : door.Faithful s)
include hdoor

theorem StartedPod.kept_start {i : ConfInput} {spec : ConfSpec}
    (hlaw : ∀ c conf, resolveConf i spec = .ok c → reconcileConfigMap i spec = .ok conf →
      NoQuotes conf ∧ (IsToken c.operatorPassword ∨
        c.operatorPassword = [] ∧ operatorUsername ∉ confAccounts conf))
    {pod : StartedPod} (h : startPod door i spec = some pod) : pod.Kept s := by
  unfold startPod at h
  split at h
  · next c conf hc hconf =>
    obtain ⟨t,ht,rfl⟩ := Option.map_eq_some_iff.mp h
    obtain ⟨hquotes,hcases⟩ := hlaw c conf hc hconf
    rcases hcases with htoken | ⟨hempty,hnone⟩
    · rw [reconcileConfigMap_ok hc hconf] at ht hquotes
      exact ⟨fun _ => Sealed.load hdoor htoken hquotes ht, fun hnil => absurd hnil htoken.1⟩
    · have hoperator : initialTable.user operatorUsername = none := by decide
      exact ⟨fun hne => absurd hempty hne, fun _ => (hdoor.unnamed conf t hquotes ht _ hnone).trans hoperator⟩
  · cases h

theorem StartedPod.Kept.visit {pod : StartedPod} (h : pod.Kept s) {c : ACLConfig} (hc : OwnNames c) (net : Network) :
    ({ pod with table := (visitPod s door net c pod.table).1 } : StartedPod).Kept s :=
  ⟨fun hne => (h.sealed hne).visit hc hdoor net, fun hnil => (visit_withoutAccount hdoor (h.absent hnil) net).1⟩

theorem kept_accountStep {pods : Text → Option StartedPod} (h : ∀ name pod, pods name = some pod → pod.Kept s)
    {e : AccountEvent} (hlaw : AccountLaw e) :
    ∀ name pod, (accountStep s door pods e).1 name = some pod → pod.Kept s := by
  cases e with
  | start name i spec =>
    intro other pod hpod
    by_cases heq : other = name
    · simp only [accountStep,heq,Function.update_self] at hpod
      exact StartedPod.kept_start hdoor hlaw hpod
    · simp only [accountStep,Function.update_of_ne heq] at hpod
      exact h other pod hpod
  | visit name net c =>
    intro other pod hpod
    unfold accountStep at hpod
    cases hold : pods name with
    | none =>
      simp only [hold] at hpod
      exact h other pod hpod
    | some old =>
      simp only [hold] at hpod
      by_cases heq : other = name
      · simp only [heq,Function.update_self,Option.some.injEq] at hpod
        exact hpod ▸ StartedPod.Kept.visit hdoor (h name old hold) hlaw net
      · simp only [Function.update_of_ne heq] at hpod
        exact h other pod hpod

theorem kept_accounts {events : List AccountEvent} (hlaw : ∀ e ∈ events, AccountLaw e) {name : Text}
    {pod : StartedPod} (hpod : final (accountStep s door) (fun _ => none) events name = some pod) :
    pod.Kept s := by
  have hrun : Along (accountStep s door) (fun _ => AccountLaw) (fun _ => none) events := along_of_forall _ hlaw
  refine hrun.final (fun _ pods => ∀ name pod, pods name = some pod → pod.Kept s) ?_ ?_ name pod hpod
  · intro name pod hnone
    cases hnone
  · intro _ pods e h hlaw
    exact kept_accountStep hdoor h hlaw

/-- A server lets the operator in with the password of its own file and with no other as long as it
runs. A pass with any other password fails and changes nothing, so a new one never takes effect. -/
theorem operatorPassword_frozen {events : List AccountEvent} (hlaw : ∀ e ∈ events, AccountLaw e) {name : Text}
    {pod : StartedPod} (hpod : final (accountStep s door) (fun _ => none) events name = some pod)
    (hpassword : pod.masterauth ≠ []) :
    (∀ password, door.auth pod.table operatorUsername password = true ↔
        s.hash password = s.hash pod.masterauth) ∧
      ∀ net c, s.hash c.operatorPassword ≠ s.hash pod.masterauth →
        visitPod s door net c pod.table = (pod.table, true) := by
  have hsealed := (kept_accounts hdoor hlaw hpod).sealed hpassword
  exact ⟨hsealed.auth_iff hdoor, fun net c hother => hsealed.visit_other hdoor net (.inr hother)⟩

/-- A server that has started without a password for the operator never gets an account for it: the
connection without credentials is there to make one, and every pass over it fails. -/
theorem operatorAccount_neverMade {events : List AccountEvent} (hlaw : ∀ e ∈ events, AccountLaw e) {name : Text}
    {pod : StartedPod} (hpod : final (accountStep s door) (fun _ => none) events name = some pod)
    (hpassword : pod.masterauth = []) :
    pod.table.user operatorUsername = none ∧ ∀ net c, (visitPod s door net c pod.table).2 = true := by
  have habsent := (kept_accounts hdoor hlaw hpod).absent hpassword
  exact ⟨habsent, fun net c => (visit_withoutAccount hdoor habsent net).2⟩

end

section
variable (s : AclServer)

def loadLine (loaded : List Text × AclTable) : List Text → Option (List Text × AclTable)
  | word :: name :: rules =>
    if ¬ IsUserWord word then some loaded
    else if among name loaded.1 = true ∨ aclStringHasSpaces name = true then none
    else (setRules s freshUser rules).map (fun u => (name :: loaded.1, loaded.2.set name u))
  | _ => some loaded

/-- A server that reads its file line by line and looks up every right in its table. -/
def tableDoor : AclDoor where
  auth t name password := (t.user name).any (fun u => u .enabled && (u .nopass || u (.password (s.hash password))))
  plain t := (t.user defaultUsername).any (fun u => u .enabled && u .nopass)
  run t who cmd := if (t.user who).any (fun u => u (.command cmd.name)) then execCommand s t cmd else none
  load conf := ((tokenLines conf).foldlM (loadLine s) ([], initialTable)).map Prod.snd

end

section
variable {s : AclServer}

theorem loadLine_user {loaded loaded' : List Text × AclTable} {word name : Text} {rules : List Text}
    (hword : IsUserWord word) (h : loadLine s loaded (word :: name :: rules) = some loaded') :
    ∃ u, name ∉ loaded.1 ∧ setRules s freshUser rules = some u ∧
      loaded' = (name :: loaded.1, loaded.2.set name u) := by
  rw [loadLine,if_neg (not_not_intro hword)] at h
  split_ifs at h with hname
  obtain ⟨u,hu,rfl⟩ := Option.map_eq_some_iff.mp h
  exact ⟨u, fun hmem => hname (.inl (among_iff.mpr hmem)), hu, rfl⟩

theorem loadLine_cases {loaded loaded' : List Text × AclTable} {line : List Text}
    (h : loadLine s loaded line = some loaded') :
    loaded' = loaded ∨ ∃ name u, lineAccount line = some name ∧ name ∉ loaded.1 ∧
      loaded' = (name :: loaded.1, loaded.2.set name u) := by
  match line with
  | [] => exact .inl (Option.some.inj h).symm
  | [_] => exact .inl (Option.some.inj h).symm
  | word :: name :: rules =>
    by_cases hword : IsUserWord word
    · obtain ⟨u,hname,-,heq⟩ := loadLine_user hword h
      exact .inr ⟨name, u, if_pos hword, hname, heq⟩
    · rw [loadLine,if_pos hword] at h
      exact .inl (Option.some.inj h).symm

theorem loadLine_keeps {P : List Text × AclTable → Prop} {lines : List (List Text)}
    (hstep : ∀ line ∈ lines, ∀ loaded loaded', P loaded → loadLine s loaded line = some loaded' → P loaded')
    {loaded loaded' : List Text × AclTable} (h : lines.foldlM (loadLine s) loaded = some loaded') (hP : P loaded) :
    P loaded' := by
  induction lines generalizing loaded with
  | nil => exact Option.some.inj h ▸ hP
  | cons line rest ih =>
    rw [List.foldlM_cons,Option.bind_eq_bind,Option.bind_eq_some_iff] at h
    obtain ⟨next,hnext,hrest⟩ := h
    exact ih (fun x hx => hstep x (List.mem_cons_of_mem line hx)) hrest
      (hstep line List.mem_cons_self loaded next hP hnext)

theorem load_keepsLoaded {lines : List (List Text)} {loaded loaded' : List Text × AclTable}
    (h : lines.foldlM (loadLine s) loaded = some loaded') {n : Text} (hn : n ∈ loaded.1) :
    loaded'.2.user n = loaded.2.user n := by
  have hkept : n ∈ loaded'.1 ∧ loaded'.2.user n = loaded.2.user n := by
    refine loadLine_keeps (P := fun l => n ∈ l.1 ∧ l.2.user n = loaded.2.user n) ?_ h ⟨hn, rfl⟩
    intro line _ l l' hl hline
    rcases loadLine_cases hline with rfl | ⟨name,u,-,hname,rfl⟩
    · exact hl
    · have hne : n ≠ name := fun heq => hname (heq ▸ hl.1)
      exact ⟨List.mem_cons_of_mem name hl.1, (l.2.set_other hne u).trans hl.2⟩
  exact hkept.2

theorem load_named {lines : List (List Text)} {loaded loaded' : List Text × AclTable}
    (h : lines.foldlM (loadLine s) loaded = some loaded') {word name : Text} {rules : List Text}
    (hword : IsUserWord word) (hline : word :: name :: rules ∈ lines) :
    ∃ u, setRules s freshUser rules = some u ∧ loaded'.2.user name = some u := by
  obtain ⟨before,after,rfl⟩ := List.append_of_mem hline
  rw [List.foldlM_append,Option.bind_eq_bind,Option.bind_eq_some_iff] at h
  obtain ⟨first,-,h⟩ := h
  rw [List.foldlM_cons,Option.bind_eq_bind,Option.bind_eq_some_iff] at h
  obtain ⟨next,hnext,hrest⟩ := h
  obtain ⟨u,-,hu,rfl⟩ := loadLine_user hword hnext
  exact ⟨u, hu, (load_keepsLoaded hrest List.mem_cons_self).trans (AclTable.set_self ..)⟩

theorem load_unnamed {lines : List (List Text)} {n : Text} (hn : n ∉ lines.filterMap lineAccount)
    {loaded loaded' : List Text × AclTable} (h : lines.foldlM (loadLine s) loaded = some loaded') :
    loaded'.2.user n = loaded.2.user n := by
  refine loadLine_keeps (P := fun l => l.2.user n = loaded.2.user n) ?_ h rfl
  intro line hmem l l' hl hline
  rcases loadLine_cases hline with rfl | ⟨name,u,haccount,-,rfl⟩
  · exact hl
  · have hne : n ≠ name := fun heq => hn (heq ▸ List.mem_filterMap.mpr ⟨line, hmem, haccount⟩)
    exact (l.2.set_other hne u).trans hl

theorem tableDoor_faithful (s : AclServer) : (tableDoor s).Faithful s where
  auth t name password := by simp [tableDoor,Option.any_eq_true]
  plain t h := by
    obtain ⟨u,hu,hon⟩ := (Option.any_eq_true _ _).mp h
    exact ⟨u, hu, (Bool.and_eq_true_iff.mp hon).1⟩
  granted t who cmd h := if_pos ((Option.any_eq_true _ _).mpr h)
  denied t who cmd h := if_neg (fun hany => h ((Option.any_eq_true _ _).mp hany))
  named conf t _ h word name rules hword hline := by
    obtain ⟨loaded,hloaded,rfl⟩ := Option.map_eq_some_iff.mp h
    exact load_named hloaded hword hline
  unnamed conf t _ h name hname := by
    obtain ⟨loaded,hloaded,rfl⟩ := Option.map_eq_some_iff.mp h
    exact load_unnamed hname hloaded

end

theorem app_notBuiltin : ¬ Builtin "app".toList := by
  unfold Builtin
  decide

theorem noQuotes_of_all {conf : Text} (h : conf.all (fun ch => ch != '"' && ch != '\'') = true) :
    NoQuotes conf := by
  intro ch hch
  simpa using List.all_eq_true.mp h ch hch

def reachableServer : Network := ⟨true, true, fun _ => true⟩

def rotationRun : List AccountEvent :=
  [.start "vk-1".toList (appSecrets "n3w".toList) appSpec,
   .visit "vk-1".toList reachableServer (appAccounts "n3w".toList),
   .visit "vk-1".toList reachableServer rotatedConfig]

theorem rotationRun_lawful : ∀ e ∈ rotationRun, AccountLaw e := by
  have hfile : NoQuotes (appConf "n3w".toList) := noQuotes_of_all (by decide +kernel)
  simp only [rotationRun,List.forall_mem_cons,AccountLaw]
  refine ⟨?_, ?_, ?_, List.forall_mem_nil _⟩
  · intro c conf hc hconf
    cases hc
    rw [appSecrets_conf] at hconf
    exact Except.ok.inj hconf ▸ ⟨hfile, .inl (by decide)⟩
  · intro u hu
    rw [List.mem_singleton.mp hu]
    exact app_notBuiltin
  · intro u hu
    rw [List.mem_singleton.mp hu]
    exact app_notBuiltin

def demoDoor : AclDoor := tableDoor demoServer

theorem rotationRun_lockedOut : ∃ pod,
    final (accountStep demoServer demoDoor) (fun _ => none) rotationRun "vk-1".toList = some pod ∧
      pod.masterauth = "op-pw".toList ∧ demoDoor.auth pod.table operatorUsername "op-pw".toList = true ∧
      visitPod demoServer demoDoor reachableServer rotatedConfig pod.table = (pod.table, true) := by
  have hstarted : (final (accountStep demoServer demoDoor) (fun _ => none) rotationRun "vk-1".toList).map
      (fun pod => pod.masterauth) = some "op-pw".toList := by
    decide +kernel
  obtain ⟨pod,hpod,hauth⟩ := Option.map_eq_some_iff.mp hstarted
  have hfrozen := operatorPassword_frozen (tableDoor_faithful demoServer) rotationRun_lawful hpod
    (by rw [hauth]; decide)
  rw [hauth] at hfrozen
  exact ⟨pod, hpod, hauth, (hfrozen.1 _).mpr rfl, hfrozen.2 _ _ (by decide)⟩

def emptySecret : ConfInput := { appSecrets [] with secret := fun _ => .ok (fun _ => some []) }

def lateSecretRun : List AccountEvent :=
  [.start "vk-2".toList emptySecret bareSpec,
   .visit "vk-2".toList reachableServer ⟨[], [], false, []⟩,
   .visit "vk-2".toList reachableServer rotatedConfig]

theorem lateSecretRun_lawful : ∀ e ∈ lateSecretRun, AccountLaw e := by
  have hresolved : resolveConf emptySecret bareSpec = .ok ⟨[], [], false, []⟩ := rfl
  have hfile : NoQuotes (buildValkeyConfig bareSpec [] [] []) := noQuotes_of_all (by decide +kernel)
  have hnone : operatorUsername ∉ confAccounts (buildValkeyConfig bareSpec [] [] []) := by decide +kernel
  simp only [lateSecretRun,List.forall_mem_cons,AccountLaw]
  refine ⟨?_, ?_, ?_, List.forall_mem_nil _⟩
  · intro c conf hc hconf
    rw [reconcileConfigMap_ok hc hconf]
    rw [hresolved] at hc
    obtain rfl := Except.ok.inj hc
    exact ⟨hfile, .inr ⟨rfl, hnone⟩⟩
  · exact fun u hu => absurd hu List.not_mem_nil
  · intro u hu
    rw [List.mem_singleton.mp hu]
    exact app_notBuiltin

theorem lateSecretRun_lockedOut : ∃ pod,
    final (accountStep demoServer demoDoor) (fun _ => none) lateSecretRun "vk-2".toList = some pod ∧
      pod.table.user operatorUsername = none ∧
      (visitPod demoServer demoDoor reachableServer rotatedConfig pod.table).2 = true := by
  have hstarted : (final (accountStep demoServer demoDoor) (fun _ => none) lateSecretRun "vk-2".toList).map
      (fun pod => pod.masterauth) = some [] := by
    decide +kernel
  obtain ⟨pod,hpod,hauth⟩ := Option.map_eq_some_iff.mp hstarted
  have hnever := operatorAccount_neverMade (tableDoor_faithful demoServer) lateSecretRun_lawful hpod hauth
  exact ⟨pod, hpod, hnever.1, hnever.2 _ _⟩

end ValkeyOperator
