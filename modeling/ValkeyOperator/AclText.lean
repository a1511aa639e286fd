import ValkeyOperator.ValkeyConf

/-!
The text under the ACL hash. Its parts are printed without quotes, so what separates two
configurations is whether a part can contain the character that ends it.
-/

set_option autoImplicit false

namespace ValkeyOperator
open TextScan

def resolveACLConfig (i : ConfInput) (spec : ConfSpec) : Except Text ACLConfig := do
  let operatorPassword ← wrapErr "resolving operator secret: " (resolveSecretKey i spec.operatorSecret)
  let users ← resolveACLUsers i spec.aclUsers
  let metricsPassword ← wrapErr "resolving metrics secret: " (resolveMetrics i spec)
  let metricsEnabled := spec.metrics.any (fun metrics => metrics.enabled)
  return ⟨operatorPassword, metricsPassword, metricsEnabled, users⟩

def Resolved (c : ACLConfig) : Prop := ∃ i spec, resolveACLConfig i spec = .ok c

theorem bind_ok {α β : Type} {x : Except Text α} {f : α → Except Text β} {r : β}
    (h : (x >>= f) = .ok r) : ∃ a, x = .ok a ∧ f a = .ok r := by
  cases x with
  | error err => cases h
  | ok a => exact ⟨a, rfl, h⟩

theorem resolveACLUser_patterns {i : ConfInput} {spec : ACLUserSpec} {u : ResolvedACLUser}
    (h : resolveACLUser i spec = .ok u) : ∀ kp ∈ u.keyPatterns, validACLKeyPattern kp = true := by
  unfold resolveACLUser at h
  split at h
  · cases h
  · rename_i hfind
    split at h
    · cases h
    · cases h
      simpa using List.find?_eq_none.mp hfind

theorem resolveACLUsers_patterns {i : ConfInput} {specs : List ACLUserSpec} {users : List ResolvedACLUser}
    (h : resolveACLUsers i specs = .ok users) :
    ∀ u ∈ users, ∀ kp ∈ u.keyPatterns, validACLKeyPattern kp = true := by
  unfold resolveACLUsers at h
  induction specs generalizing users with
  | nil =>
    cases h
    simp
  | cons spec specs ih =>
    rw [List.mapM_cons] at h
    obtain ⟨u,hu,h⟩ := bind_ok h
    obtain ⟨us,hus,h⟩ := bind_ok h
    cases h
    exact List.forall_mem_cons.mpr ⟨resolveACLUser_patterns hu, ih hus⟩

def namedSecrets : ConfInput where
  ns := []
  quote := id
  secret := fun name => .ok (fun _ => some name)
  writeErr := none

def specOf (c : ACLConfig) : ConfSpec where
  port := 0
  clusterNodeTimeout := 0
  memoryLimit := none
  cpuLimit := none
  operatorSecret := ⟨c.operatorPassword, []⟩
  aclUsers := c.users.map (fun u => ⟨u.name, ⟨u.password, []⟩, u.keyPatterns, u.commands⟩)
  metrics := some ⟨c.metricsEnabled, ⟨c.metricsPassword, []⟩⟩
  config := none
  customConfig := []

theorem resolveACLUsers_specOf {users : List ResolvedACLUser}
    (h : ∀ u ∈ users, ∀ kp ∈ u.keyPatterns, validACLKeyPattern kp = true) :
    resolveACLUsers namedSecrets
      (users.map (fun u => ⟨u.name, ⟨u.password, []⟩, u.keyPatterns, u.commands⟩)) = .ok users := by
  unfold resolveACLUsers
  induction users with
  | nil => rfl
  | cons u users ih =>
    have hnone : u.keyPatterns.find? (fun kp => !validACLKeyPattern kp) = none :=
      List.find?_eq_none.mpr (fun kp hkp => by simp [h u (by simp) kp hkp])
    have huser : resolveACLUser namedSecrets ⟨u.name, ⟨u.password, []⟩, u.keyPatterns, u.commands⟩ = .ok u := by
      unfold resolveACLUser
      rw [hnone]
      rfl
    rw [List.map_cons,List.mapM_cons,huser,ih (fun v hv => h v (by simp [hv]))]
    rfl

/-- Every text can come out of a Secret or a spec; only key patterns are checked. -/
theorem resolved_iff (c : ACLConfig) : Resolved c ↔
    (∀ u ∈ c.users, ∀ kp ∈ u.keyPatterns, validACLKeyPattern kp = true) ∧
      (c.metricsEnabled = false → c.metricsPassword = []) := by
  constructor
  · rintro ⟨i,spec,h⟩
    unfold resolveACLConfig at h
    obtain ⟨operatorPassword,-,h⟩ := bind_ok h
    obtain ⟨users,husers,h⟩ := bind_ok h
    obtain ⟨metricsPassword,hmetrics,h⟩ := bind_ok h
    cases h
    refine ⟨resolveACLUsers_patterns husers, fun hoff => ?_⟩
    have hnone : resolveMetrics i spec = .ok [] := by
      unfold resolveMetrics
      split
      · rfl
      · rename_i metrics hsome
        rw [hsome] at hoff
        exact if_neg (by simpa using hoff)
    rw [hnone] at hmetrics
    exact (Except.ok.inj hmetrics).symm
  · rintro ⟨hvalid,hoff⟩
    refine ⟨namedSecrets, specOf c, ?_⟩
    have husers := resolveACLUsers_specOf hvalid
    have hmetrics : resolveMetrics namedSecrets (specOf c) = .ok c.metricsPassword := by
      cases hflag : c.metricsEnabled with
      | true => simp [resolveMetrics,specOf,hflag,resolveSecretKey,namedSecrets]
      | false => simp [resolveMetrics,specOf,hflag,hoff hflag]
    unfold resolveACLConfig
    rw [hmetrics,specOf,husers]
    rfl

/-- The texts of a configuration, by the place where they are printed. -/
inductive TextKind
  | operatorPassword | metricsPassword | name | password | keyPattern | commands
  deriving DecidableEq, Repr

def TextKind.ending : TextKind → Char
  | .operatorPassword | .metricsPassword | .commands => '\n'
  | .name | .password | .keyPattern => ' '

def ACLConfig.texts (c : ACLConfig) : TextKind → List Text
  | .operatorPassword => [c.operatorPassword]
  | .metricsPassword => [c.metricsPassword]
  | .name => c.users.map (fun u => u.name)
  | .password => c.users.map (fun u => u.password)
  | .keyPattern => c.users.flatMap (fun u => u.keyPatterns)
  | .commands => c.users.map (fun u => u.commands)

/-- A resolved configuration whose texts do not contain what ends them, the loose ones apart. -/
structure Printable (loose : TextKind → Bool) (c : ACLConfig) : Prop where
  resolved : Resolved c
  closed : ∀ k, loose k = false → ∀ t ∈ c.texts k, k.ending ∉ t

theorem intercalate_head {k : Text} (hk : k ≠ []) (ks : List Text) (rest : Text) :
    ([' '].intercalate (k :: ks) ++ rest).head? = k.head? := by
  obtain ⟨c,k,rfl⟩ := List.exists_cons_of_ne_nil hk
  cases ks <;> simp [List.intercalate_cons_cons]

structure ClosedPattern (k : Text) : Prop where
  valid : validACLKeyPattern k = true
  blank : ' ' ∉ k

theorem ClosedPattern.head {k : Text} (h : ClosedPattern k) {c : Char} (hc : k.head? = some c) :
    c = '~' ∨ c = '%' := by
  have hvalid := h.valid
  simpa [validACLKeyPattern,hc] using hvalid

theorem ClosedPattern.ne_nil {k : Text} (h : ClosedPattern k) : k ≠ [] := by
  rintro rfl
  exact absurd h.valid (by decide)

theorem intercalate_other {k : Text} (hk : ClosedPattern k) (ks : List Text) (rest : Text) {c : Char} {s : Text}
    (hc : c ≠ '~' ∧ c ≠ '%') : [' '].intercalate (k :: ks) ++ rest ≠ c :: s := by
  intro h
  have hhead := intercalate_head hk.ne_nil ks rest
  rw [h] at hhead
  rcases hk.head hhead.symm with rfl | rfl
  · exact hc.1 rfl
  · exact hc.2 rfl

theorem keys_cut {ks ks' : List Text} (h : ∀ k ∈ ks, ClosedPattern k) (h' : ∀ k ∈ ks', ClosedPattern k)
    {s s' : Text} (heq : [' '].intercalate ks ++ ']' :: ' ' :: 'c' :: s =
      [' '].intercalate ks' ++ ']' :: ' ' :: 'c' :: s') : ks = ks' ∧ s = s' := by
  have hlast : ∀ (k t : Text), [' '].intercalate [k] ++ ']' :: ' ' :: 'c' :: t =
      (k ++ [']']) ++ ' ' :: ('c' :: t) := by simp
  have hmore : ∀ (k u : Text) (us : List Text) (t : Text), [' '].intercalate (k :: u :: us) ++ t =
      k ++ ' ' :: ([' '].intercalate (u :: us) ++ t) := by simp [List.intercalate_cons_cons]
  have hblank : ∀ k, ClosedPattern k → ' ' ∉ k ++ [']'] := fun k hk => by simp [hk.blank]
  induction ks generalizing ks' with
  | nil =>
    cases ks' with
    | nil => simpa using heq
    | cons k' ks' => exact absurd heq.symm (intercalate_other (h' k' (by simp)) ks' _ (by decide))
  | cons k ks ih =>
    cases ks' with
    | nil => exact absurd heq (intercalate_other (h k (by simp)) ks _ (by decide))
    | cons k' ks' =>
      have hk := h k (by simp)
      have hk' := h' k' (by simp)
      match ks, ks' with
      | [], [] =>
        rw [hlast,hlast] at heq
        obtain ⟨hkeys,hs⟩ := append_cons_inj (hblank k hk) (hblank k' hk') heq
        exact ⟨by rw [List.append_cancel_right hkeys], (List.cons.inj hs).2⟩
      | [], u' :: us' =>
        rw [hlast,hmore] at heq
        obtain ⟨-,hs⟩ := append_cons_inj (hblank k hk) hk'.blank heq
        exact absurd hs.symm (intercalate_other (h' u' (by simp)) us' _ (by decide))
      | u :: us, [] =>
        rw [hmore,hlast] at heq
        obtain ⟨-,hs⟩ := append_cons_inj hk.blank (hblank k' hk') heq
        exact absurd hs (intercalate_other (h u (by simp)) us _ (by decide))
      | u :: us, u' :: us' =>
        rw [hmore,hmore] at heq
        obtain ⟨hkey,hs⟩ := append_cons_inj hk.blank hk'.blank heq
        obtain ⟨hks,hrest⟩ := ih (fun v hv => h v (by simp [hv])) (fun v hv => h' v (by simp [hv])) hs
        exact ⟨by rw [hkey,hks], hrest⟩

structure ClosedUser (u : ResolvedACLUser) : Prop where
  name : ' ' ∉ u.name
  password : ' ' ∉ u.password
  patterns : ∀ k ∈ u.keyPatterns, ClosedPattern k
  commands : '\n' ∉ u.commands

theorem userLine_append (u : ResolvedACLUser) (rest : Text) :
    userLine u ++ rest = "user=".toList ++ (u.name ++ ' ' :: ("pass=".toList ++ (u.password ++ ' ' ::
      ("keys=[".toList ++ ([' '].intercalate u.keyPatterns ++ ']' :: ' ' :: 'c' ::
        ("mds=".toList ++ (u.commands ++ '\n' :: rest))))))) := by
  have hpass : " pass=".toList = ' ' :: "pass=".toList := rfl
  have hkeys : " keys=[".toList = ' ' :: "keys=[".toList := rfl
  have hcmds : "] cmds=".toList = ']' :: ' ' :: 'c' :: "mds=".toList := rfl
  unfold userLine
  rw [hpass,hkeys,hcmds]
  generalize "user=".toList = user, "pass=".toList = pass, "keys=[".toList = keys, "mds=".toList = mds
  simp only [List.append_assoc,List.cons_append,List.nil_append]

theorem userLine_cut {u u' : ResolvedACLUser} (h : ClosedUser u) (h' : ClosedUser u') {rest rest' : Text}
    (heq : userLine u ++ rest = userLine u' ++ rest') : u = u' ∧ rest = rest' := by
  rw [userLine_append,userLine_append] at heq
  obtain ⟨hname,heq⟩ := append_cons_inj h.name h'.name (List.append_cancel_left heq)
  obtain ⟨hpassword,heq⟩ := append_cons_inj h.password h'.password (List.append_cancel_left heq)
  obtain ⟨hkeys,heq⟩ := keys_cut h.patterns h'.patterns (List.append_cancel_left heq)
  obtain ⟨hcommands,hrest⟩ := append_cons_inj h.commands h'.commands (List.append_cancel_left heq)
  refine ⟨?_, hrest⟩
  cases u
  cases u'
  rw [ResolvedACLUser.mk.injEq]
  exact ⟨hname, hpassword, hkeys, hcommands⟩

theorem users_cut {us us' : List ResolvedACLUser} (h : ∀ u ∈ us, ClosedUser u) (h' : ∀ u ∈ us', ClosedUser u)
    (heq : us.flatMap userLine = us'.flatMap userLine) : us = us' := by
  have hne : ∀ u rest, userLine u ++ rest ≠ [] := by
    intro u rest
    rw [userLine_append]
    exact List.append_ne_nil_of_left_ne_nil (by decide) _
  induction us generalizing us' with
  | nil =>
    cases us' with
    | nil => rfl
    | cons u' us' => exact absurd heq.symm (hne u' _)
  | cons u us ih =>
    cases us' with
    | nil => exact absurd heq (hne u _)
    | cons u' us' =>
      obtain ⟨hu,hrest⟩ := userLine_cut (h u (by simp)) (h' u' (by simp)) heq
      rw [hu,ih (fun v hv => h v (by simp [hv])) (fun v hv => h' v (by simp [hv])) hrest]

theorem Printable.user {c : ACLConfig} (h : Printable (fun _ => false) c) {u : ResolvedACLUser}
    (hu : u ∈ c.users) : ClosedUser u where
  name := h.closed .name rfl _ (List.mem_map_of_mem hu)
  password := h.closed .password rfl _ (List.mem_map_of_mem hu)
  patterns := fun k hk => ⟨((resolved_iff c).mp h.resolved).1 u hu k hk,
    h.closed .keyPattern rfl k (List.mem_flatMap.mpr ⟨u, hu, hk⟩)⟩
  commands := h.closed .commands rfl _ (List.mem_map_of_mem hu)

theorem aclHashInput_eq (c : ACLConfig) : aclHashInput c =
    "operator=".toList ++ (c.operatorPassword ++ '\n' :: ("metricsEnabled=".toList ++
      ((if c.metricsEnabled then "true".toList else "false".toList) ++ '\n' :: ("metrics=".toList ++
        (c.metricsPassword ++ '\n' :: c.users.flatMap userLine))))) := by
  have henabled : "\nmetricsEnabled=".toList = '\n' :: "metricsEnabled=".toList := rfl
  have hmetrics : "\nmetrics=".toList = '\n' :: "metrics=".toList := rfl
  unfold aclHashInput
  rw [henabled,hmetrics]
  generalize "operator=".toList = operator, "metricsEnabled=".toList = enabled, "metrics=".toList = metrics
  simp only [List.append_assoc,List.cons_append,List.nil_append]

theorem aclHashInput_inj {c c' : ACLConfig} (h : Printable (fun _ => false) c)
    (h' : Printable (fun _ => false) c') (heq : aclHashInput c = aclHashInput c') : c = c' := by
  have hflag : ∀ b : Bool, '\n' ∉ (if b then "true".toList else "false".toList) := by decide
  have hsame : ∀ b b' : Bool, (if b then "true".toList else "false".toList) =
      (if b' then "true".toList else "false".toList) → b = b' := by decide
  rw [aclHashInput_eq,aclHashInput_eq] at heq
  obtain ⟨hop,heq⟩ := append_cons_inj (h.closed .operatorPassword rfl _ (by simp [ACLConfig.texts]))
    (h'.closed .operatorPassword rfl _ (by simp [ACLConfig.texts])) (List.append_cancel_left heq)
  obtain ⟨henabled,heq⟩ := append_cons_inj (hflag _) (hflag _) (List.append_cancel_left heq)
  obtain ⟨hmetrics,heq⟩ := append_cons_inj (h.closed .metricsPassword rfl _ (by simp [ACLConfig.texts]))
    (h'.closed .metricsPassword rfl _ (by simp [ACLConfig.texts])) (List.append_cancel_left heq)
  have husers := users_cut (fun _ => h.user) (fun _ => h'.user) heq
  cases c
  cases c'
  rw [ACLConfig.mk.injEq]
  exact ⟨hop, hmetrics, hsame _ _ henabled, husers⟩

def account (name password : String) (keyPatterns : List String) (commands : String) : ResolvedACLUser :=
  ⟨name.toList, password.toList, keyPatterns.map String.toList, commands.toList⟩

def quietConfig (users : List ResolvedACLUser) : ACLConfig := ⟨"operator-pw".toList, [], false, users⟩

def twins : TextKind → ACLConfig × ACLConfig
  | .operatorPassword =>
    (⟨"a\nmetricsEnabled=true\nmetrics=b\nuser=x".toList, "y".toList, true,
        [account "z" "p" ["~*"] "+@all"]⟩,
      ⟨"a".toList, "b".toList, true,
        [account "x\nmetricsEnabled=true\nmetrics=y\nuser=z" "p" ["~*"] "+@all"]⟩)
  | .metricsPassword =>
    (⟨"a".toList, "b\nuser=x pass=p keys=[~*] cmds=+@all".toList, true, []⟩,
      ⟨"a".toList, "b".toList, true, [account "x" "p" ["~*"] "+@all"]⟩)
  | .name =>
    (quietConfig [account "x pass=p keys=[~*] cmds=+@read" "q" ["~*"] "+@all"],
      quietConfig [account "x" "p" ["~*"] "+@read pass=q keys=[~*] cmds=+@all"])
  | .password =>
    (quietConfig [account "x" "p keys=[~*] cmds=+@read" ["~*"] "+@all"],
      quietConfig [account "x" "p" ["~*"] "+@read keys=[~*] cmds=+@all"])
  | .keyPattern =>
    (quietConfig [account "app" "p" ["~app:* ~cache:*"] "+@all"],
      quietConfig [account "app" "p" ["~app:*", "~cache:*"] "+@all"])
  | .commands =>
    (quietConfig [account "x" "p" ["~*"] "+@read\nuser=y pass=q keys=[~*] cmds=+@all"],
      quietConfig [account "x" "p" ["~*"] "+@read", account "y" "q" ["~*"] "+@all"])

theorem twins_bytes (k : TextKind) :
    (twins k).1 ≠ (twins k).2 ∧ aclHashInput (twins k).1 = aclHashInput (twins k).2 := by
  cases k <;> decide +kernel

theorem twins_resolved (k : TextKind) : Resolved (twins k).1 ∧ Resolved (twins k).2 := by
  rw [resolved_iff,resolved_iff]
  cases k <;> decide +kernel

theorem twins_closed {k j : TextKind} (hj : j ≠ k) :
    ∀ t ∈ (twins k).1.texts j ++ (twins k).2.texts j, j.ending ∉ t := by
  cases k <;> cases j <;> first | exact absurd rfl hj | decide +kernel

theorem twins_printable {loose : TextKind → Bool} {k : TextKind} (hk : loose k = true) :
    Printable loose (twins k).1 ∧ Printable loose (twins k).2 := by
  have hclosed : ∀ j, loose j = false →
      ∀ t ∈ (twins k).1.texts j ++ (twins k).2.texts j, j.ending ∉ t := by
    intro j hj
    refine twins_closed ?_
    rintro rfl
    rw [hk] at hj
    cases hj
  obtain ⟨hfirst,hsecond⟩ := twins_resolved k
  exact ⟨⟨hfirst, fun j hj t ht => hclosed j hj t (by simp [ht])⟩,
    ⟨hsecond, fun j hj t ht => hclosed j hj t (by simp [ht])⟩⟩

/-- Different configurations have different bytes exactly if no text may contain the character
that ends it: a line feed in the operator's or the metrics password or in the commands, a
blank in a name, a password or a key pattern of a user. -/
theorem aclHashInput_differs_iff (loose : TextKind → Bool) :
    (∀ c c', Printable loose c → Printable loose c' → c ≠ c' → aclHashInput c ≠ aclHashInput c') ↔
      ∀ k, loose k = false := by
  constructor
  · intro h k
    by_contra hk
    rw [Bool.not_eq_false] at hk
    obtain ⟨hfirst,hsecond⟩ := twins_printable hk
    obtain ⟨hne,hbytes⟩ := twins_bytes k
    exact h _ _ hfirst hsecond hne hbytes
  · intro h c c' hc hc' hne hbytes
    have hnone : loose = fun _ => false := funext h
    subst hnone
    exact hne (aclHashInput_inj hc hc' hbytes)

theorem joined_patterns_same_bytes :
    Resolved (quietConfig [account "app" "p" ["~app:* ~cache:*"] "+@all"]) ∧
      Resolved (quietConfig [account "app" "p" ["~app:*", "~cache:*"] "+@all"]) ∧
      quietConfig [account "app" "p" ["~app:* ~cache:*"] "+@all"] ≠
        quietConfig [account "app" "p" ["~app:*", "~cache:*"] "+@all"] ∧
      aclHashInput (quietConfig [account "app" "p" ["~app:* ~cache:*"] "+@all"]) =
        aclHashInput (quietConfig [account "app" "p" ["~app:*", "~cache:*"] "+@all"]) :=
  ⟨(twins_resolved .keyPattern).1, (twins_resolved .keyPattern).2, (twins_bytes .keyPattern).1,
    (twins_bytes .keyPattern).2⟩

end ValkeyOperator
