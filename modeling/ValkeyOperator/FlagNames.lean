import ValkeyOperator.Picking
import ValkeyOperator.ClusterSafe

/-!
Flags fields as lists of flag names, and what the searches for a piece of text in them make
of the names.
-/

set_option autoImplicit false

namespace ValkeyOperator
open TextScan

inductive FlagName
  | myself | master | slave | pfail | fail | handshake | noaddr | nofailover | noflags
  deriving DecidableEq, Repr

def FlagName.text : FlagName → Text
  | .myself => "myself".toList
  | .master => "master".toList
  | .slave => "slave".toList
  | .pfail => "fail?".toList
  | .fail => "fail".toList
  | .handshake => "handshake".toList
  | .noaddr => "noaddr".toList
  | .nofailover => "nofailover".toList
  | .noflags => "noflags".toList

structure FlagEntry extends NodeEntry where
  names : List FlagName
  flags_names : flags = [','].intercalate (names.map FlagName.text)

def flagsText (ns : List FlagEntry) : Text := nodesText (ns.map FlagEntry.toNodeEntry)

namespace FlagEntry

def has (n : FlagEntry) (f : FlagName) : Bool := n.names.contains f

def failing (n : FlagEntry) : Bool := n.has .fail || n.has .pfail || n.has .noaddr

def healthyPrimary (n : FlagEntry) : Bool := n.has .master && !n.failing

def healthyOther (n : FlagEntry) : Bool := n.healthyPrimary && !n.has .myself

theorem contains_flags (n : FlagEntry) {needle : Text} (hcomma : ',' ∉ needle) (hne : needle ≠ []) :
    contains n.flags needle = n.names.any (fun f => contains f.text needle) := by
  have hinfix := infix_intercalate hcomma hne (n.names.map FlagName.text)
  rw [n.flags_names,Bool.eq_iff_iff,List.any_eq_true]
  simpa [contains] using hinfix

theorem contains_has (n : FlagEntry) (f : FlagName) (h : ∀ g : FlagName, contains g.text f.text = (f == g)) :
    contains n.flags f.text = n.has f := by
  have hcomma : ',' ∉ f.text := by cases f <;> decide
  have hne : f.text ≠ [] := by cases f <;> decide
  rw [n.contains_flags hcomma hne,funext h,List.any_beq]
  rfl

theorem contains_myself (n : FlagEntry) : contains n.flags "myself".toList = n.has .myself :=
  n.contains_has .myself (fun g => by cases g <;> decide)

theorem hasMaster_flags (n : FlagEntry) : hasMaster n.flags = n.has .master :=
  n.contains_has .master (fun g => by cases g <;> decide)

theorem hasNoaddr_flags (n : FlagEntry) : hasNoaddr n.flags = n.has .noaddr :=
  n.contains_has .noaddr (fun g => by cases g <;> decide)

/-- The search for `fail` finds the name nofailover as well. -/
theorem isFailing_flags (n : FlagEntry) : isFailing n.flags = (n.failing || n.has .nofailover) := by
  have hfail : contains n.flags "fail".toList = (n.has .fail || n.has .pfail || n.has .nofailover) := by
    rw [n.contains_flags (by decide) (by decide)]
    have hnames : (fun f : FlagName => contains f.text "fail".toList) =
        fun f => .fail == f || (.pfail == f || .nofailover == f) := by
      funext f
      cases f <;> decide
    rw [hnames,Bool.eq_iff_iff]
    simp [has,and_or_left,exists_or,or_assoc]
  unfold isFailing failing
  rw [hfail,n.hasNoaddr_flags]
  cases n.has .fail <;> cases n.has .pfail <;> cases n.has .noaddr <;> simp

/-- The server module reads at most 63 characters of the flags. -/
def shown (n : FlagEntry) : Text := n.flags.take 63

theorem flags_no_space (n : FlagEntry) : ' ' ∉ n.flags := by
  intro hmem
  have hspace := (n.tokens n.flags (by simp)).2 ' ' hmem
  exact absurd hspace (by decide)

theorem flagsField_text (n : FlagEntry) : flagsField n.text = some n.shown := by
  have haddr : ' ' ∉ n.addrRaw := by
    intro hmem
    have hspace := (n.fields_token n.addrRaw (by simp)).2 ' ' hmem
    exact absurd hspace (by decide)
  have hshape : n.text = n.id ++ ' ' :: (n.addrRaw ++ ' ' :: (n.flags ++ ' ' :: [' '].intercalate
      (n.masterID :: n.pingSent :: n.pongRecv :: n.configEpoch :: n.linkState :: n.slots))) := by
    simp [NodeEntry.text,NodeEntry.rest,List.intercalate_cons_cons]
  rw [hshape,flagsField_words (n.id_not_mem (by decide)) haddr n.flags_no_space]
  rfl

theorem contains_shown (n : FlagEntry) {needle : Text} (h : contains n.shown needle = true) :
    contains n.flags needle = true := by
  simp only [contains,decide_eq_true_eq] at h ⊢
  exact h.trans (List.take_prefix 63 n.flags).isInfix

theorem isFailing_shown (n : FlagEntry) (h : isFailing n.shown = true) : isFailing n.flags = true := by
  simp only [isFailing,hasNoaddr,Bool.or_eq_true] at h ⊢
  exact h.imp n.contains_shown n.contains_shown

theorem countsLine_text (n : FlagEntry) :
    countsLine n.text = (!contains n.shown "myself".toList && hasMaster n.shown && !isFailing n.shown) := by
  unfold countsLine
  rw [n.flagsField_text]
  rfl

structure Legible (n : FlagEntry) : Prop where
  failover : n.has .nofailover = true → n.failing = true
  failing_shown : n.failing = true → isFailing n.shown = true
  master_shown : n.healthyOther = true → hasMaster n.shown = true
  myself_shown : n.healthyPrimary = true → n.has .myself = true → hasMaster n.shown = true →
    contains n.shown "myself".toList = true

/-- In a field that fits only nofailover can mislead. -/
theorem legible_of_fits {n : FlagEntry} (h : n.flags.length ≤ 63) :
    n.Legible ↔ (n.has .nofailover = true → n.failing = true) := by
  have hshown : n.shown = n.flags := List.take_of_length_le h
  refine ⟨Legible.failover, fun hfail => ⟨hfail, ?_, ?_, ?_⟩⟩
  · intro hf
    rw [hshown,n.isFailing_flags,hf,Bool.true_or]
  · intro hother
    simp only [healthyOther,healthyPrimary,Bool.and_eq_true] at hother
    rw [hshown,n.hasMaster_flags,hother.1.1]
  · intro _ hself _
    rw [hshown,n.contains_myself,hself]

theorem isFailing_iff (n : FlagEntry) :
    isFailing n.flags = n.failing ↔ (n.has .nofailover = true → n.failing = true) := by
  rw [n.isFailing_flags]
  cases n.failing <;> cases n.has .nofailover <;> decide

theorem Legible.isFailing {n : FlagEntry} (h : n.Legible) : isFailing n.flags = n.failing :=
  n.isFailing_iff.mpr h.failover

theorem Legible.shown {n : FlagEntry} (h : n.Legible) : ValkeyOperator.isFailing n.shown = n.failing := by
  cases hf : n.failing with
  | true => exact h.failing_shown hf
  | false =>
    rw [← Bool.not_eq_true]
    intro hshown
    have hflags := n.isFailing_shown hshown
    rw [h.isFailing,hf] at hflags
    cases hflags

theorem shown_false (n : FlagEntry) {needle : Text} (h : contains n.flags needle = false) :
    contains n.shown needle = false := by
  rw [← Bool.not_eq_true] at h ⊢
  exact fun hshown => h (n.contains_shown hshown)

theorem Legible.counts {n : FlagEntry} (h : n.Legible) : countsLine n.text = n.healthyOther := by
  rw [n.countsLine_text,h.shown]
  cases hf : n.failing with
  | true => simp [healthyOther,healthyPrimary,hf]
  | false =>
    cases hm : n.has .master with
    | false =>
      have hmaster : hasMaster n.shown = false := n.shown_false (n.hasMaster_flags.trans hm)
      simp [healthyOther,healthyPrimary,hm,hmaster]
    | true =>
      have hprimary : n.healthyPrimary = true := by simp [healthyPrimary,hm,hf]
      cases hs : n.has .myself with
      | false =>
        have hother : n.healthyOther = true := by simp [healthyOther,hprimary,hs]
        have hself := n.shown_false (n.contains_myself.trans hs)
        rw [hself,h.master_shown hother,hother]
        rfl
      | true =>
        have hself := h.myself_shown hprimary hs
        have hother : n.healthyOther = false := by simp [healthyOther,hs]
        rw [hother]
        cases hmaster : hasMaster n.shown with
        | false => simp
        | true => rw [hself hmaster]; rfl

theorem legible_of_reads {n : FlagEntry} (hflags : isFailing n.flags = n.failing)
    (hshown : isFailing n.shown = n.failing) (hcounts : countsLine n.text = n.healthyOther) : n.Legible := by
  rw [n.countsLine_text,hshown] at hcounts
  refine ⟨n.isFailing_iff.mp hflags, fun hf => hshown.trans hf, ?_, ?_⟩
  · intro hother
    rw [hother] at hcounts
    simp only [Bool.and_eq_true] at hcounts
    exact hcounts.1.2
  · intro hprimary hself hmaster
    have hf : n.failing = false := by
      simp only [healthyPrimary,Bool.and_eq_true,Bool.not_eq_true'] at hprimary
      exact hprimary.2
    have hother : n.healthyOther = false := by simp [healthyOther,hself]
    rw [hother,hmaster,hf] at hcounts
    simpa using hcounts

end FlagEntry

/-- Every place that asks whether a node has failed answers as the names do: the choice of a
primary and the roles by their shared test, the report of missing replicas, the search for
stale nodes, and the server module for each line and in its count. -/
structure ReadsFlags (ns : List FlagEntry) : Prop where
  parsed : parseClusterNodes (flagsText ns) = ns.map (fun n => n.state)
  chosen : ∀ n ∈ ns, healthyMaster n.state = n.healthyPrimary
  reported : ∀ expected : Int, detectUnderReplicatedShards (ns.map (fun n => n.state)) expected =
    (ns.filter (fun n => n.healthyPrimary &&
      decide ((replicaCount (ns.map (fun n => n.state)) n.id : Int) < expected))).map
        (fun n => reportText (ns.map (fun n => n.state)) expected n.state)
  stale : ∀ n ∈ ns, ∀ pods, isStale pods n.state = (n.failing && !(knownIPs pods).contains n.endpoint.ip)
  stopped : ∀ n ∈ ns, (flagsField n.text).map isFailing = some n.failing
  counted : ∀ n ∈ ns, countsLine n.text = n.healthyOther
  number : healthyOtherPrimaries (flagsText ns) = ns.countP FlagEntry.healthyOther

theorem parseClusterNodes_flags (ns : List FlagEntry) :
    parseClusterNodes (flagsText ns) = ns.map (fun n => n.state) := by
  rw [flagsText,parseClusterNodes_text,List.map_map]
  rfl

theorem healthyOtherPrimaries_flags (ns : List FlagEntry) :
    healthyOtherPrimaries (flagsText ns) = ns.countP (fun n => countsLine n.text) := by
  have hline : ∀ l ∈ ns.map (fun n => n.text), '\n' ∉ l := by
    intro l hl
    obtain ⟨n,-,rfl⟩ := List.mem_map.mp hl
    exact n.no_newline
  have hcount := healthyOtherPrimaries_lines hline
  rw [List.flatMap_map,List.countP_map] at hcount
  rw [flagsText,nodesText,List.flatMap_map]
  exact hcount

/-- A flags field is read for its names unless it holds nofailover and no name of a failed
node, or hides names behind the end of the server module's buffer. -/
theorem readsFlags_iff (ns : List FlagEntry) : ReadsFlags ns ↔ ∀ n ∈ ns, n.Legible := by
  constructor
  · intro h n hn
    have hshown := h.stopped n hn
    have hstale := h.stale n hn []
    rw [n.flagsField_text] at hshown
    refine FlagEntry.legible_of_reads ?_ (Option.some.inj hshown) (h.counted n hn)
    simpa [isStale,knownIPs,NodeEntry.state] using hstale
  · intro h
    have hmaster : ∀ n ∈ ns, healthyMaster n.state = n.healthyPrimary := by
      intro n hn
      have hflags := (h n hn).isFailing
      simp only [healthyMaster,NodeEntry.state,n.hasMaster_flags,hflags,FlagEntry.healthyPrimary]
    refine ⟨parseClusterNodes_flags ns, hmaster, ?_, ?_, ?_, ?_, ?_⟩
    · intro expected
      rw [detectUnderReplicatedShards_eq,reportedNodes,List.filter_map,List.map_map]
      refine congrArg (List.map _) (List.filter_congr (fun n hn => ?_))
      rw [Function.comp_apply,hmaster n hn]
      rfl
    · intro n hn pods
      rw [← (h n hn).isFailing]
      rfl
    · intro n hn
      rw [n.flagsField_text,Option.map_some,(h n hn).shown]
    · exact fun n hn => (h n hn).counts
    · rw [healthyOtherPrimaries_flags]
      exact List.countP_congr (fun n hn => by rw [(h n hn).counts])

def steadyPrimary : FlagEntry where
  toNodeEntry := plainEntry "master,nofailover".toList ["0-16383".toList] (by decide)
  names := [.master, .nofailover]
  flags_names := by decide

theorem steadyPrimary_misread :
    steadyPrimary.healthyOther = true ∧ isFailing steadyPrimary.flags = true ∧
      healthyOtherPrimaries (flagsText [steadyPrimary]) = 0 ∧ ¬ ReadsFlags [steadyPrimary] := by
  have hnone : healthyOtherPrimaries (flagsText [steadyPrimary]) = 0 := by decide +kernel
  refine ⟨by decide, by decide, hnone, fun h => ?_⟩
  have hone := h.number
  rw [hnone] at hone
  exact absurd hone (by decide)

end ValkeyOperator
