import ValkeyOperator.TopologySet

/-!
Well-formed CLUSTER NODES texts, read by the operator's parser and by the two scanners
of the server module.
-/

set_option autoImplicit false

namespace ValkeyOperator
open TextScan

def isHex (c : Char) : Bool := c.isDigit || ('a' ≤ c && c ≤ 'f')

/-- An ip:port; the ip is empty as long as a node does not know it. -/
structure Endpoint where
  ip : Text
  port : Text
  ip_chars : ip.all addrChar = true
  ip_fits : ip.length ≤ 45
  port_digits : port.all Char.isDigit = true
  port_fits : port.length ≤ 5
  deriving DecidableEq

def Endpoint.text (e : Endpoint) : Text := e.ip ++ ':' :: e.port

theorem Endpoint.port_colon (e : Endpoint) : ':' ∉ e.port := by
  intro hmem
  have hdigit := List.all_eq_true.mp e.port_digits ':' hmem
  exact absurd hdigit (by decide)

theorem Endpoint.isAddress (e : Endpoint) : IsAddress e.text where
  nonempty := by simp [Endpoint.text]
  chars := by
    have hport : e.port.all addrChar = true := by
      refine List.all_eq_true.mpr (fun c hc => ?_)
      have hdigit := List.all_eq_true.mp e.port_digits c hc
      simp [addrChar,hdigit]
    have hcolon : addrChar ':' = true := by decide
    simp only [Endpoint.text,List.all_append,List.all_cons,e.ip_chars,hport,hcolon,Bool.and_true]
  colon := by simp [Endpoint.text]
  fits := by
    have hip := e.ip_fits
    have hport := e.port_fits
    simp only [Endpoint.text,List.length_append,List.length_cons,maxAddrLen]
    omega

theorem Endpoint.split (e : Endpoint) : splitAddr e.text maxAddrLen 16 = some (e.ip, e.port) := by
  have hfits : ¬ e.ip.length ≥ maxAddrLen := by
    have hip := e.ip_fits
    simp only [maxAddrLen]
    omega
  have hport := e.port_fits
  unfold splitAddr
  rw [if_pos e.isAddress.colon]
  simp only [Endpoint.text,rdropWhile_until e.port_colon,rtakeWhile_until e.port_colon,
    List.dropLast_concat]
  rw [if_neg hfits,List.take_of_length_le (by omega)]

theorem Endpoint.splitAddrIP (e : Endpoint) : ValkeyOperator.splitAddrIP e.text = e.ip := by
  unfold ValkeyOperator.splitAddrIP
  rw [if_pos e.isAddress.colon]
  simp only [Endpoint.text,rdropWhile_until e.port_colon,List.dropLast_concat]

theorem Endpoint.text_inj {e f : Endpoint} (h : e.text = f.text) : e = f := by
  have hsplit := e.split
  rw [h,f.split] at hsplit
  cases e
  cases f
  simpa [eq_comm] using hsplit

/-- A line of CLUSTER NODES. A hostname stands behind a comma of the bus part. -/
structure NodeEntry where
  id : Text
  endpoint : Endpoint
  bus : Text
  flags : Text
  masterID : Text
  pingSent : Text
  pongRecv : Text
  configEpoch : Text
  linkState : Text
  slots : List Text
  id_length : id.length = 40
  id_hex : id.all isHex = true
  tokens : ∀ t ∈ bus :: flags :: masterID :: pingSent :: pongRecv :: configEpoch :: linkState :: slots,
    IsToken t

def NodeEntry.addrRaw (n : NodeEntry) : Text := n.endpoint.text ++ '@' :: n.bus

def NodeEntry.rest (n : NodeEntry) : List Text :=
  n.flags :: n.masterID :: n.pingSent :: n.pongRecv :: n.configEpoch :: n.linkState :: n.slots

def NodeEntry.text (n : NodeEntry) : Text := [' '].intercalate (n.id :: n.addrRaw :: n.rest)

def nodesText (ns : List NodeEntry) : Text := ns.flatMap (fun n => n.text ++ ['\n'])

def NodeEntry.state (n : NodeEntry) : ClusterNodeState :=
  ⟨n.id, n.endpoint.ip, addrHostname n.addrRaw, n.flags, n.masterID, [' '].intercalate n.slots⟩

theorem isSpace_of_addrChar {c : Char} (h : addrChar c = true) : isSpace c = false := by
  have hrange : ∀ lo hi : Char, lo ≤ c ∧ c ≤ hi → lo.toNat ≤ c.toNat ∧ c.toNat ≤ hi.toNat :=
    fun _ _ hc => ⟨UInt32.le_iff_toNat_le.mp hc.1, UInt32.le_iff_toNat_le.mp hc.2⟩
  have hval : 46 ≤ c.toNat ∧ c.toNat ≤ 102 := by
    simp only [addrChar,Char.isDigit,Bool.or_eq_true,Bool.and_eq_true,decide_eq_true_eq,
      beq_iff_eq] at h
    rcases h with (((h | h) | h) | rfl) | rfl
    · exact (hrange '0' '9' h).imp (Nat.le_trans (by decide)) (fun hc => Nat.le_trans hc (by decide))
    · exact (hrange 'a' 'f' h).imp (Nat.le_trans (by decide)) (fun hc => Nat.le_trans hc (by decide))
    · exact (hrange 'A' 'F' h).imp (Nat.le_trans (by decide)) (fun hc => Nat.le_trans hc (by decide))
    · decide
    · decide
  exact isSpace_of_visible (by omega) (by omega)

theorem addrChar_of_isHex {c : Char} (h : isHex c = true) : addrChar c = true := by
  simp only [isHex,Bool.or_eq_true] at h
  rcases h with h | h <;> simp [addrChar,h]

theorem NodeEntry.id_chars (n : NodeEntry) {c : Char} (hc : c ∈ n.id) : addrChar c = true :=
  addrChar_of_isHex (List.all_eq_true.mp n.id_hex c hc)

theorem NodeEntry.id_not_mem (n : NodeEntry) {c : Char} (hc : addrChar c = false) : c ∉ n.id := by
  intro hmem
  rw [n.id_chars hmem] at hc
  cases hc

theorem NodeEntry.fields_token (n : NodeEntry) : ∀ t ∈ n.id :: n.addrRaw :: n.rest, IsToken t := by
  have hid : IsToken n.id := by
    refine ⟨fun hnil => ?_, fun c hc => isSpace_of_addrChar (n.id_chars hc)⟩
    have hlen := n.id_length
    simp [hnil] at hlen
  have hbus : IsToken n.bus := n.tokens n.bus (by simp)
  have haddr : IsToken n.addrRaw := by
    refine ⟨by simp [NodeEntry.addrRaw], fun c hc => ?_⟩
    simp only [NodeEntry.addrRaw,List.mem_append,List.mem_cons] at hc
    rcases hc with hc | rfl | hc
    · exact isSpace_of_addrChar (List.all_eq_true.mp n.endpoint.isAddress.chars c hc)
    · decide
    · exact hbus.2 c hc
  intro t ht
  simp only [List.mem_cons] at ht
  rcases ht with rfl | rfl | ht
  · exact hid
  · exact haddr
  · exact n.tokens t (List.mem_cons_of_mem _ ht)

theorem NodeEntry.no_newline (n : NodeEntry) : '\n' ∉ n.text := by
  refine not_mem_intercalate (by decide) (fun t ht hmem => ?_)
  have hspace := (n.fields_token t ht).2 '\n' hmem
  exact absurd hspace (by decide)

theorem parseNodeLine_text (n : NodeEntry) : parseNodeLine n.text = some n.state := by
  have hip : addrIP n.addrRaw = n.endpoint.ip := by
    unfold addrIP NodeEntry.addrRaw
    rw [takeWhile_until (n.endpoint.isAddress.not_mem (by decide)),n.endpoint.splitAddrIP]
  unfold parseNodeLine NodeEntry.text
  rw [fields_intercalate n.fields_token]
  simp only [NodeEntry.rest,NodeEntry.state,hip]

theorem stripVerbatimPrefix_nodes (ns : List NodeEntry) :
    stripVerbatimPrefix (nodesText ns) = nodesText ns := by
  cases ns with
  | nil => rfl
  | cons n ns =>
    have hcolon : ∀ c ∈ n.id, c ≠ ':' := by
      rintro c hc rfl
      have hhex := List.all_eq_true.mp n.id_hex ':' hc
      exact absurd hhex (by decide)
    have hshape : nodesText (n :: ns) = n.id ++ ' ' :: ([' '].intercalate (n.addrRaw :: n.rest) ++
        '\n' :: nodesText ns) := by
      simp [nodesText,NodeEntry.text,List.intercalate_cons_cons]
    refine stripVerbatimPrefix_front (fun hmem => ?_)
    rw [hshape,List.take_append_of_le_length (by rw [n.id_length]; decide)] at hmem
    exact hcolon ':' (List.mem_of_mem_take hmem) rfl

theorem parseClusterNodes_text (ns : List NodeEntry) :
    parseClusterNodes (nodesText ns) = ns.map NodeEntry.state := by
  have hsep : ∀ l ∈ ns.map NodeEntry.text, '\n' ∉ l := by
    intro l hl
    obtain ⟨n,-,rfl⟩ := List.mem_map.mp hl
    exact n.no_newline
  have hlines : (nodesText ns).splitOn '\n' = ns.map NodeEntry.text ++ [[]] := by
    rw [← splitOn_lines hsep,List.flatMap_map]
    rfl
  have hparse : parseNodeLine ∘ NodeEntry.text = some ∘ NodeEntry.state := by
    funext n
    exact parseNodeLine_text n
  have hend : parseNodeLine [] = none := by decide
  rw [parseClusterNodes_lines,stripVerbatimPrefix_nodes,hlines,List.filterMap_append,List.filterMap_map,
    hparse,List.filterMap_eq_map]
  simp [hend]

def NodeEntry.tail (n : NodeEntry) : Text := [' '].intercalate n.rest

theorem NodeEntry.text_eq (n : NodeEntry) :
    n.text = n.id ++ ' ' :: (n.endpoint.text ++ '@' :: (n.bus ++ ' ' :: n.tail)) := by
  simp [NodeEntry.text,NodeEntry.tail,NodeEntry.rest,NodeEntry.addrRaw,List.intercalate_cons_cons]

theorem nodesText_cons (n : NodeEntry) (ns : List NodeEntry) :
    nodesText (n :: ns) = n.text ++ '\n' :: nodesText ns := by
  simp [nodesText]

theorem nextLine_append {l : Text} (h : '\n' ∉ l) (rest : Text) : nextLine (l ++ '\n' :: rest) = rest := by
  unfold nextLine
  rw [dropWhile_until h]
  rfl

theorem addrStart_cons (n : NodeEntry) (ns : List NodeEntry) :
    ((nodesText (n :: ns)).dropWhile (fun c => c ≠ ' ')).tail =
      n.endpoint.text ++ '@' :: (n.bus ++ ' ' :: (n.tail ++ '\n' :: nodesText ns)) := by
  have hid : ' ' ∉ n.id := n.id_not_mem (by decide)
  rw [nodesText_cons,n.text_eq]
  simp only [List.append_assoc,List.cons_append,dropWhile_until hid,List.tail_cons]

/-- The table of known addresses has room for 64, and takes the lines in order. -/
theorem knownLoop_text (ns : List NodeEntry) (rounds room : Nat) (h : ns.length ≤ rounds) :
    knownLoop rounds room (nodesText ns) = (ns.map (fun n => n.endpoint.text)).take room := by
  induction ns generalizing rounds room with
  | nil => cases rounds <;> simp [knownLoop,nodesText]
  | cons n ns ih =>
    cases rounds with
    | zero => simp at h
    | succ rounds =>
      cases room with
      | zero => simp [knownLoop]
      | succ room =>
        have hrounds : ns.length ≤ rounds := by simpa using h
        have hat : '@' ∉ n.endpoint.text := n.endpoint.isAddress.not_mem (by decide)
        have hgoes : ¬ (nodesText (n :: ns) = [] ∨ room + 1 = 0 ∨ ' ' ∉ nodesText (n :: ns)) := by
          simp [nodesText_cons,n.text_eq]
        have hnext : nextLine (nodesText (n :: ns)) = nodesText ns := by
          rw [nodesText_cons,nextLine_append n.no_newline]
        have hpos := List.length_pos_of_ne_nil n.endpoint.isAddress.nonempty
        rw [knownLoop,if_neg hgoes]
        dsimp only
        rw [addrStart_cons,takeWhile_until hat,if_pos ⟨by simp, hpos, n.endpoint.isAddress.fits⟩,hnext,
          Nat.add_sub_cancel,ih rounds room hrounds]
        rfl

theorem NodeEntry.nextLine_addrStart (n : NodeEntry) (ns : List NodeEntry) :
    nextLine ((n.endpoint.text ++ '@' :: (n.bus ++ ' ' :: (n.tail ++ '\n' :: nodesText ns))).dropWhile
      (fun c => c ≠ ' ')) = nodesText ns := by
  have haddr : ' ' ∉ n.addrRaw := by
    intro hmem
    have hspace := (n.fields_token n.addrRaw (by simp)).2 ' ' hmem
    exact absurd hspace (by decide)
  have htail : '\n' ∉ ' ' :: n.tail := by
    have hline := n.no_newline
    rw [n.text_eq] at hline
    simp only [List.mem_append,List.mem_cons,not_or] at hline ⊢
    exact hline.2.2.2.2.2
  have hshape : n.endpoint.text ++ '@' :: (n.bus ++ ' ' :: (n.tail ++ '\n' :: nodesText ns)) =
      n.addrRaw ++ ' ' :: (n.tail ++ '\n' :: nodesText ns) := by
    simp [NodeEntry.addrRaw]
  rw [hshape,dropWhile_until haddr]
  exact nextLine_append htail _

theorem nodeIDLoop_text (target : Endpoint) (ns : List NodeEntry) (rounds : Nat) (h : ns.length ≤ rounds) :
    nodeIDLoop target.text rounds (nodesText ns) =
      (ns.find? (fun n => n.endpoint = target)).map (fun n => n.id) := by
  induction ns generalizing rounds with
  | nil => cases rounds <;> simp [nodeIDLoop,nodesText]
  | cons n ns ih =>
    cases rounds with
    | zero => simp at h
    | succ rounds =>
      have hrounds : ns.length ≤ rounds := by simpa using h
      have hgoes : ¬ (nodesText (n :: ns) = [] ∨ ' ' ∉ nodesText (n :: ns)) := by
        simp [nodesText_cons,n.text_eq]
      have hid : (nodesText (n :: ns)).takeWhile (fun c => c ≠ ' ') = n.id := by
        rw [nodesText_cons,n.text_eq]
        simp only [List.append_assoc,List.cons_append]
        exact takeWhile_until (n.id_not_mem (by decide)) _
      have hat : '@' ∉ n.endpoint.text := n.endpoint.isAddress.not_mem (by decide)
      have hfound : '@' ∈ n.endpoint.text ++
          '@' :: (n.bus ++ ' ' :: (n.tail ++ '\n' :: nodesText ns)) := by simp
      have hnext := n.nextLine_addrStart ns
      have hlen : n.id.length < 64 := by
        rw [n.id_length]
        decide
      rw [nodeIDLoop,if_neg hgoes]
      dsimp only
      rw [hid,addrStart_cons,if_neg (by simp),if_pos hfound,takeWhile_until hat,hnext]
      by_cases heq : n.endpoint = target
      · rw [if_pos ⟨n.endpoint.isAddress.fits, by rw [heq]⟩,if_pos hlen]
        simp [heq]
      · rw [if_neg (fun hsame => heq (Endpoint.text_inj hsame.2)),ih rounds hrounds]
        simp [heq]

theorem le_length_nodesText (ns : List NodeEntry) : ns.length ≤ (nodesText ns).length := by
  induction ns with
  | nil => simp
  | cons n ns ih =>
    rw [nodesText_cons]
    simp only [List.length_cons,List.length_append]
    omega

theorem knownAddrTable_text (ns : List NodeEntry) :
    knownAddrTable (some (nodesText ns)) = (ns.map (fun n => n.endpoint.text)).take maxPeers :=
  knownLoop_text ns _ maxPeers (le_length_nodesText ns)

theorem mem_knownAddrTable_text (e : Endpoint) (ns : List NodeEntry) :
    e.text ∈ knownAddrTable (some (nodesText ns)) ↔ ∃ n ∈ ns.take maxPeers, n.endpoint = e := by
  rw [knownAddrTable_text,← List.map_take]
  simp only [List.mem_map]
  constructor
  · rintro ⟨n,hn,heq⟩
    exact ⟨n, hn, Endpoint.text_inj heq⟩
  · rintro ⟨n,hn,rfl⟩
    exact ⟨n, hn, rfl⟩

theorem getNodeIDForAddr_text (target : Endpoint) (ns : List NodeEntry) :
    getNodeIDForAddr (some (nodesText ns)) target.text =
      (ns.find? (fun n => n.endpoint = target)).map (fun n => n.id) :=
  nodeIDLoop_text target ns _ (le_length_nodesText ns)

def plainEntry (flags : Text) (slots : List Text) (h : ∀ t ∈ flags :: slots, IsToken t) : NodeEntry where
  id := nodeID '1'
  endpoint := ⟨"10.0.0.1".toList, "7000".toList, by decide, by decide, by decide, by decide⟩
  bus := "17000".toList
  flags := flags
  masterID := ['-']
  pingSent := ['0']
  pongRecv := "1700000000000".toList
  configEpoch := ['1']
  linkState := "connected".toList
  slots := slots
  id_length := by decide
  id_hex := by decide
  tokens := by
    simp only [List.forall_mem_cons] at h ⊢
    exact ⟨by decide, h.1, by decide, by decide, by decide, by decide, by decide, h.2⟩

end ValkeyOperator
