import ValkeyOperator.NodesText
import ValkeyOperator.Orders
import Mathlib.Data.List.Nodup

/-!
What OPERATOR.TOPOLOGY.SET does on a node: the peers it meets, and the primary it
replicates, against what the operator meant by its payload.
-/

set_option autoImplicit false

namespace ValkeyOperator
open TextScan

def Endpoint.call (e : Endpoint) : Text × Text := (e.ip, e.port)

def PayloadOf (peers : List Endpoint) (json : Text) : Prop :=
  json = primaryPayload (peers.map Endpoint.text) ∨
    ∃ primary : Endpoint, json = replicaRolePayload (peers.map Endpoint.text) primary.text

theorem endpoints_isAddress (peers : List Endpoint) :
    ∀ a ∈ peers.map Endpoint.text, IsAddress a := by
  intro a ha
  obtain ⟨e,-,rfl⟩ := List.mem_map.mp ha
  exact e.isAddress

theorem PayloadOf.meets {peers : List Endpoint} {json : Text} (h : PayloadOf peers json)
    (calls : TopologyCalls) :
    (operatorTopologySet calls json).meets =
      meetCalls (knownAddrTable calls.meetNodes) ((peers.take maxPeers).map Endpoint.text) := by
  rw [List.map_take]
  rcases h with rfl | ⟨primary,rfl⟩
  · have hparse := parseTopology_primary (endpoints_isAddress peers)
    exact (operatorTopologySet_other hparse (by decide) (by decide) calls).2
  · have hparse := parseTopology_replica (endpoints_isAddress peers) primary.isAddress
    exact (operatorTopologySet_replica hparse (by decide) rfl primary.isAddress.nonempty calls).1

theorem mem_meetCalls (known : List Text) (peers : List Endpoint) (call : Text × Text) :
    call ∈ meetCalls known (peers.map Endpoint.text) ↔
      ∃ e ∈ peers, e.call = call ∧ e.text ∉ known := by
  unfold meetCalls
  simp only [List.mem_filterMap,List.mem_filter,List.mem_map]
  constructor
  · rintro ⟨_,⟨⟨e,he,rfl⟩,hknown⟩,hcall⟩
    rw [e.split] at hcall
    exact ⟨e, he, Option.some.inj hcall, by simpa using hknown⟩
  · rintro ⟨e,he,rfl,hknown⟩
    exact ⟨e.text, ⟨⟨e, he, rfl⟩, by simpa using hknown⟩, e.split⟩

theorem Endpoint.call_inj {e f : Endpoint} (h : e.call = f.call) : e = f := by
  cases e
  cases f
  simpa [Endpoint.call] using h

theorem PayloadOf.mem_meets {peers : List Endpoint} {ns : List NodeEntry} {json : Text}
    {calls : TopologyCalls} (h : PayloadOf peers json) (hnodes : calls.meetNodes = some (nodesText ns))
    (call : Text × Text) :
    call ∈ (operatorTopologySet calls json).meets ↔
      ∃ e ∈ peers.take maxPeers, e.call = call ∧ ¬ ∃ n ∈ ns.take maxPeers, n.endpoint = e := by
  rw [h.meets,hnodes,mem_meetCalls]
  simp only [mem_knownAddrTable_text]

/-- An unknown peer is listed within the module's table, and a known one among the first
nodes. -/
structure TablesReach (peers : List Endpoint) (ns : List NodeEntry) : Prop where
  unknown : ∀ e ∈ peers, (∀ n ∈ ns, n.endpoint ≠ e) → e ∈ peers.take maxPeers
  known : ∀ e ∈ peers.take maxPeers, (∃ n ∈ ns, n.endpoint = e) →
    ∃ n ∈ ns.take maxPeers, n.endpoint = e

/-- CLUSTER MEET goes to the listed peers that no node of CLUSTER NODES is at, exactly as
far as the two tables reach. -/
theorem meets_unknown_iff {peers : List Endpoint} {ns : List NodeEntry} {json : Text}
    {calls : TopologyCalls} (hjson : PayloadOf peers json)
    (hnodes : calls.meetNodes = some (nodesText ns)) :
    (∀ call, call ∈ (operatorTopologySet calls json).meets ↔
      ∃ e ∈ peers, e.call = call ∧ ∀ n ∈ ns, n.endpoint ≠ e) ↔ TablesReach peers ns := by
  have hmeets := hjson.mem_meets hnodes
  constructor
  · intro h
    constructor
    · intro e he hun
      obtain ⟨f,hf,hcall,-⟩ := (hmeets e.call).mp ((h e.call).mpr ⟨e, he, rfl, hun⟩)
      rw [← Endpoint.call_inj hcall]
      exact hf
    · intro e he hex
      by_contra hnot
      obtain ⟨f,-,hcall,hun⟩ := (h e.call).mp ((hmeets e.call).mpr ⟨e, he, rfl, hnot⟩)
      rw [Endpoint.call_inj hcall] at hun
      obtain ⟨n,hn,heq⟩ := hex
      exact hun n hn heq
  · intro h call
    constructor
    · intro hcall
      obtain ⟨e,he,rfl,hun⟩ := (hmeets call).mp hcall
      refine ⟨e, List.mem_of_mem_take he, rfl, fun n hn heq => ?_⟩
      exact hun (h.known e he ⟨n, hn, heq⟩)
    · rintro ⟨e,he,rfl,hun⟩
      refine (hmeets e.call).mpr ⟨e, h.unknown e he hun, rfl, ?_⟩
      rintro ⟨n,hn,heq⟩
      exact hun n (List.mem_of_mem_take hn) heq

def numbered (k : Fin 65) : Endpoint where
  ip := "10.0.1.".toList ++ [Char.ofNat (48 + k / 10), Char.ofNat (48 + k % 10)]
  port := "6379".toList
  ip_chars := by
    revert k
    decide
  ip_fits := by simp
  port_digits := by decide
  port_fits := by decide

def currentLine : NodeEntry where
  id := List.replicate 40 'b'
  endpoint := numbered 0
  bus := "16379".toList
  flags := "myself,master".toList
  masterID := ['-']
  pingSent := ['0']
  pongRecv := ['0']
  configEpoch := ['1']
  linkState := "connected".toList
  slots := ["0-16383".toList]
  id_length := by decide
  id_hex := by decide
  tokens := by decide

def formerLine : NodeEntry where
  id := List.replicate 40 'a'
  endpoint := numbered 0
  bus := "16379".toList
  flags := "master,fail".toList
  masterID := ['-']
  pingSent := ['0']
  pongRecv := ['0']
  configEpoch := ['0']
  linkState := "disconnected".toList
  slots := []
  id_length := by decide
  id_hex := by decide
  tokens := by decide

def answering (ns : List NodeEntry) : TopologyCalls :=
  ⟨some (nodesText ns), fun _ => true, none, some (nodesText ns), none⟩

theorem secondPeer_met : ("10.0.1.01".toList, "6379".toList) ∈
    (operatorTopologySet (answering [currentLine])
      (primaryPayload ([numbered 0, numbered 1].map Endpoint.text))).meets := by
  have hreach : TablesReach [numbered 0, numbered 1] [currentLine] :=
    ⟨fun e he _ => he, fun e _ h => h⟩
  refine ((meets_unknown_iff (.inl rfl) rfl).mpr hreach _).mpr ⟨numbered 1, by simp, rfl, ?_⟩
  intro n hn heq
  cases List.mem_singleton.mp hn
  exact absurd heq (by decide)

def sixtyFive : List Endpoint := (List.finRange 65).map numbered

theorem lastPeer_not_met :
    numbered 64 ∈ sixtyFive ∧ (∀ n ∈ [currentLine], n.endpoint ≠ numbered 64) ∧
      (numbered 64).call ∉ (operatorTopologySet (answering [currentLine])
        (primaryPayload (sixtyFive.map Endpoint.text))).meets := by
  refine ⟨List.mem_map_of_mem (List.mem_finRange 64), ?_, ?_⟩
  · intro n hn
    cases List.mem_singleton.mp hn
    decide
  · intro hmet
    have hpayload : PayloadOf sixtyFive (primaryPayload (sixtyFive.map Endpoint.text)) := .inl rfl
    rw [hpayload.meets,mem_meetCalls] at hmet
    obtain ⟨e,he,hcall,-⟩ := hmet
    rw [Endpoint.call_inj hcall] at he
    exact absurd he (by decide +kernel)

def NodeEntry.live (n : NodeEntry) : Bool := !isFailing n.flags

/-- A CLUSTER NODES text that the operator and the pod both see. -/
structure SharedView (vc : ValkeyCluster) (ns : List NodeEntry) : Prop where
  ids : (ns.map (fun n => n.id)).Nodup
  apart : ns.Pairwise (fun a b => a.live = true → b.live = true → a.endpoint ≠ b.endpoint)
  port : ∀ n ∈ ns, n.live = true → n.endpoint.port = (toString (effectivePort vc)).toList

theorem SharedView.eq_of_id {vc : ValkeyCluster} {ns : List NodeEntry} (h : SharedView vc ns)
    {m n : NodeEntry} (hm : m ∈ ns) (hn : n ∈ ns) (hid : m.id = n.id) : m = n :=
  List.inj_on_of_nodup_map h.ids hm hn hid

theorem SharedView.find_id {vc : ValkeyCluster} {ns : List NodeEntry} (h : SharedView vc ns)
    {n : NodeEntry} (hn : n ∈ ns) : ns.find? (fun m => m.id = n.id) = some n := by
  cases hfind : ns.find? (fun m => m.id = n.id) with
  | none =>
    have hnot := List.find?_eq_none.mp hfind n hn
    simp at hnot
  | some m =>
    have hid : m.id = n.id := by simpa using List.find?_some hfind
    rw [h.eq_of_id (List.mem_of_find?_eq_some hfind) hn hid]

theorem SharedView.picked {vc : ValkeyCluster} {ns : List NodeEntry} (h : SharedView vc ns) {pod : Pod}
    {o : ReplicaOrder} (ho : orderFor vc (nodesText ns) pod = some o) :
    ∃ n ∈ ns, n.id = o.masterID ∧ n.live = true ∧ nodeAddr vc o.ip = n.endpoint.text := by
  obtain ⟨hpick,-,-,hip,-⟩ := orderFor_some ho
  obtain ⟨⟨st,hst,htakes,hid⟩,-⟩ := pickMasterForReplica_some hpick
  rw [parseClusterNodes_text] at hst
  obtain ⟨n,hn,rfl⟩ := List.mem_map.mp hst
  have hlive : n.live = true := by
    simp only [takesReplicas,healthyMaster,Bool.and_eq_true] at htakes
    exact htakes.1.2
  have haddr : o.ip = n.endpoint.ip := by
    have hfirst : (ns.map NodeEntry.state).find? (fun s => s.id = o.masterID) = some n.state := by
      rw [List.find?_map,← hid]
      exact congrArg (Option.map NodeEntry.state) (h.find_id hn)
    rw [hip,primaryIP,parseClusterNodes_text,hfirst]
    rfl
  refine ⟨n, hn, hid, hlive, ?_⟩
  rw [nodeAddr,haddr,← h.port n hn hlive]
  simp [Endpoint.text]

theorem SharedView.replicate {vc : ValkeyCluster} {ns : List NodeEntry} {pod : Pod}
    {o : ReplicaOrder} (ho : orderFor vc (nodesText ns) pod = some o) {n : NodeEntry}
    (hport : n.endpoint.port = (toString (effectivePort vc)).toList)
    (haddr : nodeAddr vc o.ip = n.endpoint.text) {calls : TopologyCalls}
    (hnodes : calls.replicateNodes = some (nodesText ns)) :
    (operatorTopologySet calls (o.payload vc)).replicate =
      if n.endpoint.ip ≠ [] ∧ isAlreadyReplicaOf calls.replication n.endpoint.ip = true then none
      else (ns.find? (fun m => m.endpoint = n.endpoint)).map (fun m => m.id) := by
  obtain ⟨-,-,hview,-,-⟩ := orderFor_some ho
  have hpeers : ∀ a ∈ payloadPeers vc (nodesText ns), IsAddress a := by
    intro a ha
    unfold payloadPeers at ha
    rw [parseClusterNodes_text] at ha
    obtain ⟨st,hst,rfl⟩ := List.mem_map.mp ha
    obtain ⟨m,-,rfl⟩ := List.mem_map.mp (List.mem_of_mem_filter hst)
    let e : Endpoint := { n.endpoint with
      ip := m.endpoint.ip, ip_chars := m.endpoint.ip_chars, ip_fits := m.endpoint.ip_fits }
    have he : nodeAddr vc m.state.ip = e.text := by
      rw [nodeAddr,← hport]
      simp [e,Endpoint.text,NodeEntry.state]
    rw [he]
    exact e.isAddress
  have hparse := parseTopology_replica hpeers n.endpoint.isAddress
  have hset := (operatorTopologySet_replica hparse (by decide) rfl
    n.endpoint.isAddress.nonempty calls).2
  rw [ReplicaOrder.payload,replicaPayload_eq,hview,haddr,hset,n.endpoint.split,hnodes,
    getNodeIDForAddr_text]
  rfl

theorem SharedView.find_earlier {vc : ValkeyCluster} {ns before after : List NodeEntry} {m n : NodeEntry}
    (h : SharedView vc ns) (hsplit : ns = before ++ n :: after) (hm : m ∈ before)
    (heq : m.endpoint = n.endpoint) :
    ∃ f, ns.find? (fun l => l.endpoint = n.endpoint) = some f ∧ f.id ≠ n.id := by
  obtain ⟨f,hf⟩ : ∃ f, before.find? (fun l => l.endpoint = n.endpoint) = some f := by
    refine Option.isSome_iff_exists.mp (List.find?_isSome.mpr ⟨m, hm, ?_⟩)
    simpa using heq
  refine ⟨f, by rw [hsplit,List.find?_append,hf,Option.some_or], fun hsame => ?_⟩
  have hids := h.ids
  rw [hsplit,List.map_append,List.map_cons] at hids
  refine List.disjoint_of_nodup_append hids ?_ (List.mem_cons_self)
  rw [← hsame]
  exact List.mem_map_of_mem (List.mem_of_find?_eq_some hf)

theorem SharedView.find_endpoint {vc : ValkeyCluster} {ns before after : List NodeEntry} {n : NodeEntry}
    (h : SharedView vc ns) (hsplit : ns = before ++ n :: after) (hlive : n.live = true)
    (hfailed : ∀ m ∈ before, m.live = false → m.endpoint ≠ n.endpoint) :
    ns.find? (fun l => l.endpoint = n.endpoint) = some n := by
  have hpair := h.apart
  rw [hsplit] at hpair
  have hbefore : before.find? (fun l => l.endpoint = n.endpoint) = none := by
    refine List.find?_eq_none.mpr (fun m hm heq => ?_)
    have hend : m.endpoint = n.endpoint := by simpa using heq
    cases hmlive : m.live with
    | false => exact hfailed m hm hmlive hend
    | true => exact (List.pairwise_append.mp hpair).2.2 m hm n (by simp) hmlive hlive hend
  rw [hsplit,List.find?_append,hbefore]
  simp

/-- The module replicates the primary the operator picked exactly when no failed line with
that primary's ip:port comes before it. -/
theorem replicates_picked_iff {vc : ValkeyCluster} {ns : List NodeEntry} (h : SharedView vc ns)
    {pod : Pod} {o : ReplicaOrder} (ho : orderFor vc (nodesText ns) pod = some o) :
    (∀ (calls : TopologyCalls) (x : Text), calls.replicateNodes = some (nodesText ns) →
        (operatorTopologySet calls (o.payload vc)).replicate = some x → x = o.masterID) ↔
      ∀ before n after, ns = before ++ n :: after → n.id = o.masterID →
        ∀ m ∈ before, m.live = false → m.endpoint ≠ n.endpoint := by
  obtain ⟨n,hn,hid,hlive,haddr⟩ := h.picked ho
  have hport := h.port n hn hlive
  constructor
  · intro hcalls before n' after hsplit hid' m hm hfail heq
    have hsame : n' = n := h.eq_of_id (by simp [hsplit]) hn (hid'.trans hid.symm)
    subst hsame
    obtain ⟨f,hf,hother⟩ := h.find_earlier hsplit hm heq
    -- a node that reports no replication yet is told the first line's ID
    let fresh : TopologyCalls := ⟨none, fun _ => true, none, some (nodesText ns), none⟩
    have hnodes : fresh.replicateNodes = some (nodesText ns) := rfl
    have hx := SharedView.replicate ho hport haddr hnodes
    rw [if_neg (by simp [fresh,isAlreadyReplicaOf]),hf] at hx
    exact hother ((hcalls fresh f.id hnodes hx).trans hid.symm)
  · intro hcond calls x hnodes hx
    obtain ⟨before,after,hsplit⟩ := List.append_of_mem hn
    rw [SharedView.replicate ho hport haddr hnodes] at hx
    split at hx
    · cases hx
    · rw [h.find_endpoint hsplit hlive (hcond before n after hsplit hid)] at hx
      cases hx
      exact hid

theorem currentFirst_replicated :
    (operatorTopologySet (answering [currentLine,formerLine])
      (replicaPayload (threeShards (fun _ => none)) (nodesText [currentLine,formerLine])
        (numbered 0).ip)).replicate = some currentLine.id := by
  have hview : SharedView (threeShards (fun _ => none)) [currentLine,formerLine] :=
    ⟨by decide, by decide, by decide⟩
  have horder : orderFor (threeShards (fun _ => none)) (nodesText [currentLine,formerLine])
      (readyPod '2') = some ⟨readyPod '2', nodesText [currentLine,formerLine], currentLine.id,
        (numbered 0).ip⟩ := by decide +kernel
  have hissued : (operatorTopologySet (answering [currentLine,formerLine])
      (replicaPayload (threeShards (fun _ => none)) (nodesText [currentLine,formerLine])
        (numbered 0).ip)).replicate.isSome = true := by decide +kernel
  obtain ⟨x,hx⟩ := Option.isSome_iff_exists.mp hissued
  have hpicked : x = currentLine.id := by
    refine (replicates_picked_iff hview horder).mpr ?_ (answering [currentLine,formerLine]) x rfl hx
    intro before n after hsplit hid m hm
    have hother : formerLine.id ≠ currentLine.id := by decide
    match before with
    | [] => simp at hm
    | [b] =>
      simp only [List.cons_append,List.nil_append,List.cons.injEq] at hsplit
      rw [← hsplit.2.1] at hid
      exact absurd hid hother
    | b :: c :: rest => simp at hsplit
  rw [hx,hpicked]

theorem formerFirst_replicated :
    SharedView (threeShards (fun _ => none)) [formerLine,currentLine] ∧
      orderFor (threeShards (fun _ => none)) (nodesText [formerLine,currentLine]) (readyPod '2') =
        some ⟨readyPod '2', nodesText [formerLine,currentLine], currentLine.id, (numbered 0).ip⟩ ∧
      (operatorTopologySet (answering [formerLine,currentLine])
        (replicaPayload (threeShards (fun _ => none)) (nodesText [formerLine,currentLine])
          (numbered 0).ip)).replicate = some formerLine.id := by
  refine ⟨⟨by decide, by decide, by decide⟩, ?_⟩
  decide +kernel

end ValkeyOperator
