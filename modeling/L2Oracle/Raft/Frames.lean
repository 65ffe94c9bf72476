import L2Oracle.Raft.Calls
import L2Oracle.Transport.Simulator

/-!
# The frames that nodes send

A node sends seven kinds of frames, and `WellFormed` lists them: the four messages of Raft, two events
of the health table and the answer to an announcement. In each the EtherType, the message type and the
payload fit together, and the counts inside the payload say what it holds.

Every function of a node keeps to the list, whatever the library does, so in every run all that is ever
sent is on it. No frame on it is too long for a transport, none has a message type that the cast from
the header byte would change, and none of Raft's is too short for the dispatcher. So what one node
sends, another node reads as it was sent, over either transport.
-/

namespace L2Oracle

open Base

inductive Frame.WellFormed : Frame → Prop
  | requestVote (dst : UInt8) (p : PayloadRequestVote) :
      WellFormed ⟨dst, ethertypeRaft, .requestVote, p.bytes⟩
  | requestVoteResp (dst : UInt8) (p : PayloadRequestVoteResp) :
      WellFormed ⟨dst, ethertypeRaft, .requestVoteResp, p.bytes⟩
  | appendEntries (dst : UInt8) (ae : PayloadAppendEntries) (entries : List RaftLogEntryWire)
      (hcount : ae.nEntries.toNat = entries.length) (hlen : entries.length ≤ 1) :
      WellFormed ⟨dst, ethertypeRaft, .appendEntries,
        ae.bytes ++ entries.flatMap RaftLogEntryWire.bytes⟩
  | appendEntriesResp (dst : UInt8) (p : PayloadAppendEntriesResp)
      (hcount : p.nObservations.toNat = p.obs.length) (hlen : p.obs.length ≤ maxObservationsPerResp) :
      WellFormed ⟨dst, ethertypeRaft, .appendEntriesResp, p.bytes⟩
  | healthEvent (p : PayloadHealthUpdate) :
      WellFormed ⟨0xFF, ethertypeHealth,
        if p.newStatus = nodeDown then .failureEvent else .healthUpdate, p.bytes⟩
  | announceAck (p : PayloadNodeAnnounceAck) :
      WellFormed ⟨p.assignedNodeId, ethertypeHeartbeat, .nodeAnnounceAck, p.bytes⟩

/-! ### Every function keeps to the list -/

theorem wellFormed_cbSendAppendentries (peer : UInt8) (msg : MsgAppendEntries) :
    (cbSendAppendentries peer msg).WellFormed := by
  obtain ⟨term, prevLogIdx, prevLogTerm, leaderCommit, entries⟩ := msg
  cases entries with
  | nil => exact .appendEntries peer ⟨_, _, _, 0⟩ [] rfl (Nat.zero_le _)
  | cons entry rest =>
      have hcount : (if 1 < rest.length + 1 then (1 : UInt8) else UInt8.ofNat (rest.length + 1)) = 1 := by
        split
        · rfl
        · rename_i hfew
          rw [show rest.length = 0 by omega]
          rfl
      have hrecord : (wireEntry entry).bytes = [wireEntry entry].flatMap RaftLogEntryWire.bytes := by
        simp
      simp only [cbSendAppendentries, List.length_cons, hcount, hrecord]
      exact .appendEntries peer ⟨_, _, _, 1⟩ [wireEntry entry] rfl (Nat.le_refl _)

theorem length_healthMonitorGetObservations (hm : HealthMonitor) :
    (healthMonitorGetObservations hm).length ≤ maxObservationsPerResp := by
  simp [healthMonitorGetObservations]

theorem wellFormed_appendEntriesAnswer (dst : UInt8) (health : Option HealthMonitor)
    (resp : MsgAppendEntriesResponse) :
    (⟨dst, ethertypeRaft, .appendEntriesResp, (appendEntriesAnswer health resp).bytes⟩ :
      Frame).WellFormed := by
  have hlen : (appendEntriesAnswer health resp).obs.length ≤ maxObservationsPerResp := by
    cases health with
    | none => exact Nat.zero_le _
    | some hm => exact length_healthMonitorGetObservations hm
  refine .appendEntriesResp dst _ ?_ hlen
  exact UInt8.toNat_ofNat_of_lt' (Nat.lt_of_le_of_lt hlen (by decide))

theorem wellFormed_healthEvent (targetNode targetBox oldStatus newStatus : UInt8)
    (term timestampMs : UInt32) :
    (healthEvent targetNode targetBox oldStatus newStatus term timestampMs).WellFormed :=
  .healthEvent ⟨targetNode, targetBox, oldStatus, newStatus, term, timestampMs⟩

theorem wellFormed_cbApplylog (health : Option HealthMonitor) (entry : RaftEntry) :
    ∀ f ∈ (cbApplylog health entry).2, f.WellFormed := by
  intro f hf
  unfold cbApplylog at hf
  split at hf
  · cases health with
    | none => cases hf
    | some hm =>
        simp only [healthTableApply_eq] at hf
        split at hf
        · rw [List.mem_singleton.mp hf]
          exact wellFormed_healthEvent ..
        · cases hf
  · cases hf

section
variable {σ : Type}

/-- All frames of an effect are on the list. -/
def Effect.WellFormed (e : Effect σ) : Prop := ∀ f ∈ e.sent, f.WellFormed

theorem Effect.WellFormed.append {e : Effect σ} (h : e.WellFormed) {frames : List Frame}
    (hframes : ∀ f ∈ frames, f.WellFormed) (node : OracleNode σ) (applied : List (Nat × RaftEntry)) :
    (⟨node, e.sent ++ frames, applied⟩ : Effect σ).WellFormed := by
  intro f hf
  rcases List.mem_append.mp hf with hold | hnew
  · exact h f hold
  · exact hframes f hnew

theorem wellFormed_runCallback {e : Effect σ} (h : e.WellFormed) (call : RaftCall) :
    (runCallback e call).WellFormed := by
  cases call with
  | sendRequestVote peer msg =>
      exact h.append (List.forall_mem_singleton.mpr (.requestVote peer ⟨_, _, _⟩)) _ _
  | sendAppendEntries peer msg =>
      exact h.append (List.forall_mem_singleton.mpr (wellFormed_cbSendAppendentries peer msg)) _ _
  | applyLog entry idx => exact h.append (wellFormed_cbApplylog e.node.health entry) _ _

theorem wellFormed_runLibrary (o : OracleNode σ) (r : LibResult σ) : (runLibrary o r).WellFormed :=
  List.foldlRecOn r.calls runCallback (motive := Effect.WellFormed) (List.forall_mem_nil _)
    fun _ he call _ => wellFormed_runCallback he call

theorem wellFormed_propose (lib : RaftLib σ) (o : OracleNode σ) (env : Nat)
    (targetNode targetBox oldStatus newStatus : UInt8) (now : Nat) :
    (oracleProposeHealthTransition lib o env targetNode targetBox oldStatus newStatus
      now).1.WellFormed := by
  unfold oracleProposeHealthTransition
  split
  · exact wellFormed_runLibrary _ _
  · exact List.forall_mem_nil _

theorem wellFormed_submitAll (lib : RaftLib σ) (env now : Nat) (ps : List Proposal) {e : Effect σ}
    (h : e.WellFormed) : ((oracleApi lib env now).submitAll e ps).WellFormed :=
  List.foldlRecOn ps (oracleApi lib env now).submit (motive := Effect.WellFormed) h
    fun e he p _ => he.append (wellFormed_propose lib e.node env p.targetNode p.targetBox p.oldStatus
      p.newStatus now) _ _

theorem wellFormed_dispatch (lib : RaftLib σ) (o : OracleNode σ) (env : Nat) (srcNode : UInt8)
    (msgType : RaftMsgType) (mem : Nat → UInt8) (len now : Nat) :
    (oracleDispatchRaftMessage lib o env srcNode msgType mem len now).1.WellFormed := by
  have hcases := dispatched lib o env srcNode msgType mem len now
  generalize oracleDispatchRaftMessage lib o env srcNode msgType mem len now = d at hcases ⊢
  cases hcases with
  | dropped => exact List.forall_mem_nil _
  | requestVote =>
      exact (wellFormed_runLibrary o _).append
        (List.forall_mem_singleton.mpr (.requestVoteResp srcNode ⟨_, _⟩)) _ _
  | requestVoteResp => exact wellFormed_runLibrary o _
  | appendEntries =>
      exact (wellFormed_runLibrary o _).append
        (List.forall_mem_singleton.mpr (wellFormed_appendEntriesAnswer srcNode _ _)) _ _
  | appendEntriesResp => exact wellFormed_runLibrary _ _

theorem NodeCall.wellFormed (lib : RaftLib σ) (o : OracleNode σ) (x : NodeCall) :
    (x.run lib o).WellFormed := by
  cases x with
  | startHealth => exact List.forall_mem_nil _
  | oracleTick env elapsedMs => exact wellFormed_runLibrary o _
  | dispatch srcNode msgType payload beyond env now => exact wellFormed_dispatch lib o env srcNode _ _ _ now
  | announce srcNode ann sample =>
      intro f hf
      obtain ⟨hm, hf⟩ := mem_sent_withMonitor hf
      simp only [List.nil_append, healthMonitorProcessAnnounce_eq] at hf
      split at hf
      · rw [List.mem_singleton.mp hf, announceAck]
        exact .announceAck ⟨_, _, _⟩
      · cases hf
  | heartbeat srcNode hb sample env now =>
      intro f hf
      obtain ⟨hm, hf⟩ := mem_sent_withMonitor hf
      obtain ⟨ps, hps⟩ := healthMonitorProcessHeartbeat_submits (oracleApi lib env now) hm ⟨o, [], []⟩
        srcNode hb (UInt32.ofNat sample)
      rw [hps] at hf
      exact wellFormed_submitAll lib env now ps (e := ⟨o, [], []⟩) (List.forall_mem_nil _) f hf
  | tick beyond sample env now =>
      intro f hf
      obtain ⟨hm, hf⟩ := mem_sent_withMonitor hf
      obtain ⟨ps, hps⟩ := healthMonitorTick_submits (oracleApi lib env now) hm ⟨o, [], []⟩
        (UInt32.ofNat sample) beyond
      rw [hps] at hf
      exact wellFormed_submitAll lib env now ps (e := ⟨o, [], []⟩) (List.forall_mem_nil _) f hf
  | propose targetNode targetBox oldStatus newStatus env now =>
      exact wellFormed_propose lib o env targetNode targetBox oldStatus newStatus now

/-- A call adds only frames that are on the list. -/
theorem wellFormed_call (c : ClusterSetup σ) {s : Cluster σ} (h : ∀ p ∈ s.net, p.frame.WellFormed)
    (x : ClusterCall) : ∀ p ∈ (c.call s x).net, p.frame.WellFormed := by
  intro p hp
  rcases mem_net_act hp with hold | ⟨-, hf⟩
  · exact h p hold
  · exact x.2.wellFormed c.lib (s.nodes x.1) p.frame hf

theorem wellFormed_run (c : ClusterSetup σ) {s : Cluster σ} (h : ∀ p ∈ s.net, p.frame.WellFormed)
    (xs : List ClusterCall) : ∀ p ∈ (run c.call s xs).net, p.frame.WellFormed :=
  List.foldlRecOn xs c.call (motive := fun s => ∀ p ∈ s.net, p.frame.WellFormed) h
    fun _ hs x _ => wellFormed_call c hs x

end

/-! ### How a well-formed frame travels -/

theorem PayloadNodeAnnounceAck.length_bytes (p : PayloadNodeAnnounceAck) : p.bytes.length = 4 := rfl

theorem length_entryBytes (entries : List RaftLogEntryWire) :
    (entries.flatMap RaftLogEntryWire.bytes).length = entries.length * RaftLogEntryWire.size := by
  induction entries with
  | nil => rfl
  | cons we entries ih =>
      rw [List.flatMap_cons, List.length_append, we.length_bytes, ih, List.length_cons, Nat.succ_mul,
        Nat.add_comm]

namespace Frame.WellFormed

variable {f : Frame} (h : f.WellFormed)
include h

theorem length_le : f.payload.length ≤ oracleMaxPayloadV1 := by
  cases h with
  | requestVote dst p => exact p.length_bytes.trans_le (by decide)
  | requestVoteResp dst p => exact p.length_bytes.trans_le (by decide)
  | appendEntries dst ae entries hcount hlen =>
      show (ae.bytes ++ _).length ≤ _
      rw [List.length_append, ae.length_bytes, length_entryBytes]
      have hrecord := Nat.mul_le_mul_right RaftLogEntryWire.size hlen
      exact (Nat.add_le_add_left hrecord _).trans (by decide)
  | appendEntriesResp dst p => exact p.length_bytes.trans_le (by decide)
  | healthEvent p => exact p.length_bytes.trans_le (by decide)
  | announceAck p => exact p.length_bytes.trans_le (by decide)

theorem isOracleEthertype : IsOracleEthertype f.ethertype := by
  cases h with
  | requestVote | requestVoteResp | appendEntries | appendEntriesResp => exact .inl rfl
  | healthEvent => exact .inr (.inl rfl)
  | announceAck => exact .inr (.inr rfl)

/-- The cast of the message type to its header byte and back changes nothing. -/
theorem ofCode_code : RaftMsgType.ofCode f.msgType.code = f.msgType := by
  cases h with
  | requestVote | requestVoteResp | appendEntries | appendEntriesResp | announceAck => rfl
  | healthEvent p =>
      dsimp only
      split <;> rfl

/-- The dispatcher does not drop the frame for its type or its length. -/
theorem minLength_le (hraft : f.ethertype = ethertypeRaft) :
    ∃ least ∈ minLength f.msgType, least ≤ f.payload.length := by
  cases h with
  | requestVote dst p => exact ⟨_, rfl, p.length_bytes.ge⟩
  | requestVoteResp dst p => exact ⟨_, rfl, p.length_bytes.ge⟩
  | appendEntries dst ae entries =>
      refine ⟨_, rfl, ?_⟩
      show _ ≤ (ae.bytes ++ _).length
      rw [List.length_append, ae.length_bytes]
      exact Nat.le_add_right _ _
  | appendEntriesResp dst p => exact ⟨_, rfl, (by decide : 12 ≤ _).trans p.length_bytes.ge⟩
  | healthEvent => exact absurd hraft (show ethertypeHealth ≠ ethertypeRaft by decide)
  | announceAck => exact absurd hraft (show ethertypeHeartbeat ≠ ethertypeRaft by decide)

end Frame.WellFormed

/-- Both transports take the frame of a packet, what the other end reads is what was sent, and the
dispatcher accepts it if it is Raft's. -/
structure Packet.Carried (p : Packet) (boxId : UInt8) : Prop where
  eth : ∃ bytes, ethSend (ethTransportCreate p.src boxId) .ready p.frame.dstNode p.frame.ethertype
      p.frame.msgType p.frame.payload = (0, some bytes) ∧
    ∀ maxLen ≥ oracleMaxPayloadV1, ∀ beyond, ethRecv (.delivers bytes beyond) maxLen
      = ((p.frame.payload.length : Int),
        some ⟨p.frame.ethertype, p.frame.msgType, p.src, p.frame.payload⟩)
  sim : ∃ datagram, (∀ sent > 0, simSend (simTransportCreate p.src boxId) sent p.frame.dstNode
      p.frame.ethertype p.frame.msgType p.frame.payload = (0, some datagram)) ∧
    ∀ maxLen ≥ oracleMaxPayloadV1, ∀ stack, simRecv (.delivers datagram.bytes stack) maxLen
      = ((p.frame.payload.length : Int),
        some ⟨p.frame.ethertype, p.frame.msgType, p.src, p.frame.payload⟩)
  accepted : p.frame.ethertype = ethertypeRaft →
    ∃ least ∈ minLength p.frame.msgType, least ≤ p.frame.payload.length

theorem carried_of_wellFormed {p : Packet} (h : p.frame.WellFormed) (boxId : UInt8) :
    p.Carried boxId := by
  refine {
    eth := ⟨_, ethSend_ready h.length_le _ _ _ _, fun maxLen hmax beyond => ?_⟩
    sim := ⟨_, fun sent hsent => simSend_sent h.length_le hsent _ _ _ _, fun maxLen hmax stack => ?_⟩
    accepted := h.minLength_le }
  · have hparse := ethParse_ethFrame h.length_le h.isOracleEthertype hmax
      (ethTransportCreate p.src boxId) p.frame.msgType beyond
    rw [h.ofCode_code] at hparse
    rw [ethRecv_delivers]
    exact hparse
  · have hparse := simParse_simDatagram h.length_le hmax (simTransportCreate p.src boxId)
      p.frame.dstNode p.frame.ethertype p.frame.msgType stack
    rw [h.ofCode_code] at hparse
    exact hparse

/-- Whatever calls the nodes of a cluster get, in whatever order, and whatever their library does, every
frame that they ever send is on the list, is carried unchanged by both transports, and is accepted by
the dispatcher if it is Raft's. -/
theorem frames_carried {σ : Type} (c : ClusterSetup σ) (xs : List ClusterCall) :
    ∀ p ∈ (run c.call c.init xs).net, p.frame.WellFormed ∧ p.Carried (c.box p.src) := by
  intro p hp
  have hformed := wellFormed_run c (s := c.init) (List.forall_mem_nil _) xs p hp
  exact ⟨hformed, carried_of_wellFormed hformed _⟩

/-- Node 1 stands. -/
def standingCalls : List ClusterCall := [(1, .oracleTick 0 ReferenceServer.electionTimeout)]

/-- What it asks of node 2. -/
def requestToTwo : Packet := ⟨1, cbSendRequestvote 2 ⟨1, nodeIdInt 1, 0, 0⟩⟩

theorem frames_carried_standingCalls :
    requestToTwo.frame.WellFormed ∧ requestToTwo.Carried (threeOracles.box 1) :=
  frames_carried threeOracles standingCalls requestToTwo (by decide +kernel)

end L2Oracle
