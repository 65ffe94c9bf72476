import L2Oracle.Raft.Bridge
import L2Oracle.Transport.Ethernet

/-!
# A cluster on one Ethernet segment

The cluster of `Raft.Cluster`, but with the Ethernet transport under it. A frame goes out as the bytes
that `eth_send` builds, to the broadcast address, and every node is in promiscuous mode, so any member
may receive any frame that is on the segment. What a node receives goes through `eth_recv` and
`vEthRxTask` to its dispatcher. The bytes say who sent the frame and not whom it is for, so the node
takes every frame as its own: `hears_eq`.

A vote is therefore counted by whoever hears it. The module says at which receptions this goes wrong,
and in `overheardRun` one vote makes two leaders of one term.
-/

namespace L2Oracle

open Base

/-! ### The receive task -/

/-- One turn of `vEthRxTask` on node `n`, as far as it fills the Raft queue: what is put there is later
dispatched as a message to this node. -/
def vEthRxTask (n : UInt8) (rx : EthRx) : Option Packet :=
  match ethRecv rx oracleMaxPayloadV1 with
  | (len, some r) =>
      if len ≤ 0 then none
      else if r.ethertype = ethertypeRaft then
        some ⟨r.srcNode, ⟨n, r.ethertype, r.msgType, r.payload⟩⟩
      else none
  | (_, none) => none

section
variable {σ : Type} (c : ClusterSetup σ)

/-- What node `n` queues when the frame of a packet reaches it. `rxBuf` is what lies behind the frame
in the receive buffer. -/
def ClusterSetup.hears (n : UInt8) (p : Packet) (rxBuf : Nat → UInt8) : Option Packet :=
  (ethSend (ethTransportCreate p.src (c.box p.src)) .ready p.frame.dstNode p.frame.ethertype
    p.frame.msgType p.frame.payload).2.bind fun frame => vEthRxTask n (.delivers frame rxBuf)

/-! ### Runs on the segment -/

inductive SegmentEvent where
  | act (e : ClusterEvent)
  | receive (n : UInt8) (p : Packet) (rxBuf beyond : Nat → UInt8) (env now : Nat)

def ClusterSetup.segmentStep (s : Cluster σ) : SegmentEvent → Cluster σ
  | .act e => if e.input = none then c.step s e else s
  | .receive n p rxBuf beyond env now =>
      if n ∈ c.members ∧ p ∈ s.net then
        match c.hears n p rxBuf with
        | none => s
        | some q => s.act n ((ClusterEvent.deliver q beyond env now).run c.lib (s.nodes n))
      else s

def ClusterSetup.segmentReach (es : List SegmentEvent) : Cluster σ :=
  Base.run c.segmentStep c.init es

/-! ### Who counts a vote -/

/-- If a packet makes the dispatcher of a member hand a granted vote to its library, it was sent to that
member. -/
def VoteAtAddressee (pre : List SegmentEvent) : SegmentEvent → Prop
  | .act _ => True
  | .receive n p rxBuf beyond env now =>
      n ∈ c.members → p ∈ (c.segmentReach pre).net → ∀ q ∈ c.hears n p rxBuf, ∀ sender resp,
        .requestVoteResponse sender resp
            ∈ handed c.lib ((c.segmentReach pre).nodes n) env q beyond now →
          resp.voteGranted = raftRequestVoteGranted → p.frame.dstNode = n

/-- The payload of a frame that grants a vote: of the type of a vote response, long enough to be read as
one and short enough to be sent, and with the word that grants. -/
structure Packet.CarriesGrant (p : Packet) : Prop where
  ethertype : p.frame.ethertype = ethertypeRaft
  msgType : p.frame.msgType.code = RaftMsgType.requestVoteResp.code
  complete : PayloadRequestVoteResp.size ≤ p.frame.payload.length
  fits : p.frame.payload.length ≤ oracleMaxPayloadV1
  granted : (PayloadRequestVoteResp.read (buffer p.frame.payload fun _ => 0)).voteGranted.toInt32
    = raftRequestVoteGranted

/-- A member receives a frame that grants a vote to another node, from a node that it knows. -/
def Overhears (pre : List SegmentEvent) : SegmentEvent → Prop
  | .act _ => False
  | .receive n p _ _ _ _ =>
      n ∈ c.members ∧ p ∈ (c.segmentReach pre).net ∧ p.frame.dstNode ≠ n ∧
        c.lib.raftGetNode ((c.segmentReach pre).nodes n).raft p.src = true ∧ p.CarriesGrant

/-! ### What a node hears -/

/-- A node hears of a frame everything but the destination, which it takes to be itself. -/
theorem hears_eq (n : UInt8) (p : Packet) (rxBuf : Nat → UInt8) :
    c.hears n p rxBuf =
      if p.frame.ethertype = ethertypeRaft ∧ 0 < p.frame.payload.length ∧
          p.frame.payload.length ≤ oracleMaxPayloadV1 then
        some ⟨p.src, ⟨n, ethertypeRaft, .ofCode p.frame.msgType.code, p.frame.payload⟩⟩
      else none := by
  unfold ClusterSetup.hears
  by_cases hlen : p.frame.payload.length ≤ oracleMaxPayloadV1
  · rw [ethSend_ready hlen, Option.bind_some, vEthRxTask, ethRecv_delivers]
    by_cases hetype : IsOracleEthertype p.frame.ethertype
    · rw [ethParse_ethFrame hlen hetype (Nat.le_refl _)]
      dsimp only [ethTransportCreate]
      by_cases hempty : p.frame.payload.length = 0
      · simp [hempty]
      · have hpos : 0 < p.frame.payload.length := Nat.pos_of_ne_zero hempty
        rw [if_neg (by omega)]
        by_cases hraft : p.frame.ethertype = ethertypeRaft
        · rw [if_pos hraft, if_pos ⟨hraft, hpos, hlen⟩, hraft]
        · rw [if_neg hraft, if_neg fun h => hraft h.1]
    · rw [ethParse_filtered hetype, if_neg fun h => hetype (Or.inl h.1)]
  · rw [ethSend_of_long (Nat.lt_of_not_le hlen), if_neg fun h => hlen h.2.2]
    rfl

/-! ### When a vote reaches another node -/

variable {c} in
theorem vote_handed {pre : List SegmentEvent} {n : UInt8} {p : Packet} {rxBuf beyond : Nat → UInt8}
    {env now : Nat} {q : Packet} (hq : q ∈ c.hears n p rxBuf) {sender : UInt8}
    {resp : MsgRequestVoteResponse}
    (hhanded : .requestVoteResponse sender resp
      ∈ handed c.lib ((c.segmentReach pre).nodes n) env q beyond now)
    (hgranted : resp.voteGranted = raftRequestVoteGranted) :
    c.lib.raftGetNode ((c.segmentReach pre).nodes n).raft p.src = true ∧ p.CarriesGrant := by
  rw [hears_eq] at hq
  split at hq
  · rename_i hsent
    obtain rfl := Option.some.inj hq
    obtain ⟨hknown, hdispatch⟩ := mem_handed.mp hhanded
    cases hdispatch with
    | requestVoteResponse htype hcomplete =>
        have hcode := congrArg RaftMsgType.code htype
        rw [RaftMsgType.code_ofCode] at hcode
        rw [PayloadRequestVoteResp.read_congr (agreeTo_buffer hcomplete beyond fun _ => 0)] at hgranted
        exact ⟨hknown, hsent.1, hcode, hcomplete, hsent.2.2, hgranted⟩
  · cases hq

variable {c} in
theorem Packet.CarriesGrant.heard {pre : List SegmentEvent} {n : UInt8} {p : Packet}
    (h : p.CarriesGrant)
    (hknown : c.lib.raftGetNode ((c.segmentReach pre).nodes n).raft p.src = true)
    (rxBuf beyond : Nat → UInt8) (env now : Nat) :
    ∃ q ∈ c.hears n p rxBuf, ∃ resp, .requestVoteResponse p.src resp
        ∈ handed c.lib ((c.segmentReach pre).nodes n) env q beyond now ∧
      resp.voteGranted = raftRequestVoteGranted := by
  have hpos : 0 < p.frame.payload.length := Nat.lt_of_lt_of_le (by decide) h.complete
  have hheard := hears_eq c n p rxBuf
  rw [if_pos ⟨h.ethertype, hpos, h.fits⟩, h.msgType] at hheard
  refine ⟨_, hheard, _, mem_handed.mpr ⟨hknown, .requestVoteResponse rfl h.complete⟩, ?_⟩
  rw [PayloadRequestVoteResp.read_congr (agreeTo_buffer h.complete beyond fun _ => 0)]
  exact h.granted

/-- **A vote is counted by its addressee only, exactly in the runs in which no other node that knows
the voter receives the frame.** -/
theorem vote_at_addressee_iff (es : List SegmentEvent) :
    Throughout (VoteAtAddressee c) es ↔ Throughout (fun pre e => ¬Overhears c pre e) es := by
  refine throughout_congr fun pre e => ?_
  cases e with
  | act e => exact ⟨fun _ => id, fun _ => trivial⟩
  | receive n p rxBuf beyond env now =>
      constructor
      · rintro hvote ⟨hn, hp, hne, hknown, hgrant⟩
        obtain ⟨q, hq, resp, hhanded, hgranted⟩ := hgrant.heard hknown rxBuf beyond env now
        exact hne (hvote hn hp q hq p.src resp hhanded hgranted)
      · intro hquiet hn hp q hq sender resp hhanded hgranted
        by_contra hne
        obtain ⟨hknown, hgrant⟩ := vote_handed hq hhanded hgranted
        exact hquiet ⟨hn, hp, hne, hknown, hgrant⟩

end

/-! ### Three nodes -/

def reaches (n : UInt8) (p : Packet) : SegmentEvent :=
  .receive n p (fun _ => 0) (fun _ => 0) 0 0

def voteOfTwo : Packet :=
  ⟨2, ⟨1, ethertypeRaft, .requestVoteResp, (PayloadRequestVoteResp.mk 1 0).bytes⟩⟩

/-- Nodes 1 and 3 stand in term 1. Node 2 hears the request of node 1 and votes for it, and both
candidates hear the vote. -/
def overheardRun : List SegmentEvent :=
  [.act (timeout 1), .act (timeout 3), reaches 2 ⟨1, cbSendRequestvote 2 ⟨1, nodeIdInt 1, 0, 0⟩⟩,
    reaches 1 voteOfTwo, reaches 3 voteOfTwo]

/-- The dispatcher of node 3 hands its library the vote for node 1, and nodes 1 and 3 both lead in
term 1. -/
theorem vote_counted_twice_overheardRun :
    RaftRules threeOracles.lib ReferenceServer.view ∧ threeOracles.members = [1, 2, 3] ∧
      ¬Throughout (VoteAtAddressee threeOracles) overheardRun ∧
      ∀ n ∈ [1, 3],
        oracleIsLeader threeOracles.lib ((threeOracles.segmentReach overheardRun).nodes n) = true ∧
          threeOracles.lib.raftGetCurrentTerm ((threeOracles.segmentReach overheardRun).nodes n).raft
            = 1 := by
  refine ⟨ReferenceServer.rules, rfl, fun hvotes => ?_, by decide +kernel⟩
  have hlast := hvotes (overheardRun.take 4) (reaches 3 voteOfTwo) [] rfl
  have hsent : voteOfTwo ∈ (threeOracles.segmentReach (overheardRun.take 4)).net := by decide +kernel
  have hknown : threeOracles.lib.raftGetNode
      ((threeOracles.segmentReach (overheardRun.take 4)).nodes 3).raft 2 = true := by decide +kernel
  have hgrant : voteOfTwo.CarriesGrant := ⟨rfl, rfl, by decide, by decide, by decide +kernel⟩
  obtain ⟨q, hq, resp, hhanded, hgranted⟩ := hgrant.heard hknown (fun _ => 0) (fun _ => 0) 0 0
  exact absurd (hlast (by decide) hsent q hq _ resp hhanded hgranted) (by decide)

end L2Oracle
