import L2Oracle.Transport.Simulator

/-!
# Lengths that a frame declares

A receive path knows three lengths: how much was received, how much payload the header declares, and
how much room the caller has. Both transports cut the declared length to the room, and the Ethernet
transport also to `ORACLE_MAX_PAYLOAD_V1`, but neither compares it with what was received. A header that
declares more than came with it is accepted, and what an earlier frame left in the receive buffer, or
whatever lies behind the buffer on the stack, is returned as payload.

Each receive path is split here into what it accepts and how much it then copies, and what it returns
was received exactly if what it copies lies inside the frame.
-/

namespace L2Oracle

open Base

/-- If a receive path returns a positive length, that many bytes follow the header in what was received,
and they are the payload. -/
def OnlyReceived (headerSize : Nat) (received : List UInt8) (r : RecvResult) : Prop :=
  0 < r.1 → ∃ m ∈ r.2, r.1 = m.payload.length ∧ headerSize + m.payload.length ≤ received.length ∧
    m.payload = (received.drop headerSize).take m.payload.length

/-- A path that copies `n` bytes from behind the header returns what was received exactly if they lie
inside it. -/
theorem onlyReceived_copy_iff {headerSize n : Nat} {received : List UInt8}
    (hheader : headerSize ≤ received.length) (beyond : Nat → UInt8) (ethertype : UInt16)
    (msgType : RaftMsgType) (srcNode : UInt8) :
    OnlyReceived headerSize received ((n : Int), some ⟨ethertype, msgType, srcNode,
        copy (buffer received beyond) headerSize n⟩) ↔
      headerSize + n ≤ received.length := by
  have hlen : (copy (buffer received beyond) headerSize n).length = n := by simp [copy]
  constructor
  · intro h
    by_cases hpos : 0 < n
    · obtain ⟨m, hm, -, hinside, -⟩ := h (Int.natCast_pos.mpr hpos)
      rw [← Option.some.inj hm, hlen] at hinside
      exact hinside
    · omega
  · intro hinside _
    refine ⟨_, rfl, ?_, ?_, ?_⟩
    · simp only [hlen]
    · simp only [hlen]
      exact hinside
    · simp only [hlen]
      exact copy_buffer hinside beyond

/-! ### The Ethernet transport -/

/-- The frame passes the checks of `eth_recv`. -/
structure EthRx.Accepted (rx : EthRx) : Prop where
  semTaken : rx.semTaken = true
  received : rx.received = .ok
  complete : OracleFrameHeader.size ≤ rx.frame.length
  ethertype : IsOracleEthertype
    (((buffer rx.frame rx.beyond 12).toUInt16 <<< 8) ||| (buffer rx.frame rx.beyond 13).toUInt16)
  version : versionMatches (OracleFrameHeader.read (buffer rx.frame rx.beyond)).version = true

/-- The payload length that the header declares. -/
def EthRx.declared (rx : EthRx) : Nat :=
  (OracleFrameHeader.read (buffer rx.frame rx.beyond)).payloadLen.toNat

theorem ethRecv_of_accepted {rx : EthRx} (h : rx.Accepted) (maxLen : Nat) :
    ∃ ethertype msgType srcNode, ethRecv rx maxLen
      = (((min (min rx.declared maxLen) oracleMaxPayloadV1 : Nat) : Int), some ⟨ethertype, msgType,
        srcNode, copy (buffer rx.frame rx.beyond) OracleFrameHeader.size
          (min (min rx.declared maxLen) oracleMaxPayloadV1)⟩) := by
  let mem := buffer rx.frame rx.beyond
  have hshort : ¬rx.frame.length < 14 := by
    have hsize : OracleFrameHeader.size = 24 := rfl
    have hcomplete := h.complete
    omega
  refine ⟨((mem 12).toUInt16 <<< 8) ||| (mem 13).toUInt16,
    .ofCode (OracleFrameHeader.read mem).msgType, (OracleFrameHeader.read mem).nodeId, ?_⟩
  rw [ethRecv, h.semTaken, if_neg (by decide), if_neg (not_not.mpr h.received), ethParse]
  dsimp only
  rw [if_neg hshort, if_neg (not_not.mpr h.ethertype), if_neg (Nat.not_lt.mpr h.complete), h.version]
  rfl

theorem ethRecv_of_not_accepted {rx : EthRx} (h : ¬rx.Accepted) (maxLen : Nat) :
    (ethRecv rx maxLen).1 ≤ 0 := by
  unfold ethRecv ethParse
  dsimp only
  split_ifs with hsem hreceived hshort hetype hcomplete hversion
  all_goals first | decide | skip
  refine absurd ⟨?_, ?_, ?_, ?_, ?_⟩ h
  · simpa using hsem
  · exact not_not.mp hreceived
  · exact Nat.le_of_not_lt hcomplete
  · exact hetype
  · simpa using hversion

theorem ethRecv_onlyReceived_iff (rx : EthRx) (maxLen : Nat) :
    OnlyReceived OracleFrameHeader.size rx.frame (ethRecv rx maxLen) ↔
      (rx.Accepted → OracleFrameHeader.size + min (min rx.declared maxLen) oracleMaxPayloadV1
        ≤ rx.frame.length) := by
  by_cases haccepted : rx.Accepted
  · obtain ⟨ethertype, msgType, srcNode, hrecv⟩ := ethRecv_of_accepted haccepted maxLen
    rw [hrecv, onlyReceived_copy_iff haccepted.complete]
    exact ⟨fun h _ => h, fun h => h haccepted⟩
  · have hreject := ethRecv_of_not_accepted haccepted maxLen
    exact ⟨fun _ hbad => absurd hbad haccepted, fun _ hpos => absurd hpos (by omega)⟩

/-! ### The simulator's transport -/

/-- What `recvfrom` leaves in the local buffer of `sim_recv`. -/
def SimRx.received (rx : SimRx) : List UInt8 :=
  (rx.datagram.getD []).take (SimHeader.size + oracleMaxPayloadV1)

/-- The datagram passes the checks of `sim_recv`. -/
structure SimRx.Accepted (rx : SimRx) : Prop where
  poll : 0 < rx.poll
  some : rx.datagram.isSome
  complete : SimHeader.size ≤ rx.received.length
  version : versionMatches (SimHeader.read (buffer rx.received rx.stack)).version = true

/-- The payload length that the header declares. -/
def SimRx.declared (rx : SimRx) : Nat :=
  (SimHeader.read (buffer rx.received rx.stack)).payloadLen.toNat

theorem simRecv_of_accepted {rx : SimRx} (h : rx.Accepted) (maxLen : Nat) :
    ∃ ethertype msgType srcNode, simRecv rx maxLen
      = (((min rx.declared maxLen : Nat) : Int), some ⟨ethertype, msgType, srcNode,
        copy (buffer rx.received rx.stack) SimHeader.size (min rx.declared maxLen)⟩) := by
  obtain ⟨datagram, hdatagram⟩ := Option.isSome_iff_exists.mp h.some
  let hdr := SimHeader.read (buffer rx.received rx.stack)
  have hpoll := h.poll
  have hcomplete := h.complete
  have hversion := h.version
  refine ⟨hdr.ethertype, .ofCode hdr.msgType, hdr.nodeId, ?_⟩
  simp only [hdr, SimRx.received, SimRx.declared, hdatagram, Option.getD_some] at hcomplete hversion ⊢
  rw [simRecv, if_neg (by omega), hdatagram]
  dsimp only [simParse]
  rw [if_neg (Nat.not_lt.mpr hcomplete), hversion]
  rfl

theorem simRecv_of_not_accepted {rx : SimRx} (h : ¬rx.Accepted) (maxLen : Nat) :
    (simRecv rx maxLen).1 ≤ 0 := by
  unfold simRecv
  split
  · assumption
  · rename_i hpoll
    cases hdatagram : rx.datagram with
    | none => exact (by decide : (-1 : Int) ≤ 0)
    | some datagram =>
        dsimp only [simParse]
        split_ifs with hcomplete hversion
        · decide
        · decide
        · refine absurd ⟨by omega, by simp [hdatagram], ?_, ?_⟩ h
          · rw [SimRx.received, hdatagram]
            exact Nat.le_of_not_lt hcomplete
          · rw [SimRx.received, hdatagram]
            simpa using hversion

theorem simRecv_onlyReceived_iff (rx : SimRx) (maxLen : Nat) :
    OnlyReceived SimHeader.size rx.received (simRecv rx maxLen) ↔
      (rx.Accepted → SimHeader.size + min rx.declared maxLen ≤ rx.received.length) := by
  by_cases haccepted : rx.Accepted
  · obtain ⟨ethertype, msgType, srcNode, hrecv⟩ := simRecv_of_accepted haccepted maxLen
    rw [hrecv, onlyReceived_copy_iff haccepted.complete]
    exact ⟨fun h _ => h, fun h => h haccepted⟩
  · have hreject := simRecv_of_not_accepted haccepted maxLen
    exact ⟨fun _ hbad => absurd hbad haccepted, fun _ hpos => absurd hpos (by omega)⟩

/-! ### Both transports -/

/-- For every frame or datagram and every room of the caller, a receive path returns only what was
received exactly if the message is rejected or the length that is copied, the declared one cut to the
room, ends inside what was received. -/
theorem recv_only_received_iff (rx : EthRx) (simRx : SimRx) (maxLen : Nat) :
    (OnlyReceived OracleFrameHeader.size rx.frame (ethRecv rx maxLen) ↔
      (rx.Accepted → OracleFrameHeader.size + min (min rx.declared maxLen) oracleMaxPayloadV1
        ≤ rx.frame.length)) ∧
    (OnlyReceived SimHeader.size simRx.received (simRecv simRx maxLen) ↔
      (simRx.Accepted → SimHeader.size + min simRx.declared maxLen ≤ simRx.received.length)) :=
  ⟨ethRecv_onlyReceived_iff rx maxLen, simRecv_onlyReceived_iff simRx maxLen⟩

/-- A frame of minimal Ethernet size whose header declares a full payload. -/
def overstatedFrame : List UInt8 :=
  (oracleFrameInit broadcastMac (ethTransportCreate 2 2).srcMac ethertypeHeartbeat
    RaftMsgType.nodeAnnounce.code 2 2 0 64).bytes ++ List.replicate 36 0

/-- A datagram that is only a header, which declares a full payload. -/
def overstatedDatagram : List UInt8 :=
  (SimHeader.mk oracleProtocolVersion RaftMsgType.nodeAnnounce.code 2 2 0 64 ethertypeHeartbeat).bytes

/-- Of the 64 bytes that `eth_recv` returns of a frame of 60 the last 28 were not received, and of the 64
that `sim_recv` returns of a datagram of 12 none was. -/
theorem recv_overstated :
    (ethRecv (.delivers overstatedFrame fun _ => 0xAA) oracleMaxPayloadV1).1 = 64 ∧
    ¬OnlyReceived OracleFrameHeader.size overstatedFrame
      (ethRecv (.delivers overstatedFrame fun _ => 0xAA) oracleMaxPayloadV1) ∧
    (simRecv (.delivers overstatedDatagram fun _ => 0xAA) 128).1 = 64 ∧
    ¬OnlyReceived SimHeader.size overstatedDatagram
      (simRecv (.delivers overstatedDatagram fun _ => 0xAA) 128) := by
  refine ⟨by decide +kernel, ?_, by decide +kernel, ?_⟩
  · intro h
    have hinside := (ethRecv_onlyReceived_iff (.delivers overstatedFrame fun _ => 0xAA) _).mp h
      ⟨rfl, rfl, by decide +kernel, by decide +kernel, by decide +kernel⟩
    exact absurd hinside (by decide +kernel)
  · intro h
    have hinside := (simRecv_onlyReceived_iff (.delivers overstatedDatagram fun _ => 0xAA) _).mp h
      ⟨by decide, rfl, by decide +kernel, by decide +kernel⟩
    exact absurd hinside (by decide +kernel)

end L2Oracle
