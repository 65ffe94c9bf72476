import L2Oracle.Transport.Ethernet

/-!
# The simulator's transport, and that the two agree

`sim_send` and `sim_recv` of `transport_sim.c`. A message is one UDP datagram to the port of its
destination. Its twelve-byte header repeats the oracle's part of the Ethernet header and carries the
EtherType behind it, in the byte order of the host. The datagram is written and parsed by code of
its own, so what the simulator shows about the protocol says something about the firmware only because
the two transports carry the same messages, which the last theorem states.
-/

namespace L2Oracle

open Base

/-! ### The code -/

/-- `sim_header_t`, 12 bytes. -/
structure SimHeader where
  version : UInt8
  msgType : UInt8
  nodeId : UInt8
  boxId : UInt8
  term : UInt32
  payloadLen : UInt16
  ethertype : UInt16
deriving DecidableEq, Repr

def SimHeader.size : Nat := 12

def SimHeader.bytes (h : SimHeader) : List UInt8 :=
  [h.version, h.msgType, h.nodeId, h.boxId] ++ writeLE 4 h.term.toNat
    ++ writeLE 2 h.payloadLen.toNat ++ writeLE 2 h.ethertype.toNat

def SimHeader.read (mem : Nat → UInt8) : SimHeader where
  version := mem 0
  msgType := mem 1
  nodeId := mem 2
  boxId := mem 3
  term := UInt32.ofNat (readLE mem 4 4)
  payloadLen := UInt16.ofNat (readLE mem 8 2)
  ethertype := UInt16.ofNat (readLE mem 10 2)

/-- `sim_transport_data_t` without the socket. -/
structure SimTransportData where
  nodeId : UInt8
  boxId : UInt8
deriving DecidableEq, Repr

def simTransportCreate (nodeId boxId : UInt8) : SimTransportData where
  nodeId
  boxId

def simBasePort : Nat := 5000

/-- A datagram on the loopback interface. -/
structure Datagram where
  port : Nat
  bytes : List UInt8
deriving DecidableEq, Repr

/-- The datagram that `sim_send` builds, and where it goes. -/
def simDatagram (sd : SimTransportData) (dstNode : UInt8) (ethertype : UInt16) (type : RaftMsgType)
    (payload : List UInt8) : Datagram :=
  let hdr : SimHeader :=
    { version := oracleProtocolVersion
      msgType := type.code
      nodeId := sd.nodeId
      boxId := sd.boxId
      term := 0
      payloadLen := UInt16.ofNat payload.length
      ethertype }
  { port := simBasePort + dstNode.toNat, bytes := hdr.bytes ++ payload }

/-- `sent` is what `sendto` returns. It is positive exactly when the datagram went out. -/
def simSend (sd : SimTransportData) (sent : Int) (dstNode : UInt8) (ethertype : UInt16)
    (type : RaftMsgType) (payload : List UInt8) : SendResult Datagram :=
  if oracleMaxPayloadV1 < payload.length then (-1, none)
  else if 0 < sent then (0, some (simDatagram sd dstNode ethertype type payload))
  else (-1, none)

/-- What the socket answers to one `sim_recv`: the result of `poll`, the datagram that `recvfrom`
reads, if it reads one, and what the receive buffer on the stack held before. -/
structure SimRx where
  poll : Int
  datagram : Option (List UInt8)
  stack : Nat → UInt8

/-- The socket when it delivers a datagram. -/
def SimRx.delivers (datagram : List UInt8) (stack : Nat → UInt8) : SimRx where
  poll := 1
  datagram := some datagram
  stack

/-- The part of `sim_recv` that follows a successful `recvfrom`, which cuts a datagram that is longer
than the buffer. -/
def simParse (datagram : List UInt8) (stack : Nat → UInt8) (maxLen : Nat) : RecvResult :=
  let received := datagram.take (SimHeader.size + oracleMaxPayloadV1)
  let mem := buffer received stack
  let hdr := SimHeader.read mem
  if received.length < SimHeader.size then (-1, none)
  else if !versionMatches hdr.version then (-1, none)
  else
    let payloadLen := min hdr.payloadLen.toNat maxLen
    (payloadLen, some
      { ethertype := hdr.ethertype
        msgType := .ofCode hdr.msgType
        srcNode := hdr.nodeId
        payload := copy mem SimHeader.size payloadLen })

def simRecv (rx : SimRx) (maxLen : Nat) : RecvResult :=
  if rx.poll ≤ 0 then (rx.poll, none)
  else match rx.datagram with
    | none => (-1, none)
    | some datagram => simParse datagram rx.stack maxLen

/-! ### What is sent is what is received -/

@[simp] theorem SimHeader.length_bytes (h : SimHeader) : h.bytes.length = size := by
  simp [bytes, size]

theorem SimHeader.read_bytes (h : SimHeader) (rest : List UInt8) (beyond : Nat → UInt8) :
    read (buffer (h.bytes ++ rest) beyond) = h := by
  have hmem := spells_buffer (h.bytes ++ rest) beyond
  simp only [bytes, spells_append, spells_cons, List.length_append, length_writeLE, List.length_cons,
    List.length_nil, Nat.zero_add, Nat.reduceAdd] at hmem
  obtain ⟨⟨⟨⟨⟨hversion, hmsg, hnode, hbox, -⟩, hterm⟩, hlen⟩, hetype⟩, -⟩ := hmem
  simp only [read, bytes, hversion, hmsg, hnode, hbox, hterm.word, hlen.half, hetype.half]

theorem simSend_of_long {payload : List UInt8} (h : oracleMaxPayloadV1 < payload.length)
    (sd : SimTransportData) (sent : Int) (dstNode : UInt8) (ethertype : UInt16)
    (type : RaftMsgType) : simSend sd sent dstNode ethertype type payload = (-1, none) := by
  rw [simSend, if_pos h]

theorem simSend_sent {payload : List UInt8} (h : payload.length ≤ oracleMaxPayloadV1) {sent : Int}
    (hsent : 0 < sent) (sd : SimTransportData) (dstNode : UInt8) (ethertype : UInt16)
    (type : RaftMsgType) :
    simSend sd sent dstNode ethertype type payload
      = (0, some (simDatagram sd dstNode ethertype type payload)) := by
  rw [simSend, if_neg (Nat.not_lt.mpr h), if_pos hsent]

theorem simParse_simDatagram {payload : List UInt8} (hlen : payload.length ≤ oracleMaxPayloadV1)
    {maxLen : Nat} (hmax : oracleMaxPayloadV1 ≤ maxLen) (sd : SimTransportData) (dstNode : UInt8)
    (ethertype : UInt16) (type : RaftMsgType) (stack : Nat → UInt8) :
    simParse (simDatagram sd dstNode ethertype type payload).bytes stack maxLen
      = ((payload.length : Int), some ⟨ethertype, .ofCode type.code, sd.nodeId, payload⟩) := by
  obtain ⟨hdr, hhdr⟩ : ∃ hdr, hdr = SimHeader.mk oracleProtocolVersion type.code sd.nodeId sd.boxId 0
    (UInt16.ofNat payload.length) ethertype := ⟨_, rfl⟩
  have hbytes : (simDatagram sd dstNode ethertype type payload).bytes = hdr.bytes ++ payload := by
    rw [hhdr, simDatagram]
  have htake : (hdr.bytes ++ payload).take (SimHeader.size + oracleMaxPayloadV1)
      = hdr.bytes ++ payload := by
    apply List.take_of_length_le
    rw [List.length_append, hdr.length_bytes]
    omega
  have hsize : ¬ (hdr.bytes ++ payload).length < SimHeader.size := by
    rw [List.length_append, hdr.length_bytes]
    omega
  have hread := hdr.read_bytes payload stack
  have hversion : versionMatches hdr.version = true := by rw [hhdr]; exact versionMatches_self
  have hpayloadLen : hdr.payloadLen.toNat = payload.length := by
    rw [hhdr]
    exact toNat_payloadLen hlen
  have hclamp : min payload.length maxLen = payload.length := by omega
  have hcopy := (spells_append.mp (spells_buffer (hdr.bytes ++ payload) stack)).2.copy
  rw [hdr.length_bytes, Nat.zero_add] at hcopy
  rw [hbytes, simParse]
  dsimp only
  rw [htake, hread, if_neg hsize, hversion, hpayloadLen, hclamp, hcopy, hhdr]
  rfl

/-- **The two transports carry the same messages.** Whatever the sender's node and box, the
destination, the message type byte and the EtherType of the protocol, a payload of at most 64 bytes
goes out through both, and each receive path reads from the bytes of its own medium the EtherType,
the type, the source node and the payload that were sent, whatever its buffer held before. A longer
payload is refused by both, and nothing goes out. -/
theorem transports_agree (nodeId boxId dstNode code : UInt8) (ethertype : UInt16)
    (payload : List UInt8) :
    (IsOracleEthertype ethertype → payload.length ≤ oracleMaxPayloadV1 →
      ∃ frame datagram,
        ethSend (ethTransportCreate nodeId boxId) .ready dstNode ethertype (.ofCode code) payload
            = (0, some frame) ∧
        (∀ sent, 0 < sent → simSend (simTransportCreate nodeId boxId) sent dstNode ethertype
            (.ofCode code) payload = (0, some datagram)) ∧
        ∀ maxLen ≥ oracleMaxPayloadV1, ∀ beyond stack,
          ethRecv (.delivers frame beyond) maxLen
              = ((payload.length : Int), some ⟨ethertype, .ofCode code, nodeId, payload⟩) ∧
            simRecv (.delivers datagram.bytes stack) maxLen
              = ((payload.length : Int), some ⟨ethertype, .ofCode code, nodeId, payload⟩)) ∧
      (oracleMaxPayloadV1 < payload.length →
        (∀ tx, ethSend (ethTransportCreate nodeId boxId) tx dstNode ethertype (.ofCode code) payload
            = (-1, none)) ∧
          ∀ sent, simSend (simTransportCreate nodeId boxId) sent dstNode ethertype (.ofCode code)
            payload = (-1, none)) := by
  constructor
  · intro hetype hlen
    refine ⟨_, _, ethSend_ready hlen _ _ _ _, fun sent hsent => simSend_sent hlen hsent _ _ _ _, ?_⟩
    intro maxLen hmax beyond stack
    constructor
    · have hparse := ethParse_ethFrame hlen hetype hmax (ethTransportCreate nodeId boxId)
        (.ofCode code) beyond
      rw [RaftMsgType.code_ofCode] at hparse
      rw [ethRecv_delivers]
      exact hparse
    · have hparse := simParse_simDatagram hlen hmax (simTransportCreate nodeId boxId) dstNode ethertype
        (.ofCode code) stack
      rw [RaftMsgType.code_ofCode] at hparse
      exact hparse
  · intro hlong
    exact ⟨fun tx => ethSend_of_long hlong _ tx _ _ _, fun sent => simSend_of_long hlong _ sent _ _ _⟩

end L2Oracle
