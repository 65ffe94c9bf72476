import L2Oracle.Protocol.WireFormat

/-!
# The Ethernet transport

`eth_send` and `eth_recv` of `transport_eth.c`. What the HAL, the mutex and the semaphore answer is
an argument of the call, and the bytes that leave or enter the MAC are its result or its input, so
that the two functions can be composed through any medium. A frame goes out to the broadcast
address with the sender's node and box in the oracle header. The destination node is an argument of
`eth_send` that reaches no byte of the frame.
-/

namespace L2Oracle

open Base

/-! ### The transport interface -/

/-- What `raft_transport_t.recv` leaves in its out parameters when it accepts a message. -/
structure Received where
  ethertype : UInt16
  msgType : RaftMsgType
  srcNode : UInt8
  payload : List UInt8
deriving DecidableEq, Repr

/-- The return value of `send` and the bytes that were handed to the medium. -/
abbrev SendResult (α : Type) : Type := Int × Option α

/-- The return value of `recv` and what it left in its out parameters. -/
abbrev RecvResult : Type := Int × Option Received

/-- `HAL_StatusTypeDef`. -/
inductive HalStatus where
  | ok
  | error
  | busy
  | timeout
deriving DecidableEq, Repr

/-! ### The code -/

/-- The part of `eth_transport_data_t` that goes into frames. -/
structure EthTransportData where
  nodeId : UInt8
  boxId : UInt8
  srcMac : MacAddress
deriving DecidableEq, Repr

def ethTransportCreate (nodeId boxId : UInt8) : EthTransportData where
  nodeId
  boxId
  srcMac := oracleMacStm32 boxId

def broadcastMac : MacAddress := #v[0xFF, 0xFF, 0xFF, 0xFF, 0xFF, 0xFF]

def ethMinFrameData : Nat := 60

/-- What the platform answers to one `eth_send`: whether the mutex was taken in time, whether the
CPU owns the transmit descriptor, and the status of `HAL_ETH_TransmitFrame`, which puts the frame on
the wire exactly when it is `HAL_OK`. -/
structure EthTx where
  mutexTaken : Bool
  descriptorFree : Bool
  transmit : HalStatus
deriving DecidableEq, Repr

/-- The platform when nothing is in the way of a transmission. -/
def EthTx.ready : EthTx where
  mutexTaken := true
  descriptorFree := true
  transmit := .ok

/-- The frame that `eth_send` builds in the transmit buffer, padded to the minimum length. -/
def ethFrame (ed : EthTransportData) (ethertype : UInt16) (type : RaftMsgType)
    (payload : List UInt8) : List UInt8 :=
  let hdr := oracleFrameInit broadcastMac ed.srcMac ethertype type.code ed.nodeId ed.boxId 0
    (UInt16.ofNat payload.length)
  let frame := hdr.bytes ++ payload
  frame ++ List.replicate (ethMinFrameData - frame.length) 0

/-- A header and the payload behind it, with the padding of `eth_send`. -/
def paddedFrame (hdr : OracleFrameHeader) (payload : List UInt8) : List UInt8 :=
  let frame := hdr.bytes ++ payload
  frame ++ List.replicate (ethMinFrameData - frame.length) 0

def ethSend (ed : EthTransportData) (tx : EthTx) (_dstNode : UInt8) (ethertype : UInt16)
    (type : RaftMsgType) (payload : List UInt8) : SendResult (List UInt8) :=
  if oracleMaxPayloadV1 < payload.length then (-1, none)
  else if !tx.mutexTaken then (-1, none)
  else if !tx.descriptorFree then (-1, none)
  else if tx.transmit = .ok then (0, some (ethFrame ed ethertype type payload))
  else (-1, none)

/-- The EtherTypes of the protocol, to which the receive path filters. -/
def IsOracleEthertype (ethertype : UInt16) : Prop :=
  ethertype = ethertypeRaft ∨ ethertype = ethertypeHealth ∨ ethertype = ethertypeHeartbeat

instance (ethertype : UInt16) : Decidable (IsOracleEthertype ethertype) :=
  inferInstanceAs (Decidable (_ ∨ _ ∨ _))

def versionMatches (version : UInt8) : Bool := version &&& 0xF0 = oracleProtocolVersion &&& 0xF0

theorem versionMatches_self : versionMatches oracleProtocolVersion = true := by decide

/-- The part of `eth_recv` that follows `HAL_ETH_GetReceivedFrame_IT`. The frame lies at the start of
a receive buffer, with what earlier frames left there behind it. -/
def ethParse (frame : List UInt8) (beyond : Nat → UInt8) (maxLen : Nat) : RecvResult :=
  let mem := buffer frame beyond
  let etype := ((mem 12).toUInt16 <<< 8) ||| (mem 13).toUInt16
  let hdr := OracleFrameHeader.read mem
  if frame.length < 14 then (-1, none)
  else if ¬ IsOracleEthertype etype then (-1, none)
  else if frame.length < OracleFrameHeader.size then (-1, none)
  else if !versionMatches hdr.version then (-1, none)
  else
    let payloadLen := min (min hdr.payloadLen.toNat maxLen) oracleMaxPayloadV1
    (payloadLen, some
      { ethertype := etype
        msgType := .ofCode hdr.msgType
        srcNode := hdr.nodeId
        payload := copy mem OracleFrameHeader.size payloadLen })

/-- What the platform answers to one `eth_recv`: whether the semaphore was taken before the timeout,
and the status of `HAL_ETH_GetReceivedFrame_IT` with the frame it found. -/
structure EthRx where
  semTaken : Bool
  received : HalStatus
  frame : List UInt8
  beyond : Nat → UInt8

/-- The platform when it delivers a frame. -/
def EthRx.delivers (frame : List UInt8) (beyond : Nat → UInt8) : EthRx where
  semTaken := true
  received := .ok
  frame
  beyond

def ethRecv (rx : EthRx) (maxLen : Nat) : RecvResult :=
  if !rx.semTaken then (0, none)
  else if rx.received ≠ .ok then (0, none)
  else ethParse rx.frame rx.beyond maxLen

/-! ### What is sent is what is received -/

theorem ethSend_of_long {payload : List UInt8} (h : oracleMaxPayloadV1 < payload.length)
    (ed : EthTransportData) (tx : EthTx) (dstNode : UInt8) (ethertype : UInt16)
    (type : RaftMsgType) : ethSend ed tx dstNode ethertype type payload = (-1, none) := by
  rw [ethSend, if_pos h]

theorem ethSend_ready {payload : List UInt8} (h : payload.length ≤ oracleMaxPayloadV1)
    (ed : EthTransportData) (dstNode : UInt8) (ethertype : UInt16) (type : RaftMsgType) :
    ethSend ed .ready dstNode ethertype type payload
      = (0, some (ethFrame ed ethertype type payload)) := by
  simp [ethSend, Nat.not_lt.mpr h, EthTx.ready]

theorem ethRecv_delivers (frame : List UInt8) (beyond : Nat → UInt8) (maxLen : Nat) :
    ethRecv (.delivers frame beyond) maxLen = ethParse frame beyond maxLen := by
  simp [ethRecv, EthRx.delivers]

theorem toNat_payloadLen {payload : List UInt8} (h : payload.length ≤ oracleMaxPayloadV1) :
    (UInt16.ofNat payload.length).toNat = payload.length := by
  have hlt : payload.length < UInt16.size := Nat.lt_of_le_of_lt h (by decide)
  exact UInt16.toNat_ofNat_of_lt hlt

theorem ethertype_of_bytes (w : UInt16) :
    ((UInt8.ofNat (w.toNat / 256)).toUInt16 <<< 8) ||| (UInt8.ofNat w.toNat).toUInt16 = w := by
  have hw : w.toNat < 65536 := w.toNat_lt
  have hlow : w.toNat % 256 < 2 ^ 8 := Nat.mod_lt _ (by decide)
  have hhigh : (w.toNat / 256 % 256) <<< 8 % 65536 = 2 ^ 8 * (w.toNat / 256) := by
    rw [Nat.shiftLeft_eq]
    omega
  have hor := Nat.two_pow_add_eq_or_of_lt hlow (w.toNat / 256)
  apply UInt16.toNat.inj
  calc
    (((UInt8.ofNat (w.toNat / 256)).toUInt16 <<< 8) ||| (UInt8.ofNat w.toNat).toUInt16).toNat
        = ((w.toNat / 256 % 256) <<< 8 % 65536) ||| w.toNat % 256 := by simp
    _ = w.toNat := by rw [hhigh, ← hor]; omega

/-- The EtherType as the receive path picks it out of the header. -/
theorem ethertype_of_spells {hdr : OracleFrameHeader} {ethertype : UInt16}
    (hswapped : hdr.ethertype = bswap16 ethertype) {mem : Nat → UInt8} (h : Spells mem 0 hdr.bytes) :
    ((mem 12).toUInt16 <<< 8) ||| (mem 13).toUInt16 = ethertype := by
  simp only [OracleFrameHeader.bytes, hswapped, writeLE_bswap16, spells_append, spells_cons,
    List.length_append, Vector.length_toList, Nat.zero_add, Nat.reduceAdd] at h
  obtain ⟨⟨⟨⟨-, hhigh, hlow, -⟩, -⟩, -⟩, -⟩ := h
  rw [hhigh, hlow, ethertype_of_bytes]

theorem ethParse_paddedFrame {payload : List UInt8} (hlen : payload.length ≤ oracleMaxPayloadV1)
    {ethertype : UInt16} (hetype : IsOracleEthertype ethertype) {maxLen : Nat}
    (hmax : oracleMaxPayloadV1 ≤ maxLen) (dstMac srcMac : MacAddress) (msgType nodeId boxId : UInt8)
    (term : UInt32) (beyond : Nat → UInt8) :
    ethParse (paddedFrame (oracleFrameInit dstMac srcMac ethertype msgType nodeId boxId term
        (UInt16.ofNat payload.length)) payload) beyond maxLen
      = ((payload.length : Int), some ⟨ethertype, .ofCode msgType, nodeId, payload⟩) := by
  obtain ⟨hdr, hhdr⟩ : ∃ hdr, hdr = oracleFrameInit dstMac srcMac ethertype msgType nodeId boxId term
    (UInt16.ofNat payload.length) := ⟨_, rfl⟩
  obtain ⟨pad, hpad⟩ : ∃ pad, paddedFrame hdr payload = hdr.bytes ++ (payload ++ pad) :=
    ⟨_, by rw [paddedFrame, List.append_assoc]⟩
  have hsize : ¬ (hdr.bytes ++ (payload ++ pad)).length < OracleFrameHeader.size := by
    rw [List.length_append, hdr.length_bytes]
    omega
  have hshort : ¬ (hdr.bytes ++ (payload ++ pad)).length < 14 := by
    unfold OracleFrameHeader.size at hsize
    omega
  have hread := hdr.read_bytes (payload ++ pad) beyond
  obtain ⟨hheader, hbody⟩ := spells_append.mp (spells_buffer (hdr.bytes ++ (payload ++ pad)) beyond)
  have hpayloadLen : hdr.payloadLen.toNat = payload.length := by
    rw [hhdr]
    exact toNat_payloadLen hlen
  have hclamp : min (min payload.length maxLen) oracleMaxPayloadV1 = payload.length := by omega
  have hcopy := (spells_append.mp hbody).1.copy
  rw [hdr.length_bytes, Nat.zero_add] at hcopy
  have hswapped : hdr.ethertype = bswap16 ethertype := by rw [hhdr]; rfl
  have hfield := ethertype_of_spells hswapped hheader
  have hversion : versionMatches hdr.version = true := by rw [hhdr]; exact versionMatches_self
  have hmsg : hdr.msgType = msgType := by rw [hhdr]; rfl
  have hnode : hdr.nodeId = nodeId := by rw [hhdr]; rfl
  rw [← hhdr, hpad, ethParse]
  dsimp only
  rw [hfield, hread, if_neg hshort, if_neg (not_not.mpr hetype), if_neg hsize, hversion, hpayloadLen,
    hclamp, hcopy, hmsg, hnode]
  rfl

theorem ethFrame_eq (ed : EthTransportData) (ethertype : UInt16) (type : RaftMsgType)
    (payload : List UInt8) :
    ethFrame ed ethertype type payload
      = paddedFrame (oracleFrameInit broadcastMac ed.srcMac ethertype type.code ed.nodeId ed.boxId 0
          (UInt16.ofNat payload.length)) payload :=
  rfl

theorem ethParse_ethFrame {payload : List UInt8} (hlen : payload.length ≤ oracleMaxPayloadV1)
    {ethertype : UInt16} (hetype : IsOracleEthertype ethertype) {maxLen : Nat}
    (hmax : oracleMaxPayloadV1 ≤ maxLen) (ed : EthTransportData) (type : RaftMsgType)
    (beyond : Nat → UInt8) :
    ethParse (ethFrame ed ethertype type payload) beyond maxLen
      = ((payload.length : Int), some ⟨ethertype, .ofCode type.code, ed.nodeId, payload⟩) := by
  rw [ethFrame_eq]
  exact ethParse_paddedFrame hlen hetype hmax _ _ _ _ _ _ beyond

theorem ethParse_filtered {payload : List UInt8} {ethertype : UInt16}
    (hetype : ¬IsOracleEthertype ethertype) (ed : EthTransportData) (type : RaftMsgType)
    (beyond : Nat → UInt8) (maxLen : Nat) :
    ethParse (ethFrame ed ethertype type payload) beyond maxLen = (-1, none) := by
  obtain ⟨hdr, rest, hrest, hswapped⟩ : ∃ hdr rest, ethFrame ed ethertype type payload
      = OracleFrameHeader.bytes hdr ++ rest ∧ hdr.ethertype = bswap16 ethertype :=
    ⟨_, _, by rw [ethFrame_eq, paddedFrame, List.append_assoc], rfl⟩
  have hfield := ethertype_of_spells hswapped
    (spells_append.mp (spells_buffer (hdr.bytes ++ rest) beyond)).1
  rw [hrest, ethParse]
  dsimp only
  rw [hfield, if_pos hetype, ite_self]

end L2Oracle
