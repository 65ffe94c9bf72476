import L2Oracle.Base.Struct
import L2Oracle.Transport.Ethernet

/-!
# The host tools

`heartbeat_sender.py` builds frames for a compute node, and `frame_sniffer.py` takes frames apart. They
have the frame format a second and a third time, as formats of Python's `struct`.

The sniffer reads the frames of the firmware. The sender sends none: its format for the oracle header asks
for the payload length as `N`, which is `size_t`, in little-endian order, and only native order has that
code. So `build_frame` raises an error for all arguments, before it looks at any field of the header.
-/

namespace L2Oracle

open Base

/-! ### The sender -/

/-- `build_frame`. -/
def buildFrame (dstMac srcMac : List UInt8) (ethertype msgType nodeId boxId term : Int)
    (payload : List UInt8) : Except Struct.Error (List UInt8) := do
  let frame := dstMac ++ srcMac ++ (← Struct.pack "!H" [.int ethertype])
  let frame := frame ++ (← Struct.pack "<BBBBIN" [.int oracleProtocolVersion.toNat, .int msgType,
    .int nodeId, .int boxId, .int term, .int payload.length])
  let frame := frame ++ payload
  return if frame.length < 60 then frame ++ List.replicate (60 - frame.length) 0 else frame

/-- `build_heartbeat`. -/
def buildHeartbeat (seq loadPct : Int) : Except Struct.Error (List UInt8) :=
  Struct.pack "<IHH" [.int seq, .int loadPct, .int 0]

/-- `build_announce`, with the host name in ASCII. -/
def buildAnnounce (nodeType : Int) (mac hostname : List UInt8) : Except Struct.Error (List UInt8) := do
  let payload ← Struct.pack "<B3s" [.int nodeType, .bytes (List.replicate 3 0)]
  let payload := payload ++ mac.take 6
  let nameBytes := (hostname.take 6).rightpad 6 0
  return payload ++ nameBytes

/-! ### The sniffer -/

/-- `MSG_TYPES`. -/
def msgTypes : List (Int × String) :=
  [(0x01, "REQUEST_VOTE"), (0x02, "REQUEST_VOTE_RESP"), (0x03, "APPEND_ENTRIES"),
    (0x04, "APPEND_ENTRIES_RESP"), (0x10, "HEALTH_UPDATE"), (0x11, "CLUSTER_STATE"),
    (0x12, "FAILURE_EVENT"), (0x20, "NODE_HEARTBEAT"), (0x21, "NODE_ANNOUNCE"),
    (0x22, "NODE_ANNOUNCE_ACK")]

/-- The format `02x`: two hexadecimal digits at least. -/
def hexDigits (n : Nat) : String := String.ofList ((Nat.toDigits 16 n).leftpad 2 '0')

def hexByte (n : Nat) : String := "0x" ++ hexDigits n

structure OracleHeader where
  version : Nat
  msgType : Int
  msgName : String
  nodeId : Int
  boxId : Int
  term : Int
  payloadLen : Int
deriving DecidableEq, Repr

/-- `decode_oracle_header`. -/
def decodeOracleHeader (data : List UInt8) : Except Struct.Error (Option OracleHeader) := do
  if data.length < 10 then return none
  match ← Struct.unpackFrom "<BBBBIh" data 0 with
  | [.int version, .int msgType, .int nodeId, .int boxId, .int term, .int payloadLen] =>
      return some
        { version := (version.toNat >>> 4) &&& 0xF
          msgType
          msgName := (msgTypes.lookup msgType).getD (hexByte msgType.toNat)
          nodeId
          boxId
          term
          payloadLen }
  | _ => .error .itemCount

/-! ### What the firmware and the tools agree on -/

structure FrameArgs where
  dstMac : MacAddress
  srcMac : MacAddress
  ethertype : UInt16
  msgType : UInt8
  nodeId : UInt8
  boxId : UInt8
  term : UInt32
  payload : List UInt8
  oracle : IsOracleEthertype ethertype
  short : payload.length ≤ oracleMaxPayloadV1

namespace FrameArgs

/-- The header that `oracle_frame_init` fills in. -/
def header (a : FrameArgs) : OracleFrameHeader :=
  oracleFrameInit a.dstMac a.srcMac a.ethertype a.msgType a.nodeId a.boxId a.term
    (UInt16.ofNat a.payload.length)

def firmwareFrame (a : FrameArgs) : List UInt8 := paddedFrame a.header a.payload

/-- The frame of the sender. -/
def senderFrame (a : FrameArgs) : Except Struct.Error (List UInt8) :=
  buildFrame a.dstMac.toList a.srcMac.toList a.ethertype.toNat a.msgType.toNat a.nodeId.toNat
    a.boxId.toNat a.term.toNat a.payload

/-- The firmware and the sniffer find in a frame what it was built from. -/
structure ReadFrom (a : FrameArgs) (frame : List UInt8) : Prop where
  received : ∀ beyond maxLen, oracleMaxPayloadV1 ≤ maxLen →
    ethRecv (.delivers frame beyond) maxLen
      = ((a.payload.length : Int), some ⟨a.ethertype, .ofCode a.msgType, a.nodeId, a.payload⟩)
  sniffed : ∃ msgName, decodeOracleHeader (frame.drop 14)
    = .ok (some ⟨1, a.msgType.toNat, msgName, a.nodeId.toNat, a.boxId.toNat, a.term.toNat,
        a.payload.length⟩)

/-- The sender builds the frame of the firmware, and it is read. -/
def ToolsAgree (a : FrameArgs) : Prop :=
  ∃ frame, a.senderFrame = .ok frame ∧ frame = a.firmwareFrame ∧ a.ReadFrom frame

end FrameArgs

/-- No arguments make a frame. -/
theorem buildFrame_ne_ok (dstMac srcMac : List UInt8) (ethertype msgType nodeId boxId term : Int)
    (payload frame : List UInt8) :
    buildFrame dstMac srcMac ethertype msgType nodeId boxId term payload ≠ .ok frame := by
  have hparse : Struct.parse "<BBBBIN" = .error .badChar := by decide
  have hpack := Struct.pack_of_parse_error hparse
  unfold buildFrame
  intro h
  cases hetype : Struct.pack "!H" [.int ethertype] with
  | error e =>
      rw [hetype] at h
      cases h
  | ok bytes =>
      rw [hetype, hpack] at h
      cases h

/-! ### The sniffer reads the header -/

theorem parse_sniffed : Struct.parse "<BBBBIh" = .ok ⟨.little, [.int 1 false, .int 1 false,
    .int 1 false, .int 1 false, .int 4 false, .int 2 true]⟩ := by
  decide

/-- The bytes behind the Ethernet header, as the format of the sniffer packs them. -/
theorem pack_header (version msgType nodeId boxId : UInt8) (term : UInt32) {len : Nat}
    (hlen : len ≤ oracleMaxPayloadV1) :
    Struct.pack "<BBBBIh" [.int version.toNat, .int msgType.toNat, .int nodeId.toNat, .int boxId.toNat,
        .int term.toNat, .int len]
      = .ok ([version, msgType, nodeId, boxId] ++ writeLE 4 term.toNat ++ writeLE 2 len) := by
  have hbyte (b : UInt8) : b.toNat < 256 ^ 1 := b.toNat_lt
  have hword : term.toNat < 256 ^ 4 := term.toNat_lt
  have hshort : len < 256 ^ 2 / 2 := Nat.lt_of_le_of_lt hlen (by decide)
  have hfields := Struct.packFields_unsigned (hbyte version) <|
    Struct.packFields_unsigned (hbyte msgType) <| Struct.packFields_unsigned (hbyte nodeId) <|
    Struct.packFields_unsigned (hbyte boxId) <| Struct.packFields_unsigned hword <|
    Struct.packFields_signed hshort <| Struct.packFields_nil .little 10
  rw [writeLE_byte, writeLE_byte, writeLE_byte, writeLE_byte, List.append_nil] at hfields
  exact (Struct.pack_eq_ok parse_sniffed).mpr ⟨rfl, hfields⟩

theorem decodeOracleHeader_bytes (version msgType nodeId boxId : UInt8) (term : UInt32) {len : Nat}
    (hlen : len ≤ oracleMaxPayloadV1) (rest : List UInt8) :
    decodeOracleHeader ([version, msgType, nodeId, boxId] ++ writeLE 4 term.toNat ++ writeLE 2 len ++ rest)
      = .ok (some
        { version := (version.toNat >>> 4) &&& 0xF
          msgType := msgType.toNat
          msgName := (msgTypes.lookup (msgType.toNat : Int)).getD (hexByte msgType.toNat)
          nodeId := nodeId.toNat
          boxId := boxId.toNat
          term := term.toNat
          payloadLen := len }) := by
  have hread := Struct.unpackFrom_pack parse_sniffed (by simp)
    (pack_header version msgType nodeId boxId term hlen) rest
  rw [decodeOracleHeader, if_neg (by simp; omega), hread]
  rfl

theorem OracleFrameHeader.drop_bytes (h : OracleFrameHeader) :
    h.bytes.drop 14 = [h.version, h.msgType, h.nodeId, h.boxId] ++ writeLE 4 h.term.toNat
      ++ writeLE 2 h.payloadLen.toNat := by
  have hethernet : (h.dstMac.toList ++ h.srcMac.toList ++ writeLE 2 h.ethertype.toNat).length = 14 := by
    simp
  rw [bytes, List.append_assoc, List.append_assoc, List.drop_left' hethernet, List.append_assoc]

theorem FrameArgs.read_firmwareFrame (a : FrameArgs) : a.ReadFrom a.firmwareFrame := by
  have hlen : a.header.payloadLen.toNat = a.payload.length := toNat_payloadLen a.short
  obtain ⟨rest, hrest⟩ : ∃ rest, a.firmwareFrame = a.header.bytes ++ rest :=
    ⟨_, by rw [firmwareFrame, paddedFrame, List.append_assoc]⟩
  have hdrop : a.firmwareFrame.drop 14
      = [oracleProtocolVersion, a.msgType, a.nodeId, a.boxId] ++ writeLE 4 a.term.toNat
        ++ writeLE 2 a.payload.length ++ rest := by
    rw [hrest, List.drop_append_of_le_length (by rw [a.header.length_bytes]; decide),
      a.header.drop_bytes, hlen]
    rfl
  constructor
  · intro beyond maxLen hmax
    rw [ethRecv_delivers]
    exact ethParse_paddedFrame a.short a.oracle hmax _ _ _ _ _ _ beyond
  · rw [hdrop]
    exact ⟨_, decodeOracleHeader_bytes _ _ _ _ _ a.short rest⟩

/-- The sender and the firmware agree on no frame, though the firmware and the sniffer agree on all. -/
theorem sender_never_agrees (a : FrameArgs) : ¬a.ToolsAgree ∧ a.ReadFrom a.firmwareFrame := by
  refine ⟨?_, a.read_firmwareFrame⟩
  rintro ⟨frame, hsent, -⟩
  exact buildFrame_ne_ok _ _ _ _ _ _ _ _ frame hsent

/-- The first heartbeat that the sender builds with its defaults: node 101 in box 1. -/
def heartbeatArgs : FrameArgs where
  dstMac := oracleMacStm32 1
  srcMac := #v[0x02, 0xCA, 0xFE, 1, 0x00, 101]
  ethertype := ethertypeHeartbeat
  msgType := RaftMsgType.nodeHeartbeat.code
  nodeId := 101
  boxId := 1
  term := 0
  payload := List.replicate 8 0
  oracle := by decide
  short := by decide

theorem not_toolsAgree_heartbeatArgs :
    buildHeartbeat 0 0 = .ok heartbeatArgs.payload ∧
      heartbeatArgs.senderFrame = .error .badChar ∧ ¬heartbeatArgs.ToolsAgree := by
  refine ⟨by decide, by decide, ?_⟩
  rintro ⟨frame, hsent, -⟩
  exact buildFrame_ne_ok _ _ _ _ _ _ _ _ frame hsent

/-! ### The payloads of the sender -/

theorem read_buildHeartbeat (seq : UInt32) (loadPct : UInt16) :
    ∃ bs, buildHeartbeat seq.toNat loadPct.toNat = .ok bs ∧ bs.length = PayloadNodeHeartbeat.size ∧
      ∀ beyond, PayloadNodeHeartbeat.read (buffer bs beyond) = ⟨seq, loadPct⟩ := by
  have hparse : Struct.parse "<IHH" = .ok ⟨.little, [.int 4 false, .int 2 false, .int 2 false]⟩ := by
    decide
  have hseq : seq.toNat < 256 ^ 4 := seq.toNat_lt
  have hload : loadPct.toNat < 256 ^ 2 := loadPct.toNat_lt
  have hfields := Struct.packFields_unsigned hseq <| Struct.packFields_unsigned hload <|
    Struct.packFields_unsigned (Nat.pow_pos (by decide) : 0 < 256 ^ 2) <| Struct.packFields_nil .little 8
  refine ⟨_, (Struct.pack_eq_ok hparse).mpr ⟨rfl, hfields⟩, by simp [PayloadNodeHeartbeat.size], ?_⟩
  intro beyond
  have hmem := spells_buffer
    (writeLE 4 seq.toNat ++ (writeLE 2 loadPct.toNat ++ (writeLE 2 0 ++ []))) beyond
  obtain ⟨hseqMem, hrest⟩ := spells_append.mp hmem
  obtain ⟨hloadMem, -⟩ := spells_append.mp hrest
  rw [length_writeLE, Nat.zero_add] at hloadMem
  rw [PayloadNodeHeartbeat.read, hseqMem.word, hloadMem.half]

theorem read_buildAnnounce (nodeType : UInt8) (mac : MacAddress) (hostname : List UInt8) :
    ∃ bs, buildAnnounce nodeType.toNat mac.toList hostname = .ok bs ∧
      bs.length = PayloadNodeAnnounce.size ∧
      ∀ beyond, PayloadNodeAnnounce.read (buffer bs beyond) = ⟨nodeType⟩ := by
  have hparse : Struct.parse "<B3s" = .ok ⟨.little, [.int 1 false, .bytes 3]⟩ := by decide
  have hbyte : nodeType.toNat < 256 ^ 1 := nodeType.toNat_lt
  have hzeros : Struct.packFields .little 1 [.bytes 3] [.bytes (List.replicate 3 0)]
    = .ok (List.replicate 3 0) := by decide
  have hfields := Struct.packFields_unsigned hbyte hzeros
  rw [writeLE_byte] at hfields
  have hpacked := (Struct.pack_eq_ok hparse).mpr ⟨rfl, hfields⟩
  have hbuilt : buildAnnounce nodeType.toNat mac.toList hostname
      = .ok ([nodeType] ++ List.replicate 3 0 ++ mac.toList.take 6 ++ (hostname.take 6).rightpad 6 0) := by
    rw [buildAnnounce, hpacked]
    rfl
  refine ⟨_, hbuilt, ?_, fun _ => rfl⟩
  simp [PayloadNodeAnnounce.size, List.length_take]

end L2Oracle
