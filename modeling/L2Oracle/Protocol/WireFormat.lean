import L2Oracle.Base.Bytes

/-!
# The wire format

The constants and the payload structs of `wire_format.h`. The structs are packed and little-endian,
so each is a list of bytes on the wire, written by `bytes`, and is read back from memory by `read`,
which casts the address of a received payload to the struct and looks at nothing but the bytes its
fields occupy.
-/

namespace L2Oracle

open Base

/-! ### EtherTypes, message types and sizes -/

def ethertypeRaft : UInt16 := 0x88B5
def ethertypeHealth : UInt16 := 0x88B6
def ethertypeHeartbeat : UInt16 := 0x88B7

/-- `raft_msg_type_t`. The receive path casts any header byte to the enumeration, so a code that it
does not name is a value of the type too. -/
inductive RaftMsgType where
  | requestVote
  | requestVoteResp
  | appendEntries
  | appendEntriesResp
  | healthUpdate
  | clusterState
  | failureEvent
  | nodeHeartbeat
  | nodeAnnounce
  | nodeAnnounceAck
  | other (code : UInt8)
deriving DecidableEq, Repr

/-- The cast of a message type to its header byte. -/
def RaftMsgType.code : RaftMsgType → UInt8
  | requestVote => 0x01
  | requestVoteResp => 0x02
  | appendEntries => 0x03
  | appendEntriesResp => 0x04
  | healthUpdate => 0x10
  | clusterState => 0x11
  | failureEvent => 0x12
  | nodeHeartbeat => 0x20
  | nodeAnnounce => 0x21
  | nodeAnnounceAck => 0x22
  | other code => code

/-- The cast of a header byte to a message type. -/
def RaftMsgType.ofCode (code : UInt8) : RaftMsgType :=
  if code = 0x01 then requestVote
  else if code = 0x02 then requestVoteResp
  else if code = 0x03 then appendEntries
  else if code = 0x04 then appendEntriesResp
  else if code = 0x10 then healthUpdate
  else if code = 0x11 then clusterState
  else if code = 0x12 then failureEvent
  else if code = 0x20 then nodeHeartbeat
  else if code = 0x21 then nodeAnnounce
  else if code = 0x22 then nodeAnnounceAck
  else other code

/-- The upper nibble is the version, 1; the lower one is reserved. -/
def oracleProtocolVersion : UInt8 := 0x10

def oracleMaxPayloadV1 : Nat := 64

def maxObservationsPerResp : Nat := 8

/-- What `raft_transport_t.send` is called with: the destination node, the EtherType, the message
type and the payload. -/
structure Frame where
  dstNode : UInt8
  ethertype : UInt16
  msgType : RaftMsgType
  payload : List UInt8
deriving DecidableEq, Repr

/-! ### The frame header -/

/-- A MAC address, in wire order. -/
abbrev MacAddress : Type := Vector UInt8 6

/-- `ORACLE_MAC_STM32`: the address `02:CA:FE:<box_id>:00:01`. -/
def oracleMacStm32 (boxId : UInt8) : MacAddress := #v[0x02, 0xCA, 0xFE, boxId, 0x00, 0x01]

/-- `oracle_frame_header_t`, 24 bytes: the Ethernet II header and the oracle's own. The struct is
little-endian, so `ethertype` holds the EtherType with its bytes swapped. -/
structure OracleFrameHeader where
  dstMac : MacAddress
  srcMac : MacAddress
  ethertype : UInt16
  version : UInt8
  msgType : UInt8
  nodeId : UInt8
  boxId : UInt8
  term : UInt32
  payloadLen : UInt16
deriving DecidableEq, Repr

def OracleFrameHeader.size : Nat := 24

def OracleFrameHeader.bytes (h : OracleFrameHeader) : List UInt8 :=
  h.dstMac.toList ++ h.srcMac.toList ++ writeLE 2 h.ethertype.toNat
    ++ [h.version, h.msgType, h.nodeId, h.boxId] ++ writeLE 4 h.term.toNat
    ++ writeLE 2 h.payloadLen.toNat

def OracleFrameHeader.read (mem : Nat → UInt8) : OracleFrameHeader where
  dstMac := Vector.ofFn fun i => mem i
  srcMac := Vector.ofFn fun i => mem (6 + i)
  ethertype := UInt16.ofNat (readLE mem 12 2)
  version := mem 14
  msgType := mem 15
  nodeId := mem 16
  boxId := mem 17
  term := UInt32.ofNat (readLE mem 18 4)
  payloadLen := UInt16.ofNat (readLE mem 22 2)

/-- `__builtin_bswap16`. -/
def bswap16 (w : UInt16) : UInt16 := (w <<< 8) ||| (w >>> 8)

def oracleFrameInit (dstMac srcMac : MacAddress) (ethertype : UInt16) (msgType nodeId boxId : UInt8)
    (term : UInt32) (payloadLen : UInt16) : OracleFrameHeader where
  dstMac
  srcMac
  ethertype := bswap16 ethertype
  version := oracleProtocolVersion
  msgType
  nodeId
  boxId
  term
  payloadLen

/-! ### Raft payloads -/

/-- `payload_request_vote_t`, 16 bytes. The last four are reserved and zero. -/
structure PayloadRequestVote where
  candidateId : UInt32
  lastLogIdx : UInt32
  lastLogTerm : UInt32
deriving DecidableEq, Repr

def PayloadRequestVote.size : Nat := 16

def PayloadRequestVote.bytes (p : PayloadRequestVote) : List UInt8 :=
  writeLE 4 p.candidateId.toNat ++ writeLE 4 p.lastLogIdx.toNat ++ writeLE 4 p.lastLogTerm.toNat
    ++ writeLE 4 0

def PayloadRequestVote.read (mem : Nat → UInt8) : PayloadRequestVote where
  candidateId := UInt32.ofNat (readLE mem 0 4)
  lastLogIdx := UInt32.ofNat (readLE mem 4 4)
  lastLogTerm := UInt32.ofNat (readLE mem 8 4)

/-- `payload_request_vote_resp_t`, 8 bytes. -/
structure PayloadRequestVoteResp where
  voteGranted : UInt32
  currentIdx : UInt32
deriving DecidableEq, Repr

def PayloadRequestVoteResp.size : Nat := 8

def PayloadRequestVoteResp.bytes (p : PayloadRequestVoteResp) : List UInt8 :=
  writeLE 4 p.voteGranted.toNat ++ writeLE 4 p.currentIdx.toNat

def PayloadRequestVoteResp.read (mem : Nat → UInt8) : PayloadRequestVoteResp where
  voteGranted := UInt32.ofNat (readLE mem 0 4)
  currentIdx := UInt32.ofNat (readLE mem 4 4)

/-- The header of `payload_append_entries_t`, 16 bytes with its padding. -/
structure PayloadAppendEntries where
  prevLogIdx : UInt32
  prevLogTerm : UInt32
  leaderCommit : UInt32
  nEntries : UInt8
deriving DecidableEq, Repr

def PayloadAppendEntries.size : Nat := 16

def PayloadAppendEntries.bytes (p : PayloadAppendEntries) : List UInt8 :=
  writeLE 4 p.prevLogIdx.toNat ++ writeLE 4 p.prevLogTerm.toNat ++ writeLE 4 p.leaderCommit.toNat
    ++ [p.nEntries, 0, 0, 0]

def PayloadAppendEntries.read (mem : Nat → UInt8) : PayloadAppendEntries where
  prevLogIdx := UInt32.ofNat (readLE mem 0 4)
  prevLogTerm := UInt32.ofNat (readLE mem 4 4)
  leaderCommit := UInt32.ofNat (readLE mem 8 4)
  nEntries := mem 12

/-- `raft_log_entry_wire_t`, 28 bytes. Both ends of the bridge treat what follows `entry_type`, from
`target_node_id` to the end of the struct, as the raw bytes of the entry's data. -/
structure RaftLogEntryWire where
  term : UInt32
  index : UInt32
  entryType : UInt8
  data : List UInt8
deriving DecidableEq, Repr

def RaftLogEntryWire.size : Nat := 28

/-- `offsetof(raft_log_entry_wire_t, target_node_id)`. -/
def RaftLogEntryWire.targetNodeIdOffset : Nat := 9

/-- The bytes from `target_node_id` to the end of the struct. -/
def RaftLogEntryWire.dataSize : Nat := size - targetNodeIdOffset

def RaftLogEntryWire.bytes (p : RaftLogEntryWire) : List UInt8 :=
  writeLE 4 p.term.toNat ++ writeLE 4 p.index.toNat ++ [p.entryType]
    ++ (p.data ++ List.replicate dataSize 0).take dataSize

def RaftLogEntryWire.read (mem : Nat → UInt8) : RaftLogEntryWire where
  term := UInt32.ofNat (readLE mem 0 4)
  index := UInt32.ofNat (readLE mem 4 4)
  entryType := mem 8
  data := (List.range dataSize).map fun i => mem (targetNodeIdOffset + i)

/-- `observation_entry_t`, 4 bytes. -/
structure ObservationEntry where
  nodeId : UInt8
  observedStatus : UInt8
  confidence : UInt8
deriving DecidableEq, Repr

def ObservationEntry.size : Nat := 4

def ObservationEntry.bytes (o : ObservationEntry) : List UInt8 :=
  [o.nodeId, o.observedStatus, o.confidence, 0]

def ObservationEntry.read (mem : Nat → UInt8) (off : Nat) : ObservationEntry where
  nodeId := mem off
  observedStatus := mem (off + 1)
  confidence := mem (off + 2)

/-- `payload_append_entries_resp_t`, 48 bytes: three words, the number of observations, and room for
`MAX_OBSERVATIONS_PER_RESP` of them. -/
structure PayloadAppendEntriesResp where
  success : UInt32
  currentIdx : UInt32
  firstIdx : UInt32
  nObservations : UInt8
  obs : List ObservationEntry
deriving DecidableEq, Repr

def PayloadAppendEntriesResp.size : Nat := 48

/-- The offset of `obs[0]`. -/
def PayloadAppendEntriesResp.obsOffset : Nat := 16

def PayloadAppendEntriesResp.bytes (p : PayloadAppendEntriesResp) : List UInt8 :=
  writeLE 4 p.success.toNat ++ writeLE 4 p.currentIdx.toNat ++ writeLE 4 p.firstIdx.toNat
    ++ [p.nObservations, 0, 0, 0]
    ++ (p.obs.flatMap ObservationEntry.bytes ++ List.replicate (size - obsOffset) 0).take
        (size - obsOffset)

/-- The fixed fields and, as `obs`, the `n_observations` entries that a reader walking
`p->obs[0 .. n_observations)` sees, also where that walk leaves the struct. -/
def PayloadAppendEntriesResp.read (mem : Nat → UInt8) : PayloadAppendEntriesResp where
  success := UInt32.ofNat (readLE mem 0 4)
  currentIdx := UInt32.ofNat (readLE mem 4 4)
  firstIdx := UInt32.ofNat (readLE mem 8 4)
  nObservations := mem 12
  obs := (List.range (mem 12).toNat).map fun i =>
    ObservationEntry.read mem (obsOffset + ObservationEntry.size * i)

/-! ### Health and heartbeat payloads -/

/-- `payload_health_update_t`, 12 bytes: the payload of a health event, and the data of a log entry
that proposes a transition. -/
structure PayloadHealthUpdate where
  targetNodeId : UInt8
  targetBoxId : UInt8
  oldStatus : UInt8
  newStatus : UInt8
  term : UInt32
  timestampMs : UInt32
deriving DecidableEq, Repr

def PayloadHealthUpdate.size : Nat := 12

def PayloadHealthUpdate.bytes (p : PayloadHealthUpdate) : List UInt8 :=
  [p.targetNodeId, p.targetBoxId, p.oldStatus, p.newStatus] ++ writeLE 4 p.term.toNat
    ++ writeLE 4 p.timestampMs.toNat

def PayloadHealthUpdate.read (mem : Nat → UInt8) : PayloadHealthUpdate where
  targetNodeId := mem 0
  targetBoxId := mem 1
  oldStatus := mem 2
  newStatus := mem 3
  term := UInt32.ofNat (readLE mem 4 4)
  timestampMs := UInt32.ofNat (readLE mem 8 4)

/-- `payload_node_heartbeat_t`. -/
structure PayloadNodeHeartbeat where
  seq : UInt32
  loadPct : UInt16
deriving DecidableEq, Repr

def PayloadNodeHeartbeat.size : Nat := 8

def PayloadNodeHeartbeat.read (mem : Nat → UInt8) : PayloadNodeHeartbeat where
  seq := UInt32.ofNat (readLE mem 0 4)
  loadPct := UInt16.ofNat (readLE mem 4 2)

/-- `payload_node_announce_t`, as far as the firmware reads it. -/
structure PayloadNodeAnnounce where
  nodeType : UInt8
deriving DecidableEq, Repr

def PayloadNodeAnnounce.size : Nat := 16

def PayloadNodeAnnounce.read (mem : Nat → UInt8) : PayloadNodeAnnounce where
  nodeType := mem 0

/-- `payload_node_announce_ack_t`, 4 bytes. -/
structure PayloadNodeAnnounceAck where
  assignedNodeId : UInt8
  boxId : UInt8
  status : UInt8
deriving DecidableEq, Repr

def PayloadNodeAnnounceAck.bytes (p : PayloadNodeAnnounceAck) : List UInt8 :=
  [p.assignedNodeId, p.boxId, p.status, 0]

/-! ### Round trips -/

theorem RaftMsgType.code_ite {c k : UInt8} {type rest : RaftMsgType} (hcode : type.code = k)
    (hrest : rest.code = c) : (if c = k then type else rest).code = c := by
  split
  · rename_i heq
    rw [hcode, heq]
  · exact hrest

theorem RaftMsgType.code_ofCode (c : UInt8) : (ofCode c).code = c := by
  unfold ofCode
  iterate 10 refine code_ite rfl ?_
  rfl

theorem toNat_bswap16 (w : UInt16) :
    (bswap16 w).toNat = w.toNat / 256 + 256 * (w.toNat % 256) := by
  have hw : w.toNat < 65536 := w.toNat_lt
  have hhigh : w.toNat / 256 < 2 ^ 8 := by omega
  have hlow : w.toNat <<< 8 % 2 ^ 16 = 2 ^ 8 * (w.toNat % 256) := by
    rw [Nat.shiftLeft_eq]
    omega
  have hor := Nat.two_pow_add_eq_or_of_lt hhigh (w.toNat % 256)
  calc
    (bswap16 w).toNat = (w.toNat <<< 8 % 2 ^ 16) ||| (w.toNat >>> 8) := by simp [bswap16]
    _ = 2 ^ 8 * (w.toNat % 256) ||| w.toNat / 256 := by
        rw [hlow, Nat.shiftRight_eq_div_pow]
    _ = w.toNat / 256 + 256 * (w.toNat % 256) := by rw [← hor]; omega

/-- On the wire the EtherType is big-endian. -/
theorem writeLE_bswap16 (w : UInt16) :
    writeLE 2 (bswap16 w).toNat = [UInt8.ofNat (w.toNat / 256), UInt8.ofNat w.toNat] := by
  have hw : w.toNat < 65536 := w.toNat_lt
  have hlow : (w.toNat / 256 + 256 * (w.toNat % 256)) / 256 = w.toNat % 256 := by omega
  have hmod (n : Nat) : UInt8.ofNat (n + 256 * (w.toNat % 256)) = UInt8.ofNat n := by
    apply UInt8.toNat.inj
    simp
  have hmod' : UInt8.ofNat (w.toNat % 256) = UInt8.ofNat w.toNat := by
    apply UInt8.toNat.inj
    simp
  simp only [writeLE, toNat_bswap16, hlow, hmod, hmod']

@[simp] theorem OracleFrameHeader.length_bytes (h : OracleFrameHeader) : h.bytes.length = size := by
  simp [bytes, size]

theorem OracleFrameHeader.read_bytes (h : OracleFrameHeader) (rest : List UInt8)
    (beyond : Nat → UInt8) : read (buffer (h.bytes ++ rest) beyond) = h := by
  have hmem := spells_buffer (h.bytes ++ rest) beyond
  simp only [bytes, spells_append, spells_cons, List.length_append, Vector.length_toList, length_writeLE,
    List.length_cons, List.length_nil, Nat.zero_add, Nat.reduceAdd] at hmem
  obtain ⟨⟨⟨⟨⟨⟨hdst, hsrc⟩, hetype⟩, hversion, hmsg, hnode, hbox, -⟩, hterm⟩, hlen⟩, -⟩ := hmem
  have hdst' := hdst.ofFn
  simp only [Nat.zero_add] at hdst'
  simp only [read, bytes, hdst', hsrc.ofFn, hetype.half, hversion, hmsg, hnode, hbox, hterm.word,
    hlen.half]

theorem PayloadRequestVote.length_bytes (p : PayloadRequestVote) : p.bytes.length = size := by
  simp [bytes, size]

theorem PayloadRequestVote.read_bytes (p : PayloadRequestVote) (beyond : Nat → UInt8) :
    read (buffer p.bytes beyond) = p := by
  have hmem := spells_buffer p.bytes beyond
  simp only [bytes, spells_append, List.length_append, length_writeLE, Nat.zero_add,
    Nat.reduceAdd] at hmem
  obtain ⟨⟨⟨hcandidate, hidx⟩, hterm⟩, -⟩ := hmem
  simp only [read, bytes, hcandidate.word, hidx.word, hterm.word]

theorem PayloadRequestVoteResp.length_bytes (p : PayloadRequestVoteResp) :
    p.bytes.length = size := by
  simp [bytes, size]

theorem PayloadRequestVoteResp.read_bytes (p : PayloadRequestVoteResp) (beyond : Nat → UInt8) :
    read (buffer p.bytes beyond) = p := by
  have hmem := spells_buffer p.bytes beyond
  simp only [bytes, spells_append, length_writeLE, Nat.zero_add] at hmem
  obtain ⟨hgranted, hidx⟩ := hmem
  simp only [read, bytes, hgranted.word, hidx.word]

theorem PayloadAppendEntries.length_bytes (p : PayloadAppendEntries) : p.bytes.length = size := by
  simp [bytes, size]

theorem PayloadAppendEntries.read_bytes (p : PayloadAppendEntries) (rest : List UInt8)
    (beyond : Nat → UInt8) : read (buffer (p.bytes ++ rest) beyond) = p := by
  have hmem := spells_buffer (p.bytes ++ rest) beyond
  simp only [bytes, spells_append, spells_cons, List.length_append, length_writeLE, Nat.zero_add,
    Nat.reduceAdd] at hmem
  obtain ⟨⟨⟨⟨hidx, hterm⟩, hcommit⟩, hentries, -⟩, -⟩ := hmem
  simp only [read, bytes, hidx.word, hterm.word, hcommit.word, hentries]

/-- What follows the header of AppendEntries, seen from behind the header. -/
theorem PayloadAppendEntries.buffer_behind (p : PayloadAppendEntries) (rest : List UInt8)
    (beyond : Nat → UInt8) :
    (fun i => buffer (p.bytes ++ rest) beyond (size + i)) = buffer rest fun i => beyond (size + i) := by
  funext i
  rw [← p.length_bytes, buffer_append_right]

theorem RaftLogEntryWire.length_bytes (p : RaftLogEntryWire) : p.bytes.length = size := by
  simp [bytes, size, dataSize, targetNodeIdOffset]

/-- The data comes back padded with zeros, or cut, to the rest of the struct. -/
theorem RaftLogEntryWire.read_bytes (p : RaftLogEntryWire) (beyond : Nat → UInt8) :
    read (buffer p.bytes beyond)
      = { p with data := (p.data ++ List.replicate dataSize 0).take dataSize } := by
  have hsize : ((p.data ++ List.replicate dataSize 0).take dataSize).length = dataSize := by simp
  have hmem := spells_buffer p.bytes beyond
  simp only [bytes, spells_append, spells_cons, List.length_append, length_writeLE, List.length_cons,
    List.length_nil, Nat.zero_add, Nat.reduceAdd] at hmem
  obtain ⟨⟨⟨hterm, hindex⟩, htype, -⟩, hdata⟩ := hmem
  have hcopy := hdata.copy
  rw [hsize] at hcopy
  simp only [read, bytes, hterm.word, hindex.word, htype]
  exact congrArg (RaftLogEntryWire.mk p.term p.index p.entryType) hcopy

theorem PayloadAppendEntriesResp.length_bytes (p : PayloadAppendEntriesResp) :
    p.bytes.length = size := by
  simp [bytes, size, obsOffset]

theorem PayloadAppendEntriesResp.read_bytes_words (p : PayloadAppendEntriesResp)
    (beyond : Nat → UInt8) :
    (read (buffer p.bytes beyond)).success = p.success ∧
      (read (buffer p.bytes beyond)).currentIdx = p.currentIdx ∧
      (read (buffer p.bytes beyond)).firstIdx = p.firstIdx := by
  have hmem := spells_buffer p.bytes beyond
  rw [bytes] at hmem ⊢
  simp only [spells_append, List.length_append, length_writeLE, Nat.zero_add, Nat.reduceAdd] at hmem
  obtain ⟨⟨⟨⟨hsuccess, hcurrent⟩, hfirst⟩, -⟩, -⟩ := hmem
  exact ⟨hsuccess.word, hcurrent.word, hfirst.word⟩

/-- The observations come back if there are no more than the struct has room for. -/
theorem PayloadAppendEntriesResp.read_bytes_obs {p : PayloadAppendEntriesResp}
    (hcount : p.nObservations = UInt8.ofNat p.obs.length)
    (hroom : p.obs.length ≤ maxObservationsPerResp) (beyond : Nat → UInt8) :
    (read (buffer p.bytes beyond)).nObservations = p.nObservations ∧
      (read (buffer p.bytes beyond)).obs = p.obs := by
  have hmax : maxObservationsPerResp = 8 := rfl
  have hlen : (p.obs.flatMap ObservationEntry.bytes).length = 4 * p.obs.length := by
    simp [List.length_flatMap, ObservationEntry.bytes, Nat.mul_comm]
  have hfits : (p.obs.flatMap ObservationEntry.bytes).length ≤ size - obsOffset := by
    rw [hlen]
    exact (by omega : 4 * p.obs.length ≤ 32)
  have hmem := spells_buffer p.bytes beyond
  generalize buffer p.bytes beyond = mem at hmem ⊢
  rw [bytes] at hmem
  simp only [List.take_append, List.take_of_length_le hfits, spells_append, spells_cons,
    List.length_append, length_writeLE, List.length_cons, List.length_nil, Nat.zero_add,
    Nat.reduceAdd] at hmem
  obtain ⟨⟨-, hn, -⟩, hobs, -⟩ := hmem
  have hnat : p.nObservations.toNat = p.obs.length := by
    rw [hcount]
    exact UInt8.toNat_ofNat_of_lt' (Nat.lt_of_le_of_lt hroom (by decide))
  have hwidth (ob : ObservationEntry) : ob.bytes.length = ObservationEntry.size := rfl
  refine ⟨hn, ?_⟩
  simp only [read, hn, hnat]
  apply List.ext_getElem
  · simp
  · intro i _ hi
    have hentry := Spells.flatMap hwidth hobs (List.getElem?_eq_getElem hi)
    simp only [ObservationEntry.bytes, spells_cons] at hentry
    obtain ⟨hid, hstatus, hconfidence, -⟩ := hentry
    simp only [List.getElem_map, List.getElem_range, ObservationEntry.read]
    rw [show PayloadAppendEntriesResp.obsOffset = 16 from rfl, hid, hstatus, hconfidence]

theorem PayloadHealthUpdate.length_bytes (p : PayloadHealthUpdate) : p.bytes.length = size := by
  simp [bytes, size]

theorem PayloadHealthUpdate.read_bytes (p : PayloadHealthUpdate) (beyond : Nat → UInt8) :
    read (buffer p.bytes beyond) = p := by
  have hmem := spells_buffer p.bytes beyond
  simp only [bytes, spells_append, spells_cons, List.length_append, length_writeLE, List.length_cons,
    List.length_nil, Nat.zero_add, Nat.reduceAdd] at hmem
  obtain ⟨⟨⟨htarget, hbox, hold, hnew, -⟩, hterm⟩, htime⟩ := hmem
  simp only [read, bytes, htarget, hbox, hold, hnew, hterm.word, htime.word]

/-! ### A struct is read inside its size -/

section
variable {mem mem' : Nat → UInt8}

theorem PayloadRequestVote.read_congr (h : AgreeTo size mem mem') : read mem = read mem' := by
  simp only [read]
  rw [h.readLE (by decide), h.readLE (by decide), h.readLE (by decide)]

theorem PayloadRequestVoteResp.read_congr (h : AgreeTo size mem mem') : read mem = read mem' := by
  simp only [read]
  rw [h.readLE (by decide), h.readLE (by decide)]

theorem PayloadAppendEntries.read_congr (h : AgreeTo size mem mem') : read mem = read mem' := by
  simp only [read]
  rw [h.readLE (by decide), h.readLE (by decide), h.readLE (by decide), h 12 (by decide)]

theorem RaftLogEntryWire.read_congr (h : AgreeTo size mem mem') : read mem = read mem' := by
  have hdata : copy mem targetNodeIdOffset dataSize = copy mem' targetNodeIdOffset dataSize :=
    h.copy (by decide)
  simp only [read]
  rw [h.readLE (by decide), h.readLE (by decide), h 8 (by decide)]
  exact congrArg (RaftLogEntryWire.mk _ _ _) hdata

theorem PayloadHealthUpdate.read_congr (h : AgreeTo size mem mem') : read mem = read mem' := by
  simp only [read]
  rw [h 0 (by decide), h 1 (by decide), h 2 (by decide), h 3 (by decide), h.readLE (by decide),
    h.readLE (by decide)]

end

end L2Oracle
