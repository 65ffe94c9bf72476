import L2Oracle.Raft.Frames
import L2Oracle.Tools.HostTools

/-!
# What the sniffer shows

`frame_sniffer.py` takes apart whatever is on the wire with one of the three EtherTypes, and prints a
line for each frame. It knows the layout of a frame by format strings of its own, and the firmware by
packed structs.

The two agree but for one field: `payload_len`, an `uint16_t` in the header, is signed in the format
string. Up to `2^15 - 1` the sniffer takes the payload that the header says; beyond, where the firmware
accepts no frame, Python counts the end of the payload from the end of the data (`sniffedPayload`). A
payload that is long enough for the struct of its message type is shown with the fields that the firmware
would read from it, and any other as its bytes; every read is behind a check of the length, so no frame
makes the sniffer fail. In particular a frame that a node sends is shown with the very fields that the
node put into it.

The time at the beginning of a line is an argument. Of the options for printing there is only the one
for the raw bytes.
-/

namespace L2Oracle

open Base

/-! ### How single values are printed -/

/-- `NODE_STATUS.get(status, '?')`. -/
def nodeStatusName (status : Int) : String :=
  ([(0, "UP"), (1, "SUSPECT"), (2, "DOWN")].lookup status).getD "?"

/-- `types.get(ntype, ntype)`. -/
def nodeTypeName (ntype : UInt8) : String :=
  ([(1, "JETSON"), (2, "X86"), (3, "STM32")].lookup ntype).getD s!"{ntype}"

/-- `bytes.hex()`. -/
def hexString (bs : List UInt8) : String := String.join (bs.map fun b => hexDigits b.toNat)

def macString (mac : List UInt8) : String :=
  ":".intercalate (mac.map fun b => hexDigits b.toNat)

/-- Bytes as ASCII, with a replacement character for the others, up to the zeros at the end. -/
def asciiName (bs : List UInt8) : String :=
  let chars := bs.map fun b => if b < 128 then Char.ofNat b.toNat else Char.ofNat 0xFFFD
  String.ofList (chars.reverse.dropWhile (· = Char.ofNat 0)).reverse

/-! ### `decode_payload`, branch by branch -/

def decodeRequestVote (data : List UInt8) : Except Struct.Error String := do
  match ← Struct.unpackFrom "<IIII" data 0 with
  | [.int cid, .int lastIdx, .int lastTerm, .int _] =>
      return s!"candidate={cid} last_idx={lastIdx} last_term={lastTerm}"
  | _ => .error .itemCount

def decodeRequestVoteResp (data : List UInt8) : Except Struct.Error String := do
  match ← Struct.unpackFrom "<II" data 0 with
  | [.int granted, .int curIdx] =>
      let answer := if granted ≠ 0 then "yes" else "no"
      return s!"granted={answer} cur_idx={curIdx}"
  | _ => .error .itemCount

def decodeAppendEntries (data : List UInt8) : Except Struct.Error String := do
  match ← Struct.unpackFrom "<IIIB" data 0 with
  | [.int prevIdx, .int prevTerm, .int leaderCommit, .int nEntries] =>
      let kind := if nEntries = 0 then "heartbeat" else s!"{nEntries} entries"
      return s!"prev={prevIdx}/{prevTerm} commit={leaderCommit} [{kind}]"
  | _ => .error .itemCount

/-- The loops over the observations of a response and over the nodes of a cluster state: the records
that are whole are shown. -/
def showRecords (fmt : String) (size : Nat) (line : List Struct.Value → Except Struct.Error String)
    (data : List UInt8) : Nat → Nat → String → Except Struct.Error String
  | 0, _, s => .ok s
  | n + 1, offset, s => do
      if offset + size ≤ data.length then
        let shown ← line (← Struct.unpackFrom fmt data offset)
        showRecords fmt size line data n (offset + size) (s ++ shown)
      else showRecords fmt size line data n offset s

def observationLine : List Struct.Value → Except Struct.Error String
  | [.int nid, .int status, .int conf, .int _] => .ok s!" [{nid}:{nodeStatusName status} c={conf}]"
  | _ => .error .itemCount

def decodeAppendEntriesResp (data : List UInt8) : Except Struct.Error String := do
  match ← Struct.unpackFrom "<IIIB" data 0 with
  | [.int success, .int curIdx, .int firstIdx, .int nObs] =>
      let outcome := if success ≠ 0 then "ok" else "FAIL"
      let s := s!"{outcome} cur={curIdx} first={firstIdx}"
      if 0 < nObs then
        showRecords "<BBBB" 4 observationLine data (min nObs.toNat 8) 16 (s ++ s!" obs={nObs}")
      else return s
  | _ => .error .itemCount

/-- A health update or a failure event. -/
def decodeHealthUpdate (data : List UInt8) : Except Struct.Error String := do
  match ← Struct.unpackFrom "<BBBBII" data 0 with
  | [.int tgtNode, .int tgtBox, .int oldSt, .int newSt, .int term, .int ts] =>
      return s!"node={tgtNode} box={tgtBox} {nodeStatusName oldSt}->{nodeStatusName newSt} "
        ++ s!"term={term} t={ts}ms"
  | _ => .error .itemCount

def nodeLine : List Struct.Value → Except Struct.Error String
  | [.int nid, .int bid, .int _, .int status, .int lastSeen, .int _] =>
      .ok s!"\n    [{nid}] box={bid} {nodeStatusName status} seen={lastSeen}ms"
  | _ => .error .itemCount

def decodeClusterState (data : List UInt8) : Except Struct.Error String := do
  match ← Struct.unpackFrom "<BBBB" data 0 with
  | [.int nNodes, .int leaderNid, .int leaderBid, .int quorum] =>
      let reached := if quorum ≠ 0 then "yes" else "no"
      showRecords "<BBBBII" 12 nodeLine data (min nNodes.toNat 16) 4
        s!"nodes={nNodes} leader={leaderNid}/{leaderBid} quorum={reached}"
  | _ => .error .itemCount

def decodeNodeHeartbeat (data : List UInt8) : Except Struct.Error String := do
  match ← Struct.unpackFrom "<IHH" data 0 with
  | [.int seq, .int load, .int _] =>
      -- a sixteen-bit number over ten has one decimal
      return s!"seq={seq} load={load / 10}.{load % 10}%"
  | _ => .error .itemCount

def decodeNodeAnnounce (data : List UInt8) : Except Struct.Error String :=
  let ntype := data.getD 0 0
  let mac := (data.take 10).drop 4
  let hostname := (data.take 16).drop 10
  .ok s!"type={nodeTypeName ntype} mac={macString mac} host={asciiName hostname}"

def decodeNodeAnnounceAck (data : List UInt8) : Except Struct.Error String := do
  match ← Struct.unpackFrom "<BBBB" data 0 with
  | [.int nid, .int bid, .int status, .int _] =>
      return s!"assigned_id={nid} box={bid} status={nodeStatusName status}"
  | _ => .error .itemCount

def decodePayload (msgType : Int) (data : List UInt8) : Except Struct.Error String :=
  if msgType = 0x01 ∧ 16 ≤ data.length then decodeRequestVote data
  else if msgType = 0x02 ∧ 8 ≤ data.length then decodeRequestVoteResp data
  else if msgType = 0x03 ∧ 16 ≤ data.length then decodeAppendEntries data
  else if msgType = 0x04 ∧ 16 ≤ data.length then decodeAppendEntriesResp data
  else if (msgType = 0x10 ∨ msgType = 0x12) ∧ 12 ≤ data.length then decodeHealthUpdate data
  else if msgType = 0x11 ∧ 4 ≤ data.length then decodeClusterState data
  else if msgType = 0x20 ∧ 8 ≤ data.length then decodeNodeHeartbeat data
  else if msgType = 0x21 ∧ 16 ≤ data.length then decodeNodeAnnounce data
  else if msgType = 0x22 ∧ 4 ≤ data.length then decodeNodeAnnounceAck data
  else .ok (hexString data)

/-! ### `process_packet` -/

def etherTypeNames : List (UInt16 × String) :=
  [(ethertypeRaft, "RAFT"), (ethertypeHealth, "HEALTH"), (ethertypeHeartbeat, "HEARTBEAT")]

def padLeft (n : Nat) (s : String) : String := String.ofList (s.toList.leftpad n ' ')
def padRight (n : Nat) (s : String) : String := String.ofList (s.toList.rightpad n ' ')

/-- `data[start : stop]`. -/
def pySlice (data : List UInt8) (start : Nat) (stop : Int) : List UInt8 :=
  (data.take (if stop < 0 then stop + data.length else stop).toNat).drop start

/-- `process_packet` from the header on. -/
def printFrame (ts etypeName : String) (verbose : Bool) (frame : List UInt8) :
    Except Struct.Error (List String) := do
  let raw := frame.drop 14
  match ← decodeOracleHeader raw with
  | none =>
      let src := macString ((frame.drop 6).take 6)
      let dst := macString (frame.take 6)
      return [s!"{ts} [{etypeName}] {src} -> {dst}  (truncated header)"]
  | some hdr =>
      let payloadData := pySlice raw 10 (10 + hdr.payloadLen)
      let payloadStr ← decodePayload hdr.msgType payloadData
      let line := s!"{ts} [{padRight 9 etypeName}] node={hdr.nodeId} box={hdr.boxId} "
        ++ s!"term={padLeft 4 (toString hdr.term)} {padRight 20 hdr.msgName} {payloadStr}"
      return line :: if verbose ∧ payloadData ≠ [] then
        [s!"           raw: {hexString payloadData}"] else []

/-- `process_packet` on the bytes of a frame: the lines that it prints. -/
def processPacket (ts : String) (verbose : Bool) (frame : List UInt8) :
    Except Struct.Error (List String) :=
  let etype := UInt16.ofNat (256 * (frame.getD 12 0).toNat + (frame.getD 13 0).toNat)
  if frame.length < 14 then .ok []
  else
    match etherTypeNames.lookup etype with
    | none => .ok []
    | some etypeName => printFrame ts etypeName verbose frame

/-! ### The payloads by their structs -/

/-- `node_health_wire_t`. -/
structure NodeHealthWire where
  nodeId : UInt8
  boxId : UInt8
  nodeType : UInt8
  status : UInt8
  lastSeenMs : UInt32
  statusTerm : UInt32
deriving DecidableEq, Repr

def NodeHealthWire.read (mem : Nat → UInt8) (off : Nat) : NodeHealthWire where
  nodeId := mem off
  boxId := mem (off + 1)
  nodeType := mem (off + 2)
  status := mem (off + 3)
  lastSeenMs := UInt32.ofNat (readLE mem (off + 4) 4)
  statusTerm := UInt32.ofNat (readLE mem (off + 8) 4)

/-- `payload_cluster_state_t`, and the entries that follow it. -/
structure PayloadClusterState where
  nNodes : UInt8
  leaderNodeId : UInt8
  leaderBoxId : UInt8
  quorumHealthy : UInt8
  nodes : List NodeHealthWire
deriving DecidableEq, Repr

def PayloadClusterState.read (mem : Nat → UInt8) : PayloadClusterState where
  nNodes := mem 0
  leaderNodeId := mem 1
  leaderBoxId := mem 2
  quorumHealthy := mem 3
  nodes := (List.range (mem 0).toNat).map fun i => NodeHealthWire.read mem (4 + 12 * i)

def PayloadNodeAnnounceAck.read (mem : Nat → UInt8) : PayloadNodeAnnounceAck where
  assignedNodeId := mem 0
  boxId := mem 1
  status := mem 2

/-- A payload as one of the structs. -/
inductive PayloadView where
  | requestVote (p : PayloadRequestVote)
  | requestVoteResp (p : PayloadRequestVoteResp)
  | appendEntries (p : PayloadAppendEntries)
  | appendEntriesResp (p : PayloadAppendEntriesResp)
  | healthUpdate (p : PayloadHealthUpdate)
  | clusterState (p : PayloadClusterState)
  | nodeHeartbeat (p : PayloadNodeHeartbeat)
  | nodeAnnounce (p : PayloadNodeAnnounce) (mac hostname : List UInt8)
  | nodeAnnounceAck (p : PayloadNodeAnnounceAck)
  | unknown (data : List UInt8)
deriving DecidableEq, Repr

def ObservationEntry.shown (o : ObservationEntry) : String :=
  s!" [{o.nodeId}:{nodeStatusName o.observedStatus.toNat} c={o.confidence}]"

def NodeHealthWire.shown (n : NodeHealthWire) : String :=
  s!"\n    [{n.nodeId}] box={n.boxId} {nodeStatusName n.status.toNat} seen={n.lastSeenMs}ms"

/-- What the sniffer shows of a payload. -/
def PayloadView.shown : PayloadView → String
  | requestVote p => s!"candidate={p.candidateId} last_idx={p.lastLogIdx} last_term={p.lastLogTerm}"
  | requestVoteResp p =>
      let answer := if p.voteGranted ≠ 0 then "yes" else "no"
      s!"granted={answer} cur_idx={p.currentIdx}"
  | appendEntries p =>
      let kind := if p.nEntries = 0 then "heartbeat" else s!"{p.nEntries} entries"
      s!"prev={p.prevLogIdx}/{p.prevLogTerm} commit={p.leaderCommit} [{kind}]"
  | appendEntriesResp p =>
      let outcome := if p.success ≠ 0 then "ok" else "FAIL"
      let s := s!"{outcome} cur={p.currentIdx} first={p.firstIdx}"
      if 0 < p.nObservations then
        s ++ s!" obs={p.nObservations}" ++ String.join (p.obs.map ObservationEntry.shown)
      else s
  | healthUpdate p =>
      let oldStatus := nodeStatusName p.oldStatus.toNat
      let newStatus := nodeStatusName p.newStatus.toNat
      s!"node={p.targetNodeId} box={p.targetBoxId} {oldStatus}->{newStatus} "
        ++ s!"term={p.term} t={p.timestampMs}ms"
  | clusterState p =>
      let reached := if p.quorumHealthy ≠ 0 then "yes" else "no"
      s!"nodes={p.nNodes} leader={p.leaderNodeId}/{p.leaderBoxId} quorum={reached}"
        ++ String.join (p.nodes.map NodeHealthWire.shown)
  | nodeHeartbeat p => s!"seq={p.seq} load={p.loadPct / 10}.{p.loadPct % 10}%"
  | nodeAnnounce p mac hostname =>
      s!"type={nodeTypeName p.nodeType} mac={macString mac} host={asciiName hostname}"
  | nodeAnnounceAck p =>
      s!"assigned_id={p.assignedNodeId} box={p.boxId} status={nodeStatusName p.status.toNat}"
  | unknown data => hexString data

/-- The struct of a message type in the data, as the firmware reads it, if the data is long enough. Of
the records at the end of a struct there are those within the data, up to a bound. -/
def payloadView (type : RaftMsgType) (data : List UInt8) : PayloadView :=
  let mem := buffer data fun _ => 0
  match type with
  | .requestVote =>
      if 16 ≤ data.length then .requestVote (.read mem) else .unknown data
  | .requestVoteResp =>
      if 8 ≤ data.length then .requestVoteResp (.read mem) else .unknown data
  | .appendEntries =>
      if 16 ≤ data.length then .appendEntries (.read mem) else .unknown data
  | .appendEntriesResp =>
      let p := PayloadAppendEntriesResp.read mem
      if 16 ≤ data.length then
        .appendEntriesResp { p with obs := p.obs.take (min 8 ((data.length - 16) / 4)) }
      else .unknown data
  | .healthUpdate | .failureEvent =>
      if 12 ≤ data.length then .healthUpdate (.read mem) else .unknown data
  | .clusterState =>
      let p := PayloadClusterState.read mem
      if 4 ≤ data.length then
        .clusterState { p with nodes := p.nodes.take (min 16 ((data.length - 4) / 12)) }
      else .unknown data
  | .nodeHeartbeat =>
      if 8 ≤ data.length then .nodeHeartbeat (.read mem) else .unknown data
  | .nodeAnnounce =>
      if 16 ≤ data.length then
        .nodeAnnounce (.read mem) ((data.take 10).drop 4) ((data.take 16).drop 10)
      else .unknown data
  | .nodeAnnounceAck =>
      if 4 ≤ data.length then .nodeAnnounceAck (.read mem) else .unknown data
  | .other _ => .unknown data

/-! ### Every payload is shown by its struct -/

theorem showRecords_eq {fmt : String} {size : Nat} (hsize : 0 < size)
    {line : List Struct.Value → Except Struct.Error String} {data : List UInt8} {shown : Nat → String}
    (hline : ∀ off, off + size ≤ data.length →
      Struct.unpackFrom fmt data off >>= line = .ok (shown off))
    (n off : Nat) (s : String) :
    showRecords fmt size line data n off s
      = .ok (s ++ String.join ((List.range (min n ((data.length - off) / size))).map fun i =>
          shown (off + size * i))) := by
  induction n generalizing off s with
  | zero => simp [showRecords]
  | succ n ih =>
      by_cases hfits : off + size ≤ data.length
      · have hcount : (data.length - off) / size = (data.length - (off + size)) / size + 1 := by
          rw [← Nat.add_div_right _ hsize]
          congr 1
          omega
        have hshift (i : Nat) : shown (off + size + size * i) = shown (off + size * (i + 1)) := by
          rw [Nat.mul_succ, Nat.add_assoc, Nat.add_comm size]
        have hstep : showRecords fmt size line data (n + 1) off s
            = showRecords fmt size line data n (off + size) (s ++ shown off) := by
          rw [showRecords, if_pos hfits, ← bind_assoc, hline off hfits]
          rfl
        rw [hstep, ih, hcount, Nat.add_min_add_right, List.range_succ_eq_map, List.map_cons,
          String.join_cons, List.map_map, String.append_assoc, Nat.mul_zero, Nat.add_zero]
        simp only [hshift, Function.comp_def, Nat.succ_eq_add_one]
      · have hcount : (data.length - off) / size = 0 := Nat.div_eq_of_lt (by omega)
        rw [showRecords, if_neg hfits, ih, hcount, Nat.min_zero, Nat.min_zero]

theorem word_ne_zero (w : UInt32) : (w.toNat : Int) ≠ 0 ↔ w ≠ 0 := by
  simp [← UInt32.toNat_inj]

theorem byte_eq_zero (b : UInt8) : (b.toNat : Int) = 0 ↔ b = 0 := by
  simp [← UInt8.toNat_inj]

theorem byte_ne_zero (b : UInt8) : (b.toNat : Int) ≠ 0 ↔ b ≠ 0 :=
  not_congr (byte_eq_zero b)

theorem byte_pos (b : UInt8) : 0 < (b.toNat : Int) ↔ 0 < b := by
  simp [UInt8.lt_iff_toNat_lt]

theorem Except.bind_ok {ε α β : Type} (a : α) (f : α → Except ε β) : (Except.ok a >>= f) = f a := rfl

section
variable {data : List UInt8} (beyond : Nat → UInt8)

theorem decodeRequestVote_eq (h : 16 ≤ data.length) :
    decodeRequestVote data
      = .ok (PayloadView.requestVote (.read (buffer data beyond))).shown := by
  have hparse : Struct.parse "<IIII"
      = .ok ⟨.little, Struct.wordFields [(4, false), (4, false), (4, false), (4, false)]⟩ := by decide
  rw [decodeRequestVote, Struct.unpackFrom_words hparse h beyond]
  simp only [Struct.readWords, Struct.wordAt_word]
  rfl

theorem decodeRequestVoteResp_eq (h : 8 ≤ data.length) :
    decodeRequestVoteResp data
      = .ok (PayloadView.requestVoteResp (.read (buffer data beyond))).shown := by
  have hparse : Struct.parse "<II" = .ok ⟨.little, Struct.wordFields [(4, false), (4, false)]⟩ := by
    decide
  rw [decodeRequestVoteResp, Struct.unpackFrom_words hparse h beyond]
  simp only [Struct.readWords, Struct.wordAt_word, Except.bind_ok, word_ne_zero]
  rfl

theorem unpack_wordsAndByte (h : 16 ≤ data.length) :
    Struct.unpackFrom "<IIIB" data 0 = .ok [.int (UInt32.ofNat (readLE (buffer data beyond) 0 4)).toNat,
      .int (UInt32.ofNat (readLE (buffer data beyond) 4 4)).toNat,
      .int (UInt32.ofNat (readLE (buffer data beyond) 8 4)).toNat, .int (buffer data beyond 12).toNat] := by
  have hparse : Struct.parse "<IIIB"
      = .ok ⟨.little, Struct.wordFields [(4, false), (4, false), (4, false), (1, false)]⟩ := by decide
  rw [Struct.unpackFrom_words hparse (Nat.le_trans (by decide) h) beyond]
  simp only [Struct.readWords, Struct.wordAt_word, Struct.wordAt_byte, Nat.reduceAdd]

theorem decodeAppendEntries_eq (h : 16 ≤ data.length) :
    decodeAppendEntries data
      = .ok (PayloadView.appendEntries (.read (buffer data beyond))).shown := by
  rw [decodeAppendEntries, unpack_wordsAndByte beyond h]
  simp only [Except.bind_ok, byte_eq_zero]
  rfl

theorem unpack_bytes {off : Nat} (h : off + 4 ≤ data.length) :
    Struct.unpackFrom "<BBBB" data off = .ok [.int (buffer data beyond off).toNat,
      .int (buffer data beyond (off + 1)).toNat, .int (buffer data beyond (off + 2)).toNat,
      .int (buffer data beyond (off + 3)).toNat] := by
  have hparse : Struct.parse "<BBBB"
      = .ok ⟨.little, Struct.wordFields [(1, false), (1, false), (1, false), (1, false)]⟩ := by decide
  rw [Struct.unpackFrom_words hparse h beyond]
  simp only [Struct.readWords, Struct.wordAt_byte, Nat.add_assoc, Nat.reduceAdd]

theorem decodeNodeAnnounceAck_eq (h : 4 ≤ data.length) :
    decodeNodeAnnounceAck data
      = .ok (PayloadView.nodeAnnounceAck (.read (buffer data beyond))).shown := by
  rw [decodeNodeAnnounceAck, unpack_bytes beyond (by omega)]
  rfl

theorem unpack_bytesAndWords {off : Nat} (h : off + 12 ≤ data.length) :
    Struct.unpackFrom "<BBBBII" data off = .ok [.int (buffer data beyond off).toNat,
      .int (buffer data beyond (off + 1)).toNat, .int (buffer data beyond (off + 2)).toNat,
      .int (buffer data beyond (off + 3)).toNat,
      .int (UInt32.ofNat (readLE (buffer data beyond) (off + 4) 4)).toNat,
      .int (UInt32.ofNat (readLE (buffer data beyond) (off + 8) 4)).toNat] := by
  have hparse : Struct.parse "<BBBBII" = .ok ⟨.little, Struct.wordFields [(1, false), (1, false),
      (1, false), (1, false), (4, false), (4, false)]⟩ := by decide
  rw [Struct.unpackFrom_words hparse h beyond]
  simp only [Struct.readWords, Struct.wordAt_byte, Struct.wordAt_word, Nat.add_assoc, Nat.reduceAdd]

theorem decodeHealthUpdate_eq (h : 12 ≤ data.length) :
    decodeHealthUpdate data
      = .ok (PayloadView.healthUpdate (.read (buffer data beyond))).shown := by
  rw [decodeHealthUpdate, unpack_bytesAndWords beyond (by omega)]
  rfl

theorem decodeNodeHeartbeat_eq (h : 8 ≤ data.length) :
    decodeNodeHeartbeat data
      = .ok (PayloadView.nodeHeartbeat (.read (buffer data beyond))).shown := by
  have hparse : Struct.parse "<IHH"
      = .ok ⟨.little, Struct.wordFields [(4, false), (2, false), (2, false)]⟩ := by decide
  rw [decodeNodeHeartbeat, Struct.unpackFrom_words hparse h beyond]
  simp only [Struct.readWords, Struct.wordAt_word, Struct.wordAt_half]
  rfl

theorem decodeNodeAnnounce_eq (h : 16 ≤ data.length) :
    decodeNodeAnnounce data
      = .ok (PayloadView.nodeAnnounce (.read (buffer data beyond)) ((data.take 10).drop 4)
          ((data.take 16).drop 10)).shown := by
  have hfirst : data.getD 0 0 = buffer data beyond 0 := by
    have hpos : 0 < data.length := by omega
    simp [buffer, hpos]
  rw [decodeNodeAnnounce, hfirst]
  rfl

/-- The records that are shown are those of the struct that lie within the data. -/
theorem map_shown_take {α : Type} (shown : α → String) (record : Nat → α) (n most : Nat) :
    (List.range (min n most)).map (fun i => shown (record i))
      = (((List.range n).map record).take most).map shown := by
  rw [← List.map_take, List.take_range, List.map_map, Nat.min_comm]
  rfl

theorem decodeAppendEntriesResp_eq (h : 16 ≤ data.length) :
    decodeAppendEntriesResp data
      = let p := PayloadAppendEntriesResp.read (buffer data beyond)
        .ok (PayloadView.appendEntriesResp
          { p with obs := p.obs.take (min 8 ((data.length - 16) / 4)) }).shown := by
  have hline (off : Nat) (hoff : off + 4 ≤ data.length) :
      Struct.unpackFrom "<BBBB" data off >>= observationLine
        = .ok (ObservationEntry.read (buffer data beyond) off).shown := by
    rw [unpack_bytes beyond hoff]
    rfl
  rw [decodeAppendEntriesResp, unpack_wordsAndByte beyond h]
  simp only [Except.bind_ok, word_ne_zero, byte_pos, Int.toNat_natCast, showRecords_eq (by decide) hline,
    Nat.min_assoc, map_shown_take (fun o => ObservationEntry.shown o)]
  split
  · rename_i hobs
    exact congrArg Except.ok (if_pos hobs).symm
  · rename_i hnone
    exact congrArg Except.ok (if_neg hnone).symm

theorem decodeClusterState_eq (h : 4 ≤ data.length) :
    decodeClusterState data
      = let p := PayloadClusterState.read (buffer data beyond)
        .ok (PayloadView.clusterState
          { p with nodes := p.nodes.take (min 16 ((data.length - 4) / 12)) }).shown := by
  have hline (off : Nat) (hoff : off + 12 ≤ data.length) :
      Struct.unpackFrom "<BBBBII" data off >>= nodeLine
        = .ok (NodeHealthWire.read (buffer data beyond) off).shown := by
    rw [unpack_bytesAndWords beyond hoff]
    rfl
  rw [decodeClusterState, unpack_bytes beyond (by omega)]
  simp only [Except.bind_ok, byte_ne_zero, Int.toNat_natCast, showRecords_eq (by decide) hline,
    Nat.min_assoc, map_shown_take (fun n => NodeHealthWire.shown n)]
  rfl

end

theorem shown_or_unknown {p : Prop} [Decidable p] {decoded : Except Struct.Error String}
    {view : PayloadView} {data : List UInt8} (h : p → decoded = .ok view.shown) :
    (if p then decoded else .ok (hexString data)) = .ok (if p then view else .unknown data).shown := by
  split
  · rename_i hp
    exact h hp
  · rfl

theorem ofCode_eq_other {c k : UInt8} (h : RaftMsgType.ofCode c = .other k) :
    c ∉ [0x01, 0x02, 0x03, 0x04, 0x10, 0x11, 0x12, 0x20, 0x21, 0x22] := by
  intro hc
  simp only [List.mem_cons, List.not_mem_nil, or_false] at hc
  rcases hc with rfl | rfl | rfl | rfl | rfl | rfl | rfl | rfl | rfl | rfl <;> cases h

/-- Whatever the bytes of a payload are, the sniffer shows the struct that the firmware would read. -/
theorem decodePayload_eq (msgType : UInt8) (data : List UInt8) :
    decodePayload msgType.toNat data = .ok (payloadView (.ofCode msgType) data).shown := by
  obtain ⟨type, htype⟩ : ∃ type, RaftMsgType.ofCode msgType = type := ⟨_, rfl⟩
  have hcode : type.code = msgType := htype ▸ RaftMsgType.code_ofCode msgType
  rw [htype]
  cases type with
  | requestVote =>
      refine Eq.trans ?_ (shown_or_unknown (decodeRequestVote_eq _))
      simp [decodePayload, ← hcode, RaftMsgType.code]
  | requestVoteResp =>
      refine Eq.trans ?_ (shown_or_unknown (decodeRequestVoteResp_eq _))
      simp [decodePayload, ← hcode, RaftMsgType.code]
  | appendEntries =>
      refine Eq.trans ?_ (shown_or_unknown (decodeAppendEntries_eq _))
      simp [decodePayload, ← hcode, RaftMsgType.code]
  | appendEntriesResp =>
      refine Eq.trans ?_ (shown_or_unknown (decodeAppendEntriesResp_eq _))
      simp [decodePayload, ← hcode, RaftMsgType.code]
  | healthUpdate | failureEvent =>
      refine Eq.trans ?_ (shown_or_unknown (decodeHealthUpdate_eq _))
      simp [decodePayload, ← hcode, RaftMsgType.code]
  | clusterState =>
      refine Eq.trans ?_ (shown_or_unknown (decodeClusterState_eq _))
      simp [decodePayload, ← hcode, RaftMsgType.code]
  | nodeHeartbeat =>
      refine Eq.trans ?_ (shown_or_unknown (decodeNodeHeartbeat_eq _))
      simp [decodePayload, ← hcode, RaftMsgType.code]
  | nodeAnnounce =>
      refine Eq.trans ?_ (shown_or_unknown (decodeNodeAnnounce_eq _))
      simp [decodePayload, ← hcode, RaftMsgType.code]
  | nodeAnnounceAck =>
      refine Eq.trans ?_ (shown_or_unknown (decodeNodeAnnounceAck_eq _))
      simp [decodePayload, ← hcode, RaftMsgType.code]
  | other k =>
      have hnone := ofCode_eq_other htype
      simp only [List.mem_cons, List.not_mem_nil, or_false, not_or, ← UInt8.toNat_inj,
        UInt8.reduceToNat] at hnone
      rw [decodePayload]
      iterate 9 rw [if_neg (by omega)]
      rfl

/-! ### Every frame is shown by its header -/

/-- The payload that the sniffer takes from the bytes behind a header. Where `payload_len` is negative for
it, the payload ends that many bytes before the end of the ten bytes of the header and the data. -/
def sniffedPayload (payloadLen : UInt16) (data : List UInt8) : List UInt8 :=
  let len := payloadLen.toNat
  if len < 2 ^ 15 then data.take len
  else if 2 ^ 16 - 10 ≤ len then []
  else data.take (data.length - (2 ^ 16 - 10 - len))

/-- The lines for a frame, with its header as the firmware reads it. -/
def shownFrame (ts etypeName : String) (verbose : Bool) (frame : List UInt8) : List String :=
  let hdr := OracleFrameHeader.read (buffer frame fun _ => 0)
  if frame.length < OracleFrameHeader.size then
    let src := macString hdr.srcMac.toList
    let dst := macString hdr.dstMac.toList
    [s!"{ts} [{etypeName}] {src} -> {dst}  (truncated header)"]
  else
    let payload := sniffedPayload hdr.payloadLen (frame.drop OracleFrameHeader.size)
    let msgName := (msgTypes.lookup (hdr.msgType.toNat : Int)).getD (hexByte hdr.msgType.toNat)
    let view := payloadView (.ofCode hdr.msgType) payload
    let line := s!"{ts} [{padRight 9 etypeName}] node={hdr.nodeId} box={hdr.boxId} "
      ++ s!"term={padLeft 4 (toString hdr.term)} {padRight 20 msgName} {view.shown}"
    line :: if verbose ∧ payload ≠ [] then [s!"           raw: {hexString payload}"] else []

/-- What the sniffer shows of whatever is captured. -/
def shownPacket (ts : String) (verbose : Bool) (frame : List UInt8) : List String :=
  let hdr := OracleFrameHeader.read (buffer frame fun _ => 0)
  if frame.length < 14 then []
  else
    match etherTypeNames.lookup (bswap16 hdr.ethertype) with
    | none => []
    | some etypeName => shownFrame ts etypeName verbose frame

theorem decodeOracleHeader_eq {frame : List UInt8} (h : 24 ≤ frame.length) :
    decodeOracleHeader (frame.drop 14)
      = let hdr := OracleFrameHeader.read (buffer frame fun _ => 0)
        .ok (some
          { version := (hdr.version.toNat >>> 4) &&& 0xF
            msgType := hdr.msgType.toNat
            msgName := (msgTypes.lookup (hdr.msgType.toNat : Int)).getD (hexByte hdr.msgType.toNat)
            nodeId := hdr.nodeId.toNat
            boxId := hdr.boxId.toNat
            term := hdr.term.toNat
            payloadLen := hdr.payloadLen.toInt16.toInt }) := by
  have hparse : Struct.parse "<BBBBIh" = .ok ⟨.little, Struct.wordFields [(1, false), (1, false),
    (1, false), (1, false), (4, false), (2, true)]⟩ := by decide
  have hread := Struct.unpackFrom_words hparse (show 14 + 10 ≤ frame.length from h) fun _ => 0
  rw [decodeOracleHeader, if_neg (by simp; omega), Struct.unpackFrom_drop _ (by omega), hread]
  simp only [Struct.readWords, Struct.wordAt_byte, Struct.wordAt_word, Struct.wordAt_signed_half]
  rfl

theorem toInt_toInt16 (w : UInt16) :
    w.toInt16.toInt = if w.toNat < 2 ^ 15 then (w.toNat : Int) else w.toNat - 2 ^ 16 := by
  rw [← Int16.toInt_toBitVec, UInt16.toBitVec_toInt16, BitVec.toInt, UInt16.toNat_toBitVec]
  split_ifs <;> omega

/-- The slice by the signed length is the payload. -/
theorem pySlice_payloadLen (frame : List UInt8) (w : UInt16) :
    pySlice (frame.drop 14) 10 (10 + w.toInt16.toInt)
      = sniffedPayload w (frame.drop OracleFrameHeader.size) := by
  have hlen : w.toNat < 2 ^ 16 := w.toNat_lt
  have hdata : (frame.drop OracleFrameHeader.size).length = (frame.drop 14).length - 10 := by
    simp only [List.length_drop, OracleFrameHeader.size]
    omega
  rw [pySlice, List.drop_take, List.drop_drop, sniffedPayload, toInt_toInt16]
  by_cases hsmall : w.toNat < 2 ^ 15
  · rw [if_pos hsmall, if_pos hsmall, if_neg (by omega)]
    congr 1
    omega
  rw [if_neg hsmall, if_neg hsmall]
  by_cases hheader : 2 ^ 16 - 10 ≤ w.toNat
  · -- the end lies in the header
    rw [if_pos hheader, if_neg (by omega), List.take_eq_nil_iff]
    omega
  · rw [if_neg hheader, if_pos (by omega), hdata]
    congr 1
    omega

theorem etherType_eq (frame : List UInt8) :
    UInt16.ofNat (256 * (frame.getD 12 0).toNat + (frame.getD 13 0).toNat)
      = bswap16 (OracleFrameHeader.read (buffer frame fun _ => 0)).ethertype := by
  obtain ⟨low, hlow⟩ : ∃ low, frame.getD 13 0 = low := ⟨_, rfl⟩
  obtain ⟨high, hhigh⟩ : ∃ high, frame.getD 12 0 = high := ⟨_, rfl⟩
  have hlow_lt : low.toNat < 256 := low.toNat_lt
  have hhigh_lt : high.toNat < 256 := high.toNat_lt
  have hread : readLE (buffer frame fun _ => 0) 12 2 = high.toNat + 256 * low.toNat := by
    have hmem (i : Nat) : buffer frame (fun _ => 0) i = frame.getD i 0 := rfl
    simp only [readLE, hmem, hlow, hhigh, Nat.mul_zero, Nat.add_zero, Nat.reduceAdd]
  have hlt (n : Nat) (hn : n < 65536) : (UInt16.ofNat n).toNat = n := UInt16.toNat_ofNat_of_lt' hn
  apply UInt16.toNat.inj
  rw [toNat_bswap16, OracleFrameHeader.read, hread, hlow, hhigh, hlt _ (by omega), hlt _ (by omega)]
  omega

theorem toList_mac (mem : Nat → UInt8) (off : Nat) :
    (Vector.ofFn fun i : Fin 6 => mem (off + i)).toList = copy mem off 6 := by
  rw [Vector.toList_ofFn]
  simp [copy, List.range_succ, List.ofFn_succ]

theorem printFrame_eq (ts etypeName : String) (verbose : Bool) {frame : List UInt8}
    (h : 14 ≤ frame.length) :
    printFrame ts etypeName verbose frame = .ok (shownFrame ts etypeName verbose frame) := by
  rw [printFrame, shownFrame]
  by_cases hheader : frame.length < OracleFrameHeader.size
  · have hnone : decodeOracleHeader (frame.drop 14) = .ok none := by
      rw [decodeOracleHeader, if_pos (by rw [List.length_drop]; unfold OracleFrameHeader.size at *; omega)]
      rfl
    have hdst := (toList_mac (buffer frame fun _ => 0) 0).trans (copy_buffer (by omega) _)
    have hsrc := (toList_mac (buffer frame fun _ => 0) 6).trans (copy_buffer (by omega) _)
    simp only [Nat.zero_add, List.drop_zero] at hdst
    rw [if_pos hheader, hnone, Except.bind_ok, ← hdst, ← hsrc]
    rfl
  · rw [if_neg hheader, decodeOracleHeader_eq (Nat.le_of_not_lt hheader)]
    simp only [Except.bind_ok, decodePayload_eq, pySlice_payloadLen]
    rfl

theorem processPacket_of_lookup {frame : List UInt8} (h : 14 ≤ frame.length) {etypeName : String}
    (hetype : etherTypeNames.lookup (bswap16 (OracleFrameHeader.read (buffer frame fun _ => 0)).ethertype)
      = some etypeName) (ts : String) (verbose : Bool) :
    processPacket ts verbose frame = .ok (shownFrame ts etypeName verbose frame) := by
  rw [processPacket, etherType_eq, if_neg (Nat.not_lt.mpr h), hetype]
  exact printFrame_eq ts etypeName verbose h

/-- A heartbeat whose payload length is 65524 for the firmware and -12 for the sniffer, which leaves out
the last two bytes. -/
example : processPacket "12:00" false ((heartbeatArgs.firmwareFrame.take 22) ++ [0xF4, 0xFF, 5, 0, 0, 0,
    7, 2, 0, 0, 0, 0, 0, 0])
    = .ok ["12:00 [HEARTBEAT] node=101 box=1 term=   0 NODE_HEARTBEAT       seq=5 load=51.9%"] := by
  decide +kernel

/-! ### What a node sends is shown as it was meant -/

/-- The struct that the payload of a frame was made of. -/
inductive Frame.Holds : Frame → PayloadView → Prop
  | requestVote (dst : UInt8) (p : PayloadRequestVote) :
      Holds ⟨dst, ethertypeRaft, .requestVote, p.bytes⟩ (.requestVote p)
  | requestVoteResp (dst : UInt8) (p : PayloadRequestVoteResp) :
      Holds ⟨dst, ethertypeRaft, .requestVoteResp, p.bytes⟩ (.requestVoteResp p)
  | appendEntries (dst : UInt8) (ae : PayloadAppendEntries) (entries : List RaftLogEntryWire) :
      Holds ⟨dst, ethertypeRaft, .appendEntries, ae.bytes ++ entries.flatMap RaftLogEntryWire.bytes⟩
        (.appendEntries ae)
  | appendEntriesResp (dst : UInt8) (p : PayloadAppendEntriesResp)
      (hcount : p.nObservations.toNat = p.obs.length) (hlen : p.obs.length ≤ maxObservationsPerResp) :
      Holds ⟨dst, ethertypeRaft, .appendEntriesResp, p.bytes⟩ (.appendEntriesResp p)
  | healthEvent (p : PayloadHealthUpdate) :
      Holds ⟨0xFF, ethertypeHealth,
        if p.newStatus = nodeDown then .failureEvent else .healthUpdate, p.bytes⟩ (.healthUpdate p)
  | announceAck (p : PayloadNodeAnnounceAck) :
      Holds ⟨p.assignedNodeId, ethertypeHeartbeat, .nodeAnnounceAck, p.bytes⟩ (.nodeAnnounceAck p)

theorem Frame.WellFormed.exists_holds {f : Frame} (h : f.WellFormed) : ∃ view, f.Holds view := by
  cases h with
  | requestVote dst p => exact ⟨_, .requestVote dst p⟩
  | requestVoteResp dst p => exact ⟨_, .requestVoteResp dst p⟩
  | appendEntries dst ae entries => exact ⟨_, .appendEntries dst ae entries⟩
  | appendEntriesResp dst p hcount hlen => exact ⟨_, .appendEntriesResp dst p hcount hlen⟩
  | healthEvent p => exact ⟨_, .healthEvent p⟩
  | announceAck p => exact ⟨_, .announceAck p⟩

theorem PayloadAppendEntriesResp.read_bytes {p : PayloadAppendEntriesResp}
    (hcount : p.nObservations.toNat = p.obs.length) (hlen : p.obs.length ≤ maxObservationsPerResp)
    (beyond : Nat → UInt8) : read (buffer p.bytes beyond) = p := by
  have hcount' : p.nObservations = UInt8.ofNat p.obs.length := by
    rw [← hcount, UInt8.ofNat_toNat]
  obtain ⟨hsuccess, hcurrent, hfirst⟩ := p.read_bytes_words beyond
  obtain ⟨hn, hobs⟩ := read_bytes_obs hcount' hlen beyond
  generalize read (buffer p.bytes beyond) = q at hsuccess hcurrent hfirst hn hobs ⊢
  cases q
  subst hsuccess hcurrent hfirst hn hobs
  rfl

theorem Frame.Holds.payloadView_eq {f : Frame} {view : PayloadView} (h : f.Holds view) :
    payloadView f.msgType f.payload = view := by
  cases h with
  | requestVote dst p =>
      have hlen : 16 ≤ p.bytes.length := p.length_bytes.ge
      rw [payloadView, if_pos hlen, p.read_bytes]
  | requestVoteResp dst p =>
      have hlen : 8 ≤ p.bytes.length := p.length_bytes.ge
      rw [payloadView, if_pos hlen, p.read_bytes]
  | appendEntries dst ae entries =>
      have hlen : 16 ≤ (ae.bytes ++ entries.flatMap RaftLogEntryWire.bytes).length := by
        rw [List.length_append, ae.length_bytes]
        exact Nat.le_add_right _ _
      rw [payloadView, if_pos hlen, ae.read_bytes]
  | appendEntriesResp dst p hcount hlen =>
      have hsize : p.bytes.length = 48 := p.length_bytes
      have hroom : p.obs.take (min 8 ((48 - 16) / 4)) = p.obs := List.take_of_length_le hlen
      rw [payloadView, if_pos (hsize.ge.trans' (by decide)), p.read_bytes hcount hlen, hsize, hroom]
  | healthEvent p =>
      have hlen : 12 ≤ p.bytes.length := p.length_bytes.ge
      dsimp only
      split <;> rw [payloadView, if_pos hlen, p.read_bytes]
  | announceAck p => rfl

/-- The lines for a packet, in the terms of its sender. -/
def Packet.shownLines (p : Packet) (ts : String) (verbose : Bool) (boxId : UInt8) (view : PayloadView) :
    List String :=
  let etypeName := (etherTypeNames.lookup p.frame.ethertype).getD ""
  let msgName := (msgTypes.lookup (p.frame.msgType.code.toNat : Int)).getD ""
  let term := padLeft 4 "0"
  (s!"{ts} [{padRight 9 etypeName}] node={p.src} box={boxId} "
      ++ s!"term={term} {padRight 20 msgName} {view.shown}")
    :: if verbose then [s!"           raw: {hexString p.frame.payload}"] else []

theorem shownFrame_paddedFrame {hdr : OracleFrameHeader} {payload : List UInt8}
    (hlen : hdr.payloadLen.toNat = payload.length) (hshort : payload.length ≤ oracleMaxPayloadV1)
    (ts etypeName : String) (verbose : Bool) :
    shownFrame ts etypeName verbose (paddedFrame hdr payload)
      = (let msgName := (msgTypes.lookup (hdr.msgType.toNat : Int)).getD (hexByte hdr.msgType.toNat)
        let view := payloadView (.ofCode hdr.msgType) payload
        (s!"{ts} [{padRight 9 etypeName}] node={hdr.nodeId} box={hdr.boxId} "
            ++ s!"term={padLeft 4 (toString hdr.term)} {padRight 20 msgName} {view.shown}")
          :: if verbose ∧ payload ≠ [] then [s!"           raw: {hexString payload}"] else []) := by
  obtain ⟨pad, hpad⟩ : ∃ pad, paddedFrame hdr payload = hdr.bytes ++ (payload ++ pad) :=
    ⟨_, by rw [paddedFrame, List.append_assoc]⟩
  have hread := hdr.read_bytes (payload ++ pad) fun _ => 0
  have hsize : ¬ (hdr.bytes ++ (payload ++ pad)).length < OracleFrameHeader.size := by
    rw [List.length_append, hdr.length_bytes]
    omega
  have hpayload : sniffedPayload hdr.payloadLen
      ((hdr.bytes ++ (payload ++ pad)).drop OracleFrameHeader.size) = payload := by
    have hsmall : hdr.payloadLen.toNat < 2 ^ 15 := (hlen.trans_le hshort).trans_lt (by decide)
    rw [sniffedPayload, if_pos hsmall, List.drop_left' hdr.length_bytes, hlen]
    exact List.take_left
  rw [shownFrame, hpad]
  simp only [hread, if_neg hsize, hpayload]

namespace Frame.WellFormed

variable {f : Frame} (h : f.WellFormed)
include h

theorem payload_ne_nil : f.payload ≠ [] := by
  apply List.ne_nil_of_length_pos
  cases h with
  | requestVote dst p => exact p.length_bytes.symm ▸ (by decide)
  | requestVoteResp dst p => exact p.length_bytes.symm ▸ (by decide)
  | appendEntries dst ae entries =>
      show 0 < (ae.bytes ++ _).length
      rw [List.length_append, ae.length_bytes]
      exact Nat.add_pos_left (by decide) _
  | appendEntriesResp dst p => exact p.length_bytes.symm ▸ (by decide)
  | healthEvent p => exact p.length_bytes.symm ▸ (by decide)
  | announceAck p => exact p.length_bytes.symm ▸ (by decide)

theorem exists_names : ∃ etypeName msgName, etherTypeNames.lookup f.ethertype = some etypeName ∧
    msgTypes.lookup (f.msgType.code.toNat : Int) = some msgName := by
  cases h with
  | requestVote | requestVoteResp | appendEntries | appendEntriesResp | announceAck =>
      exact ⟨_, _, rfl, rfl⟩
  | healthEvent p =>
      dsimp only
      split <;> exact ⟨_, _, rfl, rfl⟩

end Frame.WellFormed

theorem bswap16_bswap16 (w : UInt16) : bswap16 (bswap16 w) = w := by
  have hw : w.toNat < 65536 := w.toNat_lt
  apply UInt16.toNat.inj
  rw [toNat_bswap16, toNat_bswap16]
  omega

/-- Whatever calls the nodes of a cluster get, in whatever order, and whatever their library does, the
sniffer shows each frame that they ever send with its sender, the name of its type and the fields that
the sender put into it. -/
theorem frames_sniffed {σ : Type} (c : ClusterSetup σ) (xs : List ClusterCall) :
    ∀ p ∈ (run c.call c.init xs).net, ∃ view bytes, p.frame.Holds view ∧
      ethSend (ethTransportCreate p.src (c.box p.src)) .ready p.frame.dstNode p.frame.ethertype
        p.frame.msgType p.frame.payload = (0, some bytes) ∧
      ∀ ts verbose, processPacket ts verbose bytes
        = .ok (p.shownLines ts verbose (c.box p.src) view) := by
  intro p hp
  have hformed := wellFormed_run c (s := c.init) (List.forall_mem_nil _) xs p hp
  obtain ⟨view, hview⟩ := hformed.exists_holds
  obtain ⟨etypeName, msgName, hetypeName, hmsgName⟩ := hformed.exists_names
  refine ⟨view, _, hview, ethSend_ready hformed.length_le _ _ _ _, fun ts verbose => ?_⟩
  obtain ⟨hdr, hhdr⟩ : ∃ hdr, hdr = oracleFrameInit broadcastMac
      (ethTransportCreate p.src (c.box p.src)).srcMac p.frame.ethertype p.frame.msgType.code p.src
      (c.box p.src) 0 (UInt16.ofNat p.frame.payload.length) := ⟨_, rfl⟩
  have hlen : hdr.payloadLen.toNat = p.frame.payload.length := by
    rw [hhdr]
    exact toNat_payloadLen hformed.length_le
  have hetype : etherTypeNames.lookup (bswap16 hdr.ethertype) = some etypeName := by
    rw [hhdr]
    exact (congrArg (fun w => etherTypeNames.lookup w) (bswap16_bswap16 _)).trans hetypeName
  have hmsg : hdr.msgType = p.frame.msgType.code := by rw [hhdr]; rfl
  have hnode : hdr.nodeId = p.src := by rw [hhdr]; rfl
  have hbox : hdr.boxId = c.box p.src := by rw [hhdr]; rfl
  have hterm : hdr.term = 0 := by rw [hhdr]; rfl
  have hframe : ethFrame (ethTransportCreate p.src (c.box p.src)) p.frame.ethertype p.frame.msgType
      p.frame.payload = paddedFrame hdr p.frame.payload := by
    rw [hhdr]
    rfl
  have hread : OracleFrameHeader.read (buffer (paddedFrame hdr p.frame.payload) fun _ => 0) = hdr := by
    rw [paddedFrame, List.append_assoc]
    exact hdr.read_bytes _ _
  have hlong : 14 ≤ (paddedFrame hdr p.frame.payload).length := by
    rw [paddedFrame, List.append_assoc, List.length_append, hdr.length_bytes]
    exact Nat.le_add_right_of_le (by decide)
  have hzero : toString (0 : UInt32) = "0" := by decide
  rw [hframe, processPacket_of_lookup hlong (by rw [hread, hetype]),
    shownFrame_paddedFrame hlen hformed.length_le]
  simp [hmsg, hnode, hbox, hterm, hzero, hmsgName, hformed.ofCode_code, hview.payloadView_eq,
    Packet.shownLines, hetypeName, hformed.payload_ne_nil]

theorem frames_sniffed_standingCalls :
    processPacket "12:00" false
        (ethFrame (ethTransportCreate 1 1) ethertypeRaft .requestVote requestToTwo.frame.payload)
      = .ok ["12:00 [RAFT     ] node=1 box=1 term=   0 REQUEST_VOTE         "
          ++ "candidate=1 last_idx=0 last_term=0"] ∧
      ∃ view bytes, requestToTwo.frame.Holds view ∧
        ethSend (ethTransportCreate 1 1) .ready 2 ethertypeRaft .requestVote requestToTwo.frame.payload
          = (0, some bytes) ∧
        ∀ ts verbose, processPacket ts verbose bytes = .ok (requestToTwo.shownLines ts verbose 1 view) :=
  ⟨by decide +kernel, frames_sniffed threeOracles standingCalls requestToTwo (by decide +kernel)⟩

end L2Oracle
