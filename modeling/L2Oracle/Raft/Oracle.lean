import L2Oracle.Health.Spec
import L2Oracle.Raft.Library

/-!
# The oracle

`raft_oracle.c`, function by function: the callbacks through which the library sends and applies, and
the functions that the tasks call. Messages are bytes. A callback writes a payload struct into a
frame, and `oracle_dispatch_raft_message` reads one from memory: `mem` is what a read at each offset
from the payload pointer finds, of which `len` bytes were received.

No payload carries a term. The dispatcher gives the library the term of the node that receives.

What the library keeps of an entry between callbacks is its own business, so `cb_log_offer` and its
counterparts, which copy and free the data of entries, are left out; so are the term and the vote that
are kept for a restart, since nothing reads them.
-/

namespace L2Oracle

open Base

/-- `oracle_node_ctx_t`. -/
structure OracleNode (σ : Type) where
  raft : σ
  nodeId : UInt8
  boxId : UInt8
  nextEntryId : Nat
  /-- The monitor, `NULL` until it is started. -/
  health : Option HealthMonitor

/-- A node after a call, with the frames it sent and the entries that `cb_applylog` was executed for
during the call, oldest first. -/
structure Effect (σ : Type) where
  node : OracleNode σ
  sent : List Frame
  applied : List (Nat × RaftEntry)

/-! ### Callbacks -/

def cbSendRequestvote (peer : UInt8) (msg : MsgRequestVote) : Frame :=
  let payload : PayloadRequestVote :=
    { candidateId := msg.candidateId.toUInt32
      lastLogIdx := UInt32.ofNat msg.lastLogIdx
      lastLogTerm := UInt32.ofNat msg.lastLogTerm }
  ⟨peer, ethertypeRaft, .requestVote, payload.bytes⟩

/-- The wire record of an entry. The source copies up to `sizeof(raft_log_entry_wire_t) - 8` bytes of
the entry's data to `target_node_id`; the struct ends, and the frame with it, one byte earlier. -/
def wireEntry (entry : RaftEntry) : RaftLogEntryWire where
  term := UInt32.ofNat entry.term
  index := 0
  entryType := entry.type.toUInt32.toUInt8
  data := entry.data.take (RaftLogEntryWire.size - 8)

/-- At most one entry goes into a message. -/
def cbSendAppendentries (peer : UInt8) (msg : MsgAppendEntries) : Frame :=
  let ae : PayloadAppendEntries :=
    { prevLogIdx := UInt32.ofNat msg.prevLogIdx
      prevLogTerm := UInt32.ofNat msg.prevLogTerm
      leaderCommit := UInt32.ofNat msg.leaderCommit
      nEntries := if 1 < msg.entries.length then 1 else UInt8.ofNat msg.entries.length }
  let entry := match msg.entries with
    | [] => []
    | entry :: _ => (wireEntry entry).bytes
  ⟨peer, ethertypeRaft, .appendEntries, ae.bytes ++ entry⟩

/-- The transition that an entry carries. -/
def RaftEntry.transition (entry : RaftEntry) : PayloadHealthUpdate :=
  PayloadHealthUpdate.read (buffer entry.data fun _ => 0)

def cbApplylog (health : Option HealthMonitor) (entry : RaftEntry) :
    Option HealthMonitor × List Frame :=
  if entry.type = raftLogtypeNormal ∧ PayloadHealthUpdate.size ≤ entry.data.length then
    match health with
    | none => (none, [])
    | some hm =>
        let ht := entry.transition
        let (hm, frames) :=
          healthTableApply hm ht.targetNodeId ht.targetBoxId ht.oldStatus ht.newStatus ht.term
        (some hm, frames)
  else (health, [])

section
variable {σ : Type}

/-- One callback of the library. -/
def runCallback (e : Effect σ) : RaftCall → Effect σ
  | .sendRequestVote peer msg => { e with sent := e.sent ++ [cbSendRequestvote peer msg] }
  | .sendAppendEntries peer msg => { e with sent := e.sent ++ [cbSendAppendentries peer msg] }
  | .applyLog entry idx =>
      let (health, frames) := cbApplylog e.node.health entry
      { node := { e.node with health }
        sent := e.sent ++ frames
        applied := e.applied ++ [(idx, entry)] }

/-- A call of the library on a node, with the callbacks it makes. -/
def runLibrary (o : OracleNode σ) (r : LibResult σ) : Effect σ :=
  r.calls.foldl runCallback ⟨{ o with raft := r.raft }, [], []⟩

/-! ### Public API -/

variable (lib : RaftLib σ)

def oracleInit (nodeId boxId : UInt8) : OracleNode σ where
  raft := lib.raftNew
  nodeId
  boxId
  nextEntryId := 1
  health := none

def oracleAddNode (o : OracleNode σ) (peerId : UInt8) (isSelf : Bool) : OracleNode σ :=
  { o with raft := lib.raftAddNode o.raft peerId isSelf }

def oracleIsLeader (o : OracleNode σ) : Bool := lib.raftIsLeader o.raft

def oracleTick (o : OracleNode σ) (env : Nat) (elapsedMs : Int) : Effect σ :=
  runLibrary o (lib.raftPeriodic o.raft env elapsedMs)

/-- The entry that a proposal hands to the library. -/
def proposedEntry (o : OracleNode σ) (targetNode targetBox oldStatus newStatus : UInt8) (now : Nat) :
    RaftEntry :=
  let ht : PayloadHealthUpdate :=
    { targetNodeId := targetNode
      targetBoxId := targetBox
      oldStatus
      newStatus
      term := UInt32.ofNat (lib.raftGetCurrentTerm o.raft)
      timestampMs := UInt32.ofNat now }
  { term := lib.raftGetCurrentTerm o.raft
    id := o.nextEntryId
    type := raftLogtypeNormal
    data := ht.bytes }

def oracleProposeHealthTransition (o : OracleNode σ) (env : Nat)
    (targetNode targetBox oldStatus newStatus : UInt8) (now : Nat) : Effect σ × Int :=
  if lib.raftIsLeader o.raft then
    let entry := proposedEntry lib o targetNode targetBox oldStatus newStatus now
    let r := lib.raftRecvEntry o.raft env entry
    (runLibrary { o with nextEntryId := o.nextEntryId + 1 } r, r.result)
  else (⟨o, [], []⟩, -1)

/-- The message that the dispatcher makes of an AppendEntries payload. -/
def dispatchedAppendEntries (term : Nat) (mem : Nat → UInt8) (len : Nat) : MsgAppendEntries :=
  let p := PayloadAppendEntries.read mem
  let entries :=
    if 0 < p.nEntries ∧ PayloadAppendEntries.size + RaftLogEntryWire.size ≤ len then
      let we := RaftLogEntryWire.read fun i => mem (PayloadAppendEntries.size + i)
      [{ term := we.term.toNat, id := 0, type := we.entryType.toUInt32.toInt32, data := we.data }]
    else []
  { term
    prevLogIdx := p.prevLogIdx.toNat
    prevLogTerm := p.prevLogTerm.toNat
    leaderCommit := p.leaderCommit.toNat
    entries }

/-- The response to an AppendEntries, with the node's observations. -/
def appendEntriesAnswer (health : Option HealthMonitor) (resp : MsgAppendEntriesResponse) :
    PayloadAppendEntriesResp :=
  let obs := match health with
    | none => []
    | some hm => healthMonitorGetObservations hm
  { success := resp.success.toUInt32
    currentIdx := UInt32.ofNat resp.currentIdx
    firstIdx := UInt32.ofNat resp.firstIdx
    nObservations := UInt8.ofNat obs.length
    obs }

def oracleDispatchRaftMessage (o : OracleNode σ) (env : Nat) (srcNodeId : UInt8)
    (msgType : RaftMsgType) (mem : Nat → UInt8) (len : Nat) (now : Nat) : Effect σ × Int :=
  if lib.raftGetNode o.raft srcNodeId then
    match msgType with
    | .requestVote =>
        if len < PayloadRequestVote.size then (⟨o, [], []⟩, -1)
        else
          let p := PayloadRequestVote.read mem
          let rv : MsgRequestVote :=
            { term := lib.raftGetCurrentTerm o.raft
              candidateId := p.candidateId.toInt32
              lastLogIdx := p.lastLogIdx.toNat
              lastLogTerm := p.lastLogTerm.toNat }
          let (r, resp) := lib.raftRecvRequestVote o.raft env srcNodeId rv
          let e := runLibrary o r
          let rp : PayloadRequestVoteResp :=
            { voteGranted := resp.voteGranted.toUInt32, currentIdx := 0 }
          ({ e with sent := e.sent ++ [⟨srcNodeId, ethertypeRaft, .requestVoteResp, rp.bytes⟩] },
            r.result)
    | .requestVoteResp =>
        if len < PayloadRequestVoteResp.size then (⟨o, [], []⟩, -1)
        else
          let p := PayloadRequestVoteResp.read mem
          let resp : MsgRequestVoteResponse :=
            { term := lib.raftGetCurrentTerm o.raft, voteGranted := p.voteGranted.toInt32 }
          let r := lib.raftRecvRequestVoteResponse o.raft env srcNodeId resp
          (runLibrary o r, r.result)
    | .appendEntries =>
        if len < PayloadAppendEntries.size then (⟨o, [], []⟩, -1)
        else
          let ae := dispatchedAppendEntries (lib.raftGetCurrentTerm o.raft) mem len
          let (r, resp) := lib.raftRecvAppendEntries o.raft env srcNodeId ae
          let e := runLibrary o r
          let rp := appendEntriesAnswer e.node.health resp
          ({ e with sent := e.sent ++ [⟨srcNodeId, ethertypeRaft, .appendEntriesResp, rp.bytes⟩] },
            r.result)
    | .appendEntriesResp =>
        if len < 12 then (⟨o, [], []⟩, -1)
        else
          let p := PayloadAppendEntriesResp.read mem
          let health :=
            if 0 < p.nObservations ∧ PayloadAppendEntriesResp.size ≤ len then
              o.health.map fun hm =>
                healthMonitorUpdateCorroboration hm srcNodeId p.obs (UInt32.ofNat now)
            else o.health
          let resp : MsgAppendEntriesResponse :=
            { term := lib.raftGetCurrentTerm o.raft
              success := p.success.toInt32
              currentIdx := p.currentIdx.toNat
              firstIdx := p.firstIdx.toNat }
          let r := lib.raftRecvAppendEntriesResponse o.raft env srcNodeId resp
          (runLibrary { o with health } r, r.result)
    | .healthUpdate | .clusterState | .failureEvent | .nodeHeartbeat | .nodeAnnounce
    | .nodeAnnounceAck | .other _ => (⟨o, [], []⟩, -1)
  else (⟨o, [], []⟩, -1)

/-- The oracle as its monitor reaches it, at a given time. -/
def oracleApi (env : Nat) (now : Nat) : OracleApi (Effect σ) where
  oracleIsLeader e := oracleIsLeader lib e.node
  oracleProposeHealthTransition e targetNode targetBox oldStatus newStatus :=
    let (e', result) :=
      oracleProposeHealthTransition lib e.node env targetNode targetBox oldStatus newStatus now
    ({ node := e'.node, sent := e.sent ++ e'.sent, applied := e.applied ++ e'.applied }, result)

end

end L2Oracle
