import L2Oracle.Raft.Oracle

/-!
# What the dispatcher does

`oracle_dispatch_raft_message` drops a message from an unknown sender, of a type that is not one of the
four of Raft, or shorter than the least length of its type. Any other it reads, hands to the library with
the node's own term, and answers if it is a request. `Dispatched` says this once, so what holds after
every dispatch is proved by its five cases.
-/

namespace L2Oracle

open Base

/-- The least length that the dispatcher accepts for a type, of the four that it accepts. -/
def minLength : RaftMsgType → Option Nat
  | .requestVote => some PayloadRequestVote.size
  | .requestVoteResp => some PayloadRequestVoteResp.size
  | .appendEntries => some PayloadAppendEntries.size
  | .appendEntriesResp => some 12
  | _ => none

/-! ### What is read -/

def dispatchedRequestVote (term : Nat) (mem : Nat → UInt8) : MsgRequestVote :=
  let p := PayloadRequestVote.read mem
  { term
    candidateId := p.candidateId.toInt32
    lastLogIdx := p.lastLogIdx.toNat
    lastLogTerm := p.lastLogTerm.toNat }

def dispatchedVote (term : Nat) (mem : Nat → UInt8) : MsgRequestVoteResponse where
  term
  voteGranted := (PayloadRequestVoteResp.read mem).voteGranted.toInt32

/-- The message that the dispatcher makes of a response to an AppendEntries. -/
def dispatchedResponse (term : Nat) (mem : Nat → UInt8) : MsgAppendEntriesResponse :=
  let p := PayloadAppendEntriesResp.read mem
  { term
    success := p.success.toInt32
    currentIdx := p.currentIdx.toNat
    firstIdx := p.firstIdx.toNat }

section
variable {mem mem' : Nat → UInt8}

theorem dispatchedRequestVote_congr (term : Nat) (h : AgreeTo PayloadRequestVote.size mem mem') :
    dispatchedRequestVote term mem = dispatchedRequestVote term mem' := by
  rw [dispatchedRequestVote, dispatchedRequestVote, PayloadRequestVote.read_congr h]

theorem dispatchedVote_congr (term : Nat) (h : AgreeTo PayloadRequestVoteResp.size mem mem') :
    dispatchedVote term mem = dispatchedVote term mem' := by
  rw [dispatchedVote, dispatchedVote, PayloadRequestVoteResp.read_congr h]

theorem dispatchedAppendEntries_congr {len : Nat} (term : Nat) (hlen : PayloadAppendEntries.size ≤ len)
    (h : AgreeTo len mem mem') :
    dispatchedAppendEntries term mem len = dispatchedAppendEntries term mem' len := by
  rw [dispatchedAppendEntries, dispatchedAppendEntries, PayloadAppendEntries.read_congr (h.mono hlen)]
  by_cases hentry : 0 < (PayloadAppendEntries.read mem').nEntries ∧
      PayloadAppendEntries.size + RaftLogEntryWire.size ≤ len
  · have hwire := RaftLogEntryWire.read_congr (h.mono hentry.2).shift
    simp only [if_pos hentry, hwire]
  · simp only [if_neg hentry]

theorem dispatchedResponse_congr (term : Nat) (h : AgreeTo 12 mem mem') :
    dispatchedResponse term mem = dispatchedResponse term mem' := by
  simp only [dispatchedResponse, PayloadAppendEntriesResp.read]
  rw [h.readLE (by decide), h.readLE (by decide), h.readLE (by decide)]

end

section
variable {σ : Type} (lib : RaftLib σ) (o : OracleNode σ) (env : Nat) (srcNodeId : UInt8)
  (msgType : RaftMsgType) (mem : Nat → UInt8) (len now : Nat)

/-- The monitor after the observations of a response. -/
def reportedHealth (mem : Nat → UInt8) (len : Nat) : Option HealthMonitor :=
  let p := PayloadAppendEntriesResp.read mem
  if 0 < p.nObservations ∧ PayloadAppendEntriesResp.size ≤ len then
    o.health.map fun hm => healthMonitorUpdateCorroboration hm srcNodeId p.obs (UInt32.ofNat now)
  else o.health

/-! ### What is handed over -/

def handRequestVote (rv : MsgRequestVote) : Effect σ × Int :=
  let (r, resp) := lib.raftRecvRequestVote o.raft env srcNodeId rv
  let e := runLibrary o r
  let rp : PayloadRequestVoteResp := { voteGranted := resp.voteGranted.toUInt32, currentIdx := 0 }
  ({ e with sent := e.sent ++ [⟨srcNodeId, ethertypeRaft, .requestVoteResp, rp.bytes⟩] }, r.result)

def handVote (resp : MsgRequestVoteResponse) : Effect σ × Int :=
  let r := lib.raftRecvRequestVoteResponse o.raft env srcNodeId resp
  (runLibrary o r, r.result)

def handAppendEntries (ae : MsgAppendEntries) : Effect σ × Int :=
  let (r, resp) := lib.raftRecvAppendEntries o.raft env srcNodeId ae
  let e := runLibrary o r
  let rp := appendEntriesAnswer e.node.health resp
  ({ e with sent := e.sent ++ [⟨srcNodeId, ethertypeRaft, .appendEntriesResp, rp.bytes⟩] }, r.result)

/-- The library gets the response when the monitor has the observations. -/
def handResponse (health : Option HealthMonitor) (resp : MsgAppendEntriesResponse) : Effect σ × Int :=
  let r := lib.raftRecvAppendEntriesResponse o.raft env srcNodeId resp
  (runLibrary { o with health } r, r.result)

/-! ### What is dropped -/

theorem dispatch_of_unknown (h : ¬lib.raftGetNode o.raft srcNodeId) :
    oracleDispatchRaftMessage lib o env srcNodeId msgType mem len now = (⟨o, [], []⟩, -1) := by
  rw [oracleDispatchRaftMessage.eq_def, if_neg h]

theorem dispatch_of_short (h : ∀ least ∈ minLength msgType, len < least) :
    oracleDispatchRaftMessage lib o env srcNodeId msgType mem len now = (⟨o, [], []⟩, -1) := by
  rw [oracleDispatchRaftMessage.eq_def]
  split
  · cases msgType with
    | requestVote => exact if_pos (h _ rfl)
    | requestVoteResp => exact if_pos (h _ rfl)
    | appendEntries => exact if_pos (h _ rfl)
    | appendEntriesResp => exact if_pos (h _ rfl)
    | _ => rfl
  · rfl

/-! ### What is not -/

section
variable {lib o srcNodeId len} (hknown : lib.raftGetNode o.raft srcNodeId)
include hknown

theorem dispatch_requestVote (hlen : PayloadRequestVote.size ≤ len) :
    oracleDispatchRaftMessage lib o env srcNodeId .requestVote mem len now
      = handRequestVote lib o env srcNodeId
          (dispatchedRequestVote (lib.raftGetCurrentTerm o.raft) mem) := by
  rw [oracleDispatchRaftMessage.eq_def, if_pos hknown]
  exact if_neg (Nat.not_lt.mpr hlen)

theorem dispatch_requestVoteResp (hlen : PayloadRequestVoteResp.size ≤ len) :
    oracleDispatchRaftMessage lib o env srcNodeId .requestVoteResp mem len now
      = handVote lib o env srcNodeId (dispatchedVote (lib.raftGetCurrentTerm o.raft) mem) := by
  rw [oracleDispatchRaftMessage.eq_def, if_pos hknown]
  exact if_neg (Nat.not_lt.mpr hlen)

theorem dispatch_appendEntries (hlen : PayloadAppendEntries.size ≤ len) :
    oracleDispatchRaftMessage lib o env srcNodeId .appendEntries mem len now
      = handAppendEntries lib o env srcNodeId
          (dispatchedAppendEntries (lib.raftGetCurrentTerm o.raft) mem len) := by
  rw [oracleDispatchRaftMessage.eq_def, if_pos hknown]
  exact if_neg (Nat.not_lt.mpr hlen)

theorem dispatch_appendEntriesResp (hlen : 12 ≤ len) :
    oracleDispatchRaftMessage lib o env srcNodeId .appendEntriesResp mem len now
      = handResponse lib o env srcNodeId (reportedHealth o srcNodeId now mem len)
          (dispatchedResponse (lib.raftGetCurrentTerm o.raft) mem) := by
  rw [oracleDispatchRaftMessage.eq_def, if_pos hknown]
  exact if_neg (Nat.not_lt.mpr hlen)

end

/-- The result of dispatching a message of a type. -/
inductive Dispatched : RaftMsgType → Effect σ × Int → Prop
  | dropped (msgType : RaftMsgType) : Dispatched msgType (⟨o, [], []⟩, -1)
  | requestVote (hlen : PayloadRequestVote.size ≤ len) :
      Dispatched .requestVote (handRequestVote lib o env srcNodeId
        (dispatchedRequestVote (lib.raftGetCurrentTerm o.raft) mem))
  | requestVoteResp (hlen : PayloadRequestVoteResp.size ≤ len) :
      Dispatched .requestVoteResp (handVote lib o env srcNodeId
        (dispatchedVote (lib.raftGetCurrentTerm o.raft) mem))
  | appendEntries (hlen : PayloadAppendEntries.size ≤ len) :
      Dispatched .appendEntries (handAppendEntries lib o env srcNodeId
        (dispatchedAppendEntries (lib.raftGetCurrentTerm o.raft) mem len))
  | appendEntriesResp (hlen : 12 ≤ len) :
      Dispatched .appendEntriesResp (handResponse lib o env srcNodeId
        (reportedHealth o srcNodeId now mem len)
        (dispatchedResponse (lib.raftGetCurrentTerm o.raft) mem))

theorem dispatched : Dispatched lib o env srcNodeId mem len now msgType
    (oracleDispatchRaftMessage lib o env srcNodeId msgType mem len now) := by
  by_cases hknown : lib.raftGetNode o.raft srcNodeId
  · by_cases hshort : ∀ least ∈ minLength msgType, len < least
    · rw [dispatch_of_short lib o env srcNodeId msgType mem len now hshort]
      exact .dropped msgType
    · push Not at hshort
      obtain ⟨least, hleast, hlen⟩ := hshort
      cases msgType with
      | requestVote =>
          obtain rfl := Option.some.inj hleast
          rw [dispatch_requestVote env mem now hknown hlen]
          exact .requestVote hlen
      | requestVoteResp =>
          obtain rfl := Option.some.inj hleast
          rw [dispatch_requestVoteResp env mem now hknown hlen]
          exact .requestVoteResp hlen
      | appendEntries =>
          obtain rfl := Option.some.inj hleast
          rw [dispatch_appendEntries env mem now hknown hlen]
          exact .appendEntries hlen
      | appendEntriesResp =>
          obtain rfl := Option.some.inj hleast
          rw [dispatch_appendEntriesResp env mem now hknown hlen]
          exact .appendEntriesResp hlen
      | _ => cases hleast
  · rw [dispatch_of_unknown lib o env srcNodeId msgType mem len now hknown]
    exact .dropped msgType

end

end L2Oracle
