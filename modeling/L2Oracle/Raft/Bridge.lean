import Mathlib.Logic.Relation
import L2Oracle.Raft.LogSafety

/-!
# The bridge between two libraries

The library of one node reaches the library of another through a callback, a frame and the
dispatcher. `RaftLib.recording` is the library with a record of the messages that it is handed, and
`handed` is what the dispatcher adds to that record, so what the bridge carries is read off the code
of the dispatcher. It carries everything but the term, and of the entries the first. The data of an
entry is 12 bytes at its proposer and 19 after one hop, yet the transition in it is the same after any
number of them.
-/

namespace L2Oracle

open Base

/-! ### The record of a library -/

/-- A message that the library was handed, with its sender. -/
inductive LibraryCall where
  | requestVote (sender : UInt8) (msg : MsgRequestVote)
  | requestVoteResponse (sender : UInt8) (msg : MsgRequestVoteResponse)
  | appendEntries (sender : UInt8) (msg : MsgAppendEntries)
  | appendEntriesResponse (sender : UInt8) (msg : MsgAppendEntriesResponse)
deriving DecidableEq, Repr

section
variable {σ : Type}

def LibResult.record (r : LibResult σ) (calls : List LibraryCall) :
    LibResult (σ × List LibraryCall) where
  raft := (r.raft, calls)
  result := r.result
  calls := r.calls

/-- The library with a record of the messages that it is handed, oldest first. -/
def RaftLib.recording (lib : RaftLib σ) : RaftLib (σ × List LibraryCall) where
  raftNew := (lib.raftNew, [])
  raftAddNode s n isSelf := (lib.raftAddNode s.1 n isSelf, s.2)
  raftGetNode s n := lib.raftGetNode s.1 n
  raftIsLeader s := lib.raftIsLeader s.1
  raftGetCurrentTerm s := lib.raftGetCurrentTerm s.1
  timesOut s env elapsed := lib.timesOut s.1 env elapsed
  raftPeriodic s env elapsed := (lib.raftPeriodic s.1 env elapsed).record s.2
  raftRecvRequestVote s env sender msg :=
    let (r, resp) := lib.raftRecvRequestVote s.1 env sender msg
    (r.record (s.2 ++ [.requestVote sender msg]), resp)
  raftRecvRequestVoteResponse s env sender msg :=
    (lib.raftRecvRequestVoteResponse s.1 env sender msg).record
      (s.2 ++ [.requestVoteResponse sender msg])
  raftRecvAppendEntries s env sender msg :=
    let (r, resp) := lib.raftRecvAppendEntries s.1 env sender msg
    (r.record (s.2 ++ [.appendEntries sender msg]), resp)
  raftRecvAppendEntriesResponse s env sender msg :=
    (lib.raftRecvAppendEntriesResponse s.1 env sender msg).record
      (s.2 ++ [.appendEntriesResponse sender msg])
  raftRecvEntry s env entry := (lib.raftRecvEntry s.1 env entry).record s.2

/-- The node on the recording library, with an empty record. -/
def OracleNode.recording (o : OracleNode σ) : OracleNode (σ × List LibraryCall) where
  raft := (o.raft, [])
  nodeId := o.nodeId
  boxId := o.boxId
  nextEntryId := o.nextEntryId
  health := o.health

/-- What the dispatcher of a node hands to its library when a packet reaches it. -/
def handed (lib : RaftLib σ) (o : OracleNode σ) (env : Nat) (p : Packet) (beyond : Nat → UInt8)
    (now : Nat) : List LibraryCall :=
  (oracleDispatchRaftMessage lib.recording o.recording env p.src p.frame.msgType
    (buffer p.frame.payload beyond) p.frame.payload.length now).1.node.raft.2

@[simp] theorem runLibrary_raft (o : OracleNode σ) (r : LibResult σ) :
    (runLibrary o r).node.raft = r.raft := by
  have hcall (e : Effect σ) (call : RaftCall) : (runCallback e call).node.raft = e.node.raft := by
    cases call <;> rfl
  have hfold := List.foldlRecOn r.calls runCallback
    (motive := fun e => e.node.raft = r.raft) (b := ⟨{ o with raft := r.raft }, [], []⟩) rfl
    fun e he call _ => (hcall e call).trans he
  exact hfold

/-- What a node of the given term makes of a packet, with the payload in `mem`. -/
inductive Dispatches (term : Nat) (p : Packet) (mem : Nat → UInt8) : LibraryCall → Prop
  | requestVote : p.frame.msgType = .requestVote →
      PayloadRequestVote.size ≤ p.frame.payload.length →
      Dispatches term p mem (.requestVote p.src
        ⟨term, (PayloadRequestVote.read mem).candidateId.toInt32,
          (PayloadRequestVote.read mem).lastLogIdx.toNat,
          (PayloadRequestVote.read mem).lastLogTerm.toNat⟩)
  | requestVoteResponse : p.frame.msgType = .requestVoteResp →
      PayloadRequestVoteResp.size ≤ p.frame.payload.length →
      Dispatches term p mem (.requestVoteResponse p.src
        ⟨term, (PayloadRequestVoteResp.read mem).voteGranted.toInt32⟩)
  | appendEntries : p.frame.msgType = .appendEntries →
      PayloadAppendEntries.size ≤ p.frame.payload.length →
      Dispatches term p mem (.appendEntries p.src
        (dispatchedAppendEntries term mem p.frame.payload.length))
  | appendEntriesResponse : p.frame.msgType = .appendEntriesResp →
      12 ≤ p.frame.payload.length →
      Dispatches term p mem (.appendEntriesResponse p.src
        ⟨term, (PayloadAppendEntriesResp.read mem).success.toInt32,
          (PayloadAppendEntriesResp.read mem).currentIdx.toNat,
          (PayloadAppendEntriesResp.read mem).firstIdx.toNat⟩)

section
variable {lib : RaftLib σ} {o : OracleNode σ} {env : Nat} {p : Packet} {beyond : Nat → UInt8} {now : Nat}
  {call : LibraryCall}

theorem handed_of_dispatches (hknown : lib.raftGetNode o.raft p.src = true)
    (h : Dispatches (lib.raftGetCurrentTerm o.raft) p (buffer p.frame.payload beyond) call) :
    handed lib o env p beyond now = [call] := by
  have hmember : lib.recording.raftGetNode o.recording.raft p.src := hknown
  unfold handed
  cases h with
  | requestVote htype hlen =>
      rw [htype, dispatch_requestVote env _ now hmember hlen, handRequestVote, runLibrary_raft]
      rfl
  | requestVoteResponse htype hlen =>
      rw [htype, dispatch_requestVoteResp env _ now hmember hlen, handVote, runLibrary_raft]
      rfl
  | appendEntries htype hlen =>
      rw [htype, dispatch_appendEntries env _ now hmember hlen, handAppendEntries, runLibrary_raft]
      rfl
  | appendEntriesResponse htype hlen =>
      rw [htype, dispatch_appendEntriesResp env _ now hmember hlen, handResponse, runLibrary_raft]
      rfl

theorem mem_handed :
    call ∈ handed lib o env p beyond now ↔ lib.raftGetNode o.raft p.src = true ∧
      Dispatches (lib.raftGetCurrentTerm o.raft) p (buffer p.frame.payload beyond) call := by
  constructor
  · intro hcall
    unfold handed at hcall
    by_cases hknown : lib.recording.raftGetNode o.recording.raft p.src
    · refine ⟨hknown, ?_⟩
      have hcases := dispatched lib.recording o.recording env p.src p.frame.msgType
        (buffer p.frame.payload beyond) p.frame.payload.length now
      generalize htype : p.frame.msgType = msgType at hcases hcall
      generalize oracleDispatchRaftMessage lib.recording o.recording env p.src msgType
        (buffer p.frame.payload beyond) p.frame.payload.length now = d at hcases hcall
      cases hcases with
      | dropped => cases hcall
      | requestVote hlen =>
          rw [handRequestVote, runLibrary_raft] at hcall
          obtain rfl := List.mem_singleton.mp hcall
          exact .requestVote htype hlen
      | requestVoteResp hlen =>
          rw [handVote, runLibrary_raft] at hcall
          obtain rfl := List.mem_singleton.mp hcall
          exact .requestVoteResponse htype hlen
      | appendEntries hlen =>
          rw [handAppendEntries, runLibrary_raft] at hcall
          obtain rfl := List.mem_singleton.mp hcall
          exact .appendEntries htype hlen
      | appendEntriesResp hlen =>
          rw [handResponse, runLibrary_raft] at hcall
          obtain rfl := List.mem_singleton.mp hcall
          exact .appendEntriesResponse htype hlen
    · rw [dispatch_of_unknown _ _ _ _ _ _ _ _ hknown] at hcall
      cases hcall
  · rintro ⟨hknown, hdispatch⟩
    rw [handed_of_dispatches hknown hdispatch]
    exact List.mem_singleton.mpr rfl

end

/-! ### The four messages -/

theorem toInt32_toUInt8 {t : Int32} (hpos : 0 ≤ t) (hlt : t < 256) :
    t.toUInt32.toUInt8.toUInt32.toInt32 = t := by
  have hlower : 0 ≤ t.toInt := by simpa using Int32.le_iff_toInt_le.mp hpos
  have hupper : t.toInt < 256 := Int32.lt_iff_toInt_lt.mp hlt
  have hnat : t.toUInt32.toNat < 256 := by
    have hint : t.toInt = t.toBitVec.toInt := rfl
    have hword : t.toUInt32.toNat = t.toBitVec.toNat := rfl
    have hbound := t.toBitVec.isLt
    rw [hint, BitVec.toInt_eq_toNat_cond] at hlower hupper
    rw [hword]
    split at hlower <;> omega
  have hbyte : t.toUInt32.toUInt8.toUInt32 = t.toUInt32 := by
    apply UInt32.toNat.inj
    rw [UInt8.toNat_toUInt32, UInt32.toNat_toUInt8, Nat.mod_eq_of_lt hnat]
  rw [hbyte, Int32.toInt32_toUInt32]

theorem handed_cbSendRequestvote (lib : RaftLib σ) (o : OracleNode σ) (env : Nat) {src : UInt8}
    (hknown : lib.raftGetNode o.raft src = true) (peer : UInt8) {msg : MsgRequestVote}
    (hidx : msg.lastLogIdx < 2 ^ 32) (hterm : msg.lastLogTerm < 2 ^ 32) (beyond : Nat → UInt8)
    (now : Nat) :
    handed lib o env ⟨src, cbSendRequestvote peer msg⟩ beyond now
      = [.requestVote src { msg with term := lib.raftGetCurrentTerm o.raft }] := by
  have hsize : PayloadRequestVote.size ≤ (cbSendRequestvote peer msg).payload.length :=
    (PayloadRequestVote.length_bytes _).ge
  rw [handed_of_dispatches hknown (.requestVote rfl hsize)]
  simp only [cbSendRequestvote, PayloadRequestVote.read_bytes, UInt32.toNat_ofNat_of_lt' hidx,
    UInt32.toNat_ofNat_of_lt' hterm, Int32.toInt32_toUInt32]

/-- The answer to a vote request is the last frame that the voter sends. -/
theorem handed_voteAnswer (lib : RaftLib σ) {voter o : OracleNode σ} {env env' : Nat} {p : Packet}
    {beyond : Nat → UInt8} {now : Nat} {rv : MsgRequestVote}
    (hasked : .requestVote p.src rv ∈ handed lib voter env p beyond now) {src : UInt8}
    (hknown : lib.raftGetNode o.raft src = true) (beyond' : Nat → UInt8) (now' : Nat) :
    ∃ frame, ((ClusterEvent.deliver p beyond env now).run lib voter).sent.getLast? = some frame ∧
      frame.dstNode = p.src ∧
      handed lib o env' ⟨src, frame⟩ beyond' now'
        = [.requestVoteResponse src { (lib.raftRecvRequestVote voter.raft env p.src rv).2 with
            term := lib.raftGetCurrentTerm o.raft }] := by
  refine ⟨⟨p.src, ethertypeRaft, .requestVoteResp, PayloadRequestVoteResp.bytes
    ⟨(lib.raftRecvRequestVote voter.raft env p.src rv).2.voteGranted.toUInt32, 0⟩⟩, ?_, rfl, ?_⟩
  · obtain ⟨hsender, hdispatch⟩ := mem_handed.mp hasked
    cases hdispatch with
    | requestVote htype hlen =>
        rw [ClusterEvent.run, ClusterEvent.call, NodeCall.run, htype, dispatch_requestVote env _ now hsender hlen, handRequestVote]
        exact List.getLast?_concat
  · rw [handed_of_dispatches hknown (.requestVoteResponse rfl (PayloadRequestVoteResp.length_bytes _).ge)]
    simp only [PayloadRequestVoteResp.read_bytes, Int32.toInt32_toUInt32]

theorem handed_cbSendAppendentries (lib : RaftLib σ) (o : OracleNode σ) (env : Nat) {src : UInt8}
    (hknown : lib.raftGetNode o.raft src = true) (peer : UInt8) (msg : MsgAppendEntries)
    (beyond : Nat → UInt8) (now : Nat) :
    handed lib o env ⟨src, cbSendAppendentries peer msg⟩ beyond now
      = [.appendEntries src
          { term := lib.raftGetCurrentTerm o.raft
            prevLogIdx := (UInt32.ofNat msg.prevLogIdx).toNat
            prevLogTerm := (UInt32.ofNat msg.prevLogTerm).toNat
            leaderCommit := (UInt32.ofNat msg.leaderCommit).toNat
            entries := (msg.entries.take 1).map wireCopy }] := by
  have hsize : PayloadAppendEntries.size ≤ (cbSendAppendentries peer msg).payload.length := by
    simp [cbSendAppendentries, PayloadAppendEntries.length_bytes]
  have hmsg := appendEntries_cbSendAppendentries src peer msg (lib.raftGetCurrentTerm o.raft)
  rw [Packet.appendEntries,
    dispatchedAppendEntries_congr _ hsize (agreeTo_buffer le_rfl _ beyond)] at hmsg
  rw [handed_of_dispatches hknown (.appendEntries rfl hsize), hmsg]

theorem term_type_wireCopy {entry : RaftEntry} (hterm : entry.term < 2 ^ 32) (hpos : 0 ≤ entry.type)
    (hlt : entry.type < 256) :
    (wireCopy entry).term = entry.term ∧ (wireCopy entry).type = entry.type :=
  ⟨UInt32.toNat_ofNat_of_lt' hterm, toInt32_toUInt8 hpos hlt⟩

/-- The answer to AppendEntries is the last frame that the follower sends. -/
theorem handed_appendAnswer (lib : RaftLib σ) {follower o : OracleNode σ} {env env' : Nat}
    {p : Packet} {beyond : Nat → UInt8} {now : Nat} {ae : MsgAppendEntries}
    (hasked : .appendEntries p.src ae ∈ handed lib follower env p beyond now) {src : UInt8}
    (hknown : lib.raftGetNode o.raft src = true) {resp : MsgAppendEntriesResponse}
    (hresp : resp = (lib.raftRecvAppendEntries follower.raft env p.src ae).2)
    (hcurrent : resp.currentIdx < 2 ^ 32) (hfirst : resp.firstIdx < 2 ^ 32)
    (beyond' : Nat → UInt8) (now' : Nat) :
    ∃ frame, ((ClusterEvent.deliver p beyond env now).run lib follower).sent.getLast? = some frame ∧
      frame.dstNode = p.src ∧
      handed lib o env' ⟨src, frame⟩ beyond' now'
        = [.appendEntriesResponse src { resp with term := lib.raftGetCurrentTerm o.raft }] := by
  obtain ⟨health, hhealth⟩ : ∃ health, health = (runLibrary follower
    (lib.raftRecvAppendEntries follower.raft env p.src ae).1).node.health := ⟨_, rfl⟩
  refine ⟨⟨p.src, ethertypeRaft, .appendEntriesResp, (appendEntriesAnswer health resp).bytes⟩, ?_, rfl,
    ?_⟩
  · obtain ⟨hsender, hdispatch⟩ := mem_handed.mp hasked
    cases hdispatch with
    | appendEntries htype hlen =>
        rw [ClusterEvent.run, ClusterEvent.call, NodeCall.run, htype, dispatch_appendEntries env _ now hsender hlen, handAppendEntries,
          hresp, hhealth]
        exact List.getLast?_concat
  · have hlen : 12 ≤ (appendEntriesAnswer health resp).bytes.length := by
      rw [PayloadAppendEntriesResp.length_bytes]
      decide
    obtain ⟨hsuccess, hidx, hidx'⟩ :=
      (appendEntriesAnswer health resp).read_bytes_words beyond'
    rw [handed_of_dispatches hknown (.appendEntriesResponse rfl hlen), hsuccess, hidx, hidx']
    simp only [appendEntriesAnswer, Int32.toInt32_toUInt32, UInt32.toNat_ofNat_of_lt' hcurrent,
      UInt32.toNat_ofNat_of_lt' hfirst]

/-! ### Forwarding -/

/-- One forwarding: a node that holds an entry sends it at the head of an AppendEntries, with any term
and id its library gave it, and the dispatcher of the receiver hands its library a copy. -/
def Forwards (lib : RaftLib σ) (held copy : RaftEntry) : Prop :=
  ∃ (o : OracleNode σ) (env now : Nat) (src peer : UInt8) (msg : MsgAppendEntries) (sent : RaftEntry)
    (beyond : Nat → UInt8) (ae : MsgAppendEntries),
    msg.entries.head? = some sent ∧ sent.type = held.type ∧ sent.data = held.data ∧
      .appendEntries src ae ∈ handed lib o env ⟨src, cbSendAppendentries peer msg⟩ beyond now ∧
      copy ∈ ae.entries

/-- The entry makes `cb_applylog` apply the transition. -/
structure CarriesTransition (ht : PayloadHealthUpdate) (entry : RaftEntry) : Prop where
  normal : entry.type = raftLogtypeNormal
  complete : PayloadHealthUpdate.size ≤ entry.data.length
  transition : entry.transition = ht

theorem carries_proposedEntry (lib : RaftLib σ) (o : OracleNode σ)
    (targetNode targetBox oldStatus newStatus : UInt8) (now : Nat) :
    CarriesTransition ⟨targetNode, targetBox, oldStatus, newStatus,
        UInt32.ofNat (lib.raftGetCurrentTerm o.raft), UInt32.ofNat now⟩
      (proposedEntry lib o targetNode targetBox oldStatus newStatus now) where
  normal := rfl
  complete := (PayloadHealthUpdate.length_bytes _).ge
  transition := PayloadHealthUpdate.read_bytes _ _

/-- A copy carries what the entry carries: the wire record has room for the whole transition, and what
follows it is not read. -/
theorem CarriesTransition.forwards {lib : RaftLib σ} {ht : PayloadHealthUpdate}
    {held copy : RaftEntry} (h : CarriesTransition ht held) (hforwards : Forwards lib held copy) :
    CarriesTransition ht copy := by
  obtain ⟨o, env, now, src, peer, msg, sent, beyond, ae, hhead, htype, hdata, hhanded, hcopy⟩ :=
    hforwards
  have hknown := (mem_handed.mp hhanded).1
  rw [handed_cbSendAppendentries lib o env hknown] at hhanded
  cases List.mem_singleton.mp hhanded
  have htake : msg.entries.take 1 = [sent] := by
    cases hentries : msg.entries with
    | nil => rw [hentries] at hhead; cases hhead
    | cons entry rest => rw [hentries] at hhead; cases hhead; rfl
  have hwire : copy = wireCopy sent := by
    rw [htake] at hcopy
    exact List.mem_singleton.mp hcopy
  obtain ⟨hsame, htransition⟩ := sameTransition_wireCopy (htype.trans h.normal)
  have hheld : sent.transition = held.transition := by rw [RaftEntry.transition, hdata]; rfl
  constructor
  · rw [hwire, hsame, htype, h.normal]
  · rw [hwire, length_wireCopy]
    decide
  · rw [hwire, htransition, hheld, h.transition]

theorem CarriesTransition.chain {lib : RaftLib σ} {ht : PayloadHealthUpdate}
    {held copy : RaftEntry} (h : CarriesTransition ht held)
    (hchain : Relation.ReflTransGen (Forwards lib) held copy) : CarriesTransition ht copy := by
  induction hchain with
  | refl => exact h
  | tail _ hforwards ih => exact ih.forwards hforwards

theorem CarriesTransition.cbApplylog_eq {ht : PayloadHealthUpdate} {entry : RaftEntry}
    (h : CarriesTransition ht entry) (hm : HealthMonitor) :
    cbApplylog (some hm) entry =
      let (hm', frames) :=
        healthTableApply hm ht.targetNodeId ht.targetBoxId ht.oldStatus ht.newStatus ht.term
      (some hm', frames) := by
  rw [cbApplylog, if_pos ⟨h.normal, h.complete⟩, h.transition]

/-! ### The bridge -/

/-- The bridge hands on what it was given, with the receiver's own term, and an entry applies the
transition it was proposed with however often it was forwarded. -/
structure FaithfulBridge (lib : RaftLib σ) : Prop where
  requestVote : ∀ (o : OracleNode σ) (env now : Nat) (src peer : UInt8) (msg : MsgRequestVote)
    (beyond : Nat → UInt8),
    lib.raftGetNode o.raft src = true → msg.lastLogIdx < 2 ^ 32 → msg.lastLogTerm < 2 ^ 32 →
    handed lib o env ⟨src, cbSendRequestvote peer msg⟩ beyond now
      = [.requestVote src { msg with term := lib.raftGetCurrentTerm o.raft }]
  /-- The answer that a voter sends to a request. -/
  requestVoteResponse : ∀ (voter o : OracleNode σ) (env env' now now' : Nat) (src : UInt8) (p : Packet)
    (beyond beyond' : Nat → UInt8) (rv : MsgRequestVote),
    .requestVote p.src rv ∈ handed lib voter env p beyond now → lib.raftGetNode o.raft src = true →
    ∃ frame, ((ClusterEvent.deliver p beyond env now).run lib voter).sent.getLast? = some frame ∧
      frame.dstNode = p.src ∧
      handed lib o env' ⟨src, frame⟩ beyond' now'
        = [.requestVoteResponse src { (lib.raftRecvRequestVote voter.raft env p.src rv).2 with
            term := lib.raftGetCurrentTerm o.raft }]
  appendEntries : ∀ (o : OracleNode σ) (env now : Nat) (src peer : UInt8) (msg : MsgAppendEntries)
    (beyond : Nat → UInt8),
    lib.raftGetNode o.raft src = true → msg.prevLogIdx < 2 ^ 32 → msg.prevLogTerm < 2 ^ 32 →
    msg.leaderCommit < 2 ^ 32 →
    (∀ e ∈ msg.entries, e.term < 2 ^ 32 ∧ 0 ≤ e.type ∧ e.type < 256) →
    ∃ entries, handed lib o env ⟨src, cbSendAppendentries peer msg⟩ beyond now
        = [.appendEntries src { msg with term := lib.raftGetCurrentTerm o.raft, entries }] ∧
      entries.length = min msg.entries.length 1 ∧
      List.Forall₂ (fun e e' => e.term = e'.term ∧ e.type = e'.type) entries (msg.entries.take 1)
  /-- The answer that a follower sends to AppendEntries. -/
  appendEntriesResponse : ∀ (follower o : OracleNode σ) (env env' now now' : Nat) (src : UInt8)
    (p : Packet) (beyond beyond' : Nat → UInt8) (ae : MsgAppendEntries)
    (resp : MsgAppendEntriesResponse),
    .appendEntries p.src ae ∈ handed lib follower env p beyond now →
    lib.raftGetNode o.raft src = true →
    resp = (lib.raftRecvAppendEntries follower.raft env p.src ae).2 →
    resp.currentIdx < 2 ^ 32 → resp.firstIdx < 2 ^ 32 →
    ∃ frame, ((ClusterEvent.deliver p beyond env now).run lib follower).sent.getLast? = some frame ∧
      frame.dstNode = p.src ∧
      handed lib o env' ⟨src, frame⟩ beyond' now'
        = [.appendEntriesResponse src { resp with term := lib.raftGetCurrentTerm o.raft }]
  /-- At the proposer, where the entry has not been forwarded at all, and at every receiver. -/
  applied : ∀ (proposer : OracleNode σ) (targetNode targetBox oldStatus newStatus : UInt8) (now : Nat)
    (entry : RaftEntry),
    Relation.ReflTransGen (Forwards lib)
      (proposedEntry lib proposer targetNode targetBox oldStatus newStatus now) entry →
    ∀ hm, cbApplylog (some hm) entry =
      let (hm', frames) := healthTableApply hm targetNode targetBox oldStatus newStatus
        (UInt32.ofNat (lib.raftGetCurrentTerm proposer.raft))
      (some hm', frames)

/-- **The bridge is faithful but for the term.** -/
theorem bridge_faithful (lib : RaftLib σ) : FaithfulBridge lib where
  requestVote o env now src peer msg beyond hknown hidx hterm :=
    handed_cbSendRequestvote lib o env hknown peer hidx hterm beyond now
  requestVoteResponse voter o env env' now now' src p beyond beyond' rv hasked hknown :=
    handed_voteAnswer lib hasked hknown beyond' now'
  appendEntries o env now src peer msg beyond hknown hidx hterm hcommit hentries := by
    refine ⟨(msg.entries.take 1).map wireCopy, ?_, ?_, ?_⟩
    · rw [handed_cbSendAppendentries lib o env hknown, UInt32.toNat_ofNat_of_lt' hidx,
        UInt32.toNat_ofNat_of_lt' hterm, UInt32.toNat_ofNat_of_lt' hcommit]
    · rw [List.length_map, List.length_take, Nat.min_comm]
    · rw [List.forall₂_map_left_iff, List.forall₂_same]
      intro e he
      obtain ⟨hterm, hpos, hlt⟩ := hentries e (List.mem_of_mem_take he)
      exact term_type_wireCopy hterm hpos hlt
  appendEntriesResponse follower o env env' now now' src p beyond beyond' ae resp hasked hknown hresp
      hcurrent hfirst :=
    handed_appendAnswer lib hasked hknown hresp hcurrent hfirst beyond' now'
  applied proposer targetNode targetBox oldStatus newStatus now entry hchain hm :=
    ((carries_proposedEntry lib proposer targetNode targetBox oldStatus newStatus now).chain
      hchain).cbApplylog_eq hm

end

end L2Oracle
