import Mathlib.Data.Finset.Card
import Mathlib.Data.List.Infix

/-!
# The Raft library

The library is a git submodule whose source is not in the tree, so it is a parameter here:
`RaftLib σ` has the functions that `raft_oracle.c` calls, over any server state `σ`. A function
returns the server after the call, its result, and the callbacks it made, in order. What the library
does not determine by its arguments, its random timeouts and what the transport and the allocator
returned to it, is the argument `env`, an arbitrary number.

`RaftRules` says what is relied on. It reads a server through `RaftView`: its term, vote, role, the
nodes whose votes it counts, and its log. Each rule is one of Raft's, for any message: a server grants
one vote per term, to a candidate whose log is up to date and whose term is not below its own; it
adopts a higher term and steps down; a candidate that counts a majority of votes for its term leads;
AppendEntries is checked at `prev_log_idx`, truncates only on a conflict of terms, and appends; only a
leader takes entries and sends AppendEntries, from its own log; and what is applied is an entry of the
log at its index, though never while an entry is being taken. Nothing is said about when entries
commit.
-/

namespace L2Oracle

/-! ### Messages and entries

An `int` of the interface is 32 bits wide. Terms and indices are numbers: the library's are wider
than the words that carry them. -/

structure MsgRequestVote where
  term : Nat
  candidateId : Int32
  lastLogIdx : Nat
  lastLogTerm : Nat
deriving DecidableEq, Repr

structure MsgRequestVoteResponse where
  term : Nat
  voteGranted : Int32
deriving DecidableEq, Repr

/-- The value of `vote_granted` that grants a vote. -/
def raftRequestVoteGranted : Int32 := 1

/-- `RAFT_LOGTYPE_NORMAL`. -/
def raftLogtypeNormal : Int32 := 0

/-- `raft_entry_t`, which is also `msg_entry_t`. -/
structure RaftEntry where
  term : Nat
  id : Nat
  type : Int32
  data : List UInt8
deriving DecidableEq, Repr

/-- `msg_appendentries_t`; `n_entries` is the length of `entries`. -/
structure MsgAppendEntries where
  term : Nat
  prevLogIdx : Nat
  prevLogTerm : Nat
  leaderCommit : Nat
  entries : List RaftEntry
deriving DecidableEq, Repr

structure MsgAppendEntriesResponse where
  term : Nat
  success : Int32
  currentIdx : Nat
  firstIdx : Nat
deriving DecidableEq, Repr

/-! ### The interface -/

/-- A callback of the library that the oracle acts on. -/
inductive RaftCall where
  | sendRequestVote (peer : UInt8) (msg : MsgRequestVote)
  | sendAppendEntries (peer : UInt8) (msg : MsgAppendEntries)
  | applyLog (entry : RaftEntry) (idx : Nat)

/-- The server after a call, the result of the call and the callbacks it made. -/
structure LibResult (σ : Type) where
  raft : σ
  result : Int
  calls : List RaftCall

structure RaftLib (σ : Type) where
  raftNew : σ
  raftAddNode : σ → UInt8 → Bool → σ
  /-- Whether the node is known. -/
  raftGetNode : σ → UInt8 → Bool
  raftIsLeader : σ → Bool
  raftGetCurrentTerm : σ → Nat
  /-- Whether the election timeout of a server that does not lead passes in the next call of
  `raft_periodic`. -/
  timesOut : σ → Nat → Int → Bool
  raftPeriodic : σ → Nat → Int → LibResult σ
  raftRecvRequestVote : σ → Nat → UInt8 → MsgRequestVote → LibResult σ × MsgRequestVoteResponse
  raftRecvRequestVoteResponse : σ → Nat → UInt8 → MsgRequestVoteResponse → LibResult σ
  raftRecvAppendEntries : σ → Nat → UInt8 → MsgAppendEntries →
    LibResult σ × MsgAppendEntriesResponse
  raftRecvAppendEntriesResponse : σ → Nat → UInt8 → MsgAppendEntriesResponse → LibResult σ
  raftRecvEntry : σ → Nat → RaftEntry → LibResult σ

/-! ### What the rules read of a server -/

inductive RaftRole where
  | follower
  | candidate
  | leader
deriving DecidableEq, Repr

structure RaftView where
  self : UInt8
  members : Finset UInt8
  term : Nat
  votedFor : Option Int32
  role : RaftRole
  /-- The nodes that have voted for this one in its term. -/
  votes : Finset UInt8
  log : List RaftEntry
deriving DecidableEq

/-- The node as a `raft_node_id_t`. -/
def nodeIdInt (n : UInt8) : Int32 := n.toUInt32.toInt32

/-- A server that has just been set up. -/
def RaftView.started (self : UInt8) (members : Finset UInt8) : RaftView where
  self
  members
  term := 0
  votedFor := none
  role := .follower
  votes := ∅
  log := []

/-- A server that starts an election: a new term, with its own vote. -/
def RaftView.candidacy (v : RaftView) : RaftView :=
  { v with
    term := v.term + 1, votedFor := some (nodeIdInt v.self), role := .candidate, votes := {v.self} }

/-- A server that has seen a term: a higher one is adopted, and the server steps down. -/
def RaftView.meet (v : RaftView) (term : Nat) : RaftView :=
  if v.term < term then { v with term, votedFor := none, role := .follower } else v

@[simp] theorem RaftView.meet_self (v : RaftView) : v.meet v.term = v := by
  simp [meet]

@[simp] theorem RaftView.meet_log (v : RaftView) (term : Nat) : (v.meet term).log = v.log := by
  unfold meet
  split <;> rfl

/-- The votes are more than half of the members. -/
def RaftView.Majority (v : RaftView) (votes : Finset UInt8) : Prop :=
  v.members.card < 2 * (votes ∩ v.members).card

instance (v : RaftView) (votes : Finset UInt8) : Decidable (v.Majority votes) :=
  inferInstanceAs (Decidable (_ < _))

def lastTerm (log : List RaftEntry) : Nat := (log.getLast?.map RaftEntry.term).getD 0

/-- The candidate's log is at least as up to date as the server's. -/
def UpToDate (rv : MsgRequestVote) (log : List RaftEntry) : Prop :=
  lastTerm log < rv.lastLogTerm ∨ lastTerm log = rv.lastLogTerm ∧ log.length ≤ rv.lastLogIdx

instance (rv : MsgRequestVote) (log : List RaftEntry) : Decidable (UpToDate rv log) :=
  inferInstanceAs (Decidable (_ ∨ _))

/-! ### The rules -/

/-- A call of `raft_periodic` starts an election if the timeout passes and otherwise changes nothing
here. A server that is alone leads without an election. -/
def ElectionRule (timesOut : Bool) (v v' : RaftView) : Prop :=
  (timesOut ∧ v.role ≠ .leader ∧ v' = v.candidacy) ∨ (¬timesOut ∧ v' = v) ∨
    (v.members = {v.self} ∧ v' = { v with role := .leader, votes := {v.self} })

def VoteRule (rv : MsgRequestVote) (granted : Prop) (v v' : RaftView) : Prop :=
  (granted ∧ v.term ≤ rv.term ∧
    ((v.meet rv.term).votedFor = none ∨ (v.meet rv.term).votedFor = some rv.candidateId) ∧
    UpToDate rv v.log ∧ v' = { v.meet rv.term with votedFor := some rv.candidateId }) ∨
  (¬granted ∧ v' = v.meet rv.term)

/-- A candidate counts a vote for its own term, and leads with a majority. -/
def CountRule (sender : UInt8) (resp : MsgRequestVoteResponse) (v v' : RaftView) : Prop :=
  v' = if (v.meet resp.term).role = .candidate ∧ resp.term = (v.meet resp.term).term ∧
      resp.voteGranted = raftRequestVoteGranted then
    { v.meet resp.term with
      votes := insert sender v.votes
      role := if v.Majority (insert sender v.votes) then .leader else .candidate }
  else v.meet resp.term

/-- What AppendEntries makes of the log: nothing; or, on a conflict at `prev_log_idx`, the part
before it; or, where `prev_log_idx` matches, the log up to the first entry that is new or in conflict,
followed by the entries from there on, or as many of them as could be stored. -/
def AppendedLog (ae : MsgAppendEntries) (log log' : List RaftEntry) : Prop :=
  log' = log ∨
  (0 < ae.prevLogIdx ∧ (∃ e ∈ log[ae.prevLogIdx - 1]?, e.term ≠ ae.prevLogTerm) ∧
    log' = log.take (ae.prevLogIdx - 1)) ∨
  ((ae.prevLogIdx = 0 ∨ ∃ e ∈ log[ae.prevLogIdx - 1]?, e.term = ae.prevLogTerm) ∧
    ∃ j < ae.entries.length, ae.prevLogIdx + j ≤ log.length ∧
      (∀ i < j, (log[ae.prevLogIdx + i]?).map RaftEntry.term
        = (ae.entries[i]?).map RaftEntry.term) ∧
      (log[ae.prevLogIdx + j]?).map RaftEntry.term ≠ (ae.entries[j]?).map RaftEntry.term ∧
      ∃ stored, log' = log.take (ae.prevLogIdx + j) ++ (ae.entries.drop j).take stored)

def AppendRule (ae : MsgAppendEntries) (v v' : RaftView) : Prop :=
  if ae.term < v.term then v' = v
  else ∃ log', AppendedLog ae v.log log' ∧
    v' = { v.meet ae.term with
      role := if (v.meet ae.term).role = .candidate then .follower else (v.meet ae.term).role
      log := log' }

/-- Only a leader takes an entry, under its own term. -/
def EntryRule (entry : RaftEntry) (v v' : RaftView) : Prop :=
  v' = v ∨ (v.role = .leader ∧ v' = { v with log := v.log ++ [{ entry with term := v.term }] })

/-! Elections and votes leave the log alone, and AppendEntries brings nothing but its entries. -/

theorem ElectionRule.log_eq {timesOut : Bool} {v v' : RaftView} (h : ElectionRule timesOut v v') :
    v'.log = v.log := by
  rcases h with ⟨-, -, rfl⟩ | ⟨-, rfl⟩ | ⟨-, rfl⟩ <;> rfl

theorem VoteRule.log_eq {rv : MsgRequestVote} {granted : Prop} {v v' : RaftView}
    (h : VoteRule rv granted v v') : v'.log = v.log := by
  rcases h with ⟨-, -, -, -, rfl⟩ | ⟨-, rfl⟩
  · exact v.meet_log rv.term
  · exact v.meet_log rv.term

theorem CountRule.log_eq {sender : UInt8} {resp : MsgRequestVoteResponse} {v v' : RaftView}
    (h : CountRule sender resp v v') : v'.log = v.log := by
  rw [h]
  split
  · exact v.meet_log resp.term
  · exact v.meet_log resp.term

theorem AppendedLog.mem {ae : MsgAppendEntries} {log log' : List RaftEntry}
    (h : AppendedLog ae log log') {entry : RaftEntry} (hentry : entry ∈ log') :
    entry ∈ log ∨ entry ∈ ae.entries := by
  rcases h with rfl | ⟨-, -, rfl⟩ | ⟨-, j, -, -, -, -, stored, rfl⟩
  · exact .inl hentry
  · exact .inl (List.mem_of_mem_take hentry)
  · rcases List.mem_append.mp hentry with hold | hnew
    · exact .inl (List.mem_of_mem_take hold)
    · exact .inr (List.mem_of_mem_drop (List.mem_of_mem_take hnew))

theorem AppendRule.mem_log {ae : MsgAppendEntries} {v v' : RaftView} (h : AppendRule ae v v')
    {entry : RaftEntry} (hentry : entry ∈ v'.log) : entry ∈ v.log ∨ entry ∈ ae.entries := by
  unfold AppendRule at h
  split at h
  · exact .inl (h ▸ hentry)
  · obtain ⟨log, hlog, rfl⟩ := h
    exact hlog.mem hentry

/-- What a server may call back: vote requests in its own name, AppendEntries from its own log if it
leads, and the entries of its log at their indices. -/
def RaftView.Allows (v : RaftView) : RaftCall → Prop
  | .sendRequestVote peer msg => peer ≠ v.self ∧ msg.candidateId = nodeIdInt v.self
  | .sendAppendEntries peer msg =>
      v.role = .leader ∧ peer ≠ v.self ∧ msg.prevLogIdx ≤ v.log.length ∧
        msg.entries <+: v.log.drop msg.prevLogIdx
  | .applyLog entry idx => 0 < idx ∧ v.log[idx - 1]? = some entry

structure RaftRules {σ : Type} (lib : RaftLib σ) (view : σ → RaftView) : Prop where
  isLeader : ∀ s, lib.raftIsLeader s = true ↔ (view s).role = .leader
  currentTerm : ∀ s, lib.raftGetCurrentTerm s = (view s).term
  started : ∀ self (members : List UInt8), self ∈ members → members.Nodup →
    view (members.foldl (fun s n => lib.raftAddNode s n (n == self)) lib.raftNew)
      = .started self members.toFinset
  periodic : ∀ s env elapsed,
    ElectionRule (lib.timesOut s env elapsed) (view s) (view (lib.raftPeriodic s env elapsed).raft)
  requestVote : ∀ s env sender rv,
    VoteRule rv ((lib.raftRecvRequestVote s env sender rv).2.voteGranted = raftRequestVoteGranted)
      (view s) (view (lib.raftRecvRequestVote s env sender rv).1.raft)
  requestVoteResponse : ∀ s env sender resp,
    CountRule sender resp (view s) (view (lib.raftRecvRequestVoteResponse s env sender resp).raft)
  appendEntries : ∀ s env sender ae,
    AppendRule ae (view s) (view (lib.raftRecvAppendEntries s env sender ae).1.raft)
  appendEntriesResponse : ∀ s env sender resp,
    view (lib.raftRecvAppendEntriesResponse s env sender resp).raft = (view s).meet resp.term
  entry : ∀ s env entry, EntryRule entry (view s) (view (lib.raftRecvEntry s env entry).raft)
  periodicCalls : ∀ s env elapsed, ∀ call ∈ (lib.raftPeriodic s env elapsed).calls,
    (view (lib.raftPeriodic s env elapsed).raft).Allows call
  requestVoteCalls : ∀ s env sender rv, ∀ call ∈ (lib.raftRecvRequestVote s env sender rv).1.calls,
    (view (lib.raftRecvRequestVote s env sender rv).1.raft).Allows call
  requestVoteResponseCalls : ∀ s env sender resp,
    ∀ call ∈ (lib.raftRecvRequestVoteResponse s env sender resp).calls,
      (view (lib.raftRecvRequestVoteResponse s env sender resp).raft).Allows call
  appendEntriesCalls : ∀ s env sender ae,
    ∀ call ∈ (lib.raftRecvAppendEntries s env sender ae).1.calls,
      (view (lib.raftRecvAppendEntries s env sender ae).1.raft).Allows call
  appendEntriesResponseCalls : ∀ s env sender resp,
    ∀ call ∈ (lib.raftRecvAppendEntriesResponse s env sender resp).calls,
      (view (lib.raftRecvAppendEntriesResponse s env sender resp).raft).Allows call
  entryCalls : ∀ s env entry, ∀ call ∈ (lib.raftRecvEntry s env entry).calls,
    (view (lib.raftRecvEntry s env entry).raft).Allows call ∧ ∀ e idx, call ≠ .applyLog e idx

end L2Oracle
