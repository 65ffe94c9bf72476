import L2Oracle.Raft.Library

/-!
# A server that keeps the rules

A small Raft server, written out as Raft describes it, with every function of the interface. It shows
that the rules can be kept together, and the runs on fixed inputs in later modules are runs of it:
nothing else in the development looks inside.
-/

namespace L2Oracle

structure ReferenceServer where
  view : RaftView
  /-- The members in the order they were added. -/
  peers : List UInt8
  commitIdx : Nat
  lastApplied : Nat
  /-- The length of the log that each peer is known to share. -/
  matchIdx : UInt8 → Nat
  timeoutElapsed : Int

namespace ReferenceServer

def electionTimeout : Int := 1000

def new : ReferenceServer where
  view := .started 0 ∅
  peers := []
  commitIdx := 0
  lastApplied := 0
  matchIdx _ := 0
  timeoutElapsed := 0

def addNode (s : ReferenceServer) (n : UInt8) (isSelf : Bool) : ReferenceServer :=
  { s with
    view := { s.view with
      self := if isSelf then n else s.view.self, members := insert n s.view.members }
    peers := s.peers ++ [n] }

def others (s : ReferenceServer) : List UInt8 := s.peers.filter fun n => n ≠ s.view.self

def requestVotes (s : ReferenceServer) : List RaftCall :=
  s.others.map fun n => .sendRequestVote n
    ⟨s.view.term, nodeIdInt s.view.self, s.view.log.length, lastTerm s.view.log⟩

/-- AppendEntries to every other member, from the end of what it is known to share. -/
def sendEntries (s : ReferenceServer) : List RaftCall :=
  s.others.map fun n =>
    let prev := min (s.matchIdx n) s.view.log.length
    .sendAppendEntries n
      ⟨s.view.term, prev, lastTerm (s.view.log.take prev), s.commitIdx, s.view.log.drop prev⟩

/-- The committed entries that have not been applied. -/
def applyCalls (s : ReferenceServer) : List RaftCall :=
  (List.range (s.commitIdx - s.lastApplied)).filterMap fun i =>
    (s.view.log[s.lastApplied + i]?).map fun e => .applyLog e (s.lastApplied + i + 1)

def alone (s : ReferenceServer) : Bool := s.view.members = {s.view.self}

def timesOut (s : ReferenceServer) (env : Nat) (elapsed : Int) : Bool :=
  !s.alone && s.view.role ≠ .leader && electionTimeout + env ≤ s.timeoutElapsed + elapsed

def periodic (s : ReferenceServer) (env : Nat) (elapsed : Int) : LibResult ReferenceServer :=
  if s.timesOut env elapsed then
    let s := { s with view := s.view.candidacy, timeoutElapsed := 0 }
    ⟨s, 0, s.requestVotes⟩
  else if s.alone ∧ s.view.role ≠ .leader then
    ⟨{ s with view := { s.view with role := .leader, votes := {s.view.self} } }, 0, []⟩
  else
    let sends := if s.view.role = .leader then s.sendEntries else []
    ⟨{ s with lastApplied := max s.lastApplied s.commitIdx
              timeoutElapsed := s.timeoutElapsed + elapsed }, 0, sends ++ s.applyCalls⟩

def recvRequestVote (s : ReferenceServer) (_env : Nat) (_sender : UInt8) (rv : MsgRequestVote) :
    LibResult ReferenceServer × MsgRequestVoteResponse :=
  let w := s.view.meet rv.term
  if s.view.term ≤ rv.term ∧ (w.votedFor = none ∨ w.votedFor = some rv.candidateId) ∧
      UpToDate rv s.view.log then
    (⟨{ s with view := { w with votedFor := some rv.candidateId }, timeoutElapsed := 0 }, 0, []⟩,
      ⟨w.term, raftRequestVoteGranted⟩)
  else (⟨{ s with view := w }, 0, []⟩, ⟨w.term, 0⟩)

def recvRequestVoteResponse (s : ReferenceServer) (_env : Nat) (sender : UInt8)
    (resp : MsgRequestVoteResponse) : LibResult ReferenceServer :=
  let w := s.view.meet resp.term
  if w.role = .candidate ∧ resp.term = w.term ∧ resp.voteGranted = raftRequestVoteGranted then
    let votes := insert sender s.view.votes
    if s.view.Majority votes then
      let s := { s with view := { w with votes, role := .leader }, matchIdx := fun _ => 0 }
      ⟨s, 0, s.sendEntries⟩
    else ⟨{ s with view := { w with votes, role := .candidate } }, 0, []⟩
  else ⟨{ s with view := w }, 0, []⟩

/-- The index of the first entry that is new or in conflict. -/
def firstNew (log : List RaftEntry) (prev : Nat) (entries : List RaftEntry) : Option Nat :=
  (List.range entries.length).find? fun j =>
    (log[prev + j]?).map RaftEntry.term ≠ (entries[j]?).map RaftEntry.term

def mergeEntries (log : List RaftEntry) (prev : Nat) (entries : List RaftEntry) : List RaftEntry :=
  match firstNew log prev entries with
  | none => log
  | some j => log.take (prev + j) ++ entries.drop j

def recvAppendEntries (s : ReferenceServer) (_env : Nat) (_sender : UInt8) (ae : MsgAppendEntries) :
    LibResult ReferenceServer × MsgAppendEntriesResponse :=
  if ae.term < s.view.term then (⟨s, 0, []⟩, ⟨s.view.term, 0, s.view.log.length, 0⟩)
  else
    let w : RaftView := { s.view.meet ae.term with
      role := if (s.view.meet ae.term).role = .candidate then .follower
        else (s.view.meet ae.term).role }
    if ae.prevLogIdx = 0 ∨ (s.view.log[ae.prevLogIdx - 1]?).map RaftEntry.term = some ae.prevLogTerm then
      let log := mergeEntries s.view.log ae.prevLogIdx ae.entries
      (⟨{ s with
          view := { w with log }
          commitIdx := max s.commitIdx (min ae.leaderCommit log.length)
          timeoutElapsed := 0 }, 0, []⟩, ⟨w.term, 1, log.length, ae.prevLogIdx + 1⟩)
    else
      let log := if ae.prevLogIdx ≤ s.view.log.length then s.view.log.take (ae.prevLogIdx - 1)
        else s.view.log
      (⟨{ s with view := { w with log } }, 0, []⟩, ⟨w.term, 0, log.length, 0⟩)

/-- A leader commits what a majority shares, if it is of its own term. -/
def recvAppendEntriesResponse (s : ReferenceServer) (_env : Nat) (sender : UInt8)
    (resp : MsgAppendEntriesResponse) : LibResult ReferenceServer :=
  let s := { s with view := s.view.meet resp.term }
  if s.view.role = .leader ∧ resp.success = 1 then
    let s := { s with matchIdx := Function.update s.matchIdx sender resp.currentIdx }
    let sharers := s.view.members.filter fun n =>
      n = s.view.self ∨ resp.currentIdx ≤ s.matchIdx n
    if s.commitIdx < resp.currentIdx ∧ s.view.Majority sharers ∧
        (s.view.log[resp.currentIdx - 1]?).map RaftEntry.term = some s.view.term then
      ⟨{ s with commitIdx := resp.currentIdx }, 0, []⟩
    else ⟨s, 0, []⟩
  else ⟨s, 0, []⟩

def recvEntry (s : ReferenceServer) (_env : Nat) (entry : RaftEntry) : LibResult ReferenceServer :=
  if s.view.role = .leader then
    let s := { s with view := { s.view with
      log := s.view.log ++ [{ entry with term := s.view.term }] } }
    ⟨s, 0, s.sendEntries⟩
  else ⟨s, -1, []⟩

def lib : RaftLib ReferenceServer where
  raftNew := new
  raftAddNode := addNode
  raftGetNode s n := n ∈ s.peers
  raftIsLeader s := s.view.role = .leader
  raftGetCurrentTerm s := s.view.term
  timesOut := timesOut
  raftPeriodic := periodic
  raftRecvRequestVote := recvRequestVote
  raftRecvRequestVoteResponse := recvRequestVoteResponse
  raftRecvAppendEntries := recvAppendEntries
  raftRecvAppendEntriesResponse := recvAppendEntriesResponse
  raftRecvEntry := recvEntry

/-! ### The rules -/

theorem view_foldl_addNode (self : UInt8) (members : List UInt8) (s : ReferenceServer) :
    (members.foldl (fun s n => addNode s n (n == self)) s).view
      = { s.view with
          self := if self ∈ members then self else s.view.self
          members := s.view.members ∪ members.toFinset } := by
  induction members generalizing s with
  | nil => simp
  | cons n members ih =>
      rw [List.foldl_cons, ih]
      by_cases hself : n = self
      · simp [addNode, hself, Finset.insert_union]
      · by_cases hmem : self ∈ members <;>
          simp [addNode, hself, hmem, Ne.symm hself, Finset.insert_union]

theorem mem_others {s : ReferenceServer} {n : UInt8} (h : n ∈ s.others) : n ≠ s.view.self := by
  simpa using (List.mem_filter.mp h).2

theorem allows_requestVotes (s : ReferenceServer) :
    ∀ call ∈ s.requestVotes, s.view.Allows call := by
  intro call hcall
  obtain ⟨n, hn, rfl⟩ := List.mem_map.mp hcall
  exact ⟨mem_others hn, rfl⟩

theorem allows_sendEntries {s : ReferenceServer} (h : s.view.role = .leader) :
    ∀ call ∈ s.sendEntries, s.view.Allows call ∧ ∀ e idx, call ≠ .applyLog e idx := by
  intro call hcall
  obtain ⟨n, hn, rfl⟩ := List.mem_map.mp hcall
  exact ⟨⟨h, mem_others hn, Nat.min_le_right _ _, List.prefix_refl _⟩, by simp⟩

theorem allows_applyCalls (s : ReferenceServer) : ∀ call ∈ s.applyCalls, s.view.Allows call := by
  intro call hcall
  obtain ⟨i, -, hsome⟩ := List.mem_filterMap.mp hcall
  obtain ⟨e, he, rfl⟩ := Option.map_eq_some_iff.mp hsome
  exact ⟨Nat.succ_pos _, he⟩

theorem appendedLog_mergeEntries {ae : MsgAppendEntries} {log : List RaftEntry}
    (hprev : ae.prevLogIdx = 0 ∨
      (log[ae.prevLogIdx - 1]?).map RaftEntry.term = some ae.prevLogTerm) :
    AppendedLog ae log (mergeEntries log ae.prevLogIdx ae.entries) := by
  unfold mergeEntries
  cases hfirst : firstNew log ae.prevLogIdx ae.entries with
  | none => exact .inl rfl
  | some j =>
      obtain ⟨hnew, hj, hmatch⟩ := List.find?_range_eq_some.mp hfirst
      have hj' : j < ae.entries.length := List.mem_range.mp hj
      have hsame : ∀ i < j, (log[ae.prevLogIdx + i]?).map RaftEntry.term
          = (ae.entries[i]?).map RaftEntry.term := fun i hi => by simpa using hmatch i hi
      have hbound : ae.prevLogIdx + j ≤ log.length := by
        rcases Nat.eq_zero_or_pos j with rfl | hpos
        · rcases hprev with hzero | hterm
          · omega
          · obtain ⟨e, he, -⟩ := Option.map_eq_some_iff.mp hterm
            obtain ⟨hlt, -⟩ := List.getElem?_eq_some_iff.mp he
            omega
        · have hlast := hsame (j - 1) (by omega)
          rw [List.getElem?_eq_getElem (show j - 1 < ae.entries.length by omega),
            Option.map_some] at hlast
          obtain ⟨e, he, -⟩ := Option.map_eq_some_iff.mp hlast
          obtain ⟨hlt, -⟩ := List.getElem?_eq_some_iff.mp he
          omega
      refine .inr (.inr ⟨?_, j, hj', hbound, hsame, by simpa using hnew, ae.entries.length, ?_⟩)
      · refine hprev.imp_right fun hterm => ?_
        exact Option.map_eq_some_iff.mp hterm
      · have hall : (ae.entries.drop j).take ae.entries.length = ae.entries.drop j :=
          List.take_of_length_le (by simp)
        simp only [hall]

theorem appendRule (s : ReferenceServer) (env : Nat) (sender : UInt8) (ae : MsgAppendEntries) :
    AppendRule ae s.view (s.recvAppendEntries env sender ae).1.raft.view := by
  unfold AppendRule recvAppendEntries
  by_cases hterm : ae.term < s.view.term
  · simp [hterm]
  · simp only [if_neg hterm]
    by_cases hprev : ae.prevLogIdx = 0 ∨
        (s.view.log[ae.prevLogIdx - 1]?).map RaftEntry.term = some ae.prevLogTerm
    · simp only [if_pos hprev]
      exact ⟨_, appendedLog_mergeEntries hprev, rfl⟩
    · simp only [if_neg hprev]
      refine ⟨_, ?_, rfl⟩
      obtain ⟨hpos, hconflict⟩ := not_or.mp hprev
      split
      · rename_i hlen
        have hlt : ae.prevLogIdx - 1 < s.view.log.length := by omega
        refine .inr (.inl ⟨Nat.pos_of_ne_zero hpos, ⟨_, List.getElem?_eq_getElem hlt, ?_⟩, rfl⟩)
        simpa [List.getElem?_eq_getElem hlt] using hconflict
      · exact .inl rfl

theorem electionRule (s : ReferenceServer) (env : Nat) (elapsed : Int) :
    ElectionRule (s.timesOut env elapsed) s.view (s.periodic env elapsed).raft.view := by
  unfold periodic
  by_cases htimes : s.timesOut env elapsed = true
  · have hrole : s.view.role ≠ .leader := by
      simp only [timesOut, Bool.and_eq_true, decide_eq_true_eq] at htimes
      exact htimes.1.2
    rw [if_pos htimes]
    exact .inl ⟨htimes, hrole, rfl⟩
  · rw [if_neg htimes]
    split
    · rename_i halone
      exact .inr (.inr ⟨by simpa [alone] using halone.1, rfl⟩)
    · exact .inr (.inl ⟨htimes, rfl⟩)

theorem voteRule (s : ReferenceServer) (env : Nat) (sender : UInt8) (rv : MsgRequestVote) :
    VoteRule rv ((s.recvRequestVote env sender rv).2.voteGranted = raftRequestVoteGranted) s.view
      (s.recvRequestVote env sender rv).1.raft.view := by
  unfold recvRequestVote
  dsimp only
  split
  · rename_i hgrant
    exact .inl ⟨rfl, hgrant.1, hgrant.2.1, hgrant.2.2, rfl⟩
  · exact .inr ⟨show (0 : Int32) ≠ 1 by decide, rfl⟩

theorem countRule (s : ReferenceServer) (env : Nat) (sender : UInt8)
    (resp : MsgRequestVoteResponse) :
    CountRule sender resp s.view (s.recvRequestVoteResponse env sender resp).raft.view := by
  unfold CountRule recvRequestVoteResponse
  dsimp only
  split
  · split <;> simp
  · rfl

theorem view_recvAppendEntriesResponse (s : ReferenceServer) (env : Nat) (sender : UInt8)
    (resp : MsgAppendEntriesResponse) :
    (s.recvAppendEntriesResponse env sender resp).raft.view = s.view.meet resp.term := by
  unfold recvAppendEntriesResponse
  dsimp only
  split
  · split <;> rfl
  · rfl

theorem entryRule (s : ReferenceServer) (env : Nat) (entry : RaftEntry) :
    EntryRule entry s.view (s.recvEntry env entry).raft.view := by
  unfold recvEntry
  split
  · rename_i hleader
    exact .inr ⟨hleader, rfl⟩
  · exact .inl rfl

theorem allows_periodic (s : ReferenceServer) (env : Nat) (elapsed : Int) :
    ∀ call ∈ (s.periodic env elapsed).calls, (s.periodic env elapsed).raft.view.Allows call := by
  unfold periodic
  split
  · exact allows_requestVotes _
  · split
    · exact List.forall_mem_nil _
    · intro call hcall
      rcases List.mem_append.mp hcall with hsend | happly
      · split at hsend
        · rename_i hleader
          exact (allows_sendEntries hleader call hsend).1
        · cases hsend
      · exact allows_applyCalls s call happly

theorem allows_recvRequestVoteResponse (s : ReferenceServer) (env : Nat) (sender : UInt8)
    (resp : MsgRequestVoteResponse) :
    ∀ call ∈ (s.recvRequestVoteResponse env sender resp).calls,
      (s.recvRequestVoteResponse env sender resp).raft.view.Allows call := by
  unfold recvRequestVoteResponse
  dsimp only
  split
  · split
    · exact fun call hcall => (allows_sendEntries rfl call hcall).1
    · exact List.forall_mem_nil _
  · exact List.forall_mem_nil _

theorem allows_recvEntry (s : ReferenceServer) (env : Nat) (entry : RaftEntry) :
    ∀ call ∈ (s.recvEntry env entry).calls,
      (s.recvEntry env entry).raft.view.Allows call ∧ ∀ e idx, call ≠ .applyLog e idx := by
  unfold recvEntry
  split
  · rename_i hleader
    exact allows_sendEntries hleader
  · exact List.forall_mem_nil _

/-! The other functions call nothing back. -/

theorem calls_recvRequestVote (s : ReferenceServer) (env : Nat) (sender : UInt8)
    (rv : MsgRequestVote) : (s.recvRequestVote env sender rv).1.calls = [] := by
  unfold recvRequestVote
  dsimp only
  split <;> rfl

theorem calls_recvAppendEntries (s : ReferenceServer) (env : Nat) (sender : UInt8)
    (ae : MsgAppendEntries) : (s.recvAppendEntries env sender ae).1.calls = [] := by
  unfold recvAppendEntries
  dsimp only
  split
  · rfl
  · split <;> rfl

theorem calls_recvAppendEntriesResponse (s : ReferenceServer) (env : Nat) (sender : UInt8)
    (resp : MsgAppendEntriesResponse) :
    (s.recvAppendEntriesResponse env sender resp).calls = [] := by
  unfold recvAppendEntriesResponse
  dsimp only
  split
  · split <;> rfl
  · rfl

theorem rules : RaftRules lib view where
  isLeader s := by simp [lib]
  currentTerm _ := rfl
  started self members hself _ := by
    show (members.foldl (fun s n => addNode s n (n == self)) new).view = _
    rw [view_foldl_addNode, if_pos hself]
    simp [new, RaftView.started]
  periodic := electionRule
  requestVote := voteRule
  requestVoteResponse := countRule
  appendEntries := appendRule
  appendEntriesResponse := view_recvAppendEntriesResponse
  entry := entryRule
  periodicCalls := allows_periodic
  requestVoteCalls s env sender rv call hcall := by
    rw [show (lib.raftRecvRequestVote s env sender rv).1.calls = [] from
      calls_recvRequestVote s env sender rv] at hcall
    cases hcall
  requestVoteResponseCalls := allows_recvRequestVoteResponse
  appendEntriesCalls s env sender ae call hcall := by
    rw [show (lib.raftRecvAppendEntries s env sender ae).1.calls = [] from
      calls_recvAppendEntries s env sender ae] at hcall
    cases hcall
  appendEntriesResponseCalls s env sender resp call hcall := by
    rw [show (lib.raftRecvAppendEntriesResponse s env sender resp).calls = [] from
      calls_recvAppendEntriesResponse s env sender resp] at hcall
    cases hcall
  entryCalls := allows_recvEntry

end ReferenceServer

end L2Oracle
