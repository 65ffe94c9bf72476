import L2Oracle.Raft.Cluster
import L2Oracle.Raft.Dispatch

/-!
# The protocol that the cluster runs

`Move` is the protocol without bytes, monitors and callbacks: what one event can do to the Raft server
of the node it happens at, given the packet that is delivered there. `NodeCall.move` says that every
call on a node is such a move, and that all it sends and applies comes from the server that the move
leaves; so is every event of the cluster (`run_move`). It holds for every library that keeps the rules. The term of a request is nowhere in a move,
because no payload carries one.
-/

namespace L2Oracle

open Base

/-! ### What packets say -/

/-- The candidate that a vote request names. -/
def Packet.candidate (p : Packet) : Int32 :=
  (PayloadRequestVote.read (buffer p.frame.payload fun _ => 0)).candidateId.toInt32

def Packet.IsRequest (p : Packet) : Prop :=
  p.frame.ethertype = ethertypeRaft ∧ p.frame.msgType = .requestVote

/-- A response that grants a vote. -/
def Packet.Grants (p : Packet) : Prop :=
  p.frame.ethertype = ethertypeRaft ∧ p.frame.msgType = .requestVoteResp ∧
    (PayloadRequestVoteResp.read (buffer p.frame.payload fun _ => 0)).voteGranted.toInt32
      = raftRequestVoteGranted

instance (p : Packet) : Decidable p.Grants := inferInstanceAs (Decidable (_ ∧ _ ∧ _))

def Packet.IsAppend (p : Packet) : Prop :=
  p.frame.ethertype = ethertypeRaft ∧ p.frame.msgType = .appendEntries ∧
    PayloadAppendEntries.size ≤ p.frame.payload.length

/-- The AppendEntries that a node of the given term reads from the packet. -/
def Packet.appendEntries (p : Packet) (term : Nat) : MsgAppendEntries :=
  dispatchedAppendEntries term (buffer p.frame.payload fun _ => 0) p.frame.payload.length

/-! ### Moves -/

/-- An entry that the oracle proposes in the given term. -/
def Proposed (term : Nat) (entry : RaftEntry) : Prop :=
  entry.term = term ∧ entry.type = raftLogtypeNormal ∧
    ∃ ht : PayloadHealthUpdate, entry.data = ht.bytes

/-- What an event can do to the server of node `n`, with the packet that is delivered to it, if any. -/
inductive Move (input : Option Packet) (timesOut : Prop) (n : UInt8) (v : RaftView) : RaftView → Prop
  | stay : Move input timesOut n v v
  | elect : timesOut → v.role ≠ .leader → Move input timesOut n v v.candidacy
  /-- A server that has no peers leads. -/
  | alone : v.members = {v.self} →
      Move input timesOut n v { v with role := .leader, votes := {v.self} }
  | grant (p : Packet) : p ∈ input → p.IsRequest → p.frame.dstNode = n →
      (v.votedFor = none ∨ v.votedFor = some p.candidate) →
      Move input timesOut n v { v with votedFor := some p.candidate }
  | count (p : Packet) : p ∈ input → p.Grants → p.frame.dstNode = n → v.role = .candidate →
      Move input timesOut n v { v with
        votes := insert p.src v.votes
        role := if v.Majority (insert p.src v.votes) then .leader else .candidate }
  | append (p : Packet) (log : List RaftEntry) : p ∈ input → p.IsAppend → p.frame.dstNode = n →
      AppendedLog (p.appendEntries v.term) v.log log →
      Move input timesOut n v { v with
        role := if v.role = .candidate then .follower else v.role, log }
  | propose (entries : List RaftEntry) : v.role = .leader → (∀ e ∈ entries, Proposed v.term e) →
      Move input timesOut n v { v with log := v.log ++ entries }

/-- A frame that a server sends: a vote request in its own name, a granted vote that is its vote and
answers a request, AppendEntries from its own log, or nothing of these. -/
def SentBy (input : Option Packet) (n : UInt8) (v : RaftView) (f : Frame) : Prop :=
  f.ethertype = ethertypeRaft →
    match f.msgType with
    | .requestVote => ∃ msg, f = cbSendRequestvote f.dstNode msg ∧
        v.Allows (.sendRequestVote f.dstNode msg)
    | .requestVoteResp => (⟨n, f⟩ : Packet).Grants → ∃ p ∈ input, p.IsRequest ∧
        p.frame.dstNode = n ∧ p.src = f.dstNode ∧ v.votedFor = some p.candidate
    | .appendEntries => ∃ msg, f = cbSendAppendentries f.dstNode msg ∧
        v.Allows (.sendAppendEntries f.dstNode msg)
    | _ => True

/-- The effect of an event that leaves the server `v`. -/
structure EffectOf {σ : Type} (view : σ → RaftView) (input : Option Packet) (n : UInt8) (v : RaftView)
    (e : Effect σ) : Prop where
  raft : view e.node.raft = v
  sent : ∀ f ∈ e.sent, SentBy input n v f
  applied : ∀ x ∈ e.applied, 0 < x.1 ∧ v.log[x.1 - 1]? = some x.2

/-- What a node does is a move of its server, with an effect of the server that the move leaves. -/
def MovesTo {σ : Type} (view : σ → RaftView) (input : Option Packet) (timesOut : Prop) (n : UInt8)
    (v : RaftView) (e : Effect σ) : Prop :=
  ∃ v', Move input timesOut n v v' ∧ EffectOf view input n v' e

/-! ### The library behind the callbacks -/

section
variable {σ : Type}

theorem cbApplylog_ethertype (health : Option HealthMonitor) (entry : RaftEntry) :
    ∀ f ∈ (cbApplylog health entry).2, f.ethertype = ethertypeHealth := by
  intro f hf
  unfold cbApplylog at hf
  split at hf
  · cases health with
    | none => cases hf
    | some hm =>
        simp only [healthTableApply_eq] at hf
        split at hf
        · rw [List.mem_singleton.mp hf]
          rfl
        · cases hf
  · cases hf

theorem effectOf_none {view : σ → RaftView} (input : Option Packet) (n : UInt8) (o : OracleNode σ) :
    EffectOf view input n (view o.raft) ⟨o, [], []⟩ where
  raft := rfl
  sent _ hf := by cases hf
  applied _ hx := by cases hx

theorem EffectOf.snoc {view : σ → RaftView} {input : Option Packet} {n : UInt8} {v : RaftView}
    {e : Effect σ} (h : EffectOf view input n v e) {f : Frame} (hf : SentBy input n v f) :
    EffectOf view input n v { e with sent := e.sent ++ [f] } where
  raft := h.raft
  sent g hg := by
    rcases List.mem_append.mp hg with hold | hnew
    · exact h.sent g hold
    · rw [List.mem_singleton.mp hnew]
      exact hf
  applied := h.applied

theorem EffectOf.callback {view : σ → RaftView} {input : Option Packet} {n : UInt8} {v : RaftView}
    {e : Effect σ} (h : EffectOf view input n v e) {call : RaftCall} (hcall : v.Allows call) :
    EffectOf view input n v (runCallback e call) := by
  cases call with
  | sendRequestVote peer msg => exact h.snoc fun _ => ⟨msg, rfl, hcall⟩
  | sendAppendEntries peer msg => exact h.snoc fun _ => ⟨msg, rfl, hcall⟩
  | applyLog entry idx =>
      refine ⟨h.raft, fun f hf => ?_, fun x hx => ?_⟩
      · rcases List.mem_append.mp hf with hold | hnew
        · exact h.sent f hold
        · intro hraft
          exact absurd ((cbApplylog_ethertype _ _ f hnew).symm.trans hraft) (by decide)
      · rcases List.mem_append.mp hx with hold | hnew
        · exact h.applied x hold
        · rw [List.mem_singleton.mp hnew]
          exact hcall

/-- A call of the library whose callbacks its server allows has an effect of that server. -/
theorem effectOf_runLibrary {view : σ → RaftView} (input : Option Packet) (n : UInt8)
    (o : OracleNode σ) {r : LibResult σ} (hcalls : ∀ call ∈ r.calls, (view r.raft).Allows call) :
    EffectOf view input n (view r.raft) (runLibrary o r) :=
  List.foldlRecOn r.calls runCallback (effectOf_none input n { o with raft := r.raft })
    fun _ he call hcall => he.callback (hcalls call hcall)

/-! ### Dispatch -/

variable {lib : RaftLib σ} {view : σ → RaftView}

section
variable (rules : RaftRules lib view) (o : OracleNode σ) {input : Option Packet} {p : Packet}
  (hp : p ∈ input) (hraft : p.frame.ethertype = ethertypeRaft)
  (beyond : Nat → UInt8) (env now : Nat)

include rules hp hraft

theorem requestVote_move (htype : p.frame.msgType = .requestVote)
    (hlen : PayloadRequestVote.size ≤ p.frame.payload.length) :
    MovesTo view input False p.frame.dstNode (view o.raft)
      (handRequestVote lib o env p.src (dispatchedRequestVote (lib.raftGetCurrentTerm o.raft)
        (buffer p.frame.payload beyond))).1 := by
  have hcandidate : (PayloadRequestVote.read (buffer p.frame.payload beyond)).candidateId.toInt32
      = p.candidate := by
    rw [PayloadRequestVote.read_congr (agreeTo_buffer hlen beyond fun _ => 0), Packet.candidate]
  rw [dispatchedRequestVote, hcandidate, rules.currentTerm]
  set rv : MsgRequestVote := ⟨(view o.raft).term, p.candidate, _, _⟩
  have hterm : rv.term = (view o.raft).term := rfl
  have heffect := effectOf_runLibrary input p.frame.dstNode o
    (rules.requestVoteCalls o.raft env p.src rv)
  rcases rules.requestVote o.raft env p.src rv with ⟨hgranted, -, hfree, -, hview⟩ | ⟨hdenied, hview⟩
  · simp only [hterm, RaftView.meet_self] at hfree hview
    refine ⟨_, .grant p hp ⟨hraft, htype⟩ rfl hfree, ?_⟩
    rw [hview] at heffect
    refine heffect.snoc fun _ _ => ⟨p, hp, ⟨hraft, htype⟩, rfl, rfl, rfl⟩
  · simp only [hterm, RaftView.meet_self] at hview
    refine ⟨_, .stay, ?_⟩
    rw [hview] at heffect
    refine heffect.snoc fun _ hgrants => ?_
    have hread := hgrants.2.2
    simp only [PayloadRequestVoteResp.read_bytes] at hread
    exact absurd (by simpa using hread) hdenied

theorem requestVoteResp_move (htype : p.frame.msgType = .requestVoteResp)
    (hlen : PayloadRequestVoteResp.size ≤ p.frame.payload.length) :
    MovesTo view input False p.frame.dstNode (view o.raft)
      (handVote lib o env p.src (dispatchedVote (lib.raftGetCurrentTerm o.raft)
        (buffer p.frame.payload beyond))).1 := by
  rw [dispatchedVote_congr _ (agreeTo_buffer hlen beyond fun _ => 0), rules.currentTerm]
  set resp := dispatchedVote (view o.raft).term (buffer p.frame.payload fun _ => 0)
  have heffect := effectOf_runLibrary input p.frame.dstNode o
    (rules.requestVoteResponseCalls o.raft env p.src resp)
  have hview := rules.requestVoteResponse o.raft env p.src resp
  have hterm : resp.term = (view o.raft).term := rfl
  simp only [CountRule, hterm, RaftView.meet_self, true_and] at hview
  rw [hview] at heffect
  split at heffect
  · rename_i hcounts
    exact ⟨_, .count p hp ⟨hraft, htype, hcounts.2⟩ rfl hcounts.1, heffect⟩
  · exact ⟨_, .stay, heffect⟩

theorem appendEntries_move (htype : p.frame.msgType = .appendEntries)
    (hlen : PayloadAppendEntries.size ≤ p.frame.payload.length) :
    MovesTo view input False p.frame.dstNode (view o.raft)
      (handAppendEntries lib o env p.src (dispatchedAppendEntries (lib.raftGetCurrentTerm o.raft)
        (buffer p.frame.payload beyond) p.frame.payload.length)).1 := by
  rw [rules.currentTerm,
    dispatchedAppendEntries_congr _ hlen (agreeTo_buffer le_rfl beyond fun _ => 0)]
  have heffect := effectOf_runLibrary input p.frame.dstNode o
    (rules.appendEntriesCalls o.raft env p.src (p.appendEntries (view o.raft).term))
  have hview := rules.appendEntries o.raft env p.src (p.appendEntries (view o.raft).term)
  have hterm : (p.appendEntries (view o.raft).term).term = (view o.raft).term := rfl
  simp only [AppendRule, hterm, lt_irrefl, if_false, RaftView.meet_self] at hview
  obtain ⟨log, hlog, hview⟩ := hview
  rw [hview] at heffect
  exact ⟨_, .append p log hp ⟨hraft, htype, hlen⟩ rfl hlog, heffect.snoc fun _ => trivial⟩

omit hp hraft in
theorem appendEntriesResp_move (health : Option HealthMonitor) :
    MovesTo view input False p.frame.dstNode (view o.raft)
      (handResponse lib o env p.src health (dispatchedResponse (lib.raftGetCurrentTerm o.raft)
        (buffer p.frame.payload beyond))).1 := by
  rw [rules.currentTerm]
  set resp := dispatchedResponse (view o.raft).term (buffer p.frame.payload beyond)
  have hview := rules.appendEntriesResponse o.raft env p.src resp
  have hterm : resp.term = (view o.raft).term := rfl
  rw [hterm, RaftView.meet_self] at hview
  have heffect := effectOf_runLibrary input p.frame.dstNode { o with health }
    (rules.appendEntriesResponseCalls o.raft env p.src resp)
  rw [hview] at heffect
  exact ⟨_, .stay, heffect⟩

theorem dispatch_move :
    MovesTo view input False p.frame.dstNode (view o.raft)
      (oracleDispatchRaftMessage lib o env p.src p.frame.msgType (buffer p.frame.payload beyond)
        p.frame.payload.length now).1 := by
  have hcases := dispatched lib o env p.src p.frame.msgType (buffer p.frame.payload beyond)
    p.frame.payload.length now
  generalize htype : p.frame.msgType = msgType at hcases ⊢
  generalize oracleDispatchRaftMessage lib o env p.src msgType (buffer p.frame.payload beyond)
    p.frame.payload.length now = d at hcases ⊢
  cases hcases with
  | dropped => exact ⟨_, .stay, effectOf_none input _ o⟩
  | requestVote hlen => exact requestVote_move rules o hp hraft beyond env htype hlen
  | requestVoteResp hlen => exact requestVoteResp_move rules o hp hraft beyond env htype hlen
  | appendEntries hlen => exact appendEntries_move rules o hp hraft beyond env htype hlen
  | appendEntriesResp => exact appendEntriesResp_move rules o beyond env _

end

/-! ### Proposals -/

theorem RaftView.Allows.append {v : RaftView} {call : RaftCall} (h : v.Allows call)
    (entries : List RaftEntry) : RaftView.Allows { v with log := v.log ++ entries } call := by
  cases call with
  | sendRequestVote peer msg => exact h
  | sendAppendEntries peer msg =>
      obtain ⟨hrole, hpeer, hprev, hprefix⟩ := h
      refine ⟨hrole, hpeer, ?_, ?_⟩
      · simp only [List.length_append]
        omega
      · simp only [List.drop_append_of_le_length hprev]
        exact hprefix.trans (List.prefix_append _ _)
  | applyLog entry idx =>
      obtain ⟨hpos, hentry⟩ := h
      obtain ⟨hlt, -⟩ := List.getElem?_eq_some_iff.mp hentry
      exact ⟨hpos, by rwa [List.getElem?_append_left hlt]⟩

/-- What a server has sent it may have sent with a longer log. -/
theorem SentBy.append {input : Option Packet} {n : UInt8} {v : RaftView} {f : Frame}
    (h : SentBy input n v f) (entries : List RaftEntry) :
    SentBy input n { v with log := v.log ++ entries } f := by
  intro hraft
  have hsent := h hraft
  cases htype : f.msgType with
  | requestVote =>
      simp only [htype] at hsent ⊢
      obtain ⟨msg, hf, hallows⟩ := hsent
      exact ⟨msg, hf, hallows.append entries⟩
  | appendEntries =>
      simp only [htype] at hsent ⊢
      obtain ⟨msg, hf, hallows⟩ := hsent
      exact ⟨msg, hf, hallows.append entries⟩
  | requestVoteResp =>
      simp only [htype] at hsent ⊢
      exact hsent
  | appendEntriesResp | healthUpdate | clusterState | failureEvent | nodeHeartbeat | nodeAnnounce
  | nodeAnnounceAck | other => trivial

/-- One proposal adds at most one entry, on a leader. -/
theorem propose_effect (rules : RaftRules lib view) (input : Option Packet) (n : UInt8)
    (o : OracleNode σ) (env : Nat) (targetNode targetBox oldStatus newStatus : UInt8) (now : Nat) :
    ∃ entries, (entries ≠ [] → (view o.raft).role = .leader) ∧
      (∀ e ∈ entries, Proposed (view o.raft).term e) ∧
      EffectOf view input n { view o.raft with log := (view o.raft).log ++ entries }
        (oracleProposeHealthTransition lib o env targetNode targetBox oldStatus newStatus now).1 := by
  rw [oracleProposeHealthTransition]
  split
  · set entry := proposedEntry lib o targetNode targetBox oldStatus newStatus now
    have heffect := effectOf_runLibrary input n { o with nextEntryId := o.nextEntryId + 1 }
      fun call hcall => (rules.entryCalls o.raft env entry call hcall).1
    rcases rules.entry o.raft env entry with hview | ⟨hrole, hview⟩
    · rw [hview] at heffect
      refine ⟨[], fun h => absurd rfl h, List.forall_mem_nil _, ?_⟩
      rw [List.append_nil]
      exact heffect
    · rw [hview] at heffect
      refine ⟨_, fun _ => hrole, fun e he => ?_, heffect⟩
      rw [List.mem_singleton.mp he]
      exact ⟨rfl, rfl, _, rfl⟩
  · refine ⟨[], fun h => absurd rfl h, List.forall_mem_nil _, ?_⟩
    rw [List.append_nil]
    exact effectOf_none input n o

/-- Proposals of the monitor, one after another, add entries to the log of a leader and nothing
else. -/
theorem submitAll_effect (rules : RaftRules lib view) {input : Option Packet} {n : UInt8}
    (env now : Nat) (ps : List Proposal) {v : RaftView} {e : Effect σ}
    (he : EffectOf view input n v e) :
    ∃ entries, (entries ≠ [] → v.role = .leader) ∧ (∀ x ∈ entries, Proposed v.term x) ∧
      EffectOf view input n { v with log := v.log ++ entries }
        ((oracleApi lib env now).submitAll e ps) := by
  induction ps generalizing v e with
  | nil =>
      refine ⟨[], fun h => absurd rfl h, List.forall_mem_nil _, ?_⟩
      rw [List.append_nil]
      exact he
  | cons q ps ih =>
      obtain ⟨first, hleader, hproposed, hfirst⟩ := propose_effect rules input n e.node env
        q.targetNode q.targetBox q.oldStatus q.newStatus now
      rw [he.raft] at hleader hproposed hfirst
      have hnext : EffectOf view input n { v with log := v.log ++ first }
          ((oracleApi lib env now).submit e q) := {
        raft := hfirst.raft
        sent := fun f hf => by
          rcases List.mem_append.mp hf with hold | hnew
          · exact (he.sent f hold).append first
          · exact hfirst.sent f hnew
        applied := fun x hx => by
          rcases List.mem_append.mp hx with hold | hnew
          · obtain ⟨hpos, hentry⟩ := he.applied x hold
            obtain ⟨hlt, -⟩ := List.getElem?_eq_some_iff.mp hentry
            exact ⟨hpos, by rwa [List.getElem?_append_left hlt]⟩
          · exact hfirst.applied x hnew }
      obtain ⟨rest, hleader', hproposed', hrest⟩ := ih hnext
      refine ⟨first ++ rest, fun hne => ?_, fun x hx => ?_, ?_⟩
      · by_cases hfirst : first = []
        · exact hleader' (by simpa [hfirst] using hne)
        · exact hleader hfirst
      · rcases List.mem_append.mp hx with hx | hx
        · exact hproposed x hx
        · exact hproposed' x hx
      · rw [← List.append_assoc]
        exact hrest

theorem oracleApi_keepsLeadership (rules : RaftRules lib view) (env now : Nat) :
    (oracleApi lib env now).KeepsLeadership := by
  intro e q
  obtain ⟨entries, -, -, heffect⟩ := propose_effect rules none e.node.nodeId e.node env q.targetNode
    q.targetBox q.oldStatus q.newStatus now
  have hview : view ((oracleApi lib env now).submit e q).node.raft
      = { view e.node.raft with log := (view e.node.raft).log ++ entries } := heffect.raft
  show lib.raftIsLeader ((oracleApi lib env now).submit e q).node.raft = lib.raftIsLeader e.node.raft
  rw [Bool.eq_iff_iff, rules.isLeader, rules.isLeader, hview]

/-! ### Every call is a move -/

/-- The packet that a call on node `n` dispatches. -/
def NodeCall.input (n : UInt8) : NodeCall → Option Packet
  | .dispatch srcNode msgType payload .. => some ⟨srcNode, ⟨n, ethertypeRaft, msgType, payload⟩⟩
  | _ => none

def NodeCall.TimesOut (lib : RaftLib σ) (o : OracleNode σ) : NodeCall → Prop
  | .oracleTick env elapsedMs => lib.timesOut o.raft env elapsedMs
  | _ => False

instance (lib : RaftLib σ) (o : OracleNode σ) : ∀ x : NodeCall, Decidable (x.TimesOut lib o)
  | .oracleTick .. => inferInstanceAs (Decidable (_ = true))
  | .startHealth | .dispatch .. | .announce .. | .heartbeat .. | .tick .. | .propose .. =>
      inferInstanceAs (Decidable False)

theorem Move.mono {input : Option Packet} {timesOut timesOut' : Prop} {n : UInt8} {v v' : RaftView}
    (h : Move input timesOut n v v') (himp : timesOut → timesOut') : Move input timesOut' n v v' := by
  cases h with
  | stay => exact .stay
  | elect htimes hrole => exact .elect (himp htimes) hrole
  | alone hmembers => exact .alone hmembers
  | grant p hp hrequest hdst hfree => exact .grant p hp hrequest hdst hfree
  | count p hp hgrants hdst hrole => exact .count p hp hgrants hdst hrole
  | append p log hp happend hdst hlog => exact .append p log hp happend hdst hlog
  | propose entries hrole hproposed => exact .propose entries hrole hproposed

theorem move_of_entries {input : Option Packet} {timesOut : Prop} {n : UInt8} {v : RaftView}
    {entries : List RaftEntry} (hleader : entries ≠ [] → v.role = .leader)
    (hproposed : ∀ e ∈ entries, Proposed v.term e) :
    Move input timesOut n v { v with log := v.log ++ entries } := by
  by_cases hnil : entries = []
  · rw [hnil, List.append_nil]
    exact .stay
  · exact .propose entries (hleader hnil) hproposed

/-- A tick hands proposals to the oracle and nothing else, whatever the oracle. -/
theorem tickSlots_submits {ω : Type} (api : OracleApi ω) (hm : HealthMonitor) (nowMs : UInt32)
    (beyond : Nat → UInt8) (slots : List Slot) (o : ω) :
    ∃ ps, (tickSlots api hm nowMs beyond slots o).2 = api.submitAll o ps := by
  have hpropose : ∀ (s : Slot) (newStatus : UInt8) (o : ω),
      ∃ ps, (proposeTransition api o s newStatus).2 = api.submitAll o ps := by
    intro s newStatus o
    by_cases hsame : s.entry.status = newStatus
    · exact ⟨[], by rw [proposeTransition, if_pos hsame]; rfl⟩
    · exact ⟨[s.propose newStatus], by rw [proposeTransition_eq api o s hsame]; rfl⟩
  have hslot : ∀ (s : Slot) (o : ω),
      ∃ ps, (tickSlot api hm nowMs beyond o s).2 = api.submitAll o ps := by
    intro s o
    unfold tickSlot
    dsimp only
    split_ifs
    all_goals first
      | exact hpropose _ _ o
      | exact ⟨[], rfl⟩
  induction slots generalizing o with
  | nil => exact ⟨[], rfl⟩
  | cons s slots ih =>
      obtain ⟨ps, hps⟩ := hslot s o
      obtain ⟨qs, hqs⟩ := ih (tickSlot api hm nowMs beyond o s).2
      refine ⟨ps ++ qs, ?_⟩
      rw [tickSlots]
      dsimp only
      rw [hqs, hps, OracleApi.submitAll, OracleApi.submitAll, OracleApi.submitAll, List.foldl_append]

theorem healthMonitorTick_submits {ω : Type} (api : OracleApi ω) (hm : HealthMonitor) (o : ω)
    (nowMs : UInt32) (beyond : Nat → UInt8) :
    ∃ ps, (healthMonitorTick api hm o nowMs beyond).2 = api.submitAll o ps := by
  unfold healthMonitorTick
  dsimp only
  split_ifs
  · exact ⟨[], rfl⟩
  · exact ⟨[], rfl⟩
  · exact tickSlots_submits api _ nowMs beyond hm.slots o

theorem healthMonitorProcessHeartbeat_submits {ω : Type} (api : OracleApi ω) (hm : HealthMonitor)
    (o : ω) (srcNode : UInt8) (hb : PayloadNodeHeartbeat) (nowMs : UInt32) :
    ∃ ps, (healthMonitorProcessHeartbeat api hm o srcNode hb nowMs).2 = api.submitAll o ps := by
  rw [healthMonitorProcessHeartbeat_eq]
  exact ⟨_, rfl⟩

/-- A function of the monitor that submits proposals is a move of proposals. -/
theorem withMonitor_move (rules : RaftRules lib view) (input : Option Packet) (timesOut : Prop)
    (n : UInt8) (o : OracleNode σ) (env now : Nat)
    {f : HealthMonitor → Effect σ → HealthMonitor × Effect σ}
    (hf : ∀ hm e, ∃ ps, (f hm e).2 = (oracleApi lib env now).submitAll e ps) :
    MovesTo view input timesOut n (view o.raft) (withMonitor o f) := by
  rw [withMonitor]
  cases o.health with
  | none => exact ⟨_, .stay, effectOf_none input n o⟩
  | some hm =>
      obtain ⟨ps, hps⟩ := hf hm ⟨o, [], []⟩
      obtain ⟨entries, hleader, hproposed, heffect⟩ :=
        submitAll_effect rules env now ps (effectOf_none input n o)
      rw [← hps] at heffect
      exact ⟨_, move_of_entries hleader hproposed,
        ⟨heffect.raft, heffect.sent, heffect.applied⟩⟩

theorem NodeCall.move (rules : RaftRules lib view) (n : UInt8) (o : OracleNode σ) (x : NodeCall) :
    MovesTo view (x.input n) (x.TimesOut lib o) n (view o.raft) (x.run lib o) := by
  cases x with
  | startHealth => exact ⟨_, .stay, ⟨rfl, List.forall_mem_nil _, List.forall_mem_nil _⟩⟩
  | oracleTick env elapsedMs =>
      have heffect := effectOf_runLibrary none n o (rules.periodicCalls o.raft env elapsedMs)
      rcases rules.periodic o.raft env elapsedMs with ⟨htimes, hrole, hview⟩ | ⟨-, hview⟩ |
        ⟨halone, hview⟩
      · exact ⟨_, .elect htimes hrole, hview ▸ heffect⟩
      · exact ⟨_, .stay, hview ▸ heffect⟩
      · exact ⟨_, .alone halone, hview ▸ heffect⟩
  | dispatch srcNode msgType payload beyond env now =>
      obtain ⟨v, hmove, heffect⟩ := dispatch_move rules o
        (Option.mem_some_self ⟨srcNode, ⟨n, ethertypeRaft, msgType, payload⟩⟩) rfl beyond env now
      exact ⟨v, hmove.mono False.elim, heffect⟩
  | announce srcNode ann sample =>
      refine ⟨_, .stay, ?_⟩
      rw [NodeCall.run, withMonitor]
      cases o.health with
      | none => exact effectOf_none none n o
      | some hm =>
          refine ⟨rfl, fun f hf hraft => ?_, List.forall_mem_nil _⟩
          simp only [List.nil_append, healthMonitorProcessAnnounce_eq] at hf
          split at hf
          · rw [List.mem_singleton.mp hf] at hraft
            exact absurd hraft (show ethertypeHeartbeat ≠ ethertypeRaft by decide)
          · cases hf
  | heartbeat srcNode hb sample env now =>
      refine withMonitor_move (f := fun hm e => healthMonitorProcessHeartbeat (oracleApi lib env now)
        hm e srcNode hb (UInt32.ofNat sample)) rules _ _ n o env now fun hm e => ?_
      exact healthMonitorProcessHeartbeat_submits _ hm e srcNode hb _
  | tick beyond sample env now =>
      refine withMonitor_move (f := fun hm e => healthMonitorTick (oracleApi lib env now) hm e
        (UInt32.ofNat sample) beyond) rules _ _ n o env now fun hm e => ?_
      exact healthMonitorTick_submits _ hm e _ beyond
  | propose targetNode targetBox oldStatus newStatus env now =>
      obtain ⟨entries, hleader, hproposed, heffect⟩ :=
        propose_effect rules none n o env targetNode targetBox oldStatus newStatus now
      exact ⟨_, move_of_entries hleader hproposed, heffect⟩

/-- The packet that an event delivers. -/
def ClusterEvent.input : ClusterEvent → Option Packet
  | .deliver p .. => some p
  | _ => none

/-- Whether the event is an election timeout of its node. -/
def ClusterEvent.TimesOut (lib : RaftLib σ) (o : OracleNode σ) (e : ClusterEvent) : Prop :=
  e.call.TimesOut lib o

instance (lib : RaftLib σ) (o : OracleNode σ) (e : ClusterEvent) : Decidable (e.TimesOut lib o) :=
  inferInstanceAs (Decidable (e.call.TimesOut lib o))

theorem ClusterEvent.Enabled.input {net : List Packet} {e : ClusterEvent} (h : e.Enabled net) :
    ∀ p ∈ e.input, p ∈ net ∧ p.frame.ethertype = ethertypeRaft := by
  intro p hp
  cases e with
  | deliver q beyond env now =>
      obtain rfl : q = p := Option.mem_some_iff.mp hp
      exact h
  | periodic | startHealth | announce | heartbeat | tick | propose => cases hp

theorem ClusterEvent.input_call {e : ClusterEvent}
    (hraft : ∀ p ∈ e.input, p.frame.ethertype = ethertypeRaft) : e.call.input e.node = e.input := by
  cases e with
  | deliver p beyond env now =>
      obtain ⟨src, dst, ethertype, msgType, payload⟩ := p
      obtain rfl : ethertype = ethertypeRaft := hraft _ rfl
      rfl
  | periodic | startHealth | announce | heartbeat | tick | propose => rfl

theorem run_move (rules : RaftRules lib view) (o : OracleNode σ) {e : ClusterEvent}
    (hraft : ∀ p ∈ e.input, p.frame.ethertype = ethertypeRaft) :
    MovesTo view e.input (e.TimesOut lib o) e.node (view o.raft) (e.run lib o) := by
  rw [← ClusterEvent.input_call hraft]
  exact e.call.move rules e.node o

end

end L2Oracle
