import L2Oracle.Raft.Bridge
import L2Oracle.Raft.Frames
import L2Oracle.Raft.Leaders

/-!
# Where applied transitions come from

Two nodes can lead at once, logs can diverge, and on Ethernet a node takes every frame as its own. What
a node applies is a transition of the monitors all the same: its entry came into the log of a leader in
a call in which that leader's monitor proposed the transition, and from there it went by AppendEntries,
of which the wire keeps the transition. Nothing that was not proposed is ever applied, and no field of
it changes on the way.

So a status that is applied is one of the three that the monitor knows, in every run of nodes that
hear only each other. `Raft.Statuses` shows what a foreign frame can do.
-/

namespace L2Oracle

open Base

/-- The transition that a proposal puts into an entry in the given term and at the given time. -/
def Proposal.update (q : Proposal) (term now : Nat) : PayloadHealthUpdate where
  targetNodeId := q.targetNode
  targetBoxId := q.targetBox
  oldStatus := q.oldStatus
  newStatus := q.newStatus
  term := UInt32.ofNat term
  timestampMs := UInt32.ofNat now

section
variable {σ : Type}

/-- The proposals that a call makes on its node, in order, and the time at which it makes them. -/
def NodeCall.proposals (lib : RaftLib σ) (o : OracleNode σ) : NodeCall → List Proposal × Nat
  | .heartbeat srcNode _ _ _ now =>
      (match o.health with
        | none => []
        | some hm => heartbeatProposals hm srcNode, now)
  | .tick beyond sample _ now =>
      (match o.health with
        | none => []
        | some hm => tickProposals hm (oracleIsLeader lib o) (UInt32.ofNat sample) beyond, now)
  | .propose targetNode targetBox oldStatus newStatus _ now =>
      ([⟨targetNode, targetBox, oldStatus, newStatus⟩], now)
  | .startHealth | .oracleTick .. | .dispatch .. | .announce .. => ([], 0)

/-- The entry carries a transition that the call proposes on a leader. -/
def NodeCall.Proposes (lib : RaftLib σ) (o : OracleNode σ) (x : NodeCall) (entry : RaftEntry) : Prop :=
  oracleIsLeader lib o = true ∧ ∃ q ∈ (x.proposals lib o).1,
    CarriesTransition (q.update (lib.raftGetCurrentTerm o.raft) (x.proposals lib o).2) entry

/-- A leader of the cluster proposed the transition of the entry in an earlier call of the run. -/
def ProposedIn (c : ClusterSetup σ) (s : Cluster σ) (xs : List ClusterCall) (entry : RaftEntry) : Prop :=
  ∃ pre x post, xs = pre ++ x :: post ∧ x.1 ∈ c.members ∧
    x.2.Proposes c.lib ((run c.call s pre).nodes x.1) entry

theorem ProposedIn.snoc {c : ClusterSetup σ} {s : Cluster σ} {xs : List ClusterCall}
    {entry : RaftEntry} (h : ProposedIn c s xs entry) (x : ClusterCall) :
    ProposedIn c s (xs ++ [x]) entry := by
  obtain ⟨pre, y, post, rfl, hy⟩ := h
  exact ⟨pre, y, post ++ [x], by simp, hy⟩

/-! ### What a call brings into the log -/

section
variable {lib : RaftLib σ} {view : σ → RaftView} (rules : RaftRules lib view)
include rules

/-- A proposal adds at most its own transition to the log, and changes neither term nor leadership. -/
theorem submit_log (env now : Nat) (e : Effect σ) (q : Proposal) :
    let v := view e.node.raft
    let v' := view ((oracleApi lib env now).submit e q).node.raft
    v'.term = v.term ∧ v'.role = v.role ∧ ∀ entry ∈ v'.log, entry ∈ v.log ∨
      v.role = .leader ∧ CarriesTransition (q.update v.term now) entry := by
  simp only [OracleApi.submit, oracleApi, oracleProposeHealthTransition]
  split
  · have hcarries := carries_proposedEntry lib e.node q.targetNode q.targetBox q.oldStatus q.newStatus
      now
    rw [rules.currentTerm] at hcarries
    set entry := proposedEntry lib e.node q.targetNode q.targetBox q.oldStatus q.newStatus now
    dsimp only
    rw [runLibrary_raft]
    rcases rules.entry e.node.raft env entry with hview | ⟨hrole, hview⟩
    · rw [hview]
      exact ⟨rfl, rfl, fun entry hentry => .inl hentry⟩
    · rw [hview]
      refine ⟨rfl, rfl, fun entry hentry => ?_⟩
      rcases List.mem_append.mp hentry with hold | hnew
      · exact .inl hold
      · rw [List.mem_singleton.mp hnew]
        exact .inr ⟨hrole, ⟨hcarries.normal, hcarries.complete, hcarries.transition⟩⟩
  · exact ⟨rfl, rfl, fun entry hentry => .inl hentry⟩

theorem submitAll_log (env now : Nat) (qs : List Proposal) (e : Effect σ) :
    ∀ entry ∈ (view ((oracleApi lib env now).submitAll e qs).node.raft).log,
      entry ∈ (view e.node.raft).log ∨ (view e.node.raft).role = .leader ∧
        ∃ q ∈ qs, CarriesTransition (q.update (view e.node.raft).term now) entry := by
  induction qs generalizing e with
  | nil => exact fun entry hentry => .inl hentry
  | cons q qs ih =>
      intro entry hentry
      obtain ⟨hterm, hrole, hlog⟩ := submit_log rules env now e q
      rcases ih _ entry hentry with hfirst | ⟨hleader, q', hq', hcarries⟩
      · rcases hlog entry hfirst with hold | ⟨hleader, hcarries⟩
        · exact .inl hold
        · exact .inr ⟨hleader, q, List.mem_cons_self, hcarries⟩
      · rw [hterm] at hcarries
        exact .inr ⟨hrole ▸ hleader, q', List.mem_cons_of_mem q hq', hcarries⟩

theorem withMonitor_log (o : OracleNode σ) (env now : Nat) (qs : HealthMonitor → List Proposal)
    {F : HealthMonitor → Effect σ → HealthMonitor × Effect σ}
    (hF : ∀ hm, (F hm ⟨o, [], []⟩).2 = (oracleApi lib env now).submitAll ⟨o, [], []⟩ (qs hm)) :
    ∀ entry ∈ (view (withMonitor o F).node.raft).log, entry ∈ (view o.raft).log ∨
      (view o.raft).role = .leader ∧ ∃ hm ∈ o.health, ∃ q ∈ qs hm,
        CarriesTransition (q.update (view o.raft).term now) entry := by
  intro entry hentry
  rw [withMonitor] at hentry
  cases hhealth : o.health with
  | none =>
      rw [hhealth] at hentry
      exact .inl hentry
  | some hm =>
      simp only [hhealth, hF hm] at hentry
      rcases submitAll_log rules env now (qs hm) ⟨o, [], []⟩ entry hentry with hold | ⟨hleader, hq⟩
      · exact .inl hold
      · exact .inr ⟨hleader, hm, rfl, hq⟩

/-- Of all messages only AppendEntries brings anything into the log. -/
theorem dispatch_log (o : OracleNode σ) (env : Nat) (srcNode : UInt8) (msgType : RaftMsgType)
    (payload : List UInt8) (beyond : Nat → UInt8) (now : Nat) :
    ∀ entry ∈ (view (oracleDispatchRaftMessage lib o env srcNode msgType (buffer payload beyond)
        payload.length now).1.node.raft).log,
      entry ∈ (view o.raft).log ∨ msgType = .appendEntries ∧
        PayloadAppendEntries.size ≤ payload.length ∧
        entry ∈ (dispatchedAppendEntries (view o.raft).term (buffer payload fun _ => 0)
          payload.length).entries := by
  intro entry hentry
  have hcases := dispatched lib o env srcNode msgType (buffer payload beyond) payload.length now
  generalize oracleDispatchRaftMessage lib o env srcNode msgType (buffer payload beyond) payload.length
    now = d at hcases hentry
  cases hcases with
  | dropped => exact .inl hentry
  | requestVote =>
      rw [handRequestVote, runLibrary_raft, (rules.requestVote o.raft env srcNode _).log_eq] at hentry
      exact .inl hentry
  | requestVoteResp =>
      rw [handVote, runLibrary_raft, (rules.requestVoteResponse o.raft env srcNode _).log_eq] at hentry
      exact .inl hentry
  | appendEntries hlen =>
      rw [handAppendEntries, runLibrary_raft] at hentry
      rcases (rules.appendEntries o.raft env srcNode _).mem_log hentry with hold | hnew
      · exact .inl hold
      · rw [rules.currentTerm,
          dispatchedAppendEntries_congr _ hlen (agreeTo_buffer le_rfl beyond fun _ => 0)] at hnew
        exact .inr ⟨rfl, hlen, hnew⟩
  | appendEntriesResp =>
      rw [handResponse, runLibrary_raft, rules.appendEntriesResponse, RaftView.meet_log] at hentry
      exact .inl hentry

/-- An entry of the log after a call was there before, came with the AppendEntries that the call
dispatches, or was proposed by the call. -/
theorem NodeCall.mem_log (n : UInt8) (o : OracleNode σ) (x : NodeCall) {entry : RaftEntry}
    (hentry : entry ∈ (view (x.run lib o).node.raft).log) :
    entry ∈ (view o.raft).log ∨
      (∃ p ∈ x.input n, p.IsAppend ∧ entry ∈ (p.appendEntries (view o.raft).term).entries) ∨
      x.Proposes lib o entry := by
  have hproposes : ∀ {qs : List Proposal} {now : Nat}, x.proposals lib o = (qs, now) →
      ((view o.raft).role = .leader ∧ ∃ q ∈ qs,
        CarriesTransition (q.update (view o.raft).term now) entry) → x.Proposes lib o entry := by
    rintro qs now hqs ⟨hleader, hq⟩
    rw [Proposes, hqs, rules.currentTerm]
    exact ⟨(rules.isLeader o.raft).mpr hleader, hq⟩
  cases x with
  | heartbeat srcNode hb sample env now =>
      have hlog := withMonitor_log rules o env now (fun hm => heartbeatProposals hm srcNode)
        (F := fun hm e => healthMonitorProcessHeartbeat (oracleApi lib env now) hm e srcNode hb
          (UInt32.ofNat sample))
        (fun hm => by rw [healthMonitorProcessHeartbeat_eq]) entry hentry
      rcases hlog with hold | ⟨hleader, hm, hhm, hq⟩
      · exact .inl hold
      · refine .inr (.inr (hproposes ?_ ⟨hleader, hq⟩))
        rw [proposals, Option.mem_def.mp hhm]
  | tick beyond sample env now =>
      have hlog := withMonitor_log rules o env now
        (fun hm => tickProposals hm (oracleIsLeader lib o) (UInt32.ofNat sample) beyond)
        (F := fun hm e => healthMonitorTick (oracleApi lib env now) hm e (UInt32.ofNat sample) beyond)
        (fun hm => by
          rw [healthMonitorTick_eq (oracleApi_keepsLeadership rules env now)]
          rfl) entry hentry
      rcases hlog with hold | ⟨hleader, hm, hhm, hq⟩
      · exact .inl hold
      · refine .inr (.inr (hproposes ?_ ⟨hleader, hq⟩))
        rw [proposals, Option.mem_def.mp hhm]
  | propose targetNode targetBox oldStatus newStatus env now =>
      have hlog := (submit_log rules env now ⟨o, [], []⟩
        ⟨targetNode, targetBox, oldStatus, newStatus⟩).2.2 entry hentry
      rcases hlog with hold | ⟨hleader, hcarries⟩
      · exact .inl hold
      · exact .inr (.inr (hproposes rfl ⟨hleader, _, List.mem_singleton_self _, hcarries⟩))
  | startHealth => exact .inl hentry
  | oracleTick env elapsedMs =>
      rw [run, L2Oracle.oracleTick, runLibrary_raft, (rules.periodic o.raft env elapsedMs).log_eq] at hentry
      exact .inl hentry
  | announce srcNode ann sample =>
      rw [run, withMonitor] at hentry
      cases hhealth : o.health with
      | none =>
          rw [hhealth] at hentry
          exact .inl hentry
      | some hm =>
          rw [hhealth] at hentry
          exact .inl hentry
  | dispatch srcNode msgType payload beyond env now =>
      rcases dispatch_log rules o env srcNode msgType payload beyond now entry hentry with hold |
        ⟨rfl, hlen, hnew⟩
      · exact .inl hold
      · exact .inr (.inl ⟨_, rfl, ⟨rfl, rfl, hlen⟩, hnew⟩)

end

/-! ### Every run -/

/-- What the wire makes of an entry carries the same transition. -/
theorem CarriesTransition.wireCopy {ht : PayloadHealthUpdate} {entry : RaftEntry}
    (h : CarriesTransition ht entry) : CarriesTransition ht (L2Oracle.wireCopy entry) where
  normal := (sameTransition_wireCopy h.normal).1.trans h.normal
  complete := by
    rw [length_wireCopy]
    decide
  transition := (transition_wireCopy entry).trans h.transition

theorem ProposedIn.wireCopy {c : ClusterSetup σ} {s : Cluster σ} {xs : List ClusterCall}
    {entry : RaftEntry} (h : ProposedIn c s xs entry) :
    ProposedIn c s xs (L2Oracle.wireCopy entry) := by
  obtain ⟨pre, x, post, hsplit, hx, hleader, q, hq, hcarries⟩ := h
  exact ⟨pre, x, post, hsplit, hx, hleader, q, hq, hcarries.wireCopy⟩

section
variable {c : ClusterSetup σ} {view : σ → RaftView} {s : Cluster σ}

/-- All entries that there are were proposed: those in logs, in AppendEntries, and those applied. -/
structure OriginInv (c : ClusterSetup σ) (view : σ → RaftView) (s : Cluster σ)
    (xs : List ClusterCall) : Prop where
  log : ∀ n ∈ c.members, ∀ entry ∈ ((run c.call s xs).server view n).log, ProposedIn c s xs entry
  net : ∀ p ∈ (run c.call s xs).net, p.IsAppend → ∀ entry ∈ (p.appendEntries 0).entries,
    ProposedIn c s xs entry
  applied : ∀ a ∈ (run c.call s xs).applied, ProposedIn c s xs a.2.2

section
variable (rules : RaftRules c.lib view) (hstart : c.Started view s) {xs : List ClusterCall}
  (hinv : OriginInv c view s xs) {x : ClusterCall} (hheard : Heard c (run c.call s xs) x)
include rules hstart hinv hheard

omit rules in
/-- The entries of AppendEntries that the call dispatches. -/
theorem OriginInv.heardEntries {p : Packet} (hp : p ∈ x.2.input x.1) (happend : p.IsAppend)
    (term : Nat) : ∀ entry ∈ (p.appendEntries term).entries, ProposedIn c s xs entry := by
  intro entry hentry
  obtain ⟨q, hq, rfl⟩ := hheard.2 p hp
  have hformed := wellFormed_run c (s := s) (by rw [hstart.net]; exact List.forall_mem_nil _) xs q hq
  have htype : q.frame.msgType = .appendEntries := hformed.ofCode_code.symm.trans happend.2.1
  exact hinv.net q hq ⟨happend.1, htype, happend.2.2⟩ entry hentry

/-- The entries of a node's log after its call. -/
theorem OriginInv.newLog {v : RaftView} {input : Option Packet}
    (heffect : EffectOf view input x.1 v (x.2.run c.lib ((run c.call s xs).nodes x.1))) :
    ∀ entry ∈ v.log, ProposedIn c s (xs ++ [x]) entry := by
  intro entry hentry
  rw [← heffect.raft] at hentry
  rcases x.2.mem_log rules x.1 _ hentry with hold | ⟨p, hp, happend, hnew⟩ | hproposes
  · exact (hinv.log x.1 hheard.1 entry hold).snoc x
  · exact (hinv.heardEntries hstart hheard hp happend _ entry hnew).snoc x
  · exact ⟨xs, x, [], rfl, hheard.1, hproposes⟩

theorem OriginInv.call : OriginInv c view s (xs ++ [x]) := by
  obtain ⟨v, hmove, heffect⟩ := x.2.move rules x.1 ((run c.call s xs).nodes x.1)
  have hlog := hinv.newLog rules hstart hheard heffect
  have hrun : run c.call s (xs ++ [x])
      = (run c.call s xs).act x.1 (x.2.run c.lib ((run c.call s xs).nodes x.1)) := by
    rw [run_append]
    rfl
  constructor
  case log =>
      intro n hn entry hentry
      rw [hrun, server_act _ heffect] at hentry
      split at hentry
      · exact hlog entry hentry
      · exact (hinv.log n hn entry hentry).snoc x
  case net =>
      intro p hp happend entry hentry
      rw [hrun] at hp
      rcases mem_net_act hp with hold | ⟨hsrc, hf⟩
      · exact (hinv.net p hold happend entry hentry).snoc x
      · have hsent := heffect.sent p.frame hf happend.1
        simp only [happend.2.1] at hsent
        obtain ⟨msg, hmsg, -, -, -, hinitial⟩ := hsent
        obtain ⟨src, frame⟩ := p
        simp only at hmsg
        rw [hmsg, appendEntries_cbSendAppendentries] at hentry
        obtain ⟨held, hheld, rfl⟩ := List.mem_map.mp hentry
        have hmem : held ∈ v.log :=
          List.mem_of_mem_drop (hinitial.subset (List.mem_of_mem_take hheld))
        exact (hlog held hmem).wireCopy
  case applied =>
      intro a ha
      rw [hrun] at ha
      rcases List.mem_append.mp ha with hold | hnew
      · exact (hinv.applied a hold).snoc x
      · obtain ⟨y, hy, rfl⟩ := List.mem_map.mp hnew
        exact hlog _ (List.mem_of_getElem? (heffect.applied y hy).2)

end

theorem originInv_run (rules : RaftRules c.lib view) (hstart : c.Started view s)
    {xs : List ClusterCall} (h : c.Along Heard s xs) : OriginInv c view s xs := by
  refine Throughout.induction (I := OriginInv c view s) ?_
    (fun pre x hinv hx => hinv.call rules hstart hx) h
  refine ⟨fun n hn entry hentry => ?_, fun p hp => ?_, fun a ha => ?_⟩
  · rw [run_nil, hstart.server n hn] at hentry
    cases hentry
  · rw [run_nil, hstart.net] at hp
    cases hp
  · rw [run_nil, hstart.applied] at ha
    cases ha

/-- In every run of nodes that hear only what nodes sent, every entry that a node applies carries a
transition that the monitor of a leader proposed earlier in the run: with the same node, box and
statuses, in the term and at the time in which it was proposed. -/
theorem applied_was_proposed (rules : RaftRules c.lib view) (hstart : c.Started view s)
    {xs : List ClusterCall} (h : c.Along Heard s xs) :
    ∀ a ∈ (run c.call s xs).applied, ProposedIn c s xs a.2.2 :=
  (originInv_run rules hstart h).applied

end

/-- What was sent to the node was sent to some node. -/
theorem ClusterSetup.Along.heard {c : ClusterSetup σ} {s : Cluster σ} (hnet : s.net = [])
    {xs : List ClusterCall} (h : c.Along Addressed s xs) : c.Along Heard s xs := by
  refine Throughout.mono h fun pre x hx => ⟨hx.1, fun p hp => ⟨p, hx.2 p hp, ?_⟩⟩
  have hformed := wellFormed_run c (s := s) (by rw [hnet]; exact List.forall_mem_nil _) pre p
    (hx.2 p hp)
  rw [Packet.heardBy, hformed.ofCode_code]
  obtain ⟨n, call⟩ := x
  cases call with
  | dispatch =>
      obtain rfl := Option.mem_some_iff.mp hp
      rfl
  | startHealth | oracleTick | announce | heartbeat | tick | propose => cases hp

end

/-! ### A run in which nodes apply -/

def replicatedCalls : List ClusterCall :=
  trace threeOracles.step threeOracles.eventCall threeOracles.init replicatedRun

theorem applied_was_proposed_replicatedCalls :
    (run threeOracles.call threeOracles.init replicatedCalls).applied
        = [(1, 1, firstEntry 7), (3, 1, wireCopy (firstEntry 7))] ∧
      ∀ a ∈ (run threeOracles.call threeOracles.init replicatedCalls).applied,
        ProposedIn threeOracles threeOracles.init replicatedCalls a.2.2 := by
  have haddressed : threeOracles.Along Addressed threeOracles.init replicatedCalls :=
    threeOracles.clusterSimulation.allows_run trivial replicatedRun
  refine ⟨by decide +kernel, ?_⟩
  exact applied_was_proposed ReferenceServer.rules (started_init ReferenceServer.rules (by decide))
    (haddressed.heard rfl)

end L2Oracle
