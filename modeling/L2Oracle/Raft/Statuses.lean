import L2Oracle.Raft.Bridge

/-!
# Statuses under arbitrary input

One node with its monitor, on which frames arrive that nobody has checked: any bytes, from any sender,
at any time. The byte that holds a node's status is written by the monitor, which writes nothing but
the three statuses it knows, and by `cb_applylog`, which writes what a committed entry says. An entry
reaches the log from the monitor's own proposals or from an AppendEntries, and from there the status
comes straight off the wire.

This is the only way in: as long as no AppendEntries carries a transition to an unknown status, all
statuses are known in every state, and a heartbeat brings its node to UP. In `wedgedEntryRun` one byte
takes a node out of the state machine, and no heartbeat brings it back.
-/

namespace L2Oracle

open Base

/-! ### A node and its tasks -/

/-- What reaches a node from outside. -/
inductive NodeEvent where
  /-- The timer of the Raft task. -/
  | raftTimer (env : Nat) (elapsedMs : Int)
  /-- A frame from the Raft queue; `beyond` is what lies behind its payload in memory. -/
  | raftFrame (srcNode : UInt8) (msgType : RaftMsgType) (payload : List UInt8) (beyond : Nat → UInt8)
      (env now : Nat)
  /-- A frame from the heartbeat queue. -/
  | heartbeatFrame (srcNode : UInt8) (msgType : RaftMsgType) (payload : List UInt8)
      (beyond : Nat → UInt8) (env now : Nat)
  /-- The call of `health_monitor_tick` in every turn of the health task. -/
  | healthTick (beyond : Nat → UInt8) (env now : Nat)

/-- The call that `vHealthTask` makes for a frame. -/
def healthTaskCall (n srcNode : UInt8) (msgType : RaftMsgType) (payload : List UInt8)
    (beyond : Nat → UInt8) (env now : Nat) : Option ClusterEvent :=
  (healthMessage msgType payload beyond).map fun
    | .heartbeat hb => .heartbeat n srcNode hb env now
    | .announce ann => .announce n srcNode ann now

/-- The call that a task of node `n` makes. -/
def NodeEvent.call (n : UInt8) : NodeEvent → Option ClusterEvent
  | .raftTimer env elapsedMs => some (.periodic n env elapsedMs)
  | .raftFrame srcNode msgType payload beyond env now =>
      some (.deliver ⟨srcNode, ⟨n, ethertypeRaft, msgType, payload⟩⟩ beyond env now)
  | .heartbeatFrame srcNode msgType payload beyond env now =>
      healthTaskCall n srcNode msgType payload beyond env now
  | .healthTick beyond env now => some (.tick n beyond env now)

section
variable {σ : Type}

def OracleNode.after (lib : RaftLib σ) (o : OracleNode σ) (e : NodeEvent) : OracleNode σ :=
  match e.call o.nodeId with
  | none => o
  | some call => (call.run lib o).node

/-- A member after these events, from its start on, with its monitor. -/
def ClusterSetup.nodeReach (c : ClusterSetup σ) (n : UInt8) (es : List NodeEvent) : OracleNode σ :=
  Base.run (OracleNode.after c.lib)
    ((ClusterEvent.startHealth n).run c.lib (c.init.nodes n)).node es

@[simp] theorem ClusterSetup.nodeReach_snoc (c : ClusterSetup σ) (n : UInt8) (es : List NodeEvent)
    (e : NodeEvent) : c.nodeReach n (es ++ [e]) = (c.nodeReach n es).after c.lib e := by
  simp [nodeReach]

end

/-! ### What is known -/

/-- All entries of the table are in the state machine. -/
def HealthMonitor.AllKnown (hm : HealthMonitor) : Prop := ∀ s ∈ hm.slots, Known s.status

/-- The transition that the entry makes `cb_applylog` apply leads to a known status. -/
def RaftEntry.LeadsToKnown (entry : RaftEntry) : Prop :=
  entry.type = raftLogtypeNormal → PayloadHealthUpdate.size ≤ entry.data.length →
    Known entry.transition.newStatus

instance (entry : RaftEntry) : Decidable entry.LeadsToKnown :=
  inferInstanceAs (Decidable (_ → _ → _))

/-- An AppendEntries carries no transition to an unknown status. -/
def NodeEvent.CarriesKnown : NodeEvent → Prop
  | .raftFrame srcNode .appendEntries payload _ _ _ =>
      PayloadAppendEntries.size ≤ payload.length →
        ∀ entry ∈ ((⟨srcNode, ⟨0, ethertypeRaft, .appendEntries, payload⟩⟩ : Packet).appendEntries
          0).entries, entry.LeadsToKnown
  | _ => True

/-! ### The monitor -/

namespace HealthMonitor.AllKnown

variable {hm : HealthMonitor}

theorem init (transport : Bool) (boxId : UInt8) : (healthMonitorInit transport boxId).AllKnown :=
  List.forall_mem_nil _

/-- A write of one slot, which may be a new one, keeps what is known. -/
theorem update (h : hm.AllKnown) (nodeId boxId : UInt8) {f : Slot → Slot}
    (hf : ∀ s, Known s.status → Known (f s).status) : (hm.update nodeId boxId f).AllKnown := by
  intro s hs
  rcases mem_update hs with hold | ⟨old, hold | rfl, rfl⟩
  · exact h s hold
  · exact hf old (h old hold)
  · exact hf _ (.inl rfl)

theorem heard (h : hm.AllKnown) (srcNode : UInt8) (nowMs : UInt32) :
    (heardMonitor hm srcNode nowMs).AllKnown := by
  intro s hs
  rcases mem_heardMonitor hs with hold | ⟨old, hold, rfl⟩
  · exact h s hold
  · exact .inl (status_heardSlot (h old hold) nowMs)

theorem ticked (h : hm.AllKnown) (leader : Bool) (nowMs : UInt32) (beyond : Nat → UInt8) :
    (tickedMonitor hm leader nowMs beyond).AllKnown := by
  intro s hs
  rcases mem_tickedMonitor hs with hold | ⟨old, hold, rfl⟩
  · exact h s hold
  · exact known_tickedSlot _ _ _ _ (h old hold)

theorem cbApplylog (h : hm.AllKnown) {entry : RaftEntry} (hentry : entry.LeadsToKnown) :
    ∃ hm', (L2Oracle.cbApplylog (some hm) entry).1 = some hm' ∧ hm'.AllKnown := by
  unfold L2Oracle.cbApplylog
  split
  · rename_i hcond
    simp only [healthTableApply_eq]
    exact ⟨_, rfl, h.update _ _ fun _ _ => hentry hcond.1 hcond.2⟩
  · exact ⟨hm, rfl, h⟩

end HealthMonitor.AllKnown

/-! ### The node -/

section
variable {σ : Type} {lib : RaftLib σ} {view : σ → RaftView} {o : OracleNode σ}

/-- The table is known, and what is in the log will keep it so. -/
structure StatusInv (view : σ → RaftView) (o : OracleNode σ) : Prop where
  health : ∃ hm, o.health = some hm ∧ hm.AllKnown
  log : ∀ entry ∈ (view o.raft).log, entry.LeadsToKnown

/-- The callbacks of the library apply what is in its log. -/
theorem StatusInv.library {r : LibResult σ} (hhealth : ∃ hm, o.health = some hm ∧ hm.AllKnown)
    (hlog : ∀ entry ∈ (view r.raft).log, entry.LeadsToKnown)
    (hcalls : ∀ call ∈ r.calls, (view r.raft).Allows call) :
    StatusInv view (runLibrary o r).node where
  health := by
    refine List.foldlRecOn r.calls runCallback
      (motive := fun e => ∃ hm, e.node.health = some hm ∧ hm.AllKnown)
      (b := ⟨{ o with raft := r.raft }, [], []⟩) hhealth ?_
    rintro e ⟨hm, hhm, hknown⟩ call hcall
    cases call with
    | sendRequestVote | sendAppendEntries => exact ⟨hm, hhm, hknown⟩
    | applyLog entry idx =>
        have hentry := hlog entry (List.mem_of_getElem? (hcalls _ hcall).2)
        obtain ⟨hm', happly, hknown'⟩ := hknown.cbApplylog hentry
        rw [← hhm] at happly
        exact ⟨hm', happly, hknown'⟩
  log := by
    rw [runLibrary_raft]
    exact hlog

theorem StatusInv.sameLog {r : LibResult σ} (h : StatusInv view o)
    (hlog : (view r.raft).log = (view o.raft).log)
    (hcalls : ∀ call ∈ r.calls, (view r.raft).Allows call) :
    StatusInv view (runLibrary o r).node :=
  library h.health (hlog ▸ h.log) hcalls

theorem StatusInv.corroboration (h : StatusInv view o) (peerId : UInt8) (obs : List ObservationEntry)
    (nowMs : UInt32) :
    StatusInv view { o with
      health := o.health.map fun hm => healthMonitorUpdateCorroboration hm peerId obs nowMs } where
  health := by
    obtain ⟨hm, hhm, hknown⟩ := h.health
    refine ⟨_, by rw [hhm, Option.map_some], ?_⟩
    rwa [HealthMonitor.AllKnown, healthMonitorUpdateCorroboration_slots]
  log := h.log

/-- A Raft frame, whatever it holds. Only the entries of an AppendEntries come into the log. -/
theorem StatusInv.dispatch (rules : RaftRules lib view) (h : StatusInv view o) (env : Nat)
    (srcNodeId : UInt8) {msgType : RaftMsgType} {mem : Nat → UInt8} {len : Nat} (now : Nat)
    (hentries : msgType = .appendEntries → PayloadAppendEntries.size ≤ len →
      ∀ entry ∈ (dispatchedAppendEntries 0 mem len).entries, entry.LeadsToKnown) :
    StatusInv view (oracleDispatchRaftMessage lib o env srcNodeId msgType mem len now).1.node := by
  have hcases := dispatched lib o env srcNodeId msgType mem len now
  generalize oracleDispatchRaftMessage lib o env srcNodeId msgType mem len now = d at hcases ⊢
  cases hcases with
  | dropped => exact h
  | requestVote =>
      exact h.sameLog (rules.requestVote o.raft env srcNodeId _).log_eq
        (rules.requestVoteCalls o.raft env srcNodeId _)
  | requestVoteResp =>
      exact h.sameLog (rules.requestVoteResponse o.raft env srcNodeId _).log_eq
        (rules.requestVoteResponseCalls o.raft env srcNodeId _)
  | appendEntries hlen =>
      refine library h.health (fun entry hentry => ?_)
        (rules.appendEntriesCalls o.raft env srcNodeId _)
      rcases (rules.appendEntries o.raft env srcNodeId _).mem_log hentry with hold | hnew
      · exact h.log entry hold
      · exact hentries rfl hlen entry hnew
  | appendEntriesResp =>
      have hlog (resp) : (view (lib.raftRecvAppendEntriesResponse o.raft env srcNodeId resp).raft).log
          = (view o.raft).log := by
        rw [rules.appendEntriesResponse, RaftView.meet_log]
      have hcalls := rules.appendEntriesResponseCalls o.raft env srcNodeId
      rw [handResponse, reportedHealth]
      dsimp only
      split
      · exact (h.corroboration srcNodeId _ _).sameLog (hlog _) (hcalls _)
      · exact h.sameLog (hlog _) (hcalls _)

theorem StatusInv.propose (rules : RaftRules lib view) (h : StatusInv view o) (env : Nat)
    (targetNode targetBox oldStatus : UInt8) {newStatus : UInt8} (hnew : Known newStatus) (now : Nat) :
    StatusInv view
      (oracleProposeHealthTransition lib o env targetNode targetBox oldStatus newStatus now).1.node := by
  unfold oracleProposeHealthTransition
  split
  · refine library h.health (fun entry hentry => ?_) fun call hcall =>
      (rules.entryCalls o.raft env _ call hcall).1
    have hcarries := carries_proposedEntry lib o targetNode targetBox oldStatus newStatus now
    rcases rules.entry o.raft env (proposedEntry lib o targetNode targetBox oldStatus newStatus now)
      with hview | ⟨-, hview⟩
    · rw [hview] at hentry
      exact h.log entry hentry
    · rw [hview] at hentry
      rcases List.mem_append.mp hentry with hold | hadded
      · exact h.log entry hold
      · rw [List.mem_singleton.mp hadded]
        intro _ _
        have htransition := congrArg PayloadHealthUpdate.newStatus hcarries.transition
        exact htransition ▸ hnew
  · exact h

theorem StatusInv.submitAll (rules : RaftRules lib view) (env now : Nat) {ps : List Proposal}
    (hps : ∀ q ∈ ps, Known q.newStatus) {e : Effect σ} (h : StatusInv view e.node) :
    StatusInv view ((oracleApi lib env now).submitAll e ps).node := by
  induction ps generalizing e with
  | nil => exact h
  | cons q ps ih =>
      have hq := hps q List.mem_cons_self
      exact ih (fun x hx => hps x (List.mem_cons_of_mem q hx))
        (h.propose rules env q.targetNode q.targetBox q.oldStatus hq now)

/-- A function of the monitor that keeps the statuses known, in the table and in the log. -/
theorem StatusInv.withMonitor (h : StatusInv view o)
    {f : HealthMonitor → Effect σ → HealthMonitor × Effect σ}
    (hf : ∀ hm e, hm.AllKnown → StatusInv view e.node →
      (f hm e).1.AllKnown ∧ StatusInv view (f hm e).2.node) :
    StatusInv view (L2Oracle.withMonitor o f).node := by
  obtain ⟨hm, hhm, hknown⟩ := h.health
  obtain ⟨hknown', heffect⟩ := hf hm ⟨o, [], []⟩ hknown h
  unfold L2Oracle.withMonitor
  rw [hhm]
  exact ⟨⟨_, rfl, hknown'⟩, heffect.log⟩

theorem StatusInv.heartbeat (rules : RaftRules lib view) (h : StatusInv view o) (n srcNode : UInt8)
    (hb : PayloadNodeHeartbeat) (env now : Nat) :
    StatusInv view ((ClusterEvent.heartbeat n srcNode hb env now).run lib o).node := by
  refine h.withMonitor (f := fun hm e => healthMonitorProcessHeartbeat (oracleApi lib env now) hm e
    srcNode hb (UInt32.ofNat now)) fun hm e hknown he => ?_
  rw [healthMonitorProcessHeartbeat_eq]
  exact ⟨hknown.heard srcNode _,
    submitAll rules env now (fun q hq => known_of_mem_heartbeatProposals hq) he⟩

theorem StatusInv.announce (h : StatusInv view o) (n srcNode : UInt8) (ann : PayloadNodeAnnounce)
    (now : Nat) : StatusInv view ((ClusterEvent.announce n srcNode ann now).run lib o).node := by
  refine h.withMonitor fun hm e hknown he => ?_
  simp only [healthMonitorProcessAnnounce_eq]
  exact ⟨hknown.update srcNode 0 fun _ _ => .inl rfl, he⟩

theorem StatusInv.tick (rules : RaftRules lib view) (h : StatusInv view o) (n : UInt8)
    (beyond : Nat → UInt8) (env now : Nat) :
    StatusInv view ((ClusterEvent.tick n beyond env now).run lib o).node := by
  refine h.withMonitor (f := fun hm e => healthMonitorTick (oracleApi lib env now) hm e
    (UInt32.ofNat now) beyond) fun hm e hknown he => ?_
  rw [healthMonitorTick_eq (oracleApi_keepsLeadership rules env now)]
  exact ⟨hknown.ticked _ _ beyond,
    submitAll rules env now (fun q hq => known_of_mem_tickProposals hq) he⟩

theorem StatusInv.after (rules : RaftRules lib view) (h : StatusInv view o) {e : NodeEvent}
    (he : e.CarriesKnown) : StatusInv view (o.after lib e) := by
  cases e with
  | raftTimer env elapsedMs =>
      exact h.sameLog (rules.periodic o.raft env elapsedMs).log_eq
        (rules.periodicCalls o.raft env elapsedMs)
  | raftFrame srcNode msgType payload beyond env now =>
      refine h.dispatch rules env srcNode now fun hmsg hlen entry hentry => ?_
      subst hmsg
      rw [dispatchedAppendEntries_congr 0 hlen (agreeTo_buffer le_rfl beyond fun _ => 0)] at hentry
      exact he hlen entry hentry
  | heartbeatFrame srcNode msgType payload beyond env now =>
      rw [OracleNode.after, NodeEvent.call, healthTaskCall]
      cases healthMessage msgType payload beyond with
      | none => exact h
      | some m =>
          cases m with
          | heartbeat hb => exact h.heartbeat rules o.nodeId srcNode hb env now
          | announce ann => exact h.announce o.nodeId srcNode ann now
  | healthTick beyond env now => exact h.tick rules o.nodeId beyond env now

end

/-! ### Every run -/

section
variable {σ : Type} {c : ClusterSetup σ} {view : σ → RaftView}

theorem statusInv_nodeReach (rules : RaftRules c.lib view) (hnodup : c.members.Nodup) {n : UInt8}
    (hn : n ∈ c.members) {es : List NodeEvent} (hes : ∀ e ∈ es, e.CarriesKnown) :
    StatusInv view (c.nodeReach n es) := by
  induction es using List.reverseRecOn with
  | nil =>
      refine ⟨⟨_, rfl, .init _ _⟩, fun entry hentry => ?_⟩
      have hlog : (view (c.init.nodes n).raft).log = [] :=
        congrArg RaftView.log (server_init rules hnodup hn)
      rw [show (view (c.nodeReach n []).raft).log = [] from hlog] at hentry
      cases hentry
  | append_singleton es e ih =>
      rw [c.nodeReach_snoc]
      exact (ih fun x hx => hes x (List.mem_append_left _ hx)).after rules
        (hes e (List.mem_append_right _ (List.mem_singleton_self e)))

/-- A heartbeat frame that is long enough is a heartbeat to the monitor. -/
theorem health_after_heartbeat (lib : RaftLib σ) {o : OracleNode σ} {hm : HealthMonitor}
    (hhm : o.health = some hm) (srcNode : UInt8) {payload : List UInt8}
    (hlen : PayloadNodeHeartbeat.size ≤ payload.length) (beyond : Nat → UInt8) (env now : Nat) :
    (o.after lib (.heartbeatFrame srcNode .nodeHeartbeat payload beyond env now)).health
      = some (heardMonitor hm srcNode (UInt32.ofNat now)) := by
  rw [OracleNode.after, NodeEvent.call, healthTaskCall, healthMessage_heartbeat hlen beyond]
  simp only [Option.map_some, ClusterEvent.run, ClusterEvent.call, NodeCall.run, withMonitor, hhm,
    healthMonitorProcessHeartbeat_eq]

/-- **Statuses stay in the state machine**, as long as no AppendEntries carries a transition to an
unknown one, and then every heartbeat of a registered node leaves it UP. -/
theorem statuses_known (rules : RaftRules c.lib view) (hnodup : c.members.Nodup) {n : UInt8}
    (hn : n ∈ c.members) {es : List NodeEvent} (hes : ∀ e ∈ es, e.CarriesKnown) :
    ∃ hm, (c.nodeReach n es).health = some hm ∧ hm.AllKnown ∧
      ∀ srcNode payload beyond env now, PayloadNodeHeartbeat.size ≤ payload.length →
        hm.lookup srcNode ≠ none →
        ∃ hm' s, (c.nodeReach n (es ++ [.heartbeatFrame srcNode .nodeHeartbeat payload beyond env
            now])).health = some hm' ∧ hm'.lookup srcNode = some s ∧
          s.status = nodeUp ∧ s.entry.lastSeenMs = UInt32.ofNat now ∧ s.missCount = 0 := by
  obtain ⟨hm, hhm, hknown⟩ := (statusInv_nodeReach rules hnodup hn hes).health
  refine ⟨hm, hhm, hknown, fun srcNode payload beyond env now hlen hregistered => ?_⟩
  obtain ⟨s, hs⟩ := Option.ne_none_iff_exists'.mp hregistered
  refine ⟨heardMonitor hm srcNode (UInt32.ofNat now), heardSlot (UInt32.ofNat now) s, ?_, ?_, ?_, ?_, ?_⟩
  · rw [c.nodeReach_snoc]
    exact health_after_heartbeat c.lib hhm srcNode hlen beyond env now
  · rw [lookup_heardMonitor, if_pos rfl, hs, Option.map_some]
  · exact status_heardSlot (hknown s (mem_of_lookup hs)) _
  · exact heardSlot_lastSeenMs _ _
  · exact heardSlot_missCount _ _

end

/-! ### A byte off the wire -/

/-- An AppendEntries from node 2 that commits a transition of node 9 to the given status. -/
def commitsStatus (status : UInt8) : NodeEvent :=
  .raftFrame 2 .appendEntries (cbSendAppendentries 1 ⟨0, 0, 0, 1,
    [⟨0, 0, raftLogtypeNormal, (PayloadHealthUpdate.mk 9 1 nodeUp status 0 0).bytes⟩]⟩).payload
    (fun _ => 0) 0 0

/-- Node 9 is heard, 50 ms after the start. -/
def heardNine : NodeEvent :=
  .heartbeatFrame 9 .nodeHeartbeat (List.replicate 8 0) (fun _ => 0) 0 50

/-- The status of node 9 at node 1. -/
def statusOfNine (es : List NodeEvent) : Option UInt8 :=
  ((threeOracles.nodeReach 1 es).health.bind fun hm => hm.lookup 9).map Slot.status

/-- Node 9 is DOWN by a committed entry. -/
def downEntryRun : List NodeEvent := [commitsStatus nodeDown, .raftTimer 0 0]

theorem statuses_known_downEntryRun :
    statusOfNine downEntryRun = some nodeDown ∧ statusOfNine (downEntryRun ++ [heardNine]) = some nodeUp ∧
      ∃ hm, (threeOracles.nodeReach 1 downEntryRun).health = some hm ∧ hm.AllKnown := by
  have hcarries : ∀ e ∈ downEntryRun, e.CarriesKnown := by
    intro e he
    rcases List.mem_pair.mp he with rfl | rfl
    · intro _
      decide +kernel
    · trivial
  obtain ⟨hm, hhm, hknown, -⟩ :=
    statuses_known (c := threeOracles) (n := 1) ReferenceServer.rules (by decide) (by decide) hcarries
  exact ⟨by decide +kernel, by decide +kernel, hm, hhm, hknown⟩

/-- The same entry with a status that there is none of. -/
def wedgedEntryRun : List NodeEvent := [commitsStatus 7, .raftTimer 0 0]

/-- The status is stored as it came, and a heartbeat leaves it. -/
theorem status_unknown_wedgedEntryRun :
    RaftRules threeOracles.lib ReferenceServer.view ∧ threeOracles.members = [1, 2, 3] ∧
      (∀ hm, (threeOracles.nodeReach 1 wedgedEntryRun).health = some hm → ¬hm.AllKnown) ∧
      statusOfNine (wedgedEntryRun ++ [heardNine]) = some 7 := by
  refine ⟨ReferenceServer.rules, rfl, fun hm hhm hknown => ?_, by decide +kernel⟩
  have hstatus : statusOfNine wedgedEntryRun = some 7 := by decide +kernel
  rw [statusOfNine, hhm, Option.bind_some] at hstatus
  obtain ⟨s, hs, hseven⟩ := Option.map_eq_some_iff.mp hstatus
  have hbad := hknown s (mem_of_lookup hs)
  rw [hseven] at hbad
  exact absurd hbad (by decide)

end L2Oracle
