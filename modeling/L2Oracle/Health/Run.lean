import L2Oracle.Base.Run
import L2Oracle.Health.Spec

/-!
# Runs of one monitor

A monitor is started once and then called by its node: announcements and heartbeats as they are
received, ticks, committed transitions, the observations in the responses of other nodes, and
leadership as Raft gains and loses it. A run is any list of such calls, in any order.

Of the oracle the runs keep what its monitor can see of it: whether the node leads, the current term,
and the calls of `oracle_propose_health_transition` with their results. The results are arbitrary on
a leader, `verdict n` for the `n`-th call, and `-1` on a node that does not lead, before anything
else happens. `OraclePort.api` keeps leadership, so the equations of `Spec` apply to it.

Times are real milliseconds. The source casts them to 32 bits at each call.
-/

namespace L2Oracle

open Base

/-- A health transition as a log entry carries it. -/
structure Transition where
  targetNode : UInt8
  targetBox : UInt8
  oldStatus : UInt8
  newStatus : UInt8
  term : UInt32
deriving DecidableEq, Repr

def Proposal.inTerm (p : Proposal) (term : UInt32) : Transition :=
  ⟨p.targetNode, p.targetBox, p.oldStatus, p.newStatus, term⟩

/-- The oracle as its monitor sees it. -/
structure OraclePort where
  leader : Bool
  term : UInt32
  verdict : Nat → Int
  /-- The calls so far with their results, oldest first. -/
  calls : List (Transition × Int)

/-- What the `n`-th call returns. -/
def OraclePort.answer (p : OraclePort) (n : Nat) : Int := if p.leader then p.verdict n else -1

def OraclePort.api : OracleApi OraclePort where
  oracleIsLeader p := p.leader
  oracleProposeHealthTransition p targetNode targetBox oldStatus newStatus :=
    let result := p.answer p.calls.length
    let transition := ⟨targetNode, targetBox, oldStatus, newStatus, p.term⟩
    ({ p with calls := p.calls ++ [(transition, result)] }, result)

@[simp] theorem OraclePort.api_oracleIsLeader (p : OraclePort) :
    api.oracleIsLeader p = p.leader := rfl

/-- The transitions that calls returning 0 put into the log, oldest first. -/
def acceptedCalls (calls : List (Transition × Int)) : List Transition :=
  calls.filterMap fun c => if c.2 = 0 then some c.1 else none

def OraclePort.log (p : OraclePort) : List Transition := acceptedCalls p.calls

/-- A monitor with its oracle and the frames it has sent. -/
structure MonitorState where
  hm : HealthMonitor
  port : OraclePort
  sent : List Frame

/-- A call of the monitor, or a change of leadership. -/
inductive MonitorOp where
  | announce (srcNode : UInt8) (ann : PayloadNodeAnnounce) (now : Nat)
  | heartbeat (srcNode : UInt8) (hb : PayloadNodeHeartbeat) (now : Nat)
  /-- A tick; `beyond` is what a read behind the corroboration matrix finds. -/
  | tick (now : Nat) (beyond : Nat → UInt8)
  | apply (t : Transition)
  /-- The observations of an AppendEntries response of `peer`. -/
  | observe (peer : UInt8) (obs : List ObservationEntry) (now : Nat)
  | lead (leader : Bool) (term : UInt32)

/-- The cast of a time to `uint32_t`. -/
def clock (now : Nat) : UInt32 := UInt32.ofNat now

def MonitorState.step (s : MonitorState) : MonitorOp → MonitorState
  | .announce srcNode ann now =>
      let (hm, frames) := healthMonitorProcessAnnounce s.hm srcNode ann (clock now)
      { s with hm, sent := s.sent ++ frames }
  | .heartbeat srcNode hb now =>
      let (hm, port) := healthMonitorProcessHeartbeat OraclePort.api s.hm s.port srcNode hb (clock now)
      { s with hm, port }
  | .tick now beyond =>
      let (hm, port) := healthMonitorTick OraclePort.api s.hm s.port (clock now) beyond
      { s with hm, port }
  | .apply t =>
      let (hm, frames) :=
        healthTableApply s.hm t.targetNode t.targetBox t.oldStatus t.newStatus t.term
      { s with hm, sent := s.sent ++ frames }
  | .observe peer obs now =>
      -- the dispatcher skips the update for a response without observations
      if obs = [] then s
      else { s with hm := healthMonitorUpdateCorroboration s.hm peer obs (clock now) }
  | .lead leader term => { s with port := { s.port with leader, term } }

/-- How a monitor is started. -/
structure Setup where
  transport : Bool
  boxId : UInt8
  leader : Bool
  term : UInt32
  verdict : Nat → Int

def Setup.init (c : Setup) : MonitorState where
  hm := healthMonitorInit c.transport c.boxId
  port := ⟨c.leader, c.term, c.verdict, []⟩
  sent := []

/-- The state a run reaches. -/
def Setup.reach (c : Setup) (ops : List MonitorOp) : MonitorState :=
  run MonitorState.step c.init ops

@[simp] theorem Setup.reach_snoc (c : Setup) (ops : List MonitorOp) (op : MonitorOp) :
    c.reach (ops ++ [op]) = (c.reach ops).step op := by
  simp [reach]

/-- A node of box 1 that starts as the leader of term 1 and has every proposal accepted. -/
def leaderOfBox1 : Setup where
  transport := true
  boxId := 1
  leader := true
  term := 1
  verdict _ := 0

/-- The same node as a follower. -/
def followerOfBox1 : Setup := { leaderOfBox1 with leader := false }

/-- Zeros behind the corroboration matrix. -/
def zeros : Nat → UInt8 := fun _ => 0

/-- A node that falls silent at 10 ms is suspected at 40 ms, and its SUSPECT commits before it is
proposed DOWN at 90 ms. -/
def silentRun : List MonitorOp :=
  [.announce 5 ⟨2⟩ 10, .tick 20 zeros, .tick 40 zeros, .apply ⟨5, 1, nodeUp, nodeSuspect, 1⟩,
    .tick 90 zeros]

/-- The calls of `oracle_propose_health_transition` that one operation makes, with their results. -/
def MonitorState.callsOf (s : MonitorState) (op : MonitorOp) : List (Transition × Int) :=
  (s.step op).port.calls.drop s.port.calls.length

/-- The frames that one operation sends. -/
def MonitorState.framesOf (s : MonitorState) (op : MonitorOp) : List Frame :=
  (s.step op).sent.drop s.sent.length

/-- The time of an operation that has one. -/
def MonitorOp.time? : MonitorOp → Option Nat
  | .announce _ _ now | .heartbeat _ _ now | .tick now _ | .observe _ _ now => some now
  | .apply _ | .lead _ _ => none

def times (ops : List MonitorOp) : List Nat := ops.filterMap MonitorOp.time?

/-- The times of a run never go back. -/
def TimesOrdered (ops : List MonitorOp) : Prop := (times ops).Pairwise (· ≤ ·)

instance (ops : List MonitorOp) : Decidable (TimesOrdered ops) :=
  inferInstanceAs (Decidable (List.Pairwise _ _))

/-- The operation is a heartbeat, an announcement or a committed transition of the node. -/
def MonitorOp.Names (nodeId : UInt8) : MonitorOp → Prop
  | .announce srcNode _ _ | .heartbeat srcNode _ _ => srcNode = nodeId
  | .apply t => t.targetNode = nodeId
  | .tick _ _ | .observe _ _ _ | .lead _ _ => False

def MonitorOp.isApply : MonitorOp → Bool
  | .apply _ => true
  | _ => false

def MonitorOp.isLead : MonitorOp → Bool
  | .lead _ _ => true
  | _ => false

/-- A transition is applied only as the next one of the node's own log: what is applied is what was
accepted, in log order, each entry any number of operations after it was proposed. -/
def AppliesOwnLog (c : Setup) (pre : List MonitorOp) : MonitorOp → Prop
  | .apply t => (c.reach pre).port.log[pre.countP MonitorOp.isApply]? = some t
  | _ => True

instance (c : Setup) (pre : List MonitorOp) : ∀ op, Decidable (AppliesOwnLog c pre op)
  | .apply _ => inferInstanceAs (Decidable (_ = _))
  | .announce .. | .heartbeat .. | .tick .. | .observe .. | .lead .. =>
      inferInstanceAs (Decidable True)

/-- A run on a node that leads throughout, on a clock that does not wrap, with the node's own log
applied in order. -/
structure LeaderRun (c : Setup) (ops : List MonitorOp) : Prop where
  leader : c.leader = true
  noLead : ∀ op ∈ ops, op.isLead = false
  ordered : TimesOrdered ops
  noWrap : ∀ t ∈ times ops, t < 2 ^ 32
  ownLog : Throughout (AppliesOwnLog c) ops

theorem TimesOrdered.le_of_split {pre post : List MonitorOp} {op : MonitorOp} {now t : Nat}
    (h : TimesOrdered (pre ++ op :: post)) (hnow : op.time? = some now) (ht : t ∈ times pre) :
    t ≤ now := by
  rw [TimesOrdered, times, List.filterMap_append, List.filterMap_cons_some hnow,
    List.pairwise_append] at h
  exact h.2.2 t ht now List.mem_cons_self

theorem TimesOrdered.initial {ops more : List MonitorOp} (h : TimesOrdered ops) (hmore : more <+: ops) :
    TimesOrdered more := by
  obtain ⟨rest, rfl⟩ := hmore
  rw [TimesOrdered, times, List.filterMap_append, List.pairwise_append] at h
  exact h.1

theorem mem_times_of_split {pre post : List MonitorOp} {op : MonitorOp} {now : Nat}
    (hnow : op.time? = some now) : now ∈ times (pre ++ op :: post) := by
  rw [times, List.filterMap_append, List.filterMap_cons_some hnow]
  exact List.mem_append_right _ List.mem_cons_self

theorem times_snoc (ops : List MonitorOp) (op : MonitorOp) :
    times (ops ++ [op]) = times ops ++ op.time?.toList := by
  unfold times
  cases h : op.time? <;> simp [h]

/-- One step of a run on a leader. -/
structure LeaderStep (c : Setup) (pre : List MonitorOp) (op : MonitorOp) : Prop where
  noLead : op.isLead = false
  after : ∀ now, op.time? = some now → ∀ t ∈ times pre, t ≤ now
  noWrap : ∀ now, op.time? = some now → now < 2 ^ 32
  ownLog : AppliesOwnLog c pre op

theorem LeaderRun.throughout {c : Setup} {ops : List MonitorOp} (h : LeaderRun c ops) :
    Throughout (LeaderStep c) ops := by
  intro pre op post hsplit
  exact {
    noLead := h.noLead op (by rw [hsplit]; simp)
    after := fun now hnow t ht => TimesOrdered.le_of_split (hsplit ▸ h.ordered) hnow ht
    noWrap := fun now hnow => h.noWrap now (hsplit ▸ mem_times_of_split hnow)
    ownLog := h.ownLog pre op post hsplit }

/-! ### The proposals of an operation -/

def MonitorState.proposals (s : MonitorState) : MonitorOp → List Proposal
  | .heartbeat srcNode _ _ => heartbeatProposals s.hm srcNode
  | .tick now beyond => tickProposals s.hm s.port.leader (clock now) beyond
  | _ => []

/-- Proposals as the port records them. -/
def OraclePort.recorded (p : OraclePort) (ps : List Proposal) : List (Transition × Int) :=
  ps.mapIdx fun n q => (q.inTerm p.term, p.answer (p.calls.length + n))

theorem OraclePort.submitAll_eq (p : OraclePort) (ps : List Proposal) :
    api.submitAll p ps = { p with calls := p.calls ++ p.recorded ps } := by
  induction ps generalizing p with
  | nil => simp [OracleApi.submitAll, recorded]
  | cons q ps ih =>
      have hstep : api.submitAll p (q :: ps) = api.submitAll (api.submit p q) ps := rfl
      rw [hstep, ih]
      simp [api, OracleApi.submit, recorded, answer, Proposal.inTerm, List.mapIdx_cons,
        Nat.add_assoc, Nat.add_comm 1]

theorem OraclePort.keepsLeadership : OraclePort.api.KeepsLeadership := fun _ _ => rfl

theorem OraclePort.mem_recorded {p : OraclePort} {ps : List Proposal} {call : Transition × Int}
    (h : call ∈ p.recorded ps) : ∃ q ∈ ps, call.1 = q.inTerm p.term := by
  rw [recorded, List.mem_mapIdx] at h
  obtain ⟨n, hn, rfl⟩ := h
  exact ⟨ps[n], List.getElem_mem hn, rfl⟩

theorem OraclePort.recorded_mem {p : OraclePort} {ps : List Proposal} {q : Proposal} (h : q ∈ ps) :
    ∃ n, (q.inTerm p.term, p.answer n) ∈ p.recorded ps := by
  obtain ⟨n, hn, rfl⟩ := List.getElem_of_mem h
  exact ⟨p.calls.length + n, List.mem_mapIdx.mpr ⟨n, hn, rfl⟩⟩

theorem OraclePort.map_recorded (p : OraclePort) (ps : List Proposal) :
    (p.recorded ps).map Prod.fst = ps.map (·.inTerm p.term) := by
  refine List.ext_getElem (by simp [recorded]) fun n _ _ => ?_
  simp [recorded]

/-! ### What one operation does -/

/-- The monitor after an operation. -/
def MonitorState.nextMonitor (s : MonitorState) : MonitorOp → HealthMonitor
  | .announce srcNode ann now =>
      s.hm.update srcNode 0 (announcedSlot s.hm.boxId ann.nodeType (clock now))
  | .heartbeat srcNode _ now => heardMonitor s.hm srcNode (clock now)
  | .tick now beyond => tickedMonitor s.hm s.port.leader (clock now) beyond
  | .apply t => s.hm.update t.targetNode t.targetBox (committedSlot t.newStatus t.term)
  | .observe peer obs now =>
      if obs = [] then s.hm else healthMonitorUpdateCorroboration s.hm peer obs (clock now)
  | .lead _ _ => s.hm

theorem MonitorState.step_hm (s : MonitorState) (op : MonitorOp) :
    (s.step op).hm = s.nextMonitor op := by
  cases op with
  | announce srcNode ann now => simp [step, nextMonitor, healthMonitorProcessAnnounce_eq]
  | heartbeat srcNode hb now => simp [step, nextMonitor, healthMonitorProcessHeartbeat_eq]
  | tick now beyond =>
      simp [step, nextMonitor, healthMonitorTick_eq OraclePort.keepsLeadership]
  | apply t => simp [step, nextMonitor, healthTableApply_eq]
  | observe peer obs now =>
      simp only [step, nextMonitor]
      split <;> rfl
  | lead leader term => rfl

/-- An operation only adds its proposals to the port, and `lead` sets leadership and the term. -/
theorem MonitorState.step_port (s : MonitorState) (op : MonitorOp) :
    (s.step op).port = match op with
      | .lead leader term => { s.port with leader, term }
      | _ => { s.port with calls := s.port.calls ++ s.port.recorded (s.proposals op) } := by
  cases op with
  | heartbeat srcNode hb now =>
      simp [step, proposals, healthMonitorProcessHeartbeat_eq, OraclePort.submitAll_eq]
  | tick now beyond =>
      simp [step, proposals, healthMonitorTick_eq OraclePort.keepsLeadership,
        OraclePort.submitAll_eq]
  | observe peer obs now =>
      simp only [step, proposals]
      split <;> simp [OraclePort.recorded]
  | announce | apply | lead => simp [step, proposals, OraclePort.recorded]

theorem MonitorState.step_calls (s : MonitorState) (op : MonitorOp) :
    (s.step op).port.calls = s.port.calls ++ s.port.recorded (s.proposals op) := by
  rw [step_port]
  cases op with
  | lead leader term => exact (List.append_nil _).symm
  | announce | heartbeat | tick | apply | observe => rfl

theorem MonitorState.callsOf_eq (s : MonitorState) (op : MonitorOp) :
    s.callsOf op = s.port.recorded (s.proposals op) := by
  rw [callsOf, step_calls, List.drop_left]

theorem MonitorState.step_log (s : MonitorState) (op : MonitorOp) :
    (s.step op).port.log = s.port.log ++ acceptedCalls (s.callsOf op) := by
  rw [OraclePort.log, step_calls, acceptedCalls, List.filterMap_append, callsOf_eq]
  rfl

theorem MonitorState.framesOf_announce (s : MonitorState) (srcNode : UInt8) (ann : PayloadNodeAnnounce)
    (now : Nat) : s.framesOf (.announce srcNode ann now)
      = if s.hm.HasRoom srcNode ∧ s.hm.transport then [announceAck s.hm srcNode] else [] := by
  simp only [framesOf, step, healthMonitorProcessAnnounce_eq, List.drop_left]

theorem MonitorState.framesOf_apply (s : MonitorState) (t : Transition) :
    s.framesOf (.apply t)
      = if s.hm.HasRoom t.targetNode ∧ s.hm.statusOf t.targetNode ≠ t.newStatus ∧ s.hm.transport then
          [healthEvent t.targetNode t.targetBox t.oldStatus t.newStatus t.term
            (s.hm.slotOf t.targetNode t.targetBox).entry.lastSeenMs]
        else [] := by
  simp only [framesOf, step, healthTableApply_eq, List.drop_left]

theorem Setup.calls_initial (c : Setup) (ops more : List MonitorOp) :
    (c.reach ops).port.calls <+: (c.reach (ops ++ more)).port.calls := by
  induction more using List.reverseRecOn with
  | nil => rw [List.append_nil]
  | append_singleton more op ih =>
      rw [← List.append_assoc, reach_snoc, MonitorState.step_calls]
      exact ih.trans (List.prefix_append _ _)

theorem Setup.mem_calls_of_callsOf (c : Setup) {pre : List MonitorOp} {op : MonitorOp}
    {call : Transition × Int} (h : call ∈ (c.reach pre).callsOf op) (post : List MonitorOp) :
    call ∈ (c.reach (pre ++ op :: post)).port.calls := by
  have hprefix := c.calls_initial (pre ++ [op]) post
  rw [List.append_assoc, List.singleton_append, reach_snoc] at hprefix
  exact hprefix.subset (List.mem_of_mem_drop h)

theorem MonitorState.step_leader (s : MonitorState) (op : MonitorOp) :
    (s.step op).port.leader = match op with
      | .lead leader _ => leader
      | _ => s.port.leader := by
  rw [step_port]
  cases op <;> rfl

@[simp] theorem heardMonitor_boxId (hm : HealthMonitor) (srcNode : UInt8) (nowMs : UInt32) :
    (heardMonitor hm srcNode nowMs).boxId = hm.boxId := by
  unfold heardMonitor
  split <;> rfl

theorem MonitorState.step_boxId (s : MonitorState) (op : MonitorOp) :
    (s.step op).hm.boxId = s.hm.boxId := by
  rw [step_hm]
  cases op with
  | observe peer obs now =>
      simp only [nextMonitor]
      split <;> simp
  | announce | heartbeat | tick | apply | lead => simp [nextMonitor, tickedMonitor]

theorem Setup.reach_boxId (c : Setup) (ops : List MonitorOp) :
    (c.reach ops).hm.boxId = c.boxId := by
  induction ops using List.reverseRecOn with
  | nil => rfl
  | append_singleton ops op ih => rw [reach_snoc, MonitorState.step_boxId, ih]

theorem MonitorState.step_lastTickMs (s : MonitorState) (op : MonitorOp) :
    (s.step op).hm.lastTickMs = match op with
      | .tick now _ => clock now
      | _ => s.hm.lastTickMs := by
  rw [step_hm]
  cases op with
  | heartbeat srcNode hb now =>
      simp only [nextMonitor, heardMonitor]
      split <;> rfl
  | observe peer obs now =>
      simp only [nextMonitor, healthMonitorUpdateCorroboration]
      split
      · rfl
      · split <;> rfl
  | announce | tick | apply | lead => simp [nextMonitor, tickedMonitor]

/-- What an operation does to the entry of a node. -/
theorem MonitorState.step_lookup (s : MonitorState) (op : MonitorOp) (nodeId : UInt8) :
    (s.step op).hm.lookup nodeId = match op with
      | .announce srcNode ann now =>
          if nodeId = srcNode ∧ s.hm.HasRoom srcNode then
            some (announcedSlot s.hm.boxId ann.nodeType (clock now) (s.hm.slotOf srcNode 0))
          else s.hm.lookup nodeId
      | .heartbeat srcNode _ now =>
          if nodeId = srcNode then (s.hm.lookup srcNode).map (heardSlot (clock now))
          else s.hm.lookup nodeId
      | .tick now beyond =>
          if s.hm.Ticks (clock now) then
            (s.hm.lookup nodeId).map (tickedSlot s.hm s.port.leader (clock now) beyond)
          else s.hm.lookup nodeId
      | .apply t =>
          if nodeId = t.targetNode ∧ s.hm.HasRoom t.targetNode then
            some (committedSlot t.newStatus t.term (s.hm.slotOf t.targetNode t.targetBox))
          else s.hm.lookup nodeId
      | .observe _ _ _ | .lead _ _ => s.hm.lookup nodeId := by
  rw [step_hm]
  cases op with
  | announce srcNode ann now =>
      exact s.hm.lookup_update srcNode 0 (announcedSlot_nodeId _ _ _) nodeId
  | heartbeat srcNode hb now => exact lookup_heardMonitor s.hm srcNode (clock now) nodeId
  | tick now beyond => exact lookup_tickedMonitor s.hm s.port.leader (clock now) beyond nodeId
  | apply t =>
      exact s.hm.lookup_update t.targetNode t.targetBox (committedSlot_nodeId _ _) nodeId
  | observe peer obs now =>
      simp only [nextMonitor]
      split
      · rfl
      · simp [HealthMonitor.lookup]
  | lead leader term => rfl

/-- Where the slot that a node has after an operation comes from. -/
inductive SlotStep (s : MonitorState) (nodeId : UInt8) : MonitorOp → Slot → Prop
  | kept {op : MonitorOp} {slot : Slot} : ¬op.Names nodeId → s.hm.lookup nodeId = some slot →
      SlotStep s nodeId op slot
  | announced (ann : PayloadNodeAnnounce) (now : Nat) :
      SlotStep s nodeId (.announce nodeId ann now)
        (announcedSlot s.hm.boxId ann.nodeType (clock now) (s.hm.slotOf nodeId 0))
  | heard (hb : PayloadNodeHeartbeat) (now : Nat) {old : Slot} : s.hm.lookup nodeId = some old →
      SlotStep s nodeId (.heartbeat nodeId hb now) (heardSlot (clock now) old)
  | ticked (now : Nat) (beyond : Nat → UInt8) {old : Slot} : s.hm.Ticks (clock now) →
      s.hm.lookup nodeId = some old →
      SlotStep s nodeId (.tick now beyond) (tickedSlot s.hm s.port.leader (clock now) beyond old)
  | committed (t : Transition) : t.targetNode = nodeId →
      SlotStep s nodeId (.apply t)
        (committedSlot t.newStatus t.term (s.hm.slotOf nodeId t.targetBox))

theorem MonitorState.slotStep {s : MonitorState} {op : MonitorOp} {nodeId : UInt8} {slot : Slot}
    (h : (s.step op).hm.lookup nodeId = some slot) : SlotStep s nodeId op slot := by
  rw [step_lookup] at h
  cases op with
  | announce srcNode ann now =>
      dsimp only at h
      split at h
      · rename_i hroom
        obtain ⟨rfl, -⟩ := hroom
        rw [← Option.some.inj h]
        exact .announced ann now
      · rename_i hroom
        refine .kept (fun hid => hroom ⟨Eq.symm hid, .inl ?_⟩) h
        rw [show srcNode = nodeId from hid, h]
        simp
  | heartbeat srcNode hb now =>
      dsimp only at h
      split at h
      · rename_i hid
        obtain rfl := hid
        obtain ⟨old, hold, rfl⟩ := Option.map_eq_some_iff.mp h
        exact .heard hb now hold
      · rename_i hid
        exact .kept (fun hnames => hid (Eq.symm hnames)) h
  | tick now beyond =>
      dsimp only at h
      split at h
      · rename_i hticks
        obtain ⟨old, hold, rfl⟩ := Option.map_eq_some_iff.mp h
        exact .ticked now beyond hticks hold
      · exact .kept id h
  | apply t =>
      dsimp only at h
      split at h
      · rename_i hroom
        obtain ⟨rfl, -⟩ := hroom
        rw [← Option.some.inj h]
        exact .committed t rfl
      · rename_i hroom
        refine .kept (fun hid => hroom ⟨Eq.symm hid, .inl ?_⟩) h
        rw [show t.targetNode = nodeId from hid, h]
        simp
  | observe | lead => exact .kept id h

/-- Every proposal of an operation is about a slot of the table, with its node, box and status. -/
theorem MonitorState.mem_proposals {s : MonitorState} {op : MonitorOp} {q : Proposal}
    (h : q ∈ s.proposals op) : ∃ slot ∈ s.hm.slots, q = slot.propose q.newStatus := by
  cases op with
  | heartbeat srcNode hb now =>
      obtain ⟨slot, hlookup, -, rfl⟩ := mem_heartbeatProposals.mp h
      exact ⟨slot, mem_of_lookup hlookup, rfl⟩
  | tick now beyond =>
      obtain ⟨-, slot, hslot, hprop⟩ := mem_tickProposals.mp h
      rcases slotProposal_eq_some.mp hprop with ⟨-, -, rfl⟩ | ⟨-, -, -, -, rfl⟩
      all_goals exact ⟨slot, hslot, rfl⟩
  | announce | apply | observe | lead => cases h

/-- An entry, once made, stays. -/
theorem MonitorState.step_lookup_ne_none {s : MonitorState} (op : MonitorOp) {nodeId : UInt8}
    (h : s.hm.lookup nodeId ≠ none) : (s.step op).hm.lookup nodeId ≠ none := by
  rw [step_lookup]
  cases op with
  | announce | apply =>
      dsimp only
      split
      · simp
      · exact h
  | heartbeat | tick =>
      dsimp only
      split
      · simp_all
      · exact h
  | observe | lead => exact h

theorem MonitorState.exists_lookup_step {s : MonitorState} (op : MonitorOp) {nodeId : UInt8}
    {slot : Slot} (h : s.hm.lookup nodeId = some slot) :
    ∃ after, (s.step op).hm.lookup nodeId = some after :=
  Option.ne_none_iff_exists'.mp (step_lookup_ne_none op (by simp [h]))

/-! ### The table in every reachable state -/

theorem HealthMonitor.nodup_setSlot {hm : HealthMonitor} {nodeId : UInt8} {idx : Nat} {s : Slot}
    (hfind : findNode hm nodeId = some idx) (hs : s.nodeId = nodeId)
    (h : (hm.slots.map Slot.nodeId).Nodup) : ((hm.setSlot idx s).slots.map Slot.nodeId).Nodup := by
  obtain ⟨hidx, hkey, -⟩ := List.findIdx?_eq_some_iff_getElem.mp hfind
  exact nodup_set h hidx (by rw [hs]; simpa using (beq_iff_eq.mp hkey).symm)

theorem HealthMonitor.nodup_update {hm : HealthMonitor} (nodeId boxId : UInt8) {f : Slot → Slot}
    (hf : ∀ s, (f s).nodeId = s.nodeId) (h : (hm.slots.map Slot.nodeId).Nodup) :
    ((hm.update nodeId boxId f).slots.map Slot.nodeId).Nodup := by
  unfold update
  cases hfind : findNode hm nodeId with
  | some idx => exact nodup_setSlot hfind (by rw [hf, slot_nodeId hfind]) h
  | none =>
      dsimp only
      split
      · exact h
      · have hkey : (f (Slot.fresh nodeId boxId)).nodeId = nodeId := hf _
        exact nodup_append h (by rw [hkey]; exact lookup_eq_none.mp hfind)

theorem MonitorState.step_nodup {s : MonitorState} (op : MonitorOp)
    (h : (s.hm.slots.map Slot.nodeId).Nodup) : ((s.step op).hm.slots.map Slot.nodeId).Nodup := by
  rw [step_hm]
  cases op with
  | announce srcNode ann now => exact HealthMonitor.nodup_update _ _ (announcedSlot_nodeId _ _ _) h
  | heartbeat srcNode hb now =>
      simp only [nextMonitor, heardMonitor]
      cases hfind : findNode s.hm srcNode with
      | none => exact h
      | some idx =>
          refine HealthMonitor.nodup_setSlot hfind ?_ h
          rw [heardSlot_nodeId, HealthMonitor.slot_nodeId hfind]
  | tick now beyond =>
      simp only [nextMonitor, tickedMonitor]
      split
      · simpa [Function.comp_def] using h
      · exact h
  | apply t => exact HealthMonitor.nodup_update _ _ (committedSlot_nodeId _ _) h
  | observe peer obs now =>
      simp only [nextMonitor]
      split
      · exact h
      · simpa using h
  | lead leader term => exact h

/-- No two slots belong to one node. -/
theorem Setup.reach_nodup (c : Setup) (ops : List MonitorOp) :
    ((c.reach ops).hm.slots.map Slot.nodeId).Nodup := by
  induction ops using List.reverseRecOn with
  | nil => exact List.nodup_nil
  | append_singleton ops op ih =>
      rw [reach_snoc]
      exact MonitorState.step_nodup op ih

theorem HealthMonitor.lookup_ne_none {hm : HealthMonitor} {s : Slot} (h : s ∈ hm.slots) :
    hm.lookup s.nodeId ≠ none := by
  intro hnone
  exact Base.lookup_eq_none.mp hnone (List.mem_map_of_mem h)

theorem Setup.lookup_of_mem_slots (c : Setup) (ops : List MonitorOp) {s : Slot}
    (h : s ∈ (c.reach ops).hm.slots) : (c.reach ops).hm.lookup s.nodeId = some s :=
  lookup_of_mem (c.reach_nodup ops) h

/-- A tick proposes a status for a node exactly if it does so for the slot the node finds. -/
theorem MonitorState.tick_proposes_iff {s : MonitorState}
    (hnodup : (s.hm.slots.map Slot.nodeId).Nodup) {now : Nat} {beyond : Nat → UInt8}
    {nodeId status : UInt8} :
    (∃ call ∈ s.callsOf (.tick now beyond),
        call.1.targetNode = nodeId ∧ call.1.newStatus = status) ↔
      s.hm.Ticks (clock now) ∧ ∃ slot ∈ s.hm.lookup nodeId,
        slotProposal s.hm s.port.leader (clock now) beyond slot = some (slot.propose status) := by
  rw [callsOf_eq]
  constructor
  · rintro ⟨call, hcall, hnode, hnew⟩
    obtain ⟨q, hq, hcall⟩ := OraclePort.mem_recorded hcall
    obtain ⟨hticks, slot, hslot, hprop⟩ := mem_tickProposals.mp hq
    have hq' : q = slot.propose q.newStatus := by
      rcases slotProposal_eq_some.mp hprop with ⟨-, -, rfl⟩ | ⟨-, -, -, -, rfl⟩ <;> rfl
    rw [hcall] at hnode hnew
    have hid : slot.nodeId = nodeId := by
      rw [← hnode, hq']
      rfl
    have hlookup : s.hm.lookup slot.nodeId = some slot := lookup_of_mem hnodup hslot
    refine ⟨hticks, slot, hid ▸ hlookup, ?_⟩
    rw [hprop, hq']
    exact congrArg _ (congrArg _ hnew)
  · rintro ⟨hticks, slot, hlookup, hprop⟩
    have hq : slot.propose status ∈ s.proposals (.tick now beyond) :=
      mem_tickProposals.mpr ⟨hticks, slot, mem_of_lookup hlookup, hprop⟩
    obtain ⟨n, hn⟩ := OraclePort.recorded_mem (p := s.port) hq
    have hid : slot.nodeId = nodeId := key_of_lookup hlookup
    exact ⟨_, hn, hid, rfl⟩

theorem Setup.lookup_of_call (c : Setup) (ops : List MonitorOp) {call : Transition × Int}
    (h : call ∈ (c.reach ops).port.calls) : (c.reach ops).hm.lookup call.1.targetNode ≠ none := by
  induction ops using List.reverseRecOn with
  | nil => cases h
  | append_singleton ops op ih =>
      rw [reach_snoc] at h ⊢
      rw [MonitorState.step_calls] at h
      apply MonitorState.step_lookup_ne_none
      rcases List.mem_append.mp h with hcall | hcall
      · exact ih hcall
      · obtain ⟨q, hq, hcall⟩ := OraclePort.mem_recorded hcall
        obtain ⟨slot, hslot, hprop⟩ := MonitorState.mem_proposals hq
        rw [hcall, hprop]
        exact HealthMonitor.lookup_ne_none hslot

theorem mem_acceptedCalls {calls : List (Transition × Int)} {t : Transition} :
    t ∈ acceptedCalls calls ↔ (t, 0) ∈ calls := by
  rw [acceptedCalls, List.mem_filterMap]
  constructor
  · rintro ⟨⟨call, result⟩, hcall, hsome⟩
    split at hsome
    · rename_i hok
      obtain rfl := Option.some.inj hsome
      exact (show result = 0 from hok) ▸ hcall
    · cases hsome
  · exact fun h => ⟨(t, 0), h, rfl⟩

/-- A log entry that is applied is one that was accepted, so it belongs to a registered node. -/
theorem LeaderStep.mem_calls {c : Setup} {pre : List MonitorOp} {t : Transition}
    (h : LeaderStep c pre (.apply t)) : (t, 0) ∈ (c.reach pre).port.calls :=
  mem_acceptedCalls.mp (List.mem_of_getElem? h.ownLog)

theorem LeaderStep.lookup_applied {c : Setup} {pre : List MonitorOp} {t : Transition}
    (h : LeaderStep c pre (.apply t)) : ∃ s, (c.reach pre).hm.lookup t.targetNode = some s :=
  Option.ne_none_iff_exists'.mp (c.lookup_of_call pre h.mem_calls)

/-! ### The ids in use

Slots are taken at the end of the table and never given back, so an operation appends to the list of
ids, or leaves it. -/

/-- The registered ids in slot order. -/
def HealthMonitor.ids (hm : HealthMonitor) : List UInt8 := hm.slots.map Slot.nodeId

/-- The node that an operation gives a slot to if it has none. -/
def MonitorOp.registers? : MonitorOp → Option UInt8
  | .announce srcNode _ _ => some srcNode
  | .apply t => some t.targetNode
  | .heartbeat .. | .tick .. | .observe .. | .lead .. => none

/-- The id that an operation appends. -/
def HealthMonitor.newId (hm : HealthMonitor) (op : MonitorOp) : Option UInt8 :=
  op.registers?.filter fun nodeId => nodeId ∉ hm.ids ∧ hm.ids.length < maxHealthNodes

theorem HealthMonitor.lookup_eq_none_iff {hm : HealthMonitor} {nodeId : UInt8} :
    hm.lookup nodeId = none ↔ nodeId ∉ hm.ids := Base.lookup_eq_none

theorem HealthMonitor.hasRoom_iff {hm : HealthMonitor} {nodeId : UInt8} :
    hm.HasRoom nodeId ↔ nodeId ∈ hm.ids ∨ hm.ids.length < maxHealthNodes := by
  rw [HasRoom, Ne, lookup_eq_none_iff, not_not, ids, List.length_map]

theorem HealthMonitor.index_unique {hm : HealthMonitor} (hnodup : hm.ids.Nodup) {nodeId : UInt8}
    {i j : Nat} (hi : hm.ids[i]? = some nodeId) (hj : hm.ids[j]? = some nodeId) : i = j := by
  obtain ⟨hlt, -⟩ := List.getElem?_eq_some_iff.mp hi
  exact (List.getElem?_inj hlt hnodup).mp (hi.trans hj.symm)

theorem HealthMonitor.ids_setSlot {hm : HealthMonitor} {nodeId : UInt8} {idx : Nat} {s : Slot}
    (hfind : findNode hm nodeId = some idx) (hs : s.nodeId = nodeId) :
    (hm.setSlot idx s).ids = hm.ids := by
  obtain ⟨hidx, hkey, -⟩ := List.findIdx?_eq_some_iff_getElem.mp hfind
  have hlt : idx < hm.ids.length := by simpa [ids] using hidx
  have hsame : s.nodeId = hm.ids[idx] := by
    rw [hs]
    simpa [ids] using (beq_iff_eq.mp hkey).symm
  rw [ids, setSlot, List.map_set, hsame]
  exact List.set_getElem_self _

theorem HealthMonitor.ids_update {hm : HealthMonitor} (nodeId boxId : UInt8) {f : Slot → Slot}
    (hf : ∀ s, (f s).nodeId = s.nodeId) :
    (hm.update nodeId boxId f).ids
      = hm.ids ++ if nodeId ∉ hm.ids ∧ hm.ids.length < maxHealthNodes then [nodeId] else [] := by
  unfold update
  cases hfind : findNode hm nodeId with
  | some idx =>
      have hmem : nodeId ∈ hm.ids := by
        by_contra hnot
        have hnone := lookup_eq_none_iff.mpr hnot
        rw [lookup_eq_some hfind] at hnone
        cases hnone
      simp [hmem, ids_setSlot hfind (by rw [hf, slot_nodeId hfind])]
  | none =>
      have hmem : nodeId ∉ hm.ids := lookup_eq_none_iff.mp (lookup_eq_none.mp hfind)
      have hlen : hm.ids.length = hm.slots.length := List.length_map _
      by_cases hfull : maxHealthNodes ≤ hm.slots.length
      · simp [hmem, hlen, hfull]
      · have hkey : (f (Slot.fresh nodeId boxId)).nodeId = nodeId := hf _
        have hroom : hm.ids.length < maxHealthNodes := by omega
        simp only [if_neg hfull, hmem, hroom, not_false_eq_true, and_self, if_true]
        simp [ids, hkey]

theorem MonitorState.step_ids (s : MonitorState) (op : MonitorOp) :
    (s.step op).hm.ids = s.hm.ids ++ (s.hm.newId op).toList := by
  have hnew : ∀ nodeId, (if nodeId ∉ s.hm.ids ∧ s.hm.ids.length < maxHealthNodes then [nodeId]
      else []) = ((some nodeId).filter fun x => x ∉ s.hm.ids ∧
        s.hm.ids.length < maxHealthNodes).toList := by
    intro nodeId
    by_cases hroom : nodeId ∉ s.hm.ids ∧ s.hm.ids.length < maxHealthNodes <;>
      simp [Option.filter, hroom]
  rw [step_hm]
  cases op with
  | announce srcNode ann now =>
      exact (HealthMonitor.ids_update _ _ (announcedSlot_nodeId _ _ _)).trans
        (congrArg _ (hnew srcNode))
  | apply t =>
      exact (HealthMonitor.ids_update _ _ (committedSlot_nodeId _ _)).trans
        (congrArg _ (hnew t.targetNode))
  | heartbeat srcNode hb now =>
      simp only [nextMonitor, heardMonitor, HealthMonitor.newId, MonitorOp.registers?]
      cases hfind : findNode s.hm srcNode with
      | none => simp
      | some idx =>
          have hkey : (heardSlot (clock now) (s.hm.slot idx)).nodeId = srcNode := by
            rw [heardSlot_nodeId, HealthMonitor.slot_nodeId hfind]
          simp [HealthMonitor.ids_setSlot hfind hkey]
  | tick now beyond =>
      simp only [nextMonitor, tickedMonitor, HealthMonitor.ids, HealthMonitor.newId,
        MonitorOp.registers?]
      split <;> simp [Function.comp_def]
  | observe peer obs now =>
      simp only [nextMonitor, HealthMonitor.newId, MonitorOp.registers?]
      split <;> simp [HealthMonitor.ids]
  | lead leader term => simp [nextMonitor, HealthMonitor.newId, MonitorOp.registers?]

end L2Oracle
