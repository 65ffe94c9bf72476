import L2Oracle.Health.Detector
import L2Oracle.Health.Recovery
import L2Oracle.Health.Replicas

/-!
# The log of one node on a stable leader

On a node that leads throughout, a heartbeat or a tick changes the status of a node exactly if it
proposes a transition for it, and the transition leads from the old status to the new one
(`MonitorState.statusOf_step`). So the table runs ahead of the log and the log follows. A commit goes
the other way: it writes the status of an older entry over that of a newer proposal.

Two things follow. The status of a node is that of its last entry whenever none of its entries waits
to be applied, so once everything is applied the table shows the log. In between it may not, and then
the next transition starts at a status that the log has left: the entries of the node are a path of
the state machine as long as each commit finds no newer entry with another status.
-/

namespace L2Oracle

open Base

/-- The status that the last entry of a node leads to, UP where it has none. -/
def lastStatus (nodeId : UInt8) (log : List Transition) : UInt8 :=
  ((entriesOf nodeId log).getLast?.map Transition.newStatus).getD nodeUp

/-- The edges of the state machine. -/
def Edge (old new : UInt8) : Prop :=
  (old = nodeUp ∧ new = nodeSuspect) ∨ (old = nodeSuspect ∧ new = nodeDown) ∨
    (old = nodeSuspect ∧ new = nodeUp) ∨ (old = nodeDown ∧ new = nodeUp)

instance (old new : UInt8) : Decidable (Edge old new) := inferInstanceAs (Decidable (_ ∨ _))

/-- The transitions are a path of the state machine that starts at the given status. -/
def IsPath : UInt8 → List Transition → Prop
  | _, [] => True
  | status, t :: ts => t.oldStatus = status ∧ Edge t.oldStatus t.newStatus ∧ IsPath t.newStatus ts

instance decidableIsPath : ∀ status ts, Decidable (IsPath status ts)
  | _, [] => inferInstanceAs (Decidable True)
  | _, t :: ts =>
      have := decidableIsPath t.newStatus ts
      inferInstanceAs (Decidable (_ ∧ _))

/-- The entries of every node are a path of the state machine from UP. -/
def LogIsPath (c : Setup) (ops : List MonitorOp) : Prop :=
  ∀ nodeId, IsPath nodeUp (entriesOf nodeId (c.reach ops).port.log)

/-- Only nodes without an entry announce themselves. -/
def AnnouncesNew (c : Setup) (pre : List MonitorOp) : MonitorOp → Prop
  | .announce srcNode _ _ => (c.reach pre).hm.lookup srcNode = none
  | _ => True

/-- Every proposal is accepted. -/
def AllAccepted (c : Setup) (pre : List MonitorOp) (op : MonitorOp) : Prop :=
  ∀ call ∈ (c.reach pre).callsOf op, call.2 = 0

/-- A commit finds no newer entry of its node that leads to another status. -/
def CommitsCurrent (c : Setup) (pre : List MonitorOp) : MonitorOp → Prop
  | .apply t => lastStatus t.targetNode (c.reach pre).port.log = t.newStatus
  | _ => True

/-- A run on a node that leads throughout and applies its own log, with announcements of new nodes
only. -/
structure StableLeader (c : Setup) (ops : List MonitorOp) : Prop where
  leader : c.leader = true
  noLead : ∀ op ∈ ops, op.isLead = false
  ownLog : Throughout (AppliesOwnLog c) ops
  announces : Throughout (AnnouncesNew c) ops

instance (c : Setup) (pre : List MonitorOp) : ∀ op, Decidable (AnnouncesNew c pre op)
  | .announce .. => inferInstanceAs (Decidable (_ = _))
  | .heartbeat .. | .tick .. | .apply .. | .observe .. | .lead .. =>
      inferInstanceAs (Decidable True)

instance (c : Setup) (pre : List MonitorOp) (op : MonitorOp) : Decidable (AllAccepted c pre op) :=
  inferInstanceAs (Decidable (∀ call ∈ (c.reach pre).callsOf op, _))

instance (c : Setup) (pre : List MonitorOp) : ∀ op, Decidable (CommitsCurrent c pre op)
  | .apply .. => inferInstanceAs (Decidable (_ = _))
  | .announce .. | .heartbeat .. | .tick .. | .observe .. | .lead .. =>
      inferInstanceAs (Decidable True)

/-! ### What one operation proposes for a node -/

/-- The proposal that an operation submits for a node. -/
def MonitorState.proposalFor (s : MonitorState) (nodeId : UInt8) : MonitorOp → Option Proposal
  | .heartbeat srcNode _ _ =>
      if srcNode = nodeId then
        (s.hm.lookup nodeId).bind fun slot =>
          if Failing slot.status then some (slot.propose nodeUp) else none
      else none
  | .tick now beyond =>
      if s.hm.Ticks (clock now) then
        (s.hm.lookup nodeId).bind (slotProposal s.hm s.port.leader (clock now) beyond)
      else none
  | .announce .. | .apply .. | .observe .. | .lead .. => none

theorem slotProposal_targetNode {hm : HealthMonitor} {leader : Bool} {nowMs : UInt32}
    {beyond : Nat → UInt8} {slot : Slot} {q : Proposal}
    (h : slotProposal hm leader nowMs beyond slot = some q) : q.targetNode = slot.nodeId := by
  rcases slotProposal_eq_some.mp h with ⟨-, -, rfl⟩ | ⟨-, -, -, -, rfl⟩ <;> rfl

/-- An operation submits at most one proposal for a node. -/
theorem MonitorState.filter_proposals {s : MonitorState} (hnodup : s.hm.ids.Nodup)
    (op : MonitorOp) (nodeId : UInt8) :
    (s.proposals op).filter (fun q => q.targetNode = nodeId)
      = (s.proposalFor nodeId op).toList := by
  cases op with
  | heartbeat srcNode hb now =>
      simp only [proposals, proposalFor, heartbeatProposals]
      cases hlookup : s.hm.lookup srcNode with
      | none =>
          by_cases hid : srcNode = nodeId
          · subst hid
            simp [hlookup]
          · simp [hid]
      | some slot =>
          have hkey : slot.nodeId = srcNode := key_of_lookup hlookup
          have htarget : (slot.propose nodeUp).targetNode = srcNode := hkey
          by_cases hid : srcNode = nodeId
          · subst hid
            by_cases hfail : Failing slot.status <;> simp [hlookup, hfail, htarget]
          · by_cases hfail : Failing slot.status <;> simp [hfail, htarget, hid]
  | tick now beyond =>
      simp only [proposals, proposalFor, tickProposals]
      by_cases hticks : s.hm.Ticks (clock now)
      · simp only [if_pos hticks]
        exact filter_filterMap (fun _ _ => slotProposal_targetNode) hnodup nodeId
      · simp only [if_neg hticks]
        rfl
  | announce | apply | observe | lead => rfl

/-- What is proposed for a node leads from its status along an edge. -/
theorem MonitorState.edge_of_proposalFor {s : MonitorState} {nodeId : UInt8} {op : MonitorOp}
    {q : Proposal} (h : s.proposalFor nodeId op = some q) :
    q.targetNode = nodeId ∧ q.oldStatus = s.hm.statusOf nodeId ∧ Edge q.oldStatus q.newStatus := by
  cases op with
  | heartbeat srcNode hb now =>
      simp only [proposalFor] at h
      split at h
      · obtain ⟨slot, hlookup, hpropose⟩ := Option.bind_eq_some_iff.mp h
        have hkey : slot.nodeId = nodeId := key_of_lookup hlookup
        split at hpropose
        · rename_i hfail
          obtain rfl := Option.some.inj hpropose
          refine ⟨hkey, (statusOf_eq hlookup).symm, ?_⟩
          rcases hfail with hsus | hdown
          · exact .inr (.inr (.inl ⟨hsus, rfl⟩))
          · exact .inr (.inr (.inr ⟨hdown, rfl⟩))
        · cases hpropose
      · cases h
  | tick now beyond =>
      simp only [proposalFor] at h
      split at h
      · obtain ⟨slot, hlookup, hpropose⟩ := Option.bind_eq_some_iff.mp h
        have hkey : slot.nodeId = nodeId := key_of_lookup hlookup
        rcases slotProposal_eq_some.mp hpropose with ⟨hup, -, rfl⟩ | ⟨hsus, -, -, -, rfl⟩
        · exact ⟨hkey, (statusOf_eq hlookup).symm, .inl ⟨hup, rfl⟩⟩
        · exact ⟨hkey, (statusOf_eq hlookup).symm, .inr (.inl ⟨hsus, rfl⟩)⟩
      · cases h
  | announce | apply | observe | lead => cases h

/-- On a leader, a tick changes a status exactly if it proposes the change. -/
theorem tickedSlot_status_leader (hm : HealthMonitor) (nowMs : UInt32) (beyond : Nat → UInt8)
    (s : Slot) :
    (tickedSlot hm true nowMs beyond s).status
      = ((slotProposal hm true nowMs beyond s).map Proposal.newStatus).getD s.status := by
  rw [tickedSlot_status]
  unfold slotProposal
  by_cases hup : s.status = nodeUp
  · have hsus : s.status ≠ nodeSuspect := hup ▸ nodeUp_ne_nodeSuspect
    by_cases hmiss : MissesEnough nowMs s <;> simp [hup, hmiss, Slot.propose, nodeUp_ne_nodeSuspect]
  · by_cases hsus : s.status = nodeSuspect
    · by_cases hdown : TimerExpired nowMs s ∧ corroborated hm beyond s.nodeId s.boxId nowMs = true
      · simp [hsus, hdown, Slot.propose, nodeUp_ne_nodeSuspect.symm]
      · simp [hsus, hdown, nodeUp_ne_nodeSuspect.symm]
    · simp [hup, hsus]

/-- On a leader, an operation that is neither an announcement nor a commit changes the status of a
node exactly if it proposes the change. -/
theorem MonitorState.statusOf_step {s : MonitorState} (hleader : s.port.leader = true)
    {op : MonitorOp} (hop : ∀ nodeId, op.registers? ≠ some nodeId) (nodeId : UInt8) :
    (s.step op).hm.statusOf nodeId
      = ((s.proposalFor nodeId op).map Proposal.newStatus).getD (s.hm.statusOf nodeId) := by
  have hstep := s.step_lookup op nodeId
  rw [HealthMonitor.statusOf, hstep, HealthMonitor.statusOf]
  cases op with
  | announce srcNode => exact absurd rfl (hop srcNode)
  | apply t => exact absurd rfl (hop t.targetNode)
  | heartbeat srcNode hb now =>
      simp only [proposalFor, eq_comm (a := nodeId)]
      by_cases hid : srcNode = nodeId
      · subst hid
        cases s.hm.lookup srcNode with
        | none => simp
        | some slot => by_cases hfail : Failing slot.status <;>
            simp [heardSlot_status, hfail, Slot.propose]
      · simp [hid]
  | tick now beyond =>
      simp only [proposalFor, hleader]
      by_cases hticks : s.hm.Ticks (clock now)
      · cases s.hm.lookup nodeId with
        | none => simp [hticks]
        | some slot => simp [hticks, tickedSlot_status_leader]
      · simp [hticks]
  | observe | lead => rfl

/-! ### What one operation adds to the log of a node -/

theorem Setup.log_snoc (c : Setup) (pre : List MonitorOp) (op : MonitorOp) :
    (c.reach (pre ++ [op])).port.log = (c.reach pre).port.log ++
      acceptedCalls ((c.reach pre).callsOf op) := by
  rw [reach_snoc, MonitorState.step_log]

theorem Setup.log_apply (c : Setup) (pre : List MonitorOp) (t : Transition) :
    (c.reach (pre ++ [.apply t])).port.log = (c.reach pre).port.log := by
  rw [log_snoc, MonitorState.callsOf_eq]
  exact List.append_nil _

theorem countP_isApply_snoc {op : MonitorOp} (pre : List MonitorOp) (h : op.isApply = false) :
    (pre ++ [op]).countP MonitorOp.isApply = pre.countP MonitorOp.isApply := by
  simp [h]

theorem entriesOf_append (nodeId : UInt8) (ts us : List Transition) :
    entriesOf nodeId (ts ++ us) = entriesOf nodeId ts ++ entriesOf nodeId us :=
  List.filter_append ..

theorem entriesOf_map_inTerm (nodeId : UInt8) (ps : List Proposal) (term : UInt32) :
    entriesOf nodeId (ps.map (·.inTerm term))
      = (ps.filter fun q => q.targetNode = nodeId).map (·.inTerm term) := by
  rw [entriesOf, List.filter_map]
  rfl

/-- Of what an operation adds to the log, the part of a node is what it proposes for the node. -/
theorem entriesOf_accepted {c : Setup} {pre : List MonitorOp} {op : MonitorOp}
    (haccepted : AllAccepted c pre op) (nodeId : UInt8) :
    entriesOf nodeId (acceptedCalls ((c.reach pre).callsOf op))
      = (((c.reach pre).proposalFor nodeId op).map (·.inTerm (c.reach pre).port.term)).toList := by
  have haccept : acceptedCalls ((c.reach pre).callsOf op)
        = ((c.reach pre).proposals op).map (·.inTerm (c.reach pre).port.term) := by
    rw [← OraclePort.map_recorded, ← MonitorState.callsOf_eq, ← List.filterMap_eq_map]
    exact List.filterMap_congr fun call hcall => if_pos (haccepted call hcall)
  rw [haccept, entriesOf_map_inTerm, MonitorState.filter_proposals (c.reach_nodup pre)]
  cases (c.reach pre).proposalFor nodeId op <;> rfl

theorem entriesOf_log_snoc {c : Setup} {pre : List MonitorOp} {op : MonitorOp}
    (haccepted : AllAccepted c pre op) (nodeId : UInt8) :
    entriesOf nodeId (c.reach (pre ++ [op])).port.log
      = entriesOf nodeId (c.reach pre).port.log
        ++ (((c.reach pre).proposalFor nodeId op).map (·.inTerm (c.reach pre).port.term)).toList := by
  rw [c.log_snoc, entriesOf_append, entriesOf_accepted haccepted]

theorem lastStatus_log_snoc {c : Setup} {pre : List MonitorOp} {op : MonitorOp}
    (haccepted : AllAccepted c pre op) (nodeId : UInt8) :
    lastStatus nodeId (c.reach (pre ++ [op])).port.log
      = (((c.reach pre).proposalFor nodeId op).map Proposal.newStatus).getD
        (lastStatus nodeId (c.reach pre).port.log) := by
  rw [lastStatus, entriesOf_log_snoc haccepted]
  cases (c.reach pre).proposalFor nodeId op with
  | none => simp [lastStatus]
  | some q => simp [Proposal.inTerm]

theorem statusOf_announce {c : Setup} {pre : List MonitorOp} {srcNode : UInt8}
    {ann : PayloadNodeAnnounce} {now : Nat} (hnew : AnnouncesNew c pre (.announce srcNode ann now))
    (nodeId : UInt8) :
    (c.reach (pre ++ [.announce srcNode ann now])).hm.statusOf nodeId
      = (c.reach pre).hm.statusOf nodeId := by
  have hstep := (c.reach pre).step_lookup (.announce srcNode ann now) nodeId
  have hnone : (c.reach pre).hm.lookup srcNode = none := hnew
  dsimp only at hstep
  rw [c.reach_snoc, HealthMonitor.statusOf, hstep, HealthMonitor.statusOf]
  split
  · rename_i hroom
    rw [hroom.1, hnone]
    rfl
  · rfl

theorem isPath_append {status : UInt8} {ts : List Transition} {t : Transition} :
    IsPath status (ts ++ [t]) ↔ IsPath status ts ∧
      t.oldStatus = (ts.getLast?.map Transition.newStatus).getD status ∧
        Edge t.oldStatus t.newStatus := by
  induction ts generalizing status with
  | nil => simp [IsPath]
  | cons u ts ih =>
      rw [List.cons_append, IsPath, ih, IsPath, List.getLast?_cons]
      cases ts.getLast? <;> simp [and_assoc]

/-! ### A stable leader's run -/

/-- One step of a run on a stable leader. -/
structure StableStep (c : Setup) (pre : List MonitorOp) (op : MonitorOp) : Prop where
  noLead : op.isLead = false
  ownLog : AppliesOwnLog c pre op
  announces : AnnouncesNew c pre op

theorem StableLeader.throughout {c : Setup} {ops : List MonitorOp} (h : StableLeader c ops) :
    Throughout (StableStep c) ops := by
  intro pre op post hsplit
  exact {
    noLead := h.noLead op (by rw [hsplit]; simp)
    ownLog := h.ownLog pre op post hsplit
    announces := h.announces pre op post hsplit }

theorem StableStep.leader {c : Setup} {pre : List MonitorOp} {op : MonitorOp}
    (h : StableStep c pre op) (hleader : (c.reach pre).port.leader = true) :
    (c.reach (pre ++ [op])).port.leader = true := by
  rw [c.reach_snoc, MonitorState.step_leader]
  cases op with
  | lead => cases h.noLead
  | announce | heartbeat | tick | apply | observe => exact hleader

/-- Every step but a commit changes the status of a node exactly if it proposes the change. -/
theorem StableStep.statusOf {c : Setup} {pre : List MonitorOp} {op : MonitorOp}
    (h : StableStep c pre op) (hleader : (c.reach pre).port.leader = true)
    (hno : op.isApply = false) (nodeId : UInt8) :
    (c.reach (pre ++ [op])).hm.statusOf nodeId
      = (((c.reach pre).proposalFor nodeId op).map Proposal.newStatus).getD
        ((c.reach pre).hm.statusOf nodeId) := by
  cases op with
  | announce => exact statusOf_announce h.announces nodeId
  | apply => cases hno
  | heartbeat | tick | observe | lead =>
      rw [c.reach_snoc]
      exact MonitorState.statusOf_step hleader (fun _ hbad => by cases hbad) nodeId

theorem StableStep.statusOf_apply {c : Setup} {pre : List MonitorOp} {t : Transition}
    (h : StableStep c pre (.apply t)) (nodeId : UInt8) :
    (c.reach (pre ++ [.apply t])).hm.statusOf nodeId
      = if nodeId = t.targetNode then t.newStatus else (c.reach pre).hm.statusOf nodeId := by
  have hmem := mem_acceptedCalls.mp (List.mem_of_getElem? h.ownLog)
  have hroom : (c.reach pre).hm.HasRoom t.targetNode := .inl (c.lookup_of_call pre hmem)
  have hstep := (c.reach pre).step_lookup (.apply t) nodeId
  dsimp only at hstep
  rw [c.reach_snoc]
  by_cases hid : nodeId = t.targetNode
  · rw [if_pos ⟨hid, hroom⟩] at hstep
    rw [if_pos hid, statusOf_eq hstep]
    rfl
  · rw [if_neg fun hbad => hid hbad.1] at hstep
    rw [if_neg hid, HealthMonitor.statusOf, hstep]
    rfl

/-! ### The table follows the log -/

/-- A node none of whose entries waits to be applied has the status of its last entry. -/
structure SettledInv (c : Setup) (pre : List MonitorOp) : Prop where
  leader : (c.reach pre).port.leader = true
  applied : pre.countP MonitorOp.isApply ≤ (c.reach pre).port.log.length
  settled : ∀ nodeId,
    entriesOf nodeId ((c.reach pre).port.log.drop (pre.countP MonitorOp.isApply)) = [] →
      (c.reach pre).hm.statusOf nodeId = lastStatus nodeId (c.reach pre).port.log

theorem SettledInv.step_apply {c : Setup} {pre : List MonitorOp} {t : Transition}
    (h : SettledInv c pre) (hstep : StableStep c pre (.apply t)) :
    SettledInv c (pre ++ [.apply t]) := by
  have hcount : (pre ++ [MonitorOp.apply t]).countP MonitorOp.isApply
      = pre.countP MonitorOp.isApply + 1 := by
    simp [MonitorOp.isApply]
  obtain ⟨hlt, hget⟩ := List.getElem?_eq_some_iff.mp hstep.ownLog
  have hdrop := List.drop_eq_getElem_cons hlt
  rw [hget] at hdrop
  refine ⟨hstep.leader h.leader, ?_, fun nodeId hnone => ?_⟩
  · rw [hcount, c.log_apply]
    exact hlt
  · rw [hcount, c.log_apply] at hnone
    rw [hstep.statusOf_apply, c.log_apply]
    by_cases hid : nodeId = t.targetNode
    · -- no entry of the node is left behind this one, so it is the last
      subst hid
      have hsplit : entriesOf t.targetNode (c.reach pre).port.log
          = entriesOf t.targetNode
              ((c.reach pre).port.log.take (pre.countP MonitorOp.isApply)) ++ [t] := by
        conv_lhs => rw [← List.take_append_drop (pre.countP MonitorOp.isApply)
          (c.reach pre).port.log, hdrop, entriesOf_append, entriesOf_cons_self, hnone]
      rw [if_pos rfl, lastStatus, hsplit]
      simp
    · rw [if_neg hid]
      refine h.settled nodeId ?_
      rw [hdrop, entriesOf_cons_of_ne (Ne.symm hid), hnone]

theorem SettledInv.step_other {c : Setup} {pre : List MonitorOp} {op : MonitorOp}
    (h : SettledInv c pre) (hstep : StableStep c pre op) (hno : op.isApply = false)
    (haccepted : AllAccepted c pre op) : SettledInv c (pre ++ [op]) := by
  refine ⟨hstep.leader h.leader, ?_, fun nodeId hnone => ?_⟩
  · rw [countP_isApply_snoc pre hno, c.log_snoc, List.length_append]
    exact h.applied.trans (Nat.le_add_right _ _)
  · rw [countP_isApply_snoc pre hno, c.log_snoc, List.drop_append_of_le_length h.applied,
      entriesOf_append, List.append_eq_nil_iff, entriesOf_accepted haccepted] at hnone
    obtain ⟨hold, hnew⟩ := hnone
    have hquiet : (c.reach pre).proposalFor nodeId op = none := by
      cases hprop : (c.reach pre).proposalFor nodeId op with
      | none => rfl
      | some q => simp [hprop] at hnew
    rw [hstep.statusOf h.leader hno, lastStatus_log_snoc haccepted, hquiet]
    exact h.settled nodeId hold

theorem SettledInv.step {c : Setup} {pre : List MonitorOp} {op : MonitorOp}
    (h : SettledInv c pre) (hstep : StableStep c pre op) (haccepted : AllAccepted c pre op) :
    SettledInv c (pre ++ [op]) := by
  cases op with
  | apply t => exact h.step_apply hstep
  | announce | heartbeat | tick | observe | lead => exact h.step_other hstep rfl haccepted

theorem log_eq_calls {c : Setup} {ops : List MonitorOp} (h : Throughout (AllAccepted c) ops) :
    (c.reach ops).port.log = (c.reach ops).port.calls.map Prod.fst := by
  refine h.induction (I := fun ops => (c.reach ops).port.log
    = (c.reach ops).port.calls.map Prod.fst) rfl fun pre op ih haccepted => ?_
  rw [c.log_snoc, ih, c.reach_snoc, MonitorState.step_calls, List.map_append,
    ← MonitorState.callsOf_eq, ← List.filterMap_eq_map (f := Prod.fst)]
  exact congrArg _ (List.filterMap_congr fun call hcall => if_pos (haccepted call hcall))

/-- On a stable leader whose proposals are all accepted, whenever every proposed transition has been
applied, the table shows every node with the status of the last transition proposed for it. -/
theorem table_converges {c : Setup} {ops : List MonitorOp} (hrun : StableLeader c ops)
    (haccepted : Throughout (AllAccepted c) ops) :
    ∀ pre, pre <+: ops → pre.countP MonitorOp.isApply = (c.reach pre).port.calls.length →
      ∀ nodeId, (c.reach pre).hm.statusOf nodeId
        = lastStatus nodeId ((c.reach pre).port.calls.map Prod.fst) := by
  intro pre hpre hall nodeId
  have hlog := log_eq_calls (haccepted.of_initial hpre)
  have hinv : SettledInv c pre :=
    ((hrun.throughout.and haccepted).of_initial hpre).induction (I := SettledInv c)
      ⟨hrun.leader, Nat.le_refl _, fun _ _ => rfl⟩ fun pre op hinv hC => hinv.step hC.1 hC.2
  have hdone : (c.reach pre).port.log.drop (pre.countP MonitorOp.isApply) = [] := by
    rw [List.drop_eq_nil_iff, hlog, List.length_map, hall]
  rw [← hlog]
  exact hinv.settled nodeId (by rw [hdone]; rfl)

/-- Node 5 is heard again before its SUSPECT commits; once the three entries are applied it is DOWN,
as the last of them says. -/
theorem table_converges_recoveredRun :
    let ops := recoveredRun ++
      [.apply ⟨5, 1, nodeSuspect, nodeUp, 1⟩, .apply ⟨5, 1, nodeSuspect, nodeDown, 1⟩]
    lastStatus 5 ((leaderOfBox1.reach ops).port.calls.map Prod.fst) = nodeDown ∧
      (leaderOfBox1.reach ops).hm.statusOf 5
        = lastStatus 5 ((leaderOfBox1.reach ops).port.calls.map Prod.fst) := by
  refine ⟨by decide +kernel, table_converges ⟨rfl, ?_, ?_, ?_⟩ ?_ _ (List.prefix_refl _) ?_ 5⟩
  all_goals decide +kernel

/-! ### The log is a path -/

/-- Every node has the status of its last entry, and its entries are a path. -/
structure PathInv (c : Setup) (pre : List MonitorOp) : Prop where
  leader : (c.reach pre).port.leader = true
  current : ∀ nodeId, (c.reach pre).hm.statusOf nodeId = lastStatus nodeId (c.reach pre).port.log
  path : LogIsPath c pre

theorem PathInv.current_step {c : Setup} {pre : List MonitorOp} {op : MonitorOp}
    (h : PathInv c pre) (hstep : StableStep c pre op) (haccepted : AllAccepted c pre op)
    (hcurrent : CommitsCurrent c pre op) (nodeId : UInt8) :
    (c.reach (pre ++ [op])).hm.statusOf nodeId
      = lastStatus nodeId (c.reach (pre ++ [op])).port.log := by
  cases op with
  | apply t =>
      rw [hstep.statusOf_apply, c.log_apply]
      split
      · rename_i hid
        rw [hid]
        exact hcurrent.symm
      · exact h.current nodeId
  | announce | heartbeat | tick | observe | lead =>
      rw [hstep.statusOf h.leader rfl, lastStatus_log_snoc haccepted, h.current nodeId]

theorem PathInv.path_step {c : Setup} {pre : List MonitorOp} {op : MonitorOp} (h : PathInv c pre)
    (haccepted : AllAccepted c pre op) : LogIsPath c (pre ++ [op]) := by
  intro nodeId
  rw [entriesOf_log_snoc haccepted]
  cases hprop : (c.reach pre).proposalFor nodeId op with
  | none => simpa using h.path nodeId
  | some q =>
      obtain ⟨-, hold, hedge⟩ := MonitorState.edge_of_proposalFor hprop
      refine isPath_append.mpr ⟨h.path nodeId, ?_, hedge⟩
      exact hold.trans (h.current nodeId)

/-- On a stable leader, as long as every proposal is accepted and every commit finds no newer entry of
its node with another status, the entries of each node are a path of the state machine from UP. -/
theorem log_is_path {c : Setup} {ops : List MonitorOp} (hrun : StableLeader c ops)
    (haccepted : Throughout (AllAccepted c) ops) (hcurrent : Throughout (CommitsCurrent c) ops) :
    ∀ pre, pre <+: ops → LogIsPath c pre := by
  intro pre hpre
  have hsteps := ((hrun.throughout.and haccepted).and hcurrent).of_initial hpre
  refine (hsteps.induction (I := PathInv c) ⟨hrun.leader, fun _ => rfl, fun _ => trivial⟩
    fun pre op hinv hC => ?_).path
  exact ⟨hC.1.1.leader hinv.leader, hinv.current_step hC.1.1 hC.1.2 hC.2, hinv.path_step hC.1.2⟩

/-- The silent node of `silentRun` is heard again after its DOWN has been applied. -/
def heardAgainRun : List MonitorOp :=
  silentRun ++ [.apply ⟨5, 1, nodeSuspect, nodeDown, 1⟩, .heartbeat 5 ⟨0, 0⟩ 100]

theorem log_is_path_heardAgainRun :
    entriesOf 5 (leaderOfBox1.reach heardAgainRun).port.log
        = [⟨5, 1, nodeUp, nodeSuspect, 1⟩, ⟨5, 1, nodeSuspect, nodeDown, 1⟩,
          ⟨5, 1, nodeDown, nodeUp, 1⟩] ∧
      LogIsPath leaderOfBox1 heardAgainRun := by
  have hrun : StableLeader leaderOfBox1 heardAgainRun := by
    refine ⟨rfl, ?_, ?_, ?_⟩
    all_goals decide +kernel
  refine ⟨by decide +kernel, log_is_path hrun ?_ ?_ heardAgainRun (List.prefix_refl _)⟩
  all_goals decide +kernel

/-- In `recoveredRun` the commit of the older SUSPECT makes the entry after SUSPECT to UP start at
SUSPECT. -/
theorem log_broken_recoveredRun :
    LeaderRun leaderOfBox1 recoveredRun ∧ Throughout (AnnouncesNew leaderOfBox1) recoveredRun ∧
      Throughout (AllAccepted leaderOfBox1) recoveredRun ∧
      entriesOf 5 (leaderOfBox1.reach recoveredRun).port.log
        = [⟨5, 1, nodeUp, nodeSuspect, 1⟩, ⟨5, 1, nodeSuspect, nodeUp, 1⟩,
          ⟨5, 1, nodeSuspect, nodeDown, 1⟩] ∧
      ¬LogIsPath leaderOfBox1 recoveredRun := by
  have hbroken : ¬IsPath nodeUp (entriesOf 5 (leaderOfBox1.reach recoveredRun).port.log) := by
    decide +kernel
  refine ⟨⟨rfl, ?_, ?_, ?_, ?_⟩, ?_, ?_, ?_, fun h => hbroken (h 5)⟩
  all_goals decide +kernel

end L2Oracle
