import L2Oracle.Health.History

/-!
# Recovery and the log

A heartbeat of a failing node proposes UP. An announcement of it only writes UP into the table, so a
node that comes back by announcing itself is UP on its own monitor while the log still says DOWN, and
the heartbeats that follow find it UP and propose nothing. `recoverySubmitted_iff` says that
re-announcing is the only way for a recovery on a leader to go unproposed.

Whether the log gets the UP is a question about the log of the cluster. The monitor writes into it while
it leads, other leaders do while it does not, and what is not committed may be replaced when leaders
change. As long as Raft keeps the recoveries that are proposed, and nobody else writes over them, it is
again the announcements that decide: a node is shown as UP with a DOWN in the log, applied here or not,
and no UP after it, only if it announced itself while the log was like that.
-/

namespace L2Oracle

open Base

/-- The operations of the monitor that its own box causes. -/
def MonitorOp.isLocal : MonitorOp → Bool
  | .announce .. | .heartbeat .. | .tick .. => true
  | .apply .. | .observe .. | .lead .. => false

/-- An operation of the box that makes a failing local node UP on a leader submits the transition
from its old status to UP. -/
def RecoverySubmitted (c : Setup) (pre : List MonitorOp) (op : MonitorOp) : Prop :=
  op.isLocal → (c.reach pre).port.leader →
    ∀ nodeId, ∀ s ∈ (c.reach pre).hm.lookup nodeId, s.boxId = c.boxId → Failing s.status →
      (c.reach (pre ++ [op])).hm.statusOf nodeId = nodeUp →
        ∃ call ∈ (c.reach pre).callsOf op, call.1.targetNode = nodeId ∧
          call.1.targetBox = c.boxId ∧ call.1.oldStatus = s.status ∧ call.1.newStatus = nodeUp

/-- No announcement reaches a leader from a local node that it holds SUSPECT or DOWN. -/
def NoReannounce (c : Setup) (pre : List MonitorOp) : MonitorOp → Prop
  | .announce srcNode _ _ =>
      (c.reach pre).port.leader →
        ∀ s ∈ (c.reach pre).hm.lookup srcNode, s.boxId = c.boxId → ¬Failing s.status
  | _ => True

instance (c : Setup) (pre : List MonitorOp) : ∀ op, Decidable (NoReannounce c pre op)
  | .announce .. => inferInstanceAs (Decidable (_ → _))
  | .heartbeat .. | .tick .. | .apply .. | .observe .. | .lead .. =>
      inferInstanceAs (Decidable True)

/-! ### One operation -/

theorem tickedSlot_ne_up {s : Slot} (h : s.status ≠ nodeUp) (hm : HealthMonitor) (leader : Bool)
    (nowMs : UInt32) (beyond : Nat → UInt8) :
    (tickedSlot hm leader nowMs beyond s).status ≠ nodeUp := by
  rw [tickedSlot_status]
  split_ifs
  · exact nodeUp_ne_nodeSuspect.symm
  · exact nodeDown_ne_nodeUp
  · exact h

theorem statusOf_announced {s : MonitorState} {srcNode : UInt8} (ann : PayloadNodeAnnounce)
    (now : Nat) {slot : Slot} (h : s.hm.lookup srcNode = some slot) :
    (s.step (.announce srcNode ann now)).hm.statusOf srcNode = nodeUp := by
  have hafter := s.step_lookup (.announce srcNode ann now) srcNode
  dsimp only at hafter
  rw [if_pos ⟨rfl, Or.inl (by simp [h])⟩] at hafter
  rw [statusOf_eq hafter]
  rfl

/-- The only operations of the box that make a failing node UP are an announcement of it and a
heartbeat of it. -/
theorem names_of_recovered {s : MonitorState} {op : MonitorOp} {nodeId : UInt8} {slot : Slot}
    (hlookup : s.hm.lookup nodeId = some slot) (hfail : slot.status ≠ nodeUp)
    (hup : (s.step op).hm.statusOf nodeId = nodeUp) : op.Names nodeId := by
  obtain ⟨after, hafter⟩ := MonitorState.exists_lookup_step op hlookup
  rw [statusOf_eq hafter] at hup
  cases MonitorState.slotStep hafter with
  | kept _ hold =>
      rw [hlookup] at hold
      exact absurd (Option.some.inj hold ▸ hup) hfail
  | announced | heard => rfl
  | ticked _ _ _ hold =>
      rw [hlookup] at hold
      exact absurd hup (tickedSlot_ne_up (Option.some.inj hold ▸ hfail) _ _ _ _)
  | committed t hid => exact hid

theorem heartbeat_submits {s : MonitorState} {srcNode : UInt8} (hb : PayloadNodeHeartbeat)
    (now : Nat) {slot : Slot} (hlookup : s.hm.lookup srcNode = some slot)
    (hfail : Failing slot.status) :
    ∃ call ∈ s.callsOf (.heartbeat srcNode hb now), call.1.targetNode = srcNode ∧
      call.1.targetBox = slot.boxId ∧ call.1.oldStatus = slot.status ∧
      call.1.newStatus = nodeUp := by
  have hq : slot.propose nodeUp ∈ s.proposals (.heartbeat srcNode hb now) :=
    mem_heartbeatProposals.mpr ⟨slot, hlookup, hfail, rfl⟩
  obtain ⟨n, hn⟩ := OraclePort.recorded_mem (p := s.port) hq
  rw [← MonitorState.callsOf_eq] at hn
  have hid : slot.nodeId = srcNode := key_of_lookup hlookup
  exact ⟨_, hn, hid, rfl, rfl, rfl⟩

theorem recoverySubmitted_iff (c : Setup) (pre : List MonitorOp) (op : MonitorOp) :
    RecoverySubmitted c pre op ↔ NoReannounce c pre op := by
  constructor
  · intro h
    cases op with
    | heartbeat | tick | apply | observe | lead => trivial
    | announce srcNode ann now =>
        intro hleader s hs hbox hfail
        have hup := statusOf_announced ann now hs
        rw [← Setup.reach_snoc] at hup
        obtain ⟨call, hcall, -⟩ := h rfl hleader srcNode s hs hbox hfail hup
        rw [MonitorState.callsOf_eq] at hcall
        cases hcall
  · intro h hlocal hleader nodeId s hs hbox hfail hup
    rw [Setup.reach_snoc] at hup
    have hnames := names_of_recovered hs (failing_ne_up hfail) hup
    cases op with
    | announce srcNode ann now =>
        obtain rfl : srcNode = nodeId := hnames
        exact absurd hfail (h hleader s hs hbox)
    | heartbeat srcNode hb now =>
        obtain rfl : srcNode = nodeId := hnames
        obtain ⟨call, hcall, hnode, hcallBox, hold, hnew⟩ := heartbeat_submits hb now hs hfail
        exact ⟨call, hcall, hnode, hcallBox.trans hbox, hold, hnew⟩
    | apply => cases hlocal
    | tick | observe | lead => cases hnames

/-! ### The log of the cluster -/

/-- What happens to a monitor and to the log. -/
inductive RecoveryEvent where
  | monitor (op : MonitorOp)
  /-- Another leader writes an entry. -/
  | append (t : Transition)
  /-- Entries that are not committed are replaced: the log is cut. -/
  | truncate (length : Nat)

structure RecoveryState where
  monitor : MonitorState
  /-- The log of the cluster, oldest entry first. -/
  log : List Transition

def RecoveryState.step (s : RecoveryState) : RecoveryEvent → RecoveryState
  | .monitor op =>
      { monitor := s.monitor.step op, log := s.log ++ acceptedCalls (s.monitor.callsOf op) }
  | .append t => { s with log := s.log ++ [t] }
  | .truncate length => { s with log := s.log.take length }

def Setup.reachLogged (c : Setup) (es : List RecoveryEvent) : RecoveryState :=
  run RecoveryState.step ⟨c.init, []⟩ es

@[simp] theorem Setup.reachLogged_snoc (c : Setup) (es : List RecoveryEvent) (e : RecoveryEvent) :
    c.reachLogged (es ++ [e]) = (c.reachLogged es).step e := by
  simp [reachLogged]

def RecoveryEvent.op? : RecoveryEvent → Option MonitorOp
  | .monitor op => some op
  | .append _ | .truncate _ => none

/-- The operations of the monitor. -/
def monitorOps (es : List RecoveryEvent) : List MonitorOp := es.filterMap RecoveryEvent.op?

/-- A DOWN of the node is in the log with no UP of it after it. -/
def DownStands (nodeId : UInt8) : List Transition → Prop
  | [] => False
  | t :: later =>
      (t.targetNode = nodeId ∧ t.newStatus = nodeDown ∧
        ∀ u ∈ later, u.targetNode = nodeId → u.newStatus ≠ nodeUp) ∨ DownStands nodeId later

instance decidableDownStands (nodeId : UInt8) : ∀ log, Decidable (DownStands nodeId log)
  | [] => inferInstanceAs (Decidable False)
  | _ :: later =>
      have := decidableDownStands nodeId later
      inferInstanceAs (Decidable (_ ∨ _))

/-- A local node that the monitor shows as UP has an UP in the log after each of its DOWN entries, whether
they have been applied here or not. -/
def RecoveryLogged (c : Setup) (es : List RecoveryEvent) : Prop :=
  ∀ nodeId, ∀ s ∈ (c.reachLogged es).monitor.hm.lookup nodeId, s.boxId = c.boxId →
    s.status = nodeUp → ¬DownStands nodeId (c.reachLogged es).log

/-- Raft and the other leaders leave the recoveries of local nodes alone: where a DOWN of the node stands
in the log, a proposal of UP is accepted and no UP from before that DOWN is committed, no other leader
writes DOWN for a node that is UP here, and no UP is cut off. -/
def KeepsRecoveries (c : Setup) (pre : List RecoveryEvent) : RecoveryEvent → Prop
  | .monitor (.apply t) =>
      t.newStatus = nodeUp →
        ((c.reachLogged pre).monitor.hm.slotOf t.targetNode t.targetBox).boxId = c.boxId →
          ¬DownStands t.targetNode (c.reachLogged pre).log
  | .monitor op =>
      ∀ call ∈ (c.reachLogged pre).monitor.callsOf op,
        call.1.newStatus = nodeUp → call.1.targetBox = c.boxId →
          DownStands call.1.targetNode (c.reachLogged pre).log → call.2 = 0
  | .append t =>
      t.newStatus = nodeDown →
        ∀ s ∈ (c.reachLogged pre).monitor.hm.lookup t.targetNode, s.boxId = c.boxId →
          s.status ≠ nodeUp
  | .truncate length => ∀ u ∈ (c.reachLogged pre).log.drop length, u.newStatus ≠ nodeUp

/-- Whether the monitor leads or not, no node that has or can get an entry announces itself while a DOWN of
it stands in the log. -/
def NoStandingDown (c : Setup) (pre : List RecoveryEvent) : RecoveryEvent → Prop
  | .monitor (.announce srcNode _ _) =>
      (c.reachLogged pre).monitor.hm.HasRoom srcNode → ¬DownStands srcNode (c.reachLogged pre).log
  | _ => True

instance (c : Setup) (pre : List RecoveryEvent) : ∀ e, Decidable (KeepsRecoveries c pre e)
  | .monitor (.apply _) => inferInstanceAs (Decidable (_ → _))
  | .monitor (.announce ..) | .monitor (.heartbeat ..) | .monitor (.tick ..)
  | .monitor (.observe ..) | .monitor (.lead ..) => inferInstanceAs (Decidable (∀ call ∈ _, _))
  | .append _ => inferInstanceAs (Decidable (_ → _))
  | .truncate _ => inferInstanceAs (Decidable (∀ u ∈ _, _))

instance (c : Setup) (pre : List RecoveryEvent) : ∀ e, Decidable (NoStandingDown c pre e)
  | .monitor (.announce ..) => inferInstanceAs (Decidable (_ → _))
  | .monitor (.heartbeat ..) | .monitor (.tick ..) | .monitor (.apply _) | .monitor (.observe ..)
  | .monitor (.lead ..) | .append _ | .truncate _ => inferInstanceAs (Decidable True)

theorem downStands_append {nodeId : UInt8} {log more : List Transition} :
    DownStands nodeId (log ++ more) ↔ DownStands nodeId more ∨
      DownStands nodeId log ∧ ∀ u ∈ more, u.targetNode = nodeId → u.newStatus ≠ nodeUp := by
  induction log with
  | nil => simp [DownStands]
  | cons t log ih =>
      simp only [List.cons_append, DownStands, ih, List.forall_mem_append]
      tauto

theorem not_downStands_of_forall {nodeId : UInt8} {log : List Transition}
    (h : ∀ t ∈ log, t.targetNode = nodeId → t.newStatus ≠ nodeDown) : ¬DownStands nodeId log := by
  induction log with
  | nil => exact id
  | cons t log ih =>
      rintro (⟨hnode, hdown, -⟩ | hlater)
      · exact h t List.mem_cons_self hnode hdown
      · exact ih (fun u hu => h u (List.mem_cons_of_mem t hu)) hlater

theorem Setup.monitor_reachLogged (c : Setup) (es : List RecoveryEvent) :
    (c.reachLogged es).monitor = c.reach (monitorOps es) := by
  induction es using List.reverseRecOn with
  | nil => rfl
  | append_singleton es e ih =>
      rw [reachLogged_snoc, monitorOps, List.filterMap_append]
      cases e with
      | monitor op =>
          show (c.reachLogged es).monitor.step op = c.reach (monitorOps es ++ [op])
          rw [reach_snoc, ih]
      | append | truncate =>
          show (c.reachLogged es).monitor = c.reach (monitorOps es ++ [])
          rw [List.append_nil, ih]

/-- What is proposed as DOWN is shown as DOWN. -/
theorem MonitorState.statusOf_of_down_call {s : MonitorState} (hnodup : s.hm.ids.Nodup) {op : MonitorOp}
    {call : Transition × Int} (h : call ∈ s.callsOf op) (hdown : call.1.newStatus = nodeDown) :
    (s.step op).hm.statusOf call.1.targetNode = nodeDown := by
  rw [callsOf_eq] at h
  obtain ⟨q, hq, hcall⟩ := OraclePort.mem_recorded h
  rw [hcall] at hdown ⊢
  cases op with
  | tick now beyond =>
      obtain ⟨hticks, slot, hslot, hprop⟩ := mem_tickProposals.mp hq
      rcases slotProposal_eq_some.mp hprop with ⟨-, -, rfl⟩ | ⟨hsus, hexpired, -, hcorr, rfl⟩
      · exact absurd hdown.symm nodeDown_ne_nodeSuspect
      · have hlookup : s.hm.lookup slot.nodeId = some slot := lookup_of_mem hnodup hslot
        have hafter := s.step_lookup (.tick now beyond) slot.nodeId
        dsimp only at hafter
        rw [if_pos hticks, hlookup, Option.map_some,
          tickedSlot_of_expired hsus hexpired fun _ => hcorr] at hafter
        exact statusOf_eq hafter
  | heartbeat srcNode hb now =>
      obtain ⟨slot, -, -, rfl⟩ := mem_heartbeatProposals.mp hq
      exact absurd hdown.symm nodeDown_ne_nodeUp
  | announce | apply | observe | lead => cases hq

section
variable {c : Setup} {pre : List RecoveryEvent}

/-- An operation after which a node is shown as UP writes no DOWN of it into the log. -/
theorem downStands_of_monitor {op : MonitorOp} {nodeId : UInt8} {s : Slot}
    (hs : (c.reachLogged (pre ++ [.monitor op])).monitor.hm.lookup nodeId = some s)
    (hup : s.status = nodeUp)
    (h : DownStands nodeId (c.reachLogged (pre ++ [.monitor op])).log) :
    DownStands nodeId (c.reachLogged pre).log ∧
      ∀ u ∈ acceptedCalls ((c.reachLogged pre).monitor.callsOf op), u.targetNode = nodeId →
        u.newStatus ≠ nodeUp := by
  rw [c.reachLogged_snoc] at hs h
  refine (downStands_append.mp h).resolve_left (not_downStands_of_forall fun t ht hnode hdown => ?_)
  have hnodup : (c.reachLogged pre).monitor.hm.ids.Nodup := by
    rw [c.monitor_reachLogged]
    exact c.reach_nodup _
  have hshown := MonitorState.statusOf_of_down_call hnodup (mem_acceptedCalls.mp ht) hdown
  have hstatus : ((c.reachLogged pre).monitor.step op).hm.statusOf nodeId = nodeUp :=
    (statusOf_eq hs).trans hup
  rw [hnode, hstatus] at hshown
  exact nodeDown_ne_nodeUp hshown.symm

/-- A step of the monitor keeps the recoveries in the log. -/
theorem RecoveryLogged.monitor (h : RecoveryLogged c pre) {op : MonitorOp}
    (hkeeps : KeepsRecoveries c pre (.monitor op)) (hquiet : NoStandingDown c pre (.monitor op)) :
    RecoveryLogged c (pre ++ [.monitor op]) := by
  intro nodeId s hs hbox hup hstands
  obtain ⟨hbefore, hnoUp⟩ := downStands_of_monitor hs hup hstands
  rw [c.reachLogged_snoc] at hs
  cases MonitorState.slotStep hs with
  | kept _ hold => exact h nodeId s hold hbox hup hbefore
  | announced ann now =>
      have hroom : ((c.reachLogged pre).monitor.step (.announce nodeId ann now)).hm.HasRoom nodeId :=
        .inl (ne_of_eq_of_ne hs (Option.some_ne_none _))
      exact hquiet (MonitorState.hasRoom_of_step hroom) hbefore
  | @heard hb now old hold =>
      rw [heardSlot_boxId] at hbox
      by_cases hold_up : old.status = nodeUp
      · exact h nodeId old hold hbox hold_up hbefore
      · -- the heartbeat brought the node back, so it proposed UP, and the log ends with it
        have hfail : Failing old.status := by
          rw [heardSlot_status] at hup
          by_contra hnot
          exact hold_up (by rwa [if_neg hnot] at hup)
        obtain ⟨call, hcall, hnode, hcallBox, -, hcallUp⟩ := heartbeat_submits hb now hold hfail
        have haccepted := hkeeps call hcall hcallUp (hcallBox.trans hbox) (hnode ▸ hbefore)
        exact hnoUp call.1 (mem_acceptedCalls.mpr (haccepted ▸ hcall)) hnode hcallUp
  | @ticked now beyond old _ hold =>
      rw [tickedSlot_boxId] at hbox
      refine h nodeId old hold hbox ?_ hbefore
      by_contra hnot
      exact tickedSlot_ne_up hnot _ _ _ _ hup
  | committed t hid =>
      subst hid
      exact hkeeps hup hbox hbefore

theorem RecoveryLogged.append (h : RecoveryLogged c pre) {t : Transition}
    (hkeeps : KeepsRecoveries c pre (.append t)) : RecoveryLogged c (pre ++ [.append t]) := by
  intro nodeId s hs hbox hup hstands
  rw [c.reachLogged_snoc] at hs hstands
  rcases downStands_append.mp hstands with (⟨hnode, hdown, -⟩ | hempty) | ⟨hbefore, -⟩
  · subst hnode
    exact hkeeps hdown s hs hbox hup
  · exact hempty.elim
  · exact h nodeId s hs hbox hup hbefore

theorem RecoveryLogged.truncate (h : RecoveryLogged c pre) {length : Nat}
    (hkeeps : KeepsRecoveries c pre (.truncate length)) :
    RecoveryLogged c (pre ++ [.truncate length]) := by
  intro nodeId s hs hbox hup hstands
  rw [c.reachLogged_snoc] at hs hstands
  refine h nodeId s hs hbox hup ?_
  rw [← List.take_append_drop length (c.reachLogged pre).log]
  exact downStands_append.mpr (.inr ⟨hstands, fun u hu _ => hkeeps u hu⟩)

theorem RecoveryLogged.step (h : RecoveryLogged c pre) {e : RecoveryEvent}
    (hkeeps : KeepsRecoveries c pre e) (hquiet : NoStandingDown c pre e) :
    RecoveryLogged c (pre ++ [e]) := by
  cases e with
  | monitor op => exact h.monitor hkeeps hquiet
  | append t => exact h.append hkeeps
  | truncate length => exact h.truncate hkeeps

/-- After an announcement of a node, no DOWN of it may stand in the log. -/
theorem NoStandingDown.of_logged {e : RecoveryEvent} (h : RecoveryLogged c (pre ++ [e])) :
    NoStandingDown c pre e := by
  cases e with
  | append | truncate => trivial
  | monitor op =>
      cases op with
      | heartbeat | tick | apply | observe | lead => trivial
      | announce srcNode ann now =>
          intro hroom hstands
          rw [RecoveryLogged, c.reachLogged_snoc] at h
          have hafter := (c.reachLogged pre).monitor.step_lookup (.announce srcNode ann now) srcNode
          dsimp only at hafter
          rw [if_pos ⟨rfl, hroom⟩] at hafter
          have hbox : (c.reachLogged pre).monitor.hm.boxId = c.boxId := by
            rw [c.monitor_reachLogged]
            exact c.reach_boxId _
          refine h srcNode _ hafter hbox rfl ?_
          show DownStands srcNode ((c.reachLogged pre).log ++ _)
          rw [MonitorState.callsOf_eq]
          exact (List.append_nil (c.reachLogged pre).log).symm ▸ hstands

end

/-- In every run, every recovery of a local node on a leader is submitted if and only if no
announcement reaches a leader from a failing local node. As long as Raft and the other leaders leave the
recoveries alone, the log has an UP after each DOWN of a local node that is shown as UP, at every point,
if and only if no node announces itself while a DOWN of it stands in the log. -/
theorem recovery_replicated_iff (c : Setup) (es : List RecoveryEvent) :
    (Throughout (RecoverySubmitted c) (monitorOps es) ↔
        Throughout (NoReannounce c) (monitorOps es)) ∧
      (Throughout (KeepsRecoveries c) es →
        ((∀ pre, pre <+: es → RecoveryLogged c pre) ↔ Throughout (NoStandingDown c) es)) := by
  refine ⟨throughout_congr (recoverySubmitted_iff c), fun hkeeps => ⟨fun h => ?_, fun hquiet => ?_⟩⟩
  · intro pre e post hsplit
    exact NoStandingDown.of_logged (h (pre ++ [e]) ⟨post, by rw [hsplit]; simp⟩)
  · intro pre hpre
    refine ((hkeeps.and hquiet).of_initial hpre).induction (I := RecoveryLogged c) ?_
      fun pre e h hC => h.step hC.1 hC.2
    intro nodeId s hs
    cases hs

/-- The node is heard again on a leader that lost the lead in between. The DOWN is not applied yet when
another leader writes its entry. -/
def heardAfterChange : List RecoveryEvent :=
  silentRun.map .monitor ++
    [.monitor (.lead false 2), .append ⟨9, 2, nodeUp, nodeSuspect, 2⟩,
      .monitor (.apply ⟨5, 1, nodeSuspect, nodeDown, 1⟩),
      .monitor (.apply ⟨9, 2, nodeUp, nodeSuspect, 2⟩), .monitor (.lead true 3),
      .monitor (.heartbeat 5 ⟨0, 0⟩ 100)]

theorem recovery_replicated_heardAfterChange :
    Throughout (RecoverySubmitted leaderOfBox1) (monitorOps heardAfterChange) ∧
      RecoveryLogged leaderOfBox1 heardAfterChange := by
  have hquiet : Throughout (NoReannounce leaderOfBox1) (monitorOps heardAfterChange) := by
    decide +kernel
  have hkeeps : Throughout (KeepsRecoveries leaderOfBox1) heardAfterChange := by decide +kernel
  have hstanding : Throughout (NoStandingDown leaderOfBox1) heardAfterChange := by decide +kernel
  exact ⟨(recovery_replicated_iff _ _).1.mpr hquiet,
    ((recovery_replicated_iff _ _).2 hkeeps).mpr hstanding _ (List.prefix_refl _)⟩

/-- The same node reboots and announces itself. -/
def reannouncedRun : List MonitorOp :=
  silentRun ++ [.apply ⟨5, 1, nodeSuspect, nodeDown, 1⟩, .announce 5 ⟨2⟩ 100]

/-- Its monitor shows it as UP, the log ends with its DOWN, and nothing was proposed. -/
theorem unreplicated_reannouncedRun :
    ¬Throughout (RecoverySubmitted leaderOfBox1) reannouncedRun ∧
      Throughout (KeepsRecoveries leaderOfBox1) (reannouncedRun.map .monitor) ∧
      ¬RecoveryLogged leaderOfBox1 (reannouncedRun.map .monitor) := by
  refine ⟨?_, by decide +kernel, fun h => ?_⟩
  · rw [throughout_congr (recoverySubmitted_iff leaderOfBox1)]
    decide +kernel
  · have hslot : ∃ s ∈ (leaderOfBox1.reachLogged (reannouncedRun.map .monitor)).monitor.hm.lookup 5,
        s.boxId = leaderOfBox1.boxId ∧ s.status = nodeUp := by decide +kernel
    obtain ⟨s, hs, hbox, hup⟩ := hslot
    exact h 5 s hs hbox hup (by decide +kernel)

end L2Oracle
