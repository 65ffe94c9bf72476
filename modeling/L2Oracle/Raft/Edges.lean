import L2Oracle.Raft.Origins
import L2Oracle.Raft.Statuses

/-!
# Edges of the state machine

The tasks never propose anything themselves: only the monitor does, when it hears a node or ticks, and
then an edge of its state machine. An applied entry was proposed in such a call. So in every run of the
tasks of nodes that hear only each other, whichever nodes lead, a node applies edges of the state machine
only, and the table of every node holds nothing but the three statuses.
-/

namespace L2Oracle

open Base

/-- The transition is an edge of the monitor's state machine. -/
def PayloadHealthUpdate.IsEdge (t : PayloadHealthUpdate) : Prop :=
  (t.oldStatus = nodeUp ∧ t.newStatus = nodeSuspect) ∨
    (t.oldStatus = nodeSuspect ∧ t.newStatus = nodeDown) ∨
    (Failing t.oldStatus ∧ t.newStatus = nodeUp)

instance (t : PayloadHealthUpdate) : Decidable t.IsEdge := inferInstanceAs (Decidable (_ ∨ _ ∨ _))

theorem PayloadHealthUpdate.IsEdge.known {t : PayloadHealthUpdate} (h : t.IsEdge) :
    Known t.newStatus := by
  rcases h with ⟨-, hnew⟩ | ⟨-, hnew⟩ | ⟨-, hnew⟩
  · exact .inr (.inl hnew)
  · exact .inr (.inr hnew)
  · exact .inl hnew

theorem isEdge_of_tick {hm : HealthMonitor} {leader : Bool} {nowMs : UInt32} {beyond : Nat → UInt8}
    {q : Proposal} (h : q ∈ tickProposals hm leader nowMs beyond) (term now : Nat) :
    (q.update term now).IsEdge := by
  obtain ⟨-, s, -, hslot⟩ := mem_tickProposals.mp h
  rcases slotProposal_eq_some.mp hslot with ⟨hup, -, rfl⟩ | ⟨hsuspect, -, -, -, rfl⟩
  · exact .inl ⟨hup, rfl⟩
  · exact .inr (.inl ⟨hsuspect, rfl⟩)

theorem isEdge_of_heartbeat {hm : HealthMonitor} {srcNode : UInt8} {q : Proposal}
    (h : q ∈ heartbeatProposals hm srcNode) (term now : Nat) : (q.update term now).IsEdge := by
  obtain ⟨s, -, hfailing, rfl⟩ := mem_heartbeatProposals.mp h
  exact .inr (.inr ⟨hfailing, rfl⟩)

section
variable {σ : Type} {lib : RaftLib σ} {view : σ → RaftView}

/-- What a task makes its monitor propose is an edge. -/
theorem NodeCall.Proposes.isEdge {o : OracleNode σ} {x : NodeCall} {entry : RaftEntry}
    (h : x.Proposes lib o entry) (htask : x.OfTask) : entry.transition.IsEdge := by
  obtain ⟨-, q, hq, hcarries⟩ := h
  rw [hcarries.transition]
  cases x with
  | propose => exact htask.elim
  | startHealth | oracleTick | dispatch | announce => cases hq
  | heartbeat srcNode hb sample env now =>
      rw [proposals] at hq
      cases hhealth : o.health with
      | none =>
          rw [hhealth] at hq
          cases hq
      | some hm =>
          rw [hhealth] at hq
          exact isEdge_of_heartbeat hq ..
  | tick beyond sample env now =>
      rw [proposals] at hq
      cases hhealth : o.health with
      | none =>
          rw [hhealth] at hq
          cases hq
      | some hm =>
          rw [hhealth] at hq
          exact isEdge_of_tick hq ..

theorem ProposedIn.isEdge {c : ClusterSetup σ} {s : Cluster σ} {xs : List ClusterCall}
    {entry : RaftEntry} (h : ProposedIn c s xs entry) (htasks : c.Along Tasked s xs) :
    entry.transition.IsEdge := by
  obtain ⟨pre, x, post, hsplit, -, hproposes⟩ := h
  exact hproposes.isEdge (htasks pre x post hsplit).2

/-! ### Statuses -/

/-- A call of a task keeps the statuses of its node known if AppendEntries brings no other. -/
theorem StatusInv.call (rules : RaftRules lib view) {o : OracleNode σ} (h : StatusInv view o)
    {x : NodeCall} (htask : x.OfTask) {n : UInt8}
    (hentries : ∀ p ∈ x.input n, p.IsAppend → ∀ entry ∈ (p.appendEntries 0).entries,
      entry.LeadsToKnown) :
    StatusInv view (x.run lib o).node := by
  cases x with
  | propose => exact htask.elim
  | startHealth => exact ⟨⟨_, rfl, .init _ _⟩, h.log⟩
  | oracleTick env elapsedMs =>
      exact h.sameLog (rules.periodic o.raft env elapsedMs).log_eq
        (rules.periodicCalls o.raft env elapsedMs)
  | dispatch srcNode msgType payload beyond env now =>
      refine h.dispatch rules env srcNode now fun htype hlen entry hentry => ?_
      rw [dispatchedAppendEntries_congr 0 hlen (agreeTo_buffer le_rfl beyond fun _ => 0)] at hentry
      exact hentries _ rfl ⟨rfl, htype, hlen⟩ entry hentry
  | announce srcNode ann sample => exact @StatusInv.announce σ lib view o h 0 srcNode ann sample
  | heartbeat srcNode hb sample env now =>
      refine h.withMonitor (f := fun hm e => healthMonitorProcessHeartbeat (oracleApi lib env now) hm e
        srcNode hb (UInt32.ofNat sample)) fun hm e hknown he => ?_
      rw [healthMonitorProcessHeartbeat_eq]
      exact ⟨hknown.heard srcNode _,
        submitAll rules env now (fun q hq => known_of_mem_heartbeatProposals hq) he⟩
  | tick beyond sample env now =>
      refine h.withMonitor (f := fun hm e => healthMonitorTick (oracleApi lib env now) hm e
        (UInt32.ofNat sample) beyond) fun hm e hknown he => ?_
      rw [healthMonitorTick_eq (oracleApi_keepsLeadership rules env now)]
      exact ⟨hknown.ticked _ _ beyond,
        submitAll rules env now (fun q hq => known_of_mem_tickProposals hq) he⟩

end

section
variable {σ : Type} {c : ClusterSetup σ} {view : σ → RaftView} {s : Cluster σ}

theorem statusInv_run (rules : RaftRules c.lib view) (hstart : c.Started view s)
    (hhealth : ∀ n ∈ c.members, ∃ hm, (s.nodes n).health = some hm ∧ hm.AllKnown)
    {xs : List ClusterCall} (h : c.Along Tasked s xs) :
    ∀ n ∈ c.members, StatusInv view ((run c.call s xs).nodes n) := by
  refine (Throughout.induction (I := fun xs => c.Along Tasked s xs ∧
    ∀ n ∈ c.members, StatusInv view ((run c.call s xs).nodes n)) ⟨throughout_nil, fun n hn => ?_⟩
    (fun pre x hpre hx => ⟨throughout_snoc.mpr ⟨hpre.1, hx⟩, fun n hn => ?_⟩) h).2
  · refine ⟨hhealth n hn, fun entry hentry => ?_⟩
    have hlog : (view (s.nodes n).raft).log = [] := congrArg RaftView.log (hstart.server n hn)
    rw [run_nil, hlog] at hentry
    cases hentry
  · obtain ⟨htasks, hstatus⟩ := hpre
    have horigin := originInv_run rules hstart (Throughout.mono htasks fun _ _ h => h.1)
    have hknown : ∀ p ∈ x.2.input x.1, p.IsAppend → ∀ entry ∈ (p.appendEntries 0).entries,
        entry.LeadsToKnown := by
      intro p hp happend entry hentry _ _
      exact ((horigin.heardEntries hstart hx.1 hp happend 0 entry hentry).isEdge htasks).known
    rw [run_append]
    show StatusInv view (Function.update (run c.call s pre).nodes x.1 _ n)
    by_cases hnode : n = x.1
    · rw [hnode, Function.update_self]
      exact (hstatus x.1 hx.1.1).call rules hx.2 hknown
    · rw [Function.update_of_ne hnode]
      exact hstatus n hn

end

end L2Oracle
