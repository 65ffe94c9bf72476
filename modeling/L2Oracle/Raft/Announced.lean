import L2Oracle.Health.Run
import L2Oracle.Raft.Origins

/-!
# Which nodes a table holds

A node comes into a table in two ways. It announces itself, and then the table has it in the box of the
member that it announced itself to; or a committed transition names it, and then the table has it in
the box that the transition says. A transition names what is in the table of the node that proposed
it. So behind every entry of every table there is an announcement, to a member in the box that the
entry names, however far the node and the box have travelled since.
-/

namespace L2Oracle

open Base

/-- All entries of the table are nodes and boxes that go together. -/
def HealthMonitor.Places (hm : HealthMonitor) (P : UInt8 → UInt8 → Prop) : Prop :=
  ∀ s ∈ hm.slots, P s.nodeId s.boxId

/-- The node is in this box, and so is its monitor, whose entries go together. -/
structure OracleNode.Placed {σ : Type} (o : OracleNode σ) (P : UInt8 → UInt8 → Prop) (boxId : UInt8) :
    Prop where
  box : o.boxId = boxId
  monitor : ∀ hm ∈ o.health, hm.boxId = boxId ∧ hm.Places P

/-! ### The monitor -/

namespace HealthMonitor.Places

variable {hm : HealthMonitor} {P : UInt8 → UInt8 → Prop}

theorem update (h : hm.Places P) {nodeId boxId : UInt8} {f : Slot → Slot}
    (hid : ∀ s, (f s).nodeId = s.nodeId)
    (hf : ∀ s, s.nodeId = nodeId → (P nodeId s.boxId ∨ s = Slot.fresh nodeId boxId) →
      P nodeId (f s).boxId) :
    (hm.update nodeId boxId f).Places P := by
  intro s hs
  unfold HealthMonitor.update at hs
  split at hs
  · rename_i idx hfind
    have hnode := slot_nodeId hfind
    rcases List.mem_or_eq_of_mem_set hs with hold | rfl
    · exact h s hold
    · have hplace := h _ (mem_of_lookup (lookup_eq_some hfind))
      rw [hid, hnode]
      rw [hnode] at hplace
      exact hf _ hnode (.inl hplace)
  · split at hs
    · exact h s hs
    · rcases List.mem_append.mp hs with hold | hnew
      · exact h s hold
      · obtain rfl := List.mem_singleton.mp hnew
        rw [hid]
        exact hf _ rfl (.inr rfl)

theorem announced (h : hm.Places P) {srcNode : UInt8} (hplace : P srcNode hm.boxId)
    (nodeType : UInt8) (nowMs : UInt32) :
    (hm.update srcNode 0 (announcedSlot hm.boxId nodeType nowMs)).Places P :=
  h.update (fun _ => rfl) fun _ _ _ => hplace

theorem committed (h : hm.Places P) {targetNode targetBox : UInt8} (hplace : P targetNode targetBox)
    (newStatus : UInt8) (term : UInt32) :
    (hm.update targetNode targetBox (committedSlot newStatus term)).Places P := by
  refine h.update (fun _ => rfl) fun s _ hs => ?_
  rcases hs with hold | rfl
  · exact hold
  · exact hplace

theorem heard (h : hm.Places P) (srcNode : UInt8) (nowMs : UInt32) :
    (heardMonitor hm srcNode nowMs).Places P := by
  intro s hs
  rcases mem_heardMonitor hs with hold | ⟨old, hold, rfl⟩
  · exact h s hold
  · rw [heardSlot_nodeId, heardSlot_boxId]
    exact h old hold

theorem ticked (h : hm.Places P) (leader : Bool) (nowMs : UInt32) (beyond : Nat → UInt8) :
    (tickedMonitor hm leader nowMs beyond).Places P := by
  intro s hs
  rcases mem_tickedMonitor hs with hold | ⟨old, hold, rfl⟩
  · exact h s hold
  · rw [tickedSlot_nodeId, tickedSlot_boxId]
    exact h old hold

end HealthMonitor.Places

/-! ### The node -/

section
variable {σ : Type} {lib : RaftLib σ} {o : OracleNode σ} {P : UInt8 → UInt8 → Prop} {boxId : UInt8}

/-- The node and the box of every transition go together. -/
def PlacesApplied (P : UInt8 → UInt8 → Prop) (applied : List (Nat × RaftEntry)) : Prop :=
  ∀ a ∈ applied, P a.2.transition.targetNodeId a.2.transition.targetBoxId

theorem OracleNode.Placed.cbApplylog (h : o.Placed P boxId) {entry : RaftEntry}
    (hentry : P entry.transition.targetNodeId entry.transition.targetBoxId) :
    ({ o with health := (L2Oracle.cbApplylog o.health entry).1 } : OracleNode σ).Placed P boxId where
  box := h.box
  monitor hm hhm := by
    unfold L2Oracle.cbApplylog at hhm
    split at hhm
    · cases hhealth : o.health with
      | none =>
          rw [hhealth] at hhm
          cases hhm
      | some old =>
          simp only [hhealth, healthTableApply_eq] at hhm
          obtain rfl := Option.some.inj hhm
          obtain ⟨hbox, hplaces⟩ := h.monitor old hhealth
          exact ⟨by rw [HealthMonitor.update_boxId, hbox], hplaces.committed hentry _ _⟩
    · exact h.monitor hm hhm

theorem OracleNode.Placed.runLibrary (h : o.Placed P boxId) {r : LibResult σ}
    (happlied : PlacesApplied P (L2Oracle.runLibrary o r).applied) :
    (L2Oracle.runLibrary o r).node.Placed P boxId := by
  have hfold := List.foldlRecOn r.calls runCallback
    (motive := fun e => PlacesApplied P e.applied → e.node.Placed P boxId)
    (b := ⟨{ o with raft := r.raft }, [], []⟩) (fun _ => ⟨h.box, h.monitor⟩) fun e he call _ hnext => by
      cases call with
      | sendRequestVote | sendAppendEntries => exact he hnext
      | applyLog entry idx =>
          have hbefore : PlacesApplied P e.applied := fun a ha => hnext a (List.mem_append_left _ ha)
          have hentry := hnext (idx, entry) (List.mem_append_right _ (List.mem_singleton_self _))
          exact (he hbefore).cbApplylog hentry
  exact hfold happlied

theorem runLibrary_boxId (o : OracleNode σ) (r : LibResult σ) :
    (runLibrary o r).node.boxId = o.boxId := by
  have hcall (e : Effect σ) (call : RaftCall) : (runCallback e call).node.boxId = e.node.boxId := by
    cases call <;> rfl
  have hfold := List.foldlRecOn r.calls runCallback (motive := fun e => e.node.boxId = o.boxId)
    (b := ⟨{ o with raft := r.raft }, [], []⟩) rfl fun e he call _ => (hcall e call).trans he
  exact hfold

theorem submitAll_boxId (lib : RaftLib σ) (env now : Nat) (qs : List Proposal) (e : Effect σ) :
    ((oracleApi lib env now).submitAll e qs).node.boxId = e.node.boxId :=
  List.foldlRecOn qs (oracleApi lib env now).submit (motive := fun e' => e'.node.boxId = e.node.boxId)
    rfl fun e' he q _ => by
      simp only [OracleApi.submit, oracleApi, oracleProposeHealthTransition]
      split
      · exact (runLibrary_boxId _ _).trans he
      · exact he

/-- A function of the monitor that leaves the node in its box. -/
theorem OracleNode.Placed.withMonitor (h : o.Placed P boxId)
    {F : HealthMonitor → Effect σ → HealthMonitor × Effect σ}
    (hnode : ∀ hm, (F hm ⟨o, [], []⟩).2.node.boxId = o.boxId)
    (hF : ∀ hm, hm.boxId = boxId → hm.Places P →
      (F hm ⟨o, [], []⟩).1.boxId = boxId ∧ (F hm ⟨o, [], []⟩).1.Places P) :
    (L2Oracle.withMonitor o F).node.Placed P boxId := by
  unfold L2Oracle.withMonitor
  cases hhealth : o.health with
  | none => exact h
  | some hm =>
      obtain ⟨hbox, hplaces⟩ := h.monitor hm hhealth
      refine ⟨(hnode hm).trans h.box, fun hm' hhm' => ?_⟩
      obtain rfl := Option.some.inj hhm'
      exact hF hm hbox hplaces

theorem OracleNode.Placed.dispatch (h : o.Placed P boxId) {env : Nat} {srcNode : UInt8}
    {msgType : RaftMsgType} {mem : Nat → UInt8} {len now : Nat}
    (happlied : PlacesApplied P
      (oracleDispatchRaftMessage lib o env srcNode msgType mem len now).1.applied) :
    (oracleDispatchRaftMessage lib o env srcNode msgType mem len now).1.node.Placed P boxId := by
  have hcases := dispatched lib o env srcNode msgType mem len now
  generalize oracleDispatchRaftMessage lib o env srcNode msgType mem len now = d at hcases happlied ⊢
  cases hcases with
  | dropped => exact h
  | requestVote | requestVoteResp | appendEntries => exact h.runLibrary happlied
  | appendEntriesResp =>
      refine OracleNode.Placed.runLibrary
        (o := { o with health := reportedHealth o srcNode now mem len }) ⟨h.box, fun hm hhm => ?_⟩ happlied
      simp only [reportedHealth] at hhm
      split at hhm
      · obtain ⟨old, hold, rfl⟩ := Option.mem_map.mp hhm
        obtain ⟨hbox, hplaces⟩ := h.monitor old hold
        refine ⟨?_, ?_⟩
        · unfold healthMonitorUpdateCorroboration
          split <;> exact hbox
        · rwa [HealthMonitor.Places, healthMonitorUpdateCorroboration_slots]
      · exact h.monitor hm hhm

/-- The node that announces itself in the call. -/
def NodeCall.announces : NodeCall → Option UInt8
  | .announce srcNode .. => some srcNode
  | .startHealth | .oracleTick .. | .dispatch .. | .heartbeat .. | .tick .. | .propose .. => none

/-- Nodes come into the table of a node by an announcement to it or by a transition that it applies. -/
theorem NodeCall.placed {view : σ → RaftView} (rules : RaftRules lib view) (h : o.Placed P boxId)
    {x : NodeCall} (hannounced : ∀ srcNode ∈ x.announces, P srcNode boxId)
    (happlied : PlacesApplied P (x.run lib o).applied) : (x.run lib o).node.Placed P boxId := by
  cases x with
  | startHealth =>
      refine ⟨h.box, fun hm hhm => ?_⟩
      obtain rfl := Option.some.inj hhm
      exact ⟨h.box, List.forall_mem_nil _⟩
  | oracleTick env elapsedMs => exact h.runLibrary happlied
  | dispatch srcNode msgType payload beyond env now => exact h.dispatch happlied
  | announce srcNode ann sample =>
      refine h.withMonitor (fun hm => rfl) fun hm hbox hplaces => ?_
      simp only [healthMonitorProcessAnnounce_eq]
      exact ⟨by rw [HealthMonitor.update_boxId, hbox],
        hplaces.announced (hbox ▸ hannounced srcNode rfl) _ _⟩
  | heartbeat srcNode hb sample env now =>
      refine h.withMonitor (fun hm => ?_) fun hm hbox hplaces => ?_
      · rw [healthMonitorProcessHeartbeat_eq]
        exact submitAll_boxId lib env now _ _
      · rw [healthMonitorProcessHeartbeat_eq]
        exact ⟨by rw [heardMonitor_boxId, hbox], hplaces.heard _ _⟩
  | tick beyond sample env now =>
      refine h.withMonitor (fun hm => ?_) fun hm hbox hplaces => ?_
      · rw [healthMonitorTick_eq (oracleApi_keepsLeadership rules env now)]
        exact submitAll_boxId lib env now _ _
      · rw [healthMonitorTick_eq (oracleApi_keepsLeadership rules env now)]
        exact ⟨hbox, hplaces.ticked _ _ _⟩
  | propose targetNode targetBox oldStatus newStatus env now =>
      simp only [run, oracleProposeHealthTransition] at happlied ⊢
      split at happlied
      · rename_i hleader
        rw [if_pos hleader]
        exact OracleNode.Placed.runLibrary (o := { o with nextEntryId := o.nextEntryId + 1 })
          ⟨h.box, h.monitor⟩ happlied
      · rename_i hleader
        rw [if_neg hleader]
        exact h

theorem places_of_proposed {x : NodeCall} {entry : RaftEntry} (h : o.Placed P boxId)
    (hproposes : x.Proposes lib o entry) (htask : x.OfTask) :
    P entry.transition.targetNodeId entry.transition.targetBoxId := by
  obtain ⟨-, q, hq, hcarries⟩ := hproposes
  rw [hcarries.transition]
  -- a proposal names an entry of the table
  have hslot : ∃ hm ∈ o.health, ∃ s ∈ hm.slots, q.targetNode = s.nodeId ∧ q.targetBox = s.boxId := by
    cases x with
    | propose => exact htask.elim
    | startHealth | oracleTick | dispatch | announce => cases hq
    | heartbeat srcNode hb sample env now =>
        cases hhealth : o.health with
        | none => simp [NodeCall.proposals, hhealth] at hq
        | some hm =>
            simp only [NodeCall.proposals, hhealth] at hq
            obtain ⟨s, hlookup, -, rfl⟩ := mem_heartbeatProposals.mp hq
            exact ⟨hm, rfl, s, mem_of_lookup hlookup, rfl, rfl⟩
    | tick beyond sample env now =>
        cases hhealth : o.health with
        | none => simp [NodeCall.proposals, hhealth] at hq
        | some hm =>
            simp only [NodeCall.proposals, hhealth] at hq
            obtain ⟨-, s, hs, hprop⟩ := mem_tickProposals.mp hq
            refine ⟨hm, rfl, s, hs, ?_⟩
            rcases slotProposal_eq_some.mp hprop with ⟨-, -, rfl⟩ | ⟨-, -, -, -, rfl⟩ <;>
              exact ⟨rfl, rfl⟩
  obtain ⟨hm, hhm, s, hs, hnode, hbox⟩ := hslot
  have hplace := (h.monitor hm hhm).2 s hs
  rwa [← hnode, ← hbox] at hplace

end

/-! ### Every run -/

section
variable {σ : Type}

/-- The node announced itself to a member in the box. -/
def AnnouncedIn (c : ClusterSetup σ) (xs : List ClusterCall) (nodeId boxId : UInt8) : Prop :=
  ∃ x ∈ xs, x.1 ∈ c.members ∧ nodeId ∈ x.2.announces ∧ boxId = c.box x.1

variable {c : ClusterSetup σ} {view : σ → RaftView} {s : Cluster σ} {xs : List ClusterCall}

theorem AnnouncedIn.snoc {nodeId boxId : UInt8} (h : AnnouncedIn c xs nodeId boxId) (x : ClusterCall) :
    AnnouncedIn c (xs ++ [x]) nodeId boxId := by
  obtain ⟨y, hy, hannounced⟩ := h
  exact ⟨y, List.mem_append_left _ hy, hannounced⟩

theorem OracleNode.Placed.mono {o : OracleNode σ} {P Q : UInt8 → UInt8 → Prop} {boxId : UInt8}
    (h : o.Placed P boxId) (hle : ∀ nodeId boxId, P nodeId boxId → Q nodeId boxId) :
    o.Placed Q boxId where
  box := h.box
  monitor hm hhm := ⟨(h.monitor hm hhm).1, fun s hs => hle _ _ ((h.monitor hm hhm).2 s hs)⟩

/-- What was proposed by the end of a run was proposed before its last call or by it. -/
theorem ProposedIn.of_snoc {x : ClusterCall} {entry : RaftEntry}
    (h : ProposedIn c s (xs ++ [x]) entry) :
    ProposedIn c s xs entry ∨ x.1 ∈ c.members ∧ x.2.Proposes c.lib ((run c.call s xs).nodes x.1) entry := by
  obtain ⟨pre, y, post, hsplit, hmem, hproposes⟩ := h
  rcases List.eq_nil_or_concat post with rfl | ⟨post, z, rfl⟩
  · obtain ⟨rfl, hlast⟩ := List.append_inj' hsplit rfl
    obtain rfl := List.singleton_inj.mp hlast
    exact .inr ⟨hmem, hproposes⟩
  · rw [List.concat_eq_append, ← List.cons_append, ← List.append_assoc] at hsplit
    obtain ⟨rfl, -⟩ := List.append_inj' hsplit rfl
    exact .inl ⟨pre, y, post, rfl, hmem, hproposes⟩

/-- All nodes are as they were set up, in their boxes, and no table has an entry. -/
def ClusterSetup.Unannounced (c : ClusterSetup σ) (s : Cluster σ) : Prop :=
  ∀ n ∈ c.members, (s.nodes n).Placed (fun _ _ => False) (c.box n)

/-- The tables and the transitions that were proposed name only what was announced. -/
structure AnnouncedInv (c : ClusterSetup σ) (s : Cluster σ) (xs : List ClusterCall) : Prop where
  tables : ∀ n ∈ c.members, ((run c.call s xs).nodes n).Placed (AnnouncedIn c xs) (c.box n)
  proposed : ∀ entry, ProposedIn c s xs entry →
    AnnouncedIn c xs entry.transition.targetNodeId entry.transition.targetBoxId

theorem AnnouncedInv.call (rules : RaftRules c.lib view) (hstart : c.Started view s)
    (h : AnnouncedInv c s xs) {x : ClusterCall} (htasks : c.Along Tasked s (xs ++ [x])) :
    AnnouncedInv c s (xs ++ [x]) := by
  obtain ⟨-, hx⟩ := throughout_snoc.mp htasks
  have hproposed : ∀ entry, ProposedIn c s (xs ++ [x]) entry → AnnouncedIn c (xs ++ [x])
      entry.transition.targetNodeId entry.transition.targetBoxId := by
    intro entry hentry
    rcases hentry.of_snoc with hold | ⟨hmem, hproposes⟩
    · exact (h.proposed entry hold).snoc x
    · exact (places_of_proposed (h.tables x.1 hmem) hproposes hx.2).snoc x
  refine ⟨fun n hn => ?_, hproposed⟩
  have hbefore := (h.tables n hn).mono fun _ _ hplace => hplace.snoc x
  have happlied := (originInv_run rules hstart (Throughout.mono htasks fun _ _ hy => hy.1)).applied
  rw [run_append] at happlied ⊢
  show (Function.update (run c.call s xs).nodes x.1 _ n).Placed _ _
  by_cases hnode : n = x.1
  · rw [hnode, Function.update_self]
    rw [hnode] at hbefore
    refine x.2.placed rules hbefore (fun srcNode hsrc => ?_) fun a ha => ?_
    · exact ⟨x, List.mem_append_right _ (List.mem_singleton_self x), hx.1.1, hsrc, rfl⟩
    · have hentry := happlied (x.1, a) (List.mem_append_right _ (List.mem_map.mpr ⟨a, ha, rfl⟩))
      exact hproposed a.2 hentry
  · rw [Function.update_of_ne hnode]
    exact hbefore

/-- In every run of the tasks of nodes that hear only each other, every entry of every table stands for
a node that announced itself to a member in the box that the entry names. -/
theorem announcedInv_run (rules : RaftRules c.lib view) (hstart : c.Started view s)
    (hnone : c.Unannounced s) (h : c.Along Tasked s xs) : AnnouncedInv c s xs := by
  refine (Throughout.induction (I := fun xs => c.Along Tasked s xs ∧ AnnouncedInv c s xs)
    ⟨throughout_nil, fun n hn => ?_, fun entry hentry => ?_⟩ (fun pre x hpre hx => ?_) h).2
  · exact (hnone n hn).mono fun _ _ hfalse => hfalse.elim
  · obtain ⟨pre, x, post, hsplit, -⟩ := hentry
    simp at hsplit
  · have htasks := throughout_snoc.mpr ⟨hpre.1, hx⟩
    exact ⟨htasks, hpre.2.call rules hstart htasks⟩

end

end L2Oracle
