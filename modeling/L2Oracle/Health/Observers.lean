import L2Oracle.Health.Run

/-!
# What a follower reports

`health_monitor_get_observations` reports the first `MAX_OBSERVATIONS_PER_RESP` slots, whatever they
are. A committed transition of a node of another box writes the same slots, so what a follower reports
about a remote node is what the leader replicated to it.

The first slots are a table of their own: every operation of a follower changes them as a function of
themselves and of the time of the last tick (`SameWindow.step`). So two runs that differ only in
commits outside the first slots report the same. Conversely, a commit that lands in the first slots
shows in the report.
-/

namespace L2Oracle

open Base

/-- The slots that are reported. -/
def HealthMonitor.window (hm : HealthMonitor) : List Slot := hm.slots.take maxObservationsPerResp

/-- The reported slots are full and none of them is the node's. -/
def HealthMonitor.OutsideWindow (hm : HealthMonitor) (nodeId : UInt8) : Prop :=
  maxObservationsPerResp ≤ hm.slots.length ∧ nodeId ∉ hm.window.map Slot.nodeId

instance (hm : HealthMonitor) (nodeId : UInt8) : Decidable (hm.OutsideWindow nodeId) :=
  inferInstanceAs (Decidable (_ ∧ _))

/-- The commit of a transition for a node of another box that lands outside the reported slots. -/
def landsOutside (s : MonitorState) : MonitorOp → Bool
  | .apply t => t.targetBox ≠ s.hm.boxId ∧ s.hm.OutsideWindow t.targetNode
  | _ => false

/-- A run without the remote commits that land outside the reported slots. -/
def windowOps (c : Setup) (ops : List MonitorOp) : List MonitorOp :=
  purge MonitorState.step landsOutside c.init ops

/-- A run without any commits for nodes of other boxes. -/
def withoutRemoteCommits (c : Setup) (ops : List MonitorOp) : List MonitorOp :=
  ops.filter fun
    | .apply t => t.targetBox = c.boxId
    | _ => true

/-- A run on a node that never leads. -/
structure FollowerRun (c : Setup) (ops : List MonitorOp) : Prop where
  follower : c.leader = false
  noLead : ∀ op ∈ ops, op.isLead = false

/-- What the node reports after a run. -/
def Setup.observations (c : Setup) (ops : List MonitorOp) : List ObservationEntry :=
  healthMonitorGetObservations (c.reach ops).hm

/-! ### The reported slots as a table of their own -/

theorem HealthMonitor.window_update (hm : HealthMonitor) (nodeId boxId : UInt8) (f : Slot → Slot) :
    (hm.update nodeId boxId f).window
      = upsert Slot.nodeId maxObservationsPerResp hm.window nodeId (Slot.fresh nodeId boxId) f := by
  rw [window, update_slots, take_upsert (by decide), window]

theorem window_heardMonitor (hm : HealthMonitor) (srcNode : UInt8) (nowMs : UInt32) :
    (heardMonitor hm srcNode nowMs).window
      = modifyKey Slot.nodeId hm.window srcNode (heardSlot nowMs) := by
  rw [HealthMonitor.window, heardMonitor_slots, take_modifyKey, HealthMonitor.window]

theorem window_tickedMonitor (hm : HealthMonitor) (leader : Bool) (nowMs : UInt32)
    (beyond : Nat → UInt8) :
    (tickedMonitor hm leader nowMs beyond).window
      = if hm.Ticks nowMs then hm.window.map (tickedSlot hm leader nowMs beyond)
        else hm.window := by
  unfold tickedMonitor HealthMonitor.window
  dsimp only
  split
  · rw [List.map_take]
  · rfl

/-- On a node that does not lead, a tick makes of a slot what the slot alone says. -/
theorem tickedSlot_follower (hm hm' : HealthMonitor) (nowMs : UInt32) (beyond : Nat → UInt8) :
    tickedSlot hm false nowMs beyond = tickedSlot hm' false nowMs beyond := by
  funext s
  simp [tickedSlot]

theorem HealthMonitor.OutsideWindow.window_update {hm : HealthMonitor} {nodeId : UInt8}
    (h : hm.OutsideWindow nodeId) (boxId : UInt8) (f : Slot → Slot) :
    (hm.update nodeId boxId f).window = hm.window := by
  have hfind : (hm.window.findIdx? fun s => s.nodeId == nodeId) = none :=
    findIdx?_eq_none.mpr (Base.lookup_eq_none.mpr h.2)
  have hfull : maxObservationsPerResp ≤ hm.window.length := by
    rw [window, List.length_take]
    exact Nat.le_min.mpr ⟨Nat.le_refl _, h.1⟩
  rw [HealthMonitor.window_update, upsert, hfind]
  exact if_pos hfull

/-! ### Two runs -/

/-- Two followers with the same reported slots and the same time of the last tick. -/
structure SameWindow (s t : MonitorState) : Prop where
  left : s.port.leader = false
  right : t.port.leader = false
  window : s.hm.window = t.hm.window
  lastTick : s.hm.lastTickMs = t.hm.lastTickMs
  box : s.hm.boxId = t.hm.boxId

theorem window_congr {hm hm' : HealthMonitor} (h : hm.slots = hm'.slots) :
    hm.window = hm'.window := by
  rw [HealthMonitor.window, h, HealthMonitor.window]

/-- An operation makes of the reported slots what they and the last tick say. -/
theorem SameWindow.window_step {s t : MonitorState} (h : SameWindow s t) (op : MonitorOp) :
    (s.step op).hm.window = (t.step op).hm.window := by
  rw [MonitorState.step_hm, MonitorState.step_hm]
  cases op with
  | announce srcNode ann now =>
      simp only [MonitorState.nextMonitor, HealthMonitor.window_update, h.window, h.box]
  | heartbeat srcNode hb now =>
      simp only [MonitorState.nextMonitor, window_heardMonitor, h.window]
  | tick now beyond =>
      have hticks : s.hm.Ticks (clock now) ↔ t.hm.Ticks (clock now) := by
        rw [HealthMonitor.Ticks, h.lastTick, HealthMonitor.Ticks]
      simp only [MonitorState.nextMonitor, window_tickedMonitor, h.window, h.left, h.right, hticks,
        tickedSlot_follower s.hm t.hm]
  | apply transition =>
      simp only [MonitorState.nextMonitor, HealthMonitor.window_update, h.window]
  | observe peer obs now =>
      simp only [MonitorState.nextMonitor]
      split
      · exact h.window
      · rw [window_congr (healthMonitorUpdateCorroboration_slots s.hm peer obs (clock now)), h.window,
          window_congr (healthMonitorUpdateCorroboration_slots t.hm peer obs (clock now))]
  | lead leader term => exact h.window

theorem follower_step {s : MonitorState} {op : MonitorOp} (h : s.port.leader = false)
    (hop : op.isLead = false) : (s.step op).port.leader = false := by
  rw [MonitorState.step_leader]
  cases op with
  | lead => cases hop
  | announce | heartbeat | tick | apply | observe => exact h

theorem SameWindow.step {s t : MonitorState} (h : SameWindow s t) {op : MonitorOp}
    (hop : op.isLead = false) : SameWindow (s.step op) (t.step op) where
  left := follower_step h.left hop
  right := follower_step h.right hop
  window := h.window_step op
  lastTick := by rw [MonitorState.step_lastTickMs, MonitorState.step_lastTickMs, h.lastTick]
  box := by rw [MonitorState.step_boxId, MonitorState.step_boxId, h.box]

theorem SameWindow.hidden_step {s t : MonitorState} (h : SameWindow s t) {op : MonitorOp}
    (hhidden : landsOutside s op = true) : SameWindow (s.step op) t := by
  cases op with
  | apply transition =>
      have houtside : s.hm.OutsideWindow transition.targetNode := (of_decide_eq_true hhidden).2
      refine ⟨follower_step h.left rfl, h.right, ?_, ?_, ?_⟩
      · rw [MonitorState.step_hm]
        exact (houtside.window_update _ _).trans h.window
      · rw [MonitorState.step_lastTickMs]
        exact h.lastTick
      · rw [MonitorState.step_boxId]
        exact h.box
  | announce | heartbeat | tick | observe | lead => cases hhidden

theorem sameWindow_windowOps {c : Setup} {ops : List MonitorOp} (h : FollowerRun c ops) :
    SameWindow (c.reach ops) (c.reach (windowOps c ops)) :=
  run_purge MonitorState.step (fun _ _ _ _ hsame => hsame.hidden_step)
    (fun _ _ _ hop hsame => hsame.step hop) h.noLead
    ⟨h.follower, h.follower, rfl, rfl, rfl⟩

/-! ### The report -/

theorem observations_eq_map (hm : HealthMonitor) :
    healthMonitorGetObservations hm
      = hm.window.map fun s => ⟨s.entry.nodeId, s.entry.status, confidence s.entry.status⟩ := rfl

/-- Where the node has one of the reported slots or gets one, a commit shows in the report. -/
theorem observations_ne_of_inside {c : Setup} {ops : List MonitorOp} {nodeId : UInt8}
    (h : ¬(c.reach ops).hm.OutsideWindow nodeId) (boxId : UInt8) :
    ∃ t : Transition, t.targetNode = nodeId ∧ t.targetBox = boxId ∧
      c.observations (ops ++ [.apply t]) ≠ c.observations ops := by
  have hafter : ∀ t, c.observations (ops ++ [.apply t])
      = (upsert Slot.nodeId maxObservationsPerResp (c.reach ops).hm.window t.targetNode
          (Slot.fresh t.targetNode t.targetBox) (committedSlot t.newStatus t.term)).map
        fun s => ⟨s.entry.nodeId, s.entry.status, confidence s.entry.status⟩ := by
    intro t
    rw [Setup.observations, Setup.reach_snoc, observations_eq_map, MonitorState.step_hm]
    exact congrArg _ ((c.reach ops).hm.window_update _ _ _)
  cases hfind : (c.reach ops).hm.window.findIdx? fun s => s.nodeId == nodeId with
  | some i =>
      -- the node is reported: commit any other status
      obtain ⟨hi, -, -⟩ := List.findIdx?_eq_some_iff_getElem.mp hfind
      let old := (c.reach ops).hm.window[i]
      refine ⟨⟨nodeId, boxId, old.status, old.status + 1, 0⟩, rfl, rfl, fun heq => ?_⟩
      rw [hafter, upsert, hfind, Setup.observations, observations_eq_map] at heq
      have hentry := congrArg (fun obs => (obs[i]?).map ObservationEntry.observedStatus) heq
      simp [hi, committedSlot, old] at hentry
  | none =>
      refine ⟨⟨nodeId, boxId, nodeUp, nodeUp, 0⟩, rfl, rfl, fun heq => ?_⟩
      have hroom : ¬maxObservationsPerResp ≤ (c.reach ops).hm.window.length := by
        intro hfull
        refine h ⟨hfull.trans (List.length_take_le' _ _), ?_⟩
        exact Base.lookup_eq_none.mp (findIdx?_eq_none.mp hfind)
      rw [hafter, upsert, hfind, Setup.observations, observations_eq_map] at heq
      have hlength := congrArg List.length heq
      simp [hroom] at hlength

/-- Two runs of a follower that differ only in remote commits outside the reported slots report the
same; and a single commit for a node leaves the report alone, whatever it says, exactly if it lands
outside the reported slots. -/
theorem observers_independent_iff (c : Setup) :
    (∀ ops ops', FollowerRun c ops → FollowerRun c ops' → windowOps c ops = windowOps c ops' →
      c.observations ops = c.observations ops') ∧
    ∀ ops nodeId boxId,
      (∀ t : Transition, t.targetNode = nodeId → t.targetBox = boxId →
        c.observations (ops ++ [.apply t]) = c.observations ops) ↔
      (c.reach ops).hm.OutsideWindow nodeId := by
  refine ⟨fun ops ops' hrun hrun' hsame => ?_, fun ops nodeId boxId => ⟨fun h => ?_, ?_⟩⟩
  · have hleft := (sameWindow_windowOps hrun).window
    have hright := (sameWindow_windowOps hrun').window
    rw [Setup.observations, Setup.observations, observations_eq_map, observations_eq_map, hleft,
      hright, hsame]
  · by_contra hinside
    obtain ⟨t, hnode, hbox, hne⟩ := observations_ne_of_inside hinside boxId
    exact hne (h t hnode hbox)
  · rintro houtside t rfl -
    rw [Setup.observations, Setup.reach_snoc, MonitorState.step_hm, Setup.observations,
      observations_eq_map, observations_eq_map]
    exact congrArg _ (houtside.window_update _ _)

/-- A follower with eight nodes of its own. -/
def eightNodesRun : List MonitorOp :=
  [1, 2, 3, 4, 5, 6, 7, 8].map fun nodeId => .announce nodeId ⟨2⟩ 10

/-- What is committed for a ninth node does not show. -/
theorem observers_independent_eightNodesRun :
    followerOfBox1.observations (eightNodesRun ++ [.apply ⟨20, 2, nodeUp, nodeSuspect, 1⟩])
      = followerOfBox1.observations (eightNodesRun ++ [.apply ⟨20, 2, nodeUp, nodeDown, 1⟩]) := by
  refine (observers_independent_iff followerOfBox1).1 _ _ ⟨rfl, by decide +kernel⟩
    ⟨rfl, by decide +kernel⟩ ?_
  rfl

/-- A follower that hears of node 7 of box 2 that it is SUSPECT. -/
def suspectCommitRun : List MonitorOp :=
  [.announce 5 ⟨2⟩ 10, .apply ⟨7, 2, nodeUp, nodeSuspect, 1⟩]

/-- The same follower, with another transition of the same node. -/
def upCommitRun : List MonitorOp :=
  [.announce 5 ⟨2⟩ 10, .apply ⟨7, 2, nodeSuspect, nodeUp, 1⟩]

/-- The follower reports about node 7 what was committed for it. -/
theorem echo_suspectCommitRun :
    FollowerRun followerOfBox1 suspectCommitRun ∧ FollowerRun followerOfBox1 upCommitRun ∧
      withoutRemoteCommits followerOfBox1 suspectCommitRun
        = withoutRemoteCommits followerOfBox1 upCommitRun ∧
      (followerOfBox1.observations suspectCommitRun).filter (fun ob => ob.nodeId = 7)
        ≠ (followerOfBox1.observations upCommitRun).filter (fun ob => ob.nodeId = 7) := by
  refine ⟨⟨rfl, by decide +kernel⟩, ⟨rfl, by decide +kernel⟩, rfl, by decide +kernel⟩

end L2Oracle
