import L2Oracle.Raft.Malformed

/-!
# The observation sideband

Every response to an AppendEntries carries the follower's observations, and the leader writes them into
the follower's row of the corroboration matrix. The response has room for
`MAX_OBSERVATIONS_PER_RESP` nodes, which is as many as a box may have, but
`health_monitor_get_observations` fills it from the first slots of the table, and the slots that
commits took for nodes of other boxes count too. The leader drops an observation of a node without a
column and all observations of a follower without a row.

A response is followed here from the call that builds it to the matrix. What arrives of a local node is
decided by its slot, its id and the follower's id, and where nothing arrives the row is left with what
it held before.
-/

namespace L2Oracle

open Base

/-! ### What a response writes -/

/-- `status[peer][node]`, where the matrix has this cell. -/
def CorroborationTable.cell (table : CorroborationTable) (peer node : Nat) : Option UInt8 :=
  if peer < oracleMaxNodes ∧ node < maxHealthNodes then
    some (table.status (corroborationOffset peer node)) else none

theorem cell_eq_some {table : CorroborationTable} {peer node : Nat} {status : UInt8} :
    table.cell peer node = some status ↔ (peer < oracleMaxNodes ∧ node < maxHealthNodes) ∧
      table.status (corroborationOffset peer node) = status := by
  unfold CorroborationTable.cell
  split <;> simp_all

/-- The matrix after the observations of a response; without any the leader does not look at them. -/
def reportedTable (hm : HealthMonitor) (peer : UInt8) (obs : List ObservationEntry) (nowMs : UInt32) :
    CorroborationTable :=
  if obs = [] then hm.corroboration
  else (healthMonitorUpdateCorroboration hm peer obs nowMs).corroboration

/-- A response writes what it reports into the cells of its peer, and nothing else. -/
theorem cell_reportedTable (hm : HealthMonitor) (peer : UInt8) (obs : List ObservationEntry)
    (nowMs : UInt32) (p node : Nat) :
    (reportedTable hm peer obs nowMs).cell p node
      = if p = peer.toNat then (hm.corroboration.cell p node).map ((reported node obs).getD ·)
        else hm.corroboration.cell p node := by
  unfold CorroborationTable.cell
  by_cases hcell : p < oracleMaxNodes ∧ node < maxHealthNodes
  · simp only [if_pos hcell, Option.map_some, ← apply_ite some]
    refine congrArg some ?_
    unfold reportedTable
    by_cases hnil : obs = []
    · simp [hnil, reported]
    · rw [if_neg hnil, healthMonitorUpdateCorroboration]
      by_cases hrow : oracleMaxNodes ≤ peer.toNat
      · rw [if_pos hrow, if_neg (by omega)]
      · rw [if_neg hrow]
        exact foldl_recordObservation_status hcell.2 hm.corroboration obs
  · simp only [if_neg hcell, Option.map_none, ite_self]

theorem updatedMs_reportedTable (hm : HealthMonitor) (peer : UInt8) (obs : List ObservationEntry)
    (nowMs : UInt32) {p : Nat} (hp : p ≠ peer.toNat) :
    (reportedTable hm peer obs nowMs).updatedMs p = hm.corroboration.updatedMs p := by
  unfold reportedTable healthMonitorUpdateCorroboration
  split_ifs
  · rfl
  · rfl
  · simp only [Function.update_of_ne hp, foldl_recordObservation_updatedMs]

section
variable {σ : Type} (lib : RaftLib σ)

/-- The answer to an AppendEntries is the last frame, built from the monitor that the call leaves. -/
theorem frame_of_answer {follower : OracleNode σ} {env : Nat} {src : UInt8} {mem : Nat → UInt8}
    {len now : Nat} {frame : Frame}
    (h : frame ∈ (oracleDispatchRaftMessage lib follower env src .appendEntries mem len
      now).1.sent.getLast?) :
    ∃ resp, frame = ⟨src, ethertypeRaft, .appendEntriesResp,
      (appendEntriesAnswer (oracleDispatchRaftMessage lib follower env src .appendEntries mem len
        now).1.node.health resp).bytes⟩ := by
  have hcases := dispatched lib follower env src .appendEntries mem len now
  generalize oracleDispatchRaftMessage lib follower env src .appendEntries mem len now = d at h hcases ⊢
  cases hcases with
  | dropped => cases h
  | appendEntries =>
      rw [handAppendEntries, List.getLast?_concat] at h
      exact ⟨_, (Option.some.inj h).symm⟩

/-- What the leader's matrix is after it dispatched the response of a follower. -/
theorem dispatch_answer {o : OracleNode σ} {hm fhm : HealthMonitor} (hhealth : o.health = some hm)
    {peer : UInt8} (hknown : lib.raftGetNode o.raft peer) (resp : MsgAppendEntriesResponse)
    (env now : Nat) (beyond : Nat → UInt8) :
    (oracleDispatchRaftMessage lib o env peer .appendEntriesResp
      (buffer (appendEntriesAnswer (some fhm) resp).bytes beyond)
      (appendEntriesAnswer (some fhm) resp).bytes.length now).1.node.health.map
        HealthMonitor.corroboration
      = some (reportedTable hm peer (healthMonitorGetObservations fhm) (UInt32.ofNat now)) := by
  have hcount : (healthMonitorGetObservations fhm).length ≤ maxObservationsPerResp := by
    simp [healthMonitorGetObservations]
  obtain ⟨hn, hobs⟩ := PayloadAppendEntriesResp.read_bytes_obs
    (p := appendEntriesAnswer (some fhm) resp) rfl hcount beyond
  rw [PayloadAppendEntriesResp.length_bytes, dispatch_appendEntriesResp env _ now hknown (by decide),
    handResponse, runLibrary_corroboration]
  have hpos : 0 < (appendEntriesAnswer (some fhm) resp).nObservations ↔
      healthMonitorGetObservations fhm ≠ [] := by
    have hnat : (appendEntriesAnswer (some fhm) resp).nObservations.toNat
        = (healthMonitorGetObservations fhm).length :=
      UInt8.toNat_ofNat_of_lt' (Nat.lt_of_le_of_lt hcount (by decide))
    rw [UInt8.lt_iff_toNat_lt, hnat, ← List.length_pos_iff]
    rfl
  simp only [reportedHealth, hn, hobs, hhealth, le_refl, and_true, Option.map_some, hpos]
  unfold reportedTable
  by_cases hnil : healthMonitorGetObservations fhm = []
  · rw [if_neg (not_not.mpr hnil), if_pos hnil, Option.map_some]
  · rw [if_pos hnil, if_neg hnil, Option.map_some]
    rfl

/-! ### Completeness -/

/-- The row of a follower holds the status of every local node of the follower, and no other row has
changed. -/
structure SidebandComplete (follower : HealthMonitor) (peer : UInt8)
    (before after : CorroborationTable) : Prop where
  row : ∀ s ∈ follower.slots, s.boxId = follower.boxId →
    after.cell peer.toNat s.nodeId.toNat = some s.status
  others : ∀ p ≠ peer.toNat, (∀ node, after.cell p node = before.cell p node) ∧
    after.updatedMs p = before.updatedMs p

/-- The matrix has a cell for every local node of the follower, and the node's slot is one of the first,
or the cell holds its status already. -/
def ReachesRow (follower : HealthMonitor) (peer : UInt8) (before : CorroborationTable) : Prop :=
  ∀ i s, follower.slots[i]? = some s → s.boxId = follower.boxId →
    peer.toNat < oracleMaxNodes ∧ s.nodeId.toNat < maxHealthNodes ∧
      (i < maxObservationsPerResp ∨ before.cell peer.toNat s.nodeId.toNat = some s.status)

theorem sidebandComplete_iff {follower hm : HealthMonitor} (hnodup : follower.ids.Nodup) (peer : UInt8)
    (nowMs : UInt32) :
    SidebandComplete follower peer hm.corroboration
        (reportedTable hm peer (healthMonitorGetObservations follower) nowMs) ↔
      ReachesRow follower peer hm.corroboration := by
  have hcell {i : Nat} {s : Slot} (hs : follower.slots[i]? = some s) :
      (reportedTable hm peer (healthMonitorGetObservations follower) nowMs).cell peer.toNat
          s.nodeId.toNat
        = (hm.corroboration.cell peer.toNat s.nodeId.toNat).map fun old =>
          if i < maxObservationsPerResp then s.status else old := by
    rw [cell_reportedTable, if_pos rfl, reported_getObservations hnodup hs]
    split <;> rfl
  constructor
  · intro h i s hs hbox
    have hrow := h.row s (List.mem_of_getElem? hs) hbox
    rw [hcell hs] at hrow
    obtain ⟨old, hold, hstatus⟩ := Option.map_eq_some_iff.mp hrow
    obtain ⟨⟨hpeer, hnode⟩, -⟩ := cell_eq_some.mp hold
    refine ⟨hpeer, hnode, ?_⟩
    by_cases hi : i < maxObservationsPerResp
    · exact .inl hi
    · rw [if_neg hi] at hstatus
      exact .inr (hstatus ▸ hold)
  · intro h
    refine ⟨fun s hmem hbox => ?_, fun p hp => ⟨fun node => ?_, ?_⟩⟩
    · obtain ⟨i, hs⟩ := List.mem_iff_getElem?.mp hmem
      obtain ⟨hpeer, hnode, hfirst⟩ := h i s hs hbox
      rw [hcell hs]
      by_cases hi : i < maxObservationsPerResp
      · have hold : hm.corroboration.cell peer.toNat s.nodeId.toNat = some _ :=
          cell_eq_some.mpr ⟨⟨hpeer, hnode⟩, rfl⟩
        rw [hold, Option.map_some, if_pos hi]
      · rw [hfirst.resolve_left hi, Option.map_some, if_neg hi]
    · rw [cell_reportedTable, if_neg hp]
    · exact updatedMs_reportedTable hm peer _ nowMs hp

theorem dispatch_answer_complete_iff {o : OracleNode σ} {hm fhm : HealthMonitor}
    (hnodup : fhm.ids.Nodup) (hhealth : o.health = some hm) {peer : UInt8}
    (hknown : lib.raftGetNode o.raft peer) (resp : MsgAppendEntriesResponse) (env now : Nat)
    (beyond : Nat → UInt8) :
    (∃ after, (oracleDispatchRaftMessage lib o env peer .appendEntriesResp
        (buffer (appendEntriesAnswer (some fhm) resp).bytes beyond)
        (appendEntriesAnswer (some fhm) resp).bytes.length now).1.node.health = some after ∧
      SidebandComplete fhm peer hm.corroboration after.corroboration) ↔
    ReachesRow fhm peer hm.corroboration := by
  obtain ⟨after, hafter, htable⟩ := Option.map_eq_some_iff.mp
    (dispatch_answer lib hhealth hknown resp env now beyond)
  rw [hafter, ← sidebandComplete_iff hnodup peer (UInt32.ofNat now), ← htable]
  exact ⟨fun ⟨_, hsome, hcomplete⟩ => Option.some.inj hsome ▸ hcomplete, fun h => ⟨after, rfl, h⟩⟩

/-- For every follower whose table a run reaches, every AppendEntries it answers and every leader that
dispatches the answer: the leader's row of the follower is complete, and the other rows unchanged,
exactly if every local node of the follower reaches the row or already stood there. -/
theorem sideband_complete_iff (c : Setup) (ops : List MonitorOp) {follower : OracleNode σ} {env : Nat}
    {src : UInt8} {mem : Nat → UInt8} {len now : Nat} {e : Effect σ}
    (hanswer : e = (oracleDispatchRaftMessage lib follower env src .appendEntries mem len now).1)
    (htable : e.node.health = some (c.reach ops).hm) {frame : Frame} (hframe : frame ∈ e.sent.getLast?)
    {o : OracleNode σ} {hm : HealthMonitor} (hhealth : o.health = some hm) {peer : UInt8}
    (hknown : lib.raftGetNode o.raft peer) (env' now' : Nat) (beyond : Nat → UInt8) :
    (∃ after, (oracleDispatchRaftMessage lib o env' peer frame.msgType (buffer frame.payload beyond)
        frame.payload.length now').1.node.health = some after ∧
      SidebandComplete (c.reach ops).hm peer hm.corroboration after.corroboration) ↔
    ReachesRow (c.reach ops).hm peer hm.corroboration := by
  subst hanswer
  obtain ⟨resp, rfl⟩ := frame_of_answer lib hframe
  rw [htable]
  exact dispatch_answer_complete_iff lib (c.reach_nodup ops) hhealth hknown resp env' now' beyond

end

/-- A node of box 2, as a follower. -/
def followerOfBox2 : Setup := { followerOfBox1 with boxId := 2 }

/-- Local node 9 falls silent after 10 ms. -/
def silentLocalRun : List MonitorOp :=
  [.announce 9 ⟨2⟩ 10, .tick 20 zeros, .tick 45 zeros]

/-- The same after eight nodes of box 3 came into the table by commits. -/
def crowdedRun : List MonitorOp :=
  (List.range 8).map (fun i => .apply ⟨UInt8.ofNat i, 3, nodeUp, nodeUp, 1⟩) ++ silentLocalRun

/-- Node 2, which follows node 1, with the given monitor. -/
def followingNode (hm : HealthMonitor) : OracleNode ReferenceServer :=
  let lib := ReferenceServer.lib
  let o := oracleAddNode lib (oracleAddNode lib (oracleInit lib 2 2) 1 false) 2 true
  { o with health := some hm }

/-- What node 2 does with an AppendEntries of node 1 that has no entries. -/
def answering (hm : HealthMonitor) : Effect ReferenceServer :=
  (oracleDispatchRaftMessage ReferenceServer.lib (followingNode hm) 0 1 .appendEntries zeros 16 0).1

theorem sideband_complete_silentLocalRun :
    ∃ frame ∈ (answering (followerOfBox2.reach silentLocalRun).hm).sent.getLast?,
      ∃ after, (oracleDispatchRaftMessage ReferenceServer.lib monitoringNode 0 2 frame.msgType
          (buffer frame.payload zeros) frame.payload.length 50).1.node.health = some after ∧
        SidebandComplete (followerOfBox2.reach silentLocalRun).hm 2
          (healthMonitorInit true 1).corroboration after.corroboration := by
  have hslots : (followerOfBox2.reach silentLocalRun).hm.slots
      = [⟨⟨9, 2, 2, nodeSuspect, 10, 0⟩, 3, 45⟩] := by decide +kernel
  have hreaches : ReachesRow (followerOfBox2.reach silentLocalRun).hm 2
      (healthMonitorInit true 1).corroboration := by
    intro i s hs _
    rw [hslots] at hs
    obtain ⟨hi, rfl⟩ := List.getElem?_eq_some_iff.mp hs
    obtain rfl : i = 0 := by simpa using hi
    exact ⟨by decide, (by decide : (9 : UInt8).toNat < maxHealthNodes), .inl (by decide)⟩
  obtain ⟨frame, hframe⟩ : ∃ frame, frame ∈
      (answering (followerOfBox2.reach silentLocalRun).hm).sent.getLast? :=
    Option.isSome_iff_exists.mp (by decide +kernel)
  exact ⟨frame, hframe, (sideband_complete_iff ReferenceServer.lib followerOfBox2 silentLocalRun rfl
    rfl hframe rfl (by decide +kernel) 0 50 zeros).mpr hreaches⟩

/-- The leader learns nothing of local node 9, which is SUSPECT, because its slot is the ninth. -/
theorem sideband_incomplete_crowdedRun :
    ((followerOfBox2.reach crowdedRun).hm.slots.filter fun s => s.boxId = 2).length = 1 ∧
    ¬∃ after, (oracleDispatchRaftMessage ReferenceServer.lib monitoringNode 0 2 .appendEntriesResp
        (buffer (appendEntriesAnswer (some (followerOfBox2.reach crowdedRun).hm) ⟨1, 1, 0, 0⟩).bytes zeros)
        (appendEntriesAnswer (some (followerOfBox2.reach crowdedRun).hm) ⟨1, 1, 0, 0⟩).bytes.length
        50).1.node.health = some after ∧
      SidebandComplete (followerOfBox2.reach crowdedRun).hm 2 (healthMonitorInit true 1).corroboration
        after.corroboration := by
  refine ⟨by decide +kernel, fun h => ?_⟩
  have hreaches := (dispatch_answer_complete_iff ReferenceServer.lib
    (followerOfBox2.reach_nodup crowdedRun) rfl (by decide +kernel) ⟨1, 1, 0, 0⟩ 0 50 zeros).mp h
  obtain ⟨-, -, hfirst⟩ := hreaches 8
    ⟨⟨9, 2, 2, nodeSuspect, 10, 0⟩, 3, 45⟩ (by decide +kernel) (by decide +kernel)
  exact absurd hfirst (by decide +kernel)

end L2Oracle
