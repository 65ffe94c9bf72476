import L2Oracle.Base.Simulation
import L2Oracle.Health.Run

/-!
# An entry and its history

The status byte of an entry is written by commits and, between them, by the monitor itself: an
announcement writes UP, a heartbeat of a failing node too, and a tick writes SUSPECT and DOWN, on a
leader as well as on a follower. `writes` says which status an operation writes in this way. The timer
of an entry, `suspect_since_ms`, goes with these writes and not with the commits: UP clears it, a SUSPECT
that a tick writes starts it, and a commit leaves it as it was.

So both can be read off the history. Of a node that has an entry or can get one, the byte is what the
monitor itself wrote last since the last commit of the node, or else what that commit said
(`statusOf_eq_ownWrite`), and the timer is the time of the last tick that wrote SUSPECT, if UP was not
written since (`suspectSince_eq`).
-/

namespace L2Oracle

open Base

/-- The status that the transitions applied so far have committed for a node, UP where there was
none. -/
def committedStatus (nodeId : UInt8) (ops : List MonitorOp) : UInt8 :=
  ops.foldl (fun status op =>
    match op with
    | .apply t => if t.targetNode = nodeId then t.newStatus else status
    | _ => status) nodeUp

def MonitorOp.Commits (nodeId : UInt8) : MonitorOp → Prop
  | .apply t => t.targetNode = nodeId
  | .announce .. | .heartbeat .. | .tick .. | .observe .. | .lead .. => False

instance (nodeId : UInt8) : ∀ op, Decidable (MonitorOp.Commits nodeId op)
  | .apply _ => inferInstanceAs (Decidable (_ = _))
  | .announce .. | .heartbeat .. | .tick .. | .observe .. | .lead .. =>
      inferInstanceAs (Decidable False)

/-- The status that a tick writes into a slot. -/
def tickWrites (hm : HealthMonitor) (leader : Bool) (nowMs : UInt32) (beyond : Nat → UInt8)
    (slot : Slot) : Option UInt8 :=
  if slot.status = nodeUp ∧ MissesEnough nowMs slot then some nodeSuspect
  else if slot.status = nodeSuspect ∧ TimerExpired nowMs slot ∧
      (leader → corroborated hm beyond slot.nodeId slot.boxId nowMs) then some nodeDown
  else none

/-- The status that an operation other than a commit writes into the entry of a node. -/
def MonitorState.writes (s : MonitorState) (nodeId : UInt8) : MonitorOp → Option UInt8
  | .announce srcNode _ _ => if srcNode = nodeId ∧ s.hm.HasRoom nodeId then some nodeUp else none
  | .heartbeat srcNode _ _ =>
      if srcNode = nodeId ∧ Failing (s.hm.statusOf nodeId) then some nodeUp else none
  | .tick now beyond =>
      if s.hm.Ticks (clock now) then
        (s.hm.lookup nodeId).bind (tickWrites s.hm s.port.leader (clock now) beyond)
      else none
  | .apply _ | .observe .. | .lead .. => none

/-- A commit of the node takes the place of what was written before it. -/
def MonitorState.byteMove (s : MonitorState) (nodeId : UInt8) (op : MonitorOp) :
    Option (Option UInt8) :=
  if op.Commits nodeId then some none else (s.writes nodeId op).map some

/-- The status that the monitor itself wrote last into the entry of a node since its last commit. -/
def Setup.ownWrite (c : Setup) (nodeId : UInt8) (ops : List MonitorOp) : Option UInt8 :=
  (latest MonitorState.step (fun s => s.byteMove nodeId) c.init ops).join

/-- UP clears the timer of a node, and SUSPECT starts it. -/
def MonitorState.timerMove (s : MonitorState) (nodeId : UInt8) (op : MonitorOp) :
    Option (Option Nat) :=
  (s.writes nodeId op).bind fun status =>
    if status = nodeUp then some none else if status = nodeSuspect then some op.time? else none

/-- The time of the tick that started the timer of a node, if it was not cleared since. -/
def Setup.timerStart (c : Setup) (nodeId : UInt8) (ops : List MonitorOp) : Option Nat :=
  (latest MonitorState.step (fun s => s.timerMove nodeId) c.init ops).join

/-! ### One operation -/

theorem committedStatus_snoc (nodeId : UInt8) (ops : List MonitorOp) (op : MonitorOp) :
    committedStatus nodeId (ops ++ [op]) = match op with
      | .apply t => if t.targetNode = nodeId then t.newStatus else committedStatus nodeId ops
      | _ => committedStatus nodeId ops := by
  rw [committedStatus, List.foldl_append]
  rfl

theorem Setup.ownWrite_snoc (c : Setup) (nodeId : UInt8) (ops : List MonitorOp) (op : MonitorOp) :
    c.ownWrite nodeId (ops ++ [op]) = if op.Commits nodeId then none
      else ((c.reach ops).writes nodeId op).or (c.ownWrite nodeId ops) := by
  rw [ownWrite, latest_snoc, MonitorState.byteMove]
  split
  · rfl
  · show ((((c.reach ops).writes nodeId op).map some).or _).join = _
    cases (c.reach ops).writes nodeId op <;> rfl

theorem Setup.timerStart_snoc (c : Setup) (nodeId : UInt8) (ops : List MonitorOp) (op : MonitorOp) :
    c.timerStart nodeId (ops ++ [op])
      = ((c.reach ops).timerMove nodeId op).getD (c.timerStart nodeId ops) := by
  rw [timerStart, latest_snoc]
  show (((c.reach ops).timerMove nodeId op).or _).join = _
  cases (c.reach ops).timerMove nodeId op <;> rfl

/-- A table that has no room for a node gets none. -/
theorem MonitorState.hasRoom_of_step {s : MonitorState} {op : MonitorOp} {nodeId : UInt8}
    (h : (s.step op).hm.HasRoom nodeId) : s.hm.HasRoom nodeId := by
  rw [HealthMonitor.hasRoom_iff, step_ids, HealthMonitor.newId] at h
  rw [HealthMonitor.hasRoom_iff]
  by_contra hfull
  obtain ⟨hnot, hlen⟩ := not_or.mp hfull
  rw [Option.filter_eq_none_iff.mpr fun id _ hnew => ?_] at h
  · simp [hnot, hlen] at h
  · simp only [decide_eq_true_eq] at hnew
    exact hlen hnew.2

theorem lookup_of_not_hasRoom {hm : HealthMonitor} {nodeId : UInt8} (h : ¬hm.HasRoom nodeId) :
    hm.lookup nodeId = none := by
  by_contra hsome
  exact h (.inl hsome)

theorem tickedSlot_status_eq (hm : HealthMonitor) (leader : Bool) (nowMs : UInt32)
    (beyond : Nat → UInt8) (slot : Slot) :
    (tickedSlot hm leader nowMs beyond slot).status
      = (tickWrites hm leader nowMs beyond slot).getD slot.status := by
  rw [tickedSlot_status, tickWrites]
  split_ifs <;> rfl

theorem tickedSlot_suspectSince (hm : HealthMonitor) (leader : Bool) (nowMs : UInt32)
    (beyond : Nat → UInt8) (slot : Slot) :
    (tickedSlot hm leader nowMs beyond slot).suspectSinceMs
      = if tickWrites hm leader nowMs beyond slot = some nodeSuspect then nowMs
        else slot.suspectSinceMs := by
  rcases tickedSlot_cases hm leader nowMs beyond slot with ⟨hup, hmiss, h⟩ | ⟨hdown, h⟩ | ⟨hup, hdown, h⟩
  · have hwrites : tickWrites hm leader nowMs beyond slot = some nodeSuspect := if_pos ⟨hup, hmiss⟩
    rw [h, if_pos hwrites]
  · have hup : slot.status ≠ nodeUp := hdown.1 ▸ nodeUp_ne_nodeSuspect.symm
    have hwrites : tickWrites hm leader nowMs beyond slot = some nodeDown := by
      rw [tickWrites, if_neg fun hbad => hup hbad.1, if_pos hdown]
    rw [h, hwrites, if_neg fun hbad => nodeDown_ne_nodeSuspect (Option.some.inj hbad)]
    exact countMisses_suspectSinceMs slot nowMs
  · have hwrites : tickWrites hm leader nowMs beyond slot = none := by
      rw [tickWrites, if_neg hup, if_neg hdown]
    rw [h, hwrites, if_neg nofun, countMisses_suspectSinceMs]

theorem tickWrites_ne_up {hm : HealthMonitor} {leader : Bool} {nowMs : UInt32}
    {beyond : Nat → UInt8} {slot : Slot} {status : UInt8}
    (h : tickWrites hm leader nowMs beyond slot = some status) : status ≠ nodeUp := by
  rw [tickWrites] at h
  split_ifs at h
  · exact Option.some.inj h ▸ nodeUp_ne_nodeSuspect.symm
  · exact Option.some.inj h ▸ nodeDown_ne_nodeUp

/-- An operation that commits nothing of a node changes its status by what it writes. -/
theorem MonitorState.step_statusOf {s : MonitorState} {op : MonitorOp} {nodeId : UInt8}
    (h : ¬op.Commits nodeId) :
    (s.step op).hm.statusOf nodeId = (s.writes nodeId op).getD (s.hm.statusOf nodeId) := by
  rw [HealthMonitor.statusOf, step_lookup]
  cases op with
  | announce srcNode ann now =>
      by_cases hid : nodeId = srcNode
      · subst hid
        by_cases hroom : s.hm.HasRoom nodeId <;>
          simp [writes, hroom, HealthMonitor.statusOf, announcedSlot]
      · simp [writes, hid, Ne.symm hid, HealthMonitor.statusOf]
  | heartbeat srcNode hb now =>
      by_cases hid : nodeId = srcNode
      · subst hid
        cases hlookup : s.hm.lookup nodeId with
        | none =>
            have hup : ¬Failing nodeUp := by decide
            simp [writes, HealthMonitor.statusOf, hlookup, hup]
        | some slot =>
            simp only [writes, statusOf_eq hlookup]
            by_cases hfail : Failing slot.status <;> simp [hlookup, hfail, heardSlot_status]
      · simp [writes, hid, Ne.symm hid, HealthMonitor.statusOf]
  | tick now beyond =>
      by_cases hticks : s.hm.Ticks (clock now)
      · cases hlookup : s.hm.lookup nodeId with
        | none => simp [writes, hticks, HealthMonitor.statusOf, hlookup]
        | some slot => simp [writes, hticks, HealthMonitor.statusOf, hlookup, tickedSlot_status_eq]
      · simp [writes, hticks, HealthMonitor.statusOf]
  | apply t =>
      have hid : nodeId ≠ t.targetNode := fun hid => h hid.symm
      simp [writes, hid, HealthMonitor.statusOf]
  | observe | lead => rfl

theorem MonitorState.statusOf_commit {s : MonitorState} {t : Transition}
    (hroom : s.hm.HasRoom t.targetNode) :
    (s.step (.apply t)).hm.statusOf t.targetNode = t.newStatus := by
  rw [HealthMonitor.statusOf, step_lookup]
  simp [hroom, committedSlot]

/-- What an operation does to the timer of an entry is its move of the timer. -/
theorem MonitorState.step_suspectSince {s : MonitorState} {op : MonitorOp} {nodeId : UInt8}
    {slot after : Slot} (h : s.hm.lookup nodeId = some slot)
    (hafter : (s.step op).hm.lookup nodeId = some after) :
    after.suspectSinceMs
      = ((s.timerMove nodeId op).map fun start => (start.map clock).getD 0).getD
          slot.suspectSinceMs := by
  have hup : nodeSuspect ≠ nodeUp := nodeUp_ne_nodeSuspect.symm
  rw [step_lookup] at hafter
  cases op with
  | announce srcNode ann now =>
      by_cases hid : nodeId = srcNode
      · subst hid
        have hroom : s.hm.HasRoom nodeId := .inl (by simp [h])
        simp only [hroom, and_self, if_true, Option.some.injEq] at hafter
        simp [← hafter, timerMove, writes, hroom, announcedSlot]
      · simp only [hid, false_and, if_false, h, Option.some.injEq] at hafter
        simp [← hafter, timerMove, writes, Ne.symm hid]
  | heartbeat srcNode hb now =>
      by_cases hid : nodeId = srcNode
      · subst hid
        simp only [if_true, h, Option.map_some, Option.some.injEq] at hafter
        by_cases hfail : Failing slot.status <;>
          simp [← hafter, timerMove, writes, statusOf_eq h, hfail, heardSlot]
      · simp only [hid, if_false, h, Option.some.injEq] at hafter
        simp [← hafter, timerMove, writes, Ne.symm hid]
  | tick now beyond =>
      by_cases hticks : s.hm.Ticks (clock now)
      · simp only [hticks, if_true, h, Option.map_some, Option.some.injEq] at hafter
        rw [← hafter, tickedSlot_suspectSince]
        simp only [timerMove, writes, hticks, if_true, h, Option.bind_some]
        cases hwrites : tickWrites s.hm s.port.leader (clock now) beyond slot with
        | none => simp
        | some status =>
            have hnot : status ≠ nodeUp := tickWrites_ne_up hwrites
            by_cases hsus : status = nodeSuspect <;> simp [hsus, hnot, hup, MonitorOp.time?]
      · simp only [hticks, if_false, h, Option.some.injEq] at hafter
        simp [← hafter, timerMove, writes, hticks]
  | apply t =>
      by_cases hid : nodeId = t.targetNode
      · have hroom : s.hm.HasRoom t.targetNode := .inl (by simp [← hid, h])
        simp only [hid, hroom, and_self, if_true, Option.some.injEq] at hafter
        rw [hid] at h
        simp [← hafter, timerMove, writes, committedSlot, slotOf_eq h]
      · simp only [hid, false_and, if_false, h, Option.some.injEq] at hafter
        simp [← hafter, timerMove, writes]
  | observe | lead =>
      simp only [h, Option.some.injEq] at hafter
      simp [← hafter, timerMove, writes]

/-- The timer of a node without an entry is never started. -/
theorem MonitorState.timerMove_of_lookup_none {s : MonitorState} (op : MonitorOp) {nodeId : UInt8}
    (h : s.hm.lookup nodeId = none) : ∀ start ∈ s.timerMove nodeId op, start = none := by
  have hup : ¬Failing nodeUp := by decide
  cases op with
  | announce =>
      simp only [timerMove, writes]
      split <;> simp
  | heartbeat => simp [timerMove, writes, HealthMonitor.statusOf, h, hup]
  | tick => simp [timerMove, writes, h]
  | apply | observe | lead => simp [timerMove, writes]

theorem MonitorState.suspectSince_of_new {s : MonitorState} {op : MonitorOp} {nodeId : UInt8} {slot : Slot}
    (h : s.hm.lookup nodeId = none) (hafter : (s.step op).hm.lookup nodeId = some slot) :
    slot.suspectSinceMs = 0 := by
  cases MonitorState.slotStep hafter with
  | announced => rfl
  | committed t =>
      rw [HealthMonitor.slotOf, h]
      rfl
  | kept _ hold | heard _ _ hold | ticked _ _ _ hold =>
      rw [h] at hold
      cases hold

/-! ### Along a run -/

theorem MonitorState.writes_of_lookup_none {s : MonitorState} {op : MonitorOp} {nodeId : UInt8}
    (h : s.hm.lookup nodeId = none) (hafter : (s.step op).hm.lookup nodeId = none) :
    s.writes nodeId op = none := by
  have hup : ¬Failing nodeUp := by decide
  cases op with
  | announce srcNode ann now =>
      refine if_neg fun hroom => ?_
      rw [step_lookup] at hafter
      simp [hroom.1, hroom.2] at hafter
  | heartbeat => simp [writes, HealthMonitor.statusOf, h, hup]
  | tick => simp [writes, h]
  | apply | observe | lead => rfl

/-- The monitor has written nothing for a node without an entry. -/
theorem Setup.ownWrite_of_lookup_none (c : Setup) (pre : List MonitorOp) {nodeId : UInt8}
    (h : (c.reach pre).hm.lookup nodeId = none) : c.ownWrite nodeId pre = none := by
  induction pre using List.reverseRecOn with
  | nil => rfl
  | append_singleton pre op ih =>
      rw [reach_snoc] at h
      have hbefore : (c.reach pre).hm.lookup nodeId = none := by
        by_contra hsome
        exact MonitorState.step_lookup_ne_none op hsome h
      rw [ownWrite_snoc, MonitorState.writes_of_lookup_none hbefore h, Option.none_or, ih hbefore,
        ite_self]

/-- The status of a node that has an entry or can get one is what the monitor itself wrote last since
the last commit of the node, or else what that commit said. -/
theorem Setup.statusOf_eq_ownWrite (c : Setup) (ops : List MonitorOp) {nodeId : UInt8}
    (hroom : (c.reach ops).hm.HasRoom nodeId) :
    (c.reach ops).hm.statusOf nodeId
      = (c.ownWrite nodeId ops).getD (committedStatus nodeId ops) := by
  induction ops using List.reverseRecOn with
  | nil => rfl
  | append_singleton ops op ih =>
      rw [reach_snoc] at hroom ⊢
      have hbefore := ih (MonitorState.hasRoom_of_step hroom)
      rw [ownWrite_snoc, committedStatus_snoc]
      by_cases hcommits : op.Commits nodeId
      · cases op with
        | apply t =>
            have hid : t.targetNode = nodeId := hcommits
            subst hid
            rw [MonitorState.statusOf_commit (MonitorState.hasRoom_of_step hroom), if_pos hcommits]
            simp
        | announce | heartbeat | tick | observe | lead => cases hcommits
      · rw [MonitorState.step_statusOf hcommits, hbefore, if_neg hcommits, Option.getD_or]
        cases op with
        | apply t => simp [show t.targetNode ≠ nodeId from hcommits]
        | announce | heartbeat | tick | observe | lead => rfl

/-- The timer of an entry is the time of the tick that started it last, 0 if none has or if it was cleared
since. -/
theorem Setup.suspectSince_eq (c : Setup) (ops : List MonitorOp) {nodeId : UInt8} {slot : Slot}
    (h : (c.reach ops).hm.lookup nodeId = some slot) :
    slot.suspectSinceMs = ((c.timerStart nodeId ops).map clock).getD 0 := by
  -- a node without an entry has no timer either
  suffices hboth : ((c.reach ops).hm.lookup nodeId = none → c.timerStart nodeId ops = none) ∧
      ∀ slot, (c.reach ops).hm.lookup nodeId = some slot →
        slot.suspectSinceMs = ((c.timerStart nodeId ops).map clock).getD 0 from hboth.2 slot h
  clear h slot
  induction ops using List.reverseRecOn with
  | nil => exact ⟨fun _ => rfl, fun slot hslot => by cases hslot⟩
  | append_singleton ops op ih =>
      obtain ⟨hnone, hsome⟩ := ih
      rw [timerStart_snoc, reach_snoc]
      cases hbefore : (c.reach ops).hm.lookup nodeId with
      | none =>
          have hstart : ((c.reach ops).timerMove nodeId op).getD (c.timerStart nodeId ops) = none := by
            cases hcase : (c.reach ops).timerMove nodeId op with
            | none => exact hnone hbefore
            | some start => exact MonitorState.timerMove_of_lookup_none op hbefore start hcase
          rw [hstart]
          exact ⟨fun _ => rfl, fun slot hslot => MonitorState.suspectSince_of_new hbefore hslot⟩
      | some old =>
          refine ⟨fun hafter => ?_, fun slot hslot => ?_⟩
          · exact absurd hafter (MonitorState.step_lookup_ne_none op (by simp [hbefore]))
          · rw [MonitorState.step_suspectSince hbefore hslot, hsome old hbefore]
            cases (c.reach ops).timerMove nodeId op <;> rfl

end L2Oracle
