import L2Oracle.Health.Automaton

/-!
# A run at another time

The monitor compares times by their 32-bit difference, so a run that happens later should go the same
way, also where the clock wraps in the middle of it. One comparison is of another kind. `last_tick_ms` is
0 before the first tick, and a tick at 0 ms of the clock leaves it at 0 as well, so the tick after that
one is taken for the first and looks at no node.

A run and the run at the other time are compared slot by slot. Their times differ by the shift, and only
the miss counts may drift apart, where one of the two runs skips a tick. That does no harm while the
skipped tick has no node to move: the count of an UP node is then below the threshold in both runs, and
what a later tick makes of it does not depend on which number below the threshold it was.
-/

namespace L2Oracle

open Base

/-- The operation `d` milliseconds later. -/
def MonitorOp.shift (d : Nat) : MonitorOp → MonitorOp
  | .announce srcNode ann now => .announce srcNode ann (now + d)
  | .heartbeat srcNode hb now => .heartbeat srcNode hb (now + d)
  | .tick now beyond => .tick (now + d) beyond
  | .observe peer obs now => .observe peer obs (now + d)
  | .apply t => .apply t
  | .lead leader term => .lead leader term

def shiftAll (d : Nat) (ops : List MonitorOp) : List MonitorOp := ops.map (·.shift d)

/-- The nodes with their statuses, in slot order. -/
def HealthMonitor.statuses (hm : HealthMonitor) : List (UInt8 × UInt8) :=
  hm.slots.map fun s => (s.nodeId, s.status)

/-- Two nodes with the same statuses that have proposed the same. -/
structure SameCourse (s t : MonitorState) : Prop where
  statuses : s.hm.statuses = t.hm.statuses
  calls : s.port.calls = t.port.calls

/-- After every operation, the run and the run `d` milliseconds later have come to the same statuses and
proposals. -/
def ShiftInvariant (c : Setup) (d : Nat) (ops : List MonitorOp) : Prop :=
  ∀ pre, pre <+: ops → SameCourse (c.reach pre) (c.reach (shiftAll d pre))

/-- A tick at this time moves the node: it is UP and has missed enough, or SUSPECT with its timer run
out. -/
def Due (nowMs : UInt32) (s : Slot) : Prop :=
  s.status = nodeUp ∧ MissesEnough nowMs s ∨ s.status = nodeSuspect ∧ TimerExpired nowMs s

instance (nowMs : UInt32) (s : Slot) : Decidable (Due nowMs s) := inferInstanceAs (Decidable (_ ∨ _))

/-- A tick that comes, at another time, after a tick that the shift takes to 0 ms of the clock finds no
node to move. -/
def NoneDueAfterZero (c : Setup) (d : Nat) (pre : List MonitorOp) : MonitorOp → Prop
  | .tick now _ => ∀ last ∈ (tickTimes pre).getLast?, clock (last + d) = 0 → clock now ≠ clock last →
      ∀ s ∈ (c.reach pre).hm.slots, ¬Due (clock now) s
  | _ => True

instance (c : Setup) (d : Nat) (pre : List MonitorOp) : ∀ op, Decidable (NoneDueAfterZero c d pre op)
  | .tick _ _ => inferInstanceAs (Decidable (∀ last ∈ _, _))
  | .announce .. | .heartbeat .. | .apply .. | .observe .. | .lead .. =>
      inferInstanceAs (Decidable True)

/-! ### Clocks -/

theorem clock_add (now d : Nat) : clock (now + d) = clock now + clock d := UInt32.ofNat_add now d

theorem shift_sub_shift (a b d : UInt32) : a + d - (b + d) = a - b := by
  grind

theorem tickTimes_shiftAll (d : Nat) (ops : List MonitorOp) :
    tickTimes (shiftAll d ops) = (tickTimes ops).map (· + d) := by
  rw [tickTimes, shiftAll, List.filterMap_map, tickTimes, List.map_filterMap]
  congr 1
  funext op
  cases op <;> rfl

theorem Setup.reach_lastTickMs (c : Setup) (ops : List MonitorOp) :
    (c.reach ops).hm.lastTickMs = clock (lastTick ops) := by
  induction ops using List.reverseRecOn with
  | nil => rfl
  | append_singleton ops op ih =>
      rw [reach_snoc, MonitorState.step_lastTickMs, lastTick_snoc]
      cases op with
      | tick now beyond => rfl
      | announce | heartbeat | apply | observe | lead => exact ih

/-- A tick is effective exactly if there was one before, neither at 0 ms of the clock nor at the same
time. -/
theorem Setup.reach_ticks_iff (c : Setup) (ops : List MonitorOp) (now : Nat) :
    (c.reach ops).hm.Ticks (clock now) ↔
      ∃ last ∈ (tickTimes ops).getLast?, clock last ≠ 0 ∧ clock now ≠ clock last := by
  rw [HealthMonitor.Ticks, reach_lastTickMs, lastTick]
  cases (tickTimes ops).getLast? with
  | none => exact iff_of_false (fun h => h.1 rfl) (by simp)
  | some last => simp only [Option.getD_some, Option.mem_def, Option.some.injEq, exists_eq_left']

/-! ### One slot -/

section
variable {hm : HealthMonitor} {nowMs : UInt32} {s : Slot} (leader : Bool) (beyond : Nat → UInt8)

theorem tickedSlot_of_not_due (h : ¬Due nowMs s) :
    tickedSlot hm leader nowMs beyond s = countMisses s nowMs := by
  obtain ⟨hmiss, htimer⟩ := not_or.mp h
  exact tickedSlot_of_neither hmiss fun hbad => htimer ⟨hbad.1, hbad.2.1⟩

theorem slotProposal_of_not_due (h : ¬Due nowMs s) : slotProposal hm leader nowMs beyond s = none := by
  cases hprop : slotProposal hm leader nowMs beyond s with
  | none => rfl
  | some q =>
      rcases slotProposal_eq_some.mp hprop with ⟨hup, hmiss, -⟩ | ⟨hsus, htimer, -⟩
      · exact absurd (.inl ⟨hup, hmiss⟩) h
      · exact absurd (.inr ⟨hsus, htimer⟩) h

theorem status_ne_of_due (hbox : s.boxId = hm.boxId) (h : Due nowMs s) :
    (tickedSlot hm leader nowMs beyond s).status ≠ s.status := by
  rw [tickedSlot_status]
  rcases h with h | ⟨hsus, htimer⟩
  · rw [if_pos h, h.1]
    exact nodeUp_ne_nodeSuspect.symm
  · have hup : ¬(s.status = nodeUp ∧ MissesEnough nowMs s) := fun hbad =>
      nodeUp_ne_nodeSuspect (hbad.1.symm.trans hsus)
    rw [if_neg hup, if_pos ⟨hsus, htimer, fun _ => corroborated_local hbox beyond nowMs⟩, hsus]
    exact nodeDown_ne_nodeSuspect

end

/-- A slot and what it is `d` milliseconds later. The timer counts while the node is SUSPECT, and the
miss count while it is UP. -/
structure MovedSlot (d : UInt32) (s t : Slot) : Prop where
  entry : t.entry = { s.entry with lastSeenMs := s.entry.lastSeenMs + d }
  since : s.status = nodeSuspect → t.suspectSinceMs = s.suspectSinceMs + d
  few : s.status = nodeUp → s.missCount < suspectThreshold ∧ t.missCount < suspectThreshold

namespace MovedSlot

variable {d nowMs : UInt32} {s t : Slot}

theorem nodeId (h : MovedSlot d s t) : s.nodeId = t.nodeId := by rw [Slot.nodeId, Slot.nodeId, h.entry]
theorem boxId (h : MovedSlot d s t) : s.boxId = t.boxId := by rw [Slot.boxId, Slot.boxId, h.entry]
theorem status (h : MovedSlot d s t) : s.status = t.status := by rw [Slot.status, Slot.status, h.entry]

theorem propose (h : MovedSlot d s t) (newStatus : UInt8) : s.propose newStatus = t.propose newStatus := by
  rw [Slot.propose, Slot.propose, h.entry]

theorem missesEnough_iff (h : MovedSlot d s t) (hup : s.status = nodeUp) :
    MissesEnough (nowMs + d) t ↔ MissesEnough nowMs s := by
  have hsince : nowMs + d - t.entry.lastSeenMs = nowMs - s.entry.lastSeenMs := by
    rw [h.entry]
    exact shift_sub_shift _ _ _
  obtain ⟨hs, ht⟩ := h.few hup
  rw [MissesEnough, MissesEnough, countMisses_missCount, countMisses_missCount, hsince]
  split
  · exact Iff.rfl
  · exact iff_of_false (UInt16.not_le.mpr ht) (UInt16.not_le.mpr hs)

theorem timerExpired_iff (h : MovedSlot d s t) (hsus : s.status = nodeSuspect) :
    TimerExpired (nowMs + d) t ↔ TimerExpired nowMs s := by
  rw [TimerExpired, h.since hsus, shift_sub_shift, TimerExpired]

theorem due_iff (h : MovedSlot d s t) : Due (nowMs + d) t ↔ Due nowMs s := by
  rw [Due, ← h.status, Due]
  exact or_congr (and_congr_right h.missesEnough_iff) (and_congr_right h.timerExpired_iff)

/-- Counting keeps the slots together while the node is not due. -/
theorem counted (h : MovedSlot d s t) (hdue : ¬Due nowMs s) :
    MovedSlot d (countMisses s nowMs) (countMisses t (nowMs + d)) where
  entry := by rw [countMisses_entry, countMisses_entry, h.entry]
  since hsus := by
    rw [Slot.status, countMisses_entry] at hsus
    rw [countMisses_suspectSinceMs, countMisses_suspectSinceMs, h.since hsus]
  few hup := by
    rw [Slot.status, countMisses_entry] at hup
    have hmiss : ¬MissesEnough nowMs s := fun hbad => hdue (.inl ⟨hup, hbad⟩)
    exact ⟨UInt16.not_le.mp hmiss, UInt16.not_le.mp fun hbad => hmiss ((h.missesEnough_iff hup).mp hbad)⟩

theorem counted_left (h : MovedSlot d s t) (hdue : ¬Due nowMs s) :
    MovedSlot d (countMisses s nowMs) t where
  entry := by rw [countMisses_entry, h.entry]
  since hsus := by
    rw [Slot.status, countMisses_entry] at hsus
    rw [countMisses_suspectSinceMs, h.since hsus]
  few hup := by
    rw [Slot.status, countMisses_entry] at hup
    exact ⟨UInt16.not_le.mp fun hbad => hdue (.inl ⟨hup, hbad⟩), (h.few hup).2⟩

section
variable {hm hm' : HealthMonitor} (leader : Bool) (beyond : Nat → UInt8)

theorem ticked (h : MovedSlot d s t) (hs : s.boxId = hm.boxId) (ht : t.boxId = hm'.boxId) :
    MovedSlot d (tickedSlot hm leader nowMs beyond s) (tickedSlot hm' leader (nowMs + d) beyond t) := by
  by_cases hdue : Due nowMs s
  · rcases hdue with ⟨hup, hmiss⟩ | ⟨hsus, htimer⟩
    · rw [tickedSlot_of_missed hup hmiss,
        tickedSlot_of_missed (h.status ▸ hup) ((h.missesEnough_iff hup).mpr hmiss)]
      refine ⟨?_, fun _ => rfl, fun hbad => absurd hbad nodeUp_ne_nodeSuspect.symm⟩
      simp only [Slot.withStatus, countMisses_entry, h.entry]
    · rw [tickedSlot_of_expired hsus htimer fun _ => corroborated_local hs beyond _,
        tickedSlot_of_expired (h.status ▸ hsus) ((h.timerExpired_iff hsus).mpr htimer)
          fun _ => corroborated_local ht beyond _]
      refine ⟨?_, fun hbad => absurd hbad nodeDown_ne_nodeSuspect,
        fun hbad => absurd hbad nodeDown_ne_nodeUp⟩
      simp only [Slot.withStatus, countMisses_entry, h.entry]
  · rw [tickedSlot_of_not_due leader beyond hdue,
      tickedSlot_of_not_due leader beyond fun hbad => hdue (h.due_iff.mp hbad)]
    exact h.counted hdue

theorem slotProposal_eq (h : MovedSlot d s t) (hs : s.boxId = hm.boxId) (ht : t.boxId = hm'.boxId) :
    slotProposal hm leader nowMs beyond s = slotProposal hm' leader (nowMs + d) beyond t := by
  have hcorr := corroborated_local hs beyond nowMs
  have hcorr' := corroborated_local ht beyond (nowMs + d)
  unfold slotProposal
  rw [← h.status, h.propose, h.propose]
  by_cases hup : s.status = nodeUp
  · simp only [if_pos hup, h.missesEnough_iff hup]
  · by_cases hsus : s.status = nodeSuspect
    · simp only [if_neg hup, if_pos hsus, h.timerExpired_iff hsus, hcorr, hcorr']
    · simp only [if_neg hup, if_neg hsus]

end

theorem few_zero : (0 : UInt16) < suspectThreshold ∧ (0 : UInt16) < suspectThreshold := by decide

theorem heard (h : MovedSlot d s t) : MovedSlot d (heardSlot nowMs s) (heardSlot (nowMs + d) t) := by
  unfold heardSlot
  rw [← h.status]
  split
  · refine ⟨?_, fun hbad => absurd hbad nodeUp_ne_nodeSuspect, fun _ => few_zero⟩
    simp only [h.entry]
  · refine ⟨?_, h.since, fun _ => few_zero⟩
    simp only [h.entry]

theorem announced (boxId nodeType : UInt8) (hnode : s.nodeId = t.nodeId) :
    MovedSlot d (announcedSlot boxId nodeType nowMs s) (announcedSlot boxId nodeType (nowMs + d) t) := by
  refine ⟨?_, fun hbad => absurd hbad nodeUp_ne_nodeSuspect, fun _ => few_zero⟩
  simp only [announcedSlot, NodeHealthEntry.mk.injEq, and_true]
  exact hnode.symm

end MovedSlot

/-! ### Two runs -/

/-- A node in a run and in the run `d` milliseconds later. -/
structure Moved (d : UInt32) (s t : MonitorState) : Prop where
  slots : List.Forall₂ (MovedSlot d) s.hm.slots t.hm.slots
  box : s.hm.boxId = t.hm.boxId
  allLocal : s.hm.AllLocal
  port : s.port = t.port

namespace Moved

variable {d : Nat} {s t : MonitorState}

theorem sameCourse (h : Moved (clock d) s t) : SameCourse s t := by
  refine ⟨map_eq_of_forall₂ (fun old new hslot => ?_) h.slots, by rw [h.port]⟩
  rw [hslot.nodeId, hslot.status]

theorem localSlots (h : Moved (clock d) s t) :
    List.Forall₂ (fun old new => (old.boxId = s.hm.boxId ∧ new.boxId = t.hm.boxId) ∧
      MovedSlot (clock d) old new) s.hm.slots t.hm.slots := by
  have hlocal : List.Forall₂ (fun old new => old.boxId = s.hm.boxId ∧ MovedSlot (clock d) old new)
      s.hm.slots t.hm.slots := (List.forall₂_and_left _ _).mpr ⟨h.allLocal, h.slots⟩
  refine hlocal.imp fun old new hslot => ⟨⟨hslot.1, ?_⟩, hslot.2⟩
  rw [← hslot.2.boxId, hslot.1, h.box]

theorem allLocal_step (h : Moved (clock d) s t) {op : MonitorOp} (hop : op.isLocal ∨ op.isLead) :
    (s.step op).hm.AllLocal :=
  (SameLocalTable.step (s := s) (t := s) ⟨rfl, h.allLocal⟩ hop).2

/-- A step that keeps the slots together and proposes the same keeps the nodes together. -/
theorem of_step (h : Moved (clock d) s t) (op : MonitorOp) (hop : op.isLocal ∨ op.isLead)
    (hslots : List.Forall₂ (MovedSlot (clock d)) (s.step op).hm.slots (t.step (op.shift d)).hm.slots)
    (hprops : s.proposals op = t.proposals (op.shift d)) :
    Moved (clock d) (s.step op) (t.step (op.shift d)) where
  slots := hslots
  box := by rw [MonitorState.step_boxId, MonitorState.step_boxId, h.box]
  allLocal := h.allLocal_step hop
  port := by
    rw [MonitorState.step_port, MonitorState.step_port, hprops, h.port]
    cases op <;> rfl

section
variable {now : Nat} (beyond : Nat → UInt8)

/-- A tick that both take. -/
theorem tick (h : Moved (clock d) s t) (hs : s.hm.Ticks (clock now))
    (ht : t.hm.Ticks (clock (now + d))) :
    Moved (clock d) (s.step (.tick now beyond)) (t.step (.tick (now + d) beyond)) := by
  rw [clock_add] at ht
  refine h.of_step (.tick now beyond) (.inl rfl) ?_ ?_
  · rw [MonitorState.step_hm, MonitorState.step_hm]
    simp only [MonitorState.nextMonitor, MonitorOp.shift, tickedMonitor, clock_add, if_pos hs, if_pos ht,
      List.forall₂_map_left_iff, List.forall₂_map_right_iff, ← h.port]
    exact h.localSlots.imp fun old new hslot => hslot.2.ticked _ _ hslot.1.1 hslot.1.2
  · simp only [MonitorState.proposals, MonitorOp.shift, tickProposals, clock_add, if_pos hs, if_pos ht,
      ← h.port]
    exact filterMap_eq_of_forall₂
      (fun old new hslot => hslot.2.slotProposal_eq _ _ hslot.1.1 hslot.1.2) h.localSlots

/-- A tick that neither takes. -/
theorem tick_neither (h : Moved (clock d) s t) (hs : ¬s.hm.Ticks (clock now))
    (ht : ¬t.hm.Ticks (clock (now + d))) :
    Moved (clock d) (s.step (.tick now beyond)) (t.step (.tick (now + d) beyond)) := by
  refine h.of_step (.tick now beyond) (.inl rfl) ?_ ?_
  · rw [MonitorState.step_hm, MonitorState.step_hm]
    simp only [MonitorState.nextMonitor, MonitorOp.shift, tickedMonitor, if_neg hs, if_neg ht]
    exact h.slots
  · simp only [MonitorState.proposals, MonitorOp.shift, tickProposals, if_neg hs, if_neg ht]

/-- A tick that only the earlier run takes, with no node to move. -/
theorem tick_left (h : Moved (clock d) s t) (hs : s.hm.Ticks (clock now))
    (ht : ¬t.hm.Ticks (clock (now + d))) (hdue : ∀ slot ∈ s.hm.slots, ¬Due (clock now) slot) :
    Moved (clock d) (s.step (.tick now beyond)) (t.step (.tick (now + d) beyond)) := by
  refine h.of_step (.tick now beyond) (.inl rfl) ?_ ?_
  · rw [MonitorState.step_hm, MonitorState.step_hm]
    simp only [MonitorState.nextMonitor, MonitorOp.shift, tickedMonitor, if_pos hs, if_neg ht,
      List.forall₂_map_left_iff]
    have hslots : List.Forall₂ (fun old new => ¬Due (clock now) old ∧ MovedSlot (clock d) old new)
        s.hm.slots t.hm.slots := (List.forall₂_and_left _ _).mpr ⟨hdue, h.slots⟩
    refine hslots.imp fun old new hslot => ?_
    rw [tickedSlot_of_not_due _ _ hslot.1]
    exact hslot.2.counted_left hslot.1
  · simp only [MonitorState.proposals, MonitorOp.shift, tickProposals, if_pos hs, if_neg ht,
      List.filterMap_eq_nil_iff]
    exact fun slot hslot => slotProposal_of_not_due _ _ (hdue slot hslot)

end

theorem heartbeat (h : Moved (clock d) s t) (srcNode : UInt8) (hb : PayloadNodeHeartbeat) (now : Nat) :
    Moved (clock d) (s.step (.heartbeat srcNode hb now)) (t.step (.heartbeat srcNode hb (now + d))) := by
  have hkey : ∀ old new, MovedSlot (clock d) old new → old.nodeId = new.nodeId := fun _ _ hslot =>
    hslot.nodeId
  refine h.of_step (.heartbeat srcNode hb now) (.inl rfl) ?_ ?_
  · rw [MonitorState.step_hm, MonitorState.step_hm]
    simp only [MonitorState.nextMonitor, MonitorOp.shift, heardMonitor_slots, clock_add]
    exact forall₂_modifyKey hkey (fun _ _ hslot => hslot.heard) h.slots srcNode
  · simp only [MonitorState.proposals, MonitorOp.shift, heartbeatProposals, HealthMonitor.lookup]
    have hrel := rel_lookup hkey h.slots srcNode
    generalize Base.lookup Slot.nodeId s.hm.slots srcNode = old,
      Base.lookup Slot.nodeId t.hm.slots srcNode = new at hrel ⊢
    cases hrel with
    | none => rfl
    | some hslot => simp only [hslot.status, hslot.propose]

theorem announce (h : Moved (clock d) s t) (srcNode : UInt8) (ann : PayloadNodeAnnounce) (now : Nat) :
    Moved (clock d) (s.step (.announce srcNode ann now)) (t.step (.announce srcNode ann (now + d))) := by
  refine h.of_step (.announce srcNode ann now) (.inl rfl) ?_ rfl
  rw [MonitorState.step_hm, MonitorState.step_hm]
  simp only [MonitorState.nextMonitor, MonitorOp.shift, HealthMonitor.update_slots, clock_add, h.box]
  exact forall₂_upsert (fun _ _ hslot => hslot.nodeId)
    (fun _ _ hslot => .announced _ _ hslot.nodeId) (.announced _ _ rfl) h.slots _ srcNode

end Moved

theorem moved_init (c : Setup) (d : UInt32) : Moved d c.init c.init :=
  ⟨.nil, rfl, fun _ hs => (nomatch hs), rfl⟩

theorem shiftAll_snoc (d : Nat) (ops : List MonitorOp) (op : MonitorOp) :
    shiftAll d (ops ++ [op]) = shiftAll d ops ++ [op.shift d] := List.map_append

/-- The later run takes a tick exactly if the earlier one does and the tick before was not at 0 ms of the
later clock. -/
theorem shifted_ticks_iff (c : Setup) (d : Nat) {pre : List MonitorOp} (now : Nat)
    (hpre : ∀ t ∈ tickTimes pre, clock t ≠ 0) :
    (c.reach (shiftAll d pre)).hm.Ticks (clock (now + d)) ↔
      (c.reach pre).hm.Ticks (clock now) ∧ ∀ last ∈ (tickTimes pre).getLast?, clock (last + d) ≠ 0 := by
  rw [c.reach_ticks_iff, c.reach_ticks_iff, tickTimes_shiftAll, List.getLast?_map]
  cases hlast : (tickTimes pre).getLast? with
  | none => simp
  | some last =>
      have hzero := hpre last (List.mem_of_getLast? hlast)
      simp only [Option.map_some, Option.mem_def, Option.some.injEq, exists_eq_left', forall_eq', clock_add,
        ne_eq, UInt32.add_left_inj, hzero, not_false_eq_true, true_and]
      exact and_comm

/-- One more operation keeps the two runs together, if it moves no node that the later run passes over. -/
theorem moved_step {c : Setup} {d : Nat} {pre : List MonitorOp} {op : MonitorOp}
    (hop : op.isLocal ∨ op.isLead) (hpre : ∀ t ∈ tickTimes pre, clock t ≠ 0)
    (hnone : NoneDueAfterZero c d pre op)
    (h : Moved (clock d) (c.reach pre) (c.reach (shiftAll d pre))) :
    Moved (clock d) (c.reach (pre ++ [op])) (c.reach (shiftAll d (pre ++ [op]))) := by
  rw [shiftAll_snoc, c.reach_snoc, c.reach_snoc]
  cases op with
  | announce srcNode ann now => exact h.announce srcNode ann now
  | heartbeat srcNode hb now => exact h.heartbeat srcNode hb now
  | tick now beyond =>
      have hiff := shifted_ticks_iff c d now hpre
      by_cases hs : (c.reach pre).hm.Ticks (clock now)
      · by_cases ht : (c.reach (shiftAll d pre)).hm.Ticks (clock (now + d))
        · exact h.tick beyond hs ht
        · obtain ⟨last, hlast, -, hne⟩ := (c.reach_ticks_iff pre now).mp hs
          refine h.tick_left beyond hs ht (hnone last hlast ?_ hne)
          by_contra hzero
          refine ht (hiff.mpr ⟨hs, fun last' hlast' => ?_⟩)
          rwa [Option.mem_unique hlast' hlast]
      · exact h.tick_neither beyond hs fun ht => hs (hiff.mp ht).1
  | lead leader term => exact h.of_step (.lead leader term) hop h.slots rfl
  | apply | observe => rcases hop with hbad | hbad <;> cases hbad

/-- A run of announcements, heartbeats and ticks while leadership comes and goes, none of whose ticks is at
0 ms of the clock. -/
structure ClockRun (ops : List MonitorOp) : Prop where
  noCommit : ∀ op ∈ ops, op.isLocal ∨ op.isLead
  nonzero : ∀ t ∈ tickTimes ops, clock t ≠ 0

theorem ClockRun.of_initial {pre ops : List MonitorOp} (h : ClockRun ops) (hpre : pre <+: ops) :
    ClockRun pre := by
  obtain ⟨rest, rfl⟩ := hpre
  refine ⟨fun op hop => h.noCommit op (List.mem_append_left _ hop), fun t ht => h.nonzero t ?_⟩
  rw [tickTimes, List.filterMap_append]
  exact List.mem_append_left _ ht

theorem moved_reach {c : Setup} {d : Nat} {ops : List MonitorOp} (h : ClockRun ops)
    (hnone : Throughout (NoneDueAfterZero c d) ops) :
    Moved (clock d) (c.reach ops) (c.reach (shiftAll d ops)) := by
  induction ops using List.reverseRecOn with
  | nil => exact moved_init c (clock d)
  | append_singleton ops op ih =>
      have hops := h.of_initial (List.prefix_append ops [op])
      obtain ⟨hearlier, hlast⟩ := throughout_snoc.mp hnone
      exact moved_step (h.noCommit op (by simp)) hops.nonzero hlast (ih hops hearlier)

/-- If the statuses are the same after an operation too, the later run has passed over no node. -/
theorem noneDue_of_sameCourse {c : Setup} {d : Nat} {pre : List MonitorOp} {op : MonitorOp}
    (hpre : ClockRun pre) (h : Moved (clock d) (c.reach pre) (c.reach (shiftAll d pre)))
    (hsame : SameCourse (c.reach (pre ++ [op])) (c.reach (shiftAll d (pre ++ [op])))) :
    NoneDueAfterZero c d pre op := by
  cases op with
  | tick now beyond =>
      intro last hlast hzero hne s hs hdue
      have hticks : (c.reach pre).hm.Ticks (clock now) :=
        (c.reach_ticks_iff pre now).mpr ⟨last, hlast, hpre.nonzero last (List.mem_of_getLast? hlast), hne⟩
      have hskips : ¬(c.reach (shiftAll d pre)).hm.Ticks (clock (now + d)) := fun ht =>
        ((shifted_ticks_iff c d now hpre.nonzero).mp ht).2 last hlast hzero
      -- the later run keeps its statuses, so the earlier one has to keep them as well
      have hkept : (c.reach (pre ++ [.tick now beyond])).hm.statuses = (c.reach pre).hm.statuses := by
        rw [hsame.statuses, h.sameCourse.statuses, shiftAll_snoc, c.reach_snoc, MonitorState.step_hm]
        simp only [MonitorOp.shift, MonitorState.nextMonitor, HealthMonitor.statuses, tickedMonitor,
          if_neg hskips]
      rw [c.reach_snoc, MonitorState.step_hm] at hkept
      simp only [MonitorState.nextMonitor, HealthMonitor.statuses, tickedMonitor, if_pos hticks,
        List.map_map] at hkept
      have hstatus := List.map_inj_left.mp hkept s hs
      exact status_ne_of_due _ beyond (h.allLocal s hs) hdue (Prod.mk.inj hstatus).2
  | announce | heartbeat | apply | observe | lead => trivial

/-- The statuses and proposals of a run do not depend on when it happens exactly if no tick has a node to
move right after a tick that the shift takes to 0 ms of the clock. -/
theorem shift_invariant_iff (c : Setup) (d : Nat) {ops : List MonitorOp} (h : ClockRun ops) :
    ShiftInvariant c d ops ↔ Throughout (NoneDueAfterZero c d) ops := by
  constructor
  · intro hsame
    induction ops using List.reverseRecOn with
    | nil => exact throughout_nil
    | append_singleton ops op ih =>
        have hops := h.of_initial (List.prefix_append ops [op])
        have hnone := ih hops fun pre hpre => hsame pre (hpre.trans (List.prefix_append _ _))
        exact throughout_snoc.mpr ⟨hnone,
          noneDue_of_sameCourse hops (moved_reach hops hnone) (hsame _ (List.prefix_refl _))⟩
  · intro hnone pre hpre
    exact (moved_reach (h.of_initial hpre) (hnone.of_initial hpre)).sameCourse

/-- A node that falls silent at 10 ms and is taken down at 90 ms. -/
def silentClockRun : List MonitorOp :=
  [.announce 5 ⟨2⟩ 10, .tick 20 zeros, .tick 40 zeros, .tick 90 zeros]

theorem clockRun_silentClockRun : ClockRun silentClockRun := ⟨by decide, by decide⟩

/-- The clock wraps between the first two ticks. -/
theorem shift_invariant_silentClockRun :
    (leaderOfBox1.reach silentClockRun).hm.statuses = [(5, nodeDown)] ∧
      ShiftInvariant leaderOfBox1 (2 ^ 32 - 30) silentClockRun := by
  refine ⟨by decide +kernel, ?_⟩
  exact (shift_invariant_iff leaderOfBox1 (2 ^ 32 - 30) clockRun_silentClockRun).mpr (by decide +kernel)

/-- The first tick is at 0 ms of the clock, and the node is not suspected at the second. -/
theorem not_shift_invariant_silentClockRun :
    ClockRun silentClockRun ∧ ¬ShiftInvariant leaderOfBox1 (2 ^ 32 - 20) silentClockRun := by
  refine ⟨clockRun_silentClockRun, fun h => ?_⟩
  have hsame := (h (silentClockRun.take 3) (List.take_prefix _ _)).statuses
  have hbefore : (leaderOfBox1.reach (silentClockRun.take 3)).hm.statuses = [(5, nodeSuspect)] := by
    decide +kernel
  have hlater : (leaderOfBox1.reach (shiftAll (2 ^ 32 - 20) (silentClockRun.take 3))).hm.statuses
      = [(5, nodeUp)] := by decide +kernel
  rw [hbefore, hlater] at hsame
  exact absurd hsame (by decide)

end L2Oracle
