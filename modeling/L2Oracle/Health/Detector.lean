import L2Oracle.Health.Run

/-!
# When a silent node is called DOWN

A local node is proposed DOWN after it has been SUSPECT for `DOWN_TIMEOUT_MS`, and it becomes SUSPECT
at the first tick that finds `SUSPECT_THRESHOLD` heartbeats missed, so on the detector's own
transitions a DOWN proposal means `silenceMs` of silence. The commit of a transition breaks the chain:
`health_table_apply` overwrites the status and leaves `suspect_since_ms` alone. A committed SUSPECT
that arrives after the node has been heard again makes the entry SUSPECT with a timer that was never
started, and the next tick finds it expired.

The invariant is about one slot at a time. `SlotTimed now` bounds its two times by the present, ties
its miss count to real silence, and says that a SUSPECT entry was last heard at least
`SUSPECT_THRESHOLD` intervals before its timer started.
-/

namespace L2Oracle

open Base

/-- The shortest silence after which the state machine calls a node DOWN. -/
def silenceMs : Nat := suspectThreshold.toNat * hbIntervalMs.toNat + downTimeoutMs.toNat

example : silenceMs = 80 := by decide

/-- The time of a heartbeat or an announcement of the node. -/
def MonitorOp.heard? (nodeId : UInt8) : MonitorOp → Option Nat
  | .announce srcNode _ now | .heartbeat srcNode _ now => if srcNode = nodeId then some now else none
  | _ => none

/-- A tick proposes SUSPECT to DOWN for a local node only if the node was not heard for `silenceMs`
before. -/
def NoFalseDown (c : Setup) (pre : List MonitorOp) : MonitorOp → Prop
  | .tick now beyond =>
      ∀ call ∈ (c.reach pre).callsOf (.tick now beyond),
        call.1.targetBox = c.boxId → call.1.oldStatus = nodeSuspect → call.1.newStatus = nodeDown →
          ∀ e ∈ pre, ∀ h ∈ e.heard? call.1.targetNode, h + silenceMs ≤ now
  | _ => True

/-- A committed SUSPECT that changes an entry finds it with a suspicion timer that was started
`SUSPECT_THRESHOLD` intervals or more after the node was last heard. -/
def SuspicionStands (c : Setup) (pre : List MonitorOp) : MonitorOp → Prop
  | .apply t =>
      t.newStatus = nodeSuspect →
        ∀ s ∈ (c.reach pre).hm.lookup t.targetNode, s.status ≠ nodeSuspect →
          s.entry.lastSeenMs.toNat + suspectThreshold.toNat * hbIntervalMs.toNat
            ≤ s.suspectSinceMs.toNat
  | _ => True

instance (c : Setup) (pre : List MonitorOp) : ∀ op, Decidable (NoFalseDown c pre op)
  | .tick now beyond =>
      inferInstanceAs (Decidable (∀ call ∈ (c.reach pre).callsOf (.tick now beyond), _))
  | .announce .. | .heartbeat .. | .apply .. | .observe .. | .lead .. =>
      inferInstanceAs (Decidable True)

instance (c : Setup) (pre : List MonitorOp) : ∀ op, Decidable (SuspicionStands c pre op)
  | .apply _ => inferInstanceAs (Decidable (_ → _))
  | .announce .. | .heartbeat .. | .tick .. | .observe .. | .lead .. =>
      inferInstanceAs (Decidable True)

/-! ### One slot -/

structure SlotTimed (now : Nat) (s : Slot) : Prop where
  seen_le : s.entry.lastSeenMs.toNat ≤ now
  since_le : s.suspectSinceMs.toNat ≤ now
  missed : suspectThreshold ≤ s.missCount → s.entry.lastSeenMs.toNat + 30 ≤ now
  suspect : s.status = nodeSuspect → s.entry.lastSeenMs.toNat + 30 ≤ s.suspectSinceMs.toNat

theorem SlotTimed.mono {now now' : Nat} {s : Slot} (h : SlotTimed now s) (hle : now ≤ now') :
    SlotTimed now' s where
  seen_le := h.seen_le.trans hle
  since_le := h.since_le.trans hle
  missed hmiss := (h.missed hmiss).trans hle
  suspect := h.suspect

theorem clock_toNat {now : Nat} (h : now < 2 ^ 32) : (clock now).toNat = now :=
  UInt32.toNat_ofNat_of_lt h

theorem toNat_clock_sub {now : Nat} {earlier : UInt32} (h : now < 2 ^ 32)
    (hle : earlier.toNat ≤ now) : (clock now - earlier).toNat = now - earlier.toNat := by
  rw [UInt32.toNat_sub_of_le, clock_toNat h]
  rw [UInt32.le_iff_toNat_le, clock_toNat h]
  exact hle

theorem SlotTimed.heard {now : Nat} {s : Slot} (h : SlotTimed now s) (hnow : now < 2 ^ 32) :
    SlotTimed now (heardSlot (clock now) s) := by
  unfold heardSlot
  split
  · exact ⟨(clock_toNat hnow).le, Nat.zero_le _,
      fun hmiss => absurd hmiss not_suspectThreshold_le_zero,
      fun hsus => absurd hsus nodeUp_ne_nodeSuspect⟩
  · rename_i hnot
    exact ⟨(clock_toNat hnow).le, h.since_le,
      fun hmiss => absurd hmiss not_suspectThreshold_le_zero,
      fun hsus => absurd (Or.inl hsus) hnot⟩

theorem slotTimed_announced {now : Nat} (boxId nodeType : UInt8) (s : Slot) (hnow : now < 2 ^ 32) :
    SlotTimed now (announcedSlot boxId nodeType (clock now) s) :=
  ⟨(clock_toNat hnow).le, Nat.zero_le _,
    fun hmiss => absurd hmiss not_suspectThreshold_le_zero,
    fun hsus => absurd hsus nodeUp_ne_nodeSuspect⟩

/-- The miss count that decides UP to SUSPECT stands for silence. -/
theorem SlotTimed.silent {now : Nat} {s : Slot} (h : SlotTimed now s) (hnow : now < 2 ^ 32)
    (hmiss : MissesEnough (clock now) s) : s.entry.lastSeenMs.toNat + 30 ≤ now := by
  rw [MissesEnough, countMisses_missCount] at hmiss
  split at hmiss
  · rw [UInt16.le_iff_toNat_le, UInt32.toNat_toUInt16, UInt32.toNat_div,
      toNat_clock_sub hnow h.seen_le] at hmiss
    have hthree : suspectThreshold.toNat = 3 := rfl
    have hten : hbIntervalMs.toNat = 10 := rfl
    have hmod := Nat.mod_le ((now - s.entry.lastSeenMs.toNat) / 10) (2 ^ 16)
    rw [hthree, hten] at hmiss
    omega
  · exact h.missed hmiss

theorem SlotTimed.counted {now : Nat} {s : Slot} (h : SlotTimed now s) (hnow : now < 2 ^ 32) :
    SlotTimed now (countMisses s (clock now)) where
  seen_le := by rw [countMisses_entry]; exact h.seen_le
  since_le := by rw [countMisses_suspectSinceMs]; exact h.since_le
  missed hmiss := by rw [countMisses_entry]; exact h.silent hnow hmiss
  suspect hsus := by
    rw [countMisses_entry, countMisses_suspectSinceMs]
    rw [Slot.status, countMisses_entry] at hsus
    exact h.suspect hsus

theorem SlotTimed.ticked {now : Nat} {s : Slot} (h : SlotTimed now s) (hnow : now < 2 ^ 32)
    (hm : HealthMonitor) (leader : Bool) (beyond : Nat → UInt8) :
    SlotTimed now (tickedSlot hm leader (clock now) beyond s) := by
  have hcounted := h.counted hnow
  rcases tickedSlot_cases hm leader (clock now) beyond s with ⟨-, hmiss, hslot⟩ | ⟨-, hslot⟩ | ⟨-, -, hslot⟩
  · -- the timer starts now, and the node has been silent
    have hsilent := h.silent hnow hmiss
    rw [hslot]
    exact ⟨hcounted.seen_le, (clock_toNat hnow).le, hcounted.missed,
      fun _ => by simpa [Slot.withStatus, clock_toNat hnow] using hsilent⟩
  · rw [hslot]
    exact ⟨hcounted.seen_le, hcounted.since_le, hcounted.missed,
      fun hbad => absurd hbad nodeDown_ne_nodeSuspect⟩
  · rw [hslot]
    exact hcounted

theorem SlotTimed.committed {now : Nat} {s : Slot} (h : SlotTimed now s) (newStatus : UInt8)
    (term : UInt32)
    (hstands : newStatus = nodeSuspect → s.status ≠ nodeSuspect →
      s.entry.lastSeenMs.toNat + 30 ≤ s.suspectSinceMs.toNat) :
    SlotTimed now (committedSlot newStatus term s) where
  seen_le := h.seen_le
  since_le := h.since_le
  missed := h.missed
  suspect hsus := by
    by_cases hold : s.status = nodeSuspect
    · exact h.suspect hold
    · exact hstands hsus hold

/-! ### The invariant along a run -/

/-- What holds after the operations `pre` on a leader. -/
structure DetectorInv (c : Setup) (pre : List MonitorOp) : Prop where
  timed : ∀ now, (∀ t ∈ times pre, t ≤ now) →
    ∀ nodeId s, (c.reach pre).hm.lookup nodeId = some s → SlotTimed now s
  heard : ∀ e ∈ pre, ∀ nodeId, ∀ h ∈ e.heard? nodeId,
    ∀ s, (c.reach pre).hm.lookup nodeId = some s → h ≤ s.entry.lastSeenMs.toNat

theorem detectorInv_nil (c : Setup) : DetectorInv c [] where
  timed _ _ nodeId s hs := by cases hs
  heard e he := by cases he

theorem mem_times_snoc_le {pre : List MonitorOp} {op : MonitorOp} {now : Nat}
    (h : ∀ t ∈ times (pre ++ [op]), t ≤ now) : ∀ t ∈ times pre, t ≤ now := by
  intro t ht
  exact h t (by rw [times_snoc]; exact List.mem_append_left _ ht)

theorem time_le_of_snoc {pre : List MonitorOp} {op : MonitorOp} {now time : Nat}
    (h : ∀ t ∈ times (pre ++ [op]), t ≤ now) (htime : op.time? = some time) : time ≤ now := by
  refine h time ?_
  rw [times_snoc, htime]
  exact List.mem_append_right _ (List.mem_singleton_self _)

theorem DetectorInv.timed_step {c : Setup} {pre : List MonitorOp} {op : MonitorOp}
    (h : DetectorInv c pre) (hstep : LeaderStep c pre op) (hstands : SuspicionStands c pre op)
    {now : Nat} (hnow : ∀ t ∈ times (pre ++ [op]), t ≤ now) {nodeId : UInt8} {s : Slot}
    (hs : (c.reach (pre ++ [op])).hm.lookup nodeId = some s) : SlotTimed now s := by
  have hpre := h.timed now (mem_times_snoc_le hnow)
  rw [Setup.reach_snoc] at hs
  cases MonitorState.slotStep hs with
  | kept _ hold => exact hpre nodeId s hold
  | announced ann time =>
      exact (slotTimed_announced _ _ _ (hstep.noWrap time rfl)).mono (time_le_of_snoc hnow rfl)
  | heard hb time hold =>
      have htimed := h.timed time (hstep.after time rfl) nodeId _ hold
      exact (htimed.heard (hstep.noWrap time rfl)).mono (time_le_of_snoc hnow rfl)
  | ticked time beyond _ hold =>
      have htimed := h.timed time (hstep.after time rfl) nodeId _ hold
      exact (htimed.ticked (hstep.noWrap time rfl) _ _ _).mono (time_le_of_snoc hnow rfl)
  | committed t hid =>
      obtain ⟨old, hold⟩ := hstep.lookup_applied
      rw [← hid, slotOf_eq hold]
      exact (hpre t.targetNode old hold).committed _ _ fun hnew => hstands hnew old hold

theorem MonitorOp.time_of_heard {op : MonitorOp} {nodeId : UInt8} {h : Nat}
    (hheard : h ∈ op.heard? nodeId) : op.time? = some h := by
  cases op with
  | announce srcNode _ now | heartbeat srcNode _ now =>
      by_cases hid : srcNode = nodeId
      · simpa [heard?, hid, time?] using hheard
      · simp [heard?, hid] at hheard
  | tick | apply | observe | lead => cases hheard

theorem mem_times_of_heard {pre : List MonitorOp} {e : MonitorOp} {nodeId : UInt8} {h : Nat}
    (he : e ∈ pre) (hheard : h ∈ e.heard? nodeId) : h ∈ times pre :=
  List.mem_filterMap.mpr ⟨e, he, MonitorOp.time_of_heard hheard⟩

theorem tickedSlot_lastSeenMs (hm : HealthMonitor) (leader : Bool) (nowMs : UInt32)
    (beyond : Nat → UInt8) (s : Slot) :
    (tickedSlot hm leader nowMs beyond s).entry.lastSeenMs = s.entry.lastSeenMs := by
  rcases tickedSlot_cases hm leader nowMs beyond s with ⟨-, -, h⟩ | ⟨-, h⟩ | ⟨-, -, h⟩
  all_goals rw [h]; simp [Slot.withStatus]

/-- An operation sets `last_seen_ms` to the time at which it hears the node, and otherwise leaves it. -/
theorem LeaderStep.lastSeenMs {c : Setup} {pre : List MonitorOp} {op : MonitorOp}
    (hstep : LeaderStep c pre op) {nodeId : UInt8} {s : Slot}
    (hs : (c.reach (pre ++ [op])).hm.lookup nodeId = some s) :
    (∃ time, op.heard? nodeId = some time ∧ s.entry.lastSeenMs = clock time) ∨
      (op.heard? nodeId = none ∧ ∃ old, (c.reach pre).hm.lookup nodeId = some old ∧
        s.entry.lastSeenMs = old.entry.lastSeenMs) := by
  rw [Setup.reach_snoc] at hs
  cases MonitorState.slotStep hs with
  | kept hother hold =>
      refine .inr ⟨?_, s, hold, rfl⟩
      cases op with
      | announce | heartbeat => exact if_neg hother
      | tick | apply | observe | lead => rfl
  | announced ann time => exact .inl ⟨time, if_pos rfl, rfl⟩
  | heard hb time hold => exact .inl ⟨time, if_pos rfl, heardSlot_lastSeenMs _ _⟩
  | ticked time beyond _ hold => exact .inr ⟨rfl, _, hold, tickedSlot_lastSeenMs _ _ _ _ _⟩
  | committed t hid =>
      obtain ⟨old, hold⟩ := hstep.lookup_applied
      rw [← hid, slotOf_eq hold]
      exact .inr ⟨rfl, old, hold, rfl⟩

/-- `last_seen_ms` never falls behind a time at which the node was heard. -/
theorem DetectorInv.heard_step {c : Setup} {pre : List MonitorOp} {op : MonitorOp}
    (h : DetectorInv c pre) (hstep : LeaderStep c pre op) {nodeId : UInt8} {heard : Nat}
    {e : MonitorOp} (he : e ∈ pre ++ [op]) (hheard : heard ∈ e.heard? nodeId) {s : Slot}
    (hs : (c.reach (pre ++ [op])).hm.lookup nodeId = some s) :
    heard ≤ s.entry.lastSeenMs.toNat := by
  rcases hstep.lastSeenMs hs with ⟨time, hhears, hseen⟩ | ⟨hnone, old, hlookup, hseen⟩
  · have htime := MonitorOp.time_of_heard hhears
    have hle : heard ≤ time := by
      rcases List.mem_append.mp he with he | he
      · exact hstep.after time htime heard (mem_times_of_heard he hheard)
      · rw [List.mem_singleton.mp he, hhears] at hheard
        exact (Option.some.inj hheard).ge
    rw [hseen, clock_toNat (hstep.noWrap time htime)]
    exact hle
  · rw [hseen]
    rcases List.mem_append.mp he with he | he
    · exact h.heard e he nodeId heard hheard old hlookup
    · rw [List.mem_singleton.mp he, hnone] at hheard
      cases hheard

theorem DetectorInv.step {c : Setup} {pre : List MonitorOp} {op : MonitorOp}
    (h : DetectorInv c pre) (hstep : LeaderStep c pre op) (hstands : SuspicionStands c pre op) :
    DetectorInv c (pre ++ [op]) where
  timed _ hnow _ _ hs := h.timed_step hstep hstands hnow hs
  heard _ he _ _ hheard _ hs := h.heard_step hstep he hheard hs

/-- An expired timer of a SUSPECT slot means `silenceMs` since the node was last heard. -/
theorem SlotTimed.silent_of_expired {now : Nat} {s : Slot} (h : SlotTimed now s)
    (hnow : now < 2 ^ 32) (hsus : s.status = nodeSuspect) (hexpired : TimerExpired (clock now) s) :
    s.entry.lastSeenMs.toNat + silenceMs ≤ now := by
  have hstart := h.suspect hsus
  have hfifty : downTimeoutMs.toNat = 50 := rfl
  have hsilence : silenceMs = 80 := rfl
  rw [TimerExpired, UInt32.le_iff_toNat_le, toNat_clock_sub hnow h.since_le, hfifty] at hexpired
  have hsince := h.since_le
  omega

/-- On a leader, as long as every committed SUSPECT that changes an entry finds the node still
unheard since its suspicion timer started, DOWN is only proposed for a node that was silent for
`silenceMs`. -/
theorem no_false_down {c : Setup} {ops : List MonitorOp} (hrun : LeaderRun c ops)
    (hstands : Throughout (SuspicionStands c) ops) : Throughout (NoFalseDown c) ops := by
  refine Throughout.of_invariant (I := DetectorInv c) (detectorInv_nil c)
    (fun pre op hinv hC => hinv.step hC.1 hC.2) ?_ (hrun.throughout.and hstands)
  rintro pre op hinv ⟨hstep, -⟩
  cases op with
  | announce | heartbeat | apply | observe | lead => trivial
  | tick now beyond =>
      intro call hcall _ _ hdown e he heard hheard
      rw [MonitorState.callsOf_eq] at hcall
      obtain ⟨q, hq, hcall⟩ := OraclePort.mem_recorded hcall
      obtain ⟨-, slot, hslot, hprop⟩ := mem_tickProposals.mp hq
      rw [hcall] at hdown hheard
      rcases slotProposal_eq_some.mp hprop with ⟨-, -, rfl⟩ | ⟨hsus, hexpired, -, -, rfl⟩
      · exact absurd hdown.symm nodeDown_ne_nodeSuspect
      · have hlookup := c.lookup_of_mem_slots pre hslot
        have htimed := hinv.timed now (hstep.after now rfl) _ slot hlookup
        have hsilent := htimed.silent_of_expired (hstep.noWrap now rfl) hsus hexpired
        have hlast := hinv.heard e he _ heard hheard slot hlookup
        omega

theorem no_false_down_silentRun :
    (leaderOfBox1.reach silentRun).port.log
        = [⟨5, 1, nodeUp, nodeSuspect, 1⟩, ⟨5, 1, nodeSuspect, nodeDown, 1⟩] ∧
      Throughout (NoFalseDown leaderOfBox1) silentRun := by
  refine ⟨by decide +kernel, no_false_down ⟨rfl, ?_, ?_, ?_, ?_⟩ ?_⟩
  all_goals decide +kernel

/-- A node that is suspected at 40 ms and heard again at 50 ms, before its SUSPECT commits. -/
def recoveredRun : List MonitorOp :=
  [.announce 5 ⟨2⟩ 10, .tick 20 zeros, .tick 40 zeros, .heartbeat 5 ⟨0, 0⟩ 50,
    .apply ⟨5, 1, nodeUp, nodeSuspect, 1⟩, .tick 60 zeros]

/-- The commit of the older SUSPECT makes the tick at 60 ms propose DOWN, 10 ms after a heartbeat. -/
theorem false_down_recoveredRun :
    LeaderRun leaderOfBox1 recoveredRun ∧
      ¬Throughout (NoFalseDown leaderOfBox1) recoveredRun := by
  refine ⟨⟨rfl, ?_, ?_, ?_, ?_⟩, ?_⟩
  all_goals decide +kernel

end L2Oracle
