import Mathlib.Data.List.Chain
import L2Oracle.Health.ClockShift

/-!
# How soon a silent node is called DOWN

The timed automaton of the detector holds as long as nothing is committed. In the cluster the log talks
back: the SUSPECT that a tick proposed comes in again as a commit, any time later, an older SUSPECT of a
node that has recovered may come in as well, and neither touches `suspect_since_ms`. None of this delays
the detector. From the moment a local node was last heard, and whatever is committed about it short of a
recovery, the first tick after `suspectMs` finds or makes it failing with a timer that started no later
than that tick, and every tick after `DOWN_TIMEOUT_MS` more leaves it DOWN.

With ticks at most `gap` apart this is a deadline, `silenceMs + gap` after the last heartbeat. A node
that leads meanwhile has proposed the transition by then, unless the log had it already.
-/

namespace L2Oracle

open Base

/-- The operation does not hear the node, and commits nothing about it but failures. -/
def MonitorOp.Silent (nodeId : UInt8) : MonitorOp → Prop
  | .announce srcNode _ _ | .heartbeat srcNode _ _ => srcNode ≠ nodeId
  | .apply t => t.targetNode = nodeId → Failing t.newStatus
  | .tick _ _ | .observe _ _ _ | .lead _ _ => True

instance (nodeId : UInt8) : ∀ op, Decidable (MonitorOp.Silent nodeId op)
  | .announce .. | .heartbeat .. => inferInstanceAs (Decidable (_ ≠ _))
  | .apply _ => inferInstanceAs (Decidable (_ → _))
  | .tick .. | .observe .. | .lead .. => inferInstanceAs (Decidable True)

/-- The operation commits no DOWN of the node and leaves leadership alone. -/
def MonitorOp.LeavesDown (nodeId : UInt8) : MonitorOp → Prop
  | .apply t => t.targetNode = nodeId → t.newStatus ≠ nodeDown
  | .lead _ _ => False
  | .announce _ _ _ | .heartbeat _ _ _ | .tick _ _ | .observe _ _ _ => True

instance (nodeId : UInt8) : ∀ op, Decidable (MonitorOp.LeavesDown nodeId op)
  | .apply _ => inferInstanceAs (Decidable (_ → _))
  | .lead .. => inferInstanceAs (Decidable False)
  | .announce .. | .heartbeat .. | .tick .. | .observe .. => inferInstanceAs (Decidable True)

/-- A stretch of a run in which a node is silent. `hear` is the last operation that hears it, at `heard`,
and finds it a local node; since then came `ops`, with ticks at most `gap` apart up to `now`. -/
structure SilentRun (c : Setup) (nodeId : UInt8) (heard gap : Nat) (pre : List MonitorOp)
    (hear : MonitorOp) (ops : List MonitorOp) (now : Nat) : Prop where
  hears : hear.heard? nodeId = some heard
  up : ∃ s ∈ (c.reach (pre ++ [hear])).hm.lookup nodeId, s.status = nodeUp ∧ s.boxId = c.boxId
  silent : ∀ op ∈ ops, op.Silent nodeId
  ordered : TimesOrdered (pre ++ [hear] ++ ops)
  noWrap : now < 2 ^ 32
  /-- The monitor has ticked before. Its first tick only takes the time. -/
  started : 0 < lastTick pre
  inTime : (heard :: tickTimes ops ++ [now]).IsChain fun t u => u ≤ t + gap
  gap : gap ≤ maxTickGapMs

/-- Since the run `base`, the monitor has asked for the node to go from SUSPECT to DOWN. -/
def DownProposed (c : Setup) (nodeId : UInt8) (base ops : List MonitorOp) : Prop :=
  ∃ call ∈ (c.reach (base ++ ops)).port.calls.drop (c.reach base).port.calls.length,
    call.1.targetNode = nodeId ∧ call.1.oldStatus = nodeSuspect ∧ call.1.newStatus = nodeDown

/-! ### Timers lie in the past -/

theorem clock_toNat_le {time now : Nat} (hle : time ≤ now) (hnow : now < 2 ^ 32) :
    (clock time).toNat ≤ now := by
  rw [clock_toNat (Nat.lt_of_le_of_lt hle hnow)]
  exact hle

theorem tickedSlot_since_le {s : Slot} {time now : Nat} (hle : time ≤ now) (hnow : now < 2 ^ 32)
    (hs : s.suspectSinceMs.toNat ≤ now) (hm : HealthMonitor) (leader : Bool)
    (beyond : Nat → UInt8) :
    (tickedSlot hm leader (clock time) beyond s).suspectSinceMs.toNat ≤ now := by
  rcases tickedSlot_cases hm leader (clock time) beyond s with ⟨-, -, h⟩ | ⟨-, h⟩ | ⟨-, -, h⟩
  · rw [h]
    exact clock_toNat_le hle hnow
  all_goals
    rw [h]
    simpa [Slot.withStatus] using hs

theorem heardSlot_since_le {s : Slot} {now : Nat} (hs : s.suspectSinceMs.toNat ≤ now)
    (nowMs : UInt32) : (heardSlot nowMs s).suspectSinceMs.toNat ≤ now := by
  rw [heardSlot_eq]
  dsimp only
  split
  · exact Nat.zero_le _
  · exact hs

/-- No suspicion started later than now. -/
theorem Setup.since_le (c : Setup) {ops : List MonitorOp} {now : Nat}
    (hle : ∀ t ∈ times ops, t ≤ now) (hnow : now < 2 ^ 32) {nodeId : UInt8} {s : Slot}
    (hs : (c.reach ops).hm.lookup nodeId = some s) : s.suspectSinceMs.toNat ≤ now := by
  induction ops using List.reverseRecOn generalizing s with
  | nil => cases hs
  | append_singleton ops op ih =>
      have hpre := mem_times_snoc_le hle
      rw [reach_snoc] at hs
      cases MonitorState.slotStep hs with
      | kept _ hold => exact ih hpre hold
      | announced ann time => exact Nat.zero_le _
      | heard hb time hold => exact heardSlot_since_le (ih hpre hold) _
      | ticked time beyond _ hold =>
          exact tickedSlot_since_le (time_le_of_snoc hle rfl) hnow (ih hpre hold) _ _ _
      | committed t hid =>
          cases hold : (c.reach ops).hm.lookup nodeId with
          | none =>
              rw [HealthMonitor.slotOf, hold]
              exact Nat.zero_le _
          | some old =>
              rw [slotOf_eq hold]
              show old.suspectSinceMs.toNat ≤ now
              exact ih hpre hold

/-! ### One slot -/

/-- The slot of a local node that was last heard at `heard`. -/
structure Unheard (boxId : UInt8) (heard now : Nat) (s : Slot) : Prop where
  known : Known s.status
  box : s.boxId = boxId
  seen : s.entry.lastSeenMs.toNat = heard
  since : s.suspectSinceMs.toNat ≤ now

/-- The slot of a local node that is failing with a timer started by `since`. -/
structure Suspected (boxId : UInt8) (since : Nat) (s : Slot) : Prop where
  failing : Failing s.status
  box : s.boxId = boxId
  since : s.suspectSinceMs.toNat ≤ since

theorem Unheard.ticked {boxId : UInt8} {heard time now : Nat} {s : Slot} (h : Unheard boxId heard now s)
    (hle : time ≤ now) (hnow : now < 2 ^ 32) (hm : HealthMonitor) (leader : Bool)
    (beyond : Nat → UInt8) :
    Unheard boxId heard now (tickedSlot hm leader (clock time) beyond s) where
  known := known_tickedSlot _ _ _ _ h.known
  box := (tickedSlot_boxId _ _ _ _ s).trans h.box
  seen := by rw [tickedSlot_lastSeenMs, h.seen]
  since := tickedSlot_since_le hle hnow h.since _ _ _

theorem Suspected.ticked {boxId : UInt8} {since : Nat} {s : Slot} (h : Suspected boxId since s)
    (hm : HealthMonitor) (leader : Bool) (nowMs : UInt32) (beyond : Nat → UInt8) :
    Suspected boxId since (tickedSlot hm leader nowMs beyond s) := by
  have hup := failing_ne_up h.failing
  rcases tickedSlot_cases hm leader nowMs beyond s with ⟨hbad, -⟩ | ⟨-, hslot⟩ | ⟨-, -, hslot⟩
  · exact absurd hbad hup
  · rw [hslot]
    exact ⟨.inr rfl, by simpa [Slot.withStatus, Slot.boxId] using h.box,
      by simpa [Slot.withStatus] using h.since⟩
  · rw [hslot]
    refine ⟨?_, ?_, ?_⟩
    · rw [Slot.status, countMisses_entry]
      exact h.failing
    · rw [Slot.boxId, countMisses_entry]
      exact h.box
    · rw [countMisses_suspectSinceMs]
      exact h.since

/-- What an operation that leaves the node silent does to its slot. -/
theorem Unheard.step {s : MonitorState} {op : MonitorOp} {nodeId boxId : UInt8} {heard now : Nat}
    {old slot : Slot} (h : Unheard boxId heard now old) (hold : s.hm.lookup nodeId = some old)
    (hsilent : op.Silent nodeId) (htime : ∀ t ∈ op.time?, t ≤ now) (hnow : now < 2 ^ 32)
    (hslot : (s.step op).hm.lookup nodeId = some slot) : Unheard boxId heard now slot := by
  cases MonitorState.slotStep hslot with
  | kept _ hsame =>
      obtain rfl := Option.some.inj (hold.symm.trans hsame)
      exact h
  | announced ann time => exact absurd rfl hsilent
  | heard hb time hsame => exact absurd rfl hsilent
  | ticked time beyond _ hsame =>
      obtain rfl := Option.some.inj (hold.symm.trans hsame)
      exact h.ticked (htime time rfl) hnow _ _ _
  | committed t hid =>
      rw [slotOf_eq hold]
      exact ⟨.inr (hsilent hid), h.box, h.seen, h.since⟩

theorem Suspected.step {s : MonitorState} {op : MonitorOp} {nodeId boxId : UInt8} {since : Nat}
    {old slot : Slot} (h : Suspected boxId since old) (hold : s.hm.lookup nodeId = some old)
    (hsilent : op.Silent nodeId) (hslot : (s.step op).hm.lookup nodeId = some slot) :
    Suspected boxId since slot := by
  cases MonitorState.slotStep hslot with
  | kept _ hsame =>
      obtain rfl := Option.some.inj (hold.symm.trans hsame)
      exact h
  | announced ann time => exact absurd rfl hsilent
  | heard hb time hsame => exact absurd rfl hsilent
  | ticked time beyond _ hsame =>
      obtain rfl := Option.some.inj (hold.symm.trans hsame)
      exact h.ticked _ _ _ _
  | committed t hid =>
      rw [slotOf_eq hold]
      exact ⟨hsilent hid, h.box, h.since⟩

/-- Silence of `suspectMs` is enough misses, as long as their number fits 16 bits. -/
theorem missesEnough_of_silent {s : Slot} {now : Nat} (hnow : now < 2 ^ 32)
    (hsilent : s.entry.lastSeenMs.toNat + suspectMs ≤ now)
    (hfits : now ≤ s.entry.lastSeenMs.toNat + 2 * maxTickGapMs) : MissesEnough (clock now) s := by
  have hthree : suspectThreshold.toNat = 3 := rfl
  have hten : hbIntervalMs.toNat = 10 := rfl
  have hsuspect : suspectMs = 30 := rfl
  have hgap : maxTickGapMs = 300000 := rfl
  have hsince : (clock now - s.entry.lastSeenMs).toNat = now - s.entry.lastSeenMs.toNat :=
    toNat_clock_sub hnow (by omega)
  have hcounts : hbIntervalMs ≤ clock now - s.entry.lastSeenMs := by
    rw [UInt32.le_iff_toNat_le, hsince, hten]
    omega
  rw [MissesEnough, countMisses_missCount, if_pos hcounts, UInt16.le_iff_toNat_le,
    UInt32.toNat_toUInt16, UInt32.toNat_div, hsince, hthree, hten, Nat.mod_eq_of_lt (by omega)]
  omega

/-- The first tick after `suspectMs` leaves the node failing, with its timer started. -/
theorem Unheard.suspected {boxId : UInt8} {heard now : Nat} {s : Slot} (h : Unheard boxId heard now s)
    (hnow : now < 2 ^ 32) (hsilent : heard + suspectMs ≤ now) (hfits : now ≤ heard + 2 * maxTickGapMs)
    (hm : HealthMonitor) (leader : Bool) (beyond : Nat → UInt8) :
    Suspected boxId now (tickedSlot hm leader (clock now) beyond s) := by
  rcases h.known with hup | hfailing
  · have hmiss : MissesEnough (clock now) s :=
      missesEnough_of_silent hnow (by rw [h.seen]; exact hsilent) (by rw [h.seen]; exact hfits)
    rw [tickedSlot_of_missed hup hmiss]
    exact ⟨.inl rfl, by simpa [Slot.withStatus, Slot.boxId] using h.box, clock_toNat_le le_rfl hnow⟩
  · exact Suspected.ticked ⟨hfailing, h.box, h.since⟩ _ _ _ _

/-- A tick that comes `DOWN_TIMEOUT_MS` after the timer started leaves the node DOWN. -/
theorem Suspected.down {hm : HealthMonitor} {since now : Nat} {s : Slot}
    (h : Suspected hm.boxId since s) (hnow : now < 2 ^ 32)
    (hlate : since + downTimeoutMs.toNat ≤ now) (leader : Bool) (beyond : Nat → UInt8) :
    (tickedSlot hm leader (clock now) beyond s).status = nodeDown := by
  have hle := h.since
  rcases h.failing with hsus | hdown
  · have hexpired : TimerExpired (clock now) s := (timerExpired_iff hnow (by omega)).mpr (by omega)
    rw [tickedSlot_of_expired hsus hexpired fun _ => corroborated_local h.box beyond _]
    rfl
  · have hup : s.status ≠ nodeUp := hdown ▸ nodeDown_ne_nodeUp
    have hsus : s.status ≠ nodeSuspect := hdown ▸ nodeDown_ne_nodeSuspect
    rw [tickedSlot_of_neither (fun hbad => hup hbad.1) fun hbad => hsus hbad.1, Slot.status,
      countMisses_entry]
    exact hdown

/-! ### The slot along a run -/

/-- What the operations of a run keep of a node's slot, they keep together. -/
theorem Setup.slot_run (c : Setup) {P : Slot → Prop} {C : MonitorOp → Prop} {nodeId : UInt8}
    (hstep : ∀ (s : MonitorState) (op : MonitorOp) (old slot : Slot), C op →
      s.hm.lookup nodeId = some old → P old → (s.step op).hm.lookup nodeId = some slot → P slot)
    {base ops : List MonitorOp} {s : Slot} (hs : (c.reach base).hm.lookup nodeId = some s) (h : P s)
    (hops : ∀ op ∈ ops, C op) : ∃ slot, (c.reach (base ++ ops)).hm.lookup nodeId = some slot ∧ P slot := by
  induction ops using List.reverseRecOn with
  | nil => exact ⟨s, by rwa [List.append_nil], h⟩
  | append_singleton ops op ih =>
      obtain ⟨old, hold, hP⟩ := ih fun e he => hops e (List.mem_append_left _ he)
      obtain ⟨slot, hslot⟩ := MonitorState.exists_lookup_step op hold
      rw [← List.append_assoc, reach_snoc]
      exact ⟨slot, hslot, hstep _ op old slot (hops op (by simp)) hold hP hslot⟩

theorem Setup.unheard_run (c : Setup) {base ops : List MonitorOp} {nodeId : UInt8} {heard now : Nat}
    {s : Slot} (hs : (c.reach base).hm.lookup nodeId = some s) (h : Unheard c.boxId heard now s)
    (hsilent : ∀ op ∈ ops, op.Silent nodeId) (htimes : ∀ t ∈ times (base ++ ops), t ≤ now)
    (hnow : now < 2 ^ 32) :
    ∃ slot, (c.reach (base ++ ops)).hm.lookup nodeId = some slot ∧ Unheard c.boxId heard now slot := by
  refine c.slot_run (C := fun op => op.Silent nodeId ∧ ∀ t ∈ op.time?, t ≤ now) ?_ hs h ?_
  · rintro s op old slot ⟨hop, htime⟩ hold hP hslot
    exact hP.step hold hop htime hnow hslot
  · exact fun op hop => ⟨hsilent op hop, fun t ht =>
      htimes t (List.mem_filterMap.mpr ⟨op, List.mem_append_right _ hop, ht⟩)⟩

theorem Setup.suspected_run (c : Setup) {base ops : List MonitorOp} {nodeId boxId : UInt8} {since : Nat}
    {s : Slot} (hs : (c.reach base).hm.lookup nodeId = some s) (h : Suspected boxId since s)
    (hsilent : ∀ op ∈ ops, op.Silent nodeId) :
    ∃ slot, (c.reach (base ++ ops)).hm.lookup nodeId = some slot ∧ Suspected boxId since slot :=
  c.slot_run (fun _ _ _ _ hop hold hP hslot => hP.step hold hop hslot) hs h hsilent

theorem Setup.ticks_of_lastTick (c : Setup) {ops : List MonitorOp} {now : Nat}
    (hpos : 0 < lastTick ops) (hlt : lastTick ops < now) (hnow : now < 2 ^ 32) :
    (c.reach ops).hm.Ticks (clock now) := by
  have hlast := clock_toNat (hlt.trans hnow)
  rw [HealthMonitor.Ticks, reach_lastTickMs]
  constructor
  · intro hzero
    rw [hzero] at hlast
    exact Nat.ne_of_gt hpos hlast.symm
  · intro hsame
    rw [← hsame, clock_toNat hnow] at hlast
    exact Nat.ne_of_gt hlt hlast

/-- The slot after an effective tick. -/
theorem Setup.lookup_ticked (c : Setup) {ops : List MonitorOp} {now : Nat} {nodeId : UInt8} {s : Slot}
    (hticks : (c.reach ops).hm.Ticks (clock now)) (hs : (c.reach ops).hm.lookup nodeId = some s)
    (beyond : Nat → UInt8) :
    (c.reach (ops ++ [.tick now beyond])).hm.lookup nodeId
      = some (tickedSlot (c.reach ops).hm (c.reach ops).port.leader (clock now) beyond s) := by
  rw [reach_snoc, MonitorState.step_lookup]
  dsimp only
  rw [if_pos hticks, hs, Option.map_some]

/-! ### The stretch -/

theorem MonitorState.lastSeenMs_of_heard {s : MonitorState} {op : MonitorOp} {nodeId : UInt8}
    {time : Nat} {slot : Slot} (hheard : op.heard? nodeId = some time)
    (hslot : (s.step op).hm.lookup nodeId = some slot) : slot.entry.lastSeenMs = clock time := by
  cases MonitorState.slotStep hslot with
  | kept hother hold =>
      cases op with
      | announce srcNode ann now | heartbeat srcNode hb now =>
          have hne : ¬srcNode = nodeId := hother
          simp [MonitorOp.heard?, hne] at hheard
      | tick | apply | observe | lead => cases hheard
  | announced ann now =>
      rw [MonitorOp.heard?, if_pos rfl] at hheard
      rw [← Option.some.inj hheard]
      rfl
  | heard hb now hold =>
      rw [MonitorOp.heard?, if_pos rfl] at hheard
      rw [heardSlot_lastSeenMs, ← Option.some.inj hheard]
  | ticked | committed => cases hheard

def MonitorOp.ticksFrom (bound : Nat) : MonitorOp → Bool
  | .tick now _ => bound ≤ now
  | .announce .. | .heartbeat .. | .apply .. | .observe .. | .lead .. => false

theorem tickTimes_lt {ops : List MonitorOp} {bound : Nat}
    (h : ∀ op ∈ ops, ¬op.ticksFrom bound = true) : ∀ t ∈ tickTimes ops, t < bound := by
  intro t ht
  obtain ⟨op, hop, htick⟩ := List.mem_filterMap.mp ht
  have hearly := h op hop
  cases op with
  | tick now beyond =>
      obtain rfl := Option.some.inj htick
      simpa [MonitorOp.ticksFrom] using hearly
  | announce | heartbeat | apply | observe | lead => cases htick

/-- In a chain of times at most `gap` apart, a time that comes after times below a bound only is less
than `gap` above the bound. -/
theorem lt_of_isChain {gap bound t : Nat} {ts rest : List Nat} (hne : ts ≠ [])
    (hchain : (ts ++ t :: rest).IsChain fun u v => v ≤ u + gap) (hts : ∀ u ∈ ts, u < bound) :
    t < bound + gap := by
  obtain ⟨init, last, rfl⟩ := List.eq_nil_or_concat ts |>.resolve_left hne
  rw [List.concat_eq_append] at hchain hts
  rw [List.append_assoc, List.singleton_append, List.isChain_append_cons_cons] at hchain
  have hlast := hts last (by simp)
  have hgap := hchain.2.1
  omega

theorem lastTick_lt {ops : List MonitorOp} {t : Nat} (hpos : 0 < t) (h : ∀ u ∈ tickTimes ops, u < t) :
    lastTick ops < t := by
  unfold lastTick
  cases hlast : (tickTimes ops).getLast? with
  | none => exact hpos
  | some u => exact h u (List.mem_of_getLast? hlast)

/-- A monitor that has ticked has done so ever after. -/
theorem lastTick_pos {pre more : List MonitorOp} (hpos : 0 < lastTick pre)
    (hordered : TimesOrdered (pre ++ more)) : 0 < lastTick (pre ++ more) := by
  have hmem : lastTick pre ∈ tickTimes pre := by
    unfold lastTick at hpos ⊢
    cases hlast : (tickTimes pre).getLast? with
    | none =>
        rw [hlast] at hpos
        exact absurd hpos (lt_irrefl 0)
    | some t => exact List.mem_of_getLast? hlast
  refine hpos.trans_le (tickTimes_le_lastTick hordered ?_)
  rw [tickTimes, List.filterMap_append]
  exact List.mem_append_left _ hmem

section
variable {c : Setup} {nodeId : UInt8} {heard gap now : Nat} {pre ops : List MonitorOp}
  {hear : MonitorOp}

/-- Where the stretch begins. -/
theorem SilentRun.unheard (h : SilentRun c nodeId heard gap pre hear ops now) (hle : heard ≤ now) :
    ∃ s, (c.reach (pre ++ [hear])).hm.lookup nodeId = some s ∧ s.status = nodeUp ∧
      ∀ t, heard ≤ t → Unheard c.boxId heard t s := by
  obtain ⟨s, hs, hup, hbox⟩ := h.up
  have hheard : heard < 2 ^ 32 := Nat.lt_of_le_of_lt hle h.noWrap
  have htime := MonitorOp.time_of_heard h.hears
  have hpast : ∀ u ∈ times (pre ++ [hear]), u ≤ heard := by
    intro u hu
    rw [times_snoc, htime] at hu
    rcases List.mem_append.mp hu with hu | hu
    · have hordered := h.ordered
      rw [List.append_assoc, List.singleton_append] at hordered
      exact hordered.le_of_split htime hu
    · exact (List.mem_singleton.mp hu).le
  have hsince := c.since_le hpast hheard hs
  have hseen : s.entry.lastSeenMs = clock heard := by
    rw [Setup.reach_snoc] at hs
    exact MonitorState.lastSeenMs_of_heard h.hears hs
  refine ⟨s, hs, hup, fun t ht => ⟨.inl hup, hbox, ?_, hsince.trans ht⟩⟩
  rw [hseen, clock_toNat hheard]

/-- Some tick of the stretch is the first one after `suspectMs`, and it comes soon after. -/
theorem SilentRun.first_tick (h : SilentRun c nodeId heard gap pre hear ops now)
    (hlate : heard + suspectMs + gap ≤ now) :
    ∃ early t beyond rest, ops = early ++ .tick t beyond :: rest ∧
      (∀ u ∈ tickTimes early, u < heard + suspectMs) ∧ heard + suspectMs ≤ t ∧
      t < heard + suspectMs + gap := by
  have hsuspect : suspectMs = 30 := rfl
  have hchain := h.inTime
  cases hfind : ops.find? (·.ticksFrom (heard + suspectMs)) with
  | none =>
      have hticks : ∀ u ∈ heard :: tickTimes ops, u < heard + suspectMs :=
        List.forall_mem_cons.mpr ⟨by omega, tickTimes_lt (List.find?_eq_none.mp hfind)⟩
      have hbad := lt_of_isChain (List.cons_ne_nil _ _) hchain hticks
      omega
  | some op =>
      obtain ⟨hfrom, early, rest, rfl, hearly⟩ := List.find?_eq_some_iff_append.mp hfind
      cases op with
      | tick t beyond =>
          have hticks : ∀ u ∈ tickTimes early, u < heard + suspectMs :=
            tickTimes_lt fun e he => by simpa using hearly e he
          have hsplit : tickTimes (early ++ .tick t beyond :: rest)
              = tickTimes early ++ t :: tickTimes rest := by
            simp [tickTimes]
          rw [hsplit, ← List.cons_append, List.append_assoc, List.cons_append] at hchain
          exact ⟨early, t, beyond, rest, rfl, hticks, of_decide_eq_true hfrom,
            lt_of_isChain (List.cons_ne_nil _ _) hchain
              (List.forall_mem_cons.mpr ⟨by omega, hticks⟩)⟩
      | announce | heartbeat | apply | observe | lead => cases hfrom

/-- The first tick after `suspectMs` comes after the ticks before it, and is not the first of all. -/
theorem SilentRun.lastTick_early {early rest : List MonitorOp} {t : Nat} {beyond : Nat → UInt8}
    (h : SilentRun c nodeId heard gap pre hear (early ++ .tick t beyond :: rest) now)
    (hearly : ∀ u ∈ tickTimes early, u < t) (hlt : heard < t) :
    0 < lastTick (pre ++ [hear] ++ early) ∧ lastTick (pre ++ [hear] ++ early) < t := by
  have hticks : tickTimes (pre ++ [hear] ++ early) = tickTimes pre ++ tickTimes early := by
    rw [List.append_assoc, tickTimes, List.filterMap_append, List.filterMap_append]
    have hhears := h.hears
    cases hear with
    | announce | heartbeat => rfl
    | tick | apply | observe | lead => cases hhears
  have hordered := h.ordered
  constructor
  · rw [← List.append_assoc] at hordered
    have hpast := hordered.initial (List.prefix_append _ _)
    rw [List.append_assoc] at hpast ⊢
    exact lastTick_pos h.started hpast
  · refine lastTick_lt (Nat.zero_lt_of_lt hlt) fun u hu => ?_
    rw [hticks] at hu
    rcases List.mem_append.mp hu with hu | hu
    · rw [List.append_assoc, List.singleton_append] at hordered
      exact (hordered.le_of_split (MonitorOp.time_of_heard h.hears) (tickTimes_subset hu)).trans_lt hlt
    · exact hearly u hu

/-- At the end of the stretch the node is failing, and its timer is `DOWN_TIMEOUT_MS` old. -/
theorem SilentRun.suspected (h : SilentRun c nodeId heard gap pre hear ops now)
    (hlate : heard + silenceMs + gap ≤ now) :
    ∃ since s, (c.reach (pre ++ [hear] ++ ops)).hm.lookup nodeId = some s ∧
      Suspected c.boxId since s ∧ since + downTimeoutMs.toNat ≤ now := by
  have hsuspect : suspectMs = 30 := rfl
  have hsilence : silenceMs = 80 := rfl
  have hfifty : downTimeoutMs.toNat = 50 := rfl
  have hmax : maxTickGapMs = 300000 := rfl
  have hgap := h.gap
  have hnow := h.noWrap
  obtain ⟨early, t, beyond, rest, rfl, hearly, hle, hlt⟩ := h.first_tick (by omega)
  obtain ⟨s₀, hs₀, -, hunheard⟩ := h.unheard (by omega)
  have hsilent := h.silent
  rw [List.forall_mem_append, List.forall_mem_cons] at hsilent
  have htnow : t < 2 ^ 32 := by omega
  have hordered := h.ordered
  rw [← List.append_assoc] at hordered
  -- up to the tick at `t` the node is unheard, and its timer, if it runs, started earlier
  obtain ⟨s₁, hs₁, hunheard₁⟩ := c.unheard_run hs₀ (hunheard t (by omega)) hsilent.1
    (fun u hu => hordered.le_of_split rfl hu) htnow
  obtain ⟨hpos, hlast⟩ := h.lastTick_early (fun u hu => (hearly u hu).trans_le hle) (by omega)
  have hs₂ := c.lookup_ticked (c.ticks_of_lastTick hpos hlast htnow) hs₁ beyond
  -- the tick at `t` suspects it, or finds it failing
  obtain ⟨s, hs, hsuspected⟩ := c.suspected_run hs₂
    (hunheard₁.suspected htnow hle (by omega) _ _ beyond) hsilent.2.2
  refine ⟨t, s, ?_, hsuspected, by omega⟩
  simpa using hs

/-- A tick at the end of the stretch finds the node DOWN or makes it so. -/
theorem SilentRun.down (h : SilentRun c nodeId heard gap pre hear ops now)
    (hlate : heard + silenceMs + gap ≤ now) (hlast : lastTick (pre ++ [hear] ++ ops) < now)
    (beyond : Nat → UInt8) :
    (c.reach (pre ++ [hear] ++ ops ++ [.tick now beyond])).hm.statusOf nodeId = nodeDown := by
  obtain ⟨since, s, hs, hsuspected, htimer⟩ := h.suspected hlate
  have hpos : 0 < lastTick (pre ++ [hear] ++ ops) := by
    have hordered := h.ordered
    rw [List.append_assoc] at hordered ⊢
    exact lastTick_pos h.started hordered
  rw [← c.reach_boxId (pre ++ [hear] ++ ops)] at hsuspected
  rw [statusOf_eq (c.lookup_ticked (c.ticks_of_lastTick hpos hlast h.noWrap) hs beyond)]
  exact hsuspected.down h.noWrap htimer _ _

/-! ### The proposal -/

/-- A slot becomes DOWN in a tick of a leader only with a proposal. -/
theorem MonitorState.down_proposed {s : MonitorState} {op : MonitorOp} {old slot : Slot}
    (hold : s.hm.lookup nodeId = some old) (hslot : (s.step op).hm.lookup nodeId = some slot)
    (hleader : s.port.leader = true) (hleaves : op.LeavesDown nodeId) (hdown : slot.status = nodeDown) :
    old.status = nodeDown ∨ ∃ call ∈ s.callsOf op,
      call.1.targetNode = nodeId ∧ call.1.oldStatus = nodeSuspect ∧ call.1.newStatus = nodeDown := by
  cases MonitorState.slotStep hslot with
  | kept _ hsame =>
      obtain rfl := Option.some.inj (hold.symm.trans hsame)
      exact .inl hdown
  | announced ann time => exact absurd hdown.symm nodeDown_ne_nodeUp
  | heard hb time hsame =>
      rw [heardSlot_status] at hdown
      split at hdown
      · exact absurd hdown.symm nodeDown_ne_nodeUp
      · rename_i hfail
        exact absurd (.inr hdown) hfail
  | ticked time beyond hticks hsame =>
      obtain rfl := Option.some.inj (hold.symm.trans hsame)
      rw [tickedSlot_status] at hdown
      split_ifs at hdown with hmissed hexpired
      · exact absurd hdown.symm nodeDown_ne_nodeSuspect
      · obtain ⟨hsus, htimer, hcorr⟩ := hexpired
        have hprop : slotProposal s.hm s.port.leader (clock time) beyond old
            = some (old.propose nodeDown) :=
          slotProposal_eq_some.mpr (.inr ⟨hsus, htimer, hleader, hcorr hleader, rfl⟩)
        have hq : old.propose nodeDown ∈ s.proposals (.tick time beyond) :=
          mem_tickProposals.mpr ⟨hticks, old, mem_of_lookup hold, hprop⟩
        obtain ⟨n, hn⟩ := OraclePort.recorded_mem (p := s.port) hq
        rw [← callsOf_eq] at hn
        have hid : old.nodeId = nodeId := key_of_lookup hold
        exact .inr ⟨_, hn, hid, hsus, rfl⟩
      · exact .inl hdown
  | committed t hid => exact absurd hdown (hleaves hid)

theorem DownProposed.snoc (h : DownProposed c nodeId pre ops) (op : MonitorOp) :
    DownProposed c nodeId pre (ops ++ [op]) := by
  obtain ⟨call, hcall, hdown⟩ := h
  have hlen := (c.calls_initial pre ops).length_le
  refine ⟨call, ?_, hdown⟩
  rw [← List.append_assoc, Setup.reach_snoc, MonitorState.step_calls,
    List.drop_append_of_le_length hlen]
  exact List.mem_append_left _ hcall

/-- What a leader shows as DOWN it has proposed to call DOWN, if the log did not say so. -/
theorem Setup.downProposed_run (c : Setup) {s : Slot} (hs : (c.reach pre).hm.lookup nodeId = some s)
    (hup : s.status ≠ nodeDown) (hleader : (c.reach pre).port.leader = true)
    (hleaves : ∀ op ∈ ops, op.LeavesDown nodeId) :
    (c.reach (pre ++ ops)).port.leader = true ∧
      ∃ slot, (c.reach (pre ++ ops)).hm.lookup nodeId = some slot ∧
        (slot.status = nodeDown → DownProposed c nodeId pre ops) := by
  induction ops using List.reverseRecOn with
  | nil =>
      rw [List.append_nil]
      exact ⟨hleader, s, hs, fun hdown => absurd hdown hup⟩
  | append_singleton ops op ih =>
      obtain ⟨hlead, old, hold, hproposed⟩ := ih fun e he => hleaves e (List.mem_append_left _ he)
      have hop := hleaves op (by simp)
      obtain ⟨slot, hslot⟩ := MonitorState.exists_lookup_step op hold
      rw [← List.append_assoc, reach_snoc]
      refine ⟨?_, slot, hslot, fun hdown => ?_⟩
      · rw [MonitorState.step_leader]
        cases op with
        | lead => cases hop
        | announce | heartbeat | tick | apply | observe => exact hlead
      · rcases MonitorState.down_proposed hold hslot hlead hop hdown with hwas | ⟨call, hcall, hnames⟩
        · exact (hproposed hwas).snoc op
        · have hlen := (c.calls_initial pre ops).length_le
          refine ⟨call, ?_, hnames⟩
          rw [← List.append_assoc, reach_snoc, MonitorState.step_calls, ← MonitorState.callsOf_eq,
            List.drop_append_of_le_length hlen]
          exact List.mem_append_right _ hcall

end

/-- Node 5 is heard at 30 ms for the last time, and its SUSPECT commits in between. -/
def fadingRun : List MonitorOp :=
  [.tick 40 zeros, .tick 50 zeros, .tick 60 zeros, .apply ⟨5, 1, nodeUp, nodeSuspect, 1⟩,
    .tick 70 zeros, .tick 80 zeros, .tick 90 zeros, .tick 100 zeros, .tick 110 zeros]

end L2Oracle
