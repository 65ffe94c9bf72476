import L2Oracle.Health.Detector
import L2Oracle.Health.Recovery

/-!
# The detector as a timed automaton

The header of the health monitor draws a state machine with two timeouts, and the code spreads it over
four variables: the time a node was last seen, a 16-bit count of missed heartbeats that a tick writes
only from the tenth millisecond of silence on, the time the suspicion started, and the time of the last
tick. This module states the machine on its own, as a function of the time a node was last heard and
of the times of the ticks, and shows that the monitor computes it as long as nothing is committed.

Ticks that come late cannot mislead the count as long as they come every `maxTickGapMs`: a node is
still UP only if the last tick found it heard within `suspectMs`, or was the first tick of all, so the
silence that a tick counts is at most twice the gap and its count of intervals fits 16 bits.
-/

namespace L2Oracle

open Base

/-- The silence after which a tick suspects a node. -/
def suspectMs : Nat := suspectThreshold.toNat * hbIntervalMs.toNat

example : suspectMs = 30 ∧ downTimeoutMs.toNat = 50 := by decide

/-- The longest time from one tick to the next, far above the 10 ms of the health task. -/
def maxTickGapMs : Nat := 300000

/-! ### The automaton -/

/-- The status of a node that was last heard at `heard`, after the given ticks: UP until the first tick
that finds `suspectMs` of silence, and DOWN from the first tick on that comes `DOWN_TIMEOUT_MS` after
that one. -/
def automatonStatus (heard : Nat) (ticks : List Nat) : UInt8 :=
  match ticks.find? fun t => heard + suspectMs ≤ t with
  | none => nodeUp
  | some t₁ => if ∃ t₂ ∈ ticks, t₁ + downTimeoutMs.toNat ≤ t₂ then nodeDown else nodeSuspect

/-- The times of the ticks. -/
def tickTimes (ops : List MonitorOp) : List Nat :=
  ops.filterMap fun
    | .tick now _ => some now
    | _ => none

/-- The times that are later than the one before, the first of them later than `prev`. -/
def increasesFrom : Option Nat → List Nat → List Nat
  | _, [] => []
  | prev, t :: ts =>
      (if prev.any (· < t) then [t] else []) ++ increasesFrom (some t) ts

/-- The times of the effective ticks: neither the first one nor at the time of the one before. -/
def effectiveTicks (ops : List MonitorOp) : List Nat := increasesFrom none (tickTimes ops)

example : increasesFrom none [10, 20, 20, 35] = [20, 35] := by decide

/-- The time of the last heartbeat or announcement of a node. -/
def lastHeard (nodeId : UInt8) (ops : List MonitorOp) : Option Nat :=
  (ops.filterMap (·.heard? nodeId)).getLast?

/-- The operation comes at most `maxTickGapMs` after the last tick, or after the first operation. -/
def TicksInTime (pre : List MonitorOp) (op : MonitorOp) : Prop :=
  ∀ now ∈ op.time?, times pre = [] ∨
    ∃ t ∈ (times pre).head?.toList ++ tickTimes pre, now ≤ t + maxTickGapMs

instance (pre : List MonitorOp) (op : MonitorOp) : Decidable (TicksInTime pre op) :=
  inferInstanceAs (Decidable (∀ now ∈ op.time?, _))

/-- A run without commits: announcements, heartbeats and ticks, in order and in time, while leadership
comes and goes. -/
structure DetectorRun (ops : List MonitorOp) : Prop where
  noCommit : ∀ op ∈ ops, op.isLocal ∨ op.isLead
  ordered : TimesOrdered ops
  range : ∀ t ∈ times ops, 0 < t ∧ t < 2 ^ 32
  inTime : Throughout TicksInTime ops

/-! ### The history of a run -/

theorem tickTimes_snoc (ops : List MonitorOp) (op : MonitorOp) :
    tickTimes (ops ++ [op]) = tickTimes ops ++ tickTimes [op] :=
  List.filterMap_append ..

theorem tickTimes_subset {ops : List MonitorOp} {t : Nat} (h : t ∈ tickTimes ops) :
    t ∈ times ops := by
  obtain ⟨op, hop, htick⟩ := List.mem_filterMap.mp h
  refine List.mem_filterMap.mpr ⟨op, hop, ?_⟩
  cases op with
  | tick now beyond => exact htick
  | announce | heartbeat | apply | observe | lead => cases htick

theorem increasesFrom_append (prev : Option Nat) (ts : List Nat) (t : Nat) :
    increasesFrom prev (ts ++ [t])
      = increasesFrom prev ts ++ if (ts.getLast?.or prev).any (· < t) then [t] else [] := by
  induction ts generalizing prev with
  | nil => exact List.append_nil _
  | cons u ts ih =>
      rw [List.cons_append, increasesFrom, ih, increasesFrom, List.getLast?_cons, List.append_assoc]
      cases ts.getLast? <;> rfl

theorem increasesFrom_subset (prev : Option Nat) {ts : List Nat} {t : Nat}
    (h : t ∈ increasesFrom prev ts) : t ∈ ts := by
  induction ts generalizing prev with
  | nil => cases h
  | cons u ts ih =>
      rcases List.mem_append.mp h with h | h
      · split at h
        · exact List.mem_cons.mpr (.inl (List.mem_singleton.mp h))
        · cases h
      · exact List.mem_cons_of_mem u (ih _ h)

/-- The time of the last tick, 0 before the first one, as `last_tick_ms` has it. -/
def lastTick (ops : List MonitorOp) : Nat := (tickTimes ops).getLast?.getD 0

theorem lastTick_snoc (ops : List MonitorOp) (op : MonitorOp) :
    lastTick (ops ++ [op]) = match op with
      | .tick now _ => now
      | _ => lastTick ops := by
  unfold lastTick
  rw [tickTimes_snoc]
  cases op <;> simp [tickTimes]

theorem lastHeard_snoc (nodeId : UInt8) (ops : List MonitorOp) (op : MonitorOp) :
    lastHeard nodeId (ops ++ [op]) = (op.heard? nodeId).or (lastHeard nodeId ops) := by
  unfold lastHeard
  cases h : op.heard? nodeId <;> simp [h]

/-- One step of such a run. -/
structure DetectorStep (pre : List MonitorOp) (op : MonitorOp) : Prop where
  noCommit : op.isLocal ∨ op.isLead
  after : ∀ now, op.time? = some now → ∀ t ∈ times pre, t ≤ now
  range : ∀ now, op.time? = some now → 0 < now ∧ now < 2 ^ 32
  earlier : ∀ t ∈ times pre, 0 < t ∧ t < 2 ^ 32
  ordered : TimesOrdered pre
  inTime : TicksInTime pre op

theorem DetectorRun.throughout {ops : List MonitorOp} (h : DetectorRun ops) :
    Throughout DetectorStep ops := by
  intro pre op post hsplit
  have hordered := h.ordered
  have htimes : times ops = times pre ++ times (op :: post) := by
    rw [hsplit]
    exact List.filterMap_append ..
  rw [TimesOrdered, htimes, List.pairwise_append] at hordered
  exact {
    noCommit := h.noCommit op (by rw [hsplit]; simp)
    after := fun now hnow t ht => TimesOrdered.le_of_split (hsplit ▸ h.ordered) hnow ht
    range := fun now hnow => h.range now (hsplit ▸ mem_times_of_split hnow)
    earlier := fun t ht => h.range t (by rw [htimes]; exact List.mem_append_left _ ht)
    ordered := hordered.1
    inTime := h.inTime pre op post hsplit }

theorem head_times_le {ops : List MonitorOp} (h : TimesOrdered ops) {first t : Nat}
    (hfirst : (times ops).head? = some first) (ht : t ∈ times ops) : first ≤ t := by
  obtain ⟨rest, hrest⟩ := List.head?_eq_some_iff.mp hfirst
  rw [TimesOrdered, hrest, List.pairwise_cons] at h
  rw [hrest] at ht
  rcases List.mem_cons.mp ht with rfl | ht
  · exact Nat.le_refl _
  · exact h.1 t ht

theorem tickTimes_le_lastTick {ops : List MonitorOp} (h : TimesOrdered ops) {t : Nat}
    (ht : t ∈ tickTimes ops) : t ≤ lastTick ops := by
  induction ops using List.reverseRecOn with
  | nil => cases ht
  | append_singleton ops op ih =>
      rw [tickTimes_snoc] at ht
      rw [lastTick_snoc]
      have hpre : TimesOrdered ops := by
        rw [TimesOrdered, times_snoc, List.pairwise_append] at h
        exact h.1
      cases op with
      | tick now beyond =>
          rcases List.mem_append.mp ht with ht | ht
          · exact TimesOrdered.le_of_split h rfl (tickTimes_subset ht)
          · exact (List.mem_singleton.mp ht).le
      | announce | heartbeat | apply | observe | lead =>
          rcases List.mem_append.mp ht with ht | ht
          · exact ih hpre ht
          · cases ht

/-! ### One slot -/

/-- Where a slot stands in the automaton. -/
inductive Phase (ticks : List Nat) (last : Nat) (s : Slot) : Prop
  | up : s.status = nodeUp → (∀ t ∈ ticks, t < s.entry.lastSeenMs.toNat + suspectMs) →
      s.missCount < suspectThreshold → last ≤ s.entry.lastSeenMs.toNat + maxTickGapMs →
      Phase ticks last s
  | suspect : s.status = nodeSuspect →
      (ticks.find? fun t => s.entry.lastSeenMs.toNat + suspectMs ≤ t)
        = some s.suspectSinceMs.toNat →
      (∀ t ∈ ticks, t < s.suspectSinceMs.toNat + downTimeoutMs.toNat) → Phase ticks last s
  | down (t₁ t₂ : Nat) : s.status = nodeDown →
      (ticks.find? fun t => s.entry.lastSeenMs.toNat + suspectMs ≤ t) = some t₁ →
      t₂ ∈ ticks → t₁ + downTimeoutMs.toNat ≤ t₂ → Phase ticks last s

theorem Phase.status_eq {ticks : List Nat} {last : Nat} {s : Slot} (h : Phase ticks last s) :
    s.status = automatonStatus s.entry.lastSeenMs.toNat ticks := by
  unfold automatonStatus
  cases h with
  | up hstatus hticks hmiss hlast =>
      have hnone : (ticks.find? fun t => s.entry.lastSeenMs.toNat + suspectMs ≤ t) = none := by
        rw [List.find?_eq_none]
        intro t ht
        simpa using hticks t ht
      rw [hnone, hstatus]
  | suspect hstatus hfirst hticks =>
      have hearly : ¬∃ t₂ ∈ ticks, s.suspectSinceMs.toNat + downTimeoutMs.toNat ≤ t₂ := by
        rintro ⟨t₂, ht₂, hle⟩
        exact Nat.not_lt.mpr hle (hticks t₂ ht₂)
      rw [hfirst, hstatus]
      exact (if_neg hearly).symm
  | down t₁ t₂ hstatus hfirst ht₂ hle =>
      rw [hfirst, hstatus]
      exact (if_pos ⟨t₂, ht₂, hle⟩).symm

theorem Phase.known {ticks : List Nat} {last : Nat} {s : Slot} (h : Phase ticks last s) :
    Known s.status := by
  cases h with
  | up hstatus => exact .inl hstatus
  | suspect hstatus => exact .inr (.inl hstatus)
  | down _ _ hstatus => exact .inr (.inr hstatus)

/-- While the silence fits the count, an UP slot has missed enough exactly after `suspectMs`. -/
theorem missesEnough_iff {s : Slot} {now : Nat} (hnow : now < 2 ^ 32)
    (hseen : s.entry.lastSeenMs.toNat ≤ now) (hmiss : s.missCount < suspectThreshold)
    (hfits : now ≤ s.entry.lastSeenMs.toNat + 2 * maxTickGapMs) :
    MissesEnough (clock now) s ↔ s.entry.lastSeenMs.toNat + suspectMs ≤ now := by
  have hthree : suspectThreshold.toNat = 3 := rfl
  have hten : hbIntervalMs.toNat = 10 := rfl
  have hsuspect : suspectMs = 30 := rfl
  have hgap : maxTickGapMs = 300000 := rfl
  have hsince := toNat_clock_sub hnow hseen
  rw [MissesEnough, countMisses_missCount]
  split
  · rename_i hle
    rw [UInt32.le_iff_toNat_le, hsince, hten] at hle
    rw [UInt16.le_iff_toNat_le, UInt32.toNat_toUInt16, UInt32.toNat_div, hsince, hthree, hten,
      Nat.mod_eq_of_lt (by omega)]
    omega
  · rename_i hlt
    rw [UInt32.le_iff_toNat_le, hsince, hten] at hlt
    rw [UInt16.lt_iff_toNat_lt, hthree] at hmiss
    rw [UInt16.le_iff_toNat_le, hthree]
    omega

theorem timerExpired_iff {s : Slot} {now : Nat} (hnow : now < 2 ^ 32)
    (hsince : s.suspectSinceMs.toNat ≤ now) :
    TimerExpired (clock now) s ↔ s.suspectSinceMs.toNat + downTimeoutMs.toNat ≤ now := by
  rw [TimerExpired, UInt32.le_iff_toNat_le, toNat_clock_sub hnow hsince]
  omega

theorem corroborated_local {hm : HealthMonitor} {s : Slot} (hbox : s.boxId = hm.boxId)
    (beyond : Nat → UInt8) (nowMs : UInt32) :
    corroborated hm beyond s.nodeId s.boxId nowMs = true := by
  rw [corroborated, if_pos hbox]

section
variable {ticks : List Nat} {last now : Nat} {s : Slot} {hm : HealthMonitor}

theorem phase_ticked_up (hnow : now < 2 ^ 32) (hseen : s.entry.lastSeenMs.toNat ≤ now)
    (hgap : now ≤ last + maxTickGapMs) (hticks : ∀ t ∈ ticks, t ≤ now) (hup : s.status = nodeUp)
    (hearly : ∀ t ∈ ticks, t < s.entry.lastSeenMs.toNat + suspectMs)
    (hmiss : s.missCount < suspectThreshold)
    (hlast : last ≤ s.entry.lastSeenMs.toNat + maxTickGapMs) (leader : Bool)
    (beyond : Nat → UInt8) :
    Phase (ticks ++ [now]) now (tickedSlot hm leader (clock now) beyond s) := by
  have hmisses := missesEnough_iff hnow hseen hmiss (by omega)
  by_cases hsilent : s.entry.lastSeenMs.toNat + suspectMs ≤ now
  · rw [tickedSlot_of_missed hup (hmisses.mpr hsilent)]
    have hnone : (ticks.find? fun t => s.entry.lastSeenMs.toNat + suspectMs ≤ t) = none := by
      rw [List.find?_eq_none]
      intro t ht
      simpa using hearly t ht
    have hfifty : downTimeoutMs.toNat = 50 := rfl
    refine .suspect rfl ?_ fun t ht => ?_
    · simp only [Slot.withStatus, countMisses_entry, clock_toNat hnow, List.find?_append, hnone]
      simp [hsilent]
    · have hle : t ≤ now := by
        rcases List.mem_append.mp ht with ht | ht
        · exact hticks t ht
        · exact (List.mem_singleton.mp ht).le
      show t < (clock now).toNat + _
      rw [clock_toNat hnow]
      omega
  · have hcalm : ¬MissesEnough (clock now) s := fun h => hsilent (hmisses.mp h)
    have hsuspect : suspectMs = 30 := rfl
    have hmax : maxTickGapMs = 300000 := rfl
    have hsus : s.status ≠ nodeSuspect := hup ▸ nodeUp_ne_nodeSuspect
    rw [tickedSlot_of_neither (fun h => hcalm h.2) fun h => hsus h.1]
    refine .up ?_ ?_ ?_ ?_
    · rw [Slot.status, countMisses_entry]
      exact hup
    · intro t ht
      rw [countMisses_entry]
      rcases List.mem_append.mp ht with ht | ht
      · exact hearly t ht
      · rw [List.mem_singleton.mp ht]
        omega
    · rw [MissesEnough, UInt16.not_le] at hcalm
      exact hcalm
    · rw [countMisses_entry]
      omega

theorem phase_ticked_suspect (hnow : now < 2 ^ 32) (hticks : ∀ t ∈ ticks, t ≤ now)
    (hsus : s.status = nodeSuspect)
    (hfirst : (ticks.find? fun t => s.entry.lastSeenMs.toNat + suspectMs ≤ t)
      = some s.suspectSinceMs.toNat)
    (hearly : ∀ t ∈ ticks, t < s.suspectSinceMs.toNat + downTimeoutMs.toNat)
    (hbox : s.boxId = hm.boxId) (leader : Bool) (beyond : Nat → UInt8) :
    Phase (ticks ++ [now]) now (tickedSlot hm leader (clock now) beyond s) := by
  have hexpired := timerExpired_iff hnow (hticks _ (List.mem_of_find?_eq_some hfirst))
  have hfirst' : ((ticks ++ [now]).find? fun t => s.entry.lastSeenMs.toNat + suspectMs ≤ t)
      = some s.suspectSinceMs.toNat := by
    rw [List.find?_append, hfirst, Option.some_or]
  have hup : s.status ≠ nodeUp := hsus ▸ nodeUp_ne_nodeSuspect.symm
  by_cases hlate : s.suspectSinceMs.toNat + downTimeoutMs.toNat ≤ now
  · rw [tickedSlot_of_expired hsus (hexpired.mpr hlate) fun _ => corroborated_local hbox beyond _]
    refine .down s.suspectSinceMs.toNat now rfl ?_ (by simp) hlate
    simpa only [Slot.withStatus, countMisses_entry] using hfirst'
  · rw [tickedSlot_of_neither (fun h => hup h.1) fun h => hlate (hexpired.mp h.2.1)]
    refine .suspect ?_ ?_ fun t ht => ?_
    · rw [Slot.status, countMisses_entry]
      exact hsus
    · rw [countMisses_entry, countMisses_suspectSinceMs]
      exact hfirst'
    · rw [countMisses_suspectSinceMs]
      rcases List.mem_append.mp ht with ht | ht
      · exact hearly t ht
      · rw [List.mem_singleton.mp ht]
        omega

/-- An effective tick moves a slot as it moves the automaton, whoever leads. -/
theorem Phase.ticked (h : Phase ticks last s) (hnow : now < 2 ^ 32)
    (hseen : s.entry.lastSeenMs.toNat ≤ now) (hgap : now ≤ last + maxTickGapMs)
    (hticks : ∀ t ∈ ticks, t ≤ now) (hbox : s.boxId = hm.boxId) (leader : Bool)
    (beyond : Nat → UInt8) :
    Phase (ticks ++ [now]) now (tickedSlot hm leader (clock now) beyond s) := by
  cases h with
  | up hup hearly hmiss hlast =>
      exact phase_ticked_up hnow hseen hgap hticks hup hearly hmiss hlast leader beyond
  | suspect hsus hfirst hearly =>
      exact phase_ticked_suspect hnow hticks hsus hfirst hearly hbox leader beyond
  | down t₁ t₂ hdown hfirst ht₂ hle =>
      have hup : s.status ≠ nodeUp := hdown ▸ nodeDown_ne_nodeUp
      have hsus : s.status ≠ nodeSuspect := hdown ▸ nodeDown_ne_nodeSuspect
      rw [tickedSlot_of_neither (fun h => hup h.1) fun h => hsus h.1]
      refine .down t₁ t₂ ?_ ?_ (List.mem_append_left _ ht₂) hle
      · rw [Slot.status, countMisses_entry]
        exact hdown
      · rw [countMisses_entry, List.find?_append, hfirst, Option.some_or]

theorem phase_heard (hknown : Known s.status) (hnow : now < 2 ^ 32) (hticks : ∀ t ∈ ticks, t ≤ now)
    (hlast : last ≤ now) : Phase ticks last (heardSlot (clock now) s) := by
  have hsuspect : suspectMs = 30 := rfl
  refine .up (status_heardSlot hknown _) ?_ ?_ ?_
  · intro t ht
    have hle := hticks t ht
    rw [heardSlot_lastSeenMs, clock_toNat hnow]
    omega
  · rw [heardSlot_missCount]
    decide
  · rw [heardSlot_lastSeenMs, clock_toNat hnow]
    omega

theorem phase_announced (boxId nodeType : UInt8) (hnow : now < 2 ^ 32)
    (hticks : ∀ t ∈ ticks, t ≤ now) (hlast : last ≤ now) :
    Phase ticks last (announcedSlot boxId nodeType (clock now) s) := by
  have hsuspect : suspectMs = 30 := rfl
  have hseen : (announcedSlot boxId nodeType (clock now) s).entry.lastSeenMs.toNat = now :=
    clock_toNat hnow
  refine .up rfl (fun t ht => ?_) (by decide : (0 : UInt16) < suspectThreshold) ?_
  · have hle := hticks t ht
    rw [hseen]
    omega
  · rw [hseen]
    omega

/-- A tick that does not count moves nothing but the time of the last tick. -/
theorem Phase.retick (h : Phase ticks last s)
    (hnow : now ≤ s.entry.lastSeenMs.toNat + maxTickGapMs ∨ now = last) : Phase ticks now s := by
  cases h with
  | up hup hearly hmiss hlast =>
      refine .up hup hearly hmiss ?_
      rcases hnow with hnow | rfl
      · exact hnow
      · exact hlast
  | suspect hsus hfirst hearly => exact .suspect hsus hfirst hearly
  | down t₁ t₂ hdown hfirst ht₂ hle => exact .down t₁ t₂ hdown hfirst ht₂ hle

end

/-! ### The invariant along a run -/

/-- A slot holds the time its node was last heard, and stands where the automaton does. -/
structure Tracked (c : Setup) (pre : List MonitorOp) (nodeId : UInt8) (s : Slot) : Prop where
  box : s.boxId = c.boxId
  heard : lastHeard nodeId pre = some s.entry.lastSeenMs.toNat
  phase : Phase (effectiveTicks pre) (lastTick pre) s

structure AutomatonInv (c : Setup) (pre : List MonitorOp) : Prop where
  clocked : (c.reach pre).hm.lastTickMs.toNat = lastTick pre
  tracked : ∀ nodeId s, (c.reach pre).hm.lookup nodeId = some s → Tracked c pre nodeId s

theorem effectiveTicks_snoc (pre : List MonitorOp) (op : MonitorOp) :
    effectiveTicks (pre ++ [op]) = match op with
      | .tick now _ => effectiveTicks pre ++
          if (tickTimes pre).getLast?.any (· < now) then [now] else []
      | _ => effectiveTicks pre := by
  unfold effectiveTicks
  rw [tickTimes_snoc]
  cases op with
  | tick now beyond =>
      exact (increasesFrom_append none _ now).trans (by rw [Option.or_none])
  | announce | heartbeat | apply | observe | lead => exact congrArg _ (List.append_nil _)

theorem effectiveTicks_subset {pre : List MonitorOp} {t : Nat} (h : t ∈ effectiveTicks pre) :
    t ∈ times pre :=
  tickTimes_subset (increasesFrom_subset none h)

theorem lastTick_le {pre : List MonitorOp} {now : Nat} (h : ∀ t ∈ times pre, t ≤ now) :
    lastTick pre ≤ now := by
  unfold lastTick
  cases hlast : (tickTimes pre).getLast? with
  | none => exact Nat.zero_le _
  | some t => exact h t (tickTimes_subset (List.mem_of_getLast? hlast))

theorem lastHeard_mem {pre : List MonitorOp} {nodeId : UInt8} {t : Nat}
    (h : lastHeard nodeId pre = some t) : t ∈ times pre := by
  obtain ⟨op, hop, hheard⟩ := List.mem_filterMap.mp (List.mem_of_getLast? h)
  exact mem_times_of_heard hop hheard

/-- The monitor's own test for an effective tick is the one on the times of the ticks. -/
theorem AutomatonInv.ticks_iff {c : Setup} {pre : List MonitorOp} {now : Nat}
    {beyond : Nat → UInt8} (h : AutomatonInv c pre) (hstep : DetectorStep pre (.tick now beyond)) :
    (c.reach pre).hm.Ticks (clock now) ↔ (tickTimes pre).getLast?.any (· < now) = true := by
  have hclocked := h.clocked
  obtain ⟨hpos, hnow⟩ := hstep.range now rfl
  rw [HealthMonitor.Ticks, ne_eq, ne_eq, ← UInt32.toNat_inj, ← UInt32.toNat_inj, hclocked,
    clock_toNat hnow]
  unfold lastTick
  cases hlast : (tickTimes pre).getLast? with
  | none => simp
  | some t =>
      have hmem := tickTimes_subset (List.mem_of_getLast? hlast)
      have hle := hstep.after now rfl t hmem
      have hpos := (hstep.earlier t hmem).1
      simp only [Option.getD_some, Option.any_some, decide_eq_true_eq]
      show ¬t = 0 ∧ ¬now = t ↔ t < now
      omega

theorem DetectorStep.gap {pre : List MonitorOp} {now last : Nat} {beyond : Nat → UInt8}
    (h : DetectorStep pre (.tick now beyond)) (hlast : (tickTimes pre).getLast? = some last) :
    now ≤ last + maxTickGapMs := by
  have hmem := List.mem_of_getLast? hlast
  have htick : lastTick pre = last := by rw [lastTick, hlast, Option.getD_some]
  rcases h.inTime now rfl with hnil | ⟨t, ht, hle⟩
  · have hbad := tickTimes_subset hmem
    rw [hnil] at hbad
    cases hbad
  · refine hle.trans (Nat.add_le_add_right ?_ _)
    rcases List.mem_append.mp ht with hfirst | htick'
    · exact head_times_le h.ordered (Option.mem_toList.mp hfirst) (tickTimes_subset hmem)
    · exact htick ▸ tickTimes_le_lastTick h.ordered htick'

theorem DetectorStep.first_gap {pre : List MonitorOp} {now heard : Nat} {beyond : Nat → UInt8}
    (h : DetectorStep pre (.tick now beyond)) (hnone : tickTimes pre = []) (hheard : heard ∈ times pre) :
    now ≤ heard + maxTickGapMs := by
  rcases h.inTime now rfl with hnil | ⟨t, ht, hle⟩
  · rw [hnil] at hheard
    cases hheard
  · rw [hnone, List.append_nil] at ht
    have hfirst := head_times_le h.ordered (Option.mem_toList.mp ht) hheard
    omega

theorem AutomatonInv.tracked_tick {c : Setup} {pre : List MonitorOp} {now : Nat}
    {beyond : Nat → UInt8} (h : AutomatonInv c pre) (hstep : DetectorStep pre (.tick now beyond))
    {nodeId : UInt8} {s : Slot}
    (hs : (c.reach (pre ++ [.tick now beyond])).hm.lookup nodeId = some s) :
    Tracked c (pre ++ [.tick now beyond]) nodeId s := by
  have hticks := h.ticks_iff hstep
  have hafter := hstep.after now rfl
  rw [c.reach_snoc, MonitorState.step_lookup] at hs
  dsimp only at hs
  by_cases heffective : (c.reach pre).hm.Ticks (clock now)
  · rw [if_pos heffective] at hs
    obtain ⟨old, hold, rfl⟩ := Option.map_eq_some_iff.mp hs
    obtain ⟨hbox, hheard, hphase⟩ := h.tracked nodeId old hold
    obtain ⟨last, hlast, -⟩ := (Option.any_eq_true _ _).mp (hticks.mp heffective)
    have hgap : now ≤ lastTick pre + maxTickGapMs := by
      rw [lastTick, hlast]
      exact hstep.gap hlast
    refine ⟨(tickedSlot_boxId _ _ _ _ _).trans hbox, ?_, ?_⟩
    · rw [lastHeard_snoc, tickedSlot_lastSeenMs]
      exact hheard
    · rw [effectiveTicks_snoc, lastTick_snoc]
      dsimp only
      rw [if_pos (hticks.mp heffective)]
      exact hphase.ticked (hstep.range now rfl).2 (hafter _ (lastHeard_mem hheard)) hgap
        (fun t ht => hafter t (effectiveTicks_subset ht)) (hbox.trans (c.reach_boxId pre).symm) _ _
  · rw [if_neg heffective] at hs
    obtain ⟨hbox, hheard, hphase⟩ := h.tracked nodeId s hs
    refine ⟨hbox, ?_, ?_⟩
    · rw [lastHeard_snoc]
      exact hheard
    · rw [effectiveTicks_snoc, lastTick_snoc]
      dsimp only
      rw [if_neg fun hbad => heffective (hticks.mpr hbad), List.append_nil]
      refine hphase.retick ?_
      cases hlast : (tickTimes pre).getLast? with
      | none =>
          exact .inl (hstep.first_gap (List.getLast?_eq_none_iff.mp hlast) (lastHeard_mem hheard))
      | some last =>
          have hle := hafter last (tickTimes_subset (List.mem_of_getLast? hlast))
          have hnot : ¬last < now := fun hlt =>
            heffective (hticks.mpr (by simp [hlast, hlt]))
          right
          rw [lastTick, hlast, Option.getD_some]
          omega

theorem AutomatonInv.tracked_other {c : Setup} {pre : List MonitorOp} {op : MonitorOp}
    (h : AutomatonInv c pre) (hstep : DetectorStep pre op)
    (hno : ∀ now beyond, op ≠ .tick now beyond) {nodeId : UInt8} {s : Slot}
    (hs : (c.reach (pre ++ [op])).hm.lookup nodeId = some s) :
    Tracked c (pre ++ [op]) nodeId s := by
  have hsame : effectiveTicks (pre ++ [op]) = effectiveTicks pre ∧
      lastTick (pre ++ [op]) = lastTick pre := by
    rw [effectiveTicks_snoc, lastTick_snoc]
    cases op with
    | tick now beyond => exact absurd rfl (hno now beyond)
    | announce | heartbeat | apply | observe | lead => exact ⟨rfl, rfl⟩
  rw [c.reach_snoc] at hs
  cases MonitorState.slotStep hs with
  | kept hother hold =>
      obtain ⟨hbox, hheard, hphase⟩ := h.tracked nodeId s hold
      have hunheard : op.heard? nodeId = none := by
        cases op with
        | announce | heartbeat => exact if_neg hother
        | tick | apply | observe | lead => rfl
      refine ⟨hbox, ?_, ?_⟩
      · rw [lastHeard_snoc, hunheard]
        exact hheard
      · rw [hsame.1, hsame.2]
        exact hphase
  | announced ann now =>
      have hnow := (hstep.range now rfl).2
      have hafter := hstep.after now rfl
      refine ⟨c.reach_boxId pre, ?_, ?_⟩
      · rw [lastHeard_snoc, MonitorOp.heard?, if_pos rfl]
        exact congrArg some (clock_toNat hnow).symm
      · rw [hsame.1, hsame.2]
        exact phase_announced _ _ hnow (fun t ht => hafter t (effectiveTicks_subset ht))
          (lastTick_le hafter)
  | heard hb now hold =>
      obtain ⟨hbox, hheard, hphase⟩ := h.tracked nodeId _ hold
      have hnow := (hstep.range now rfl).2
      have hafter := hstep.after now rfl
      refine ⟨?_, ?_, ?_⟩
      · rw [heardSlot_boxId]
        exact hbox
      · rw [lastHeard_snoc, MonitorOp.heard?, if_pos rfl, heardSlot_lastSeenMs, clock_toNat hnow]
        rfl
      · rw [hsame.1, hsame.2]
        exact phase_heard hphase.known hnow (fun t ht => hafter t (effectiveTicks_subset ht))
          (lastTick_le hafter)
  | ticked now beyond => exact absurd rfl (hno now beyond)
  | committed t => rcases hstep.noCommit with hbad | hbad <;> cases hbad

theorem AutomatonInv.step {c : Setup} {pre : List MonitorOp} {op : MonitorOp}
    (h : AutomatonInv c pre) (hstep : DetectorStep pre op) : AutomatonInv c (pre ++ [op]) where
  clocked := by
    rw [c.reach_snoc, MonitorState.step_lastTickMs, lastTick_snoc]
    cases op with
    | tick now beyond => exact clock_toNat (hstep.range now rfl).2
    | announce | heartbeat | apply | observe | lead => exact h.clocked
  tracked nodeId s hs := by
    cases op with
    | tick now beyond => exact h.tracked_tick hstep hs
    | announce | heartbeat | apply | observe | lead =>
        exact h.tracked_other hstep (fun _ _ hbad => by cases hbad) hs

/-! ### Leadership does not matter

Without commits every entry comes from an announcement, so it belongs to the monitor's own box and a
tick treats it alike on a leader and on a follower. -/

/-- Every entry belongs to the monitor's own box. -/
def HealthMonitor.AllLocal (hm : HealthMonitor) : Prop := ∀ s ∈ hm.slots, s.boxId = hm.boxId

theorem tickedSlot_of_local {hm : HealthMonitor} {s : Slot} (hbox : s.boxId = hm.boxId)
    (leader leader' : Bool) (nowMs : UInt32) (beyond : Nat → UInt8) :
    tickedSlot hm leader nowMs beyond s = tickedSlot hm leader' nowMs beyond s := by
  have hcorr := corroborated_local hbox beyond nowMs
  unfold tickedSlot
  simp only [hcorr, implies_true, and_true]

theorem HealthMonitor.AllLocal.heard {hm : HealthMonitor} (h : hm.AllLocal) (srcNode : UInt8)
    (nowMs : UInt32) : (heardMonitor hm srcNode nowMs).AllLocal := by
  intro s hs
  rw [heardMonitor_boxId]
  rcases mem_heardMonitor hs with hold | ⟨old, hold, rfl⟩
  · exact h s hold
  · rw [heardSlot_boxId]
    exact h old hold

/-- Two nodes with one table, all of it their own box's. -/
def SameLocalTable (s t : MonitorState) : Prop := s.hm = t.hm ∧ s.hm.AllLocal

/-- The same operation on two nodes with one table, whoever leads, leaves them with one table. -/
theorem SameLocalTable.step {s t : MonitorState} {op : MonitorOp} (h : SameLocalTable s t)
    (hop : op.isLocal ∨ op.isLead) : SameLocalTable (s.step op) (t.step op) := by
  obtain ⟨hsame, hlocal⟩ := h
  rw [SameLocalTable, MonitorState.step_hm, MonitorState.step_hm]
  cases op with
  | announce srcNode ann now =>
      simp only [MonitorState.nextMonitor, hsame, true_and]
      intro slot hslot
      rw [HealthMonitor.update_boxId]
      rcases mem_update hslot with hslot | ⟨old, -, rfl⟩
      · exact hsame ▸ hlocal slot (hsame ▸ hslot)
      · rfl
  | heartbeat srcNode hb now =>
      simp only [MonitorState.nextMonitor, hsame, true_and]
      exact (hsame ▸ hlocal).heard srcNode (clock now)
  | tick now beyond =>
      have hslots : s.hm.slots.map (tickedSlot s.hm s.port.leader (clock now) beyond)
          = s.hm.slots.map (tickedSlot s.hm t.port.leader (clock now) beyond) :=
        List.map_congr_left fun slot hslot => tickedSlot_of_local (hlocal slot hslot) _ _ _ _
      simp only [MonitorState.nextMonitor, tickedMonitor, ← hsame, hslots, true_and]
      intro slot hslot
      rcases mem_tickedMonitor hslot with hold | ⟨old, hold, rfl⟩
      · exact hlocal slot hold
      · exact (tickedSlot_boxId _ _ _ _ _).trans (hlocal old hold)
  | lead leader term => exact ⟨hsame, hlocal⟩
  | apply | observe => rcases hop with hbad | hbad <;> cases hbad

theorem SameLocalTable.lead_step {s t : MonitorState} {op : MonitorOp} (h : SameLocalTable s t)
    (hlead : op.isLead = true) : SameLocalTable (s.step op) t := by
  cases op with
  | lead => exact h
  | announce | heartbeat | tick | apply | observe => cases hlead

/-- A run without its changes of leadership. -/
def withoutLead (ops : List MonitorOp) : List MonitorOp := ops.filter fun op => !op.isLead

theorem purge_lead (s : MonitorState) (ops : List MonitorOp) :
    purge MonitorState.step (fun _ op => op.isLead) s ops = withoutLead ops := by
  induction ops generalizing s with
  | nil => rfl
  | cons op ops ih =>
      rw [purge, ih]
      cases hlead : op.isLead <;> simp [withoutLead, hlead]

/-- Changes of leadership, the term and the results of proposals leave no trace in the table. -/
theorem reach_withoutLead {c c' : Setup} (htransport : c'.transport = c.transport)
    (hbox : c'.boxId = c.boxId) {ops : List MonitorOp}
    (hops : ∀ op ∈ ops, op.isLocal ∨ op.isLead) :
    (c.reach ops).hm = (c'.reach (withoutLead ops)).hm := by
  have hinit : SameLocalTable c.init c'.init := by
    refine ⟨?_, fun s hs => by cases hs⟩
    simp only [Setup.init, htransport, hbox]
  have hrun := run_purge MonitorState.step (fun _ _ _ _ hsame => hsame.lead_step)
    (fun _ _ _ hop hsame => SameLocalTable.step hsame hop) hops hinit
  rw [purge_lead] at hrun
  exact hrun.1

/-- Without commits, after every operation each registered node has the status that the automaton gives
for the time it was last heard and the effective ticks of the run; and a run with the same
announcements, heartbeats and ticks leaves the same table, whoever leads in it and whatever its
proposals return. -/
theorem detector_refines_automaton (c : Setup) {ops : List MonitorOp} (h : DetectorRun ops) :
    ∀ pre, pre <+: ops →
      (∀ nodeId s, (c.reach pre).hm.lookup nodeId = some s →
        ∃ heard, lastHeard nodeId pre = some heard ∧
          s.status = automatonStatus heard (effectiveTicks pre)) ∧
      ∀ (c' : Setup) (pre' : List MonitorOp), c'.transport = c.transport → c'.boxId = c.boxId →
        withoutLead pre' = withoutLead pre → (c'.reach pre').hm = (c.reach pre).hm := by
  intro pre hpre
  have hinv : AutomatonInv c pre := (h.throughout.of_initial hpre).induction (I := AutomatonInv c)
    ⟨rfl, fun _ _ hs => by cases hs⟩ fun pre op hinv hstep => hinv.step hstep
  have hops : ∀ op ∈ pre, op.isLocal ∨ op.isLead := fun op hop =>
    h.noCommit op (hpre.subset hop)
  refine ⟨fun nodeId s hs => ?_, fun c' pre' htransport hbox hsame => ?_⟩
  · obtain ⟨-, hheard, hphase⟩ := hinv.tracked nodeId s hs
    exact ⟨_, hheard, hphase.status_eq⟩
  · have hops' : ∀ op ∈ pre', op.isLocal ∨ op.isLead := by
      intro op hop
      cases hlead : op.isLead with
      | true => exact .inr rfl
      | false =>
          have hmem : op ∈ withoutLead pre := hsame ▸ List.mem_filter.mpr ⟨hop, by simp [hlead]⟩
          simpa [hlead] using hops op (List.mem_of_mem_filter hmem)
    rw [reach_withoutLead htransport.symm hbox.symm hops', hsame,
      reach_withoutLead rfl rfl hops]

/-- A node that falls silent at 10 ms, on an oracle that gains and loses leadership. -/
def unstableRun : List MonitorOp :=
  [.announce 5 ⟨2⟩ 10, .tick 20 zeros, .lead true 2, .tick 40 zeros, .lead false 3,
    .tick 90 zeros]

theorem detector_refines_automaton_unstableRun :
    lastHeard 5 unstableRun = some 10 ∧ effectiveTicks unstableRun = [40, 90] ∧
      ∃ s, (followerOfBox1.reach unstableRun).hm.lookup 5 = some s ∧ s.status = nodeDown ∧
        s.status = automatonStatus 10 (effectiveTicks unstableRun) := by
  have hrun : DetectorRun unstableRun := by
    refine ⟨?_, ?_, ?_, ?_⟩
    all_goals decide +kernel
  have hslot : ∃ s ∈ (followerOfBox1.reach unstableRun).hm.lookup 5, s.status = nodeDown := by
    decide +kernel
  obtain ⟨s, hs, hdown⟩ := hslot
  obtain ⟨heard, hheard, hstatus⟩ :=
    (detector_refines_automaton followerOfBox1 hrun unstableRun (List.prefix_refl _)).1 5 s hs
  obtain rfl : 10 = heard := Option.some.inj hheard
  exact ⟨rfl, by decide, s, hs, hdown, hstatus⟩

end L2Oracle
