import L2Oracle.Health.Agreement

/-!
# The two tasks and their clocks

The raft task and the health task share the monitor. The raft task stamps a row of the corroboration
matrix with the time at which it dispatches a response. The health task takes the time at the top of its
loop and waits for a message; if one comes it takes the time again, and if none comes it ticks with the
time it took before it waited. `corroborated` subtracts the stamp from the tick's time as 32-bit words,
so a row that was stamped after the tick's time was taken looks `2^32` ms old.

A run here is any interleaving of the steps of both tasks and of the passing of time. The health task
may be held up between its sample and its tick for as long as the clock can tell the two apart.
-/

namespace L2Oracle

open Base

inductive HealthTask where
  | idle
  | waiting (sample : Nat)
  | ready (sample : Nat)
deriving DecidableEq, Repr

def HealthTask.sample? : HealthTask → Option Nat
  | idle => none
  | waiting sample | ready sample => some sample

structure TaskSetup where
  monitor : Setup
  start : Nat
  /-- The longest time from a sample to its tick: `HB_INTERVAL_MS` on the queue, and what the scheduler
  adds. -/
  delay : Nat
  delay_lt : delay + staleObsMs.toNat < 2 ^ 32

/-- The time, the health task, and the calls of the monitor that the tasks have made, oldest first. -/
structure Tasks where
  time : Nat
  health : HealthTask
  ops : List MonitorOp

inductive TaskEvent where
  | pass (ms : Nat)
  | dispatch (peer : UInt8) (obs : List ObservationEntry)
  | commit (t : Transition)
  | lead (leader : Bool) (term : UInt32)
  /-- The health task takes the time at the top of its loop and waits. -/
  | sample
  | timeout
  /-- The wait ends with a heartbeat, an announcement or a message that is neither. -/
  | heartbeat (srcNode : UInt8) (hb : PayloadNodeHeartbeat)
  | announce (srcNode : UInt8) (ann : PayloadNodeAnnounce)
  | skip
  | tick (beyond : Nat → UInt8)

/-- An event that the tasks are not ready for does nothing. -/
def TaskSetup.step (c : TaskSetup) (s : Tasks) : TaskEvent → Tasks
  | .pass ms =>
      if ∀ sample ∈ s.health.sample?, s.time + ms ≤ sample + c.delay then
        { s with time := s.time + ms } else s
  | .dispatch peer obs => { s with ops := s.ops ++ [.observe peer obs s.time] }
  | .commit t => { s with ops := s.ops ++ [.apply t] }
  | .lead leader term => { s with ops := s.ops ++ [.lead leader term] }
  | .sample => if s.health = .idle then { s with health := .waiting s.time } else s
  | .timeout =>
      match s.health with
      | .waiting sample => { s with health := .ready sample }
      | .idle | .ready _ => s
  | .heartbeat srcNode hb =>
      match s.health with
      | .waiting _ =>
          { s with health := .ready s.time, ops := s.ops ++ [.heartbeat srcNode hb s.time] }
      | .idle | .ready _ => s
  | .announce srcNode ann =>
      match s.health with
      | .waiting _ =>
          { s with health := .ready s.time, ops := s.ops ++ [.announce srcNode ann s.time] }
      | .idle | .ready _ => s
  | .skip =>
      match s.health with
      | .waiting _ => { s with health := .ready s.time }
      | .idle | .ready _ => s
  | .tick beyond =>
      match s.health with
      | .ready sample => { s with health := .idle, ops := s.ops ++ [.tick sample beyond] }
      | .idle | .waiting _ => s

def TaskSetup.reach (c : TaskSetup) (es : List TaskEvent) : Tasks :=
  run c.step ⟨c.start, .idle, []⟩ es

@[simp] theorem TaskSetup.reach_snoc (c : TaskSetup) (es : List TaskEvent) (e : TaskEvent) :
    c.reach (es ++ [e]) = c.step (c.reach es) e := by
  simp [reach]

def TaskSetup.hm (c : TaskSetup) (es : List TaskEvent) : HealthMonitor :=
  (c.monitor.reach (c.reach es).ops).hm

def HealthMonitor.TreatsAsFresh (hm : HealthMonitor) (nowMs : UInt32) (p : Nat) : Prop :=
  ¬nowMs - hm.corroboration.updatedMs p > staleObsMs

/-- When the health task ticks, every peer whose observations were recorded in the last
`STALE_OBS_MS` is treated as fresh. -/
def RecentCounts (c : TaskSetup) (pre : List TaskEvent) : TaskEvent → Prop
  | .tick _ => ∀ sample, (c.reach pre).health = .ready sample → ∀ p < oracleMaxNodes,
      ∀ recorded ∈ lastResponse p (c.reach pre).ops,
        (c.reach pre).time ≤ recorded + staleObsMs.toNat →
          (c.hm pre).TreatsAsFresh (clock sample) p
  | _ => True

/-- When the health task ticks, none of these observations was recorded after it took its time. -/
def SampledLast (c : TaskSetup) (pre : List TaskEvent) : TaskEvent → Prop
  | .tick _ => ∀ sample, (c.reach pre).health = .ready sample → ∀ p < oracleMaxNodes,
      ∀ recorded ∈ lastResponse p (c.reach pre).ops,
        (c.reach pre).time ≤ recorded + staleObsMs.toNat → recorded ≤ sample
  | _ => True

/-! ### The clocks -/

/-- A sample is not in the future and not older than the longest delay, and no stamp is in the future. -/
structure Tasks.Clocks (s : Tasks) (delay : Nat) : Prop where
  sampled : ∀ sample ∈ s.health.sample?, sample ≤ s.time ∧ s.time ≤ sample + delay
  stamped : ∀ p, ∀ recorded ∈ lastResponse p s.ops, recorded ≤ s.time

theorem lastResponse_le_snoc {ops : List MonitorOp} {time : Nat}
    (h : ∀ p, ∀ recorded ∈ lastResponse p ops, recorded ≤ time) {op : MonitorOp}
    (hop : ∀ peer obs now, op = .observe peer obs now → now ≤ time) :
    ∀ p, ∀ recorded ∈ lastResponse p (ops ++ [op]), recorded ≤ time := by
  intro p recorded hrecorded
  cases op with
  | observe peer obs now =>
      rw [lastResponse_observe] at hrecorded
      split at hrecorded
      · rw [← Option.some.inj hrecorded]
        exact hop peer obs now rfl
      · exact h p recorded hrecorded
  | announce | heartbeat | tick | apply | lead =>
      rw [lastResponse_of_ne_observe (by simp)] at hrecorded
      exact h p recorded hrecorded

theorem clocks_start (c : TaskSetup) : (c.reach []).Clocks c.delay :=
  ⟨fun _ h => (nomatch h), fun _ _ h => (nomatch h)⟩

theorem Tasks.Clocks.step {c : TaskSetup} {s : Tasks} (h : s.Clocks c.delay) (e : TaskEvent) :
    (c.step s e).Clocks c.delay := by
  obtain ⟨hsampled, hstamped⟩ := h
  -- the time that a task takes now is good until the longest delay has passed
  have hnow : ∀ sample ∈ (some s.time : Option Nat), sample ≤ s.time ∧ s.time ≤ sample + c.delay := by
    intro sample hsample
    obtain rfl := Option.some.inj hsample
    omega
  have hother {op : MonitorOp} (hop : ∀ peer obs now, op ≠ .observe peer obs now) :
      ∀ p, ∀ recorded ∈ lastResponse p (s.ops ++ [op]), recorded ≤ s.time :=
    lastResponse_le_snoc hstamped fun peer obs now heq => absurd heq (hop peer obs now)
  cases e with
  | pass ms =>
      simp only [TaskSetup.step]
      split
      · rename_i hallowed
        refine ⟨fun sample hsample => ?_, fun p recorded hrecorded => ?_⟩
        · exact ⟨Nat.le_add_right_of_le (hsampled sample hsample).1, hallowed sample hsample⟩
        · exact Nat.le_add_right_of_le (hstamped p recorded hrecorded)
      · exact ⟨hsampled, hstamped⟩
  | dispatch peer obs =>
      refine ⟨hsampled, lastResponse_le_snoc hstamped fun _ _ now heq => ?_⟩
      exact (MonitorOp.observe.inj heq).2.2.symm.le
  | commit t => exact ⟨hsampled, hother (by simp)⟩
  | lead leader term => exact ⟨hsampled, hother (by simp)⟩
  | sample =>
      simp only [TaskSetup.step]
      split
      · exact ⟨hnow, hstamped⟩
      · exact ⟨hsampled, hstamped⟩
  | timeout =>
      simp only [TaskSetup.step]
      split
      · rename_i sample hwaiting
        exact ⟨by rw [hwaiting] at hsampled; exact hsampled, hstamped⟩
      · exact ⟨hsampled, hstamped⟩
      · exact ⟨hsampled, hstamped⟩
  | heartbeat srcNode hb =>
      simp only [TaskSetup.step]
      split
      · exact ⟨hnow, hother (by simp)⟩
      · exact ⟨hsampled, hstamped⟩
      · exact ⟨hsampled, hstamped⟩
  | announce srcNode ann =>
      simp only [TaskSetup.step]
      split
      · exact ⟨hnow, hother (by simp)⟩
      · exact ⟨hsampled, hstamped⟩
      · exact ⟨hsampled, hstamped⟩
  | skip =>
      simp only [TaskSetup.step]
      split
      · exact ⟨hnow, hstamped⟩
      · exact ⟨hsampled, hstamped⟩
      · exact ⟨hsampled, hstamped⟩
  | tick beyond =>
      simp only [TaskSetup.step]
      split
      · exact ⟨fun _ h => (nomatch h), hother (by simp)⟩
      · exact ⟨hsampled, hstamped⟩
      · exact ⟨hsampled, hstamped⟩

theorem TaskSetup.clocks (c : TaskSetup) (es : List TaskEvent) : (c.reach es).Clocks c.delay := by
  induction es using List.reverseRecOn with
  | nil => exact clocks_start c
  | append_singleton es e ih =>
      rw [reach_snoc]
      exact ih.step e

/-! ### The subtraction -/

/-- The difference of a time and a stamp is small exactly if the stamp was made before. -/
theorem clock_sub_le_iff {sample recorded time delay : Nat} (hdelay : delay + staleObsMs.toNat < 2 ^ 32)
    (hsample : sample ≤ time) (hheld : time ≤ sample + delay) (hrecorded : recorded ≤ time)
    (hrecent : time ≤ recorded + staleObsMs.toNat) :
    clock sample - clock recorded ≤ staleObsMs ↔ recorded ≤ sample := by
  have hstale : staleObsMs.toNat = 500 := rfl
  rw [UInt32.le_iff_toNat_le]
  constructor
  · intro hle
    by_contra hlater
    have hturn : (clock sample - clock recorded).toNat = 2 ^ 32 - (recorded - sample) := by
      rw [UInt32.toNat_sub, clock, clock, UInt32.toNat_ofNat', UInt32.toNat_ofNat']
      omega
    omega
  · intro hle
    rw [clock_sub_clock hle]
    omega

theorem treatsAsFresh_iff {c : TaskSetup} {pre : List TaskEvent} {sample : Nat}
    (hready : (c.reach pre).health = .ready sample) {p : Nat} (hp : p < oracleMaxNodes)
    {recorded : Nat} (hrecorded : recorded ∈ lastResponse p (c.reach pre).ops)
    (hrecent : (c.reach pre).time ≤ recorded + staleObsMs.toNat) :
    (c.hm pre).TreatsAsFresh (clock sample) p ↔ recorded ≤ sample := by
  obtain ⟨hsampled, hstamped⟩ := c.clocks pre
  obtain ⟨hsample, hheld⟩ := hsampled sample (by rw [hready]; rfl)
  have hrow := (c.monitor.matrixRecords (c.reach pre).ops hp (show 0 < maxHealthNodes by decide)).row
  rw [show lastResponse p (c.reach pre).ops = some recorded from hrecorded] at hrow
  rw [HealthMonitor.TreatsAsFresh, TaskSetup.hm, hrow, gt_iff_lt, UInt32.not_lt]
  exact clock_sub_le_iff c.delay_lt hsample hheld (hstamped p recorded hrecorded) hrecent

theorem recentCounts_iff (c : TaskSetup) (pre : List TaskEvent) (e : TaskEvent) :
    RecentCounts c pre e ↔ SampledLast c pre e := by
  cases e with
  | tick beyond =>
      refine forall₄_congr fun sample hready p hp => forall₃_congr fun recorded hrecorded hrecent => ?_
      exact treatsAsFresh_iff hready hp hrecorded hrecent
  | _ => exact Iff.rfl

/-- In every interleaving of the two tasks, every recent report counts in every tick exactly if none is
recorded between the sample of the health task and its tick. -/
theorem recent_counts_iff (c : TaskSetup) (es : List TaskEvent) :
    Throughout (RecentCounts c) es ↔ Throughout (SampledLast c) es :=
  throughout_congr (recentCounts_iff c)

/-- The health task of a leader, which ticks when its wait of `HB_INTERVAL_MS` is over. -/
def queueWait : TaskSetup where
  monitor := leaderOfBox1
  start := 0
  delay := hbIntervalMs.toNat
  delay_lt := by decide

/-- Node 7 of box 2 is SUSPECT. Two peers report it, the second while the health task waits for a
heartbeat that does not come. -/
def overtakenRun : List TaskEvent :=
  [.commit ⟨7, 2, nodeUp, nodeSuspect, 1⟩, .pass 100, .sample, .timeout, .tick zeros,
    .dispatch 2 [⟨7, nodeSuspect, 128⟩], .pass 10, .sample, .pass 1,
    .dispatch 3 [⟨7, nodeSuspect, 128⟩], .pass 9, .timeout, .tick zeros]

/-- The second report is 9 ms old and does not count, so node 7 stays SUSPECT. With a sample taken after
it, the tick would find it corroborated. -/
theorem recent_ignored_overtakenRun :
    (queueWait.hm overtakenRun.dropLast).Ticks (clock 110) ∧
      corroborated (queueWait.hm overtakenRun.dropLast) zeros 7 2 (clock 110) = false ∧
      corroborated (queueWait.hm overtakenRun.dropLast) zeros 7 2 (clock 111) = true ∧
      (queueWait.hm overtakenRun).statusOf 7 = nodeSuspect ∧
      ¬Throughout (RecentCounts queueWait) overtakenRun := by
  refine ⟨by decide +kernel, by decide +kernel, by decide +kernel, by decide +kernel, fun h => ?_⟩
  have htick := h overtakenRun.dropLast (.tick zeros) [] rfl
  have hfresh := htick 110 (by decide +kernel) 3 (by decide) 111 (by decide +kernel) (by decide +kernel)
  exact hfresh (by decide +kernel)

end L2Oracle
