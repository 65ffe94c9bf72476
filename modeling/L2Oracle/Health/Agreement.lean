import Mathlib.Data.Finset.Card
import L2Oracle.Health.Corroboration
import L2Oracle.Health.History

/-!
# How many observers it takes

Two STM32s that agree are meant to be enough to take a node of another box down: after the loss of one
of three boxes, the leader and the one other survivor. `corroborated` counts rows of the matrix, and no
row is the leader's own, so it takes two members besides the leader. Members are numbered from 1 and
rows from 0, so a report of member `ORACLE_MAX_NODES` is not counted either.

In every reachable state the matrix says what the history of responses says: a cell is the last report
of its node, and the time of a row the time of the last response. So the members that are counted are
found in the history. How long the leader has held a node as SUSPECT is found there too, and need not be
what `suspect_since_ms` says, which a committed SUSPECT does not set. A leader's tick proposes DOWN
exactly if the timer, wherever it was started, has run out and `CORROBORATION_K` members are counted.
-/

namespace L2Oracle

open Base

/-! ### The peers that are counted -/

/-- Peer `p` last reported the node as SUSPECT or worse, and its last response is fresh by the clock. -/
def Counted (pre : List MonitorOp) (node now p : Nat) : Prop :=
  (∃ report ∈ lastReport p node pre, nodeSuspect ≤ report.1) ∧
    ∃ time ∈ lastResponse p pre, clock now - clock time ≤ staleObsMs

instance (pre : List MonitorOp) (node now p : Nat) : Decidable (Counted pre node now p) :=
  inferInstanceAs (Decidable (_ ∧ _))

theorem peerAgrees_iff (c : Setup) (pre : List MonitorOp) {p now : Nat} {node : UInt8}
    (hp : p < oracleMaxNodes) (hnode : node.toNat < maxHealthNodes) (beyond : Nat → UInt8) :
    peerAgrees (c.reach pre).hm beyond node (clock now) p = true ↔ Counted pre node.toNat now p := by
  have hrecords := c.matrixRecords pre hp hnode
  have hinside : corroborationOffset p node.toNat < maxHealthNodes * oracleMaxNodes := by
    unfold corroborationOffset maxHealthNodes oracleMaxNodes at *
    omega
  unfold peerAgrees Counted
  simp only [if_pos hinside, hrecords.cell, hrecords.row]
  cases hreport : lastReport p node.toNat pre with
  | none =>
      have hzero : ¬nodeSuspect ≤ 0 := by decide
      simp [hzero]
  | some report =>
      obtain ⟨time, hresponse⟩ := Option.ne_none_iff_exists'.mp
        (hrecords.responded (by rw [hreport]; exact Option.some_ne_none report))
      simp [hresponse, and_comm]

/-! ### The tick of a leader -/

/-- The members of a cluster, with the node itself. -/
structure Members where
  ids : Finset UInt8
  self : UInt8
  mem_self : self ∈ ids
  three_le : 3 ≤ ids.card
  numbered : ∀ n ∈ ids, 1 ≤ n.toNat ∧ n.toNat ≤ oracleMaxNodes

/-- The table has shown the node as SUSPECT for at least `DOWN_TIMEOUT_MS`, where the `n`-th operation
happened at `moment n`: ever since some operation that lies as far back. -/
def HeldSuspect (c : Setup) (pre : List MonitorOp) (moment : Nat → Nat) (now : Nat) (node : UInt8) : Prop :=
  ∃ since < pre.length, moment since + downTimeoutMs.toNat ≤ now ∧
    ∀ n ≤ pre.length, since < n → (c.reach (pre.take n)).hm.statusOf node = nodeSuspect

/-- The leader has held another box's node as SUSPECT for long enough, and another member has reported it
as SUSPECT or worse in the last `STALE_OBS_MS`. -/
structure AgreedByTwo (m : Members) (c : Setup) (pre : List MonitorOp) (moment : Nat → Nat) (now : Nat)
    (node : UInt8) : Prop where
  column : node.toNat < maxHealthNodes
  remote : ∃ s ∈ (c.reach pre).hm.lookup node, s.boxId ≠ c.boxId
  held : HeldSuspect c pre moment now node
  reported : ∃ p ∈ m.ids, p ≠ m.self ∧ ∃ status time,
    lastReport p.toNat node.toNat pre = some (status, time) ∧ nodeSuspect ≤ status ∧ time ≤ now ∧
      now ≤ time + staleObsMs.toNat

/-- An effective tick of a leader proposes DOWN for every node that it and another member agree on. -/
def TwoSuffice (m : Members) (c : Setup) (moment : Nat → Nat) (pre : List MonitorOp) : MonitorOp → Prop
  | .tick now beyond => (c.reach pre).port.leader → (c.reach pre).hm.Ticks (clock now) →
      ∀ node, AgreedByTwo m c pre moment now node →
        ∃ call ∈ (c.reach pre).callsOf (.tick now beyond),
          call.1.targetNode = node ∧ call.1.newStatus = nodeDown
  | _ => True

/-- At an effective tick of a leader, the tick that started the timer of every such node, or the start of
the clock if none did, is `DOWN_TIMEOUT_MS` back by the clock, and `CORROBORATION_K` peers with a row are
counted. -/
def TimerAndRows (m : Members) (c : Setup) (moment : Nat → Nat) (pre : List MonitorOp) : MonitorOp → Prop
  | .tick now _ => (c.reach pre).port.leader → (c.reach pre).hm.Ticks (clock now) →
      ∀ node, AgreedByTwo m c pre moment now node →
        downTimeoutMs ≤ clock now - ((c.timerStart node pre).map clock).getD 0 ∧
          corroborationK ≤ (List.range oracleMaxNodes).countP fun p => Counted pre node.toNat now p
  | _ => True

/-- Since the last operation before a tick is among those before it, the node is SUSPECT at the tick. -/
theorem HeldSuspect.statusOf {c : Setup} {pre : List MonitorOp} {moment : Nat → Nat} {now : Nat}
    {node : UInt8} (h : HeldSuspect c pre moment now node) :
    (c.reach pre).hm.statusOf node = nodeSuspect := by
  obtain ⟨since, hsince, -, hheld⟩ := h
  have hlast := hheld pre.length (Nat.le_refl _) hsince
  rwa [List.take_length] at hlast

theorem corroborated_iff_counted (c : Setup) (pre : List MonitorOp) (now : Nat) {node box : UInt8}
    (hbox : box ≠ c.boxId) (hnode : node.toNat < maxHealthNodes) (beyond : Nat → UInt8) :
    corroborated (c.reach pre).hm beyond node box (clock now) = true ↔
      corroborationK ≤ (List.range oracleMaxNodes).countP fun p => Counted pre node.toNat now p := by
  have hcount : (List.range oracleMaxNodes).countP (peerAgrees (c.reach pre).hm beyond node (clock now))
      = (List.range oracleMaxNodes).countP fun p => Counted pre node.toNat now p := by
    refine List.countP_congr fun p hp => ?_
    rw [peerAgrees_iff c pre (List.mem_range.mp hp) hnode, decide_eq_true_eq]
  rw [corroborated, if_neg (by rwa [c.reach_boxId]), decide_eq_true_eq, hcount]

/-- For a SUSPECT node of another box, the tick of a leader proposes DOWN exactly if its timer has run out
and enough peers are counted. -/
theorem proposes_down_iff {c : Setup} {pre : List MonitorOp} {now : Nat} {beyond : Nat → UInt8}
    (hleader : (c.reach pre).port.leader) (hticks : (c.reach pre).hm.Ticks (clock now)) {node : UInt8}
    (hnode : node.toNat < maxHealthNodes) {s : Slot} (hs : (c.reach pre).hm.lookup node = some s)
    (hbox : s.boxId ≠ c.boxId) (hsuspect : s.status = nodeSuspect) :
    (∃ call ∈ (c.reach pre).callsOf (.tick now beyond),
        call.1.targetNode = node ∧ call.1.newStatus = nodeDown) ↔
      downTimeoutMs ≤ clock now - ((c.timerStart node pre).map clock).getD 0 ∧
        corroborationK ≤ (List.range oracleMaxNodes).countP fun p => Counted pre node.toNat now p := by
  have hid : s.nodeId = node := key_of_lookup hs
  rw [MonitorState.tick_proposes_iff (c.reach_nodup pre),
    ← corroborated_iff_counted c pre now hbox hnode beyond, ← c.suspectSince_eq pre hs]
  constructor
  · rintro ⟨-, slot, hslot, hprop⟩
    obtain rfl := Option.some.inj (hs.symm.trans hslot)
    rcases slotProposal_eq_some.mp hprop with ⟨hup, -⟩ | ⟨-, htimer, -, hcorr, -⟩
    · exact absurd (hup.symm.trans hsuspect) nodeUp_ne_nodeSuspect
    · exact ⟨htimer, by rwa [hid] at hcorr⟩
  · rintro ⟨htimer, hcorr⟩
    rw [← hid] at hcorr
    exact ⟨hticks, s, hs, slotProposal_eq_some.mpr (.inr ⟨hsuspect, htimer, hleader, hcorr, rfl⟩)⟩

theorem twoSuffice_iff (m : Members) (c : Setup) (moment : Nat → Nat) (pre : List MonitorOp)
    (op : MonitorOp) : TwoSuffice m c moment pre op ↔ TimerAndRows m c moment pre op := by
  cases op with
  | tick now beyond =>
      refine forall₄_congr fun hleader hticks node hagreed => ?_
      obtain ⟨s, hs, hbox⟩ := hagreed.remote
      have hsuspect := hagreed.held.statusOf
      rw [statusOf_eq hs] at hsuspect
      exact proposes_down_iff hleader hticks hagreed.column hs hbox hsuspect
  | announce | heartbeat | apply | observe | lead => exact Iff.rfl

/-- In every run of a member of a cluster, whenever its operations happened, every effective tick as a
leader takes down what the leader and one other member agree on exactly if each time the timer has run
out and two peers with a row are counted. -/
theorem two_suffice_iff (m : Members) (c : Setup) (moment : Nat → Nat) (ops : List MonitorOp) :
    Throughout (TwoSuffice m c moment) ops ↔ Throughout (TimerAndRows m c moment) ops :=
  throughout_congr (twoSuffice_iff m c moment)

def threeBoxes : Members where
  ids := {1, 2, 3}
  self := 1
  mem_self := by decide
  three_le := by decide
  numbered := by
    intro n hn
    simp only [Finset.mem_insert, Finset.mem_singleton] at hn
    rcases hn with rfl | rfl | rfl
    all_goals decide

/-- Box 2 is lost: the leader holds its node 7 as SUSPECT, and so does box 3. -/
def boxLossRun : List MonitorOp :=
  [.apply ⟨7, 2, nodeUp, nodeSuspect, 1⟩, .tick 1000 zeros, .observe 3 [⟨7, nodeSuspect, 128⟩] 1050,
    .tick 1060 zeros]

/-- The SUSPECT is committed 10 ms before the first tick. -/
def boxLossTimes (n : Nat) : Nat := [990, 1000, 1050, 1060].getD n 1060

/-- The two survivors agree, and nothing is proposed. -/
theorem not_two_suffice_boxLossRun :
    ¬Throughout (TwoSuffice threeBoxes leaderOfBox1 boxLossTimes) boxLossRun := by
  intro h
  have htick := h (boxLossRun.take 3) (.tick 1060 zeros) [] rfl
  have hslot : (leaderOfBox1.reach (boxLossRun.take 3)).hm.lookup 7
      = some ⟨⟨7, 2, 0, nodeSuspect, 0, 1⟩, 0, 0⟩ := by decide +kernel
  have hheld : HeldSuspect leaderOfBox1 (boxLossRun.take 3) boxLossTimes 1060 7 :=
    ⟨0, by decide, by decide, by decide +kernel⟩
  obtain ⟨call, hcall, -⟩ := htick (by decide +kernel) (by decide +kernel) 7
    ⟨by decide, ⟨_, hslot, by decide⟩, hheld,
      3, by decide, by decide, nodeSuspect, 1050, rfl, by decide, by decide, by decide⟩
  rw [show (leaderOfBox1.reach (boxLossRun.take 3)).callsOf (.tick 1060 zeros) = [] by
    decide +kernel] at hcall
  cases hcall

end L2Oracle
