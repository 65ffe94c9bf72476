import L2Oracle.Health.Run

/-!
# Failure states backed by the log

A failing status in the table ought to stand for a transition that Raft accepted. It need not:
`propose_transition` writes the status whatever the proposal returned, a tick on a node that does not
lead writes SUSPECT and DOWN with no accepted proposal at all, and a commit writes the status of an
old entry after the node has been UP again. None of the three is ever repaired, because later ticks
only look at the status, so a node that gains leadership afterwards holds a failing status that the
log never got.

These are the only three. As long as a run avoids them, every failing status of a local entry is
backed by an accepted proposal since the entry was last UP, whoever leads in between.
-/

namespace L2Oracle

open Base

/-- A proposal of the status for the node was accepted, and the node has not been UP since. -/
def AcceptedSinceUp (c : Setup) (ops : List MonitorOp) (nodeId status : UInt8) : Prop :=
  ∃ pre op post, ops = pre ++ op :: post ∧
    (∃ call ∈ (c.reach pre).callsOf op,
      call.1.targetNode = nodeId ∧ call.1.newStatus = status ∧ call.2 = 0) ∧
    ∀ done, done <+: post → (c.reach (pre ++ op :: done)).hm.statusOf nodeId ≠ nodeUp

/-- Every failing status of a local entry was accepted since the entry was last UP. -/
def Backed (c : Setup) (ops : List MonitorOp) : Prop :=
  ∀ nodeId, ∀ s ∈ (c.reach ops).hm.lookup nodeId, s.boxId = c.boxId → Failing s.status →
    AcceptedSinceUp c ops nodeId s.status

/-- After a tick on a leader, no failing status of a local entry lacks its accepted proposal. -/
def NoLostTransition (c : Setup) (pre : List MonitorOp) : MonitorOp → Prop
  | .tick now beyond => (c.reach pre).port.leader → Backed c (pre ++ [.tick now beyond])
  | _ => True

/-- The proposals of a tick for local nodes are accepted, a tick on a node that does not lead finds
no local suspicion timer expired, and a commit that gives a local entry another failing status gives
it one that was accepted since the entry was last UP. -/
def AvoidsUnbacked (c : Setup) (pre : List MonitorOp) : MonitorOp → Prop
  | .tick now beyond =>
      (∀ call ∈ (c.reach pre).callsOf (.tick now beyond),
        call.1.targetBox = c.boxId → call.2 = 0) ∧
      ((c.reach pre).port.leader = false → (c.reach pre).hm.Ticks (clock now) →
        ∀ s ∈ (c.reach pre).hm.slots, s.boxId = c.boxId → s.status = nodeSuspect →
          ¬TimerExpired (clock now) s)
  | .apply t =>
      ((c.reach pre).hm.slotOf t.targetNode t.targetBox).boxId = c.boxId → Failing t.newStatus →
        (c.reach pre).hm.statusOf t.targetNode ≠ t.newStatus →
          AcceptedSinceUp c pre t.targetNode t.newStatus
  | _ => True

instance (c : Setup) (pre : List MonitorOp) (now : Nat) (beyond : Nat → UInt8) :
    Decidable (AvoidsUnbacked c pre (.tick now beyond)) :=
  inferInstanceAs (Decidable (_ ∧ _))

/-- An accepted proposal still counts after an operation that does not leave the node UP. -/
theorem AcceptedSinceUp.snoc {c : Setup} {ops : List MonitorOp} {nodeId status : UInt8}
    (h : AcceptedSinceUp c ops nodeId status) (op : MonitorOp)
    (hup : (c.reach (ops ++ [op])).hm.statusOf nodeId ≠ nodeUp) :
    AcceptedSinceUp c (ops ++ [op]) nodeId status := by
  obtain ⟨pre, e, post, rfl, hcall, hsince⟩ := h
  refine ⟨pre, e, post ++ [op], by simp, hcall, fun done hdone => ?_⟩
  rcases List.prefix_concat_iff.mp hdone with rfl | hdone
  · simpa using hup
  · exact hsince done hdone

/-- A proposal accepted by the last operation counts if that operation does not leave the node UP. -/
theorem acceptedSinceUp_last {c : Setup} {pre : List MonitorOp} {op : MonitorOp}
    {nodeId status : UInt8} {call : Transition × Int} (hcall : call ∈ (c.reach pre).callsOf op)
    (hnode : call.1.targetNode = nodeId) (hnew : call.1.newStatus = status) (hok : call.2 = 0)
    (hup : (c.reach (pre ++ [op])).hm.statusOf nodeId ≠ nodeUp) :
    AcceptedSinceUp c (pre ++ [op]) nodeId status := by
  refine ⟨pre, op, [], rfl, ⟨call, hcall, hnode, hnew, hok⟩, fun done hdone => ?_⟩
  rw [List.prefix_nil.mp hdone]
  exact hup

/-- A local entry that a tick moves to a failing status is one the tick proposes it for, where
unled ticks find no expired timer. -/
theorem proposal_of_moved {c : Setup} {pre : List MonitorOp} {now : Nat} {beyond : Nat → UInt8}
    {s : Slot} (hticks : (c.reach pre).hm.Ticks (clock now)) (hs : s ∈ (c.reach pre).hm.slots)
    (hbox : s.boxId = c.boxId)
    (hunled : (c.reach pre).port.leader = false → s.status = nodeSuspect →
      ¬TimerExpired (clock now) s)
    (hmoved : (tickedSlot (c.reach pre).hm (c.reach pre).port.leader (clock now) beyond s).status
      ≠ s.status) :
    s.propose (tickedSlot (c.reach pre).hm (c.reach pre).port.leader (clock now) beyond s).status
      ∈ (c.reach pre).proposals (.tick now beyond) := by
  refine mem_tickProposals.mpr ⟨hticks, s, hs, slotProposal_eq_some.mpr ?_⟩
  rw [tickedSlot_status] at hmoved ⊢
  split_ifs at hmoved ⊢ with hup hdown
  · exact .inl ⟨hup.1, hup.2, rfl⟩
  · have hlocal : corroborated (c.reach pre).hm beyond s.nodeId s.boxId (clock now) = true := by
      rw [corroborated, if_pos (hbox.trans (c.reach_boxId pre).symm)]
    have hleader : (c.reach pre).port.leader = true := by
      by_contra hnot
      exact hunled (by simpa using hnot) hdown.1 hdown.2.1
    exact .inr ⟨hdown.1, hdown.2.1, hleader, hlocal, rfl⟩
  · exact absurd rfl hmoved

theorem Backed.tick {c : Setup} {pre : List MonitorOp} {now : Nat} {beyond : Nat → UInt8}
    (h : Backed c pre) (havoids : AvoidsUnbacked c pre (.tick now beyond)) :
    Backed c (pre ++ [.tick now beyond]) := by
  intro nodeId s hs hbox hfail
  have hup : (c.reach (pre ++ [.tick now beyond])).hm.statusOf nodeId ≠ nodeUp := by
    rw [statusOf_eq hs]
    exact failing_ne_up hfail
  rw [Setup.reach_snoc] at hs
  cases MonitorState.slotStep hs with
  | kept _ hold => exact (h nodeId s hold hbox hfail).snoc _ hup
  | @ticked _ _ old hticks hold =>
      rw [tickedSlot_boxId] at hbox
      by_cases hmoved : (tickedSlot (c.reach pre).hm (c.reach pre).port.leader (clock now) beyond
          old).status = old.status
      · rw [hmoved] at hfail ⊢
        exact (h nodeId old hold hbox hfail).snoc _ hup
      · have hslot := mem_of_lookup hold
        have hq := proposal_of_moved hticks hslot hbox
          (fun hleader => havoids.2 hleader hticks old hslot hbox) hmoved
        obtain ⟨n, hn⟩ := OraclePort.recorded_mem (p := (c.reach pre).port) hq
        rw [← MonitorState.callsOf_eq] at hn
        have hid : old.nodeId = nodeId := key_of_lookup hold
        exact acceptedSinceUp_last hn hid rfl (havoids.1 _ hn hbox) hup

theorem Backed.apply {c : Setup} {pre : List MonitorOp} {t : Transition} (h : Backed c pre)
    (havoids : AvoidsUnbacked c pre (.apply t)) : Backed c (pre ++ [.apply t]) := by
  intro nodeId s hs hbox hfail
  have hup : (c.reach (pre ++ [.apply t])).hm.statusOf nodeId ≠ nodeUp := by
    rw [statusOf_eq hs]
    exact failing_ne_up hfail
  refine AcceptedSinceUp.snoc ?_ _ hup
  rw [Setup.reach_snoc] at hs
  cases MonitorState.slotStep hs with
  | kept _ hold => exact h nodeId s hold hbox hfail
  | committed _ hid =>
      rw [← hid] at hbox ⊢
      by_cases hsame : (c.reach pre).hm.statusOf t.targetNode = t.newStatus
      · -- the entry had the status already, so it was registered and backed
        cases hlookup : (c.reach pre).hm.lookup t.targetNode with
        | none =>
            rw [HealthMonitor.statusOf, hlookup] at hsame
            exact absurd hsame.symm (failing_ne_up hfail)
        | some old =>
            rw [slotOf_eq hlookup] at hbox
            rw [statusOf_eq hlookup] at hsame
            have hback := h t.targetNode old hlookup hbox (by rw [hsame]; exact hfail)
            rwa [hsame] at hback
      · exact havoids hbox hfail hsame

theorem not_failing_up : ¬Failing nodeUp := by decide

theorem heardSlot_not_failing (nowMs : UInt32) (s : Slot) :
    ¬Failing (heardSlot nowMs s).status := by
  rw [heardSlot_status]
  split
  · exact not_failing_up
  · assumption

/-- A failing entry that an announcement or a heartbeat leaves is one that they did not touch. -/
theorem lookup_of_failing {s : MonitorState} {op : MonitorOp} {nodeId : UInt8} {slot : Slot}
    (htick : ∀ now beyond, op ≠ .tick now beyond) (happly : ∀ t, op ≠ .apply t)
    (hslot : (s.step op).hm.lookup nodeId = some slot) (hfail : Failing slot.status) :
    s.hm.lookup nodeId = some slot := by
  cases MonitorState.slotStep hslot with
  | kept _ hold => exact hold
  | announced => exact absurd hfail not_failing_up
  | heard hb now hold => exact absurd hfail (heardSlot_not_failing _ _)
  | ticked now beyond => exact absurd rfl (htick now beyond)
  | committed t => exact absurd rfl (happly t)

theorem Backed.step {c : Setup} {pre : List MonitorOp} {op : MonitorOp} (h : Backed c pre)
    (havoids : AvoidsUnbacked c pre op) : Backed c (pre ++ [op]) := by
  cases op with
  | tick now beyond => exact h.tick havoids
  | apply t => exact h.apply havoids
  | announce | heartbeat | observe | lead =>
      intro nodeId s hs hbox hfail
      refine AcceptedSinceUp.snoc ?_ _ (by rw [statusOf_eq hs]; exact failing_ne_up hfail)
      rw [Setup.reach_snoc] at hs
      exact h nodeId s (lookup_of_failing (by simp) (by simp) hs hfail) hbox hfail

/-- Whoever leads when, as long as a run avoids the three ways to an unbacked status, a tick on a
leader leaves every failing status of a local entry backed by a proposal accepted since the entry was
last UP. -/
theorem no_lost_transition {c : Setup} {ops : List MonitorOp}
    (h : Throughout (AvoidsUnbacked c) ops) : Throughout (NoLostTransition c) ops := by
  refine Throughout.of_invariant (I := Backed c) ?_ (fun pre op hinv => hinv.step) ?_ h
  · intro nodeId s hs
    cases hs
  · intro pre op hinv havoids
    cases op with
    | tick now beyond => exact fun _ => hinv.tick havoids
    | announce | heartbeat | apply | observe | lead => trivial

theorem no_lost_transition_silentRun :
    (leaderOfBox1.reach silentRun).hm.statusOf 5 = nodeDown ∧
      Throughout (NoLostTransition leaderOfBox1) silentRun := by
  refine ⟨by decide +kernel, no_lost_transition ((throughoutFrom_iff []).mp ?_)⟩
  refine ⟨trivial, by decide +kernel, by decide +kernel, fun _ _ hmoved => ?_, by decide +kernel,
    trivial⟩
  exact absurd (by decide +kernel) hmoved

/-- A follower calls its silent node DOWN, and only then gains leadership. -/
def promotedRun : List MonitorOp :=
  [.announce 5 ⟨2⟩ 10, .tick 20 zeros, .tick 40 zeros, .tick 90 zeros, .lead true 2, .tick 100 zeros]

/-- The new leader holds the node DOWN, and no proposal for it was ever accepted. -/
theorem lost_transition_promotedRun :
    ¬Throughout (NoLostTransition followerOfBox1) promotedRun := by
  intro h
  have htick := h (promotedRun.take 5) (.tick 100 zeros) [] rfl (by decide +kernel)
  have hentry : ((followerOfBox1.reach promotedRun).hm.lookup 5).map
      (fun s => (s.boxId, s.status)) = some (1, nodeDown) := by decide +kernel
  obtain ⟨s, hs, hfields⟩ := Option.map_eq_some_iff.mp hentry
  obtain ⟨hbox, hstatus⟩ := Prod.mk.inj hfields
  obtain ⟨pre, op, post, hsplit, ⟨call, hcall, -, -, hok⟩, -⟩ :=
    htick 5 s hs hbox (by rw [hstatus]; exact .inr rfl)
  have hall : ∀ call ∈ (followerOfBox1.reach promotedRun).port.calls, call.2 ≠ 0 := by
    decide +kernel
  refine hall call ?_ hok
  rw [show promotedRun = pre ++ op :: post from hsplit]
  exact followerOfBox1.mem_calls_of_callsOf hcall post

end L2Oracle
