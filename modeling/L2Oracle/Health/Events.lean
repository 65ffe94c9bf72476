import L2Oracle.Health.History

/-!
# Health events on commit

`health_table_apply` sends an event when the committed status differs from the status byte in the
table. The byte is not the committed status: `propose_transition` writes it when a transition is
proposed, a follower's tick writes DOWN into it, and a heartbeat or an announcement writes UP. So whether
a committed change is announced depends on what the monitor itself wrote into the entry since the commit
before, and only the last such write counts.
-/

namespace L2Oracle

open Base

/-- The health frames that an operation sends. -/
def healthFrames (s : MonitorState) (op : MonitorOp) : List Frame :=
  (s.framesOf op).filter fun f => f.ethertype = ethertypeHealth

/-- A transition that changes the committed status of its node is announced by one health frame with
its target, box, statuses and term, of type `MSG_FAILURE_EVENT` exactly for DOWN; any other committed
transition is not announced. -/
def AnnouncesChange (c : Setup) (pre : List MonitorOp) : MonitorOp → Prop
  | .apply t =>
      if t.newStatus = committedStatus t.targetNode pre then
        healthFrames (c.reach pre) (.apply t) = []
      else
        ∃ timestampMs, healthFrames (c.reach pre) (.apply t)
          = [healthEvent t.targetNode t.targetBox t.oldStatus t.newStatus t.term timestampMs]
  | _ => True

/-- A commit that changes the committed status of its node finds a transport and a slot, and the monitor
itself has not written the new status last since the commit before. For a commit that changes nothing, a
monitor with a transport has last written just the committed status, or nothing. -/
def WritesKeepCommit (c : Setup) (pre : List MonitorOp) : MonitorOp → Prop
  | .apply t =>
      if t.newStatus = committedStatus t.targetNode pre then
        c.transport → ∀ status ∈ c.ownWrite t.targetNode pre, status = t.newStatus
      else
        c.transport ∧ (c.reach pre).hm.HasRoom t.targetNode ∧
          t.newStatus ∉ c.ownWrite t.targetNode pre
  | _ => True

instance (c : Setup) (pre : List MonitorOp) : ∀ op, Decidable (WritesKeepCommit c pre op)
  | .apply _ => inferInstanceAs (Decidable (ite _ _ _))
  | .announce .. | .heartbeat .. | .tick .. | .observe .. | .lead .. =>
      inferInstanceAs (Decidable True)

theorem MonitorState.step_transport (s : MonitorState) (op : MonitorOp) :
    (s.step op).hm.transport = s.hm.transport := by
  rw [step_hm]
  cases op with
  | heartbeat srcNode hb now =>
      simp only [nextMonitor, heardMonitor]
      split <;> rfl
  | observe peer obs now =>
      simp only [nextMonitor, healthMonitorUpdateCorroboration]
      split
      · rfl
      · split <;> rfl
  | announce | tick | apply | lead => simp [nextMonitor, tickedMonitor]

theorem Setup.reach_transport (c : Setup) (ops : List MonitorOp) :
    (c.reach ops).hm.transport = c.transport := by
  induction ops using List.reverseRecOn with
  | nil => rfl
  | append_singleton ops op ih => rw [reach_snoc, MonitorState.step_transport, ih]

theorem healthFrames_apply (s : MonitorState) (t : Transition) :
    healthFrames s (.apply t)
      = if s.hm.HasRoom t.targetNode ∧ s.hm.statusOf t.targetNode ≠ t.newStatus ∧ s.hm.transport then
          [healthEvent t.targetNode t.targetBox t.oldStatus t.newStatus t.term
            (s.hm.slotOf t.targetNode t.targetBox).entry.lastSeenMs]
        else [] := by
  rw [healthFrames, MonitorState.framesOf_apply]
  split
  · simp [healthEvent]
  · rfl

theorem announcesChange_iff (c : Setup) (pre : List MonitorOp) (op : MonitorOp) :
    AnnouncesChange c pre op ↔ WritesKeepCommit c pre op := by
  cases op with
  | announce | heartbeat | tick | observe | lead => exact Iff.rfl
  | apply t =>
      simp only [AnnouncesChange, WritesKeepCommit, healthFrames_apply, c.reach_transport]
      by_cases hroom : (c.reach pre).hm.HasRoom t.targetNode
      · rw [c.statusOf_eq_ownWrite pre hroom]
        by_cases hsame : t.newStatus = committedStatus t.targetNode pre
        · cases c.ownWrite t.targetNode pre with
          | none => simp [← hsame]
          | some status => by_cases htransport : c.transport <;> simp [← hsame, hroom, htransport]
        · cases c.ownWrite t.targetNode pre with
          | none => by_cases htransport : c.transport <;> simp [hsame, hroom, htransport, Ne.symm hsame]
          | some status =>
              by_cases htransport : c.transport <;> by_cases hnew : status = t.newStatus <;>
                simp [hsame, hroom, htransport, hnew]
      · have hnone := c.ownWrite_of_lookup_none pre (lookup_of_not_hasRoom hroom)
        by_cases hsame : t.newStatus = committedStatus t.targetNode pre <;> simp [hsame, hroom, hnone]

/-- Along every run, each committed change is announced exactly once and nothing else is, if and only if
what the monitor itself wrote into the entries since their last commits is never in the way. -/
theorem announces_every_change_iff (c : Setup) (ops : List MonitorOp) :
    Throughout (AnnouncesChange c) ops ↔ Throughout (WritesKeepCommit c) ops :=
  throughout_congr (announcesChange_iff c)

/-- A follower with a transport and a free slot announces a transition of a node it has never heard
of, and the next one, as long as its own ticks have not touched the entry. -/
example : Throughout (WritesKeepCommit followerOfBox1)
    [.apply ⟨7, 2, nodeUp, nodeSuspect, 1⟩, .apply ⟨7, 2, nodeSuspect, nodeDown, 1⟩] := by
  decide +kernel

/-- A leader that proposes SUSPECT for its silent node and then applies it. -/
def proposerRun : List MonitorOp :=
  [.announce 5 ⟨2⟩ 10, .tick 20 zeros, .tick 40 zeros, .apply ⟨5, 1, nodeUp, nodeSuspect, 1⟩]

/-- The proposer wrote the status when it proposed, so its commit sends nothing. -/
theorem unannounced_proposerRun : ¬Throughout (AnnouncesChange leaderOfBox1) proposerRun := by
  intro h
  have hcommit := h (proposerRun.take 3) (.apply ⟨5, 1, nodeUp, nodeSuspect, 1⟩) [] rfl
  have hkeeps := (announcesChange_iff _ _ _).mp hcommit
  exact absurd hkeeps (by decide +kernel)

end L2Oracle
