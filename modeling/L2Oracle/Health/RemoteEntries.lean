import L2Oracle.Health.Run

/-!
# Ticks and the nodes of other boxes

`health_table_apply` puts nodes of other boxes into the table that `health_monitor_tick` runs its
state machine over, and the loop does not look at `box_id` before it counts misses. The entry of a
remote node is made with `last_seen_ms` and `suspect_since_ms` zero and nothing of this box ever
writes them, so a tick judges it by the time since the clock started. `sparesRemotes_iff` says which
ticks leave the remote entries alone, entry by entry, and the main theorem says it of every tick of
every run, together with what follows for the time between two commits.
-/

namespace L2Oracle

open Base

/-- The tick moves no entry of another box from UP to SUSPECT, in the table or by a proposal, and on
a node that does not lead it changes no status of such an entry. -/
def SparesRemotes (c : Setup) (pre : List MonitorOp) : MonitorOp → Prop
  | .tick now beyond =>
      ∀ nodeId, ∀ s ∈ (c.reach pre).hm.lookup nodeId, s.boxId ≠ c.boxId →
        (s.status = nodeUp →
          (c.reach (pre ++ [.tick now beyond])).hm.statusOf nodeId ≠ nodeSuspect ∧
          ∀ call ∈ (c.reach pre).callsOf (.tick now beyond),
            call.1.targetNode = nodeId → call.1.newStatus ≠ nodeSuspect) ∧
        ((c.reach pre).port.leader = false →
          (c.reach (pre ++ [.tick now beyond])).hm.statusOf nodeId = s.status)
  | _ => True

/-- The tick finds no UP entry of another box with enough missed heartbeats and, on a node that does
not lead, no SUSPECT one with an expired timer. -/
def FindsRemotesQuiet (c : Setup) (pre : List MonitorOp) : MonitorOp → Prop
  | .tick now _ =>
      (c.reach pre).hm.Ticks (clock now) →
        ∀ s ∈ (c.reach pre).hm.slots, s.boxId ≠ c.boxId →
          (s.status = nodeUp → ¬MissesEnough (clock now) s) ∧
          ((c.reach pre).port.leader = false → s.status = nodeSuspect →
            ¬TimerExpired (clock now) s)
  | _ => True

instance (c : Setup) (pre : List MonitorOp) : ∀ op, Decidable (FindsRemotesQuiet c pre op)
  | .tick .. => inferInstanceAs (Decidable (_ → _))
  | .announce .. | .heartbeat .. | .apply .. | .observe .. | .lead .. =>
      inferInstanceAs (Decidable True)

/-- After a committed transition of a node of another box, as long as the monitor does not lead and
the node is neither heard nor committed again, the table holds the committed status. -/
def KeepsCommitted (c : Setup) (ops : List MonitorOp) : Prop :=
  ∀ pre t between post, ops = pre ++ .apply t :: (between ++ post) →
    (∃ s ∈ (c.reach (pre ++ [.apply t])).hm.lookup t.targetNode, s.boxId ≠ c.boxId) →
    (∀ op ∈ between, ¬op.Names t.targetNode) →
    (∀ done, done <+: between → (c.reach (pre ++ .apply t :: done)).port.leader = false) →
      (c.reach (pre ++ .apply t :: between)).hm.statusOf t.targetNode = t.newStatus

theorem statusOf_step_tick {s : MonitorState} {now : Nat} {beyond : Nat → UInt8} {nodeId : UInt8}
    {slot : Slot} (h : s.hm.lookup nodeId = some slot) :
    (s.step (.tick now beyond)).hm.statusOf nodeId =
      if s.hm.Ticks (clock now) then
        (tickedSlot s.hm s.port.leader (clock now) beyond slot).status
      else slot.status := by
  have hlookup := s.step_lookup (.tick now beyond) nodeId
  rw [h] at hlookup
  dsimp only at hlookup
  split
  · rename_i hticks
    rw [if_pos hticks, Option.map_some] at hlookup
    exact statusOf_eq hlookup
  · rename_i hticks
    rw [if_neg hticks] at hlookup
    exact statusOf_eq hlookup

/-- A tick proposes SUSPECT for a node exactly if its entry is UP and missed enough. -/
theorem suspect_proposed_iff {c : Setup} {pre : List MonitorOp} {now : Nat} {beyond : Nat → UInt8}
    {nodeId : UInt8} {s : Slot} (h : (c.reach pre).hm.lookup nodeId = some s) :
    (∃ call ∈ (c.reach pre).callsOf (.tick now beyond),
        call.1.targetNode = nodeId ∧ call.1.newStatus = nodeSuspect) ↔
      (c.reach pre).hm.Ticks (clock now) ∧ s.status = nodeUp ∧ MissesEnough (clock now) s := by
  rw [MonitorState.tick_proposes_iff (c.reach_nodup pre)]
  refine and_congr_right fun _ => ⟨?_, ?_⟩
  · rintro ⟨slot, hslot, hprop⟩
    obtain rfl : slot = s := Option.some.inj (hslot.symm.trans h)
    rcases slotProposal_eq_some.mp hprop with ⟨hup, hmiss, -⟩ | ⟨-, -, -, -, hdown⟩
    · exact ⟨hup, hmiss⟩
    · exact absurd (congrArg Proposal.newStatus hdown).symm nodeDown_ne_nodeSuspect
  · rintro ⟨hup, hmiss⟩
    exact ⟨s, h, slotProposal_eq_some.mpr (.inl ⟨hup, hmiss, rfl⟩)⟩

theorem sparesRemotes_iff (c : Setup) (pre : List MonitorOp) (op : MonitorOp) :
    SparesRemotes c pre op ↔ FindsRemotesQuiet c pre op := by
  cases op with
  | announce | heartbeat | apply | observe | lead => exact Iff.rfl
  | tick now beyond =>
      simp only [SparesRemotes, FindsRemotesQuiet, Setup.reach_snoc]
      constructor
      · intro h hticks s hs hbox
        have hlookup := c.lookup_of_mem_slots pre hs
        obtain ⟨hup, hkept⟩ := h s.nodeId s hlookup hbox
        rw [statusOf_step_tick hlookup, if_pos hticks, tickedSlot_status] at hup hkept
        refine ⟨fun hstatus hmiss => ?_, fun hleader hstatus hexpired => ?_⟩
        · exact (hup hstatus).1 (if_pos ⟨hstatus, hmiss⟩)
        · have hnotUp : ¬(s.status = nodeUp ∧ MissesEnough (clock now) s) :=
            fun hbad => nodeUp_ne_nodeSuspect (hbad.1.symm.trans hstatus)
          have hmoved := hkept hleader
          rw [if_neg hnotUp, if_pos ⟨hstatus, hexpired, by simp [hleader]⟩, hstatus] at hmoved
          exact nodeDown_ne_nodeSuspect hmoved
      · intro h nodeId s hlookup hbox
        rw [statusOf_step_tick hlookup, tickedSlot_status]
        by_cases hticks : (c.reach pre).hm.Ticks (clock now)
        · obtain ⟨hup, hsus⟩ := h hticks s (mem_of_lookup hlookup) hbox
          have hnotUp : ¬(s.status = nodeUp ∧ MissesEnough (clock now) s) :=
            fun hbad => hup hbad.1 hbad.2
          rw [if_pos hticks, if_neg hnotUp]
          refine ⟨fun hstatus => ⟨?_, fun call hcall hnode hnew => ?_⟩, fun hleader => ?_⟩
          · have hnotSus : s.status ≠ nodeSuspect := hstatus ▸ nodeUp_ne_nodeSuspect
            rw [if_neg fun hbad => hnotSus hbad.1]
            exact hnotSus
          · exact hnotUp ((suspect_proposed_iff hlookup).mp ⟨call, hcall, hnode, hnew⟩).2
          · exact if_neg fun hbad => hsus hleader hbad.1 hbad.2.1
        · rw [if_neg hticks]
          refine ⟨fun hstatus => ⟨hstatus ▸ nodeUp_ne_nodeSuspect, fun call hcall hnode hnew => ?_⟩,
            fun _ => rfl⟩
          exact hticks ((suspect_proposed_iff hlookup).mp ⟨call, hcall, hnode, hnew⟩).1

/-! ### Between two commits -/

/-- The table has an entry of another box for the node, with the given status. -/
def HoldsRemote (c : Setup) (hm : HealthMonitor) (nodeId status : UInt8) : Prop :=
  ∃ s, hm.lookup nodeId = some s ∧ s.boxId ≠ c.boxId ∧ s.status = status

theorem HoldsRemote.step {c : Setup} {pre : List MonitorOp} {op : MonitorOp}
    {nodeId status : UInt8} (h : HoldsRemote c (c.reach pre).hm nodeId status)
    (hother : ¬op.Names nodeId) (hleader : (c.reach pre).port.leader = false)
    (hspares : SparesRemotes c pre op) :
    HoldsRemote c (c.reach (pre ++ [op])).hm nodeId status := by
  obtain ⟨s, hlookup, hbox, hstatus⟩ := h
  rw [Setup.reach_snoc]
  obtain ⟨after, hafter⟩ := MonitorState.exists_lookup_step op hlookup
  refine ⟨after, hafter, ?_⟩
  cases MonitorState.slotStep hafter with
  | kept _ hold =>
      rw [← Option.some.inj (hlookup.symm.trans hold)]
      exact ⟨hbox, hstatus⟩
  | announced | heard => exact absurd rfl hother
  | committed t hid => exact absurd hid hother
  | ticked now beyond _ hold =>
      rw [← Option.some.inj (hlookup.symm.trans hold)] at hafter ⊢
      have hkept := (hspares nodeId s hlookup hbox).2 hleader
      rw [Setup.reach_snoc, statusOf_eq hafter] at hkept
      exact ⟨tickedSlot_boxId _ _ _ _ s ▸ hbox, hkept.trans hstatus⟩

theorem keepsCommitted_of_spares {c : Setup} {ops : List MonitorOp}
    (h : Throughout (SparesRemotes c) ops) : KeepsCommitted c ops := by
  intro pre t between post hsplit hremote hother hfollower
  have hholds : HoldsRemote c (c.reach (pre ++ .apply t :: between)).hm t.targetNode
      t.newStatus := by
    induction between using List.reverseRecOn generalizing post with
    | nil =>
        obtain ⟨s, hs, hbox⟩ := hremote
        refine ⟨s, hs, hbox, ?_⟩
        have hlookup : ((c.reach pre).step (.apply t)).hm.lookup t.targetNode = some s := by
          rw [← Setup.reach_snoc]
          exact hs
        cases MonitorState.slotStep hlookup with
        | kept hother => exact absurd rfl hother
        | committed => rfl
    | append_singleton between op ih =>
        have hprev := ih (op :: post) (by simpa using hsplit)
          (fun e he => hother e (by simp [he]))
          (fun done hdone => hfollower done (hdone.trans (List.prefix_append _ _)))
        have hstep := hprev.step (hother op (by simp))
          (hfollower between (List.prefix_append _ _))
          (h (pre ++ .apply t :: between) op post (by simpa using hsplit))
        simpa using hstep
  obtain ⟨s, hlookup, -, hstatus⟩ := hholds
  rw [statusOf_eq hlookup, hstatus]

/-- In every run, the ticks spare the remote entries, and these keep their committed status between
commits, if and only if every tick finds the remote entries quiet. -/
theorem spares_remotes_iff (c : Setup) (ops : List MonitorOp) :
    Throughout (SparesRemotes c) ops ∧ KeepsCommitted c ops ↔
      Throughout (FindsRemotesQuiet c) ops := by
  rw [← throughout_congr (sparesRemotes_iff c)]
  exact ⟨And.left, fun h => ⟨h, keepsCommitted_of_spares h⟩⟩

/-- A follower learns that node 7 of box 2 is UP, and ticks twice. -/
def committedUpRun : List MonitorOp :=
  [.apply ⟨7, 2, nodeSuspect, nodeUp, 1⟩, .tick 10 zeros, .tick 40 zeros]

/-- The second tick calls the remote node SUSPECT, though no heartbeat of it was ever due here. -/
theorem remote_suspected_committedUpRun :
    ¬(Throughout (SparesRemotes followerOfBox1) committedUpRun ∧
      KeepsCommitted followerOfBox1 committedUpRun) := by
  rintro ⟨h, -⟩
  have htick := (sparesRemotes_iff _ _ _).mp (h (committedUpRun.take 2) (.tick 40 zeros) [] rfl)
  exact absurd htick (by decide +kernel)

end L2Oracle
