import L2Oracle.Health.Corroboration

/-!
# Lookups in the corroboration matrix

`health_monitor_update_corroboration` writes a cell of the matrix only for a node id below
`MAX_HEALTH_NODES`. `corroborated` reads `status[p][target_node]` for every fresh row without looking
at the id. It is asked only about nodes of other boxes, and those enter the table only by a committed
transition, which may name any id. So the lookups stay in the matrix along every run whose commits
bring in no node of another box with an id that has no column, and after any other commit a lookup
that leaves the matrix is a few operations away.
-/

namespace L2Oracle

open Base

/-! ### What is looked up -/

/-- The evaluations of `status[p][target_node]` in `corroborated`, as pairs of indices. -/
def corroboratedLookups (hm : HealthMonitor) (targetNode targetBox : UInt8) (nowMs : UInt32) :
    List (Nat × Nat) :=
  if targetBox = hm.boxId then []
  else ((List.range oracleMaxNodes).filter fun p =>
    ¬nowMs - hm.corroboration.updatedMs p > staleObsMs).map (·, targetNode.toNat)

/-- What a read at an offset from the start of the matrix finds. -/
def readMatrix (hm : HealthMonitor) (beyond : Nat → UInt8) (off : Nat) : UInt8 :=
  if off < maxHealthNodes * oracleMaxNodes then hm.corroboration.status off else beyond off

/-- The result of `corroborated` for a node of another box is a count over what it looks up. -/
theorem corroborated_eq (hm : HealthMonitor) (beyond : Nat → UInt8) {targetNode targetBox : UInt8}
    (hbox : targetBox ≠ hm.boxId) (nowMs : UInt32) :
    corroborated hm beyond targetNode targetBox nowMs
      = decide (corroborationK ≤ (corroboratedLookups hm targetNode targetBox nowMs).countP fun l =>
          nodeSuspect ≤ readMatrix hm beyond (corroborationOffset l.1 l.2)) := by
  have hpeer (p : Nat) : peerAgrees hm beyond targetNode nowMs p
      = (decide (¬nowMs - hm.corroboration.updatedMs p > staleObsMs) &&
        decide (nodeSuspect ≤ readMatrix hm beyond (corroborationOffset p targetNode.toNat))) := by
    unfold peerAgrees
    by_cases hstale : nowMs - hm.corroboration.updatedMs p > staleObsMs
    · simp [hstale]
    · simp only [hstale, not_false_eq_true, decide_true, Bool.true_and]
      rfl
  simp only [corroborated, corroboratedLookups, if_neg hbox, List.countP_map, List.countP_filter]
  refine congrArg (fun n => decide (corroborationK ≤ n)) (List.countP_congr fun p _ => ?_)
  rw [hpeer, Bool.and_comm]
  rfl

/-- The lookups of a tick for one slot. -/
def slotLookups (hm : HealthMonitor) (leader : Bool) (nowMs : UInt32) (s : Slot) : List (Nat × Nat) :=
  if s.status = nodeSuspect ∧ TimerExpired nowMs s ∧ leader then
    corroboratedLookups hm s.nodeId s.boxId nowMs
  else []

/-- The lookups of a tick. -/
def tickLookups (hm : HealthMonitor) (leader : Bool) (nowMs : UInt32) : List (Nat × Nat) :=
  if hm.Ticks nowMs then hm.slots.flatMap (slotLookups hm leader nowMs) else []

/-- A cell that the matrix has. -/
def InMatrix (l : Nat × Nat) : Prop := l.1 < oracleMaxNodes ∧ l.2 < maxHealthNodes

instance (l : Nat × Nat) : Decidable (InMatrix l) := inferInstanceAs (Decidable (_ ∧ _))

theorem mem_tickLookups {hm : HealthMonitor} {leader : Bool} {nowMs : UInt32} {p node : Nat} :
    (p, node) ∈ tickLookups hm leader nowMs ↔
      hm.Ticks nowMs ∧ leader ∧ p < oracleMaxNodes ∧
        ¬nowMs - hm.corroboration.updatedMs p > staleObsMs ∧
        ∃ s ∈ hm.slots, s.status = nodeSuspect ∧ TimerExpired nowMs s ∧ s.boxId ≠ hm.boxId ∧
          s.nodeId.toNat = node := by
  unfold tickLookups slotLookups corroboratedLookups
  constructor
  · intro h
    split_ifs at h with hticks
    · obtain ⟨s, hs, h⟩ := List.mem_flatMap.mp h
      split_ifs at h with hdue hbox
      · cases h
      · obtain ⟨q, hq, heq⟩ := List.mem_map.mp h
        obtain ⟨rfl, rfl⟩ := Prod.mk.inj heq
        obtain ⟨hrow, hfresh⟩ := List.mem_filter.mp hq
        exact ⟨hticks, hdue.2.2, List.mem_range.mp hrow, of_decide_eq_true hfresh, s, hs, hdue.1,
          hdue.2.1, hbox, rfl⟩
      · cases h
    · cases h
  · rintro ⟨hticks, hleader, hrow, hfresh, s, hs, hsuspect, htimer, hbox, rfl⟩
    rw [if_pos hticks]
    refine List.mem_flatMap.mpr ⟨s, hs, ?_⟩
    rw [if_pos ⟨hsuspect, htimer, hleader⟩, if_neg hbox]
    exact List.mem_map_of_mem
      (List.mem_filter.mpr ⟨List.mem_range.mpr hrow, decide_eq_true hfresh⟩)

theorem offset_of_inMatrix {l : Nat × Nat} (h : InMatrix l) :
    corroborationOffset l.1 l.2 < maxHealthNodes * oracleMaxNodes := by
  obtain ⟨hrow, hcolumn⟩ := h
  unfold corroborationOffset oracleMaxNodes maxHealthNodes at *
  omega

theorem corroborated_beyond {hm : HealthMonitor} {nowMs : UInt32} {targetNode targetBox : UInt8}
    (h : ∀ l ∈ corroboratedLookups hm targetNode targetBox nowMs, InMatrix l)
    (beyond beyond' : Nat → UInt8) :
    corroborated hm beyond targetNode targetBox nowMs
      = corroborated hm beyond' targetNode targetBox nowMs := by
  by_cases hbox : targetBox = hm.boxId
  · rw [corroborated, corroborated, if_pos hbox, if_pos hbox]
  · rw [corroborated_eq hm beyond hbox, corroborated_eq hm beyond' hbox]
    refine congrArg (fun n => decide (corroborationK ≤ n)) (List.countP_congr fun l hl => ?_)
    rw [readMatrix, readMatrix, if_pos (offset_of_inMatrix (h l hl)),
      if_pos (offset_of_inMatrix (h l hl))]

/-- A tick whose lookups stay in the matrix does the same whatever lies behind it. -/
theorem tick_beyond {hm : HealthMonitor} {leader : Bool} {nowMs : UInt32}
    (h : ∀ l ∈ tickLookups hm leader nowMs, InMatrix l) (beyond beyond' : Nat → UInt8) :
    tickedMonitor hm leader nowMs beyond = tickedMonitor hm leader nowMs beyond' ∧
      tickProposals hm leader nowMs beyond = tickProposals hm leader nowMs beyond' := by
  unfold tickedMonitor tickProposals
  by_cases hticks : hm.Ticks nowMs
  · have hslot : ∀ s ∈ hm.slots, s.status = nodeSuspect → TimerExpired nowMs s → leader →
        corroborated hm beyond s.nodeId s.boxId nowMs
          = corroborated hm beyond' s.nodeId s.boxId nowMs := by
      intro s hs hsuspect htimer hleader
      refine corroborated_beyond (fun l hl => h l ?_) beyond beyond'
      rw [tickLookups, if_pos hticks]
      exact List.mem_flatMap.mpr ⟨s, hs, by rwa [slotLookups, if_pos ⟨hsuspect, htimer, hleader⟩]⟩
    simp only [if_pos hticks]
    constructor
    · congr 1
      refine List.map_congr_left fun s hs => ?_
      have hcorr := hslot s hs
      unfold tickedSlot
      grind
    · refine List.filterMap_congr fun s hs => ?_
      have hcorr := hslot s hs
      unfold slotProposal
      grind
  · simp only [if_neg hticks, and_self]

/-! ### Runs -/

/-- Every lookup of a tick is in the matrix. -/
def LooksUpInside (c : Setup) (pre : List MonitorOp) : MonitorOp → Prop
  | .tick now _ =>
      ∀ l ∈ tickLookups (c.reach pre).hm (c.reach pre).port.leader (clock now), InMatrix l
  | _ => True

/-- A committed transition that takes a slot for a node of another box names a node that has a column
in the matrix. -/
def CommitsColumn (c : Setup) (pre : List MonitorOp) : MonitorOp → Prop
  | .apply t => (c.reach pre).hm.newId (.apply t) ≠ none → t.targetBox ≠ c.boxId →
      t.targetNode.toNat < maxHealthNodes
  | _ => True

instance (c : Setup) (pre : List MonitorOp) : ∀ op, Decidable (LooksUpInside c pre op)
  | .tick .. => inferInstanceAs (Decidable (∀ l ∈ _, _))
  | .announce .. | .heartbeat .. | .apply .. | .observe .. | .lead .. =>
      inferInstanceAs (Decidable True)

instance (c : Setup) (pre : List MonitorOp) : ∀ op, Decidable (CommitsColumn c pre op)
  | .apply .. => inferInstanceAs (Decidable (_ → _ → _))
  | .announce .. | .heartbeat .. | .tick .. | .observe .. | .lead .. =>
      inferInstanceAs (Decidable True)

/-- Every node of another box has a column in the matrix. -/
def HealthMonitor.HasColumns (hm : HealthMonitor) : Prop :=
  ∀ nodeId, ∀ s ∈ hm.lookup nodeId, s.boxId ≠ hm.boxId → nodeId.toNat < maxHealthNodes

theorem HealthMonitor.HasColumns.step {c : Setup} {pre : List MonitorOp} {op : MonitorOp}
    (h : (c.reach pre).hm.HasColumns) (hop : CommitsColumn c pre op) :
    (c.reach (pre ++ [op])).hm.HasColumns := by
  intro nodeId s hs hbox
  rw [c.reach_snoc] at hs
  rw [c.reach_boxId] at hbox
  cases MonitorState.slotStep hs with
  | kept _ hold => exact h nodeId s hold (by rwa [c.reach_boxId])
  | announced ann now => exact absurd (c.reach_boxId pre) hbox
  | heard hb now hold =>
      rw [heardSlot_boxId] at hbox
      exact h nodeId _ hold (by rwa [c.reach_boxId])
  | ticked now beyond _ hold =>
      rw [tickedSlot_boxId] at hbox
      exact h nodeId _ hold (by rwa [c.reach_boxId])
  | committed t ht =>
      subst ht
      cases hlookup : (c.reach pre).hm.lookup t.targetNode with
      | some old =>
          rw [slotOf_eq hlookup] at hbox
          exact h _ old hlookup (by rwa [c.reach_boxId])
      | none =>
          rw [HealthMonitor.slotOf, hlookup] at hbox
          refine hop (fun hnew => ?_) hbox
          have hids := (c.reach pre).step_ids (.apply t)
          rw [hnew, Option.toList_none, List.append_nil] at hids
          have hmem : t.targetNode ∈ (c.reach pre).hm.ids := by
            rw [← hids]
            by_contra hnot
            rw [HealthMonitor.lookup_eq_none_iff.mpr hnot] at hs
            cases hs
          exact HealthMonitor.lookup_eq_none_iff.mp hlookup hmem

theorem HealthMonitor.HasColumns.inMatrix {c : Setup} {pre : List MonitorOp}
    (h : (c.reach pre).hm.HasColumns) (op : MonitorOp) : LooksUpInside c pre op := by
  cases op with
  | tick now beyond =>
      rintro ⟨p, node⟩ hl
      obtain ⟨-, -, hrow, -, s, hs, -, -, hbox, rfl⟩ := mem_tickLookups.mp hl
      exact ⟨hrow, h s.nodeId s (c.lookup_of_mem_slots pre hs) hbox⟩
  | announce | heartbeat | apply | observe | lead => trivial

/-- Along every run whose commits bring in no node of another box without a column, every lookup of
every tick is in the matrix. -/
theorem lookups_in_matrix (c : Setup) {ops : List MonitorOp} (h : Throughout (CommitsColumn c) ops) :
    Throughout (LooksUpInside c) ops :=
  h.of_invariant (I := fun pre => (c.reach pre).hm.HasColumns) (fun _ _ hs => by cases hs)
    (fun _ _ hpre hop => hpre.step hop) fun _ op hpre _ => hpre.inMatrix op

/-- Node 3 of box 2 is suspected, two boxes report it, and the leader takes it down. -/
def corroboratedRun : List MonitorOp :=
  [.apply ⟨3, 2, nodeUp, nodeSuspect, 1⟩, .tick 10 zeros, .observe 2 [⟨3, nodeSuspect, 128⟩] 90,
    .observe 3 [⟨3, nodeSuspect, 128⟩] 90, .tick 100 zeros]

theorem lookups_in_matrix_corroboratedRun :
    tickLookups (leaderOfBox1.reach (corroboratedRun.take 4)).hm true 100 ≠ [] ∧
      Throughout (LooksUpInside leaderOfBox1) corroboratedRun :=
  ⟨by decide +kernel, lookups_in_matrix leaderOfBox1 (by decide +kernel)⟩

/-! ### Other commits -/

theorem lookup_step_apply {s : MonitorState} {nodeId : UInt8} {slot : Slot}
    (h : s.hm.lookup nodeId = some slot) (box oldStatus newStatus : UInt8) (term : UInt32) :
    (s.step (.apply ⟨nodeId, box, oldStatus, newStatus, term⟩)).hm.lookup nodeId
      = some (committedSlot newStatus term slot) := by
  have hroom : s.hm.HasRoom nodeId := .inl (by rw [h]; simp)
  rw [MonitorState.step_lookup]
  simp only [hroom, and_self, if_true, slotOf_eq h]

theorem lookup_step_tick_down {s : MonitorState} {nodeId : UInt8} {slot : Slot}
    (h : s.hm.lookup nodeId = some slot) (hdown : slot.status = nodeDown) (now : Nat)
    (beyond : Nat → UInt8) :
    ∃ after, (s.step (.tick now beyond)).hm.lookup nodeId = some after ∧ after.boxId = slot.boxId ∧
      after.suspectSinceMs = slot.suspectSinceMs := by
  rw [MonitorState.step_lookup]
  dsimp only
  split
  · have hticked : tickedSlot s.hm s.port.leader (clock now) beyond slot
        = countMisses slot (clock now) := by
      simp only [tickedSlot, hdown, nodeDown_ne_nodeUp, nodeDown_ne_nodeSuspect, if_false]
    refine ⟨countMisses slot (clock now), by rw [h, Option.map_some, hticked], ?_, ?_⟩
    · rw [Slot.boxId, countMisses_entry]
    · exact countMisses_suspectSinceMs slot (clock now)
  · exact ⟨slot, h, rfl, rfl⟩

/-- Operations that make the leader look a node up. -/
def askedRun (nodeId boxId : UInt8) : List MonitorOp :=
  [.apply ⟨nodeId, boxId, nodeUp, nodeDown, 0⟩, .tick 1000 zeros,
    .apply ⟨nodeId, boxId, nodeDown, nodeSuspect, 0⟩, .lead true 0, .observe 0 [⟨0, nodeUp, 255⟩] 1000]

/-- A node of another box whose timer never ran is looked up by the next tick. -/
theorem lookup_after_askedRun {c : Setup} {pre : List MonitorOp} {nodeId : UInt8} {slot : Slot}
    (h : (c.reach pre).hm.lookup nodeId = some slot) (hbox : slot.boxId ≠ c.boxId)
    (htimer : slot.suspectSinceMs = 0) :
    (0, nodeId.toNat) ∈ tickLookups (c.reach (pre ++ askedRun nodeId slot.boxId)).hm
      (c.reach (pre ++ askedRun nodeId slot.boxId)).port.leader (clock 1001) := by
  set s := c.reach pre
  set s₁ := s.step (.apply ⟨nodeId, slot.boxId, nodeUp, nodeDown, 0⟩)
  set s₂ := s₁.step (.tick 1000 zeros)
  set s₃ := s₂.step (.apply ⟨nodeId, slot.boxId, nodeDown, nodeSuspect, 0⟩)
  set s₄ := s₃.step (.lead true 0)
  set s₅ := s₄.step (.observe 0 [⟨0, nodeUp, 255⟩] 1000) with hs₅
  have hreach : c.reach (pre ++ askedRun nodeId slot.boxId) = s₅ := by
    simp [Setup.reach, askedRun, s₅, s₄, s₃, s₂, s₁, s]
  have hdown : s₁.hm.lookup nodeId = some (committedSlot nodeDown 0 slot) :=
    lookup_step_apply h slot.boxId nodeUp nodeDown 0
  obtain ⟨after, hafter, hboxAfter, htimerAfter⟩ := lookup_step_tick_down hdown rfl 1000 zeros
  have hsuspect : s₃.hm.lookup nodeId = some (committedSlot nodeSuspect 0 after) :=
    lookup_step_apply hafter slot.boxId nodeDown nodeSuspect 0
  have hslot : s₅.hm.lookup nodeId = some (committedSlot nodeSuspect 0 after) := by
    rw [MonitorState.step_lookup, MonitorState.step_lookup]
    exact hsuspect
  have hlast : s₅.hm.lastTickMs = clock 1000 := by
    rw [MonitorState.step_lastTickMs, MonitorState.step_lastTickMs, MonitorState.step_lastTickMs,
      MonitorState.step_lastTickMs]
  have hleader : s₅.port.leader = true := by
    rw [MonitorState.step_leader, MonitorState.step_leader]
  have hrow : s₅.hm.corroboration.updatedMs 0 = clock 1000 := by
    rw [MonitorState.step_corroboration]
    rfl
  have hown : s₅.hm.boxId = c.boxId := by rw [← hreach, c.reach_boxId]
  rw [hreach, mem_tickLookups, HealthMonitor.Ticks, hlast, hrow, hown]
  refine ⟨by decide, hleader, by decide, by decide, _, mem_of_lookup hslot, rfl, ?_, ?_, ?_⟩
  · rw [TimerExpired, show (committedSlot nodeSuspect 0 after).suspectSinceMs = 0 from
      htimerAfter.trans htimer]
    decide
  · exact fun heq => hbox (hboxAfter.symm.trans heq)
  · exact congrArg UInt8.toNat (key_of_lookup hslot)

/-- After any other commit, some further operations lead to a lookup that leaves the matrix. -/
theorem exists_lookup_outside {c : Setup} {pre : List MonitorOp} {t : Transition}
    (h : ¬CommitsColumn c pre (.apply t)) :
    ∃ more, ¬Throughout (LooksUpInside c) (pre ++ .apply t :: more) := by
  simp only [CommitsColumn, Classical.not_imp] at h
  obtain ⟨hnew, hbox, hcolumn⟩ := h
  have hroom : t.targetNode ∉ (c.reach pre).hm.ids ∧
      (c.reach pre).hm.ids.length < maxHealthNodes := by
    simpa [HealthMonitor.newId, MonitorOp.registers?, Option.filter_eq_none_iff] using hnew
  have hlookup : (c.reach (pre ++ [.apply t])).hm.lookup t.targetNode
      = some (committedSlot t.newStatus t.term (Slot.fresh t.targetNode t.targetBox)) := by
    have hnone := HealthMonitor.lookup_eq_none_iff.mpr hroom.1
    have hlen : (c.reach pre).hm.ids.length = (c.reach pre).hm.slots.length := List.length_map _
    have hspace : (c.reach pre).hm.HasRoom t.targetNode := .inr (by omega)
    rw [c.reach_snoc, MonitorState.step_lookup]
    simp only [hspace, and_self, if_true, HealthMonitor.slotOf, hnone, Option.getD_none]
  refine ⟨askedRun t.targetNode t.targetBox ++ [.tick 1001 zeros], fun hinside => hcolumn ?_⟩
  have htick := hinside (pre ++ .apply t :: askedRun t.targetNode t.targetBox) (.tick 1001 zeros) []
    (by simp)
  have hasked := lookup_after_askedRun hlookup hbox rfl
  rw [List.append_assoc, List.singleton_append] at hasked
  exact (htick _ hasked).2

/-- Node 100 of box 2 is committed SUSPECT, and the leader's timer for it runs out. -/
def wideIdRun : List MonitorOp :=
  [.apply ⟨100, 2, nodeUp, nodeSuspect, 1⟩, .tick 10 zeros, .tick 100 zeros]

theorem lookup_outside_wideIdRun : ¬Throughout (LooksUpInside leaderOfBox1) wideIdRun := by
  decide +kernel

end L2Oracle
