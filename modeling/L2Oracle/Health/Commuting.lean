import L2Oracle.Health.Corroboration
import L2Oracle.Health.Events

/-!
# Operations on different nodes

Two tasks call the monitor, so the order of two calls that have nothing to do with each other is an
accident. It shows in the slot numbers, since slots are taken in the order in which nodes come, and
nowhere else. An operation reads and writes the slot that its node finds, asks whether the table has room,
and reads what no operation changes: `SameFor` is what it sees of a state. An operation on another node
leaves all of that as it is, so each of the two does the same before and after the other.
-/

namespace L2Oracle

open Base

/-- What an operation is about: a node, or the peer whose observations it records. -/
inductive Subject where
  | node (nodeId : UInt8)
  | peer (peerId : UInt8)
deriving DecidableEq, Repr

def MonitorOp.subject : MonitorOp → Option Subject
  | .announce srcNode _ _ | .heartbeat srcNode _ _ => some (.node srcNode)
  | .apply t => some (.node t.targetNode)
  | .observe peer _ _ => some (.peer peer)
  | .tick .. | .lead .. => none

/-- Operations on different nodes, on different peers, or on a node and a peer. -/
def Independent (op op' : MonitorOp) : Prop :=
  ∃ a ∈ op.subject, ∃ b ∈ op'.subject, a ≠ b

instance (op op' : MonitorOp) : Decidable (Independent op op') :=
  inferInstanceAs (Decidable (∃ a ∈ _, _))

/-- The id that an operation would add to the table. -/
def HealthMonitor.unknownId (hm : HealthMonitor) (op : MonitorOp) : Option UInt8 :=
  op.registers?.filter (· ∉ hm.ids)

/-- The table has room for every id that the two operations would add. -/
def HealthMonitor.RoomFor (hm : HealthMonitor) (op op' : MonitorOp) : Prop :=
  hm.ids.length + (hm.unknownId op).toList.length + (hm.unknownId op').toList.length ≤ maxHealthNodes

instance (hm : HealthMonitor) (op op' : MonitorOp) : Decidable (hm.RoomFor op op') :=
  inferInstanceAs (Decidable (_ ≤ _))

/-- The transitions that an operation proposes. -/
def MonitorState.proposedBy (s : MonitorState) (op : MonitorOp) : List Transition :=
  (s.callsOf op).map Prod.fst

/-- In either order, the two operations leave the same entries under every id, equally many of them and the
same matrix, and each proposes and sends the same. -/
structure Commutes (s : MonitorState) (op op' : MonitorOp) : Prop where
  lookup : ∀ nodeId, ((s.step op).step op').hm.lookup nodeId
    = ((s.step op').step op).hm.lookup nodeId
  nNodes : ((s.step op).step op').hm.slots.length = ((s.step op').step op).hm.slots.length
  status : ∀ off, ((s.step op).step op').hm.corroboration.status off
    = ((s.step op').step op).hm.corroboration.status off
  updatedMs : ∀ p, ((s.step op).step op').hm.corroboration.updatedMs p
    = ((s.step op').step op).hm.corroboration.updatedMs p
  proposals : s.proposedBy op = (s.step op').proposedBy op ∧
    s.proposedBy op' = (s.step op).proposedBy op'
  frames : s.framesOf op = (s.step op').framesOf op ∧ s.framesOf op' = (s.step op).framesOf op'

/-! ### What an operation sees -/

/-- Two states look the same to an operation: the node it names has the same entry, its own id has room,
and the fixed data agree. -/
structure SameFor (op : MonitorOp) (s t : MonitorState) : Prop where
  lookup : ∀ nodeId, op.Names nodeId → s.hm.lookup nodeId = t.hm.lookup nodeId
  room : ∀ nodeId ∈ op.registers?, s.hm.HasRoom nodeId ∧ t.hm.HasRoom nodeId
  boxId : s.hm.boxId = t.hm.boxId
  transport : s.hm.transport = t.hm.transport
  term : s.port.term = t.port.term

section
variable {op : MonitorOp} {s t : MonitorState}

theorem MonitorState.lookup_step_of_not_names (s : MonitorState) (hop : op.subject ≠ none)
    {nodeId : UInt8} (hnames : ¬op.Names nodeId) :
    (s.step op).hm.lookup nodeId = s.hm.lookup nodeId := by
  rw [step_lookup]
  cases op with
  | announce srcNode ann now => exact if_neg fun h => hnames h.1.symm
  | heartbeat srcNode hb now => exact if_neg fun h => hnames h.symm
  | apply t => exact if_neg fun h => hnames h.1.symm
  | observe peer obs now => rfl
  | tick | lead => exact absurd rfl hop

/-- Where two states look the same, an operation makes the same of its node. -/
theorem SameFor.lookup_step (h : SameFor op s t) (hop : op.subject ≠ none) {nodeId : UInt8}
    (hnames : op.Names nodeId) : (s.step op).hm.lookup nodeId = (t.step op).hm.lookup nodeId := by
  have hlookup := h.lookup nodeId hnames
  rw [MonitorState.step_lookup, MonitorState.step_lookup]
  cases op with
  | announce srcNode ann now =>
      obtain rfl : srcNode = nodeId := hnames
      obtain ⟨hs, ht⟩ := h.room srcNode rfl
      simp only [hs, ht, and_self, if_true, HealthMonitor.slotOf, hlookup, h.boxId]
  | heartbeat srcNode hb now =>
      obtain rfl : srcNode = nodeId := hnames
      simp only [if_true, hlookup]
  | apply tr =>
      obtain rfl : tr.targetNode = nodeId := hnames
      obtain ⟨hs, ht⟩ := h.room tr.targetNode rfl
      simp only [hs, ht, and_self, if_true, HealthMonitor.slotOf, hlookup]
  | observe peer obs now => cases hnames
  | tick | lead => exact absurd rfl hop

theorem SameFor.proposedBy (h : SameFor op s t) (hop : op.subject ≠ none) :
    s.proposedBy op = t.proposedBy op := by
  have hproposals : s.proposals op = t.proposals op := by
    cases op with
    | heartbeat srcNode hb now =>
        simp only [MonitorState.proposals, heartbeatProposals, h.lookup srcNode rfl]
    | announce | apply | observe => rfl
    | tick | lead => exact absurd rfl hop
  rw [MonitorState.proposedBy, MonitorState.proposedBy, MonitorState.callsOf_eq,
    MonitorState.callsOf_eq, OraclePort.map_recorded, OraclePort.map_recorded, hproposals, h.term]

theorem SameFor.framesOf (h : SameFor op s t) (hop : op.subject ≠ none) :
    s.framesOf op = t.framesOf op := by
  cases op with
  | announce srcNode ann now =>
      obtain ⟨hs, ht⟩ := h.room srcNode rfl
      simp only [MonitorState.framesOf_announce, hs, ht, true_and, h.transport, announceAck, h.boxId]
  | apply tr =>
      obtain ⟨hs, ht⟩ := h.room tr.targetNode rfl
      have hlookup := h.lookup tr.targetNode rfl
      simp only [MonitorState.framesOf_apply, hs, ht, true_and, h.transport, HealthMonitor.statusOf,
        HealthMonitor.slotOf, hlookup]
  | heartbeat srcNode hb now => simp [MonitorState.framesOf, MonitorState.step]
  | observe peer obs now =>
      simp only [MonitorState.framesOf, MonitorState.step]
      split <;> simp
  | tick | lead => exact absurd rfl hop

/-! ### What another operation leaves -/

theorem MonitorOp.names_iff {nodeId : UInt8} : op.Names nodeId ↔ op.subject = some (.node nodeId) := by
  cases op <;> simp [Names, subject]

theorem MonitorOp.names_of_registers {nodeId : UInt8} (h : nodeId ∈ op.registers?) :
    op.Names nodeId := by
  cases op with
  | announce | apply => exact Option.some.inj h
  | heartbeat | tick | observe | lead => cases h

theorem MonitorState.step_term (s : MonitorState) (hop : op.subject ≠ none) :
    (s.step op).port.term = s.port.term := by
  rw [step_port]
  cases op with
  | announce | heartbeat | apply | observe => rfl
  | tick | lead => exact absurd rfl hop

variable {op' : MonitorOp}

theorem Independent.symm (h : Independent op op') : Independent op' op := by
  obtain ⟨a, ha, b, hb, hne⟩ := h
  exact ⟨b, hb, a, ha, hne.symm⟩

theorem Independent.subject_ne_none (h : Independent op op') : op.subject ≠ none := by
  obtain ⟨a, ha, -⟩ := h
  rw [show op.subject = some a from ha]
  exact Option.some_ne_none a

theorem Independent.not_names (h : Independent op op') {nodeId : UInt8} (hnames : op.Names nodeId) :
    ¬op'.Names nodeId := by
  obtain ⟨a, ha, b, hb, hne⟩ := h
  intro hnames'
  rw [MonitorOp.names_iff] at hnames hnames'
  refine hne ?_
  have hab := (Option.some.inj (ha.symm.trans hnames)).trans
    (Option.some.inj (hnames'.symm.trans hb))
  exact hab

theorem HealthMonitor.RoomFor.symm {hm : HealthMonitor} (h : hm.RoomFor op op') :
    hm.RoomFor op' op := by
  unfold RoomFor at *
  omega

/-- With room, what an operation adds is what it would add. -/
theorem HealthMonitor.newId_eq {hm : HealthMonitor} (h : ∀ nodeId ∈ op.registers?, hm.HasRoom nodeId) :
    hm.newId op = hm.unknownId op := by
  unfold newId unknownId
  cases hreg : op.registers? with
  | none => rfl
  | some nodeId =>
      have hroom := hasRoom_iff.mp (h nodeId hreg)
      by_cases hmem : nodeId ∈ hm.ids
      · simp [Option.filter, hmem]
      · simp [Option.filter, hmem, hroom.resolve_left hmem]

theorem HealthMonitor.length_unknownId {hm : HealthMonitor} {nodeId : UInt8}
    (hid : nodeId ∈ op.registers?) (hmem : nodeId ∉ hm.ids) :
    (hm.unknownId op).toList.length = 1 := by
  rw [unknownId, show op.registers? = some nodeId from hid]
  simp [Option.filter, hmem]

theorem HealthMonitor.RoomFor.hasRoom (h : s.hm.RoomFor op op') {nodeId : UInt8}
    (hid : nodeId ∈ op.registers?) : s.hm.HasRoom nodeId := by
  rw [hasRoom_iff]
  by_cases hmem : nodeId ∈ s.hm.ids
  · exact .inl hmem
  · have hone := length_unknownId hid hmem
    unfold RoomFor at h
    exact .inr (by omega)

theorem HealthMonitor.RoomFor.length_step (h : s.hm.RoomFor op op') :
    (s.step op).hm.ids.length = s.hm.ids.length + (s.hm.unknownId op).toList.length := by
  rw [MonitorState.step_ids, List.length_append, newId_eq fun _ => h.hasRoom]

theorem HealthMonitor.RoomFor.hasRoom_step (h : s.hm.RoomFor op op') {nodeId : UInt8}
    (hid : nodeId ∈ op.registers?) : (s.step op').hm.HasRoom nodeId := by
  rw [hasRoom_iff]
  by_cases hmem : nodeId ∈ s.hm.ids
  · left
    rw [MonitorState.step_ids]
    exact List.mem_append_left _ hmem
  · have hone := length_unknownId hid hmem
    have hlen := h.symm.length_step
    unfold RoomFor at h
    exact .inr (by omega)

/-- An operation on another node leaves an id known or unknown. -/
theorem Independent.unknownId_step (h : Independent op op') (s : MonitorState) :
    (s.step op').hm.unknownId op = s.hm.unknownId op := by
  unfold HealthMonitor.unknownId
  cases hreg : op.registers? with
  | none => rfl
  | some nodeId =>
      have hnames := h.not_names (MonitorOp.names_of_registers hreg)
      have hlookup := s.lookup_step_of_not_names h.symm.subject_ne_none hnames
      have hmem : nodeId ∉ (s.step op').hm.ids ↔ nodeId ∉ s.hm.ids := by
        rw [← HealthMonitor.lookup_eq_none_iff, ← HealthMonitor.lookup_eq_none_iff, hlookup]
      simp only [Option.filter, hmem]

theorem HealthMonitor.RoomFor.sameFor (hroom : s.hm.RoomFor op op') (h : Independent op op') :
    SameFor op s (s.step op') where
  lookup _ hnames :=
    (s.lookup_step_of_not_names h.symm.subject_ne_none (h.not_names hnames)).symm
  room _ hid := ⟨hroom.hasRoom hid, hroom.hasRoom_step hid⟩
  boxId := (s.step_boxId op').symm
  transport := (s.step_transport op').symm
  term := (s.step_term h.symm.subject_ne_none).symm

/-- Both operations add their ids, in either order. -/
theorem HealthMonitor.RoomFor.length_step_step (hroom : s.hm.RoomFor op op')
    (h : Independent op op') :
    ((s.step op).step op').hm.ids.length
      = s.hm.ids.length + (s.hm.unknownId op).toList.length + (s.hm.unknownId op').toList.length := by
  rw [MonitorState.step_ids, List.length_append, newId_eq fun _ => hroom.symm.hasRoom_step,
    h.symm.unknownId_step, hroom.length_step]

/-! ### The matrix -/

/-- Only the peer that an operation is about has its row written. -/
theorem MonitorOp.subject_of_writes {p : Nat}
    (h : (∃ node, op.writesCell p node ≠ none) ∨ op.stampsRow p ≠ none) :
    ∃ peer, op.subject = some (.peer peer) ∧ peer.toNat = p := by
  cases op with
  | observe peer obs now =>
      refine ⟨peer, rfl, ?_⟩
      by_contra hrow
      have hne : p ≠ peer.toNat := fun heq => hrow heq.symm
      rcases h with ⟨node, hcell⟩ | hstamp
      · exact hcell (if_neg fun h => hne h.1)
      · exact hstamp (if_neg fun h => hne h.1)
  | announce | heartbeat | tick | apply | lead =>
      rcases h with ⟨node, hcell⟩ | hstamp
      · exact absurd rfl hcell
      · exact absurd rfl hstamp

theorem Independent.row_kept (h : Independent op op') (p : Nat) :
    (∀ node, op.writesCell p node = none) ∧ op.stampsRow p = none ∨
      (∀ node, op'.writesCell p node = none) ∧ op'.stampsRow p = none := by
  by_contra hboth
  push Not at hboth
  have hwrites {o : MonitorOp} (ho : (∀ node, o.writesCell p node = none) → o.stampsRow p ≠ none) :
      (∃ node, o.writesCell p node ≠ none) ∨ o.stampsRow p ≠ none := by
    by_cases hcells : ∀ node, o.writesCell p node = none
    · exact .inr (ho hcells)
    · exact .inl (not_forall.mp hcells)
  obtain ⟨peer, hpeer, hp⟩ := MonitorOp.subject_of_writes (hwrites hboth.1)
  obtain ⟨peer', hpeer', hp'⟩ := MonitorOp.subject_of_writes (hwrites hboth.2)
  obtain ⟨a, ha, b, hb, hne⟩ := h
  have hsame : peer = peer' := UInt8.toNat.inj (hp.trans hp'.symm)
  refine hne ((Option.some.inj (ha.symm.trans hpeer)).trans ?_)
  rw [hsame]
  exact (Option.some.inj (hb.symm.trans hpeer')).symm

/-! ### The two orders -/

theorem commutes_of_independent (hroom : s.hm.RoomFor op op') (h : Independent op op') :
    Commutes s op op' := by
  have hsame := hroom.sameFor h
  have hsame' := hroom.symm.sameFor h.symm
  have hop := h.subject_ne_none
  have hop' := h.symm.subject_ne_none
  refine ⟨fun nodeId => ?_, ?_, fun off => ?_, fun p => ?_,
    ⟨hsame.proposedBy hop, hsame'.proposedBy hop'⟩, hsame.framesOf hop, hsame'.framesOf hop'⟩
  · by_cases hnames : op.Names nodeId
    · have hother := h.not_names hnames
      rw [(s.step op).lookup_step_of_not_names hop' hother]
      exact hsame.lookup_step hop hnames
    · rw [(s.step op').lookup_step_of_not_names hop hnames]
      by_cases hnames' : op'.Names nodeId
      · exact (hsame'.lookup_step hop' hnames').symm
      · rw [(s.step op).lookup_step_of_not_names hop' hnames', s.lookup_step_of_not_names hop hnames,
          s.lookup_step_of_not_names hop' hnames']
  · have hlen := hroom.length_step_step h
    have hlen' := hroom.symm.length_step_step h.symm
    simp only [HealthMonitor.ids, List.length_map] at hlen hlen'
    omega
  · have hoff : off = corroborationOffset (off / maxHealthNodes) (off % maxHealthNodes) :=
      (Nat.div_add_mod off maxHealthNodes).symm
    have hnode : off % maxHealthNodes < maxHealthNodes := Nat.mod_lt _ (by decide)
    rw [hoff]
    simp only [MonitorState.step_cell _ _ hnode]
    rcases h.row_kept (off / maxHealthNodes) with hkept | hkept
    · rw [hkept.1, Option.getD_none, Option.getD_none]
    · rw [hkept.1, Option.getD_none, Option.getD_none]
  · simp only [MonitorState.step_row]
    rcases h.row_kept p with hkept | hkept
    · rw [hkept.2, Option.getD_none, Option.getD_none]
    · rw [hkept.2, Option.getD_none, Option.getD_none]

end

/-- In every reachable state, two operations on different nodes, of which each is a heartbeat, an
announcement or a committed transition, commute if the table has room for the ids they would add; so do
the observations of different peers, and the observations of a peer and an operation on a node. -/
theorem independent_operations_commute (c : Setup) (pre : List MonitorOp) {op op' : MonitorOp}
    (h : Independent op op') (hroom : (c.reach pre).hm.RoomFor op op') :
    Commutes (c.reach pre) op op' :=
  commutes_of_independent hroom h

theorem independent_operations_commute_silentRun :
    Independent (.heartbeat 5 ⟨0, 0⟩ 95) (.apply ⟨6, 2, nodeUp, nodeDown, 1⟩) ∧
      (leaderOfBox1.reach silentRun).proposedBy (.heartbeat 5 ⟨0, 0⟩ 95)
        = [⟨5, 1, nodeDown, nodeUp, 1⟩] ∧
      Commutes (leaderOfBox1.reach silentRun) (.heartbeat 5 ⟨0, 0⟩ 95)
        (.apply ⟨6, 2, nodeUp, nodeDown, 1⟩) :=
  ⟨by decide, by decide +kernel, independent_operations_commute leaderOfBox1 silentRun (by decide)
    (by decide +kernel)⟩

end L2Oracle
