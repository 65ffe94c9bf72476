import L2Oracle.Base.KeyedList
import L2Oracle.Health.HealthMonitor

/-!
# What each operation of the monitor does

Every later proof reads the monitor through this module. An operation is described by three things:
the monitor it leaves, the proposals it submits to the oracle in order, and the frames it sends. None
of them depends on what the oracle answers: `propose_transition` does not look at the result, and the
only thing an operation asks of the oracle is whether it leads. So the monitor after a heartbeat or a
tick is a function of the monitor before and of leadership alone, and the oracle after it is the
oracle before with the proposals submitted one after another (`healthMonitorTick_eq`,
`healthMonitorProcessHeartbeat_eq`), for every oracle whose leadership a proposal does not change.

What an operation does to the table is stated for the entry a node id finds: `lookup` of that id
after the operation, in terms of `lookup` before it.
-/

namespace L2Oracle

open Base

abbrev Slot.nodeId (s : Slot) : UInt8 := s.entry.nodeId
abbrev Slot.boxId (s : Slot) : UInt8 := s.entry.boxId
abbrev Slot.status (s : Slot) : UInt8 := s.entry.status

@[simp] theorem Slot.fresh_status (nodeId boxId : UInt8) :
    (Slot.fresh nodeId boxId).entry.status = nodeUp := rfl

/-- The slot that `find_node` finds. -/
def HealthMonitor.lookup (hm : HealthMonitor) (nodeId : UInt8) : Option Slot :=
  Base.lookup Slot.nodeId hm.slots nodeId

/-- The status of a node, UP where it has no entry. -/
def HealthMonitor.statusOf (hm : HealthMonitor) (nodeId : UInt8) : UInt8 :=
  ((hm.lookup nodeId).map Slot.status).getD nodeUp

theorem nodeUp_ne_nodeSuspect : nodeUp ≠ nodeSuspect := by decide
theorem nodeDown_ne_nodeSuspect : nodeDown ≠ nodeSuspect := by decide
theorem nodeDown_ne_nodeUp : nodeDown ≠ nodeUp := by decide

theorem not_suspectThreshold_le_zero : ¬suspectThreshold ≤ 0 := by decide

/-! ### Proposals -/

/-- The arguments of one call of `oracle_propose_health_transition`. -/
structure Proposal where
  targetNode : UInt8
  targetBox : UInt8
  oldStatus : UInt8
  newStatus : UInt8
deriving DecidableEq, Repr

def Slot.propose (s : Slot) (newStatus : UInt8) : Proposal :=
  ⟨s.entry.nodeId, s.entry.boxId, s.entry.status, newStatus⟩

section
variable {ω : Type} (api : OracleApi ω)

/-- The oracle after one call. -/
def OracleApi.submit (o : ω) (p : Proposal) : ω :=
  (api.oracleProposeHealthTransition o p.targetNode p.targetBox p.oldStatus p.newStatus).1

def OracleApi.submitAll (o : ω) (ps : List Proposal) : ω := ps.foldl api.submit o

/-- A proposal changes nothing about who leads. -/
def OracleApi.KeepsLeadership : Prop :=
  ∀ o p, api.oracleIsLeader (api.submit o p) = api.oracleIsLeader o

theorem proposeTransition_eq (o : ω) (s : Slot) {newStatus : UInt8}
    (h : s.status ≠ newStatus) :
    proposeTransition api o s newStatus
      = (s.withStatus newStatus, api.submit o (s.propose newStatus)) := by
  rw [proposeTransition, if_neg h]
  rfl

end

/-! ### The heartbeat -/

/-- A status that a heartbeat brings back to UP. -/
def Failing (status : UInt8) : Prop := status = nodeSuspect ∨ status = nodeDown

instance (status : UInt8) : Decidable (Failing status) :=
  inferInstanceAs (Decidable (_ ∨ _))

theorem failing_ne_up {status : UInt8} (h : Failing status) : status ≠ nodeUp := by
  rcases h with rfl | rfl <;> decide

/-- The statuses that the state machine knows. -/
def Known (status : UInt8) : Prop := status = nodeUp ∨ Failing status

instance (status : UInt8) : Decidable (Known status) := inferInstanceAs (Decidable (_ ∨ _))

/-- The slot of a node that was heard. -/
def heardSlot (nowMs : UInt32) (s : Slot) : Slot :=
  if Failing s.status then
    { entry := { s.entry with lastSeenMs := nowMs, status := nodeUp }
      missCount := 0, suspectSinceMs := 0 }
  else { s with entry := { s.entry with lastSeenMs := nowMs }, missCount := 0 }

/-- The fields of the slot of a node that was heard. -/
theorem heardSlot_eq (nowMs : UInt32) (s : Slot) : heardSlot nowMs s =
    { entry := { s.entry with
        lastSeenMs := nowMs, status := if Failing s.status then nodeUp else s.status }
      missCount := 0
      suspectSinceMs := if Failing s.status then 0 else s.suspectSinceMs } := by
  by_cases hfail : Failing s.status
  · simp only [heardSlot, if_pos hfail]
  · simp only [heardSlot, if_neg hfail]

@[simp] theorem heardSlot_nodeId (nowMs : UInt32) (s : Slot) :
    (heardSlot nowMs s).nodeId = s.nodeId := by
  rw [heardSlot_eq]

@[simp] theorem heardSlot_boxId (nowMs : UInt32) (s : Slot) :
    (heardSlot nowMs s).boxId = s.boxId := by
  rw [heardSlot_eq]

theorem heardSlot_lastSeenMs (nowMs : UInt32) (s : Slot) :
    (heardSlot nowMs s).entry.lastSeenMs = nowMs := by
  rw [heardSlot_eq]

@[simp] theorem heardSlot_missCount (nowMs : UInt32) (s : Slot) :
    (heardSlot nowMs s).missCount = 0 := by
  rw [heardSlot_eq]

theorem heardSlot_status (nowMs : UInt32) (s : Slot) :
    (heardSlot nowMs s).status = if Failing s.status then nodeUp else s.status := by
  rw [heardSlot_eq]

/-- Whatever the state machine knows, it is UP when the node was heard. -/
theorem status_heardSlot {s : Slot} (h : Known s.status) (nowMs : UInt32) :
    (heardSlot nowMs s).status = nodeUp := by
  rw [heardSlot_status]
  split
  · rfl
  · rename_i hfail
    exact h.resolve_right hfail

def heartbeatProposals (hm : HealthMonitor) (srcNode : UInt8) : List Proposal :=
  match hm.lookup srcNode with
  | none => []
  | some s => if Failing s.status then [s.propose nodeUp] else []

theorem HealthMonitor.lookup_eq_some {hm : HealthMonitor} {nodeId : UInt8} {idx : Nat}
    (h : findNode hm nodeId = some idx) : hm.lookup nodeId = some (hm.slot idx) := by
  have hidx : idx < hm.slots.length := (List.findIdx?_eq_some_iff_getElem.mp h).1
  have hlookup : Base.lookup Slot.nodeId hm.slots nodeId = hm.slots[idx]? := lookup_eq_getElem? h
  rw [HealthMonitor.lookup, hlookup, HealthMonitor.slot]
  simp [hidx]

theorem HealthMonitor.lookup_eq_none {hm : HealthMonitor} {nodeId : UInt8} :
    findNode hm nodeId = none ↔ hm.lookup nodeId = none := findIdx?_eq_none

theorem HealthMonitor.slot_nodeId {hm : HealthMonitor} {nodeId : UInt8} {idx : Nat}
    (h : findNode hm nodeId = some idx) : (hm.slot idx).nodeId = nodeId :=
  key_of_lookup (lookup_eq_some h)

theorem HealthMonitor.lookup_setSlot {hm : HealthMonitor} {nodeId : UInt8} {idx : Nat} {s : Slot}
    (h : findNode hm nodeId = some idx) (hs : s.nodeId = nodeId) (other : UInt8) :
    (hm.setSlot idx s).lookup other = if other = nodeId then some s else hm.lookup other :=
  lookup_set h hs other

/-- The monitor after a heartbeat. -/
def heardMonitor (hm : HealthMonitor) (srcNode : UInt8) (nowMs : UInt32) : HealthMonitor :=
  match findNode hm srcNode with
  | none => hm
  | some idx => hm.setSlot idx (heardSlot nowMs (hm.slot idx))

theorem healthMonitorProcessHeartbeat_eq {ω : Type} (api : OracleApi ω) (hm : HealthMonitor)
    (o : ω) (srcNode : UInt8) (hb : PayloadNodeHeartbeat) (nowMs : UInt32) :
    healthMonitorProcessHeartbeat api hm o srcNode hb nowMs
      = (heardMonitor hm srcNode nowMs, api.submitAll o (heartbeatProposals hm srcNode)) := by
  cases hfind : findNode hm srcNode with
  | none =>
      have hlookup := HealthMonitor.lookup_eq_none.mp hfind
      simp [healthMonitorProcessHeartbeat, heardMonitor, heartbeatProposals, hfind, hlookup,
        OracleApi.submitAll]
  | some idx =>
      have hlookup := HealthMonitor.lookup_eq_some hfind
      simp only [healthMonitorProcessHeartbeat, heardMonitor, heartbeatProposals, hfind, hlookup]
      by_cases hfail : Failing (hm.slot idx).status
      · have hstatus : (hm.slot idx).entry.status = nodeSuspect
            ∨ (hm.slot idx).entry.status = nodeDown := hfail
        have hpropose := proposeTransition_eq api o
          { hm.slot idx with
            entry := { (hm.slot idx).entry with lastSeenMs := nowMs }, missCount := 0 }
          (show (hm.slot idx).status ≠ nodeUp from failing_ne_up hfail)
        simp only [if_pos hstatus, if_pos hfail, hpropose, heardSlot]
        rfl
      · have hstatus : ¬((hm.slot idx).entry.status = nodeSuspect
            ∨ (hm.slot idx).entry.status = nodeDown) := hfail
        simp only [if_neg hstatus, if_neg hfail, heardSlot]
        rfl

theorem lookup_heardMonitor (hm : HealthMonitor) (srcNode : UInt8) (nowMs : UInt32)
    (nodeId : UInt8) :
    (heardMonitor hm srcNode nowMs).lookup nodeId
      = if nodeId = srcNode then (hm.lookup srcNode).map (heardSlot nowMs)
        else hm.lookup nodeId := by
  unfold heardMonitor
  cases hfind : findNode hm srcNode with
  | none =>
      have hlookup := HealthMonitor.lookup_eq_none.mp hfind
      by_cases hid : nodeId = srcNode <;> simp [hid, hlookup]
  | some idx =>
      have hkey : (heardSlot nowMs (hm.slot idx)).nodeId = srcNode := by
        rw [heardSlot_nodeId, HealthMonitor.slot_nodeId hfind]
      simp only [HealthMonitor.lookup_setSlot hfind hkey, HealthMonitor.lookup_eq_some hfind,
        Option.map_some]

/-! ### Registering a node and committing a transition

Both write the slot of one node and take a slot for it where it has none and the table is not full. -/

/-- Whether the node has a slot or can get one. -/
def HealthMonitor.HasRoom (hm : HealthMonitor) (nodeId : UInt8) : Prop :=
  hm.lookup nodeId ≠ none ∨ hm.slots.length < maxHealthNodes

instance (hm : HealthMonitor) (nodeId : UInt8) : Decidable (hm.HasRoom nodeId) :=
  inferInstanceAs (Decidable (_ ∨ _))

/-- The slot of a node, or the fresh one it would get. -/
def HealthMonitor.slotOf (hm : HealthMonitor) (nodeId boxId : UInt8) : Slot :=
  (hm.lookup nodeId).getD (Slot.fresh nodeId boxId)

/-- Write the slot of a node, or a new one with the given box. -/
def HealthMonitor.update (hm : HealthMonitor) (nodeId boxId : UInt8) (f : Slot → Slot) :
    HealthMonitor :=
  match findNode hm nodeId with
  | some idx => hm.setSlot idx (f (hm.slot idx))
  | none =>
      if maxHealthNodes ≤ hm.slots.length then hm
      else { hm with slots := hm.slots ++ [f (Slot.fresh nodeId boxId)] }

theorem HealthMonitor.hasRoom_of_find {hm : HealthMonitor} {nodeId : UInt8} {idx : Nat}
    (h : findNode hm nodeId = some idx) : hm.HasRoom nodeId := by
  left
  simp [lookup_eq_some h]

theorem HealthMonitor.hasRoom_iff_of_not_find {hm : HealthMonitor} {nodeId : UInt8}
    (h : findNode hm nodeId = none) :
    hm.HasRoom nodeId ↔ ¬maxHealthNodes ≤ hm.slots.length := by
  rw [HasRoom, lookup_eq_none.mp h]
  simp

theorem statusOf_eq {hm : HealthMonitor} {nodeId : UInt8} {s : Slot}
    (h : hm.lookup nodeId = some s) : hm.statusOf nodeId = s.status := by
  rw [HealthMonitor.statusOf, h, Option.map_some, Option.getD_some]

theorem slotOf_eq {hm : HealthMonitor} {nodeId boxId : UInt8} {s : Slot}
    (h : hm.lookup nodeId = some s) : hm.slotOf nodeId boxId = s := by
  rw [HealthMonitor.slotOf, h, Option.getD_some]

theorem HealthMonitor.lookup_update (hm : HealthMonitor) (nodeId boxId : UInt8) {f : Slot → Slot}
    (hf : ∀ s, (f s).nodeId = s.nodeId) (other : UInt8) :
    (hm.update nodeId boxId f).lookup other
      = if other = nodeId ∧ hm.HasRoom nodeId then some (f (hm.slotOf nodeId boxId))
        else hm.lookup other := by
  unfold update slotOf
  cases hfind : findNode hm nodeId with
  | some idx =>
      have hkey : (f (hm.slot idx)).nodeId = nodeId := by rw [hf, slot_nodeId hfind]
      simp [lookup_setSlot hfind hkey, lookup_eq_some hfind, hasRoom_of_find hfind]
  | none =>
      have hlookup := lookup_eq_none.mp hfind
      have hroom := hasRoom_iff_of_not_find hfind
      by_cases hfull : maxHealthNodes ≤ hm.slots.length
      · simp [hfull, hroom]
      · have hkey : (f (Slot.fresh nodeId boxId)).nodeId = nodeId := hf _
        have hnew : Base.lookup Slot.nodeId hm.slots (f (Slot.fresh nodeId boxId)).nodeId = none := by
          rw [hkey]
          exact hlookup
        have happend := lookup_append hnew other
        rw [hkey] at happend
        simp only [if_neg hfull, hlookup, Option.getD_none]
        rw [show ({ hm with slots := hm.slots ++ [f (Slot.fresh nodeId boxId)] } :
          HealthMonitor).lookup other = _ from happend]
        simp [hfull, hroom, HealthMonitor.lookup]

theorem HealthMonitor.update_eq (hm : HealthMonitor) (nodeId boxId : UInt8) (f : Slot → Slot) :
    hm.update nodeId boxId f = { hm with slots := (hm.update nodeId boxId f).slots } := by
  unfold update
  split
  · rfl
  · split <;> rfl

@[simp] theorem HealthMonitor.update_boxId (hm : HealthMonitor) (nodeId boxId : UInt8)
    (f : Slot → Slot) : (hm.update nodeId boxId f).boxId = hm.boxId := by
  rw [update_eq]

@[simp] theorem HealthMonitor.update_transport (hm : HealthMonitor) (nodeId boxId : UInt8)
    (f : Slot → Slot) : (hm.update nodeId boxId f).transport = hm.transport := by
  rw [update_eq]

@[simp] theorem HealthMonitor.update_lastTickMs (hm : HealthMonitor) (nodeId boxId : UInt8)
    (f : Slot → Slot) : (hm.update nodeId boxId f).lastTickMs = hm.lastTickMs := by
  rw [update_eq]

@[simp] theorem HealthMonitor.update_corroboration (hm : HealthMonitor) (nodeId boxId : UInt8)
    (f : Slot → Slot) : (hm.update nodeId boxId f).corroboration = hm.corroboration := by
  rw [update_eq]

theorem HealthMonitor.setSlot_slots {hm : HealthMonitor} {nodeId : UInt8} {idx : Nat}
    (h : findNode hm nodeId = some idx) (f : Slot → Slot) :
    (hm.setSlot idx (f (hm.slot idx))).slots = hm.slots.modify idx f := by
  have hidx : idx < hm.slots.length := (List.findIdx?_eq_some_iff_getElem.mp h).1
  rw [setSlot, slot, List.modify_eq_set_getElem?]
  simp [hidx]

theorem HealthMonitor.update_slots (hm : HealthMonitor) (nodeId boxId : UInt8) (f : Slot → Slot) :
    (hm.update nodeId boxId f).slots
      = upsert Slot.nodeId maxHealthNodes hm.slots nodeId (Slot.fresh nodeId boxId) f := by
  unfold update upsert
  cases hfind : findNode hm nodeId with
  | some idx =>
      rw [show (hm.slots.findIdx? fun s => s.nodeId == nodeId) = some idx from hfind]
      exact setSlot_slots hfind f
  | none =>
      rw [show (hm.slots.findIdx? fun s => s.nodeId == nodeId) = none from hfind]
      dsimp only
      split <;> rfl

theorem heardMonitor_slots (hm : HealthMonitor) (srcNode : UInt8) (nowMs : UInt32) :
    (heardMonitor hm srcNode nowMs).slots
      = modifyKey Slot.nodeId hm.slots srcNode (heardSlot nowMs) := by
  unfold heardMonitor modifyKey
  cases hfind : findNode hm srcNode with
  | some idx =>
      rw [show (hm.slots.findIdx? fun s => s.nodeId == srcNode) = some idx from hfind]
      exact HealthMonitor.setSlot_slots hfind _
  | none =>
      rw [show (hm.slots.findIdx? fun s => s.nodeId == srcNode) = none from hfind]

theorem setSlot_length (hm : HealthMonitor) (fresh s : Slot) :
    ({ hm with slots := hm.slots ++ [fresh] } : HealthMonitor).setSlot hm.slots.length s
      = { hm with slots := hm.slots ++ [s] } := by
  simp [HealthMonitor.setSlot]

theorem slot_length (hm : HealthMonitor) (fresh : Slot) :
    ({ hm with slots := hm.slots ++ [fresh] } : HealthMonitor).slot hm.slots.length = fresh := by
  simp [HealthMonitor.slot]

/-- The slot of a node that announced itself. -/
def announcedSlot (boxId nodeType : UInt8) (nowMs : UInt32) (s : Slot) : Slot where
  entry := { s.entry with
    boxId, nodeType, status := nodeUp, lastSeenMs := nowMs, statusTerm := 0 }
  missCount := 0
  suspectSinceMs := 0

@[simp] theorem announcedSlot_nodeId (boxId nodeType : UInt8) (nowMs : UInt32) (s : Slot) :
    (announcedSlot boxId nodeType nowMs s).nodeId = s.nodeId := rfl

def announceAck (hm : HealthMonitor) (srcNode : UInt8) : Frame :=
  ⟨srcNode, ethertypeHeartbeat, .nodeAnnounceAck,
    PayloadNodeAnnounceAck.bytes ⟨srcNode, hm.boxId, nodeUp⟩⟩

theorem healthMonitorProcessAnnounce_eq (hm : HealthMonitor) (srcNode : UInt8)
    (ann : PayloadNodeAnnounce) (nowMs : UInt32) :
    healthMonitorProcessAnnounce hm srcNode ann nowMs
      = (hm.update srcNode 0 (announcedSlot hm.boxId ann.nodeType nowMs),
        if hm.HasRoom srcNode ∧ hm.transport then [announceAck hm srcNode] else []) := by
  unfold healthMonitorProcessAnnounce findOrAlloc HealthMonitor.update
  cases hfind : findNode hm srcNode with
  | some idx =>
      have hroom := HealthMonitor.hasRoom_of_find hfind
      cases htransport : hm.transport <;>
        simp [HealthMonitor.setSlot, announcedSlot, announceAck, hroom, htransport]
  | none =>
      have hroom := HealthMonitor.hasRoom_iff_of_not_find hfind
      by_cases hfull : maxHealthNodes ≤ hm.slots.length
      · simp [hfull, hroom]
      · simp only [if_neg hfull, slot_length, setSlot_length]
        cases htransport : hm.transport <;>
          simp [hfull, hroom, announcedSlot, announceAck]

/-- The slot of a node after a committed transition. -/
def committedSlot (newStatus : UInt8) (term : UInt32) (s : Slot) : Slot :=
  { s with entry := { s.entry with status := newStatus, statusTerm := term } }

@[simp] theorem committedSlot_nodeId (newStatus : UInt8) (term : UInt32) (s : Slot) :
    (committedSlot newStatus term s).nodeId = s.nodeId := rfl

/-- The event frame of a committed transition. -/
def healthEvent (targetNode targetBox oldStatus newStatus : UInt8) (term timestampMs : UInt32) :
    Frame :=
  ⟨0xFF, ethertypeHealth, if newStatus = nodeDown then .failureEvent else .healthUpdate,
    PayloadHealthUpdate.bytes ⟨targetNode, targetBox, oldStatus, newStatus, term, timestampMs⟩⟩

theorem healthTableApply_eq (hm : HealthMonitor) (targetNode targetBox oldStatus newStatus : UInt8)
    (term : UInt32) :
    healthTableApply hm targetNode targetBox oldStatus newStatus term
      = (hm.update targetNode targetBox (committedSlot newStatus term),
        if hm.HasRoom targetNode ∧ hm.statusOf targetNode ≠ newStatus ∧ hm.transport then
          [healthEvent targetNode targetBox oldStatus newStatus term
            (hm.slotOf targetNode targetBox).entry.lastSeenMs]
        else []) := by
  unfold healthTableApply HealthMonitor.update HealthMonitor.statusOf HealthMonitor.slotOf
  cases hfind : findNode hm targetNode with
  | some idx =>
      have hroom := HealthMonitor.hasRoom_of_find hfind
      simp only [HealthMonitor.lookup_eq_some hfind, Option.map_some, Option.getD_some]
      by_cases hprev : (hm.slot idx).entry.status = newStatus <;>
        cases htransport : hm.transport <;>
          simp [HealthMonitor.setSlot, committedSlot, healthEvent, hroom, htransport, hprev]
  | none =>
      have hroom := HealthMonitor.hasRoom_iff_of_not_find hfind
      simp only [HealthMonitor.lookup_eq_none.mp hfind, Option.map_none, Option.getD_none]
      by_cases hfull : maxHealthNodes ≤ hm.slots.length
      · simp [hfull, hroom]
      · simp only [if_neg hfull, slot_length, setSlot_length, Slot.fresh_status]
        by_cases hprev : nodeUp = newStatus <;> cases htransport : hm.transport <;>
          simp [hprev, hroom, hfull, committedSlot, healthEvent]

/-! ### The tick -/

@[simp] theorem countMisses_entry (s : Slot) (nowMs : UInt32) :
    (countMisses s nowMs).entry = s.entry := by
  rw [countMisses]
  split <;> rfl

@[simp] theorem countMisses_suspectSinceMs (s : Slot) (nowMs : UInt32) :
    (countMisses s nowMs).suspectSinceMs = s.suspectSinceMs := by
  rw [countMisses]
  split <;> rfl

theorem countMisses_missCount (s : Slot) (nowMs : UInt32) :
    (countMisses s nowMs).missCount
      = if hbIntervalMs ≤ nowMs - s.entry.lastSeenMs then
          ((nowMs - s.entry.lastSeenMs) / hbIntervalMs).toUInt16
        else s.missCount := by
  rw [countMisses]
  split <;> rfl

/-- An UP entry has missed enough heartbeats to become SUSPECT. -/
def MissesEnough (nowMs : UInt32) (s : Slot) : Prop :=
  suspectThreshold ≤ (countMisses s nowMs).missCount

/-- A SUSPECT entry has been so for long enough to become DOWN. -/
def TimerExpired (nowMs : UInt32) (s : Slot) : Prop :=
  downTimeoutMs ≤ nowMs - s.suspectSinceMs

instance (nowMs : UInt32) (s : Slot) : Decidable (MissesEnough nowMs s) :=
  inferInstanceAs (Decidable (_ ≤ _))

instance (nowMs : UInt32) (s : Slot) : Decidable (TimerExpired nowMs s) :=
  inferInstanceAs (Decidable (_ ≤ _))

section
variable (hm : HealthMonitor) (leader : Bool) (nowMs : UInt32) (beyond : Nat → UInt8)

/-- The transition that a tick proposes for a slot. -/
def slotProposal (s : Slot) : Option Proposal :=
  if s.status = nodeUp then
    if MissesEnough nowMs s then some (s.propose nodeSuspect) else none
  else if s.status = nodeSuspect then
    if TimerExpired nowMs s ∧ leader ∧ corroborated hm beyond s.nodeId s.boxId nowMs then
      some (s.propose nodeDown)
    else none
  else none

/-- The slot after a tick. -/
def tickedSlot (s : Slot) : Slot :=
  let counted := countMisses s nowMs
  if s.status = nodeUp then
    if MissesEnough nowMs s then
      { counted.withStatus nodeSuspect with suspectSinceMs := nowMs }
    else counted
  else if s.status = nodeSuspect then
    if TimerExpired nowMs s ∧ (leader → corroborated hm beyond s.nodeId s.boxId nowMs) then
      counted.withStatus nodeDown
    else counted
  else counted

section
variable {hm leader nowMs beyond} {s : Slot}

/-- An UP entry that missed enough becomes SUSPECT, and its timer starts. -/
theorem tickedSlot_of_missed (hup : s.status = nodeUp) (hmiss : MissesEnough nowMs s) :
    tickedSlot hm leader nowMs beyond s
      = { (countMisses s nowMs).withStatus nodeSuspect with suspectSinceMs := nowMs } := by
  rw [tickedSlot, if_pos hup, if_pos hmiss]

/-- A SUSPECT entry becomes DOWN when its timer expires, on a leader if its peers agree. -/
theorem tickedSlot_of_expired (hsus : s.status = nodeSuspect) (hexpired : TimerExpired nowMs s)
    (hcorr : leader → corroborated hm beyond s.nodeId s.boxId nowMs) :
    tickedSlot hm leader nowMs beyond s = (countMisses s nowMs).withStatus nodeDown := by
  have hup : s.status ≠ nodeUp := hsus ▸ nodeUp_ne_nodeSuspect.symm
  rw [tickedSlot, if_neg hup, if_pos hsus, if_pos ⟨hexpired, hcorr⟩]

/-- Of any other entry only the misses are counted. -/
theorem tickedSlot_of_neither (hmissed : ¬(s.status = nodeUp ∧ MissesEnough nowMs s))
    (hexpired : ¬(s.status = nodeSuspect ∧ TimerExpired nowMs s ∧
      (leader → corroborated hm beyond s.nodeId s.boxId nowMs))) :
    tickedSlot hm leader nowMs beyond s = countMisses s nowMs := by
  rw [tickedSlot]
  by_cases hup : s.status = nodeUp
  · rw [if_pos hup, if_neg fun h => hmissed ⟨hup, h⟩]
  · rw [if_neg hup]
    by_cases hsus : s.status = nodeSuspect
    · rw [if_pos hsus, if_neg fun h => hexpired ⟨hsus, h⟩]
    · rw [if_neg hsus]

end

/-- What a tick can do to a slot. -/
theorem tickedSlot_cases (s : Slot) :
    (s.status = nodeUp ∧ MissesEnough nowMs s ∧ tickedSlot hm leader nowMs beyond s
        = { (countMisses s nowMs).withStatus nodeSuspect with suspectSinceMs := nowMs }) ∨
      ((s.status = nodeSuspect ∧ TimerExpired nowMs s ∧
          (leader → corroborated hm beyond s.nodeId s.boxId nowMs)) ∧
        tickedSlot hm leader nowMs beyond s = (countMisses s nowMs).withStatus nodeDown) ∨
      (¬(s.status = nodeUp ∧ MissesEnough nowMs s) ∧
        ¬(s.status = nodeSuspect ∧ TimerExpired nowMs s ∧
          (leader → corroborated hm beyond s.nodeId s.boxId nowMs)) ∧
        tickedSlot hm leader nowMs beyond s = countMisses s nowMs) := by
  by_cases hmissed : s.status = nodeUp ∧ MissesEnough nowMs s
  · exact .inl ⟨hmissed.1, hmissed.2, tickedSlot_of_missed hmissed.1 hmissed.2⟩
  · by_cases hexpired : s.status = nodeSuspect ∧ TimerExpired nowMs s ∧
        (leader → corroborated hm beyond s.nodeId s.boxId nowMs)
    · exact .inr (.inl ⟨hexpired, tickedSlot_of_expired hexpired.1 hexpired.2.1 hexpired.2.2⟩)
    · exact .inr (.inr ⟨hmissed, hexpired, tickedSlot_of_neither hmissed hexpired⟩)

@[simp] theorem tickedSlot_nodeId (s : Slot) :
    (tickedSlot hm leader nowMs beyond s).nodeId = s.nodeId := by
  rcases tickedSlot_cases hm leader nowMs beyond s with ⟨-, -, h⟩ | ⟨-, h⟩ | ⟨-, -, h⟩
  all_goals rw [h]; simp [Slot.withStatus, Slot.nodeId]

@[simp] theorem tickedSlot_boxId (s : Slot) :
    (tickedSlot hm leader nowMs beyond s).boxId = s.boxId := by
  rcases tickedSlot_cases hm leader nowMs beyond s with ⟨-, -, h⟩ | ⟨-, h⟩ | ⟨-, -, h⟩
  all_goals rw [h]; simp [Slot.withStatus, Slot.boxId]

theorem tickedSlot_status (s : Slot) :
    (tickedSlot hm leader nowMs beyond s).status =
      if s.status = nodeUp ∧ MissesEnough nowMs s then nodeSuspect
      else if s.status = nodeSuspect ∧ TimerExpired nowMs s ∧
          (leader → corroborated hm beyond s.nodeId s.boxId nowMs) then nodeDown
      else s.status := by
  rcases tickedSlot_cases hm leader nowMs beyond s with ⟨hup, hmiss, h⟩ | ⟨hdown, h⟩ | ⟨hup, hdown, h⟩
  · rw [h, if_pos ⟨hup, hmiss⟩]
    rfl
  · have hup : s.status ≠ nodeUp := hdown.1 ▸ nodeUp_ne_nodeSuspect.symm
    rw [h, if_neg fun hbad => hup hbad.1, if_pos hdown]
    rfl
  · rw [h, if_neg hup, if_neg hdown, Slot.status, countMisses_entry]

theorem known_tickedSlot {s : Slot} (h : Known s.status) :
    Known (tickedSlot hm leader nowMs beyond s).status := by
  rw [tickedSlot_status]
  split_ifs
  · exact .inr (.inl rfl)
  · exact .inr (.inr rfl)
  · exact h

/-- A tick that is neither the first call nor at the time of the one before. -/
def HealthMonitor.Ticks : Prop := hm.lastTickMs ≠ 0 ∧ nowMs ≠ hm.lastTickMs

instance : Decidable (hm.Ticks nowMs) := inferInstanceAs (Decidable (_ ∧ _))

/-- The proposals of a tick, in slot order. -/
def tickProposals : List Proposal :=
  if hm.Ticks nowMs then hm.slots.filterMap (slotProposal hm leader nowMs beyond) else []

/-- The monitor after a tick. -/
def tickedMonitor : HealthMonitor where
  slots := if hm.Ticks nowMs then hm.slots.map (tickedSlot hm leader nowMs beyond) else hm.slots
  lastTickMs := nowMs
  corroboration := hm.corroboration
  transport := hm.transport
  boxId := hm.boxId

end

section
variable {ω : Type} (api : OracleApi ω)

theorem tickSlot_eq (hm : HealthMonitor) (nowMs : UInt32) (beyond : Nat → UInt8) (o : ω)
    (s : Slot) :
    tickSlot api hm nowMs beyond o s
      = (tickedSlot hm (api.oracleIsLeader o) nowMs beyond s,
        api.submitAll o (slotProposal hm (api.oracleIsLeader o) nowMs beyond s).toList) := by
  unfold tickSlot tickedSlot slotProposal
  dsimp only
  rw [countMisses_entry, countMisses_suspectSinceMs]
  by_cases hup : s.entry.status = nodeUp
  · simp only [if_pos hup]
    by_cases hmiss : MissesEnough nowMs s
    · have hmiss' : suspectThreshold ≤ (countMisses s nowMs).missCount := hmiss
      have hpropose := proposeTransition_eq api o
        ⟨s.entry, (countMisses s nowMs).missCount, nowMs⟩
        (show s.entry.status ≠ nodeSuspect from hup ▸ nodeUp_ne_nodeSuspect)
      simp only [if_pos hmiss, if_pos hmiss', hpropose]
      simp [Slot.withStatus, OracleApi.submitAll, Slot.propose]
    · have hmiss' : ¬suspectThreshold ≤ (countMisses s nowMs).missCount := hmiss
      simp only [if_neg hmiss, if_neg hmiss']
      rfl
  · simp only [if_neg hup]
    by_cases hsus : s.entry.status = nodeSuspect
    · simp only [if_pos hsus]
      by_cases htimer : TimerExpired nowMs s
      · have htimer' : downTimeoutMs ≤ nowMs - s.suspectSinceMs := htimer
        have hpropose := proposeTransition_eq api o (countMisses s nowMs)
          (show (countMisses s nowMs).entry.status ≠ nodeDown by
            rw [countMisses_entry, hsus]
            decide)
        simp only [if_pos htimer', htimer, true_and]
        cases hleader : api.oracleIsLeader o with
        | false => simp [OracleApi.submitAll]
        | true =>
            cases hcorr : corroborated hm beyond s.entry.nodeId s.entry.boxId nowMs with
            | false => simp [OracleApi.submitAll]
            | true =>
                simp only [if_true, hpropose]
                simp [OracleApi.submitAll, Slot.propose]
      · have htimer' : ¬downTimeoutMs ≤ nowMs - s.suspectSinceMs := htimer
        simp only [if_neg htimer', htimer, false_and, if_false]
        rfl
    · simp only [if_neg hsus]
      rfl

variable {api} (hkeeps : api.KeepsLeadership)

include hkeeps in
theorem oracleIsLeader_submitAll (o : ω) (ps : List Proposal) :
    api.oracleIsLeader (api.submitAll o ps) = api.oracleIsLeader o := by
  induction ps generalizing o with
  | nil => rfl
  | cons p ps ih => exact (ih (api.submit o p)).trans (hkeeps o p)

include hkeeps in
theorem tickSlots_eq (hm : HealthMonitor) (nowMs : UInt32) (beyond : Nat → UInt8)
    (slots : List Slot) (o : ω) :
    tickSlots api hm nowMs beyond slots o
      = (slots.map (tickedSlot hm (api.oracleIsLeader o) nowMs beyond),
        api.submitAll o (slots.filterMap (slotProposal hm (api.oracleIsLeader o) nowMs beyond))) := by
  induction slots generalizing o with
  | nil => rfl
  | cons s rest ih =>
      simp only [tickSlots, tickSlot_eq, ih, oracleIsLeader_submitAll hkeeps]
      cases hslot : slotProposal hm (api.oracleIsLeader o) nowMs beyond s with
      | none =>
          rw [List.filterMap_cons_none hslot]
          rfl
      | some p =>
          rw [List.filterMap_cons_some hslot]
          rfl

include hkeeps in
theorem healthMonitorTick_eq (hm : HealthMonitor) (o : ω) (nowMs : UInt32)
    (beyond : Nat → UInt8) :
    healthMonitorTick api hm o nowMs beyond
      = (tickedMonitor hm (api.oracleIsLeader o) nowMs beyond,
        api.submitAll o (tickProposals hm (api.oracleIsLeader o) nowMs beyond)) := by
  unfold healthMonitorTick tickedMonitor tickProposals
  by_cases hfirst : hm.lastTickMs = 0
  · have hticks : ¬hm.Ticks nowMs := fun h => h.1 hfirst
    simp [hfirst, hticks, OracleApi.submitAll]
  · simp only [if_neg hfirst]
    by_cases helapsed : nowMs = hm.lastTickMs
    · have hticks : ¬hm.Ticks nowMs := fun h => h.2 helapsed
      simp [← helapsed, hticks, OracleApi.submitAll]
    · have hne : nowMs - hm.lastTickMs ≠ 0 := fun h =>
        helapsed (by simpa using congrArg (· + hm.lastTickMs) h)
      have hticks : hm.Ticks nowMs := ⟨hfirst, helapsed⟩
      simp only [if_neg hne, tickSlots_eq hkeeps, if_pos hticks]
      rfl

end

/-- A tick proposes SUSPECT for an UP slot that missed enough, and DOWN for a SUSPECT slot whose
timer ran out, on a leader and with corroboration. -/
theorem slotProposal_eq_some {hm : HealthMonitor} {leader : Bool} {nowMs : UInt32}
    {beyond : Nat → UInt8} {s : Slot} {q : Proposal} :
    slotProposal hm leader nowMs beyond s = some q ↔
      (s.status = nodeUp ∧ MissesEnough nowMs s ∧ q = s.propose nodeSuspect) ∨
      (s.status = nodeSuspect ∧ TimerExpired nowMs s ∧ leader ∧
        corroborated hm beyond s.nodeId s.boxId nowMs ∧ q = s.propose nodeDown) := by
  unfold slotProposal
  constructor
  · intro h
    split_ifs at h with hup hmiss hsus hdown
    · exact .inl ⟨hup, hmiss, (Option.some.inj h).symm⟩
    · exact .inr ⟨hsus, hdown.1, hdown.2.1, hdown.2.2, (Option.some.inj h).symm⟩
  · rintro (⟨hup, hmiss, rfl⟩ | ⟨hsus, htimer, hleader, hcorr, rfl⟩)
    · rw [if_pos hup, if_pos hmiss]
    · have hup : s.status ≠ nodeUp := hsus ▸ nodeUp_ne_nodeSuspect.symm
      rw [if_neg hup, if_pos hsus, if_pos ⟨htimer, hleader, hcorr⟩]

theorem mem_tickProposals {hm : HealthMonitor} {leader : Bool} {nowMs : UInt32}
    {beyond : Nat → UInt8} {q : Proposal} :
    q ∈ tickProposals hm leader nowMs beyond ↔
      hm.Ticks nowMs ∧ ∃ s ∈ hm.slots, slotProposal hm leader nowMs beyond s = some q := by
  unfold tickProposals
  split <;> simp [*]

theorem mem_heartbeatProposals {hm : HealthMonitor} {srcNode : UInt8} {q : Proposal} :
    q ∈ heartbeatProposals hm srcNode ↔
      ∃ s, hm.lookup srcNode = some s ∧ Failing s.status ∧ q = s.propose nodeUp := by
  unfold heartbeatProposals
  cases hm.lookup srcNode with
  | none => simp
  | some s => by_cases hfail : Failing s.status <;> simp [hfail]

/-- The monitor proposes only what the state machine knows. -/
theorem known_of_mem_tickProposals {hm : HealthMonitor} {leader : Bool} {nowMs : UInt32}
    {beyond : Nat → UInt8} {q : Proposal} (h : q ∈ tickProposals hm leader nowMs beyond) :
    Known q.newStatus := by
  obtain ⟨-, s, -, hprop⟩ := mem_tickProposals.mp h
  rcases slotProposal_eq_some.mp hprop with ⟨-, -, rfl⟩ | ⟨-, -, -, -, rfl⟩
  · exact .inr (.inl rfl)
  · exact .inr (.inr rfl)

theorem known_of_mem_heartbeatProposals {hm : HealthMonitor} {srcNode : UInt8} {q : Proposal}
    (h : q ∈ heartbeatProposals hm srcNode) : Known q.newStatus := by
  obtain ⟨s, -, -, rfl⟩ := mem_heartbeatProposals.mp h
  exact .inl rfl

theorem lookup_tickedMonitor (hm : HealthMonitor) (leader : Bool) (nowMs : UInt32)
    (beyond : Nat → UInt8) (nodeId : UInt8) :
    (tickedMonitor hm leader nowMs beyond).lookup nodeId
      = if hm.Ticks nowMs then (hm.lookup nodeId).map (tickedSlot hm leader nowMs beyond)
        else hm.lookup nodeId := by
  unfold tickedMonitor HealthMonitor.lookup
  dsimp only
  split
  · exact lookup_map (tickedSlot_nodeId hm leader nowMs beyond) _ _
  · rfl

/-! ### Observations -/

@[simp] theorem healthMonitorUpdateCorroboration_slots (hm : HealthMonitor) (peer : UInt8)
    (obs : List ObservationEntry) (nowMs : UInt32) :
    (healthMonitorUpdateCorroboration hm peer obs nowMs).slots = hm.slots := by
  rw [healthMonitorUpdateCorroboration]
  split <;> rfl

@[simp] theorem healthMonitorUpdateCorroboration_boxId (hm : HealthMonitor) (peer : UInt8)
    (obs : List ObservationEntry) (nowMs : UInt32) :
    (healthMonitorUpdateCorroboration hm peer obs nowMs).boxId = hm.boxId := by
  rw [healthMonitorUpdateCorroboration]
  split <;> rfl

/-! ### Where slots come from -/

section
variable {hm : HealthMonitor} {s : Slot}

theorem mem_of_mem_setSlot {nodeId : UInt8} {idx : Nat} (hfind : findNode hm nodeId = some idx)
    {f : Slot → Slot} (h : s ∈ (hm.setSlot idx (f (hm.slot idx))).slots) :
    s ∈ hm.slots ∨ ∃ old ∈ hm.slots, s = f old := by
  rcases List.mem_or_eq_of_mem_set h with hold | hwritten
  · exact .inl hold
  · exact .inr ⟨_, mem_of_lookup (HealthMonitor.lookup_eq_some hfind), hwritten⟩

theorem mem_update {nodeId boxId : UInt8} {f : Slot → Slot}
    (h : s ∈ (hm.update nodeId boxId f).slots) :
    s ∈ hm.slots ∨ ∃ old, (old ∈ hm.slots ∨ old = Slot.fresh nodeId boxId) ∧ s = f old := by
  unfold HealthMonitor.update at h
  split at h
  · rename_i idx hfind
    rcases mem_of_mem_setSlot hfind h with hold | ⟨old, hold, hwritten⟩
    · exact .inl hold
    · exact .inr ⟨old, .inl hold, hwritten⟩
  · split at h
    · exact .inl h
    · rcases List.mem_append.mp h with hold | hnew
      · exact .inl hold
      · exact .inr ⟨_, .inr rfl, List.mem_singleton.mp hnew⟩

theorem mem_heardMonitor {srcNode : UInt8} {nowMs : UInt32}
    (h : s ∈ (heardMonitor hm srcNode nowMs).slots) :
    s ∈ hm.slots ∨ ∃ old ∈ hm.slots, s = heardSlot nowMs old := by
  unfold heardMonitor at h
  split at h
  · exact .inl h
  · rename_i idx hfind
    exact mem_of_mem_setSlot hfind h

theorem mem_tickedMonitor {leader : Bool} {nowMs : UInt32} {beyond : Nat → UInt8}
    (h : s ∈ (tickedMonitor hm leader nowMs beyond).slots) :
    s ∈ hm.slots ∨ ∃ old ∈ hm.slots, s = tickedSlot hm leader nowMs beyond old := by
  unfold tickedMonitor at h
  dsimp only at h
  split at h
  · obtain ⟨old, hold, rfl⟩ := List.mem_map.mp h
    exact .inr ⟨old, hold, rfl⟩
  · exact .inl h

end

end L2Oracle
