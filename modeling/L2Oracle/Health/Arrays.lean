import Mathlib.Logic.Function.Basic
import L2Oracle.Base.PrefixBy
import L2Oracle.Health.Run

/-!
# The three parallel arrays

`health_monitor_t` keeps what it knows of a node in three arrays, `table`, `miss_count` and
`suspect_since_ms`, at one index of all three, and counts the indices in use in `n_nodes`. Two
separate pieces of code find the index of a node or take a new one: `find_or_alloc`, which clears all
three elements, and the head of `health_table_apply`, which clears only the one of `table`.

This module has the operations once more on the arrays themselves, index by index as the source writes
them, and shows that the list of slots of `HealthMonitor` is a view of them: on arrays whose unused
miss counts and timers are zero, every operation on the arrays is the operation on the view
(`Setup.view_reachArrays`). What the other modules prove of the list is then a fact about the arrays, and
the representation invariant of the table is stated about the arrays.
-/

namespace L2Oracle

open Base

/-- `health_monitor_t`. An array is a function of its index; no operation uses an index that is not
below `MAX_HEALTH_NODES`. -/
structure HealthArrays where
  table : Nat → NodeHealthEntry
  missCount : Nat → UInt16
  suspectSinceMs : Nat → UInt32
  nNodes : Nat
  lastTickMs : UInt32
  corroboration : CorroborationTable
  transport : Bool
  boxId : UInt8

namespace Arrays

/-! ### The operations -/

def setEntry (a : HealthArrays) (i : Nat) (e : NodeHealthEntry) : HealthArrays :=
  { a with table := Function.update a.table i e }

def setMissCount (a : HealthArrays) (i : Nat) (misses : UInt16) : HealthArrays :=
  { a with missCount := Function.update a.missCount i misses }

def setSuspectSince (a : HealthArrays) (i : Nat) (since : UInt32) : HealthArrays :=
  { a with suspectSinceMs := Function.update a.suspectSinceMs i since }

/-- The entry that `memset` leaves. -/
def zeroEntry : NodeHealthEntry := ⟨0, 0, 0, 0, 0, 0⟩

def findNode (a : HealthArrays) (nodeId : UInt8) : Option Nat :=
  (List.range a.nNodes).find? fun i => (a.table i).nodeId == nodeId

def findOrAlloc (a : HealthArrays) (nodeId : UInt8) : Option (Nat × HealthArrays) :=
  match findNode a nodeId with
  | some i => some (i, a)
  | none =>
      if maxHealthNodes ≤ a.nNodes then none
      else
        let i := a.nNodes
        let a := { a with nNodes := a.nNodes + 1 }
        let a := setEntry a i { zeroEntry with nodeId }
        let a := setMissCount a i 0
        let a := setSuspectSince a i 0
        some (i, a)

/-- What `corroborated` reads: the corroboration table and the box. -/
def header (a : HealthArrays) : HealthMonitor where
  slots := []
  lastTickMs := a.lastTickMs
  corroboration := a.corroboration
  transport := a.transport
  boxId := a.boxId

section
variable {ω : Type} (api : OracleApi ω)

def proposeTransition (a : HealthArrays) (o : ω) (i : Nat) (newStatus : UInt8) :
    HealthArrays × ω :=
  let e := a.table i
  let oldStatus := e.status
  if oldStatus = newStatus then (a, o)
  else
    let (o, _) := api.oracleProposeHealthTransition o e.nodeId e.boxId oldStatus newStatus
    (setEntry a i { a.table i with status := newStatus }, o)

def healthMonitorProcessHeartbeat (a : HealthArrays) (o : ω) (srcNode : UInt8)
    (_hb : PayloadNodeHeartbeat) (nowMs : UInt32) : HealthArrays × ω :=
  match findNode a srcNode with
  | none => (a, o)
  | some i =>
      let a := setEntry a i { a.table i with lastSeenMs := nowMs }
      let a := setMissCount a i 0
      if (a.table i).status = nodeSuspect ∨ (a.table i).status = nodeDown then
        let (a, o) := proposeTransition api a o i nodeUp
        (setSuspectSince a i 0, o)
      else (a, o)

def healthMonitorProcessAnnounce (a : HealthArrays) (srcNode : UInt8) (ann : PayloadNodeAnnounce)
    (nowMs : UInt32) : HealthArrays × List Frame :=
  match findOrAlloc a srcNode with
  | none => (a, [])
  | some (i, a) =>
      let a := setEntry a i { a.table i with
        boxId := a.boxId
        nodeType := ann.nodeType
        status := nodeUp
        lastSeenMs := nowMs
        statusTerm := 0 }
      let a := setMissCount a i 0
      let a := setSuspectSince a i 0
      let ack : PayloadNodeAnnounceAck :=
        { assignedNodeId := srcNode, boxId := a.boxId, status := nodeUp }
      (a, if a.transport then
        [⟨srcNode, ethertypeHeartbeat, .nodeAnnounceAck, ack.bytes⟩] else [])

/-- The loop body of `health_monitor_tick`. -/
def tickIndex (nowMs : UInt32) (beyond : Nat → UInt8) (a : HealthArrays) (o : ω) (i : Nat) :
    HealthArrays × ω :=
  let sinceLast := nowMs - (a.table i).lastSeenMs
  let a := if hbIntervalMs ≤ sinceLast then
      setMissCount a i (sinceLast / hbIntervalMs).toUInt16 else a
  if (a.table i).status = nodeUp then
    if suspectThreshold ≤ a.missCount i then
      proposeTransition api (setSuspectSince a i nowMs) o i nodeSuspect
    else (a, o)
  else if (a.table i).status = nodeSuspect then
    if downTimeoutMs ≤ nowMs - a.suspectSinceMs i then
      if api.oracleIsLeader o then
        if corroborated (header a) beyond (a.table i).nodeId (a.table i).boxId nowMs then
          proposeTransition api a o i nodeDown
        else (a, o)
      else (setEntry a i { a.table i with status := nodeDown }, o)
    else (a, o)
  else (a, o)

def healthMonitorTick (a : HealthArrays) (o : ω) (nowMs : UInt32) (beyond : Nat → UInt8) :
    HealthArrays × ω :=
  if a.lastTickMs = 0 then ({ a with lastTickMs := nowMs }, o)
  else
    let elapsed := nowMs - a.lastTickMs
    let a := { a with lastTickMs := nowMs }
    if elapsed = 0 then (a, o)
    else (List.range a.nNodes).foldl (fun s i => tickIndex api nowMs beyond s.1 s.2 i) (a, o)

end

def healthMonitorUpdateCorroboration (a : HealthArrays) (peerId : UInt8)
    (obs : List ObservationEntry) (nowMs : UInt32) : HealthArrays :=
  if oracleMaxNodes ≤ peerId.toNat then a
  else
    let c := obs.foldl (recordObservation peerId) a.corroboration
    { a with corroboration :=
        { c with updatedMs := Function.update c.updatedMs peerId.toNat nowMs } }

/-- Its own search for the node; a new index gets an entry, and its miss count and timer are left. -/
def healthTableApply (a : HealthArrays) (targetNode targetBox oldStatus newStatus : UInt8)
    (term : UInt32) : HealthArrays × List Frame :=
  let found :=
    match (List.range a.nNodes).find? fun i => (a.table i).nodeId == targetNode with
    | some i => some (i, a)
    | none =>
        if maxHealthNodes ≤ a.nNodes then none
        else
          let i := a.nNodes
          let a := { a with nNodes := a.nNodes + 1 }
          some (i, setEntry a i { zeroEntry with nodeId := targetNode, boxId := targetBox })
  match found with
  | none => (a, [])
  | some (i, a) =>
      let prev := (a.table i).status
      let a := setEntry a i { a.table i with status := newStatus, statusTerm := term }
      let evt : PayloadHealthUpdate :=
        { targetNodeId := targetNode, targetBoxId := targetBox, oldStatus, newStatus, term
          timestampMs := (a.table i).lastSeenMs }
      let msgType := if newStatus = nodeDown then .failureEvent else .healthUpdate
      (a, if prev ≠ newStatus ∧ a.transport then
        [⟨0xFF, ethertypeHealth, msgType, evt.bytes⟩] else [])

/-! ### The slots as a view -/

/-- One index of the three arrays. -/
def slot (a : HealthArrays) (i : Nat) : Slot := ⟨a.table i, a.missCount i, a.suspectSinceMs i⟩

def write (a : HealthArrays) (i : Nat) (s : Slot) : HealthArrays :=
  { a with
    table := Function.update a.table i s.entry
    missCount := Function.update a.missCount i s.missCount
    suspectSinceMs := Function.update a.suspectSinceMs i s.suspectSinceMs }

/-- The list of the slots in use. -/
def view (a : HealthArrays) : HealthMonitor :=
  { header a with slots := (List.range a.nNodes).map (slot a) }

/-- Behind the slots in use, no misses are counted and no timer runs. -/
def Zeroed (a : HealthArrays) : Prop :=
  ∀ i, a.nNodes ≤ i → a.missCount i = 0 ∧ a.suspectSinceMs i = 0

theorem slot_write (a : HealthArrays) (i : Nat) (s : Slot) (j : Nat) :
    slot (write a i s) j = if j = i then s else slot a j := by
  by_cases hj : j = i <;> simp [slot, write, hj]

theorem write_slot (a : HealthArrays) (i : Nat) : write a i (slot a i) = a := by
  simp [write, slot]

theorem write_write (a : HealthArrays) (i : Nat) (s t : Slot) :
    write (write a i s) i t = write a i t := by
  simp [write]

theorem setEntry_eq (a : HealthArrays) (i : Nat) (e : NodeHealthEntry) :
    setEntry a i e = write a i { slot a i with entry := e } := by
  simp [setEntry, write, slot]

theorem setMissCount_eq (a : HealthArrays) (i : Nat) (misses : UInt16) :
    setMissCount a i misses = write a i { slot a i with missCount := misses } := by
  simp [setMissCount, write, slot]

theorem setSuspectSince_eq (a : HealthArrays) (i : Nat) (since : UInt32) :
    setSuspectSince a i since = write a i { slot a i with suspectSinceMs := since } := by
  simp [setSuspectSince, write, slot]

theorem slot_view {a : HealthArrays} {i : Nat} (hi : i < a.nNodes) :
    (view a).slot i = slot a i := by
  simp [HealthMonitor.slot, view, hi]

theorem view_write {a : HealthArrays} {i : Nat} (s : Slot) :
    view (write a i s) = (view a).setSlot i s := by
  simp only [view, HealthMonitor.setSlot]
  congr 1
  refine List.ext_getElem (by simp [write]) fun j hj hj' => ?_
  rw [List.getElem_set]
  simp only [List.getElem_map, List.getElem_range, slot_write, eq_comm (a := i)]

theorem view_append (a : HealthArrays) (s : Slot) :
    view { write a a.nNodes s with nNodes := a.nNodes + 1 }
      = { view a with slots := (view a).slots ++ [s] } := by
  have hold : ∀ i ∈ List.range a.nNodes,
      slot { write a a.nNodes s with nNodes := a.nNodes + 1 } i = slot a i := by
    intro i hi
    have hne : i ≠ a.nNodes := (List.mem_range.mp hi).ne
    exact (slot_write a a.nNodes s i).trans (if_neg hne)
  have hnew : slot { write a a.nNodes s with nNodes := a.nNodes + 1 } a.nNodes = s :=
    (slot_write a a.nNodes s a.nNodes).trans (if_pos rfl)
  simp only [view, List.range_succ, List.map_append, List.map_singleton, hnew]
  rw [List.map_congr_left hold]
  rfl

theorem findNode_eq (a : HealthArrays) (nodeId : UInt8) :
    findNode a nodeId = L2Oracle.findNode (view a) nodeId := by
  unfold findNode L2Oracle.findNode view
  dsimp only
  induction a.nNodes with
  | zero => rfl
  | succ n ih =>
      rw [List.range_succ, List.find?_append, ih, List.map_append, List.findIdx?_append]
      simp only [List.length_map, List.length_range]
      cases hfound : ((List.range n).map (slot a)).findIdx? fun s => s.entry.nodeId == nodeId with
      | some i => rfl
      | none =>
          by_cases hid : (a.table n).nodeId = nodeId <;> simp [slot, hid]

theorem lt_of_findNode {a : HealthArrays} {nodeId : UInt8} {i : Nat}
    (h : findNode a nodeId = some i) : i < a.nNodes :=
  List.mem_range.mp (List.mem_of_find?_eq_some h)

/-! ### Each operation is the operation on the view -/

/-- Write the index of a node, or a new one. -/
def update (a : HealthArrays) (nodeId boxId : UInt8) (f : Slot → Slot) : HealthArrays :=
  match findNode a nodeId with
  | some i => write a i (f (slot a i))
  | none =>
      if maxHealthNodes ≤ a.nNodes then a
      else { write a a.nNodes (f (Slot.fresh nodeId boxId)) with nNodes := a.nNodes + 1 }

theorem view_update (a : HealthArrays) (nodeId boxId : UInt8) (f : Slot → Slot) :
    view (update a nodeId boxId f) = (view a).update nodeId boxId f := by
  have hlen : (view a).slots.length = a.nNodes := by simp [view]
  unfold update HealthMonitor.update
  rw [← findNode_eq, hlen]
  cases hfind : findNode a nodeId with
  | some i =>
      dsimp only
      rw [view_write, slot_view (lt_of_findNode hfind)]
  | none =>
      dsimp only
      split
      · rfl
      · exact view_append a _

theorem healthMonitorProcessAnnounce_fst (a : HealthArrays) (srcNode : UInt8)
    (ann : PayloadNodeAnnounce) (nowMs : UInt32) :
    (healthMonitorProcessAnnounce a srcNode ann nowMs).1
      = update a srcNode 0 (announcedSlot a.boxId ann.nodeType nowMs) := by
  unfold healthMonitorProcessAnnounce findOrAlloc update
  cases hfind : findNode a srcNode with
  | some i => simp [setEntry, setMissCount, setSuspectSince, write, slot, announcedSlot]
  | none =>
      by_cases hfull : maxHealthNodes ≤ a.nNodes
      · simp only [if_pos hfull]
      · simp [if_neg hfull, setEntry, setMissCount, setSuspectSince, write, announcedSlot,
          Slot.fresh, zeroEntry]

theorem healthMonitorProcessAnnounce_snd (a : HealthArrays) (srcNode : UInt8)
    (ann : PayloadNodeAnnounce) (nowMs : UInt32) :
    (healthMonitorProcessAnnounce a srcNode ann nowMs).2
      = (L2Oracle.healthMonitorProcessAnnounce (view a) srcNode ann nowMs).2 := by
  have hlen : (view a).slots.length = a.nNodes := by simp [view]
  unfold healthMonitorProcessAnnounce findOrAlloc L2Oracle.healthMonitorProcessAnnounce
    L2Oracle.findOrAlloc
  rw [← findNode_eq, hlen]
  cases hfind : findNode a srcNode with
  | some i => rfl
  | none =>
      by_cases hfull : maxHealthNodes ≤ a.nNodes
      · simp only [if_pos hfull]
      · simp only [if_neg hfull]
        rfl

theorem healthTableApply_fst {a : HealthArrays} (h : Zeroed a)
    (targetNode targetBox oldStatus newStatus : UInt8) (term : UInt32) :
    (healthTableApply a targetNode targetBox oldStatus newStatus term).1
      = update a targetNode targetBox (committedSlot newStatus term) := by
  have hsearch : ((List.range a.nNodes).find? fun i => (a.table i).nodeId == targetNode)
      = findNode a targetNode := rfl
  unfold healthTableApply update
  rw [hsearch]
  cases hfind : findNode a targetNode with
  | some i => simp [setEntry, write, slot, committedSlot]
  | none =>
      by_cases hfull : maxHealthNodes ≤ a.nNodes
      · simp only [if_pos hfull]
      · -- the miss count and the timer of the new index are not written, they are zero already
        obtain ⟨hmiss, hsince⟩ := h a.nNodes (Nat.le_refl _)
        have hmissed : Function.update a.missCount a.nNodes 0 = a.missCount :=
          hmiss ▸ Function.update_eq_self _ _
        have hsuspect : Function.update a.suspectSinceMs a.nNodes 0 = a.suspectSinceMs :=
          hsince ▸ Function.update_eq_self _ _
        simp [if_neg hfull, setEntry, write, committedSlot, Slot.fresh, zeroEntry, hmissed, hsuspect]

theorem healthTableApply_snd (a : HealthArrays)
    (targetNode targetBox oldStatus newStatus : UInt8) (term : UInt32) :
    (healthTableApply a targetNode targetBox oldStatus newStatus term).2
      = (L2Oracle.healthTableApply (view a) targetNode targetBox oldStatus newStatus term).2 := by
  have hsearch : ((List.range a.nNodes).find? fun i => (a.table i).nodeId == targetNode)
      = findNode a targetNode := rfl
  have hlen : (view a).slots.length = a.nNodes := by simp [view]
  unfold healthTableApply L2Oracle.healthTableApply
  rw [hsearch, ← findNode_eq, hlen]
  cases hfind : findNode a targetNode with
  | some i =>
      simp only [slot_view (lt_of_findNode hfind), setEntry, Function.update_self]
      rfl
  | none =>
      by_cases hfull : maxHealthNodes ≤ a.nNodes
      · simp only [if_pos hfull]
      · have hnew := slot_length (view a) (Slot.fresh targetNode targetBox)
        rw [hlen] at hnew
        simp only [if_neg hfull, hnew, setEntry, Function.update_self]
        rfl

section
variable {ω : Type} (api : OracleApi ω)

theorem proposeTransition_eq (a : HealthArrays) (o : ω) (i : Nat) (newStatus : UInt8) :
    proposeTransition api a o i newStatus
      = (write a i (L2Oracle.proposeTransition api o (slot a i) newStatus).1,
        (L2Oracle.proposeTransition api o (slot a i) newStatus).2) := by
  unfold proposeTransition L2Oracle.proposeTransition
  by_cases hsame : (a.table i).status = newStatus
  · have hslot : (slot a i).entry.status = newStatus := hsame
    simp only [if_pos hsame, if_pos hslot, write_slot]
  · have hslot : ¬(slot a i).entry.status = newStatus := hsame
    simp only [if_neg hsame, if_neg hslot, setEntry_eq]
    rfl

/-- A heartbeat writes the index of its node. -/
def heard (a : HealthArrays) (srcNode : UInt8) (nowMs : UInt32) : HealthArrays :=
  match findNode a srcNode with
  | none => a
  | some i => write a i (heardSlot nowMs (slot a i))

theorem view_heard (a : HealthArrays) (srcNode : UInt8) (nowMs : UInt32) :
    view (heard a srcNode nowMs) = heardMonitor (view a) srcNode nowMs := by
  unfold heard heardMonitor
  rw [← findNode_eq]
  cases hfind : findNode a srcNode with
  | none => rfl
  | some i =>
      dsimp only
      rw [view_write, slot_view (lt_of_findNode hfind)]

theorem healthMonitorProcessHeartbeat_eq (a : HealthArrays) (o : ω) (srcNode : UInt8)
    (hb : PayloadNodeHeartbeat) (nowMs : UInt32) :
    healthMonitorProcessHeartbeat api a o srcNode hb nowMs
      = (heard a srcNode nowMs, api.submitAll o (heartbeatProposals (view a) srcNode)) := by
  unfold heard
  cases hfind : findNode a srcNode with
  | none =>
      have hlookup := HealthMonitor.lookup_eq_none.mp (findNode_eq a srcNode ▸ hfind)
      simp [healthMonitorProcessHeartbeat, heartbeatProposals, hfind, hlookup, OracleApi.submitAll]
  | some i =>
      have hlookup := HealthMonitor.lookup_eq_some (findNode_eq a srcNode ▸ hfind)
      rw [slot_view (lt_of_findNode hfind)] at hlookup
      simp only [healthMonitorProcessHeartbeat, heartbeatProposals, hfind, hlookup, setEntry_eq,
        setMissCount_eq, setSuspectSince_eq, proposeTransition_eq, write_write, slot_write, if_true]
      by_cases hfail : Failing (a.table i).status
      · have hstatus : (a.table i).status = nodeSuspect ∨ (a.table i).status = nodeDown := hfail
        have hslot : Failing (slot a i).status := hfail
        have hpropose := L2Oracle.proposeTransition_eq api o
          { slot a i with entry := { a.table i with lastSeenMs := nowMs }, missCount := 0 }
          (show (a.table i).status ≠ nodeUp from failing_ne_up hfail)
        simp only [write, Function.update_self, if_pos hstatus, if_pos hslot, heardSlot]
        simp only [hpropose]
        rfl
      · have hstatus : ¬((a.table i).status = nodeSuspect ∨ (a.table i).status = nodeDown) := hfail
        have hslot : ¬Failing (slot a i).status := hfail
        simp only [write, Function.update_self, if_neg hstatus, if_neg hslot, heardSlot]
        rfl

theorem tickSlot_congr {hm hm' : HealthMonitor} (hcorr : hm.corroboration = hm'.corroboration)
    (hbox : hm.boxId = hm'.boxId) (nowMs : UInt32) (beyond : Nat → UInt8) (o : ω) (s : Slot) :
    tickSlot api hm nowMs beyond o s = tickSlot api hm' nowMs beyond o s := by
  have hagrees : ∀ node box, corroborated hm beyond node box nowMs
      = corroborated hm' beyond node box nowMs := by
    intro node box
    have hpeer : peerAgrees hm beyond node nowMs = peerAgrees hm' beyond node nowMs := by
      funext p
      simp only [peerAgrees, hcorr]
    rw [corroborated, corroborated, hbox, hpeer]
  simp only [tickSlot, hagrees]

theorem tickSlots_congr {hm hm' : HealthMonitor} (hcorr : hm.corroboration = hm'.corroboration)
    (hbox : hm.boxId = hm'.boxId) (nowMs : UInt32) (beyond : Nat → UInt8) (slots : List Slot)
    (o : ω) : tickSlots api hm nowMs beyond slots o = tickSlots api hm' nowMs beyond slots o := by
  induction slots generalizing o with
  | nil => rfl
  | cons s slots ih => simp only [tickSlots, tickSlot_congr api hcorr hbox, ih]

theorem countMisses_eq (nowMs : UInt32) (a : HealthArrays) (i : Nat) :
    (if hbIntervalMs ≤ nowMs - (a.table i).lastSeenMs then
        setMissCount a i ((nowMs - (a.table i).lastSeenMs) / hbIntervalMs).toUInt16 else a)
      = write a i (countMisses (slot a i) nowMs) := by
  have hseen : (slot a i).entry.lastSeenMs = (a.table i).lastSeenMs := rfl
  rw [countMisses, hseen]
  split
  · rw [setMissCount_eq]
  · rw [write_slot]

/-- The loop body writes its own index, as the loop over slots writes its own slot. -/
theorem tickIndex_eq (nowMs : UInt32) (beyond : Nat → UInt8) (a : HealthArrays) (o : ω) (i : Nat) :
    tickIndex api nowMs beyond a o i
      = (write a i (tickSlot api (header a) nowMs beyond o (slot a i)).1,
        (tickSlot api (header a) nowMs beyond o (slot a i)).2) := by
  have htable : ∀ s, (write a i s).table i = s.entry := by simp [write]
  have hmiss : ∀ s, (write a i s).missCount i = s.missCount := by simp [write]
  have hsince : ∀ s, (write a i s).suspectSinceMs i = s.suspectSinceMs := by simp [write]
  have hheader : ∀ s, header (write a i s) = header a := fun _ => rfl
  unfold tickIndex tickSlot
  dsimp only
  rw [countMisses_eq]
  generalize countMisses (slot a i) nowMs = s
  simp only [htable, hmiss, hsince, hheader, setEntry_eq, setSuspectSince_eq, proposeTransition_eq,
    write_write, slot_write, if_true]
  split_ifs <;> rfl

theorem tickIndices_eq (nowMs : UInt32) (beyond : Nat → UInt8) (is : List Nat) (his : is.Nodup)
    (a : HealthArrays) (o : ω) :
    ∃ b, is.foldl (fun s i => tickIndex api nowMs beyond s.1 s.2 i) (a, o)
        = (b, (tickSlots api (header a) nowMs beyond (is.map (slot a)) o).2) ∧
      is.map (slot b) = (tickSlots api (header a) nowMs beyond (is.map (slot a)) o).1 ∧
      (∀ j ∉ is, slot b j = slot a j) ∧ header b = header a ∧ b.nNodes = a.nNodes := by
  induction is generalizing a o with
  | nil => exact ⟨a, rfl, rfl, fun _ _ => rfl, rfl, rfl⟩
  | cons i is ih =>
      obtain ⟨hi, his⟩ := List.nodup_cons.mp his
      rw [List.foldl_cons, tickIndex_eq]
      generalize hs : tickSlot api (header a) nowMs beyond o (slot a i) = r
      have hrest : is.map (slot (write a i r.1)) = is.map (slot a) := by
        refine List.map_congr_left fun j hj => ?_
        have hne : j ≠ i := fun heq => hi (heq ▸ hj)
        rw [slot_write, if_neg hne]
      obtain ⟨b, hb, hslots, hothers, hheader, hn⟩ := ih his (write a i r.1) r.2
      have hheader' : header (write a i r.1) = header a := rfl
      rw [hrest, hheader'] at hb hslots
      refine ⟨b, ?_, ?_, ?_, hheader, hn⟩
      · simp only [List.map_cons, tickSlots, hs]
        exact hb
      · simp only [List.map_cons, tickSlots, hs, hslots]
        rw [hothers i hi, slot_write, if_pos rfl]
      · intro j hj
        rw [List.mem_cons, not_or] at hj
        rw [hothers j hj.2, slot_write, if_neg hj.1]

/-- A tick is a tick of the view, and leaves the indices that are not in use. -/
theorem view_healthMonitorTick (a : HealthArrays) (o : ω) (nowMs : UInt32) (beyond : Nat → UInt8) :
    (view (healthMonitorTick api a o nowMs beyond).1, (healthMonitorTick api a o nowMs beyond).2)
        = L2Oracle.healthMonitorTick api (view a) o nowMs beyond ∧
      (healthMonitorTick api a o nowMs beyond).1.nNodes = a.nNodes ∧
      ∀ j, a.nNodes ≤ j → slot (healthMonitorTick api a o nowMs beyond).1 j = slot a j := by
  unfold healthMonitorTick L2Oracle.healthMonitorTick
  have hlast : (view a).lastTickMs = a.lastTickMs := rfl
  rw [hlast]
  dsimp only
  split_ifs with hfirst helapsed
  · exact ⟨rfl, rfl, fun _ _ => rfl⟩
  · exact ⟨rfl, rfl, fun _ _ => rfl⟩
  · obtain ⟨b, hb, hslots, hothers, hheader, hn⟩ := tickIndices_eq api nowMs beyond
      (List.range a.nNodes) List.nodup_range { a with lastTickMs := nowMs } o
    have hloop : tickSlots api (header { a with lastTickMs := nowMs }) nowMs beyond (view a).slots o
        = tickSlots api { view a with lastTickMs := nowMs } nowMs beyond (view a).slots o := by
      apply tickSlots_congr <;> rfl
    have hview : view b = { view a with
        lastTickMs := nowMs
        slots := (tickSlots api { view a with lastTickMs := nowMs } nowMs beyond
          (view a).slots o).1 } := by
      rw [← hloop, view, hn, hheader]
      exact congrArg (fun slots => ({ view a with lastTickMs := nowMs, slots } : HealthMonitor)) hslots
    refine ⟨?_, by rw [hb]; exact hn, fun j hj => by rw [hb]; exact hothers j (by simpa using hj)⟩
    rw [hb, hview]
    exact congrArg (fun r => (_, r.2)) hloop

end

end Arrays

/-! ### Runs -/

/-- A monitor as its arrays, with its oracle and the frames it has sent. -/
structure ArrayState where
  arrays : HealthArrays
  port : OraclePort
  sent : List Frame

def ArrayState.view (s : ArrayState) : MonitorState := ⟨Arrays.view s.arrays, s.port, s.sent⟩

def ArrayState.step (s : ArrayState) : MonitorOp → ArrayState
  | .announce srcNode ann now =>
      let (arrays, frames) :=
        Arrays.healthMonitorProcessAnnounce s.arrays srcNode ann (clock now)
      { s with arrays, sent := s.sent ++ frames }
  | .heartbeat srcNode hb now =>
      let (arrays, port) := Arrays.healthMonitorProcessHeartbeat OraclePort.api s.arrays s.port
        srcNode hb (clock now)
      { s with arrays, port }
  | .tick now beyond =>
      let (arrays, port) :=
        Arrays.healthMonitorTick OraclePort.api s.arrays s.port (clock now) beyond
      { s with arrays, port }
  | .apply t =>
      let (arrays, frames) := Arrays.healthTableApply s.arrays t.targetNode t.targetBox t.oldStatus
        t.newStatus t.term
      { s with arrays, sent := s.sent ++ frames }
  | .observe peer obs now =>
      if obs = [] then s
      else { s with
        arrays := Arrays.healthMonitorUpdateCorroboration s.arrays peer obs (clock now) }
  | .lead leader term => { s with port := { s.port with leader, term } }

/-- `health_monitor_init`: the whole structure is zero but for the transport and the box. -/
def Setup.initArrays (c : Setup) : ArrayState where
  arrays := {
    table := fun _ => Arrays.zeroEntry
    missCount := fun _ => 0
    suspectSinceMs := fun _ => 0
    nNodes := 0
    lastTickMs := 0
    corroboration := { status := fun _ => 0, updatedMs := fun _ => 0 }
    transport := c.transport
    boxId := c.boxId }
  port := ⟨c.leader, c.term, c.verdict, []⟩
  sent := []

def Setup.reachArrays (c : Setup) (ops : List MonitorOp) : ArrayState :=
  run ArrayState.step c.initArrays ops

theorem Setup.reachArrays_snoc (c : Setup) (ops : List MonitorOp) (op : MonitorOp) :
    c.reachArrays (ops ++ [op]) = (c.reachArrays ops).step op := by
  simp [reachArrays]

namespace Arrays

/-- The index belongs to the node. -/
def At (a : HealthArrays) (nodeId : UInt8) (i : Nat) : Prop :=
  i < a.nNodes ∧ (a.table i).nodeId = nodeId

theorem at_of_findNode {a : HealthArrays} {nodeId : UInt8} {i : Nat}
    (h : findNode a nodeId = some i) : At a nodeId i :=
  ⟨lt_of_findNode h, by simpa using List.find?_some h⟩

theorem at_write {a : HealthArrays} {nodeId : UInt8} {i : Nat} {s : Slot} (h : At a nodeId i)
    (hs : s.nodeId = nodeId) : At (write a i s) nodeId i :=
  ⟨h.1, by simpa [write] using hs⟩

/-- Writing the slot of a node leaves every index that is not the node's. -/
theorem slot_update {a : HealthArrays} {nodeId : UInt8} (boxId : UInt8) {f : Slot → Slot}
    (hf : ∀ s, (f s).nodeId = s.nodeId) {i : Nat} (h : ¬At (update a nodeId boxId f) nodeId i) :
    slot (update a nodeId boxId f) i = slot a i := by
  unfold update at h ⊢
  cases hfind : findNode a nodeId with
  | some j =>
      simp only [hfind] at h ⊢
      have hat := at_of_findNode hfind
      have hne : i ≠ j := by
        rintro rfl
        exact h (at_write hat ((hf _).trans hat.2))
      rw [slot_write, if_neg hne]
  | none =>
      simp only [hfind] at h ⊢
      by_cases hfull : maxHealthNodes ≤ a.nNodes
      · rw [if_pos hfull]
      · have hkey : (f (Slot.fresh nodeId boxId)).entry.nodeId = nodeId := hf _
        rw [if_neg hfull] at h ⊢
        have hne : i ≠ a.nNodes := by
          rintro rfl
          exact h ⟨Nat.lt_succ_self _, by simpa [write] using hkey⟩
        exact (slot_write a a.nNodes _ i).trans (if_neg hne)

theorem nNodes_le_update (a : HealthArrays) (nodeId boxId : UInt8) (f : Slot → Slot) :
    a.nNodes ≤ (update a nodeId boxId f).nNodes := by
  unfold update
  cases findNode a nodeId with
  | some i => exact Nat.le_refl _
  | none =>
      dsimp only
      split
      · exact Nat.le_refl _
      · exact Nat.le_succ _

theorem slot_heard {a : HealthArrays} {srcNode : UInt8} (nowMs : UInt32) {i : Nat}
    (h : ¬At (heard a srcNode nowMs) srcNode i) : slot (heard a srcNode nowMs) i = slot a i := by
  unfold heard at h ⊢
  cases hfind : findNode a srcNode with
  | none => rfl
  | some j =>
      simp only [hfind] at h ⊢
      have hat := at_of_findNode hfind
      have hne : i ≠ j := by
        rintro rfl
        exact h (at_write hat ((heardSlot_nodeId nowMs _).trans hat.2))
      rw [slot_write, if_neg hne]

theorem nNodes_heard (a : HealthArrays) (srcNode : UInt8) (nowMs : UInt32) :
    (heard a srcNode nowMs).nNodes = a.nNodes := by
  unfold heard
  cases findNode a srcNode <;> rfl

theorem Zeroed.of_slot {a b : HealthArrays} (h : Zeroed a) (hn : a.nNodes ≤ b.nNodes)
    (hslot : ∀ i, b.nNodes ≤ i → slot b i = slot a i) : Zeroed b := by
  intro i hi
  obtain ⟨hmiss, hsince⟩ := h i (hn.trans hi)
  obtain ⟨-, hmiss', hsince'⟩ := Slot.mk.inj (hslot i hi)
  exact ⟨hmiss'.trans hmiss, hsince'.trans hsince⟩

theorem Zeroed.update {a : HealthArrays} (h : Zeroed a) (nodeId boxId : UInt8) {f : Slot → Slot}
    (hf : ∀ s, (f s).nodeId = s.nodeId) : Zeroed (update a nodeId boxId f) :=
  h.of_slot (nNodes_le_update a nodeId boxId f) fun _ hi =>
    slot_update boxId hf fun hat => Nat.not_lt.mpr hi hat.1

end Arrays

open Arrays

/-- One operation on the arrays is the operation on the slots, and keeps the unused part zero. -/
theorem ArrayState.view_step {s : ArrayState} (h : Zeroed s.arrays) (op : MonitorOp) :
    (s.step op).view = s.view.step op ∧ Zeroed (s.step op).arrays := by
  cases op with
  | announce srcNode ann now =>
      have hfst := healthMonitorProcessAnnounce_fst s.arrays srcNode ann (clock now)
      have hsnd := healthMonitorProcessAnnounce_snd s.arrays srcNode ann (clock now)
      constructor
      · simp only [step, view, MonitorState.step, hfst, hsnd, view_update]
        simp only [L2Oracle.healthMonitorProcessAnnounce_eq]
        rfl
      · simp only [step, hfst]
        exact h.update _ _ (announcedSlot_nodeId _ _ _)
  | heartbeat srcNode hb now =>
      have hn := nNodes_heard s.arrays srcNode (clock now)
      constructor
      · simp only [step, view, MonitorState.step, Arrays.healthMonitorProcessHeartbeat_eq,
          L2Oracle.healthMonitorProcessHeartbeat_eq, view_heard]
      · simp only [step, Arrays.healthMonitorProcessHeartbeat_eq]
        exact h.of_slot hn.ge fun i hi => slot_heard _ fun hat => Nat.not_lt.mpr hi hat.1
  | tick now beyond =>
      obtain ⟨htick, hn, hrest⟩ := view_healthMonitorTick OraclePort.api s.arrays s.port
        (clock now) beyond
      refine ⟨?_, h.of_slot hn.ge fun i hi => hrest i (hn ▸ hi)⟩
      simp only [step, view, MonitorState.step, ← htick]
  | apply t =>
      have hfst := healthTableApply_fst h t.targetNode t.targetBox t.oldStatus t.newStatus t.term
      have hsnd := healthTableApply_snd s.arrays t.targetNode t.targetBox t.oldStatus t.newStatus
        t.term
      constructor
      · simp only [step, view, MonitorState.step, hfst, hsnd, view_update]
        simp only [L2Oracle.healthTableApply_eq]
      · simp only [step, hfst]
        exact h.update _ _ (committedSlot_nodeId _ _)
  | observe peer obs now =>
      simp only [step, view, MonitorState.step]
      split
      · exact ⟨rfl, h⟩
      · unfold Arrays.healthMonitorUpdateCorroboration L2Oracle.healthMonitorUpdateCorroboration
        split
        · exact ⟨rfl, h⟩
        · exact ⟨rfl, h⟩
  | lead leader term => exact ⟨rfl, h⟩

theorem Setup.view_reachArrays (c : Setup) (ops : List MonitorOp) :
    (c.reachArrays ops).view = c.reach ops ∧ Zeroed (c.reachArrays ops).arrays := by
  induction ops using List.reverseRecOn with
  | nil => exact ⟨rfl, fun _ _ => ⟨rfl, rfl⟩⟩
  | append_singleton ops op ih =>
      obtain ⟨hview, hzeroed⟩ := ih
      rw [c.reachArrays_snoc, c.reach_snoc, ← hview]
      exact ArrayState.view_step hzeroed op

/-! ### The representation invariant -/

/-- The id is in the table. -/
def Arrays.Registered (a : HealthArrays) (nodeId : UInt8) : Prop := ∃ i, At a nodeId i

/-- An operation registers a node only if it is an announcement or a committed transition of it and a
slot is free, and it unregisters none. -/
def RegistersNamed (c : Setup) (pre : List MonitorOp) (op : MonitorOp) : Prop :=
  ∀ nodeId, Registered (c.reachArrays (pre ++ [op])).arrays nodeId ↔
    Registered (c.reachArrays pre).arrays nodeId ∨
      op.registers? = some nodeId ∧ (c.reachArrays pre).arrays.nNodes < maxHealthNodes

/-- An announcement, a heartbeat or a committed transition changes no element of the three arrays but
those of the node it names. -/
def WritesNamed (c : Setup) (pre : List MonitorOp) (op : MonitorOp) : Prop :=
  ∀ nodeId, op.Names nodeId → ∀ i, ¬At (c.reachArrays (pre ++ [op])).arrays nodeId i →
    let before := (c.reachArrays pre).arrays
    let after := (c.reachArrays (pre ++ [op])).arrays
    after.table i = before.table i ∧ after.missCount i = before.missCount i ∧
      after.suspectSinceMs i = before.suspectSinceMs i

theorem Arrays.nNodes_eq (a : HealthArrays) : a.nNodes = (view a).ids.length := by
  simp [view, HealthMonitor.ids]

theorem Arrays.at_iff {a : HealthArrays} {nodeId : UInt8} {i : Nat} :
    At a nodeId i ↔ (view a).ids[i]? = some nodeId := by
  by_cases hi : i < a.nNodes <;> simp [At, view, HealthMonitor.ids, slot, hi]

theorem Arrays.registered_iff {a : HealthArrays} {nodeId : UInt8} :
    Registered a nodeId ↔ nodeId ∈ (view a).ids := by
  simp only [Registered, at_iff, List.mem_iff_getElem?]

theorem Setup.ids_reachArrays (c : Setup) (ops : List MonitorOp) :
    (Arrays.view (c.reachArrays ops).arrays).ids = (c.reach ops).hm.ids := by
  rw [← (c.view_reachArrays ops).1]
  rfl

theorem MonitorState.length_ids_step {s : MonitorState} (op : MonitorOp)
    (h : s.hm.ids.length ≤ maxHealthNodes) : (s.step op).hm.ids.length ≤ maxHealthNodes := by
  rw [step_ids, List.length_append]
  cases hnew : s.hm.newId op with
  | none => simpa using h
  | some nodeId =>
      have hroom := (Option.filter_eq_some_iff.mp hnew).2
      simp only [decide_eq_true_eq] at hroom
      simpa using Nat.succ_le_of_lt hroom.2

theorem Setup.ids_initial (c : Setup) (pre post : List MonitorOp) :
    (c.reach pre).hm.ids <+: (c.reach (pre ++ post)).hm.ids := by
  induction post using List.reverseRecOn with
  | nil => rw [List.append_nil]
  | append_singleton post op ih =>
      rw [← List.append_assoc, reach_snoc, MonitorState.step_ids]
      exact ih.trans (List.prefix_append _ _)

theorem registersNamed (c : Setup) (pre : List MonitorOp) (op : MonitorOp) :
    RegistersNamed c pre op := by
  intro nodeId
  rw [registered_iff, registered_iff, c.ids_reachArrays, c.ids_reachArrays, nNodes_eq,
    c.ids_reachArrays, c.reach_snoc, MonitorState.step_ids, List.mem_append, Option.mem_toList,
    HealthMonitor.newId, Option.filter_eq_some_iff]
  simp only [decide_eq_true_eq]
  constructor
  · rintro (hmem | ⟨hop, -, hroom⟩)
    · exact .inl hmem
    · exact .inr ⟨hop, hroom⟩
  · rintro (hmem | ⟨hop, hroom⟩)
    · exact .inl hmem
    · by_cases hmem : nodeId ∈ (c.reach pre).hm.ids
      · exact .inl hmem
      · exact .inr ⟨hop, hmem, hroom⟩

theorem writesNamed (c : Setup) (pre : List MonitorOp) (op : MonitorOp) :
    WritesNamed c pre op := by
  intro nodeId hnames i hat
  have hzeroed := (c.view_reachArrays pre).2
  have hslot : slot (c.reachArrays (pre ++ [op])).arrays i = slot (c.reachArrays pre).arrays i := by
    rw [c.reachArrays_snoc] at hat ⊢
    cases op with
    | announce srcNode ann now =>
        obtain rfl : srcNode = nodeId := hnames
        simp only [ArrayState.step, healthMonitorProcessAnnounce_fst] at hat ⊢
        exact slot_update 0 (announcedSlot_nodeId _ _ _) hat
    | heartbeat srcNode hb now =>
        obtain rfl : srcNode = nodeId := hnames
        simp only [ArrayState.step, Arrays.healthMonitorProcessHeartbeat_eq] at hat ⊢
        exact slot_heard _ hat
    | apply t =>
        obtain rfl : t.targetNode = nodeId := hnames
        simp only [ArrayState.step, healthTableApply_fst hzeroed] at hat ⊢
        exact slot_update _ (committedSlot_nodeId _ _) hat
    | tick | observe | lead => cases hnames
  exact Slot.mk.inj hslot

/-- In every run the table holds at most `MAX_HEALTH_NODES` ids, pairwise distinct; an id keeps its
index and the count never falls; only an announcement or a committed transition with a free slot
registers a node; and an operation that names a node writes that node's index only. -/
theorem table_representation (c : Setup) (ops : List MonitorOp) :
    (c.reachArrays ops).arrays.nNodes ≤ maxHealthNodes ∧
      (∀ i j nodeId, At (c.reachArrays ops).arrays nodeId i →
        At (c.reachArrays ops).arrays nodeId j → i = j) ∧
      (∀ pre post, ops = pre ++ post →
        (c.reachArrays pre).arrays.nNodes ≤ (c.reachArrays ops).arrays.nNodes ∧
          ∀ nodeId i, At (c.reachArrays pre).arrays nodeId i →
            At (c.reachArrays ops).arrays nodeId i) ∧
      Throughout (RegistersNamed c) ops ∧ Throughout (WritesNamed c) ops := by
  refine ⟨?_, ?_, ?_, fun pre op _ _ => registersNamed c pre op,
    fun pre op _ _ => writesNamed c pre op⟩
  · rw [nNodes_eq, c.ids_reachArrays]
    induction ops using List.reverseRecOn with
    | nil => exact Nat.zero_le _
    | append_singleton ops op ih =>
        rw [c.reach_snoc]
        exact MonitorState.length_ids_step op ih
  · intro i j nodeId hi hj
    rw [at_iff, c.ids_reachArrays] at hi hj
    exact HealthMonitor.index_unique (c.reach_nodup ops) hi hj
  · rintro pre post rfl
    have hinitial := c.ids_initial pre post
    rw [nNodes_eq, nNodes_eq, c.ids_reachArrays, c.ids_reachArrays]
    refine ⟨hinitial.length_le, fun nodeId i hi => ?_⟩
    rw [at_iff, c.ids_reachArrays] at hi ⊢
    exact getElem?_of_initial hinitial hi

end L2Oracle
