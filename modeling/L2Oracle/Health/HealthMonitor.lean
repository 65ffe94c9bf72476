import L2Oracle.Protocol.WireFormat

/-!
# The health monitor

`health_monitor.c` and `health_table.c`, function by function. The monitor reaches Raft only through
`oracle_is_leader` and `oracle_propose_health_transition`, so those two are a parameter `OracleApi`
here, over any state an oracle may have, and the transport only through `send`, so what it sends is a
list of frames that the function returns. Console output is left out.

The source keeps `table`, `miss_count` and `suspect_since_ms` as parallel arrays of
`MAX_HEALTH_NODES` elements, of which the first `n_nodes` are in use. A slot here is one index of all
three, and the list of slots is the part in use. The rest of each array is zero from
`health_monitor_init` on, so a slot that comes into use starts with a zero miss count and timer,
whichever function takes it.

The calls of these functions come from `vHealthTask` of `main.c`, and `healthMessage` is its choice
among them.
-/

namespace L2Oracle

/-! ### States and constants -/

def nodeUp : UInt8 := 0
def nodeSuspect : UInt8 := 1
def nodeDown : UInt8 := 2

def hbIntervalMs : UInt32 := 10
def suspectThreshold : UInt16 := 3
def downTimeoutMs : UInt32 := 50
def staleObsMs : UInt32 := 500
def corroborationK : Nat := 2
def maxHealthNodes : Nat := 16
def oracleMaxNodes : Nat := 8

/-- `node_health_entry_t`. -/
structure NodeHealthEntry where
  nodeId : UInt8
  boxId : UInt8
  nodeType : UInt8
  status : UInt8
  lastSeenMs : UInt32
  statusTerm : UInt32
deriving DecidableEq, Repr

/-- One index of `table`, `miss_count` and `suspect_since_ms`. -/
structure Slot where
  entry : NodeHealthEntry
  missCount : UInt16
  suspectSinceMs : UInt32
deriving DecidableEq, Repr

/-- A slot just taken into use: `memset` to zero, then the node and the box. -/
def Slot.fresh (nodeId boxId : UInt8) : Slot where
  entry := { nodeId, boxId, nodeType := 0, status := 0, lastSeenMs := 0, statusTerm := 0 }
  missCount := 0
  suspectSinceMs := 0

def Slot.withStatus (s : Slot) (status : UInt8) : Slot :=
  { s with entry := { s.entry with status } }

/-- `corroboration_table_t`. The matrix `status[ORACLE_MAX_NODES][MAX_HEALTH_NODES]` is addressed by
the byte offset of its elements, row after row. -/
structure CorroborationTable where
  status : Nat → UInt8
  updatedMs : Nat → UInt32

/-- The offset of `status[peer][node]`. The source checks no bound before it reads, so an index past
the end of a row is an offset in a later row or behind the matrix. -/
def corroborationOffset (peer node : Nat) : Nat := maxHealthNodes * peer + node

/-- `health_monitor_t`, without its pointer to the oracle. `transport` says whether the pointer to
the transport is set. -/
structure HealthMonitor where
  slots : List Slot
  lastTickMs : UInt32
  corroboration : CorroborationTable
  transport : Bool
  boxId : UInt8

/-- `hm->table[idx]` with the elements of the parallel arrays. -/
def HealthMonitor.slot (hm : HealthMonitor) (idx : Nat) : Slot :=
  hm.slots.getD idx (Slot.fresh 0 0)

def HealthMonitor.setSlot (hm : HealthMonitor) (idx : Nat) (s : Slot) : HealthMonitor :=
  { hm with slots := hm.slots.set idx s }

/-- The two functions of the oracle that the monitor calls. The second takes the target node, its
box, the old and the new status, and returns the oracle after the call and the result. -/
structure OracleApi (ω : Type) where
  oracleIsLeader : ω → Bool
  oracleProposeHealthTransition : ω → UInt8 → UInt8 → UInt8 → UInt8 → ω × Int

/-! ### Internal helpers -/

def findNode (hm : HealthMonitor) (nodeId : UInt8) : Option Nat :=
  hm.slots.findIdx? fun s => s.entry.nodeId == nodeId

/-- The index of the node's slot, with the monitor after the slot was taken if there was none. -/
def findOrAlloc (hm : HealthMonitor) (nodeId : UInt8) : Option (Nat × HealthMonitor) :=
  match findNode hm nodeId with
  | some idx => some (idx, hm)
  | none =>
      if maxHealthNodes ≤ hm.slots.length then none
      else some (hm.slots.length, { hm with slots := hm.slots ++ [Slot.fresh nodeId 0] })

section
variable {ω : Type} (api : OracleApi ω)

/-- The result of the proposal is not looked at. -/
def proposeTransition (o : ω) (s : Slot) (newStatus : UInt8) : Slot × ω :=
  let oldStatus := s.entry.status
  if oldStatus = newStatus then (s, o)
  else
    let (o, _) := api.oracleProposeHealthTransition o s.entry.nodeId s.entry.boxId oldStatus newStatus
    (s.withStatus newStatus, o)

/-- Whether peer `p`'s report counts towards the DOWN transition of `targetNode`. `beyond` is what a
read behind the matrix finds. -/
def peerAgrees (hm : HealthMonitor) (beyond : Nat → UInt8) (targetNode : UInt8) (nowMs : UInt32)
    (p : Nat) : Bool :=
  if nowMs - hm.corroboration.updatedMs p > staleObsMs then false
  else
    let off := corroborationOffset p targetNode.toNat
    let status := if off < maxHealthNodes * oracleMaxNodes then hm.corroboration.status off
      else beyond off
    decide (nodeSuspect ≤ status)

def corroborated (hm : HealthMonitor) (beyond : Nat → UInt8) (targetNode targetBox : UInt8)
    (nowMs : UInt32) : Bool :=
  if targetBox = hm.boxId then true
  else
    let agree := (List.range oracleMaxNodes).countP (peerAgrees hm beyond targetNode nowMs)
    decide (corroborationK ≤ agree)

/-! ### Public API -/

def healthMonitorInit (transport : Bool) (boxId : UInt8) : HealthMonitor where
  slots := []
  lastTickMs := 0
  corroboration := { status := fun _ => 0, updatedMs := fun _ => 0 }
  transport
  boxId

def healthMonitorProcessHeartbeat (hm : HealthMonitor) (o : ω) (srcNode : UInt8)
    (_hb : PayloadNodeHeartbeat) (nowMs : UInt32) : HealthMonitor × ω :=
  match findNode hm srcNode with
  | none => (hm, o)
  | some idx =>
      let s := hm.slot idx
      let s := { s with entry := { s.entry with lastSeenMs := nowMs }, missCount := 0 }
      if s.entry.status = nodeSuspect ∨ s.entry.status = nodeDown then
        let (s, o) := proposeTransition api o s nodeUp
        (hm.setSlot idx { s with suspectSinceMs := 0 }, o)
      else (hm.setSlot idx s, o)

def healthMonitorProcessAnnounce (hm : HealthMonitor) (srcNode : UInt8)
    (ann : PayloadNodeAnnounce) (nowMs : UInt32) : HealthMonitor × List Frame :=
  match findOrAlloc hm srcNode with
  | none => (hm, [])
  | some (idx, hm) =>
      let s := hm.slot idx
      let entry := { s.entry with
        boxId := hm.boxId
        nodeType := ann.nodeType
        status := nodeUp
        lastSeenMs := nowMs
        statusTerm := 0 }
      let hm := hm.setSlot idx { s with entry, missCount := 0, suspectSinceMs := 0 }
      let ack : PayloadNodeAnnounceAck :=
        { assignedNodeId := srcNode, boxId := hm.boxId, status := nodeUp }
      (hm, if hm.transport then
        [⟨srcNode, ethertypeHeartbeat, .nodeAnnounceAck, ack.bytes⟩] else [])

/-- The first half of the loop body of `health_monitor_tick`: misses are counted from the time since
the node was last seen, and stored in 16 bits. -/
def countMisses (s : Slot) (nowMs : UInt32) : Slot :=
  let sinceLast := nowMs - s.entry.lastSeenMs
  if hbIntervalMs ≤ sinceLast then { s with missCount := (sinceLast / hbIntervalMs).toUInt16 } else s

/-- The loop body of `health_monitor_tick` for one slot. -/
def tickSlot (hm : HealthMonitor) (nowMs : UInt32) (beyond : Nat → UInt8) (o : ω) (s : Slot) :
    Slot × ω :=
  let s := countMisses s nowMs
  if s.entry.status = nodeUp then
    if suspectThreshold ≤ s.missCount then
      proposeTransition api o { s with suspectSinceMs := nowMs } nodeSuspect
    else (s, o)
  else if s.entry.status = nodeSuspect then
    if downTimeoutMs ≤ nowMs - s.suspectSinceMs then
      if api.oracleIsLeader o then
        if corroborated hm beyond s.entry.nodeId s.entry.boxId nowMs then
          proposeTransition api o s nodeDown
        else (s, o)
      else (s.withStatus nodeDown, o)
    else (s, o)
  else (s, o)

/-- The loop of `health_monitor_tick`, which hands the oracle from slot to slot. -/
def tickSlots (hm : HealthMonitor) (nowMs : UInt32) (beyond : Nat → UInt8) :
    List Slot → ω → List Slot × ω
  | [], o => ([], o)
  | s :: rest, o =>
      let (s, o) := tickSlot api hm nowMs beyond o s
      let (rest, o) := tickSlots hm nowMs beyond rest o
      (s :: rest, o)

def healthMonitorTick (hm : HealthMonitor) (o : ω) (nowMs : UInt32) (beyond : Nat → UInt8) :
    HealthMonitor × ω :=
  if hm.lastTickMs = 0 then ({ hm with lastTickMs := nowMs }, o)
  else
    let elapsed := nowMs - hm.lastTickMs
    let hm := { hm with lastTickMs := nowMs }
    if elapsed = 0 then (hm, o)
    else
      let (slots, o) := tickSlots api hm nowMs beyond hm.slots o
      ({ hm with slots }, o)

end

/-- The confidence byte of an observation. -/
def confidence (status : UInt8) : UInt8 :=
  if status = nodeUp then 255 else if status = nodeSuspect then 128 else 0

def healthMonitorGetObservations (hm : HealthMonitor) : List ObservationEntry :=
  (hm.slots.take maxObservationsPerResp).map fun s =>
    { nodeId := s.entry.nodeId
      observedStatus := s.entry.status
      confidence := confidence s.entry.status }

/-- The loop body of `health_monitor_update_corroboration`. -/
def recordObservation (peerId : UInt8) (c : CorroborationTable) (ob : ObservationEntry) :
    CorroborationTable :=
  if ob.nodeId.toNat < maxHealthNodes then
    let off := corroborationOffset peerId.toNat ob.nodeId.toNat
    { c with status := Function.update c.status off ob.observedStatus }
  else c

def healthMonitorUpdateCorroboration (hm : HealthMonitor) (peerId : UInt8)
    (obs : List ObservationEntry) (nowMs : UInt32) : HealthMonitor :=
  if oracleMaxNodes ≤ peerId.toNat then hm
  else
    let c := obs.foldl (recordObservation peerId) hm.corroboration
    { hm with corroboration :=
        { c with updatedMs := Function.update c.updatedMs peerId.toNat nowMs } }

/-- `health_table_apply`: a committed transition, from `cb_applylog`. -/
def healthTableApply (hm : HealthMonitor) (targetNode targetBox oldStatus newStatus : UInt8)
    (term : UInt32) : HealthMonitor × List Frame :=
  let found :=
    match findNode hm targetNode with
    | some idx => some (idx, hm)
    | none =>
        if maxHealthNodes ≤ hm.slots.length then none
        else some (hm.slots.length, { hm with slots := hm.slots ++ [Slot.fresh targetNode targetBox] })
  match found with
  | none => (hm, [])
  | some (idx, hm) =>
      let s := hm.slot idx
      let prev := s.entry.status
      let s := { s with entry := { s.entry with status := newStatus, statusTerm := term } }
      let hm := hm.setSlot idx s
      let evt : PayloadHealthUpdate :=
        { targetNodeId := targetNode, targetBoxId := targetBox, oldStatus, newStatus, term
          timestampMs := s.entry.lastSeenMs }
      let msgType := if newStatus = nodeDown then .failureEvent else .healthUpdate
      (hm, if prev ≠ newStatus ∧ hm.transport then
        [⟨0xFF, ethertypeHealth, msgType, evt.bytes⟩] else [])

/-! ### Messages from the heartbeat queue -/

/-- A message that `vHealthTask` hands to the monitor. -/
inductive HealthMessage where
  | heartbeat (hb : PayloadNodeHeartbeat)
  | announce (ann : PayloadNodeAnnounce)

/-- What `vHealthTask` makes of a message; `beyond` is what lies behind its payload in memory. -/
def healthMessage (msgType : RaftMsgType) (payload : List UInt8) (beyond : Nat → UInt8) :
    Option HealthMessage :=
  let mem := Base.buffer payload beyond
  if msgType = .nodeHeartbeat ∧ PayloadNodeHeartbeat.size ≤ payload.length then
    some (.heartbeat (.read mem))
  else if msgType = .nodeAnnounce ∧ PayloadNodeAnnounce.size ≤ payload.length then
    some (.announce (.read mem))
  else none

theorem healthMessage_heartbeat {payload : List UInt8} (h : PayloadNodeHeartbeat.size ≤ payload.length)
    (beyond : Nat → UInt8) : healthMessage .nodeHeartbeat payload beyond
      = some (.heartbeat (.read (Base.buffer payload beyond))) :=
  if_pos ⟨rfl, h⟩

theorem healthMessage_announce {payload : List UInt8} (h : PayloadNodeAnnounce.size ≤ payload.length)
    (beyond : Nat → UInt8) : healthMessage .nodeAnnounce payload beyond
      = some (.announce (.read (Base.buffer payload beyond))) := by
  rw [healthMessage, if_neg fun hbad => nomatch hbad.1]
  exact if_pos ⟨rfl, h⟩

/-- Only an announcement that is long enough is handed over as one. -/
theorem announce_of_healthMessage {msgType : RaftMsgType} {payload : List UInt8}
    {beyond : Nat → UInt8} {ann : PayloadNodeAnnounce}
    (h : healthMessage msgType payload beyond = some (.announce ann)) :
    msgType = .nodeAnnounce ∧ PayloadNodeAnnounce.size ≤ payload.length := by
  unfold healthMessage at h
  dsimp only at h
  split_ifs at h with hheartbeat hannounce
  · cases h
  · exact hannounce

end L2Oracle
