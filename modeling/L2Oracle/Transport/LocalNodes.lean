import L2Oracle.Health.Automaton
import L2Oracle.Transport.Ethernet

/-!
# Which nodes are monitored as local

Compute nodes announce themselves to the STM32 of their box, and what announces itself is registered
with the box of the monitor: local nodes share it. The MAC is in promiscuous mode and `eth_recv` does not
hand on the `box_id` of the header, so an announcement from another box is registered in the same way,
and its node is then taken down without corroboration.

The path is followed from the bytes of a frame through `eth_recv`, the heartbeat queue with its depth,
and `vHealthTask` to the table. The model keeps the header beside a queued message, to say where the
message came from; no function reads it there.
-/

namespace L2Oracle

open Base

/-! ### The code -/

/-- `rx_msg_t`. -/
structure RxMsg where
  msgType : RaftMsgType
  srcNode : UInt8
  payload : List UInt8
deriving DecidableEq, Repr

/-- A message in the heartbeat queue, with the header of its frame. -/
structure Queued where
  msg : RxMsg
  header : OracleFrameHeader
deriving DecidableEq, Repr

/-- What one turn of `vEthRxTask` puts into the heartbeat queue. -/
def heartbeatMessage (rx : EthRx) : Option Queued :=
  match ethRecv rx oracleMaxPayloadV1 with
  | (len, some r) =>
      if len ≤ 0 then none
      else if r.ethertype = ethertypeHeartbeat then
        some ⟨⟨r.msgType, r.srcNode, r.payload⟩, OracleFrameHeader.read (buffer rx.frame rx.beyond)⟩
      else none
  | (_, none) => none

def hbInboxDepth : Nat := 8

/-- The oldest message of a full queue is dropped. -/
def sendToInbox (inbox : List Queued) (q : Queued) : List Queued :=
  if inbox.length < hbInboxDepth then inbox ++ [q] else inbox.drop 1 ++ [q]

/-- The call of the monitor that `vHealthTask` makes for a message. -/
def messageOp (msg : RxMsg) (beyond : Nat → UInt8) (now : Nat) : Option MonitorOp :=
  (healthMessage msg.msgType msg.payload beyond).map fun
    | .heartbeat hb => .heartbeat msg.srcNode hb now
    | .announce ann => .announce msg.srcNode ann now

/-- The heartbeat queue, and the calls of the monitor so far, oldest first. -/
structure LocalPath where
  inbox : List Queued
  ops : List MonitorOp

inductive PathEvent where
  /-- A turn of `vEthRxTask`. -/
  | frame (rx : EthRx)
  /-- A turn of `vHealthTask`: the times before and after its wait, what lies behind the payload of the
  message, and what lies behind the corroboration matrix. -/
  | health (sample now : Nat) (beyond matrix : Nat → UInt8)

def LocalPath.step (s : LocalPath) : PathEvent → LocalPath
  | .frame rx =>
      match heartbeatMessage rx with
      | none => s
      | some q => { s with inbox := sendToInbox s.inbox q }
  | .health sample now beyond matrix =>
      match s.inbox with
      | [] => { s with ops := s.ops ++ [.tick sample matrix] }
      | q :: inbox =>
          { inbox, ops := s.ops ++ (messageOp q.msg beyond now).toList ++ [.tick now matrix] }

def LocalPath.reach (es : List PathEvent) : LocalPath := run LocalPath.step ⟨[], []⟩ es

@[simp] theorem LocalPath.reach_snoc (es : List PathEvent) (e : PathEvent) :
    reach (es ++ [e]) = (reach es).step e := by
  simp [reach]

/-- The monitor that the frames lead to. -/
def Setup.monitorOf (c : Setup) (es : List PathEvent) : HealthMonitor :=
  (c.reach (LocalPath.reach es).ops).hm

/-! ### Which announcements there were -/

def RxMsg.IsAnnounce (msg : RxMsg) : Prop :=
  msg.msgType = .nodeAnnounce ∧ PayloadNodeAnnounce.size ≤ msg.payload.length

instance (msg : RxMsg) : Decidable msg.IsAnnounce := inferInstanceAs (Decidable (_ ∧ _))

/-- An announcement of the node was received whose header names the box. -/
def Announced (es : List PathEvent) (nodeId boxId : UInt8) : Prop :=
  ∃ rx, .frame rx ∈ es ∧ ∃ q ∈ heartbeatMessage rx, q.msg.IsAnnounce ∧ q.header.nodeId = nodeId ∧
    q.header.boxId = boxId

/-- Only a node that announced itself from the monitor's box is an entry of this box. -/
def LocalsAnnounced (c : Setup) (es : List PathEvent) : Prop :=
  ∀ s ∈ (c.monitorOf es).slots, s.boxId = c.boxId → Announced es s.nodeId c.boxId

/-- An announcement that takes a table entry names the monitor's box in its header, unless its node has
also sent one that does. -/
def RegistersLocals (c : Setup) (pre : List PathEvent) : PathEvent → Prop
  | .health .. => ∀ q ∈ (LocalPath.reach pre).inbox.head?, q.msg.IsAnnounce →
      q.msg.srcNode ∉ (c.monitorOf pre).ids → (c.monitorOf pre).ids.length < maxHealthNodes →
        q.header.boxId = c.boxId ∨ Announced pre q.msg.srcNode c.boxId
  | .frame _ => True

/-! ### Origins -/

theorem ethRecv_srcNode {rx : EthRx} {maxLen : Nat} {len : Int} {r : Received}
    (h : ethRecv rx maxLen = (len, some r)) :
    r.srcNode = (OracleFrameHeader.read (buffer rx.frame rx.beyond)).nodeId := by
  rw [ethRecv, ethParse] at h
  dsimp only at h
  split_ifs at h
  all_goals cases h
  rfl

/-- The id that a message goes by is the one of its header. -/
theorem heartbeatMessage_srcNode {rx : EthRx} {q : Queued} (h : q ∈ heartbeatMessage rx) :
    q.msg.srcNode = q.header.nodeId := by
  unfold heartbeatMessage at h
  split at h
  · rename_i len r hrecv
    split_ifs at h
    · cases h
    · rw [← Option.some.inj h]
      exact ethRecv_srcNode hrecv
    · cases h
  · cases h

theorem mem_sendToInbox {inbox : List Queued} {q q' : Queued} (h : q' ∈ sendToInbox inbox q) :
    q' ∈ inbox ∨ q' = q := by
  unfold sendToInbox at h
  split at h
  · exact (List.mem_append.mp h).imp_right List.mem_singleton.mp
  · exact (List.mem_append.mp h).imp List.mem_of_mem_drop List.mem_singleton.mp

theorem origin_of_mem_inbox {es : List PathEvent} {q : Queued} (h : q ∈ (LocalPath.reach es).inbox) :
    ∃ rx, .frame rx ∈ es ∧ q ∈ heartbeatMessage rx := by
  induction es using List.reverseRecOn with
  | nil => cases h
  | append_singleton es e ih =>
      have hearlier (hq : q ∈ (LocalPath.reach es).inbox) :
          ∃ rx, .frame rx ∈ es ++ [e] ∧ q ∈ heartbeatMessage rx := by
        obtain ⟨rx, hrx, hmessage⟩ := ih hq
        exact ⟨rx, List.mem_append_left _ hrx, hmessage⟩
      rw [LocalPath.reach_snoc] at h
      cases e with
      | frame rx =>
          simp only [LocalPath.step] at h
          split at h
          · exact hearlier h
          · rename_i q' hmessage
            rcases mem_sendToInbox h with hold | rfl
            · exact hearlier hold
            · exact ⟨rx, List.mem_append_right _ (List.mem_singleton_self _), hmessage⟩
      | health sample now beyond matrix =>
          simp only [LocalPath.step] at h
          split at h
          · exact hearlier h
          · rename_i head inbox hinbox
            refine hearlier ?_
            rw [hinbox]
            exact List.mem_cons_of_mem _ h

theorem Announced.snoc {es : List PathEvent} {nodeId boxId : UInt8} (h : Announced es nodeId boxId)
    (e : PathEvent) : Announced (es ++ [e]) nodeId boxId := by
  obtain ⟨rx, hrx, hq⟩ := h
  exact ⟨rx, List.mem_append_left _ hrx, hq⟩

theorem announced_health {es : List PathEvent} {nodeId boxId : UInt8} {sample now : Nat}
    {beyond matrix : Nat → UInt8}
    (h : Announced (es ++ [.health sample now beyond matrix]) nodeId boxId) :
    Announced es nodeId boxId := by
  obtain ⟨rx, hrx, hq⟩ := h
  rcases List.mem_append.mp hrx with hrx | hrx
  · exact ⟨rx, hrx, hq⟩
  · cases List.mem_singleton.mp hrx

/-! ### What a turn of the health task registers -/

theorem isLocal_messageOp {msg : RxMsg} {beyond : Nat → UInt8} {now : Nat} {op : MonitorOp}
    (h : op ∈ messageOp msg beyond now) : op.isLocal = true := by
  obtain ⟨m, -, rfl⟩ := Option.map_eq_some_iff.mp h
  cases m <;> rfl

theorem isLocal_reach (es : List PathEvent) : ∀ op ∈ (LocalPath.reach es).ops, op.isLocal = true := by
  induction es using List.reverseRecOn with
  | nil => exact fun op hop => by cases hop
  | append_singleton es e ih =>
      intro op hop
      rw [LocalPath.reach_snoc] at hop
      cases e with
      | frame rx =>
          simp only [LocalPath.step] at hop
          split at hop <;> exact ih op hop
      | health sample now beyond matrix =>
          simp only [LocalPath.step] at hop
          split at hop
          · rcases List.mem_append.mp hop with hop | hop
            · exact ih op hop
            · rw [List.mem_singleton.mp hop]
              rfl
          · rcases List.mem_append.mp hop with hop | hop
            · rcases List.mem_append.mp hop with hop | hop
              · exact ih op hop
              · exact isLocal_messageOp (Option.mem_toList.mp hop)
            · rw [List.mem_singleton.mp hop]
              rfl

theorem allLocal_monitorOf (c : Setup) (es : List PathEvent) : (c.monitorOf es).AllLocal := by
  have hrun (ops : List MonitorOp) (h : ∀ op ∈ ops, op.isLocal = true) :
      SameLocalTable (c.reach ops) (c.reach ops) := by
    induction ops using List.reverseRecOn with
    | nil => exact ⟨rfl, fun s hs => by cases hs⟩
    | append_singleton ops op ih =>
        rw [c.reach_snoc]
        exact (ih fun op hop => h op (List.mem_append_left _ hop)).step
          (.inl (h op (List.mem_append_right _ (List.mem_singleton_self op))))
  exact (hrun _ (isLocal_reach es)).2

theorem messageOp_of_announce {msg : RxMsg} (h : msg.IsAnnounce) (beyond : Nat → UInt8) (now : Nat) :
    messageOp msg beyond now
      = some (.announce msg.srcNode (.read (buffer msg.payload beyond)) now) := by
  rw [messageOp, h.1, healthMessage_announce h.2 beyond]
  rfl

theorem newId_messageOp {msg : RxMsg} (h : ¬msg.IsAnnounce) (hm : HealthMonitor) {beyond : Nat → UInt8}
    {now : Nat} {op : MonitorOp} (hop : op ∈ messageOp msg beyond now) : hm.newId op = none := by
  obtain ⟨m, hm', rfl⟩ := Option.map_eq_some_iff.mp hop
  cases m with
  | heartbeat hb => rfl
  | announce ann => exact absurd (announce_of_healthMessage hm') h

/-- The node that a turn of the health task registers. -/
def registers (c : Setup) (pre : List PathEvent) : Option UInt8 :=
  (LocalPath.reach pre).inbox.head?.bind fun q =>
    if q.msg.IsAnnounce ∧ q.msg.srcNode ∉ (c.monitorOf pre).ids ∧
        (c.monitorOf pre).ids.length < maxHealthNodes then some q.msg.srcNode
    else none

theorem ids_health (c : Setup) (pre : List PathEvent) (sample now : Nat)
    (beyond matrix : Nat → UInt8) :
    (c.monitorOf (pre ++ [.health sample now beyond matrix])).ids
      = (c.monitorOf pre).ids ++ (registers c pre).toList := by
  have htick (ops : List MonitorOp) (t : Nat) :
      (c.reach (ops ++ [.tick t matrix])).hm.ids = (c.reach ops).hm.ids := by
    rw [c.reach_snoc, MonitorState.step_ids]
    exact List.append_nil _
  unfold Setup.monitorOf registers
  rw [LocalPath.reach_snoc, LocalPath.step]
  cases hinbox : (LocalPath.reach pre).inbox with
  | nil => simp only [htick, List.head?_nil, Option.bind_none, Option.toList_none, List.append_nil]
  | cons q inbox =>
      simp only [htick, List.head?_cons, Option.bind_some]
      by_cases hannounce : q.msg.IsAnnounce
      · rw [messageOp_of_announce hannounce, Option.toList_some, c.reach_snoc,
          MonitorState.step_ids]
        simp [HealthMonitor.newId, MonitorOp.registers?, Option.filter, hannounce, Setup.monitorOf]
      · rw [if_neg fun h => hannounce h.1]
        cases hop : messageOp q.msg beyond now with
        | none => simp
        | some op =>
            rw [Option.toList_some, c.reach_snoc, MonitorState.step_ids,
              newId_messageOp hannounce _ (show op ∈ messageOp q.msg beyond now from hop)]

theorem registers_eq_some {c : Setup} {pre : List PathEvent} {nodeId : UInt8} :
    registers c pre = some nodeId ↔ ∃ q ∈ (LocalPath.reach pre).inbox.head?, q.msg.IsAnnounce ∧
      q.msg.srcNode ∉ (c.monitorOf pre).ids ∧ (c.monitorOf pre).ids.length < maxHealthNodes ∧
        q.msg.srcNode = nodeId := by
  unfold registers
  rw [Option.bind_eq_some_iff]
  refine exists_congr fun q => and_congr_right fun _ => ?_
  split
  · rename_i h
    rw [Option.some.injEq]
    exact ⟨fun heq => ⟨h.1, h.2.1, h.2.2, heq⟩, fun h => h.2.2.2⟩
  · rename_i h
    exact ⟨fun heq => (nomatch heq), fun hall => absurd ⟨hall.1, hall.2.1, hall.2.2.1⟩ h⟩

/-! ### Runs -/

theorem localsAnnounced_iff (c : Setup) (es : List PathEvent) :
    LocalsAnnounced c es ↔ ∀ nodeId ∈ (c.monitorOf es).ids, Announced es nodeId c.boxId := by
  have hbox : (c.monitorOf es).boxId = c.boxId := c.reach_boxId _
  constructor
  · intro h nodeId hid
    obtain ⟨s, hs, rfl⟩ := List.mem_map.mp hid
    exact h s hs ((allLocal_monitorOf c es s hs).trans hbox)
  · exact fun h s hs _ => h s.nodeId (List.mem_map_of_mem hs)

/-- After a turn of the health task every local node is announced exactly if the turn registers, if
any, one that is. -/
theorem localsAnnounced_health {c : Setup} {pre : List PathEvent} (h : LocalsAnnounced c pre)
    (sample now : Nat) (beyond matrix : Nat → UInt8) :
    LocalsAnnounced c (pre ++ [.health sample now beyond matrix]) ↔
      RegistersLocals c pre (.health sample now beyond matrix) := by
  rw [localsAnnounced_iff] at h ⊢
  rw [ids_health]
  constructor
  · intro hafter q hq hannounce hnew hroom
    have hregisters := registers_eq_some.mpr ⟨q, hq, hannounce, hnew, hroom, rfl⟩
    rw [hregisters] at hafter
    exact .inr (announced_health (hafter q.msg.srcNode (by simp)))
  · intro hregisters nodeId hid
    rcases List.mem_append.mp hid with hold | hid
    · exact (h nodeId hold).snoc _
    · obtain ⟨q, hq, hannounce, hnew, hroom, rfl⟩ :=
        registers_eq_some.mp (Option.mem_toList.mp hid)
      refine Announced.snoc ?_ _
      rcases hregisters q hq hannounce hnew hroom with hbox | hannounced
      · obtain ⟨rx, hrx, hmessage⟩ := origin_of_mem_inbox (List.mem_of_mem_head? hq)
        exact ⟨rx, hrx, q, hmessage, hannounce, (heartbeatMessage_srcNode hmessage).symm, hbox⟩
      · exact hannounced

theorem LocalsAnnounced.frame {c : Setup} {pre : List PathEvent} (h : LocalsAnnounced c pre)
    (rx : EthRx) : LocalsAnnounced c (pre ++ [.frame rx]) := by
  have hops : (LocalPath.reach (pre ++ [.frame rx])).ops = (LocalPath.reach pre).ops := by
    rw [LocalPath.reach_snoc, LocalPath.step]
    split <;> rfl
  intro s hs hbox
  rw [Setup.monitorOf, hops] at hs
  exact (h s hs hbox).snoc _

/-- For every sequence of frames and turns of the health task: only nodes that announced themselves from
the monitor's box ever are entries of that box, exactly if no announcement from elsewhere takes an
entry. -/
theorem locals_announced_iff (c : Setup) (es : List PathEvent) :
    (∀ pre, pre <+: es → LocalsAnnounced c pre) ↔ Throughout (RegistersLocals c) es := by
  constructor
  · intro h pre e post hsplit
    have hpre := h pre ⟨e :: post, hsplit.symm⟩
    have hafter := h (pre ++ [e]) ⟨post, by rw [hsplit]; simp⟩
    cases e with
    | frame rx => trivial
    | health sample now beyond matrix =>
        exact (localsAnnounced_health hpre sample now beyond matrix).mp hafter
  · intro h pre hpre
    refine (h.of_initial hpre).induction (I := LocalsAnnounced c) (fun s hs => by cases hs)
      fun earlier e hearlier he => ?_
    cases e with
    | frame rx => exact hearlier.frame rx
    | health sample now beyond matrix =>
        exact (localsAnnounced_health hearlier sample now beyond matrix).mpr he

/-- The announcement of node 9 of box 2, as it stands on the wire. -/
def foreignAnnounce : List UInt8 :=
  (oracleFrameInit broadcastMac (ethTransportCreate 9 2).srcMac ethertypeHeartbeat
    RaftMsgType.nodeAnnounce.code 9 2 0 16).bytes ++ 2 :: List.replicate 35 0

/-- Box 1 hears it. -/
def foreignRun : List PathEvent :=
  [.frame (.delivers foreignAnnounce zeros), .health 100 105 zeros zeros]

/-- The node of box 2 is an entry of box 1. -/
theorem foreign_local_foreignRun : ¬LocalsAnnounced leaderOfBox1 foreignRun := by
  intro h
  have hslots : (leaderOfBox1.monitorOf foreignRun).slots = [⟨⟨9, 1, 2, nodeUp, 105, 0⟩, 0, 0⟩] := by
    decide +kernel
  have hheader : (heartbeatMessage (.delivers foreignAnnounce zeros)).map (fun q => q.header.boxId)
      = some 2 := by decide +kernel
  obtain ⟨rx, hrx, q, hq, -, -, hbox⟩ := h _ (by rw [hslots]; exact List.mem_singleton_self _) rfl
  obtain rfl : rx = .delivers foreignAnnounce zeros := by simpa [foreignRun] using hrx
  rw [show heartbeatMessage (.delivers foreignAnnounce zeros) = some q from hq, Option.map_some,
    hbox] at hheader
  exact absurd (Option.some.inj hheader) (by decide)

end L2Oracle
