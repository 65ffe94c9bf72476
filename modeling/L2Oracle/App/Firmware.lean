import L2Oracle.App.Board
import L2Oracle.Raft.Frames
import L2Oracle.Raft.Leaders

/-!
# Boards on one segment

Every member is a board with the tasks of `main.c`, and they share an Ethernet segment. A frame that a
node sends goes out as the bytes that `eth_send` builds, and any board may receive it at any time, any
number of times or never. Frames that are not Raft's may come from anywhere: compute nodes send
heartbeats and announcements. `main.c` itself has node 1 in box 1 as its only member; here the members
and their boxes are those of the setup.

A message may wait in a queue while its node and others go on, so the frame it came in is one that was
sent at some earlier time. Nothing more is lost on the way: a run of the boards is a run of calls on
their nodes in which each node hears only what nodes have sent. All that holds of such runs holds of the
firmware as long as the calls on one node do not overlap, that is, as long as no task is preempted inside
a call by another that calls the oracle or the monitor of the same board.
-/

namespace L2Oracle

open Base

structure Firmware (σ : Type) where
  board : UInt8 → Board
  cluster : Cluster σ

section
variable {σ : Type} (c : ClusterSetup σ)

/-- The bytes of a packet's frame on the segment. -/
def ClusterSetup.onWire (p : Packet) : List UInt8 :=
  ethFrame (ethTransportCreate p.src (c.box p.src)) p.frame.ethertype p.frame.msgType p.frame.payload

/-- All nodes are set up, and each has its monitor. -/
def ClusterSetup.boot : Cluster σ :=
  { c.init with nodes := fun n => (NodeCall.startHealth.run c.lib (c.init.nodes n)).node }

/-- The schedulers start, each at its own tick count. -/
def ClusterSetup.firmwareBoot (start : UInt8 → Nat) : Firmware σ where
  board n := .boot (start n)
  cluster := c.boot

/-- A Raft frame that is received is one that a node has sent. -/
def ClusterSetup.OnSegment (net : List Packet) : BoardEvent → Prop
  | .rx rx => ∀ m ∈ rxMessage rx, m.1 = ethertypeRaft → ∃ p ∈ net, rx.frame = c.onWire p
  | .pass _ | .timer | .raft .. | .health .. => True

instance (net : List Packet) : ∀ e, Decidable (c.OnSegment net e)
  | .rx _ => inferInstanceAs (Decidable (∀ m ∈ rxMessage _, _ → _))
  | .pass _ | .timer | .raft .. | .health .. => inferInstanceAs (Decidable True)

/-- A step of a task of a board, with the whole call that it makes. -/
def ClusterSetup.firmwareStep (s : Firmware σ) (e : UInt8 × BoardEvent) : Firmware σ :=
  if e.1 ∈ c.members ∧ c.OnSegment s.cluster.net e.2 then
    { board := Function.update s.board e.1 ((s.board e.1).step e.2)
      cluster := ((s.board e.1).call e.2).elim s.cluster fun x => c.call s.cluster (e.1, x) }
  else s

/-- The call that a step makes. -/
def ClusterSetup.firmwareCall (s : Firmware σ) (e : UInt8 × BoardEvent) : Option ClusterCall :=
  if e.1 ∈ c.members ∧ c.OnSegment s.cluster.net e.2 then
    ((s.board e.1).call e.2).map fun x => (e.1, x)
  else none

/-! ### What waits in a queue was sent -/

/-- The message is what is heard of a Raft frame that a node has sent. -/
def MessageSent (net : List Packet) (msg : RxMsg) : Prop :=
  ∃ p ∈ net, p.frame.ethertype = ethertypeRaft ∧ msg = ⟨p.frame.msgType, p.src, p.frame.payload⟩

theorem MessageSent.mono {net net' : List Packet} {msg : RxMsg} (h : MessageSent net msg)
    (hle : net ⊆ net') : MessageSent net' msg := by
  obtain ⟨p, hp, hmsg⟩ := h
  exact ⟨p, hle hp, hmsg⟩

theorem net_subset_call (s : Cluster σ) (x : ClusterCall) : s.net ⊆ (c.call s x).net :=
  List.subset_append_left _ _

/-- The invariant of the boards: all frames are well-formed, and every message that was ever put into a
Raft queue was sent. -/
structure FirmwareInv (s : Firmware σ) : Prop where
  formed : ∀ p ∈ s.cluster.net, p.frame.WellFormed
  orderly : ∀ n, (s.board n).raftInbox.Orderly raftInboxDepth
  sent : ∀ n, ∀ msg ∈ (s.board n).raftInbox.sent, MessageSent s.cluster.net msg

variable {c}

theorem rxMessage_of_delivers {rx : EthRx} {m : UInt16 × RxMsg} (h : m ∈ rxMessage rx) :
    m ∈ rxMessage (.delivers rx.frame rx.beyond) := by
  rw [rxMessage, ethRecv] at h
  rw [rxMessage, ethRecv_delivers]
  split_ifs at h
  · cases h
  · cases h
  · exact h

/-- What is received as Raft from the segment was sent by a node. -/
theorem messageSent_of_rx {net : List Packet} (hformed : ∀ p ∈ net, p.frame.WellFormed) {rx : EthRx}
    (hsegment : c.OnSegment net (.rx rx)) {msg : RxMsg} (h : (ethertypeRaft, msg) ∈ rxMessage rx) :
    MessageSent net msg := by
  obtain ⟨p, hp, hframe⟩ := hsegment _ h rfl
  have hread := rxMessage_of_delivers h
  rw [hframe, rxMessage, ethRecv_delivers, ClusterSetup.onWire,
    ethParse_ethFrame (hformed p hp).length_le (hformed p hp).isOracleEthertype le_rfl,
    (hformed p hp).ofCode_code] at hread
  dsimp only at hread
  split at hread
  · cases hread
  · obtain ⟨htype, hmsg⟩ := Prod.mk.inj (Option.some.inj hread)
    exact ⟨p, hp, htype, hmsg.symm⟩

theorem FirmwareInv.accepts {s : Firmware σ} (h : FirmwareInv s) {n : UInt8} {e : BoardEvent}
    (hsegment : c.OnSegment s.cluster.net e) :
    ∀ msg ∈ (s.board n).accepts ethertypeRaft e, MessageSent s.cluster.net msg := by
  intro msg hmsg
  cases e with
  | rx rx =>
      rw [Board.accepts] at hmsg
      split at hmsg
      · obtain ⟨m, hm, hkeep⟩ := Option.bind_eq_some_iff.mp hmsg
        split at hkeep
        · rename_i htype
          obtain rfl := Option.some.inj hkeep
          exact messageSent_of_rx h.formed hsegment (htype ▸ hm)
        · cases hkeep
      · cases hmsg
  | pass | timer | raft | health => cases hmsg

/-- A message that a step takes from the Raft queue was sent. -/
theorem FirmwareInv.takes {s : Firmware σ} (h : FirmwareInv s) {n : UInt8} :
    ∀ msg ∈ (s.board n).takes, MessageSent s.cluster.net msg := by
  intro msg hmsg
  have hreceive : msg ∈ (s.board n).raftInbox.receive.map Prod.fst := by
    rw [Board.takes] at hmsg
    cases hraft : (s.board n).raft <;> rw [hraft] at hmsg
    · cases hmsg
    · exact hmsg
    · exact hmsg
    · cases hmsg
  obtain ⟨older, newer, hsent, -⟩ := (h.orderly n).newer_le (e := .receive) hreceive
  exact h.sent n msg (by rw [hsent]; simp)

/-- What a step of a board leaves in its Raft queue. -/
theorem FirmwareInv.inbox {s : Firmware σ} (h : FirmwareInv s) {n : UInt8} {e : BoardEvent}
    (hsegment : c.OnSegment s.cluster.net e) :
    ((s.board n).step e).raftInbox.Orderly raftInboxDepth ∧
      ∀ msg ∈ ((s.board n).step e).raftInbox.sent, MessageSent s.cluster.net msg := by
  rw [Board.raftInboxSimulation.sees _ _ trivial]
  have haccepts := h.accepts (n := n) hsegment
  rw [← Board.puts_raftMail] at haccepts
  cases hmail : (s.board n).raftMail e with
  | none => exact ⟨h.orderly n, h.sent n⟩
  | some mail =>
      rw [hmail, Option.bind_some] at haccepts
      refine ⟨(h.orderly n).step (by decide) mail, fun msg hmsg => ?_⟩
      rw [Option.elim_some, Mailbox.sent_step] at hmsg
      rcases List.mem_append.mp hmsg with hold | hnew
      · exact h.sent n msg hold
      · exact haccepts msg (Option.mem_toList.mp hnew)

theorem FirmwareInv.step {s : Firmware σ} (h : FirmwareInv s) (e : UInt8 × BoardEvent) :
    FirmwareInv (c.firmwareStep s e) := by
  rw [ClusterSetup.firmwareStep]
  split
  · rename_i henabled
    have hinbox := h.inbox (n := e.1) henabled.2
    have hnet : s.cluster.net ⊆ (((s.board e.1).call e.2).elim s.cluster
        fun x => c.call s.cluster (e.1, x)).net := by
      cases (s.board e.1).call e.2 with
      | none => exact List.Subset.refl _
      | some x => exact net_subset_call c s.cluster (e.1, x)
    constructor
    case formed =>
        cases (s.board e.1).call e.2 with
        | none => exact h.formed
        | some x => exact wellFormed_call c h.formed (e.1, x)
    case orderly =>
        exact (Function.forall_update_iff s.board fun _ b => b.raftInbox.Orderly raftInboxDepth).mpr
          ⟨hinbox.1, fun n _ => h.orderly n⟩
    case sent =>
        refine (Function.forall_update_iff s.board fun _ b =>
          ∀ msg ∈ b.raftInbox.sent, MessageSent _ msg).mpr ⟨fun msg hmsg => ?_, fun n _ msg hmsg => ?_⟩
        · exact (hinbox.2 msg hmsg).mono hnet
        · exact (h.sent n msg hmsg).mono hnet
  · exact h

/-! ### The boards make calls -/

theorem ofTask_call {b : Board} {e : BoardEvent} {x : NodeCall} (h : x ∈ b.call e) : x.OfTask := by
  cases e with
  | pass | timer | rx => cases h
  | raft beyond env now =>
      rw [Board.call] at h
      cases hraft : b.raft <;> simp only [hraft] at h
      case checking =>
          split at h
          · obtain rfl := Option.some.inj h
            trivial
          · cases h
      all_goals
          obtain ⟨msg, -, rfl⟩ := Option.map_eq_some_iff.mp h
          trivial
  | health beyond matrix env now =>
      rw [Board.call] at h
      cases hhealth : b.health with
      | idle =>
          rw [hhealth] at h
          cases h
      | ready sample =>
          simp only [hhealth] at h
          obtain rfl := Option.some.inj h
          trivial
      | waiting sample =>
          simp only [hhealth] at h
          obtain ⟨m, -, hcall⟩ := Option.bind_eq_some_iff.mp h
          obtain ⟨message, -, rfl⟩ := Option.map_eq_some_iff.mp hcall
          cases message <;> trivial

/-- What a task hands to the dispatcher was sent by a node. -/
theorem FirmwareInv.tasked {s : Firmware σ} (h : FirmwareInv s) {e : UInt8 × BoardEvent}
    {x : ClusterCall} (hx : x ∈ c.firmwareCall s e) : Tasked c s.cluster x := by
  rw [ClusterSetup.firmwareCall] at hx
  split at hx
  · rename_i henabled
    obtain ⟨call, hcall, rfl⟩ := Option.map_eq_some_iff.mp hx
    refine ⟨⟨henabled.1, fun p hp => ?_⟩, ofTask_call hcall⟩
    cases call with
    | dispatch srcNode msgType payload beyond env now =>
        obtain rfl := Option.mem_some_iff.mp hp
        have hmessage := (s.board e.1).message_call e.2
        rw [hcall, Option.bind_some, NodeCall.message] at hmessage
        have htakes : ⟨msgType, srcNode, payload⟩ ∈ (s.board e.1).takes := by
          cases he : e.2 with
          | raft => rw [he] at hmessage; exact hmessage.symm
          | pass | timer | rx | health => rw [he] at hmessage; cases hmessage
        obtain ⟨q, hq, htype, hmsg⟩ := h.takes _ htakes
        obtain ⟨rfl, rfl, rfl⟩ := RxMsg.mk.inj hmsg
        refine ⟨q, hq, ?_⟩
        rw [Packet.heardBy, htype, (h.formed q hq).ofCode_code]
    | startHealth | oracleTick | announce | heartbeat | tick | propose => cases hp
  · cases hx

/-- A step of a board is a call on its node, or none, and what is dispatched was sent by a node. -/
theorem ClusterSetup.firmwareSimulation :
    Simulation c.firmwareStep c.call Firmware.cluster c.firmwareCall FirmwareInv (Tasked c) where
  sees s e _ := by
    rw [firmwareStep, firmwareCall]
    split
    · cases (s.board e.1).call e.2 <;> rfl
    · rfl
  keeps _ e h := h.step e
  allows _ _ h _ hx := h.tasked hx

theorem firmwareInv_boot (start : UInt8 → Nat) : FirmwareInv (c.firmwareBoot start) where
  formed := List.forall_mem_nil _
  orderly _ := Mailbox.orderly_empty _
  sent _ := List.forall_mem_nil _

/-! ### Runs -/

/-- The steps of board `n`. -/
def ClusterSetup.boardEvent (c : ClusterSetup σ) (n : UInt8) (s : Firmware σ) (e : UInt8 × BoardEvent) :
    Option BoardEvent :=
  if (e.1 ∈ c.members ∧ c.OnSegment s.cluster.net e.2) ∧ e.1 = n then some e.2 else none

theorem ClusterSetup.boardSimulation (n : UInt8) :
    Simulation c.firmwareStep Board.step (fun s => s.board n) (c.boardEvent n) (fun _ => True)
      fun _ _ => True where
  keeps _ _ _ := trivial
  allows _ _ _ _ _ := trivial
  sees s e _ := by
    rw [firmwareStep, boardEvent]
    by_cases henabled : e.1 ∈ c.members ∧ c.OnSegment s.cluster.net e.2
    · rw [if_pos henabled]
      by_cases hn : e.1 = n
      · rw [if_pos ⟨henabled, hn⟩, ← hn]
        exact Function.update_self ..
      · rw [if_neg fun h => hn h.2]
        exact Function.update_of_ne (Ne.symm hn) ..
    · rw [if_neg henabled, if_neg fun h => henabled h.1]
      rfl

/-- The calls that the tasks make in a run. -/
def ClusterSetup.firmwareCalls (c : ClusterSetup σ) (start : UInt8 → Nat)
    (es : List (UInt8 × BoardEvent)) : List ClusterCall :=
  trace c.firmwareStep c.firmwareCall (c.firmwareBoot start) es

theorem cluster_firmwareRun (start : UInt8 → Nat) (es : List (UInt8 × BoardEvent)) :
    (run c.firmwareStep (c.firmwareBoot start) es).cluster
      = run c.call c.boot (c.firmwareCalls start es) :=
  ClusterSetup.firmwareSimulation.sees_run (firmwareInv_boot start) es

theorem tasked_firmwareCalls (start : UInt8 → Nat) (es : List (UInt8 × BoardEvent)) :
    c.Along Tasked c.boot (c.firmwareCalls start es) :=
  ClusterSetup.firmwareSimulation.allows_run (firmwareInv_boot start) es

theorem started_boot {view : σ → RaftView} (rules : RaftRules c.lib view) (hnodup : c.members.Nodup) :
    c.Started view c.boot where
  server _ hn := server_init rules hnodup hn
  net := rfl
  applied := rfl

end

end L2Oracle
