import L2Oracle.App.Board
import L2Oracle.Raft.Announced
import L2Oracle.Raft.Edges
import L2Oracle.Raft.OneLog

/-!
# The simulator

`sim_main.c` runs every node as a thread over UDP: the thread drains its socket, at most twenty
messages a round, then ticks the oracle and the monitor if it is time. A second thread for every node
plays a compute node. It announces itself and then sends heartbeats, until it is killed. The reports
that the threads print are left out, and so is the end of the run: what holds after any number of steps
holds when the threads are stopped.

A step of a thread goes up to its next call of the clock or the socket, and a run is any interleaving of
such steps, of the passing of time and of kills. What was sent to a port may be received there at any
time, any number of times or never; nothing else is sent to these ports.

On Ethernet a node hears what was sent to others. Here it does not, so the simulator can show less than
the boards can do. In particular no more than two nodes ever lead in it, and its nodes keep one log until
a second does.
-/

namespace L2Oracle

open Base

/-! ### The code -/

def maxSimNodes : Nat := 8
def simTickMs : Nat := 50
def nodeTypeX86 : UInt8 := 2

/-- What a turn of the loop that drains the socket makes of what `recv` returned. -/
def simMessage (rx : SimRx) : Option (UInt16 × RxMsg) :=
  match simRecv rx 128 with
  | (len, some r) => if len ≤ 0 then none else some (r.ethertype, ⟨r.msgType, r.srcNode, r.payload⟩)
  | (_, none) => none

/-- Where the thread of a node is: before its loop, or in it with the `now_val` of the round. -/
inductive NodeThread where
  | starting
  | top
  /-- At `recv`, after `i` messages. -/
  | draining (nowVal i : Nat)
  /-- At the tick of the oracle. -/
  | ticking (nowVal : Nat)
  /-- At the tick of the monitor. -/
  | checking (nowVal : Nat)
deriving DecidableEq, Repr

/-- The thread of a node, without the oracle and the monitor. The clock counts in 64 bits and never runs
back, so a time is a number here. -/
structure SimNode where
  thread : NodeThread
  lastTick : Nat
  lastHealthTick : Nat
deriving DecidableEq, Repr

/-- `node_thread`; `rx` is what the socket answers if the thread is at `recv`. -/
def SimNode.step (sn : SimNode) (time : Nat) (rx : SimRx) : SimNode :=
  match sn.thread with
  | .starting => ⟨.top, time, time⟩
  | .top => { sn with thread := .draining time 0 }
  | .draining nowVal i =>
      if (simMessage rx).isSome ∧ i + 1 < 20 then { sn with thread := .draining nowVal (i + 1) }
      else { sn with thread := .ticking nowVal }
  | .ticking nowVal =>
      if simTickMs ≤ nowVal - sn.lastTick then { sn with thread := .checking nowVal, lastTick := nowVal }
      else { sn with thread := .checking nowVal }
  | .checking nowVal =>
      if hbIntervalMs.toNat ≤ nowVal - sn.lastHealthTick then
        { sn with thread := .top, lastHealthTick := nowVal }
      else { sn with thread := .top }

/-- The call that a step makes; `beyond` is what lies behind a payload, `matrix` what lies behind the
corroboration matrix, and `now` the time when the oracle asks for it. -/
def SimNode.call (sn : SimNode) (rx : SimRx) (beyond matrix : Nat → UInt8) (env now : Nat) :
    Option NodeCall :=
  match sn.thread with
  | .starting | .top => none
  | .draining nowVal _ =>
      (simMessage rx).bind fun m =>
        if m.1 = ethertypeRaft then
          some (.dispatch m.2.srcNode m.2.msgType m.2.payload beyond env now)
        else if m.1 = ethertypeHeartbeat then healthCall m.2 beyond nowVal env now
        else none
  | .ticking nowVal =>
      if simTickMs ≤ nowVal - sn.lastTick then
        some (.oracleTick env (UInt32.ofNat (nowVal - sn.lastTick)).toInt32.toInt)
      else none
  | .checking nowVal =>
      if hbIntervalMs.toNat ≤ nowVal - sn.lastHealthTick then some (.tick matrix nowVal env now)
      else none

/-- Where the thread of a compute node is: before its announcement, or in its loop. -/
inductive ComputeThread where
  | announcing
  | beating (seq : UInt32)
deriving DecidableEq, Repr

/-- The payload of the announcement, with the host name `sim`. -/
def simAnnounce : List UInt8 := nodeTypeX86 :: List.replicate 9 0 ++ [0x73, 0x69, 0x6D] ++ List.replicate 3 0

/-- The payload of a heartbeat, with a load of 15 %. -/
def simHeartbeat (seq : UInt32) : List UInt8 := writeLE 4 seq.toNat ++ writeLE 2 150 ++ writeLE 2 0

/-- `compute_thread`: its next step and what it sends. It shares the transport of its node, so the
node is the source and the destination. -/
def ComputeThread.step (n : UInt8) (alive : Bool) : ComputeThread → ComputeThread × Option Packet
  | .announcing => (.beating 0, some ⟨n, ⟨n, ethertypeHeartbeat, .nodeAnnounce, simAnnounce⟩⟩)
  | .beating seq =>
      if alive then
        (.beating (seq + 1), some ⟨n, ⟨n, ethertypeHeartbeat, .nodeHeartbeat, simHeartbeat seq⟩⟩)
      else (.beating seq, none)

/-- The library and `g_num_nodes`, which `main` checks. -/
structure SimSetup (σ : Type) where
  lib : RaftLib σ
  numNodes : Nat
  two_le : 2 ≤ numNodes
  le_max : numNodes ≤ maxSimNodes

structure Simulator (σ : Type) where
  time : Nat
  threads : UInt8 → SimNode
  computes : UInt8 → ComputeThread
  alive : UInt8 → Bool
  /-- What the compute threads have sent, oldest first. -/
  beats : List Packet
  cluster : Cluster σ

inductive SimEvent where
  | pass (ms : Nat)
  | node (n : UInt8) (rx : SimRx) (beyond matrix : Nat → UInt8) (env now : Nat)
  | compute (n : UInt8)
  | kill (n : UInt8)

section
variable {σ : Type} (c : SimSetup σ)

/-- The nodes are 1 to `g_num_nodes`, each in the box with its number. -/
def SimSetup.setup : ClusterSetup σ where
  lib := c.lib
  members := (List.range c.numNodes).map fun i => UInt8.ofNat (i + 1)
  box n := n

/-- A node after the part of `node_thread` before its loop: it knows itself first and then its peers. -/
def SimSetup.bootNode (n : UInt8) : OracleNode σ :=
  let o := oracleInit c.lib n n
  let o := { o with health := some (healthMonitorInit true n) }
  let peers := c.setup.members.filter fun m => m != n
  peers.foldl (fun o m => oracleAddNode c.lib o m false) (oracleAddNode c.lib o n true)

def SimSetup.boot (start : Nat) : Simulator σ where
  time := start
  threads _ := ⟨.starting, 0, 0⟩
  computes _ := .announcing
  alive _ := true
  beats := []
  cluster := { nodes := c.bootNode, net := [], applied := [] }

/-- The datagram that carries a packet over the transport of its source, if `sim_send` accepts it. -/
def onLoopback (p : Packet) : Option Datagram :=
  (simSend (simTransportCreate p.src p.src) 1 p.frame.dstNode p.frame.ethertype p.frame.msgType
    p.frame.payload).2

/-- What the socket of node `n` delivers was sent to its port. -/
def OnSocket (s : Simulator σ) (n : UInt8) (rx : SimRx) : Prop :=
  ∀ bytes ∈ rx.datagram, ∃ p ∈ s.cluster.net ++ s.beats,
    onLoopback p = some ⟨simBasePort + n.toNat, bytes⟩

instance (s : Simulator σ) (n : UInt8) (rx : SimRx) : Decidable (OnSocket s n rx) :=
  inferInstanceAs (Decidable (∀ bytes ∈ rx.datagram, _))

def SimSetup.step (s : Simulator σ) : SimEvent → Simulator σ
  | .pass ms => { s with time := s.time + ms }
  | .node n rx beyond matrix env now =>
      if n ∈ c.setup.members ∧ OnSocket s n rx then
        { s with
          threads := Function.update s.threads n ((s.threads n).step s.time rx)
          cluster := ((s.threads n).call rx beyond matrix env now).elim s.cluster fun x =>
            c.setup.call s.cluster (n, x) }
      else s
  | .compute n =>
      if n ∈ c.setup.members then
        let (thread, sent) := (s.computes n).step n (s.alive n)
        { s with computes := Function.update s.computes n thread, beats := s.beats ++ sent.toList }
      else s
  | .kill n => { s with alive := Function.update s.alive n false }

/-- The call that a step makes. -/
def SimSetup.call (s : Simulator σ) : SimEvent → Option ClusterCall
  | .node n rx beyond matrix env now =>
      if n ∈ c.setup.members ∧ OnSocket s n rx then
        ((s.threads n).call rx beyond matrix env now).map fun x => (n, x)
      else none
  | .pass _ | .compute _ | .kill _ => none

/-- A thread of the node makes the call, what it dispatches was sent to the node, and whoever announces
itself has the number of the node. -/
structure SimTasked (c : ClusterSetup σ) (s : Cluster σ) (x : ClusterCall) : Prop where
  addressed : Addressed c s x
  ofTask : x.2.OfTask
  announces : ∀ srcNode ∈ x.2.announces, srcNode = x.1

/-! ### What a socket delivers -/

/-- `sim_send` accepts the packet, and the cast of its type to the header byte and back changes nothing. -/
structure Packet.Sendable (p : Packet) : Prop where
  length_le : p.frame.payload.length ≤ oracleMaxPayloadV1
  ofCode_code : RaftMsgType.ofCode p.frame.msgType.code = p.frame.msgType

/-- A compute thread sends only to its node, and only heartbeats and announcements. -/
structure Packet.FromCompute (p : Packet) : Prop extends p.Sendable where
  self : p.src = p.frame.dstNode
  ethertype : p.frame.ethertype = ethertypeHeartbeat

structure SimInv (s : Simulator σ) : Prop where
  formed : ∀ p ∈ s.cluster.net, p.frame.WellFormed
  beats : ∀ p ∈ s.beats, p.FromCompute

theorem SimInv.sendable {s : Simulator σ} (h : SimInv s) :
    ∀ p ∈ s.cluster.net ++ s.beats, p.Sendable := by
  intro p hp
  rcases List.mem_append.mp hp with hnet | hbeat
  · exact ⟨(h.formed p hnet).length_le, (h.formed p hnet).ofCode_code⟩
  · exact (h.beats p hbeat).toSendable

theorem onLoopback_eq {p : Packet} (h : p.Sendable) :
    onLoopback p = some (simDatagram (simTransportCreate p.src p.src) p.frame.dstNode p.frame.ethertype
      p.frame.msgType p.frame.payload) := by
  rw [onLoopback, simSend_sent h.length_le (by decide)]

/-- What a thread makes of a datagram is a packet that was sent to its node, as it was sent. -/
theorem sent_of_simMessage {s : Simulator σ} (h : SimInv s) {n : UInt8} {rx : SimRx}
    (hsocket : OnSocket s n rx) {m : UInt16 × RxMsg} (hm : m ∈ simMessage rx) :
    ∃ p ∈ s.cluster.net ++ s.beats, p.frame.dstNode = n ∧
      m = (p.frame.ethertype, ⟨p.frame.msgType, p.src, p.frame.payload⟩) := by
  rw [simMessage, simRecv] at hm
  split_ifs at hm
  · cases hm
  · cases hdatagram : rx.datagram with
    | none =>
        rw [hdatagram] at hm
        cases hm
    | some bytes =>
        obtain ⟨p, hp, hloop⟩ := hsocket bytes hdatagram
        have hsendable := h.sendable p hp
        rw [onLoopback_eq hsendable] at hloop
        have hdatagram' := Option.some.inj hloop
        have hport : simBasePort + p.frame.dstNode.toNat = simBasePort + n.toNat :=
          congrArg Datagram.port hdatagram'
        have hread := simParse_simDatagram hsendable.length_le (show oracleMaxPayloadV1 ≤ 128 by decide)
          (simTransportCreate p.src p.src) p.frame.dstNode p.frame.ethertype p.frame.msgType rx.stack
        rw [congrArg Datagram.bytes hdatagram', hsendable.ofCode_code] at hread
        rw [hdatagram] at hm
        dsimp only at hm
        rw [hread] at hm
        dsimp only at hm
        split at hm
        · cases hm
        · refine ⟨p, hp, UInt8.toNat_inj.mp (Nat.add_left_cancel hport), ?_⟩
          exact (Option.some.inj hm).symm

/-- No node sends an announcement. -/
theorem not_announce_of_wellFormed {f : Frame} (h : f.WellFormed) : f.msgType ≠ .nodeAnnounce := by
  cases h with
  | healthEvent p =>
      dsimp only
      split <;> decide
  | requestVote | requestVoteResp | appendEntries | appendEntriesResp | announceAck => exact nofun

theorem simTasked_healthCall {s : Simulator σ} (h : SimInv s) {n : UInt8} (hn : n ∈ c.setup.members)
    {p : Packet} (hp : p ∈ s.cluster.net ++ s.beats) (hdst : p.frame.dstNode = n)
    {beyond : Nat → UInt8} {nowVal env now : Nat} {x : NodeCall}
    (hx : x ∈ healthCall ⟨p.frame.msgType, p.src, p.frame.payload⟩ beyond nowVal env now) :
    SimTasked c.setup s.cluster (n, x) := by
  obtain ⟨m, hm, rfl⟩ := Option.map_eq_some_iff.mp hx
  cases m with
  | heartbeat hb =>
      exact ⟨⟨hn, fun q hq => by cases hq⟩, trivial, fun srcNode hsrc => by cases hsrc⟩
  | announce ann =>
      refine ⟨⟨hn, fun q hq => by cases hq⟩, trivial, fun srcNode hsrc => ?_⟩
      obtain rfl := Option.some.inj hsrc
      rcases List.mem_append.mp hp with hnet | hbeat
      · exact absurd (announce_of_healthMessage hm).1 (not_announce_of_wellFormed (h.formed p hnet))
      · exact (h.beats p hbeat).self.trans hdst

theorem simTasked_call {s : Simulator σ} (h : SimInv s) {n : UInt8} (hn : n ∈ c.setup.members)
    {rx : SimRx} (hsocket : OnSocket s n rx) {beyond matrix : Nat → UInt8} {env now : Nat} {x : NodeCall}
    (hx : x ∈ (s.threads n).call rx beyond matrix env now) : SimTasked c.setup s.cluster (n, x) := by
  rw [SimNode.call] at hx
  cases hthread : (s.threads n).thread with
  | starting | top =>
      rw [hthread] at hx
      cases hx
  | draining nowVal i =>
      simp only [hthread] at hx
      obtain ⟨m, hm, hcall⟩ := Option.bind_eq_some_iff.mp hx
      obtain ⟨p, hp, hdst, rfl⟩ := sent_of_simMessage h hsocket hm
      dsimp only at hcall
      split_ifs at hcall with hraft
      · obtain rfl := Option.some.inj hcall
        refine ⟨⟨hn, fun q hq => ?_⟩, trivial, fun srcNode hsrc => by cases hsrc⟩
        obtain rfl := Option.mem_some_iff.mp hq
        rcases List.mem_append.mp hp with hnet | hbeat
        · simp only [← hdst, ← hraft]
          exact hnet
        · rw [(h.beats p hbeat).ethertype] at hraft
          exact absurd hraft (by decide)
      · exact simTasked_healthCall c h hn hp hdst hcall
  | ticking nowVal =>
      simp only [hthread] at hx
      split at hx
      · obtain rfl := Option.some.inj hx
        exact ⟨⟨hn, fun q hq => by cases hq⟩, trivial, fun srcNode hsrc => by cases hsrc⟩
      · cases hx
  | checking nowVal =>
      simp only [hthread] at hx
      split at hx
      · obtain rfl := Option.some.inj hx
        exact ⟨⟨hn, fun q hq => by cases hq⟩, trivial, fun srcNode hsrc => by cases hsrc⟩
      · cases hx

theorem fromCompute_step (n : UInt8) (alive : Bool) (thread : ComputeThread) :
    ∀ p ∈ (thread.step n alive).2, p.FromCompute := by
  intro p hp
  cases thread with
  | announcing =>
      obtain rfl := Option.some.inj hp
      have hlen : simAnnounce.length ≤ oracleMaxPayloadV1 := by decide
      exact ⟨⟨hlen, rfl⟩, rfl, rfl⟩
  | beating seq =>
      rw [ComputeThread.step] at hp
      split at hp
      · obtain rfl := Option.some.inj hp
        have hlen : (simHeartbeat seq).length ≤ oracleMaxPayloadV1 := by
          simp [simHeartbeat, oracleMaxPayloadV1]
        exact ⟨⟨hlen, rfl⟩, rfl, rfl⟩
      · cases hp

/-! ### The threads make calls -/

/-- A step of a thread is a call on its node, or none, and what is dispatched was sent to the node. -/
theorem SimSetup.simulation :
    Simulation c.step c.setup.call Simulator.cluster c.call SimInv (SimTasked c.setup) where
  sees s e _ := by
    cases e with
    | pass | kill => rfl
    | compute n =>
        rw [step, call]
        split <;> rfl
    | node n rx beyond matrix env now =>
        rw [step, call]
        split
        · cases (s.threads n).call rx beyond matrix env now <;> rfl
        · rfl
  keeps s e h := by
    cases e with
    | pass | kill => exact ⟨h.formed, h.beats⟩
    | compute n =>
        rw [step]
        split
        · refine ⟨h.formed, fun p hp => ?_⟩
          rcases List.mem_append.mp hp with hold | hnew
          · exact h.beats p hold
          · exact fromCompute_step n _ _ p (Option.mem_toList.mp hnew)
        · exact h
    | node n rx beyond matrix env now =>
        rw [step]
        split
        · refine ⟨?_, h.beats⟩
          cases (s.threads n).call rx beyond matrix env now with
          | none => exact h.formed
          | some x => exact wellFormed_call c.setup h.formed (n, x)
        · exact h
  allows s e h x hx := by
    cases e with
    | pass | compute | kill => cases hx
    | node n rx beyond matrix env now =>
        rw [call] at hx
        split at hx
        · rename_i henabled
          obtain ⟨y, hy, rfl⟩ := Option.map_eq_some_iff.mp hx
          exact simTasked_call c h henabled.1 henabled.2 hy
        · cases hx

/-! ### The start -/

variable {c}

theorem SimSetup.nodup_members : c.setup.members.Nodup := by
  refine List.Nodup.map_on (fun i hi j hj heq => ?_) List.nodup_range
  have hmax : c.numNodes ≤ 8 := c.le_max
  have hsize : UInt8.size = 256 := rfl
  have hi' := List.mem_range.mp hi
  have hj' := List.mem_range.mp hj
  have hnat := congrArg UInt8.toNat heq
  rw [UInt8.toNat_ofNat_of_lt' (by omega), UInt8.toNat_ofNat_of_lt' (by omega)] at hnat
  omega

/-- A node knows itself and its peers. -/
theorem SimSetup.raft_bootNode {view : σ → RaftView} (rules : RaftRules c.lib view) {n : UInt8}
    (hn : n ∈ c.setup.members) :
    view (c.bootNode n).raft = .started n c.setup.members.toFinset := by
  obtain ⟨peers, hpeers⟩ : ∃ peers, peers = c.setup.members.filter fun m => m != n := ⟨_, rfl⟩
  have hne : ∀ m ∈ peers, m ≠ n := fun m hm => by
    rw [hpeers] at hm
    exact bne_iff_ne.mp (List.mem_filter.mp hm).2
  have hraft : ∀ (ms : List UInt8) (o : OracleNode σ), (∀ m ∈ ms, m ≠ n) →
      (ms.foldl (fun o m => oracleAddNode c.lib o m false) o).raft
        = ms.foldl (fun s m => c.lib.raftAddNode s m (m == n)) o.raft := by
    intro ms
    induction ms with
    | nil => exact fun o _ => rfl
    | cons m ms ih =>
        intro o hms
        have hm : (m == n) = false := beq_false_of_ne (hms m List.mem_cons_self)
        rw [List.foldl_cons, List.foldl_cons, hm]
        exact ih _ fun k hk => hms k (List.mem_cons_of_mem m hk)
  have hstarted := rules.started n (n :: peers) List.mem_cons_self
    (List.nodup_cons.mpr ⟨fun hmem => hne n hmem rfl, hpeers ▸ nodup_members.filter _⟩)
  have hall : (n :: peers).toFinset = c.setup.members.toFinset := by
    ext m
    by_cases hm : m = n <;> simp [hpeers, hm, hn]
  rw [List.foldl_cons, beq_self_eq_true, hall] at hstarted
  rw [← hstarted, bootNode, ← hpeers]
  exact congrArg view (hraft peers _ hne)

theorem SimSetup.started_boot {view : σ → RaftView} (rules : RaftRules c.lib view) (start : Nat) :
    c.setup.Started view (c.boot start).cluster where
  server _ hn := raft_bootNode rules hn
  net := rfl
  applied := rfl

/-- Knowing its peers changes only the library of a node. -/
theorem SimSetup.bootNode_eq (c : SimSetup σ) (n : UInt8) :
    ∃ raft, c.bootNode n = ⟨raft, n, n, 1, some (healthMonitorInit true n)⟩ := by
  unfold bootNode
  refine List.foldlRecOn _ _ (motive := fun o : OracleNode σ =>
    ∃ raft, o = ⟨raft, n, n, 1, some (healthMonitorInit true n)⟩) ⟨_, rfl⟩ ?_
  rintro _ ⟨raft, rfl⟩ m _
  exact ⟨_, rfl⟩

theorem SimSetup.unannounced_boot (start : Nat) : c.setup.Unannounced (c.boot start).cluster := by
  intro n _
  obtain ⟨raft, hnode⟩ := c.bootNode_eq n
  show (c.bootNode n).Placed _ _
  rw [hnode]
  refine ⟨rfl, fun hm hhm => ?_⟩
  obtain rfl := Option.some.inj hhm
  exact ⟨rfl, List.forall_mem_nil _⟩

theorem SimSetup.known_boot (start : Nat) (n : UInt8) :
    ∃ hm, ((c.boot start).cluster.nodes n).health = some hm ∧ hm.AllKnown := by
  obtain ⟨raft, hnode⟩ := c.bootNode_eq n
  exact ⟨_, congrArg OracleNode.health hnode, .init _ _⟩

theorem SimSetup.simInv_boot (start : Nat) : SimInv (c.boot start) :=
  ⟨List.forall_mem_nil _, List.forall_mem_nil _⟩

/-! ### Every run -/

/-- The calls that the threads make in a run. -/
def SimSetup.calls (c : SimSetup σ) (start : Nat) (es : List SimEvent) : List ClusterCall :=
  trace c.step c.call (c.boot start) es

theorem SimSetup.cluster_run (start : Nat) (es : List SimEvent) :
    (run c.step (c.boot start) es).cluster
      = run c.setup.call (c.boot start).cluster (c.calls start es) :=
  c.simulation.sees_run (c.simInv_boot start) es

theorem SimSetup.simTasked_calls (start : Nat) (es : List SimEvent) :
    c.setup.Along SimTasked (c.boot start).cluster (c.calls start es) :=
  c.simulation.allows_run (simInv_boot start) es

theorem SimSetup.tasked_calls (start : Nat) (es : List SimEvent) :
    c.setup.Along Tasked (c.boot start).cluster (c.calls start es) := by
  have htasked := c.simTasked_calls start es
  have hheard := ClusterSetup.Along.heard rfl (Throughout.mono htasked fun _ _ h => h.addressed)
  exact Throughout.mono (Throughout.and hheard htasked) fun _ _ h => ⟨h.1, h.2.ofTask⟩

/-- In every run of the simulator the nodes go through calls in which each node dispatches only what was
sent to it, and no more than two nodes ever lead. -/
theorem simulator_refines {view : σ → RaftView} (rules : RaftRules c.lib view)
    (asks : CandidateRules c.lib view) (start : Nat) (es : List SimEvent) :
    (run c.step (c.boot start) es).cluster
        = run c.setup.call (c.boot start).cluster (c.calls start es) ∧
      c.setup.Along SimTasked (c.boot start).cluster (c.calls start es) ∧
      ∃ a b, ∀ n ∈ c.setup.members, ∀ pre, pre <+: es →
        oracleIsLeader c.lib ((run c.step (c.boot start) pre).cluster.nodes n) = true →
          n = a ∨ n = b := by
  have htasked := c.simTasked_calls start es
  refine ⟨c.cluster_run start es, htasked, ?_⟩
  have haddressed : c.setup.Along Addressed (c.boot start).cluster (c.calls start es) :=
    Throughout.mono htasked fun _ _ h => h.addressed
  obtain ⟨a, b, hab⟩ := haddressed.two_lead rules asks (c.started_boot rules start)
  refine ⟨a, b, fun n hn pre hpre hleads => hab n hn
    ⟨_, trace_prefix c.step c.call (c.boot start) hpre, ?_⟩⟩
  rw [c.cluster_run] at hleads
  exact hleads

/-- In every run of the simulator in which indices fit their words, what every node holds is a copy of
the beginning of one log, which is that of the leader if there is one, and what the nodes apply at an
index is its transition there; or two nodes lead. -/
theorem simulator_keeps_one_log {view : σ → RaftView} (rules : RaftRules c.lib view) (start : Nat)
    {es : List SimEvent}
    (hfit : c.setup.Along (ShortLogs view) (c.boot start).cluster (c.calls start es)) :
    (∃ log, OneLog c.setup view (run c.step (c.boot start) es).cluster log) ∨
      c.setup.TwoLead (run c.step (c.boot start) es).cluster := by
  have haddressed : c.setup.Along Addressed (c.boot start).cluster (c.calls start es) :=
    Throughout.mono (c.simTasked_calls start es) fun _ _ h => h.addressed
  rw [c.cluster_run]
  exact haddressed.oneLog_or_twoLead rules (c.started_boot rules start) hfit

/-- What is announced in the simulator is a node in its own box. -/
theorem SimSetup.announcedIn_calls {start : Nat} {es : List SimEvent} {nodeId boxId : UInt8}
    (h : AnnouncedIn c.setup (c.calls start es) nodeId boxId) :
    nodeId ∈ c.setup.members ∧ boxId = nodeId := by
  obtain ⟨x, hx, hmem, hannounces, hbox⟩ := h
  obtain ⟨pre, post, hsplit⟩ := List.append_of_mem hx
  obtain rfl := (c.simTasked_calls start es pre x post hsplit).announces nodeId hannounces
  exact ⟨hmem, hbox⟩

theorem SimSetup.lt_of_mem_members {n : UInt8} (h : n ∈ c.setup.members) : n < 101 := by
  obtain ⟨i, hi, rfl⟩ := List.mem_map.mp h
  have hmax : c.numNodes ≤ 8 := c.le_max
  have hsize : UInt8.size = 256 := rfl
  have hi' := List.mem_range.mp hi
  rw [UInt8.lt_iff_toNat_lt, UInt8.toNat_ofNat_of_lt' (by omega)]
  show i + 1 < 101
  omega

/-- In every run of the simulator, whichever compute nodes are killed and whichever nodes lead, all that
a node applies is an edge of the state machine, and every entry of every table stands for a simulated
node, in its own box and with a known status. The compute nodes have the numbers of their nodes there:
the numbers from 101 on that `main` gives them occur in no table. -/
theorem simulator_tables {view : σ → RaftView} (rules : RaftRules c.lib view) (start : Nat)
    (es : List SimEvent) :
    (∀ a ∈ (run c.step (c.boot start) es).cluster.applied, a.2.2.transition.IsEdge) ∧
      ∀ n ∈ c.setup.members, ∃ hm,
        ((run c.step (c.boot start) es).cluster.nodes n).health = some hm ∧
          ∀ s ∈ hm.slots, s.nodeId ∈ c.setup.members ∧ s.nodeId < 101 ∧ s.boxId = s.nodeId ∧
            Known s.status := by
  have htasks := c.tasked_calls start es
  have hstart := c.started_boot rules start
  have hstatus := statusInv_run rules hstart (fun n _ => c.known_boot start n) htasks
  have horigin := originInv_run rules hstart (Throughout.mono htasks fun _ _ h => h.1)
  have htables := announcedInv_run rules hstart (c.unannounced_boot start) htasks
  rw [c.cluster_run]
  constructor
  · intro a ha
    exact (horigin.applied a ha).isEdge htasks
  · intro n hn
    obtain ⟨hm, hhm, hknown⟩ := (hstatus n hn).health
    refine ⟨hm, hhm, fun s hs => ?_⟩
    obtain ⟨hmem, hbox⟩ := SimSetup.announcedIn_calls (((htables.tables n hn).monitor hm hhm).2 s hs)
    exact ⟨hmem, SimSetup.lt_of_mem_members hmem, hbox, hknown s hs⟩

end

/-! ### Three nodes -/

def threeNodes : SimSetup ReferenceServer where
  lib := ReferenceServer.lib
  numNodes := 3
  two_le := by decide
  le_max := by decide

/-- A step of the thread of node `n` in which its socket is empty. -/
def quiet (n : UInt8) : SimEvent := .node n ⟨0, none, fun _ => 0⟩ (fun _ => 0) (fun _ => 0) 0 0

/-- A step in which the packet arrives at the node that it was sent to. -/
def arrives (p : Packet) : SimEvent :=
  .node p.frame.dstNode ⟨1, (onLoopback p).map Datagram.bytes, fun _ => 0⟩ (fun _ => 0) (fun _ => 0) 0 0

/-- Node 1 stands and wins with the vote of node 2, its compute node announces itself and falls silent,
and it replicates to node 3 that it suspects it. -/
def silentComputeRun : List SimEvent :=
  [quiet 1, quiet 2, quiet 3, .pass 1000, quiet 1, quiet 1, quiet 1, quiet 1,
    quiet 2, arrives ⟨1, cbSendRequestvote 2 ⟨1, nodeIdInt 1, 0, 0⟩⟩,
    .compute 1, quiet 1, arrives voteOfTwo,
    arrives ⟨1, ⟨1, ethertypeHeartbeat, .nodeAnnounce, simAnnounce⟩⟩, quiet 1, quiet 1, quiet 1,
    .kill 1, .pass 40, quiet 1, quiet 1, quiet 1, quiet 1,
    quiet 3, arrives ⟨1, cbSendAppendentries 3 ⟨1, 0, 0, 0, [firstEntry 1]⟩⟩,
    .pass 20, quiet 1, arrives ⟨3, ⟨1, ethertypeRaft, .appendEntriesResp,
      (PayloadAppendEntriesResp.mk 1 1 1 0 []).bytes⟩⟩, quiet 1, quiet 1]

theorem simulator_refines_silentComputeRun :
    oracleIsLeader threeNodes.lib
        ((run threeNodes.step (threeNodes.boot 0) silentComputeRun).cluster.nodes 1) = true ∧
      (run threeNodes.step (threeNodes.boot 0) silentComputeRun).cluster
        = run threeNodes.setup.call (threeNodes.boot 0).cluster (threeNodes.calls 0 silentComputeRun) ∧
      threeNodes.setup.Along SimTasked (threeNodes.boot 0).cluster
        (threeNodes.calls 0 silentComputeRun) ∧
      ∃ a b, ∀ n ∈ threeNodes.setup.members, ∀ pre, pre <+: silentComputeRun →
        oracleIsLeader threeNodes.lib
          ((run threeNodes.step (threeNodes.boot 0) pre).cluster.nodes n) = true → n = a ∨ n = b :=
  ⟨by decide +kernel, simulator_refines ReferenceServer.rules ReferenceServer.asks 0 _⟩

theorem simulator_keeps_one_log_silentComputeRun :
    (run threeNodes.step (threeNodes.boot 0) silentComputeRun).cluster.applied
        = [(1, 1, firstEntry 1)] ∧
      ((∃ log, OneLog threeNodes.setup ReferenceServer.view
          (run threeNodes.step (threeNodes.boot 0) silentComputeRun).cluster log) ∨
        threeNodes.setup.TwoLead (run threeNodes.step (threeNodes.boot 0) silentComputeRun).cluster) :=
  ⟨by decide +kernel, simulator_keeps_one_log ReferenceServer.rules 0
    (by unfold ClusterSetup.Along; decide +kernel)⟩

theorem simulator_tables_silentComputeRun :
    (run threeNodes.step (threeNodes.boot 0) silentComputeRun).cluster.applied
        = [(1, 1, firstEntry 1)] ∧
      (∀ a ∈ (run threeNodes.step (threeNodes.boot 0) silentComputeRun).cluster.applied,
        a.2.2.transition.IsEdge) ∧
      ∀ n ∈ threeNodes.setup.members, ∃ hm,
        ((run threeNodes.step (threeNodes.boot 0) silentComputeRun).cluster.nodes n).health = some hm ∧
          ∀ s ∈ hm.slots, s.nodeId ∈ threeNodes.setup.members ∧ s.nodeId < 101 ∧ s.boxId = s.nodeId ∧
            Known s.status :=
  ⟨by decide +kernel, simulator_tables ReferenceServer.rules 0 _⟩

end L2Oracle
