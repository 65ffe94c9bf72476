import L2Oracle.Base.Run
import L2Oracle.Raft.Oracle

/-!
# A cluster of oracles

Every node runs the oracle of `raft_oracle.c` over the same library. What a node sends stays in `net`
for good, and any of it may be delivered to its addressee at any later point, any number of times or
never. Timers fire at any time, and the nodes' monitors are called at any time, so a run is any list
of events. No node restarts.

What an event does at its node is a call of a function of the oracle or of the monitor (`NodeCall`).
Where the monitor may propose, a call has two times: the one that its caller took before and hands over,
and the one that `oracle_propose_health_transition` takes itself. An event of the cluster has one.
-/

namespace L2Oracle

open Base

/-- A frame with the node that sent it. -/
structure Packet where
  src : UInt8
  frame : Frame
deriving DecidableEq, Repr

structure Cluster (σ : Type) where
  nodes : UInt8 → OracleNode σ
  /-- Everything that was ever sent, oldest first. -/
  net : List Packet
  /-- The node, index and entry of every execution of `cb_applylog`, oldest first. -/
  applied : List (UInt8 × Nat × RaftEntry)

/-- A call of a function of the oracle or of the monitor on a node, with its arguments. -/
inductive NodeCall where
  | startHealth
  | oracleTick (env : Nat) (elapsedMs : Int)
  /-- A message is dispatched; `beyond` is what lies behind its payload in memory. -/
  | dispatch (srcNode : UInt8) (msgType : RaftMsgType) (payload : List UInt8) (beyond : Nat → UInt8)
      (env now : Nat)
  | announce (srcNode : UInt8) (ann : PayloadNodeAnnounce) (sample : Nat)
  | heartbeat (srcNode : UInt8) (hb : PayloadNodeHeartbeat) (sample env now : Nat)
  | tick (beyond : Nat → UInt8) (sample env now : Nat)
  | propose (targetNode targetBox oldStatus newStatus : UInt8) (env now : Nat)

inductive ClusterEvent where
  | periodic (n : UInt8) (env : Nat) (elapsedMs : Int)
  /-- A packet reaches its addressee; `beyond` is what lies behind its payload in memory. -/
  | deliver (p : Packet) (beyond : Nat → UInt8) (env now : Nat)
  | startHealth (n : UInt8)
  | announce (n srcNode : UInt8) (ann : PayloadNodeAnnounce) (now : Nat)
  | heartbeat (n srcNode : UInt8) (hb : PayloadNodeHeartbeat) (env now : Nat)
  | tick (n : UInt8) (beyond : Nat → UInt8) (env now : Nat)
  | propose (n targetNode targetBox oldStatus newStatus : UInt8) (env now : Nat)

def ClusterEvent.node : ClusterEvent → UInt8
  | .periodic n .. | .startHealth n | .announce n .. | .heartbeat n .. | .tick n ..
  | .propose n .. => n
  | .deliver p .. => p.frame.dstNode

/-- Only what was sent is delivered, and only Raft frames go to the dispatcher. -/
def ClusterEvent.Enabled (net : List Packet) : ClusterEvent → Prop
  | .deliver p .. => p ∈ net ∧ p.frame.ethertype = ethertypeRaft
  | _ => True

instance (net : List Packet) : ∀ e : ClusterEvent, Decidable (e.Enabled net)
  | .deliver .. => inferInstanceAs (Decidable (_ ∧ _))
  | .periodic .. | .startHealth .. | .announce .. | .heartbeat .. | .tick .. | .propose .. =>
      inferInstanceAs (Decidable True)

def ClusterEvent.call : ClusterEvent → NodeCall
  | .periodic _ env elapsedMs => .oracleTick env elapsedMs
  | .deliver p beyond env now => .dispatch p.src p.frame.msgType p.frame.payload beyond env now
  | .startHealth _ => .startHealth
  | .announce _ srcNode ann now => .announce srcNode ann now
  | .heartbeat _ srcNode hb env now => .heartbeat srcNode hb now env now
  | .tick _ beyond env now => .tick beyond now env now
  | .propose _ targetNode targetBox oldStatus newStatus env now =>
      .propose targetNode targetBox oldStatus newStatus env now

section
variable {σ : Type}

/-- A function of the monitor called on a node, with the oracle behind it. `raft_recv_entry` applies
nothing, so the monitor is not written by a commit while one of its functions runs. -/
def withMonitor (o : OracleNode σ)
    (f : HealthMonitor → Effect σ → HealthMonitor × Effect σ) : Effect σ :=
  match o.health with
  | none => ⟨o, [], []⟩
  | some hm =>
      let (hm, e) := f hm ⟨o, [], []⟩
      { e with node := { e.node with health := some hm } }

def NodeCall.run (lib : RaftLib σ) (o : OracleNode σ) : NodeCall → Effect σ
  | .startHealth => ⟨{ o with health := some (healthMonitorInit true o.boxId) }, [], []⟩
  | .oracleTick env elapsedMs => L2Oracle.oracleTick lib o env elapsedMs
  | .dispatch srcNode msgType payload beyond env now =>
      (oracleDispatchRaftMessage lib o env srcNode msgType (buffer payload beyond) payload.length
        now).1
  | .announce srcNode ann sample =>
      withMonitor o fun hm e =>
        let (hm, frames) := healthMonitorProcessAnnounce hm srcNode ann (UInt32.ofNat sample)
        (hm, { e with sent := e.sent ++ frames })
  | .heartbeat srcNode hb sample env now =>
      withMonitor o fun hm e =>
        healthMonitorProcessHeartbeat (oracleApi lib env now) hm e srcNode hb (UInt32.ofNat sample)
  | .tick beyond sample env now =>
      withMonitor o fun hm e =>
        healthMonitorTick (oracleApi lib env now) hm e (UInt32.ofNat sample) beyond
  | .propose targetNode targetBox oldStatus newStatus env now =>
      (oracleProposeHealthTransition lib o env targetNode targetBox oldStatus newStatus now).1

def ClusterEvent.run (lib : RaftLib σ) (o : OracleNode σ) (e : ClusterEvent) : Effect σ :=
  e.call.run lib o

/-- The cluster after a node has done something. -/
def Cluster.act (s : Cluster σ) (n : UInt8) (e : Effect σ) : Cluster σ where
  nodes := Function.update s.nodes n e.node
  net := s.net ++ e.sent.map fun f => ⟨n, f⟩
  applied := s.applied ++ e.applied.map fun x => (n, x)

structure ClusterSetup (σ : Type) where
  lib : RaftLib σ
  members : List UInt8
  box : UInt8 → UInt8

def ClusterSetup.step (c : ClusterSetup σ) (s : Cluster σ) (e : ClusterEvent) : Cluster σ :=
  if e.node ∈ c.members ∧ e.Enabled s.net then s.act e.node (e.run c.lib (s.nodes e.node)) else s

/-- Every node is set up with all members. -/
def ClusterSetup.init (c : ClusterSetup σ) : Cluster σ where
  nodes n := c.members.foldl (fun o m => oracleAddNode c.lib o m (m == n)) (oracleInit c.lib n (c.box n))
  net := []
  applied := []

def ClusterSetup.reach (c : ClusterSetup σ) (es : List ClusterEvent) : Cluster σ :=
  Base.run c.step c.init es

@[simp] theorem ClusterSetup.reach_snoc (c : ClusterSetup σ) (es : List ClusterEvent)
    (e : ClusterEvent) : c.reach (es ++ [e]) = c.step (c.reach es) e := by
  simp [reach]

end

end L2Oracle
