import L2Oracle.App.Firmware
import L2Oracle.Raft.Announced
import L2Oracle.Raft.Edges

/-!
# What the firmware applies and tracks

A run of the boards is a run of the tasks' calls on nodes that hear only each other. So whatever the
tasks, the queues and the segment do, a node applies edges of the state machine only, and its table holds
nodes that announced themselves. Both need that calls on one node do not overlap. A tick that is preempted
after it has looked at a status proposes from the status that it finds then, and an entry that an
announcement is about to fill in can be seen half made.
-/

namespace L2Oracle

open Base

section
variable {σ : Type} {c : ClusterSetup σ} {view : σ → RaftView}

theorem unannounced_boot : c.Unannounced c.boot := by
  intro n _
  have hadd (o : OracleNode σ) (m : UInt8) (isSelf : Bool) :
      (oracleAddNode c.lib o m isSelf).boxId = o.boxId := rfl
  have hbox : (c.init.nodes n).boxId = c.box n :=
    List.foldlRecOn c.members _ (motive := fun o => o.boxId = c.box n) rfl fun o ho m _ =>
      (hadd o m _).trans ho
  refine ⟨hbox, fun hm hhm => ?_⟩
  obtain rfl := Option.some.inj hhm
  exact ⟨hbox, List.forall_mem_nil _⟩

end

/-! ### Three boards -/

/-- The frame of a packet reaches board `n`. -/
def receives (n : UInt8) (p : Packet) : UInt8 × BoardEvent :=
  (n, .rx (.delivers (threeOracles.onWire p) fun _ => 0))

def raftTurn (n : UInt8) : UInt8 × BoardEvent := (n, .raft (fun _ => 0) 0 0)

def healthTurn (n : UInt8) : UInt8 × BoardEvent := (n, .health (fun _ => 0) (fun _ => 0) 0 0)

/-- Node 1 stands, wins with the vote of node 2, suspects compute node 7, which announced itself and
fell silent, and replicates the transition to node 3 before it applies it. -/
def suspectedRun : List (UInt8 × BoardEvent) :=
  [raftTurn 1, (1, .pass 1000), (1, .timer), raftTurn 1, raftTurn 1, raftTurn 1,
    raftTurn 2, receives 2 ⟨1, cbSendRequestvote 2 ⟨1, nodeIdInt 1, 0, 0⟩⟩, raftTurn 2,
    receives 1 voteOfTwo, raftTurn 1,
    receives 1 ⟨7, ⟨1, ethertypeHeartbeat, .nodeAnnounce, List.replicate 16 0⟩⟩,
    healthTurn 1, healthTurn 1, healthTurn 1,
    (1, .pass 40), healthTurn 1, healthTurn 1, healthTurn 1,
    raftTurn 3, receives 3 ⟨1, cbSendAppendentries 3 ⟨1, 0, 0, 0, [firstEntry 7]⟩⟩, raftTurn 3,
    receives 1 ⟨3, ⟨1, ethertypeRaft, .appendEntriesResp,
      (PayloadAppendEntriesResp.mk 1 1 1 0 []).bytes⟩⟩,
    raftTurn 1, (1, .timer), raftTurn 1, raftTurn 1]

end L2Oracle
