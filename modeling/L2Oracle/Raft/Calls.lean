import L2Oracle.Base.Simulation
import L2Oracle.Raft.Votes
import L2Oracle.Transport.Segment

/-!
# The calls that tasks make

A task works on its node by calling the functions of the oracle and of the monitor. A run of calls is a
run of the cluster in which nothing is said yet about how messages travel. Two conditions say it.
`Addressed`: what is dispatched was sent to this node. `Heard`: it was sent to some node. The cluster of
`Raft.Cluster` is a system of the first kind (`clusterSimulation`), the boards on one segment are one of
the second, and so is every other system whose nodes are worked on by tasks.
-/

namespace L2Oracle

open Base

section
variable {σ : Type}

/-! ### Runs of calls -/

abbrev ClusterCall : Type := UInt8 × NodeCall

def ClusterSetup.call (c : ClusterSetup σ) (s : Cluster σ) (x : ClusterCall) : Cluster σ :=
  s.act x.1 (x.2.run c.lib (s.nodes x.1))

/-- What the call dispatches was sent to its node. -/
def Addressed (c : ClusterSetup σ) (s : Cluster σ) (x : ClusterCall) : Prop :=
  x.1 ∈ c.members ∧ ∀ p ∈ x.2.input x.1, p ∈ s.net

/-- The packet as node `n` has it that received its frame, whomever it was sent to. -/
def Packet.heardBy (n : UInt8) (p : Packet) : Packet :=
  ⟨p.src, ⟨n, p.frame.ethertype, .ofCode p.frame.msgType.code, p.frame.payload⟩⟩

/-- What the call dispatches was sent to some node. -/
def Heard (c : ClusterSetup σ) (s : Cluster σ) (x : ClusterCall) : Prop :=
  x.1 ∈ c.members ∧ ∀ p ∈ x.2.input x.1, ∃ q ∈ s.net, q.heardBy x.1 = p

/-- The tasks call everything but `oracle_propose_health_transition`, which only the monitor calls. -/
def NodeCall.OfTask : NodeCall → Prop
  | .propose .. => False
  | _ => True

/-- A task makes the call, and what it dispatches was sent to some node. -/
def Tasked (c : ClusterSetup σ) (s : Cluster σ) (x : ClusterCall) : Prop := Heard c s x ∧ x.2.OfTask

def ClusterSetup.Along (c : ClusterSetup σ) (cond : ClusterSetup σ → Cluster σ → ClusterCall → Prop)
    (s : Cluster σ) (xs : List ClusterCall) : Prop :=
  Throughout (fun pre x => cond c (run c.call s pre) x) xs

theorem ClusterSetup.Along.induction {c : ClusterSetup σ}
    {cond : ClusterSetup σ → Cluster σ → ClusterCall → Prop} {s : Cluster σ} {xs : List ClusterCall}
    (h : c.Along cond s xs) {I : Cluster σ → Prop} (hstart : I s)
    (hcall : ∀ t x, I t → cond c t x → I (c.call t x)) : I (run c.call s xs) :=
  Throughout.induction (I := fun xs => I (run c.call s xs)) hstart
    (fun pre x hpre hx => by
      rw [run_append]
      exact hcall _ x hpre hx) h

/-! ### What a call sends -/

theorem mem_sent_withMonitor {o : OracleNode σ} {F : HealthMonitor → Effect σ → HealthMonitor × Effect σ}
    {f : Frame} (h : f ∈ (withMonitor o F).sent) : ∃ hm, f ∈ (F hm ⟨o, [], []⟩).2.sent := by
  unfold withMonitor at h
  cases hhealth : o.health with
  | none =>
      rw [hhealth] at h
      cases h
  | some hm =>
      rw [hhealth] at h
      exact ⟨hm, h⟩

/-! ### The cluster -/

variable (c : ClusterSetup σ)

/-- The call that an event of the cluster is, if it happens at all. -/
def ClusterSetup.eventCall (s : Cluster σ) (e : ClusterEvent) : Option ClusterCall :=
  if e.node ∈ c.members ∧ e.Enabled s.net then some (e.node, e.call) else none

/-- The cluster is a run of calls on messages that were sent to the node. -/
theorem ClusterSetup.clusterSimulation :
    Simulation c.step c.call id c.eventCall (fun _ => True) (Addressed c) where
  keeps _ _ _ := trivial
  sees s e _ := by
    rw [step, eventCall]
    split
    · rw [id, id, Option.elim_some, ClusterSetup.call, ClusterEvent.run]
    · rfl
  allows s e _ x hx := by
    rw [eventCall] at hx
    split at hx
    · rename_i henabled
      obtain rfl := Option.some.inj hx
      have hinput := henabled.2.input
      refine ⟨henabled.1, fun p hp => ?_⟩
      rw [ClusterEvent.input_call fun q hq => (hinput q hq).2] at hp
      exact (hinput p hp).1
    · cases hx

end

end L2Oracle
