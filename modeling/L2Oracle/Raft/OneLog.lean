import L2Oracle.Raft.Leaders
import L2Oracle.Raft.LogSafety

/-!
# One log or two leaders

A second leader is the only thing that can tear the log apart. As long as one node leads, its log is
the log: what others hold is a copy of the beginning of it, and what anyone applies at an index is its
transition there. Votes need not be looked at for this, nor what a candidate counts, and a leader that
is there once is there for good. So every run, of whatever tasks, ends with one log or with two leaders.

Where a log grows past what an index on the wire can say, nothing is promised.
-/

namespace L2Oracle

open Base

section
variable {σ : Type}

/-- Two members lead. -/
def ClusterSetup.TwoLead (c : ClusterSetup σ) (s : Cluster σ) : Prop :=
  ∃ a ∈ c.members, ∃ b ∈ c.members, a ≠ b ∧ oracleIsLeader c.lib (s.nodes a) = true ∧
    oracleIsLeader c.lib (s.nodes b) = true

/-- The log of the leader, and what the cluster has of it. -/
structure OneLog (c : ClusterSetup σ) (view : σ → RaftView) (s : Cluster σ) (log : List RaftEntry) :
    Prop where
  leader : ∀ n ∈ c.members, oracleIsLeader c.lib (s.nodes n) = true → (s.server view n).log = log
  copies : ∀ n ∈ c.members, PrefixBy SameTransition (s.server view n).log log
  applied : ∀ x ∈ s.applied, 0 < x.2.1 ∧ ∃ entry, log[x.2.1 - 1]? = some entry ∧
    SameTransition x.2.2 entry

/-- Indices fit the words that carry them. -/
def ShortLogs (view : σ → RaftView) (c : ClusterSetup σ) (s : Cluster σ) (_x : ClusterCall) : Prop :=
  ∀ n ∈ c.members, (s.server view n).log.length < 2 ^ 32

instance (view : σ → RaftView) (c : ClusterSetup σ) (s : Cluster σ) (x : ClusterCall) :
    Decidable (ShortLogs view c s x) :=
  inferInstanceAs (Decidable (∀ n ∈ c.members, _ < _))

variable {c : ClusterSetup σ} {view : σ → RaftView} {s : Cluster σ}

theorem twoLead_iff (rules : RaftRules c.lib view) :
    c.TwoLead s ↔ ∃ a ∈ c.members, ∃ b ∈ c.members, a ≠ b ∧ (s.server view a).role = .leader ∧
      (s.server view b).role = .leader := by
  simp only [ClusterSetup.TwoLead, oracleIsLeader, rules.isLeader]
  rfl

theorem LogInv.oneLog (rules : RaftRules c.lib view) {L : SharedLog} (h : LogInv c view s L) :
    OneLog c view s L.entries where
  leader n hn hleads := h.current n ((h.leader n hn).mp ((rules.isLeader _).mp hleads))
  copies := h.copies
  applied := h.applied

/-- Two leaders stay. -/
theorem ClusterSetup.TwoLead.call (rules : RaftRules c.lib view) (h : c.TwoLead s) (x : ClusterCall) :
    c.TwoLead (c.call s x) := by
  obtain ⟨a, ha, b, hb, hne, hleadA, hleadB⟩ := (twoLead_iff rules).mp h
  exact (twoLead_iff rules).mpr ⟨a, ha, b, hb, hne, (leader_run_call rules hleadA [x]).1,
    (leader_run_call rules hleadB [x]).1⟩

/-- A node that comes to lead finds no leader, if there are no two afterwards. -/
theorem LogInv.first_of_one (rules : RaftRules c.lib view) {L : SharedLog} (hinv : LogInv c view s L)
    {x : ClusterCall} (hn : x.1 ∈ c.members) (hone : ¬c.TwoLead (c.call s x))
    (hwins : ((c.call s x).server view x.1).role = .leader)
    (hrole : (s.server view x.1).role ≠ .leader) : L.leader = none := by
  rw [Option.eq_none_iff_forall_ne_some]
  intro a ha
  have hmem := hinv.member a ha
  have hleads := (hinv.leader a hmem).mpr ha
  have hne : a ≠ x.1 := fun heq => hrole (heq ▸ hleads)
  have hleads' := (leader_run_call rules hleads [x]).1
  exact hone ((twoLead_iff rules).mpr ⟨a, hmem, x.1, hn, hne, hleads', hwins⟩)

/-- In every run on messages for the node the cluster keeps one log, until two nodes lead. -/
theorem ClusterSetup.Along.oneLog_or_twoLead (rules : RaftRules c.lib view) (hstart : c.Started view s)
    {xs : List ClusterCall} (h : c.Along Addressed s xs) (hfit : c.Along (ShortLogs view) s xs) :
    (∃ log, OneLog c view (run c.call s xs) log) ∨ c.TwoLead (run c.call s xs) := by
  have hboth : c.Along (fun c s x => Addressed c s x ∧ ShortLogs view c s x) s xs := h.and hfit
  have hrun : VoteInv c view (run c.call s xs) ∧
      ((∃ L, LogInv c view (run c.call s xs) L) ∨ c.TwoLead (run c.call s xs)) := by
    refine hboth.induction (I := fun t => VoteInv c view t ∧ ((∃ L, LogInv c view t L) ∨ c.TwoLead t))
      ⟨hstart.voteInv, .inl ⟨_, hstart.logInv⟩⟩ fun t x ht hx => ?_
    obtain ⟨hvote, hlog⟩ := ht
    obtain ⟨⟨hn, hinput⟩, hshort⟩ := hx
    obtain ⟨v, hmove, heffect⟩ := x.2.move rules x.1 (t.nodes x.1)
    refine ⟨hvote.act hn hinput hmove heffect, ?_⟩
    rcases hlog with ⟨L, hinv⟩ | htwo
    · by_cases hone : c.TwoLead (c.call t x)
      · exact .inr hone
      · have hserver : (c.call t x).server view x.1 = v := by
          rw [ClusterSetup.call, server_act t heffect, if_pos rfl]
        have hfirst := hinv.first_of_one rules hn hone
        rw [hserver] at hfirst
        obtain ⟨L', -, hinv'⟩ := hinv.act hvote hn hinput hmove heffect hshort hfirst
        exact .inl ⟨L', hinv'⟩
    · exact .inr (htwo.call rules x)
  obtain ⟨-, ⟨L, hinv⟩ | htwo⟩ := hrun
  · exact .inl ⟨_, hinv.oneLog rules⟩
  · exact .inr htwo

end

end L2Oracle
