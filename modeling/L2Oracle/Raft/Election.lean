import L2Oracle.Raft.Reference
import L2Oracle.Raft.Votes

/-!
# Election safety

A node that grants its vote to a candidate does not learn the candidate's term, so nothing keeps it
from standing in that very term later, with its own vote. Its vote then counts twice in one term, once
for the candidate it was granted to and once for itself, and both can win, as `doubleVoteRun` shows.
This is the only way: in every run whose events never let a vote count twice in a term, no two nodes
ever lead in one term.
-/

namespace L2Oracle

open Base

section
variable {σ : Type} {c : ClusterSetup σ} {view : σ → RaftView}

/-- No two nodes ever lead in one term. -/
def ElectionSafe (c : ClusterSetup σ) (es : List ClusterEvent) : Prop :=
  ∀ pre pre', pre <+: es → pre' <+: es → ∀ a ∈ c.members, ∀ b ∈ c.members,
    oracleIsLeader c.lib ((c.reach pre).nodes a) = true →
    oracleIsLeader c.lib ((c.reach pre').nodes b) = true →
    c.lib.raftGetCurrentTerm ((c.reach pre).nodes a).raft
      = c.lib.raftGetCurrentTerm ((c.reach pre').nodes b).raft → a = b

/-- The event does not let a vote count twice in a term: no node times out into the term of a
candidate or leader that counts its vote, and no candidate is handed the vote of a node that is itself
a candidate or leader of the same term. -/
def CountsOnce (c : ClusterSetup σ) (view : σ → RaftView) (pre : List ClusterEvent)
    (e : ClusterEvent) : Prop :=
  let server := (c.reach pre).server view
  e.node ∈ c.members → e.Enabled (c.reach pre).net →
    (e.TimesOut c.lib ((c.reach pre).nodes e.node) → ∀ a ∈ c.members, a ≠ e.node →
      (server a).role ≠ .follower → (server a).term = (server e.node).term + 1 →
      e.node ∉ (server a).votes) ∧
    (∀ p ∈ e.input, p.Grants → (server e.node).role = .candidate →
      (server p.src).role ≠ .follower → (server p.src).term ≠ (server e.node).term)

instance (c : ClusterSetup σ) (view : σ → RaftView) (pre : List ClusterEvent) (e : ClusterEvent) :
    Decidable (CountsOnce c view pre e) :=
  inferInstanceAs (Decidable (_ → _ → _ ∧ _))

/-- No two candidates or leaders of one term count the vote of one of them. -/
def OneVote (c : ClusterSetup σ) (server : UInt8 → RaftView) : Prop :=
  ∀ a ∈ c.members, ∀ b ∈ c.members, a ≠ b → (server a).role ≠ .follower →
    (server b).role ≠ .follower → (server a).term = (server b).term → b ∉ (server a).votes

section
variable {s : Cluster σ} (hinv : VoteInv c view s) (hone : OneVote c (s.server view)) {n : UInt8}
  (hn : n ∈ c.members) {input : Option Packet} {timesOut : Prop} {v : RaftView}
  (hmove : Move input timesOut n (s.server view n) v)

include hinv hone hn hmove

/-- The votes that a node counts after a move. -/
theorem OneVote.counted_move
    (hcounts : ∀ p ∈ input, p.Grants → (s.server view n).role = .candidate →
      (s.server view p.src).role ≠ .follower →
      (s.server view p.src).term ≠ (s.server view n).term)
    {b : UInt8} (hb : b ∈ c.members) (hne : n ≠ b) (hrole : v.role ≠ .follower)
    (hroleB : (s.server view b).role ≠ .follower) (hterm : v.term = (s.server view b).term) :
    b ∉ v.votes := by
  have hbefore := hone n hn b hb hne
  cases hmove with
  | stay | grant => exact hbefore hrole hroleB hterm
  | elect | alone =>
      intro hmem
      exact hne ((Finset.mem_singleton.mp hmem).trans (hinv.self n hn)).symm
  | count p hp hgrants hdst hcandidate =>
      rw [Finset.mem_insert, not_or]
      refine ⟨?_, hbefore (by simp [hcandidate]) hroleB hterm⟩
      rintro rfl
      exact hcounts p hp hgrants hcandidate hroleB hterm.symm
  | append p log hp happend hdst hlog =>
      refine hbefore (fun hfollower => hrole ?_) hroleB hterm
      simp [hfollower]
  | propose entries hleader => exact hbefore (by simp [hleader]) hroleB hterm

/-- The nodes that count a node's vote after it has moved. -/
theorem OneVote.voter_move
    (htimes : timesOut → ∀ a ∈ c.members, a ≠ n → (s.server view a).role ≠ .follower →
      (s.server view a).term = (s.server view n).term + 1 → n ∉ (s.server view a).votes)
    {a : UInt8} (ha : a ∈ c.members) (hne : a ≠ n) (hroleA : (s.server view a).role ≠ .follower)
    (hrole : v.role ≠ .follower) (hterm : (s.server view a).term = v.term) :
    n ∉ (s.server view a).votes := by
  have hbefore := hone a ha n hn hne hroleA
  cases hmove with
  | stay | grant => exact hbefore hrole hterm
  | elect hout => exact htimes hout a ha hne hroleA hterm
  | alone halone =>
      rw [hinv.members n hn, hinv.self n hn] at halone
      have hmem : a ∈ c.members.toFinset := List.mem_toFinset.mpr ha
      rw [halone] at hmem
      exact absurd (Finset.mem_singleton.mp hmem) hne
  | count p hp hgrants hdst hcandidate => exact hbefore (by simp [hcandidate]) hterm
  | append p log hp happend hdst hlog =>
      refine hbefore (fun hfollower => hrole ?_) hterm
      simp [hfollower]
  | propose entries hleader => exact hbefore (by simp [hleader]) hterm

end

theorem OneVote.step (rules : RaftRules c.lib view) (hnodup : c.members.Nodup)
    {pre : List ClusterEvent} {e : ClusterEvent} (hone : OneVote c ((c.reach pre).server view))
    (hcond : CountsOnce c view pre e) : OneVote c ((c.reach (pre ++ [e])).server view) := by
  have hinv := voteInv_reach rules hnodup pre
  rw [c.reach_snoc]
  rcases c.step_cases rules (c.reach pre) e with hsame | ⟨hn, henabled, -, v, hmove, heffect, hstep⟩
  · rw [hsame]
    exact hone
  · obtain ⟨htimes, hcounts⟩ := hcond hn henabled
    rw [hstep]
    intro a ha b hb hne
    rw [server_act _ heffect, server_act _ heffect]
    by_cases hisA : a = e.node
    · rw [if_pos hisA, if_neg (hisA ▸ Ne.symm hne)]
      exact hone.counted_move hinv hn hmove hcounts hb (hisA ▸ hne)
    · rw [if_neg hisA]
      by_cases hisB : b = e.node
      · rw [if_pos hisB, hisB]
        exact hone.voter_move hinv hn hmove htimes ha hisA
      · rw [if_neg hisB]
        exact hone a ha b hb hne

theorem oneVote_reach (rules : RaftRules c.lib view) (hnodup : c.members.Nodup)
    {es : List ClusterEvent} (h : Throughout (CountsOnce c view) es) :
    OneVote c ((c.reach es).server view) := by
  refine h.induction (I := fun es => OneVote c ((c.reach es).server view)) ?_ ?_
  · intro a ha b hb hne hrole
    exact absurd (congrArg RaftView.role (server_init rules hnodup ha)) hrole
  · exact fun pre e hone hcond => hone.step rules hnodup hcond

/-- Two nodes that lead in one term at one time are one node. -/
theorem OneVote.leader_unique {s : Cluster σ} (hinv : VoteInv c view s)
    (hone : OneVote c (s.server view)) {a b : UInt8} (ha : a ∈ c.members) (hb : b ∈ c.members)
    (hleadA : (s.server view a).role = .leader) (hleadB : (s.server view b).role = .leader)
    (hterm : (s.server view a).term = (s.server view b).term) : a = b := by
  by_contra hne
  have hroleA : (s.server view a).role ≠ .follower := by simp [hleadA]
  have hroleB : (s.server view b).role ≠ .follower := by simp [hleadB]
  rcases hinv.leader_voted ha hb hne hleadA hleadB with hvoted | hvoted
  · exact hone a ha b hb hne hroleA hroleB hterm hvoted
  · exact hone b hb a ha (Ne.symm hne) hroleB hroleA hterm.symm hvoted

/-- In every run that never lets a vote count twice in a term, no two nodes ever lead in one term. -/
theorem election_safety (rules : RaftRules c.lib view) (hnodup : c.members.Nodup)
    {es : List ClusterEvent} (h : Throughout (CountsOnce c view) es) : ElectionSafe c es := by
  have hlast : ∀ {n : UInt8} {pre : List ClusterEvent}, pre <+: es →
      oracleIsLeader c.lib ((c.reach pre).nodes n) = true →
      ((c.reach es).server view n).role = .leader ∧ ((c.reach es).server view n).term
        = c.lib.raftGetCurrentTerm ((c.reach pre).nodes n).raft := by
    rintro n pre ⟨rest, rfl⟩ hleader
    rw [rules.currentTerm]
    exact leader_reach_append rules pre rest ((rules.isLeader _).mp hleader)
  intro pre pre' hpre hpre' a ha b hb hleadA hleadB hterm
  obtain ⟨hroleA, htermA⟩ := hlast hpre hleadA
  obtain ⟨hroleB, htermB⟩ := hlast hpre' hleadB
  exact (oneVote_reach rules hnodup h).leader_unique (voteInv_reach rules hnodup es) ha hb hroleA
    hroleB (by rw [htermA, htermB, hterm])

end

/-! ### Three nodes

Runs of three oracles over a server that keeps the rules. -/

def threeOracles : ClusterSetup ReferenceServer where
  lib := ReferenceServer.lib
  members := [1, 2, 3]
  box n := n

/-- An election timeout. -/
def timeout (n : UInt8) : ClusterEvent := .periodic n 0 ReferenceServer.electionTimeout

/-- The vote request of a node with an empty log arrives. -/
def requestArrives (a b : UInt8) : ClusterEvent :=
  .deliver ⟨a, cbSendRequestvote b ⟨1, nodeIdInt a, 0, 0⟩⟩ (fun _ => 0) 0 0

/-- A granted vote arrives. -/
def voteArrives (a b : UInt8) : ClusterEvent :=
  .deliver ⟨a, ⟨b, ethertypeRaft, .requestVoteResp, (PayloadRequestVoteResp.mk 1 0).bytes⟩⟩
    (fun _ => 0) 0 0

/-- Node 1 wins with the vote of node 2, and node 3, which stands too late, gets no vote. -/
def electedRun : List ClusterEvent :=
  [timeout 1, requestArrives 1 2, voteArrives 2 1, timeout 3, requestArrives 3 2]

theorem election_safety_electedRun :
    oracleIsLeader threeOracles.lib ((threeOracles.reach electedRun).nodes 1) = true ∧
      Throughout (CountsOnce threeOracles ReferenceServer.view) electedRun ∧
      ElectionSafe threeOracles electedRun := by
  have hcounts : Throughout (CountsOnce threeOracles ReferenceServer.view) electedRun := by
    decide +kernel
  exact ⟨by decide +kernel, hcounts, election_safety ReferenceServer.rules (by decide) hcounts⟩

/-- Node 1 wins with the vote of node 2, and then node 2, whose term is still 0, stands and wins with
the vote of node 3. -/
def doubleVoteRun : List ClusterEvent :=
  [timeout 1, requestArrives 1 2, voteArrives 2 1, timeout 2, requestArrives 2 3, voteArrives 3 2]

/-- Nodes 1 and 2 both lead in term 1. -/
theorem two_leaders_doubleVoteRun :
    RaftRules threeOracles.lib ReferenceServer.view ∧ threeOracles.members = [1, 2, 3] ∧
      ¬ElectionSafe threeOracles doubleVoteRun := by
  refine ⟨ReferenceServer.rules, rfl, fun hsafe => ?_⟩
  have hsame := hsafe doubleVoteRun doubleVoteRun (List.prefix_refl _) (List.prefix_refl _)
    1 (by decide) 2 (by decide) (by decide +kernel) (by decide +kernel) (by decide +kernel)
  exact absurd hsame (by decide)

end L2Oracle
