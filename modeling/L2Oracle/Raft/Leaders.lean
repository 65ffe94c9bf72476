import L2Oracle.Raft.Calls
import L2Oracle.Raft.Election

/-!
# How many nodes can lead

A leader never steps down, and nothing keeps two nodes from leading at once. But no more than two ever
do, however many members there are and however long the run, as long as messages reach only whom they
were sent to.

A node that gives its vote to another has not stood yet, and the other has, since it asked. So a vote
always goes from a node that stands later to one that stood earlier. Of two leaders one has the vote of
the other, and a node votes for one other only: of three leaders the one that stood last would have
voted for both others.

The rules of the library do not say when it asks for votes. Here it is relied on that it does so as a
candidate.
-/

namespace L2Oracle

open Base

section
variable {σ : Type}

/-- A call of the library asks for votes only if it leaves a candidate. -/
def LibResult.AsksAsCandidate (view : σ → RaftView) (r : LibResult σ) : Prop :=
  ∀ peer msg, RaftCall.sendRequestVote peer msg ∈ r.calls → (view r.raft).role = .candidate

structure CandidateRules (lib : RaftLib σ) (view : σ → RaftView) : Prop where
  periodic : ∀ s env elapsed, (lib.raftPeriodic s env elapsed).AsksAsCandidate view
  requestVote : ∀ s env sender rv, (lib.raftRecvRequestVote s env sender rv).1.AsksAsCandidate view
  requestVoteResponse : ∀ s env sender resp,
    (lib.raftRecvRequestVoteResponse s env sender resp).AsksAsCandidate view
  appendEntries : ∀ s env sender ae, (lib.raftRecvAppendEntries s env sender ae).1.AsksAsCandidate view
  appendEntriesResponse : ∀ s env sender resp,
    (lib.raftRecvAppendEntriesResponse s env sender resp).AsksAsCandidate view
  entry : ∀ s env entry, (lib.raftRecvEntry s env entry).AsksAsCandidate view

/-! ### Who asks for votes -/

def Frame.IsRequest (f : Frame) : Prop := f.ethertype = ethertypeRaft ∧ f.msgType = .requestVote

/-- If the effect asks for votes, it leaves a candidate. -/
def Effect.AsksAsCandidate (view : σ → RaftView) (e : Effect σ) : Prop :=
  ∀ f ∈ e.sent, f.IsRequest → (view e.node.raft).role = .candidate

theorem Effect.AsksAsCandidate.append {view : σ → RaftView} {e : Effect σ} (h : e.AsksAsCandidate view)
    {f : Frame} (hf : ¬f.IsRequest) :
    ({ e with sent := e.sent ++ [f] } : Effect σ).AsksAsCandidate view := by
  intro g hg hrequest
  rcases List.mem_append.mp hg with hold | hnew
  · exact h g hold hrequest
  · rw [List.mem_singleton.mp hnew] at hrequest
    exact absurd hrequest hf

/-- The vote requests of a call of the library are those that the library called back. -/
theorem request_of_runLibrary {o : OracleNode σ} {r : LibResult σ} {f : Frame}
    (hf : f ∈ (runLibrary o r).sent) (hrequest : f.IsRequest) :
    ∃ peer msg, RaftCall.sendRequestVote peer msg ∈ r.calls := by
  have hall := List.foldlRecOn r.calls runCallback (motive := fun e : Effect σ =>
      ∀ f ∈ e.sent, f.IsRequest → ∃ peer msg, RaftCall.sendRequestVote peer msg ∈ r.calls)
    (b := ⟨{ o with raft := r.raft }, [], []⟩) (List.forall_mem_nil _) fun e he call hcall g hg hreq => ?_
  · exact hall f hf hrequest
  · cases call with
    | sendRequestVote peer msg => exact ⟨peer, msg, hcall⟩
    | sendAppendEntries peer msg =>
        rcases List.mem_append.mp hg with hold | hnew
        · exact he g hold hreq
        · rw [List.mem_singleton.mp hnew] at hreq
          cases hreq.2
    | applyLog entry idx =>
        rcases List.mem_append.mp hg with hold | hnew
        · exact he g hold hreq
        · have hhealth := cbApplylog_ethertype e.node.health entry g hnew
          exact absurd (hhealth.symm.trans hreq.1) (by decide)

theorem asksAsCandidate_runLibrary {view : σ → RaftView} (o : OracleNode σ) {r : LibResult σ}
    (h : r.AsksAsCandidate view) : (runLibrary o r).AsksAsCandidate view := by
  intro f hf hrequest
  obtain ⟨peer, msg, hcall⟩ := request_of_runLibrary hf hrequest
  rw [runLibrary_raft]
  exact h peer msg hcall

section
variable {lib : RaftLib σ} {view : σ → RaftView} (rules : RaftRules lib view)
  (asks : CandidateRules lib view)
include rules asks

/-- A proposal asks for no votes: it gets to the library of a leader only, and leaves it one. -/
theorem no_request_of_propose (o : OracleNode σ) (env : Nat)
    (targetNode targetBox oldStatus newStatus : UInt8) (now : Nat) :
    ∀ f ∈ (oracleProposeHealthTransition lib o env targetNode targetBox oldStatus newStatus now).1.sent,
      ¬f.IsRequest := by
  intro f hf hrequest
  rw [oracleProposeHealthTransition] at hf
  split at hf
  · rename_i hleader
    set entry := proposedEntry lib o targetNode targetBox oldStatus newStatus now
    obtain ⟨peer, msg, hcall⟩ := request_of_runLibrary hf hrequest
    have hcandidate := asks.entry o.raft env entry peer msg hcall
    have hrole : (view (lib.raftRecvEntry o.raft env entry).raft).role = .leader := by
      rcases rules.entry o.raft env entry with hview | ⟨hrole, hview⟩
      · rw [hview]
        exact (rules.isLeader o.raft).mp hleader
      · rw [hview]
        exact hrole
    exact absurd (hcandidate.symm.trans hrole) (by decide)
  · cases hf

theorem no_request_of_submitAll (env now : Nat) (ps : List Proposal) {e : Effect σ}
    (h : ∀ f ∈ e.sent, ¬f.IsRequest) :
    ∀ f ∈ ((oracleApi lib env now).submitAll e ps).sent, ¬f.IsRequest := by
  refine List.foldlRecOn ps (oracleApi lib env now).submit
    (motive := fun e : Effect σ => ∀ f ∈ e.sent, ¬f.IsRequest) h fun e he p _ f hf => ?_
  rcases List.mem_append.mp hf with hold | hnew
  · exact he f hold
  · exact no_request_of_propose rules asks e.node env _ _ _ _ now f hnew

omit rules in
theorem asksAsCandidate_dispatch (o : OracleNode σ) (env : Nat) (srcNode : UInt8)
    (msgType : RaftMsgType) (mem : Nat → UInt8) (len now : Nat) :
    (oracleDispatchRaftMessage lib o env srcNode msgType mem len now).1.AsksAsCandidate view := by
  have hcases := dispatched lib o env srcNode msgType mem len now
  generalize oracleDispatchRaftMessage lib o env srcNode msgType mem len now = d at hcases ⊢
  cases hcases with
  | dropped => exact List.forall_mem_nil _
  | requestVote =>
      exact (asksAsCandidate_runLibrary o (asks.requestVote _ _ _ _)).append fun h => by cases h.2
  | requestVoteResp => exact asksAsCandidate_runLibrary o (asks.requestVoteResponse _ _ _ _)
  | appendEntries =>
      exact (asksAsCandidate_runLibrary o (asks.appendEntries _ _ _ _)).append fun h => by cases h.2
  | appendEntriesResp => exact asksAsCandidate_runLibrary _ (asks.appendEntriesResponse _ _ _ _)

/-- A node that asks for votes is a candidate when it has asked. -/
theorem NodeCall.asksAsCandidate (o : OracleNode σ) (x : NodeCall) :
    (x.run lib o).AsksAsCandidate view := by
  cases x with
  | startHealth => exact List.forall_mem_nil _
  | oracleTick env elapsedMs => exact asksAsCandidate_runLibrary o (asks.periodic _ _ _)
  | dispatch srcNode msgType payload beyond env now =>
      exact asksAsCandidate_dispatch asks o env srcNode _ _ _ now
  | announce srcNode ann sample =>
      intro f hf hrequest
      obtain ⟨hm, hf⟩ := mem_sent_withMonitor hf
      simp only [List.nil_append, healthMonitorProcessAnnounce_eq] at hf
      split at hf
      · rw [List.mem_singleton.mp hf] at hrequest
        cases hrequest.2
      · cases hf
  | heartbeat srcNode hb sample env now =>
      intro f hf hrequest
      obtain ⟨hm, hf⟩ := mem_sent_withMonitor hf
      obtain ⟨ps, hps⟩ := healthMonitorProcessHeartbeat_submits (oracleApi lib env now) hm ⟨o, [], []⟩
        srcNode hb (UInt32.ofNat sample)
      rw [hps] at hf
      exact absurd hrequest (no_request_of_submitAll rules asks env now ps (List.forall_mem_nil _) f hf)
  | tick beyond sample env now =>
      intro f hf hrequest
      obtain ⟨hm, hf⟩ := mem_sent_withMonitor hf
      obtain ⟨ps, hps⟩ := healthMonitorTick_submits (oracleApi lib env now) hm ⟨o, [], []⟩
        (UInt32.ofNat sample) beyond
      rw [hps] at hf
      exact absurd hrequest (no_request_of_submitAll rules asks env now ps (List.forall_mem_nil _) f hf)
  | propose targetNode targetBox oldStatus newStatus env now =>
      intro f hf hrequest
      exact absurd hrequest (no_request_of_propose rules asks o env _ _ _ _ now f hf)

end

/-! ### Who stood first -/

/-- The nodes that have stood, in the order in which they first did. Votes go from later to earlier
ones, where a node that has not stood is later than all that have. -/
structure StandingOrder (c : ClusterSetup σ) (view : σ → RaftView) (s : Cluster σ)
    (order : List UInt8) : Prop where
  stood : ∀ n ∈ c.members, n ∈ order ↔ 1 ≤ (s.server view n).term
  asked : ∀ p ∈ s.net, p.IsRequest → p.src ∈ order
  granted : ∀ p ∈ s.net, p.Grants → order.idxOf p.frame.dstNode < order.idxOf p.src

theorem idxOf_lt_append {order : List UInt8} {a b : UInt8} (h : order.idxOf a < order.idxOf b)
    (x : UInt8) : (order ++ [x]).idxOf a < (order ++ [x]).idxOf b := by
  have ha : a ∈ order := List.idxOf_lt_length_iff.mp (h.trans_le List.idxOf_le_length)
  rw [List.idxOf_append_of_mem ha]
  by_cases hb : b ∈ order
  · rwa [List.idxOf_append_of_mem hb]
  · rw [List.idxOf_append_of_notMem hb]
    exact Nat.lt_of_lt_of_le (List.idxOf_lt_length_iff.mpr ha) (Nat.le_add_right _ _)

theorem Move.term_le {input : Option Packet} {timesOut : Prop} {n : UInt8} {v v' : RaftView}
    (h : Move input timesOut n v v') : v.term ≤ v'.term := by
  cases h with
  | elect => exact Nat.le_succ _
  | stay | alone | grant | count | append | propose => exact Nat.le_refl _

section
variable {c : ClusterSetup σ} {view : σ → RaftView} {s : Cluster σ} {order : List UInt8}
  (hinv : VoteInv c view s) (horder : StandingOrder c view s order) {n : UInt8} (hn : n ∈ c.members)
  (hmany : c.members.toFinset ≠ {n}) {input : Option Packet} (hinput : ∀ p ∈ input, p ∈ s.net)
  {timesOut : Prop} {v : RaftView} (hmove : Move input timesOut n (s.server view n) v) {e : Effect σ}
  (heffect : EffectOf view input n v e) (hasks : e.AsksAsCandidate view)
include hinv horder hn hmany hinput hmove heffect hasks

/-- If the node has now stood exactly if it is in the order, the order is right again. -/
theorem StandingOrder.act_of {order' : List UInt8} (hself : n ∈ order' ↔ 1 ≤ v.term)
    (hothers : ∀ a, a ≠ n → (a ∈ order' ↔ a ∈ order)) (hkept : ∀ a ∈ order, a ∈ order')
    (hlater : ∀ a b, order.idxOf a < order.idxOf b → order'.idxOf a < order'.idxOf b) :
    StandingOrder c view (s.act n e) order' := by
  constructor
  case stood =>
      intro a ha
      rw [server_act s heffect]
      split
      · rename_i heq
        rw [heq]
        exact hself
      · rename_i hne
        exact (hothers a hne).trans (horder.stood a ha)
  case asked =>
      intro p hp hrequest
      rcases mem_net_act hp with hold | ⟨hsrc, hf⟩
      · exact hkept _ (horder.asked p hold hrequest)
      · have hrole : v.role = .candidate := heffect.raft ▸ hasks p.frame hf hrequest
        rw [hsrc, hself]
        exact (hinv.standing_move hn hmove (by simp [hrole])).resolve_right hmany
  case granted =>
      intro p hp hgrants
      by_cases hold : p ∈ s.net
      · exact hlater _ _ (horder.granted p hold hgrants)
      · obtain ⟨hsrc, hvote, hdst⟩ := hinv.granted_new hinput heffect hp hgrants hold
        -- a vote for another is given before the node has stood
        have hnot : n ∉ order' := by
          rw [hself]
          intro hterm
          have hown := hinv.voted_move hn hmove hterm
          exact hdst (nodeIdInt_injective (Option.some.inj (hvote.symm.trans hown)))
        have hsent := heffect.sent p.frame ((mem_net_act hp).resolve_left hold).2 hgrants.1
        simp only [hgrants.2.1] at hsent
        obtain ⟨q, hq, hrequest, -, hasked, -⟩ := hsent ⟨hgrants.1, hgrants.2.1, hgrants.2.2⟩
        have hmem : p.frame.dstNode ∈ order' := hkept _ (hasked ▸ horder.asked q (hinput q hq) hrequest)
        rw [hsrc, List.idxOf_eq_length hnot]
        exact List.idxOf_lt_length_iff.mpr hmem

theorem StandingOrder.act : ∃ order', StandingOrder c view (s.act n e) order' := by
  have hstood := horder.stood n hn
  by_cases hnew : n ∉ order ∧ 1 ≤ v.term
  · refine ⟨order ++ [n], horder.act_of hinv hn hmany hinput hmove heffect hasks ?_ ?_ ?_ ?_⟩
    · exact ⟨fun _ => hnew.2, fun _ => by simp⟩
    · intro a hne
      simp [hne]
    · exact fun a ha => List.mem_append_left _ ha
    · exact fun a b h => idxOf_lt_append h n
  · refine ⟨order, horder.act_of hinv hn hmany hinput hmove heffect hasks ?_ (fun _ _ => Iff.rfl)
      (fun _ => id) fun _ _ => id⟩
    constructor
    · exact fun hmem => (hstood.mp hmem).trans hmove.term_le
    · intro hterm
      by_contra hnot
      exact hnew ⟨hnot, hterm⟩

end

/-! ### Three leaders -/

section
variable {c : ClusterSetup σ} {view : σ → RaftView} {s : Cluster σ} {order : List UInt8}
  (hinv : VoteInv c view s) (horder : StandingOrder c view s order) {a b d : UInt8}
  (ha : a ∈ c.members) (hb : b ∈ c.members) (hd : d ∈ c.members)
  (hleadA : (s.server view a).role = .leader) (hleadB : (s.server view b).role = .leader)
  (hleadD : (s.server view d).role = .leader)
include hinv horder

include ha hd hleadA hleadD in
/-- Of two leaders the one that stood later has voted for the other. -/
theorem StandingOrder.later_voted (hne : a ≠ d) (hle : order.idxOf a ≤ order.idxOf d) :
    ∃ p ∈ s.net, p.Grants ∧ p.src = d ∧ p.frame.dstNode = a := by
  rcases hinv.leader_voted ha hd hne hleadA hleadD with hvoted | hvoted
  · exact hinv.counted a ha (by simp [hleadA]) d hvoted (Ne.symm hne)
  · obtain ⟨p, hp, hgrants, hsrc, hdst⟩ := hinv.counted d hd (by simp [hleadD]) a hvoted hne
    have hlater := horder.granted p hp hgrants
    rw [hsrc, hdst] at hlater
    omega

include ha hb hd hleadA hleadB hleadD

/-- Of three leaders the one that stood last has voted for both others, so these are one. -/
theorem StandingOrder.eq_of_last (hneA : a ≠ d) (hneB : b ≠ d)
    (hleA : order.idxOf a ≤ order.idxOf d) (hleB : order.idxOf b ≤ order.idxOf d) : a = b := by
  obtain ⟨p, hp, hgp, hsrcp, hdstp⟩ := horder.later_voted hinv ha hd hleadA hleadD hneA hleA
  obtain ⟨q, hq, hgq, hsrcq, hdstq⟩ := horder.later_voted hinv hb hd hleadB hleadD hneB hleB
  rw [← hdstp, ← hdstq]
  exact hinv.granted_one p hp q hq hgp hgq (hsrcp.trans hsrcq.symm)

theorem StandingOrder.two_of_three : a = b ∨ a = d ∨ b = d := by
  by_contra hne
  push Not at hne
  obtain ⟨hab, had, hbd⟩ := hne
  rcases Nat.le_total (order.idxOf a) (order.idxOf b) with hleAB | hleAB
  · rcases Nat.le_total (order.idxOf b) (order.idxOf d) with hleBD | hleBD
    · exact hab (horder.eq_of_last hinv ha hb hd hleadA hleadB hleadD had hbd (hleAB.trans hleBD) hleBD)
    · exact had (horder.eq_of_last hinv ha hd hb hleadA hleadD hleadB hab (Ne.symm hbd) hleAB hleBD)
  · rcases Nat.le_total (order.idxOf a) (order.idxOf d) with hleAD | hleAD
    · exact hab (horder.eq_of_last hinv ha hb hd hleadA hleadB hleadD had hbd hleAD (hleAB.trans hleAD))
    · exact hbd (horder.eq_of_last hinv hb hd ha hleadB hleadD hleadA (Ne.symm hab) (Ne.symm had) hleAB
        hleAD)

end

/-! ### Every run -/

section
variable {c : ClusterSetup σ} {view : σ → RaftView}

theorem ClusterSetup.Started.standingOrder {s : Cluster σ} (h : c.Started view s) :
    StandingOrder c view s [] where
  stood n hn := by simp [h.server n hn, RaftView.started]
  asked := by
    rw [h.net]
    exact List.forall_mem_nil _
  granted := by
    rw [h.net]
    exact List.forall_mem_nil _

theorem ClusterSetup.Along.standingOrder (rules : RaftRules c.lib view)
    (asks : CandidateRules c.lib view) {s : Cluster σ} {xs : List ClusterCall}
    (h : c.Along Addressed s xs) (hstart : VoteInv c view s)
    (hnone : ∃ order, StandingOrder c view s order) (hmany : ∀ n, c.members.toFinset ≠ {n}) :
    VoteInv c view (run c.call s xs) ∧ ∃ order, StandingOrder c view (run c.call s xs) order := by
  refine h.induction (I := fun t => VoteInv c view t ∧ ∃ order, StandingOrder c view t order)
    ⟨hstart, hnone⟩ fun t x ht hx => ?_
  obtain ⟨hinv, order, horder⟩ := ht
  obtain ⟨v, hmove, heffect⟩ := x.2.move rules x.1 (t.nodes x.1)
  have hasks := x.2.asksAsCandidate rules asks (t.nodes x.1)
  exact ⟨hinv.act hx.1 hx.2 hmove heffect,
    horder.act hinv hx.1 (hmany x.1) hx.2 hmove heffect hasks⟩

/-- A leader leads its term for good, whatever is dispatched to it. -/
theorem leader_run_call (rules : RaftRules c.lib view) {s : Cluster σ} {n : UInt8}
    (h : (s.server view n).role = .leader) (xs : List ClusterCall) :
    ((run c.call s xs).server view n).role = .leader ∧
      ((run c.call s xs).server view n).term = (s.server view n).term := by
  refine List.foldlRecOn xs c.call (motive := fun t => (t.server view n).role = .leader ∧
    (t.server view n).term = (s.server view n).term) ⟨h, rfl⟩ fun t ht x _ => ?_
  obtain ⟨v, hmove, heffect⟩ := x.2.move rules x.1 (t.nodes x.1)
  rw [ClusterSetup.call, server_act t heffect]
  split
  · rename_i heq
    obtain ⟨hrole, hterm⟩ := hmove.leader (heq ▸ ht.1)
    exact ⟨hrole, hterm.trans (heq ▸ ht.2)⟩
  · exact ht

/-- The node leads at some point of the run. -/
def ClusterSetup.EverLeads (c : ClusterSetup σ) (s : Cluster σ) (xs : List ClusterCall) (n : UInt8) :
    Prop :=
  ∃ pre, pre <+: xs ∧ oracleIsLeader c.lib ((run c.call s pre).nodes n) = true

theorem ClusterSetup.EverLeads.at_end (rules : RaftRules c.lib view) {s : Cluster σ}
    {xs : List ClusterCall} {n : UInt8} (h : c.EverLeads s xs n) :
    ((run c.call s xs).server view n).role = .leader := by
  obtain ⟨pre, ⟨post, rfl⟩, hleads⟩ := h
  rw [run_append]
  exact (leader_run_call rules ((rules.isLeader _).mp hleads) post).1

/-- Where messages reach only whom they were sent to, at most two nodes ever lead. -/
theorem ClusterSetup.Along.two_lead (rules : RaftRules c.lib view) (asks : CandidateRules c.lib view)
    {s : Cluster σ} {xs : List ClusterCall} (h : c.Along Addressed s xs) (hstart : c.Started view s) :
    ∃ a b, ∀ n ∈ c.members, c.EverLeads s xs n → n = a ∨ n = b := by
  by_cases hone : ∃ m, c.members.toFinset = {m}
  · obtain ⟨m, hm⟩ := hone
    refine ⟨m, m, fun n hn _ => .inl ?_⟩
    have hmem : n ∈ c.members.toFinset := List.mem_toFinset.mpr hn
    rw [hm] at hmem
    exact Finset.mem_singleton.mp hmem
  · obtain ⟨hinv, order, horder⟩ := h.standingOrder rules asks hstart.voteInv
      ⟨[], hstart.standingOrder⟩ (not_exists.mp hone)
    by_cases hfirst : ∃ a ∈ c.members, c.EverLeads s xs a
    · obtain ⟨a, ha, hleadA⟩ := hfirst
      by_cases hsecond : ∃ b ∈ c.members, c.EverLeads s xs b ∧ a ≠ b
      · obtain ⟨b, hb, hleadB, hne⟩ := hsecond
        refine ⟨a, b, fun n hn hleadN => ?_⟩
        rcases horder.two_of_three hinv ha hb hn (hleadA.at_end rules) (hleadB.at_end rules)
          (hleadN.at_end rules) with heq | heq | heq
        · exact absurd heq hne
        · exact .inl heq.symm
        · exact .inr heq.symm
      · refine ⟨a, a, fun n hn hleadN => .inl ?_⟩
        by_contra hne
        exact hsecond ⟨n, hn, hleadN, Ne.symm hne⟩
    · exact ⟨0, 0, fun n hn hleadN => absurd ⟨n, hn, hleadN⟩ hfirst⟩

/-- In every run of a cluster at most two nodes ever lead. -/
theorem at_most_two_lead (rules : RaftRules c.lib view) (asks : CandidateRules c.lib view)
    (hnodup : c.members.Nodup) (es : List ClusterEvent) :
    ∃ a b, ∀ n ∈ c.members, ∀ pre, pre <+: es → oracleIsLeader c.lib ((c.reach pre).nodes n) = true →
      n = a ∨ n = b := by
  have haddressed : c.Along Addressed c.init (trace c.step c.eventCall c.init es) :=
    c.clusterSimulation.allows_run trivial es
  obtain ⟨a, b, hab⟩ := haddressed.two_lead rules asks (started_init rules hnodup)
  refine ⟨a, b, fun n hn pre hpre hleads => hab n hn
    ⟨_, trace_prefix c.step c.eventCall c.init hpre, ?_⟩⟩
  have hrun := c.clusterSimulation.sees_run (s := c.init) trivial pre
  exact hrun ▸ hleads

end

/-! ### Two nodes that do -/

theorem ReferenceServer.asks : CandidateRules ReferenceServer.lib ReferenceServer.view where
  periodic s env elapsed := by
    intro peer msg hcall
    simp only [ReferenceServer.lib, ReferenceServer.periodic] at hcall ⊢
    split at hcall
    · rename_i htimes
      rw [if_pos htimes]
      rfl
    · split at hcall
      · cases hcall
      · rcases List.mem_append.mp hcall with hsend | happly
        · split at hsend
          · simp [ReferenceServer.sendEntries] at hsend
          · cases hsend
        · simp [ReferenceServer.applyCalls] at happly
  requestVote s env sender rv := by
    intro peer msg hcall
    simp only [ReferenceServer.lib, ReferenceServer.recvRequestVote] at hcall
    split at hcall <;> cases hcall
  requestVoteResponse s env sender resp := by
    intro peer msg hcall
    simp only [ReferenceServer.lib, ReferenceServer.recvRequestVoteResponse] at hcall
    split_ifs at hcall
    · simp [ReferenceServer.sendEntries] at hcall
    · cases hcall
    · cases hcall
  appendEntries s env sender ae := by
    intro peer msg hcall
    simp only [ReferenceServer.lib, ReferenceServer.recvAppendEntries] at hcall
    split_ifs at hcall <;> cases hcall
  appendEntriesResponse s env sender resp := by
    intro peer msg hcall
    simp only [ReferenceServer.lib, ReferenceServer.recvAppendEntriesResponse] at hcall
    split_ifs at hcall <;> cases hcall
  entry s env entry := by
    intro peer msg hcall
    simp only [ReferenceServer.lib, ReferenceServer.recvEntry] at hcall
    split at hcall
    · simp [ReferenceServer.sendEntries] at hcall
    · cases hcall

/-- In this run nodes 1 and 2 lead, and so node 3 does not. -/
theorem at_most_two_lead_doubleVoteRun :
    oracleIsLeader threeOracles.lib ((threeOracles.reach doubleVoteRun).nodes 1) = true ∧
      oracleIsLeader threeOracles.lib ((threeOracles.reach doubleVoteRun).nodes 2) = true ∧
      ∃ a b, ∀ n ∈ threeOracles.members, ∀ pre, pre <+: doubleVoteRun →
        oracleIsLeader threeOracles.lib ((threeOracles.reach pre).nodes n) = true → n = a ∨ n = b :=
  ⟨by decide +kernel, by decide +kernel,
    at_most_two_lead ReferenceServer.rules ReferenceServer.asks (by decide) _⟩

end

end L2Oracle
