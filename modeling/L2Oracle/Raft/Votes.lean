import L2Oracle.Raft.Moves

/-!
# Votes

What holds of votes in every run, whatever the library does within its rules. A node's term only rises
by its own timeouts, because no message carries another term, and a timeout spends the node's vote of
the new term on itself. So a node grants its vote to another only in term 0, and to one other only
(`VoteInv.granted`, `VoteInv.granted_one`). But a granted vote stays in the net, and a candidate that
gets it counts it for whatever term the candidate has reached: nothing ties the vote to a term of the
node that gave it.
-/

namespace L2Oracle

open Base

section
variable {σ : Type} {c : ClusterSetup σ} {view : σ → RaftView}

/-- The Raft server of a node. -/
def Cluster.server (view : σ → RaftView) (s : Cluster σ) (n : UInt8) : RaftView :=
  view (s.nodes n).raft

/-- What holds of votes in every reachable state of a cluster. -/
structure VoteInv (c : ClusterSetup σ) (view : σ → RaftView) (s : Cluster σ) : Prop where
  self : ∀ n ∈ c.members, (s.server view n).self = n
  members : ∀ n ∈ c.members, (s.server view n).members = c.members.toFinset
  sources : ∀ p ∈ s.net, p.src ∈ c.members
  requests : ∀ p ∈ s.net, p.IsRequest → p.candidate = nodeIdInt p.src ∧ p.frame.dstNode ≠ p.src
  voted : ∀ n ∈ c.members, 1 ≤ (s.server view n).term →
    (s.server view n).votedFor = some (nodeIdInt n)
  granted : ∀ p ∈ s.net, p.Grants → p.frame.dstNode ≠ p.src ∧
    ((s.server view p.src).term = 0 →
      (s.server view p.src).votedFor = some (nodeIdInt p.frame.dstNode))
  granted_one : ∀ p ∈ s.net, ∀ q ∈ s.net, p.Grants → q.Grants → p.src = q.src →
    p.frame.dstNode = q.frame.dstNode
  counted : ∀ n ∈ c.members, (s.server view n).role ≠ .follower →
    ∀ b ∈ (s.server view n).votes, b ≠ n → ∃ p ∈ s.net, p.Grants ∧ p.src = b ∧ p.frame.dstNode = n
  standing : ∀ n ∈ c.members, (s.server view n).role ≠ .follower →
    1 ≤ (s.server view n).term ∨ c.members.toFinset = {n}
  majority : ∀ n ∈ c.members, (s.server view n).role = .leader →
    (s.server view n).Majority (s.server view n).votes

theorem nodeIdInt_injective : Function.Injective nodeIdInt := by
  intro a b h
  have hword : a.toUInt32 = b.toUInt32 := by
    simpa [nodeIdInt] using congrArg Int32.toUInt32 h
  have hnat : a.toNat = b.toNat := by
    simpa using congrArg UInt32.toNat hword
  exact UInt8.toNat_inj.mp hnat

/-! ### One event -/

/-- An event either changes nothing or is a move of its node. -/
theorem ClusterSetup.step_cases (rules : RaftRules c.lib view) (s : Cluster σ) (e : ClusterEvent) :
    c.step s e = s ∨
      (e.node ∈ c.members ∧ e.Enabled s.net ∧ (∀ p ∈ e.input, p ∈ s.net) ∧
        ∃ v, Move e.input (e.TimesOut c.lib (s.nodes e.node)) e.node (s.server view e.node) v ∧
          EffectOf view e.input e.node v (e.run c.lib (s.nodes e.node)) ∧
          c.step s e = s.act e.node (e.run c.lib (s.nodes e.node))) := by
  unfold step
  split
  · rename_i henabled
    have hinput := henabled.2.input
    obtain ⟨v, hmove, heffect⟩ := run_move rules (s.nodes e.node) fun p hp => (hinput p hp).2
    exact .inr ⟨henabled.1, henabled.2, fun p hp => (hinput p hp).1, v, hmove, heffect, rfl⟩
  · exact .inl rfl

theorem server_act (s : Cluster σ) {n : UInt8} {input : Option Packet} {v : RaftView}
    {e : Effect σ} (h : EffectOf view input n v e) (a : UInt8) :
    (s.act n e).server view a = if a = n then v else s.server view a := by
  show view (Function.update s.nodes n e.node a).raft = _
  by_cases ha : a = n
  · rw [if_pos ha, ha, Function.update_self, h.raft]
  · rw [if_neg ha, Function.update_of_ne ha, Cluster.server]

theorem mem_net_act {s : Cluster σ} {n : UInt8} {e : Effect σ} {p : Packet}
    (h : p ∈ (s.act n e).net) : p ∈ s.net ∨ (p.src = n ∧ p.frame ∈ e.sent) := by
  rcases List.mem_append.mp h with hold | hnew
  · exact .inl hold
  · obtain ⟨f, hf, rfl⟩ := List.mem_map.mp hnew
    exact .inr ⟨rfl, hf⟩

theorem Move.self {input : Option Packet} {timesOut : Prop} {n : UInt8} {v v' : RaftView}
    (h : Move input timesOut n v v') : v'.self = v.self := by
  cases h <;> rfl

theorem Move.members {input : Option Packet} {timesOut : Prop} {n : UInt8} {v v' : RaftView}
    (h : Move input timesOut n v v') : v'.members = v.members := by
  cases h <;> rfl

/-- A vote request that a server sends names it and goes to another node. -/
theorem request_sent {input : Option Packet} {n : UInt8} {v : RaftView} {f : Frame}
    (h : SentBy input n v f) (hself : v.self = n) (hrequest : (⟨n, f⟩ : Packet).IsRequest) :
    (⟨n, f⟩ : Packet).candidate = nodeIdInt n ∧ f.dstNode ≠ n := by
  have hsent := h hrequest.1
  have htype : f.msgType = .requestVote := hrequest.2
  simp only [htype] at hsent
  obtain ⟨msg, hf, hpeer, hcandidate⟩ := hsent
  refine ⟨?_, hself ▸ hpeer⟩
  unfold Packet.candidate
  rw [hf, cbSendRequestvote]
  simp only [PayloadRequestVote.read_bytes, hcandidate, hself]
  simp

/-- A vote that a server grants is its vote, given to the node that asked. -/
theorem grant_sent {s : Cluster σ} (hinv : VoteInv c view s) {input : Option Packet}
    (hinput : ∀ p ∈ input, p ∈ s.net) {n : UInt8} {v : RaftView} {f : Frame}
    (h : SentBy input n v f) (hgrants : (⟨n, f⟩ : Packet).Grants) :
    v.votedFor = some (nodeIdInt f.dstNode) ∧ f.dstNode ≠ n := by
  have hsent := h hgrants.1
  have htype : f.msgType = .requestVoteResp := hgrants.2.1
  simp only [htype] at hsent
  obtain ⟨p, hp, hrequest, hdst, hsrc, hvoted⟩ := hsent hgrants
  obtain ⟨hcandidate, hne⟩ := hinv.requests p (hinput p hp) hrequest
  rw [hcandidate, hsrc] at hvoted
  exact ⟨hvoted, fun heq => hne (by rw [hdst, hsrc, heq])⟩

/-! ### Every field of the invariant -/

section
variable {s : Cluster σ} (hinv : VoteInv c view s) {n : UInt8} (hn : n ∈ c.members)
  {input : Option Packet} (hinput : ∀ p ∈ input, p ∈ s.net) {timesOut : Prop} {v : RaftView}
  (hmove : Move input timesOut n (s.server view n) v) {e : Effect σ}
  (heffect : EffectOf view input n v e)

include hinv hn hmove

theorem VoteInv.voted_move : 1 ≤ v.term → v.votedFor = some (nodeIdInt n) := by
  have hvoted := hinv.voted n hn
  have hself := hinv.self n hn
  cases hmove with
  | stay | alone | count | append | propose => exact hvoted
  | elect => exact fun _ => congrArg (fun a => some (nodeIdInt a)) hself
  | grant p hp hrequest hdst hfree =>
      intro hterm
      rcases hfree with hnone | hsome
      · exact absurd ((hvoted hterm).symm.trans hnone) (by simp)
      · exact hsome.symm.trans (hvoted hterm)

theorem VoteInv.standing_move (hrole : v.role ≠ .follower) :
    1 ≤ v.term ∨ c.members.toFinset = {n} := by
  have hstanding := hinv.standing n hn
  cases hmove with
  | stay | grant => exact hstanding hrole
  | elect => exact .inl (Nat.succ_pos _)
  | alone halone =>
      rw [hinv.members n hn, hinv.self n hn] at halone
      exact .inr halone
  | count p hp hgrants hdst hcandidate => exact hstanding (by simp [hcandidate])
  | append p log hp happend hdst hlog =>
      refine hstanding fun hfollower => hrole ?_
      simp [hfollower]
  | propose entries hleader => exact hstanding (by simp [hleader])

theorem VoteInv.majority_move (hrole : v.role = .leader) : v.Majority v.votes := by
  have hmajority := hinv.majority n hn
  cases hmove with
  | stay | grant => exact hmajority hrole
  | elect => cases hrole
  | alone halone => simp [RaftView.Majority, halone]
  | count p hp hgrants hdst hcandidate =>
      by_cases hmost : (s.server view n).Majority (insert p.src (s.server view n).votes)
      · exact hmost
      · simp [hmost] at hrole
  | append p log hp happend hdst hlog =>
      refine hmajority ?_
      by_cases hcandidate : (s.server view n).role = .candidate
      · simp [hcandidate] at hrole
      · simpa [hcandidate] using hrole
  | propose entries hleader => exact hmajority hleader

include hinput in
theorem VoteInv.counted_move (hrole : v.role ≠ .follower) :
    ∀ b ∈ v.votes, b ≠ n → ∃ p ∈ s.net, p.Grants ∧ p.src = b ∧ p.frame.dstNode = n := by
  have hcounted := hinv.counted n hn
  have hself := hinv.self n hn
  cases hmove with
  | stay | grant => exact hcounted hrole
  | elect | alone =>
      intro b hb hne
      rw [← hself] at hne
      exact absurd (Finset.mem_singleton.mp hb) hne
  | count p hp hgrants hdst hcandidate =>
      intro b hb hne
      rcases Finset.mem_insert.mp hb with rfl | hb
      · exact ⟨p, hinput p hp, hgrants, rfl, hdst⟩
      · exact hcounted (by simp [hcandidate]) b hb hne
  | append p log hp happend hdst hlog =>
      refine hcounted fun hfollower => hrole ?_
      simp [hfollower]
  | propose entries hleader => exact hcounted (by simp [hleader])

omit hn in
/-- A node that has granted its vote in term 0 has not voted otherwise since. -/
theorem VoteInv.granted_move {p : Packet} (hp : p ∈ s.net) (hgrants : p.Grants) (hsrc : p.src = n)
    (hterm : v.term = 0) : v.votedFor = some (nodeIdInt p.frame.dstNode) := by
  have hgranted := (hinv.granted p hp hgrants).2
  rw [hsrc] at hgranted
  cases hmove with
  | stay | alone | count | append | propose => exact hgranted hterm
  | elect => cases hterm
  | grant q hq hrequest hdst hfree =>
      have hvoted := hgranted hterm
      rcases hfree with hnone | hsome
      · exact absurd (hvoted.symm.trans hnone) (by simp)
      · exact hsome.symm.trans hvoted

end

/-! ### Every run -/

/-- What holds of the server that a move leaves and held of the others holds of all. -/
theorem forall_server_act {s : Cluster σ} {n : UInt8} {input : Option Packet} {v : RaftView}
    {e : Effect σ} (h : EffectOf view input n v e) {P : UInt8 → RaftView → Prop} (hnew : P n v)
    (hold : ∀ a ∈ c.members, P a (s.server view a)) :
    ∀ a ∈ c.members, P a ((s.act n e).server view a) := by
  intro a ha
  rw [server_act s h]
  split
  · rename_i heq
    rw [heq]
    exact hnew
  · exact hold a ha

section
variable {s : Cluster σ} (hinv : VoteInv c view s) {n : UInt8} (hn : n ∈ c.members)
  {input : Option Packet} (hinput : ∀ p ∈ input, p ∈ s.net) {timesOut : Prop} {v : RaftView}
  (hmove : Move input timesOut n (s.server view n) v) {e : Effect σ}
  (heffect : EffectOf view input n v e)

include hinv hn hinput hmove heffect

omit hn hmove in
/-- A vote that is granted by an event is granted by its node, to the node it has voted for. -/
theorem VoteInv.granted_new {p : Packet} (hp : p ∈ (s.act n e).net) (hgrants : p.Grants)
    (hfresh : p ∉ s.net) :
    p.src = n ∧ v.votedFor = some (nodeIdInt p.frame.dstNode) ∧ p.frame.dstNode ≠ n := by
  obtain ⟨rfl, hf⟩ := (mem_net_act hp).resolve_left hfresh
  exact ⟨rfl, grant_sent hinv hinput (heffect.sent p.frame hf) hgrants⟩

omit hn in
theorem VoteInv.granted_act {p : Packet} (hp : p ∈ (s.act n e).net) (hgrants : p.Grants) :
    p.frame.dstNode ≠ p.src ∧ (((s.act n e).server view p.src).term = 0 →
      ((s.act n e).server view p.src).votedFor = some (nodeIdInt p.frame.dstNode)) := by
  by_cases hold : p ∈ s.net
  · refine ⟨(hinv.granted p hold hgrants).1, ?_⟩
    rw [server_act s heffect]
    split
    · rename_i hsrc
      exact hinv.granted_move hmove hold hgrants hsrc
    · exact (hinv.granted p hold hgrants).2
  · obtain ⟨hsrc, hvote, hdst⟩ := hinv.granted_new hinput heffect hp hgrants hold
    rw [hsrc, server_act s heffect, if_pos rfl]
    exact ⟨hdst, fun _ => hvote⟩

/-- A vote given to another is given in term 0, so it is the only one that the node ever gives. -/
theorem VoteInv.granted_once {p q : Packet} (hp : p ∈ (s.act n e).net) (hq : q ∈ (s.act n e).net)
    (hgp : p.Grants) (hgq : q.Grants) (hsrc : p.src = q.src) (hfresh : p ∉ s.net) :
    p.frame.dstNode = q.frame.dstNode := by
  obtain ⟨hn', hvote, hdst⟩ := hinv.granted_new hinput heffect hp hgp hfresh
  have hzero : v.term = 0 := by
    -- from term 1 on the vote of the node is its own
    by_contra hterm
    have hown := hinv.voted_move hn hmove (Nat.pos_of_ne_zero hterm)
    exact hdst (nodeIdInt_injective (Option.some.inj (hvote.symm.trans hown)))
  have hother := (hinv.granted_act hinput hmove heffect hq hgq).2
  rw [← hsrc, hn', server_act s heffect, if_pos rfl] at hother
  exact nodeIdInt_injective (Option.some.inj (hvote.symm.trans (hother hzero)))

theorem VoteInv.act : VoteInv c view (s.act n e) := by
  have hself : v.self = n := hmove.self.trans (hinv.self n hn)
  refine {
    self := forall_server_act (P := fun a w => w.self = a) heffect hself hinv.self
    members := forall_server_act (P := fun _ w => w.members = c.members.toFinset) heffect
      (hmove.members.trans (hinv.members n hn)) hinv.members
    sources := ?_
    requests := ?_
    voted := forall_server_act (P := fun a w => 1 ≤ w.term → w.votedFor = some (nodeIdInt a))
      heffect (hinv.voted_move hn hmove) hinv.voted
    granted := fun _ => hinv.granted_act hinput hmove heffect
    granted_one := ?_
    counted := ?_
    standing := forall_server_act
      (P := fun a w => w.role ≠ .follower → 1 ≤ w.term ∨ c.members.toFinset = {a})
      heffect (hinv.standing_move hn hmove) hinv.standing
    majority := forall_server_act (P := fun _ w => w.role = .leader → w.Majority w.votes)
      heffect (hinv.majority_move hn hmove) hinv.majority }
  · intro p hp
    rcases mem_net_act hp with hold | ⟨rfl, -⟩
    · exact hinv.sources p hold
    · exact hn
  · intro p hp hrequest
    rcases mem_net_act hp with hold | ⟨rfl, hf⟩
    · exact hinv.requests p hold hrequest
    · exact request_sent (heffect.sent p.frame hf) hself hrequest
  · intro p hp q hq hgp hgq hsrc
    by_cases hpold : p ∈ s.net
    · by_cases hqold : q ∈ s.net
      · exact hinv.granted_one p hpold q hqold hgp hgq hsrc
      · exact (hinv.granted_once hn hinput hmove heffect hq hp hgq hgp hsrc.symm hqold).symm
    · exact hinv.granted_once hn hinput hmove heffect hp hq hgp hgq hsrc hpold
  · have hkept : ∀ a b, (∃ p ∈ s.net, p.Grants ∧ p.src = b ∧ p.frame.dstNode = a) →
        ∃ p ∈ (s.act n e).net, p.Grants ∧ p.src = b ∧ p.frame.dstNode = a := by
      rintro a b ⟨p, hp, hrest⟩
      exact ⟨p, List.mem_append_left _ hp, hrest⟩
    exact forall_server_act (P := fun a w => w.role ≠ .follower → ∀ b ∈ w.votes, b ≠ a →
        ∃ p ∈ (s.act n e).net, p.Grants ∧ p.src = b ∧ p.frame.dstNode = a) heffect
      (fun hrole b hb hne => hkept n b (hinv.counted_move hn hinput hmove hrole b hb hne))
      fun a ha hrole b hb hne => hkept a b (hinv.counted a ha hrole b hb hne)

end

theorem server_init (rules : RaftRules c.lib view) (hnodup : c.members.Nodup) {n : UInt8}
    (hn : n ∈ c.members) : c.init.server view n = .started n c.members.toFinset := by
  have hraft : ∀ (ms : List UInt8) (o : OracleNode σ),
      (ms.foldl (fun o m => oracleAddNode c.lib o m (m == n)) o).raft
        = ms.foldl (fun s m => c.lib.raftAddNode s m (m == n)) o.raft := by
    intro ms
    induction ms with
    | nil => exact fun o => rfl
    | cons m ms ih => exact fun o => ih _
  rw [← rules.started n c.members hn hnodup]
  exact congrArg view (hraft c.members _)

/-- All members have just been set up, and nothing has happened yet. -/
structure ClusterSetup.Started (c : ClusterSetup σ) (view : σ → RaftView) (s : Cluster σ) : Prop where
  server : ∀ n ∈ c.members, s.server view n = .started n c.members.toFinset
  net : s.net = []
  applied : s.applied = []

theorem started_init (rules : RaftRules c.lib view) (hnodup : c.members.Nodup) :
    c.Started view c.init where
  server _ hn := server_init rules hnodup hn
  net := rfl
  applied := rfl

theorem ClusterSetup.Started.voteInv {s : Cluster σ} (h : c.Started view s) : VoteInv c view s := by
  have hnet : ∀ {P : Packet → Prop}, ∀ p ∈ s.net, P p := by
    rw [h.net]
    exact List.forall_mem_nil _
  refine {
    self := fun n hn => by rw [h.server n hn, RaftView.started]
    members := fun n hn => by rw [h.server n hn, RaftView.started]
    sources := hnet
    requests := hnet
    voted := fun n hn => by simp [h.server n hn, RaftView.started]
    granted := hnet
    granted_one := hnet
    counted := fun n hn => by simp [h.server n hn, RaftView.started]
    standing := fun n hn => by simp [h.server n hn, RaftView.started]
    majority := fun n hn => by simp [h.server n hn, RaftView.started] }

theorem VoteInv.step (rules : RaftRules c.lib view) {s : Cluster σ} (hinv : VoteInv c view s)
    (e : ClusterEvent) : VoteInv c view (c.step s e) := by
  rcases c.step_cases rules s e with hsame | ⟨hn, -, hinput, v, hmove, heffect, hstep⟩
  · rw [hsame]
    exact hinv
  · rw [hstep]
    exact hinv.act hn hinput hmove heffect

theorem voteInv_reach (rules : RaftRules c.lib view) (hnodup : c.members.Nodup)
    (es : List ClusterEvent) : VoteInv c view (c.reach es) := by
  induction es using List.reverseRecOn with
  | nil => exact (started_init rules hnodup).voteInv
  | append_singleton es e ih =>
      rw [c.reach_snoc]
      exact ih.step rules e

/-! ### Leaders -/

/-- Two leaders, whatever their terms, count a common vote, and it is that of one of the two: any
other node has given its vote to one node only. -/
theorem VoteInv.leader_voted {s : Cluster σ} (hinv : VoteInv c view s) {a b : UInt8}
    (ha : a ∈ c.members) (hb : b ∈ c.members) (hne : a ≠ b)
    (hleadA : (s.server view a).role = .leader) (hleadB : (s.server view b).role = .leader) :
    b ∈ (s.server view a).votes ∨ a ∈ (s.server view b).votes := by
  have hmostA := hinv.majority a ha hleadA
  have hmostB := hinv.majority b hb hleadB
  rw [RaftView.Majority, hinv.members a ha] at hmostA
  rw [RaftView.Majority, hinv.members b hb] at hmostB
  obtain ⟨x, hx⟩ := Finset.inter_nonempty_of_card_lt_card_add_card
    (s := c.members.toFinset) Finset.inter_subset_right Finset.inter_subset_right
    (by omega : c.members.toFinset.card < ((s.server view a).votes ∩ c.members.toFinset).card
      + ((s.server view b).votes ∩ c.members.toFinset).card)
  -- the two majorities meet in `x`
  simp only [Finset.mem_inter] at hx
  obtain ⟨⟨hxa, -⟩, hxb, -⟩ := hx
  by_cases hisA : x = a
  · exact .inr (hisA ▸ hxb)
  by_cases hisB : x = b
  · exact .inl (hisB ▸ hxa)
  obtain ⟨p, hp, hgp, hsrcp, hdstp⟩ := hinv.counted a ha (by simp [hleadA]) x hxa hisA
  obtain ⟨q, hq, hgq, hsrcq, hdstq⟩ := hinv.counted b hb (by simp [hleadB]) x hxb hisB
  have hsame := hinv.granted_one p hp q hq hgp hgq (hsrcp.trans hsrcq.symm)
  exact absurd (hdstp.symm.trans (hsame.trans hdstq)) hne

theorem Move.leader {input : Option Packet} {timesOut : Prop} {n : UInt8} {v v' : RaftView}
    (h : Move input timesOut n v v') (hleader : v.role = .leader) :
    v'.role = .leader ∧ v'.term = v.term := by
  cases h with
  | stay | grant | propose => exact ⟨hleader, rfl⟩
  | elect htimes hrole => exact absurd hleader hrole
  | alone => exact ⟨rfl, rfl⟩
  | count p hp hgrants hdst hcandidate => exact absurd (hleader.symm.trans hcandidate) (by simp)
  | append => simp [hleader]

/-- A leader leads its term for good: no message carries a higher term. -/
theorem leader_reach_append (rules : RaftRules c.lib view) (es rest : List ClusterEvent) {n : UInt8}
    (hleader : ((c.reach es).server view n).role = .leader) :
    ((c.reach (es ++ rest)).server view n).role = .leader ∧
      ((c.reach (es ++ rest)).server view n).term = ((c.reach es).server view n).term := by
  induction rest using List.reverseRecOn with
  | nil => simpa using hleader
  | append_singleton rest e ih =>
      rw [← List.append_assoc, c.reach_snoc]
      rcases c.step_cases rules (c.reach (es ++ rest)) e with hsame | ⟨-, -, -, v, hmove, heffect, hstep⟩
      · rw [hsame]
        exact ih
      · rw [hstep, server_act _ heffect]
        split
        · rename_i hn
          obtain ⟨hrole, hterm⟩ := hmove.leader (hn ▸ ih.1)
          exact ⟨hrole, by rw [hterm, ← hn, ih.2]⟩
        · exact ih

end

end L2Oracle
