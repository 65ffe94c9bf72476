import L2Oracle.Base.PrefixBy
import L2Oracle.Raft.Election

/-!
# State-machine safety

The cluster is for keeping one log: entries are only ever added at its end, and every node's own log
is a copy of a prefix of it, up to what the wire loses. `LogInv` is this refinement. It holds as long
as one node leads, and by `VoteInv.leader_voted` a second node can only win with a vote that the first
counts too. Nothing else is needed: in every run in which no candidate is handed a vote while it
shares one with a leader, and in which indices fit the words that carry them, two nodes that apply an
entry at one index apply the same transition.

Where a second leader is elected, its term does not reach anyone either. The nodes follow both leaders,
and in `twoLeadersRun` the leaders apply different transitions at one index.
-/

namespace L2Oracle

open Base

/-! ### What the wire keeps of an entry -/

/-- The entries are of one type and carry one transition. -/
def SameTransition (a b : RaftEntry) : Prop := a.type = b.type ∧ a.transition = b.transition

/-- What a node reads of an entry that was sent to it: the data is cut, or padded with zeros, to the
rest of a wire record. -/
def wireCopy (entry : RaftEntry) : RaftEntry where
  term := (UInt32.ofNat entry.term).toNat
  id := 0
  type := entry.type.toUInt32.toUInt8.toUInt32.toInt32
  data := ((wireEntry entry).data ++ List.replicate RaftLogEntryWire.dataSize 0).take
    RaftLogEntryWire.dataSize

@[simp] theorem length_wireCopy (entry : RaftEntry) :
    (wireCopy entry).data.length = RaftLogEntryWire.dataSize := by
  simp [wireCopy]

theorem transition_wireCopy (entry : RaftEntry) : (wireCopy entry).transition = entry.transition := by
  refine PayloadHealthUpdate.read_congr fun i hi => ?_
  have hi' : i < 12 := hi
  have hdata : (wireCopy entry).data = (entry.data.take 20 ++ List.replicate 19 0).take 19 := rfl
  rw [hdata, buffer, buffer, List.getElem?_take_of_lt (by omega)]
  by_cases hlt : i < entry.data.length
  · rw [List.getElem?_append_left (by simp; omega), List.getElem?_take_of_lt (by omega)]
  · have hnone : entry.data[i]? = none := List.getElem?_eq_none (by omega)
    rw [List.getElem?_append_right (by simp; omega), hnone, List.getElem?_replicate]
    split <;> rfl

theorem sameTransition_wireCopy {entry : RaftEntry} (h : entry.type = raftLogtypeNormal) :
    SameTransition (wireCopy entry) entry := by
  refine ⟨?_, transition_wireCopy entry⟩
  rw [wireCopy, h]
  rfl

/-- AppendEntries as it arrives: the words are those of the leader, the term is the receiver's, and of
the entries there is a copy of the first. -/
theorem appendEntries_cbSendAppendentries (src peer : UInt8) (msg : MsgAppendEntries) (term : Nat) :
    (⟨src, cbSendAppendentries peer msg⟩ : Packet).appendEntries term
      = { term
          prevLogIdx := (UInt32.ofNat msg.prevLogIdx).toNat
          prevLogTerm := (UInt32.ofNat msg.prevLogTerm).toNat
          leaderCommit := (UInt32.ofNat msg.leaderCommit).toNat
          entries := (msg.entries.take 1).map wireCopy } := by
  unfold Packet.appendEntries dispatchedAppendEntries cbSendAppendentries
  simp only [PayloadAppendEntries.read_bytes]
  cases hentries : msg.entries with
  | nil => simp
  | cons entry rest =>
      have hmany : (0 : UInt8) < if 1 < (entry :: rest).length then 1
          else UInt8.ofNat (entry :: rest).length := by
        split
        · decide
        · rename_i hone
          have hnil : rest = [] := by
            rw [List.length_cons] at hone
            exact List.length_eq_zero_iff.mp (by omega)
          rw [hnil]
          exact show (0 : UInt8) < 1 by decide
      simp only [List.length_append, PayloadAppendEntries.length_bytes, RaftLogEntryWire.length_bytes]
      rw [if_pos ⟨hmany, Nat.le_refl _⟩]
      simp only [PayloadAppendEntries.buffer_behind, RaftLogEntryWire.read_bytes]
      rfl

/-! ### The log that the cluster keeps -/

/-- One log, which is empty until a node leads and to which that node adds transitions. -/
structure SharedLog where
  leader : Option UInt8
  entries : List RaftEntry
  quiet : leader = none → entries = []
  normal : ∀ e ∈ entries, e.type = raftLogtypeNormal

namespace SharedLog

def empty : SharedLog where
  leader := none
  entries := []
  quiet _ := rfl
  normal := List.forall_mem_nil _

def elect (L : SharedLog) (n : UInt8) : SharedLog :=
  { L with leader := some n, quiet := by simp }

def append (L : SharedLog) (entries : List RaftEntry) (hleader : L.leader ≠ none)
    (hnormal : ∀ e ∈ entries, e.type = raftLogtypeNormal) : SharedLog where
  leader := L.leader
  entries := L.entries ++ entries
  quiet h := absurd h hleader
  normal e he := by
    rcases List.mem_append.mp he with hold | hnew
    · exact L.normal e hold
    · exact hnormal e hnew

/-- The log has grown, under the same leader if there was one. -/
structure Extends (L' L : SharedLog) : Prop where
  leader : ∀ n, L.leader = some n → L'.leader = some n
  entries : L.entries <+: L'.entries

theorem Extends.refl (L : SharedLog) : L.Extends L := ⟨fun _ h => h, List.prefix_refl _⟩

theorem extends_elect {L : SharedLog} (h : L.leader = none) (n : UInt8) : (L.elect n).Extends L :=
  ⟨fun m hm => by simp [h] at hm, List.prefix_refl _⟩

theorem extends_append (L : SharedLog) (entries : List RaftEntry) (hleader : L.leader ≠ none)
    (hnormal : ∀ e ∈ entries, e.type = raftLogtypeNormal) :
    (L.append entries hleader hnormal).Extends L :=
  ⟨fun _ h => h, List.prefix_append _ _⟩

/-- An entry applied at an index is the one of the log. -/
def Applies (L : SharedLog) (x : Nat × RaftEntry) : Prop :=
  0 < x.1 ∧ ∃ e, L.entries[x.1 - 1]? = some e ∧ SameTransition x.2 e

/-- The leader sent the packet to another node, with a part of the log. -/
def Sends (L : SharedLog) (p : Packet) : Prop :=
  L.leader = some p.src ∧ p.frame.dstNode ≠ p.src ∧
    ∃ msg, p.frame = cbSendAppendentries p.frame.dstNode msg ∧
      msg.prevLogIdx ≤ L.entries.length ∧ msg.entries <+: L.entries.drop msg.prevLogIdx

theorem Applies.mono {L L' : SharedLog} {x : Nat × RaftEntry} (h : L.Applies x)
    (hext : L'.Extends L) : L'.Applies x := by
  obtain ⟨hpos, e, he, hsame⟩ := h
  exact ⟨hpos, e, getElem?_of_initial hext.entries he, hsame⟩

theorem Sends.mono {L L' : SharedLog} {p : Packet} (h : L.Sends p) (hext : L'.Extends L) :
    L'.Sends p := by
  obtain ⟨hleader, hdst, msg, hframe, hprev, hentries⟩ := h
  refine ⟨hext.leader _ hleader, hdst, msg, hframe, hprev.trans hext.entries.length_le, ?_⟩
  exact hentries.trans (hext.entries.drop _)

end SharedLog

section
variable {σ : Type} {c : ClusterSetup σ} {view : σ → RaftView}

/-- The servers hold copies of the shared log. -/
structure Replicates (c : ClusterSetup σ) (server : UInt8 → RaftView) (L : SharedLog) : Prop where
  member : ∀ n, L.leader = some n → n ∈ c.members
  leader : ∀ n ∈ c.members, (server n).role = .leader ↔ L.leader = some n
  current : ∀ n, L.leader = some n → (server n).log = L.entries
  copies : ∀ n ∈ c.members, PrefixBy SameTransition (server n).log L.entries

/-- The cluster keeps the shared log: the servers hold copies of it, AppendEntries carry parts of it,
and what was applied is in it. -/
structure LogInv (c : ClusterSetup σ) (view : σ → RaftView) (s : Cluster σ) (L : SharedLog) : Prop
    extends Replicates c (s.server view) L where
  packets : ∀ p ∈ s.net, p.IsAppend → L.Sends p
  applied : ∀ x ∈ s.applied, L.Applies x.2

/-! ### The condition -/

/-- Indices fit the words that carry them. -/
def IndicesFit (c : ClusterSetup σ) (view : σ → RaftView) (pre : List ClusterEvent)
    (_e : ClusterEvent) : Prop :=
  ∀ n ∈ c.members, ((c.reach pre).server view n).log.length < 2 ^ 32

/-- Node `a` leads, with the vote of `n` or among the votes that `n` counts. -/
def SharesVote (n : UInt8) (votes : Finset UInt8) (a : UInt8) (v : RaftView) : Prop :=
  v.role = .leader ∧ (n ∈ v.votes ∨ a ∈ votes)

instance (n : UInt8) (votes : Finset UInt8) (a : UInt8) (v : RaftView) :
    Decidable (SharesVote n votes a v) :=
  inferInstanceAs (Decidable (_ ∧ _))

/-- The event does not hand a vote to a candidate that shares one with a leader: the leader counts
the candidate's own vote, or the candidate comes to count the leader's. -/
def VotesApart (c : ClusterSetup σ) (view : σ → RaftView) (pre : List ClusterEvent)
    (e : ClusterEvent) : Prop :=
  let server := (c.reach pre).server view
  e.node ∈ c.members → e.Enabled (c.reach pre).net →
    ∀ p ∈ e.input, p.Grants → (server e.node).role = .candidate →
      ∀ a ∈ c.members, ¬SharesVote e.node (insert p.src (server e.node).votes) a (server a)

instance (c : ClusterSetup σ) (view : σ → RaftView) (pre : List ClusterEvent) (e : ClusterEvent) :
    Decidable (IndicesFit c view pre e) :=
  inferInstanceAs (Decidable (∀ n ∈ c.members, _ < _))

instance (c : ClusterSetup σ) (view : σ → RaftView) (pre : List ClusterEvent) (e : ClusterEvent) :
    Decidable (VotesApart c view pre e) :=
  inferInstanceAs (Decidable (_ → _ → _))

/-! ### One move -/

section
variable {server : UInt8 → RaftView} {L : SharedLog} (h : Replicates c server L) {n : UInt8}
  (hn : n ∈ c.members) {v : RaftView}

include h hn

/-- A server that leads no more and no less than before, and still holds a copy. -/
theorem Replicates.keep (hrole : v.role = .leader ↔ (server n).role = .leader)
    (hlog : v.role = .leader → v.log = (server n).log)
    (hcopies : PrefixBy SameTransition v.log L.entries) :
    Replicates c (fun a => if a = n then v else server a) L := by
  refine ⟨h.member, fun a ha => ?_, fun a ha => ?_, fun a ha => ?_⟩
  · split
    · rename_i heq
      rw [hrole, heq]
      exact h.leader n hn
    · exact h.leader a ha
  · split
    · rename_i heq
      rw [heq] at ha
      rw [hlog (hrole.mpr ((h.leader n hn).mpr ha))]
      exact h.current n ha
    · exact h.current a ha
  · split
    · exact hcopies
    · exact h.copies a ha

theorem Replicates.elect (hnone : L.leader = none) (hrole : v.role = .leader)
    (hlog : v.log = (server n).log) :
    Replicates c (fun a => if a = n then v else server a) (L.elect n) := by
  have hempty : (server n).log = L.entries := by
    have hcopies := h.copies n hn
    rw [L.quiet hnone] at hcopies ⊢
    exact hcopies.eq_nil
  refine ⟨fun a ha => ?_, fun a ha => ?_, fun a ha => ?_, fun a ha => ?_⟩
  · rw [← Option.some.inj ha]
    exact hn
  · have hleader := h.leader a ha
    rw [hnone] at hleader
    split
    · rename_i heq
      simp [SharedLog.elect, hrole, heq]
    · rename_i hne
      simp [SharedLog.elect, hleader, Ne.symm hne]
  · rw [if_pos (Option.some.inj ha).symm, hlog]
    exact hempty
  · have hcopies := h.copies a ha
    split
    · rename_i heq
      rw [hlog, ← heq]
      exact hcopies
    · exact hcopies

omit hn in
theorem Replicates.append {entries : List RaftEntry} (hleader : L.leader = some n)
    (hnormal : ∀ e ∈ entries, e.type = raftLogtypeNormal) (hrole : v.role = .leader)
    (hlog : v.log = (server n).log ++ entries) :
    Replicates c (fun a => if a = n then v else server a)
      (L.append entries (by simp [hleader]) hnormal) := by
  have hgrown : v.log = L.entries ++ entries := by rw [hlog, h.current n hleader]
  refine ⟨h.member, fun a ha => ?_, fun a ha => ?_, fun a ha => ?_⟩
  · split
    · rename_i heq
      rw [heq]
      exact ⟨fun _ => hleader, fun _ => hrole⟩
    · exact h.leader a ha
  · have heq : a = n := Option.some.inj (Eq.trans (Eq.symm ha) hleader)
    rw [if_pos heq]
    exact hgrown
  · split
    · rw [hgrown]
      exact PrefixBy.refl (fun _ => ⟨rfl, rfl⟩) _
    · exact (h.copies a ha).mono (List.prefix_append _ _)

end

/-- A node that takes AppendEntries from the leader still holds a copy. -/
theorem SharedLog.Sends.copies {L : SharedLog} {p : Packet} (h : L.Sends p)
    (hfit : L.entries.length < 2 ^ 32) {term : Nat} {log log' : List RaftEntry}
    (hcopies : PrefixBy SameTransition log L.entries)
    (hlog : AppendedLog (p.appendEntries term) log log') :
    PrefixBy SameTransition log' L.entries := by
  obtain ⟨-, -, msg, hframe, hprev, hentries⟩ := h
  have hread := appendEntries_cbSendAppendentries p.src p.frame.dstNode msg term
  rw [← hframe] at hread
  have hidx : (p.appendEntries term).prevLogIdx = msg.prevLogIdx := by
    rw [hread]
    exact UInt32.toNat_ofNat_of_lt' (by simpa using Nat.lt_of_le_of_lt hprev hfit)
  have hsent : PrefixBy SameTransition (p.appendEntries term).entries
      (L.entries.drop msg.prevLogIdx) := by
    intro i x hx
    rw [hread, List.getElem?_map, Option.map_eq_some_iff] at hx
    obtain ⟨e, he, rfl⟩ := hx
    have hmem := getElem?_of_initial hentries (getElem?_of_initial (List.take_prefix 1 _) he)
    refine ⟨e, hmem, sameTransition_wireCopy (L.normal e ?_)⟩
    exact List.mem_of_mem_drop (List.mem_of_getElem? hmem)
  rcases hlog with rfl | ⟨-, -, rfl⟩ | ⟨-, j, -, hj, -, -, stored, rfl⟩
  · exact hcopies
  · exact hcopies.of_initial (List.take_prefix _ _)
  · refine hcopies.splice hj ?_
    rw [hidx, ← List.drop_drop]
    exact (hsent.drop j).of_initial (List.take_prefix _ _)

section
variable {s : Cluster σ} (hvote : VoteInv c view s) {L : SharedLog} (hinv : LogInv c view s L)
  {n : UInt8} (hn : n ∈ c.members) {input : Option Packet} (hinput : ∀ p ∈ input, p ∈ s.net)
  {timesOut : Prop} {v : RaftView} (hmove : Move input timesOut n (s.server view n) v) {e : Effect σ}
  (heffect : EffectOf view input n v e)

include hvote hinv hn hinput hmove heffect

/-- A candidate that wins is the first leader: with another, it would count a common vote. -/
theorem LogInv.leader_none (hwins : v.role = .leader) (hrole : (s.server view n).role ≠ .leader)
    (hapart : ∀ a ∈ c.members, ¬SharesVote n v.votes a (s.server view a)) : L.leader = none := by
  rw [Option.eq_none_iff_forall_ne_some]
  intro a ha
  have hmem := hinv.member a ha
  have hleadA := (hinv.leader a hmem).mpr ha
  have hne : a ≠ n := fun heq => hrole (heq ▸ hleadA)
  have hserverA : (s.act n e).server view a = s.server view a := by
    rw [server_act s heffect, if_neg hne]
  have hserver : (s.act n e).server view n = v := by rw [server_act s heffect, if_pos rfl]
  have hvoted := (hvote.act hn hinput hmove heffect).leader_voted hmem hn hne
  rw [hserverA, hserver] at hvoted
  exact hapart a hmem ⟨hleadA, hvoted hleadA hwins⟩

/-- So it is if the event hands no candidate a vote that it shares with a leader. -/
theorem LogInv.first_of_apart
    (hapart : ∀ p ∈ input, p.Grants → (s.server view n).role = .candidate →
      ∀ a ∈ c.members, ¬SharesVote n (insert p.src (s.server view n).votes) a (s.server view a))
    (hwins : v.role = .leader) (hrole : (s.server view n).role ≠ .leader) : L.leader = none := by
  have hfirst := hinv.leader_none hvote hn hinput hmove heffect hwins hrole
  cases hmove with
  | stay | grant => exact absurd hwins hrole
  | elect htimes => cases hwins
  | alone halone =>
      rw [hvote.members n hn, hvote.self n hn] at halone
      refine hfirst fun a ha hshares => ?_
      have hmem : a ∈ c.members.toFinset := List.mem_toFinset.mpr ha
      rw [halone, Finset.mem_singleton] at hmem
      exact absurd (hmem ▸ hshares.1) hrole
  | count p hp hgrants hdst hcandidate => exact hfirst (hapart p hp hgrants hcandidate)
  | append p log =>
      dsimp only at hwins
      split at hwins
      · cases hwins
      · exact absurd hwins hrole
  | propose entries hleader => exact absurd hleader hrole

omit hvote in
theorem LogInv.replicates_move
    (hfit : ∀ a ∈ c.members, (s.server view a).log.length < 2 ^ 32)
    (hfirst : v.role = .leader → (s.server view n).role ≠ .leader → L.leader = none) :
    ∃ L' : SharedLog, L'.Extends L ∧ Replicates c ((s.act n e).server view) L' := by
  have hservers : (s.act n e).server view = fun a => if a = n then v else s.server view a :=
    funext (server_act s heffect)
  have hcopies := hinv.copies n hn
  rw [hservers]
  cases hmove with
  | stay | grant => exact ⟨L, .refl L, hinv.keep hn Iff.rfl (fun _ => rfl) hcopies⟩
  | elect htimes hrole =>
      have hkeep : (s.server view n).candidacy.role = .leader ↔ (s.server view n).role = .leader := by
        simp [RaftView.candidacy, hrole]
      exact ⟨L, .refl L, hinv.keep hn hkeep (fun _ => rfl) hcopies⟩
  | alone halone =>
      by_cases hrole : (s.server view n).role = .leader
      · exact ⟨L, .refl L, hinv.keep hn (iff_of_true rfl hrole) (fun _ => rfl) hcopies⟩
      · have hnone := hfirst rfl hrole
        exact ⟨_, SharedLog.extends_elect hnone n, hinv.elect hn hnone rfl rfl⟩
  | count p hp hgrants hdst hcandidate =>
      have hrole : (s.server view n).role ≠ .leader := by simp [hcandidate]
      by_cases hmost : (s.server view n).Majority (insert p.src (s.server view n).votes)
      · have hnone := hfirst (by simp [hmost]) hrole
        exact ⟨_, SharedLog.extends_elect hnone n, hinv.elect hn hnone (by simp [hmost]) rfl⟩
      · exact ⟨L, .refl L, hinv.keep hn (by simp [hmost, hcandidate]) (fun _ => rfl) hcopies⟩
  | append p log hp happend hdst hlog =>
      have hsends := hinv.packets p (hinput p hp) happend
      have hsrc := hinv.member p.src hsends.1
      have hrole : (s.server view n).role ≠ .leader := by
        -- the leader sends to others only
        intro hleader
        have hself := Option.some.inj (((hinv.leader n hn).mp hleader).symm.trans hsends.1)
        exact hsends.2.1 (hdst.trans hself)
      have hfit' : L.entries.length < 2 ^ 32 := hinv.current p.src hsends.1 ▸ hfit p.src hsrc
      refine ⟨L, .refl L, hinv.keep hn ?_ ?_ (hsends.copies hfit' hcopies hlog)⟩
      · split
        · simp [hrole]
        · rfl
      · intro hleader
        split at hleader
        · cases hleader
        · exact absurd hleader hrole
  | propose entries hleader hproposed =>
      have hlead := (hinv.leader n hn).mp hleader
      exact ⟨_, L.extends_append entries (by simp [hlead]) fun x hx => (hproposed x hx).2.1,
        hinv.append hlead (fun x hx => (hproposed x hx).2.1) hleader rfl⟩

theorem LogInv.act
    (hfit : ∀ a ∈ c.members, (s.server view a).log.length < 2 ^ 32)
    (hfirst : v.role = .leader → (s.server view n).role ≠ .leader → L.leader = none) :
    ∃ L' : SharedLog, L'.Extends L ∧ LogInv c view (s.act n e) L' := by
  obtain ⟨L', hext, hreplicates⟩ :=
    hinv.replicates_move hn hinput hmove heffect hfit hfirst
  have hserver : (s.act n e).server view n = v := by rw [server_act s heffect, if_pos rfl]
  have hself : v.self = n := hmove.self.trans (hvote.self n hn)
  refine ⟨L', hext, hreplicates, fun p hp happend => ?_, fun x hx => ?_⟩
  · rcases mem_net_act hp with hold | ⟨rfl, hf⟩
    · exact (hinv.packets p hold happend).mono hext
    · have hsent := heffect.sent p.frame hf happend.1
      simp only [happend.2.1] at hsent
      obtain ⟨msg, hframe, hleader, hpeer, hprev, hentries⟩ := hsent
      have hlead := (hreplicates.leader p.src hn).mp (by rw [hserver, hleader])
      have hlog := hreplicates.current p.src hlead
      rw [hserver] at hlog
      rw [hlog] at hprev hentries
      exact ⟨hlead, hself ▸ hpeer, msg, hframe, hprev, hentries⟩
  · rcases List.mem_append.mp hx with hold | hnew
    · exact (hinv.applied x hold).mono hext
    · obtain ⟨y, hy, rfl⟩ := List.mem_map.mp hnew
      obtain ⟨hpos, hentry⟩ := heffect.applied y hy
      refine ⟨hpos, hreplicates.copies n hn _ _ ?_⟩
      rw [hserver]
      exact hentry

end

/-! ### Every run -/

theorem ClusterSetup.Started.logInv {s : Cluster σ} (h : c.Started view s) : LogInv c view s .empty := by
  refine ⟨⟨fun n hn => ?_, fun n hn => ?_, fun n hn => ?_, fun n hn => ?_⟩, ?_, ?_⟩
  · cases hn
  · simp [h.server n hn, RaftView.started, SharedLog.empty]
  · cases hn
  · rw [h.server n hn]
    exact fun i x hx => by cases hx
  · rw [h.net]
    exact List.forall_mem_nil _
  · rw [h.applied]
    exact List.forall_mem_nil _

/-- In every run that meets the conditions the cluster keeps one log. -/
theorem logInv_reach (rules : RaftRules c.lib view) (hnodup : c.members.Nodup)
    {es : List ClusterEvent} (hfit : Throughout (IndicesFit c view) es)
    (hapart : Throughout (VotesApart c view) es) : ∃ L, LogInv c view (c.reach es) L := by
  refine (hfit.and hapart).induction (I := fun es => ∃ L, LogInv c view (c.reach es) L) ?_ ?_
  · exact ⟨_, (started_init rules hnodup).logInv⟩
  · rintro pre e ⟨L, hinv⟩ ⟨hfits, hvotes⟩
    have hvote := voteInv_reach rules hnodup pre
    rw [c.reach_snoc]
    rcases c.step_cases rules (c.reach pre) e with hsame |
      ⟨hn, henabled, hinput, v, hmove, heffect, hstep⟩
    · rw [hsame]
      exact ⟨L, hinv⟩
    · have hfirst := hinv.first_of_apart hvote hn hinput hmove heffect (hvotes hn henabled)
      obtain ⟨L', -, hinv'⟩ := hinv.act hvote hn hinput hmove heffect hfits hfirst
      exact ⟨L', hstep ▸ hinv'⟩

/-- Two executions of `cb_applylog` for one index, at any nodes and times, get the same transition. -/
def StateMachineSafe (c : ClusterSetup σ) (es : List ClusterEvent) : Prop :=
  ∀ x ∈ (c.reach es).applied, ∀ y ∈ (c.reach es).applied, x.2.1 = y.2.1 →
    SameTransition x.2.2 y.2.2

/-- In every run in which indices fit their words and no candidate is handed a vote while it shares
one with a leader, two nodes that apply an entry at one index apply the same transition. -/
theorem state_machine_safety (rules : RaftRules c.lib view) (hnodup : c.members.Nodup)
    {es : List ClusterEvent} (hfit : Throughout (IndicesFit c view) es)
    (hapart : Throughout (VotesApart c view) es) : StateMachineSafe c es := by
  obtain ⟨L, hinv⟩ := logInv_reach rules hnodup hfit hapart
  intro x hx y hy hidx
  obtain ⟨-, a, ha, hxa⟩ := hinv.applied x hx
  obtain ⟨-, b, hb, hyb⟩ := hinv.applied y hy
  rw [hidx, hb] at ha
  obtain rfl := Option.some.inj ha
  exact ⟨hxa.1.trans hyb.1.symm, hxa.2.trans hyb.2.symm⟩

end

/-! ### Three nodes -/

/-- The entry that a leader of term 1 makes of its first proposal, at time 0. -/
def firstEntry (targetNode : UInt8) : RaftEntry :=
  ⟨1, 1, raftLogtypeNormal, (PayloadHealthUpdate.mk targetNode 1 nodeUp nodeSuspect 1 0).bytes⟩

def proposes (n targetNode : UInt8) : ClusterEvent := .propose n targetNode 1 nodeUp nodeSuspect 0 0

/-- AppendEntries arrives. -/
def appendArrives (a b : UInt8) (msg : MsgAppendEntries) : ClusterEvent :=
  .deliver ⟨a, cbSendAppendentries b msg⟩ (fun _ => 0) 0 0

/-- The response of a node that holds one entry arrives. -/
def storedArrives (a b : UInt8) : ClusterEvent :=
  .deliver ⟨a, ⟨b, ethertypeRaft, .appendEntriesResp, (PayloadAppendEntriesResp.mk 1 1 1 0 []).bytes⟩⟩
    (fun _ => 0) 0 0

/-- Node 1 leads and replicates an entry to node 3, and both apply it. -/
def replicatedRun : List ClusterEvent :=
  [timeout 1, requestArrives 1 2, voteArrives 2 1, proposes 1 7,
    appendArrives 1 3 ⟨1, 0, 0, 0, [firstEntry 7]⟩, storedArrives 3 1, .periodic 1 0 0,
    appendArrives 1 3 ⟨1, 1, 1, 1, []⟩, .periodic 3 0 0]

theorem state_machine_safety_replicatedRun :
    (threeOracles.reach replicatedRun).applied
        = [(1, 1, firstEntry 7), (3, 1, wireCopy (firstEntry 7))] ∧
      StateMachineSafe threeOracles replicatedRun := by
  refine ⟨by decide +kernel, state_machine_safety ReferenceServer.rules (by decide) ?_ ?_⟩
  all_goals decide +kernel

/-- Nodes 1 and 2 both lead, and each replicates an entry of its own to node 3. -/
def twoLeadersRun : List ClusterEvent :=
  doubleVoteRun ++
    [proposes 1 7, proposes 2 8,
      appendArrives 1 3 ⟨1, 0, 0, 0, [firstEntry 7]⟩, storedArrives 3 1, .periodic 1 0 0,
      appendArrives 2 3 ⟨1, 0, 0, 0, [firstEntry 8]⟩, storedArrives 3 2, .periodic 2 0 0]

/-- Node 3 stores the entry of node 1 and takes the other for the same, because it is of the same term.
Both leaders see a majority and apply, at index 1, what each proposed. -/
theorem diverged_twoLeadersRun :
    RaftRules threeOracles.lib ReferenceServer.view ∧ threeOracles.members = [1, 2, 3] ∧
      (threeOracles.reach twoLeadersRun).applied = [(1, 1, firstEntry 7), (2, 1, firstEntry 8)] ∧
      ¬StateMachineSafe threeOracles twoLeadersRun := by
  have happlied : (threeOracles.reach twoLeadersRun).applied
      = [(1, 1, firstEntry 7), (2, 1, firstEntry 8)] := by decide +kernel
  refine ⟨ReferenceServer.rules, rfl, happlied, fun hsafe => ?_⟩
  have hsame := hsafe (1, 1, firstEntry 7) (by simp [happlied]) (2, 1, firstEntry 8)
    (by simp [happlied]) rfl
  have htarget : (firstEntry 7).transition.targetNodeId = (firstEntry 8).transition.targetNodeId :=
    congrArg _ hsame.2
  exact absurd htarget (by decide +kernel)

end L2Oracle
