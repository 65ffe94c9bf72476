import L2Oracle.Raft.Bridge

/-!
# The log record, field by field

`wire_format.h` gives the record of an entry in AppendEntries its fields: the target, the statuses and,
behind three bytes of padding, the time of the transition. Neither end of the bridge uses them. The
sender copies the data of the entry, which is a `payload_health_update_t`, to where the fields begin, and
the receiver takes these bytes as data again. So the cluster gets its transitions through, but to a
reader of the record they look different: where the record has padding the data has its term, and the
last byte of the term and the first three of the time are what the record calls `timestamp_ms`.

A node that leads after it has got an entry sends it on with the data that it got, so all of this holds
of every AppendEntries that carries a transition and not only of the proposer's.
-/

namespace L2Oracle

open Base

/-- The fields of `raft_log_entry_wire_t`, without its padding. -/
structure RaftLogEntryRecord where
  term : UInt32
  index : UInt32
  entryType : UInt8
  targetNodeId : UInt8
  targetBoxId : UInt8
  oldStatus : UInt8
  newStatus : UInt8
  timestampMs : UInt32
deriving DecidableEq, Repr

def RaftLogEntryRecord.read (mem : Nat → UInt8) : RaftLogEntryRecord where
  term := UInt32.ofNat (readLE mem 0 4)
  index := UInt32.ofNat (readLE mem 4 4)
  entryType := mem 8
  targetNodeId := mem 9
  targetBoxId := mem 10
  oldStatus := mem 11
  newStatus := mem 12
  timestampMs := UInt32.ofNat (readLE mem 16 4)

/-- The record in an AppendEntries; `beyond` is what lies behind the payload in memory. -/
def Frame.record (f : Frame) (beyond : Nat → UInt8) : RaftLogEntryRecord :=
  RaftLogEntryRecord.read fun i => buffer f.payload beyond (PayloadAppendEntries.size + i)

/-- The fields of the record are those of the entry and of the transition that it was proposed with. -/
structure RaftLogEntryRecord.Describes (r : RaftLogEntryRecord) (entry : RaftEntry)
    (ht : PayloadHealthUpdate) : Prop where
  term : r.term.toNat = entry.term
  entryType : r.entryType.toUInt32.toInt32 = entry.type
  targetNodeId : r.targetNodeId = ht.targetNodeId
  targetBoxId : r.targetBoxId = ht.targetBoxId
  oldStatus : r.oldStatus = ht.oldStatus
  newStatus : r.newStatus = ht.newStatus
  timestampMs : r.timestampMs = ht.timestampMs

/-! ### The record of an entry -/

/-- What the record calls its time: the last byte of the transition's term, and the first three of its
time. -/
def shiftedTimestamp (ht : PayloadHealthUpdate) : Nat :=
  ht.term.toNat / 2 ^ 24 + 256 * (ht.timestampMs.toNat % 2 ^ 24)

/-- Behind the header of AppendEntries memory spells the record of the first entry. -/
theorem spells_record_sent (peer : UInt8) {msg : MsgAppendEntries} {entry : RaftEntry}
    (hentry : msg.entries.head? = some entry) (beyond : Nat → UInt8) :
    Spells (fun i => buffer (cbSendAppendentries peer msg).payload beyond (PayloadAppendEntries.size + i))
      0 (wireEntry entry).bytes := by
  obtain ⟨rest, hentries⟩ := List.head?_eq_some_iff.mp hentry
  obtain ⟨ae, hpayload⟩ : ∃ ae : PayloadAppendEntries,
      (cbSendAppendentries peer msg).payload = ae.bytes ++ (wireEntry entry).bytes :=
    ⟨_, by rw [cbSendAppendentries, hentries]⟩
  rw [hpayload, ae.buffer_behind]
  exact spells_buffer _ _

/-- The transition stands where the record has its target. -/
theorem transition_of_spells {mem : Nat → UInt8} {entry : RaftEntry}
    (h : Spells mem 0 (wireEntry entry).bytes) :
    PayloadHealthUpdate.read (fun i => mem (RaftLogEntryWire.targetNodeIdOffset + i))
      = entry.transition := by
  have hdata : Spells mem RaftLogEntryWire.targetNodeIdOffset (wireCopy entry).data := by
    have hrest := (spells_append.mp h).2
    rwa [List.length_append, List.length_append, length_writeLE, length_writeLE] at hrest
  rw [← transition_wireCopy entry]
  refine PayloadHealthUpdate.read_congr fun i hi => ?_
  have hlt : i < (wireCopy entry).data.length := by
    rw [length_wireCopy]
    exact Nat.lt_of_lt_of_le hi (by decide)
  rw [hdata i hlt, buffer_of_lt hlt]

theorem readLE_shifted (mem : Nat → UInt8) :
    readLE mem 7 4 = shiftedTimestamp (PayloadHealthUpdate.read mem) := by
  have hterm : readLE mem 4 4 = readLE mem 4 3 + 256 ^ 3 * readLE mem 7 1 := readLE_add mem 4 3 1
  have htime : readLE mem 8 4 = readLE mem 8 3 + 256 ^ 3 * readLE mem 11 1 := readLE_add mem 8 3 1
  have hshifted : readLE mem 7 4 = readLE mem 7 1 + 256 ^ 1 * readLE mem 8 3 := readLE_add mem 7 1 3
  have htermLow := readLE_lt mem 4 3
  have htimeLow := readLE_lt mem 8 3
  have htermWord : readLE mem 4 4 < UInt32.size := readLE_lt mem 4 4
  have htimeWord : readLE mem 8 4 < UInt32.size := readLE_lt mem 8 4
  rw [shiftedTimestamp, PayloadHealthUpdate.read, UInt32.toNat_ofNat_of_lt' htermWord,
    UInt32.toNat_ofNat_of_lt' htimeWord]
  omega

/-- The record of an entry, as it is read. -/
theorem record_of_spells {mem : Nat → UInt8} {entry : RaftEntry}
    (h : Spells mem 0 (wireEntry entry).bytes) :
    RaftLogEntryRecord.read mem
      = { term := UInt32.ofNat entry.term
          index := 0
          entryType := entry.type.toUInt32.toUInt8
          targetNodeId := entry.transition.targetNodeId
          targetBoxId := entry.transition.targetBoxId
          oldStatus := entry.transition.oldStatus
          newStatus := entry.transition.newStatus
          timestampMs := UInt32.ofNat (shiftedTimestamp entry.transition) } := by
  have htransition := transition_of_spells h
  have htime := readLE_shifted fun i => mem (RaftLogEntryWire.targetNodeIdOffset + i)
  rw [htransition] at htime
  simp only [RaftLogEntryWire.bytes, spells_append, spells_cons, List.length_append, length_writeLE,
    Nat.zero_add, Nat.reduceAdd] at h
  obtain ⟨⟨⟨hterm, hindex⟩, htype, -⟩, -⟩ := h
  rw [← htime, ← htransition, RaftLogEntryRecord.read, hterm.word, hindex.word, htype]
  rfl

/-! ### When the shift does not show -/

/-- All four bytes of the time are the last one of the term. -/
def TimestampUnshifted (term timestampMs : UInt32) : Prop :=
  timestampMs.toNat = 0x01010101 * (term.toNat / 2 ^ 24)

instance (term timestampMs : UInt32) : Decidable (TimestampUnshifted term timestampMs) :=
  inferInstanceAs (Decidable (_ = _))

theorem ofNat_shiftedTimestamp_eq_iff (ht : PayloadHealthUpdate) :
    UInt32.ofNat (shiftedTimestamp ht) = ht.timestampMs ↔
      TimestampUnshifted ht.term ht.timestampMs := by
  have hterm : ht.term.toNat < 2 ^ 32 := ht.term.toNat_lt
  have htime : ht.timestampMs.toNat < 2 ^ 32 := ht.timestampMs.toNat_lt
  have hlt : shiftedTimestamp ht < UInt32.size := by
    unfold shiftedTimestamp UInt32.size
    omega
  rw [← UInt32.toNat_inj, UInt32.toNat_ofNat_of_lt' hlt, shiftedTimestamp, TimestampUnshifted]
  omega

section
variable {σ : Type}

/-- A proposed entry is sent: a node that holds it, as it was proposed or as it was forwarded, hands it to
`cb_send_appendentries` with any term and id that its library gave it. -/
def SentAs (lib : RaftLib σ) (proposed sent : RaftEntry) : Prop :=
  ∃ held, Relation.ReflTransGen (Forwards lib) proposed held ∧ sent.type = held.type ∧
    sent.data = held.data

theorem CarriesTransition.sentAs {lib : RaftLib σ} {ht : PayloadHealthUpdate}
    {proposed sent : RaftEntry} (h : CarriesTransition ht proposed) (hsent : SentAs lib proposed sent) :
    CarriesTransition ht sent := by
  obtain ⟨held, hchain, htype, hdata⟩ := hsent
  obtain ⟨hnormal, hcomplete, htransition⟩ := h.chain hchain
  refine ⟨htype.trans hnormal, ?_, ?_⟩
  · rwa [hdata]
  · rw [← htransition, RaftEntry.transition, hdata]
    rfl

/-- A transition is sent with the fields of the published record exactly if its term fits a word and the
shift of its time does not show. -/
theorem record_describes_iff (lib : RaftLib σ) (o : OracleNode σ)
    (targetNode targetBox oldStatus newStatus : UInt8) (now : Nat) {sent : RaftEntry}
    (hsent : SentAs lib (proposedEntry lib o targetNode targetBox oldStatus newStatus now) sent)
    {msg : MsgAppendEntries} (hmsg : msg.entries.head? = some sent) (peer : UInt8)
    (beyond : Nat → UInt8) :
    ((cbSendAppendentries peer msg).record beyond).Describes sent
        ⟨targetNode, targetBox, oldStatus, newStatus, UInt32.ofNat (lib.raftGetCurrentTerm o.raft),
          UInt32.ofNat now⟩ ↔
      sent.term < 2 ^ 32 ∧
        TimestampUnshifted (UInt32.ofNat (lib.raftGetCurrentTerm o.raft)) (UInt32.ofNat now) := by
  have hproposed := carries_proposedEntry lib o targetNode targetBox oldStatus newStatus now
  obtain ⟨hnormal, -, htransition⟩ := hproposed.sentAs hsent
  have hread : (cbSendAppendentries peer msg).record beyond = _ :=
    record_of_spells (spells_record_sent peer hmsg beyond)
  rw [hread, htransition]
  constructor
  · intro h
    refine ⟨?_, (ofNat_shiftedTimestamp_eq_iff _).mp h.timestampMs⟩
    rw [← h.term]
    exact UInt32.toNat_lt _
  · rintro ⟨hterm, htime⟩
    exact
      { term := UInt32.toNat_ofNat_of_lt' hterm
        entryType := by rw [hnormal]; rfl
        targetNodeId := rfl
        targetBoxId := rfl
        oldStatus := rfl
        newStatus := rfl
        timestampMs := (ofNat_shiftedTimestamp_eq_iff _).mpr htime }

end

/-- Node 1 leads. -/
def leaderOfThree : OracleNode ReferenceServer :=
  (threeOracles.reach [timeout 1, requestArrives 1 2, voteArrives 2 1]).nodes 1

/-- At time 0 and in a small term the record is as published. -/
theorem record_describes_leaderOfThree :
    proposedEntry ReferenceServer.lib leaderOfThree 7 1 nodeUp nodeSuspect 0 = firstEntry 7 ∧
      ((cbSendAppendentries 2 ⟨1, 0, 0, 0, [firstEntry 7]⟩).record fun _ => 0).Describes (firstEntry 7)
        ⟨7, 1, nodeUp, nodeSuspect, 1, 0⟩ := by
  have hproposed : proposedEntry ReferenceServer.lib leaderOfThree 7 1 nodeUp nodeSuspect 0
    = firstEntry 7 := by decide +kernel
  have hterm : ReferenceServer.lib.raftGetCurrentTerm leaderOfThree.raft = 1 := by decide +kernel
  have hsent : SentAs ReferenceServer.lib
      (proposedEntry ReferenceServer.lib leaderOfThree 7 1 nodeUp nodeSuspect 0) (firstEntry 7) :=
    ⟨firstEntry 7, hproposed ▸ .refl, rfl, rfl⟩
  have hiff := record_describes_iff ReferenceServer.lib leaderOfThree 7 1 nodeUp nodeSuspect 0 hsent
    (show (MsgAppendEntries.mk 1 0 0 0 [firstEntry 7]).entries.head? = _ from rfl) 2 fun _ => 0
  rw [hterm] at hiff
  exact ⟨hproposed, hiff.mpr (by decide)⟩

/-- What node 1 sends when it proposes a transition one millisecond after it started, in term 1, has the
time 256 in its record. -/
theorem not_record_describes_leaderOfThree :
    ∃ frame ∈ (oracleProposeHealthTransition ReferenceServer.lib leaderOfThree 0 7 1 nodeUp nodeSuspect
        1).1.sent,
      frame.msgType = .appendEntries ∧ (frame.record fun _ => 0).timestampMs = 256 ∧
        ¬(frame.record fun _ => 0).Describes
          (proposedEntry ReferenceServer.lib leaderOfThree 7 1 nodeUp nodeSuspect 1)
          ⟨7, 1, nodeUp, nodeSuspect, 1, 1⟩ := by
  refine ⟨cbSendAppendentries 2 ⟨1, 0, 0, 0,
    [⟨1, 1, raftLogtypeNormal, (PayloadHealthUpdate.mk 7 1 nodeUp nodeSuspect 1 1).bytes⟩]⟩,
    by decide +kernel, rfl, by decide +kernel, fun h => ?_⟩
  exact absurd h.timestampMs (by decide +kernel)

end L2Oracle
