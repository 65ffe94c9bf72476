import L2Oracle.Raft.LogSafety

/-!
# AppendEntries in its buffer

`cb_send_appendentries` builds the message in a buffer on the stack that holds the header and one log
record, by zeroing each, assigning the fields and copying the data of the entry to where the record has
`target_node_id`. `cbSendAppendentries` says what is sent. Here are the writes that lead there, each at
its offset from the start of the buffer, so that a write past the end of the buffer can be seen.

The record has 28 bytes and the data starts at the tenth, which leaves 19. The receiver takes these 19,
but the sender copies up to `sizeof(raft_log_entry_wire_t) - 8`, which is 20. The last byte of a longer
entry lands behind the buffer. What is sent is not affected: it ends with the buffer, whatever was
written behind it.
-/

namespace L2Oracle

open Base

/-- The size of `buf`. -/
def appendEntriesBufSize : Nat := PayloadAppendEntries.size + RaftLogEntryWire.size

/-- `copy_len`. -/
def copyLen (data : List UInt8) : Nat :=
  if RaftLogEntryWire.size - 8 < data.length then RaftLogEntryWire.size - 8 else data.length

/-- The writes to the fields of the log record at `we`. -/
def recordWrites (we : Nat) (entry : RaftEntry) : List Write :=
  [⟨we, List.replicate RaftLogEntryWire.size 0⟩,
    ⟨we, writeLE 4 (UInt32.ofNat entry.term).toNat⟩,
    ⟨we + 4, writeLE 4 (0 : UInt32).toNat⟩,
    ⟨we + 8, [entry.type.toUInt32.toUInt8]⟩]

/-- The copy of the entry's data into the record at `we`. -/
def dataWrite (we : Nat) (entry : RaftEntry) : Write :=
  ⟨we + RaftLogEntryWire.targetNodeIdOffset, entry.data.take (copyLen entry.data)⟩

/-- The writes to the log record at `we`. An entry whose data pointer is `NULL` is one without data. -/
def entryWrites (we : Nat) (entry : RaftEntry) : List Write :=
  recordWrites we entry ++ if 0 < entry.data.length then [dataWrite we entry] else []

/-- The fields of the header. -/
def appendEntriesHeader (msg : MsgAppendEntries) : PayloadAppendEntries where
  prevLogIdx := UInt32.ofNat msg.prevLogIdx
  prevLogTerm := UInt32.ofNat msg.prevLogTerm
  leaderCommit := UInt32.ofNat msg.leaderCommit
  nEntries := if 1 < msg.entries.length then 1 else UInt8.ofNat msg.entries.length

/-- The writes to the header at the start of `buf`. -/
def headerWrites (ae : PayloadAppendEntries) : List Write :=
  [⟨0, List.replicate PayloadAppendEntries.size 0⟩,
    ⟨0, writeLE 4 ae.prevLogIdx.toNat⟩,
    ⟨4, writeLE 4 ae.prevLogTerm.toNat⟩,
    ⟨8, writeLE 4 ae.leaderCommit.toNat⟩,
    ⟨12, [ae.nEntries]⟩]

/-- The writes of `cb_send_appendentries` to `buf`, in order. -/
def cbSendAppendentriesWrites (msg : MsgAppendEntries) : List Write :=
  headerWrites (appendEntriesHeader msg) ++ match msg.entries with
    | [] => []
    | entry :: _ => entryWrites PayloadAppendEntries.size entry

/-- `total_len`. -/
def cbSendAppendentriesLen (msg : MsgAppendEntries) : Nat :=
  match msg.entries with
  | [] => PayloadAppendEntries.size
  | _ :: _ => PayloadAppendEntries.size + RaftLogEntryWire.size

/-- The bytes that are sent, where `mem` is what the stack held from the start of `buf` on. -/
def sentBytes (mem : Nat → UInt8) (msg : MsgAppendEntries) : List UInt8 :=
  copy (writeAll mem (cbSendAppendentriesWrites msg)) 0 (cbSendAppendentriesLen msg)

/-- Nothing is written or sent beyond the buffer, and the receiver's copy of an entry begins with as much
of its data as the receiver has room for. -/
structure EncodingFits (msg : MsgAppendEntries) : Prop where
  written : ∀ w ∈ cbSendAppendentriesWrites msg, w.Within appendEntriesBufSize
  sent : ∀ mem, (sentBytes mem msg).length ≤ appendEntriesBufSize
  received : ∀ entry ∈ msg.entries.head?, ∀ mem beyond term, ∃ copied,
    (dispatchedAppendEntries term (buffer (sentBytes mem msg) beyond) (sentBytes mem msg).length).entries
        = [copied] ∧
      entry.data.take copied.data.length <+: copied.data

/-! ### What is sent -/

/-- The header as it is written: zeros, and the fields one behind the other. -/
theorem spells_header (mem : Nat → UInt8) (ae : PayloadAppendEntries) :
    Spells (writeAll mem (headerWrites ae)) 0 ae.bytes := by
  have hzeros := spells_write mem 0 (List.replicate PayloadAppendEntries.size 0)
  have hfields := hzeros.overwrite (writeLE 4 ae.prevLogIdx.toNat ++ writeLE 4 ae.prevLogTerm.toNat
    ++ writeLE 4 ae.leaderCommit.toNat ++ [ae.nEntries])
  rw [← write_append, ← write_append, ← write_append, List.take_append,
    List.take_of_length_le (by simp [PayloadAppendEntries.size])] at hfields
  simpa [writeAll, headerWrites, PayloadAppendEntries.bytes, PayloadAppendEntries.size] using hfields

/-- The memory after the writes to the record: zeros, and the fields and the data one behind the other. -/
theorem writeAll_entryWrites (mem : Nat → UInt8) (we : Nat) (entry : RaftEntry) :
    writeAll mem (entryWrites we entry)
      = write (write mem we (List.replicate RaftLogEntryWire.size 0)) we
        (writeLE 4 (UInt32.ofNat entry.term).toNat ++ writeLE 4 (0 : UInt32).toNat
          ++ [entry.type.toUInt32.toUInt8] ++ (wireEntry entry).data) := by
  have hdata : (wireEntry entry).data = entry.data.take (copyLen entry.data) := by
    unfold wireEntry copyLen
    split
    · rfl
    · rw [List.take_of_length_le (by omega), List.take_of_length_le (Nat.le_refl _)]
  rw [← write_append, ← write_append, ← write_append, hdata]
  simp only [List.length_append, length_writeLE, List.length_singleton, entryWrites, recordWrites,
    dataWrite, writeAll, List.foldl_append, List.foldl_cons, List.foldl_nil]
  split
  · rfl
  · rename_i hempty
    rw [List.length_eq_zero_iff.mp (Nat.eq_zero_of_not_pos hempty), List.take_nil, write_nil]
    rfl

theorem spells_record (mem : Nat → UInt8) (we : Nat) (entry : RaftEntry) :
    Spells (writeAll mem (entryWrites we entry)) we (wireEntry entry).bytes := by
  have hzeros := spells_write mem we (List.replicate RaftLogEntryWire.size 0)
  have hfields := hzeros.overwrite (writeLE 4 (UInt32.ofNat entry.term).toNat
    ++ writeLE 4 (0 : UInt32).toNat ++ [entry.type.toUInt32.toUInt8] ++ (wireEntry entry).data)
  have hrest : RaftLogEntryWire.size - (writeLE 4 (UInt32.ofNat entry.term).toNat
      ++ writeLE 4 (0 : UInt32).toNat ++ [entry.type.toUInt32.toUInt8]).length
        = RaftLogEntryWire.dataSize := by
    simp [RaftLogEntryWire.size, RaftLogEntryWire.dataSize, RaftLogEntryWire.targetNodeIdOffset]
  rw [← writeAll_entryWrites, List.append_assoc, List.take_append,
    List.take_of_length_le (by simp [RaftLogEntryWire.size]), hrest, take_padded (by decide)] at hfields
  exact hfields

theorem entryWrites_kept {mem : Nat → UInt8} {bytes : List UInt8} {off : Nat}
    (h : Spells mem off bytes) (we : Nat) (hle : off + bytes.length ≤ we) (entry : RaftEntry) :
    Spells (writeAll mem (entryWrites we entry)) off bytes := by
  rw [writeAll_entryWrites]
  exact (h.write (.inl hle)).write (.inl hle)

/-- What is in the buffer in the end is what is sent, whatever was there before. -/
theorem sentBytes_eq (mem : Nat → UInt8) (peer : UInt8) (msg : MsgAppendEntries) :
    sentBytes mem msg = (cbSendAppendentries peer msg).payload := by
  have hheader := spells_header mem (appendEntriesHeader msg)
  have hsize := PayloadAppendEntries.length_bytes (appendEntriesHeader msg)
  unfold sentBytes cbSendAppendentriesWrites cbSendAppendentriesLen cbSendAppendentries
  cases hentries : msg.entries with
  | nil =>
      rw [← hsize, List.append_nil, hheader.copy, appendEntriesHeader, hentries]
      exact (List.append_nil _).symm
  | cons entry rest =>
      have hkept := entryWrites_kept hheader PayloadAppendEntries.size (by omega) entry
      have hrecord := spells_record (writeAll mem (headerWrites (appendEntriesHeader msg)))
        PayloadAppendEntries.size entry
      have hboth := spells_append.mpr ⟨hkept, by rwa [hsize, Nat.zero_add]⟩
      have hcopy := hboth.copy
      rw [List.length_append, hsize, RaftLogEntryWire.length_bytes, ← writeAll_append] at hcopy
      rw [hcopy, appendEntriesHeader, hentries]

theorem length_sentBytes (mem : Nat → UInt8) (msg : MsgAppendEntries) :
    (sentBytes mem msg).length = cbSendAppendentriesLen msg := by
  rw [sentBytes, copy, List.length_map, List.length_range]

theorem cbSendAppendentriesLen_le (msg : MsgAppendEntries) :
    cbSendAppendentriesLen msg ≤ appendEntriesBufSize := by
  unfold cbSendAppendentriesLen
  split <;> decide

theorem le_cbSendAppendentriesLen (msg : MsgAppendEntries) :
    PayloadAppendEntries.size ≤ cbSendAppendentriesLen msg := by
  unfold cbSendAppendentriesLen
  split <;> decide

/-! ### What is received -/

theorem take_data_initial (entry : RaftEntry) :
    entry.data.take RaftLogEntryWire.dataSize <+: (wireCopy entry).data := by
  have hdata : entry.data.take RaftLogEntryWire.dataSize
      = (wireEntry entry).data.take RaftLogEntryWire.dataSize := by
    rw [wireEntry, List.take_take]
    rfl
  rw [hdata, wireCopy, List.take_append]
  exact List.prefix_append _ _

theorem dispatched_sentBytes (mem beyond : Nat → UInt8) (term : Nat) (msg : MsgAppendEntries) :
    (dispatchedAppendEntries term (buffer (sentBytes mem msg) beyond)
      (sentBytes mem msg).length).entries = (msg.entries.take 1).map wireCopy := by
  have hlen : PayloadAppendEntries.size ≤ (sentBytes mem msg).length := by
    rw [length_sentBytes]
    exact le_cbSendAppendentriesLen msg
  have hread := appendEntries_cbSendAppendentries 0 0 msg term
  rw [Packet.appendEntries, ← sentBytes_eq mem 0 msg] at hread
  rw [dispatchedAppendEntries_congr term hlen (agreeTo_buffer (Nat.le_refl _) beyond fun _ => 0), hread]

/-! ### What is written -/

theorem headerWrites_within (ae : PayloadAppendEntries) :
    ∀ w ∈ headerWrites ae, w.Within appendEntriesBufSize := by
  intro w hw
  apply Write.within_of_le
  simp only [headerWrites, List.mem_cons, List.not_mem_nil, or_false] at hw
  rcases hw with rfl | rfl | rfl | rfl | rfl
  all_goals simp [appendEntriesBufSize, PayloadAppendEntries.size, RaftLogEntryWire.size]

theorem recordWrites_within (entry : RaftEntry) :
    ∀ w ∈ recordWrites PayloadAppendEntries.size entry, w.Within appendEntriesBufSize := by
  intro w hw
  apply Write.within_of_le
  simp only [recordWrites, List.mem_cons, List.not_mem_nil, or_false] at hw
  rcases hw with rfl | rfl | rfl | rfl
  all_goals simp [appendEntriesBufSize, PayloadAppendEntries.size, RaftLogEntryWire.size]

/-- The copy of the data stays inside the buffer exactly if all of the data fits the record. -/
theorem dataWrite_within_iff (entry : RaftEntry) :
    (dataWrite PayloadAppendEntries.size entry).Within appendEntriesBufSize ↔
      entry.data.length ≤ RaftLogEntryWire.dataSize := by
  have hsize : PayloadAppendEntries.size = 16 ∧ RaftLogEntryWire.size = 28 ∧
    RaftLogEntryWire.targetNodeIdOffset = 9 ∧ RaftLogEntryWire.dataSize = 19 := ⟨rfl, rfl, rfl, rfl⟩
  unfold Write.Within appendEntriesBufSize
  simp only [dataWrite, List.length_take]
  constructor
  · intro h
    by_contra hlong
    -- the byte that does not fit is the last of the twenty
    have hlast := h RaftLogEntryWire.dataSize (by unfold copyLen; split <;> omega)
    omega
  · intro hfits i hi
    omega

theorem entryWrites_within_iff (entry : RaftEntry) :
    (∀ w ∈ entryWrites PayloadAppendEntries.size entry, w.Within appendEntriesBufSize) ↔
      entry.data.length ≤ RaftLogEntryWire.dataSize := by
  have hfields := recordWrites_within entry
  rw [entryWrites, List.forall_mem_append, ← dataWrite_within_iff]
  split
  · exact ⟨fun h => h.2 _ List.mem_cons_self, fun h => ⟨hfields, by simpa using h⟩⟩
  · rename_i hempty
    refine iff_of_true ⟨hfields, fun w hw => by cases hw⟩ ((dataWrite_within_iff entry).mpr ?_)
    omega

/-- AppendEntries stays in its buffer, and the receiver finds the data, exactly if the entry that is sent
has at most as many bytes of data as the record has room for. -/
theorem encoding_fits_iff (msg : MsgAppendEntries) :
    EncodingFits msg ↔ ∀ entry ∈ msg.entries.head?, entry.data.length ≤ RaftLogEntryWire.dataSize := by
  constructor
  · intro h entry hentry
    obtain ⟨rest, hrest⟩ := List.head?_eq_some_iff.mp hentry
    refine (entryWrites_within_iff entry).mp fun w hw => h.written w ?_
    rw [cbSendAppendentriesWrites, hrest]
    exact List.mem_append_right _ hw
  · intro hfits
    refine ⟨fun w hw => ?_, fun mem => ?_, fun entry hentry mem beyond term => ?_⟩
    · rcases List.mem_append.mp hw with hw | hw
      · exact headerWrites_within _ w hw
      · cases hentries : msg.entries with
        | nil =>
            rw [hentries] at hw
            cases hw
        | cons entry rest =>
            rw [hentries] at hw hfits
            exact (entryWrites_within_iff entry).mpr (hfits entry rfl) w hw
    · rw [length_sentBytes]
      exact cbSendAppendentriesLen_le msg
    · obtain ⟨rest, hrest⟩ := List.head?_eq_some_iff.mp hentry
      refine ⟨wireCopy entry, ?_, ?_⟩
      · rw [dispatched_sentBytes, hrest]
        rfl
      · rw [length_wireCopy]
        exact take_data_initial entry

/-- An entry with one byte of data more than the record has room for. -/
def longMessage : MsgAppendEntries := ⟨1, 0, 0, 0, [⟨1, 1, raftLogtypeNormal, List.replicate 20 0xAB⟩]⟩

/-- The last byte is written behind the buffer. -/
theorem not_encoding_fits_longMessage : ¬EncodingFits longMessage := by
  intro h
  exact absurd (h.written ⟨25, List.replicate 20 0xAB⟩ (by decide +kernel)) (by decide +kernel)

end L2Oracle
