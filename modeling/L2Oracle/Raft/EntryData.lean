import L2Oracle.Base.Heap
import L2Oracle.Base.Run
import L2Oracle.Raft.Dispatch

/-!
# Where the data of an entry lies

The library copies a `raft_entry_t` into its log and leaves alone what `data.buf` points to. When it
takes an entry that is the buffer of the frame that is being dispatched, or a variable of
`oracle_propose_health_transition`, both of which are gone soon after. So `cb_log_offer` copies the data
into a block of its own, which `cb_log_pop` and its likes free. Everywhere else in this development an
entry is a value with its bytes. This module has the callbacks as they work on memory, and shows that
the value is what they keep.

The log is the library's, and what it does with it is documented: it offers an entry when it appends it,
pops the youngest ones on a conflict, polls the oldest and clears them all. It may have no room for
an entry, since `bare_realloc` returns `NULL`, and `malloc` may fail. Everything else that happens in
memory, like the next frame in the receive buffer, is an event of its own and may be anything that does
not write to a block of the log.

An offered entry has to have data unless its pointer is `NULL`, for the callback would keep the pointer
of the sender otherwise. The entries of this program do (`respects_proposedCell`,
`respects_dispatchedCell`).
-/

namespace L2Oracle

open Base

/-- `raft_entry_t` as it lies in memory. -/
structure EntryCell (α : Type) where
  term : Nat
  id : Nat
  type : Int32
  /-- `data.buf`, which may be `NULL`. -/
  buf : Option (Pointer α)
  len : Nat
deriving DecidableEq

section
variable {α : Type}

/-- The entry that a cell stands for, if its data can be read. -/
def EntryCell.value (m : Memory α) (e : EntryCell α) : Option RaftEntry :=
  match e.buf with
  | none => some ⟨e.term, e.id, e.type, []⟩
  | some buf => (m.read buf e.len).map fun data => ⟨e.term, e.id, e.type, data⟩

/-! ### The callbacks

A result of `none` is what C leaves undefined. -/

/-- `cb_log_offer`. `answer` is what `malloc` answers. -/
def cbLogOffer [DecidableEq α] (m : Memory α) (answer : Option (Granted α)) (entry : EntryCell α) :
    Option (Memory α × EntryCell α × Int) :=
  match entry.buf with
  | none => some (m, entry, 0)
  | some buf =>
      if 0 < entry.len then
        match m.malloc entry.len answer with
        | none => some (m, entry, -1)
        | some (copy, m) =>
            (m.memcpy copy buf entry.len).map fun m => (m, { entry with buf := some copy }, 0)
      else some (m, entry, 0)

def cbLogPop [DecidableEq α] (m : Memory α) (entry : EntryCell α) :
    Option (Memory α × EntryCell α × Int) :=
  match entry.buf with
  | none => some (m, entry, 0)
  | some buf => (m.free buf).map fun m => (m, { entry with buf := none }, 0)

def cbLogPoll [DecidableEq α] (m : Memory α) (entry : EntryCell α) :
    Option (Memory α × EntryCell α × Int) := cbLogPop m entry

def cbLogClear [DecidableEq α] (m : Memory α) (entry : EntryCell α) :
    Option (Memory α × EntryCell α × Int) := cbLogPop m entry

/-- `cb_applylog` on an entry in memory. -/
def EntryCell.cbApplylog (m : Memory α) (health : Option HealthMonitor) (entry : EntryCell α) :
    Option (Option HealthMonitor × List Frame) :=
  match entry.buf with
  | none => some (health, [])
  | some buf =>
      if entry.type = raftLogtypeNormal ∧ PayloadHealthUpdate.size ≤ entry.len then
        match health with
        | none => some (none, [])
        | some hm =>
            (m.read buf PayloadHealthUpdate.size).map fun bytes =>
              let ht := PayloadHealthUpdate.read (buffer bytes fun _ => 0)
              let (hm, frames) :=
                healthTableApply hm ht.targetNodeId ht.targetBoxId ht.oldStatus ht.newStatus ht.term
              (some hm, frames)
      else some (health, [])

/-- `cb_log_get_node_id`, which reads an `int` from the data of an entry. -/
def cbLogGetNodeId (m : Memory α) (entry : EntryCell α) : Option Int32 :=
  match entry.buf with
  | none => some (-1)
  | some buf =>
      if 4 ≤ entry.len then
        (m.read buf 4).map fun bytes => (UInt32.ofNat (readLE (buffer bytes fun _ => 0) 0 4)).toInt32
      else some (-1)

/-- The record that `cb_send_appendentries` writes for an entry in memory. -/
def EntryCell.wireEntry (m : Memory α) (entry : EntryCell α) : Option RaftLogEntryWire :=
  let record (data : List UInt8) : RaftLogEntryWire :=
    { term := UInt32.ofNat entry.term
      index := 0
      entryType := entry.type.toUInt32.toUInt8
      data }
  match entry.buf with
  | none => some (record [])
  | some buf =>
      if 0 < entry.len then
        (m.read buf (min entry.len (RaftLogEntryWire.size - 8))).map record
      else some (record [])

/-! ### The entries that are offered -/

/-- The entry of `oracle_propose_health_transition`, whose data is a variable at `ht`. -/
def proposedCell (term id : Nat) (ht : Pointer α) : EntryCell α where
  term
  id
  type := raftLogtypeNormal
  buf := some ht
  len := PayloadHealthUpdate.size

/-- The entry that the dispatcher makes of the record in a payload, whose data stays there. -/
def dispatchedCell (payload : Pointer α) (bytes : List UInt8) : EntryCell α :=
  let we := RaftLogEntryWire.read fun i => buffer bytes (fun _ => 0) (PayloadAppendEntries.size + i)
  { term := we.term.toNat
    id := 0
    type := we.entryType.toUInt32.toInt32
    buf := some ⟨payload.block,
      payload.offset + (PayloadAppendEntries.size + RaftLogEntryWire.targetNodeIdOffset)⟩
    len := RaftLogEntryWire.dataSize }

theorem value_proposedCell {σ : Type} (lib : RaftLib σ) (o : OracleNode σ)
    (targetNode targetBox oldStatus newStatus : UInt8) (now : Nat) {m : Memory α} {ht : Pointer α}
    (h : m.read ht PayloadHealthUpdate.size
      = some (proposedEntry lib o targetNode targetBox oldStatus newStatus now).data) :
    (proposedCell (lib.raftGetCurrentTerm o.raft) o.nextEntryId ht).value m
      = some (proposedEntry lib o targetNode targetBox oldStatus newStatus now) := by
  simp only [EntryCell.value, proposedCell, h, Option.map_some]
  rfl

theorem value_dispatchedCell {m : Memory α} {payload : Pointer α} {bytes : List UInt8}
    (h : m.read payload bytes.length = some bytes) {entry : RaftEntry} {term : Nat}
    (hentry : entry ∈ (dispatchedAppendEntries term (buffer bytes fun _ => 0) bytes.length).entries) :
    (dispatchedCell payload bytes).value m = some entry := by
  unfold dispatchedAppendEntries at hentry
  dsimp only at hentry
  split at hentry
  · rename_i hrecord
    have hsize : PayloadAppendEntries.size = 16 := rfl
    have hwire : RaftLogEntryWire.size = 28 := rfl
    have hoffset : RaftLogEntryWire.targetNodeIdOffset = 9 := rfl
    have hdata : RaftLogEntryWire.dataSize = 19 := rfl
    have hle : PayloadAppendEntries.size + RaftLogEntryWire.targetNodeIdOffset
        + RaftLogEntryWire.dataSize ≤ bytes.length := by omega
    rw [List.mem_singleton.mp hentry, EntryCell.value, dispatchedCell]
    dsimp only
    rw [Memory.read_part h hle, Option.map_some, ← copy_buffer hle fun _ => 0, copy]
    simp only [RaftLogEntryWire.read, Nat.add_assoc]
  · cases hentry

/-! ### What is read of an entry -/

/-- A cell that stands for an entry has its fields, and its data where `data.buf` points to. -/
theorem EntryCell.value_cases {m : Memory α} {e : EntryCell α} {entry : RaftEntry}
    (h : e.value m = some entry) :
    (e.buf = none ∧ entry = ⟨e.term, e.id, e.type, []⟩) ∨
      ∃ buf data, e.buf = some buf ∧ m.read buf e.len = some data ∧
        entry = ⟨e.term, e.id, e.type, data⟩ := by
  unfold value at h
  split at h
  · rename_i hbuf
    exact .inl ⟨hbuf, (Option.some.inj h).symm⟩
  · rename_i buf hbuf
    obtain ⟨data, hread, rfl⟩ := Option.map_eq_some_iff.mp h
    exact .inr ⟨buf, data, hbuf, hread, rfl⟩

theorem EntryCell.cbApplylog_eq {m : Memory α} {e : EntryCell α} {entry : RaftEntry}
    (h : e.value m = some entry) (health : Option HealthMonitor) :
    e.cbApplylog m health = some (L2Oracle.cbApplylog health entry) := by
  rcases e.value_cases h with ⟨hbuf, rfl⟩ | ⟨buf, data, hbuf, hread, rfl⟩
  · have hshort : ¬PayloadHealthUpdate.size ≤ ([] : List UInt8).length := by decide
    unfold L2Oracle.cbApplylog
    rw [cbApplylog, hbuf, if_neg fun hbad => hshort hbad.2]
  · have hlen := Memory.length_of_read hread
    unfold L2Oracle.cbApplylog
    rw [cbApplylog, hbuf]
    dsimp only
    rw [hlen]
    by_cases hnormal : e.type = raftLogtypeNormal ∧ PayloadHealthUpdate.size ≤ e.len
    · rw [if_pos hnormal, if_pos hnormal]
      cases health with
      | none => rfl
      | some hm =>
          have hread' := Memory.read_take hread hnormal.2
          have htransition := PayloadHealthUpdate.read_congr (agreeTo_take _ data fun _ => 0)
          dsimp only
          rw [hread', Option.map_some, htransition]
          rfl
    · rw [if_neg hnormal, if_neg hnormal]

/-- The node that the data of an entry begins with. -/
def RaftEntry.nodeId (entry : RaftEntry) : Int32 :=
  if 4 ≤ entry.data.length then
    (UInt32.ofNat (readLE (buffer entry.data fun _ => 0) 0 4)).toInt32
  else -1

theorem cbLogGetNodeId_eq {m : Memory α} {e : EntryCell α} {entry : RaftEntry}
    (h : e.value m = some entry) : cbLogGetNodeId m e = some entry.nodeId := by
  rcases e.value_cases h with ⟨hbuf, rfl⟩ | ⟨buf, data, hbuf, hread, rfl⟩
  · rw [cbLogGetNodeId, hbuf]
    rfl
  · have hlen := Memory.length_of_read hread
    rw [cbLogGetNodeId, hbuf, RaftEntry.nodeId]
    dsimp only
    rw [hlen]
    split
    · rename_i hfour
      rw [Memory.read_take hread hfour, Option.map_some,
        (agreeTo_take 4 data fun _ => 0).readLE (by decide)]
    · rfl

theorem EntryCell.wireEntry_eq {m : Memory α} {e : EntryCell α} {entry : RaftEntry}
    (h : e.value m = some entry) : e.wireEntry m = some (L2Oracle.wireEntry entry) := by
  rcases e.value_cases h with ⟨hbuf, rfl⟩ | ⟨buf, data, hbuf, hread, rfl⟩
  · rw [wireEntry, hbuf]
    rfl
  · have hlen := Memory.length_of_read hread
    rw [wireEntry, hbuf]
    dsimp only
    split
    · rename_i hpos
      have htake : data.take (min e.len (RaftLogEntryWire.size - 8))
          = data.take (RaftLogEntryWire.size - 8) := by
        rw [← hlen, Nat.min_comm, ← List.take_eq_take_min]
      rw [Memory.read_take hread (Nat.min_le_left _ _), htake, Option.map_some]
      rfl
    · rename_i hzero
      have hnil : data = [] := List.eq_nil_of_length_eq_zero (by omega)
      rw [hnil]
      rfl

/-! ### The log in memory -/

/-- The log as the library keeps it, oldest entry first. -/
structure EntryLog (α : Type) where
  memory : Memory α
  entries : List (EntryCell α)

/-- The addresses of the blocks that the entries point to. -/
def EntryLog.blocks (s : EntryLog α) : List α :=
  s.entries.flatMap fun e => (e.buf.map Pointer.block).toList

/-- A cell of the log and the value it stands for. -/
structure StandsFor (x : EntryCell α × RaftEntry) : Prop where
  fields : x.2 = ⟨x.1.term, x.1.id, x.1.type, x.2.data⟩
  null : x.1.buf = none → x.2.data = []
  offset : ∀ buf ∈ x.1.buf, buf.offset = 0
  len : ∀ buf ∈ x.1.buf, x.1.len = x.2.data.length

/-- The block of a cell, with the data of its value. -/
def ownBlock (x : EntryCell α × RaftEntry) : List (α × List UInt8) :=
  (x.1.buf.map fun buf => (buf.block, x.2.data)).toList

/-- The log has these cells, which stand for these values in blocks of their own. -/
structure Kept (s : EntryLog α) (xs : List (EntryCell α × RaftEntry)) (rest : Memory α) : Prop where
  entries : s.entries = xs.map Prod.fst
  stands : ∀ x ∈ xs, StandsFor x
  parts : s.memory.Parts (xs.flatMap ownBlock) rest

variable {m : Memory α} {s : EntryLog α} {xs : List (EntryCell α × RaftEntry)} {rest : Memory α}

theorem Kept.blocks_eq (h : Kept s xs rest) : s.blocks = (xs.flatMap ownBlock).map Prod.fst := by
  rw [EntryLog.blocks, h.entries, List.flatMap_map, List.map_flatMap]
  congr 1
  funext x
  cases hbuf : x.1.buf <;> simp [ownBlock, hbuf]

theorem Kept.value (h : Kept s xs rest) {x : EntryCell α × RaftEntry} (hx : x ∈ xs) :
    x.1.value s.memory = some x.2 := by
  have hstands := h.stands x hx
  cases hbuf : x.1.buf with
  | none =>
      rw [EntryCell.value, hbuf]
      dsimp only
      rw [hstands.fields, hstands.null hbuf]
  | some buf =>
      have hmem : (buf.block, x.2.data) ∈ xs.flatMap ownBlock :=
        List.mem_flatMap.mpr ⟨x, hx, by simp [ownBlock, hbuf]⟩
      have hzero : (⟨buf.block, 0⟩ : Pointer α) = buf := by rw [← hstands.offset buf hbuf]
      have hread := h.parts.read hmem le_rfl
      rw [List.take_length, hzero, ← hstands.len buf hbuf] at hread
      rw [EntryCell.value, hbuf]
      dsimp only
      rw [hread, Option.map_some, ← hstands.fields]

/-! ### What the library does -/

variable [DecidableEq α]

inductive LogEvent (α : Type) where
  /-- The library appends an entry if it has room for it. The cell stands for the entry `carried`
  then; `answer` is what `malloc` answers to `cb_log_offer`. -/
  | append (entry : EntryCell α) (carried : RaftEntry) (room : Bool) (answer : Option (Granted α))
  | pop
  | poll
  | clear
  /-- Something else writes to a block, takes one or gives one back. -/
  | outside (a : α) (b : Option Block)

/-- The log is cleared from the oldest entry on. -/
def clearEntries (m : Memory α) : List (EntryCell α) → Option (Memory α)
  | [] => some m
  | e :: rest => (cbLogClear m e).bind fun r => clearEntries r.1 rest

def EntryLog.step (s : EntryLog α) : LogEvent α → Option (EntryLog α)
  | .append entry _ room answer =>
      if room then
        (cbLogOffer s.memory answer entry).map fun r =>
          -- an entry whose offer fails is not in the log
          ⟨r.1, if r.2.2 = 0 then s.entries ++ [r.2.1] else s.entries⟩
      else some s
  | .pop =>
      match s.entries.getLast? with
      | none => some s
      | some e => (cbLogPop s.memory e).map fun r => ⟨r.1, s.entries.dropLast⟩
  | .poll =>
      match s.entries with
      | [] => some s
      | e :: rest => (cbLogPoll s.memory e).map fun r => ⟨r.1, rest⟩
  | .clear => (clearEntries s.memory s.entries).map fun m => ⟨m, []⟩
  | .outside a b => some { s with memory := s.memory.set a b }

def logReach (m : Memory α) (es : List (LogEvent α)) : Option (EntryLog α) :=
  run (fun s e => s.bind fun s => s.step e) (some ⟨m, []⟩) es

def LogEvent.onValues (values : List RaftEntry) : LogEvent α → List RaftEntry
  | .append entry carried room answer =>
      if room ∧ (entry.buf.isSome → answer.isSome) then values ++ [carried] else values
  | .pop => values.dropLast
  | .poll => values.tail
  | .clear => []
  | .outside _ _ => values

def LogEvent.onRest (rest : Memory α) : LogEvent α → Memory α
  | .outside a b => rest.set a b
  | .append .. | .pop | .poll | .clear => rest

/-- An entry that is appended stands for what it carries and has data unless its pointer is `NULL`,
`malloc` gives a free block, and nothing else writes to the blocks of the log. -/
def LogEvent.Respects (s : EntryLog α) : LogEvent α → Prop
  | .append entry carried _ answer =>
      entry.value s.memory = some carried ∧ (entry.buf.isSome → 0 < entry.len) ∧
        ∀ g ∈ answer, s.memory g.block = none
  | .outside a _ => a ∉ s.blocks
  | .pop | .poll | .clear => True

instance (s : EntryLog α) : ∀ e, Decidable (LogEvent.Respects s e)
  | .append .. => inferInstanceAs (Decidable (_ ∧ _ ∧ ∀ g ∈ _, _))
  | .outside .. => inferInstanceAs (Decidable (_ ∉ _))
  | .pop | .poll | .clear => inferInstanceAs (Decidable True)

omit [DecidableEq α] in
/-- The entry of a proposal may be offered while its variable is there. -/
theorem respects_proposedCell {σ : Type} (lib : RaftLib σ) (o : OracleNode σ)
    (targetNode targetBox oldStatus newStatus : UInt8) (now : Nat) {ht : Pointer α}
    (h : s.memory.read ht PayloadHealthUpdate.size
      = some (proposedEntry lib o targetNode targetBox oldStatus newStatus now).data)
    (room : Bool) {answer : Option (Granted α)} (hfree : ∀ g ∈ answer, s.memory g.block = none) :
    LogEvent.Respects s (.append (proposedCell (lib.raftGetCurrentTerm o.raft) o.nextEntryId ht)
      (proposedEntry lib o targetNode targetBox oldStatus newStatus now) room answer) :=
  ⟨value_proposedCell lib o targetNode targetBox oldStatus newStatus now h,
    fun _ => show 0 < PayloadHealthUpdate.size by decide, hfree⟩

omit [DecidableEq α] in
/-- The entry of a frame may be offered while the frame is in its buffer. -/
theorem respects_dispatchedCell {payload : Pointer α} {bytes : List UInt8}
    (h : s.memory.read payload bytes.length = some bytes) {entry : RaftEntry} {term : Nat}
    (hentry : entry ∈ (dispatchedAppendEntries term (buffer bytes fun _ => 0) bytes.length).entries)
    (room : Bool) {answer : Option (Granted α)} (hfree : ∀ g ∈ answer, s.memory g.block = none) :
    LogEvent.Respects s (.append (dispatchedCell payload bytes) entry room answer) :=
  ⟨value_dispatchedCell h hentry, fun _ => show 0 < RaftLogEntryWire.dataSize by decide, hfree⟩

/-! ### What the log keeps -/

theorem cbLogPop_parts {x : EntryCell α × RaftEntry} {before after : List (α × List UInt8)}
    (hx : StandsFor x) (h : m.Parts (before ++ (ownBlock x ++ after)) rest) :
    ∃ m' e, cbLogPop m x.1 = some (m', e, 0) ∧ m'.Parts (before ++ after) rest := by
  cases hbuf : x.1.buf with
  | none =>
      refine ⟨m, x.1, ?_, by simpa [ownBlock, hbuf] using h⟩
      rw [cbLogPop, hbuf]
  | some buf =>
      have hzero : (⟨buf.block, 0⟩ : Pointer α) = buf := by rw [← hx.offset buf hbuf]
      have hown : ownBlock x = [(buf.block, x.2.data)] := by simp [ownBlock, hbuf]
      rw [hown, List.singleton_append] at h
      obtain ⟨hfree, hparts⟩ := h.free
      refine ⟨_, { x.1 with buf := none }, ?_, hparts⟩
      rw [cbLogPop, hbuf]
      dsimp only
      rw [← hzero, hfree, Option.map_some]

theorem clearEntries_parts (hstands : ∀ x ∈ xs, StandsFor x) (h : m.Parts (xs.flatMap ownBlock) rest) :
    clearEntries m (xs.map Prod.fst) = some rest := by
  induction xs generalizing m with
  | nil => exact congrArg some h.eq_rest
  | cons x xs ih =>
      have hfirst : m.Parts ([] ++ (ownBlock x ++ xs.flatMap ownBlock)) rest := h
      obtain ⟨m', e, hpop, hparts⟩ := cbLogPop_parts (hstands x List.mem_cons_self) hfirst
      rw [List.map_cons, clearEntries, cbLogClear, hpop, Option.bind_some]
      exact ih (fun y hy => hstands y (List.mem_cons_of_mem x hy)) hparts

/-- An offer that succeeds gives the entry a block of its own. -/
theorem cbLogOffer_parts {entry : EntryCell α} {carried : RaftEntry} {answer : Option (Granted α)}
    (h : m.Parts (xs.flatMap ownBlock) rest) (hvalue : entry.value m = some carried)
    (hlen : entry.buf.isSome → 0 < entry.len) (hfree : ∀ g ∈ answer, m g.block = none) :
    ∃ m' cell result, cbLogOffer m answer entry = some (m', cell, result) ∧
      if entry.buf.isSome → answer.isSome then
        result = 0 ∧ StandsFor (cell, carried) ∧
          m'.Parts (xs.flatMap ownBlock ++ ownBlock (cell, carried)) rest
      else result ≠ 0 ∧ m' = m := by
  rcases entry.value_cases hvalue with ⟨hbuf, rfl⟩ | ⟨buf, data, hbuf, hread, rfl⟩
  · refine ⟨m, entry, 0, by rw [cbLogOffer, hbuf], ?_⟩
    rw [if_pos (by simp [hbuf])]
    refine ⟨rfl, ⟨rfl, fun _ => rfl, ?_, ?_⟩, by simpa [ownBlock, hbuf] using h⟩
    all_goals simp [hbuf]
  · have hpos := hlen (by simp [hbuf])
    cases answer with
    | none =>
        refine ⟨m, entry, -1, ?_, ?_⟩
        · rw [cbLogOffer, hbuf]
          dsimp only
          rw [if_pos hpos]
          rfl
        · rw [if_neg (by simp [hbuf])]
          exact ⟨by decide, rfl⟩
    | some g =>
        have hnew := hfree g rfl
        have hcopy := Memory.memcpy_malloc hread hnew
        refine ⟨m.set g.block (some ⟨data, true⟩), { entry with buf := some ⟨g.block, 0⟩ }, 0, ?_, ?_⟩
        · rw [cbLogOffer, hbuf]
          dsimp only
          rw [if_pos hpos, Memory.malloc, Option.map_some]
          dsimp only
          rw [hcopy, Option.map_some]
        · rw [if_pos (show entry.buf.isSome → (some g).isSome from fun _ => rfl)]
          refine ⟨rfl, ⟨rfl, ?_, ?_, ?_⟩, h.grant hnew data⟩
          · simp
          · simp
          · simp [Memory.length_of_read hread]

/-- An event does to the log what it does to the values. -/
theorem Kept.step (h : Kept s xs rest) {e : LogEvent α} (he : e.Respects s) :
    ∃ s' ys, s.step e = some s' ∧ ys.map Prod.snd = LogEvent.onValues (xs.map Prod.snd) e ∧
      Kept s' ys (e.onRest rest) := by
  cases e with
  | append entry carried room answer =>
      cases room with
      | false => exact ⟨s, xs, rfl, by simp [LogEvent.onValues], h⟩
      | true =>
          obtain ⟨hvalue, hlen, hfree⟩ := he
          obtain ⟨m', cell, result, hoffer, hresult⟩ := cbLogOffer_parts h.parts hvalue hlen hfree
          simp only [EntryLog.step, if_true, hoffer, Option.map_some, LogEvent.onValues, true_and]
          split at hresult
          · rename_i hstored
            obtain ⟨hzero, hstands, hparts⟩ := hresult
            refine ⟨_, xs ++ [(cell, carried)], rfl, ?_, ?_, ?_, ?_⟩
            · rw [if_pos hstored, List.map_append, List.map_singleton]
            · rw [if_pos hzero, h.entries, List.map_append, List.map_singleton]
            · exact List.forall_mem_append.mpr ⟨h.stands, List.forall_mem_singleton.mpr hstands⟩
            · rw [List.flatMap_append, List.flatMap_singleton]
              exact hparts
          · rename_i hfailed
            obtain ⟨hresult, rfl⟩ := hresult
            refine ⟨_, xs, rfl, ?_, ?_, h.stands, h.parts⟩
            · rw [if_neg hfailed]
            · rw [if_neg hresult, h.entries]
  | pop =>
      rcases List.eq_nil_or_concat xs with rfl | ⟨ys, x, rfl⟩
      · exact ⟨s, [], by simp [EntryLog.step, h.entries], rfl, h⟩
      · have hparts := h.parts
        have hentries := h.entries
        rw [List.concat_eq_append] at hentries hparts ⊢
        rw [List.flatMap_append, List.flatMap_singleton, ← List.append_nil (ownBlock x)] at hparts
        obtain ⟨m', e, hpop, hkept⟩ := cbLogPop_parts (h.stands x (by simp)) hparts
        refine ⟨⟨m', ys.map Prod.fst⟩, ys, ?_, by simp [LogEvent.onValues], rfl, ?_, ?_⟩
        · simp [EntryLog.step, hentries, hpop]
        · exact fun y hy => h.stands y (by simp [hy])
        · rwa [List.append_nil] at hkept
  | poll =>
      cases xs with
      | nil => exact ⟨s, [], by simp [EntryLog.step, h.entries], rfl, h⟩
      | cons x ys =>
          have hfirst : s.memory.Parts ([] ++ (ownBlock x ++ ys.flatMap ownBlock)) rest := h.parts
          obtain ⟨m', e, hpop, hkept⟩ := cbLogPop_parts (h.stands x List.mem_cons_self) hfirst
          refine ⟨⟨m', ys.map Prod.fst⟩, ys, ?_, rfl, rfl, ?_, hkept⟩
          · simp [EntryLog.step, h.entries, cbLogPoll, hpop]
          · exact fun y hy => h.stands y (List.mem_cons_of_mem x hy)
  | clear =>
      refine ⟨⟨rest, []⟩, [], ?_, rfl, rfl, ?_, Memory.parts_nil rest⟩
      · rw [EntryLog.step, h.entries, clearEntries_parts h.stands h.parts, Option.map_some]
      · exact fun x hx => absurd hx List.not_mem_nil
  | outside a b =>
      have ha : a ∉ (xs.flatMap ownBlock).map Prod.fst := h.blocks_eq ▸ he
      exact ⟨_, xs, rfl, rfl, h.entries, h.stands, h.parts.set ha b⟩

/-- Every event of the run respects the log it meets. -/
def RespectsLog (m : Memory α) (pre : List (LogEvent α)) (e : LogEvent α) : Prop :=
  ∀ s ∈ logReach m pre, e.Respects s

instance (m : Memory α) (pre : List (LogEvent α)) (e : LogEvent α) : Decidable (RespectsLog m pre e) :=
  inferInstanceAs (Decidable (∀ s ∈ logReach m pre, _))

theorem kept_run {es : List (LogEvent α)} (h : Throughout (RespectsLog m) es) :
    ∃ s xs, logReach m es = some s ∧ xs.map Prod.snd = run LogEvent.onValues [] es ∧
      Kept s xs (run LogEvent.onRest m es) := by
  refine Throughout.induction (I := fun es => ∃ s xs, logReach m es = some s ∧
    xs.map Prod.snd = run LogEvent.onValues [] es ∧ Kept s xs (run LogEvent.onRest m es)) ?_ ?_ h
  · exact ⟨⟨m, []⟩, [], rfl, rfl, rfl, fun x hx => absurd hx List.not_mem_nil, Memory.parts_nil m⟩
  · rintro pre e ⟨s, xs, hs, hvalues, hkept⟩ he
    obtain ⟨s', ys, hstep, hvalues', hkept'⟩ := hkept.step (he s hs)
    refine ⟨s', ys, ?_, ?_, ?_⟩
    · rw [logReach, run_append, ← logReach, hs]
      exact hstep
    · rw [run_append, ← hvalues]
      exact hvalues'
    · rw [run_append]
      exact hkept'

/-- In every run, and whatever becomes of the buffers that entries came in, no callback does what C
leaves undefined, and each entry of the log stands for what it stood for when it was appended: it is
applied and sent as that value. The entries have blocks of their own, and everywhere else memory is as
if there were no log, so that nothing leaks. -/
theorem entry_data_kept {es : List (LogEvent α)} (h : Throughout (RespectsLog m) es) :
    ∃ s, logReach m es = some s ∧
      List.Forall₂ (fun e entry => e.value s.memory = some entry ∧
        (∀ health, e.cbApplylog s.memory health = some (cbApplylog health entry)) ∧
        e.wireEntry s.memory = some (wireEntry entry) ∧
        cbLogGetNodeId s.memory e = some entry.nodeId) s.entries (run LogEvent.onValues [] es) ∧
      s.blocks.Nodup ∧ (∀ a ∈ s.blocks, run LogEvent.onRest m es a = none) ∧
      ∀ a ∉ s.blocks, s.memory a = run LogEvent.onRest m es a := by
  obtain ⟨s, xs, hs, hvalues, hkept⟩ := kept_run h
  refine ⟨s, hs, ?_, ?_, ?_, ?_⟩
  · rw [← hvalues, hkept.entries, List.forall₂_map_left_iff, List.forall₂_map_right_iff,
      List.forall₂_same]
    intro x hx
    have hvalue := hkept.value hx
    exact ⟨hvalue, x.1.cbApplylog_eq hvalue, x.1.wireEntry_eq hvalue, cbLogGetNodeId_eq hvalue⟩
  · rw [hkept.blocks_eq]
    exact hkept.parts.nodup
  · intro a ha
    rw [hkept.blocks_eq] at ha
    obtain ⟨x, hx, rfl⟩ := List.mem_map.mp ha
    exact hkept.parts.apart x hx
  · intro a ha
    rw [hkept.blocks_eq] at ha
    exact hkept.parts.elsewhere a ha

end

/-- A transition in a variable, and the same in the record of a received frame. -/
def suspectedUpdate : PayloadHealthUpdate := ⟨5, 1, nodeUp, nodeSuspect, 1, 40⟩

def receivedPayload : List UInt8 :=
  PayloadAppendEntries.bytes ⟨0, 0, 0, 1⟩ ++ RaftLogEntryWire.bytes ⟨1, 0, 0, suspectedUpdate.bytes⟩

/-- The variable is at 1, the receive buffer at 0. -/
def twoBuffers : Memory Nat := fun a =>
  if a = 0 then some ⟨receivedPayload, false⟩
  else if a = 1 then some ⟨suspectedUpdate.bytes, false⟩ else none

/-- Both buffers are gone soon after their entries were appended. The second entry is popped, its block
is used again, and the third one finds no memory. -/
def reusedBuffersRun : List (LogEvent Nat) :=
  let proposed : RaftEntry := ⟨1, 7, raftLogtypeNormal, suspectedUpdate.bytes⟩
  let received : RaftEntry := ⟨1, 0, 0, suspectedUpdate.bytes ++ List.replicate 7 0⟩
  [.append (proposedCell 1 7 ⟨1, 0⟩) proposed true (some ⟨2, fun _ => 0⟩),
    .outside 1 none,
    .append (dispatchedCell ⟨0, 0⟩ receivedPayload) received true (some ⟨3, fun _ => 0⟩),
    .pop,
    .append (dispatchedCell ⟨0, 0⟩ receivedPayload) received true (some ⟨3, fun _ => 9⟩),
    .append (dispatchedCell ⟨0, 0⟩ receivedPayload) received true none,
    .outside 0 (some ⟨[0xFF], false⟩)]

theorem entry_data_kept_reusedBuffersRun :
    ∃ s, logReach twoBuffers reusedBuffersRun = some s ∧
      List.Forall₂ (fun e entry => e.value s.memory = some entry) s.entries
        [⟨1, 7, raftLogtypeNormal, suspectedUpdate.bytes⟩,
          ⟨1, 0, 0, suspectedUpdate.bytes ++ List.replicate 7 0⟩] := by
  obtain ⟨s, hs, hvalues, -⟩ := entry_data_kept (show Throughout (RespectsLog twoBuffers)
    reusedBuffersRun by decide +kernel)
  exact ⟨s, hs, hvalues.imp fun e entry h => h.1⟩

end L2Oracle
