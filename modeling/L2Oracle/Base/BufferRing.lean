import L2Oracle.Base.Bytes
import L2Oracle.Base.Ring

/-!
# A ring over buffers

Each cell of the ring has a buffer. The producer writes into the buffer of the cell at `tail` while that
is empty, and then fills the cell with the number of bytes. The consumer reads them where they lie, and
empties the cell when it has read them all. A buffer keeps what was written into it, so that what lies
behind the bytes of an item, or in the buffer of an empty cell, is left from earlier ones.

`Holds` says that the buffers hold a queue of byte strings and the one that is being read. Neither is
touched by what the producer writes.
-/

namespace Base

structure BufferRing (n : Nat) where
  ring : Ring Nat n
  bufs : Nat → Nat → UInt8

namespace BufferRing

variable {n : Nat}

/-- The producer writes into the buffer of the next cell. -/
def modify (b : BufferRing n) (f : (Nat → UInt8) → Nat → UInt8) : BufferRing n :=
  { b with bufs := Function.update b.bufs b.ring.tail (f (b.bufs b.ring.tail)) }

/-- The next cell is handed to the consumer, if it is empty. -/
def hand (b : BufferRing n) (size : Nat) : Option (BufferRing n) :=
  (b.ring.fill size).map fun ring => { b with ring }

/-- The consumer starts on the next item, if there is one. -/
def start (b : BufferRing n) : Option (Nat × BufferRing n) :=
  b.ring.take.map fun x => (x.1, { b with ring := x.2 })

/-- The first bytes of the buffer that the consumer has started on last. -/
def reading (b : BufferRing n) (size : Nat) : List UInt8 := copy (b.bufs b.ring.last) 0 size

def finish (b : BufferRing n) : BufferRing n :=
  { b with ring := b.ring.release b.ring.last }

/-- The ring holds a queue of byte strings and, if the consumer is reading one, that. -/
structure Holds (b : BufferRing n) (q : List (List UInt8)) (read : Option (List UInt8)) : Prop where
  ring : b.ring.Holds (q.map List.length) read.isSome
  waiting : ∀ i (hi : i < q.length), Spells (b.bufs ((b.ring.head + i) % n)) 0 q[i]
  kept : ∀ bytes ∈ read, Spells (b.bufs b.ring.last) 0 bytes

def empty (bufs : Nat → Nat → UInt8) : BufferRing n where
  ring := .empty
  bufs

theorem holds_empty (hn : 0 < n) (bufs : Nat → Nat → UInt8) : (empty bufs : BufferRing n).Holds [] none where
  ring := Ring.holds_empty hn
  waiting _ hi := absurd hi (Nat.not_lt_zero _)
  kept _ h := by cases h

variable {b : BufferRing n} {q : List (List UInt8)} {read : Option (List UInt8)}

namespace Holds

variable (h : b.Holds q read)
include h

theorem room : q.length + read.isSome.toNat ≤ n := by
  have hroom := h.ring.room
  rwa [List.length_map] at hroom

/-- The next cell is full exactly if all are. -/
theorem tail_isSome_iff : (b.ring.cells b.ring.tail).isSome ↔ q.length + read.isSome.toNat = n := by
  have hroom := h.ring.room
  constructor
  · intro hsome
    by_contra hne
    rw [List.length_map] at hroom
    have hfree := h.ring.free q.length (by rw [List.length_map]) (by omega)
    rw [← List.length_map (f := List.length), ← h.ring.tail_eq] at hfree
    rw [hfree] at hsome
    cases hsome
  · intro hfull
    have hnone := h.ring.fill_eq_none (by rw [List.length_map]; exact hfull) 0
    unfold Ring.fill at hnone
    split at hnone
    · cases hnone
    · rename_i x hcell
      rw [hcell]
      rfl

theorem modify (hroom : q.length + read.isSome.toNat < n) (f : (Nat → UInt8) → Nat → UInt8) :
    (b.modify f).Holds q read := by
  have hother : ∀ i < n, i ≠ q.length → (b.modify f).bufs ((b.ring.head + i) % n)
      = b.bufs ((b.ring.head + i) % n) := by
    intro i hi hne
    apply Function.update_of_ne
    rw [h.ring.tail_eq, List.length_map]
    exact fun heq => hne (Ring.index_inj hi (by omega) heq)
  refine ⟨h.ring, fun i hi => ?_, fun bytes hbytes => ?_⟩
  · rw [show (b.modify f).ring = b.ring from rfl, hother i (by omega) (by omega)]
    exact h.waiting i hi
  · have hread : read.isSome := Option.isSome_iff_exists.mpr ⟨bytes, hbytes⟩
    rw [hread, Bool.toNat_true] at hroom
    have hlast : (b.modify f).bufs b.ring.last = b.bufs b.ring.last :=
      hother (n - 1) (by omega) (by omega)
    rw [show (b.modify f).ring = b.ring from rfl, hlast]
    exact h.kept bytes hbytes

theorem hand (hroom : q.length + read.isSome.toNat < n) {bytes : List UInt8}
    (hbytes : Spells (b.bufs b.ring.tail) 0 bytes) :
    ∃ b', b.hand bytes.length = some b' ∧ b'.Holds (q ++ [bytes]) read := by
  obtain ⟨ring, hfill, hring, hhead⟩ := h.ring.fill (by rw [List.length_map]; exact hroom) bytes.length
  refine ⟨{ b with ring }, by rw [BufferRing.hand, hfill]; rfl, ?_, fun i hi => ?_, fun read' hread => ?_⟩
  · rw [List.map_append]
    exact hring
  · rw [List.length_append, List.length_singleton] at hi
    show Spells (b.bufs ((ring.head + i) % n)) 0 _
    rw [hhead]
    by_cases hlast : i = q.length
    · subst hlast
      rw [List.getElem_append_right (Nat.le_refl _)]
      have htail := h.ring.tail_eq
      rw [List.length_map] at htail
      simpa [← htail] using hbytes
    · rw [List.getElem_append_left (by omega)]
      exact h.waiting i (by omega)
  · show Spells (b.bufs ring.last) 0 read'
    rw [Ring.last, hhead]
    exact h.kept read' hread

end Holds

theorem Holds.start {bytes : List UInt8} (h : b.Holds (bytes :: q) none) :
    ∃ b', b.start = some (bytes.length, b') ∧ b'.Holds q (some bytes) := by
  obtain ⟨ring, htake, hring, hlast⟩ := h.ring.take_cons
  have hhead : ring.head = (b.ring.head + 1) % n := by
    rw [Ring.take] at htake
    obtain ⟨x, -, hx⟩ := Option.map_eq_some_iff.mp htake
    rw [← (Prod.mk.inj hx).2]
  refine ⟨{ b with ring }, by rw [BufferRing.start, htake]; rfl, hring, fun i hi => ?_, fun read hread => ?_⟩
  · have hnext := h.waiting (i + 1) (Nat.succ_lt_succ hi)
    rw [← Ring.index_succ, ← hhead] at hnext
    exact hnext
  · obtain rfl := Option.some.inj hread
    have hfirst := h.waiting 0 (Nat.succ_pos _)
    rw [Nat.add_zero, Nat.mod_eq_of_lt h.ring.head_lt, ← hlast] at hfirst
    exact hfirst

theorem Holds.start_eq_none (h : b.Holds [] none) : b.start = none := by
  have hcell := h.ring.cells_eq_none h.ring.head_lt
  rw [BufferRing.start, Ring.take, hcell]
  rfl

/-- The producer does not notice that the consumer starts. -/
theorem tail_start {size : Nat} {b' : BufferRing n} (h : b.start = some (size, b')) :
    b'.bufs = b.bufs ∧ b'.ring.tail = b.ring.tail := by
  rw [BufferRing.start, Ring.take] at h
  cases hcell : b.ring.cells b.ring.head with
  | none =>
      rw [hcell] at h
      cases h
  | some x =>
      rw [hcell] at h
      obtain ⟨-, rfl⟩ := Prod.mk.inj (Option.some.inj h)
      exact ⟨rfl, rfl⟩

/-- The consumer has read what was written. -/
theorem Holds.finish {bytes : List UInt8} (h : b.Holds q (some bytes)) :
    b.reading bytes.length = bytes ∧ b.finish.Holds q none := by
  refine ⟨(h.kept bytes rfl).copy, h.ring.release, fun i hi => h.waiting i hi, fun read hread => ?_⟩
  cases hread

end BufferRing

end Base
