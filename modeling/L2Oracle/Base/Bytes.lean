import Mathlib.Algebra.Group.Nat.Defs
import Mathlib.Data.List.Basic

/-!
# Little-endian words in a byte buffer

A word is written as a list of bytes, least significant first, and read from memory, which is a
function from addresses to bytes: a reader that goes past the end of what was received still reads
something. `Spells` says what stands in memory from an address on. It splits along the bytes that were
written one after the other, and each of the parts is read back at its offset, as a word, as bytes or
as an array. `AgreeTo` says that two memories start alike, and a reader that stays there can not tell
them apart. `write` changes memory at the addresses of the bytes that are written and nowhere else, so
what memory spells after a list of writes is found field by field.
-/

namespace Base

/-- The `width` low bytes of `n`, least significant first. -/
def writeLE : Nat → Nat → List UInt8
  | 0, _ => []
  | width + 1, n => UInt8.ofNat n :: writeLE width (n / 256)

/-- The number that `width` bytes of memory from `off` on spell, least significant first. -/
def readLE (mem : Nat → UInt8) (off : Nat) : Nat → Nat
  | 0 => 0
  | width + 1 => (mem off).toNat + 256 * readLE mem (off + 1) width

/-- Memory that starts with the given bytes; `beyond` is what lies behind them. -/
def buffer (bytes : List UInt8) (beyond : Nat → UInt8) (i : Nat) : UInt8 :=
  bytes[i]?.getD (beyond i)

/-- The `n` bytes of memory from `off` on. -/
def copy (mem : Nat → UInt8) (off n : Nat) : List UInt8 :=
  (List.range n).map fun i => mem (off + i)

@[simp] theorem length_writeLE (width n : Nat) : (writeLE width n).length = width := by
  induction width generalizing n with
  | zero => rfl
  | succ width ih => simp [writeLE, ih]

theorem writeLE_byte (b : UInt8) : writeLE 1 b.toNat = [b] := by
  simp [writeLE]

theorem readLE_lt (mem : Nat → UInt8) (off width : Nat) : readLE mem off width < 256 ^ width := by
  induction width generalizing off with
  | zero => exact Nat.one_pos
  | succ width ih =>
      have hbyte : (mem off).toNat < 256 := (mem off).toNat_lt
      have hrest := ih (off + 1)
      rw [readLE, Nat.pow_succ']
      omega

/-- A word is read in two parts, the low one first. -/
theorem readLE_add (mem : Nat → UInt8) (off a b : Nat) :
    readLE mem off (a + b) = readLE mem off a + 256 ^ a * readLE mem (off + a) b := by
  induction a generalizing off with
  | zero => simp [readLE]
  | succ a ih =>
      rw [Nat.succ_add, readLE, ih, readLE, Nat.pow_succ', Nat.mul_add, Nat.mul_assoc, Nat.add_assoc,
        Nat.add_assoc, Nat.add_comm 1]

theorem readLE_shift (mem : Nat → UInt8) (off k width : Nat) :
    readLE (fun i => mem (off + i)) k width = readLE mem (off + k) width := by
  induction width generalizing k with
  | zero => rfl
  | succ width ih => rw [readLE, ih, readLE, Nat.add_assoc]

theorem buffer_append_right (left right : List UInt8) (beyond : Nat → UInt8) (i : Nat) :
    buffer (left ++ right) beyond (left.length + i)
      = buffer right (fun k => beyond (left.length + k)) i := by
  simp only [buffer]
  rw [List.getElem?_append_right (Nat.le_add_right _ _), Nat.add_sub_cancel_left]

theorem buffer_of_lt {bytes : List UInt8} {i : Nat} (h : i < bytes.length)
    (beyond : Nat → UInt8) : buffer bytes beyond i = bytes[i] := by
  simp [buffer, h]

theorem copy_buffer {bytes : List UInt8} {off n : Nat} (h : off + n ≤ bytes.length)
    (beyond : Nat → UInt8) : copy (buffer bytes beyond) off n = (bytes.drop off).take n := by
  apply List.ext_getElem
  · simp [copy]
    omega
  · intro i hi _
    rw [copy, List.length_map, List.length_range] at hi
    simp only [copy, List.getElem_map, List.getElem_range, List.getElem_take, List.getElem_drop]
    exact buffer_of_lt (by omega) beyond

/-! ### What memory spells -/

/-- From `off` on, memory holds these bytes. -/
def Spells (mem : Nat → UInt8) (off : Nat) (bytes : List UInt8) : Prop :=
  ∀ i (hi : i < bytes.length), mem (off + i) = bytes[i]

section
variable {mem : Nat → UInt8} {off : Nat}

theorem spells_buffer (bytes : List UInt8) (beyond : Nat → UInt8) :
    Spells (buffer bytes beyond) 0 bytes := by
  intro i hi
  rw [Nat.zero_add, buffer_of_lt hi]

theorem spells_nil : Spells mem off [] := fun _ hi => absurd hi (Nat.not_lt_zero _)

theorem spells_cons {x : UInt8} {xs : List UInt8} :
    Spells mem off (x :: xs) ↔ mem off = x ∧ Spells mem (off + 1) xs := by
  constructor
  · intro h
    refine ⟨h 0 (Nat.succ_pos _), fun i hi => ?_⟩
    rw [Nat.add_assoc, Nat.add_comm 1 i, h (i + 1) (Nat.succ_lt_succ hi), List.getElem_cons_succ]
  · rintro ⟨hhead, htail⟩ i hi
    cases i with
    | zero => exact hhead
    | succ i =>
        have hi' := htail i (Nat.lt_of_succ_lt_succ hi)
        rwa [Nat.add_assoc, Nat.add_comm 1 i] at hi'

theorem spells_append {xs ys : List UInt8} :
    Spells mem off (xs ++ ys) ↔ Spells mem off xs ∧ Spells mem (off + xs.length) ys := by
  induction xs generalizing off with
  | nil => exact ⟨fun h => ⟨spells_nil, h⟩, fun h => h.2⟩
  | cons x xs ih =>
      rw [List.cons_append, spells_cons, spells_cons, ih, and_assoc, List.length_cons, Nat.add_assoc,
        Nat.add_comm 1]

namespace Spells

/-- A word that was written is read back. -/
theorem readLE {width n : Nat} (h : Spells mem off (writeLE width n)) :
    Base.readLE mem off width = n % 256 ^ width := by
  induction width generalizing off n with
  | zero => rw [Base.readLE, Nat.pow_zero, Nat.mod_one]
  | succ width ih =>
      obtain ⟨hhead, htail⟩ := spells_cons.mp h
      rw [Base.readLE, hhead, ih htail, Nat.pow_succ, Nat.mul_comm (256 ^ width), Nat.mod_mul]
      simp

theorem word {w : UInt32} (h : Spells mem off (writeLE 4 w.toNat)) :
    UInt32.ofNat (Base.readLE mem off 4) = w := by
  have hw : w.toNat < 256 ^ 4 := w.toNat_lt
  rw [h.readLE, Nat.mod_eq_of_lt hw, UInt32.ofNat_toNat]

theorem half {w : UInt16} (h : Spells mem off (writeLE 2 w.toNat)) :
    UInt16.ofNat (Base.readLE mem off 2) = w := by
  have hw : w.toNat < 256 ^ 2 := w.toNat_lt
  rw [h.readLE, Nat.mod_eq_of_lt hw, UInt16.ofNat_toNat]

theorem copy {bytes : List UInt8} (h : Spells mem off bytes) :
    Base.copy mem off bytes.length = bytes := by
  apply List.ext_getElem
  · simp [Base.copy]
  · intro i _ hi
    simp only [Base.copy, List.getElem_map, List.getElem_range]
    exact h i hi

/-- Records of one width stand in a row. -/
theorem flatMap {α : Type} {f : α → List UInt8} {width : Nat} (hwidth : ∀ x, (f x).length = width)
    {xs : List α} (h : Spells mem off (xs.flatMap f)) {i : Nat} {x : α} (hi : xs[i]? = some x) :
    Spells mem (off + width * i) (f x) := by
  induction xs generalizing off i with
  | nil => cases hi
  | cons y ys ih =>
      rw [List.flatMap_cons, spells_append, hwidth] at h
      cases i with
      | zero =>
          obtain rfl := Option.some.inj hi
          exact h.1
      | succ i =>
          have hrest := ih h.2 hi
          rwa [Nat.mul_succ, ← Nat.add_assoc, Nat.add_right_comm]

theorem ofFn {n : Nat} {bytes : Vector UInt8 n} (h : Spells mem off bytes.toList) :
    Vector.ofFn (fun i : Fin n => mem (off + i)) = bytes := by
  ext i hi
  have hlist : i < bytes.toList.length := by rw [Vector.length_toList]; exact hi
  rw [Vector.getElem_ofFn, h i hlist, Vector.getElem_toList]

end Spells

end

/-! ### What is not read -/

/-- The memories agree on the addresses below `n`. -/
def AgreeTo (n : Nat) (mem mem' : Nat → UInt8) : Prop := ∀ i < n, mem i = mem' i

/-- What is read inside the buffer does not depend on what lies behind it. -/
theorem agreeTo_buffer {n : Nat} {bytes : List UInt8} (h : n ≤ bytes.length)
    (beyond beyond' : Nat → UInt8) : AgreeTo n (buffer bytes beyond) (buffer bytes beyond') := by
  intro i hi
  have hlt : i < bytes.length := Nat.lt_of_lt_of_le hi h
  rw [buffer_of_lt hlt, buffer_of_lt hlt]

theorem agreeTo_take (n : Nat) (bytes : List UInt8) (beyond : Nat → UInt8) :
    AgreeTo n (buffer (bytes.take n) beyond) (buffer bytes beyond) := by
  intro i hi
  simp [buffer, hi]

namespace AgreeTo

variable {n : Nat} {mem mem' : Nat → UInt8}

theorem mono (h : AgreeTo n mem mem') {k : Nat} (hle : k ≤ n) : AgreeTo k mem mem' :=
  fun i hi => h i (Nat.lt_of_lt_of_le hi hle)

theorem readLE (h : AgreeTo n mem mem') {off width : Nat} (hle : off + width ≤ n) :
    Base.readLE mem off width = Base.readLE mem' off width := by
  induction width generalizing off with
  | zero => rfl
  | succ width ih => rw [Base.readLE, Base.readLE, h off (by omega), ih (by omega)]

theorem copy (h : AgreeTo n mem mem') {off k : Nat} (hle : off + k ≤ n) :
    Base.copy mem off k = Base.copy mem' off k :=
  List.map_congr_left fun i hi => h _ (by have := List.mem_range.mp hi; omega)

theorem shift {k : Nat} (h : AgreeTo (k + n) mem mem') :
    AgreeTo n (fun i => mem (k + i)) fun i => mem' (k + i) :=
  fun _ hi => h _ (Nat.add_lt_add_left hi k)

end AgreeTo

/-! ### Writing -/

/-- Memory after the given bytes were written from `off` on. -/
def write (mem : Nat → UInt8) (off : Nat) (bytes : List UInt8) (i : Nat) : UInt8 :=
  if off ≤ i then bytes[i - off]?.getD (mem i) else mem i

/-- One write: the address of its first byte, and the bytes. -/
structure Write where
  off : Nat
  bytes : List UInt8
deriving DecidableEq, Repr

/-- Memory after writes one after another. -/
def writeAll (mem : Nat → UInt8) (ws : List Write) : Nat → UInt8 :=
  ws.foldl (fun mem w => write mem w.off w.bytes) mem

theorem writeAll_append (mem : Nat → UInt8) (ws vs : List Write) :
    writeAll mem (ws ++ vs) = writeAll (writeAll mem ws) vs := List.foldl_append

/-- Every byte that is written has an address below `n`. -/
def Write.Within (n : Nat) (w : Write) : Prop := ∀ i < w.bytes.length, w.off + i < n

instance (n : Nat) (w : Write) : Decidable (w.Within n) := inferInstanceAs (Decidable (∀ i < _, _))

theorem Write.within_of_le {n : Nat} {w : Write} (h : w.off + w.bytes.length ≤ n) : w.Within n := by
  intro i hi
  omega

section
variable {mem : Nat → UInt8} {off : Nat} {bytes : List UInt8}

theorem write_inside (mem : Nat → UInt8) (off : Nat) {i : Nat} (h : i < bytes.length) :
    write mem off bytes (off + i) = bytes[i] := by
  simp [write, h]

theorem write_outside (mem : Nat → UInt8) {i : Nat} (h : i < off ∨ off + bytes.length ≤ i) :
    write mem off bytes i = mem i := by
  unfold write
  split
  · rw [List.getElem?_eq_none (by omega), Option.getD_none]
  · rfl

theorem write_nil (mem : Nat → UInt8) (off : Nat) : write mem off [] = mem :=
  funext fun i => write_outside mem (by simp only [List.length_nil]; omega)

/-- Two writes, the second right behind the first, are one. -/
theorem write_append (mem : Nat → UInt8) (off : Nat) (xs ys : List UInt8) :
    write (write mem off xs) (off + xs.length) ys = write mem off (xs ++ ys) := by
  funext i
  by_cases hlow : i < off
  · rw [write_outside _ (.inl (by omega)), write_outside _ (.inl hlow), write_outside _ (.inl hlow)]
  obtain ⟨k, rfl⟩ := Nat.exists_eq_add_of_le (Nat.le_of_not_lt hlow)
  by_cases hx : k < xs.length
  · have hxy : k < (xs ++ ys).length := by rw [List.length_append]; omega
    rw [write_outside _ (.inl (by omega)), write_inside _ _ hx, write_inside _ _ hxy,
      List.getElem_append_left hx]
  obtain ⟨j, rfl⟩ := Nat.exists_eq_add_of_le (Nat.le_of_not_lt hx)
  by_cases hy : j < ys.length
  · have hxy : xs.length + j < (xs ++ ys).length := by rw [List.length_append]; omega
    rw [← Nat.add_assoc, write_inside _ _ hy, Nat.add_assoc, write_inside _ _ hxy]
    simp
  · have hout : (xs ++ ys).length ≤ xs.length + j := by rw [List.length_append]; omega
    rw [write_outside _ (.inr (by omega)), write_outside _ (.inr (by omega)),
      write_outside _ (.inr (by omega))]

theorem spells_write (mem : Nat → UInt8) (off : Nat) (bytes : List UInt8) :
    Spells (write mem off bytes) off bytes :=
  fun _ hi => write_inside mem off hi

/-- What stands apart from a write stays. -/
theorem Spells.write (h : Spells mem off bytes) {off' : Nat} {bytes' : List UInt8}
    (hapart : off + bytes.length ≤ off' ∨ off' + bytes'.length ≤ off) :
    Spells (Base.write mem off' bytes') off bytes := by
  intro i hi
  rw [write_outside mem (by omega), h i hi]

/-- A write over the start of a zeroed area leaves zeros behind it, and what goes past the end of the area
is not part of it. -/
theorem Spells.overwrite {n : Nat} (h : Spells mem off (List.replicate n 0)) (bytes : List UInt8) :
    Spells (Base.write mem off bytes) off ((bytes ++ List.replicate n 0).take n) := by
  intro i hi
  have hn : i < n := by
    simp only [List.length_take] at hi
    omega
  rw [List.getElem_take]
  by_cases hin : i < bytes.length
  · rw [write_inside mem off hin, List.getElem_append_left hin]
  · have hold := h i (by simpa using hn)
    rw [write_outside mem (.inr (by omega)), hold, List.getElem_append_right (Nat.le_of_not_lt hin)]
    simp

theorem take_padded {n m : Nat} (h : n ≤ m) (bytes : List UInt8) :
    (bytes ++ List.replicate m 0).take n = (bytes ++ List.replicate n 0).take n := by
  rw [List.take_append, List.take_append, List.take_replicate, List.take_replicate,
    Nat.min_eq_left (by omega), Nat.min_eq_left (by omega)]

end

end Base
