import Mathlib.Data.Nat.ModEq
import Mathlib.Data.Option.Basic
import Mathlib.Logic.Function.Basic

/-!
# A ring of descriptors

A producer and a consumer share `n` cells. The producer fills the cell at `tail` if it is empty. The
consumer takes the item at `head`, uses it where it lies, and empties the cell afterwards, so that
between the two one cell is lent and can not be filled. Both go round the cells in order.

`Holds` says that the ring is a queue: from `head` on there are the items in the order in which they
came, then empty cells, and at the very end the cell that is lent. Each operation on the ring is the
one on the queue.
-/

namespace Base

structure Ring (α : Type) (n : Nat) where
  cells : Nat → Option α
  head : Nat
  tail : Nat

namespace Ring

variable {α : Type} {n : Nat}

def empty : Ring α n where
  cells _ := none
  head := 0
  tail := 0

/-- The ring with one more item, if the next cell is empty. -/
def fill (r : Ring α n) (x : α) : Option (Ring α n) :=
  match r.cells r.tail with
  | none => some { r with
      cells := Function.update r.cells r.tail (some x), tail := (r.tail + 1) % n }
  | some _ => none

/-- The next item, if there is one. Its cell stays as it is. -/
def take (r : Ring α n) : Option (α × Ring α n) :=
  (r.cells r.head).map fun x => (x, { r with head := (r.head + 1) % n })

def release (r : Ring α n) (i : Nat) : Ring α n :=
  { r with cells := Function.update r.cells i none }

/-- The cell before the consumer's, which is the last one that was taken. -/
def last (r : Ring α n) : Nat := (r.head + (n - 1)) % n

/-- The ring holds the items of a queue, and the last cell that was taken may still be lent. -/
structure Holds (r : Ring α n) (q : List α) (lent : Bool) : Prop where
  head_lt : r.head < n
  tail_eq : r.tail = (r.head + q.length) % n
  room : q.length + lent.toNat ≤ n
  waiting : ∀ i < q.length, r.cells ((r.head + i) % n) = q[i]?
  free : ∀ i, q.length ≤ i → i + lent.toNat < n → r.cells ((r.head + i) % n) = none
  kept : lent = true → (r.cells r.last).isSome

theorem index_inj {h i j : Nat} (hi : i < n) (hj : j < n) (heq : (h + i) % n = (h + j) % n) :
    i = j := by
  have hmod : i ≡ j [MOD n] := Nat.ModEq.add_left_cancel' h heq
  rwa [Nat.ModEq, Nat.mod_eq_of_lt hi, Nat.mod_eq_of_lt hj] at hmod

theorem index_succ (h i : Nat) : ((h + 1) % n + i) % n = (h + (i + 1)) % n := by
  rw [Nat.mod_add_mod, Nat.add_assoc, Nat.add_comm 1 i]

theorem holds_empty (hn : 0 < n) : (empty : Ring α n).Holds [] false where
  head_lt := hn
  tail_eq := (Nat.zero_mod n).symm
  room := Nat.zero_le _
  waiting _ hi := absurd hi (Nat.not_lt_zero _)
  free _ _ _ := rfl
  kept h := by cases h

variable {r : Ring α n} {q : List α} {lent : Bool}

/-- An item is put at the end of the queue if a cell is left. -/
theorem Holds.fill (h : r.Holds q lent) (hroom : q.length + lent.toNat < n) (x : α) :
    ∃ r', r.fill x = some r' ∧ r'.Holds (q ++ [x]) lent ∧ r'.head = r.head := by
  have hempty : r.cells r.tail = none := by rw [h.tail_eq]; exact h.free _ (Nat.le_refl _) hroom
  have hother : ∀ i < n, i ≠ q.length →
      Function.update r.cells r.tail (some x) ((r.head + i) % n) = r.cells ((r.head + i) % n) := by
    intro i hi hne
    apply Function.update_of_ne
    rw [h.tail_eq]
    exact fun heq => hne (index_inj hi (by omega) heq)
  refine ⟨{ r with cells := Function.update r.cells r.tail (some x), tail := (r.tail + 1) % n },
    by rw [Ring.fill, hempty], ?_, rfl⟩
  constructor
  case head_lt => exact h.head_lt
  case tail_eq =>
      show (r.tail + 1) % n = _
      rw [h.tail_eq, Nat.mod_add_mod, List.length_append, List.length_singleton, Nat.add_assoc]
  case room =>
      rw [List.length_append, List.length_singleton]
      omega
  case waiting =>
      intro i hi
      rw [List.length_append, List.length_singleton] at hi
      show Function.update r.cells r.tail (some x) _ = _
      by_cases hlast : i = q.length
      · rw [hlast, ← h.tail_eq, Function.update_self]
        simp
      · rw [hother i (by omega) hlast, List.getElem?_append_left (by omega)]
        exact h.waiting i (by omega)
  case free =>
      intro i hi hlt
      rw [List.length_append, List.length_singleton] at hi
      exact (hother i (by omega) (by omega)).trans (h.free i (by omega) hlt)
  case kept =>
      intro hlent
      rw [hlent, Bool.toNat_true] at hroom
      have hkept := hother (n - 1) (by omega) (by omega)
      exact (congrArg Option.isSome hkept).trans (h.kept hlent)

theorem Holds.fill_eq_none (h : r.Holds q lent) (hfull : q.length + lent.toNat = n) (x : α) :
    r.fill x = none := by
  have hsome : (r.cells r.tail).isSome := by
    rw [h.tail_eq]
    cases hlent : lent with
    | true =>
        rw [hlent, Bool.toNat_true] at hfull
        have hkept := h.kept hlent
        rwa [last, show n - 1 = q.length by omega] at hkept
    | false =>
        rw [hlent, Bool.toNat_false, Nat.add_zero] at hfull
        have hpos : 0 < q.length := hfull ▸ Nat.lt_of_le_of_lt (Nat.zero_le _) h.head_lt
        have hfirst := h.waiting 0 hpos
        rw [Nat.add_zero] at hfirst
        rw [hfull, Nat.add_mod_right, hfirst, List.getElem?_eq_getElem hpos]
        rfl
  obtain ⟨y, hy⟩ := Option.isSome_iff_exists.mp hsome
  rw [Ring.fill, hy]

/-- The consumer takes the first item of the queue, and its cell is lent. -/
theorem Holds.take_cons {x : α} (h : r.Holds (x :: q) false) :
    ∃ r', r.take = some (x, r') ∧ r'.Holds q true ∧ r'.last = r.head := by
  have hroom := h.room
  rw [List.length_cons, Bool.toNat_false, Nat.add_zero] at hroom
  have hfirst := h.waiting 0 (Nat.succ_pos _)
  rw [Nat.add_zero, Nat.mod_eq_of_lt h.head_lt, List.getElem?_cons_zero] at hfirst
  have hlast : ((r.head + 1) % n + (n - 1)) % n = r.head := by
    rw [index_succ, show n - 1 + 1 = n by omega, Nat.add_mod_right, Nat.mod_eq_of_lt h.head_lt]
  refine ⟨{ r with head := (r.head + 1) % n }, by rw [Ring.take, hfirst]; rfl, ?_, hlast⟩
  constructor
  case head_lt => exact Nat.mod_lt _ (by omega)
  case tail_eq =>
      show r.tail = ((r.head + 1) % n + q.length) % n
      rw [index_succ, h.tail_eq, List.length_cons]
  case room => exact hroom
  case waiting =>
      intro i hi
      show r.cells (((r.head + 1) % n + i) % n) = _
      rw [index_succ, h.waiting (i + 1) (Nat.succ_lt_succ hi), List.getElem?_cons_succ]
  case free =>
      intro i hi hlt
      show r.cells (((r.head + 1) % n + i) % n) = _
      rw [index_succ]
      exact h.free (i + 1) (Nat.succ_le_succ hi) hlt
  case kept =>
      intro _
      show (r.cells (((r.head + 1) % n + (n - 1)) % n)).isSome
      rw [hlast, hfirst]
      rfl

theorem Holds.release (h : r.Holds q true) : (r.release r.last).Holds q false := by
  have hroom := h.room
  rw [Bool.toNat_true] at hroom
  have hother : ∀ i < n, i ≠ n - 1 →
      (r.release r.last).cells ((r.head + i) % n) = r.cells ((r.head + i) % n) := by
    intro i hi hne
    apply Function.update_of_ne
    exact fun heq => hne (index_inj hi (by omega) heq)
  constructor
  case head_lt => exact h.head_lt
  case tail_eq => exact h.tail_eq
  case room => exact Nat.le_of_succ_le hroom
  case waiting => exact fun i hi => (hother i (by omega) (by omega)).trans (h.waiting i hi)
  case free =>
      intro i hi hlt
      by_cases hlast : i = n - 1
      · rw [hlast]
        exact Function.update_self ..
      · have hbefore : i + 1 < n := by
          rw [Bool.toNat_false] at hlt
          omega
        exact (hother i (by omega) hlast).trans (h.free i hi hbefore)
  case kept => intro hlent; cases hlent

theorem Holds.cells_eq_none (h : r.Holds [] false) {j : Nat} (hj : j < n) : r.cells j = none := by
  have hindex : (r.head + (j + (n - r.head)) % n) % n = j := by
    have hsum : r.head + (j + (n - r.head)) = j + n := by
      have := h.head_lt
      omega
    rw [Nat.add_mod_mod, hsum, Nat.add_mod_right, Nat.mod_eq_of_lt hj]
  rw [← hindex]
  exact h.free _ (Nat.zero_le _) (Nat.mod_lt _ (by omega))

theorem Holds.full (h : r.Holds q lent) (hfull : ∀ j < n, (r.cells j).isSome) :
    q.length + lent.toNat = n := by
  by_contra hne
  have hroom := h.room
  have hempty := h.free q.length (Nat.le_refl _) (by omega)
  have hsome := hfull _ (Nat.mod_lt (r.head + q.length) (Nat.lt_of_le_of_lt (Nat.zero_le _) h.head_lt))
  rw [hempty] at hsome
  cases hsome

end Ring

end Base
