import Mathlib.Data.List.Nodup
import L2Oracle.Base.Bytes

/-!
# Blocks of memory and their owners

Memory is a set of blocks, each at an address of its own, and a pointer goes to a byte of one. What C
leaves undefined has no result here: to read or write where there is no block or past its end, and to
free what `malloc` did not return or has taken back. `malloc` is given its answer, since the allocator
and what it has left to give are not part of this: no block, or one at some address, with whatever the
memory there holds.

`Parts` says that memory is made of the allocated blocks of one owner and of a rest in which none of
them lies. It is what an owner that copies into new blocks and frees them again keeps, and what the
others may do without disturbing it. When the owner has nothing left, memory is the rest, so that
nothing has leaked.
-/

namespace Base

structure Block where
  bytes : List UInt8
  /-- The block came from `malloc`. -/
  allocated : Bool
deriving DecidableEq, Repr

structure Pointer (α : Type) where
  block : α
  offset : Nat
deriving DecidableEq, Repr

/-- A block that `malloc` gives, and what is found in it. -/
structure Granted (α : Type) where
  block : α
  found : Nat → UInt8

def Memory (α : Type) : Type := α → Option Block

namespace Memory

variable {α : Type}

def read (m : Memory α) (p : Pointer α) (n : Nat) : Option (List UInt8) :=
  (m p.block).bind fun b =>
    if p.offset + n ≤ b.bytes.length then some ((b.bytes.drop p.offset).take n) else none

section
variable {m : Memory α} {p : Pointer α} {n : Nat} {bytes : List UInt8}

theorem ne_none_of_read (h : m.read p n = some bytes) : m p.block ≠ none := by
  intro hnone
  rw [read, hnone] at h
  cases h

theorem length_of_read (h : m.read p n = some bytes) : bytes.length = n := by
  obtain ⟨b, -, hread⟩ := Option.bind_eq_some_iff.mp h
  split at hread
  · rename_i hle
    rw [← Option.some.inj hread, List.length_take, List.length_drop]
    omega
  · cases hread

/-- A part of what can be read can be read. -/
theorem read_part {off len : Nat} (h : m.read p n = some bytes) (hle : off + len ≤ n) :
    m.read ⟨p.block, p.offset + off⟩ len = some ((bytes.drop off).take len) := by
  obtain ⟨b, hb, hread⟩ := Option.bind_eq_some_iff.mp h
  split at hread
  · rename_i hfits
    have hroom : p.offset + off + len ≤ b.bytes.length := by omega
    rw [read, hb, Option.bind_some, if_pos hroom, ← Option.some.inj hread, List.drop_take,
      List.take_take, List.drop_drop, Nat.min_eq_left (by omega)]
  · cases hread

theorem read_take {len : Nat} (h : m.read p n = some bytes) (hle : len ≤ n) :
    m.read p len = some (bytes.take len) := by
  have hpart : m.read ⟨p.block, p.offset + 0⟩ len = _ := read_part h (by omega)
  rwa [List.drop_zero] at hpart

theorem read_block {a : α} {b : Block} (h : m a = some b) (hn : n ≤ b.bytes.length) :
    m.read ⟨a, 0⟩ n = some (b.bytes.take n) := by
  have hfits : 0 + n ≤ b.bytes.length := by omega
  rw [read, h, Option.bind_some, if_pos hfits, List.drop_zero]

end

/-! ### The blocks of one owner -/

/-- Memory is made of the owner's allocated blocks, with what they hold, and the rest. -/
structure Parts (m : Memory α) (owned : List (α × List UInt8)) (rest : Memory α) : Prop where
  nodup : (owned.map Prod.fst).Nodup
  holds : ∀ x ∈ owned, m x.1 = some ⟨x.2, true⟩
  apart : ∀ x ∈ owned, rest x.1 = none
  elsewhere : ∀ a ∉ owned.map Prod.fst, m a = rest a

theorem parts_nil (m : Memory α) : m.Parts [] m where
  nodup := List.nodup_nil
  holds _ h := by cases h
  apart _ h := by cases h
  elsewhere _ _ := rfl

variable {m : Memory α} {owned : List (α × List UInt8)} {rest : Memory α}

/-- An owner that has nothing left has leaked nothing. -/
theorem Parts.eq_rest (h : m.Parts [] rest) : m = rest :=
  funext fun a => h.elsewhere a List.not_mem_nil

theorem Parts.not_owned (h : m.Parts owned rest) {a : α} (hfree : m a = none) :
    a ∉ owned.map Prod.fst := by
  intro hmem
  obtain ⟨x, hx, rfl⟩ := List.mem_map.mp hmem
  rw [h.holds x hx] at hfree
  cases hfree

theorem Parts.read (h : m.Parts owned rest) {x : α × List UInt8} (hx : x ∈ owned) {n : Nat}
    (hn : n ≤ x.2.length) : m.read ⟨x.1, 0⟩ n = some (x.2.take n) :=
  read_block (h.holds x hx) hn

/-! ### What changes memory -/

variable [DecidableEq α]

def set (m : Memory α) (a : α) (b : Option Block) : Memory α := fun a' => if a' = a then b else m a'

def write (m : Memory α) (p : Pointer α) (bytes : List UInt8) : Option (Memory α) :=
  (m p.block).bind fun b =>
    if p.offset + bytes.length ≤ b.bytes.length then
      some (m.set p.block (some { b with
        bytes := b.bytes.take p.offset ++ bytes ++ b.bytes.drop (p.offset + bytes.length) }))
    else none

def memcpy (m : Memory α) (dst src : Pointer α) (n : Nat) : Option (Memory α) :=
  (m.read src n).bind (m.write dst)

def malloc (m : Memory α) (size : Nat) (answer : Option (Granted α)) :
    Option (Pointer α × Memory α) :=
  answer.map fun g => (⟨g.block, 0⟩, m.set g.block (some ⟨copy g.found 0 size, true⟩))

def free (m : Memory α) (p : Pointer α) : Option (Memory α) :=
  (m p.block).bind fun b =>
    if b.allocated ∧ p.offset = 0 then some (m.set p.block none) else none

@[simp] theorem set_self (m : Memory α) (a : α) (b : Option Block) : m.set a b a = b := if_pos rfl

theorem set_of_ne {a a' : α} (h : a' ≠ a) (m : Memory α) (b : Option Block) :
    m.set a b a' = m a' := if_neg h

theorem set_set (m : Memory α) (a : α) (b b' : Option Block) : (m.set a b).set a b' = m.set a b' := by
  funext a'
  by_cases h : a' = a
  · rw [h, set_self, set_self]
  · rw [set_of_ne h, set_of_ne h, set_of_ne h]

theorem read_set_of_ne {p : Pointer α} {a : α} (h : p.block ≠ a) (b : Option Block) (n : Nat) :
    (m.set a b).read p n = m.read p n := by
  rw [read, read, set_of_ne h]

/-- What is copied into a new block of the same size is all that it holds. -/
theorem memcpy_malloc {src : Pointer α} {n : Nat} {bytes : List UInt8}
    (hread : m.read src n = some bytes) {g : Granted α} (hfree : m g.block = none) :
    (m.set g.block (some ⟨copy g.found 0 n, true⟩)).memcpy ⟨g.block, 0⟩ src n
      = some (m.set g.block (some ⟨bytes, true⟩)) := by
  have hne : src.block ≠ g.block := by
    intro hsame
    exact ne_none_of_read hread (hsame ▸ hfree)
  have hlen : bytes.length = (copy g.found 0 n).length := by
    rw [length_of_read hread, copy, List.length_map, List.length_range]
  rw [memcpy, read_set_of_ne hne, hread, Option.bind_some, write, set_self, Option.bind_some,
    if_pos (by simp [hlen]), set_set]
  simp [hlen]

/-- The owner gets a block that was free, and fills it. -/
theorem Parts.grant (h : m.Parts owned rest) {a : α} (hfree : m a = none) (bytes : List UInt8) :
    (m.set a (some ⟨bytes, true⟩)).Parts (owned ++ [(a, bytes)]) rest where
  nodup := by
    rw [List.map_append, List.map_singleton, List.nodup_append]
    refine ⟨h.nodup, List.nodup_singleton a, fun b hb c hc => ?_⟩
    rw [List.mem_singleton.mp hc]
    rintro rfl
    exact h.not_owned hfree hb
  holds x hx := by
    rcases List.mem_append.mp hx with hold | hnew
    · have hne : x.1 ≠ a := by
        rintro rfl
        exact h.not_owned hfree (List.mem_map_of_mem hold)
      rw [set_of_ne hne, h.holds x hold]
    · rw [List.mem_singleton.mp hnew, set_self]
  apart x hx := by
    rcases List.mem_append.mp hx with hold | hnew
    · exact h.apart x hold
    · rw [List.mem_singleton.mp hnew, ← h.elsewhere a (h.not_owned hfree), hfree]
  elsewhere b hb := by
    rw [List.map_append, List.mem_append, not_or] at hb
    have hne : b ≠ a := fun hsame => hb.2 (List.mem_singleton.mpr hsame)
    rw [set_of_ne hne, h.elsewhere b hb.1]

/-- The owner frees a block of its own, and has the others left. -/
theorem Parts.free {before after : List (α × List UInt8)} {x : α × List UInt8}
    (h : m.Parts (before ++ x :: after) rest) :
    m.free ⟨x.1, 0⟩ = some (m.set x.1 none) ∧ (m.set x.1 none).Parts (before ++ after) rest := by
  have hx : x ∈ before ++ x :: after := List.mem_append_right _ List.mem_cons_self
  have hnodup := h.nodup
  rw [List.map_append, List.map_cons, List.nodup_middle, ← List.map_append, List.nodup_cons] at hnodup
  have hothers : ∀ y ∈ before ++ after, y ∈ before ++ x :: after := by
    intro y hy
    rw [List.mem_append, List.mem_cons]
    rcases List.mem_append.mp hy with hy | hy
    · exact .inl hy
    · exact .inr (.inr hy)
  refine ⟨?_, hnodup.2, fun y hy => ?_, fun y hy => h.apart y (hothers y hy), fun a ha => ?_⟩
  · rw [Memory.free, h.holds x hx, Option.bind_some, if_pos ⟨rfl, rfl⟩]
  · have hne : y.1 ≠ x.1 := by
      intro hsame
      exact hnodup.1 (hsame ▸ List.mem_map_of_mem hy)
    rw [set_of_ne hne, h.holds y (hothers y hy)]
  · by_cases hsame : a = x.1
    · rw [hsame, set_self, h.apart x hx]
    · rw [set_of_ne hsame]
      refine h.elsewhere a fun hmem => ?_
      rw [List.map_append, List.map_cons, List.mem_append, List.mem_cons] at hmem
      rw [List.map_append, List.mem_append] at ha
      rcases hmem with hmem | rfl | hmem
      · exact ha (.inl hmem)
      · exact hsame rfl
      · exact ha (.inr hmem)

/-- What happens elsewhere leaves the owner's blocks alone. -/
theorem Parts.set (h : m.Parts owned rest) {a : α} (ha : a ∉ owned.map Prod.fst) (b : Option Block) :
    (m.set a b).Parts owned (rest.set a b) where
  nodup := h.nodup
  holds x hx := by
    have hne : x.1 ≠ a := by
      rintro rfl
      exact ha (List.mem_map_of_mem hx)
    rw [set_of_ne hne, h.holds x hx]
  apart x hx := by
    have hne : x.1 ≠ a := by
      rintro rfl
      exact ha (List.mem_map_of_mem hx)
    rw [set_of_ne hne, h.apart x hx]
  elsewhere c hc := by
    by_cases hsame : c = a
    · rw [hsame, set_self, set_self]
    · rw [set_of_ne hsame, set_of_ne hsame, h.elsewhere c hc]

end Memory

end Base
