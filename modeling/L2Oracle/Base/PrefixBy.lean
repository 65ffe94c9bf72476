import Mathlib.Data.List.Basic
import Mathlib.Data.List.Infix

/-!
# Copies of a prefix

A replica of an append-only list holds, at each position it has, an element that stands for the
original's element there. A replica may be cut at the end, may have what follows a position replaced
by copies of what follows it in the original, and stays a replica when the original grows.
-/

namespace Base

variable {α β : Type} {R : α → β → Prop}

/-- Every element of `l` is related to the element of `L` at the same position. -/
def PrefixBy (R : α → β → Prop) (l : List α) (L : List β) : Prop :=
  ∀ (i : Nat) (x : α), l[i]? = some x → ∃ y, L[i]? = some y ∧ R x y

variable {l l' : List α} {L L' : List β}

theorem getElem?_of_initial (h : l <+: l') {i : Nat} {x : α} (hx : l[i]? = some x) :
    l'[i]? = some x := by
  obtain ⟨rest, rfl⟩ := h
  obtain ⟨hi, -⟩ := List.getElem?_eq_some_iff.mp hx
  rwa [List.getElem?_append_left hi]

theorem PrefixBy.eq_nil (h : PrefixBy R l []) : l = [] := by
  cases l with
  | nil => rfl
  | cons x l =>
      obtain ⟨y, hy, -⟩ := h 0 x rfl
      cases hy

theorem PrefixBy.refl {R : α → α → Prop} (hR : ∀ x, R x x) (l : List α) : PrefixBy R l l :=
  fun _ x hx => ⟨x, hx, hR x⟩

theorem PrefixBy.of_initial (h : PrefixBy R l L) (hl : l' <+: l) : PrefixBy R l' L :=
  fun i x hx => h i x (getElem?_of_initial hl hx)

theorem PrefixBy.mono (h : PrefixBy R l L) (hL : L <+: L') : PrefixBy R l L' := by
  intro i x hx
  obtain ⟨y, hy, hxy⟩ := h i x hx
  exact ⟨y, getElem?_of_initial hL hy, hxy⟩

theorem PrefixBy.drop (h : PrefixBy R l L) (k : Nat) : PrefixBy R (l.drop k) (L.drop k) := by
  intro i x hx
  rw [List.getElem?_drop] at hx ⊢
  exact h (k + i) x hx

/-- What follows a position is replaced by copies. -/
theorem PrefixBy.splice (h : PrefixBy R l L) {k : Nat} (hk : k ≤ l.length)
    (h' : PrefixBy R l' (L.drop k)) : PrefixBy R (l.take k ++ l') L := by
  have hlen : (l.take k).length = k := by simp [hk]
  intro i x hx
  by_cases hi : i < k
  · rw [List.getElem?_append_left (by omega), List.getElem?_take_of_lt hi] at hx
    exact h i x hx
  · rw [List.getElem?_append_right (by omega), hlen] at hx
    obtain ⟨y, hy, hxy⟩ := h' _ x hx
    rw [List.getElem?_drop, Nat.add_sub_cancel' (by omega)] at hy
    exact ⟨y, hy, hxy⟩

end Base
