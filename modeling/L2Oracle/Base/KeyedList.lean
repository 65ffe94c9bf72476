import Mathlib.Data.List.Basic
import Mathlib.Data.List.Forall2
import Mathlib.Data.List.Nodup

/-!
# Lists searched by key

A table kept as a list whose elements carry a key, searched from the front for the first element with
a given key. Three operations keep the keys where they are: writing a found position with an element
of the same key, appending an element with a new key, and mapping by a function that keeps keys. Each
has one equation for `lookup`, which says what every later search finds, and one lemma that says the
keys stay pairwise distinct.
-/

namespace Base

variable {α κ : Type} [DecidableEq κ] (key : α → κ)

/-- The first element with key `k`. -/
def lookup (l : List α) (k : κ) : Option α := l.find? fun x => key x == k

variable {key} {l : List α} {k : κ} {i : Nat} {x : α}

theorem lookup_cons : lookup key (x :: l) k = if key x = k then some x else lookup key l k := by
  by_cases h : key x = k <;> simp [lookup, h]

theorem key_of_lookup (h : lookup key l k = some x) : key x = k := by
  simpa [lookup] using List.find?_some h

theorem mem_of_lookup (h : lookup key l k = some x) : x ∈ l := List.mem_of_find?_eq_some h

theorem lookup_eq_none : lookup key l k = none ↔ k ∉ l.map key := by
  simp [lookup]

theorem findIdx?_eq_none : (l.findIdx? fun x => key x == k) = none ↔ lookup key l k = none := by
  simp [lookup]

/-- The element at the index a search by index returns is the one a search by element returns. -/
theorem lookup_eq_getElem? (h : (l.findIdx? fun x => key x == k) = some i) :
    lookup key l k = l[i]? := by
  have hfind : l.find? (fun x => key x == k) = l[l.findIdx fun x => key x == k]? :=
    List.find?_eq_getElem?_findIdx
  rw [List.findIdx?_eq_some_iff_findIdx_eq] at h
  rw [lookup, hfind, h.2]

theorem lookup_set (h : (l.findIdx? fun x => key x == k) = some i) (hx : key x = k) (k' : κ) :
    lookup key (l.set i x) k' = if k' = k then some x else lookup key l k' := by
  induction l generalizing i with
  | nil => simp at h
  | cons y l ih =>
      rw [List.findIdx?_cons] at h
      by_cases hy : key y = k
      · simp only [hy, beq_self_eq_true, if_true, Option.some.injEq] at h
        subst h
        by_cases hk : k' = k
        · simp [lookup_cons, hx, hk]
        · simp [lookup_cons, hx, hy, hk, Ne.symm hk]
      · have hne : (key y == k) = false := by simpa using hy
        rw [hne] at h
        simp only [Bool.false_eq_true, if_false, Option.map_eq_some_iff] at h
        obtain ⟨j, hj, rfl⟩ := h
        rw [List.set_cons_succ, lookup_cons, lookup_cons, ih hj]
        by_cases hk : k' = k
        · simp [hk, hy]
        · simp [hk]

theorem lookup_append (h : lookup key l (key x) = none) (k' : κ) :
    lookup key (l ++ [x]) k' = if k' = key x then some x else lookup key l k' := by
  simp only [lookup, List.find?_append] at h ⊢
  by_cases hk : k' = key x
  · subst hk
    simp [h]
  · have hne : (key x == k') = false := by simpa using Ne.symm hk
    simp [hne, hk]

theorem lookup_map {f : α → α} (hf : ∀ y, key (f y) = key y) (l : List α) (k : κ) :
    lookup key (l.map f) k = (lookup key l k).map f := by
  simp only [lookup, List.find?_map, Function.comp_def, hf]

omit [DecidableEq κ] in
theorem nodup_set (h : (l.map key).Nodup) (hi : i < l.length) (hx : key x = key l[i]) :
    ((l.set i x).map key).Nodup := by
  have hkeys : (l.set i x).map key = l.map key := by
    rw [List.map_set, hx, ← List.getElem_map key (l := l) (h := by simpa using hi)]
    exact List.set_getElem_self _
  rwa [hkeys]

theorem nodup_append (h : (l.map key).Nodup) (hx : lookup key l (key x) = none) :
    ((l ++ [x]).map key).Nodup := by
  rw [List.map_append, List.map_singleton, List.nodup_append]
  refine ⟨h, List.nodup_singleton _, ?_⟩
  rintro a ha b hb rfl
  rw [List.mem_singleton] at hb
  exact lookup_eq_none.mp hx (hb ▸ ha)

/-- Where keys are distinct, every element is the one its key finds. -/
theorem lookup_of_mem (h : (l.map key).Nodup) (hx : x ∈ l) : lookup key l (key x) = some x := by
  induction l with
  | nil => cases hx
  | cons y l ih =>
      rw [List.map_cons, List.nodup_cons] at h
      rw [lookup_cons]
      rcases List.mem_cons.mp hx with rfl | hx
      · simp
      · have hne : key y ≠ key x := fun heq => h.1 (heq ▸ List.mem_map_of_mem hx)
        rw [if_neg hne, ih h.2 hx]

/-- Of what the elements give rise to, the part with key `k` is what the element that `k` finds gives
rise to. -/
theorem filter_filterMap {β : Type} {key' : β → κ} {f : α → Option β}
    (hf : ∀ x y, f x = some y → key' y = key x) (h : (l.map key).Nodup) (k : κ) :
    (l.filterMap f).filter (fun y => key' y = k) = ((lookup key l k).bind f).toList := by
  induction l with
  | nil => rfl
  | cons x l ih =>
      rw [List.map_cons, List.nodup_cons] at h
      rw [lookup_cons]
      by_cases hk : key x = k
      · have hrest : lookup key l k = none := lookup_eq_none.mpr (hk ▸ h.1)
        have hnil := ih h.2
        rw [hrest] at hnil
        cases hx : f x with
        | none => simpa [hx, hk] using hnil
        | some y => simpa [hx, hk, hf x y hx] using hnil
      · cases hx : f x with
        | none => simpa [hx, hk] using ih h.2
        | some y => simpa [hx, hk, hf x y hx] using ih h.2

/-! ### A window of the list

Rewriting by key and inserting under a bound on the length both commute with taking the first `n`
elements. For insertion the window is a table of its own, with the smaller bound. -/

variable (key) in
/-- Rewrite the first element with key `k`. -/
def modifyKey (l : List α) (k : κ) (f : α → α) : List α :=
  match l.findIdx? fun x => key x == k with
  | some i => l.modify i f
  | none => l

variable (key) in
/-- Rewrite the first element with key `k`, or a fresh one that is appended while there are fewer than
`cap` elements. -/
def upsert (cap : Nat) (l : List α) (k : κ) (fresh : α) (f : α → α) : List α :=
  match l.findIdx? fun x => key x == k with
  | some i => l.modify i f
  | none => if cap ≤ l.length then l else l ++ [f fresh]

theorem findIdx?_take_of_lt {n : Nat} (h : (l.findIdx? fun x => key x == k) = some i) (hi : i < n) :
    ((l.take n).findIdx? fun x => key x == k) = some i := by
  simp [List.findIdx?_take, h, hi]

theorem findIdx?_take_of_le {n : Nat} (h : (l.findIdx? fun x => key x == k) = some i) (hi : n ≤ i) :
    ((l.take n).findIdx? fun x => key x == k) = none := by
  simp [List.findIdx?_take, h, hi]

theorem take_modify_of_le {n : Nat} {f : α → α} (hi : n ≤ i) : (l.modify i f).take n = l.take n := by
  rw [List.take_modify, List.modify_eq_self]
  exact Nat.le_trans (List.length_take_le n l) hi

theorem take_modifyKey (n : Nat) (l : List α) (k : κ) (f : α → α) :
    (modifyKey key l k f).take n = modifyKey key (l.take n) k f := by
  unfold modifyKey
  cases h : l.findIdx? fun x => key x == k with
  | none => simp [List.findIdx?_take, h]
  | some i =>
      by_cases hi : i < n
      · rw [findIdx?_take_of_lt h hi]
        exact List.take_modify f i n l
      · rw [findIdx?_take_of_le h (Nat.le_of_not_lt hi)]
        exact take_modify_of_le (Nat.le_of_not_lt hi)

theorem take_upsert {n cap : Nat} (hn : n ≤ cap) (l : List α) (k : κ) (fresh : α) (f : α → α) :
    (upsert key cap l k fresh f).take n = upsert key n (l.take n) k fresh f := by
  unfold upsert
  cases h : l.findIdx? fun x => key x == k with
  | none =>
      have htake : ((l.take n).findIdx? fun x => key x == k) = none := by
        simp [List.findIdx?_take, h]
      rw [htake]
      by_cases hfull : n ≤ l.length
      · have hwindow : n ≤ (l.take n).length := by simp [hfull]
        simp only [if_pos hwindow]
        split
        · rfl
        · exact List.take_append_of_le_length hfull
      · have hshort : l.take n = l := List.take_of_length_le (by omega)
        have hroom : ¬cap ≤ l.length := by omega
        simp only [hshort, if_neg hfull, if_neg hroom]
        exact List.take_of_length_le (by simp; omega)
  | some i =>
      by_cases hi : i < n
      · rw [findIdx?_take_of_lt h hi]
        exact List.take_modify f i n l
      · have hlen : i < l.length := (List.findIdx?_eq_some_iff_getElem.mp h).1
        have hwindow : n ≤ (l.take n).length := by rw [List.length_take]; omega
        rw [findIdx?_take_of_le h (Nat.le_of_not_lt hi)]
        simp only [if_pos hwindow]
        exact take_modify_of_le (Nat.le_of_not_lt hi)

/-! ### Two lists, element by element

Lists whose elements are related one by one, by a relation that keeps keys, are searched and written
alike. -/

section
variable {R : α → α → Prop} {l' : List α} {f g : α → α}

theorem map_eq_of_forall₂ {β : Type} {f g : α → β} (hfg : ∀ x y, R x y → f x = g y)
    (h : List.Forall₂ R l l') : l.map f = l'.map g := by
  induction h with
  | nil => rfl
  | cons hxy hrest ih => rw [List.map_cons, List.map_cons, hfg _ _ hxy, ih]

theorem filterMap_eq_of_forall₂ {β : Type} {f g : α → Option β} (hfg : ∀ x y, R x y → f x = g y)
    (h : List.Forall₂ R l l') : l.filterMap f = l'.filterMap g := by
  induction h with
  | nil => rfl
  | cons hxy hrest ih => rw [List.filterMap_cons, List.filterMap_cons, hfg _ _ hxy, ih]

theorem findIdx?_eq_of_forall₂ (hR : ∀ x y, R x y → key x = key y) (h : List.Forall₂ R l l') (k : κ) :
    (l.findIdx? fun x => key x == k) = l'.findIdx? fun x => key x == k := by
  induction h with
  | nil => rfl
  | cons hxy hrest ih => rw [List.findIdx?_cons, List.findIdx?_cons, hR _ _ hxy, ih]

theorem rel_lookup (hR : ∀ x y, R x y → key x = key y) (h : List.Forall₂ R l l') (k : κ) :
    Option.Rel R (lookup key l k) (lookup key l' k) := by
  induction h with
  | nil => exact .none
  | cons hxy hrest ih =>
      rw [lookup_cons, lookup_cons, hR _ _ hxy]
      split
      · exact .some hxy
      · exact ih

theorem forall₂_modify (hfg : ∀ x y, R x y → R (f x) (g y)) (h : List.Forall₂ R l l') (i : Nat) :
    List.Forall₂ R (l.modify i f) (l'.modify i g) := by
  induction h generalizing i with
  | nil => cases i <;> exact .nil
  | cons hxy hrest ih =>
      cases i with
      | zero => exact .cons (hfg _ _ hxy) hrest
      | succ i => exact .cons hxy (ih i)

theorem forall₂_modifyKey (hR : ∀ x y, R x y → key x = key y) (hfg : ∀ x y, R x y → R (f x) (g y))
    (h : List.Forall₂ R l l') (k : κ) :
    List.Forall₂ R (modifyKey key l k f) (modifyKey key l' k g) := by
  rw [modifyKey, modifyKey, findIdx?_eq_of_forall₂ hR h]
  split
  · exact forall₂_modify hfg h _
  · exact h

theorem forall₂_upsert (hR : ∀ x y, R x y → key x = key y) (hfg : ∀ x y, R x y → R (f x) (g y))
    {fresh : α} (hfresh : R (f fresh) (g fresh)) (h : List.Forall₂ R l l') (cap : Nat) (k : κ) :
    List.Forall₂ R (upsert key cap l k fresh f) (upsert key cap l' k fresh g) := by
  rw [upsert, upsert, findIdx?_eq_of_forall₂ hR h, h.length_eq]
  split
  · exact forall₂_modify hfg h _
  · split
    · exact h
    · exact List.rel_append h (.cons hfresh .nil)

end

end Base
