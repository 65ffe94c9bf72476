import Mathlib.Algebra.Group.Nat.Defs
import Mathlib.Data.List.Basic
import Mathlib.Data.List.Infix

/-!
# Runs of a step function

A run is a list of events, and the state it reaches is the fold of the step function over it. What
holds of a run is always said the same way: at every step, that is for every split of the run into
the events before, one event and the events after, some relation holds between the events before and
the one event. A relation of this kind may look at the state the earlier events lead to and at the
earlier events themselves, so a property of the history needs no ghost field in the state.

`Throughout.induction` is the rule every invariant of the development goes through: what holds of the
empty run and survives one more event that meets a condition holds of every run whose events all meet
it. `Throughout.of_invariant` turns such an invariant into a property of every step.
-/

namespace Base

variable {S E : Type} (step : S → E → S)

/-- The state a list of events leads to. -/
def run (s : S) (es : List E) : S := es.foldl step s

@[simp] theorem run_nil (s : S) : run step s [] = s := rfl

@[simp] theorem run_cons (s : S) (e : E) (es : List E) :
    run step s (e :: es) = run step (step s e) es := rfl

@[simp] theorem run_append (s : S) (es fs : List E) :
    run step s (es ++ fs) = run step (run step s es) fs := by
  simp [run]

/-- At every step of the run, the events before it and the event itself are related. -/
def Throughout (C : List E → E → Prop) (es : List E) : Prop :=
  ∀ pre e post, es = pre ++ e :: post → C pre e

variable {C D : List E → E → Prop} {es : List E}

theorem throughout_nil : Throughout C [] := by
  intro pre e post h
  simp at h

theorem throughout_cons {e : E} :
    Throughout C (e :: es) ↔ C [] e ∧ Throughout (fun pre => C (e :: pre)) es := by
  constructor
  · intro h
    refine ⟨h [] e es rfl, fun pre x post hsplit => ?_⟩
    exact h (e :: pre) x post (by rw [hsplit, List.cons_append])
  · rintro ⟨he, hes⟩ pre x post hsplit
    cases pre with
    | nil =>
        obtain ⟨rfl, rfl⟩ := List.cons.inj hsplit
        exact he
    | cons y pre =>
        obtain ⟨rfl, rfl⟩ := List.cons.inj hsplit
        exact hes pre x post rfl

theorem throughout_snoc {e : E} : Throughout C (es ++ [e]) ↔ Throughout C es ∧ C es e := by
  constructor
  · intro h
    refine ⟨fun pre x post hsplit => ?_, h es e [] rfl⟩
    exact h pre x (post ++ [e]) (by rw [hsplit]; simp)
  · rintro ⟨hes, he⟩ pre x post hsplit
    rcases List.eq_nil_or_concat post with rfl | ⟨post, y, rfl⟩
    · obtain ⟨rfl, hx⟩ := List.append_inj' hsplit rfl
      exact List.singleton_inj.mp hx ▸ he
    · have hsplit' : es ++ [e] = (pre ++ x :: post) ++ [y] := by simpa using hsplit
      exact hes pre x post (List.append_inj' hsplit' rfl).1

/-- `Throughout` for the rest of a run whose first events are `pre`, read from the front. -/
def ThroughoutFrom (C : List E → E → Prop) : List E → List E → Prop
  | _, [] => True
  | pre, e :: es => C pre e ∧ ThroughoutFrom C (pre ++ [e]) es

instance decidableThroughoutFrom (C : List E → E → Prop) [∀ pre e, Decidable (C pre e)] :
    ∀ pre es, Decidable (ThroughoutFrom C pre es)
  | _, [] => inferInstanceAs (Decidable True)
  | pre, e :: es =>
      have := decidableThroughoutFrom C (pre ++ [e]) es
      inferInstanceAs (Decidable (_ ∧ _))

theorem throughoutFrom_iff (pre : List E) :
    ThroughoutFrom C pre es ↔ Throughout (fun fs e => C (pre ++ fs) e) es := by
  induction es generalizing pre with
  | nil => exact ⟨fun _ => throughout_nil, fun _ => trivial⟩
  | cons e es ih =>
      rw [ThroughoutFrom, throughout_cons, ih, List.append_nil]
      simp only [List.append_assoc, List.singleton_append]

/-- Along a given run, a decidable condition can be checked. -/
instance [∀ pre e, Decidable (C pre e)] : Decidable (Throughout C es) :=
  decidable_of_iff (ThroughoutFrom C [] es) (throughoutFrom_iff [])

/-- A condition that holds along a run holds along every earlier part of it. -/
theorem Throughout.of_initial {fs : List E} (h : Throughout C es) (hfs : fs <+: es) :
    Throughout C fs := by
  obtain ⟨rest, rfl⟩ := hfs
  intro pre e post hsplit
  exact h pre e (post ++ rest) (by rw [hsplit]; simp)

theorem Throughout.mono (h : Throughout C es) (hCD : ∀ pre e, C pre e → D pre e) :
    Throughout D es :=
  fun pre e post hsplit => hCD pre e (h pre e post hsplit)

theorem Throughout.and (hC : Throughout C es) (hD : Throughout D es) :
    Throughout (fun pre e => C pre e ∧ D pre e) es :=
  fun pre e post hsplit => ⟨hC pre e post hsplit, hD pre e post hsplit⟩

theorem throughout_congr (hCD : ∀ pre e, C pre e ↔ D pre e) :
    Throughout C es ↔ Throughout D es :=
  ⟨fun h => h.mono fun pre e => (hCD pre e).mp, fun h => h.mono fun pre e => (hCD pre e).mpr⟩

/-- What holds of the empty run and survives every event that meets `C` holds of every run whose
events all meet `C`. -/
theorem Throughout.induction {I : List E → Prop} (hnil : I [])
    (hstep : ∀ pre e, I pre → C pre e → I (pre ++ [e])) (h : Throughout C es) : I es := by
  induction es using List.reverseRecOn with
  | nil => exact hnil
  | append_singleton es e ih =>
      obtain ⟨hes, he⟩ := throughout_snoc.mp h
      exact hstep es e (ih hes) he

/-- A property of single steps that follows from an invariant holds at every step. -/
theorem Throughout.of_invariant {I : List E → Prop} (hnil : I [])
    (hstep : ∀ pre e, I pre → C pre e → I (pre ++ [e]))
    (hprop : ∀ pre e, I pre → C pre e → D pre e) (h : Throughout C es) : Throughout D es := by
  intro pre e post hsplit
  have hpre : Throughout C pre := h.of_initial ⟨e :: post, hsplit.symm⟩
  exact hprop pre e (hpre.induction hnil hstep) (h pre e post hsplit)

/-! ### Two runs

The events that a view of the state does not see can be dropped from a run: if a hidden event leaves
the view as it is and every other event keeps two states with one view together, then the run without
its hidden events ends with the same view. -/

/-- The events of a run from `s` that are not hidden in the state they happen in. -/
def purge (hidden : S → E → Bool) : S → List E → List E
  | _, [] => []
  | s, e :: es =>
      if hidden s e then purge hidden (step s e) es else e :: purge hidden (step s e) es

theorem run_purge {hidden : S → E → Bool} {R : S → S → Prop} {allowed : E → Prop}
    (hhidden : ∀ s t e, allowed e → R s t → hidden s e = true → R (step s e) t)
    (hseen : ∀ s t e, allowed e → R s t → R (step s e) (step t e))
    (hes : ∀ e ∈ es, allowed e) {s t : S} (h : R s t) :
    R (run step s es) (run step t (purge step hidden s es)) := by
  induction es generalizing s t with
  | nil => exact h
  | cons e es ih =>
      have he := hes e List.mem_cons_self
      have hrest := fun x hx => hes x (List.mem_cons_of_mem e hx)
      rw [run_cons, purge]
      split
      · rename_i hhid
        exact ih hrest (hhidden s t e he h hhid)
      · rw [run_cons]
        exact ih hrest (hseen s t e he h)

end Base
