import L2Oracle.Base.Run

/-!
# One step function seen through another

A detailed system and a plainer one run side by side. `abs` is what the plain system sees of a state of
the detailed one, and `event` says which of its events a detailed step amounts to, if any: the other
steps it does not see. An invariant of the detailed system may be used, and `allowed` says which events
of the plain system are possible in a state of it.

`Simulation` is what has to be shown of one step. From it follows what holds of runs: a run of the
detailed system is seen as a run of the plain one, the one over its `trace`, and every event of the
trace is allowed where it happens. So what is proved of all runs of the plain system whose events are
allowed holds of what is seen of the detailed one. A log that the state keeps of some of its events is
seen in the same way.
-/

namespace Base

variable {S E A X : Type}

structure Simulation (step : S → E → S) (astep : A → X → A) (abs : S → A) (event : S → E → Option X)
    (invariant : S → Prop) (allowed : A → X → Prop) : Prop where
  keeps : ∀ s e, invariant s → invariant (step s e)
  sees : ∀ s e, invariant s → abs (step s e) = (event s e).elim (abs s) (astep (abs s))
  allows : ∀ s e, invariant s → ∀ x ∈ event s e, allowed (abs s) x

/-- The events that the plain system sees of a run from `s`. -/
def trace (step : S → E → S) (event : S → E → Option X) : S → List E → List X
  | _, [] => []
  | s, e :: es => (event s e).toList ++ trace step event (step s e) es

section
variable (step : S → E → S) (event : S → E → Option X)

theorem trace_append (s : S) (es fs : List E) :
    trace step event s (es ++ fs)
      = trace step event s es ++ trace step event (run step s es) fs := by
  induction es generalizing s with
  | nil => rfl
  | cons e es ih => rw [List.cons_append, trace, trace, ih, List.append_assoc, run_cons]

theorem trace_snoc (s : S) (es : List E) (e : E) :
    trace step event s (es ++ [e])
      = trace step event s es ++ (event (run step s es) e).toList := by
  rw [trace_append, trace, trace, List.append_nil]

/-- The last event that the plain system sees of a run from `s`. -/
def latest (s : S) (es : List E) : Option X := (trace step event s es).getLast?

theorem latest_snoc (s : S) (es : List E) (e : E) :
    latest step event s (es ++ [e]) = (event (run step s es) e).or (latest step event s es) := by
  rw [latest, trace_snoc]
  cases event (run step s es) e <;> simp [latest]

theorem trace_prefix (s : S) {es fs : List E} (h : es <+: fs) :
    trace step event s es <+: trace step event s fs := by
  obtain ⟨rest, rfl⟩ := h
  rw [trace_append]
  exact List.prefix_append _ _

/-- What a log in the state gains at every step it has gained at the end. -/
theorem log_run {f : S → List X} (hlog : ∀ s e, f (step s e) = f s ++ (event s e).toList) (s : S)
    (es : List E) : f (run step s es) = f s ++ trace step event s es := by
  induction es generalizing s with
  | nil => rw [run_nil, trace, List.append_nil]
  | cons e es ih => rw [run_cons, ih, hlog, trace, List.append_assoc]

theorem filterMap_trace {Y : Type} (f : X → Option Y) (s : S) (es : List E) :
    (trace step event s es).filterMap f = trace step (fun s e => (event s e).bind f) s es := by
  induction es generalizing s with
  | nil => rfl
  | cons e es ih =>
      rw [trace, trace, List.filterMap_append, ih]
      congr 1
      cases event s e with
      | none => rfl
      | some x => cases h : f x <;> simp [h]

end

variable {step : S → E → S} {astep : A → X → A} {abs : S → A} {event : S → E → Option X}
  {invariant : S → Prop} {allowed : A → X → Prop}

namespace Simulation

variable (h : Simulation step astep abs event invariant allowed) {s : S} (hs : invariant s)
include h hs

theorem keeps_run (es : List E) : invariant (run step s es) := by
  induction es generalizing s with
  | nil => exact hs
  | cons e es ih => exact ih (h.keeps s e hs)

/-- A run of the detailed system is seen as the run over its trace. -/
theorem sees_run (es : List E) :
    abs (run step s es) = run astep (abs s) (trace step event s es) := by
  induction es generalizing s with
  | nil => rfl
  | cons e es ih =>
      rw [run_cons, ih (h.keeps s e hs), h.sees s e hs, trace]
      cases event s e <;> rfl

/-- Every event of the trace is allowed in the state that the events before it lead to. -/
theorem allows_run (es : List E) :
    Throughout (fun pre x => allowed (run astep (abs s) pre) x) (trace step event s es) := by
  induction es using List.reverseRecOn with
  | nil => exact throughout_nil
  | append_singleton es e ih =>
      rw [trace_snoc]
      cases hevent : event (run step s es) e with
      | none => rwa [Option.toList_none, List.append_nil]
      | some x =>
          refine throughout_snoc.mpr ⟨ih, ?_⟩
          rw [← h.sees_run hs es]
          exact h.allows _ e (h.keeps_run hs es) x hevent

end Simulation

end Base
