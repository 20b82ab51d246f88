import Mathlib.Data.List.Basic

/-!
# Runs and their histories

A run of a labelled step relation, together with its history: the labels of the
steps taken, newest first, each with the state it was taken in. What holds of
every state a run can reach is proved once, by `Run.invariant`; what holds of
every step a run took, by `Run.step_of_mem`.
-/

set_option autoImplicit false

namespace Solana

variable {ω ι : Type}

/-- The runs of `step` from a state satisfying `start`, by history and last state. -/
inductive Run (start : ω → Prop) (step : ω → ι → ω → Prop) : List (ω × ι) → ω → Prop
  | start {w : ω} (h : start w) : Run start step [] w
  | step {past : List (ω × ι)} {w w' : ω} {label : ι} (run : Run start step past w)
      (h : step w label w') : Run start step ((w, label) :: past) w'

namespace Run

variable {start : ω → Prop} {step : ω → ι → ω → Prop} {past : List (ω × ι)} {w w' : ω} {label : ι}

/-- What holds at the start and is kept by each step holds at the end of every run. -/
theorem invariant (inv : List (ω × ι) → ω → Prop) (hstart : ∀ w, start w → inv [] w)
    (hstep : ∀ past w label w', Run start step past w → inv past w → step w label w' →
      inv ((w, label) :: past) w')
    (run : Run start step past w) : inv past w := by
  induction run with
  | start h => exact hstart _ h
  | step run h ih => exact hstep _ _ _ _ run ih h

/-- A run whose steps all are steps of another relation is a run of that relation. -/
theorem mono {step' : ω → ι → ω → Prop} (run : Run start step past w)
    (h : ∀ w label w', step w label w' → step' w label w') : Run start step' past w := by
  induction run with
  | start hstart => exact .start hstart
  | step _ hstep ih => exact .step ih (h _ _ _ hstep)

/-- Where runs may start can be widened. -/
theorem mono_start {start' : ω → Prop} (run : Run start step past w)
    (h : ∀ w, start w → start' w) : Run start' step past w := by
  induction run with
  | start hstart => exact .start (h _ hstart)
  | step _ hstep ih => exact .step ih hstep

/-- A step on record was taken, from a state the run had reached. -/
theorem step_of_mem (run : Run start step past w) (hmem : (w', label) ∈ past) :
    ∃ earlier, Run start step earlier w' ∧ ∃ w'', step w' label w'' := by
  induction run with
  | start h => simp at hmem
  | step run h ih =>
    rcases List.mem_cons.mp hmem with hlast | hearlier
    · obtain ⟨rfl, rfl⟩ := Prod.mk.inj hlast
      exact ⟨_, run, _, h⟩
    · exact ih hearlier

end Run

end Solana
