import Mathlib.Data.List.Basic
import Mathlib.Data.List.Induction

/-! # Runs of a machine with inputs and replies

A machine is an initial state and a step function; everything the environment
chooses (arguments, clock readings, answers of collaborators) is part of the
input, so a run is a list of inputs. The induction rules are stated once:
an invariant of every step holds at every position, a transitive relation
between the ends of every step relates any earlier position to any later one,
and a predicate on the past is built up step by step.
-/

namespace AiopsSystem

open List

structure Machine (S I O : Type) where
  init : S
  step : S → I → O × S

namespace Machine

variable {S I O : Type} (M : Machine S I O)

def runFrom (start : S) (inputs : List I) : S :=
  inputs.foldl (fun state input => (M.step state input).2) start

def run (inputs : List I) : S := M.runFrom M.init inputs

/-- The state before the input at this position, or the last state past the end. -/
def stateAt (inputs : List I) (n : Nat) : S := M.run (inputs.take n)

def traceFrom (start : S) : List I → List (S × I × O)
  | [] => []
  | input :: rest => (start, input, (M.step start input).1) :: traceFrom (M.step start input).2 rest

def trace (inputs : List I) : List (S × I × O) := M.traceFrom M.init inputs

def Along (condition : S → I → Prop) (inputs : List I) : Prop :=
  ∀ n input, inputs[n]? = some input → condition (M.stateAt inputs n) input

theorem runFrom_append (start : S) (xs ys : List I) :
    M.runFrom start (xs ++ ys) = M.runFrom (M.runFrom start xs) ys := by
  simp [runFrom]

theorem run_concat (inputs : List I) (input : I) : M.run (inputs ++ [input]) = (M.step (M.run inputs) input).2 := by
  rw [run, runFrom_append]
  rfl

theorem traceFrom_append (start : S) (xs ys : List I) :
    M.traceFrom start (xs ++ ys) = M.traceFrom start xs ++ M.traceFrom (M.runFrom start xs) ys := by
  induction xs generalizing start with
  | nil => rfl
  | cons _ _ ih =>
    simp only [cons_append, traceFrom, ih]
    rfl

theorem trace_concat (inputs : List I) (input : I) :
    M.trace (inputs ++ [input]) =
      M.trace inputs ++ [(M.run inputs, input, (M.step (M.run inputs) input).1)] := by
  rw [trace, traceFrom_append]
  rfl

variable {inputs : List I} {n : Nat} {input : I}

theorem take_succ_of_getElem? (h : inputs[n]? = some input) : inputs.take (n + 1) = inputs.take n ++ [input] := by
  rw [take_add_one, h]
  rfl

theorem stateAt_succ (h : inputs[n]? = some input) :
    M.stateAt inputs (n + 1) = (M.step (M.stateAt inputs n) input).2 := by
  rw [stateAt, take_succ_of_getElem? h, run_concat]
  rfl

theorem stateAt_succ_of_none (h : inputs[n]? = none) : M.stateAt inputs (n + 1) = M.stateAt inputs n := by
  have hLength := getElem?_eq_none_iff.mp h
  rw [stateAt, stateAt, take_of_length_le hLength, take_of_length_le (by omega)]

theorem stateAt_length (inputs : List I) : M.stateAt inputs inputs.length = M.run inputs := by
  rw [stateAt, take_length]

theorem stateAt_append (first second : List I) : M.stateAt (first ++ second) first.length = M.run first := by
  rw [stateAt, take_left]

theorem along_true (inputs : List I) : M.Along (fun _ _ => True) inputs := fun _ _ _ => trivial

variable {condition : S → I → Prop}

theorem stateAt_from {P : S → Prop} {m : Nat} (hStart : P (M.stateAt inputs m))
    (hStep : ∀ n input, m ≤ n → inputs[n]? = some input → P (M.stateAt inputs n) →
      P (M.step (M.stateAt inputs n) input).2) (hmn : m ≤ n) : P (M.stateAt inputs n) := by
  induction hmn with
  | refl => exact hStart
  | @step n hmn ih =>
    cases h : inputs[n]? with
    | none =>
      rw [M.stateAt_succ_of_none h]
      exact ih
    | some input =>
      rw [M.stateAt_succ h]
      exact hStep n input hmn h ih

theorem stateAt_of_along {P : S → Prop} (hInit : P M.init)
    (hStep : ∀ state input, condition state input → P state → P (M.step state input).2)
    (hAlong : M.Along condition inputs) (n : Nat) : P (M.stateAt inputs n) := by
  have hStart : P (M.stateAt inputs 0) := hInit
  exact M.stateAt_from hStart (fun n input _ hInput h => hStep _ _ (hAlong n input hInput) h) (Nat.zero_le n)

theorem stateAt_invariant {P : S → Prop} (hInit : P M.init)
    (hStep : ∀ state input, P state → P (M.step state input).2) (inputs : List I) (n : Nat) :
    P (M.stateAt inputs n) :=
  M.stateAt_of_along hInit (fun state input _ => hStep state input) (M.along_true inputs) n

theorem run_invariant {P : S → Prop} (hInit : P M.init)
    (hStep : ∀ state input, P state → P (M.step state input).2) (inputs : List I) : P (M.run inputs) := by
  rw [← M.stateAt_length]
  exact M.stateAt_invariant hInit hStep inputs _

theorem stateAt_related {P : S → Prop} {R : S → S → Prop} (hP : ∀ inputs n, P (M.stateAt inputs n))
    (hRefl : ∀ state, R state state) (hTrans : ∀ first second third, R first second → R second third → R first third)
    (hStep : ∀ state input, P state → R state (M.step state input).2) (inputs : List I) {m : Nat} (hmn : m ≤ n) :
    R (M.stateAt inputs m) (M.stateAt inputs n) := by
  induction hmn with
  | refl => exact hRefl _
  | @step n _ ih =>
    cases h : inputs[n]? with
    | none =>
      rw [M.stateAt_succ_of_none h]
      exact ih
    | some =>
      rw [M.stateAt_succ h]
      exact hTrans _ _ _ ih (hStep _ _ (hP inputs n))

theorem trace_invariant {P : List (S × I × O) → S → Prop} (hInit : P [] M.init)
    (hStep : ∀ past state input, condition state input → P past state →
      P (past ++ [(state, input, (M.step state input).1)]) (M.step state input).2)
    (hAlong : M.Along condition inputs) (n : Nat) : P (M.trace (inputs.take n)) (M.stateAt inputs n) := by
  induction n with
  | zero => exact hInit
  | succ n ih =>
    cases h : inputs[n]? with
    | none =>
      have hLength := getElem?_eq_none_iff.mp h
      rw [M.stateAt_succ_of_none h, take_of_length_le (by omega : inputs.length ≤ n + 1)]
      rwa [take_of_length_le hLength] at ih
    | some input =>
      rw [M.stateAt_succ h, take_succ_of_getElem? h, trace_concat]
      exact hStep _ _ _ (hAlong n input h) ih

end Machine

end AiopsSystem
