import Mathlib.Data.List.Basic

namespace Lucida.Lib
variable {S E : Type*}

-- Finite executions of a labelled step relation, newest step last.
inductive Runs (step : S → E → S → Prop) : S → List E → S → Prop where
  | nil : Runs step s [] s
  | snoc : Runs step s events middle → step middle event after → Runs step s (events ++ [event]) after

variable {step : S → E → S → Prop}

theorem Runs.one (taken : step s event after) : Runs step s [event] after := .snoc .nil taken

theorem Runs.append (left : Runs step s events middle) (right : Runs step middle later after) :
    Runs step s (events ++ later) after := by
  induction right with
  | nil => simpa using left
  | snoc _ taken ih => simpa only [List.append_assoc] using Runs.snoc ih taken

theorem Runs.cons (taken : step s event middle) (rest : Runs step middle events after) :
    Runs step s (event::events) after := (Runs.one taken).append rest

theorem Runs.preserves {P : S → Prop} (kept : ∀ s event t, P s → step s event t → P t)
    (start : P s) (path : Runs step s events t) : P t := by
  induction path with
  | nil => exact start
  | snoc _ taken ih => exact kept _ _ _ ih taken

theorem Runs.mono {other : S → E → S → Prop} (weaker : ∀ s event t, step s event t → other s event t)
    (path : Runs step s events t) : Runs other s events t := by
  induction path with
  | nil => exact .nil
  | snoc _ taken ih => exact .snoc ih (weaker _ _ _ taken)

theorem Runs.split (path : Runs step s (before ++ event::later) t) :
    ∃ middle after, Runs step s before middle ∧ step middle event after ∧ Runs step after later t := by
  generalize whole : before ++ event::later = events at path
  induction path generalizing later with
  | nil => exact absurd whole (by simp)
  | snoc prior taken ih =>
    rcases List.eq_nil_or_concat later with rfl | ⟨rest,last,rfl⟩
    · obtain ⟨rfl,same⟩ := List.append_inj' whole rfl
      cases same
      exact ⟨_,_,prior,taken,.nil⟩
    · rw [List.concat_eq_append,← List.cons_append,← List.append_assoc] at whole
      obtain ⟨rfl,same⟩ := List.append_inj' whole rfl
      cases same
      obtain ⟨middle,after,first,step,further⟩ := ih rfl
      refine ⟨middle,after,first,step,?_⟩
      rw [List.concat_eq_append]
      exact .snoc further taken

theorem some_getD {A : Type*} {value : Option A} (there : value.isSome = true) (default : A) : value = some (value.getD default) := by
  cases value with
  | none => cases there
  | some _ => rfl

-- Running a step function along given events, to exhibit a run by evaluation.
def drive (next : S → E → Option S) (s : S) (events : List E) : Option S :=
  events.foldlM next s

theorem drive_runs {next : S → E → Option S} (taken : ∀ s event t, next s event = some t → step s event t)
    (reached : drive next s events = some t) : Runs step s events t := by
  induction events generalizing s with
  | nil =>
    cases reached
    exact .nil
  | cons event events ih =>
    obtain ⟨middle,first,rest⟩ := Option.bind_eq_some_iff.mp (reached : (next s event).bind _ = some t)
    exact .cons (taken s event middle first) (ih rest)

def guarded (admitted : S → E → Prop) [∀ s event, Decidable (admitted s event)] (next : S → E → Option S) (s : S)
    (event : E) : Option S :=
  if admitted s event then next s event else none

theorem drive_guarded {next : S → E → Option S} {admitted : S → E → Prop} [∀ s event, Decidable (admitted s event)]
    (reached : drive (guarded admitted next) s events = some t) :
    Runs (fun s event t => next s event = some t ∧ admitted s event) s events t := by
  refine drive_runs (fun s event t taken => ?_) reached
  unfold guarded at taken
  split at taken
  · exact ⟨taken,‹_›⟩
  · cases taken

end Lucida.Lib
