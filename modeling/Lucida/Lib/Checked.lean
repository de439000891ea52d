import Mathlib.Algebra.Group.Nat.Defs
import Mathlib.Data.List.Basic

namespace Lucida.Lib
variable {ε α β : Type}

-- How a computation ends that has no value: in a panic, or with an error of its own.
inductive Stop (ε : Type) where
  | panic
  | error (cause : ε)
  deriving DecidableEq, Repr

-- Arithmetic on 64-bit words that panics where the result is not one.
namespace Checked

def add (a b : Nat) : Except (Stop ε) Nat := if a+b < 2^64 then .ok (a+b) else .error .panic

def sub (a b : Nat) : Except (Stop ε) Nat := if b ≤ a then .ok (a-b) else .error .panic

def mul (a b : Nat) : Except (Stop ε) Nat := if a*b < 2^64 then .ok (a*b) else .error .panic

variable {a b : Nat}

theorem add_ok (fits : a+b < 2^64) : add (ε := ε) a b = .ok (a+b) := if_pos fits

theorem sub_ok (fits : b ≤ a) : sub (ε := ε) a b = .ok (a-b) := if_pos fits

theorem mul_ok (fits : a*b < 2^64) : mul (ε := ε) a b = .ok (a*b) := if_pos fits

theorem add_fits (added : add (ε := ε) a b = .ok c) : a+b < 2^64 := by
  unfold add at added
  split at added
  · assumption
  · cases added

theorem mul_eq (multiplied : mul (ε := ε) a b = .ok c) : c = a*b := by
  unfold mul at multiplied
  split at multiplied
  · cases multiplied
    rfl
  · cases multiplied

end Checked

section
variable {f : β → α → Except ε β} {items : List α} {P : List α → β → Prop}

theorem bind_ok {x : Except ε α} {g : α → Except ε β} (done : x >>= g = .ok b) : ∃ a, x = .ok a ∧ g a = .ok b := by
  cases x with
  | error cause => cases done
  | ok a => exact ⟨a,rfl,done⟩

theorem ok_bind {x : Except ε α} {g : α → Except ε β} (first : x = .ok a) (rest : g a = .ok b) : x >>= g = .ok b := by
  subst first
  exact rest

theorem ok_then (a : α) (g : α → Except ε β) : Except.ok a >>= g = g a := rfl

theorem error_then (cause : ε) (g : α → Except ε β) : Except.error cause >>= g = .error cause := rfl

theorem mapError_ok {x : Except ε α} {g : ε → δ} (passed : x.mapError g = .ok a) : x = .ok a := by
  cases x with
  | error cause => cases passed
  | ok value =>
    cases passed
    rfl

-- A loop whose every turn succeeds succeeds, and what every turn keeps holds at its end, of
-- all the items.
theorem foldlM_reaches (turns : ∀ done item before, item ∈ items → P done before →
      ∃ after, f before item = .ok after ∧ P (done++[item]) after) (start : P [] b) :
    ∃ t, items.foldlM f b = .ok t ∧ P items t := by
  suffices through : ∀ done rest before, (∀ item ∈ rest, item ∈ items) → P done before →
      ∃ t, rest.foldlM f before = .ok t ∧ P (done++rest) t from through [] items b (fun _ member => member) start
  intro done rest
  induction rest generalizing done with
  | nil =>
    intro before _ holds
    exact ⟨before,rfl,by rwa [List.append_nil]⟩
  | cons item rest ih =>
    intro before members holds
    obtain ⟨middle,first,holds'⟩ := turns done item before (members item List.mem_cons_self) holds
    obtain ⟨t,ran,last⟩ := ih (done++[item]) middle (fun other member => members other (List.mem_cons_of_mem _ member)) holds'
    refine ⟨t,?_,by rwa [List.append_cons]⟩
    rw [List.foldlM_cons]
    exact ok_bind first ran

theorem foldlM_keeps (kept : ∀ done item before after, item ∈ items → P done before → f before item = .ok after →
      P (done++[item]) after) (start : P [] b) (ran : items.foldlM f b = .ok t) : P items t := by
  suffices through : ∀ done rest before, (∀ item ∈ rest, item ∈ items) → P done before → rest.foldlM f before = .ok t →
      P (done++rest) t from through [] items b (fun _ member => member) start ran
  intro done rest
  induction rest generalizing done with
  | nil =>
    intro before _ holds ran
    cases ran
    rwa [List.append_nil]
  | cons item rest ih =>
    intro before members holds ran
    rw [List.foldlM_cons] at ran
    obtain ⟨middle,first,ran⟩ := bind_ok ran
    have holds' := kept done item before middle (members item List.mem_cons_self) holds first
    rw [List.append_cons]
    exact ih (done++[item]) middle (fun other member => members other (List.mem_cons_of_mem _ member)) holds' ran

theorem foldlM_fails (member : item ∈ items) (fails : ∀ before after, f before item ≠ .ok after) :
    items.foldlM f b ≠ .ok t := by
  induction items generalizing b with
  | nil => cases member
  | cons first items ih =>
    intro ran
    rw [List.foldlM_cons] at ran
    obtain ⟨middle,turn,ran⟩ := bind_ok ran
    rcases List.mem_cons.mp member with same | later
    · subst same
      exact fails b middle turn
    · exact ih later ran

end

end Lucida.Lib
