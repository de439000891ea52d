import Mathlib.Data.List.Induction

namespace Lucida.Lib
variable {C D : Type*}

-- A replica that applied `own` before it was ordered, and then sees `other`,
-- which was ordered first: `other` commutes with each of `own` where that one
-- was applied.
def Undisturbed (apply : D → C → D) (base : D) (own : List C) (other : C) : Prop :=
  ∀ before mine after, own = before ++ mine::after →
    apply (apply (before.foldl apply base) mine) other = apply (apply (before.foldl apply base) other) mine

variable {apply : D → C → D}

theorem Undisturbed.nil (base : D) (other : C) : Undisturbed apply base [] other := by
  intro before mine after split
  cases before <;> cases split

theorem Undisturbed.initial (calm : Undisturbed apply base (own ++ later) other) : Undisturbed apply base own other := by
  intro before mine after split
  apply calm before mine (after ++ later)
  rw [split,List.append_assoc,List.cons_append]

theorem Undisturbed.single (commute : apply (apply base mine) other = apply (apply base other) mine) :
    Undisturbed apply base [mine] other := by
  intro before command after split
  cases before with
  | nil =>
    cases split
    exact commute
  | cons first rest => simp at split

-- Induction on the newest of the own commands.
theorem Undisturbed.late_is_early (calm : Undisturbed apply base own other) :
    apply (own.foldl apply base) other = own.foldl apply (apply base other) := by
  induction own using List.reverseRecOn with
  | nil => rfl
  | append_singleton own newest ih =>
    rw [List.foldl_append,List.foldl_append,← ih calm.initial]
    exact calm own newest [] rfl

-- One replica's view of the order: the document after each command, its own
-- commands not covered by then, and what it is told of each command, nothing
-- for one of its own.
structure Timeline (C D : Type*) where
  document : Nat → D
  own : Nat → List C
  message : Nat → Option C

def Timeline.Lawful (apply : D → C → D) (timeline : Timeline C D) (first top : Nat) : Prop :=
  ∀ n, first ≤ n → n < top →
    (timeline.message (n+1) = none ∧ ∃ mine, timeline.own n = mine::timeline.own (n+1) ∧
      timeline.document (n+1) = apply (timeline.document n) mine) ∨
    ∃ other, timeline.message (n+1) = some other ∧ timeline.own (n+1) = timeline.own n ∧
      timeline.document (n+1) = apply (timeline.document n) other

def Timeline.Calm (apply : D → C → D) (timeline : Timeline C D) (first top : Nat) : Prop :=
  ∀ n, first ≤ n → n < top → ∀ other, timeline.message (n+1) = some other →
    Undisturbed apply (timeline.document n) (timeline.own n) other

-- What a replica shows after command `n`: the common document with its own
-- uncovered commands over it.
def Timeline.shows (apply : D → C → D) (timeline : Timeline C D) (n : Nat) : D :=
  (timeline.own n).foldl apply (timeline.document n)

theorem Timeline.shows_next {timeline : Timeline C D} (lawful : timeline.Lawful apply first top)
    (calm : timeline.Calm apply first top) (reached : first ≤ n) (more : n < top) :
    timeline.shows apply (n+1) = (timeline.message (n+1)).elim (timeline.shows apply n) (apply (timeline.shows apply n)) := by
  rcases lawful n reached more with ⟨told,mine,own,document⟩ | ⟨other,told,own,document⟩
  · rw [told,Option.elim_none,shows,shows,own,document,List.foldl_cons]
  · rw [told,Option.elim_some,shows,shows,own,document]
    exact (calm n reached more other told).late_is_early.symm

end Lucida.Lib
