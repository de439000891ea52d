import Mathlib.Data.List.Induction
import Mathlib.Logic.Relation
import Mathlib.Order.Basic
import Mathlib.Order.Lattice
import Mathlib.Order.MinMax

-- Items with a first and a last point, swept in the order of their first points.
namespace Lucida.Lib.Sweep

section
variable {α β : Type} [LinearOrder β] (lo hi : α → β)

def Touches (a b : α) : Prop := lo a ≤ hi b ∧ lo b ≤ hi a

def Component (listed : α → Prop) (own : α) : α → Prop := Relation.ReflTransGen (fun a b => listed b ∧ Touches lo hi a b) own

def reach (stop : β) (items : List α) : β := items.foldl (fun stop item => max stop (hi item)) stop

def Chained : β → List α → Prop
  | _,[] => True
  | stop,item::rest => lo item ≤ stop ∧ Chained (max stop (hi item)) rest

structure Stretch (front : List α) (head : α) (tail : List α) : Prop where
  chained : Chained lo hi (hi head) tail
  apart : ∀ item ∈ front, hi item < lo head

end

section
variable {α β : Type} [LinearOrder β] {lo hi : α → β} {front tail back : List α} {head item own : α} {stop : β}

theorem reach_append (stop : β) (items : List α) (item : α) : reach hi stop (items ++ [item]) = max (reach hi stop items) (hi item) := by
  rw [reach,List.foldl_append]
  rfl

theorem le_reach (stop : β) (items : List α) : stop ≤ reach hi stop items := by
  induction items generalizing stop with
  | nil => exact le_refl stop
  | cons item items hypothesis => exact (le_max_left stop (hi item)).trans (hypothesis _)

theorem hi_le_reach (listed : item ∈ tail) (stop : β) : hi item ≤ reach hi stop tail := by
  induction tail generalizing stop with
  | nil => cases listed
  | cons other tail hypothesis =>
    rcases List.mem_cons.mp listed with rfl | listed
    · exact (le_max_right stop (hi item)).trans (le_reach _ tail)
    · exact hypothesis listed _

theorem chained_append : Chained lo hi stop (tail ++ [item]) ↔ Chained lo hi stop tail ∧ lo item ≤ reach hi stop tail := by
  induction tail generalizing stop with
  | nil => simp [Chained,reach]
  | cons other tail hypothesis =>
    rw [List.cons_append,Chained,Chained,hypothesis,and_assoc]
    rfl

theorem Touches.symm (touches : Touches lo hi a b) : Touches lo hi b a := ⟨touches.2,touches.1⟩

theorem exists_reach (hi : α → β) (head : α) (tail : List α) : ∃ item ∈ head::tail, reach hi (hi head) tail = hi item := by
  induction tail using List.reverseRecOn with
  | nil => exact ⟨head,List.mem_singleton.mpr rfl,rfl⟩
  | append_singleton tail last hypothesis =>
    rw [reach_append]
    rcases max_choice (reach hi (hi head) tail) (hi last) with left | right
    · obtain ⟨item,listed,same⟩ := hypothesis
      exact ⟨item,by rw [← List.cons_append]; exact List.mem_append_left _ listed,left.trans same⟩
    · exact ⟨last,by simp,right⟩

variable {listed : α → Prop}

theorem Component.stays (component : Component lo hi listed own item) (start : listed own) : listed item := by
  induction component with
  | refl => exact start
  | tail _ step _ => exact step.1

theorem Component.symm (component : Component lo hi listed own item) (start : listed own) : Component lo hi listed item own := by
  induction component with
  | refl => exact .refl
  | tail before step hypothesis =>
    exact Relation.ReflTransGen.head ⟨Component.stays before start,step.2.symm⟩ hypothesis

theorem component_of_chained (forward : ∀ item ∈ head::tail, lo item ≤ hi item)
    (sorted : (head::tail).Pairwise fun a b => lo a ≤ lo b) (all : ∀ item ∈ head::tail, listed item)
    (chained : Chained lo hi (hi head) tail) (within : item ∈ head::tail) : Component lo hi listed head item := by
  induction tail using List.reverseRecOn generalizing item with
  | nil =>
    rw [List.mem_singleton.mp within]
    exact .refl
  | append_singleton tail last hypothesis =>
    rw [← List.cons_append] at forward sorted all within
    have earlier : ∀ item ∈ head::tail, Component lo hi listed head item := fun item within => hypothesis (fun item within => forward item (List.mem_append_left _ within))
      (List.pairwise_append.mp sorted).1 (fun item within => all item (List.mem_append_left _ within))
      (chained_append.mp chained).1 within
    rcases List.mem_append.mp within with before | final
    · exact earlier item before
    · have final : item = last := List.mem_singleton.mp final
      subst final
      obtain ⟨other,before,furthest⟩ := exists_reach hi head tail
      have short := (chained_append.mp chained).2
      rw [furthest] at short
      have order := (List.pairwise_append.mp sorted).2.2 other before item (List.mem_singleton.mpr rfl)
      exact (earlier other before).tail ⟨all item within,order.trans (forward item within),short⟩

theorem component_iff (forward : ∀ item ∈ front ++ head::tail ++ back, lo item ≤ hi item)
    (sorted : (front ++ head::tail ++ back).Pairwise fun a b => lo a ≤ lo b) (stretch : Stretch lo hi front head tail)
    (past : ∀ item ∈ back, reach hi (hi head) tail < lo item)
    (all : ∀ item, listed item ↔ item ∈ front ++ head::tail ++ back) (within : own ∈ head::tail) :
    Component lo hi listed own item ↔ item ∈ head::tail := by
  have inner : ∀ item ∈ head::tail, item ∈ front ++ head::tail ++ back := fun item within =>
    List.mem_append_left _ (List.mem_append_right _ within)
  have sorted' : (head::tail).Pairwise fun a b => lo a ≤ lo b :=
    (List.pairwise_append.mp (List.pairwise_append.mp sorted).1).2.1
  have first : ∀ item ∈ head::tail, lo head ≤ lo item := by
    intro item within
    rcases List.mem_cons.mp within with rfl | later
    · exact le_refl _
    · exact (List.pairwise_cons.mp sorted').1 item later
  have last : ∀ item ∈ head::tail, hi item ≤ reach hi (hi head) tail := by
    intro item within
    rcases List.mem_cons.mp within with rfl | later
    · exact le_reach _ tail
    · exact hi_le_reach later _
  constructor
  · intro component
    induction component with
    | refl => exact within
    | @tail before after _ step hypothesis =>
      rcases List.mem_append.mp ((all after).mp step.1) with early | late
      · rcases List.mem_append.mp early with early | inside
        · exact absurd (step.2.1.trans_lt (stretch.apart after early)) (not_lt.mpr (first before hypothesis))
        · exact inside
      · exact absurd (step.2.2.trans (last before hypothesis)) (not_le.mpr (past after late))
  · intro inside
    have reached : ∀ item ∈ head::tail, Component lo hi listed head item := fun item within =>
      component_of_chained (fun item within => forward item (inner item within)) sorted'
        (fun item within => (all item).mpr (inner item within)) stretch.chained within
    exact (Component.symm (reached own within) ((all head).mpr (inner head List.mem_cons_self))).trans (reached item inside)

theorem covers_iff {base position : β} (chained : Chained lo hi stop tail) (based : ∀ item ∈ tail, base ≤ lo item) :
    ((base ≤ position ∧ position < stop) ∨ ∃ item ∈ tail, lo item ≤ position ∧ position < hi item) ↔
      base ≤ position ∧ position < reach hi stop tail := by
  induction tail generalizing stop with
  | nil => simp [reach]
  | cons item tail hypothesis =>
    have later := hypothesis chained.2 fun other within => based other (List.mem_cons_of_mem _ within)
    have here := based item List.mem_cons_self
    rw [reach,List.foldl_cons,← reach,← later]
    simp only [List.mem_cons,exists_eq_or_imp]
    have joined : (base ≤ position ∧ position < stop) ∨ (lo item ≤ position ∧ position < hi item) ↔
        base ≤ position ∧ position < max stop (hi item) := by
      rw [lt_max_iff]
      constructor
      · rintro (⟨low,high⟩ | ⟨low,high⟩)
        · exact ⟨low,.inl high⟩
        · exact ⟨here.trans low,.inr high⟩
      · rintro ⟨low,high | high⟩
        · exact .inl ⟨low,high⟩
        · rcases lt_or_ge position stop with short | long
          · exact .inl ⟨low,short⟩
          · exact .inr ⟨chained.1.trans long,high⟩
    rw [← or_assoc,joined]

end

end Lucida.Lib.Sweep
