import Mathlib
import Lucida.Core.ViewQuery
import Lucida.Lib.Extended

namespace Lucida.Core
open Content Lib

-- What stands for `2^(1/4)` in a field.
class QuarterOctave (K : Type) [Field K] [LinearOrder K] where
  band : K
  one_le_band : 1 ≤ band

noncomputable instance : QuarterOctave ℝ := ⟨(2 : ℝ)^(1/4 : ℝ),Real.one_le_rpow (by norm_num) (by norm_num)⟩

-- The rationals have no such root; this one is close.
instance : QuarterOctave ℚ := ⟨6/5,by norm_num⟩

-- The code's arithmetic, exact.
instance {K : Type} [Field K] [LinearOrder K] [QuarterOctave K] : Numeric (Extended K) where
  ofNat n := .finite n
  lt := Extended.lt
  le := Extended.le
  max := Extended.max
  abs := Extended.abs
  isFinite := Extended.isFinite
  asF32 a := a
  half := .finite (1/2)
  tiny := .finite (1/1000000)
  infinity := .infinite false
  band := .finite QuarterOctave.band

section
variable {R : Type} [Numeric R] {ratios : List R} {measure ratio : R} {level level' : Nat}

-- A level is admissible while its samples are at most a pixel apart.
def Admits (measure ratio : R) : Prop := Numeric.le (measure*ratio) 1

def Coarsest (ratios : List R) (measure : R) (level : Nat) : Prop :=
  (level ≠ 0 → ∃ ratio, ratios[level]? = some ratio ∧ Admits measure ratio) ∧
    ∀ coarser ratio, level < coarser → ratios[coarser]? = some ratio → ¬Admits measure ratio

theorem Coarsest.le (chosen : Coarsest ratios measure level) (found : ratios[level']? = some ratio)
    (admitted : Admits measure ratio) : level' ≤ level := by
  by_contra coarser
  exact chosen.2 level' ratio (not_le.mp coarser) found admitted

theorem Coarsest.lt_length (chosen : Coarsest ratios measure level) (levels : ratios ≠ []) : level < ratios.length := by
  by_cases finest : level = 0
  · rw [finest]
    exact List.length_pos_iff.mpr levels
  · obtain ⟨_,found,_⟩ := chosen.1 finest
    exact (List.getElem?_eq_some_iff.mp found).1

omit [Numeric R] in
theorem snd_le_of_getLast? {last : R × Nat} {kept : R × Nat → Bool}
    (ends : (ratios.zipIdx.filter kept).getLast? = some last) (found : entry ∈ ratios.zipIdx.filter kept) :
    entry.2 ≤ last.2 := by
  have numbered : ratios.zipIdx.Pairwise fun a b => a.2 < b.2 := by
    rw [← List.pairwise_map (f := Prod.snd) (R := (· < ·)),List.zipIdx_map_snd]
    exact List.pairwise_lt_range'
  obtain ⟨front,split⟩ := List.getLast?_eq_some_iff.mp ends
  have ordered := numbered.filter kept
  rw [split] at ordered found
  rcases List.mem_append.mp found with before | final
  · exact (List.pairwise_append.mp ordered |>.2.2 entry before last (List.mem_singleton.mpr rfl)).le
  · rw [List.mem_singleton.mp final]

-- `rposition` finds the coarsest admissible level, and the cast to `u32` cuts it.
theorem exists_coarsest (ratios : List R) (measure : R) :
    ∃ level, Coarsest ratios measure level ∧ rawLevel ratios measure = asU32 level := by
  have admissible : ∀ {index ratio}, ratios[index]? = some ratio → Admits measure ratio →
      (ratio,index) ∈ ratios.zipIdx.filter fun entry => Numeric.le (measure*entry.1) 1 := by
    intro index ratio found admitted
    exact List.mem_filter.mpr ⟨List.mk_mem_zipIdx_iff_getElem?.mpr found,admitted⟩
  unfold rawLevel
  dsimp only
  cases ends : (ratios.zipIdx.filter fun entry => Numeric.le (measure*entry.1) 1).getLast? with
  | none =>
    refine ⟨0,⟨fun coarser => absurd rfl coarser,fun coarser ratio _ found admitted => ?_⟩,rfl⟩
    have listed := admissible found admitted
    rw [List.getLast?_eq_none_iff.mp ends] at listed
    cases listed
  | some last =>
    have kept := List.mem_filter.mp (List.mem_of_getLast? ends)
    refine ⟨last.2,⟨fun _ => ⟨last.1,List.mem_zipIdx_iff_getElem?.mp kept.1,kept.2⟩,?_⟩,rfl⟩
    intro coarser ratio later found admitted
    exact absurd (snd_le_of_getLast? ends (admissible found admitted)) (not_le.mpr later)

end

section
variable {K : Type} [Field K] [LinearOrder K] [QuarterOctave K] {ratios : List (Extended K)} {measure : K}
  {level level' : Nat}

def InBand (ratios : List (Extended K)) (level : Nat) (measure : K) : Prop :=
  ∃ factor : K, QuarterOctave.band⁻¹ ≤ factor ∧ factor ≤ QuarterOctave.band ∧ Coarsest ratios (.finite (measure*factor)) level

structure TargetsLevel (ratios : List (Extended K)) (measure : K) (previous : Option Nat) : Prop where
  bounded : ratios ≠ [] → targetLevel (.finite measure) ratios previous < ratios.length
  empty : ratios = [] → targetLevel (.finite measure) ratios previous = 0
  fresh : Coarsest ratios (.finite measure) (targetLevel (.finite measure) ratios none)
  settled : targetLevel (.finite measure) ratios (some (targetLevel (.finite measure) ratios previous)) =
    targetLevel (.finite measure) ratios previous
  held : ∀ level < ratios.length, previous = some level → targetLevel (.finite measure) ratios previous ≠ level →
    ¬InBand ratios level measure

def Numbered (ratios : List (Extended K)) : Prop := ∀ ratio ∈ ratios.drop (2^32), ratio = .nan

theorem not_admits_nan (measure : K) : ¬Admits (.finite measure) (.nan : Extended K) := Bool.false_ne_true

theorem length_levelShapeRatios (levels : List (LevelGeometry (Extended K))) (axes : List (Axes Nat → Nat)) :
    (levelShapeRatios levels axes).length = levels.length := by
  unfold levelShapeRatios
  dsimp only
  split
  · rename_i none
    rw [List.map_eq_nil_iff.mp none]
    rfl
  · rw [List.length_map,List.length_zipIdx,List.length_map]

theorem levelShapeRatios_number {levels : List (LevelGeometry (Extended K))} {axes : List (Axes Nat → Nat)}
    (listed : ratio ∈ levelShapeRatios levels axes) : ratio ≠ .nan := by
  unfold levelShapeRatios at listed
  dsimp only at listed
  split at listed
  · cases listed
  · obtain ⟨level,-,rfl⟩ := List.mem_map.mp listed
    split
    · exact Extended.foldl_max_ne_nan _ fun zero => by cases zero
    · exact fun infinity => by cases infinity

theorem numbered_levelShapeRatios (levels : List (LevelGeometry (Extended K))) (axes : List (Axes Nat → Nat)) :
    Numbered (levelShapeRatios levels axes) ↔ levels.length ≤ 2^32 := by
  rw [← length_levelShapeRatios levels axes,← List.drop_eq_nil_iff,List.eq_nil_iff_forall_not_mem]
  constructor
  · intro numbered ratio late
    exact levelShapeRatios_number (List.mem_of_mem_drop late) (numbered ratio late)
  · intro none ratio late
    exact absurd late (none ratio)

theorem rawLevel_coarsest (numbered : Numbered ratios) (measure : K) :
    Coarsest ratios (.finite measure) (rawLevel ratios (.finite measure)) := by
  obtain ⟨level,chosen,found⟩ := exists_coarsest ratios (.finite measure)
  have short : level < 2^32 := by
    by_contra long
    obtain ⟨ratio,there,admitted⟩ := chosen.1 (by omega)
    have late : ratio ∈ ratios.drop (2^32) := by
      refine List.mem_of_getElem? (i := level-2^32) ?_
      rw [List.getElem?_drop,Nat.add_sub_cancel' (not_lt.mp long)]
      exact there
    rw [numbered ratio late] at admitted
    exact not_admits_nan measure admitted
  rw [found,asU32,Nat.mod_eq_of_lt short]
  exact chosen

theorem exists_admits {ratio : Extended K} (number : ratio ≠ .nan) [IsStrictOrderedRing K] :
    ∃ measure : K, Admits (.finite measure) ratio := by
  cases ratio with
  | finite ratio => exact ⟨0,decide_eq_true (p := 0*ratio ≤ 1) (by rw [zero_mul]; exact zero_le_one)⟩
  | infinite negative =>
    cases negative with
    | false =>
      refine ⟨-1,?_⟩
      rw [Admits,Extended.finite_mul_infinite (by simp),decide_eq_true (by simp)]
      rfl
    | true =>
      refine ⟨1,?_⟩
      rw [Admits,Extended.finite_mul_infinite one_ne_zero,decide_eq_false (not_lt.mpr zero_le_one)]
      rfl
  | nan => exact absurd rfl number

variable [IsStrictOrderedRing K]

theorem coarsest_antitone {factor factor' : K} (positive : 0 < factor) (smaller : factor ≤ factor')
    (chosen : Coarsest ratios (.finite (measure*factor)) level)
    (chosen' : Coarsest ratios (.finite (measure*factor')) level') : level' ≤ level := by
  by_cases finest : level' = 0
  · rw [finest]
    exact Nat.zero_le level
  · obtain ⟨ratio,found,admitted⟩ := chosen'.1 finest
    exact chosen.le found (Extended.le_one_of_smaller positive smaller measure admitted)

theorem band_pos : (0 : K) < QuarterOctave.band := zero_lt_one.trans_le QuarterOctave.one_le_band

theorem targetLevel_held (numbered : Numbered ratios)
    (moved : targetLevel (.finite measure) ratios (some level) ≠ level) : ¬InBand ratios level measure := by
  rintro ⟨factor,above,below,chosen⟩
  have coarser : rawLevel ratios (.finite measure*Numeric.band) ≤ level :=
    coarsest_antitone ((inv_pos.mpr band_pos).trans_le above) below chosen
      (rawLevel_coarsest numbered (measure*QuarterOctave.band))
  have finer : level ≤ rawLevel ratios (.finite measure/Numeric.band) := by
    have divided : (.finite measure/Numeric.band : Extended K) = .finite (measure*QuarterOctave.band⁻¹) := by
      rw [← div_eq_mul_inv]
      exact Extended.finite_div measure band_pos.ne'
    rw [divided]
    exact coarsest_antitone (inv_pos.mpr band_pos) above (rawLevel_coarsest numbered _) chosen
  apply moved
  simp only [targetLevel]
  split
  · rfl
  · rw [if_neg]
    split
    · simpa using coarser
    · simpa using finer

end

section
variable {R : Type} [Numeric R] {ratios : List R} {bound : Nat}

theorem rawLevel_lt (levels : ratios ≠ []) (measure : R) : rawLevel ratios measure < ratios.length := by
  obtain ⟨level,chosen,cut⟩ := exists_coarsest ratios measure
  rw [cut]
  exact (Nat.mod_le level _).trans_lt (chosen.lt_length levels)

theorem targetLevel_lt (raw : ∀ measure, rawLevel ratios measure < bound) (measure : R) (previous : Option Nat) :
    targetLevel measure ratios previous < bound := by
  cases previous with
  | none => exact raw measure
  | some previous =>
    by_cases inside : previous < bound
    · rcases targetLevel_cases measure ratios (some previous) with chosen | held
      · rw [chosen]
        exact raw measure
      · rwa [← Option.some.inj held]
    · have left : ∀ measure, rawLevel ratios measure < previous := fun measure =>
        (raw measure).trans_le (not_lt.mp inside)
      have away : targetLevel measure ratios (some previous) = rawLevel ratios measure := by
        simp only [targetLevel]
        rw [if_neg (left measure).ne,if_neg (left measure).not_gt,decide_eq_true (left _),if_pos rfl]
      rw [away]
      exact raw measure

end

section
variable {K : Type} [Field K] [LinearOrder K] [QuarterOctave K] [IsStrictOrderedRing K]

theorem targetsLevel_iff {ratios : List (Extended K)} :
    (∀ measure previous, TargetsLevel ratios measure previous) ↔ Numbered ratios := by
  constructor
  · intro targets ratio late
    by_contra number
    obtain ⟨measure,admitted⟩ := exists_admits number
    obtain ⟨index,found⟩ := List.mem_iff_getElem?.mp late
    rw [List.getElem?_drop] at found
    have chosen : Coarsest ratios (.finite measure) (rawLevel ratios (.finite measure)) := (targets measure none).fresh
    have reached : 2^32+index ≤ rawLevel ratios (.finite measure) := chosen.le found admitted
    obtain ⟨level,_,cut⟩ := exists_coarsest ratios (.finite measure)
    have short : rawLevel ratios (.finite measure) < 2^32 := by
      rw [cut]
      exact Nat.mod_lt level (by decide)
    omega
  · intro numbered measure previous
    have coarsest := rawLevel_coarsest numbered
    refine ⟨fun levels => ?_,?_,coarsest measure,?_,?_⟩
    · exact targetLevel_lt (rawLevel_lt levels) (.finite measure) previous
    · rintro rfl
      exact Nat.lt_one_iff.mp (targetLevel_lt (fun _ => Nat.one_pos) (Extended.finite measure) previous)
    · exact @targetLevel_resumes _ _ (.finite measure) ratios previous (fun level => level) (fun _ => rfl) fun _ _ => rfl
    · rintro level - rfl moved
      exact targetLevel_held numbered moved

theorem target_level_rule_iff :
    (∀ ratios : List (Extended K), (∀ measure previous, TargetsLevel ratios measure previous) ↔ Numbered ratios) ∧
      ∀ (levels : List (LevelGeometry (Extended K))) axes,
        (∀ measure previous, TargetsLevel (levelShapeRatios levels axes) measure previous) ↔ levels.length ≤ 2^32 :=
  ⟨fun _ => targetsLevel_iff,fun levels axes => targetsLevel_iff.trans (numbered_levelShapeRatios levels axes)⟩

theorem target_level_rule_for_a_pyramid :
    TargetsLevel (levelShapeRatios
      [⟨0,⟨1,1,10,512,512⟩,⟨1,1,1,64,64⟩,⟨1,1,10,8,8⟩,⟨.finite 1,.finite 1,.finite 1,.finite 1,.finite 1⟩⟩,
        ⟨1,⟨1,1,5,512,512⟩,⟨1,1,1,64,64⟩,⟨1,1,5,8,8⟩,⟨.finite 1,.finite 1,.finite 2,.finite 1,.finite 1⟩⟩] inPlaneAxes)
      (3/4 : ℝ) (some 1) :=
  (target_level_rule_iff.2 _ inPlaneAxes).mpr (by decide) (3/4) (some 1)

end

end Lucida.Core
