import Lucida.Content.Graph
import Lucida.Lib.Traverse

namespace Lucida.Content.Graph
open Lib

section Lists
variable {α : Type} {p : α → α → Bool} {items others : List α}

theorem listEq_iff : listEq p items others ↔ List.Forall₂ (fun item other => p item other = true) items others := by
  induction items generalizing others with
  | nil =>
    cases others with
    | nil => exact ⟨fun _ => .nil,fun _ => rfl⟩
    | cons => exact ⟨fun same => (by cases same),fun each => (by cases each)⟩
  | cons item items ih =>
    cases others with
    | nil => exact ⟨fun same => (by cases same),fun each => (by cases each)⟩
    | cons other others => rw [listEq,Bool.and_eq_true,List.forall₂_cons,ih]

theorem listEq_self (self : ∀ item ∈ items, p item item) : listEq p items items := by
  rw [listEq_iff,List.forall₂_same]
  exact self

theorem listEq_symm (symm : ∀ x y, p x y → p y x) (same : listEq p items others) : listEq p others items := by
  rw [listEq_iff] at same ⊢
  exact (List.Forall₂.imp symm same).flip

theorem listEq_trans {third : List α} (trans : ∀ x y z, p x y → p y z → p x z) (same : listEq p items others)
    (same' : listEq p others third) : listEq p items third := by
  rw [listEq_iff] at same same' ⊢
  induction same generalizing third with
  | nil => exact same'
  | cons first _ ih =>
    cases same' with
    | cons first' rest' => exact .cons (trans _ _ _ first first') (ih rest')

end Lists

section Fields
variable {scale scale' : Axes F64}

theorem axesAll2_iff : axesAll2 F64.eq scale scale' ↔ scale.t.eq scale'.t ∧ scale.c.eq scale'.c ∧ scale.z.eq scale'.z ∧
    scale.y.eq scale'.y ∧ scale.x.eq scale'.x := by
  simp only [axesAll2,Bool.and_eq_true,and_assoc]

theorem axesAll2_self (numbers : ∀ x ∈ axesList scale, x.isNan = false) : axesAll2 F64.eq scale scale := by
  simp only [axesList,List.forall_mem_cons] at numbers
  obtain ⟨t,c,z,y,x,_⟩ := numbers
  exact axesAll2_iff.mpr ⟨F64.eq_self t,F64.eq_self c,F64.eq_self z,F64.eq_self y,F64.eq_self x⟩

theorem axesAll2_symm (same : axesAll2 F64.eq scale scale') : axesAll2 F64.eq scale' scale := by
  obtain ⟨t,c,z,y,x⟩ := axesAll2_iff.mp same
  exact axesAll2_iff.mpr ⟨F64.eq_symm t,F64.eq_symm c,F64.eq_symm z,F64.eq_symm y,F64.eq_symm x⟩

theorem axesAll2_trans {scale'' : Axes F64} (same : axesAll2 F64.eq scale scale') (same' : axesAll2 F64.eq scale' scale'') :
    axesAll2 F64.eq scale scale'' := by
  obtain ⟨t,c,z,y,x⟩ := axesAll2_iff.mp same
  obtain ⟨t',c',z',y',x'⟩ := axesAll2_iff.mp same'
  exact axesAll2_iff.mpr
    ⟨F64.eq_trans t t',F64.eq_trans c c',F64.eq_trans z z',F64.eq_trans y y',F64.eq_trans x x'⟩

theorem quadAll2_iff {α : Type} {p : α → α → Bool} {quad other : Quad α} :
    Quad.all2 p quad other ↔ p quad.a other.a ∧ p quad.b other.b ∧ p quad.c other.c ∧ p quad.d other.d := by
  simp only [Quad.all2,Bool.and_eq_true,and_assoc]

theorem quadAll2_self {α : Type} {p : α → α → Bool} {quad : Quad α} (self : ∀ item ∈ quad.toList, p item item) :
    Quad.all2 p quad quad := by
  simp only [Quad.toList,List.forall_mem_cons] at self
  exact quadAll2_iff.mpr ⟨self.1,self.2.1,self.2.2.1,self.2.2.2.1⟩

end Fields

section Levels
variable {level other third : LevelGeometry F64}

theorem levelEq_iff : levelEq level other ↔ axesAll2 F64.eq level.scale other.scale ∧ other = { level with scale := other.scale } := by
  simp only [levelEq,Bool.and_eq_true,decide_eq_true_eq]
  constructor
  · rintro ⟨⟨⟨⟨index,shape⟩,chunk⟩,grid⟩,scale⟩
    refine ⟨scale,?_⟩
    rw [index,shape,chunk,grid]
  · rintro ⟨scale,same⟩
    rw [same]
    exact ⟨⟨⟨⟨rfl,rfl⟩,rfl⟩,rfl⟩,scale⟩

theorem levelEq_self (numbers : ∀ x ∈ axesList level.scale, x.isNan = false) : levelEq level level :=
  levelEq_iff.mpr ⟨axesAll2_self numbers,rfl⟩

theorem levelEq_symm (same : levelEq level other) : levelEq other level := by
  obtain ⟨scale,rest⟩ := levelEq_iff.mp same
  refine levelEq_iff.mpr ⟨axesAll2_symm scale,?_⟩
  rw [rest]

theorem levelEq_trans (same : levelEq level other) (same' : levelEq other third) : levelEq level third := by
  obtain ⟨scale,rest⟩ := levelEq_iff.mp same
  obtain ⟨scale',rest'⟩ := levelEq_iff.mp same'
  refine levelEq_iff.mpr ⟨axesAll2_trans scale scale',?_⟩
  rw [rest',rest]

end Levels

section Multiscales
variable {info other third : MultiscaleInfo F64}

def MultiscaleInfo.numbers (info : MultiscaleInfo F64) : List F64 := info.levels.flatMap fun level => axesList level.scale

theorem MultiscaleInfo.eq_iff : info.eq other ↔ listEq levelEq info.levels other.levels ∧ other = { info with levels := other.levels } := by
  simp only [MultiscaleInfo.eq,Bool.and_eq_true,decide_eq_true_eq]
  constructor
  · rintro ⟨⟨⟨⟨⟨⟨⟨axes,levels⟩,coarse⟩,generated⟩,dataType⟩,pinned⟩,channels⟩,method⟩
    refine ⟨levels,?_⟩
    rw [axes,coarse,generated,dataType,pinned,channels,method]
  · rintro ⟨levels,same⟩
    rw [same]
    exact ⟨⟨⟨⟨⟨⟨⟨rfl,levels⟩,rfl⟩,rfl⟩,rfl⟩,rfl⟩,rfl⟩,rfl⟩

theorem MultiscaleInfo.eq_self (numbers : ∀ x ∈ info.numbers, x.isNan = false) : info.eq info := by
  refine MultiscaleInfo.eq_iff.mpr ⟨listEq_self fun level member => levelEq_self fun x here => ?_,rfl⟩
  exact numbers x (List.mem_flatMap.mpr ⟨level,member,here⟩)

theorem MultiscaleInfo.eq_symm (same : info.eq other) : other.eq info := by
  obtain ⟨levels,rest⟩ := MultiscaleInfo.eq_iff.mp same
  refine MultiscaleInfo.eq_iff.mpr ⟨listEq_symm (fun _ _ => levelEq_symm) levels,?_⟩
  rw [rest]

theorem MultiscaleInfo.eq_trans (same : info.eq other) (same' : other.eq third) : info.eq third := by
  obtain ⟨levels,rest⟩ := MultiscaleInfo.eq_iff.mp same
  obtain ⟨levels',rest'⟩ := MultiscaleInfo.eq_iff.mp same'
  refine MultiscaleInfo.eq_iff.mpr ⟨listEq_trans (fun _ _ _ => levelEq_trans) levels levels',?_⟩
  rw [rest',rest]

theorem normalized_congr {x y : F64} (same : x.eq y) : normalized x = normalized y := by
  unfold normalized
  by_cases zero : x.eq .zero
  · rw [if_pos zero,if_pos (F64.eq_trans (F64.eq_symm same) zero)]
  · rw [if_neg zero,if_neg fun zero' => zero (F64.eq_trans same zero')]
    obtain ⟨number,_,alike⟩ := F64.eq_iff.mp same
    rcases alike with equal | ⟨small,_⟩
    · exact equal
    · exact absurd (F64.eq_iff.mpr ⟨number,by decide,.inr ⟨small,by decide⟩⟩) zero

theorem dedupKey_congr (same : info.eq other) : info.dedupKey = other.dedupKey := by
  obtain ⟨levels,rest⟩ := MultiscaleInfo.eq_iff.mp same
  have fed : info.dedupKey.levels = other.dedupKey.levels := by
    refine map_eq_map_of_forall₂ ((listEq_iff.mp levels).imp ?_)
    intro level level' alike
    obtain ⟨scale,level_rest⟩ := levelEq_iff.mp alike
    obtain ⟨t,c,z,y,x⟩ := axesAll2_iff.mp scale
    rw [level_rest]
    simp only [axesMap,normalized_congr t,normalized_congr c,normalized_congr z,normalized_congr y,normalized_congr x]
  calc info.dedupKey = { info.dedupKey with levels := other.dedupKey.levels } := by rw [← fed]
    _ = other.dedupKey := by rw [rest]; rfl

theorem lawful_of_numbers (digest : DedupKey → UInt64) {infos : List (MultiscaleInfo F64)}
    (numbers : ∀ info ∈ infos, ∀ x ∈ info.numbers, x.isNan = false) :
    Sharing.Lawful MultiscaleInfo.eq (multiscaleDedupHash digest) infos where
  self info member := MultiscaleInfo.eq_self (numbers info member)
  symm _ _ := MultiscaleInfo.eq_symm
  trans _ _ _ := MultiscaleInfo.eq_trans
  hashed _ _ same := congrArg digest (dedupKey_congr same)

theorem expansionBytes_congr (sizes : Sizes) (same : info.eq other) :
    multiscaleExpansionBytes sizes info = multiscaleExpansionBytes sizes other := by
  obtain ⟨levels,rest⟩ := MultiscaleInfo.eq_iff.mp same
  have length := (listEq_iff.mp levels).length_eq
  rw [rest]
  unfold multiscaleExpansionBytes
  dsimp only
  rw [length]

end Multiscales
end Lucida.Content.Graph
