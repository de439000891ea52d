import Mathlib.Data.List.Basic

namespace Lucida.Content

abbrev DatasetId := String
abbrev EntityId := String
abbrev ImageId := String
abbrev LayoutId := String

structure EntityPlacement (R : Type) where
  entityId : EntityId
  position : R × R
  deriving DecidableEq, Repr

structure LayoutSpec (R : Type) where
  id : LayoutId
  name : String
  placements : List (EntityPlacement R)
  deriving DecidableEq, Repr

inductive EntityKind where
  | image
  | group
  | tile
  deriving DecidableEq, Repr

structure Entity where
  id : EntityId
  kind : EntityKind
  parent : Option EntityId
  deriving DecidableEq, Repr

-- `translation` is elements 12 and 13 of the edge's matrix.
structure TransformEdge (R : Type) where
  source : EntityId
  target : EntityId
  translation : R × R
  deriving DecidableEq, Repr

-- The canonical five axes.
structure Axes (α : Type) where
  t : α
  c : α
  z : α
  y : α
  x : α
  deriving DecidableEq, Repr

inductive DataType where
  | uint8
  | uint16
  | uint32
  | float32
  | float64
  deriving DecidableEq, Repr

structure LevelGeometry (R : Type) where
  levelIndex : Nat
  shape : Axes Nat
  chunkShape : Axes Nat
  gridShape : Axes Nat
  scale : Axes R
  deriving DecidableEq, Repr

inductive GeneratedLevelRole where
  | coarse
  deriving DecidableEq, Repr

structure GeneratedLevelProvenance where
  generator : String
  configId : String
  sourceContentId : Option String
  deriving DecidableEq, Repr

structure GeneratedLevelInfo where
  levelIndex : Nat
  role : GeneratedLevelRole
  provenance : GeneratedLevelProvenance
  deriving DecidableEq, Repr

-- `generatedLevels` holds the indices of the generated levels.
structure MultiscaleInfo (R : Type) where
  levels : List (LevelGeometry R)
  generatedLevels : List Nat
  dataType : DataType
  deriving DecidableEq, Repr

structure ImageSpec (R : Type) where
  imageId : ImageId
  owner : EntityId
  multiscale : MultiscaleInfo R
  deriving DecidableEq, Repr

inductive DatasetKind where
  | single
  | collection
  deriving DecidableEq, Repr

-- `labels` holds the label names.
structure DatasetManifest (R : Type) where
  datasetId : DatasetId
  name : String
  kind : DatasetKind
  entities : List Entity
  transforms : List (TransformEdge R)
  images : List (ImageSpec R)
  sourceLayouts : List (LayoutSpec R)
  defaultLayoutId : Option LayoutId
  labels : List String
  deriving DecidableEq, Repr

namespace MultiscaleInfo
variable {R : Type}

def isGeneratedLevel (info : MultiscaleInfo R) (levelIndex : Nat) : Bool := levelIndex ∈ info.generatedLevels

def selectableDetailLevels (info : MultiscaleInfo R) : List Nat :=
  (info.levels.map LevelGeometry.levelIndex).filter fun level => !info.isGeneratedLevel level

def clampToSourceLevels (info : MultiscaleInfo R) (requested : Nat) : Option Nat :=
  let levels := info.selectableDetailLevels
  if requested ∈ levels then some requested
  else ((levels.filter (· ≤ requested)).max?).or levels.head?

theorem clamp_mem {info : MultiscaleInfo R} (clamped : info.clampToSourceLevels requested = some level) :
    level ∈ info.selectableDetailLevels := by
  unfold clampToSourceLevels at clamped
  simp only at clamped
  split at clamped
  · rename_i member
    cases clamped
    exact member
  · cases below : (info.selectableDetailLevels.filter (· ≤ requested)).max? with
    | none =>
      rw [below,Option.none_or] at clamped
      exact List.mem_of_head? clamped
    | some coarsest =>
      rw [below,Option.some_or] at clamped
      cases clamped
      exact List.mem_of_mem_filter (List.max?_mem below)

-- A clamped level is a source level, so clamping it again does nothing.
theorem clamp_idempotent {info : MultiscaleInfo R} (clamped : info.clampToSourceLevels requested = some level) :
    info.clampToSourceLevels level = some level := if_pos (clamp_mem clamped)

end MultiscaleInfo
end Lucida.Content
