import Lucida.Content.Graph
import Lucida.Lib.Extended
import Lucida.Server.Regrid

namespace Lucida.Content.Graph.Quad
variable {α β γ : Type}

def get (quad : Quad α) : Fin 4 → α
  | 0 => quad.a
  | 1 => quad.b
  | 2 => quad.c
  | 3 => quad.d

def set (quad : Quad α) (i : Fin 4) (value : α) : Quad α :=
  match i with
  | 0 => {quad with a := value}
  | 1 => {quad with b := value}
  | 2 => {quad with c := value}
  | 3 => {quad with d := value}

def swap (quad : Quad α) (i j : Fin 4) : Quad α := (quad.set i (quad.get j)).set j (quad.get i)

def zip (f : α → β → γ) (quad : Quad α) (other : Quad β) : Quad γ :=
  ⟨f quad.a other.a,f quad.b other.b,f quad.c other.c,f quad.d other.d⟩

def transpose (quads : Quad (Quad α)) : Quad (Quad α) := ⟨quads.map Quad.a,quads.map Quad.b,quads.map Quad.c,quads.map Quad.d⟩

end Lucida.Content.Graph.Quad

namespace Lucida.Proxy
open Lib Content.Graph
open Content (EntityId ImageId EntityKind DataType Axes LevelGeometry)
open Server (Zyx)

-- The floating-point operations of generation, with no law assumed but the range of the cast.
class Arithmetic (R : Type) extends Add R, Sub R, Mul R, Div R, Zero R, One R where
  ofNat : Nat → R
  half : R
  tiny : R
  infinity : R
  negInfinity : R
  eq : R → R → Bool
  lt : R → R → Bool
  le : R → R → Bool
  max : R → R → R
  abs : R → R
  floor : R → R
  ceil : R → R
  round : R → R
  isFinite : R → Bool
  toU32 : R → Nat
  toU32_lt : ∀ number, toU32 number < 2^32

-- Exact arithmetic. Halves are rounded away from zero.
instance {K : Type} [Field K] [LinearOrder K] [FloorRing K] : Arithmetic (Extended K) where
  ofNat n := .finite n
  half := .finite (1/(2 : Nat))
  tiny := .finite (1/(10^18 : Nat))
  infinity := .infinite false
  negInfinity := .infinite true
  eq a b := Extended.le a b && Extended.le b a
  lt := Extended.lt
  le := Extended.le
  max := Extended.max
  abs := Extended.abs
  floor := Extended.floor
  ceil := Extended.ceil
  round a := if Extended.lt a 0 then Extended.ceil (a-.finite (1/(2 : Nat))) else Extended.floor (a+.finite (1/(2 : Nat)))
  isFinite := Extended.isFinite
  toU32 := Extended.toBelow (2^32)
  toU32_lt := Extended.toU32_lt

structure Point (R : Type) where
  x : R
  y : R
  z : R
  deriving DecidableEq, Repr

def Point.zip {α β γ : Type} (f : α → β → γ) (p : Point α) (q : Point β) : Point γ := ⟨f p.x q.x,f p.y q.y,f p.z q.z⟩

-- Column by column.
abbrev VoxelTransform (R : Type) := Content.Graph.Matrix R

section
variable {R : Type} [Arithmetic R]

def VoxelTransform.identity : VoxelTransform R := ⟨⟨1,0,0,0⟩,⟨0,1,0,0⟩,⟨0,0,1,0⟩,⟨0,0,0,1⟩⟩

def column (lhs : VoxelTransform R) (v : Quad R) : Quad R :=
  let row (element : Quad R → R) := 0+element lhs.a*v.a+element lhs.b*v.b+element lhs.c*v.c+element lhs.d*v.d
  ⟨row Quad.a,row Quad.b,row Quad.c,row Quad.d⟩

def compose (lhs rhs : VoxelTransform R) : VoxelTransform R := rhs.map (column lhs)

def transformPoint (m : VoxelTransform R) (p : Point R) : Point R :=
  let row (element : Quad R → R) := element m.a*p.x+element m.b*p.y+element m.c*p.z+element m.d
  ⟨row Quad.a,row Quad.b,row Quad.c⟩

structure Rows (R : Type) where
  a : Quad (Quad R)
  inv : Quad (Quad R)

def pivotOf (a : Quad (Quad R)) (col : Fin 4) : Fin 4 × R :=
  ((List.finRange 4).filter (col < ·)).foldl (fun pivot row =>
    let v := Arithmetic.abs ((a.get row).get col)
    if Arithmetic.lt pivot.2 v then (row,v) else pivot) (col,Arithmetic.abs ((a.get col).get col))

def clearColumn (col : Fin 4) (rows : Rows R) (row : Fin 4) : Rows R :=
  let factor := (rows.a.get row).get col
  if Arithmetic.eq factor 0 then rows
  else
    let less (value part : R) := value-factor*part
    ⟨rows.a.set row (Quad.zip less (rows.a.get row) (rows.a.get col)),
      rows.inv.set row (Quad.zip less (rows.inv.get row) (rows.inv.get col))⟩

def eliminate (rows : Rows R) (col : Fin 4) : Option (Rows R) :=
  let (pivotRow,pivotVal) := pivotOf rows.a col
  if Arithmetic.lt pivotVal Arithmetic.tiny then none
  else
    let a := rows.a.swap col pivotRow
    let inv := rows.inv.swap col pivotRow
    let pivot := (a.get col).get col
    let scaled := ⟨a.set col ((a.get col).map (·/pivot)),inv.set col ((inv.get col).map (·/pivot))⟩
    some (((List.finRange 4).filter (· ≠ col)).foldl (clearColumn col) scaled)

-- Gauss-Jordan with partial pivoting.
def invert (m : VoxelTransform R) : Option (VoxelTransform R) :=
  ((List.finRange 4).foldlM eliminate ⟨m.transpose,VoxelTransform.identity⟩).map fun rows => rows.inv.transpose

structure Bounds (R : Type) where
  min : Point R
  max : Point R
  deriving DecidableEq, Repr

def Bounds.empty : Bounds R :=
  ⟨⟨Arithmetic.infinity,Arithmetic.infinity,Arithmetic.infinity⟩,
    ⟨Arithmetic.negInfinity,Arithmetic.negInfinity,Arithmetic.negInfinity⟩⟩

def Bounds.extend (bounds : Bounds R) (p : Point R) : Bounds R where
  min := Point.zip (fun p least => if Arithmetic.lt p least then p else least) p bounds.min
  max := Point.zip (fun p most => if Arithmetic.lt most p then p else most) p bounds.max

def corners (dims : Zyx) : List (Point R) :=
  let ends (n : Nat) : List R := [0,Arithmetic.ofNat n]
  (ends dims.z ×ˢ ends dims.y ×ˢ ends dims.x).map fun corner => ⟨corner.2.2,corner.2.1,corner.1⟩

def boundsOf (grids : List (VoxelTransform R × Zyx)) : Bounds R :=
  (grids.flatMap fun grid => (corners grid.2).map (transformPoint grid.1)).foldl Bounds.extend Bounds.empty

def Bounds.span (bounds : Bounds R) : Point R := Point.zip (·-·) bounds.max bounds.min

end

section
variable {ε : Type}

-- `u32::clamp`, which has no value between bounds that are the wrong way round.
def clampU32 (value low high : Nat) : Except (Stop ε) Nat :=
  if low ≤ high then .ok (min (max value low) high) else .error .panic

def targetDimsForLongAxis (R : Type) [Arithmetic R] (dims : Zyx) (targetLongAxis : Nat) : Except (Stop ε) Zyx := do
  let maxIn := max (max dims.z dims.y) dims.x
  let target := max (min targetLongAxis maxIn) 1
  let scale : R := Arithmetic.ofNat target/Arithmetic.ofNat maxIn
  let axis (n : Nat) : Except (Stop ε) Nat := clampU32 (Arithmetic.toU32 (Arithmetic.round (Arithmetic.ofNat n*scale))) 1 n
  return ⟨← axis dims.z,← axis dims.y,← axis dims.x⟩

def groupDimsFromBounds {R : Type} [Arithmetic R] (bounds : Bounds R) (targetLongAxis : Nat) : Zyx :=
  let span := bounds.span
  let widest := Arithmetic.max (Arithmetic.max span.x span.y) span.z
  let maxSpan := if !Arithmetic.isFinite widest || Arithmetic.le widest 0 then 1 else widest
  let scale : R := Arithmetic.ofNat (max targetLongAxis 1)/maxSpan
  let axis (length : R) := max (Arithmetic.toU32 (Arithmetic.round (length*scale))) 1
  ⟨axis span.z,axis span.y,axis span.x⟩

section
variable (R : Type) [Arithmetic R] {dims : Zyx}

theorem clampU32_ok {n : Nat} (some' : 0 < n) (value : Nat) :
    ∃ m, (∀ ε : Type, clampU32 (ε := ε) value 1 n = .ok m) ∧ 0 < m ∧ m ≤ n := by
  refine ⟨_,fun _ => if_pos some',?_,Nat.min_le_right _ _⟩
  exact lt_min (Nat.lt_of_lt_of_le Nat.one_pos (Nat.le_max_right _ _)) some'

theorem targetDims_ok (some' : 0 < dims.z ∧ 0 < dims.y ∧ 0 < dims.x) (targetLongAxis : Nat) :
    ∃ out : Zyx, (∀ ε : Type, targetDimsForLongAxis (ε := ε) R dims targetLongAxis = .ok out) ∧
      (0 < out.z ∧ 0 < out.y ∧ 0 < out.x) ∧ out.All (· ≤ ·) dims := by
  obtain ⟨z,madeZ,posZ,leZ⟩ := clampU32_ok some'.1 _
  obtain ⟨y,madeY,posY,leY⟩ := clampU32_ok some'.2.1 _
  obtain ⟨x,madeX,posX,leX⟩ := clampU32_ok some'.2.2 _
  refine ⟨⟨z,y,x⟩,fun ε => ?_,⟨posZ,posY,posX⟩,leZ,leY,leX⟩
  unfold targetDimsForLongAxis
  exact ok_bind (madeZ ε) (ok_bind (madeY ε) (ok_bind (madeX ε) rfl))

theorem targetDims_panics (none' : dims.z = 0 ∨ dims.y = 0 ∨ dims.x = 0) (targetLongAxis : Nat) :
    targetDimsForLongAxis (ε := ε) R dims targetLongAxis = .error .panic := by
  have clamped (value n : Nat) : clampU32 (ε := ε) value 1 n = .error .panic ∨ ∃ m, 0 < n ∧ clampU32 (ε := ε) value 1 n = .ok m := by
    unfold clampU32
    split
    · next some' => exact .inr ⟨_,some',rfl⟩
    · exact .inl rfl
  unfold targetDimsForLongAxis
  dsimp only
  rcases clamped _ dims.z with stopped | ⟨z,posZ,made⟩
  · rw [stopped]
    rfl
  rw [made]
  rcases clamped _ dims.y with stopped | ⟨y,posY,made⟩
  · rw [stopped]
    rfl
  rw [made]
  rcases clamped _ dims.x with stopped | ⟨x,posX,made⟩
  · rw [stopped]
    rfl
  omega

end

end

section Exact
variable {K : Type} [Field K] [LinearOrder K] [FloorRing K]

theorem compose_identity (m : Quad (Quad K)) :
    compose VoxelTransform.identity (m.map (Quad.map Extended.finite)) = m.map (Quad.map Extended.finite) := by
  have product (a b : K) : Extended.finite a*Extended.finite b = .finite (a*b) := rfl
  have sum (a b : K) : Extended.finite a+Extended.finite b = .finite (a+b) := rfl
  have zero : (0 : Extended K) = .finite 0 := rfl
  have one : (1 : Extended K) = .finite 1 := rfl
  simp only [compose,column,VoxelTransform.identity,Quad.map,zero,one,product,sum]
  simp

end Exact

end Lucida.Proxy
