import Lucida.Lib.Raster
import Lucida.Server.ChunkRead

namespace Lucida.Renderer
open Lib
open Server (Zyx)

-- A 3D texture. What was never written is zero.
structure Texture where
  size : Zyx
  texel : Zyx → Nat

def Texture.create (size : Zyx) : Texture := ⟨size,fun _ => 0⟩

def InBox (origin dims p : Zyx) : Prop :=
  (origin.z ≤ p.z ∧ p.z < origin.z+dims.z) ∧ (origin.y ≤ p.y ∧ p.y < origin.y+dims.y) ∧ origin.x ≤ p.x ∧ p.x < origin.x+dims.x

instance (origin dims p : Zyx) : Decidable (InBox origin dims p) := inferInstanceAs (Decidable (_ ∧ _ ∧ _))

-- How far into images of `rowsPerImage` rows of `rowTexels` texels a box reaches.
def texelsTaken (rowsPerImage rowTexels : Nat) (dims : Zyx) : Nat :=
  if dims.z = 0 then 0 else (dims.z-1)*rowsPerImage*rowTexels+if dims.y = 0 then 0 else (dims.y-1)*rowTexels+dims.x

def Texture.Takes (texture : Texture) (origin : Zyx) (data : List Nat) (rowsPerImage rowTexels : Nat) (dims : Zyx) : Prop :=
  texelsTaken rowsPerImage rowTexels dims ≤ data.length ∧ (Zyx.zip (· + ·) origin dims).All (· ≤ ·) texture.size

instance (texture : Texture) (origin : Zyx) (data : List Nat) (rowsPerImage rowTexels : Nat) (dims : Zyx) :
    Decidable (texture.Takes origin data rowsPerImage rowTexels dims) := inferInstanceAs (Decidable (_ ∧ _))

-- `writeTexture`: anything else is a validation error, and nothing is written.
def Texture.write (texture : Texture) (origin : Zyx) (data : List Nat) (rowsPerImage rowTexels : Nat) (dims : Zyx) : Texture :=
  if texture.Takes origin data rowsPerImage rowTexels dims then
    {texture with
      texel := fun p =>
        if InBox origin dims p then data.getD (rowMajor rowsPerImage rowTexels (p.z-origin.z) (p.y-origin.y) (p.x-origin.x)) 0
        else texture.texel p}
  else texture

def Texture.copyInto (texture : Texture) (size : Zyx) : Texture where
  size := size
  texel p := if p.All (· < ·) texture.size then texture.texel p else 0

def Texture.Shows (texture : Texture) (origin : Zyx) (data : List Nat) (rowsPerImage rowTexels : Nat) (dims : Zyx) : Prop :=
  ∀ place : Zyx, place.All (· < ·) dims →
    data[rowMajor rowsPerImage rowTexels place.z place.y place.x]? = some (texture.texel (Zyx.zip (· + ·) origin place))

def slotTile (slotsX slotsY slotIndex : Nat) : Zyx := ⟨slotIndex/(slotsX*slotsY),slotIndex/slotsX%slotsY,slotIndex%slotsX⟩

def tileOrigin (dims tile : Zyx) : Zyx := Zyx.zip (· * ·) tile dims

theorem inBox_offset {origin dims place : Zyx} (inside : place.All (· < ·) dims) : InBox origin dims (Zyx.zip (· + ·) origin place) := by
  obtain ⟨z,y,x⟩ := inside
  exact ⟨⟨Nat.le_add_right _ _,Nat.add_lt_add_left z _⟩,⟨Nat.le_add_right _ _,Nat.add_lt_add_left y _⟩,Nat.le_add_right _ _,Nat.add_lt_add_left x _⟩

namespace Texture
variable {texture : Texture} {origin origin' dims dims' : Zyx} {data data' : List Nat} {rows columns rows' columns' : Nat}

theorem rowMajor_lt_taken {place : Zyx} (inside : place.All (· < ·) dims) :
    rowMajor rows columns place.z place.y place.x < texelsTaken rows columns dims := by
  obtain ⟨z,y,x⟩ := inside
  have images : place.z*rows*columns ≤ (dims.z-1)*rows*columns := Nat.mul_le_mul_right _ (Nat.mul_le_mul_right _ (Nat.le_sub_one_of_lt z))
  have lines : place.y*columns ≤ (dims.y-1)*columns := Nat.mul_le_mul_right _ (Nat.le_sub_one_of_lt y)
  rw [texelsTaken,if_neg (Nat.ne_zero_of_lt z),if_neg (Nat.ne_zero_of_lt y),rowMajor,Nat.add_mul]
  omega

theorem texelsTaken_le (dims : Zyx) : texelsTaken dims.y dims.x dims ≤ dims.z*dims.y*dims.x := by
  unfold texelsTaken
  cases dims.z with
  | zero => exact Nat.zero_le _
  | succ z =>
    have lines : (if dims.y = 0 then 0 else (dims.y-1)*dims.x+dims.x) = dims.y*dims.x := by
      cases dims.y with
      | zero => exact (Nat.zero_mul _).symm
      | succ y => exact (Nat.succ_mul y dims.x).symm
    rw [if_neg (Nat.succ_ne_zero z),lines,Nat.add_sub_cancel,Nat.succ_mul,Nat.add_mul]

@[simp] theorem write_size : (texture.write origin data rows columns dims).size = texture.size := by
  unfold write
  split <;> rfl

theorem shows_write (takes : texture.Takes origin data rows columns dims) :
    (texture.write origin data rows columns dims).Shows origin data rows columns dims := by
  intro place inside
  have short := (rowMajor_lt_taken inside).trans_le takes.1
  rw [write,if_pos takes]
  dsimp only
  rw [if_pos (inBox_offset inside)]
  simp only [Zyx.zip,Nat.add_sub_cancel_left]
  rw [List.getElem?_eq_getElem short,List.getD_eq_getElem?_getD,List.getElem?_eq_getElem short,Option.getD_some]

theorem Shows.beside (shown : texture.Shows origin data rows columns dims) (apart : ∀ p, InBox origin dims p → ¬InBox origin' dims' p) :
    (texture.write origin' data' rows' columns' dims').Shows origin data rows columns dims := by
  intro place inside
  rw [shown place inside,write]
  split
  · dsimp only
    rw [if_neg (apart _ (inBox_offset inside))]
  · rfl

theorem Shows.copyInto (shown : texture.Shows origin data rows columns dims) (size : Zyx)
    (within : ∀ p, InBox origin dims p → p.All (· < ·) texture.size) : (texture.copyInto size).Shows origin data rows columns dims :=
  fun place inside => (shown place inside).trans (congrArg some (if_pos (within _ (inBox_offset inside))).symm)

end Texture

section
variable {slotsX slotsY slotsZ i j : Nat} {dims origin p : Zyx}

theorem rowMajor_slotTile (i : Nat) :
    rowMajor slotsY slotsX (slotTile slotsX slotsY i).z (slotTile slotsX slotsY i).y (slotTile slotsX slotsY i).x = i := by
  unfold rowMajor slotTile
  dsimp only
  rw [← Nat.div_div_eq_div_mul,Nat.div_add_mod',Nat.div_add_mod']

theorem slotTile_lt (inside : i < slotsX*slotsY*slotsZ) :
    (slotTile slotsX slotsY i).z < slotsZ ∧ (slotTile slotsX slotsY i).y < slotsY ∧ (slotTile slotsX slotsY i).x < slotsX := by
  have some' : 0 < slotsX*slotsY*slotsZ := Nat.zero_lt_of_lt inside
  have planes : 0 < slotsX*slotsY := Nat.pos_of_mul_pos_right some'
  have someX : 0 < slotsX := Nat.pos_of_mul_pos_right planes
  have someY : 0 < slotsY := Nat.pos_of_mul_pos_left planes
  exact ⟨Nat.div_lt_of_lt_mul inside,Nat.mod_lt _ someY,Nat.mod_lt _ someX⟩

theorem tile_unique {size a b place : Nat} (from' : a*size ≤ place) (upto : place < a*size+size) (from'' : b*size ≤ place)
    (upto' : place < b*size+size) : a = b := by
  have some' : 0 < size := by omega
  rw [← Nat.succ_mul] at upto upto'
  exact (Nat.div_eq_of_lt_le from' upto).symm.trans (Nat.div_eq_of_lt_le from'' upto')

theorem inBox_unique (here : InBox (tileOrigin dims (slotTile slotsX slotsY i)) dims p)
    (there : InBox (tileOrigin dims (slotTile slotsX slotsY j)) dims p) : i = j := by
  obtain ⟨⟨a,b⟩,⟨c,d⟩,e,f⟩ := here
  obtain ⟨⟨a',b'⟩,⟨c',d'⟩,e',f'⟩ := there
  have planes := tile_unique a b a' b'
  have rows := tile_unique c d c' d'
  have columns := tile_unique e f e' f'
  rw [← @rowMajor_slotTile slotsX slotsY i,planes,rows,columns,rowMajor_slotTile]

theorem tile_within {size part : Zyx} (tile : Zyx) (inside : tile.z < slotsZ ∧ tile.y < slotsY ∧ tile.x < slotsX)
    (whole : size = ⟨slotsZ*dims.z,slotsY*dims.y,slotsX*dims.x⟩) (le : part.All (· ≤ ·) dims) :
    (Zyx.zip (· + ·) (tileOrigin dims tile) part).All (· ≤ ·) size := by
  have reach {n m size part : Nat} (short : n < m) (le : part ≤ size) : n*size+part ≤ m*size := by
    have upto : (n+1)*size ≤ m*size := Nat.mul_le_mul_right size short
    rw [Nat.succ_mul] at upto
    omega
  rw [whole]
  exact ⟨reach inside.1 le.1,reach inside.2.1 le.2.1,reach inside.2.2 le.2.2⟩

theorem inBox_within {size : Zyx} (tile : Zyx) (inside : tile.z < slotsZ ∧ tile.y < slotsY ∧ tile.x < slotsX)
    (whole : size = ⟨slotsZ*dims.z,slotsY*dims.y,slotsX*dims.x⟩) (here : InBox (tileOrigin dims tile) dims p) :
    p.z < size.z ∧ p.y < size.y ∧ p.x < size.x := by
  obtain ⟨⟨_,z⟩,⟨_,y⟩,_,x⟩ := here
  have reach {n m size place : Nat} (short : n < m) (before : place < n*size+size) : place < m*size := by
    rw [← Nat.succ_mul] at before
    exact before.trans_le (Nat.mul_le_mul_right size short)
  rw [whole]
  exact ⟨reach inside.1 z,reach inside.2.1 y,reach inside.2.2 x⟩

end

end Lucida.Renderer
