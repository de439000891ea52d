import Lucida.Server.ChunkRead

namespace Lucida.Server
open Content Lib Store
open Store.ChunkCache (Bytes)

variable {ε : Type}

theorem Zyx.zipM_ok {f : Nat → Nat → Except ε Nat} {a b p : Zyx} (z : f a.z b.z = .ok p.z) (y : f a.y b.y = .ok p.y)
    (x : f a.x b.x = .ok p.x) : Zyx.zipM f a b = .ok p := by
  simp only [zipM,z,y,x,bind,Except.bind,pure,Except.pure]

theorem Zyx.zipM_some {f : Nat → Nat → Except ε Nat} {a b p : Zyx} (zipped : Zyx.zipM f a b = .ok p) :
    f a.z b.z = .ok p.z ∧ f a.y b.y = .ok p.y ∧ f a.x b.x = .ok p.x := by
  unfold zipM at zipped
  obtain ⟨z,alongZ,zipped⟩ := bind_ok zipped
  obtain ⟨y,alongY,zipped⟩ := bind_ok zipped
  obtain ⟨x,alongX,zipped⟩ := bind_ok zipped
  cases zipped
  exact ⟨alongZ,alongY,alongX⟩

def Zyx.index (shape p : Zyx) : Nat := rowMajor shape.y shape.x p.z p.y p.x

def Zyx.volume (shape : Zyx) : Nat := shape.z*shape.y*shape.x

theorem Zyx.index_lt {shape p : Zyx} (inside : p.All (· < ·) shape) : shape.index p < shape.volume :=
  rowMajor_lt inside.1 inside.2.1 inside.2.2

theorem Zyx.sample_fits {shape p : Zyx} (inside : p.All (· < ·) shape) (width : Nat) :
    (shape.index p+1)*width ≤ shape.volume*width := Nat.mul_le_mul_right _ (index_lt inside)

theorem splitKey_chunkKeyOf (level t c : Nat) (grid : Zyx) :
    splitKey (chunkKeyOf level t c grid) = [level,t,c,grid.z,grid.y,grid.x].map (Nat.toDigits 10) := by
  unfold splitKey chunkKeyOf
  rw [String.toList_ofList,List.splitOn_intercalate]
  · intro digits member slash
    obtain ⟨n,_,rfl⟩ := List.mem_map.mp member
    exact absurd (Nat.isDigit_of_mem_toDigits (by decide) (by decide) slash) (by decide)
  · simp

theorem parseTC_chunkKeyOf (level : Nat) {t c : Nat} (grid : Zyx) (shortT : t < 2^64) (shortC : c < 2^64) :
    parseTCFromChunkKey (chunkKeyOf level t c grid) = (t,c) := by
  have part {n : Nat} (short : n < 2^64) : parseUnsigned 64 (Nat.toDigits 10 n) = some n := by
    rw [parseUnsigned_toDigits]
    exact Option.filter_eq_some_iff.mpr ⟨rfl,decide_eq_true short⟩
  simp [parseTCFromChunkKey,splitKey_chunkKeyOf,part shortT,part shortC]

namespace RegridPlan

structure Sound (plan : RegridPlan) : Prop where
  width : 0 < plan.sampleBytes
  positive : 0 < plan.stored.z ∧ 0 < plan.stored.y ∧ 0 < plan.stored.x
  starts : plan.origin.All (· < ·) plan.ends
  clipped : plan.ends.All (· ≤ ·) (Zyx.zip (· + ·) plan.origin plan.served)
  short : plan.ends.z < 2^64 ∧ plan.ends.y < 2^64 ∧ plan.ends.x < 2^64
  servedFits : plan.served.volume*plan.sampleBytes < 2^64
  storedFits : plan.stored.volume*plan.sampleBytes < 2^64

def Reaches (plan : RegridPlan) : Prop := plan.ends.All (fun stop size => (stop-1)/size*size+size < 2^64) plan.stored

theorem byteAt_ok {width : Nat} {corner shape : Zyx} {z y x : Nat} (positive : 0 < width) (fits : shape.volume*width < 2^64)
    (plane : corner.z ≤ z ∧ z < corner.z+shape.z) (row : corner.y ≤ y ∧ y < corner.y+shape.y)
    (column : corner.x ≤ x ∧ x < corner.x+shape.x) :
    byteAt (ε := ε) width corner shape z y x = .ok (shape.index ⟨z-corner.z,y-corner.y,x-corner.x⟩*width) := by
  have whole : shape.volume ≤ shape.volume*width := Nat.le_mul_of_pos_right _ positive
  have inside : shape.index ⟨z-corner.z,y-corner.y,x-corner.x⟩ < shape.volume :=
    Zyx.index_lt ⟨by show z-corner.z < _; omega,by show y-corner.y < _; omega,by show x-corner.x < _; omega⟩
  have scaled : shape.index ⟨z-corner.z,y-corner.y,x-corner.x⟩*width < 2^64 :=
    Nat.lt_trans (Nat.mul_lt_mul_of_pos_right inside positive) fits
  unfold Zyx.index rowMajor at inside scaled
  have line : (z-corner.z)*shape.y+(y-corner.y) ≤ ((z-corner.z)*shape.y+(y-corner.y))*shape.x :=
    Nat.le_mul_of_pos_right _ (by omega)
  dsimp only at inside scaled
  unfold byteAt
  rw [Checked.sub_ok plane.1,Checked.sub_ok row.1,Checked.sub_ok column.1]
  simp only [bind,Except.bind]
  rw [Checked.mul_ok (by omega)]
  dsimp only
  rw [Checked.add_ok (by omega)]
  dsimp only
  rw [Checked.mul_ok (by omega)]
  dsimp only
  rw [Checked.add_ok (by omega)]
  dsimp only
  rw [Checked.mul_ok scaled]
  rfl

theorem axis_meets {origin ends stored grid : Nat} (positive : 0 < stored) (starts : origin < ends) (low : origin/stored ≤ grid)
    (high : grid ≤ (ends-1)/stored) : max origin (grid*stored) < min ends (grid*stored+stored) := by
  have first : origin < grid*stored+stored := by
    have below := (Nat.div_lt_iff_lt_mul positive).mp (Nat.lt_succ_of_le low)
    rwa [Nat.succ_mul] at below
  have last : grid*stored ≤ ends-1 := (Nat.le_div_iff_mul_le positive).mp high
  omega

theorem axis_within {origin stored g : Nat} (ends grid : Nat) (positive : 0 < stored) (after : origin ≤ g) :
    max origin (grid*stored) ≤ g ∧ g < min ends (grid*stored+stored) ↔ g/stored = grid ∧ g < ends := by
  rw [Nat.div_eq_iff positive]
  have shifted : grid*stored+stored-1+1 = grid*stored+stored := by omega
  omega

section
variable {plan : RegridPlan} {base lo : Zyx} {n z y : Nat} {wire out : Bytes}

structure Row (plan : RegridPlan) (base lo : Zyx) (n z y : Nat) : Prop where
  some : 0 < n
  plane : base.z ≤ z ∧ z < base.z+plan.stored.z
  line : base.y ≤ y ∧ y < base.y+plan.stored.y
  run : base.x ≤ lo.x ∧ lo.x+n ≤ base.x+plan.stored.x
  plane' : plan.origin.z ≤ z ∧ z < plan.origin.z+plan.served.z
  line' : plan.origin.y ≤ y ∧ y < plan.origin.y+plan.served.y
  run' : plan.origin.x ≤ lo.x ∧ lo.x+n ≤ plan.origin.x+plan.served.x

theorem run_fits {shape corner : Zyx} (width : Nat) (positive : 0 < n) (plane : corner.z ≤ z ∧ z < corner.z+shape.z)
    (line : corner.y ≤ y ∧ y < corner.y+shape.y) (run : corner.x ≤ lo.x ∧ lo.x+n ≤ corner.x+shape.x) :
    (shape.index ⟨z-corner.z,y-corner.y,lo.x-corner.x⟩+n)*width ≤ shape.volume*width := by
  have last : shape.index ⟨z-corner.z,y-corner.y,lo.x-corner.x+(n-1)⟩ < shape.volume :=
    Zyx.index_lt ⟨by show z-corner.z < _; omega,by show y-corner.y < _; omega,by show lo.x-corner.x+(n-1) < _; omega⟩
  refine Nat.mul_le_mul_right _ ?_
  simp only [Zyx.index,rowMajor_add] at last ⊢
  omega

theorem copyRow_ok (sound : plan.Sound) (row : Row plan base lo n z y) (wired : wire.length = plan.stored.volume*plan.sampleBytes)
    (sized : out.length = plan.served.volume*plan.sampleBytes) :
    plan.copyRow (ε := ε) base lo (n*plan.sampleBytes) wire out z y = .ok (overwrite out
      (plan.served.index ⟨z-plan.origin.z,y-plan.origin.y,lo.x-plan.origin.x⟩*plan.sampleBytes)
      ((wire.drop (plan.stored.index ⟨z-base.z,y-base.y,lo.x-base.x⟩*plan.sampleBytes)).take (n*plan.sampleBytes))) := by
  have some := row.some
  have column : base.x ≤ lo.x ∧ lo.x < base.x+plan.stored.x := ⟨row.run.1,by have := row.run.2; omega⟩
  have column' : plan.origin.x ≤ lo.x ∧ lo.x < plan.origin.x+plan.served.x := ⟨row.run'.1,by have := row.run'.2; omega⟩
  have source := run_fits plan.sampleBytes some row.plane row.line row.run
  have target := run_fits plan.sampleBytes some row.plane' row.line' row.run'
  rw [Nat.add_mul] at source target
  have storedFits := sound.storedFits
  have servedFits := sound.servedFits
  unfold copyRow
  rw [byteAt_ok sound.width storedFits row.plane row.line column,byteAt_ok sound.width servedFits row.plane' row.line' column']
  simp only [bind,Except.bind]
  rw [Checked.add_ok (by omega)]
  dsimp only
  rw [Checked.add_ok (by omega)]
  dsimp only
  rw [if_pos ⟨by omega,by omega⟩]
  rfl

theorem sample_copyRow (row : Row plan base lo n z y) (wired : wire.length = plan.stored.volume*plan.sampleBytes)
    (sized : out.length = plan.served.volume*plan.sampleBytes) {p : Zyx} (inside : p.All (· < ·) plan.served) :
    sample plan.sampleBytes (overwrite out
        (plan.served.index ⟨z-plan.origin.z,y-plan.origin.y,lo.x-plan.origin.x⟩*plan.sampleBytes)
        ((wire.drop (plan.stored.index ⟨z-base.z,y-base.y,lo.x-base.x⟩*plan.sampleBytes)).take (n*plan.sampleBytes)))
        (plan.served.index p) =
      if plan.origin.z+p.z = z ∧ plan.origin.y+p.y = y ∧ lo.x ≤ plan.origin.x+p.x ∧ plan.origin.x+p.x < lo.x+n then
        sample plan.sampleBytes wire (plan.stored.index ⟨z-base.z,y-base.y,plan.origin.x+p.x-base.x⟩)
      else sample plan.sampleBytes out (plan.served.index p) := by
  have plane' := row.plane'
  have line' := row.line'
  have run := row.run
  have run' := row.run'
  have source := run_fits plan.sampleBytes row.some row.plane row.line row.run
  have target := run_fits plan.sampleBytes row.some row.plane' row.line' row.run'
  rw [← sized] at target
  rw [← wired] at source
  rw [sample_overwrite target source]
  have here := rowMajor_run (n := n) p.z (z-plan.origin.z) inside.2.1
    (show y-plan.origin.y < plan.served.y by omega) inside.2.2 (show lo.x-plan.origin.x+n ≤ plan.served.x by omega)
  by_cases within : plan.origin.z+p.z = z ∧ plan.origin.y+p.y = y ∧ lo.x ≤ plan.origin.x+p.x ∧ plan.origin.x+p.x < lo.x+n
  · have plane : p.z = z-plan.origin.z := by omega
    have line : p.y = y-plan.origin.y := by omega
    have place : plan.served.index p = plan.served.index ⟨z-plan.origin.z,y-plan.origin.y,lo.x-plan.origin.x⟩+(plan.origin.x+p.x-lo.x) := by
      have ahead : p.x = lo.x-plan.origin.x+(plan.origin.x+p.x-lo.x) := by omega
      unfold Zyx.index
      rw [← rowMajor_add,← ahead,plane,line]
    have place' : plan.stored.index ⟨z-base.z,y-base.y,plan.origin.x+p.x-base.x⟩ =
        plan.stored.index ⟨z-base.z,y-base.y,lo.x-base.x⟩+(plan.origin.x+p.x-lo.x) := by
      have ahead : plan.origin.x+p.x-base.x = lo.x-base.x+(plan.origin.x+p.x-lo.x) := by omega
      unfold Zyx.index
      rw [← rowMajor_add,← ahead]
    rw [if_pos within,if_pos ⟨by omega,by omega⟩,place',place,Nat.add_sub_cancel_left]
  · rw [if_neg within,if_neg]
    intro between
    obtain ⟨plane,line,low,high⟩ := here.mp between
    exact within ⟨by omega,by omega,by omega,by omega⟩

end

def Meets (plan : RegridPlan) (grid : Zyx) : Prop :=
  (plan.origin.z/plan.stored.z ≤ grid.z ∧ grid.z ≤ (plan.ends.z-1)/plan.stored.z) ∧
  (plan.origin.y/plan.stored.y ≤ grid.y ∧ grid.y ≤ (plan.ends.y-1)/plan.stored.y) ∧
  plan.origin.x/plan.stored.x ≤ grid.x ∧ grid.x ≤ (plan.ends.x-1)/plan.stored.x

def voxel (plan : RegridPlan) (p : Zyx) : Zyx := Zyx.zip (· + ·) plan.origin p

theorem axis_base {ends stored grid : Nat} (positive : 0 < stored) (high : grid ≤ (ends-1)/stored) :
    grid*stored ≤ ends-1 ∧ grid*stored+stored ≤ (ends-1)/stored*stored+stored :=
  ⟨(Nat.le_div_iff_mul_le positive).mp high,Nat.add_le_add_right (Nat.mul_le_mul_right _ high) _⟩

section
variable (plan : RegridPlan) (grid : Zyx)

def base : Zyx := Zyx.zip (· * ·) grid plan.stored

def lo : Zyx := Zyx.zip max plan.origin (plan.base grid)

def hi : Zyx := Zyx.zip min plan.ends (Zyx.zip (· + ·) (plan.base grid) plan.stored)

def rows : List (Nat × Nat) :=
  List.range' (plan.lo grid).z ((plan.hi grid).z-(plan.lo grid).z) ×ˢ List.range' (plan.lo grid).y ((plan.hi grid).y-(plan.lo grid).y)

end

section
variable {plan : RegridPlan} {grid : Zyx} {z y : Nat} {wire out : Bytes}

theorem meets_some (sound : plan.Sound) (meets : plan.Meets grid) : (plan.lo grid).All (· < ·) (plan.hi grid) :=
  ⟨axis_meets sound.positive.1 sound.starts.1 meets.1.1 meets.1.2,
    axis_meets sound.positive.2.1 sound.starts.2.1 meets.2.1.1 meets.2.1.2,
    axis_meets sound.positive.2.2 sound.starts.2.2 meets.2.2.1 meets.2.2.2⟩

theorem mem_rows : (z,y) ∈ plan.rows grid ↔
    ((plan.lo grid).z ≤ z ∧ z < (plan.hi grid).z) ∧ (plan.lo grid).y ≤ y ∧ y < (plan.hi grid).y := by
  unfold rows
  rw [List.mem_product,List.mem_range'_1,List.mem_range'_1]
  omega

theorem row_of_mem (sound : plan.Sound) (meets : plan.Meets grid) (member : (z,y) ∈ plan.rows grid) :
    Row plan (plan.base grid) (plan.lo grid) ((plan.hi grid).x-(plan.lo grid).x) z y := by
  obtain ⟨planes,lines⟩ := mem_rows.mp member
  obtain ⟨_,_,some⟩ := meets_some sound meets
  obtain ⟨clipZ,clipY,clipX⟩ := sound.clipped
  constructor <;> simp only [lo,hi,base,Zyx.zip] at planes lines some clipZ clipY clipX ⊢ <;> omega

-- The arithmetic before the loop stays within the word.
theorem copy_loop {source : StoredSource} (sound : plan.Sound) (reaches : plan.Reaches) (meets : plan.Meets source.grid) :
    plan.copy (ε := ε) source wire out = (plan.rows source.grid).foldlM (fun out row =>
      plan.copyRow (plan.base source.grid) (plan.lo source.grid)
        (((plan.hi source.grid).x-(plan.lo source.grid).x)*plan.sampleBytes) wire out row.1 row.2) out := by
  obtain ⟨posZ,posY,posX⟩ := sound.positive
  obtain ⟨shortZ,shortY,shortX⟩ := sound.short
  obtain ⟨reachZ,reachY,reachX⟩ := reaches
  obtain ⟨baseZ,endZ⟩ := axis_base posZ meets.1.2
  obtain ⟨baseY,endY⟩ := axis_base posY meets.2.1.2
  obtain ⟨baseX,endX⟩ := axis_base posX meets.2.2.2
  have based : Zyx.zipM (Checked.mul (ε := ε)) source.grid plan.stored = .ok (plan.base source.grid) :=
    Zyx.zipM_ok (Checked.mul_ok (by omega)) (Checked.mul_ok (by omega)) (Checked.mul_ok (by omega))
  have reached : Zyx.zipM (Checked.add (ε := ε)) (plan.base source.grid) plan.stored =
      .ok (Zyx.zip (· + ·) (plan.base source.grid) plan.stored) :=
    Zyx.zipM_ok (Checked.add_ok (Nat.lt_of_le_of_lt endZ reachZ)) (Checked.add_ok (Nat.lt_of_le_of_lt endY reachY))
      (Checked.add_ok (Nat.lt_of_le_of_lt endX reachX))
  obtain ⟨_,_,some⟩ := meets_some sound meets
  have run : ((plan.hi source.grid).x-(plan.lo source.grid).x)*plan.sampleBytes < 2^64 := by
    have short : (plan.hi source.grid).x-(plan.lo source.grid).x ≤ plan.stored.volume := by
      have row : plan.stored.x ≤ plan.stored.volume := Nat.le_mul_of_pos_left _ (Nat.mul_pos posZ posY)
      simp only [lo,hi,Zyx.zip]
      omega
    exact Nat.lt_of_le_of_lt (Nat.mul_le_mul_right _ short) sound.storedFits
  unfold copy
  simp only [based,reached,bind,Except.bind]
  rw [show Zyx.zip max plan.origin (plan.base source.grid) = plan.lo source.grid from rfl,
    show Zyx.zip min plan.ends (Zyx.zip (· + ·) (plan.base source.grid) plan.stored) = plan.hi source.grid from rfl,
    Checked.sub_ok (Nat.le_of_lt some)]
  dsimp only
  rw [Checked.mul_ok run]
  rfl

theorem voxel_within (sound : plan.Sound) (grid p : Zyx) :
    ((plan.lo grid).All (· ≤ ·) (plan.voxel p) ∧ (plan.voxel p).All (· < ·) (plan.hi grid)) ↔
      Zyx.zip (· / ·) (plan.voxel p) plan.stored = grid ∧ (plan.voxel p).All (· < ·) plan.ends := by
  have alongZ := axis_within plan.ends.z grid.z sound.positive.1 (Nat.le_add_right plan.origin.z p.z)
  have alongY := axis_within plan.ends.y grid.y sound.positive.2.1 (Nat.le_add_right plan.origin.y p.y)
  have alongX := axis_within plan.ends.x grid.x sound.positive.2.2 (Nat.le_add_right plan.origin.x p.x)
  constructor
  · intro ⟨⟨lowZ,lowY,lowX⟩,highZ,highY,highX⟩
    obtain ⟨cellZ,belowZ⟩ := alongZ.mp ⟨lowZ,highZ⟩
    obtain ⟨cellY,belowY⟩ := alongY.mp ⟨lowY,highY⟩
    obtain ⟨cellX,belowX⟩ := alongX.mp ⟨lowX,highX⟩
    refine ⟨?_,belowZ,belowY,belowX⟩
    simp only [Zyx.zip,voxel,cellZ,cellY,cellX]
  · intro ⟨cell,belowZ,belowY,belowX⟩
    obtain ⟨lowZ,highZ⟩ := alongZ.mpr ⟨congrArg Zyx.z cell,belowZ⟩
    obtain ⟨lowY,highY⟩ := alongY.mpr ⟨congrArg Zyx.y cell,belowY⟩
    obtain ⟨lowX,highX⟩ := alongX.mpr ⟨congrArg Zyx.x cell,belowX⟩
    exact ⟨⟨lowZ,lowY,lowX⟩,highZ,highY,highX⟩

def Copied (plan : RegridPlan) (grid : Zyx) (wire out : Bytes) (done : List (Nat × Nat)) (out' : Bytes) : Prop :=
  out'.length = plan.served.volume*plan.sampleBytes ∧
  ∀ p : Zyx, p.All (· < ·) plan.served → sample plan.sampleBytes out' (plan.served.index p) =
    if ((plan.voxel p).z,(plan.voxel p).y) ∈ done ∧ (plan.lo grid).x ≤ (plan.voxel p).x ∧ (plan.voxel p).x < (plan.hi grid).x then
      sample plan.sampleBytes wire
        (plan.stored.index ⟨(plan.voxel p).z-(plan.base grid).z,(plan.voxel p).y-(plan.base grid).y,(plan.voxel p).x-(plan.base grid).x⟩)
    else sample plan.sampleBytes out (plan.served.index p)

theorem Copied.row {done : List (Nat × Nat)} {before : Bytes} (sound : plan.Sound) (meets : plan.Meets grid)
    (wired : wire.length = plan.stored.volume*plan.sampleBytes) (copied : Copied plan grid wire out done before)
    (member : (z,y) ∈ plan.rows grid) :
    ∃ after, plan.copyRow (ε := ε) (plan.base grid) (plan.lo grid) (((plan.hi grid).x-(plan.lo grid).x)*plan.sampleBytes) wire before z y =
      .ok after ∧ Copied plan grid wire out (done++[(z,y)]) after := by
  obtain ⟨sized,shown⟩ := copied
  have row := row_of_mem sound meets member
  obtain ⟨_,_,some⟩ := meets_some sound meets
  refine ⟨_,copyRow_ok sound row wired sized,?_,?_⟩
  · have target := run_fits plan.sampleBytes row.some row.plane' row.line' row.run'
    have source := run_fits plan.sampleBytes row.some row.plane row.line row.run
    rw [← sized,Nat.add_mul] at target
    rw [← wired,Nat.add_mul] at source
    rw [length_overwrite,sized]
    rw [List.length_take,List.length_drop]
    omega
  · intro p inside
    rw [sample_copyRow row wired sized inside,shown p inside]
    have upto : (plan.lo grid).x+((plan.hi grid).x-(plan.lo grid).x) = (plan.hi grid).x := by omega
    simp only [upto,List.mem_append,List.mem_singleton,Prod.mk.injEq]
    by_cases here : plan.origin.z+p.z = z ∧ plan.origin.y+p.y = y ∧ (plan.lo grid).x ≤ plan.origin.x+p.x ∧ plan.origin.x+p.x < (plan.hi grid).x
    · obtain ⟨plane,line,between⟩ := here
      rw [if_pos ⟨plane,line,between⟩,if_pos ⟨.inr ⟨plane,line⟩,between⟩]
      simp only [voxel,Zyx.zip,plane,line]
    · rw [if_neg here]
      refine if_congr ?_ rfl rfl
      constructor
      · intro ⟨member,between⟩
        exact ⟨.inl member,between⟩
      · intro ⟨member,between⟩
        rcases member with member | ⟨plane,line⟩
        · exact ⟨member,between⟩
        · exact absurd ⟨plane,line,between⟩ here

theorem axis_remainder {stored g grid : Nat} (cell : g/stored = grid) : g-grid*stored = g%stored := by
  rw [← cell,Nat.mod_eq_sub_div_mul]

theorem copy_ok {source : StoredSource} (sound : plan.Sound) (reaches : plan.Reaches) (meets : plan.Meets source.grid)
    (wired : wire.length = plan.stored.volume*plan.sampleBytes) (sized : out.length = plan.served.volume*plan.sampleBytes) :
    ∃ out', plan.copy (ε := ε) source wire out = .ok out' ∧ out'.length = plan.served.volume*plan.sampleBytes ∧
      ∀ p : Zyx, p.All (· < ·) plan.served → sample plan.sampleBytes out' (plan.served.index p) =
        if Zyx.zip (· / ·) (plan.voxel p) plan.stored = source.grid ∧ (plan.voxel p).All (· < ·) plan.ends then
          sample plan.sampleBytes wire (plan.stored.index (Zyx.zip (· % ·) (plan.voxel p) plan.stored))
        else sample plan.sampleBytes out (plan.served.index p) := by
  have start : Copied plan source.grid wire out [] out := ⟨sized,fun p _ => by simp⟩
  obtain ⟨out',ran,sized',shown⟩ := foldlM_reaches (P := Copied plan source.grid wire out)
    (fun done row before member copied => copied.row sound meets wired member) start
  refine ⟨out',(copy_loop sound reaches meets).trans ran,sized',fun p inside => ?_⟩
  rw [shown p inside]
  have within := voxel_within sound source.grid p
  by_cases here : Zyx.zip (· / ·) (plan.voxel p) plan.stored = source.grid ∧ (plan.voxel p).All (· < ·) plan.ends
  · obtain ⟨⟨lowZ,lowY,lowX⟩,highZ,highY,highX⟩ := within.mpr here
    rw [if_pos here,if_pos ⟨mem_rows.mpr ⟨⟨lowZ,highZ⟩,lowY,highY⟩,lowX,highX⟩]
    congr 2
    simp only [Zyx.zip,base,← axis_remainder (congrArg Zyx.z here.1),← axis_remainder (congrArg Zyx.y here.1),
      ← axis_remainder (congrArg Zyx.x here.1)]
  · rw [if_neg here,if_neg]
    intro ⟨member,between⟩
    obtain ⟨planes,lines⟩ := mem_rows.mp member
    exact here (within.mp ⟨⟨planes.1,lines.1,between.1⟩,planes.2,lines.2,between.2⟩)

theorem copy_reaches {source : StoredSource} {out' : Bytes} (copied : plan.copy (ε := ε) source wire out = .ok out') :
    source.grid.All (fun grid size => grid*size+size < 2^64) plan.stored := by
  have fits {grid size base reach : Nat} (first : Checked.mul (ε := ε) grid size = .ok base)
      (second : Checked.add (ε := ε) base size = .ok reach) : grid*size+size < 2^64 := by
    rw [← Checked.mul_eq first]
    exact Checked.add_fits second
  unfold copy at copied
  obtain ⟨base,based,copied⟩ := bind_ok copied
  obtain ⟨reach,reached,_⟩ := bind_ok copied
  obtain ⟨baseZ,baseY,baseX⟩ := Zyx.zipM_some based
  obtain ⟨reachZ,reachY,reachX⟩ := Zyx.zipM_some reached
  exact ⟨fits baseZ reachZ,fits baseY reachY,fits baseX reachX⟩

def grids (plan : RegridPlan) : List Zyx :=
  let range first stop := List.range' first (stop+1-first)
  (range (plan.origin.z/plan.stored.z) ((plan.ends.z-1)/plan.stored.z) ×ˢ
    range (plan.origin.y/plan.stored.y) ((plan.ends.y-1)/plan.stored.y) ×ˢ
    range (plan.origin.x/plan.stored.x) ((plan.ends.x-1)/plan.stored.x)).map fun (gz,gy,gx) => ⟨gz,gy,gx⟩

def source (plan : RegridPlan) (grid : Zyx) : StoredSource := ⟨chunkKeyOf plan.level plan.t plan.c grid,grid⟩

theorem mem_between {first stop g : Nat} : g ∈ List.range' first (stop+1-first) ↔ first ≤ g ∧ g ≤ stop := by
  rw [List.mem_range'_1]
  omega

theorem mem_grids : grid ∈ plan.grids ↔ plan.Meets grid := by
  unfold grids Meets
  simp only [List.mem_map,List.mem_product,mem_between,Prod.exists]
  constructor
  · intro ⟨gz,gy,gx,meets,same⟩
    subst same
    exact meets
  · intro meets
    exact ⟨grid.z,grid.y,grid.x,meets,rfl⟩

theorem grids_nodup (plan : RegridPlan) : plan.grids.Nodup := by
  unfold grids
  refine List.Nodup.map ?_ (.product (List.nodup_range' 1) (.product (List.nodup_range' 1) (List.nodup_range' 1)))
  intro ⟨gz,gy,gx⟩ ⟨gz',gy',gx'⟩ same
  cases same
  rfl

theorem storedChunks_ok (sound : plan.Sound) : plan.storedChunks (ε := ε) = .ok (plan.grids.map plan.source) := by
  obtain ⟨startZ,startY,startX⟩ := sound.starts
  have last : Zyx.zipM (Checked.sub (ε := ε)) plan.ends ⟨1,1,1⟩ = .ok ⟨plan.ends.z-1,plan.ends.y-1,plan.ends.x-1⟩ :=
    Zyx.zipM_ok (Checked.sub_ok (by show 1 ≤ plan.ends.z; omega)) (Checked.sub_ok (by show 1 ≤ plan.ends.y; omega))
      (Checked.sub_ok (by show 1 ≤ plan.ends.x; omega))
  unfold storedChunks
  simp only [last,bind,Except.bind,pure,Except.pure,grids,List.map_map]
  rfl

end

end RegridPlan

end Lucida.Server
