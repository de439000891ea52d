import Lucida.Proxy.Generate

namespace Lucida.Proxy
open Lib Content.Graph
open Server (Zyx)

section Loops
variable {α β ε : Type} {f : β → α → Except ε β} {g : β → α → β} {inside : β → Prop} [DecidablePred inside] {stop : ε}

theorem foldlM_within {items : List α} {b : β} (turn : ∀ b, inside b → ∀ a ∈ items, f b a = if inside (g b a) then .ok (g b a) else .error stop)
    (back : ∀ b, ∀ a ∈ items, inside (g b a) → inside b) (start : inside b) :
    items.foldlM f b = if inside (items.foldl g b) then .ok (items.foldl g b) else .error stop := by
  have backAll : ∀ (rest : List α) b, (∀ a ∈ rest, a ∈ items) → inside (rest.foldl g b) → inside b := by
    intro rest
    induction rest with
    | nil => exact fun b _ kept => kept
    | cons a rest ih =>
      intro b members kept
      obtain ⟨first,later⟩ := List.forall_mem_cons.mp members
      exact back b a first (ih (g b a) later kept)
  induction items generalizing b with
  | nil => exact (if_pos start).symm
  | cons a items ih =>
    rw [List.foldlM_cons,turn b start a List.mem_cons_self,List.foldl_cons]
    by_cases kept : inside (g b a)
    · rw [if_pos kept,ok_then]
      exact ih (fun b kept a member => turn b kept a (List.mem_cons_of_mem _ member))
        (fun b a member => back b a (List.mem_cons_of_mem _ member)) kept fun rest b members =>
          backAll rest b fun a member => List.mem_cons_of_mem _ (members a member)
    · rw [if_neg kept,if_neg fun last => kept (backAll items _ (fun _ member => List.mem_cons_of_mem _ member) last)]
      rfl

theorem panic_of_not_ok {α : Type} {ran : Except (Stop Empty) α} (never : ∀ a, ran ≠ .ok a) : ran = .error .panic := by
  cases ran with
  | ok a => exact absurd rfl (never a)
  | error cause =>
    cases cause with
    | panic => rfl
    | error none' => exact none'.elim

end Loops

section Words
variable {ε : Type} {limit n m : Nat} {dims p : Zyx}

theorem word_ok (fits : n < limit) : word (ε := ε) limit n = .ok n := if_pos fits

theorem word_fits (made : word (ε := ε) limit n = .ok m) : m = n ∧ n < limit := by
  unfold word at made
  split at made
  · cases made
    exact ⟨rfl,by assumption⟩
  · cases made

theorem rowAt_ok {z y : Nat} (wide : 0 < dims.x) (fits : (z*dims.y+y)*dims.x < limit) :
    rowAt (ε := ε) limit dims z y = .ok ((z*dims.y+y)*dims.x) := by
  have line : z*dims.y+y ≤ (z*dims.y+y)*dims.x := Nat.le_mul_of_pos_right _ wide
  unfold rowAt
  rw [word_ok (by omega),ok_then,word_ok (by omega),ok_then,word_ok fits]

theorem rowAt_eq {z y : Nat} (made : rowAt (ε := ε) limit dims z y = .ok m) : m = (z*dims.y+y)*dims.x := by
  unfold rowAt at made
  obtain ⟨plane,first,made⟩ := bind_ok made
  obtain ⟨line,second,made⟩ := bind_ok made
  rw [(word_fits made).1,(word_fits second).1,(word_fits first).1]

theorem voxelAt_ok (wide : 0 < dims.x) (fits : dims.index p < limit) : voxelAt (ε := ε) limit dims p = .ok (dims.index p) := by
  unfold Zyx.index rowMajor at fits
  unfold voxelAt
  rw [rowAt_ok wide (by omega),ok_then,word_ok fits]
  rfl

theorem voxelAt_fits (made : voxelAt (ε := ε) limit dims p = .ok m) : m = dims.index p ∧ dims.index p < limit := by
  unfold voxelAt at made
  obtain ⟨row,first,made⟩ := bind_ok made
  obtain ⟨same,fits⟩ := word_fits made
  rw [rowAt_eq first] at same fits
  exact ⟨same,fits⟩

theorem allocate_ok (wide : 0 < dims.x) {width : Nat} (some' : 0 < width) (fits : dims.volume*width < 2^63) :
    allocate (ε := ε) dims width = .ok dims.volume := by
  have volume : dims.volume ≤ dims.volume*width := Nat.le_mul_of_pos_right _ some'
  have plane : dims.z*dims.y ≤ dims.volume := Nat.le_mul_of_pos_right _ wide
  unfold allocate
  rw [word_ok (by omega),ok_then]
  show (do let voxels ← word (2^64) dims.volume; _) = _
  rw [word_ok (by omega),ok_then]
  exact if_pos fits

theorem allocate_fits {width : Nat} (made : allocate (ε := ε) dims width = .ok m) : m = dims.volume ∧ dims.volume*width < 2^63 := by
  unfold allocate at made
  obtain ⟨plane,first,made⟩ := bind_ok made
  obtain ⟨voxels,second,made⟩ := bind_ok made
  rw [(word_fits first).1] at second
  have whole : voxels = dims.volume := (word_fits second).1
  split at made
  · next fits =>
    cases made
    exact ⟨whole,whole ▸ fits⟩
  · cases made

theorem mem_voxelsOf : p ∈ voxelsOf dims ↔ p.All (· < ·) dims := by
  unfold voxelsOf
  simp only [List.mem_map,List.mem_product,List.mem_range,Prod.exists]
  constructor
  · rintro ⟨z,y,x,within,rfl⟩
    exact within
  · exact fun within => ⟨p.z,p.y,p.x,within,rfl⟩

end Words

def boxSamples (data : List UInt16) (dims lo hi : Zyx) : List Nat :=
  (List.range' lo.z (hi.z-lo.z) ×ˢ List.range' lo.y (hi.y-lo.y)).flatMap fun row =>
    (List.range' lo.x (hi.x-lo.x)).map fun x => (data[dims.index ⟨row.1,row.2,x⟩]?.map UInt16.toNat).getD 0

section Sums
variable {limit : Nat} {data : List UInt16} {dims lo hi : Zyx}

def gather (sum : Nat × Nat) (sample : Nat) : Nat × Nat := (sum.1+sample,sum.2+1)

def Held (sum : Nat × Nat) : Prop := sum.1 < 2^64 ∧ sum.2 < 2^64

instance : DecidablePred Held := fun _ => inferInstanceAs (Decidable (_ ∧ _))

theorem foldl_gather (samples : List Nat) (sum : Nat × Nat) :
    samples.foldl gather sum = (sum.1+samples.sum,sum.2+samples.length) := by
  induction samples generalizing sum with
  | nil => rfl
  | cons sample samples ih =>
    rw [List.foldl_cons,ih]
    simp only [gather,List.sum_cons,List.length_cons]
    congr 1 <;> omega

theorem addSample_eq {row x : Nat} (fits : row+x < limit) (inside : row+x < data.length) {sum : Nat × Nat} :
    addSample limit data row sum x =
      if Held (gather sum ((data[row+x]?.map UInt16.toNat).getD 0)) then
        .ok (gather sum ((data[row+x]?.map UInt16.toNat).getD 0)) else .error .panic := by
  unfold addSample
  rw [word_ok fits,ok_then,List.getElem?_eq_getElem inside]
  dsimp only [Option.map_some,Option.getD_some,gather,Held]
  unfold word
  split
  · next short =>
    rw [ok_then]
    split
    · next few => exact (if_pos ⟨short,few⟩).symm
    · next many => exact (if_neg fun held => many held.2).symm
  · next long => exact (if_neg fun held => long held.1).symm

theorem addRow_eq {z y : Nat} (wide : 0 < dims.x) (inside : ∀ x ∈ List.range' lo.x (hi.x-lo.x), dims.index ⟨z,y,x⟩ < limit ∧ dims.index ⟨z,y,x⟩ < data.length)
    (fits : (z*dims.y+y)*dims.x < limit) {sum : Nat × Nat} (held : Held sum) :
    addRow limit data dims lo hi sum (z,y) =
      let samples := (List.range' lo.x (hi.x-lo.x)).map fun x => (data[dims.index ⟨z,y,x⟩]?.map UInt16.toNat).getD 0
      if Held (samples.foldl gather sum) then .ok (samples.foldl gather sum) else .error .panic := by
  dsimp only
  unfold addRow
  rw [rowAt_ok wide fits,ok_then,List.foldl_map]
  exact foldlM_within (fun sum _ x member => addSample_eq (inside x member).1 (inside x member).2)
    (fun sum x _ held => ⟨Nat.lt_of_le_of_lt (Nat.le_add_right _ _) held.1,Nat.lt_of_le_of_lt (Nat.le_succ _) held.2⟩) held

theorem mem_range'_sub {first stop n : Nat} : n ∈ List.range' first (stop-first) ↔ first ≤ n ∧ n < stop := by
  rw [List.mem_range'_1]
  omega

theorem Held.back {samples : List Nat} {sum : Nat × Nat} (held : Held (samples.foldl gather sum)) : Held sum := by
  rw [foldl_gather] at held
  exact ⟨Nat.lt_of_le_of_lt (Nat.le_add_right _ _) held.1,Nat.lt_of_le_of_lt (Nat.le_add_right _ _) held.2⟩

-- The samples of a box within the volume are summed, unless the sum leaves its word.
theorem sumBox_eq (sized : data.length = dims.volume) (wide : lo.x < hi.x) (inside : hi.All (· ≤ ·) dims)
    (fits : ∀ p : Zyx, p.All (· < ·) hi → dims.index p < limit) :
    sumBox limit data dims lo hi =
      if Held ((boxSamples data dims lo hi).sum,(boxSamples data dims lo hi).length) then
        .ok ((boxSamples data dims lo hi).sum,(boxSamples data dims lo hi).length) else .error .panic := by
  have whole : (boxSamples data dims lo hi).foldl gather (0,0) = ((boxSamples data dims lo hi).sum,(boxSamples data dims lo hi).length) := by
    rw [foldl_gather,Nat.zero_add,Nat.zero_add]
  rw [← whole]
  unfold boxSamples sumBox
  rw [List.foldl_flatMap]
  refine foldlM_within (fun sum held row member => ?_) (fun _ _ _ held => held.back) ⟨by decide,by decide⟩
  obtain ⟨planes,rows⟩ := List.mem_product.mp member
  have plane := (mem_range'_sub.mp planes).2
  have line := (mem_range'_sub.mp rows).2
  have within (x : Nat) (column : x < hi.x) : dims.index ⟨row.1,row.2,x⟩ < data.length := by
    rw [sized]
    exact Zyx.index_lt ⟨plane.trans_le inside.1,line.trans_le inside.2.1,column.trans_le inside.2.2⟩
  refine addRow_eq (by have := inside.2.2; omega) (fun x columns => ?_) (fits ⟨row.1,row.2,0⟩ ⟨plane,line,by show 0 < hi.x; omega⟩) held
  have column := (mem_range'_sub.mp columns).2
  exact ⟨fits ⟨row.1,row.2,x⟩ ⟨plane,line,column⟩,within x column⟩

theorem sumBox_panics {p : Zyx} (after : lo.All (· ≤ ·) p) (before : p.All (· < ·) hi) (far : limit ≤ dims.index p) :
    sumBox limit data dims lo hi = .error .panic := by
  refine panic_of_not_ok fun sum => foldlM_fails
    (List.mem_product.mpr ⟨mem_range'_sub.mpr ⟨after.1,before.1⟩,mem_range'_sub.mpr ⟨after.2.1,before.2.1⟩⟩) fun before' after' ran => ?_
  unfold addRow at ran
  obtain ⟨offset,row,ran⟩ := bind_ok ran
  refine foldlM_fails (mem_range'_sub.mpr ⟨after.2.2,before.2.2⟩) (fun before' after' ran => ?_) ran
  unfold addSample at ran
  obtain ⟨place,made,_⟩ := bind_ok ran
  have short := (word_fits made).2
  rw [rowAt_eq row] at short
  exact absurd short (Nat.not_lt.mpr far)

theorem length_boxSamples : (boxSamples data dims lo hi).length = (hi.z-lo.z)*(hi.y-lo.y)*(hi.x-lo.x) := by
  unfold boxSamples
  rw [List.length_flatMap]
  simp [List.map_const',List.length_product]

variable (data dims lo hi) in
theorem sum_boxSamples_le : (boxSamples data dims lo hi).sum ≤ (boxSamples data dims lo hi).length*(2^16-1) := by
  refine List.sum_le_card_nsmul _ _ fun sample member => ?_
  obtain ⟨row,_,member⟩ := List.mem_flatMap.mp member
  obtain ⟨x,_,rfl⟩ := List.mem_map.mp member
  cases data[dims.index ⟨row.1,row.2,x⟩]? with
  | none => exact Nat.zero_le _
  | some sample => exact Nat.le_pred_of_lt sample.toNat_lt

variable (data lo) in
theorem length_boxSamples_le (inside : hi.All (· ≤ ·) dims) : (boxSamples data dims lo hi).length ≤ dims.volume := by
  rw [length_boxSamples]
  exact Nat.mul_le_mul (Nat.mul_le_mul ((Nat.sub_le _ _).trans inside.1) ((Nat.sub_le _ _).trans inside.2.1))
    ((Nat.sub_le _ _).trans inside.2.2)

end Sums

section Tile
variable {data : List UInt16} {dims out : Zyx} {targetLongAxis : Nat}

theorem boxBounds_spec {oi outSize inSize : Nat} (wide : outSize ≤ inSize) (shown : oi < outSize) :
    (boxBounds oi outSize inSize).1 < (boxBounds oi outSize inSize).2 ∧ (boxBounds oi outSize inSize).2 ≤ inSize ∧
      (oi+1 = outSize → (boxBounds oi outSize inSize).2 = inSize) := by
  have some' : 0 < outSize := Nat.zero_lt_of_lt shown
  have rises : oi*inSize/outSize < (oi+1)*inSize/outSize := by
    calc oi*inSize/outSize < (oi*inSize+outSize)/outSize := by rw [Nat.add_div_right _ some']; exact Nat.lt_succ_self _
      _ ≤ (oi+1)*inSize/outSize := Nat.div_le_div_right (by rw [Nat.succ_mul]; omega)
  have eq : (boxBounds oi outSize inSize).2 = (oi+1)*inSize/outSize := if_neg (Nat.not_le.mpr rises)
  rw [eq]
  refine ⟨rises,Nat.div_le_of_le_mul (Nat.mul_le_mul_right _ shown),fun last => ?_⟩
  rw [last,Nat.mul_div_cancel_left _ some']

theorem volume_le {a b : Zyx} (le : a.All (· ≤ ·) b) : a.volume ≤ b.volume :=
  Nat.mul_le_mul (Nat.mul_le_mul le.1 le.2.1) le.2.2

theorem last_index {shape : Zyx} (some' : 0 < shape.z ∧ 0 < shape.y ∧ 0 < shape.x) :
    shape.index ⟨shape.z-1,shape.y-1,shape.x-1⟩+1 = shape.volume := by
  obtain ⟨⟨_ | z,_ | y,_ | x⟩,rfl⟩ : ∃ other, shape = other := ⟨_,rfl⟩
  all_goals first | simp at some'; done | skip
  simp only [Zyx.index,rowMajor,Zyx.volume,Nat.add_sub_cancel]
  ring

theorem filterVoxel_ok {o : Zyx} {result : List UInt16} (sized : data.length = dims.volume) (short : dims.volume ≤ 2^32)
    (smaller : out.All (· ≤ ·) dims) (shown : o.All (· < ·) out) (full : result.length = out.volume) :
    ∃ next, filterVoxel data dims out result o = .ok next ∧ next.length = out.volume := by
  obtain ⟨_,insideZ,_⟩ := boxBounds_spec smaller.1 shown.1
  obtain ⟨_,insideY,_⟩ := boxBounds_spec smaller.2.1 shown.2.1
  obtain ⟨riseX,insideX,_⟩ := boxBounds_spec smaller.2.2 shown.2.2
  have inside : (boxHi dims out o).All (· ≤ ·) dims := ⟨insideZ,insideY,insideX⟩
  have summed : sumBox (2^32) data dims (boxLo dims out o) (boxHi dims out o) = _ :=
    sumBox_eq sized riseX inside fun p within =>
      (Zyx.index_lt ⟨within.1.trans_le insideZ,within.2.1.trans_le insideY,within.2.2.trans_le insideX⟩).trans_le short
  have count := length_boxSamples_le data (boxLo dims out o) inside
  have total := sum_boxSamples_le data dims (boxLo dims out o) (boxHi dims out o)
  rw [if_pos ⟨by omega,by omega⟩] at summed
  have place : out.index o < out.volume := Zyx.index_lt shown
  have fits : out.volume ≤ 2^32 := (volume_le smaller).trans short
  unfold filterVoxel
  rw [summed,ok_then]
  dsimp only
  rw [voxelAt_ok (Nat.zero_lt_of_lt shown.2.2) (by omega),ok_then,if_pos (by omega)]
  exact ⟨_,rfl,by rw [List.length_set,full]⟩

variable (targetLongAxis) (R : Type) [Arithmetic R]

theorem boxFilter_ok (sized : data.length = dims.volume) (some' : 0 < dims.z ∧ 0 < dims.y ∧ 0 < dims.x) (short : dims.volume ≤ 2^32) :
    ∃ result out, boxFilterToTarget R data dims targetLongAxis = .ok (result,out) ∧ result.length = out.volume ∧
      ∀ ε : Type, targetDimsForLongAxis (ε := ε) R dims targetLongAxis = .ok out := by
  obtain ⟨out,made,positive,smaller⟩ := targetDims_ok R some' targetLongAxis
  have fits : out.volume ≤ 2^32 := (volume_le smaller).trans short
  obtain ⟨result,ran,full⟩ : ∃ result, (voxelsOf out).foldlM (filterVoxel data dims out) (List.replicate out.volume 0) = .ok result ∧
      result.length = out.volume :=
    foldlM_reaches (P := fun _ (result : List UInt16) => result.length = out.volume)
      (fun _ o result member full => filterVoxel_ok sized short smaller (mem_voxelsOf.mp member) full) List.length_replicate
  refine ⟨result,out,?_,full,made⟩
  unfold boxFilterToTarget
  rw [made Empty,ok_then,allocate_ok positive.2.2 (by decide) (by omega),ok_then,ran]
  rfl

theorem boxFilter_panics (some' : 0 < dims.z ∧ 0 < dims.y ∧ 0 < dims.x) (long : 2^32 < dims.volume) :
    boxFilterToTarget R data dims targetLongAxis = .error .panic := by
  obtain ⟨out,made,positive,smaller⟩ := targetDims_ok R some' targetLongAxis
  refine panic_of_not_ok fun filtered ran => ?_
  unfold boxFilterToTarget at ran
  rw [made Empty,ok_then] at ran
  obtain ⟨voxels,_,ran⟩ := bind_ok ran
  obtain ⟨result,ran,_⟩ := bind_ok ran
  have last : (⟨out.z-1,out.y-1,out.x-1⟩ : Zyx) ∈ voxelsOf out :=
    mem_voxelsOf.mpr ⟨by show out.z-1 < _; omega,by show out.y-1 < _; omega,by show out.x-1 < _; omega⟩
  refine foldlM_fails last (fun before after ran => ?_) ran
  obtain ⟨riseZ,_,endZ⟩ := boxBounds_spec smaller.1 (show out.z-1 < out.z by omega)
  obtain ⟨riseY,_,endY⟩ := boxBounds_spec smaller.2.1 (show out.y-1 < out.y by omega)
  obtain ⟨riseX,_,endX⟩ := boxBounds_spec smaller.2.2 (show out.x-1 < out.x by omega)
  have whole : boxHi dims out ⟨out.z-1,out.y-1,out.x-1⟩ = dims := by
    unfold boxHi
    rw [endZ (by omega),endY (by omega),endX (by omega)]
  have far := last_index some'
  have stopped : sumBox (2^32) data dims (boxLo dims out ⟨out.z-1,out.y-1,out.x-1⟩) (boxHi dims out ⟨out.z-1,out.y-1,out.x-1⟩) =
      .error .panic := by
    rw [whole]
    rw [endZ (by omega)] at riseZ
    rw [endY (by omega)] at riseY
    rw [endX (by omega)] at riseX
    refine sumBox_panics (p := ⟨dims.z-1,dims.y-1,dims.x-1⟩)
      ⟨Nat.le_pred_of_lt riseZ,Nat.le_pred_of_lt riseY,Nat.le_pred_of_lt riseX⟩ ⟨?_,?_,?_⟩ (by omega)
    · exact Nat.pred_lt_self some'.1
    · exact Nat.pred_lt_self some'.2.1
    · exact Nat.pred_lt_self some'.2.2
  unfold filterVoxel at ran
  obtain ⟨sum,ran,_⟩ := bind_ok ran
  cases stopped.symm.trans ran

end Tile

-- What a voxel is given in all, and how often.
section Gifts
variable {gifts : List (Nat × Nat)} {sums : List Nat × List Nat} {n i : Nat}

def totalAt (gifts : List (Nat × Nat)) (i : Nat) : Nat := ((gifts.filter fun gift => gift.1 = i).map Prod.snd).sum

def hitsAt (gifts : List (Nat × Nat)) (i : Nat) : Nat := (gifts.filter fun gift => gift.1 = i).length

def give (sums : List Nat × List Nat) (gift : Nat × Nat) : List Nat × List Nat :=
  (sums.1.modify gift.1 (· + gift.2),sums.2.modify gift.1 (· + 1))

structure Fits (n : Nat) (sums : List Nat × List Nat) : Prop where
  totals : sums.1.length = n
  hits : sums.2.length = n
  short : ∀ i < n, sums.1.getD i 0 < 2^64
  few : ∀ i < n, sums.2.getD i 0 < 2^32

theorem getD_modify {l : List Nat} {k : Nat} (short : k < l.length) (extra i : Nat) :
    (l.modify k (· + extra)).getD i 0 = l.getD i 0+if k = i then extra else 0 := by
  rw [List.getD_eq_getElem?_getD,List.getElem?_modify,List.getD_eq_getElem?_getD]
  split
  · next same =>
    subst same
    rw [List.getElem?_eq_getElem short]
    rfl
  · exact (congrArg (·.getD 0) (Option.map_id' (x := l[i]?))).trans (Nat.add_zero _).symm

theorem foldl_give (inside : ∀ gift ∈ gifts, gift.1 < n) (totals : sums.1.length = n) (hits : sums.2.length = n) :
    (gifts.foldl give sums).1.length = n ∧ (gifts.foldl give sums).2.length = n ∧ ∀ i,
      (gifts.foldl give sums).1.getD i 0 = sums.1.getD i 0+totalAt gifts i ∧
      (gifts.foldl give sums).2.getD i 0 = sums.2.getD i 0+hitsAt gifts i := by
  induction gifts generalizing sums with
  | nil => exact ⟨totals,hits,fun i => ⟨rfl,rfl⟩⟩
  | cons gift gifts ih =>
    obtain ⟨first,later⟩ := List.forall_mem_cons.mp inside
    have sized : (give sums gift).1.length = n := (List.length_modify ..).trans totals
    obtain ⟨totals',hits',shown⟩ := ih later sized ((List.length_modify ..).trans hits)
    refine ⟨totals',hits',fun i => ?_⟩
    rw [List.foldl_cons,(shown i).1,(shown i).2,give,getD_modify (totals ▸ first),getD_modify (hits ▸ first)]
    unfold totalAt hitsAt
    rw [List.filter_cons]
    by_cases here : gift.1 = i
    · simp [here,Nat.add_assoc,Nat.add_comm 1]
    · simp [here]

theorem fits_iff : Fits n sums ↔ sums.1.length = n ∧ sums.2.length = n ∧ (∀ i < n, sums.1.getD i 0 < 2^64) ∧ ∀ i < n, sums.2.getD i 0 < 2^32 :=
  ⟨fun fits => ⟨fits.totals,fits.hits,fits.short,fits.few⟩,fun ⟨totals,hits,short,few⟩ => ⟨totals,hits,short,few⟩⟩

instance : DecidablePred (Fits n) := fun _ => decidable_of_iff _ fits_iff.symm

theorem Fits.give_iff {gift : Nat × Nat} (fits : Fits n sums) (inside : gift.1 < n) :
    Fits n (give sums gift) ↔ sums.1.getD gift.1 0+gift.2 < 2^64 ∧ sums.2.getD gift.1 0+1 < 2^32 := by
  have total := getD_modify (l := sums.1) (fits.totals ▸ inside) gift.2
  have hit := getD_modify (l := sums.2) (fits.hits ▸ inside) 1
  constructor
  · intro fits'
    have short := fits'.short gift.1 inside
    have few := fits'.few gift.1 inside
    rw [give] at short few
    rw [total,if_pos rfl] at short
    rw [hit,if_pos rfl] at few
    exact ⟨short,few⟩
  · rintro ⟨short,few⟩
    refine ⟨(List.length_modify ..).trans fits.totals,(List.length_modify ..).trans fits.hits,fun i below => ?_,fun i below => ?_⟩
    · rw [give,total]
      split
      · next same => exact same ▸ short
      · exact fits.short i below
    · rw [give,hit]
      split
      · next same => exact same ▸ few
      · exact fits.few i below

theorem Fits.back {gift : Nat × Nat} (inside : gift.1 < n) (fits : Fits n (give sums gift)) : Fits n sums := by
  have totals : sums.1.length = n := (List.length_modify ..).symm.trans fits.totals
  have hits : sums.2.length = n := (List.length_modify ..).symm.trans fits.hits
  refine ⟨totals,hits,fun i below => ?_,fun i below => ?_⟩
  · have short := fits.short i below
    rw [give,getD_modify (totals ▸ inside)] at short
    omega
  · have few := fits.few i below
    rw [give,getD_modify (hits ▸ inside)] at few
    omega

end Gifts

section Group
variable {R : Type} [Arithmetic R] {bounds : Bounds R} {out : Zyx} {item : TileEntry R × Zyx} {sums : List Nat × List Nat}

theorem addContribution_none (given : contribution bounds out item = .ok none) : addContribution bounds out sums item = .ok sums := by
  unfold addContribution
  rw [given,ok_then]
  rfl

theorem addContribution_some {gift : Nat × Nat} {n : Nat} (given : contribution bounds out item = .ok (some gift)) (inside : gift.1 < n)
    (fits : Fits n sums) :
    addContribution bounds out sums item = if Fits n (give sums gift) then .ok (give sums gift) else .error .panic := by
  have shortTotal : gift.1 < sums.1.length := fits.totals ▸ inside
  have shortHits : gift.1 < sums.2.length := fits.hits ▸ inside
  have modified {l : List Nat} (short : gift.1 < l.length) (extra : Nat) : l.set gift.1 (l[gift.1]+extra) = l.modify gift.1 (· + extra) := by
    rw [List.modify_eq_set,List.getElem?_eq_getElem short]
    rfl
  have iff := fits.give_iff inside
  rw [List.getD_eq_getElem?_getD,List.getD_eq_getElem?_getD,List.getElem?_eq_getElem shortTotal,List.getElem?_eq_getElem shortHits] at iff
  unfold addContribution
  rw [given,ok_then]
  dsimp only
  rw [List.getElem?_eq_getElem shortTotal,List.getElem?_eq_getElem shortHits]
  dsimp only
  unfold word
  split
  · next short =>
    rw [ok_then]
    split
    · next few =>
      rw [ok_then,if_pos (iff.mpr ⟨short,few⟩),modified shortTotal,modified shortHits]
      rfl
    · next many => exact (if_neg fun fits' => many (iff.mp fits').2).symm
  · next long => exact (if_neg fun fits' => long (iff.mp fits').1).symm

theorem aggregateVoxels_eq {entries : List (TileEntry R)} {given : TileEntry R × Zyx → Option (Nat × Nat)}
    (wide : 0 < out.x) (memory : out.volume*8 < 2^63)
    (gives : ∀ item ∈ entries ×ˢ voxelsOf out, contribution bounds out item = .ok (given item))
    (inside : ∀ item ∈ entries ×ˢ voxelsOf out, ∀ gift ∈ given item, gift.1 < out.volume) :
    aggregateVoxels bounds out entries =
      let gifts := (entries ×ˢ voxelsOf out).filterMap given
      if ∀ i < out.volume, totalAt gifts i < 2^64 ∧ hitsAt gifts i < 2^32 then
        .ok ((List.range out.volume).map fun i => if hitsAt gifts i = 0 then 0 else UInt16.ofNat (totalAt gifts i/hitsAt gifts i))
      else .error .panic := by
  let g (sums : List Nat × List Nat) (item : TileEntry R × Zyx) : List Nat × List Nat :=
    match given item with
    | some gift => give sums gift
    | none => sums
  let blank : List Nat × List Nat := (List.replicate out.volume 0,List.replicate out.volume 0)
  have none' {sums : List Nat × List Nat} {item : TileEntry R × Zyx} (found : given item = none) : g sums item = sums := by
    simp only [g,found]
  have some' {sums : List Nat × List Nat} {item : TileEntry R × Zyx} {gift : Nat × Nat} (found : given item = some gift) :
      g sums item = give sums gift := by
    simp only [g,found]
  have start : Fits out.volume blank := by
    refine ⟨List.length_replicate,List.length_replicate,fun i below => ?_,fun i below => ?_⟩
    · simp [blank,List.getD_eq_getElem?_getD,below]
    · simp [blank,List.getD_eq_getElem?_getD,below]
  have ran : (entries ×ˢ voxelsOf out).foldlM (addContribution bounds out) blank =
      if Fits out.volume ((entries ×ˢ voxelsOf out).foldl g blank) then .ok ((entries ×ˢ voxelsOf out).foldl g blank)
      else .error .panic := by
    refine foldlM_within (fun sums fits item member => ?_) (fun sums item member fits => ?_) start
    · have made := gives item member
      cases found : given item with
      | none =>
        rw [found] at made
        rw [none' found,addContribution_none made,if_pos fits]
      | some gift =>
        rw [found] at made
        rw [some' found]
        exact addContribution_some made (inside item member gift found) fits
    · cases found : given item with
      | none => rwa [none' found] at fits
      | some gift =>
        rw [some' found] at fits
        exact fits.back (inside item member gift found)
  have gathered : (entries ×ˢ voxelsOf out).foldl g blank = ((entries ×ˢ voxelsOf out).filterMap given).foldl give blank := by
    rw [List.foldl_filterMap]
    congr 1
    funext sums item
    cases found : given item with
    | none => exact none' found
    | some gift => exact some' found
  have within : ∀ gift ∈ (entries ×ˢ voxelsOf out).filterMap given, gift.1 < out.volume := by
    intro gift member
    obtain ⟨item,listed,found⟩ := List.mem_filterMap.mp member
    exact inside item listed gift found
  obtain ⟨totals,hits,shown⟩ := foldl_give within start.totals start.hits
  have zero (i : Nat) : (List.replicate out.volume 0).getD i 0 = 0 := by
    rw [List.getD_eq_getElem?_getD,List.getElem?_replicate]
    split <;> rfl
  dsimp only [blank] at shown
  simp only [zero,Nat.zero_add] at shown
  have fits : Fits out.volume (((entries ×ˢ voxelsOf out).filterMap given).foldl give blank) ↔ ∀ i < out.volume,
      totalAt ((entries ×ˢ voxelsOf out).filterMap given) i < 2^64 ∧ hitsAt ((entries ×ˢ voxelsOf out).filterMap given) i < 2^32 := by
    constructor
    · exact fun fits i below => ⟨(shown i).1 ▸ fits.short i below,(shown i).2 ▸ fits.few i below⟩
    · exact fun held => ⟨totals,hits,fun i below => (shown i).1.symm ▸ (held i below).1,fun i below => (shown i).2.symm ▸ (held i below).2⟩
  rw [gathered] at ran
  unfold aggregateVoxels
  rw [allocate_ok wide (by decide) memory,ok_then,ran]
  dsimp only
  split
  · next held =>
    rw [if_pos (fits.mp held),ok_then]
    refine congrArg Except.ok (List.ext_getElem (by simp [totals,hits]) fun i _ below => ?_)
    have below : i < out.volume := by simpa using below
    rw [List.getElem_zipWith,List.getElem_map,List.getElem_range,← (shown i).1,← (shown i).2,List.getD_eq_getElem _ _ (below.trans_eq totals.symm),
      List.getD_eq_getElem _ _ (below.trans_eq hits.symm)]
  · next lost =>
    rw [if_neg fun held => lost (fits.mpr held)]
    rfl

end Group

section Fits
variable {R : Type} [Arithmetic R] {bounds : Bounds R} {out lo hi o : Zyx} {entry : TileEntry R} {entries : List (TileEntry R)}

structure TileVolume.WellFormed (volume : TileVolume R) : Prop where
  sized : volume.data.length = volume.dims.volume
  short : volume.dims.volume < 2^63

-- The tiles' samples can be summed up where each voxel of the proxy that is under a tile has a place below 2^32, no
-- box of samples adds up to 2^64, and fewer than 2^32 tiles meet in a voxel.
structure GroupFits (bounds : Bounds R) (out : Zyx) (entries : List (TileEntry R)) : Prop where
  memory : out.volume*8 < 2^63
  place : ∀ entry ∈ entries, ∀ o : Zyx, o.All (· < ·) out → (sampleBox bounds out entry o).isSome → out.index o < 2^32
  sum : ∀ entry ∈ entries, ∀ o : Zyx, o.All (· < ·) out → ∀ box, sampleBox bounds out entry o = some box →
    (boxSamples entry.volume.data entry.volume.dims box.1 box.2).sum < 2^64
  few : ∀ o : Zyx, o.All (· < ·) out → (entries.filter fun entry => (sampleBox bounds out entry o).isSome).length < 2^32

theorem sampleBox_spec (sampled : sampleBox bounds out entry o = some (lo,hi)) :
    lo.All (· < ·) hi ∧ hi.All (· ≤ ·) entry.volume.dims := by
  unfold sampleBox at sampled
  dsimp only at sampled
  split at sampled
  · cases sampled
  split at sampled
  · cases sampled
  split at sampled
  · cases sampled
  next rises =>
    cases sampled
    refine ⟨⟨?_,?_,?_⟩,⟨Nat.min_le_right _ _,Nat.min_le_right _ _,Nat.min_le_right _ _⟩⟩
    · exact Nat.lt_of_not_le fun falls => rises (.inr (.inr falls))
    · exact Nat.lt_of_not_le fun falls => rises (.inr (.inl falls))
    · exact Nat.lt_of_not_le fun falls => rises (.inl falls)

def gift (bounds : Bounds R) (out : Zyx) (item : TileEntry R × Zyx) : Option (Nat × Nat) :=
  (sampleBox bounds out item.1 item.2).map fun box =>
    let samples := boxSamples item.1.volume.data item.1.volume.dims box.1 box.2
    (out.index item.2,samples.sum/samples.length)

theorem contribution_none (none' : sampleBox bounds out entry o = none) : contribution bounds out (entry,o) = .ok none := by
  unfold contribution
  rw [none']

theorem contribution_some (wellFormed : entry.volume.WellFormed) (sampled : sampleBox bounds out entry o = some (lo,hi))
    (shown : o.All (· < ·) out) :
    contribution bounds out (entry,o) =
      if (boxSamples entry.volume.data entry.volume.dims lo hi).sum < 2^64 ∧ out.index o < 2^32 then .ok (gift bounds out (entry,o))
      else .error .panic := by
  obtain ⟨rises,inside⟩ := sampleBox_spec sampled
  have summed : sumBox (2^64) entry.volume.data entry.volume.dims lo hi = _ :=
    sumBox_eq wellFormed.sized rises.2.2 inside fun p within =>
      (Zyx.index_lt ⟨within.1.trans_le inside.1,within.2.1.trans_le inside.2.1,within.2.2.trans_le inside.2.2⟩).trans
        (wellFormed.short.trans (by decide))
  have count := length_boxSamples_le entry.volume.data lo inside
  have some' : (boxSamples entry.volume.data entry.volume.dims lo hi).length ≠ 0 := by
    rw [length_boxSamples]
    exact Nat.ne_of_gt (Nat.mul_pos (Nat.mul_pos (Nat.sub_pos_of_lt rises.1) (Nat.sub_pos_of_lt rises.2.1)) (Nat.sub_pos_of_lt rises.2.2))
  have few := wellFormed.short
  have gift' : gift bounds out (entry,o) = some (out.index o,(boxSamples entry.volume.data entry.volume.dims lo hi).sum/
      (boxSamples entry.volume.data entry.volume.dims lo hi).length) := by
    unfold gift
    rw [sampled]
    rfl
  unfold contribution
  rw [sampled]
  dsimp only
  rw [summed]
  by_cases short : (boxSamples entry.volume.data entry.volume.dims lo hi).sum < 2^64
  · rw [if_pos ⟨short,by omega⟩,ok_then]
    dsimp only
    rw [if_neg some',gift']
    by_cases place : out.index o < 2^32
    · rw [if_pos ⟨short,place⟩,voxelAt_ok (Nat.zero_lt_of_lt shown.2.2) place]
      rfl
    · rw [if_neg fun both => place both.2]
      refine panic_of_not_ok fun made ran => ?_
      obtain ⟨_,placed,_⟩ := bind_ok ran
      exact place (voxelAt_fits placed).2
  · rw [if_neg fun held => short held.1,if_neg fun both => short both.1]
    rfl

theorem nodup_voxelsOf (dims : Zyx) : (voxelsOf dims).Nodup := by
  refine List.Nodup.map (fun p q same => ?_) (List.nodup_range.product (List.nodup_range.product List.nodup_range))
  obtain ⟨z,y,x⟩ := p
  cases same
  rfl

theorem hitsAt_append (gifts more : List (Nat × Nat)) (i : Nat) : hitsAt (gifts ++ more) i = hitsAt gifts i+hitsAt more i := by
  simp [hitsAt]

theorem hitsAt_gifts (entries : List (TileEntry R)) (shown : o.All (· < ·) out) :
    hitsAt ((entries ×ˢ voxelsOf out).filterMap (gift bounds out)) (out.index o) =
      (entries.filter fun entry => (sampleBox bounds out entry o).isSome).length := by
  induction entries with
  | nil => rfl
  | cons entry entries ih =>
    rw [List.product_cons,List.filterMap_append,hitsAt_append,ih,List.filter_cons]
    have own : hitsAt (((voxelsOf out).map fun p => (entry,p)).filterMap (gift bounds out)) (out.index o) =
        if (sampleBox bounds out entry o).isSome then 1 else 0 := by
      have only : ∀ p ∈ voxelsOf out, ((gift bounds out (entry,p)).filter fun given => given.1 = out.index o).isSome ↔
          (p = o ∧ (sampleBox bounds out entry o).isSome) := by
        intro p member
        have within := mem_voxelsOf.mp member
        have place : out.index p = out.index o ↔ p = o := by
          refine ⟨fun same => ?_,fun same => by rw [same]⟩
          obtain ⟨z,y,x⟩ := rowMajor_injective within.2.1 shown.2.1 within.2.2 shown.2.2 same
          obtain ⟨_,_,_⟩ := p
          cases z
          cases y
          cases x
          rfl
        unfold gift
        cases sampled : sampleBox bounds out entry p with
        | none =>
          simp only [Option.map_none,Option.filter_none,Option.isSome_none,Bool.false_eq_true,false_iff]
          rintro ⟨rfl,some'⟩
          simp [sampled] at some'
        | some box =>
          simp only [Option.map_some,Option.filter_some,place,Option.isSome_ite,decide_eq_true_eq]
          refine ⟨fun same => ⟨same,?_⟩,And.left⟩
          rw [← same,sampled]
          rfl
      unfold hitsAt
      rw [List.filterMap_map,List.filter_filterMap,List.length_filterMap_eq_countP]
      split
      · next sampled =>
        rw [← List.count_eq_one_of_mem (nodup_voxelsOf out) (mem_voxelsOf.mpr shown)]
        refine List.countP_congr fun p member => (only p member).trans ?_
        rw [beq_iff_eq]
        exact and_iff_left sampled
      · next missed => exact List.countP_eq_zero.mpr fun p member given => missed ((only p member).mp given).2
    rw [own]
    split
    · rw [List.length_cons,Nat.add_comm]
    · rw [Nat.zero_add]

variable (bounds out) in
theorem totalAt_gifts_le (entries : List (TileEntry R)) (i : Nat) :
    totalAt ((entries ×ˢ voxelsOf out).filterMap (gift bounds out)) i ≤
      hitsAt ((entries ×ˢ voxelsOf out).filterMap (gift bounds out)) i*(2^16-1) := by
  unfold totalAt hitsAt
  rw [← List.length_map (f := Prod.snd)]
  refine List.sum_le_card_nsmul _ _ fun avg member => ?_
  obtain ⟨given,listed,rfl⟩ := List.mem_map.mp member
  obtain ⟨item,_,made⟩ := List.mem_filterMap.mp (List.mem_filter.mp listed).1
  obtain ⟨box,_,rfl⟩ := Option.map_eq_some_iff.mp made
  refine Nat.div_le_of_le_mul ?_
  exact sum_boxSamples_le ..

theorem contribution_gift (wellFormed : entry.volume.WellFormed) (shown : o.All (· < ·) out)
    (place : (sampleBox bounds out entry o).isSome → out.index o < 2^32)
    (sum : ∀ box, sampleBox bounds out entry o = some box → (boxSamples entry.volume.data entry.volume.dims box.1 box.2).sum < 2^64) :
    contribution bounds out (entry,o) = .ok (gift bounds out (entry,o)) := by
  cases sampled : sampleBox bounds out entry o with
  | none =>
    rw [contribution_none sampled,gift,sampled]
    rfl
  | some box =>
    rw [contribution_some wellFormed sampled shown,if_pos ⟨sum box sampled,place (by rw [sampled]; rfl)⟩]

theorem gift_inside {item : TileEntry R × Zyx} (member : item ∈ entries ×ˢ voxelsOf out) (given : Nat × Nat)
    (made : given ∈ gift bounds out item) : given.1 < out.volume := by
  obtain ⟨box,_,rfl⟩ := Option.map_eq_some_iff.mp made
  exact Zyx.index_lt (mem_voxelsOf.mp (List.mem_product.mp member).2)

theorem aggregate_ok (wellFormed : ∀ entry ∈ entries, entry.volume.WellFormed) (wide : 0 < out.x)
    (fits : GroupFits bounds out entries) :
    ∃ voxels, aggregateVoxels bounds out entries = .ok voxels ∧ voxels.length = out.volume := by
  have gives : ∀ item ∈ entries ×ˢ voxelsOf out, contribution bounds out item = .ok (gift bounds out item) := by
    intro item member
    obtain ⟨listed,shown⟩ := List.mem_product.mp member
    have within := mem_voxelsOf.mp shown
    exact contribution_gift (wellFormed item.1 listed) within (fits.place item.1 listed item.2 within)
      (fits.sum item.1 listed item.2 within)
  have held : ∀ i < out.volume, totalAt ((entries ×ˢ voxelsOf out).filterMap (gift bounds out)) i < 2^64 ∧
      hitsAt ((entries ×ˢ voxelsOf out).filterMap (gift bounds out)) i < 2^32 := by
    intro i below
    obtain ⟨z,y,x,plane,line,column,rfl⟩ := rowMajor_surjective below
    have few := fits.few ⟨z,y,x⟩ ⟨plane,line,column⟩
    rw [← hitsAt_gifts entries ⟨plane,line,column⟩] at few
    have total := totalAt_gifts_le bounds out entries (rowMajor out.y out.x z y x)
    have hits : hitsAt ((entries ×ˢ voxelsOf out).filterMap (gift bounds out)) (rowMajor out.y out.x z y x) < 2^32 := few
    exact ⟨by omega,hits⟩
  rw [aggregateVoxels_eq wide fits.memory gives fun item member => gift_inside member]
  dsimp only
  rw [if_pos held]
  exact ⟨_,rfl,by rw [List.length_map,List.length_range]⟩

theorem aggregate_fits {voxels : List UInt16} (wellFormed : ∀ entry ∈ entries, entry.volume.WellFormed) (wide : 0 < out.x)
    (ran : aggregateVoxels bounds out entries = .ok voxels) : GroupFits bounds out entries := by
  have whole := ran
  unfold aggregateVoxels at ran
  obtain ⟨n,allocated,ran⟩ := bind_ok ran
  have memory := (allocate_fits allocated).2
  obtain ⟨sums,looped,_⟩ := bind_ok ran
  have each : ∀ entry ∈ entries, ∀ o : Zyx, o.All (· < ·) out → ∀ box, sampleBox bounds out entry o = some box →
      (boxSamples entry.volume.data entry.volume.dims box.1 box.2).sum < 2^64 ∧ out.index o < 2^32 := by
    intro entry member o shown box sampled
    by_contra lost
    refine foldlM_fails (List.mem_product.mpr ⟨member,mem_voxelsOf.mpr shown⟩) (fun before after turn => ?_) looped
    obtain ⟨given,made,_⟩ := bind_ok turn
    rw [contribution_some (wellFormed entry member) sampled shown,if_neg lost] at made
    cases made
  have place : ∀ entry ∈ entries, ∀ o : Zyx, o.All (· < ·) out → (sampleBox bounds out entry o).isSome → out.index o < 2^32 := by
    intro entry member o shown some'
    obtain ⟨box,sampled⟩ := Option.isSome_iff_exists.mp some'
    exact (each entry member o shown box sampled).2
  refine ⟨memory,place,fun entry member o shown box sampled => (each entry member o shown box sampled).1,fun o shown => ?_⟩
  have gives : ∀ item ∈ entries ×ˢ voxelsOf out, contribution bounds out item = .ok (gift bounds out item) := by
    intro item member
    obtain ⟨listed,shown⟩ := List.mem_product.mp member
    have within := mem_voxelsOf.mp shown
    exact contribution_gift (wellFormed item.1 listed) within (place item.1 listed item.2 within)
      fun box sampled => (each item.1 listed item.2 within box sampled).1
  rw [aggregateVoxels_eq wide memory gives fun item member => gift_inside member] at whole
  dsimp only at whole
  split at whole
  · next held =>
    rw [← hitsAt_gifts entries shown]
    exact (held _ (Zyx.index_lt shown)).2
  · cases whole

end Fits
end Lucida.Proxy
