import Lucida.Renderer.VolumeUpload

namespace Lucida.Renderer
open Lib
open Server (Zyx)
open Web (Number chunkKey)
open Web.Planning (Platform VisibleRegion Xyz)

def LodIndirectionMeta.cell (lod : LodIndirectionMeta) (place : Zyx) : Nat :=
  lod.offset+place.z*lod.gridDims.y*lod.gridDims.x+place.y*lod.gridDims.x+place.x

def LodIndirectionMeta.extent (lod : LodIndirectionMeta) (place : Zyx) : Zyx :=
  ⟨min lod.chunkDims.z (lod.levelDims.z-place.z*lod.chunkDims.z),min lod.chunkDims.y (lod.levelDims.y-place.y*lod.chunkDims.y),
    min lod.chunkDims.x (lod.levelDims.x-place.x*lod.chunkDims.x)⟩

def slotOrigin (atlas : AtlasState) (slotIndex : Nat) : Zyx := tileOrigin atlas.chunk (slotTile atlas.slotsX atlas.slotsY slotIndex)

def Listed (entityMetas : IndexMap String (List LodIndirectionMeta)) (memberId : String) (lod : LodIndirectionMeta) : Prop :=
  ∃ metas, entityMetas.get? memberId = some metas ∧ lod ∈ metas

def Sectioned (entityMetas : IndexMap String (List LodIndirectionMeta)) (memberId : String) (lod : LodIndirectionMeta) : Prop :=
  ∃ metas, entityMetas.get? memberId = some metas ∧ metas.find? (·.level = lod.level) = some lod

theorem Sectioned.listed {entityMetas : IndexMap String (List LodIndirectionMeta)} {memberId : String} {lod : LodIndirectionMeta}
    (sectioned : Sectioned entityMetas memberId lod) : Listed entityMetas memberId lod :=
  sectioned.imp fun _ found => ⟨found.1,List.mem_of_find?_eq_some found.2⟩

-- The levels that the manifest gives the image of each member.
abbrev Geometry := String → Nat → ColdLevel

structure KeyOf (geometry : Geometry) (key memberId : String) (level t c : Nat) (place : Zyx) : Prop where
  plain : '|' ∉ memberId.toList
  named : key = makeCompositeKey memberId (chunkKey level t c place.z place.y place.x)
  inside : place.All (· < ·) (geometry memberId level).gridShape

def HoldsChunk (delivered : VolumeChunkData → Chunk → Prop) (atlas : AtlasState) (key : String) (slotIndex : Nat) : Prop :=
  ∃ msg chunk data, delivered msg chunk ∧ key = makeCompositeKey msg.memberId chunk.key ∧ msg.chunk = atlas.chunk ∧
    asUint16 chunk.data chunk.dataType = .ok data ∧
    (texelsTaken msg.chunk.y msg.chunk.x (clampedDims msg chunk) ≤ data.length →
      atlas.texture.Shows (slotOrigin atlas slotIndex) data msg.chunk.y msg.chunk.x (clampedDims msg chunk))

-- The slots of a pool: each is free, lost or held, and a held one has its key's voxels.
structure Stocked (geometry : Geometry) (delivered : VolumeChunkData → Chunk → Prop) (lost : List Nat) (atlas : AtlasState) : Prop where
  slotted : Slotted atlas.slots (lost ++ atlas.freeSlots) atlas.totalSlots
  total : atlas.totalSlots = atlas.slotsX*atlas.slotsY*atlas.slotsZ
  size : atlas.texture.size = ⟨atlas.slotsZ*atlas.chunk.z,atlas.slotsY*atlas.chunk.y,atlas.slotsX*atlas.chunk.x⟩
  backs : atlas.slotGridIdx.length = atlas.totalSlots
  keyed : ∀ key slotIndex, atlas.slots.get? key = some slotIndex → ∃ memberId level t c place, KeyOf geometry key memberId level t c place
  holds : ∀ key slotIndex, atlas.slots.get? key = some slotIndex → HoldsChunk delivered atlas key slotIndex

structure Ruled (geometry : Geometry) (entityMetas : IndexMap String (List LodIndirectionMeta)) (chunk : Zyx) (entries : Nat) : Prop where
  shaped : ∀ memberId lod, Listed entityMetas memberId lod → lod.gridDims = (geometry memberId lod.level).gridShape ∧
    lod.levelDims = (geometry memberId lod.level).levelDims ∧ lod.chunkDims = (geometry memberId lod.level).chunkShape ∧ lod.chunkDims = chunk
  within : ∀ memberId lod place, Listed entityMetas memberId lod → place.All (· < ·) lod.gridDims → lod.cell place < entries
  apart : ∀ memberId lod place memberId' lod' place', Listed entityMetas memberId lod → Listed entityMetas memberId' lod' →
    place.All (· < ·) lod.gridDims → place'.All (· < ·) lod'.gridDims → lod.cell place = lod'.cell place' → memberId = memberId' ∧ lod = lod'

-- The cells of a pool: each shows nothing or the slot of its own chunk, at the pool's
-- timepoint and channel.
structure Charted (geometry : Geometry) (atlas : AtlasState) : Prop where
  ruled : Ruled geometry atlas.entityMetas atlas.chunk atlas.indirectionData.length
  linked : Linked emptyCell atlas.indirectionData atlas.slotGridIdx
  shown : ∀ cell slotIndex : Nat, atlas.indirectionData[cell]? = some slotIndex → slotIndex ≠ emptyCell →
    ∃ key memberId lod place c, KeyOf geometry key memberId lod.level atlas.t c place ∧ Sectioned atlas.entityMetas memberId lod ∧
      cell = lod.cell place ∧ atlas.c = some c ∧ atlas.slots.get? key = some slotIndex

def Chunk.place (chunk : Chunk) : Zyx := ⟨chunk.z,chunk.y,chunk.x⟩

-- A delivery in keeping with the manifest, at what the pool is at.
structure Fitting (geometry : Geometry) (atlas : AtlasState) (msg : VolumeChunkData) : Prop where
  plain : '|' ∉ msg.memberId.toList
  levelDims : msg.levelDims = (geometry msg.memberId msg.level).levelDims
  chunk : msg.chunk = (geometry msg.memberId msg.level).chunkShape
  inside : ∀ chunk ∈ msg.chunks, chunk.place.All (· < ·) (geometry msg.memberId msg.level).gridShape
  keyed : ∀ chunk ∈ msg.chunks, ∃ c, atlas.c = some c ∧ chunk.key = chunkKey msg.level atlas.t c chunk.z chunk.y chunk.x

section Cells
variable {lod lod' : LodIndirectionMeta} {place place' : Zyx}

theorem LodIndirectionMeta.cell_eq (lod : LodIndirectionMeta) (place : Zyx) :
    lod.cell place = lod.offset+rowMajor lod.gridDims.y lod.gridDims.x place.z place.y place.x := by
  unfold LodIndirectionMeta.cell rowMajor
  rw [Nat.add_mul,Nat.add_assoc,Nat.add_assoc,Nat.add_assoc]

theorem LodIndirectionMeta.cell_lt (inside : place.All (· < ·) lod.gridDims) :
    lod.cell place < lod.offset+lod.gridDims.x*lod.gridDims.y*lod.gridDims.z := by
  obtain ⟨z,y,x⟩ := inside
  have bound : rowMajor lod.gridDims.y lod.gridDims.x place.z place.y place.x < lod.gridDims.z*lod.gridDims.y*lod.gridDims.x := rowMajor_lt z y x
  have turned : lod.gridDims.z*lod.gridDims.y*lod.gridDims.x = lod.gridDims.x*lod.gridDims.y*lod.gridDims.z := by ring
  rw [LodIndirectionMeta.cell_eq,← turned]
  exact Nat.add_lt_add_left bound _

theorem LodIndirectionMeta.cell_injective (inside : place.All (· < ·) lod.gridDims) (inside' : place'.All (· < ·) lod.gridDims)
    (same : lod.cell place = lod.cell place') : place = place' := by
  rw [LodIndirectionMeta.cell_eq,LodIndirectionMeta.cell_eq] at same
  obtain ⟨z,y,x⟩ := place
  obtain ⟨z',y',x'⟩ := place'
  have parts := rowMajor_injective inside.2.1 inside'.2.1 inside.2.2 inside'.2.2 (Nat.add_left_cancel same)
  simp only at parts
  rw [parts.1,parts.2.1,parts.2.2]

end Cells

section Pool
variable {geometry : Geometry} {delivered delivered' : VolumeChunkData → Chunk → Prop} {lost : List Nat} {atlas : AtlasState}
  {key memberId : String} {slotIndex t c level : Nat} {place : Zyx}

theorem Stocked.mono (stocked : Stocked geometry delivered lost atlas) (more : ∀ msg chunk, delivered msg chunk → delivered' msg chunk) :
    Stocked geometry delivered' lost atlas :=
  {stocked with
    holds := fun key slotIndex there => by
      obtain ⟨msg,chunk,data,known,rest⟩ := stocked.holds key slotIndex there
      exact ⟨msg,chunk,data,more msg chunk known,rest⟩}

theorem Stocked.lt (stocked : Stocked geometry delivered lost atlas) (there : atlas.slots.get? key = some slotIndex) :
    slotIndex < atlas.totalSlots := stocked.slotted.lt there

theorem Stocked.inside (stocked : Stocked geometry delivered lost atlas) (short : slotIndex < atlas.totalSlots) {p : Zyx}
    (here : InBox (slotOrigin atlas slotIndex) atlas.chunk p) : p.All (· < ·) atlas.texture.size := by
  refine inBox_within (slotTile atlas.slotsX atlas.slotsY slotIndex) (slotTile_lt ?_) stocked.size here
  rwa [stocked.total] at short

theorem Stocked.within (stocked : Stocked geometry delivered lost atlas) (short : slotIndex < atlas.totalSlots) {part : Zyx}
    (le : part.All (· ≤ ·) atlas.chunk) : (Zyx.zip (· + ·) (slotOrigin atlas slotIndex) part).All (· ≤ ·) atlas.texture.size := by
  refine tile_within (slotTile atlas.slotsX atlas.slotsY slotIndex) (slotTile_lt ?_) stocked.size le
  rwa [stocked.total] at short

theorem clampedDims_le (msg : VolumeChunkData) (chunk : Chunk) : (clampedDims msg chunk).All (· ≤ ·) msg.chunk :=
  ⟨Nat.min_le_left _ _,Nat.min_le_left _ _,Nat.min_le_left _ _⟩

theorem inBox_mono {origin dims dims' p : Zyx} (le : dims.All (· ≤ ·) dims') (here : InBox origin dims p) : InBox origin dims' p := by
  obtain ⟨⟨z,z'⟩,⟨y,y'⟩,x,x'⟩ := here
  exact ⟨⟨z,z'.trans_le (Nat.add_le_add_left le.1 _)⟩,⟨y,y'.trans_le (Nat.add_le_add_left le.2.1 _)⟩,x,x'.trans_le (Nat.add_le_add_left le.2.2 _)⟩

theorem createVolumeAtlas_stocked (device : VolumeDevice) (chunk : Zyx) (t : Nat) (c : Option Nat) :
    Stocked geometry delivered [] (createVolumeAtlas device chunk t c) where
  slotted := Slotted.fresh _
  total := rfl
  size := rfl
  backs := List.length_replicate
  keyed _ _ there := by cases there
  holds _ _ there := by cases there

theorem Stocked.grow {grown : AtlasState} (stocked : Stocked geometry delivered lost atlas) (grows : growVolumeAtlas atlas = some grown) :
    Stocked geometry delivered lost grown := by
  unfold growVolumeAtlas at grows
  split at grows
  · cases grows
  · next room =>
    have deeper : atlas.slotsZ ≤ min atlas.maxSlotsZ (atlas.slotsZ*2) := le_min (not_le.mp room).le (Nat.le_mul_of_pos_right _ (by decide))
    have wider : atlas.totalSlots ≤ atlas.slotsX*atlas.slotsY*min atlas.maxSlotsZ (atlas.slotsZ*2) :=
      stocked.total.trans_le (Nat.mul_le_mul_left _ deeper)
    have grownEq := Option.some.inj grows
    subst grownEq
    refine ⟨Slotted.perm (stocked.slotted.grow wider) (List.perm_append_comm_assoc ..),rfl,rfl,?_,stocked.keyed,fun key slotIndex there => ?_⟩
    · rw [List.length_append,List.length_replicate,stocked.backs,Nat.add_sub_cancel' wider]
    · obtain ⟨msg,chunk,data,known,named,sized,read,shows'⟩ := stocked.holds key slotIndex there
      refine ⟨msg,chunk,data,known,named,sized,read,fun enough => (shows' enough).copyInto _ fun p here => ?_⟩
      exact stocked.inside (stocked.lt there) (inBox_mono (sized ▸ clampedDims_le msg chunk) here)

theorem Charted.grow {grown : AtlasState} (charted : Charted geometry atlas) (grows : growVolumeAtlas atlas = some grown) :
    Charted geometry grown := by
  unfold growVolumeAtlas at grows
  split at grows
  · cases grows
  · have grownEq := Option.some.inj grows
    subst grownEq
    refine ⟨charted.ruled,fun cell slotIndex there shown => ?_,charted.shown⟩
    have back := charted.linked cell slotIndex there shown
    exact (List.getElem?_append_left (List.getElem?_eq_some_iff.mp back).1).trans back

structure Kept (atlas next : AtlasState) : Prop where
  metas : next.entityMetas = atlas.entityMetas
  t : next.t = atlas.t
  c : next.c = atlas.c
  chunk : next.chunk = atlas.chunk

theorem Kept.refl (atlas : AtlasState) : Kept atlas atlas := ⟨rfl,rfl,rfl,rfl⟩

theorem Kept.trans {next last : AtlasState} (kept : Kept atlas next) (kept' : Kept next last) : Kept atlas last :=
  ⟨kept'.metas.trans kept.metas,kept'.t.trans kept.t,kept'.c.trans kept.c,kept'.chunk.trans kept.chunk⟩

theorem makeRoom_sound (stocked : Stocked geometry delivered lost atlas) (charted : Charted geometry atlas) :
    Stocked geometry delivered lost (makeRoom atlas) ∧ Charted geometry (makeRoom atlas) ∧ Kept atlas (makeRoom atlas) ∧
      (makeRoom atlas).slots = atlas.slots := by
  unfold makeRoom
  split
  · cases grows : growVolumeAtlas atlas with
    | none => exact ⟨stocked,charted,.refl atlas,rfl⟩
    | some grown =>
      refine ⟨stocked.grow grows,charted.grow grows,?_⟩
      unfold growVolumeAtlas at grows
      split at grows
      · cases grows
      · have grownEq := Option.some.inj grows
        subst grownEq
        exact ⟨⟨rfl,rfl,rfl,rfl⟩,rfl⟩
  · exact ⟨stocked,charted,.refl atlas,rfl⟩

def Unshown (atlas : AtlasState) (slotIndex : Nat) : Prop := slotIndex ≠ emptyCell → ∀ cell : Nat, atlas.indirectionData[cell]? ≠ some slotIndex

theorem findFarthestSlot_held {params : FindFarthestParams} {evictKey : String} {dist : WithTop Number}
    (levels : ∀ slot ∈ params.slots.entries, ∀ level, standing params slot = some (.finer level) → 0 ≤ level)
    (found : findFarthestSlot params = (some evictKey,dist)) : ∃ slotIndex, params.slots.get? evictKey = some slotIndex := by
  obtain ⟨none',_⟩ | ⟨key,slotIndex,how,some',held,_⟩ := findFarthestSlot_spec levels
  · rw [none'] at found
    cases found
  · rw [some'] at found
    cases found
    exact ⟨slotIndex,held⟩

theorem Stocked.levels (stocked : Stocked geometry delivered lost atlas) (s : VolumeState) :
    ∀ slot ∈ (volumeFarthestParams s atlas).slots.entries, ∀ level, standing (volumeFarthestParams s atlas) slot = some (.finer level) → 0 ≤ level := by
  rintro ⟨key,slotIndex⟩ member level stands
  obtain ⟨memberId,level',t,c,place,keyOf⟩ := stocked.keyed key slotIndex (IndexMap.mem_entries_iff.mp member)
  rw [standing,keyOf.named,parseCompositeKey_make keyOf.plain,Option.bind_some,parseChunkKey_chunkKey,Option.bind_some] at stands
  split at stands
  · next finer =>
    cases stands
    unfold finerLevel at finer
    split at finer
    · next same =>
      split at finer
      · cases finer
        rw [← Option.some.inj same]
        exact Int.natCast_nonneg level'
      · cases finer
    · cases finer
  · split at stands
    · cases stands
    · cases measured : mappedDist (volumeFarthestParams s atlas) _ _ _ with
      | none =>
        rw [measured] at stands
        cases stands
      | some dist =>
        rw [measured] at stands
        cases stands

theorem evictSlot_sound {evictKey : String} (stocked : Stocked geometry delivered lost atlas) (charted : Charted geometry atlas)
    (held : atlas.slots.get? evictKey = some slotIndex) :
    (evictSlot atlas evictKey).2 = slotIndex ∧ Stocked geometry delivered (slotIndex::lost) (evictSlot atlas evictKey).1 ∧
      Charted geometry (evictSlot atlas evictKey).1 ∧ Kept atlas (evictSlot atlas evictKey).1 ∧ Unshown (evictSlot atlas evictKey).1 slotIndex := by
  have kept {key : String} {slotIndex' : Nat} (there : (atlas.slots.erase evictKey).get? key = some slotIndex') :
      atlas.slots.get? key = some slotIndex' := by
    rw [IndexMap.get?_erase] at there
    split at there
    · cases there
    · exact there
  have short := stocked.lt held
  obtain ⟨old,back⟩ : ∃ old, atlas.slotGridIdx[slotIndex]? = some old :=
    ⟨_,List.getElem?_eq_getElem (stocked.backs ▸ short : slotIndex < atlas.slotGridIdx.length)⟩
  have same : (evictSlot atlas evictKey) = ({atlas with
      slots := atlas.slots.erase evictKey
      indirectionData := if 0 ≤ old then atlas.indirectionData.set old.toNat emptyCell else atlas.indirectionData},slotIndex) := by
    unfold evictSlot
    rw [held]
    dsimp only [Option.getD_some]
    rw [back,Option.getD_some]
  rw [same]
  have unshown : Unshown {atlas with
      slots := atlas.slots.erase evictKey
      indirectionData := if 0 ≤ old then atlas.indirectionData.set old.toNat emptyCell else atlas.indirectionData} slotIndex := by
    intro real cell
    dsimp only
    by_cases mapped : 0 ≤ old
    · rw [if_pos mapped]
      exact (charted.linked.clear real).1 old.toNat (by rw [back,Int.toNat_of_nonneg mapped]) cell
    · rw [if_neg mapped]
      refine (charted.linked.clear real).2 (fun cell same' => mapped ?_) cell
      rw [back] at same'
      exact Option.some.inj same' ▸ Int.natCast_nonneg cell
  refine ⟨rfl,⟨stocked.slotted.release held,stocked.total,stocked.size,stocked.backs,fun key slotIndex' there => stocked.keyed key slotIndex' (kept there),
    fun key slotIndex' there => stocked.holds key slotIndex' (kept there)⟩,⟨?_,?_,?_⟩,⟨rfl,rfl,rfl,rfl⟩,unshown⟩
  · have long : (if 0 ≤ old then atlas.indirectionData.set old.toNat emptyCell else atlas.indirectionData).length = atlas.indirectionData.length := by
      split
      · exact List.length_set ..
      · rfl
    exact long.symm ▸ charted.ruled
  · dsimp only
    split
    · exact charted.linked.cleared _
    · exact charted.linked
  · intro cell slotIndex' there real
    have apart : slotIndex' ≠ slotIndex := fun same' => unshown (same' ▸ real) cell (same' ▸ there)
    have before : atlas.indirectionData[cell]? = some slotIndex' := by
      dsimp only at there
      split at there
      · rw [List.getElem?_set] at there
        split at there
        · split at there
          · cases there
            exact absurd rfl real
          · cases there
        · exact there
      · exact there
    obtain ⟨key,memberId,lod,place,c,keyOf,sectioned,at',channel,resident⟩ := charted.shown cell slotIndex' before real
    refine ⟨key,memberId,lod,place,c,keyOf,sectioned,at',channel,?_⟩
    dsimp only
    rw [IndexMap.get?_erase,if_neg fun same' => apart ?_]
    · exact resident
    · rw [same',held] at resident
      exact (Option.some.inj resident).symm

theorem takeSlot_sound (s : VolumeState) (lod : LodIndirectionMeta) (chunk : Chunk) (stocked : Stocked geometry delivered lost atlas)
    (charted : Charted geometry atlas) :
    takeSlot s atlas memberId lod chunk = (atlas,none) ∨ ∃ next taken, takeSlot s atlas memberId lod chunk = (next,some taken) ∧
      Stocked geometry delivered (taken.slotIndex::lost) next ∧ Charted geometry next ∧ Kept atlas next ∧ Unshown next taken.slotIndex ∧
      ∀ key, next.slots.get? key = if taken.evicted = some key then none else atlas.slots.get? key := by
  unfold takeSlot
  cases free : atlas.freeSlots with
  | cons slotIndex freeSlots =>
    have slotted := stocked.slotted
    rw [free] at slotted
    refine .inr ⟨_,_,rfl,{stocked with slotted := Slotted.perm slotted (List.perm_middle.symm)},⟨charted.ruled,charted.linked,charted.shown⟩,
      ⟨rfl,rfl,rfl,rfl⟩,fun real cell there => ?_,fun key => by simp⟩
    obtain ⟨_,_,_,_,_,_,_,_,_,resident⟩ := charted.shown cell slotIndex there real
    exact slotted.not_free resident (List.mem_append_right _ List.mem_cons_self)
  | nil =>
    dsimp only
    cases found : findFarthestSlot (volumeFarthestParams s atlas) with
    | mk victim dist =>
      cases victim with
      | none => exact .inl rfl
      | some evictKey =>
        dsimp only
        split
        · exact .inl rfl
        · obtain ⟨slotIndex,held⟩ := findFarthestSlot_held (stocked.levels s) found
          obtain ⟨same,stocked',charted',kept,unshown⟩ := evictSlot_sound stocked charted held
          refine .inr ⟨_,_,rfl,?_,charted',kept,?_,fun key => ?_⟩
          · rwa [same]
          · rwa [same]
          · dsimp only [evictSlot]
            rw [IndexMap.get?_erase]
            simp only [Option.some.injEq,eq_comm]

theorem Fitting.kept {next : AtlasState} {msg : VolumeChunkData} (fitting : Fitting geometry atlas msg) (kept : Kept atlas next) :
    Fitting geometry next msg :=
  {fitting with keyed := fun chunk member => by rw [kept.c,kept.t]; exact fitting.keyed chunk member}

theorem writeSlot_sound {msg : VolumeChunkData} {lod : LodIndirectionMeta} {chunk : Chunk} {data : List Nat}
    (stocked : Stocked geometry delivered (slotIndex::lost) atlas) (charted : Charted geometry atlas) (unshown : Unshown atlas slotIndex)
    (fitting : Fitting geometry atlas msg) (member : chunk ∈ msg.chunks) (sectioned : Sectioned atlas.entityMetas msg.memberId lod)
    (level : lod.level = msg.level) (absent : atlas.slots.get? (makeCompositeKey msg.memberId chunk.key) = none) (known : delivered msg chunk)
    (read : asUint16 chunk.data chunk.dataType = .ok data) :
    Stocked geometry delivered lost (writeSlot atlas msg lod chunk slotIndex data) ∧ Charted geometry (writeSlot atlas msg lod chunk slotIndex data) ∧
      Kept atlas (writeSlot atlas msg lod chunk slotIndex data) := by
  obtain ⟨gridDims,_,chunkDims,sized⟩ := charted.ruled.shaped _ _ sectioned.listed
  rw [level] at gridDims chunkDims
  have chunkShape : msg.chunk = atlas.chunk := fitting.chunk.trans (chunkDims.symm.trans sized)
  have inside : chunk.place.All (· < ·) lod.gridDims := gridDims.symm ▸ fitting.inside chunk member
  have short : lod.cell chunk.place < atlas.indirectionData.length := charted.ruled.within _ _ _ sectioned.listed inside
  obtain ⟨c,channel,key⟩ := fitting.keyed chunk member
  have same : writeSlot atlas msg lod chunk slotIndex data = {atlas with
      texture := atlas.texture.write (slotOrigin atlas slotIndex) data msg.chunk.y msg.chunk.x (clampedDims msg chunk)
      indirectionData := atlas.indirectionData.set (lod.cell chunk.place) slotIndex
      slotGridIdx := atlas.slotGridIdx.set slotIndex (lod.cell chunk.place)
      slots := atlas.slots.insert (makeCompositeKey msg.memberId chunk.key) slotIndex
      indirectionDirty := true} := by
    have within : decide (lod.cell chunk.place < atlas.indirectionData.length) = true := decide_eq_true short
    unfold LodIndirectionMeta.cell Chunk.place at within ⊢
    unfold writeSlot slotOrigin
    dsimp only at within ⊢
    rw [within,if_pos rfl,if_pos rfl,chunkShape]
  rw [same]
  have held : slotIndex < atlas.totalSlots := by
    have listed := stocked.slotted.free_lt (List.mem_append_left _ List.mem_cons_self)
    exact listed
  have part : (clampedDims msg chunk).All (· ≤ ·) atlas.chunk := chunkShape ▸ clampedDims_le msg chunk
  refine ⟨⟨stocked.slotted.take absent,stocked.total,Texture.write_size.trans stocked.size,(List.length_set ..).trans stocked.backs,
    fun key' slotIndex' there => ?_,
    fun key' slotIndex' there => ?_⟩,⟨?_,charted.linked.link unshown (stocked.backs ▸ held),fun cell slotIndex' there real => ?_⟩,⟨rfl,rfl,rfl,rfl⟩⟩
  · rw [IndexMap.get?_insert] at there
    split at there
    · next new =>
      exact ⟨msg.memberId,msg.level,atlas.t,c,chunk.place,fitting.plain,by rw [new,key]; rfl,fitting.inside chunk member⟩
    · exact stocked.keyed key' slotIndex' there
  · rw [IndexMap.get?_insert] at there
    split at there
    · next new =>
      cases there
      exact ⟨msg,chunk,data,known,new,chunkShape,read,fun enough => Texture.shows_write ⟨enough,stocked.within held part⟩⟩
    · obtain ⟨msg',chunk',data',known',named,sized',read',shows'⟩ := stocked.holds key' slotIndex' there
      refine ⟨msg',chunk',data',known',named,sized',read',fun enough => (shows' enough).beside fun p here there' => ?_⟩
      have apart : slotIndex' ≠ slotIndex := fun same' =>
        stocked.slotted.not_free there (same' ▸ List.mem_append_left _ List.mem_cons_self)
      exact apart (inBox_unique (inBox_mono (sized' ▸ clampedDims_le msg' chunk') here) (inBox_mono part there'))
  · have long : (atlas.indirectionData.set (lod.cell chunk.place) slotIndex).length = atlas.indirectionData.length := List.length_set ..
    exact long.symm ▸ charted.ruled
  · dsimp only at there ⊢
    rw [List.getElem?_set] at there
    by_cases here : lod.cell chunk.place = cell
    · rw [if_pos here,if_pos (here ▸ short)] at there
      cases there
      have keyOf : KeyOf geometry (makeCompositeKey msg.memberId chunk.key) msg.memberId lod.level atlas.t c chunk.place :=
        ⟨fitting.plain,by rw [key,level]; rfl,level.symm ▸ fitting.inside chunk member⟩
      refine ⟨_,msg.memberId,lod,chunk.place,c,keyOf,sectioned,here.symm,channel,?_⟩
      rw [IndexMap.get?_insert,if_pos rfl]
    · rw [if_neg here] at there
      obtain ⟨key',memberId,lod',place,c',keyOf,sectioned',at',channel',resident⟩ := charted.shown cell slotIndex' there real
      refine ⟨key',memberId,lod',place,c',keyOf,sectioned',at',channel',?_⟩
      rw [IndexMap.get?_insert,if_neg fun same' => ?_]
      · exact resident
      · rw [same',absent] at resident
        cases resident

structure Uploading (geometry : Geometry) (delivered : VolumeChunkData → Chunk → Prop) (lost : List Nat) (atlas : AtlasState)
    (result : UploadWalk × Option UploadError) : Prop where
  stocked : ∃ lost', Stocked geometry delivered lost' result.1.atlas ∧ (result.2 = none → lost' = lost)
  charted : Charted geometry result.1.atlas
  kept : Kept atlas result.1.atlas

theorem uploadChunk_sound {s : VolumeState} {platform : Platform} {msg : VolumeChunkData} {lod : LodIndirectionMeta} {chunk : Chunk} {walk : UploadWalk}
    (stocked : Stocked geometry delivered lost walk.atlas) (charted : Charted geometry walk.atlas) (fitting : Fitting geometry walk.atlas msg)
    (member : chunk ∈ msg.chunks) (sectioned : Sectioned walk.atlas.entityMetas msg.memberId lod) (level : lod.level = msg.level)
    (known : delivered msg chunk) : Uploading geometry delivered lost walk.atlas (uploadChunk platform s msg lod walk chunk) := by
  have still : Uploading geometry delivered lost walk.atlas (walk,none) := ⟨⟨lost,stocked,fun _ => rfl⟩,charted,.refl _⟩
  unfold uploadChunk
  by_cases filtered : (!chunkAllowedByCurrentRenderRadius platform s msg chunk) = true
  · rw [if_pos filtered]
    exact ⟨still.stocked,charted,.refl _⟩
  rw [if_neg filtered]
  by_cases present : walk.atlas.slots.contains (makeCompositeKey msg.memberId chunk.key) = true
  · rw [if_pos present]
    exact still
  rw [if_neg present]
  obtain ⟨stocked,charted,kept,slots⟩ := makeRoom_sound stocked charted
  have absent : (makeRoom walk.atlas).slots.get? (makeCompositeKey msg.memberId chunk.key) = none := by
    rw [slots]
    simpa [IndexMap.contains] using present
  obtain refused | ⟨next,taken,took,stocked,charted,kept',unshown,gets⟩ := @takeSlot_sound _ _ _ _ msg.memberId s lod chunk stocked charted
  · rw [refused]
    exact ⟨⟨lost,stocked,fun _ => rfl⟩,charted,kept⟩
  · rw [took]
    dsimp only
    cases read : asUint16 chunk.data chunk.dataType with
    | error text => exact ⟨⟨_,stocked,by simp⟩,charted,kept.trans kept'⟩
    | ok data =>
      dsimp only
      by_cases past : startsPast msg chunk = true
      · rw [if_pos past]
        exact ⟨⟨_,stocked,by simp⟩,charted,kept.trans kept'⟩
      rw [if_neg past]
      have kept := kept.trans kept'
      have absent : next.slots.get? (makeCompositeKey msg.memberId chunk.key) = none := by
        rw [gets,absent,ite_self]
      obtain ⟨stocked,charted,kept'⟩ :=
        writeSlot_sound stocked charted unshown (fitting.kept kept) member (kept.metas ▸ sectioned) level absent known read
      exact ⟨⟨lost,⟨stocked.slotted,stocked.total,stocked.size,stocked.backs,stocked.keyed,stocked.holds⟩,fun _ => rfl⟩,
        ⟨charted.ruled,charted.linked,charted.shown⟩,kept.trans ⟨kept'.metas,kept'.t,kept'.c,kept'.chunk⟩⟩

theorem uploadChunks_sound {s : VolumeState} {platform : Platform} {msg : VolumeChunkData} {lod : LodIndirectionMeta} {walk : UploadWalk}
    {chunks : List Chunk} (stocked : Stocked geometry delivered lost walk.atlas) (charted : Charted geometry walk.atlas)
    (fitting : Fitting geometry walk.atlas msg) (among : ∀ chunk ∈ chunks, chunk ∈ msg.chunks)
    (sectioned : Sectioned walk.atlas.entityMetas msg.memberId lod) (level : lod.level = msg.level) (known : ∀ chunk ∈ msg.chunks, delivered msg chunk) :
    Uploading geometry delivered lost walk.atlas (uploadChunks platform s msg lod walk chunks) := by
  induction chunks generalizing walk with
  | nil => exact ⟨⟨lost,stocked,fun _ => rfl⟩,charted,.refl _⟩
  | cons chunk rest ih =>
    have member := among chunk List.mem_cons_self
    have one := @uploadChunk_sound _ _ _ s platform msg lod chunk walk stocked charted fitting member sectioned level (known chunk member)
    rw [uploadChunks]
    cases stepped : uploadChunk platform s msg lod walk chunk with
    | mk next thrown =>
      rw [stepped] at one
      obtain ⟨⟨lost',stocked',same⟩,charted',kept⟩ := one
      cases thrown with
      | some text => exact ⟨⟨lost',stocked',nofun⟩,charted',kept⟩
      | none =>
        cases same rfl
        have later := @ih next stocked' charted' (fitting.kept kept) (fun other listed => among other (List.mem_cons_of_mem chunk listed))
          (kept.metas.symm ▸ sectioned)
        exact ⟨later.stocked,later.charted,kept.trans later.kept⟩

end Pool

end Lucida.Renderer
