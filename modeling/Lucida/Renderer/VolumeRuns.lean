import Lucida.Renderer.VolumeShows
import Lucida.Web.PlanPrefetch

namespace Lucida.Renderer
open Lib
open Server (Zyx)
open Web (Number chunkKey)
open Web.Planning (Platform VisibleRegion Xyz)

section Remap
variable {geometry : Geometry} {delivered : VolumeChunkData → Chunk → Prop} {lost : List Nat} {atlas : AtlasState} {platform : Platform}
  {key memberId : String} {level t c currentT cell slotIndex : Nat} {currentC : Option Nat} {place : Zyx} {options : RemapOptions}

def parsedKey (level t c : Nat) (place : Zyx) : ParsedChunkKey :=
  ⟨some (level : Int),some (t : Int),some (c : Int),some (place.z : Int),some (place.y : Int),some (place.x : Int)⟩

-- A chunk is shown in its own cell, if its level has a section, it is at the timepoint
-- and the channel, and within the radius.
theorem remapCell_iff (keyOf : KeyOf geometry key memberId level t c place) :
    remapCell platform (volumeRemapParams atlas currentT currentC options) key = some cell ↔
      ∃ lod, Sectioned atlas.entityMetas memberId lod ∧ lod.level = level ∧ t = currentT ∧ currentC = some c ∧
        passesRadius platform (volumeRemapParams atlas currentT currentC options) memberId (parsedKey level t c place) = true ∧
        cell = lod.cell place ∧ cell < atlas.indirectionData.length := by
  have parsed : parseChunkKey (chunkKey level t c place.z place.y place.x) = some (parsedKey level t c place) := parseChunkKey_chunkKey ..
  rw [remapCell,keyOf.named,parseCompositeKey_make keyOf.plain]
  dsimp only
  rw [parsed]
  have metasEq : (volumeRemapParams atlas currentT currentC options).entityMetas = atlas.entityMetas := rfl
  rw [metasEq]
  cases found : atlas.entityMetas.get? memberId with
  | none =>
    refine ⟨nofun,fun ⟨lod,sectioned,_⟩ => ?_⟩
    obtain ⟨metas,there,_⟩ := sectioned
    rw [found] at there
    cases there
  | some metas =>
    have sectioned_iff (lod : LodIndirectionMeta) : Sectioned atlas.entityMetas memberId lod ↔ metas.find? (·.level = lod.level) = some lod := by
      refine ⟨fun ⟨metas',there,found'⟩ => ?_,fun found' => ⟨metas,found,found'⟩⟩
      cases found.symm.trans there
      exact found'
    dsimp only
    by_cases time : t = currentT
    · rw [if_neg (by simp [parsedKey,volumeRemapParams,time])]
      by_cases channel : currentC = some c
      · rw [if_neg (by simp [parsedKey,volumeRemapParams,channel]),if_neg (by simp [onTargetZ,volumeRemapParams])]
        have looked : (metas.find? fun lod : LodIndirectionMeta => some (lod.level : Int) = (parsedKey level t c place).level) = metas.find? (·.level = level) := by
          simp [parsedKey]
        rw [looked]
        cases section' : metas.find? (·.level = level) with
        | none =>
          refine ⟨nofun,fun ⟨lod,sectioned,same,_⟩ => ?_⟩
          have there := (sectioned_iff lod).mp sectioned
          rw [same,section'] at there
          cases there
        | some lod =>
          have named : lod.level = level := of_decide_eq_true (List.find?_some (p := fun lod : LodIndirectionMeta => decide (lod.level = level)) section')
          have unique (other : LodIndirectionMeta) : Sectioned atlas.entityMetas memberId other ∧ other.level = level ↔ other = lod := by
            rw [sectioned_iff]
            refine ⟨fun ⟨there,same⟩ => ?_,fun same => ?_⟩
            · rw [same,section'] at there
              exact (Option.some.inj there).symm
            · rw [same,named]
              exact ⟨section',rfl⟩
          dsimp only
          have idx : globalIdx (volumeRemapParams atlas currentT currentC options) lod (parsedKey level t c place) = some ((lod.cell place : Nat) : Int) := by
            simp [globalIdx,volumeRemapParams,parsedKey,LodIndirectionMeta.cell]
          by_cases passes : passesRadius platform (volumeRemapParams atlas currentT currentC options) memberId (parsedKey level t c place) = true
          · rw [if_neg (by simp [passes]),idx,Option.bind_some]
            have data : (volumeRemapParams atlas currentT currentC options).indirectionData = atlas.indirectionData := rfl
            rw [data]
            constructor
            · intro there
              split at there
              · next within =>
                cases there
                exact ⟨lod,((unique lod).mpr rfl).1,named,time,channel,passes,rfl,by simpa using within.2⟩
              · cases there
            · rintro ⟨other,sectioned,same,_,_,_,rfl,short⟩
              cases (unique other).mp ⟨sectioned,same⟩
              exact if_pos ⟨Int.natCast_nonneg _,by exact_mod_cast short⟩
          · rw [if_pos (by simp [passes])]
            exact ⟨nofun,fun ⟨_,_,_,_,_,passes',_⟩ => absurd passes' passes⟩
      · rw [if_pos]
        · exact ⟨nofun,fun ⟨_,_,_,_,channel',_⟩ => absurd channel' channel⟩
        · cases currentC with
          | none => rfl
          | some c' =>
            have apart : c ≠ c' := fun same => channel (congrArg some same.symm)
            simpa [parsedKey,volumeRemapParams] using apart
    · rw [if_pos]
      · exact ⟨nofun,fun ⟨_,_,_,time',_⟩ => absurd time' time⟩
      · simpa [parsedKey,volumeRemapParams] using time

def remapPairs (platform : Platform) (params : RemapParams) : List (Nat × Nat) :=
  params.slots.entries.filterMap fun slot => (remapCell platform params slot.1).map fun cell => (cell,slot.2)

theorem remapSharedIndirection_eq (platform : Platform) (params : RemapParams) :
    remapSharedIndirection platform params = (remapPairs platform params).foldl link
      (List.replicate params.indirectionData.length emptyCell,List.replicate params.slotGridIdx.length (-1)) := by
  rw [remapSharedIndirection,remapPairs,List.foldl_filterMap]
  congr 1
  funext tables slot
  cases remapCell platform params slot.1 <;> rfl

theorem mem_remapPairs {params : RemapParams} :
    (cell,slotIndex) ∈ remapPairs platform params ↔ ∃ key, params.slots.get? key = some slotIndex ∧ remapCell platform params key = some cell := by
  unfold remapPairs
  rw [List.mem_filterMap]
  constructor
  · rintro ⟨⟨key,slot⟩,member,shown⟩
    obtain ⟨cell',there,same⟩ := Option.map_eq_some_iff.mp shown
    cases same
    exact ⟨key,IndexMap.mem_entries_iff.mp member,there⟩
  · rintro ⟨key,there,shown⟩
    exact ⟨(key,slotIndex),IndexMap.mem_entries_iff.mpr there,by rw [shown]; rfl⟩

theorem remapPairs_distinct {params : RemapParams} (distinct : params.slots.values.Nodup) : ((remapPairs platform params).map Prod.snd).Nodup := by
  refine List.pairwise_map.mpr (List.pairwise_filterMap.mpr ((List.pairwise_map.mp distinct).imp fun {a b} apart => ?_))
  intro pair shown pair' shown'
  obtain ⟨_,_,rfl⟩ := Option.map_eq_some_iff.mp shown
  obtain ⟨_,_,rfl⟩ := Option.map_eq_some_iff.mp shown'
  exact apart

theorem remapIndirection_tables (stocked : Stocked geometry delivered lost atlas) (platform : Platform) (currentT : Nat) (currentC : Option Nat)
    (options : RemapOptions) :
    Linked emptyCell (remapIndirection platform atlas currentT currentC options).indirectionData
      (remapIndirection platform atlas currentT currentC options).slotGridIdx ∧
    (remapIndirection platform atlas currentT currentC options).indirectionData.length = atlas.indirectionData.length ∧
    (remapIndirection platform atlas currentT currentC options).slotGridIdx.length = atlas.slotGridIdx.length ∧
    ∀ cell slotIndex : Nat, (remapIndirection platform atlas currentT currentC options).indirectionData[cell]? = some slotIndex → slotIndex ≠ emptyCell →
      ∃ key, atlas.slots.get? key = some slotIndex ∧ remapCell platform (volumeRemapParams atlas currentT currentC options) key = some cell := by
  have filled := remapSharedIndirection_eq platform (volumeRemapParams atlas currentT currentC options)
  have distinct := stocked.slotted.nodup.of_append_right
  have held : ∀ pair ∈ remapPairs platform (volumeRemapParams atlas currentT currentC options), pair.2 < atlas.slotGridIdx.length := by
    rintro ⟨cell,slotIndex⟩ member
    obtain ⟨key,there,_⟩ := mem_remapPairs.mp member
    exact stocked.backs ▸ stocked.lt there
  obtain ⟨linked,long,long',from'⟩ := @linked_pairs emptyCell (remapPairs platform (volumeRemapParams atlas currentT currentC options))
    (List.replicate atlas.indirectionData.length emptyCell,List.replicate atlas.slotGridIdx.length (-1)) (remapPairs_distinct distinct)
    (fun pair member => List.length_replicate ▸ held pair member) (.blank _ _) fun pair _ real cell there => by
      rw [List.getElem?_replicate] at there
      split at there
      · exact real (Option.some.inj there).symm
      · cases there
  unfold remapIndirection
  rw [filled]
  refine ⟨linked,long.trans List.length_replicate,long'.trans List.length_replicate,fun cell slotIndex there real => ?_⟩
  obtain member | there := from' cell slotIndex there
  · exact mem_remapPairs.mp member
  · rw [List.getElem?_replicate] at there
    split at there
    · exact absurd (Option.some.inj there).symm real
    · cases there

theorem remapIndirection_charted (stocked : Stocked geometry delivered lost atlas)
    (ruled : Ruled geometry atlas.entityMetas atlas.chunk atlas.indirectionData.length) (time : atlas.t = currentT) (channel : atlas.c = currentC) :
    Stocked geometry delivered lost (remapIndirection platform atlas currentT currentC options) ∧
      Charted geometry (remapIndirection platform atlas currentT currentC options) := by
  obtain ⟨linked,long,long',from'⟩ := remapIndirection_tables stocked platform currentT currentC options
  refine ⟨⟨stocked.slotted,stocked.total,stocked.size,long'.trans stocked.backs,stocked.keyed,stocked.holds⟩,
    ⟨long.symm ▸ ruled,linked,fun cell slotIndex there real => ?_⟩⟩
  obtain ⟨key,resident,shown⟩ := from' cell slotIndex there real
  obtain ⟨memberId,level,t,c,place,keyOf⟩ := stocked.keyed key slotIndex resident
  obtain ⟨lod,sectioned,rfl,rfl,channel',_,rfl,_⟩ := (remapCell_iff keyOf).mp shown
  exact ⟨key,memberId,lod,place,c,time.symm ▸ keyOf,sectioned,rfl,channel.trans channel',resident⟩

theorem remapIndirection_shows (stocked : Stocked geometry delivered lost atlas)
    (ruled : Ruled geometry atlas.entityMetas atlas.chunk atlas.indirectionData.length) {lod : LodIndirectionMeta}
    (sectioned : Sectioned atlas.entityMetas memberId lod) (keyOf : KeyOf geometry key memberId lod.level currentT c place)
    (resident : atlas.slots.get? key = some slotIndex)
    (passes : passesRadius platform (volumeRemapParams atlas currentT (some c) options) memberId (parsedKey lod.level currentT c place) = true) :
    (remapIndirection platform atlas currentT (some c) options).indirectionData[lod.cell place]? = some slotIndex := by
  have inside : place.All (· < ·) lod.gridDims := (ruled.shaped memberId lod sectioned.listed).1 ▸ keyOf.inside
  have member : (lod.cell place,slotIndex) ∈ remapPairs platform (volumeRemapParams atlas currentT (some c) options) :=
    mem_remapPairs.mpr ⟨key,resident,(remapCell_iff keyOf).mpr
      ⟨lod,sectioned,rfl,rfl,rfl,passes,rfl,ruled.within memberId lod place sectioned.listed inside⟩⟩
  unfold remapIndirection
  rw [remapSharedIndirection_eq]
  refine shown_pairs ?_ (fun pair listed => ?_) member
  · -- Two chunks at one timepoint and channel have one cell only if they are one.
    refine List.pairwise_map.mpr (List.pairwise_filterMap.mpr ?_)
    refine (List.pairwise_map.mp atlas.slots.nodup).imp_of_mem fun {a b} listed listed' apart => ?_
    intro pair shown pair' shown' same
    obtain ⟨cell,at',rfl⟩ := Option.map_eq_some_iff.mp shown
    obtain ⟨cell',at'',rfl⟩ := Option.map_eq_some_iff.mp shown'
    obtain ⟨m,l,t,c',p,keyOf⟩ := stocked.keyed a.1 a.2 (IndexMap.mem_entries_iff.mp listed)
    obtain ⟨m',l',t',c'',p',keyOf'⟩ := stocked.keyed b.1 b.2 (IndexMap.mem_entries_iff.mp listed')
    obtain ⟨lod₁,sectioned₁,rfl,rfl,channel₁,_,rfl,_⟩ := (remapCell_iff keyOf).mp at'
    obtain ⟨lod₂,sectioned₂,rfl,rfl,channel₂,_,rfl,_⟩ := (remapCell_iff keyOf').mp at''
    cases channel₁
    cases channel₂
    have inside₁ : p.All (· < ·) lod₁.gridDims := (ruled.shaped m lod₁ sectioned₁.listed).1 ▸ keyOf.inside
    have inside₂ : p'.All (· < ·) lod₂.gridDims := (ruled.shaped m' lod₂ sectioned₂.listed).1 ▸ keyOf'.inside
    obtain ⟨rfl,rfl⟩ := ruled.apart _ _ _ _ _ _ sectioned₁.listed sectioned₂.listed inside₁ inside₂ same
    cases LodIndirectionMeta.cell_injective inside₁ inside₂ same
    exact apart (keyOf.named.trans keyOf'.named.symm)
  · obtain ⟨key',_,shown⟩ := mem_remapPairs.mp (show (pair.1,pair.2) ∈ _ from listed)
    obtain ⟨_,_,_,_,_,keyOf'⟩ := stocked.keyed key' pair.2 ‹_›
    obtain ⟨_,_,_,_,_,_,_,short⟩ := (remapCell_iff keyOf').mp shown
    exact List.length_replicate.symm ▸ short

theorem remapIndirection_only (stocked : Stocked geometry delivered lost atlas)
    (ruled : Ruled geometry atlas.entityMetas atlas.chunk atlas.indirectionData.length) {lod : LodIndirectionMeta}
    (listed : Listed atlas.entityMetas memberId lod) (inside : place.All (· < ·) lod.gridDims) (real : slotIndex ≠ emptyCell)
    (there : (remapIndirection platform atlas currentT currentC options).indirectionData[lod.cell place]? = some slotIndex) :
    ∃ key c, atlas.slots.get? key = some slotIndex ∧ KeyOf geometry key memberId lod.level currentT c place ∧ currentC = some c ∧
      passesRadius platform (volumeRemapParams atlas currentT currentC options) memberId (parsedKey lod.level currentT c place) = true := by
  obtain ⟨_,_,_,from'⟩ := remapIndirection_tables stocked platform currentT currentC options
  obtain ⟨key,resident,shown⟩ := from' (lod.cell place) slotIndex there real
  obtain ⟨memberId',level,t,c,place',keyOf⟩ := stocked.keyed key slotIndex resident
  obtain ⟨lod',sectioned,rfl,rfl,channel,passes,same,_⟩ := (remapCell_iff keyOf).mp shown
  have inside' : place'.All (· < ·) lod'.gridDims := (ruled.shaped memberId' lod' sectioned.listed).1 ▸ keyOf.inside
  obtain ⟨rfl,rfl⟩ := ruled.apart _ _ _ _ _ _ listed sectioned.listed inside inside' same
  cases LodIndirectionMeta.cell_injective inside inside' same
  exact ⟨key,c,resident,keyOf,channel,passes⟩

end Remap

section Layout
variable {geometry : Geometry} {group : PoolGroup} {walk : PoolLayout} {item : PoolEntry}

def PoolEntry.Conforms (geometry : Geometry) (item : PoolEntry) : Prop := ∀ lm ∈ item.entry.levels, lm = geometry item.memberId lm.level

structure LaidOut (geometry : Geometry) (chunk : Zyx) (walk : PoolLayout) : Prop where
  ruled : Ruled geometry walk.entityMetas chunk walk.offset
  before : ∀ memberId lod, Listed walk.entityMetas memberId lod → lod.offset+lod.gridDims.x*lod.gridDims.y*lod.gridDims.z ≤ walk.offset

theorem laidOut_empty (geometry : Geometry) (chunk : Zyx) (memberSourcePools : IndexMap String (IndexMap String String)) :
    LaidOut geometry chunk ⟨.empty,.empty,memberSourcePools,0⟩ := by
  have none' : ∀ memberId lod, ¬Listed (.empty : IndexMap String (List LodIndirectionMeta)) memberId lod := fun _ _ ⟨_,there,_⟩ => by cases there
  exact ⟨⟨fun _ _ listed => absurd listed (none' _ _),fun _ _ _ listed => absurd listed (none' _ _),
    fun _ _ _ _ _ _ listed => absurd listed (none' _ _)⟩,fun _ _ listed => absurd listed (none' _ _)⟩

theorem layOutEntry_laidOut (laid : LaidOut geometry group.chunkDims walk) (conforms : item.Conforms geometry) :
    LaidOut geometry group.chunkDims (layOutEntry group .volume walk item) := by
  unfold layOutEntry computeEntityTierMeta
  cases found : item.entry.levels.find? (·.level = item.level) with
  | none => exact ⟨laid.ruled,laid.before⟩
  | some lm =>
    have manifest := conforms lm (List.mem_of_find?_eq_some found)
    have level : lm.level = item.level := of_decide_eq_true (List.find?_some (p := fun lm : ColdLevel => decide (lm.level = item.level)) found)
    dsimp only
    by_cases fits : lm.chunkShape = group.chunkDims
    · rw [if_pos (decide_eq_true fits)]
      dsimp only
      generalize added : (⟨item.level,lm.gridShape,lm.chunkShape,lm.levelDims,walk.offset⟩ : LodIndirectionMeta) = new
      have listed_cases {memberId : String} {lod : LodIndirectionMeta}
          (listed : Listed (walk.entityMetas.upsert item.memberId fun metas => metas.getD [] ++ [new]) memberId lod) :
          Listed walk.entityMetas memberId lod ∨ memberId = item.memberId ∧ lod = new := by
        obtain ⟨metas,there,member⟩ := listed
        rw [IndexMap.get?_upsert] at there
        split at there
        · next same =>
          cases there
          rcases List.mem_append.mp member with member | member
          · cases old : walk.entityMetas.get? item.memberId with
            | none =>
              rw [old] at member
              cases member
            | some metas =>
              rw [old] at member
              exact .inl ⟨metas,same ▸ old,member⟩
          · exact .inr ⟨same,List.mem_singleton.mp member⟩
        · exact .inl ⟨metas,there,member⟩
      have start : new.offset = walk.offset := by rw [← added]
      have size : lm.gridShape.x*lm.gridShape.y*lm.gridShape.z = new.gridDims.x*new.gridDims.y*new.gridDims.z := by rw [← added]
      have old_lt {memberId : String} {lod : LodIndirectionMeta} {place : Zyx} (listed : Listed walk.entityMetas memberId lod)
          (inside : place.All (· < ·) lod.gridDims) : lod.cell place < new.offset :=
        start ▸ laid.ruled.within memberId lod place listed inside
      have new_ge (place : Zyx) : new.offset ≤ new.cell place := by
        rw [LodIndirectionMeta.cell_eq]
        exact Nat.le_add_right _ _
      refine ⟨⟨fun memberId lod listed => ?_,fun memberId lod place listed inside => ?_,
        fun memberId lod place memberId' lod' place' listed listed' inside inside' same => ?_⟩,fun memberId lod listed => ?_⟩
      · obtain listed | ⟨rfl,rfl⟩ := listed_cases listed
        · exact laid.ruled.shaped memberId lod listed
        · rw [← added,← level]
          dsimp only
          rw [← manifest]
          exact ⟨rfl,rfl,rfl,fits⟩
      · dsimp only
        rw [size]
        obtain listed | ⟨rfl,rfl⟩ := listed_cases listed
        · exact (laid.ruled.within memberId lod place listed inside).trans_le (Nat.le_add_right _ _)
        · exact start ▸ LodIndirectionMeta.cell_lt inside
      · obtain old | ⟨rfl,rfl⟩ := listed_cases listed
        · obtain old' | ⟨rfl,rfl⟩ := listed_cases listed'
          · exact laid.ruled.apart _ _ _ _ _ _ old old' inside inside' same
          · exact absurd same ((old_lt old inside).trans_le (new_ge place')).ne
        · obtain old' | ⟨rfl,rfl⟩ := listed_cases listed'
          · exact absurd same ((old_lt old' inside').trans_le (new_ge place)).ne'
          · exact ⟨rfl,rfl⟩
      · dsimp only
        rw [size]
        obtain listed | ⟨rfl,rfl⟩ := listed_cases listed
        · exact (laid.before memberId lod listed).trans (Nat.le_add_right _ _)
        · rw [start]
    · rw [if_neg (by simpa using fits)]
      exact ⟨laid.ruled,laid.before⟩

theorem layOutGroup_ruled (memberSourcePools : IndexMap String (IndexMap String String)) (conforms : ∀ item ∈ group.entries, item.Conforms geometry) :
    Ruled geometry (layOutGroup group .volume memberSourcePools).entityMetas group.chunkDims (layOutGroup group .volume memberSourcePools).offset := by
  have laid : LaidOut geometry group.chunkDims (layOutGroup group .volume memberSourcePools) :=
    List.foldlRecOn group.entries (layOutEntry group .volume) (laidOut_empty geometry group.chunkDims memberSourcePools)
      fun walk laid item member => layOutEntry_laidOut laid (conforms item member)
  exact laid.ruled

def ColdStateMessage.Conforms (geometry : Geometry) (msg : ColdStateMessage) : Prop :=
  ∀ entry ∈ msg.activeSet, ∀ channel ∈ poolChannels msg, ∀ lm ∈ entry.levels,
    lm = geometry (memberIdForColdEntry entry channel msg.multiChannel) lm.level

theorem groupEntriesByPool_keeps {msg : ColdStateMessage} {Keeps : IndexMap String PoolGroup → Prop} (empty : Keeps .empty)
    (adds : ∀ channel ∈ poolChannels msg, ∀ entry ∈ msg.activeSet, ∀ groups source, Keeps groups → Keeps (addToPool msg channel entry groups source)) :
    Keeps (groupEntriesByPool msg) := by
  refine List.foldlRecOn (poolChannels msg) _ empty fun groups keeps channel onChannel => ?_
  refine List.foldlRecOn msg.activeSet _ keeps fun groups keeps entry active => ?_
  exact List.foldlRecOn (tierSourcesForEntry entry) _ keeps fun groups keeps source _ => adds channel onChannel entry active groups source keeps

theorem groupEntriesByPool_conforms {msg : ColdStateMessage} (conforms : msg.Conforms geometry) :
    ∀ group ∈ (groupEntriesByPool msg).values, ∀ item ∈ group.entries, item.Conforms geometry := by
  have whole : ∀ poolKey group, (groupEntriesByPool msg).get? poolKey = some group → ∀ item ∈ group.entries, item.Conforms geometry := by
    refine @groupEntriesByPool_keeps msg
      (fun groups => ∀ poolKey group, groups.get? poolKey = some group → ∀ item ∈ group.entries, item.Conforms geometry) ?_ ?_
    · intro _ _ there
      cases there
    · intro channel onChannel entry active groups source keeps
      unfold addToPool
      split
      · exact keeps
      · intro poolKey group there item member
        dsimp only at there
        rw [IndexMap.get?_insert] at there
        split at there
        · cases there
          rcases List.mem_append.mp member with member | member
          · cases old : groups.get? _ with
            | none =>
              rw [old] at member
              cases member
            | some group =>
              rw [old] at member
              exact keeps _ group old item member
          · cases List.mem_singleton.mp member
            exact conforms entry active channel onChannel
        · exact keeps poolKey group there item member
  intro group member
  obtain ⟨poolKey,there⟩ := IndexMap.mem_values.mp member
  exact whole poolKey group there

end Layout

section Runs
variable {geometry : Geometry} {delivered delivered' : VolumeChunkData → Chunk → Prop} {readable : Prop} {device : VolumeDevice} {platform : Platform}
  {s : VolumeState}

-- Every pool is sound, and has lost no slot as long as all data were readable.
def VolumeSound (geometry : Geometry) (delivered : VolumeChunkData → Chunk → Prop) (readable : Prop) (s : VolumeState) : Prop :=
  ∀ poolKey atlas, s.volumeAtlases.get? poolKey = some atlas →
    ∃ lost, Stocked geometry delivered lost atlas ∧ Charted geometry atlas ∧ (readable → lost = [])

theorem VolumeSound.insert {poolKey : String} {atlas : AtlasState} {lost : List Nat} {s' : VolumeState} (sound : VolumeSound geometry delivered readable s)
    (stocked : Stocked geometry delivered lost atlas) (charted : Charted geometry atlas) (whole : readable → lost = [])
    (pools : s'.volumeAtlases = s.volumeAtlases.insert poolKey atlas) : VolumeSound geometry delivered readable s' := by
  intro poolKey' atlas' there
  rw [pools,IndexMap.get?_insert] at there
  split at there
  · cases there
    exact ⟨lost,stocked,charted,whole⟩
  · exact sound poolKey' atlas' there

theorem getOrCreateVolumePool_stocked {existing : Option AtlasState} (chunk : Zyx) (t : Nat) (c : Option Nat)
    (sound : ∀ atlas, existing = some atlas → ∃ lost, Stocked geometry delivered lost atlas ∧ (readable → lost = [])) :
    ∃ lost, Stocked geometry delivered lost (getOrCreateVolumePool device existing chunk t c) ∧ (readable → lost = []) ∧
      (getOrCreateVolumePool device existing chunk t c).chunk = chunk ∧ (getOrCreateVolumePool device existing chunk t c).t = t ∧
      (getOrCreateVolumePool device existing chunk t c).c = c := by
  have new := @createVolumeAtlas_stocked geometry delivered device chunk t c
  unfold getOrCreateVolumePool
  cases existing with
  | none => exact ⟨[],new,fun _ => rfl,rfl,rfl,rfl⟩
  | some atlas =>
    dsimp only
    split
    · next same =>
      obtain ⟨lost,stocked,whole⟩ := sound atlas rfl
      exact ⟨lost,⟨stocked.slotted,stocked.total,stocked.size,stocked.backs,stocked.keyed,stocked.holds⟩,whole,same,rfl,rfl⟩
    · exact ⟨[],new,fun _ => rfl,rfl,rfl,rfl⟩

-- The remap of a pool is that of a pool whose sections are already laid out.
theorem volumePool_remapped {msg : ColdStateMessage} {group : PoolGroup} {layout : PoolLayout} {existing : Option AtlasState}
    (ruled : Ruled geometry layout.entityMetas group.chunkDims layout.offset)
    (sound : ∀ atlas, existing = some atlas → ∃ lost, Stocked geometry delivered lost atlas ∧ (readable → lost = [])) :
    ∃ lost atlas, Stocked geometry delivered lost atlas ∧ (readable → lost = []) ∧
      Ruled geometry atlas.entityMetas atlas.chunk atlas.indirectionData.length ∧ atlas.t = msg.currentT ∧ atlas.c = group.channel ∧
      volumePool device platform msg group layout existing = remapIndirection platform atlas msg.currentT group.channel
        ⟨some msg.visibleRegion,msg.renderRadiusView.map (· group.tier),layout.entryByMember⟩ := by
  obtain ⟨lost,stocked,whole,chunk,time,channel⟩ := @getOrCreateVolumePool_stocked _ _ _ device _ group.chunkDims msg.currentT group.channel sound
  unfold volumePool
  generalize getOrCreateVolumePool device existing group.chunkDims msg.currentT group.channel = atlas at stocked chunk time channel
  dsimp only
  have resized : ∃ data, resizeIndirection {atlas with entityMetas := layout.entityMetas} layout.offset =
      {atlas with entityMetas := layout.entityMetas, indirectionData := data} ∧ data.length = layout.offset := by
    unfold resizeIndirection
    split
    · next same => exact ⟨atlas.indirectionData,rfl,same.symm⟩
    · exact ⟨_,rfl,List.length_replicate⟩
  obtain ⟨data,resized,long⟩ := resized
  rw [resized]
  exact ⟨lost,{atlas with entityMetas := layout.entityMetas, indirectionData := data},
    ⟨stocked.slotted,stocked.total,stocked.size,stocked.backs,stocked.keyed,stocked.holds⟩,whole,by rw [chunk,long]; exact ruled,time,channel,rfl⟩

theorem volumePool_sound {msg : ColdStateMessage} {group : PoolGroup} {layout : PoolLayout} {existing : Option AtlasState}
    (ruled : Ruled geometry layout.entityMetas group.chunkDims layout.offset)
    (sound : ∀ atlas, existing = some atlas → ∃ lost, Stocked geometry delivered lost atlas ∧ (readable → lost = [])) :
    ∃ lost, Stocked geometry delivered lost (volumePool device platform msg group layout existing) ∧
      Charted geometry (volumePool device platform msg group layout existing) ∧ (readable → lost = []) := by
  obtain ⟨lost,atlas,stocked,whole,ruled,time,channel,made⟩ :=
    @volumePool_remapped geometry delivered readable device platform msg group layout existing ruled sound
  rw [made]
  obtain ⟨stocked,charted⟩ := remapIndirection_charted stocked ruled time channel
  exact ⟨lost,stocked,charted,whole⟩

theorem applyGroup_sound {msg : ColdStateMessage} {group : PoolGroup} (sound : VolumeSound geometry delivered readable s)
    (conforms : ∀ item ∈ group.entries, item.Conforms geometry) : VolumeSound geometry delivered readable (applyGroup device platform msg s group) := by
  unfold applyGroup
  cases mode : msg.viewMode with
  | slice => exact sound
  | volume =>
    obtain ⟨lost,stocked,charted,whole⟩ := @volumePool_sound geometry delivered readable device platform msg group _
      (s.volumeAtlases.get? group.poolKey) (layOutGroup_ruled s.memberSourcePools conforms) fun atlas there => by
        obtain ⟨lost,stocked,_,whole⟩ := sound _ atlas there
        exact ⟨lost,stocked,whole⟩
    exact sound.insert stocked charted whole rfl

theorem registerMembers_sound {datasetId : String} {members : List (ColdStateActiveEntry × String)} (sound : VolumeSound geometry delivered readable s) :
    VolumeSound geometry delivered readable (members.foldl (registerMember datasetId) s) :=
  List.foldlRecOn members (registerMember datasetId) sound fun _ sound _ _ => sound

theorem applyColdStateChunks_sound {msg : ColdStateMessage} (sound : VolumeSound geometry delivered readable s) (conforms : msg.Conforms geometry) :
    VolumeSound geometry delivered readable (applyColdStateChunks device platform s msg) := by
  unfold applyColdStateChunks
  refine List.foldlRecOn (groupEntriesByPool msg).values _ ?_ fun s sound group member =>
    applyGroup_sound sound (groupEntriesByPool_conforms conforms group member)
  refine registerMembers_sound ?_
  exact sound

def VolumeChunkData.Readable (msg : VolumeChunkData) : Prop :=
  ∀ chunk ∈ msg.chunks, (∃ data, asUint16 chunk.data chunk.dataType = .ok data) ∧ startsPast msg chunk = false

theorem uploadChunks_reads {msg : VolumeChunkData} {lod : LodIndirectionMeta} {walk : UploadWalk} {chunks : List Chunk}
    (reads : ∀ chunk ∈ chunks, (∃ data, asUint16 chunk.data chunk.dataType = .ok data) ∧ startsPast msg chunk = false) :
    (uploadChunks platform s msg lod walk chunks).2 = none := by
  induction chunks generalizing walk with
  | nil => rfl
  | cons chunk rest ih =>
    obtain ⟨⟨data,read⟩,within⟩ := reads chunk List.mem_cons_self
    have quiet : (uploadChunk platform s msg lod walk chunk).2 = none := by
      unfold uploadChunk
      split
      · rfl
      · split
        · rfl
        · split
          · rfl
          · dsimp only
            rw [read]
            dsimp only
            rw [within,if_neg Bool.false_ne_true]
    rw [uploadChunks]
    cases stepped : uploadChunk platform s msg lod walk chunk with
    | mk next thrown =>
      rw [stepped] at quiet
      cases quiet
      exact ih fun other member => reads other (List.mem_cons_of_mem chunk member)

structure TakenUp (s : VolumeState) (msg : VolumeChunkData) (poolKey : String) (atlas : AtlasState) (lod : LodIndirectionMeta) : Prop where
  routed : routedPool s msg = some poolKey
  fresh : isStaleDelivery msg.epochs s.currentEpochs = false
  pool : s.volumeAtlases.get? poolKey = some atlas
  sectioned : Sectioned atlas.entityMetas msg.memberId lod
  level : lod.level = msg.level

theorem handleVolumeChunkData_cases (platform : Platform) (s : VolumeState) (msg : VolumeChunkData) :
    (∃ reason, handleVolumeChunkData platform s msg = ⟨s,postChunksRequeued msg.memberId (msg.chunks.map (·.key)) reason,none⟩) ∨
    ∃ poolKey atlas lod, TakenUp s msg poolKey atlas lod ∧
      handleVolumeChunkData platform s msg = match uploadChunks platform s msg lod ⟨atlas,[],[],false⟩ msg.chunks with
        | (walk,some text) => ⟨{s with volumeAtlases := s.volumeAtlases.insert poolKey walk.atlas},[],some text⟩
        | (walk,none) => ⟨{s with volumeAtlases := s.volumeAtlases.insert poolKey walk.atlas},uploadPosts s msg walk,none⟩ := by
  unfold handleVolumeChunkData
  cases routed : routedPool s msg with
  | none => exact .inl ⟨_,rfl⟩
  | some poolKey =>
    dsimp only
    cases stale : isStaleDelivery msg.epochs s.currentEpochs with
    | true => exact .inl ⟨_,rfl⟩
    | false =>
      rw [if_neg Bool.false_ne_true]
      cases pool : s.volumeAtlases.get? poolKey with
      | none => exact .inl ⟨_,rfl⟩
      | some atlas =>
        dsimp only
        cases metas : atlas.entityMetas.get? msg.memberId with
        | none => exact .inl ⟨_,rfl⟩
        | some entityLodMetas =>
          dsimp only
          cases found : entityLodMetas.find? (·.level = msg.level) with
          | none => exact .inl ⟨_,rfl⟩
          | some lod =>
            have level : lod.level = msg.level :=
              of_decide_eq_true (List.find?_some (p := fun lod : LodIndirectionMeta => decide (lod.level = msg.level)) found)
            exact .inr ⟨poolKey,atlas,lod,⟨routed,stale,pool,⟨entityLodMetas,metas,level.symm ▸ found⟩,level⟩,rfl⟩

-- An event in keeping with the manifest and, for a delivery, with the pool it is taken up
-- in: a delivery of another timepoint or channel is stale there.
def VolumeEvent.Fits (geometry : Geometry) (s : VolumeState) : VolumeEvent → Prop
  | .coldState msg => msg.Conforms geometry
  | .chunkData msg => ∀ poolKey atlas lod, TakenUp s msg poolKey atlas lod → Fitting geometry atlas msg
  | .viewHotState _ => True
  | .removeLayer _ => True

def FittingRun (geometry : Geometry) (device : VolumeDevice) (platform : Platform) (events : List VolumeEvent) : Prop :=
  ∀ before event after, events = before ++ event::after → event.Fits geometry (runVolumeEvents device platform before)

def Arrived (geometry : Geometry) (device : VolumeDevice) (platform : Platform) (events : List VolumeEvent) (msg : VolumeChunkData) (chunk : Chunk) :
    Prop :=
  chunk ∈ msg.chunks ∧ ∃ before after poolKey atlas lod, events = before ++ .chunkData msg::after ∧
    TakenUp (runVolumeEvents device platform before) msg poolKey atlas lod ∧ Fitting geometry atlas msg

def ReadableRun (events : List VolumeEvent) : Prop := ∀ msg, .chunkData msg ∈ events → msg.Readable

theorem Arrived.later {events : List VolumeEvent} {msg : VolumeChunkData} {chunk : Chunk} (arrived : Arrived geometry device platform events msg chunk)
    (event : VolumeEvent) : Arrived geometry device platform (events ++ [event]) msg chunk := by
  obtain ⟨member,before,after,poolKey,atlas,lod,rfl,rest⟩ := arrived
  exact ⟨member,before,after ++ [event],poolKey,atlas,lod,by rw [List.append_assoc,List.cons_append],rest⟩

theorem FittingRun.before {events : List VolumeEvent} {event : VolumeEvent} (fits : FittingRun geometry device platform (events ++ [event])) :
    FittingRun geometry device platform events := by
  rintro before event' after rfl
  exact fits before event' (after ++ [event]) (by rw [List.append_assoc,List.cons_append])

theorem volumeSound_run {events : List VolumeEvent} (fits : FittingRun geometry device platform events) :
    VolumeSound geometry (Arrived geometry device platform events) (ReadableRun events) (runVolumeEvents device platform events) := by
  induction events using List.reverseRecOn with
  | nil => exact fun _ _ there => by cases there
  | append_singleton events event ih =>
    have now := fits events event [] rfl
    have before : VolumeSound geometry (Arrived geometry device platform (events ++ [event])) (ReadableRun (events ++ [event]))
        (runVolumeEvents device platform events) := by
      intro poolKey atlas there
      obtain ⟨lost,stocked,charted,whole⟩ := ih fits.before poolKey atlas there
      exact ⟨lost,stocked.mono fun msg chunk arrived => arrived.later event,charted,
        fun reads => whole fun msg member => reads msg (List.mem_append_left _ member)⟩
    have step : runVolumeEvents device platform (events ++ [event]) =
        handleVolumeEvent device platform (runVolumeEvents device platform events) event := List.foldl_concat ..
    rw [step]
    cases event with
    | coldState msg => exact applyColdStateChunks_sound before now
    | viewHotState hits => exact before
    | removeLayer datasetId =>
      intro poolKey atlas there
      dsimp only [handleVolumeEvent,removeLayerChunks] at there
      rw [IndexMap.get?_erase] at there
      split at there
      · cases there
      · exact before poolKey atlas there
    | chunkData msg =>
      dsimp only [handleVolumeEvent]
      obtain ⟨reason,requeued⟩ | ⟨poolKey,atlas,lod,takenUp,handled⟩ :=
        handleVolumeChunkData_cases platform (runVolumeEvents device platform events) msg
      · rw [requeued]
        exact before
      · have fitting := now poolKey atlas lod takenUp
        obtain ⟨lost,stocked,charted,whole⟩ := before poolKey atlas takenUp.pool
        have known : ∀ chunk ∈ msg.chunks, Arrived geometry device platform (events ++ [.chunkData msg]) msg chunk :=
          fun chunk member => ⟨member,events,[],poolKey,atlas,lod,rfl,takenUp,fitting⟩
        obtain ⟨⟨lost',stocked',same⟩,charted',_⟩ :=
          @uploadChunks_sound _ _ _ (runVolumeEvents device platform events) platform msg lod ⟨atlas,[],[],false⟩ msg.chunks stocked charted fitting
            (fun _ member => member) takenUp.sectioned takenUp.level known
        have whole' : ReadableRun (events ++ [.chunkData msg]) → lost' = [] := fun reads =>
          (same (uploadChunks_reads (reads msg (List.mem_append_right _ List.mem_cons_self)))).trans (whole reads)
        rw [handled]
        cases result : uploadChunks platform (runVolumeEvents device platform events) msg lod ⟨atlas,[],[],false⟩ msg.chunks with
        | mk walk thrown =>
          rw [result] at stocked' charted'
          cases thrown with
          | none => exact before.insert stocked' charted' whole' rfl
          | some text => exact before.insert stocked' charted' whole' rfl

-- In a fitting run, a cell of a section that shows a slot shows the voxels of its own
-- chunk, as delivered, at the timepoint and the channel that the pool is at, if there
-- were enough of them to be written at all.
theorem volume_cells_show_their_chunks {events : List VolumeEvent} (fits : FittingRun geometry device platform events) {poolKey : String}
    {atlas : AtlasState} (pool : (runVolumeEvents device platform events).volumeAtlases.get? poolKey = some atlas) {memberId : String}
    {lod : LodIndirectionMeta} (listed : Listed atlas.entityMetas memberId lod) {place : Zyx} (inside : place.All (· < ·) lod.gridDims) {slotIndex : Nat}
    (there : atlas.indirectionData[lod.cell place]? = some slotIndex) (real : slotIndex ≠ emptyCell) :
    ∃ msg chunk c data, Arrived geometry device platform events msg chunk ∧ msg.memberId = memberId ∧ msg.level = lod.level ∧ chunk.place = place ∧
      atlas.c = some c ∧ chunk.key = chunkKey lod.level atlas.t c place.z place.y place.x ∧ asUint16 chunk.data chunk.dataType = .ok data ∧
      (texelsTaken lod.chunkDims.y lod.chunkDims.x (lod.extent place) ≤ data.length →
        atlas.texture.Shows (slotOrigin atlas slotIndex) data lod.chunkDims.y lod.chunkDims.x (lod.extent place)) := by
  obtain ⟨lost,stocked,charted,_⟩ := volumeSound_run fits poolKey atlas pool
  obtain ⟨key,memberId',lod',place',c,keyOf,sectioned,same,channel,resident⟩ := charted.shown _ slotIndex there real
  have inside' : place'.All (· < ·) lod'.gridDims := (charted.ruled.shaped memberId' lod' sectioned.listed).1 ▸ keyOf.inside
  obtain ⟨rfl,rfl⟩ := charted.ruled.apart _ _ _ _ _ _ listed sectioned.listed inside inside' same
  cases LodIndirectionMeta.cell_injective inside inside' same
  obtain ⟨msg,chunk,data,arrived,named,sized,read,shows'⟩ := stocked.holds _ slotIndex resident
  obtain ⟨member,before,after,poolKey',atlas',lod',whole,takenUp,fitting⟩ := arrived
  obtain ⟨sameMember,sameKey⟩ := makeCompositeKey_injective keyOf.plain fitting.plain (keyOf.named.symm.trans named)
  obtain ⟨c'',_,key⟩ := fitting.keyed chunk member
  obtain ⟨level,_,_,z,y,x⟩ := Web.Planning.chunkKey_injective (sameKey.trans key)
  have samePlace : chunk.place = place := by rw [Chunk.place,← z,← y,← x]
  obtain ⟨_,levelDims,chunkDims,ofPool⟩ := charted.ruled.shaped _ _ listed
  refine ⟨msg,chunk,c,data,⟨member,before,after,poolKey',atlas',lod',whole,takenUp,fitting⟩,sameMember.symm,level.symm,samePlace,channel,sameKey.symm,
    read,?_⟩
  have extent : clampedDims msg chunk = lod.extent place := by
    unfold clampedDims LodIndirectionMeta.extent
    rw [fitting.levelDims,fitting.chunk,levelDims,chunkDims,← sameMember,← level,z,y,x]
  rwa [extent,sized,← ofPool] at shows'

end Runs

def twoChunks : Geometry := fun _ level => ⟨level,⟨1,1,1⟩,⟨1,1,2⟩,⟨1,1,2⟩⟩

def smallDevice : VolumeDevice := ⟨8,16,fun n => if 8 ≤ n then 2 else if 1 ≤ n then 1 else 0⟩

def oneTile : ColdStateMessage :=
  { epochs := ⟨0,0,0,0,0,0⟩
    datasetId := "d"
    currentT := 0
    multiChannel := false
    visibleChannels := [0]
    visibleRegion := ⟨⟨0,0,2,1⟩,(0,1),1,none,none,none⟩
    renderRadiusView := none
    activeSet := [⟨"e",.tile "i" [0] none,none,[twoChunks "i" 0]⟩]
    viewMode := .volume }

def secondChunk : VolumeChunkData := ⟨⟨0,0,0,0,0,0⟩,.detail,"i",[⟨[7],"uint8",1,0,0,"0/0/0/0/0/1"⟩],0,⟨1,1,2⟩,⟨1,1,1⟩⟩

def twoChunksRun : List VolumeEvent := [.coldState oneTile,.chunkData secondChunk]

theorem twoChunks_fits : FittingRun twoChunks smallDevice Web.Planning.plainPlatform twoChunksRun := by
  intro before event after whole
  obtain _ | ⟨first,_ | ⟨second,rest⟩⟩ := before
  · cases whole
    intro entry member channel _ lm listed
    cases List.mem_singleton.mp member
    cases List.mem_singleton.mp listed
    rfl
  · cases whole
    intro poolKey atlas lod takenUp
    have at' : ∀ atlas ∈ (runVolumeEvents smallDevice Web.Planning.plainPlatform [.coldState oneTile]).volumeAtlases.values,
        atlas.t = 0 ∧ atlas.c = some 0 := by decide +kernel
    obtain ⟨t,c⟩ := at' atlas (IndexMap.mem_values.mpr ⟨poolKey,takenUp.pool⟩)
    refine ⟨by decide,rfl,rfl,fun chunk member => ?_,fun chunk member => ?_⟩
    · cases List.mem_singleton.mp member
      decide
    · cases List.mem_singleton.mp member
      exact ⟨0,c,t.symm ▸ rfl⟩
  · simp [twoChunksRun] at whole

theorem volume_cells_show_their_chunks_of_two : ∃ atlas msg chunk c data slotIndex,
    (runVolumeEvents smallDevice Web.Planning.plainPlatform twoChunksRun).volumeAtlases.get? "d:1x1x1:detail" = some atlas ∧
      atlas.indirectionData[1]? = some slotIndex ∧ Arrived twoChunks smallDevice Web.Planning.plainPlatform twoChunksRun msg chunk ∧
      chunk.place = ⟨0,0,1⟩ ∧ atlas.c = some c ∧ asUint16 chunk.data chunk.dataType = .ok data ∧
      atlas.texture.Shows (slotOrigin atlas slotIndex) data 1 1 ⟨1,1,1⟩ := by
  have delivered : ∀ msg chunk, Arrived twoChunks smallDevice Web.Planning.plainPlatform twoChunksRun msg chunk → chunk.data = [7] ∧ chunk.dataType = "uint8" := by
    intro msg chunk arrived
    obtain ⟨member,before,after,_,_,_,whole,_⟩ := arrived
    have among : VolumeEvent.chunkData msg ∈ twoChunksRun := whole ▸ List.mem_append_right _ List.mem_cons_self
    have same : msg = secondChunk := by simpa [twoChunksRun] using among
    subst same
    cases List.mem_singleton.mp member
    exact ⟨rfl,rfl⟩
  have facts : ((runVolumeEvents smallDevice Web.Planning.plainPlatform twoChunksRun).volumeAtlases.get? "d:1x1x1:detail").map
      (fun atlas => (atlas.indirectionData,atlas.entityMetas.get? "i")) = some ([emptyCell,0],some [⟨0,⟨1,1,2⟩,⟨1,1,1⟩,⟨1,1,2⟩,0⟩]) := by decide +kernel
  obtain ⟨atlas,pool,same⟩ := Option.map_eq_some_iff.mp facts
  obtain ⟨data,metas⟩ := Prod.mk.inj same
  have there : atlas.indirectionData[1]? = some 0 := by rw [data]; rfl
  obtain ⟨msg,chunk,c,voxels,arrived,_,_,place,channel,_,read,shown⟩ := volume_cells_show_their_chunks twoChunks_fits pool
    ⟨_,metas,List.mem_cons_self⟩ (by decide : (⟨0,0,1⟩ : Zyx).All (· < ·) ⟨1,1,2⟩) there (by decide)
  obtain ⟨bytes,type⟩ := delivered msg chunk arrived
  have seven : voxels = [7] := by
    rw [bytes,type] at read
    exact (Except.ok.inj read).symm
  exact ⟨atlas,msg,chunk,c,voxels,0,pool,there,arrived,place,channel,read,shown (seven ▸ by decide)⟩

end Lucida.Renderer
