import Lucida.Renderer.VolumeRuns

namespace Lucida.Renderer
open Lib
open Server (Zyx)
open Web.Planning (Platform)

section Groups
variable {msg : ColdStateMessage} {group : PoolGroup}

theorem groupEntriesByPool_named : ∀ poolKey group, (groupEntriesByPool msg).get? poolKey = some group → group.poolKey = poolKey := by
  refine @groupEntriesByPool_keeps msg (fun groups => ∀ poolKey group, groups.get? poolKey = some group → group.poolKey = poolKey) ?_ ?_
  · intro _ _ there
    cases there
  · intro channel _ entry _ groups source named poolKey group there
    unfold addToPool at there
    split at there
    · exact named poolKey group there
    · dsimp only at there
      rw [IndexMap.get?_insert] at there
      split at there
      · next same =>
        cases there
        rw [same]
        dsimp only
        cases old : groups.get? _ with
        | none => rfl
        | some group => exact named _ group old
      · exact named poolKey group there

theorem poolKeys_distinct : ((groupEntriesByPool msg).values.map (·.poolKey)).Nodup := by
  have keys : (groupEntriesByPool msg).values.map (·.poolKey) = (groupEntriesByPool msg).keys := by
    rw [IndexMap.values,IndexMap.keys,List.map_map]
    exact List.map_congr_left fun entry member => groupEntriesByPool_named entry.1 entry.2 (IndexMap.mem_entries_iff.mp member)
  rw [keys]
  exact (groupEntriesByPool msg).nodup

def radiusEntries (group : PoolGroup) : IndexMap String RemapEntryInfo :=
  group.entries.foldl (fun entries item => entries.insert item.memberId ⟨item.entry.layoutPositionVox,item.entry.levels⟩) .empty

theorem layOutGroup_entryByMember (mode : ViewMode) (memberSourcePools : IndexMap String (IndexMap String String)) :
    (layOutGroup group mode memberSourcePools).entryByMember = radiusEntries group := by
  unfold layOutGroup radiusEntries
  refine (List.foldl_hom PoolLayout.entryByMember fun walk item => ?_).symm
  unfold layOutEntry
  split <;> rfl

def coldRemapOptions (msg : ColdStateMessage) (group : PoolGroup) : RemapOptions :=
  ⟨some msg.visibleRegion,msg.renderRadiusView.map (· group.tier),radiusEntries group⟩

end Groups

section Pools
variable {geometry : Geometry} {delivered : VolumeChunkData → Chunk → Prop} {readable : Prop} {device : VolumeDevice} {platform : Platform}
  {s : VolumeState} {msg : ColdStateMessage} {groups : List PoolGroup} {group : PoolGroup}

theorem applyGroups_other {poolKey : String} (absent : poolKey ∉ groups.map (·.poolKey)) :
    (groups.foldl (applyGroup device platform msg) s).volumeAtlases.get? poolKey = s.volumeAtlases.get? poolKey := by
  induction groups generalizing s with
  | nil => rfl
  | cons first rest ih =>
    rw [List.map_cons,List.mem_cons,not_or] at absent
    rw [List.foldl_cons,ih absent.2]
    unfold applyGroup
    cases msg.viewMode with
    | slice => rfl
    | volume =>
      dsimp only
      rw [IndexMap.get?_insert,if_neg absent.1]

-- The pool of a group is the one its own turn leaves, since no other turn has its key.
theorem applyGroups_pool (volume : msg.viewMode = .volume) (distinct : (groups.map (·.poolKey)).Nodup)
    (conforms : ∀ group ∈ groups, ∀ item ∈ group.entries, item.Conforms geometry) (sound : VolumeSound geometry delivered readable s)
    (member : group ∈ groups) :
    ∃ s₁ : VolumeState, VolumeSound geometry delivered readable s₁ ∧
      (groups.foldl (applyGroup device platform msg) s).volumeAtlases.get? group.poolKey =
        some (volumePool device platform msg group (layOutGroup group .volume s₁.memberSourcePools) (s₁.volumeAtlases.get? group.poolKey)) := by
  induction groups generalizing s with
  | nil => cases member
  | cons first rest ih =>
    obtain ⟨absent,distinct⟩ := List.nodup_cons.mp distinct
    rw [List.foldl_cons]
    rcases List.mem_cons.mp member with rfl | later
    · refine ⟨s,sound,?_⟩
      rw [applyGroups_other absent]
      unfold applyGroup
      rw [volume]
      dsimp only
      rw [IndexMap.get?_insert,if_pos rfl]
    · exact ih distinct (fun group member => conforms group (List.mem_cons_of_mem first member))
        (applyGroup_sound sound (conforms first List.mem_cons_self)) later

theorem applyColdStateChunks_pool (volume : msg.viewMode = .volume) (conforms : msg.Conforms geometry) (sound : VolumeSound geometry delivered readable s)
    (member : group ∈ (groupEntriesByPool msg).values) :
    ∃ s₁ : VolumeState, VolumeSound geometry delivered readable s₁ ∧
      (applyColdStateChunks device platform s msg).volumeAtlases.get? group.poolKey =
        some (volumePool device platform msg group (layOutGroup group .volume s₁.memberSourcePools) (s₁.volumeAtlases.get? group.poolKey)) := by
  unfold applyColdStateChunks
  refine applyGroups_pool volume poolKeys_distinct (groupEntriesByPool_conforms conforms) (registerMembers_sound ?_) member
  exact sound

end Pools

-- A pool shows the chunks resident in it that are at the timepoint and the channel of a
-- cold state, have a section and pass its radius, and no others.
structure ShowsResidents (geometry : Geometry) (platform : Platform) (msg : ColdStateMessage) (group : PoolGroup) (atlas : AtlasState) : Prop where
  shown : ∀ key slotIndex memberId lod c place, atlas.slots.get? key = some slotIndex → Sectioned atlas.entityMetas memberId lod →
    KeyOf geometry key memberId lod.level msg.currentT c place → group.channel = some c →
    passesRadius platform (volumeRemapParams atlas msg.currentT group.channel (coldRemapOptions msg group)) memberId
      (parsedKey lod.level msg.currentT c place) = true →
    atlas.indirectionData[lod.cell place]? = some slotIndex
  only : ∀ slotIndex memberId lod place, Listed atlas.entityMetas memberId lod → place.All (· < ·) lod.gridDims →
    atlas.indirectionData[lod.cell place]? = some slotIndex → slotIndex ≠ emptyCell →
    ∃ key c, atlas.slots.get? key = some slotIndex ∧ KeyOf geometry key memberId lod.level msg.currentT c place ∧ group.channel = some c ∧
      passesRadius platform (volumeRemapParams atlas msg.currentT group.channel (coldRemapOptions msg group)) memberId
        (parsedKey lod.level msg.currentT c place) = true

-- After a cold state each pool that it asks for shows what is resident in it, whatever
-- came before and whichever pools the cold state treats besides.
theorem cold_state_shows_residents {geometry : Geometry} {device : VolumeDevice} {platform : Platform} {events : List VolumeEvent} {msg : ColdStateMessage}
    (fits : FittingRun geometry device platform (events ++ [.coldState msg])) (volume : msg.viewMode = .volume) {group : PoolGroup}
    (member : group ∈ (groupEntriesByPool msg).values) :
    ∃ atlas, (runVolumeEvents device platform (events ++ [.coldState msg])).volumeAtlases.get? group.poolKey = some atlas ∧
      atlas.t = msg.currentT ∧ atlas.c = group.channel ∧ ShowsResidents geometry platform msg group atlas := by
  have conforms : msg.Conforms geometry := fits events (.coldState msg) [] rfl
  have step : runVolumeEvents device platform (events ++ [.coldState msg]) = applyColdStateChunks device platform (runVolumeEvents device platform events) msg :=
    List.foldl_concat ..
  rw [step]
  obtain ⟨s₁,sound,there⟩ := applyColdStateChunks_pool volume conforms (volumeSound_run fits.before) member
  have ruled := layOutGroup_ruled s₁.memberSourcePools (groupEntriesByPool_conforms conforms group member)
  obtain ⟨lost,atlas,stocked,_,ruled,time,channel,made⟩ := volumePool_remapped ruled fun atlas there => by
    obtain ⟨lost,stocked,_,whole⟩ := sound _ atlas there
    exact ⟨lost,stocked,whole⟩
  rw [layOutGroup_entryByMember] at made
  refine ⟨_,there.trans (congrArg some made),time,channel,?_,?_⟩
  · intro key slotIndex memberId lod c place resident sectioned keyOf onChannel passes
    rw [onChannel] at passes ⊢
    exact remapIndirection_shows stocked ruled sectioned keyOf resident passes
  · intro slotIndex memberId lod place listed inside there real
    exact remapIndirection_only stocked ruled listed inside real there

theorem FittingRun.after {events : List VolumeEvent} {event : VolumeEvent} {geometry : Geometry} {device : VolumeDevice} {platform : Platform}
    (fits : FittingRun geometry device platform events) (last : event.Fits geometry (runVolumeEvents device platform events)) :
    FittingRun geometry device platform (events ++ [event]) := by
  intro before event' after whole
  obtain rfl | ⟨after,final,rfl⟩ := after.eq_nil_or_concat
  · obtain ⟨rfl,same⟩ := List.append_inj' whole rfl
    cases same
    exact last
  · rw [List.concat_eq_append,← List.cons_append,← List.append_assoc] at whole
    exact fits before event' after (List.append_inj' whole rfl).1

theorem twoChunks_fits_again : FittingRun twoChunks smallDevice Web.Planning.plainPlatform (twoChunksRun ++ [.coldState oneTile]) := by
  refine twoChunks_fits.after ?_
  intro entry member channel _ lm listed
  cases List.mem_singleton.mp member
  cases List.mem_singleton.mp listed
  rfl

theorem cold_state_shows_residents_of_two : ∃ atlas,
    (runVolumeEvents smallDevice Web.Planning.plainPlatform (twoChunksRun ++ [.coldState oneTile])).volumeAtlases.get? "d:1x1x1:detail" = some atlas ∧
      atlas.indirectionData[1]? = some 0 := by
  have grouped : ∃ group ∈ (groupEntriesByPool oneTile).values, group.poolKey = "d:1x1x1:detail" ∧ group.channel = some 0 := by decide +kernel
  obtain ⟨group,member,named,channel⟩ := grouped
  obtain ⟨atlas,pool,_,_,shows⟩ := cold_state_shows_residents twoChunks_fits_again rfl member
  rw [named] at pool
  have facts : ((runVolumeEvents smallDevice Web.Planning.plainPlatform (twoChunksRun ++ [.coldState oneTile])).volumeAtlases.get? "d:1x1x1:detail").map
      (fun atlas => (atlas.slots.get? (makeCompositeKey "i" "0/0/0/0/0/1"),atlas.entityMetas.get? "i")) =
        some (some 0,some [⟨0,⟨1,1,2⟩,⟨1,1,1⟩,⟨1,1,2⟩,0⟩]) := by decide +kernel
  rw [pool] at facts
  obtain ⟨resident,metas⟩ := Prod.mk.inj (Option.some.inj facts)
  exact ⟨atlas,pool,shows.shown _ 0 "i" ⟨0,⟨1,1,2⟩,⟨1,1,1⟩,⟨1,1,2⟩,0⟩ 0 ⟨0,0,1⟩ resident ⟨_,metas,rfl⟩ ⟨by decide,rfl,by decide⟩ channel rfl⟩

end Lucida.Renderer
