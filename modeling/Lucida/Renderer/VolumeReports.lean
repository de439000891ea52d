import Lucida.Renderer.VolumeRuns

namespace Lucida.Renderer
open Lib
open Web.Planning (Platform)

def Reported (posts : List WorkerPost) (memberId chunkKey : String) : Prop :=
  ∃ keys skipped reason, WorkerPost.chunksEvicted memberId keys skipped reason ∈ posts ∧ (chunkKey ∈ keys ∨ chunkKey ∈ skipped)

def ResidentIn (s : VolumeState) (poolKey key : String) : Prop :=
  ∃ atlas, s.volumeAtlases.get? poolKey = some atlas ∧ atlas.slots.contains key = true

theorem Reported.mono {posts posts' : List WorkerPost} {memberId chunkKey : String} (reported : Reported posts memberId chunkKey)
    (among : ∀ post ∈ posts, post ∈ posts') : Reported posts' memberId chunkKey := by
  obtain ⟨keys,skipped,reason,there,named⟩ := reported
  exact ⟨keys,skipped,reason,among _ there,named⟩

theorem reported_requeued {memberId chunkKey : String} {keys : List String} (reason : ChunkFeedbackReason) (member : chunkKey ∈ keys) :
    Reported (postChunksRequeued memberId keys reason) memberId chunkKey := by
  rw [postChunksRequeued,if_neg (List.ne_nil_of_mem member)]
  exact ⟨keys,[],reason,List.mem_singleton_self _,.inl member⟩

theorem reported_rejected {memberId chunkKey : String} {skipped : List String} (member : chunkKey ∈ skipped) :
    Reported (postChunksRejected memberId skipped) memberId chunkKey := by
  rw [postChunksRejected,if_neg (List.ne_nil_of_mem member)]
  exact ⟨[],skipped,.atlasPolicy,List.mem_singleton_self _,.inr member⟩

section Walk
variable {platform : Platform} {s : VolumeState} {msg : VolumeChunkData} {lod : LodIndirectionMeta} {walk : UploadWalk} {chunk : Chunk} {key : String}

theorem makeRoom_slots (atlas : AtlasState) : (makeRoom atlas).slots = atlas.slots := by
  unfold makeRoom
  split
  · unfold growVolumeAtlas
    split <;> rfl
  · rfl

theorem takeSlot_slots {atlas : AtlasState} {memberId : String} (held : atlas.slots.contains key = true) :
    (takeSlot s atlas memberId lod chunk).1.slots.contains key = true ∨
      ∃ taken, (takeSlot s atlas memberId lod chunk).2 = some taken ∧ taken.evicted = some key := by
  unfold takeSlot
  split
  · exact .inl held
  · split
    · exact .inl held
    · next evictKey _ _ =>
      split
      · exact .inl held
      · by_cases same : evictKey = key
        · exact .inr ⟨_,rfl,congrArg some same⟩
        · left
          rw [IndexMap.contains,evictSlot,IndexMap.get?_erase,if_neg (Ne.symm same)]
          exact held

theorem uploadChunk_keeps (held : walk.atlas.slots.contains key = true ∨ key ∈ walk.evictedKeys) :
    (uploadChunk platform s msg lod walk chunk).1.atlas.slots.contains key = true ∨ key ∈ (uploadChunk platform s msg lod walk chunk).1.evictedKeys := by
  unfold uploadChunk
  split
  · exact held
  · split
    · exact held
    · obtain held | listed := held
      · rw [← makeRoom_slots] at held
        have kept := @takeSlot_slots s lod chunk key _ msg.memberId held
        cases took : takeSlot s (makeRoom walk.atlas) msg.memberId lod chunk with
        | mk atlas taken =>
          rw [took] at kept
          cases taken with
          | none =>
            obtain kept | ⟨_,absurd',_⟩ := kept
            · exact .inl kept
            · cases absurd'
          | some taken =>
            dsimp only
            obtain kept | ⟨_,same,evicted⟩ := kept
            · left
              split
              · exact kept
              · split
                · exact kept
                · unfold widenIntensity writeSlot
                  rw [IndexMap.contains,IndexMap.get?_insert]
                  split
                  · rfl
                  · exact kept
            · right
              cases same
              have listed : key ∈ walk.evictedKeys ++ taken.evicted.toList := List.mem_append_right _ (by rw [evicted]; exact List.mem_singleton_self _)
              split
              · exact listed
              · split <;> exact listed
      · right
        split
        · exact listed
        · dsimp only
          split
          · exact List.mem_append_left _ listed
          · split <;> exact List.mem_append_left _ listed

theorem uploadChunks_keeps {chunks : List Chunk} (held : walk.atlas.slots.contains key = true ∨ key ∈ walk.evictedKeys) :
    (uploadChunks platform s msg lod walk chunks).1.atlas.slots.contains key = true ∨
      key ∈ (uploadChunks platform s msg lod walk chunks).1.evictedKeys := by
  induction chunks generalizing walk with
  | nil => exact held
  | cons chunk rest ih =>
    have one := @uploadChunk_keeps platform s msg lod walk chunk key held
    rw [uploadChunks]
    cases stepped : uploadChunk platform s msg lod walk chunk with
    | mk next thrown =>
      rw [stepped] at one
      cases thrown with
      | some text => exact one
      | none => exact ih one

end Walk

theorem mem_groupEvicted {evictedKeys : List String} {memberId chunkKey : String} (plain : '|' ∉ memberId.toList)
    (evicted : makeCompositeKey memberId chunkKey ∈ evictedKeys) : ∃ keys, (groupEvicted evictedKeys).get? memberId = some keys ∧ chunkKey ∈ keys := by
  unfold groupEvicted
  induction evictedKeys using List.reverseRecOn with
  | nil => cases evicted
  | append_singleton keys last ih =>
    rw [List.foldl_concat]
    rcases List.mem_append.mp evicted with earlier | latest
    · obtain ⟨told,there,member⟩ := ih earlier
      split
      · exact ⟨told,there,member⟩
      · rw [IndexMap.get?_upsert]
        split
        · next same =>
          refine ⟨_,rfl,List.mem_append_left _ ?_⟩
          rw [← same,there]
          exact member
        · exact ⟨told,there,member⟩
    · cases List.mem_singleton.mp latest
      rw [parseCompositeKey_make plain]
      dsimp only
      rw [IndexMap.get?_upsert,if_pos rfl]
      exact ⟨_,rfl,List.mem_append_right _ (List.mem_singleton_self _)⟩

theorem reported_uploadPosts {s : VolumeState} {msg : VolumeChunkData} {walk : UploadWalk} {posts : List WorkerPost} {memberId chunkKey : String}
    (reported : Reported posts memberId chunkKey)
    (some' : walk.evictedKeys ≠ [] ∨ skippedOf msg walk ≠ [] ∨ walk.radiusFilteredKeys ≠ [])
    (among : ∀ post ∈ posts, post ∈ (groupEvicted walk.evictedKeys).entries.map (fun group => WorkerPost.chunksEvicted group.1 group.2 [] .evicted) ++
      postChunksRejected msg.memberId (skippedOf msg walk) ++ postChunksRequeued msg.memberId walk.radiusFilteredKeys .radiusFilter) :
    Reported (uploadPosts s msg walk) memberId chunkKey := by
  refine reported.mono fun post member => ?_
  unfold uploadPosts
  dsimp only
  rw [if_pos some']
  exact List.mem_append_left _ (List.mem_append_left _ (among post member))

section Delivery
variable {device : VolumeDevice} {platform : Platform} {s : VolumeState} {msg : VolumeChunkData} {chunk : Chunk} {poolKey memberId chunkKey : String}
  {events : List VolumeEvent}

theorem readable_delivery (reads : msg.Readable) :
    (∃ reason, handleVolumeChunkData platform s msg = ⟨s,postChunksRequeued msg.memberId (msg.chunks.map (·.key)) reason,none⟩) ∨
    ∃ poolKey atlas lod walk, TakenUp s msg poolKey atlas lod ∧ uploadChunks platform s msg lod ⟨atlas,[],[],false⟩ msg.chunks = (walk,none) ∧
      handleVolumeChunkData platform s msg = ⟨{s with volumeAtlases := s.volumeAtlases.insert poolKey walk.atlas},uploadPosts s msg walk,none⟩ := by
  obtain handed | ⟨poolKey,atlas,lod,taken,same⟩ := handleVolumeChunkData_cases platform s msg
  · exact .inl handed
  · have quiet := @uploadChunks_reads platform s msg lod ⟨atlas,[],[],false⟩ msg.chunks reads
    cases walked : uploadChunks platform s msg lod ⟨atlas,[],[],false⟩ msg.chunks with
    | mk walk thrown =>
      rw [walked] at same quiet
      cases quiet
      exact .inr ⟨poolKey,atlas,lod,walk,taken,walked,same⟩

theorem delivery_arrives (reads : msg.Readable) (member : chunk ∈ msg.chunks) :
    (∃ poolKey, routedPool s msg = some poolKey ∧
      ResidentIn (handleVolumeChunkData platform s msg).state poolKey (makeCompositeKey msg.memberId chunk.key)) ∨
    Reported (handleVolumeChunkData platform s msg).posts msg.memberId chunk.key := by
  obtain ⟨reason,same⟩ | ⟨poolKey,atlas,lod,walk,taken,_,same⟩ := @readable_delivery platform s msg reads
  · rw [same]
    exact .inr (reported_requeued reason (List.mem_map_of_mem member))
  · rw [same]
    by_cases filtered : chunk.key ∈ walk.radiusFilteredKeys
    · right
      exact reported_uploadPosts (reported_requeued .radiusFilter filtered) (.inr (.inr (List.ne_nil_of_mem filtered)))
        fun post there => List.mem_append_right _ there
    · by_cases held : walk.atlas.slots.contains (makeCompositeKey msg.memberId chunk.key) = true
      · left
        exact ⟨poolKey,taken.routed,walk.atlas,by rw [IndexMap.get?_insert,if_pos rfl],held⟩
      · right
        have skipped : chunk.key ∈ skippedOf msg walk :=
          List.mem_filter.mpr ⟨List.mem_filter.mpr ⟨List.mem_map_of_mem member,decide_eq_true filtered⟩,by simpa using held⟩
        exact reported_uploadPosts (reported_rejected skipped) (.inr (.inl (List.ne_nil_of_mem skipped)))
          fun post there => List.mem_append_left _ (List.mem_append_right _ there)

theorem delivery_keeps (reads : msg.Readable) (plain : '|' ∉ memberId.toList) (resident : ResidentIn s poolKey (makeCompositeKey memberId chunkKey)) :
    ResidentIn (handleVolumeChunkData platform s msg).state poolKey (makeCompositeKey memberId chunkKey) ∨
      Reported (handleVolumeChunkData platform s msg).posts memberId chunkKey := by
  obtain ⟨reason,same⟩ | ⟨poolKey',atlas,lod,walk,taken,walked,same⟩ := @readable_delivery platform s msg reads
  · rw [same]
    exact .inl resident
  · rw [same]
    obtain ⟨atlas',there,held⟩ := resident
    by_cases pool : poolKey = poolKey'
    · subst pool
      cases there.symm.trans taken.pool
      have kept := @uploadChunks_keeps platform s msg lod ⟨atlas,[],[],false⟩ (makeCompositeKey memberId chunkKey) msg.chunks (.inl held)
      rw [walked] at kept
      obtain kept | evicted := kept
      · exact .inl ⟨walk.atlas,by rw [IndexMap.get?_insert,if_pos rfl],kept⟩
      · right
        obtain ⟨keys,told,member⟩ := mem_groupEvicted plain evicted
        have reported : Reported ((groupEvicted walk.evictedKeys).entries.map fun group => WorkerPost.chunksEvicted group.1 group.2 [] .evicted)
            memberId chunkKey := ⟨keys,[],.evicted,List.mem_map.mpr ⟨(memberId,keys),IndexMap.mem_entries_iff.mpr told,rfl⟩,.inl member⟩
        exact reported_uploadPosts reported (.inl (List.ne_nil_of_mem evicted))
          fun post there => List.mem_append_left _ (List.mem_append_left _ there)
    · exact .inl ⟨atlas',by rw [IndexMap.get?_insert,if_neg pool]; exact there,held⟩

-- The events that leave the pools as they are, but for what is delivered into them.
def VolumeEvent.Uploads : VolumeEvent → Prop
  | .chunkData _ => True
  | .viewHotState _ => True
  | .coldState _ => False
  | .removeLayer _ => False

def eventPosts (platform : Platform) (s : VolumeState) : VolumeEvent → List WorkerPost
  | .chunkData msg => (handleVolumeChunkData platform s msg).posts
  | _ => []

def volumePosts (device : VolumeDevice) (platform : Platform) : VolumeState → List VolumeEvent → List WorkerPost
  | _,[] => []
  | s,event::rest => eventPosts platform s event ++ volumePosts device platform (handleVolumeEvent device platform s event) rest

theorem uploads_keep (uploads : ∀ event ∈ events, event.Uploads) (reads : ReadableRun events) (plain : '|' ∉ memberId.toList)
    (resident : ResidentIn s poolKey (makeCompositeKey memberId chunkKey)) :
    ResidentIn (events.foldl (handleVolumeEvent device platform) s) poolKey (makeCompositeKey memberId chunkKey) ∨
      Reported (volumePosts device platform s events) memberId chunkKey := by
  induction events generalizing s with
  | nil => exact .inl resident
  | cons event rest ih =>
    have uploads' : ∀ event ∈ rest, event.Uploads := fun event member => uploads event (List.mem_cons_of_mem _ member)
    have reads' : ReadableRun rest := fun msg member => reads msg (List.mem_cons_of_mem _ member)
    have one : ResidentIn (handleVolumeEvent device platform s event) poolKey (makeCompositeKey memberId chunkKey) ∨
        Reported (eventPosts platform s event) memberId chunkKey := by
      cases event with
      | chunkData msg => exact delivery_keeps (reads msg List.mem_cons_self) plain resident
      | viewHotState rayHitsByEntity => exact .inl resident
      | coldState msg => exact (uploads _ List.mem_cons_self).elim
      | removeLayer datasetId => exact (uploads _ List.mem_cons_self).elim
    rw [List.foldl_cons,volumePosts]
    obtain resident | reported := one
    · exact (ih uploads' reads' resident).imp_right fun reported => reported.mono fun post there => List.mem_append_right _ there
    · exact .inr (reported.mono fun post there => List.mem_append_left _ there)

-- Whatever the run, until the next cold state or removal a chunk delivered is either in
-- its pool or has been reported back: none is lost without a word.
theorem delivered_chunks_are_accounted_for {before after : List VolumeEvent} (uploads : ∀ event ∈ after, event.Uploads)
    (reads : ReadableRun (.chunkData msg::after)) (plain : '|' ∉ msg.memberId.toList) (member : chunk ∈ msg.chunks) :
    (∃ poolKey, routedPool (runVolumeEvents device platform before) msg = some poolKey ∧
      ResidentIn (runVolumeEvents device platform (before ++ .chunkData msg::after)) poolKey (makeCompositeKey msg.memberId chunk.key)) ∨
    Reported (volumePosts device platform (runVolumeEvents device platform before) (.chunkData msg::after)) msg.memberId chunk.key := by
  have reads' : ReadableRun after := fun msg member => reads msg (List.mem_cons_of_mem _ member)
  have run : runVolumeEvents device platform (before ++ .chunkData msg::after) = after.foldl (handleVolumeEvent device platform)
      (handleVolumeChunkData platform (runVolumeEvents device platform before) msg).state := by
    rw [runVolumeEvents,List.foldl_append,List.foldl_cons]
    rfl
  rw [run,volumePosts]
  obtain ⟨poolKey,routed,resident⟩ | reported :=
    @delivery_arrives platform (runVolumeEvents device platform before) msg chunk (reads msg List.mem_cons_self) member
  · obtain resident | reported := @uploads_keep device platform _ poolKey msg.memberId chunk.key after uploads reads' plain resident
    · exact .inl ⟨poolKey,routed,resident⟩
    · exact .inr (reported.mono fun post there => List.mem_append_right _ there)
  · exact .inr (reported.mono fun post there => List.mem_append_left _ there)

end Delivery

theorem delivered_chunks_are_accounted_for_of_two :
    ResidentIn (runVolumeEvents smallDevice Web.Planning.plainPlatform twoChunksRun) "d:1x1x1:detail" (makeCompositeKey "i" "0/0/0/0/0/1") := by
  have reads : ReadableRun [.chunkData secondChunk] := by
    intro msg member chunk listed
    cases List.mem_singleton.mp member
    cases List.mem_singleton.mp listed
    exact ⟨⟨_,rfl⟩,rfl⟩
  have posts : volumePosts smallDevice Web.Planning.plainPlatform (runVolumeEvents smallDevice Web.Planning.plainPlatform [.coldState oneTile])
      [.chunkData secondChunk] = [.intensityRange "i" 7 7] := by decide +kernel
  have routed : routedPool (runVolumeEvents smallDevice Web.Planning.plainPlatform [.coldState oneTile]) secondChunk = some "d:1x1x1:detail" := by
    decide +kernel
  obtain ⟨poolKey,there,resident⟩ | ⟨keys,skipped,reason,told,_⟩ :=
    @delivered_chunks_are_accounted_for smallDevice Web.Planning.plainPlatform secondChunk ⟨[7],"uint8",1,0,0,"0/0/0/0/0/1"⟩ [.coldState oneTile] []
      (by simp) reads (by decide) List.mem_cons_self
  · cases routed.symm.trans there
    exact resident
  · rw [posts] at told
    simp at told

end Lucida.Renderer
