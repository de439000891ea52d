import Mathlib.Data.List.Forall2
import Lucida.Lib.Traverse
import Lucida.Store.Metadata
import Lucida.Store.ShardReads

namespace Lucida.Store
open Lib ChunkCache Server

section Acceptance
variable {config first : Json} {codecs : List Json} {shardShape inner : List UInt64} {layout : ShardLayout}

def Tiles (shardShape inner : List UInt64) : Prop := List.Forall₂ (fun shard inner => inner ≠ 0 ∧ shard % inner = 0) shardShape inner

theorem checkTiles_ok {pairs : List (UInt64 × UInt64)} {start : Nat} (checked : checkTiles inner shardShape (pairs.zipIdx start) = .ok ()) :
    ∀ pair ∈ pairs, pair.1 ≠ 0 ∧ pair.2 % pair.1 = 0 := by
  induction pairs generalizing start with
  | nil => exact fun pair none => (List.not_mem_nil none).elim
  | cons pair pairs ih =>
    rw [List.zipIdx_cons,checkTiles] at checked
    split at checked
    · cases checked
    · rename_i tiles
      obtain ⟨whole,even⟩ := not_or.mp tiles
      intro other member
      rcases List.mem_cons.mp member with rfl | later
      · exact ⟨whole,not_not.mp even⟩
      · exact ih checked other later

theorem parseInnerChunkShape_tiles (parsed : parseInnerChunkShape config shardShape = .ok inner) : Tiles shardShape inner := by
  unfold parseInnerChunkShape at parsed
  obtain ⟨items,_,rest⟩ := bind_ok parsed
  obtain ⟨shape,_,rest⟩ := bind_ok rest
  split at rest
  · cases rest
  · rename_i even
    obtain ⟨_,checked,same⟩ := bind_ok rest
    cases same
    have each : List.Forall₂ (fun inner shard => inner ≠ 0 ∧ shard % inner = 0) inner shardShape :=
      List.forall₂_iff_zip.mpr ⟨not_not.mp even,fun {_ _} member => checkTiles_ok checked _ member⟩
    exact each.flip

theorem parse_tiles (parsed : ShardLayout.parse first codecs shardShape = .ok (layout,compression)) :
    Tiles shardShape layout.innerChunkShape ∧ layout.chunksPerShard = List.zipWith (· / ·) shardShape layout.innerChunkShape := by
  unfold ShardLayout.parse at parsed
  split at parsed
  · cases parsed
  · obtain ⟨config,_,rest⟩ := bind_ok parsed
    obtain ⟨inner,shape,rest⟩ := bind_ok rest
    have tiles := parseInnerChunkShape_tiles shape
    obtain ⟨innerCodecs,_,rest⟩ := bind_ok rest
    dsimp only at rest
    split at rest
    · cases rest
    · obtain ⟨_,_,rest⟩ := bind_ok rest
      obtain ⟨_,_,rest⟩ := bind_ok rest
      obtain ⟨_,_,rest⟩ := bind_ok rest
      -- Where the index is kept does not matter here.
      split at rest
      · cases rest
        exact ⟨tiles,rfl⟩
      · cases rest
        exact ⟨tiles,rfl⟩
      · cases rest
        exact ⟨tiles,rfl⟩
      · cases rest

theorem fromCodecChain_tiles (accepted : ShardLayout.fromCodecChain codecs shardShape = .ok (some (layout,compression))) :
    Tiles shardShape layout.innerChunkShape ∧ layout.chunksPerShard = List.zipWith (· / ·) shardShape layout.innerChunkShape := by
  unfold ShardLayout.fromCodecChain at accepted
  split at accepted
  · cases accepted
  · split at accepted
    · cases accepted
    · rename_i first _ _
      cases parsed : ShardLayout.parse first (first::_) shardShape with
      | error error =>
        rw [parsed] at accepted
        cases accepted
      | ok found =>
        rw [parsed] at accepted
        cases accepted
        exact parse_tiles parsed

end Acceptance

-- Every key is located, and the chunks and the index bytes are counted, with no
-- division by zero and within 64 bits.
def SafeToAddress (layout : ShardLayout) : Prop :=
  (∀ key axes, ∃ location, layout.locateInnerChunk key axes = .ok location) ∧ (∃ count, layout.innerChunksPerShard = .ok count) ∧
    ∃ len, layout.indexByteLen = .ok len

section Safety
variable {shardShape inner sizes : List UInt64} {layout : ShardLayout}

theorem Tiles.zero_iff (tiles : Tiles shardShape inner) : 0 ∈ List.zipWith (· / ·) shardShape inner ↔ 0 ∈ shardShape := by
  induction tiles with
  | nil => rfl
  | cons fits _ ih =>
    rename_i shard part shards parts _
    obtain ⟨whole,even⟩ := fits
    have first : 0 = shard/part ↔ 0 = shard := by
      have some : 0 < part.toNat := toNat_pos_of_ne whole
      have exact' : shard.toNat % part.toNat = 0 := by rw [← UInt64.toNat_mod,even]; rfl
      rw [← UInt64.toNat_inj,← UInt64.toNat_inj,UInt64.toNat_div]
      change 0 = _ ↔ 0 = _
      constructor
      · intro none
        rw [← Nat.mod_add_div shard.toNat part.toNat,exact',← none,Nat.mul_zero]
      · intro none
        rw [← none,Nat.zero_div]
    rw [List.zipWith_cons_cons,List.mem_cons,List.mem_cons,ih,first]

-- At the first corner of the grid the position stays zero until an axis of no chunks divides.
theorem splitTurn_panics {shard : List Nat} (empty : 0 ∈ sizes) :
    ((List.replicate sizes.length 0).zip sizes).foldlM splitTurn (shard,0) = .error .panic := by
  induction sizes generalizing shard with
  | nil => exact (List.not_mem_nil empty).elim
  | cons size sizes ih =>
    rw [List.length_cons,List.replicate_succ,List.zip_cons_cons,List.foldlM_cons,splitTurn]
    split
    · rfl
    · rename_i some
      have later : 0 ∈ sizes := by
        refine (List.mem_cons.mp empty).resolve_left ?_
        rintro rfl
        exact some rfl
      rw [Checked.mul_ok (by simp),ok_then,Checked.add_ok (by simp),ok_then,ok_then,Nat.zero_mul,Nat.zero_mod,Nat.zero_add]
      exact ih later

theorem corner_coords (shape : List UInt64) (rank : Nat) :
    chunkKeyGridCoords "0/0/0/0/0/0" (List.replicate rank "") shape = some ("0",List.replicate rank 0) := by
  unfold chunkKeyGridCoords
  dsimp only
  rw [if_neg (by decide),mapM_some_map (g := fun _ => 0)]
  · rw [Option.bind_eq_bind,Option.bind_some,List.map_const',List.length_zipIdx,List.length_replicate]
    rfl
  · rintro ⟨name,index⟩ member
    have unnamed : name = "" := List.eq_of_mem_replicate (List.fst_mem_of_mem_zipIdx member)
    subst unnamed
    rfl

theorem product_ok {start count : Nat}
    (counted : sizes.foldlM (fun product size => Checked.mul (ε := ChunkCache.StoreError) product size.toNat) start = .ok count) :
    count = start*(radices sizes).prod := by
  induction sizes generalizing start with
  | nil =>
    cases counted
    simp [radices]
  | cons size sizes ih =>
    rw [List.foldlM_cons] at counted
    obtain ⟨product,first,rest⟩ := bind_ok counted
    rw [ih rest,Checked.mul_eq first,radices,radices,List.map_cons,List.prod_cons,Nat.mul_assoc]

theorem safe_iff (layout : ShardLayout) : SafeToAddress layout ↔ 0 ∉ layout.chunksPerShard ∧ layout.count < 2^60 := by
  constructor
  · intro ⟨located,_,len,measured⟩
    constructor
    · intro empty
      obtain ⟨location,found⟩ := located "0/0/0/0/0/0" (List.replicate layout.chunksPerShard.length "")
      unfold ShardLayout.locateInnerChunk at found
      rw [corner_coords] at found
      dsimp only at found
      rw [if_neg (by simp),splitTurn_panics empty] at found
      cases found
    · unfold ShardLayout.indexByteLen at measured
      obtain ⟨count,counted,rest⟩ := bind_ok measured
      obtain ⟨entries,multiplied,_⟩ := bind_ok rest
      have whole : count = layout.count := (product_ok counted).trans (Nat.one_mul _)
      have fits : count*indexEntryBytes < 2^64 := by
        by_contra large
        rw [Checked.mul,if_neg large] at multiplied
        cases multiplied
      rw [whole] at fits
      unfold indexEntryBytes at fits
      omega
  · intro ⟨positive,small⟩
    have bounded : layout.Bounded := ⟨positive,by unfold indexEntryBytes checksumBytes; omega⟩
    refine ⟨?_,⟨_,innerChunksPerShard_eq bounded⟩,⟨_,indexByteLen_eq bounded⟩⟩
    intro key axes
    cases parsed : chunkKeyGridCoords key axes layout.innerChunkShape with
    | none => exact ⟨none,locate_none parsed⟩
    | some found =>
      by_cases paired : axes.length = layout.chunksPerShard.length
      · exact ⟨_,locate_eq bounded paired parsed⟩
      · have ranks : found.2.length ≠ layout.chunksPerShard.length := by rwa [(chunkKeyGridCoords_some parsed).2]
        refine ⟨none,?_⟩
        unfold ShardLayout.locateInnerChunk
        rw [parsed]
        exact if_pos ranks

theorem zipWith_count (shardShape inner : List UInt64) :
    (radices (List.zipWith (· / ·) shardShape inner)).prod = (List.zipWith (fun shard part => shard.toNat/part.toNat) shardShape inner).prod := by
  unfold radices
  rw [List.map_zipWith]
  simp only [UInt64.toNat_div]

theorem accepted_layouts_are_safe_iff (codecs : List Json) (shardShape : List UInt64) (layout : ShardLayout) (compression : StorageCompression)
    (accepted : ShardLayout.fromCodecChain codecs shardShape = .ok (some (layout,compression))) :
    SafeToAddress layout ↔ 0 ∉ shardShape ∧
      (List.zipWith (fun shard inner => shard.toNat/inner.toNat) shardShape layout.innerChunkShape).prod < 2^60 := by
  obtain ⟨tiles,counts⟩ := fromCodecChain_tiles accepted
  rw [safe_iff,ShardLayout.count,counts,tiles.zero_iff,zipWith_count]

def pairsOfSamples : List Json :=
  let littleEndian : Json := .object [("name",.string "bytes"),("configuration",.object [("endian",.string "little")])]
  [.object [("name",.string "sharding_indexed"),
    ("configuration",.object [("chunk_shape",.array [.number (.unsigned 2)]),("codecs",.array [littleEndian]),
      ("index_codecs",.array [littleEndian])])]]

theorem shard_of_four_pairs_is_safe : SafeToAddress ⟨[2],[4],.atEnd,false⟩ :=
  (accepted_layouts_are_safe_iff pairsOfSamples [8] ⟨[2],[4],.atEnd,false⟩ .none (by rfl)).mpr ⟨by decide,by decide⟩

theorem empty_shard_shape_is_accepted :
    ¬∀ codecs shardShape layout compression, ShardLayout.fromCodecChain codecs shardShape = .ok (some (layout,compression)) →
      SafeToAddress layout := by
  intro safe
  have accepted : ShardLayout.fromCodecChain pairsOfSamples [0] = .ok (some (⟨[2],[0],.atEnd,false⟩,.none)) := by rfl
  exact ((safe_iff _).mp (safe _ _ _ _ accepted)).1 (by decide)

end Safety
end Lucida.Store
