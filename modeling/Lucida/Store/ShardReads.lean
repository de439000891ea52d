import Lucida.Store.Shard

namespace Lucida.Store
open Lib ChunkCache

section Arithmetic
variable {layout : ShardLayout} {sizes : List UInt64}

def radices (sizes : List UInt64) : List Nat := sizes.map UInt64.toNat

theorem toNat_pos_of_ne {size : UInt64} (some : size ≠ 0) : 0 < size.toNat :=
  Nat.pos_of_ne_zero fun zero => some (UInt64.toNat_inj.mp zero)

theorem radices_positive (positive : 0 ∉ sizes) : ∀ radix ∈ radices sizes, 0 < radix := by
  intro radix member
  obtain ⟨size,there,rfl⟩ := List.mem_map.mp member
  exact toNat_pos_of_ne fun zero => positive (zero ▸ there)

theorem product_foldlM (positive : 0 ∉ sizes) (fits : start*(radices sizes).prod < 2^64) :
    sizes.foldlM (fun product size => Checked.mul (ε := StoreError) product size.toNat) start =
      .ok (start*(radices sizes).prod) := by
  induction sizes generalizing start with
  | nil => simp [radices]; rfl
  | cons size sizes ih =>
    have later : 0 ∉ sizes := fun member => positive (List.mem_cons_of_mem _ member)
    have rest : 0 < (radices sizes).prod := List.one_le_prod (radices_positive later)
    have whole : start*(radices (size::sizes)).prod = start*size.toNat*(radices sizes).prod := by
      rw [radices,List.map_cons,List.prod_cons,← Nat.mul_assoc]
      rfl
    rw [whole] at fits ⊢
    have first : start*size.toNat < 2^64 := Nat.lt_of_le_of_lt (Nat.le_mul_of_pos_right _ rest) fits
    rw [List.foldlM_cons,Checked.mul_ok first,ok_then]
    exact ih later fits

theorem splitTurn_foldlM {inner : List Nat} (positive : 0 ∉ sizes) (paired : inner.length = sizes.length)
    (fits : (position+1)*(radices sizes).prod ≤ 2^64) :
    (inner.zip sizes).foldlM splitTurn (shard,position) = .ok (shard ++ List.zipWith (· / ·) inner (radices sizes),
      position*(radices sizes).prod+MixedRadix.flatten (radices sizes) (List.zipWith (· % ·) inner (radices sizes))) := by
  induction sizes generalizing inner shard position with
  | nil =>
    obtain rfl := List.length_eq_zero_iff.mp paired
    simp [radices,MixedRadix.flatten]
    rfl
  | cons size sizes ih =>
    obtain ⟨coord,inner,rfl⟩ := List.exists_cons_of_length_eq_add_one paired
    have later : 0 ∉ sizes := fun member => positive (List.mem_cons_of_mem _ member)
    have some : 0 < size.toNat := toNat_pos_of_ne fun zero => positive (zero ▸ List.mem_cons_self)
    have rest : 0 < (radices sizes).prod := List.one_le_prod (radices_positive later)
    have place : coord % size.toNat < size.toNat := Nat.mod_lt _ some
    have whole : (radices (size::sizes)).prod = size.toNat*(radices sizes).prod := List.prod_cons
    rw [whole,← Nat.mul_assoc] at fits
    -- The position with this digit is one of the positions before the next.
    have next : position*size.toNat+coord%size.toNat+1 ≤ (position+1)*size.toNat := by
      rw [Nat.succ_mul]
      omega
    have room : (position*size.toNat+coord%size.toNat+1)*(radices sizes).prod ≤ 2^64 :=
      Nat.le_trans (Nat.mul_le_mul_right _ next) fits
    have bounded : position*size.toNat+coord%size.toNat < 2^64 :=
      Nat.lt_of_lt_of_le (Nat.lt_succ_self _) (Nat.le_trans (Nat.le_mul_of_pos_right _ rest) room)
    rw [List.zip_cons_cons,List.foldlM_cons,splitTurn,if_neg (Nat.ne_of_gt some)]
    rw [Checked.mul_ok (Nat.lt_of_le_of_lt (Nat.le_add_right _ _) bounded),ok_then,Checked.add_ok bounded,ok_then,ok_then,
      ih later (Nat.succ.inj paired) room]
    simp only [radices,List.map_cons,List.zipWith_cons_cons,MixedRadix.flatten,List.prod_cons,List.append_assoc,
      List.singleton_append]
    rw [Nat.add_mul,Nat.mul_assoc,Nat.add_assoc]

def ShardLayout.count (layout : ShardLayout) : Nat := (radices layout.chunksPerShard).prod

def ShardLayout.indexLen (layout : ShardLayout) : Nat :=
  layout.count*indexEntryBytes+(if layout.indexChecksum then checksumBytes else 0)

structure ShardLayout.Bounded (layout : ShardLayout) : Prop where
  positive : 0 ∉ layout.chunksPerShard
  fits : layout.count*indexEntryBytes+checksumBytes < 2^64

theorem ShardLayout.Bounded.count_lt (bounded : layout.Bounded) : layout.count < 2^60 := by
  have fits := bounded.fits
  unfold indexEntryBytes checksumBytes at fits
  omega

theorem innerChunksPerShard_eq (bounded : layout.Bounded) : layout.innerChunksPerShard = .ok layout.count := by
  have small := bounded.count_lt
  have fits : 1*(radices layout.chunksPerShard).prod < 2^64 := by
    rw [Nat.one_mul]
    exact Nat.lt_trans small (by decide)
  have product := product_foldlM bounded.positive fits
  rwa [Nat.one_mul] at product

theorem indexByteLen_eq (bounded : layout.Bounded) : layout.indexByteLen = .ok layout.indexLen := by
  have fits := bounded.fits
  unfold ShardLayout.indexByteLen ShardLayout.indexLen
  rw [innerChunksPerShard_eq bounded,ok_then,Checked.mul_ok (Nat.lt_of_le_of_lt (Nat.le_add_right _ _) fits),ok_then]
  split
  · exact Checked.add_ok fits
  · rfl

end Arithmetic

section Index
variable {crc32c : Bytes → UInt32} {chunks : List (Option Bytes)}

theorem length_shardEntries (offset : Nat) (chunks : List (Option Bytes)) : (shardEntries offset chunks).length = chunks.length := by
  induction chunks generalizing offset with
  | nil => rfl
  | cons chunk chunks ih => cases chunk <;> rw [shardEntries,List.length_cons,List.length_cons,ih]

theorem length_entryBytes (entries : List (Nat × Nat)) : (entryBytes entries).length = entries.length*16 := by
  induction entries with
  | nil => rfl
  | cons entry entries ih =>
    have step : entryBytes (entry::entries) =
        (LittleEndian.toBytes 8 entry.1 ++ LittleEndian.toBytes 8 entry.2) ++ entryBytes entries := List.flatMap_cons
    rw [step,List.length_append,ih,List.length_append,LittleEndian.length_toBytes,LittleEndian.length_toBytes,List.length_cons]
    omega

theorem words64_entryBytes {entries : List (Nat × Nat)} (fits : ∀ entry ∈ entries, entry.1 < 2^64 ∧ entry.2 < 2^64) :
    LittleEndian.words64 (entryBytes entries) = entries.flatMap fun entry => [entry.1,entry.2] := by
  induction entries with
  | nil => rfl
  | cons entry entries ih =>
    obtain ⟨offset,len⟩ := fits entry List.mem_cons_self
    have step : entryBytes (entry::entries) =
        LittleEndian.toBytes 8 entry.1 ++ (LittleEndian.toBytes 8 entry.2 ++ entryBytes entries) := by
      rw [← List.append_assoc]
      exact List.flatMap_cons
    rw [step,LittleEndian.words64_toBytes offset,LittleEndian.words64_toBytes len,
      ih fun other member => fits other (List.mem_cons_of_mem _ member)]
    rfl

theorem mem_shardEntries (member : entry ∈ shardEntries offset chunks) :
    entry = (absent,absent) ∨ entry.1+entry.2 ≤ offset+(shardBody chunks).length := by
  induction chunks generalizing offset with
  | nil => cases member
  | cons chunk chunks ih =>
    have body : (shardBody (chunk::chunks)).length = (chunk.getD []).length+(shardBody chunks).length := by
      rw [shardBody,List.flatMap_cons,List.length_append]
      rfl
    cases chunk with
    | none =>
      rcases List.mem_cons.mp member with rfl | later
      · exact .inl rfl
      · rcases ih later with mark | inside
        · exact .inl mark
        · exact .inr (by rw [body]; simpa using inside)
    | some bytes =>
      rcases List.mem_cons.mp member with rfl | later
      · refine .inr ?_
        rw [body]
        simp only [Option.getD_some]
        omega
      · rcases ih later with mark | inside
        · exact .inl mark
        · refine .inr ?_
          rw [body]
          simp only [Option.getD_some]
          omega

theorem pastEnd_none {entries : List (Nat × Nat)} (fits : ∀ entry ∈ entries, entry = (absent,absent) ∨ entry.1+entry.2 < 2^64)
    (position : Nat) : pastEnd position (entries.flatMap fun entry => [entry.1,entry.2]) = none := by
  induction entries generalizing position with
  | nil => rfl
  | cons entry entries ih =>
    rw [List.flatMap_cons,List.cons_append,List.singleton_append,pastEnd,if_neg]
    · exact ih (fun other member => fits other (List.mem_cons_of_mem _ member)) _
    · rintro ⟨written,past⟩
      rcases fits entry List.mem_cons_self with mark | inside
      · exact written (by rw [mark]; exact ⟨rfl,rfl⟩)
      · omega

theorem drop_words (entries : List (Nat × Nat)) (position : Nat) :
    (entries.flatMap fun entry => [entry.1,entry.2]).drop (position*2) =
      (entries.drop position).flatMap fun entry => [entry.1,entry.2] := by
  induction position generalizing entries with
  | zero => rfl
  | succ position ih =>
    cases entries with
    | nil => simp
    | cons entry entries =>
      rw [Nat.succ_mul,List.flatMap_cons]
      exact ih entries

def entryAt (offset : Nat) (chunks : List (Option Bytes)) (position : Nat) : Option Bytes → Nat × Nat
  | none => (absent,absent)
  | some bytes => (offset+(shardBody (chunks.take position)).length,bytes.length)

theorem shardEntries_at (there : chunks[position]? = some chunk) (offset : Nat) :
    (shardEntries offset chunks)[position]? = some (entryAt offset chunks position chunk) := by
  induction chunks generalizing offset position with
  | nil => cases there
  | cons first chunks ih =>
    cases position with
    | zero =>
      cases there
      cases chunk <;> rfl
    | succ position =>
      have later : chunks[position]? = some chunk := there
      have body : shardBody ((first::chunks).take (position+1)) = first.getD [] ++ shardBody (chunks.take position) :=
        List.flatMap_cons
      cases first with
      | none =>
        rw [shardEntries,List.getElem?_cons_succ,ih later]
        cases chunk with
        | none => rfl
        | some bytes => simp only [entryAt,body,Option.getD_none,List.nil_append]
      | some written =>
        rw [shardEntries,List.getElem?_cons_succ,ih later]
        cases chunk with
        | none => rfl
        | some bytes => simp only [entryAt,body,Option.getD_some,List.length_append,Nat.add_assoc]

theorem shardBody_eq (there : chunks[position]? = some (some bytes)) :
    shardBody chunks = shardBody (chunks.take position) ++ (bytes ++ shardBody (chunks.drop (position+1))) := by
  obtain ⟨inside,here⟩ := List.getElem?_eq_some_iff.mp there
  have cut : chunks = chunks.take position ++ some bytes::chunks.drop (position+1) := by
    rw [← here,List.cons_getElem_drop_succ,List.take_append_drop]
  conv_lhs => rw [cut]
  rw [shardBody,List.flatMap_append,List.flatMap_cons]
  rfl

theorem shardBody_room (there : chunks[position]? = some (some bytes)) :
    (shardBody (chunks.take position)).length+bytes.length ≤ (shardBody chunks).length := by
  rw [shardBody_eq there,List.length_append,List.length_append,← Nat.add_assoc]
  exact Nat.le_add_right _ _

variable {layout : ShardLayout} (bounded : layout.Bounded) (counted : chunks.length = layout.count)

theorem shardBase_eq : shardBase layout layout.count = if layout.indexLocation = .atStart then layout.indexLen else 0 := by
  unfold shardBase ShardLayout.indexLen
  cases layout.indexLocation <;> rfl

include counted

theorem length_shardIndexBytes (crc32c : Bytes → UInt32) : (shardIndexBytes crc32c layout chunks).length = layout.indexLen := by
  unfold shardIndexBytes ShardLayout.indexLen indexEntryBytes checksumBytes
  rw [List.length_append,length_entryBytes,length_shardEntries,counted]
  cases layout.indexChecksum with
  | false => rfl
  | true => simp only [if_true,LittleEndian.length_toBytes]

theorem length_buildShard (crc32c : Bytes → UInt32) : (buildShard crc32c layout chunks).length = layout.indexLen+(shardBody chunks).length := by
  unfold buildShard
  cases layout.indexLocation with
  | atStart => rw [List.length_append,length_shardIndexBytes counted crc32c]
  | atEnd => rw [List.length_append,length_shardIndexBytes counted crc32c,Nat.add_comm]

theorem shardBase_le (small : (buildShard crc32c layout chunks).length < 2^64) :
    shardBase layout layout.count+(shardBody chunks).length < 2^64 := by
  rw [length_buildShard counted crc32c] at small
  refine Nat.lt_of_le_of_lt (Nat.add_le_add_right ?_ _) small
  rw [shardBase_eq]
  split
  · exact Nat.le_refl _
  · exact Nat.zero_le _

theorem entries_fit (small : (buildShard crc32c layout chunks).length < 2^64) :
    ∀ entry ∈ shardEntries (shardBase layout chunks.length) chunks, entry = (absent,absent) ∨ entry.1+entry.2 < 2^64 := by
  have room := shardBase_le counted small
  intro entry member
  rcases mem_shardEntries member with mark | inside
  · exact .inl mark
  · rw [counted] at inside
    exact .inr (Nat.lt_of_le_of_lt inside room)

def shardWords (layout : ShardLayout) (chunks : List (Option Bytes)) : List Nat :=
  (shardEntries (shardBase layout chunks.length) chunks).flatMap fun entry => [entry.1,entry.2]

include bounded

theorem parse_shardIndexBytes (small : (buildShard crc32c layout chunks).length < 2^64) (shard : Path) :
    ShardIndex.parse crc32c (shardIndexBytes crc32c layout chunks) layout shard = .ok (.written (shardWords layout chunks)) := by
  have fit := entries_fit counted small
  have exact : ∀ entry ∈ shardEntries (shardBase layout chunks.length) chunks, entry.1 < 2^64 ∧ entry.2 < 2^64 := by
    intro entry member
    rcases fit entry member with rfl | inside
    · exact ⟨by decide,by decide⟩
    · omega
  have cut : (entryBytes (shardEntries (shardBase layout chunks.length) chunks)).length = layout.count*indexEntryBytes := by
    rw [length_entryBytes,length_shardEntries,counted]
    rfl
  have fits := bounded.fits
  unfold ShardIndex.parse
  rw [indexByteLen_eq bounded,ok_then,if_neg (not_not.mpr (length_shardIndexBytes counted crc32c)),innerChunksPerShard_eq bounded,ok_then,
    Checked.mul_ok (Nat.lt_of_le_of_lt (Nat.le_add_right _ _) fits),ok_then]
  dsimp only
  have front : (shardIndexBytes crc32c layout chunks).take (layout.count*indexEntryBytes) =
      entryBytes (shardEntries (shardBase layout chunks.length) chunks) := by
    unfold shardIndexBytes
    rw [← cut,List.take_left]
  have back : (shardIndexBytes crc32c layout chunks).drop (layout.count*indexEntryBytes) = if layout.indexChecksum then
      LittleEndian.toBytes 4 (crc32c (entryBytes (shardEntries (shardBase layout chunks.length) chunks))).toNat else [] := by
    unfold shardIndexBytes
    rw [← cut,List.drop_left]
  rw [front,back,if_neg,words64_entryBytes exact,pastEnd_none fit]
  · rfl
  · rintro ⟨checked,differs⟩
    rw [if_pos checked,LittleEndian.value_toBytes (UInt32.toNat_lt _)] at differs
    exact differs rfl

theorem readIndex_built {objects : Path → Option Bytes} (small : (buildShard crc32c layout chunks).length < 2^64)
    (stored : objects shard = some (buildShard crc32c layout chunks)) :
    readIndex crc32c (Backend.memory objects) layout shard = .ok (.written (shardWords layout chunks)) := by
  have len := length_shardIndexBytes counted crc32c
  have whole := length_buildShard counted crc32c
  have nonempty : 0 < layout.indexLen := by
    have count : 0 < layout.count := List.one_le_prod (radices_positive bounded.positive)
    unfold ShardLayout.indexLen indexEntryBytes
    omega
  have bytes : (Backend.memory objects).getOpts ⟨shard,some (layout.indexRange layout.indexLen)⟩ =
      .ok (shardIndexBytes crc32c layout chunks) := by
    unfold Backend.memory ShardLayout.indexRange
    simp only [stored]
    cases located : layout.indexLocation with
    | atStart =>
      have built : buildShard crc32c layout chunks = shardIndexBytes crc32c layout chunks ++ shardBody chunks := by
        rw [buildShard,located]
      dsimp only
      rw [if_pos ⟨nonempty,by rw [whole]; omega⟩,built,List.drop_zero,← len,List.take_left]
    | atEnd =>
      have built : buildShard crc32c layout chunks = shardBody chunks ++ shardIndexBytes crc32c layout chunks := by
        rw [buildShard,located]
      dsimp only
      rw [whole,Nat.add_sub_cancel_left,built,List.drop_left]
  unfold readIndex
  rw [indexByteLen_eq bounded,ok_then,bytes]
  exact parse_shardIndexBytes bounded counted small shard

theorem entry_built (small : (buildShard crc32c layout chunks).length < 2^64) (there : chunks[position]? = some chunk) :
    (ShardIndex.written (shardWords layout chunks)).entry position = .ok (chunk.map fun bytes =>
      let offset := shardBase layout layout.count+(shardBody (chunks.take position)).length
      (offset,offset+bytes.length)) := by
  have inside : position < layout.count := counted ▸ (List.getElem?_eq_some_iff.mp there).1
  have low := bounded.count_lt
  have found := shardEntries_at there (shardBase layout chunks.length)
  have room := shardBase_le counted small
  have pair : ((shardWords layout chunks).drop (position*2)).take 2 =
      [(entryAt (shardBase layout chunks.length) chunks position chunk).1,
        (entryAt (shardBase layout chunks.length) chunks position chunk).2] := by
    obtain ⟨within,here⟩ := List.getElem?_eq_some_iff.mp found
    rw [shardWords,drop_words,List.drop_eq_getElem_cons within,here,List.flatMap_cons]
    rfl
  have twice : (Checked.mul position 2 : Except (Stop StoreError) Nat) = .ok (position*2) := Checked.mul_ok (by omega)
  have after : (Checked.add (position*2) 2 : Except (Stop StoreError) Nat) = .ok (position*2+2) := Checked.add_ok (by omega)
  unfold ShardIndex.entry
  dsimp only
  rw [twice,ok_then,after,ok_then,pair]
  dsimp only
  cases chunk with
  | none => rfl
  | some bytes =>
    have short := shardBody_room there
    rw [counted]
    have ends : (entryAt (shardBase layout layout.count) chunks position (some bytes)).1+
        (entryAt (shardBase layout layout.count) chunks position (some bytes)).2 < 2^64 := by
      simp only [entryAt]
      omega
    rw [if_neg,Checked.add_ok ends,ok_then]
    · rfl
    · rintro ⟨offset,len⟩
      rw [offset,len] at ends
      exact absurd ends (by decide)

omit bounded in
theorem read_built {objects : Path → Option Bytes} (stored : objects shard = some (buildShard crc32c layout chunks))
    (there : chunks[position]? = some (some bytes)) (nonempty : bytes ≠ []) :
    let offset := shardBase layout layout.count+(shardBody (chunks.take position)).length
    (Backend.memory objects).getOpts ⟨shard,some (.bounded offset (offset+bytes.length))⟩ = .ok bytes := by
  intro offset
  have some : 0 < bytes.length := List.length_pos_iff.mpr nonempty
  have len := length_shardIndexBytes counted crc32c
  have body := shardBody_eq there
  -- Past the offset the object goes on with the chunk.
  have onwards : ∃ rest, (buildShard crc32c layout chunks).drop offset = bytes ++ rest := by
    unfold offset buildShard
    rw [shardBase_eq]
    cases layout.indexLocation with
    | atStart =>
      rw [if_pos rfl,← len,← List.drop_drop,List.drop_left,body,List.drop_left]
      exact ⟨_,rfl⟩
    | atEnd =>
      rw [if_neg (by decide),Nat.zero_add,body,List.append_assoc,List.append_assoc,List.drop_left]
      exact ⟨_,rfl⟩
  obtain ⟨rest,onwards⟩ := onwards
  have inside : offset < (buildShard crc32c layout chunks).length := by
    have lengths := congrArg List.length onwards
    rw [List.length_drop,List.length_append] at lengths
    omega
  unfold Backend.memory
  simp only [stored]
  rw [if_pos ⟨by omega,inside⟩,List.drop_take,onwards,Nat.add_sub_cancel_left,List.take_left]

end Index

section Locations
variable {layout : ShardLayout} {axes : List String}

def ShardLayout.shardOf (layout : ShardLayout) (coords : List Nat) : List Nat :=
  List.zipWith (· / ·) coords (radices layout.chunksPerShard)

def ShardLayout.positionOf (layout : ShardLayout) (coords : List Nat) : Nat :=
  MixedRadix.flatten (radices layout.chunksPerShard) (List.zipWith (· % ·) coords (radices layout.chunksPerShard))

def ShardLayout.coordsOf (layout : ShardLayout) (shard : List Nat) (position : Nat) : List Nat :=
  List.zipWith (· + ·) (List.zipWith (· * ·) shard (radices layout.chunksPerShard))
    (MixedRadix.unflatten (radices layout.chunksPerShard) position)

theorem length_radices (sizes : List UInt64) : (radices sizes).length = sizes.length := List.length_map _

theorem digits_of (bounded : layout.Bounded) (ranked : coords.length = layout.chunksPerShard.length) :
    MixedRadix.Digits (radices layout.chunksPerShard) (List.zipWith (· % ·) coords (radices layout.chunksPerShard)) :=
  MixedRadix.remainders_digits (radices_positive bounded.positive) (ranked.trans (length_radices _).symm)

theorem positionOf_lt (bounded : layout.Bounded) (ranked : coords.length = layout.chunksPerShard.length) :
    layout.positionOf coords < layout.count := MixedRadix.flatten_lt (digits_of bounded ranked)

theorem coordsOf_eq (bounded : layout.Bounded) (ranked : coords.length = layout.chunksPerShard.length) :
    layout.coordsOf (layout.shardOf coords) (layout.positionOf coords) = coords := by
  unfold ShardLayout.coordsOf ShardLayout.shardOf ShardLayout.positionOf
  rw [MixedRadix.unflatten_flatten (digits_of bounded ranked)]
  exact MixedRadix.join_split (ranked.trans (length_radices _).symm)

theorem length_shardOf (ranked : coords.length = layout.chunksPerShard.length) :
    (layout.shardOf coords).length = layout.chunksPerShard.length := by
  rw [ShardLayout.shardOf,List.length_zipWith,length_radices,ranked,Nat.min_self]

theorem locate_none (malformed : chunkKeyGridCoords key axes layout.innerChunkShape = none) :
    layout.locateInnerChunk key axes = .ok none := by
  unfold ShardLayout.locateInnerChunk
  rw [malformed]

theorem locate_eq (bounded : layout.Bounded) (paired : axes.length = layout.chunksPerShard.length)
    (parsed : chunkKeyGridCoords key axes layout.innerChunkShape = some (level,coords)) :
    layout.locateInnerChunk key axes =
      .ok (some ⟨pathFrom (chunkGridStorePath level (layout.shardOf coords)),layout.positionOf coords⟩) := by
  have ranked : coords.length = layout.chunksPerShard.length := (chunkKeyGridCoords_some parsed).2.trans paired
  have fits : (0+1)*(radices layout.chunksPerShard).prod ≤ 2^64 := by
    rw [Nat.zero_add,Nat.one_mul]
    exact Nat.le_of_lt (Nat.lt_trans bounded.count_lt (by decide))
  have split := @splitTurn_foldlM _ _ [] _ bounded.positive ranked fits
  rw [Nat.zero_mul,Nat.zero_add,List.nil_append] at split
  unfold ShardLayout.locateInnerChunk
  rw [parsed]
  dsimp only
  rw [if_neg (not_not.mpr ranked),split]
  rfl

theorem coords_of_location (bounded : layout.Bounded) (ranked : coords.length = layout.chunksPerShard.length)
    (ranked' : coords'.length = layout.chunksPerShard.length) (shards : layout.shardOf coords = layout.shardOf coords')
    (positions : layout.positionOf coords = layout.positionOf coords') : coords = coords' := by
  rw [← coordsOf_eq bounded ranked,shards,positions,coordsOf_eq bounded ranked']

end Locations

section Reads
variable {crc32c : Bytes → UInt32} {layout : ShardLayout} {level : String}

-- What an array holds: optional bytes for each place of the inner grid, and which shards there are.
structure InnerGrid (crc32c : Bytes → UInt32) (layout : ShardLayout) where
  chunk : List Nat → Option Bytes
  present : List Nat → Bool
  nonempty : ∀ coords, chunk coords ≠ some []
  small : ∀ shard, present shard →
    (buildShard crc32c layout ((List.range layout.count).map fun position => chunk (layout.coordsOf shard position))).length < 2^64

def InnerGrid.gathered (grid : InnerGrid crc32c layout) (shard : List Nat) : List (Option Bytes) :=
  (List.range layout.count).map fun position => grid.chunk (layout.coordsOf shard position)

structure Twin (grid : InnerGrid crc32c layout) (level : String) where
  sharded : Path → Option Bytes
  unsharded : Path → Option Bytes
  shards : ∀ shard, shard.length = layout.chunksPerShard.length →
    sharded (pathFrom (chunkGridStorePath level shard)) =
      if grid.present shard then some (buildShard crc32c layout (grid.gathered shard)) else none
  objects : ∀ coords, coords.length = layout.chunksPerShard.length →
    unsharded (pathFrom (chunkGridStorePath level coords)) =
      if grid.present (layout.shardOf coords) then grid.chunk coords else none

theorem exists_twin (grid : InnerGrid crc32c layout) (slashless : '/' ∉ level.toList) : Nonempty (Twin grid level) := by
  classical
  -- The coordinates of a path, where it has some.
  have read : ∀ held : List Nat → Option Bytes, ∃ objects : Path → Option Bytes, ∀ coords,
      coords.length = layout.chunksPerShard.length → objects (pathFrom (chunkGridStorePath level coords)) = held coords := by
    intro held
    refine ⟨fun path =>
      if found : ∃ coords, coords.length = layout.chunksPerShard.length ∧ path = pathFrom (chunkGridStorePath level coords) then
        held found.choose else none,?_⟩
    intro coords ranked
    have found : ∃ other, other.length = layout.chunksPerShard.length ∧
        pathFrom (chunkGridStorePath level coords) = pathFrom (chunkGridStorePath level other) := ⟨coords,ranked,rfl⟩
    obtain ⟨length,same⟩ := found.choose_spec
    dsimp only
    rw [dif_pos found,← coords_of_pathFrom slashless slashless (ranked.trans length.symm) same]
  obtain ⟨sharded,shards⟩ := read fun shard =>
    if grid.present shard then some (buildShard crc32c layout (grid.gathered shard)) else none
  obtain ⟨unsharded,objects⟩ := read fun coords => if grid.present (layout.shardOf coords) then grid.chunk coords else none
  exact ⟨⟨sharded,unsharded,shards,objects⟩⟩

def Truthful (crc32c : Bytes → UInt32) (backend : Backend) (layout : ShardLayout) (cache : ShardIndexCache) : Prop :=
  ∀ shard index, cache.get? shard = some index → readIndex crc32c backend layout shard = .ok index

theorem empty_truthful (crc32c : Bytes → UInt32) (backend : Backend) (layout : ShardLayout) :
    Truthful crc32c backend layout .empty := by
  intro shard index found
  cases found

theorem resolveIndex_truthful {cache : ShardIndexCache} (truthful : Truthful crc32c backend layout cache)
    (found : readIndex crc32c backend layout shard = .ok index) :
    ∃ after, resolveIndex crc32c backend layout cache shard = .ok (index,after) ∧ Truthful crc32c backend layout after := by
  unfold resolveIndex
  cases known : cache.get? shard with
  | some remembered =>
    have same := (truthful shard remembered known).symm.trans found
    cases same
    exact ⟨cache,rfl,truthful⟩
  | none =>
    dsimp only
    rw [found]
    refine ⟨_,rfl,?_⟩
    intro other index' there
    rw [IndexMap.get?_insert] at there
    split at there
    · rename_i same
      cases there
      rw [same] at *
      exact found
    · exact truthful other index' there

variable {grid : InnerGrid crc32c layout} (twin : Twin grid level)

theorem read_twin (bounded : layout.Bounded) (ranked : coords.length = layout.chunksPerShard.length) {cache : ShardIndexCache}
    (truthful : Truthful crc32c (Backend.memory twin.sharded) layout cache) :
    let location : ShardLocation := ⟨pathFrom (chunkGridStorePath level (layout.shardOf coords)),layout.positionOf coords⟩
    let after := readInnerChunk crc32c (Backend.memory twin.sharded) layout cache location
    after.1 = (match twin.unsharded (pathFrom (chunkGridStorePath level coords)) with
      | some bytes => .ok bytes
      | none => .error (.error (unwritten location.path location.position))) ∧
    Truthful crc32c (Backend.memory twin.sharded) layout after.2 := by
  intro location after
  have stored := twin.shards (layout.shardOf coords) (length_shardOf ranked)
  have object := twin.objects coords ranked
  cases present : grid.present (layout.shardOf coords) with
  | false =>
    rw [present,if_neg (by decide)] at stored object
    have index : readIndex crc32c (Backend.memory twin.sharded) layout location.path = .ok .missing := by
      unfold readIndex Backend.memory
      rw [indexByteLen_eq bounded,ok_then]
      simp only [location,stored]
      rfl
    obtain ⟨next,resolved,kept⟩ := resolveIndex_truthful truthful index
    have ran : after = (.error (.error (unwritten location.path location.position)),next) := by
      unfold after readInnerChunk
      rw [resolved]
      rfl
    rw [ran,object]
    exact ⟨rfl,kept⟩
  | true =>
    rw [present,if_pos rfl] at stored object
    have counted : (grid.gathered (layout.shardOf coords)).length = layout.count := by
      rw [InnerGrid.gathered,List.length_map,List.length_range]
    have small := grid.small _ present
    have there : (grid.gathered (layout.shardOf coords))[layout.positionOf coords]? = some (grid.chunk coords) := by
      have inside := positionOf_lt bounded ranked
      rw [InnerGrid.gathered,List.getElem?_map,List.getElem?_range inside,Option.map_some,coordsOf_eq bounded ranked]
    obtain ⟨next,resolved,kept⟩ := resolveIndex_truthful truthful (readIndex_built bounded counted small stored)
    have entry := entry_built bounded counted small there
    rw [object]
    cases held : grid.chunk coords with
    | none =>
      rw [held] at entry
      have ran : after = (.error (.error (unwritten location.path location.position)),next) := by
        unfold after readInnerChunk
        rw [resolved]
        dsimp only
        rw [entry]
        rfl
      rw [ran]
      exact ⟨rfl,kept⟩
    | some bytes =>
      rw [held] at entry there
      have range := read_built counted stored there (fun empty => grid.nonempty coords (empty ▸ held))
      have ran : after = (.ok bytes,next) := by
        unfold after readInnerChunk
        rw [resolved]
        dsimp only
        rw [entry]
        dsimp only [Option.map_some]
        rw [ok_then]
        dsimp only [location]
        rw [range]
        rfl
      rw [ran]
      exact ⟨rfl,kept⟩

theorem sharded_reads_agree (crc32c : Bytes → UInt32) (layout : ShardLayout) (axes : List String) (bounded : layout.Bounded)
    (paired : axes.length = layout.chunksPerShard.length) (key : String) :
    (∃ location, layout.locateInnerChunk key axes = .ok location ∧
      (location.isSome ↔ (chunkKeyGridCoords key axes layout.innerChunkShape).isSome)) ∧
    (∀ other level level' coords coords', chunkKeyGridCoords key axes layout.innerChunkShape = some (level,coords) →
      chunkKeyGridCoords other axes layout.innerChunkShape = some (level',coords') → coords ≠ coords' →
      layout.locateInnerChunk key axes ≠ layout.locateInnerChunk other axes) ∧
    (∀ location, layout.locateInnerChunk key axes = .ok (some location) →
      ∃ count, layout.innerChunksPerShard = .ok count ∧ location.position < count) ∧
    (∀ level coords location, chunkKeyGridCoords key axes layout.innerChunkShape = some (level,coords) →
      layout.locateInnerChunk key axes = .ok (some location) →
      ∀ (grid : InnerGrid crc32c layout) (twin : Twin grid level) (cache : ShardIndexCache),
        Truthful crc32c (Backend.memory twin.sharded) layout cache →
        let after := readInnerChunk crc32c (Backend.memory twin.sharded) layout cache location
        after.1 = (match twin.unsharded (pathFrom (chunkKeyToStorePath key axes layout.innerChunkShape)) with
          | some bytes => .ok bytes
          | none => .error (.error (unwritten location.path location.position))) ∧
        Truthful crc32c (Backend.memory twin.sharded) layout after.2) := by
  refine ⟨?_,?_,?_,?_⟩
  · cases parsed : chunkKeyGridCoords key axes layout.innerChunkShape with
    | none => exact ⟨none,locate_none parsed,Iff.rfl⟩
    | some found => exact ⟨_,locate_eq bounded paired parsed,Iff.rfl⟩
  · intro other level level' coords coords' parsed parsed' differ same
    have ranked := (chunkKeyGridCoords_some parsed).2.trans paired
    have ranked' := (chunkKeyGridCoords_some parsed').2.trans paired
    rw [locate_eq bounded paired parsed,locate_eq bounded paired parsed'] at same
    have locations := Option.some.inj (Except.ok.inj same)
    have shards := coords_of_pathFrom (level_slashless parsed) (level_slashless parsed')
      ((length_shardOf ranked).trans (length_shardOf ranked').symm) (congrArg ShardLocation.path locations)
    exact differ (coords_of_location bounded ranked ranked' shards (congrArg ShardLocation.position locations))
  · intro location located
    refine ⟨layout.count,innerChunksPerShard_eq bounded,?_⟩
    cases parsed : chunkKeyGridCoords key axes layout.innerChunkShape with
    | none =>
      rw [locate_none parsed] at located
      cases located
    | some found =>
      rw [locate_eq bounded paired parsed] at located
      cases located
      exact positionOf_lt bounded ((chunkKeyGridCoords_some parsed).2.trans paired)
  · intro level coords location parsed located grid twin cache truthful
    rw [locate_eq bounded paired parsed] at located
    cases located
    have path : chunkKeyToStorePath key axes layout.innerChunkShape = chunkGridStorePath level coords := by
      rw [chunkKeyToStorePath,parsed]
    rw [path]
    exact read_twin twin bounded ((chunkKeyGridCoords_some parsed).2.trans paired) truthful

-- Where the ranks differ, where the chunks of a shard are more than a word counts, and where a
-- written chunk has no bytes.
theorem sharded_reads_differ :
    (let layout : ShardLayout := ⟨[16,16],[2],.atEnd,false⟩;
      0 ∉ layout.chunksPerShard ∧ layout.locateInnerChunk "0/0/0/0/1/1" ["y","x"] = .ok none ∧
        chunkKeyGridCoords "0/0/0/0/1/1" ["y","x"] layout.innerChunkShape = some ("0",[1,1])) ∧
    (let layout : ShardLayout := ⟨[16,16],[2^33,2^33],.atEnd,false⟩;
      0 ∉ layout.chunksPerShard ∧ layout.locateInnerChunk "0/0/0/0/8589934591/0" ["y","x"] = .error .panic ∧
        layout.innerChunksPerShard = .error .panic ∧
        chunkKeyGridCoords "0/0/0/0/8589934591/0" ["y","x"] layout.innerChunkShape = some ("0",[8589934591,0])) ∧
    (let layout : ShardLayout := ⟨[16],[2],.atEnd,false⟩;
      let shard := buildShard (fun _ => 0) layout [some [],some [7]]
      let backend := Backend.memory fun path => if path = "0/c/0" then some shard else none
      layout.locateInnerChunk "0/0/0/0/0/0" ["x"] = .ok (some ⟨"0/c/0",0⟩) ∧
        (readInnerChunk (fun _ => 0) backend layout .empty ⟨"0/c/0",0⟩).1 =
          .error (.error (.generic "InMemory" "range not satisfiable"))) := by
  decide +kernel

def pairGrid : InnerGrid (fun _ => 0) ⟨[16],[2],.atStart,true⟩ where
  chunk coords := if coords = [1] then some [7] else none
  present shard := shard = [0]
  nonempty coords := by split <;> simp
  small shard there := by
    rw [of_decide_eq_true there]
    decide +kernel

theorem sharded_reads_agree_pair : ∃ twin : Twin pairGrid "0",
    (readInnerChunk (fun _ => 0) (Backend.memory twin.sharded) ⟨[16],[2],.atStart,true⟩ .empty ⟨"0/c/0",1⟩).1 = .ok [7] := by
  obtain ⟨twin⟩ := (exists_twin pairGrid (by decide) : Nonempty (Twin pairGrid "0"))
  refine ⟨twin,?_⟩
  have parsed : chunkKeyGridCoords "0/0/0/0/0/1" ["x"] [16] = some ("0",[1]) := by decide +kernel
  have located : (⟨[16],[2],.atStart,true⟩ : ShardLayout).locateInnerChunk "0/0/0/0/0/1" ["x"] = .ok (some ⟨"0/c/0",1⟩) := by
    decide +kernel
  have agree := (sharded_reads_agree (fun _ => 0) ⟨[16],[2],.atStart,true⟩ ["x"] ⟨by decide,by decide⟩ rfl "0/0/0/0/0/1").2.2.2
    "0" [1] _ parsed located pairGrid twin .empty (empty_truthful _ _ _)
  have path : chunkKeyToStorePath "0/0/0/0/0/1" ["x"] [16] = chunkGridStorePath "0" [1] := by
    rw [chunkKeyToStorePath,parsed]
  have object : twin.unsharded (pathFrom (chunkGridStorePath "0" [1])) = some [7] := twin.objects [1] rfl
  have read := agree.1
  rw [path,object] at read
  exact read

end Reads
end Lucida.Store
