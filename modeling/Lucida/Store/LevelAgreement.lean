import Lucida.Store.ImportCollection

namespace Lucida.Store
open Content Lib

structure Agree (levels : List (LevelGeometry F64)) (bindings : List LevelBindingInfo) : Prop where
  indices : levels.map (·.levelIndex) = (List.range levels.length).map u32
  positive : ∀ level ∈ levels, ∀ size ∈ axesList level.chunkShape, 0 < size
  same : bindings.map (·.levelIndex) = levels.map (·.levelIndex)

section Normalize
variable {axes : List String} {values values' : List UInt64}

def axesAll {α β : Type} (r : α → β → Prop) (a : Axes α) (b : Axes β) : Prop := r a.t b.t ∧ r a.c b.c ∧ r a.z b.z ∧ r a.y b.y ∧ r a.x b.x

theorem axesAll_set {α β : Type} {r : α → β → Prop} {a : Axes α} {b : Axes β} {v : α} {w : β} (all : axesAll r a b) (here : r v w) (index : Nat) :
    axesAll r (axesSet a index v) (axesSet b index w) := by
  obtain ⟨t,c,z,y,x⟩ := all
  unfold axesSet
  split
  · exact ⟨here,c,z,y,x⟩
  · exact ⟨t,here,z,y,x⟩
  · exact ⟨t,c,here,y,x⟩
  · exact ⟨t,c,z,here,x⟩
  · exact ⟨t,c,z,y,here⟩
  · exact ⟨t,c,z,y,x⟩

theorem axesAll_normalize {α β : Type} {r : α → β → Prop} {vs : List α} {ws : List β} {v : α} {w : β} (axes : List String)
    (each : List.Forall₂ r vs ws) (fill : r v w) : axesAll r (normalizeTo5d vs axes v) (normalizeTo5d ws axes w) := by
  have start : axesAll r (⟨v,v,v,v,v⟩ : Axes α) (⟨w,w,w,w,w⟩ : Axes β) := ⟨fill,fill,fill,fill,fill⟩
  unfold normalizeTo5d
  generalize (⟨v,v,v,v,v⟩ : Axes α) = a at start ⊢
  generalize (⟨w,w,w,w,w⟩ : Axes β) = b at start ⊢
  induction each generalizing axes a b with
  | nil => simpa using start
  | cons first _ ih =>
    cases axes with
    | nil => simpa using start
    | cons name axes =>
      rw [List.zip_cons_cons,List.zip_cons_cons,List.foldl_cons,List.foldl_cons]
      apply ih
      dsimp only
      cases axisIndex name with
      | none => exact start
      | some index => exact axesAll_set start first index

theorem canonicalShape_mono (axes : List String) (each : List.Forall₂ (· ≤ ·) values values') :
    axesAll (· ≤ ·) (canonicalShape axes values) (canonicalShape axes values') := by
  have all := axesAll_normalize axes each (UInt64.le_refl 1)
  obtain ⟨t,c,z,y,x⟩ := all
  exact ⟨t,c,z,y,x⟩

def Positive (axes : List String) (chunkShape : List UInt64) : Prop := ∀ size ∈ axesList (canonicalShape axes chunkShape), 0 < size

theorem positive_iff : Positive axes values ↔ axesAll (fun (_ : Unit) size => 0 < size) ⟨(),(),(),(),()⟩ (canonicalShape axes values) := by
  unfold Positive axesList axesAll
  simp only [List.forall_mem_cons,List.not_mem_nil,false_imp_iff,implies_true,and_true]

theorem Positive.mono (positive : Positive axes values) (each : List.Forall₂ (· ≤ ·) values values') : Positive axes values' := by
  rw [positive_iff] at positive ⊢
  obtain ⟨t,c,z,y,x⟩ := positive
  obtain ⟨t',c',z',y',x'⟩ := canonicalShape_mono axes each
  exact ⟨Nat.lt_of_lt_of_le t t',Nat.lt_of_lt_of_le c c',Nat.lt_of_lt_of_le z z',Nat.lt_of_lt_of_le y y',Nat.lt_of_lt_of_le x x'⟩

theorem positive_of_nonzero (nonzero : 0 ∉ values) : Positive axes values := by
  have ones : List.Forall₂ (fun (one size : UInt64) => one = 1 ∧ one ≤ size) (values.map fun _ => 1) values := by
    rw [List.forall₂_map_left_iff,List.forall₂_same]
    intro size member
    refine ⟨rfl,?_⟩
    have other : size ≠ 0 := fun same => nonzero (same ▸ member)
    rw [UInt64.le_iff_toNat_le]
    have : size.toNat ≠ 0 := fun same => other (UInt64.toNat_inj.mp same)
    have one : (1 : UInt64).toNat = 1 := rfl
    omega
  have all := axesAll_normalize axes ones ⟨rfl,UInt64.le_refl 1⟩
  rw [positive_iff]
  have step : ∀ {one size : UInt64}, one = 1 ∧ one ≤ size → 0 < size.toNat := by
    intro one size fact
    obtain ⟨rfl,le⟩ := fact
    exact UInt64.le_iff_toNat_le.mp le
  obtain ⟨t,c,z,y,x⟩ := all
  exact ⟨step t,step c,step z,step y,step x⟩

theorem forall₂_widen (declared stored : List UInt64) : List.Forall₂ (· ≤ ·) declared (widen declared stored) := by
  induction declared generalizing stored with
  | nil =>
    cases stored <;> exact .nil
  | cons d declared ih =>
    cases stored with
    | nil =>
      rw [widen]
      · exact List.forall₂_same.mpr fun size _ => UInt64.le_refl size
      · intro _ _ _ _ _ bad
        cases bad
    | cons s stored =>
      refine .cons ?_ (ih stored)
      change d ≤ if d ≤ s then s else d
      split
      · assumption
      · exact UInt64.le_refl d

end Normalize

section Described
variable {axes : List String} {dtypeSize : Nat} {pinned : List PinnedAxis} {levelMetas : List ArrayMeta} {bindings : List LevelBindingInfo}

theorem map_snd_zipIdx {α β : Type} (items : List α) (f : Nat → β) :
    items.zipIdx.map (fun item => f item.2) = (List.range items.length).map f := by
  rw [List.range_eq_range',← List.zipIdx_map_snd 0 items,List.map_map]
  rfl

theorem buildLevelBindingInfo_ok {level : ArrayMeta × Nat} (built : buildLevelBindingInfo axes dtypeSize pinned level = .ok binding) :
    binding.levelIndex = u32 level.2 := by
  unfold buildLevelBindingInfo at built
  obtain ⟨⟨_,_,_⟩,_,rest⟩ := bind_ok built
  obtain ⟨_,_,same⟩ := bind_ok rest
  cases same
  rfl

theorem buildLevelBindingInfos_ok (built : buildLevelBindingInfos axes dtypeSize pinned levelMetas = .ok bindings) :
    bindings.map (·.levelIndex) = (List.range levelMetas.length).map u32 := by
  have each := mapM_ok_iff.mp built
  rw [← map_snd_zipIdx]
  symm
  refine map_eq_map_of_forall₂ (each.imp ?_)
  intro level binding ok
  exact (buildLevelBindingInfo_ok (mapError_ok ok)).symm

theorem length_of_indices {α : Type} {items : List α} {n : Nat} {f : α → Nat} (indices : items.map f = (List.range n).map u32) :
    items.length = n := by
  have lengths := congrArg List.length indices
  rwa [List.length_map,List.length_map,List.length_range] at lengths

theorem buildLevelGeometry_ok {level : ((LevelEntry × ArrayMeta) × LevelBindingInfo) × Nat}
    (built : buildLevelGeometry axes level = .ok geometry) :
    geometry.levelIndex = u32 level.2 ∧ Positive axes level.1.2.chunkShape ∧
      geometry.chunkShape = canonicalShape axes level.1.2.chunkShape := by
  obtain ⟨⟨⟨entry,array⟩,binding⟩,i⟩ := level
  unfold buildLevelGeometry at built
  dsimp only at built
  split at built
  · cases built
  · rename_i nonzero
    cases built
    refine ⟨rfl,?_,rfl⟩
    intro size member
    exact Nat.pos_of_ne_zero fun zero => nonzero (zero ▸ member)

structure Described.Sound (described : Described) (axes : List String) (levelMetas : List ArrayMeta) : Prop where
  agree : Agree described.levels described.bindings
  many : described.bindings.length = levelMetas.length
  positive : ∀ binding ∈ described.bindings, Positive axes binding.chunkShape

theorem describe_ok {geometry : TileGeometry} (each : geometry.levelEntries.length = geometry.levelMetas.length)
    (ok : describe geometry = .ok described) : described.Sound geometry.axesNames geometry.levelMetas := by
  unfold describe at ok
  split at ok
  · cases ok
  · obtain ⟨dataType,_,rest⟩ := bind_ok ok
    obtain ⟨bindings,bound,rest⟩ := bind_ok rest
    obtain ⟨levels,built,same⟩ := bind_ok rest
    cases same
    have indices := buildLevelBindingInfos_ok bound
    have many := length_of_indices indices
    have geometries := mapM_ok_iff.mp built
    have size : ((geometry.levelEntries.zip geometry.levelMetas).zip bindings).length = geometry.levelMetas.length := by
      rw [List.length_zip,List.length_zip,many,each,Nat.min_self,Nat.min_self]
    have numbered : levels.map (·.levelIndex) = (List.range geometry.levelMetas.length).map u32 := by
      rw [← size,← map_snd_zipIdx]
      symm
      exact map_eq_map_of_forall₂ (geometries.imp fun level geometry ok => (buildLevelGeometry_ok ok).1.symm)
    refine ⟨⟨?_,?_,?_⟩,many,?_⟩
    · rw [length_of_indices numbered]
      exact numbered
    · intro level member
      obtain ⟨_,_,ok⟩ := exists_of_forall₂ geometries.flip member
      obtain ⟨_,positive,shape⟩ := buildLevelGeometry_ok ok
      rw [shape]
      exact positive
    · exact indices.trans numbered.symm
    · intro binding member
      have third : ((geometry.levelEntries.zip geometry.levelMetas).zip bindings).zipIdx.map (·.1.2) = bindings := by
        have short : bindings.length ≤ (geometry.levelEntries.zip geometry.levelMetas).length := by
          rw [List.length_zip,each,Nat.min_self,many]
        calc _ = (((geometry.levelEntries.zip geometry.levelMetas).zip bindings).zipIdx.map Prod.fst).map Prod.snd := by
              rw [List.map_map]
              rfl
          _ = bindings := by rw [List.zipIdx_map_fst,List.map_snd_zip short]
      rw [← third] at member
      obtain ⟨level,there,rfl⟩ := List.mem_map.mp member
      obtain ⟨_,_,ok⟩ := exists_of_forall₂ geometries there
      exact (buildLevelGeometry_ok ok).2.1

end Described

section Covering
variable {axes : List String} {tiles : List StoredLevels}

structure StoredLevels.Sound (tile : StoredLevels) (axes : List String) : Prop where
  some : tile.bindings ≠ []
  even : tile.shapes.length = tile.bindings.length
  indices : tile.bindings.map (·.levelIndex) = (List.range tile.bindings.length).map u32
  positive : ∀ binding ∈ tile.bindings, Positive axes binding.chunkShape

theorem length_widenLevels (declared stored : List (List UInt64)) :
    (widenLevels declared stored).length = min declared.length stored.length := List.length_zipWith

theorem positive_widenLevels {declared stored : List (List UInt64)} (positive : ∀ shape ∈ declared, Positive axes shape) :
    ∀ shape ∈ widenLevels declared stored, Positive axes shape := by
  intro shape member
  obtain ⟨i,there⟩ := List.mem_iff_getElem?.mp member
  obtain ⟨d,s,first,_,rfl⟩ := List.getElem?_zipWith_eq_some.mp there
  exact (positive d (List.mem_of_getElem? first)).mono (forall₂_widen d s)

-- The declared levels: as many as every tile has and one tile no more, and no size
-- of a chunk is zero.
structure Covers (cover : List (List UInt64) × List (List UInt64)) (axes : List String) (tiles : List StoredLevels) : Prop where
  some : cover.2 ≠ []
  even : cover.1.length = cover.2.length
  short : ∀ tile ∈ tiles, cover.2.length ≤ tile.bindings.length
  least : ∃ tile ∈ tiles, tile.bindings.length = cover.2.length
  positive : ∀ shape ∈ cover.2, Positive axes shape

def coverTurn (cover : List (List UInt64) × List (List UInt64)) (tile : StoredLevels) : List (List UInt64) × List (List UInt64) :=
  (widenLevels cover.1 tile.shapes,widenLevels cover.2 (tile.bindings.map (·.chunkShape)))

theorem cover_covers (some : tiles ≠ []) (sound : ∀ tile ∈ tiles, tile.Sound axes) : Covers (DeclaredLevels.cover tiles) axes tiles := by
  cases tiles with
  | nil => exact absurd rfl some
  | cons first rest =>
    -- The loop: what it has so far covers the tiles it has seen.
    have loop : ∀ (rest seen : List StoredLevels) (cover : List (List UInt64) × List (List UInt64)),
        (∀ tile ∈ rest, tile.Sound axes) → Covers cover axes seen →
        Covers (rest.foldl coverTurn cover) axes (seen ++ rest) := by
      intro rest
      induction rest with
      | nil =>
        intro seen cover _ covers
        rwa [List.append_nil]
      | cons tile rest ih =>
        intro seen cover sound covers
        have here := sound tile List.mem_cons_self
        rw [List.append_cons,List.foldl_cons]
        refine ih _ _ (fun other member => sound other (List.mem_cons_of_mem _ member)) ?_
        have size : (coverTurn cover tile).2.length = min cover.2.length tile.bindings.length := by
          rw [coverTurn,length_widenLevels,List.length_map]
        refine ⟨?_,?_,?_,?_,positive_widenLevels covers.positive⟩
        · rw [← List.length_pos_iff,size]
          have more := List.length_pos_iff.mpr covers.some
          have more' := List.length_pos_iff.mpr here.some
          omega
        · rw [size,coverTurn,length_widenLevels,covers.even,here.even]
        · intro other member
          rw [size]
          rcases List.mem_append.mp member with old | new
          · have := covers.short other old
            omega
          · rw [List.mem_singleton.mp new]
            exact Nat.min_le_right _ _
        · rw [size]
          obtain ⟨least,member,fewest⟩ := covers.least
          rcases Nat.le_total cover.2.length tile.bindings.length with before | here
          · exact ⟨least,List.mem_append_left _ member,by rw [fewest,Nat.min_eq_left before]⟩
          · exact ⟨tile,List.mem_append_right _ (List.mem_singleton_self tile),(Nat.min_eq_right here).symm⟩
    have here := sound first List.mem_cons_self
    refine loop rest [first] _ (fun tile member => sound tile (List.mem_cons_of_mem _ member)) ⟨?_,?_,?_,?_,?_⟩
    · simpa using here.some
    · rw [here.even,List.length_map]
    · intro tile member
      rw [List.mem_singleton.mp member,List.length_map]
    · exact ⟨first,List.mem_singleton_self first,(List.length_map _).symm⟩
    · intro shape member
      obtain ⟨binding,there,rfl⟩ := List.mem_map.mp member
      exact here.positive binding there

theorem map_zipWith_left {α β γ δ : Type} {f : α → β → γ} {g : γ → δ} {h : α → δ} (left : ∀ a b, g (f a b) = h a) (items : List α)
    (others : List β) : (List.zipWith f items others).map g = (items.map h).take others.length := by
  induction items generalizing others with
  | nil => simp
  | cons item items ih =>
    cases others with
    | nil => rfl
    | cons other others =>
      rw [List.zipWith_cons_cons,List.map_cons,left,ih,List.map_cons,List.length_cons,List.take_succ_cons]

theorem map_levelIndex_bind {declared : DeclaredLevels} {tile : StoredLevels} (sound : tile.Sound axes)
    (even : declared.chunkByteLayouts.length = declared.chunkShapes.length) (short : declared.chunkShapes.length ≤ tile.bindings.length) :
    (declared.bind tile).map (·.levelIndex) = (List.range declared.chunkShapes.length).map u32 := by
  have own : ∀ stored levels, (DeclaredLevels.bindLevel stored levels).levelIndex = stored.1.levelIndex := by
    intro stored levels
    unfold DeclaredLevels.bindLevel
    split <;> rfl
  have first : (tile.bindings.zip tile.shapes).map (fun stored => stored.1.levelIndex) = tile.bindings.map (·.levelIndex) := by
    calc _ = ((tile.bindings.zip tile.shapes).map Prod.fst).map (·.levelIndex) := by
          rw [List.map_map]
          rfl
      _ = tile.bindings.map (·.levelIndex) := by rw [List.map_fst_zip (Nat.le_of_eq sound.even.symm)]
  unfold DeclaredLevels.bind
  rw [map_zipWith_left own,first,sound.indices,List.length_zip,even,Nat.min_self,← List.map_take,List.take_range,Nat.min_eq_left short]

end Covering

section Shared
variable {ofInt : Int → F64} {store : MetadataStore} {axes : List String} {geometry : TileGeometry}

theorem parseGeometry_ok (parsed : parseGeometry ofInt store json basePrefix errorPrefix = .ok geometry) :
    geometry.tilePrefix = basePrefix ∧ geometry.levelEntries.length = geometry.levelMetas.length := by
  unfold parseGeometry at parsed
  obtain ⟨multiscales,_,rest⟩ := bind_ok parsed
  obtain ⟨levelMetas,metas,same⟩ := bind_ok rest
  cases same
  exact ⟨rfl,(mapM_ok_iff.mp metas).length_eq⟩

theorem parseGeometry_levels (parsed : parseGeometry ofInt store json basePrefix errorPrefix = .ok geometry)
    (multi : parseMultiscales ofInt json errorPrefix = .ok multiscales) :
    geometry.levelMetas.length = multiscales.levelEntries.length := by
  unfold parseGeometry at parsed
  rw [multi,ok_then] at parsed
  obtain ⟨levelMetas,metas,same⟩ := bind_ok parsed
  cases same
  exact (mapM_ok_iff.mp metas).length_eq.symm

theorem readTileGeometry_ok (ok : readTileGeometry ofInt store tilePrefix = .ok geometry) :
    geometry.tilePrefix = tilePrefix ∧ geometry.levelEntries.length = geometry.levelMetas.length := by
  unfold readTileGeometry at ok
  obtain ⟨json,_,parsed⟩ := bind_ok ok
  exact parseGeometry_ok parsed

theorem storedLevelsOf_ok (ok : storedLevelsOf geometry axes dataType pinned = .ok stored) :
    stored.Sound axes ∧ stored.bindings.length = geometry.levelMetas.length := by
  unfold storedLevelsOf at ok
  split at ok
  · cases ok
  · split at ok
    · cases ok
    · rename_i first rest metas
      obtain ⟨tileType,_,next⟩ := bind_ok ok
      split at next
      · cases next
      · split at next
        · cases next
        · obtain ⟨bindings,built,next⟩ := bind_ok next
          have indices := buildLevelBindingInfos_ok built
          have many := length_of_indices indices
          split at next
          · cases next
          · rename_i nonzero
            cases next
            refine ⟨⟨?_,?_,?_,?_⟩,many⟩
            · rw [← List.length_pos_iff]
              change 0 < bindings.length
              rw [many,metas]
              exact Nat.succ_pos _
            · exact (List.length_map _).trans many.symm
            · rw [← many] at indices
              exact indices
            · intro binding member
              have contains := List.findIdx?_eq_none_iff.mp nonzero binding member
              exact positive_of_nonzero (by simpa using contains)

theorem sound_ofMetas {described : Described} {levelMetas : List ArrayMeta} (sound : described.Sound axes levelMetas)
    (some : levelMetas ≠ []) : (StoredLevels.ofMetas levelMetas described.bindings).Sound axes := by
  have same := sound.agree.same.trans sound.agree.indices
  have many := length_of_indices same
  refine ⟨?_,(List.length_map _).trans sound.many.symm,?_,sound.positive⟩
  · rw [← List.length_pos_iff] at some ⊢
    change 0 < described.bindings.length
    rwa [sound.many]
  · rw [← many] at same
    exact same

theorem describe_some (ok : describe geometry = .ok described) : geometry.levelMetas ≠ [] := by
  intro empty
  unfold describe at ok
  rw [empty] at ok
  cases ok

theorem readStoredGroup_ok {representative : StoredLevels} (sound : representative.Sound axes)
    (ok : readStoredGroup ofInt store representativePrefix representative axes dataType pinned firstPrefix = .ok stored) :
    stored.Sound axes := by
  unfold readStoredGroup at ok
  split at ok
  · cases ok
    exact sound
  · obtain ⟨_,_,levels⟩ := bind_ok ok
    exact (storedLevelsOf_ok levels).1

theorem required_ok {α : Type} {x : Option α} {value : α} (ok : required message x = .ok value) : x = some value := by
  cases x with
  | none => cases ok
  | some _ =>
    cases ok
    rfl

theorem toOption_some {ε α : Type} {outcome : Except ε α} {value : α} (used : outcome.toOption = some value) : outcome = .ok value := by
  cases outcome with
  | error _ => cases used
  | ok _ =>
    cases used
    rfl

theorem selectSharedTileGeometry_some (selected : selectSharedTileGeometry ofInt store prefixes = some geometry) :
    geometry.tilePrefix ∈ prefixes ∧ readTileGeometry ofInt store geometry.tilePrefix = .ok geometry := by
  obtain ⟨tilePrefix,member,found⟩ := List.exists_of_findSome?_eq_some selected
  have read := toOption_some found
  obtain ⟨same,_⟩ := readTileGeometry_ok read
  subst same
  exact ⟨member,read⟩

theorem covering_ok {tiles : List StoredLevels} {declared : DeclaredLevels}
    (ok : DeclaredLevels.covering tiles axes dtypeSize pinned = .ok declared) :
    declared.chunkShapes = (DeclaredLevels.cover tiles).2 ∧
      declared.shapes = (DeclaredLevels.cover tiles).1.take (DeclaredLevels.cover tiles).2.length ∧
      declared.chunkByteLayouts.length = declared.chunkShapes.length := by
  unfold DeclaredLevels.covering at ok
  dsimp only at ok
  obtain ⟨layouts,computed,same⟩ := bind_ok ok
  cases same
  refine ⟨rfl,rfl,?_⟩
  rw [← (mapM_ok_iff.mp computed).length_eq,List.length_zipIdx]

theorem agree_declared {described : Described} {declared : DeclaredLevels} (agree : Agree described.levels described.bindings)
    (even : declared.shapes.length = declared.chunkShapes.length) (short : declared.chunkShapes.length ≤ described.levels.length)
    (positive : ∀ shape ∈ declared.chunkShapes, Positive axes shape)
    (same : bindings.map (·.levelIndex) = (List.range declared.chunkShapes.length).map u32) :
    Agree (List.zipWith (declaredLevel axes) described.levels (declared.shapes.zip declared.chunkShapes)) bindings := by
  have indices : (List.zipWith (declaredLevel axes) described.levels (declared.shapes.zip declared.chunkShapes)).map (·.levelIndex) =
      (List.range declared.chunkShapes.length).map u32 := by
    have own : ∀ level sizes, (declaredLevel axes level sizes).levelIndex = level.levelIndex := fun _ _ => rfl
    rw [map_zipWith_left own,agree.indices,List.length_zip,even,Nat.min_self,← List.map_take,List.take_range,Nat.min_eq_left short]
  refine ⟨?_,?_,same.trans indices.symm⟩
  · rw [length_of_indices indices]
    exact indices
  · intro level member
    obtain ⟨i,there⟩ := List.mem_iff_getElem?.mp member
    obtain ⟨own,sizes,_,second,rfl⟩ := List.getElem?_zipWith_eq_some.mp there
    exact positive _ (List.of_mem_zip (List.mem_of_getElem? second)).2

def usedLevels (ofInt : Int → F64) (store : MetadataStore) (prefixes : List String) (geometry : TileGeometry) (described : Described) :
    List StoredLevels :=
  (prefixes.map (readStoredGroup ofInt store geometry.tilePrefix (.ofMetas geometry.levelMetas described.bindings) geometry.axesNames
    described.dataType described.layout.pinned)).filterMap Except.toOption

theorem usedLevels_sound (selected : selectSharedTileGeometry ofInt store prefixes = some geometry)
    (accepted : describe geometry = .ok described) :
    (∀ tile ∈ usedLevels ofInt store prefixes geometry described, tile.Sound geometry.axesNames) ∧
      StoredLevels.ofMetas geometry.levelMetas described.bindings ∈ usedLevels ofInt store prefixes geometry described := by
  obtain ⟨among,read⟩ := selectSharedTileGeometry_some selected
  have representative := sound_ofMetas (describe_ok (readTileGeometry_ok read).2 accepted) (describe_some accepted)
  constructor
  · intro tile member
    obtain ⟨outcome,there,used⟩ := List.mem_filterMap.mp member
    obtain ⟨firstPrefix,_,rfl⟩ := List.mem_map.mp there
    exact readStoredGroup_ok representative (toOption_some used)
  · exact List.mem_filterMap.mpr ⟨_,List.mem_map.mpr ⟨geometry.tilePrefix,among,if_pos rfl⟩,rfl⟩

theorem shareLevels_covers (ok : shareLevels ofInt store groups = .ok shared) :
    ∃ geometry described declared, selectSharedTileGeometry ofInt store (firstPrefixes groups) = some geometry ∧
      describe geometry = .ok described ∧
      DeclaredLevels.covering (usedLevels ofInt store (firstPrefixes groups) geometry described) geometry.axesNames
        (dataTypeSize described.dataType) described.layout.pinned = .ok declared ∧
      shared = ⟨geometry,described,
        List.zipWith (declaredLevel geometry.axesNames) described.levels (declared.shapes.zip declared.chunkShapes),
        ((firstPrefixes groups).map (readStoredGroup ofInt store geometry.tilePrefix (.ofMetas geometry.levelMetas described.bindings)
          geometry.axesNames described.dataType described.layout.pinned)).map fun stored =>
            declared.bind (stored.toOption.getD (.ofMetas geometry.levelMetas described.bindings))⟩ := by
  unfold shareLevels at ok
  dsimp only at ok
  obtain ⟨geometry,selected,rest⟩ := bind_ok ok
  obtain ⟨described,accepted,rest⟩ := bind_ok rest
  obtain ⟨declared,covered,same⟩ := bind_ok rest
  cases same
  exact ⟨geometry,described,declared,required_ok selected,accepted,covered,rfl⟩

theorem covered_lengths (selected : selectSharedTileGeometry ofInt store prefixes = some geometry)
    (accepted : describe geometry = .ok described)
    (covered : DeclaredLevels.covering (usedLevels ofInt store prefixes geometry described) geometry.axesNames dtypeSize pinned =
      .ok declared) :
    declared.shapes.length = declared.chunkShapes.length ∧ declared.chunkShapes.length ≤ described.levels.length := by
  obtain ⟨sound,own⟩ := usedLevels_sound selected accepted
  have covers := cover_covers (List.ne_nil_of_mem own) sound
  obtain ⟨chunkShapes,shapes,_⟩ := covering_ok covered
  have described_ok := describe_ok (readTileGeometry_ok (selectSharedTileGeometry_some selected).2).2 accepted
  constructor
  · rw [shapes,List.length_take,covers.even,Nat.min_self,chunkShapes]
  · rw [← length_of_indices (described_ok.agree.same.trans described_ok.agree.indices),chunkShapes]
    exact covers.short _ own

theorem shareLevels_ok (ok : shareLevels ofInt store groups = .ok shared) :
    shared.stored.length = (firstPrefixes groups).length ∧ ∀ stored ∈ shared.stored, Agree shared.levels stored := by
  obtain ⟨geometry,described,declared,selected,accepted,covered,rfl⟩ := shareLevels_covers ok
  obtain ⟨used,own⟩ := usedLevels_sound selected accepted
  have covers := cover_covers (List.ne_nil_of_mem own) used
  obtain ⟨chunkShapes,_,layouts⟩ := covering_ok covered
  obtain ⟨even,fewer⟩ := covered_lengths selected accepted covered
  have described_ok := describe_ok (readTileGeometry_ok (selectSharedTileGeometry_some selected).2).2 accepted
  refine ⟨?_,?_⟩
  · rw [List.length_map,List.length_map]
  · intro stored member
    obtain ⟨outcome,there,rfl⟩ := List.mem_map.mp member
    have among : outcome.toOption.getD (.ofMetas geometry.levelMetas described.bindings) ∈
        usedLevels ofInt store (firstPrefixes groups) geometry described := by
      cases kept : outcome.toOption with
      | none => exact own
      | some tile => exact List.mem_filterMap.mpr ⟨outcome,there,kept⟩
    have short := covers.short _ among
    rw [← chunkShapes] at short
    have same := map_levelIndex_bind (used _ among) layouts short
    refine agree_declared described_ok.agree even fewer ?_ same
    rw [chunkShapes]
    exact covers.positive

-- The first tile of a group, when it can be served at the axes and the data type of the first one that can be read.
structure Served (ofInt : Int → F64) (store : MetadataStore) (prefixes : List String) (tilePrefix : String) (geometry : TileGeometry) :
    Prop where
  first : tilePrefix ∈ prefixes
  read : readTileGeometry ofInt store tilePrefix = .ok geometry
  fits : ∀ representative described, selectSharedTileGeometry ofInt store prefixes = some representative →
    describe representative = .ok described → tilePrefix = representative.tilePrefix ∨
      (storedLevelsOf geometry representative.axesNames described.dataType described.layout.pinned).toBool

theorem mem_usedLevels_iff (selected : selectSharedTileGeometry ofInt store prefixes = some representative)
    (accepted : describe representative = .ok described) (count : Nat) :
    (∃ tile ∈ usedLevels ofInt store prefixes representative described, tile.bindings.length = count) ↔
      ∃ tilePrefix geometry, Served ofInt store prefixes tilePrefix geometry ∧ geometry.levelEntries.length = count := by
  obtain ⟨among,own⟩ := selectSharedTileGeometry_some selected
  have many : (StoredLevels.ofMetas representative.levelMetas described.bindings).bindings.length = representative.levelEntries.length :=
    (describe_ok (readTileGeometry_ok own).2 accepted).many.trans (readTileGeometry_ok own).2.symm
  constructor
  · rintro ⟨tile,member,rfl⟩
    obtain ⟨outcome,there,used⟩ := List.mem_filterMap.mp member
    obtain ⟨tilePrefix,listed,rfl⟩ := List.mem_map.mp there
    replace used := toOption_some used
    unfold readStoredGroup at used
    split at used
    · rename_i same
      cases used
      exact ⟨tilePrefix,representative,⟨listed,same ▸ own,fun other _ chosen _ => by
        rw [selected] at chosen
        cases chosen
        exact .inl same⟩,many.symm⟩
    · obtain ⟨geometry,read,levels⟩ := bind_ok used
      refine ⟨tilePrefix,geometry,⟨listed,read,fun other accepted' chosen described' => ?_⟩,?_⟩
      · rw [selected] at chosen
        cases chosen
        rw [accepted] at described'
        cases described'
        right
        rw [levels]
        rfl
      · rw [(storedLevelsOf_ok levels).2,(readTileGeometry_ok read).2]
  · rintro ⟨tilePrefix,geometry,served,rfl⟩
    by_cases same : tilePrefix = representative.tilePrefix
    · have geometries := served.read
      rw [same,own] at geometries
      cases geometries
      exact ⟨_,(usedLevels_sound selected accepted).2,many⟩
    · have fits := (served.fits representative described selected accepted).resolve_left same
      cases levels : storedLevelsOf geometry representative.axesNames described.dataType described.layout.pinned with
      | error error =>
        rw [levels] at fits
        cases fits
      | ok stored =>
        refine ⟨stored,List.mem_filterMap.mpr ⟨.ok stored,List.mem_map.mpr ⟨tilePrefix,served.first,?_⟩,rfl⟩,?_⟩
        · rw [readStoredGroup,if_neg same,served.read]
          exact levels
        · rw [(storedLevelsOf_ok levels).2,(readTileGeometry_ok served.read).2]

theorem shareLevels_le_iff (ok : shareLevels ofInt store groups = .ok shared) (limit : Nat) :
    shared.levels.length ≤ limit ↔ ∃ tilePrefix geometry, Served ofInt store (firstPrefixes groups) tilePrefix geometry ∧
      geometry.levelEntries.length ≤ limit := by
  obtain ⟨geometry,described,declared,selected,accepted,covered,rfl⟩ := shareLevels_covers ok
  obtain ⟨used,own⟩ := usedLevels_sound selected accepted
  have covers := cover_covers (List.ne_nil_of_mem own) used
  obtain ⟨chunkShapes,_,_⟩ := covering_ok covered
  obtain ⟨even,fewer⟩ := covered_lengths selected accepted covered
  have length : (List.zipWith (declaredLevel geometry.axesNames) described.levels (declared.shapes.zip declared.chunkShapes)).length =
      (DeclaredLevels.cover (usedLevels ofInt store (firstPrefixes groups) geometry described)).2.length := by
    rw [List.length_zipWith,List.length_zip,even,Nat.min_self,Nat.min_eq_right fewer,chunkShapes]
  have tiles := mem_usedLevels_iff selected accepted
  rw [length]
  constructor
  · intro few
    obtain ⟨least,member,fewest⟩ := covers.least
    obtain ⟨tilePrefix,own,served,same⟩ := (tiles _).mp ⟨least,member,rfl⟩
    exact ⟨tilePrefix,own,served,by omega⟩
  · rintro ⟨tilePrefix,own,served,few⟩
    obtain ⟨tile,member,same⟩ := (tiles _).mpr ⟨tilePrefix,own,served,rfl⟩
    have := covers.short tile member
    omega

end Shared
end Lucida.Store
