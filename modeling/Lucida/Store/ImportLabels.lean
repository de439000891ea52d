import Lucida.Store.LevelAgreement

namespace Lucida.Store
open Content Lib

section Labels
variable {ofInt : Int → F64} {store : MetadataStore} {source : ImageId} {owner : EntityId}

structure LabelOf (source : ImageId) (owner : EntityId) (label : BuiltLabel) : Prop where
  imageId : label.spec.image.imageId = source ++ ":label:" ++ label.spec.name
  binding : label.binding.imageId = label.spec.image.imageId
  owner : label.spec.image.owner = owner
  agree : Agree label.spec.image.multiscale.levels label.binding.levels

theorem buildLabel_ok (ok : buildLabel ofInt store labelsPrefix name source owner = .ok label) :
    LabelOf source owner label ∧ label.spec.name = name := by
  unfold buildLabel at ok
  dsimp only at ok
  obtain ⟨json,_,rest⟩ := bind_ok ok
  obtain ⟨geometry,parsed,rest⟩ := bind_ok rest
  obtain ⟨described,accepted,same⟩ := bind_ok rest
  cases same
  exact ⟨⟨rfl,rfl,rfl,(describe_ok (parseGeometry_ok parsed).2 accepted).agree⟩,rfl⟩

theorem LabelOf.charge {label : BuiltLabel} (built : LabelOf source owner label) (budget : LabelBudget) :
    LabelOf source owner (label.charge budget).1 := ⟨built.imageId,built.binding,built.owner,built.agree⟩

def labelsUnder (imagePath : String) : String := if imagePath = "" then "labels" else imagePath ++ "/labels"

def labelGeometry (ofInt : Int → F64) (store : MetadataStore) (label : String × String) : Except ImportError TileGeometry := do
  let groupPrefix := labelsUnder label.1 ++ "/" ++ label.2
  let groupJson ← readZarrJson store (groupPrefix ++ "/zarr.json")
  parseGeometry ofInt store groupJson groupPrefix ("label " ++ label.2.quote ++ ": ")

def Readable (ofInt : Int → F64) (store : MetadataStore) (label : String × String) : Bool :=
  (labelGeometry ofInt store label >>= describe).toBool

def keptLabels (ofInt : Int → F64) (store : MetadataStore) (found : List (String × String)) : List (String × String) :=
  (found.filter (Readable ofInt store)).take (2^16)

def FewLabelLevels (ofInt : Int → F64) (store : MetadataStore) (labels : List (String × String)) : Prop :=
  ∀ label ∈ labels, ∀ geometry, labelGeometry ofInt store label = .ok geometry → geometry.levelEntries.length ≤ 2^32

theorem buildLabel_iff (imagePath name : String) : Readable ofInt store (imagePath,name) = true ↔
    ∃ label, buildLabel ofInt store (labelsUnder imagePath) name source owner = .ok label := by
  constructor
  · intro readable
    cases read : labelGeometry ofInt store (imagePath,name) >>= describe with
    | error error =>
      rw [Readable,read] at readable
      cases readable
    | ok described =>
      obtain ⟨geometry,parsed,accepted⟩ := bind_ok read
      obtain ⟨json,root,geometries⟩ := bind_ok parsed
      unfold buildLabel
      dsimp only at root geometries ⊢
      rw [root,ok_then,geometries,ok_then,accepted,ok_then]
      exact ⟨_,rfl⟩
  · rintro ⟨label,built⟩
    obtain ⟨json,root,rest⟩ := bind_ok built
    obtain ⟨geometry,parsed,rest⟩ := bind_ok rest
    obtain ⟨described,accepted,_⟩ := bind_ok rest
    unfold Readable labelGeometry
    dsimp only at root parsed ⊢
    rw [root,ok_then,parsed,ok_then,accepted]
    rfl

theorem buildLabel_levels (built : buildLabel ofInt store (labelsUnder imagePath) name source owner = .ok label) :
    ∃ geometry, labelGeometry ofInt store (imagePath,name) = .ok geometry ∧
      label.spec.image.multiscale.levels.length = geometry.levelEntries.length := by
  obtain ⟨json,root,rest⟩ := bind_ok built
  obtain ⟨geometry,parsed,rest⟩ := bind_ok rest
  obtain ⟨described,accepted,same⟩ := bind_ok rest
  cases same
  have each := (parseGeometry_ok parsed).2
  have sound := describe_ok each accepted
  refine ⟨geometry,?_,?_⟩
  · unfold labelGeometry
    dsimp only at root ⊢
    rw [root,ok_then]
    exact parsed
  · exact (length_of_indices (sound.agree.same.trans sound.agree.indices)).symm.trans (sound.many.trans each.symm)

structure LabelsKept (ofInt : Int → F64) (store : MetadataStore) (source : ImageId) (owner : EntityId) (imagePath : String)
    (labels : List BuiltLabel) : Prop where
  built : ∀ label ∈ labels, LabelOf source owner label
  levels : ∀ label ∈ labels, ∃ geometry, labelGeometry ofInt store (imagePath,label.spec.name) = .ok geometry ∧
    label.spec.image.multiscale.levels.length = geometry.levelEntries.length

theorem buildLabelsWithinBudget_kept (imagePath : String) (budget : LabelBudget) (names : List String) :
    let kept := buildLabelsWithinBudget ofInt store (labelsUnder imagePath) source owner budget names
    let readable := names.filter fun name => Readable ofInt store (imagePath,name)
    LabelsKept ofInt store source owner imagePath kept.1 ∧
      kept.1.map (·.spec.name) = readable.take budget.labelsRemaining ∧
      kept.2.labelsRemaining = budget.labelsRemaining-readable.length := by
  induction names generalizing budget with
  | nil => exact ⟨⟨by simp [buildLabelsWithinBudget],by simp [buildLabelsWithinBudget]⟩,List.take_nil.symm,rfl⟩
  | cons name names ih =>
    unfold buildLabelsWithinBudget
    dsimp only
    split
    · rename_i spent
      rw [spent]
      exact ⟨⟨by simp,by simp⟩,List.take_zero.symm,(Nat.zero_sub _).symm⟩
    · rename_i room
      split
      · rename_i error failed
        have unreadable : ¬Readable ofInt store (imagePath,name) = true := by
          rw [@buildLabel_iff ofInt store source owner,failed]
          simp
        rw [List.filter_cons_of_neg (p := fun name => Readable ofInt store (imagePath,name)) unreadable]
        exact ih budget
      · rename_i label built
        have readable : Readable ofInt store (imagePath,name) = true := (buildLabel_iff imagePath name).mpr ⟨label,built⟩
        obtain ⟨first,named⟩ := buildLabel_ok built
        obtain ⟨rest,taken,left⟩ := ih (label.charge budget).2
        rw [List.filter_cons_of_pos (p := fun name => Readable ofInt store (imagePath,name)) readable]
        dsimp only at rest taken left ⊢
        refine ⟨⟨List.forall_mem_cons.mpr ⟨first.charge budget,rest.built⟩,List.forall_mem_cons.mpr ⟨?_,rest.levels⟩⟩,?_,?_⟩
        · obtain ⟨geometry,read,levels⟩ := buildLabel_levels built
          refine ⟨geometry,?_,levels⟩
          rw [show (label.charge budget).1.spec.name = name from named]
          exact read
        · rw [List.map_cons,taken,show (label.charge budget).1.spec.name = name from named]
          obtain ⟨remaining,more⟩ := Nat.exists_eq_succ_of_ne_zero room
          rw [more,List.take_succ_cons]
          congr 2
          show budget.labelsRemaining-1 = remaining
          omega
        · rw [left,List.length_cons]
          show budget.labelsRemaining-1-_ = budget.labelsRemaining-(_+1)
          omega

theorem LabelsKept.few_iff {labels : List BuiltLabel} (kept : LabelsKept ofInt store source owner imagePath labels) :
    (∀ label ∈ labels, label.spec.image.multiscale.levels.length ≤ 2^32) ↔
      FewLabelLevels ofInt store (labels.map fun label => (imagePath,label.spec.name)) := by
  unfold FewLabelLevels
  rw [List.forall_mem_map]
  constructor
  · intro few label member geometry read
    obtain ⟨own,read',levels⟩ := kept.levels label member
    rw [read'] at read
    cases read
    exact levels ▸ few label member
  · intro few label member
    obtain ⟨geometry,read,levels⟩ := kept.levels label member
    exact levels ▸ few label member geometry read

theorem probed_labelsPrefix (store : MetadataStore) (imagePath : String) :
    (probeLabelsForImage store imagePath).labelsPrefix = labelsUnder imagePath := by
  unfold probeLabelsForImage
  dsimp only
  split <;> rfl

theorem nodup_labelNames {names : List String} (distinct : names.Nodup) (entries : List Json) : (labelNames names entries).Nodup := by
  induction entries generalizing names with
  | nil => exact distinct
  | cons entry rest ih =>
    unfold labelNames
    split
    · exact ih distinct
    · rename_i name _
      split
      · exact ih distinct
      · rename_i fresh
        have new : name ∉ names := by
          intro member
          exact fresh (by simp [member])
        have distinct' : (names ++ [name]).Nodup := by
          rw [List.nodup_append]
          refine ⟨distinct,List.nodup_singleton _,?_⟩
          intro other there last here same
          rw [List.mem_singleton.mp here] at same
          exact new (same ▸ there)
        split
        · exact distinct'
        · exact ih distinct'

theorem nodup_probed (store : MetadataStore) (basePrefix : String) : (probeLabelsForImage store basePrefix).names.Nodup := by
  unfold probeLabelsForImage
  dsimp only
  split
  · exact List.nodup_nil
  · exact List.nodup_nil
  · exact nodup_labelNames List.nodup_nil _

end Labels

section Tiles
variable {ofInt : Int → F64} {store : MetadataStore} {id : String} {groups : List GroupParsed}

def labelPath (label : String × String) : String := label.1 ++ ":label:" ++ label.2

theorem map_fst_buildTileLabels (budget : LabelBudget) (rows : List (TileParsed × Option ProbedLabels)) :
    (buildTileLabels ofInt store id budget rows).map Prod.fst = rows.map Prod.fst := by
  induction rows generalizing budget with
  | nil => rfl
  | cons row rows ih =>
    rw [buildTileLabels,List.map_cons,ih]
    rfl

def labelsFound (rows : List (String × Option ProbedLabels)) : List (String × String) :=
  rows.flatMap fun row => ((row.2.map ProbedLabels.names).getD []).map (row.1,·)

def labelPairs (labelled : List (TileParsed × List BuiltLabel)) : List (String × String) :=
  labelled.flatMap fun tile => tile.2.map fun label => (tile.1.storePrefix,label.spec.name)

def Probed (store : MetadataStore) (rows : List (String × Option ProbedLabels)) : Prop :=
  ∀ row ∈ rows, ∀ probed, row.2 = some probed → probed = probeLabelsForImage store row.1

def byPath (rows : List (TileParsed × Option ProbedLabels)) : List (String × Option ProbedLabels) :=
  rows.map fun row => (row.1.storePrefix,row.2)

-- Tile by tile, the budget goes on from what the tiles before left of it.
theorem buildTileLabels_kept (budget : LabelBudget) (rows : List (TileParsed × Option ProbedLabels)) (probed : Probed store (byPath rows)) :
    (∀ tile ∈ buildTileLabels ofInt store id budget rows,
      LabelsKept ofInt store (tileImageId id tile.1) (tileEntityId id tile.1) tile.1.storePrefix tile.2) ∧
      labelPairs (buildTileLabels ofInt store id budget rows) =
        ((labelsFound (byPath rows)).filter (Readable ofInt store)).take budget.labelsRemaining := by
  induction rows generalizing budget with
  | nil => exact ⟨fun tile member => (List.not_mem_nil member).elim,List.take_nil.symm⟩
  | cons row rows ih =>
    obtain ⟨tile,slot⟩ := row
    rw [buildTileLabels]
    dsimp only
    have own : ∃ names, (slot.map ProbedLabels.names).getD [] = names ∧
        buildLabelsWithinBudget ofInt store (slot.getD ⟨tile.storePrefix ++ "/labels",[],.absent⟩).labelsPrefix (tileImageId id tile)
            (tileEntityId id tile) budget (slot.getD ⟨tile.storePrefix ++ "/labels",[],.absent⟩).names =
          buildLabelsWithinBudget ofInt store (labelsUnder tile.storePrefix) (tileImageId id tile) (tileEntityId id tile) budget names := by
      cases slot with
      | none => exact ⟨[],rfl,rfl⟩
      | some found =>
        have same : found = probeLabelsForImage store tile.storePrefix := probed (tile.storePrefix,some found) List.mem_cons_self found rfl
        subst same
        refine ⟨_,rfl,?_⟩
        rw [← probed_labelsPrefix store tile.storePrefix]
        rfl
    obtain ⟨names,listed,built⟩ := own
    rw [built]
    obtain ⟨kept,taken,left⟩ := @buildLabelsWithinBudget_kept ofInt store (tileImageId id tile) (tileEntityId id tile) tile.storePrefix
      budget names
    obtain ⟨rest,pairs⟩ := ih (buildLabelsWithinBudget ofInt store (labelsUnder tile.storePrefix) (tileImageId id tile)
      (tileEntityId id tile) budget names).2 fun other member => probed other (List.mem_cons_of_mem _ member)
    refine ⟨List.forall_mem_cons.mpr ⟨kept,rest⟩,?_⟩
    have first : (buildLabelsWithinBudget ofInt store (labelsUnder tile.storePrefix) (tileImageId id tile) (tileEntityId id tile) budget
        names).1.map (fun label => (tile.storePrefix,label.spec.name)) =
        ((names.map (tile.storePrefix,·)).filter (Readable ofInt store)).take budget.labelsRemaining := by
      rw [List.filter_map,← List.map_take]
      refine Eq.trans ?_ (congrArg (List.map (tile.storePrefix,·)) taken)
      rw [List.map_map]
      rfl
    have found : labelsFound (byPath ((tile,slot)::rows)) = names.map (tile.storePrefix,·) ++ labelsFound (byPath rows) := by
      rw [← listed]
      rfl
    have size : ((names.map (tile.storePrefix,·)).filter (Readable ofInt store)).length =
        (names.filter fun name => Readable ofInt store (tile.storePrefix,name)).length := by
      rw [List.filter_map,List.length_map]
      rfl
    unfold labelPairs at pairs ⊢
    rw [List.flatMap_cons,first,pairs,left,found,List.filter_append,List.take_append,size]

theorem length_probeLabelsForTiles {prefixes : List String} {slots : ProbedSlots} (even : slots.length = prefixes.length)
    (indices : List Nat) : (probeLabelsForTiles store prefixes indices slots).length = prefixes.length := by
  rw [probeLabelsForTiles,List.length_map,List.length_zipIdx,List.length_zip,even,Nat.min_self]

theorem probed_probeLabelsForTiles {prefixes : List String} {slots : ProbedSlots} (before : Probed store (prefixes.zip slots))
    (indices : List Nat) : Probed store (prefixes.zip (probeLabelsForTiles store prefixes indices slots)) := by
  intro row member probed found
  obtain ⟨i,there⟩ := List.mem_iff_getElem?.mp member
  obtain ⟨first,second⟩ := List.getElem?_zip_eq_some.mp there
  unfold probeLabelsForTiles at second
  rw [List.getElem?_map,List.getElem?_zipIdx,Option.map_map] at second
  obtain ⟨⟨path,slot⟩,pair,same⟩ := Option.map_eq_some_iff.mp second
  have path_eq : path = row.1 := Option.some.inj ((List.getElem?_zip_eq_some.mp pair).1.symm.trans first)
  subst path_eq
  simp only [Function.comp_apply] at same
  split at same
  · rw [found] at same
    exact (Option.some.inj same).symm
  · rw [found] at same
    exact before (row.1,slot) (List.mem_of_getElem? pair) probed same

theorem probed_discoverLabels (groups : List GroupParsed) (forceExhaustive : Bool) :
    Probed store (((groups.flatMap GroupParsed.tiles).map TileParsed.storePrefix).zip (discoverLabels store groups forceExhaustive)) := by
  have none : ∀ prefixes : List String, Probed store (prefixes.zip (prefixes.map fun _ => none)) := by
    intro prefixes row member probed found
    obtain ⟨path,_,same⟩ := List.mem_map.mp (List.of_mem_zip member).2
    rw [← same] at found
    cases found
  unfold discoverLabels
  dsimp only
  split
  · exact probed_probeLabelsForTiles (none _) _
  · exact probed_probeLabelsForTiles (probed_probeLabelsForTiles (none _) _) _

theorem length_discoverLabels (forceExhaustive : Bool) :
    (discoverLabels store groups forceExhaustive).length = (groups.flatMap GroupParsed.tiles).length := by
  have prefixes : ((groups.flatMap GroupParsed.tiles).map TileParsed.storePrefix).length = (groups.flatMap GroupParsed.tiles).length :=
    List.length_map _
  rw [← prefixes]
  unfold discoverLabels
  dsimp only
  split
  · exact length_probeLabelsForTiles (List.length_map _) _
  · exact length_probeLabelsForTiles (length_probeLabelsForTiles (List.length_map _) _) _

theorem map_fst_plateLabels (forceExhaustive : Bool) :
    (plateLabels ofInt store id groups forceExhaustive).map Prod.fst = groups.flatMap GroupParsed.tiles := by
  rw [plateLabels,map_fst_buildTileLabels,List.map_fst_zip (Nat.le_of_eq (length_discoverLabels _).symm)]

theorem nodup_labelsFound {rows : List (String × Option ProbedLabels)} (probed : Probed store rows)
    (distinct : (rows.map Prod.fst).Nodup) : (labelsFound rows).Nodup := by
  unfold labelsFound
  rw [List.nodup_flatMap]
  constructor
  · intro row member
    cases found : row.2 with
    | none => exact List.nodup_nil
    | some listed =>
      rw [probed row member listed found]
      exact (nodup_probed store row.1).map fun _ _ same => (Prod.mk.inj same).2
  · refine (List.pairwise_map.mp distinct).imp fun other label here there => ?_
    obtain ⟨_,_,rfl⟩ := List.mem_map.mp here
    obtain ⟨_,_,same⟩ := List.mem_map.mp there
    exact other (Prod.mk.inj same).1.symm

end Tiles
end Lucida.Store
