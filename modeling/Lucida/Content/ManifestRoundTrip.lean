import Lucida.Content.ManifestEquality

namespace Lucida.Content.Graph
open Lib

section Numbers

def matrixNumbers (matrix : Matrix F64) : List F64 := matrix.toList.flatMap Quad.toList

def layoutNumbers (layout : LayoutSpec F64) : List F64 :=
  layout.placements.flatMap fun placement => [placement.position.1,placement.position.2]

def DatasetManifest.numbers (manifest : DatasetManifest F64) : List F64 :=
  manifest.transforms.flatMap (fun edge => matrixNumbers edge.transform) ++
    manifest.images.flatMap (fun image => image.multiscale.numbers) ++
    manifest.sourceLayouts.flatMap layoutNumbers ++
    manifest.labels.flatMap fun label => label.image.multiscale.numbers

-- JSON gives the number back as it was.
def NumberCodec.Carries {N : Type} (codec : NumberCodec N) (x : F64) : Prop := codec.read (codec.write x) = some x

end Numbers

section Fields
variable {N : Type} {codec : NumberCodec N} {x : F64}

theorem NumberCodec.Carries.number (carried : codec.Carries x) : x.isNan = false :=
  F64.isNan_of_finite (codec.finite _ _ carried)

theorem carries_of_again {a y : F64} (again : codec.read (codec.write a) = some y) (same : y.eq x) (like : a.eq x) :
    codec.Carries x := by
  unfold NumberCodec.Carries
  obtain ⟨_,_,alike⟩ := F64.eq_iff.mp like
  obtain ⟨_,_,alike'⟩ := F64.eq_iff.mp same
  by_cases small : x.isZero
  · rcases F64.zero_or_negZero small with rfl | rfl
    · exact codec.zero
    · exact codec.negZero
  · rcases alike with rfl | ⟨_,zero⟩
    · rcases alike' with rfl | ⟨_,zero⟩
      · exact again
      · exact absurd zero small
    · exact absurd zero small

theorem axesTraverse_some {α β : Type} {f : α → Option β} {axes : Axes α} {values : Axes β} :
    axesTraverse f axes = some values ↔ f axes.t = some values.t ∧ f axes.c = some values.c ∧ f axes.z = some values.z ∧
      f axes.y = some values.y ∧ f axes.x = some values.x := by
  unfold axesTraverse
  constructor
  · intro read
    obtain ⟨t,ht,read⟩ := Option.bind_eq_some_iff.mp read
    obtain ⟨c,hc,read⟩ := Option.bind_eq_some_iff.mp read
    obtain ⟨z,hz,read⟩ := Option.bind_eq_some_iff.mp read
    obtain ⟨y,hy,read⟩ := Option.bind_eq_some_iff.mp read
    obtain ⟨x,hx,read⟩ := Option.bind_eq_some_iff.mp read
    cases read
    exact ⟨ht,hc,hz,hy,hx⟩
  · rintro ⟨t,c,z,y,x⟩
    rw [t,c,z,y,x]
    rfl

theorem quadTraverse_some {α β : Type} {f : α → Option β} {quad : Quad α} {values : Quad β} :
    Quad.traverse f quad = some values ↔ f quad.a = some values.a ∧ f quad.b = some values.b ∧ f quad.c = some values.c ∧
      f quad.d = some values.d := by
  unfold Quad.traverse
  constructor
  · intro read
    obtain ⟨a,ha,read⟩ := Option.bind_eq_some_iff.mp read
    obtain ⟨b,hb,read⟩ := Option.bind_eq_some_iff.mp read
    obtain ⟨c,hc,read⟩ := Option.bind_eq_some_iff.mp read
    obtain ⟨d,hd,read⟩ := Option.bind_eq_some_iff.mp read
    cases read
    exact ⟨ha,hb,hc,hd⟩
  · rintro ⟨a,b,c,d⟩
    rw [a,b,c,d]
    rfl

theorem pairRead_some {read : N → Option F64} {pair : N × N} {values : F64 × F64} :
    pairRead read pair = some values ↔ read pair.1 = some values.1 ∧ read pair.2 = some values.2 := by
  unfold pairRead
  constructor
  · intro done
    obtain ⟨first,hf,done⟩ := Option.bind_eq_some_iff.mp done
    obtain ⟨second,hs,done⟩ := Option.bind_eq_some_iff.mp done
    cases done
    exact ⟨hf,hs⟩
  · rintro ⟨first,second⟩
    rw [first,second]
    rfl

theorem forall_axesList {p : F64 → Prop} {scale : Axes F64} :
    (∀ x ∈ axesList scale, p x) ↔ p scale.t ∧ p scale.c ∧ p scale.z ∧ p scale.y ∧ p scale.x := by
  simp only [axesList,List.forall_mem_cons,List.not_mem_nil,false_implies,implies_true,and_true]

theorem forall_quadList {α : Type} {p : α → Prop} {quad : Quad α} :
    (∀ x ∈ quad.toList, p x) ↔ p quad.a ∧ p quad.b ∧ p quad.c ∧ p quad.d := by
  simp only [Quad.toList,List.forall_mem_cons,List.not_mem_nil,false_implies,implies_true,and_true]

end Fields

section Multiscales
variable {N : Type} {codec : NumberCodec N} {info a y : MultiscaleInfo F64}

def levelAgain (codec : NumberCodec N) (level : LevelGeometry F64) : Option (LevelGeometry F64) :=
  levelRead codec.read (levelDocument codec.write level)

def multiscaleAgain (codec : NumberCodec N) (info : MultiscaleInfo F64) : Option (MultiscaleInfo F64) :=
  (info.serialize codec.write).deserialize codec.read

theorem levelAgain_eq (level : LevelGeometry F64) : levelAgain codec level =
    (axesTraverse codec.read (axesMap codec.write level.scale)).map fun scale => { level with scale } := rfl

theorem levelAgain_carried {level : LevelGeometry F64} (carried : ∀ x ∈ axesList level.scale, codec.Carries x) :
    levelAgain codec level = some level := by
  have scale : axesTraverse codec.read (axesMap codec.write level.scale) = some level.scale :=
    axesTraverse_some.mpr (forall_axesList.mp carried)
  rw [levelAgain_eq,scale]
  rfl

theorem carried_of_levelAgain {first again level : LevelGeometry F64} (done : levelAgain codec first = some again)
    (same : levelEq again level) (like : levelEq first level) : ∀ x ∈ axesList level.scale, codec.Carries x := by
  rw [levelAgain_eq] at done
  obtain ⟨scale,read,rfl⟩ := Option.map_eq_some_iff.mp done
  obtain ⟨t,c,z,y,x⟩ := axesTraverse_some.mp read
  obtain ⟨t',c',z',y',x'⟩ := axesAll2_iff.mp (levelEq_iff.mp same).1
  obtain ⟨t'',c'',z'',y'',x''⟩ := axesAll2_iff.mp (levelEq_iff.mp like).1
  exact forall_axesList.mpr ⟨carries_of_again t t' t'',carries_of_again c c' c'',carries_of_again z z' z'',
    carries_of_again y y' y'',carries_of_again x x' x''⟩

theorem getD_unless_nil {α β : Type} (items : List α) (f : α → β) :
    (if items = [] then none else some (items.map f)).getD [] = items.map f := by
  split
  · rename_i empty
    rw [empty]
    rfl
  · rfl

-- Only the numbers can come back other than they were.
theorem multiscaleAgain_eq (info : MultiscaleInfo F64) :
    multiscaleAgain codec info = (info.levels.mapM (levelAgain codec)).map fun levels => { info with levels } := by
  have generated : ((if info.generatedLevels = [] then none else some (info.generatedLevels.map generatedLevelDocument)).getD []).map
      generatedLevelOf = info.generatedLevels := by
    rw [getD_unless_nil,List.map_map]
    exact List.map_id _
  have channels : (if info.channelInfos = [] then none else some info.channelInfos).getD [] = info.channelInfos := by
    have mapped := getD_unless_nil info.channelInfos id
    rwa [List.map_id] at mapped
  unfold multiscaleAgain MultiscaleDocument.deserialize MultiscaleInfo.serialize
  dsimp only
  rw [generated,channels,List.mapM_map]
  rfl

theorem multiscaleAgain_carried (carried : ∀ x ∈ info.numbers, codec.Carries x) : multiscaleAgain codec info = some info := by
  have levels : info.levels.mapM (levelAgain codec) = some (info.levels.map id) := by
    refine mapM_some_map fun level member => levelAgain_carried fun x here => ?_
    exact carried x (List.mem_flatMap.mpr ⟨level,member,here⟩)
  rw [multiscaleAgain_eq,levels,List.map_id]
  rfl

theorem multiscaleAgain_some (done : multiscaleAgain codec a = some y) :
    y = { a with levels := y.levels } ∧ List.Forall₂ (fun level again => levelAgain codec level = some again) a.levels y.levels := by
  rw [multiscaleAgain_eq] at done
  obtain ⟨levels,read,rfl⟩ := Option.map_eq_some_iff.mp done
  exact ⟨rfl,mapM_some_iff.mp read⟩

theorem carried_of_multiscaleAgain (done : multiscaleAgain codec a = some y) (same : y.eq info) (like : a.eq info) :
    ∀ x ∈ info.numbers, codec.Carries x := by
  obtain ⟨_,reads⟩ := multiscaleAgain_some done
  have sames := listEq_iff.mp (MultiscaleInfo.eq_iff.mp same).1
  have likes := listEq_iff.mp (MultiscaleInfo.eq_iff.mp like).1
  unfold MultiscaleInfo.numbers
  generalize info.levels = levels at sames likes
  generalize y.levels = agains at reads sames
  generalize a.levels = firsts at reads likes
  induction reads generalizing levels with
  | nil =>
    cases likes
    intro x member
    cases member
  | cons read _ ih =>
    cases sames with
    | cons same sames =>
      cases likes with
      | cons like likes =>
        intro x member
        rw [List.flatMap_cons] at member
        rcases List.mem_append.mp member with here | later
        · exact carried_of_levelAgain read same like x here
        · exact ih _ sames likes x later

end Multiscales

section Transforms
variable {N : Type} {codec : NumberCodec N} {matrix other : Matrix F64} {edge : TransformEdge F64}

theorem Matrix.eq_symm (same : Matrix.eq matrix other) : Matrix.eq other matrix := by
  have flip : ∀ column column' : Quad F64, Quad.all2 F64.eq column column' → Quad.all2 F64.eq column' column := by
    intro column column' alike
    obtain ⟨a,b,c,d⟩ := quadAll2_iff.mp alike
    exact quadAll2_iff.mpr ⟨F64.eq_symm a,F64.eq_symm b,F64.eq_symm c,F64.eq_symm d⟩
  obtain ⟨a,b,c,d⟩ := quadAll2_iff.mp same
  exact quadAll2_iff.mpr ⟨flip _ _ a,flip _ _ b,flip _ _ c,flip _ _ d⟩

theorem Matrix.eq_self (numbers : ∀ x ∈ matrixNumbers matrix, x.isNan = false) : Matrix.eq matrix matrix := by
  refine quadAll2_self fun column member => quadAll2_self fun x here => F64.eq_self ?_
  exact numbers x (List.mem_flatMap.mpr ⟨column,member,here⟩)

theorem asVoxelTranslation2d_some (found : asVoxelTranslation2d matrix = some (tx,ty)) :
    Matrix.eq matrix (translation2d tx ty) ∧ tx = matrix.d.a ∧ ty = matrix.d.b := by
  unfold asVoxelTranslation2d at found
  split at found
  · rename_i same
    cases found
    exact ⟨same,rfl,rfl⟩
  · cases found

theorem asVoxelTranslation2d_translation2d (found : asVoxelTranslation2d matrix = some (tx,ty)) :
    asVoxelTranslation2d (translation2d tx ty) = some (tx,ty) := by
  obtain ⟨same,rfl,rfl⟩ := asVoxelTranslation2d_some found
  obtain ⟨_,_,_,last⟩ := quadAll2_iff.mp same
  obtain ⟨across,down,_,_⟩ := quadAll2_iff.mp last
  have whole : Matrix.eq (translation2d matrix.d.a matrix.d.b) (translation2d matrix.d.a matrix.d.b) := by
    have zero : F64.zero.eq .zero := by decide
    have one : F64.one.eq .one := by decide
    exact quadAll2_iff.mpr ⟨quadAll2_iff.mpr ⟨one,zero,zero,zero⟩,quadAll2_iff.mpr ⟨zero,one,zero,zero⟩,
      quadAll2_iff.mpr ⟨zero,zero,one,zero⟩,quadAll2_iff.mpr ⟨across,down,zero,one⟩⟩
  exact if_pos whole

def settledEdge (edge : TransformEdge F64) : TransformEdge F64 :=
  match asVoxelTranslation2d edge.transform with
  | some (tx,ty) => ⟨edge.source,edge.target,translation2d tx ty⟩
  | none => edge

theorem settledEdge_eq (numbers : ∀ x ∈ matrixNumbers edge.transform, x.isNan = false) : (settledEdge edge).eq edge := by
  have same : (settledEdge edge).source = edge.source ∧ (settledEdge edge).target = edge.target ∧
      Matrix.eq (settledEdge edge).transform edge.transform := by
    unfold settledEdge
    split
    · rename_i found
      exact ⟨rfl,rfl,Matrix.eq_symm (asVoxelTranslation2d_some found).1⟩
    · exact ⟨rfl,rfl,Matrix.eq_self numbers⟩
  obtain ⟨source,target,transform⟩ := same
  simp only [TransformEdge.eq,source,target,transform,decide_true,Bool.and_self]

theorem asVoxelTranslation2d_settled (edge : TransformEdge F64) :
    asVoxelTranslation2d (settledEdge edge).transform = asVoxelTranslation2d edge.transform := by
  unfold settledEdge
  split
  · rename_i found
    rw [found]
    exact asVoxelTranslation2d_translation2d found
  · rfl

theorem settledEdge_serialize (write : F64 → N) (edge : TransformEdge F64) :
    (settledEdge edge).serialize write = edge.serialize write := by
  have kind := asVoxelTranslation2d_settled edge
  unfold TransformEdge.serialize
  rw [kind]
  cases found : asVoxelTranslation2d edge.transform with
  | none =>
    unfold settledEdge
    rw [found]
  | some translation =>
    unfold settledEdge
    rw [found]

theorem edge_deserialize (edge : TransformEdge F64) : (edge.serialize codec.write).deserialize codec.read =
    match asVoxelTranslation2d edge.transform with
    | some (tx,ty) => (pairRead codec.read (codec.write tx,codec.write ty)).map fun translation =>
        ⟨edge.source,edge.target,none,some translation⟩
    | none => (Quad.traverse (Quad.traverse codec.read) (edge.transform.map (Quad.map codec.write))).map fun transform =>
        ⟨edge.source,edge.target,some transform,none⟩ := by
  unfold TransformEdge.serialize
  cases asVoxelTranslation2d edge.transform with
  | some translation =>
    obtain ⟨tx,ty⟩ := translation
    dsimp only [TransformEdgeDocument.deserialize,optionally]
    cases pairRead codec.read (codec.write tx,codec.write ty) <;> rfl
  | none =>
    dsimp only [TransformEdgeDocument.deserialize,optionally]
    cases Quad.traverse (Quad.traverse codec.read) (edge.transform.map (Quad.map codec.write)) <;> rfl

def edgeWire (edge : TransformEdge F64) : TransformEdgeWire :=
  match asVoxelTranslation2d edge.transform with
  | some translation => ⟨edge.source,edge.target,none,some translation⟩
  | none => ⟨edge.source,edge.target,some edge.transform,none⟩

theorem edgeWire_resolve (edge : TransformEdge F64) : (edgeWire edge).resolve = .ok (settledEdge edge) := by
  unfold edgeWire settledEdge
  cases asVoxelTranslation2d edge.transform <;> rfl

theorem edge_carried (carried : ∀ x ∈ matrixNumbers edge.transform, codec.Carries x) :
    (edge.serialize codec.write).deserialize codec.read = some (edgeWire edge) := by
  have columns : ∀ column ∈ edge.transform.toList, ∀ x ∈ column.toList, codec.Carries x :=
    fun column member x here => carried x (List.mem_flatMap.mpr ⟨column,member,here⟩)
  rw [edge_deserialize]
  unfold edgeWire
  cases found : asVoxelTranslation2d edge.transform with
  | some translation =>
    obtain ⟨tx,ty⟩ := translation
    obtain ⟨_,rfl,rfl⟩ := asVoxelTranslation2d_some found
    obtain ⟨_,_,_,last⟩ := forall_quadList.mp columns
    obtain ⟨across,down,_,_⟩ := forall_quadList.mp last
    have pair : pairRead codec.read (codec.write edge.transform.d.a,codec.write edge.transform.d.b) =
        some (edge.transform.d.a,edge.transform.d.b) := pairRead_some.mpr ⟨across,down⟩
    dsimp only
    rw [pair]
    rfl
  | none =>
    have column : ∀ column ∈ edge.transform.toList, Quad.traverse codec.read (column.map codec.write) = some column :=
      fun column member => quadTraverse_some.mpr (forall_quadList.mp (columns column member))
    have whole : Quad.traverse (Quad.traverse codec.read) (edge.transform.map (Quad.map codec.write)) = some edge.transform :=
      quadTraverse_some.mpr (forall_quadList.mp column)
    dsimp only
    rw [whole]
    rfl

theorem carries_of_eq {x y : F64} (again : codec.read (codec.write x) = some y) (same : y.eq x) : codec.Carries x :=
  carries_of_again again same (F64.eq_self (F64.eq_iff.mp same).2.1)

theorem carries_of_zero {x : F64} (same : x.eq .zero) : codec.Carries x :=
  carries_of_again codec.zero (F64.eq_symm same) (F64.eq_symm same)

theorem carries_of_one {x : F64} (same : x.eq .one) : codec.Carries x :=
  carries_of_again codec.one (F64.eq_symm same) (F64.eq_symm same)

theorem carried_of_edge {wire : TransformEdgeWire} {out : TransformEdge F64}
    (read : (edge.serialize codec.write).deserialize codec.read = some wire) (resolved : wire.resolve = .ok out) (same : out.eq edge) :
    ∀ x ∈ matrixNumbers edge.transform, codec.Carries x := by
  have matrices : Matrix.eq out.transform edge.transform := by
    simp only [TransformEdge.eq,Bool.and_eq_true] at same
    exact same.2
  have each : ∀ column ∈ edge.transform.toList, ∀ x ∈ column.toList, codec.Carries x := by
    rw [edge_deserialize] at read
    cases found : asVoxelTranslation2d edge.transform with
    | some translation =>
      obtain ⟨tx,ty⟩ := translation
      rw [found] at read
      obtain ⟨pair,values,rfl⟩ := Option.map_eq_some_iff.mp read
      cases resolved
      obtain ⟨first,second⟩ := pairRead_some.mp values
      obtain ⟨shape,rfl,rfl⟩ := asVoxelTranslation2d_some found
      obtain ⟨a,b,c,d⟩ := quadAll2_iff.mp shape
      obtain ⟨_,_,_,d'⟩ := quadAll2_iff.mp matrices
      obtain ⟨aa,ab,ac,ad⟩ := quadAll2_iff.mp a
      obtain ⟨ba,bb,bc,bd⟩ := quadAll2_iff.mp b
      obtain ⟨ca,cb,cc,cd⟩ := quadAll2_iff.mp c
      obtain ⟨_,_,dc,dd⟩ := quadAll2_iff.mp d
      obtain ⟨da,db,_,_⟩ := quadAll2_iff.mp d'
      refine forall_quadList.mpr ⟨?_,?_,?_,?_⟩
      · exact forall_quadList.mpr ⟨carries_of_one aa,carries_of_zero ab,carries_of_zero ac,carries_of_zero ad⟩
      · exact forall_quadList.mpr ⟨carries_of_zero ba,carries_of_one bb,carries_of_zero bc,carries_of_zero bd⟩
      · exact forall_quadList.mpr ⟨carries_of_zero ca,carries_of_zero cb,carries_of_one cc,carries_of_zero cd⟩
      · exact forall_quadList.mpr ⟨carries_of_eq first da,carries_of_eq second db,carries_of_zero dc,carries_of_one dd⟩
    | none =>
      rw [found] at read
      obtain ⟨transform,values,rfl⟩ := Option.map_eq_some_iff.mp read
      cases resolved
      have column : ∀ column again : Quad F64, Quad.traverse codec.read (column.map codec.write) = some again →
          Quad.all2 F64.eq again column → ∀ x ∈ column.toList, codec.Carries x := by
        intro column again values same
        obtain ⟨a,b,c,d⟩ := quadTraverse_some.mp values
        obtain ⟨a',b',c',d'⟩ := quadAll2_iff.mp same
        exact forall_quadList.mpr ⟨carries_of_eq a a',carries_of_eq b b',carries_of_eq c c',carries_of_eq d d'⟩
      obtain ⟨a,b,c,d⟩ := quadTraverse_some.mp values
      obtain ⟨a',b',c',d'⟩ := quadAll2_iff.mp matrices
      exact forall_quadList.mpr ⟨column _ _ a a',column _ _ b b',column _ _ c c',column _ _ d d'⟩
  intro x member
  obtain ⟨column,there,here⟩ := List.mem_flatMap.mp member
  exact each column there x here

end Transforms

section Layouts
variable {N : Type} {codec : NumberCodec N} {layout again : LayoutSpec F64}

def placementAgain (codec : NumberCodec N) (placement : EntityPlacement F64) : Option (EntityPlacement F64) :=
  (pairRead codec.read (codec.write placement.position.1,codec.write placement.position.2)).map fun position =>
    ⟨placement.entityId,position⟩

def layoutAgain (codec : NumberCodec N) (layout : LayoutSpec F64) : Option (LayoutSpec F64) :=
  layoutRead codec.read (layoutDocument codec.write layout)

theorem layoutAgain_eq (layout : LayoutSpec F64) : layoutAgain codec layout =
    (layout.placements.mapM (placementAgain codec)).map fun placements => { layout with placements } := by
  unfold layoutAgain layoutRead layoutDocument
  dsimp only
  rw [List.mapM_map]
  rfl

theorem layoutAgain_carried (carried : ∀ x ∈ layoutNumbers layout, codec.Carries x) : layoutAgain codec layout = some layout := by
  have each : layout.placements.mapM (placementAgain codec) = some (layout.placements.map id) := by
    refine mapM_some_map fun placement member => ?_
    have across : codec.Carries placement.position.1 := carried _ (List.mem_flatMap.mpr ⟨placement,member,List.mem_cons_self⟩)
    have down : codec.Carries placement.position.2 :=
      carried _ (List.mem_flatMap.mpr ⟨placement,member,List.mem_cons_of_mem _ List.mem_cons_self⟩)
    have pair : pairRead codec.read (codec.write placement.position.1,codec.write placement.position.2) = some placement.position :=
      pairRead_some.mpr ⟨across,down⟩
    rw [placementAgain,pair]
    rfl
  rw [layoutAgain_eq,each,List.map_id]
  rfl

theorem carried_of_layoutAgain (done : layoutAgain codec layout = some again) (same : layoutEq again layout) :
    ∀ x ∈ layoutNumbers layout, codec.Carries x := by
  rw [layoutAgain_eq] at done
  obtain ⟨placements,read,rfl⟩ := Option.map_eq_some_iff.mp done
  have sames : List.Forall₂ (fun again placement => placementEq again placement = true) placements layout.placements := by
    simp only [layoutEq,Bool.and_eq_true] at same
    exact listEq_iff.mp same.2
  have reads := mapM_some_iff.mp read
  intro x member
  obtain ⟨placement,there,here⟩ := List.mem_flatMap.mp member
  obtain ⟨index,short,rfl⟩ := List.mem_iff_getElem.mp there
  have first := (List.forall₂_iff_get.mp reads).2 index short ((List.forall₂_iff_get.mp reads).1 ▸ short)
  have second := (List.forall₂_iff_get.mp sames).2 index ((List.forall₂_iff_get.mp reads).1 ▸ short) short
  obtain ⟨position,pair,value⟩ := Option.map_eq_some_iff.mp first
  rw [← value] at second
  simp only [placementEq,Bool.and_eq_true] at second
  obtain ⟨across,down⟩ := pairRead_some.mp pair
  rcases List.mem_cons.mp here with rfl | rest
  · exact carries_of_eq across second.1.2
  · rw [List.mem_singleton.mp rest]
    exact carries_of_eq down second.2

end Layouts

section Labels
variable {N : Type} {codec : NumberCodec N} {label again : LabelSpec F64}

theorem label_deserialize (label : LabelSpec F64) : (label.serialize codec.write).deserialize codec.read =
    (multiscaleAgain codec label.image.multiscale).map fun multiscale => { label with image := { label.image with multiscale } } := by
  have colors : (if label.colors = [] then none else some label.colors).getD [] = label.colors := by
    have mapped := getD_unless_nil label.colors id
    rwa [List.map_id] at mapped
  unfold LabelDocument.deserialize LabelSpec.serialize
  dsimp only
  rw [colors]
  rfl

theorem label_carried (carried : ∀ x ∈ label.image.multiscale.numbers, codec.Carries x) :
    (label.serialize codec.write).deserialize codec.read = some label := by
  rw [label_deserialize,multiscaleAgain_carried carried]
  rfl

theorem carried_of_label (done : (label.serialize codec.write).deserialize codec.read = some again) (same : again.eq label)
    (numbers : ∀ x ∈ label.image.multiscale.numbers, x.isNan = false) : ∀ x ∈ label.image.multiscale.numbers, codec.Carries x := by
  rw [label_deserialize] at done
  obtain ⟨multiscale,read,rfl⟩ := Option.map_eq_some_iff.mp done
  simp only [LabelSpec.eq,ImageSpec.eq,Bool.and_eq_true] at same
  exact carried_of_multiscaleAgain read same.1.1.2.2 (MultiscaleInfo.eq_self numbers)

end Labels

section Images
variable {N : Type} {codec : NumberCodec N} {sizes : Sizes} {table : List (MultiscaleInfo F64)}

theorem image_deserialize (image : ImageSpec F64) (place : Option Nat) :
    (image.serialize codec.write place).deserialize codec.read =
      match place with
      | some index => some ⟨image.imageId,image.owner,none,some index⟩
      | none => (multiscaleAgain codec image.multiscale).map fun multiscale => ⟨image.imageId,image.owner,some multiscale,none⟩ := by
  cases place with
  | some index => rfl
  | none =>
    unfold ImageSpec.serialize ImageDocument.deserialize multiscaleAgain
    dsimp only [optionally]
    cases (image.multiscale.serialize codec.write).deserialize codec.read <;> rfl

def expansionOf (sizes : Sizes) (table : List (MultiscaleInfo F64)) (image : ImageSpecWire) : Nat :=
  match image.multiscaleRef with
  | none => 0
  | some index => ((table[index]?).map (multiscaleExpansionBytes sizes)).getD 0

def resolvedOf (table : List (MultiscaleInfo F64)) (image : ImageSpecWire) : Option (ImageSpec F64) :=
  match image.multiscale,image.multiscaleRef with
  | some multiscale,none => some ⟨image.imageId,image.owner,multiscale⟩
  | none,some index => (table[index]?).map fun entry => ⟨image.imageId,image.owner,entry⟩
  | _,_ => none

theorem resolve_ok_iff (small : expanded ≤ maxRefExpansionBytes) (image : ImageSpecWire) :
    image.resolve sizes table expanded = .ok (spec,after) ↔ resolvedOf table image = some spec ∧
      after = expanded+expansionOf sizes table image ∧ after ≤ maxRefExpansionBytes := by
  unfold ImageSpecWire.resolve resolvedOf expansionOf
  cases image.multiscale with
  | some multiscale =>
    cases image.multiscaleRef with
    | some index => simp
    | none =>
      simp only [Except.ok.injEq,Prod.mk.injEq,Option.some.injEq,Nat.add_zero]
      constructor
      · rintro ⟨rfl,rfl⟩
        exact ⟨rfl,rfl,small⟩
      · rintro ⟨rfl,rfl,_⟩
        exact ⟨rfl,rfl⟩
  | none =>
    cases image.multiscaleRef with
    | none => simp
    | some index =>
      cases found : table[index]? with
      | none => simp [found]
      | some entry =>
        simp only [found,Option.map_some,Option.getD_some]
        -- Past the limit the sum may saturate; below it, it does not.
        have sum : saturatingAdd expanded (multiscaleExpansionBytes sizes entry) > maxRefExpansionBytes ↔
            expanded+multiscaleExpansionBytes sizes entry > maxRefExpansionBytes := by
          unfold saturatingAdd maxRefExpansionBytes
          omega
        split
        · rename_i past
          simp only [reduceCtorEq,false_iff]
          rintro ⟨_,rfl,fits⟩
          exact absurd fits (Nat.not_le_of_gt (sum.mp past))
        · rename_i fits
          have exact : saturatingAdd expanded (multiscaleExpansionBytes sizes entry) =
              expanded+multiscaleExpansionBytes sizes entry := by
            have low := fun past => fits (sum.mpr past)
            unfold saturatingAdd maxRefExpansionBytes at *
            omega
          rw [exact] at fits ⊢
          simp only [Except.ok.injEq,Prod.mk.injEq,Option.some.injEq]
          constructor
          · rintro ⟨rfl,rfl⟩
            exact ⟨rfl,rfl,Nat.le_of_not_gt fits⟩
          · rintro ⟨rfl,rfl,_⟩
            exact ⟨rfl,rfl⟩

theorem resolveImages_ok_iff (images : List ImageSpecWire) (small : expanded ≤ maxRefExpansionBytes) :
    resolveImages sizes table expanded images = .ok specs ↔ images.mapM (resolvedOf table) = some specs ∧
      expanded+(images.map (expansionOf sizes table)).sum ≤ maxRefExpansionBytes := by
  induction images generalizing expanded specs with
  | nil =>
    simp only [resolveImages,Except.ok.injEq,List.mapM_nil,List.map_nil,List.sum_nil,Nat.add_zero]
    exact ⟨fun same => ⟨congrArg some same,small⟩,fun both => Option.some.inj both.1⟩
  | cons image images ih =>
    rw [resolveImages,mapM_some_iff,List.map_cons,List.sum_cons]
    constructor
    · intro ran
      obtain ⟨⟨spec,after⟩,first,ran⟩ := bind_ok ran
      obtain ⟨rest,later,same⟩ := bind_ok ran
      cases same
      obtain ⟨resolved,rfl,fits⟩ := (resolve_ok_iff small image).mp first
      obtain ⟨others,total⟩ := (ih fits).mp later
      exact ⟨.cons resolved (mapM_some_iff.mp others),by omega⟩
    · rintro ⟨each,total⟩
      cases each with
      | cons resolved others =>
        have fits : expanded+expansionOf sizes table image ≤ maxRefExpansionBytes := by omega
        have first := (@resolve_ok_iff sizes _ _ _ _ small image).mpr ⟨resolved,rfl,fits⟩
        have later := (ih fits).mpr ⟨mapM_some_iff.mpr others,by omega⟩
        rw [first]
        dsimp only [bind,Except.bind]
        rw [later]

end Images
end Lucida.Content.Graph
