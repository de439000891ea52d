import Lucida.Content.ManifestRoundTrip

namespace Lucida.Content.Graph
open Lib

section Sharing
variable (digest : DedupKey → UInt64)

def DatasetManifest.infos (manifest : DatasetManifest F64) : List (MultiscaleInfo F64) := manifest.images.map ImageSpec.multiscale

def DatasetManifest.uses (manifest : DatasetManifest F64) (image : ImageSpec F64) : Nat := manifest.infos.countP image.multiscale.eq

structure DatasetManifest.WithinCaps (manifest : DatasetManifest F64) (sizes : Sizes) : Prop where
  levels : ∀ image ∈ manifest.images, 2 ≤ manifest.uses image → image.multiscale.levels.length ≤ maxTableEntryLevels
  channels : ∀ image ∈ manifest.images, 2 ≤ manifest.uses image →
    image.multiscale.channelInfos.length ≤ maxTableEntryChannelInfos
  expansion : (manifest.images.map fun image =>
    if 2 ≤ manifest.uses image then multiscaleExpansionBytes sizes image.multiscale else 0).sum ≤ maxRefExpansionBytes

def DatasetManifest.table (manifest : DatasetManifest F64) : List (MultiscaleInfo F64) :=
  Sharing.table MultiscaleInfo.eq (multiscaleDedupHash digest) manifest.infos

def DatasetManifest.place (manifest : DatasetManifest F64) (image : ImageSpec F64) : Option Nat :=
  Sharing.placeOf MultiscaleInfo.eq (multiscaleDedupHash digest) manifest.infos image.multiscale

def DatasetManifest.settledImage (manifest : DatasetManifest F64) (image : ImageSpec F64) : ImageSpec F64 :=
  { image with multiscale := Sharing.firstLike MultiscaleInfo.eq manifest.infos image.multiscale }

variable {digest} {manifest : DatasetManifest F64} {image : ImageSpec F64} {sizes : Sizes}

theorem multiscale_mem (member : image ∈ manifest.images) : image.multiscale ∈ manifest.infos := List.mem_map_of_mem member

theorem expansionBytes_pos (sizes : Sizes) (info : MultiscaleInfo F64) : 1 ≤ multiscaleExpansionBytes sizes info := by
  have some := sizes.positive
  unfold multiscaleExpansionBytes
  dsimp only
  omega

theorem place_cases (lawful : Sharing.Lawful MultiscaleInfo.eq (multiscaleDedupHash digest) manifest.infos)
    (short : (manifest.table digest).length ≤ 2^32) (member : image ∈ manifest.images) :
    ¬2 ≤ manifest.uses image ∧ manifest.place digest image = none ∧ manifest.settledImage image = image ∨
    2 ≤ manifest.uses image ∧ ∃ index, manifest.place digest image = some index ∧
      (manifest.table digest)[index]? = some (manifest.settledImage image).multiscale := by
  rcases Sharing.placeOf_cases lawful (multiscale_mem member) with ⟨alone,none⟩ | ⟨often,index,here,some⟩
  · refine .inl ⟨Nat.not_le_of_lt alone,none,?_⟩
    rw [DatasetManifest.settledImage,Sharing.firstLike_alone lawful (multiscale_mem member) alone]
  · have low : index % 2^32 = index :=
      Nat.mod_eq_of_lt (Nat.lt_of_lt_of_le (List.getElem?_eq_some_iff.mp here).1 short)
    exact .inr ⟨often,index,by rw [← low]; exact some,here⟩

theorem settledImage_eq (lawful : Sharing.Lawful MultiscaleInfo.eq (multiscaleDedupHash digest) manifest.infos)
    (member : image ∈ manifest.images) : (manifest.settledImage image).eq image := by
  have like := (Sharing.firstLike_like lawful (multiscale_mem member)).2
  simp only [ImageSpec.eq,DatasetManifest.settledImage,decide_true,Bool.true_and]
  exact like

theorem length_table_le_uses (lawful : Sharing.Lawful MultiscaleInfo.eq (multiscaleDedupHash digest) manifest.infos) :
    (manifest.table digest).length ≤ manifest.images.countP fun image => 2 ≤ manifest.uses image := by
  have bound := Sharing.length_table_le lawful
  rw [DatasetManifest.infos,List.countP_map] at bound
  exact bound

theorem countP_le_sum {α β : Type} {items : List α} {others : List β} {p : α → Prop} [DecidablePred p] {weight : β → Nat}
    (heavy : List.Forall₂ (fun item other => p item → 1 ≤ weight other) items others) :
    items.countP (fun item => p item) ≤ (others.map weight).sum := by
  induction heavy with
  | nil => exact Nat.le_refl 0
  | @cons item other _ _ first _ ih =>
    rw [List.countP_cons,List.map_cons,List.sum_cons]
    by_cases holds : p item
    · have one := first holds
      simp only [holds,decide_true,if_true]
      omega
    · simp only [holds,decide_false,Bool.false_eq_true,if_false]
      omega

theorem table_short (lawful : Sharing.Lawful MultiscaleInfo.eq (multiscaleDedupHash digest) manifest.infos)
    (within : manifest.WithinCaps sizes) : (manifest.table digest).length ≤ 2^32 := by
  have heavy : ∀ image ∈ manifest.images, 2 ≤ manifest.uses image →
      1 ≤ if 2 ≤ manifest.uses image then multiscaleExpansionBytes sizes image.multiscale else 0 := by
    intro image _ often
    rw [if_pos often]
    exact expansionBytes_pos sizes _
  calc (manifest.table digest).length ≤ manifest.images.countP fun image => 2 ≤ manifest.uses image :=
      length_table_le_uses lawful
    _ ≤ _ := countP_le_sum (List.forall₂_same.mpr heavy)
    _ ≤ maxRefExpansionBytes := within.expansion
    _ ≤ 2^32 := by decide

end Sharing

section Encoded
variable {N : Type} {codec : NumberCodec N} {digest : DedupKey → UInt64} {manifest : DatasetManifest F64}

theorem encode_images (lawful : Sharing.Lawful MultiscaleInfo.eq (multiscaleDedupHash digest) manifest.infos) :
    (encode codec digest manifest).images =
      manifest.images.map fun image => image.serialize codec.write (manifest.place digest image) := by
  unfold encode DatasetManifest.serialize SharedMultiscales.build
  dsimp only
  have refs := Sharing.references_eq lawful
  rw [DatasetManifest.infos] at refs
  rw [refs,List.map_map,List.zipWith_map_right,List.zipWith_self]
  rfl

theorem encode_multiscales : (encode codec digest manifest).multiscales.getD [] =
    (manifest.table digest).map (MultiscaleInfo.serialize codec.write) := getD_unless_nil _ _

theorem encode_labels : (encode codec digest manifest).labels.getD [] = manifest.labels.map (LabelSpec.serialize codec.write) :=
  getD_unless_nil _ _

variable {sizes : Sizes} {P : F64 → Prop}

theorem DatasetManifest.forall_numbers : (∀ x ∈ manifest.numbers, P x) ↔
    (∀ edge ∈ manifest.transforms, ∀ x ∈ matrixNumbers edge.transform, P x) ∧
    (∀ image ∈ manifest.images, ∀ x ∈ image.multiscale.numbers, P x) ∧
    (∀ layout ∈ manifest.sourceLayouts, ∀ x ∈ layoutNumbers layout, P x) ∧
    ∀ label ∈ manifest.labels, ∀ x ∈ label.image.multiscale.numbers, P x := by
  simp only [DatasetManifest.numbers,List.forall_mem_append,List.forall_mem_flatMap,and_assoc]

theorem lawful_of_images (digest : DedupKey → UInt64)
    (numbers : ∀ image ∈ manifest.images, ∀ x ∈ image.multiscale.numbers, x.isNan = false) :
    Sharing.Lawful MultiscaleInfo.eq (multiscaleDedupHash digest) manifest.infos := by
  refine lawful_of_numbers digest fun info member => ?_
  obtain ⟨image,there,rfl⟩ := List.mem_map.mp member
  exact numbers image there

def DatasetManifest.settled (manifest : DatasetManifest F64) : DatasetManifest F64 :=
  { manifest with
    transforms := manifest.transforms.map settledEdge
    images := manifest.images.map manifest.settledImage }

def DatasetManifest.imageWire (digest : DedupKey → UInt64) (manifest : DatasetManifest F64) (image : ImageSpec F64) : ImageSpecWire :=
  match manifest.place digest image with
  | some index => ⟨image.imageId,image.owner,none,some index⟩
  | none => ⟨image.imageId,image.owner,some image.multiscale,none⟩

section Forward
variable (carried : ∀ x ∈ manifest.numbers, codec.Carries x)
include carried

theorem carried_lawful (digest : DedupKey → UInt64) :
    Sharing.Lawful MultiscaleInfo.eq (multiscaleDedupHash digest) manifest.infos := by
  obtain ⟨_,images,_,_⟩ := DatasetManifest.forall_numbers.mp carried
  exact lawful_of_images digest fun image member x here => (images image member x here).number

theorem deserialize_encode : (encode codec digest manifest).deserialize codec.read =
    some ⟨(encode codec digest manifest).formatVersion,manifest.datasetId,manifest.name,manifest.kind,manifest.entities,
      manifest.transforms.map edgeWire,manifest.table digest,manifest.images.map (manifest.imageWire digest),
      manifest.sourceLayouts,manifest.defaultLayoutId,manifest.labels⟩ := by
  have lawful := carried_lawful carried digest
  obtain ⟨edges,images,layouts,labels⟩ := DatasetManifest.forall_numbers.mp carried
  have transforms : (encode codec digest manifest).transforms.mapM (TransformEdgeDocument.deserialize codec.read) =
      some (manifest.transforms.map edgeWire) := by
    have shape : (encode codec digest manifest).transforms = manifest.transforms.map (TransformEdge.serialize codec.write) := rfl
    rw [shape,List.mapM_map]
    exact mapM_some_map fun edge member => edge_carried (edges edge member)
  have table : ((encode codec digest manifest).multiscales.getD []).mapM (MultiscaleDocument.deserialize codec.read) =
      some (manifest.table digest) := by
    rw [encode_multiscales,List.mapM_map]
    conv_rhs => rw [← List.map_id (manifest.table digest)]
    refine mapM_some_map fun info member => multiscaleAgain_carried ?_
    rw [DatasetManifest.table,Sharing.table_eq lawful] at member
    obtain ⟨image,there,rfl⟩ := List.mem_map.mp (Sharing.mem_of_first (List.mem_of_mem_filter member))
    exact images image there
  have specs : (encode codec digest manifest).images.mapM (ImageDocument.deserialize codec.read) =
      some (manifest.images.map (manifest.imageWire digest)) := by
    rw [encode_images lawful,List.mapM_map]
    refine mapM_some_map fun image member => ?_
    rw [Function.comp_apply,image_deserialize,DatasetManifest.imageWire]
    cases manifest.place digest image with
    | some index => rfl
    | none =>
      dsimp only
      rw [multiscaleAgain_carried (images image member)]
      rfl
  have placed : (encode codec digest manifest).sourceLayouts.mapM (layoutRead codec.read) = some manifest.sourceLayouts := by
    have shape : (encode codec digest manifest).sourceLayouts = manifest.sourceLayouts.map (layoutDocument codec.write) := rfl
    rw [shape,List.mapM_map]
    conv_rhs => rw [← List.map_id manifest.sourceLayouts]
    exact mapM_some_map fun layout member => layoutAgain_carried (layouts layout member)
  have labelled : ((encode codec digest manifest).labels.getD []).mapM (LabelDocument.deserialize codec.read) = some manifest.labels := by
    rw [encode_labels,List.mapM_map]
    conv_rhs => rw [← List.map_id manifest.labels]
    exact mapM_some_map fun label member => label_carried (labels label member)
  unfold ManifestDocument.deserialize
  rw [transforms,table,specs,placed,labelled]
  rfl

theorem decode_encode (within : manifest.WithinCaps sizes) : decode codec sizes (encode codec digest manifest) = .ok manifest.settled := by
  have lawful := carried_lawful carried digest
  have short := table_short lawful within
  have edges : (manifest.transforms.map edgeWire).mapM TransformEdgeWire.resolve = .ok (manifest.transforms.map settledEdge) := by
    rw [List.mapM_map]
    exact mapM_ok_map fun edge _ => edgeWire_resolve edge
  have entries : (manifest.table digest).zipIdx.forM checkEntry = .ok () := by
    refine forM_ok_iff.mpr fun entry member => ?_
    have there := List.fst_mem_of_mem_zipIdx member
    rw [DatasetManifest.table,Sharing.table_eq lawful] at there
    obtain ⟨first,often⟩ := List.mem_filter.mp there
    obtain ⟨image,used,same⟩ := List.mem_map.mp (Sharing.mem_of_first first)
    have shared : 2 ≤ manifest.uses image := by
      rw [DatasetManifest.uses,same]
      exact of_decide_eq_true often
    have levels := within.levels image used shared
    have channels := within.channels image used shared
    rw [same] at levels channels
    rw [checkEntry,if_neg (Nat.not_lt_of_le levels),if_neg (Nat.not_lt_of_le channels)]
  have images : resolveImages sizes (manifest.table digest) 0 (manifest.images.map (manifest.imageWire digest)) =
      .ok (manifest.images.map manifest.settledImage) := by
    refine (resolveImages_ok_iff _ (Nat.zero_le _)).mpr ⟨?_,?_⟩
    · rw [List.mapM_map]
      refine mapM_some_map fun image member => ?_
      rw [Function.comp_apply,DatasetManifest.imageWire]
      rcases place_cases lawful short member with ⟨_,none,same⟩ | ⟨_,index,some,here⟩
      · rw [none,same]
        rfl
      · rw [some]
        dsimp only [resolvedOf]
        rw [here]
        rfl
    · rw [Nat.zero_add,List.map_map]
      have costs : manifest.images.map (expansionOf sizes (manifest.table digest) ∘ manifest.imageWire digest) =
          manifest.images.map fun image =>
            if 2 ≤ manifest.uses image then multiscaleExpansionBytes sizes image.multiscale else 0 := by
        refine List.map_congr_left fun image member => ?_
        rw [Function.comp_apply,DatasetManifest.imageWire]
        rcases place_cases lawful short member with ⟨alone,none,_⟩ | ⟨often,index,some,here⟩
        · rw [none,if_neg alone]
          rfl
        · rw [some,if_pos often]
          dsimp only [expansionOf]
          rw [here]
          have like := (Sharing.firstLike_like lawful (multiscale_mem member)).2
          exact expansionBytes_congr sizes like
      rw [costs]
      exact within.expansion
  unfold decode
  rw [deserialize_encode carried]
  unfold DatasetManifestWire.tryInto
  dsimp only
  rw [edges,ok_then,entries,ok_then,images,ok_then]
  rfl

theorem settled_eq : manifest.settled.eq manifest := by
  have lawful := carried_lawful carried fun _ => 0
  obtain ⟨edges,images,layouts,labels⟩ := DatasetManifest.forall_numbers.mp carried
  have transforms : listEq TransformEdge.eq (manifest.transforms.map settledEdge) manifest.transforms := by
    rw [listEq_iff,List.forall₂_map_left_iff,List.forall₂_same]
    exact fun edge member => settledEdge_eq fun x here => (edges edge member x here).number
  have specs : listEq ImageSpec.eq (manifest.images.map manifest.settledImage) manifest.images := by
    rw [listEq_iff,List.forall₂_map_left_iff,List.forall₂_same]
    exact fun image member => settledImage_eq lawful member
  have placed : listEq layoutEq manifest.sourceLayouts manifest.sourceLayouts := by
    refine listEq_self fun layout member => ?_
    have placements : listEq placementEq layout.placements layout.placements := by
      refine listEq_self fun placement there => ?_
      have across := layouts layout member _ (List.mem_flatMap.mpr ⟨placement,there,List.mem_cons_self⟩)
      have down := layouts layout member _
        (List.mem_flatMap.mpr ⟨placement,there,List.mem_cons_of_mem _ List.mem_cons_self⟩)
      simp only [placementEq,decide_true,Bool.true_and,Bool.and_eq_true]
      exact ⟨F64.eq_self across.number,F64.eq_self down.number⟩
    simp only [layoutEq,decide_true,Bool.true_and,placements]
  have labelled : listEq LabelSpec.eq manifest.labels manifest.labels := by
    refine listEq_self fun label member => ?_
    have multiscale := MultiscaleInfo.eq_self fun x here => (labels label member x here).number
    simp only [LabelSpec.eq,ImageSpec.eq,decide_true,Bool.and_true,multiscale]
  simp only [DatasetManifest.eq,DatasetManifest.settled,decide_true,Bool.and_true,transforms,specs,placed,labelled]

theorem encode_settled (within : manifest.WithinCaps sizes) : encode codec digest manifest.settled = encode codec digest manifest := by
  have lawful := carried_lawful carried digest
  have short := table_short lawful within
  have infos : (manifest.images.map manifest.settledImage).map ImageSpec.multiscale =
      (manifest.images.map ImageSpec.multiscale).map (Sharing.firstLike MultiscaleInfo.eq manifest.infos) := by
    rw [List.map_map,List.map_map]
    rfl
  have shared : SharedMultiscales.build digest (manifest.images.map manifest.settledImage) =
      SharedMultiscales.build digest manifest.images := by
    unfold SharedMultiscales.build
    dsimp only
    rw [infos]
    exact congrArg₂ SharedMultiscales.mk (Sharing.table_firstLike lawful) (Sharing.references_firstLike lawful)
  have edges : (manifest.transforms.map settledEdge).map (TransformEdge.serialize codec.write) =
      manifest.transforms.map (TransformEdge.serialize codec.write) := by
    rw [List.map_map]
    exact List.map_congr_left fun edge _ => settledEdge_serialize codec.write edge
  have compact : ((manifest.transforms.map settledEdge).any fun edge => (asVoxelTranslation2d edge.transform).isSome) =
      manifest.transforms.any fun edge => (asVoxelTranslation2d edge.transform).isSome := by
    rw [List.any_map]
    refine List.any_congr rfl fun edge => ?_
    rw [Function.comp_apply,asVoxelTranslation2d_settled]
  have images : List.zipWith (ImageSpec.serialize codec.write) (manifest.images.map manifest.settledImage)
      (SharedMultiscales.build digest manifest.images).refs = (encode codec digest manifest).images := by
    have refs : (SharedMultiscales.build digest manifest.images).refs = manifest.images.map (manifest.place digest) := by
      have shape := Sharing.references_eq lawful
      rw [DatasetManifest.infos] at shape
      unfold SharedMultiscales.build
      dsimp only
      rw [shape,List.map_map]
      rfl
    rw [encode_images lawful,refs,List.zipWith_map,List.zipWith_self]
    refine List.map_congr_left fun image member => ?_
    rcases place_cases lawful short member with ⟨_,none,same⟩ | ⟨_,index,some,_⟩
    · rw [none,same]
    · rw [some]
      rfl
  unfold encode DatasetManifest.serialize DatasetManifest.settled
  dsimp only
  rw [shared,edges,compact,images]
  rfl

end Forward

section Backward
variable {back : DatasetManifest F64}

theorem level_numbers {level other : LevelGeometry F64} (same : levelEq level other) :
    ∀ x ∈ axesList other.scale, x.isNan = false := by
  obtain ⟨t,c,z,y,x⟩ := axesAll2_iff.mp (levelEq_iff.mp same).1
  exact forall_axesList.mpr ⟨(F64.eq_iff.mp t).2.1,(F64.eq_iff.mp c).2.1,(F64.eq_iff.mp z).2.1,(F64.eq_iff.mp y).2.1,
    (F64.eq_iff.mp x).2.1⟩

-- What something is equal to has no NaN in it.
theorem multiscale_numbers {info other : MultiscaleInfo F64} (same : info.eq other) : ∀ x ∈ other.numbers, x.isNan = false := by
  have levels := listEq_iff.mp (MultiscaleInfo.eq_iff.mp same).1
  intro x member
  obtain ⟨level,there,here⟩ := List.mem_flatMap.mp member
  obtain ⟨again,_,alike⟩ := exists_of_forall₂ levels.flip there
  exact level_numbers alike x here

theorem image_numbers {image other : ImageSpec F64} (same : image.eq other) : image.multiscale.eq other.multiscale := by
  simp only [ImageSpec.eq,Bool.and_eq_true] at same
  exact same.2

theorem label_numbers {label other : LabelSpec F64} (same : label.eq other) :
    ∀ x ∈ other.image.multiscale.numbers, x.isNan = false := by
  simp only [LabelSpec.eq,Bool.and_eq_true] at same
  exact multiscale_numbers (image_numbers same.1.1.2)

theorem manifest_lists (same : back.eq manifest) :
    List.Forall₂ (fun edge other => TransformEdge.eq edge other = true) back.transforms manifest.transforms ∧
    List.Forall₂ (fun image other => ImageSpec.eq image other = true) back.images manifest.images ∧
    List.Forall₂ (fun layout other => layoutEq layout other = true) back.sourceLayouts manifest.sourceLayouts ∧
    List.Forall₂ (fun label other => LabelSpec.eq label other = true) back.labels manifest.labels := by
  simp only [DatasetManifest.eq,Bool.and_eq_true,listEq_iff] at same
  obtain ⟨⟨⟨⟨⟨_,transforms⟩,images⟩,layouts⟩,_⟩,labels⟩ := same
  exact ⟨transforms,images,layouts,labels⟩

theorem decode_ok {document : ManifestDocument N} (decoded : decode codec sizes document = .ok back) :
    ∃ wire, document.deserialize codec.read = some wire ∧ wire.tryInto sizes = .ok back := by
  unfold decode at decoded
  cases read : document.deserialize codec.read with
  | none =>
    rw [read] at decoded
    cases decoded
  | some wire =>
    rw [read] at decoded
    exact ⟨wire,rfl,mapError_ok decoded⟩

theorem deserialize_some {document : ManifestDocument N} {read : N → Option F64} (done : document.deserialize read = some wire) :
    document.transforms.mapM (TransformEdgeDocument.deserialize read) = some wire.transforms ∧
    (document.multiscales.getD []).mapM (MultiscaleDocument.deserialize read) = some wire.multiscales ∧
    document.images.mapM (ImageDocument.deserialize read) = some wire.images ∧
    document.sourceLayouts.mapM (layoutRead read) = some wire.sourceLayouts ∧
    (document.labels.getD []).mapM (LabelDocument.deserialize read) = some wire.labels := by
  unfold ManifestDocument.deserialize at done
  obtain ⟨transforms,first,done⟩ := Option.bind_eq_some_iff.mp done
  obtain ⟨multiscales,second,done⟩ := Option.bind_eq_some_iff.mp done
  obtain ⟨images,third,done⟩ := Option.bind_eq_some_iff.mp done
  obtain ⟨layouts,fourth,done⟩ := Option.bind_eq_some_iff.mp done
  obtain ⟨labels,fifth,done⟩ := Option.bind_eq_some_iff.mp done
  cases done
  exact ⟨first,second,third,fourth,fifth⟩

theorem tryInto_ok {wire : DatasetManifestWire} (resolved : wire.tryInto sizes = .ok back) :
    wire.transforms.mapM TransformEdgeWire.resolve = .ok back.transforms ∧ wire.multiscales.zipIdx.forM checkEntry = .ok () ∧
    resolveImages sizes wire.multiscales 0 wire.images = .ok back.images ∧
    wire.sourceLayouts = back.sourceLayouts ∧ wire.labels = back.labels := by
  unfold DatasetManifestWire.tryInto at resolved
  obtain ⟨transforms,first,resolved⟩ := bind_ok resolved
  obtain ⟨_,second,resolved⟩ := bind_ok resolved
  obtain ⟨images,third,resolved⟩ := bind_ok resolved
  cases resolved
  exact ⟨first,second,third,rfl,rfl⟩

theorem checkEntry_ok (passed : checkEntry entry = .ok ()) :
    entry.1.levels.length ≤ maxTableEntryLevels ∧ entry.1.channelInfos.length ≤ maxTableEntryChannelInfos := by
  unfold checkEntry at passed
  split at passed
  · cases passed
  · rename_i levels
    split at passed
    · cases passed
    · rename_i channels
      exact ⟨Nat.le_of_not_lt levels,Nat.le_of_not_lt channels⟩

theorem again_shape {a y : MultiscaleInfo F64} (done : multiscaleAgain codec a = some y) :
    y.levels.length = a.levels.length ∧ y.channelInfos = a.channelInfos ∧
      multiscaleExpansionBytes sizes y = multiscaleExpansionBytes sizes a := by
  obtain ⟨shape,levels⟩ := multiscaleAgain_some done
  have length : y.levels.length = a.levels.length := levels.length_eq.symm
  refine ⟨length,by rw [shape],?_⟩
  rw [shape]
  unfold multiscaleExpansionBytes
  dsimp only
  rw [length]

variable {entries : List (MultiscaleInfo F64)} {image spec : ImageSpec F64} {wire : ImageSpecWire}

theorem shared_weighs (lawful : Sharing.Lawful MultiscaleInfo.eq (multiscaleDedupHash digest) manifest.infos)
    (member : image ∈ manifest.images)
    (read : (image.serialize codec.write (manifest.place digest image)).deserialize codec.read = some wire)
    (resolved : resolvedOf entries wire = some spec) (often : 2 ≤ manifest.uses image) : 1 ≤ expansionOf sizes entries wire := by
  rcases Sharing.placeOf_cases lawful (multiscale_mem member) with ⟨alone,_⟩ | ⟨_,index,_,some⟩
  · exact absurd often (Nat.not_le_of_lt alone)
  · rw [DatasetManifest.place,some,image_deserialize] at read
    cases read
    obtain ⟨entry,here,_⟩ := Option.map_eq_some_iff.mp resolved
    unfold expansionOf
    dsimp only
    rw [here]
    exact expansionBytes_pos sizes entry

theorem image_back (lawful : Sharing.Lawful MultiscaleInfo.eq (multiscaleDedupHash digest) manifest.infos)
    (short : (manifest.table digest).length ≤ 2^32) (member : image ∈ manifest.images)
    (table : List.Forall₂ (fun info again => multiscaleAgain codec info = some again) (manifest.table digest) entries)
    (read : (image.serialize codec.write (manifest.place digest image)).deserialize codec.read = some wire)
    (resolved : resolvedOf entries wire = some spec) :
    ∃ first, multiscaleAgain codec first = some spec.multiscale ∧ first.eq image.multiscale ∧
      expansionOf sizes entries wire =
        (if 2 ≤ manifest.uses image then multiscaleExpansionBytes sizes image.multiscale else 0) ∧
      (2 ≤ manifest.uses image → spec.multiscale ∈ entries) := by
  rcases place_cases lawful short member with ⟨alone,none,_⟩ | ⟨often,index,some,here⟩
  · rw [none,image_deserialize] at read
    obtain ⟨again,done,rfl⟩ := Option.map_eq_some_iff.mp read
    cases resolved
    refine ⟨image.multiscale,done,lawful.self _ (multiscale_mem member),?_,fun often => absurd often alone⟩
    rw [if_neg alone]
    rfl
  · rw [some,image_deserialize] at read
    cases read
    obtain ⟨entry,there,rfl⟩ := Option.map_eq_some_iff.mp resolved
    have like := (Sharing.firstLike_like lawful (multiscale_mem member)).2
    obtain ⟨inside,value⟩ := List.getElem?_eq_some_iff.mp here
    obtain ⟨inside',value'⟩ := List.getElem?_eq_some_iff.mp there
    have done := (List.forall₂_iff_get.mp table).2 index inside inside'
    simp only [List.get_eq_getElem,value,value'] at done
    refine ⟨_,done,like,?_,fun _ => List.mem_of_getElem? there⟩
    rw [if_pos often]
    unfold expansionOf
    dsimp only
    rw [there]
    exact (again_shape done).2.2.trans (expansionBytes_congr sizes like)

theorem of_decode_encode (decoded : decode codec sizes (encode codec digest manifest) = .ok back) (same : back.eq manifest) :
    manifest.WithinCaps sizes ∧ ∀ x ∈ manifest.numbers, codec.Carries x := by
  obtain ⟨wire,read,resolved⟩ := decode_ok decoded
  obtain ⟨edgesRead,tableRead,imagesRead,layoutsRead,labelsRead⟩ := deserialize_some read
  obtain ⟨edgesOk,entriesOk,imagesOk,layoutsOk,labelsOk⟩ := tryInto_ok resolved
  obtain ⟨edgesSame,imagesSame,layoutsSame,labelsSame⟩ := manifest_lists same
  have lawful : Sharing.Lawful MultiscaleInfo.eq (multiscaleDedupHash digest) manifest.infos := by
    refine lawful_of_images digest fun image member => ?_
    obtain ⟨spec,_,alike⟩ := exists_of_forall₂ imagesSame.flip member
    exact multiscale_numbers (image_numbers alike)
  rw [encode_multiscales,List.mapM_map] at tableRead
  have table := mapM_some_iff.mp tableRead
  rw [encode_images lawful,List.mapM_map] at imagesRead
  obtain ⟨specs,total⟩ := (resolveImages_ok_iff _ (Nat.zero_le _)).mp imagesOk
  rw [Nat.zero_add] at total
  have chain := forall₂_chain (mapM_some_iff.mp imagesRead) (mapM_some_iff.mp specs) imagesSame
  have heavy : manifest.images.countP (fun image => 2 ≤ manifest.uses image) ≤
      (wire.images.map (expansionOf sizes wire.multiscales)).sum := by
    refine countP_le_sum (chain.imp ?_)
    rintro image wire ⟨member,spec,done,whole,_⟩ often
    exact shared_weighs lawful member done whole often
  have short : (manifest.table digest).length ≤ 2^32 :=
    Nat.le_trans (length_table_le_uses lawful) (Nat.le_trans heavy (Nat.le_trans total (by decide)))
  -- Each image, with the multiscale it was read back from.
  have backs : ∀ image ∈ manifest.images, ∃ first again, multiscaleAgain codec first = some again ∧
      first.eq image.multiscale ∧ again.eq image.multiscale ∧ (2 ≤ manifest.uses image → again ∈ wire.multiscales) := by
    intro image member
    obtain ⟨document,_,_,spec,done,whole,alike⟩ := exists_of_forall₂ chain member
    obtain ⟨first,again,like,_,there⟩ := @image_back _ _ _ _ sizes _ _ _ _ lawful short member table done whole
    exact ⟨first,spec.multiscale,again,like,image_numbers alike,there⟩
  have weights : wire.images.map (expansionOf sizes wire.multiscales) = manifest.images.map fun image =>
      if 2 ≤ manifest.uses image then multiscaleExpansionBytes sizes image.multiscale else 0 := by
    refine (map_eq_map_of_forall₂ (chain.imp ?_)).symm
    rintro image document ⟨member,spec,done,whole,_⟩
    obtain ⟨_,_,_,weight,_⟩ := @image_back _ _ _ _ sizes _ _ _ _ lawful short member table done whole
    exact weight.symm
  have caps : ∀ image ∈ manifest.images, 2 ≤ manifest.uses image →
      image.multiscale.levels.length ≤ maxTableEntryLevels ∧
        image.multiscale.channelInfos.length ≤ maxTableEntryChannelInfos := by
    intro image member often
    obtain ⟨first,again,done,_,alike,there⟩ := backs image member
    obtain ⟨index,inside,here⟩ := List.mem_iff_getElem.mp (there often)
    have passed := forM_ok_iff.mp entriesOk (again,index) (List.mk_mem_zipIdx_iff_getElem?.mpr
      (List.getElem?_eq_some_iff.mpr ⟨inside,here⟩))
    obtain ⟨levels,channels⟩ := checkEntry_ok passed
    obtain ⟨alike,shape⟩ := MultiscaleInfo.eq_iff.mp alike
    rw [(listEq_iff.mp alike).length_eq] at levels
    rw [shape]
    exact ⟨levels,channels⟩
  refine ⟨⟨fun image member often => (caps image member often).1,fun image member often => (caps image member often).2,
    weights ▸ total⟩,?_⟩
  refine DatasetManifest.forall_numbers.mpr ⟨?_,?_,?_,?_⟩
  · have shape : (encode codec digest manifest).transforms = manifest.transforms.map (TransformEdge.serialize codec.write) := rfl
    rw [shape,List.mapM_map] at edgesRead
    have edges := forall₂_chain (mapM_some_iff.mp edgesRead) (mapM_ok_iff.mp edgesOk) edgesSame
    intro edge member
    obtain ⟨_,_,_,out,done,whole,alike⟩ := exists_of_forall₂ edges member
    exact carried_of_edge done whole alike
  · intro image member
    obtain ⟨first,again,done,like,alike,_⟩ := backs image member
    exact carried_of_multiscaleAgain done alike like
  · have shape : (encode codec digest manifest).sourceLayouts = manifest.sourceLayouts.map (layoutDocument codec.write) := rfl
    rw [shape,List.mapM_map,layoutsOk] at layoutsRead
    have layouts := forall₂_chain (mapM_some_iff.mp layoutsRead) (List.forall₂_same.mpr fun _ _ => rfl) layoutsSame
    intro layout member
    obtain ⟨_,_,_,out,done,rfl,alike⟩ := exists_of_forall₂ layouts member
    exact carried_of_layoutAgain done alike
  · rw [encode_labels,List.mapM_map,labelsOk] at labelsRead
    have labels := forall₂_chain (mapM_some_iff.mp labelsRead) (List.forall₂_same.mpr fun _ _ => rfl) labelsSame
    intro label member
    obtain ⟨_,_,_,out,done,rfl,alike⟩ := exists_of_forall₂ labels member
    exact carried_of_label done alike (label_numbers alike)

end Backward

-- The form without a compact construct.
def inlineForm (codec : NumberCodec N) (manifest : DatasetManifest F64) : ManifestDocument N where
  formatVersion := none
  datasetId := manifest.datasetId
  name := manifest.name
  kind := manifest.kind
  entities := manifest.entities
  transforms := manifest.transforms.map fun edge =>
    ⟨edge.source,edge.target,some (edge.transform.map (Quad.map codec.write)),none⟩
  multiscales := none
  images := manifest.images.map fun image => image.serialize codec.write none
  sourceLayouts := manifest.sourceLayouts.map (layoutDocument codec.write)
  defaultLayoutId := manifest.defaultLayoutId
  labels := some (manifest.labels.map (LabelSpec.serialize codec.write))

theorem decode_inlineForm (carried : ∀ x ∈ manifest.numbers, codec.Carries x) :
    decode codec sizes (inlineForm codec manifest) = .ok manifest := by
  obtain ⟨edges,images,layouts,labels⟩ := DatasetManifest.forall_numbers.mp carried
  have transforms : (inlineForm codec manifest).transforms.mapM (TransformEdgeDocument.deserialize codec.read) =
      some (manifest.transforms.map fun edge => ⟨edge.source,edge.target,some edge.transform,none⟩) := by
    unfold inlineForm
    rw [List.mapM_map]
    refine mapM_some_map fun edge member => ?_
    have columns : ∀ column ∈ edge.transform.toList, Quad.traverse codec.read (column.map codec.write) = some column := by
      intro column there
      have each : ∀ x ∈ column.toList, codec.Carries x :=
        fun x here => edges edge member x (List.mem_flatMap.mpr ⟨column,there,here⟩)
      exact quadTraverse_some.mpr (forall_quadList.mp each)
    have whole : Quad.traverse (Quad.traverse codec.read) (edge.transform.map (Quad.map codec.write)) = some edge.transform :=
      quadTraverse_some.mpr (forall_quadList.mp columns)
    simp only [Function.comp_apply,TransformEdgeDocument.deserialize,optionally,whole]
    rfl
  have specs : (inlineForm codec manifest).images.mapM (ImageDocument.deserialize codec.read) =
      some (manifest.images.map fun image => ⟨image.imageId,image.owner,some image.multiscale,none⟩) := by
    unfold inlineForm
    rw [List.mapM_map]
    refine mapM_some_map fun image member => ?_
    rw [Function.comp_apply,image_deserialize,multiscaleAgain_carried (images image member)]
    rfl
  have placed : (inlineForm codec manifest).sourceLayouts.mapM (layoutRead codec.read) = some (manifest.sourceLayouts.map id) := by
    unfold inlineForm
    rw [List.mapM_map]
    exact mapM_some_map fun layout member => layoutAgain_carried (layouts layout member)
  have labelled : ((inlineForm codec manifest).labels.getD []).mapM (LabelDocument.deserialize codec.read) =
      some (manifest.labels.map id) := by
    unfold inlineForm
    rw [Option.getD_some,List.mapM_map]
    exact mapM_some_map fun label member => label_carried (labels label member)
  have read : (inlineForm codec manifest).deserialize codec.read = some ⟨none,manifest.datasetId,manifest.name,manifest.kind,
      manifest.entities,manifest.transforms.map fun edge => ⟨edge.source,edge.target,some edge.transform,none⟩,[],
      manifest.images.map fun image => ⟨image.imageId,image.owner,some image.multiscale,none⟩,manifest.sourceLayouts,
      manifest.defaultLayoutId,manifest.labels⟩ := by
    unfold ManifestDocument.deserialize
    rw [transforms,specs,placed,labelled,List.map_id,List.map_id]
    rfl
  have resolvedEdges : (manifest.transforms.map fun edge =>
      (⟨edge.source,edge.target,some edge.transform,none⟩ : TransformEdgeWire)).mapM TransformEdgeWire.resolve =
        .ok (manifest.transforms.map id) := by
    rw [List.mapM_map]
    exact mapM_ok_map fun edge _ => rfl
  have resolvedImages : resolveImages sizes [] 0 (manifest.images.map fun image =>
      ⟨image.imageId,image.owner,some image.multiscale,none⟩) = .ok (manifest.images.map id) := by
    refine (resolveImages_ok_iff _ (Nat.zero_le _)).mpr ⟨?_,?_⟩
    · rw [List.mapM_map]
      exact mapM_some_map fun image _ => rfl
    · rw [List.map_map,List.sum_eq_zero]
      · decide
      · intro weight member
        obtain ⟨image,_,rfl⟩ := List.mem_map.mp member
        rfl
  unfold decode
  rw [read]
  unfold DatasetManifestWire.tryInto
  dsimp only
  rw [resolvedEdges,ok_then,List.map_id]
  have none : (([] : List (MultiscaleInfo F64)).zipIdx).forM checkEntry = .ok () := rfl
  rw [none,ok_then,resolvedImages,ok_then,List.map_id]
  rfl

end Encoded

theorem manifest_round_trip {N : Type} (codec : NumberCodec N) (digest : DedupKey → UInt64) (sizes : Sizes)
    (manifest : DatasetManifest F64) (within : manifest.WithinCaps sizes) (carried : ∀ x ∈ manifest.numbers, codec.Carries x) :
    let document := encode codec digest manifest
    (∃ back, decode codec sizes document = .ok back ∧ back.eq manifest ∧ encode codec digest back = document) ∧
    document.multiscales.getD [] = ((Sharing.firstAppearances MultiscaleInfo.eq manifest.infos).filter fun info =>
      2 ≤ manifest.infos.countP info.eq).map (MultiscaleInfo.serialize codec.write) ∧
    (∀ image ∈ document.images, ∀ index, image.multiscaleRef = some index → index < (document.multiscales.getD []).length) ∧
    (document.formatVersion.isSome ↔
      document.multiscales.isSome ∨ ∃ edge ∈ document.transforms, edge.translation.isSome) := by
  intro document
  have lawful := carried_lawful carried digest
  refine ⟨⟨manifest.settled,decode_encode carried within,settled_eq carried,encode_settled carried within⟩,?_,?_,?_⟩
  · have table := Sharing.table_eq lawful
    unfold document
    rw [encode_multiscales,DatasetManifest.table,table]
  · intro image member index pointed
    unfold document at member ⊢
    rw [encode_images lawful] at member
    obtain ⟨spec,there,rfl⟩ := List.mem_map.mp member
    rw [encode_multiscales,List.length_map]
    rcases place_cases lawful (table_short lawful within) there with ⟨_,none,_⟩ | ⟨_,place,some,here⟩
    · rw [none] at pointed
      cases pointed
    · rw [some] at pointed
      cases pointed
      exact (List.getElem?_eq_some_iff.mp here).1
  · have translated : (∃ edge ∈ document.transforms, edge.translation.isSome) ↔
        manifest.transforms.any (fun edge => (asVoxelTranslation2d edge.transform).isSome) = true := by
      have shape : document.transforms = manifest.transforms.map (TransformEdge.serialize codec.write) := rfl
      rw [shape,List.any_eq_true]
      have same : ∀ edge : TransformEdge F64,
          (edge.serialize codec.write).translation.isSome = (asVoxelTranslation2d edge.transform).isSome := by
        intro edge
        unfold TransformEdge.serialize
        cases asVoxelTranslation2d edge.transform <;> rfl
      constructor
      · rintro ⟨_,member,some⟩
        obtain ⟨edge,there,rfl⟩ := List.mem_map.mp member
        exact ⟨edge,there,(same edge).symm.trans some⟩
      · rintro ⟨edge,there,some⟩
        exact ⟨_,List.mem_map_of_mem there,(same edge).trans some⟩
    rw [translated]
    unfold document encode DatasetManifest.serialize
    dsimp only
    by_cases empty : (SharedMultiscales.build digest manifest.images).table = [] <;> simp [empty]

instance {N : Type} (codec : NumberCodec N) (x : F64) : Decidable (codec.Carries x) :=
  inferInstanceAs (Decidable (codec.read (codec.write x) = some x))

-- Numbers as JSON has them: what is not finite is written as null.
def jsonNumbers : NumberCodec (Option F64) where
  write x := if x.isFinite then some x else none
  read token := token.filter F64.isFinite
  finite _ _ done := (Option.filter_eq_some_iff.mp done).2
  zero := by decide
  negZero := by decide
  one := by decide

def commonSizes : Sizes := ⟨160,32,168,80,40,48,by decide⟩

def onePixel (scale : F64) : LevelGeometry F64 :=
  ⟨0,⟨1,1,1,1,1⟩,⟨1,1,1,1,1⟩,⟨1,1,1,1,1⟩,⟨.one,.one,.one,.one,scale⟩⟩

def twoTiles (levels : List (LevelGeometry F64)) : DatasetManifest F64 :=
  let info : MultiscaleInfo F64 := ⟨[⟨"x",.space⟩],levels,none,[],.uint8,[],[],none⟩
  { datasetId := "ds"
    name := "tiles"
    kind := .single
    entities := []
    transforms := [⟨"b","a",translation2d .one .zero⟩]
    images := [⟨"a","a",info⟩,⟨"b","b",info⟩]
    sourceLayouts := []
    defaultLayoutId := none
    labels := [] }

theorem twoTiles_within : (twoTiles [onePixel .one]).WithinCaps commonSizes := ⟨by decide +kernel,by decide +kernel,by decide +kernel⟩

theorem twoTiles_carried : ∀ x ∈ (twoTiles [onePixel .one]).numbers, jsonNumbers.Carries x := by decide +kernel

theorem manifest_round_trip_of_two_tiles : ∃ back,
    decode jsonNumbers commonSizes (encode jsonNumbers (fun _ => 0) (twoTiles [onePixel .one])) = .ok back ∧
    back.eq (twoTiles [onePixel .one]) ∧
    encode jsonNumbers (fun _ => 0) back = encode jsonNumbers (fun _ => 0) (twoTiles [onePixel .one]) :=
  (manifest_round_trip jsonNumbers (fun _ => 0) commonSizes (twoTiles [onePixel .one]) twoTiles_within twoTiles_carried).1

theorem infinite_scale_is_lost : (twoTiles [onePixel .infinity]).WithinCaps commonSizes ∧
    decode jsonNumbers commonSizes (encode jsonNumbers (fun _ => 0) (twoTiles [onePixel .infinity])) = .error .json :=
  ⟨⟨by decide +kernel,by decide +kernel,by decide +kernel⟩,by decide +kernel⟩

theorem repersist_iff {N : Type} (codec : NumberCodec N) (digest : DedupKey → UInt64) (sizes : Sizes) :
    ∀ document manifest, decode codec sizes document = .ok manifest →
      ((∃ back, decode codec sizes (encode codec digest manifest) = .ok back ∧ back.eq manifest) ↔
        manifest.WithinCaps sizes ∧ ∀ x ∈ manifest.numbers, codec.Carries x) := by
  intro document manifest _
  constructor
  · rintro ⟨back,decoded,same⟩
    exact of_decode_encode decoded same
  · rintro ⟨within,carried⟩
    exact ⟨manifest.settled,decode_encode carried within,settled_eq carried⟩

theorem repersist_two_tiles : ∃ back,
    decode jsonNumbers commonSizes (encode jsonNumbers (fun _ => 0) (twoTiles [onePixel .one])) = .ok back ∧
      back.eq (twoTiles [onePixel .one]) :=
  (repersist_iff jsonNumbers (fun _ => 0) commonSizes (inlineForm jsonNumbers (twoTiles [onePixel .one])) _
    (decode_inlineForm twoTiles_carried)).mpr ⟨twoTiles_within,twoTiles_carried⟩

-- An inline document may repeat a multiscale that is too deep for the table.
theorem deep_tiles_cannot_be_loaded_again : decode jsonNumbers commonSizes (inlineForm jsonNumbers (twoTiles (List.replicate 1025 (onePixel .one)))) =
      .ok (twoTiles (List.replicate 1025 (onePixel .one))) ∧
    decode jsonNumbers commonSizes (encode jsonNumbers (fun _ => 0) (twoTiles (List.replicate 1025 (onePixel .one)))) =
      .error (.custom "shared multiscale 0 declares 1025 levels, which exceeds the decode limit of 1024") := by
  decide +kernel

end Lucida.Content.Graph
