import Lucida.Lib.Comparator
import Lucida.Lib.Framing
import Lucida.Proxy.SourceHash

namespace Lucida.Proxy
open Lib Content.Graph
open Content (EntityId ImageId EntityKind DataType Axes LevelGeometry)

-- What of a manifest is hashed.

structure HashedImage (R : Type) where
  imageId : ImageId
  dataType : DataType
  axes : List Axis
  levels : List (LevelGeometry R)
  deriving DecidableEq, Repr

structure Contributor (R : Type) where
  id : EntityId
  edges : List (TransformEdge R)
  images : List (HashedImage R)
  deriving DecidableEq, Repr

section
variable {R : Type} (content : DatasetManifest R)

def hashedImage (image : ImageSpec R) : HashedImage R :=
  ⟨image.imageId,image.multiscale.dataType,image.multiscale.axes,image.multiscale.levels⟩

def contributor (id : EntityId) : Contributor R := ⟨id,edgesOf content id,(ownedImages content id).map hashedImage⟩

def hashedContent (entityId : EntityId) : List (Contributor R) := (contributors content entityId).map (contributor content)

end

-- The bytes of each piece behind its tag.
section Bodies
variable {R : Type} (toLeBytes : R → List UInt8)

def edgeBody (edge : TransformEdge R) : List UInt8 :=
  asBytes edge.source ++ asBytes "->" ++ asBytes edge.target ++ edge.transform.toList.flatMap fun column => column.toList.flatMap toLeBytes

def axisBody (axis : Axis) : List UInt8 := asBytes axis.name ++ asBytes ":" ++ asBytes (debugAxisKind axis.kind)

def levelBody (level : LevelGeometry R) : List UInt8 :=
  LittleEndian.toBytes 4 level.levelIndex ++ (axesList level.shape).flatMap (LittleEndian.toBytes 8) ++
    (axesList level.chunkShape).flatMap (LittleEndian.toBytes 8) ++ (axesList level.gridShape).flatMap (LittleEndian.toBytes 8) ++
    (axesList level.scale).flatMap toLeBytes

def imageBody (image : HashedImage R) : List UInt8 :=
  asBytes image.imageId ++ asBytes "\ndtype:" ++ asBytes (debugDataType image.dataType) ++
    image.axes.flatMap (fun axis => asBytes "\naxis:" ++ axisBody axis) ++
    image.levels.flatMap (fun level => asBytes "\nlevel:" ++ levelBody toLeBytes level)

def contributorBody (contributor : Contributor R) : List UInt8 :=
  asBytes contributor.id ++ contributor.edges.flatMap (fun edge => asBytes "\nedge:" ++ edgeBody toLeBytes edge) ++
    contributor.images.flatMap (fun image => asBytes "\nimage:" ++ imageBody toLeBytes image)

theorem axisBytes_eq (axis : Axis) : axisBytes axis = asBytes "\naxis:" ++ axisBody axis := by
  simp only [axisBytes,axisBody,List.append_assoc]

theorem levelBytes_eq (level : LevelGeometry R) : levelBytes toLeBytes level = asBytes "\nlevel:" ++ levelBody toLeBytes level := by
  simp only [levelBytes,levelBody,List.append_assoc]

theorem edgeBytes_eq (edge : TransformEdge R) : edgeBytes toLeBytes edge = asBytes "\nedge:" ++ edgeBody toLeBytes edge := by
  simp only [edgeBytes,edgeBody,List.append_assoc]

theorem imageBytes_eq (image : ImageSpec R) : imageBytes toLeBytes image = asBytes "\nimage:" ++ imageBody toLeBytes (hashedImage image) := by
  rw [imageBytes,funext axisBytes_eq,funext (levelBytes_eq toLeBytes)]
  simp only [imageBody,hashedImage,List.append_assoc]

variable (content : DatasetManifest R)

theorem contributorBytes_eq (id : EntityId) :
    contributorBytes toLeBytes content id = asBytes "\nentity:" ++ contributorBody toLeBytes (contributor content id) := by
  rw [contributorBytes,funext (edgeBytes_eq toLeBytes),funext (imageBytes_eq toLeBytes)]
  simp only [contributorBody,contributor,List.append_assoc,List.flatMap_map]

theorem sourceContentBytes_eq (entityId : EntityId) (t c : Nat) : sourceContentBytes toLeBytes content entityId t c =
    asBytes "lucida-proxy/source-content/v1" ++ LittleEndian.toBytes 4 t ++ LittleEndian.toBytes 4 c ++ asBytes entityId ++ [0] ++
      [entityKindTag ((findEntity content entityId).map Entity.kind)] ++
      (hashedContent content entityId).flatMap fun contributor => asBytes "\nentity:" ++ contributorBody toLeBytes contributor := by
  rw [sourceContentBytes,funext (contributorBytes_eq toLeBytes content),hashedContent,List.flatMap_map]

end Bodies

-- Where ids hold no byte that ends them, each piece ends where the next one begins.
section Framing
variable {R : Type} {toLeBytes : R → List UInt8} {numbers : Set R}

def newline : UInt8 := 10

def greater : UInt8 := 62

theorem asBytes_injective {first second : String} (same : asBytes first = asBytes second) : first = second := by
  have decoded := congrArg Utf8.decode same
  rw [asBytes,asBytes,Utf8.decode_encode,Utf8.decode_encode] at decoded
  exact String.toList_injective decoded

theorem frames_text (stop : UInt8) :
    Frames asBytes (fun first second => stop ∉ asBytes first ∧ stop ∉ asBytes second) fun rest => rest = [] ∨ [stop] <+: rest :=
  Frames.of_stop stop (fun _ _ free => free) fun _ _ _ same => asBytes_injective same

theorem frames_word (width : Nat) :
    Frames (LittleEndian.toBytes width) (fun n m => n < 256^width ∧ m < 256^width) fun _ => True :=
  Frames.of_length (fun _ _ _ => ⟨LittleEndian.length_toBytes width _,LittleEndian.length_toBytes width _⟩)
    (fun n m fits same => by rw [← LittleEndian.value_toBytes fits.1,same,LittleEndian.value_toBytes fits.2]) _

structure Tells (toLeBytes : R → List UInt8) (numbers : Set R) : Prop where
  sized : ∀ number ∈ numbers, (toLeBytes number).length = 8
  injective : Set.InjOn toLeBytes numbers

theorem Tells.frames (tells : Tells toLeBytes numbers) :
    Frames toLeBytes (fun n m => n ∈ numbers ∧ m ∈ numbers) fun _ => True :=
  Frames.of_length (fun n m both => ⟨tells.sized n both.1,tells.sized m both.2⟩)
    (fun _ _ both same => tells.injective both.1 both.2 same) _

theorem axesList_injective {α : Type} {first second : Axes α} (same : axesList first = axesList second) : first = second := by
  cases first
  cases second
  cases same
  rfl

-- Five of a kind, one for each axis.
theorem frames_axes {α : Type} {enc : α → List UInt8} {fits : α → α → Prop} (frames : Frames enc fits fun _ => True) :
    Frames (fun axes : Axes α => (axesList axes).flatMap enc) (fun a b => ∀ n ∈ axesList a, ∀ m ∈ axesList b, fits n m) fun _ => True := by
  intro a b r s both _ _ same
  obtain ⟨axes,rest⟩ := frames.counted (fun _ => True) (axesList a) (axesList b) r s ⟨rfl,both⟩ trivial trivial same
  exact ⟨axesList_injective axes,rest⟩

structure SizedLevel (numbers : Set R) (level : LevelGeometry R) : Prop where
  index : level.levelIndex < 2^32
  shape : ∀ n ∈ axesList level.shape, n < 2^64
  chunkShape : ∀ n ∈ axesList level.chunkShape, n < 2^64
  gridShape : ∀ n ∈ axesList level.gridShape, n < 2^64
  scale : ∀ number ∈ axesList level.scale, number ∈ numbers

theorem frames_level (tells : Tells toLeBytes numbers) :
    Frames (levelBody toLeBytes) (fun a b => SizedLevel numbers a ∧ SizedLevel numbers b) fun _ => True := by
  intro a b r s ⟨sized,sized'⟩ _ _ same
  unfold levelBody at same
  simp only [List.append_assoc] at same
  obtain ⟨index,same⟩ := frames_word 4 _ _ _ _ ⟨sized.index,sized'.index⟩ trivial trivial same
  obtain ⟨shape,same⟩ := frames_axes (frames_word 8) _ _ _ _ (fun n member m member' => ⟨sized.shape n member,sized'.shape m member'⟩)
    trivial trivial same
  obtain ⟨chunkShape,same⟩ := frames_axes (frames_word 8) _ _ _ _
    (fun n member m member' => ⟨sized.chunkShape n member,sized'.chunkShape m member'⟩) trivial trivial same
  obtain ⟨gridShape,same⟩ := frames_axes (frames_word 8) _ _ _ _
    (fun n member m member' => ⟨sized.gridShape n member,sized'.gridShape m member'⟩) trivial trivial same
  obtain ⟨scale,rest⟩ := frames_axes tells.frames _ _ _ _ (fun n member m member' => ⟨sized.scale n member,sized'.scale m member'⟩)
    trivial trivial same
  cases a
  cases b
  cases index
  cases shape
  cases chunkShape
  cases gridShape
  cases scale
  exact ⟨rfl,rest⟩

theorem debugAxisKind_of_suffix {kind other : AxisKind}
    (last : asBytes ":" ++ asBytes (debugAxisKind kind) <:+ asBytes ":" ++ asBytes (debugAxisKind other)) : kind = other := by
  revert last
  cases kind <;> cases other <;> decide

theorem axisBody_injective {axis other : Axis} (same : axisBody axis = axisBody other) : axis = other := by
  obtain ⟨name,kind⟩ := axis
  obtain ⟨name',kind'⟩ := other
  unfold axisBody at same
  rw [List.append_assoc,List.append_assoc] at same
  have kinds : kind = kind' := by
    rcases List.suffix_or_suffix_of_suffix (List.suffix_append (asBytes name) _) (same ▸ List.suffix_append (asBytes name') _) with within | within
    · exact debugAxisKind_of_suffix within
    · exact (debugAxisKind_of_suffix within).symm
  cases kinds
  cases asBytes_injective (List.append_cancel_right same)
  rfl

theorem newline_free_axis {axis : Axis} (free : newline ∉ asBytes axis.name) : newline ∉ axisBody axis := by
  have kind : newline ∉ asBytes (debugAxisKind axis.kind) := by
    cases axis.kind <;> decide
  unfold axisBody
  rw [List.mem_append,List.mem_append]
  rintro ((name | colon) | member)
  · exact free name
  · exact absurd colon (by decide)
  · exact kind member

theorem frames_axis : Frames axisBody (fun a b => newline ∉ asBytes a.name ∧ newline ∉ asBytes b.name) fun rest => rest = [] ∨ [newline] <+: rest :=
  Frames.of_stop newline (fun _ _ free => ⟨newline_free_axis free.1,newline_free_axis free.2⟩) fun _ _ _ same => axisBody_injective same

theorem debugDataType_injective {dataType other : DataType} (same : debugDataType dataType = debugDataType other) : dataType = other := by
  revert same
  cases dataType <;> cases other <;> decide

theorem newline_free_dataType (dataType : DataType) : newline ∉ asBytes (debugDataType dataType) := by
  cases dataType <;> decide

structure PlainImage (numbers : Set R) (image : HashedImage R) : Prop where
  imageId : newline ∉ asBytes image.imageId
  axes : ∀ axis ∈ image.axes, newline ∉ asBytes axis.name
  levels : ∀ level ∈ image.levels, SizedLevel numbers level

theorem frames_image (tells : Tells toLeBytes numbers) :
    Frames (imageBody toLeBytes) (fun a b => PlainImage numbers a ∧ PlainImage numbers b)
      (Next [asBytes "\nimage:",asBytes "\nentity:"]) := by
  intro a b r s ⟨plain,plain'⟩ ends ends' same
  unfold imageBody at same
  simp only [List.append_assoc] at same
  have begins (rest : List UInt8) : asBytes "\ndtype:" ++ rest = [] ∨ [newline] <+: asBytes "\ndtype:" ++ rest :=
    .inr ((show [newline] <+: asBytes "\ndtype:" by decide).trans (List.prefix_append _ _))
  have levels (image : HashedImage R) {rest : List UInt8} (ends : Next [asBytes "\nimage:",asBytes "\nentity:"] rest) :
      Next [asBytes "\nlevel:",asBytes "\nimage:",asBytes "\nentity:"]
        (image.levels.flatMap (fun level => asBytes "\nlevel:" ++ levelBody toLeBytes level) ++ rest) :=
    Frames.next_list image.levels ends
  have axes (image : HashedImage R) {rest : List UInt8} (ends : Next [asBytes "\nlevel:",asBytes "\nimage:",asBytes "\nentity:"] rest) :
      image.axes.flatMap (fun axis => asBytes "\naxis:" ++ axisBody axis) ++ rest = [] ∨
        [newline] <+: image.axes.flatMap (fun axis => asBytes "\naxis:" ++ axisBody axis) ++ rest :=
    Frames.next_starts (by decide) (Frames.next_list image.axes ends)
  obtain ⟨imageId,same⟩ := frames_text newline _ _ _ _ ⟨plain.imageId,plain'.imageId⟩ (begins _) (begins _) same
  obtain ⟨dataType,same⟩ := frames_text newline _ _ _ _ ⟨newline_free_dataType _,newline_free_dataType _⟩
    (axes a (levels a ends)) (axes b (levels b ends')) (List.append_cancel_left same)
  obtain ⟨axes,same⟩ := Frames.list (by decide) (by decide) (frames_axis.mono fun _ => Frames.next_starts (by decide)) _ _ _ _
    (fun axis member other member' => ⟨plain.axes axis member,plain'.axes other member'⟩) (levels a ends) (levels b ends') same
  obtain ⟨levels,rest⟩ := Frames.list (by decide) (by decide) ((frames_level tells).mono fun _ _ => trivial) _ _ _ _
    (fun level member other member' => ⟨plain.levels level member,plain'.levels other member'⟩) ends ends' same
  cases a
  cases b
  cases imageId
  cases debugDataType_injective dataType
  cases axes
  cases levels
  exact ⟨rfl,rest⟩

def entries (matrix : VoxelTransform R) : List R := matrix.toList.flatMap Quad.toList

structure PlainEdge (numbers : Set R) (edge : TransformEdge R) : Prop where
  source : greater ∉ asBytes edge.source
  transform : ∀ number ∈ entries edge.transform, number ∈ numbers

def TargetsApart (edge other : TransformEdge R) : Prop :=
  edge.source = other.source → (asBytes edge.target <+: asBytes other.target ∨ asBytes other.target <+: asBytes edge.target) →
    edge.target = other.target

theorem entries_injective {matrix other : VoxelTransform R} (same : entries matrix = entries other) : matrix = other := by
  obtain ⟨⟨a,b,c,d⟩,⟨e,f,g,h⟩,⟨i,j,k,l⟩,⟨m,n,o,p⟩⟩ := matrix
  obtain ⟨⟨a',b',c',d'⟩,⟨e',f',g',h'⟩,⟨i',j',k',l'⟩,⟨m',n',o',p'⟩⟩ := other
  cases same
  rfl

theorem frames_edge (tells : Tells toLeBytes numbers) (next : List UInt8 → Prop) :
    Frames (edgeBody toLeBytes) (fun a b => PlainEdge numbers a ∧ PlainEdge numbers b ∧ TargetsApart a b) next := by
  intro a b r s ⟨plain,plain',apart⟩ ends ends' same
  have way (edge : TransformEdge R) : edgeBody toLeBytes edge =
      (asBytes edge.source ++ asBytes "-") ++ (asBytes ">" ++ (asBytes edge.target ++ (entries edge.transform).flatMap toLeBytes)) := by
    have arrow : asBytes "->" = asBytes "-" ++ asBytes ">" := by decide
    rw [edgeBody,arrow,entries,List.flatMap_assoc]
    simp only [List.append_assoc]
  have dashed {source : EntityId} (free : greater ∉ asBytes source) : greater ∉ asBytes source ++ asBytes "-" := by
    rw [List.mem_append]
    exact fun member => member.elim free (by decide)
  have sources : Frames (fun source => asBytes source ++ asBytes "-")
      (fun first second => greater ∉ asBytes first ∧ greater ∉ asBytes second) fun rest => rest = [] ∨ [greater] <+: rest :=
    Frames.of_stop greater (fun _ _ free => ⟨dashed free.1,dashed free.2⟩)
      fun _ _ _ same => asBytes_injective (List.append_cancel_right same)
  have targets : Frames asBytes (fun first second => (asBytes first <+: asBytes second ∨ asBytes second <+: asBytes first) → first = second)
      fun _ => True := Frames.of_prefix (fun _ _ apart => apart) _
  rw [way,way] at same
  simp only [List.append_assoc] at same
  obtain ⟨source,same⟩ := sources a.source b.source (asBytes ">" ++ (asBytes a.target ++ ((entries a.transform).flatMap toLeBytes ++ r)))
    (asBytes ">" ++ (asBytes b.target ++ ((entries b.transform).flatMap toLeBytes ++ s))) ⟨plain.source,plain'.source⟩
    (.inr (List.prefix_append (asBytes ">") _)) (.inr (List.prefix_append (asBytes ">") _))
    (by simpa only [List.append_assoc] using same)
  obtain ⟨target,same⟩ := targets _ _ _ _ (apart source) trivial trivial (List.append_cancel_left same)
  obtain ⟨transform,rest⟩ := tells.frames.counted next (entries a.transform) (entries b.transform) _ _
    ⟨rfl,fun n member m member' => ⟨plain.transform n member,plain'.transform m member'⟩⟩ ends ends' same
  cases a
  cases b
  cases source
  cases target
  cases entries_injective transform
  exact ⟨rfl,rest⟩

structure PlainContributor (numbers : Set R) (contributor : Contributor R) : Prop where
  id : newline ∉ asBytes contributor.id
  edges : ∀ edge ∈ contributor.edges, PlainEdge numbers edge
  images : ∀ image ∈ contributor.images, PlainImage numbers image

theorem frames_contributor (tells : Tells toLeBytes numbers) :
    Frames (contributorBody toLeBytes)
      (fun a b => PlainContributor numbers a ∧ PlainContributor numbers b ∧ ∀ edge ∈ a.edges, ∀ other ∈ b.edges, TargetsApart edge other)
      (Next [asBytes "\nentity:"]) := by
  intro a b r s ⟨plain,plain',apart⟩ ends ends' same
  unfold contributorBody at same
  simp only [List.append_assoc] at same
  have images (contributor : Contributor R) {rest : List UInt8} (ends : Next [asBytes "\nentity:"] rest) :
      Next [asBytes "\nimage:",asBytes "\nentity:"]
        (contributor.images.flatMap (fun image => asBytes "\nimage:" ++ imageBody toLeBytes image) ++ rest) :=
    Frames.next_list contributor.images ends
  have edges (contributor : Contributor R) {rest : List UInt8} (ends : Next [asBytes "\nimage:",asBytes "\nentity:"] rest) :
      contributor.edges.flatMap (fun edge => asBytes "\nedge:" ++ edgeBody toLeBytes edge) ++ rest = [] ∨
        [newline] <+: contributor.edges.flatMap (fun edge => asBytes "\nedge:" ++ edgeBody toLeBytes edge) ++ rest :=
    Frames.next_starts (by decide) (Frames.next_list contributor.edges ends)
  obtain ⟨id,same⟩ := frames_text newline _ _ _ _ ⟨plain.id,plain'.id⟩ (edges a (images a ends)) (edges b (images b ends')) same
  obtain ⟨edges,same⟩ := Frames.list (by decide) (by decide) (frames_edge tells _) _ _ _ _
    (fun edge member other member' => ⟨plain.edges edge member,plain'.edges other member',apart edge member other member'⟩)
    (images a ends) (images b ends') same
  obtain ⟨images,rest⟩ := Frames.list (by decide) (by decide) (frames_image tells) _ _ _ _
    (fun image member other member' => ⟨plain.images image member,plain'.images other member'⟩) ends ends' same
  cases a
  cases b
  cases id
  cases edges
  cases images
  exact ⟨rfl,rest⟩

-- Ids and axis names are one line each, sources hold no `>`, and sizes and numbers fit their bytes.
structure Plain (numbers : Set R) (content : DatasetManifest R) : Prop where
  entities : ∀ entity ∈ content.entities, newline ∉ asBytes entity.id
  transforms : ∀ edge ∈ content.transforms, PlainEdge numbers edge
  images : ∀ image ∈ content.images, PlainImage numbers (hashedImage image)

theorem mem_contributors {content : DatasetManifest R} {entityId id : EntityId} (member : id ∈ contributors content entityId) :
    (∃ tile ∈ content.entities, tile.id = id) ∨ id = entityId := by
  rcases List.mem_append.mp member with tile | own
  · left
    split at tile
    · obtain ⟨entity,child,named⟩ := List.mem_map.mp ((List.mem_insertionSort _).mp tile)
      exact ⟨entity,(List.mem_filter.mp child).1,named⟩
    · cases tile
  · exact .inr (List.mem_singleton.mp own)

theorem mem_edgesOf {content : DatasetManifest R} {id : EntityId} {edge : TransformEdge R} (member : edge ∈ edgesOf content id) :
    edge ∈ content.transforms := (List.mem_filter.mp ((List.mem_insertionSort _).mp member)).1

theorem mem_ownedImages {content : DatasetManifest R} {id : EntityId} {image : ImageSpec R} :
    image ∈ ownedImages content id ↔ image ∈ content.images ∧ image.owner = id := by
  rw [ownedImages,List.mem_insertionSort,List.mem_filter,decide_eq_true_eq]

variable {content other : DatasetManifest R} {entityId : EntityId}

theorem Plain.contributor (plain : Plain numbers content) (known : newline ∉ asBytes entityId) {piece : Contributor R}
    (hashed : piece ∈ hashedContent content entityId) :
    PlainContributor numbers piece ∧ ∀ edge ∈ piece.edges, edge ∈ content.transforms := by
  obtain ⟨id,among,rfl⟩ := List.mem_map.mp hashed
  refine ⟨⟨?_,fun edge member => plain.transforms edge (mem_edgesOf member),fun image member => ?_⟩,fun edge member => mem_edgesOf member⟩
  · rcases mem_contributors among with ⟨tile,listed,rfl⟩ | rfl
    · exact plain.entities tile listed
    · exact known
  · obtain ⟨spec,owned,rfl⟩ := List.mem_map.mp member
    exact plain.images spec (mem_ownedImages.mp owned).1

theorem entityKindTag_injective {kind kind' : Option EntityKind} (same : entityKindTag kind = entityKindTag kind') : kind = kind' := by
  revert same
  rcases kind with _ | _ | _ | _ <;> rcases kind' with _ | _ | _ | _ <;> decide

theorem kind_of_bytes {t c : Nat}
    (same : sourceContentBytes toLeBytes content entityId t c = sourceContentBytes toLeBytes other entityId t c) :
    (findEntity content entityId).map Entity.kind = (findEntity other entityId).map Entity.kind := by
  have front := (List.append_inj same (by simp only [List.length_append,List.length_singleton])).1
  exact entityKindTag_injective (List.singleton_inj.mp (List.append_cancel_left front))

theorem hashed_of_bytes (tells : Tells toLeBytes numbers) (plain : Plain numbers content) (plain' : Plain numbers other)
    (apart : ∀ edge ∈ content.transforms, ∀ edge' ∈ other.transforms, TargetsApart edge edge') (known : newline ∉ asBytes entityId) {t c : Nat}
    (same : sourceContentBytes toLeBytes content entityId t c = sourceContentBytes toLeBytes other entityId t c) :
    hashedContent content entityId = hashedContent other entityId := by
  rw [sourceContentBytes_eq,sourceContentBytes_eq] at same
  have pieces := (List.append_inj same (by simp only [List.length_append,List.length_singleton])).2
  have frames := Frames.list (show asBytes "\nentity:" ≠ [] by decide) (fun _ member => absurd member List.not_mem_nil) (frames_contributor tells)
  refine (frames _ _ [] [] (fun piece hashed piece' hashed' => ?_) (.inl rfl) (.inl rfl) (congrArg (· ++ []) pieces)).1
  obtain ⟨whole,listed⟩ := plain.contributor known hashed
  obtain ⟨whole',listed'⟩ := plain'.contributor known hashed'
  exact ⟨whole,whole',fun edge member edge' member' => apart edge (listed edge member) edge' (listed' edge' member')⟩

end Framing

-- What the hashed content settles.
section Settled
variable {R : Type} {content other : DatasetManifest R} {entityId id : EntityId}

theorem contributor_of_hashed (same : hashedContent content entityId = hashedContent other entityId) (among : id ∈ contributors content entityId) :
    id ∈ contributors other entityId ∧ edgesOf content id = edgesOf other id ∧
      (ownedImages content id).map hashedImage = (ownedImages other id).map hashedImage := by
  have hashed : contributor content id ∈ hashedContent other entityId := same ▸ List.mem_map_of_mem among
  obtain ⟨id',among',whole⟩ := List.mem_map.mp hashed
  injection whole with sameId edges images
  cases sameId
  exact ⟨among',edges.symm,images.symm⟩

-- An edge that is listed first among those between the same ends is still first when they are sorted.
theorem find?_edgesOf (content : DatasetManifest R) (source target : EntityId) :
    (edgesOf content source).find? (fun edge => edge.source = source ∧ edge.target = target) =
      content.transforms.find? fun edge => edge.source = source ∧ edge.target = target := by
  unfold edgesOf
  rw [find?_insertionSort,List.find?_filter]
  · congr 1
    funext edge
    simp only [decide_eq_true_eq,decide_eq_decide]
    exact ⟨And.right,fun ends => ⟨.inl ends.1,ends⟩⟩
  · intro edge _ edge' _ ends ends'
    obtain ⟨source,target⟩ := of_decide_eq_true ends
    obtain ⟨source',target'⟩ := of_decide_eq_true ends'
    exact .inr ⟨source.trans source'.symm,(target.trans target'.symm).le⟩

end Settled
end Lucida.Proxy
