import Lucida.Content.Manifest
import Lucida.Lib.Sharing
import Lucida.Lib.Traverse

namespace Lucida.Protocol
open Lib Content

inductive WireFormat where
  | raw (dataType : DataType)
  | lz4 (dataType : DataType)
  | zstd (dataType : DataType)
  deriving DecidableEq, Repr

structure ProxiedImageSpec where
  imageId : ImageId
  wireFormat : WireFormat
  deriving DecidableEq, Repr

structure ProxiedFetchDescriptor where
  images : List ProxiedImageSpec
  deriving DecidableEq, Repr

def compactFetchFormatVersion : UInt32 := 2

-- The wire form, field by field. A field that may be absent is optional.
structure ProxiedImageDocument where
  imageId : ImageId
  wireFormat : Option WireFormat
  wireFormatRef : Option UInt32
  deriving DecidableEq, Repr

structure FetchDocument where
  formatVersion : Option UInt32
  images : List ProxiedImageDocument
  wireFormats : Option (List WireFormat)
  deriving DecidableEq, Repr

section Serialize

-- The state of the first loop: the distinct formats with how many images use each, where to find a
-- format among them, and where each image's format went.
structure Distinct where
  distinct : List (WireFormat × Nat)
  distinctByFormat : HashMap WireFormat Nat
  membership : List Nat

def Distinct.turn (state : Distinct) (format : WireFormat) : Distinct :=
  match state.distinctByFormat.lookup format with
  | some index => ⟨state.distinct.modify index fun entry => (entry.1,entry.2+1),state.distinctByFormat,state.membership ++ [index]⟩
  | none => ⟨state.distinct ++ [(format,1)],state.distinctByFormat.insert format state.distinct.length,
      state.membership ++ [state.distinct.length]⟩

def Distinct.ofImages (images : List ProxiedImageSpec) : Distinct :=
  (images.map ProxiedImageSpec.wireFormat).foldl turn ⟨[],∅,[]⟩

def Distinct.table (state : Distinct) : List WireFormat := Sharing.tableOf state.distinct

-- An index into the table is cast to 32 bits.
def Distinct.refs (state : Distinct) : List (Option UInt32) :=
  let tableIndexByDistinct := Sharing.placesFrom 0 state.distinct
  state.membership.map fun index => (tableIndexByDistinct[index]?).join.map UInt32.ofNat

def ProxiedImageSpec.serialize (image : ProxiedImageSpec) : Option UInt32 → ProxiedImageDocument
  | some index => ⟨image.imageId,none,some index⟩
  | none => ⟨image.imageId,some image.wireFormat,none⟩

def ProxiedFetchDescriptor.serialize (descriptor : ProxiedFetchDescriptor) : FetchDocument :=
  let state := Distinct.ofImages descriptor.images
  { formatVersion := if state.table = [] then none else some compactFetchFormatVersion
    images := List.zipWith ProxiedImageSpec.serialize descriptor.images state.refs
    wireFormats := if state.table = [] then none else some state.table }

end Serialize

section TryFrom

def ProxiedImageDocument.resolve (formats : List WireFormat) (image : ProxiedImageDocument) : Except String ProxiedImageSpec :=
  match image.wireFormat,image.wireFormatRef with
  | some format,none => .ok ⟨image.imageId,format⟩
  | none,some index =>
    match formats[index.toNat]? with
    | some format => .ok ⟨image.imageId,format⟩
    | none => .error ("proxied image " ++ image.imageId ++ " references shared wire format " ++ toString index ++
        ", but the descriptor declares " ++ toString formats.length ++ " shared format(s)")
  | some _,some _ => .error ("proxied image " ++ image.imageId ++ " carries both an inline wire format and a wire_format_ref")
  | none,none => .error ("proxied image " ++ image.imageId ++ " carries neither a wire format nor a wire_format_ref")

-- The marker is not read.
def FetchDocument.tryFrom (wire : FetchDocument) : Except String ProxiedFetchDescriptor :=
  (wire.images.mapM (ProxiedImageDocument.resolve (wire.wireFormats.getD []))).map ProxiedFetchDescriptor.mk

def FetchDocument.recode (wire : FetchDocument) : Except String FetchDocument :=
  wire.tryFrom.map ProxiedFetchDescriptor.serialize

end TryFrom

section Table
variable {formats rest : List WireFormat} {format : WireFormat} {state : Distinct}

def alike (format other : WireFormat) : Bool := decide (format = other)

def noHash (_ : WireFormat) : UInt64 := 0

@[simp] theorem alike_iff (format other : WireFormat) : alike format other = true ↔ format = other := decide_eq_true_iff

theorem alike_lawful (formats : List WireFormat) : Sharing.Lawful alike noHash formats where
  self _ _ := by simp
  symm x y same := by
    rw [alike_iff] at same ⊢
    exact same.symm
  trans x y z same same' := by
    rw [alike_iff] at same same' ⊢
    exact same.trans same'
  hashed _ _ _ := rfl

-- What the loop knows of the formats it has seen. The buckets are of no use where a key is compared itself.
structure Counted (formats : List WireFormat) (state : Distinct) : Prop where
  grouped : ∃ byHash, Sharing.Grouped alike noHash formats ⟨state.distinct,byHash,state.membership⟩
  found : ∀ format index, state.distinctByFormat.lookup format = some index ↔
    (Sharing.firstAppearances alike formats)[index]? = some format

theorem counted_nil : Counted [] ⟨[],∅,[]⟩ where
  grouped := ⟨∅,Sharing.grouped_nil⟩
  found format index := by simp [Sharing.firstAppearances]

theorem Counted.turn (counted : Counted formats state) (format : WireFormat) : Counted (formats ++ [format]) (state.turn format) := by
  obtain ⟨byHash,grouped⟩ := counted.grouped
  have lawful := alike_lawful (formats ++ [format])
  unfold Distinct.turn
  split
  · rename_i index known
    have here := (counted.found format index).mp known
    refine ⟨⟨byHash,Sharing.turn_known lawful grouped here ((alike_iff ..).mpr rfl)⟩,?_⟩
    have seen : formats.any (alike · format) :=
      List.any_eq_true.mpr ⟨format,Sharing.mem_of_first (List.mem_of_getElem? here),(alike_iff ..).mpr rfl⟩
    rw [Sharing.firsts_append,if_pos seen]
    exact counted.found
  · rename_i unknown
    have apart : ∀ other ∈ Sharing.firstAppearances alike formats, alike other format = false := by
      intro other first
      obtain ⟨index,here⟩ := List.mem_iff_getElem?.mp first
      refine Bool.eq_false_iff.mpr fun same => ?_
      rw [alike_iff] at same
      subst same
      rw [(counted.found other index).mpr here] at unknown
      cases unknown
    have unseen : ¬formats.any (alike · format) := by
      intro seen
      obtain ⟨other,member,same⟩ := List.any_eq_true.mp seen
      obtain ⟨first,found,like⟩ := Sharing.exists_first (alike_lawful formats) member
      rw [alike_iff] at same like
      exact absurd ((alike_iff first format).mpr (like.trans same)) (by simp [apart first found])
    refine ⟨⟨_,Sharing.turn_new lawful (fun _ member => member) grouped apart⟩,?_⟩
    intro other index
    have length : state.distinct.length = (Sharing.firstAppearances alike formats).length :=
      (congrArg List.length grouped.distinct).trans (List.length_map ..)
    dsimp only
    rw [Sharing.firsts_append,if_neg unseen,HashMap.lookup_insert_if,length]
    by_cases new : other = format
    · subst new
      rw [if_pos rfl]
      constructor
      · intro same
        cases same
        simp
      · intro here
        by_cases short : index < (Sharing.firstAppearances alike formats).length
        · rw [List.getElem?_append_left short,← counted.found,unknown] at here
          cases here
        · have last := (List.getElem?_eq_some_iff.mp here).1
          rw [List.length_append,List.length_singleton] at last
          exact congrArg some (by omega)
    · rw [if_neg new,counted.found]
      constructor
      · intro here
        rw [List.getElem?_append_left (List.getElem?_eq_some_iff.mp here).1]
        exact here
      · intro here
        by_cases short : index < (Sharing.firstAppearances alike formats).length
        · rwa [List.getElem?_append_left short] at here
        · rw [List.getElem?_append_right (Nat.le_of_not_lt short)] at here
          exact absurd (List.mem_singleton.mp (List.mem_of_getElem? here)) new

theorem Counted.foldl (counted : Counted formats state) (rest : List WireFormat) :
    Counted (formats ++ rest) (rest.foldl Distinct.turn state) := by
  induction rest generalizing formats state with
  | nil => rwa [List.append_nil]
  | cons format rest ih =>
    have whole := ih (counted.turn format)
    rwa [List.append_assoc,List.singleton_append] at whole

end Table

def ProxiedFetchDescriptor.formats (descriptor : ProxiedFetchDescriptor) : List WireFormat :=
  descriptor.images.map ProxiedImageSpec.wireFormat

section RoundTrip
variable {descriptor : ProxiedFetchDescriptor} {image : ProxiedImageSpec} {format : WireFormat}

theorem ofImages_counted (images : List ProxiedImageSpec) :
    Counted (images.map ProxiedImageSpec.wireFormat) (Distinct.ofImages images) := by
  have whole := counted_nil.foldl (images.map ProxiedImageSpec.wireFormat)
  rwa [List.nil_append] at whole

theorem ofImages_shared (descriptor : ProxiedFetchDescriptor) :
    (Distinct.ofImages descriptor.images).table = Sharing.table alike noHash descriptor.formats ∧
      (Distinct.ofImages descriptor.images).refs =
        descriptor.formats.map fun format => (Sharing.placeOf alike noHash descriptor.formats format).map UInt32.ofNat := by
  have lawful := alike_lawful descriptor.formats
  obtain ⟨byHash,grouped⟩ := (ofImages_counted descriptor.images).grouped
  have group := Sharing.group_grouped lawful
  have distinct : (Distinct.ofImages descriptor.images).distinct = (Sharing.group alike noHash descriptor.formats).distinct :=
    grouped.distinct.trans group.distinct.symm
  have membership : (Distinct.ofImages descriptor.images).membership = (Sharing.group alike noHash descriptor.formats).membership :=
    grouped.membership.trans group.membership.symm
  refine ⟨congrArg Sharing.tableOf distinct,?_⟩
  have cast : (Distinct.ofImages descriptor.images).refs =
      (Sharing.references alike noHash descriptor.formats).map fun place => place.map UInt32.ofNat := by
    unfold Distinct.refs Sharing.references
    dsimp only
    rw [distinct,membership,List.map_map]
    rfl
  rw [cast,Sharing.references_eq lawful,List.map_map]
  rfl

theorem countP_formats (descriptor : ProxiedFetchDescriptor) (format : WireFormat) :
    descriptor.formats.countP (alike format) = descriptor.images.countP fun image => image.wireFormat = format := by
  rw [ProxiedFetchDescriptor.formats,List.countP_map]
  refine List.countP_congr fun image _ => ?_
  rw [Function.comp_apply,alike_iff,decide_eq_true_eq]
  exact eq_comm

theorem mem_table : format ∈ Sharing.table alike noHash descriptor.formats ↔
    2 ≤ descriptor.images.countP fun image => image.wireFormat = format := by
  have count := countP_formats descriptor format
  rw [Sharing.table_eq (alike_lawful _),List.mem_filter,decide_eq_true_eq,count]
  refine ⟨fun both => both.2,fun often => ⟨?_,often⟩⟩
  obtain ⟨image,member,same⟩ := List.countP_pos_iff.mp (Nat.lt_of_lt_of_le Nat.zero_lt_two (count ▸ often))
  obtain ⟨first,found,like⟩ := Sharing.exists_first (alike_lawful _) member
  rw [alike_iff] at same like
  exact (like.trans same.symm) ▸ found

theorem table_nodup : (Sharing.table alike noHash descriptor.formats).Nodup := by
  rw [Sharing.table_eq (alike_lawful _)]
  refine List.Nodup.filter _ ((Sharing.firsts_apart alike _).imp fun apart same => ?_)
  simp [same,alike] at apart

def allFormats : List WireFormat :=
  [DataType.uint8,.uint16,.uint32,.float32,.float64].flatMap fun dataType => [.raw dataType,.lz4 dataType,.zstd dataType]

theorem mem_allFormats (format : WireFormat) : format ∈ allFormats := by
  cases format with
  | raw dataType | lz4 dataType | zstd dataType => cases dataType <;> decide

-- There are fifteen formats, so a cast index is the index.
theorem length_table_lt : (Sharing.table alike noHash descriptor.formats).length < 2^32 := by
  have few : (Sharing.table alike noHash descriptor.formats).length ≤ allFormats.length :=
    (table_nodup.subperm fun format _ => mem_allFormats format).length_le
  exact Nat.lt_of_le_of_lt few (by decide)

theorem reference_cases (member : image ∈ descriptor.images) :
    (descriptor.images.countP fun other => other.wireFormat = image.wireFormat) < 2 ∧
      (Sharing.placeOf alike noHash descriptor.formats image.wireFormat).map UInt32.ofNat = none ∨
    ∃ index : UInt32, (Sharing.placeOf alike noHash descriptor.formats image.wireFormat).map UInt32.ofNat = some index ∧
      (Sharing.table alike noHash descriptor.formats)[index.toNat]? = some image.wireFormat := by
  have listed : image.wireFormat ∈ descriptor.formats := List.mem_map_of_mem member
  have lawful := alike_lawful descriptor.formats
  rcases Sharing.placeOf_cases lawful listed with ⟨alone,place⟩ | ⟨often,index,here,place⟩
  · refine .inl ⟨?_,by rw [place]; rfl⟩
    rwa [countP_formats] at alone
  · right
    have like := (Sharing.firstLike_like lawful listed).2
    rw [alike_iff] at like
    rw [like] at here
    have short := Nat.lt_trans (List.getElem?_eq_some_iff.mp here).1 length_table_lt
    refine ⟨UInt32.ofNat (index % 2^32),by rw [place]; rfl,?_⟩
    rw [Nat.mod_eq_of_lt short,UInt32.toNat_ofNat_of_lt' short]
    exact here

theorem serialize_images (descriptor : ProxiedFetchDescriptor) : descriptor.serialize.images = descriptor.images.map fun image =>
    image.serialize ((Sharing.placeOf alike noHash descriptor.formats image.wireFormat).map UInt32.ofNat) := by
  change List.zipWith _ _ (Distinct.ofImages descriptor.images).refs = _
  rw [(ofImages_shared descriptor).2,ProxiedFetchDescriptor.formats,List.map_map,List.zipWith_map_right,List.zipWith_self]
  rfl

theorem serialize_table (descriptor : ProxiedFetchDescriptor) :
    descriptor.serialize.wireFormats.getD [] = Sharing.table alike noHash descriptor.formats := by
  have table := (ofImages_shared descriptor).1
  change (if (Distinct.ofImages descriptor.images).table = [] then none else some _).getD [] = _
  rw [← table]
  split
  · rename_i empty
    rw [empty]
    rfl
  · rfl

theorem tryFrom_serialize (descriptor : ProxiedFetchDescriptor) : descriptor.serialize.tryFrom = .ok descriptor := by
  have resolved : descriptor.serialize.images.mapM (ProxiedImageDocument.resolve (descriptor.serialize.wireFormats.getD [])) =
      .ok descriptor.images := by
    rw [serialize_images,serialize_table,List.mapM_map]
    refine (mapM_ok_map (g := id) fun image member => ?_).trans (by rw [List.map_id])
    rcases reference_cases member with ⟨_,place⟩ | ⟨index,place,here⟩
    · rw [Function.comp_apply,place]
      rfl
    · rw [Function.comp_apply,place]
      simp only [ProxiedImageSpec.serialize,ProxiedImageDocument.resolve,here]
      rfl
  rw [FetchDocument.tryFrom,resolved]
  rfl

theorem recode_serialize (descriptor : ProxiedFetchDescriptor) : descriptor.serialize.recode = .ok descriptor.serialize := by
  rw [FetchDocument.recode,tryFrom_serialize]
  rfl

-- What the table, the marker and the references of a wire form say about a descriptor.
structure Shares (descriptor : ProxiedFetchDescriptor) (document : FetchDocument) : Prop where
  exact : ∀ format, format ∈ document.wireFormats.getD [] ↔ 2 ≤ descriptor.images.countP fun image => image.wireFormat = format
  once : (document.wireFormats.getD []).Nodup
  ordered : (document.wireFormats.getD []).Pairwise fun format later =>
    descriptor.formats.idxOf format < descriptor.formats.idxOf later
  inRange : ∀ image ∈ document.images, ∀ index, image.wireFormatRef = some index →
    index.toNat < (document.wireFormats.getD []).length
  marker : document.formatVersion = if document.wireFormats.isSome then some compactFetchFormatVersion else none
  present : document.wireFormats.isSome ↔ ∃ format, 2 ≤ descriptor.images.countP fun image => image.wireFormat = format

theorem serialize_shares (descriptor : ProxiedFetchDescriptor) : Shares descriptor descriptor.serialize where
  exact format := by
    rw [serialize_table]
    exact mem_table
  once := by
    rw [serialize_table]
    exact table_nodup
  ordered := by
    rw [serialize_table,Sharing.table_eq (alike_lawful _)]
    exact (Sharing.firsts_in_order alike_iff descriptor.formats).filter _
  inRange := by
    intro document listed index referenced
    rw [serialize_images] at listed
    obtain ⟨image,member,rfl⟩ := List.mem_map.mp listed
    rw [serialize_table]
    rcases reference_cases member with ⟨_,place⟩ | ⟨index',place,here⟩
    · rw [place] at referenced
      cases referenced
    · rw [place] at referenced
      cases referenced
      exact (List.getElem?_eq_some_iff.mp here).1
  marker := by
    unfold ProxiedFetchDescriptor.serialize
    dsimp only
    split <;> rfl
  present := by
    have table := (ofImages_shared descriptor).1
    have shown : descriptor.serialize.wireFormats.isSome ↔ Sharing.table alike noHash descriptor.formats ≠ [] := by
      rw [← table]
      unfold ProxiedFetchDescriptor.serialize
      dsimp only
      split
      · rename_i empty
        simp [empty]
      · rename_i shared
        simp [shared]
    rw [shown]
    constructor
    · intro shared
      obtain ⟨format,listed⟩ := List.exists_mem_of_ne_nil _ shared
      exact ⟨format,mem_table.mp listed⟩
    · rintro ⟨format,often⟩
      exact List.ne_nil_of_mem (mem_table.mpr often)

theorem fetch_descriptor_round_trip :
    (∀ descriptor : ProxiedFetchDescriptor,
      descriptor.serialize.tryFrom = .ok descriptor ∧ Shares descriptor descriptor.serialize) ∧
    ∀ wire canonical : FetchDocument, wire.recode = .ok canonical →
      canonical.tryFrom = wire.tryFrom ∧ canonical.recode = .ok canonical := by
  refine ⟨fun descriptor => ⟨tryFrom_serialize descriptor,serialize_shares descriptor⟩,?_⟩
  intro wire canonical recoded
  cases accepted : wire.tryFrom with
  | error message =>
    rw [FetchDocument.recode,accepted] at recoded
    cases recoded
  | ok descriptor =>
    rw [FetchDocument.recode,accepted] at recoded
    cases recoded
    exact ⟨tryFrom_serialize descriptor,recode_serialize descriptor⟩

-- A table with an entry twice and one that nobody uses, and a format that is inline twice.
theorem untidy_wire_form_is_recoded :
    ∃ wire canonical : FetchDocument,
      wire = ⟨none,[⟨"a",some (.raw .uint8),none⟩,⟨"b",none,some 1⟩,⟨"c",some (.raw .uint8),none⟩],
        some [.lz4 .uint16,.lz4 .uint16,.zstd .float32]⟩ ∧
      canonical = ⟨some 2,[⟨"a",none,some 0⟩,⟨"b",some (.lz4 .uint16),none⟩,⟨"c",none,some 0⟩],some [.raw .uint8]⟩ ∧
      wire.recode = .ok canonical ∧ canonical.tryFrom = wire.tryFrom ∧ canonical.recode = .ok canonical := by
  refine ⟨_,_,rfl,rfl,?_⟩
  have recoded : FetchDocument.recode
      ⟨none,[⟨"a",some (.raw .uint8),none⟩,⟨"b",none,some 1⟩,⟨"c",some (.raw .uint8),none⟩],
        some [.lz4 .uint16,.lz4 .uint16,.zstd .float32]⟩ =
      .ok ⟨some 2,[⟨"a",none,some 0⟩,⟨"b",some (.lz4 .uint16),none⟩,⟨"c",none,some 0⟩],some [.raw .uint8]⟩ := by rfl
  exact ⟨recoded,fetch_descriptor_round_trip.2 _ _ recoded⟩

end RoundTrip
end Lucida.Protocol
