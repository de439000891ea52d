import Lucida.Core.Layout

namespace Lucida.Core
open Content Lib

section
variable {R : Type}

theorem lookup_offsetByEdge (transforms : List (TransformEdge R)) (map : HashMap EntityId (HashMap EntityId (R × R))) (source target : EntityId) :
    ((transforms.foldl (fun map edge => map.insert edge.source (HashMap.orInsert ((map.lookup edge.source).getD ∅) edge.target edge.translation)) map).lookup
      source).bind (·.lookup target) =
      ((map.lookup source).bind (·.lookup target)).or
        ((transforms.find? fun edge => edge.source = source ∧ edge.target = target).map TransformEdge.translation) := by
  induction transforms generalizing map with
  | nil => exact Option.or_none.symm
  | cons edge transforms ih =>
    have held : ((map.lookup edge.source).getD ∅).lookup target = (map.lookup edge.source).bind (·.lookup target) := by
      cases map.lookup edge.source with
      | none => exact Finmap.lookup_empty target
      | some offsets => rfl
    rw [List.foldl_cons,ih,HashMap.lookup_insert_if]
    by_cases same : source = edge.source
    · subst same
      rw [if_pos rfl,Option.bind_some,HashMap.lookup_orInsert,held,Option.or_assoc]
      by_cases here : target = edge.target
      · simp [here]
      · simp [here,Ne.symm here]
    · rw [if_neg same]
      simp [Ne.symm same]

def MemberState.goesBy (id : String) (member : MemberState R) : Bool := member.imageId = id ∨ member.entityId = id

theorem lookup_memberIndex (members : List (MemberState R)) (start : Nat) (map : HashMap String Nat) (id : String) :
    ((members.zipIdx start).foldl (fun map member => HashMap.orInsert (HashMap.orInsert map member.1.imageId member.2) member.1.entityId member.2) map).lookup id =
      (map.lookup id).or ((members.findIdx? (MemberState.goesBy id)).map (start+·)) := by
  induction members generalizing start map with
  | nil => exact Option.or_none.symm
  | cons member members ih =>
    rw [List.zipIdx_cons,List.foldl_cons,ih,HashMap.lookup_orInsert,HashMap.lookup_orInsert,Option.or_assoc,Option.or_assoc,List.findIdx?_cons]
    congr 1
    by_cases image : id = member.imageId
    · simp [image,MemberState.goesBy]
    · by_cases entity : id = member.entityId
      · have goes : MemberState.goesBy id member = true := by simp [MemberState.goesBy,entity]
        simp [if_neg image,if_pos entity,goes]
      · have other : MemberState.goesBy id member = false := by simp [MemberState.goesBy,Ne.symm image,Ne.symm entity]
        simp only [image,entity,if_false,Option.none_or,other,Bool.false_eq_true,Option.map_map]
        congr 1
        funext i
        simp only [Function.comp_apply]
        omega

variable [Numeric R]

theorem resolve_eq_scan (entityId : EntityId) (layout : LayoutSpec R) (entities : List Entity) (transforms : List (TransformEdge R)) :
    (LayoutPositionIndex.new layout entities transforms).resolve entityId = resolveEntityPosition entityId layout entities transforms := by
  have placement : ∀ id, (LayoutPositionIndex.new layout entities transforms).placementByEntity.lookup id =
      (layout.placements.find? fun p => p.entityId = id).map fun p => p.position := fun id =>
    HashMap.lookup_foldl_orInsert EntityPlacement.entityId EntityPlacement.position layout.placements ∅ id
  have parent : (LayoutPositionIndex.new layout entities transforms).parentByEntity.lookup entityId =
      (entities.find? fun e => e.id = entityId).map fun e => e.parent :=
    HashMap.lookup_foldl_orInsert Entity.id Entity.parent entities ∅ entityId
  have offset : ∀ id, ((LayoutPositionIndex.new layout entities transforms).offsetByEdge.lookup entityId).bind (·.lookup id) =
      (transforms.find? fun edge => edge.source = entityId ∧ edge.target = id).map TransformEdge.translation := fun id =>
    lookup_offsetByEdge transforms ∅ entityId id
  unfold LayoutPositionIndex.resolve resolveEntityPosition
  simp only [placement,parent,offset]
  cases layout.placements.find? fun p => p.entityId = entityId with
  | some direct => rfl
  | none =>
    cases entities.find? fun e => e.id = entityId with
    | none => rfl
    | some entity =>
      cases above : entity.parent with
      | none => simp [above]
      | some parentId => cases found : layout.placements.find? fun p => p.entityId = parentId <;> simp [above,found]

def DatasetDerivedState.memberById (derived : DatasetDerivedState R) (id : String) : Option (MemberState R) :=
  (derived.memberIndex.lookup id).bind fun i => derived.members[i]?

-- The one loop of the source over the members: the index and the two maxima.
def indexMembers (members : List (MemberState R)) : HashMap String Nat × R × R :=
  members.zipIdx.foldl (fun found member =>
    (HashMap.orInsert (HashMap.orInsert found.1 member.1.imageId member.2) member.1.entityId member.2,
      Numeric.max found.2.1 (memberExtent member.1),
      Numeric.max found.2.2 (member.1.volumeTransform.model.2.1*memberExtent member.1))) (∅,0,0)

theorem getElem?_findIdx? {α : Type} (p : α → Bool) (xs : List α) : (xs.findIdx? p).bind (fun i => xs[i]?) = xs.find? p := by
  induction xs with
  | nil => rfl
  | cons x xs ih =>
    rw [List.findIdx?_cons]
    by_cases hit : p x
    · simp [hit]
    · simp only [hit,Bool.false_eq_true,if_false,not_false_eq_true,List.find?_cons_of_neg,← ih]
      cases xs.findIdx? p <;> simp

theorem indexMembers_eq (members : List (MemberState R)) :
    indexMembers members =
      (members.zipIdx.foldl (fun map member => HashMap.orInsert (HashMap.orInsert map member.1.imageId member.2) member.1.entityId member.2) ∅,
        members.foldl (fun most member => Numeric.max most (memberExtent member)) 0,
        members.foldl (fun most member => Numeric.max most (member.volumeTransform.model.2.1*memberExtent member)) 0) := by
  have apart : ∀ (start : Nat) (found : HashMap String Nat × R × R), (members.zipIdx start).foldl (fun found member =>
      (HashMap.orInsert (HashMap.orInsert found.1 member.1.imageId member.2) member.1.entityId member.2,
        Numeric.max found.2.1 (memberExtent member.1),
        Numeric.max found.2.2 (member.1.volumeTransform.model.2.1*memberExtent member.1))) found =
      ((members.zipIdx start).foldl (fun map member => HashMap.orInsert (HashMap.orInsert map member.1.imageId member.2) member.1.entityId member.2) found.1,
        members.foldl (fun most member => Numeric.max most (memberExtent member)) found.2.1,
        members.foldl (fun most member => Numeric.max most (member.volumeTransform.model.2.1*memberExtent member)) found.2.2) := by
    induction members with
    | nil => exact fun start found => rfl
    | cons member members ih => exact fun start found => ih (start+1) _
  exact apart 0 (∅,0,0)

end

-- Whatever the manifest and the layout: every image's member stands where the scan places its owner,
-- or at the origin; an id finds the first member that goes by it; and the maxima are those over all
-- the members.
theorem derived_state_agrees_with_scans {R : Type} [Numeric R] (manifest : DatasetManifest R) (layout : LayoutSpec R) :
    let derived := buildDerivedState manifest layout
    (derived.members.map fun member => (member.imageId,member.entityId,member.position)) =
      manifest.images.map (fun image => (image.imageId,image.owner,
        (resolveEntityPosition image.owner layout manifest.entities manifest.transforms).getD (0,0))) ∧
    (derived.memberIndex,derived.maxPhysicalExtent,derived.maxPhysicalY) = indexMembers derived.members ∧
    (∀ id, derived.memberIndex.lookup id = derived.members.findIdx? fun member => member.imageId = id ∨ member.entityId = id) ∧
    (∀ id, derived.memberById id = derived.members.find? fun member => member.imageId = id ∨ member.entityId = id) ∧
    derived.maxPhysicalExtent = (derived.members.map memberExtent).foldl Numeric.max 0 ∧
    derived.maxPhysicalY = (derived.members.map fun member => member.volumeTransform.model.2.1*memberExtent member).foldl Numeric.max 0 := by
  intro derived
  have looked : ∀ id, derived.memberIndex.lookup id = derived.members.findIdx? (MemberState.goesBy id) := by
    intro id
    have found := lookup_memberIndex derived.members 0 ∅ id
    rw [Finmap.lookup_empty,Option.none_or] at found
    rw [show derived.memberIndex.lookup id = _ from found]
    cases derived.members.findIdx? (MemberState.goesBy id) <;> simp
  refine ⟨?_,(indexMembers_eq derived.members).symm,looked,?_,?_,?_⟩
  · have members : derived.members = manifest.images.map _ := rfl
    rw [members,List.map_map]
    refine List.map_congr_left fun image _ => ?_
    simp only [Function.comp_apply,resolve_eq_scan]
  · intro id
    unfold DatasetDerivedState.memberById
    rw [looked]
    exact getElem?_findIdx? (MemberState.goesBy id) derived.members
  · rw [List.foldl_map]
    rfl
  · rw [List.foldl_map]
    rfl

end Lucida.Core
