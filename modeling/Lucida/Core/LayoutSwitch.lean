import Lucida.Core.CommandReplay

namespace Lucida.Core
open Content Lib

-- What a chain of moves relies on besides.
class ExactMoves (R : Type) [Numeric R] : Prop extends Exact R where
  add_assoc : ∀ x y z : R, x+y+z = x+(y+z)
  sub_add_sub : ∀ x y z : R, (y-x)+(z-y) = z-x

instance : ExactMoves Int := ⟨Int.add_assoc,fun x y z => by omega⟩

def AnnotationPin.shifted {R : Type} [Add R] (pin : AnnotationPin R) (delta : R × R) : AnnotationPin R :=
  {pin with
    position := (pin.position.1+delta.1,pin.position.2+delta.2)
    endpoint := pin.translate delta}

namespace AnnotationPin
variable {R : Type} [Numeric R] [ExactMoves R]

theorem shifted_shifted (pin : AnnotationPin R) (x y z : R × R) :
    (pin.shifted (y.1-x.1,y.2-x.2)).shifted (z.1-y.1,z.2-y.2) = pin.shifted (z.1-x.1,z.2-x.2) := by
  have along : ∀ a b c d : R, a+(c-b)+(d-c) = a+(d-b) := fun a b c d => by
    rw [ExactMoves.add_assoc,ExactMoves.sub_add_sub]
  cases found : pin.endpoint <;> simp [shifted,translate,along,found]

theorem shifted_self (pin : AnnotationPin R) (x : R × R) : pin.shifted (x.1-x.1,x.2-x.2) = pin := by
  cases pin with
  | mk id position z t c author kind endpoint comments anchor view =>
    cases endpoint <;> simp [shifted,translate,Exact.sub_self,Exact.add_zero]

end AnnotationPin

namespace DocumentState
variable {R : Type} [Numeric R]

def placedIn (doc : DocumentState R) (manifest : DatasetManifest R) (datasetId : DatasetId) (active : Option LayoutId) (entityId : EntityId) :
    Option (R × R) :=
  resolveEntityPosition entityId (resolveLayout manifest (doc.registeredLayouts.lookup datasetId) active) manifest.entities manifest.transforms

def switchLayouts (doc : DocumentState R) (datasetId : DatasetId) (layoutIds : List LayoutId) : DocumentState R :=
  layoutIds.foldl (fun doc layoutId => doc.apply (.setActiveLayout datasetId layoutId)) doc

theorem reanchor_unanchored {pin : AnnotationPin R} (unanchored : pin.anchor = none) (manifest : DatasetManifest R) (fromLayout toLayout : LayoutSpec R) :
    reanchor manifest fromLayout toLayout pin = pin := by
  unfold reanchor
  simp [unanchored]

theorem reanchor_placed {pin : AnnotationPin R} {manifest : DatasetManifest R} {fromLayout toLayout : LayoutSpec R} {start stop : R × R}
    (anchored : pin.anchor = some anchor)
    (before : resolveEntityPosition anchor fromLayout manifest.entities manifest.transforms = some start)
    (after : resolveEntityPosition anchor toLayout manifest.entities manifest.transforms = some stop) :
    reanchor manifest fromLayout toLayout pin = pin.shifted (stop.1-start.1,stop.2-start.2) := by
  have first : (pin.anchor.bind fun anchor => resolveEntityPosition anchor fromLayout manifest.entities manifest.transforms) = some start := by
    rw [anchored]
    exact before
  have second : (pin.anchor.bind fun anchor => resolveEntityPosition anchor toLayout manifest.entities manifest.transforms) = some stop := by
    rw [anchored]
    exact after
  unfold reanchor
  simp only [first,second]
  rfl

-- What one switch does to a pin. A switch to the layout that is active moves nothing.
def switched (doc : DocumentState R) (manifest : DatasetManifest R) (datasetId : DatasetId) (layoutId : LayoutId) (pin : AnnotationPin R) : AnnotationPin R :=
  if doc.activeLayoutIds.lookup datasetId = some layoutId then pin
  else reanchor manifest (resolveLayout manifest (doc.registeredLayouts.lookup datasetId) (doc.activeLayoutIds.lookup datasetId))
    (resolveLayout manifest (doc.registeredLayouts.lookup datasetId) (some layoutId)) pin

theorem setActiveLayout_annotations {doc : DocumentState R} {datasetId : DatasetId} {manifest : DatasetManifest R}
    (shown : doc.manifests.get? datasetId = some manifest) (layoutId : LayoutId) (other : DatasetId) :
    (doc.apply (.setActiveLayout datasetId layoutId)).annotations.get? other =
      if other = datasetId then (doc.annotations.get? other).map (List.map (doc.switched manifest datasetId layoutId)) else doc.annotations.get? other := by
  have moved : (doc.apply (.setActiveLayout datasetId layoutId)).annotations =
      (doc.reanchorForLayout datasetId (doc.activeLayoutIds.lookup datasetId) layoutId).annotations := rfl
  rw [moved]
  unfold reanchorForLayout switched
  simp only [shown]
  split
  · simp
  · rw [IndexMap.get?_modify]
    split
    · rename_i same
      subst same
      cases doc.annotations.get? other with
      | none => rfl
      | some pins =>
        rw [Option.map_some,Option.map_some]
        split
        · -- No pin has an anchor, so moving every pin moves none.
          rename_i unanchored
          have stay : ∀ fromLayout toLayout, pins.map (reanchor manifest fromLayout toLayout) = pins.map id := fun fromLayout toLayout =>
            List.map_congr_left fun pin member =>
              reanchor_unanchored (Option.isNone_iff_eq_none.mp (List.all_eq_true.mp unanchored pin member)) manifest fromLayout toLayout
          exact congrArg some ((stay _ _).trans (List.map_id pins)).symm
        · rfl
    · rfl

theorem setActiveLayout_active (doc : DocumentState R) (datasetId : DatasetId) (layoutId : LayoutId) :
    (doc.apply (.setActiveLayout datasetId layoutId)).activeLayoutIds.lookup datasetId = some layoutId := by
  rw [apply_activeLayoutIds]
  exact Finmap.lookup_insert _

theorem placedIn_setActiveLayout (doc : DocumentState R) (datasetId : DatasetId) (layoutId : LayoutId) :
    (doc.apply (.setActiveLayout datasetId layoutId)).placedIn = doc.placedIn := by
  unfold placedIn
  rw [apply_registeredLayouts]

theorem switched_unanchored {pin : AnnotationPin R} (unanchored : pin.anchor = none) (doc : DocumentState R) (manifest : DatasetManifest R)
    (datasetId : DatasetId) (layoutId : LayoutId) : doc.switched manifest datasetId layoutId pin = pin := by
  unfold switched
  split
  · rfl
  · exact reanchor_unanchored unanchored _ _ _

theorem switched_anchor (doc : DocumentState R) (manifest : DatasetManifest R) (datasetId : DatasetId) (layoutId : LayoutId) (pin : AnnotationPin R) :
    (doc.switched manifest datasetId layoutId pin).anchor = pin.anchor := by
  unfold switched reanchor
  split
  · rfl
  · dsimp only
    split <;> rfl

theorem switchLayouts_elsewhere {datasetId other : DatasetId} (apart : other ≠ datasetId) (doc : DocumentState R) (layoutIds : List LayoutId) :
    (doc.switchLayouts datasetId layoutIds).annotations.get? other = doc.annotations.get? other := by
  unfold switchLayouts
  induction layoutIds generalizing doc with
  | nil => rfl
  | cons layoutId layoutIds ih =>
    rw [List.foldl_cons,ih]
    cases shown : doc.manifests.get? datasetId with
    | some manifest => rw [setActiveLayout_annotations shown,if_neg apart]
    | none =>
      have moved : (doc.apply (.setActiveLayout datasetId layoutId)).annotations =
          (doc.reanchorForLayout datasetId (doc.activeLayoutIds.lookup datasetId) layoutId).annotations := rfl
      rw [moved]
      unfold reanchorForLayout
      rw [shown]

variable [ExactMoves R]

theorem switched_placed {doc : DocumentState R} {manifest : DatasetManifest R} {datasetId : DatasetId} {layoutId : LayoutId}
    {pin : AnnotationPin R} {start stop : R × R} (anchored : pin.anchor = some anchor)
    (before : doc.placedIn manifest datasetId (doc.activeLayoutIds.lookup datasetId) anchor = some start)
    (after : doc.placedIn manifest datasetId (some layoutId) anchor = some stop) :
    doc.switched manifest datasetId layoutId pin = pin.shifted (stop.1-start.1,stop.2-start.2) := by
  unfold switched
  split
  · rename_i active
    rw [active] at before
    cases before.symm.trans after
    exact (pin.shifted_self start).symm
  · exact reanchor_placed anchored before after

structure Telescopes (doc : DocumentState R) (manifest : DatasetManifest R) (datasetId : DatasetId) (layoutIds : List LayoutId)
    (pin after : AnnotationPin R) : Prop where
  unanchored : pin.anchor = none → after = pin
  anchored : ∀ anchor start stop, pin.anchor = some anchor →
    (∀ layoutId ∈ layoutIds, (doc.placedIn manifest datasetId (some layoutId) anchor).isSome) →
    doc.placedIn manifest datasetId (doc.activeLayoutIds.lookup datasetId) anchor = some start →
    doc.placedIn manifest datasetId (layoutIds.getLast?.or (doc.activeLayoutIds.lookup datasetId)) anchor = some stop →
    after = pin.shifted (stop.1-start.1,stop.2-start.2)

theorem Telescopes.cons {doc : DocumentState R} {manifest : DatasetManifest R} {datasetId : DatasetId} {layoutId : LayoutId}
    {layoutIds : List LayoutId} {pin after : AnnotationPin R}
    (rest : (doc.apply (.setActiveLayout datasetId layoutId)).Telescopes manifest datasetId layoutIds (doc.switched manifest datasetId layoutId pin) after) :
    doc.Telescopes manifest datasetId (layoutId::layoutIds) pin after := by
  have kept := doc.switched_anchor manifest datasetId layoutId pin
  have active := doc.setActiveLayout_active datasetId layoutId
  refine ⟨?_,?_⟩
  · intro unanchored
    rw [rest.unanchored (kept.trans unanchored),switched_unanchored unanchored]
  · intro anchor start stop anchored placed before last
    obtain ⟨middle,here⟩ := Option.isSome_iff_exists.mp (placed layoutId List.mem_cons_self)
    have later := rest.anchored anchor middle stop (kept.trans anchored)
    rw [active,placedIn_setActiveLayout] at later
    have ends : (layoutId::layoutIds).getLast?.or (doc.activeLayoutIds.lookup datasetId) = layoutIds.getLast?.or (some layoutId) := by
      cases found : layoutIds.getLast? <;> simp [List.getLast?_cons,found]
    rw [ends] at last
    rw [later (fun id member => placed id (List.mem_cons_of_mem _ member)) here last,switched_placed anchored before here]
    exact pin.shifted_shifted start middle stop

theorem switchLayouts_telescopes {doc : DocumentState R} {datasetId : DatasetId} {manifest : DatasetManifest R}
    (shown : doc.manifests.get? datasetId = some manifest) (layoutIds : List LayoutId) {pins : List (AnnotationPin R)}
    (stored : doc.annotations.get? datasetId = some pins) :
    ∃ after, (doc.switchLayouts datasetId layoutIds).annotations.get? datasetId = some after ∧
      List.Forall₂ (doc.Telescopes manifest datasetId layoutIds) pins after := by
  unfold switchLayouts
  induction layoutIds generalizing doc pins with
  | nil =>
    refine ⟨pins,stored,List.forall₂_same.mpr fun pin _ => ⟨fun _ => rfl,?_⟩⟩
    intro anchor start stop _ _ before last
    cases before.symm.trans last
    exact (pin.shifted_self start).symm
  | cons layoutId layoutIds ih =>
    have still : (doc.apply (.setActiveLayout datasetId layoutId)).manifests.get? datasetId = some manifest := by
      rw [apply_manifests]
      exact shown
    have moved := setActiveLayout_annotations shown layoutId datasetId
    rw [if_pos rfl,stored,Option.map_some] at moved
    obtain ⟨after,found,each⟩ := ih still moved
    refine ⟨after,found,?_⟩
    rw [List.forall₂_map_left_iff] at each
    exact each.imp fun _ _ rest => rest.cons

end DocumentState

-- Whatever layouts a dataset is switched through, each of its pins has moved by what its anchor has
-- moved from the first layout to the last; the pins without an anchor and those of the other datasets
-- have not moved; and who is back in the first layout is back where it was.
theorem layout_switches_telescope {R : Type} [Numeric R] [ExactMoves R] {doc : DocumentState R} {datasetId : DatasetId} {manifest : DatasetManifest R}
    (shown : doc.manifests.get? datasetId = some manifest) (layoutIds : List LayoutId) :
    (∀ other, other ≠ datasetId → (doc.switchLayouts datasetId layoutIds).annotations.get? other = doc.annotations.get? other) ∧
    ∀ pins, doc.annotations.get? datasetId = some pins →
      ∃ after, (doc.switchLayouts datasetId layoutIds).annotations.get? datasetId = some after ∧
        List.Forall₂ (fun pin moved =>
          (pin.anchor = none → moved = pin) ∧
          ∀ anchor start stop, pin.anchor = some anchor →
            (∀ layoutId ∈ layoutIds, (doc.placedIn manifest datasetId (some layoutId) anchor).isSome) →
            doc.placedIn manifest datasetId (doc.activeLayoutIds.lookup datasetId) anchor = some start →
            doc.placedIn manifest datasetId (layoutIds.getLast?.or (doc.activeLayoutIds.lookup datasetId)) anchor = some stop →
            moved = {pin with
              position := (pin.position.1+(stop.1-start.1),pin.position.2+(stop.2-start.2))
              endpoint := pin.endpoint.map fun vertex => (vertex.1+(stop.1-start.1),vertex.2+(stop.2-start.2))} ∧
            (layoutIds.getLast?.or (doc.activeLayoutIds.lookup datasetId) = doc.activeLayoutIds.lookup datasetId → moved = pin)) pins after := by
  refine ⟨fun other apart => DocumentState.switchLayouts_elsewhere apart doc layoutIds,?_⟩
  intro pins stored
  obtain ⟨after,found,each⟩ := DocumentState.switchLayouts_telescopes shown layoutIds stored
  refine ⟨after,found,each.imp fun pin moved telescopes => ⟨telescopes.unanchored,?_⟩⟩
  intro anchor start stop anchored placed before last
  have ends := telescopes.anchored anchor start stop anchored placed before last
  refine ⟨ends,fun back => ?_⟩
  rw [back] at last
  cases before.symm.trans last
  rw [ends]
  exact pin.shifted_self start

-- A line on a tile that two layouts place, one by its group.
def gridded : DatasetManifest Int :=
  ⟨"plate","Plate",.collection,[⟨"well",.group,none⟩,⟨"tile",.tile,some "well"⟩],[⟨"tile","well",(1,2)⟩],[⟨"image","tile",⟨[],[],.uint8⟩⟩],
    [⟨"grid","Grid",[⟨"tile",(0,0)⟩]⟩,⟨"wells","Wells",[⟨"well",(10,20)⟩]⟩],none,[]⟩

def griddedLine : DocumentState Int :=
  ((DocumentState.default Int).apply (.datasetOpened ⟨gridded,.proxied ["image"],⟨[]⟩⟩)).apply
    (.addAnnotationPin "plate" "p" (3,3) (some (5,5)) 7 0 0 "ann" .line none)

theorem layout_switches_telescope_for_a_line :
    ((griddedLine.switchLayouts "plate" ["grid","wells","wells"]).annotations.get? "plate").map (List.map AnnotationPin.position) = some [(14,25)] ∧
      (griddedLine.switchLayouts "plate" ["wells","grid"]).annotations.get? "plate" = griddedLine.annotations.get? "plate" := by
  refine ⟨by decide,?_⟩
  have shown : griddedLine.manifests.get? "plate" = some gridded := rfl
  obtain ⟨after,found,each⟩ := (layout_switches_telescope shown ["wells","grid"]).2 _ rfl
  rw [found]
  obtain ⟨moved,rest,line,none,rfl⟩ := List.forall₂_cons_left_iff.mp each
  cases none
  have back := (line.2 "tile" (0,0) (0,0) rfl (by decide) rfl rfl).1
  rw [back]
  rfl

end Lucida.Core
