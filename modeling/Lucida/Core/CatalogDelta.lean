import Lucida.Core.FirstMatch

namespace Lucida.Core
open Content Lib

namespace AssetCatalog

def completed (incoming : ProxyAvailability) : ProxyAvailability :=
  {incoming with kinds := incoming.footprints.foldl (fun kinds footprint => addKind kinds footprint.kind) incoming.kinds}

theorem applyDelta_entries (catalog : AssetCatalog) (delta : AssetCatalogDelta) :
    (catalog.applyDelta delta).entries = mergeAll ProxyAvailability.entityId mergeEntry (delta.added.map completed) catalog.entries := by
  unfold mergeAll
  rw [List.foldl_map]
  rfl

section Kinds
variable {kinds more : List ProxyKind}

theorem mem_foldl_addKind {kind : ProxyKind} : kind ∈ more.foldl addKind kinds ↔ kind ∈ kinds ∨ kind ∈ more := by
  induction more generalizing kinds with
  | nil => simp
  | cons added more ih =>
    rw [List.foldl_cons,ih,List.mem_cons]
    unfold addKind
    split
    · rename_i there
      constructor
      · rintro (old | later)
        · exact .inl old
        · exact .inr (.inr later)
      · rintro (old | rfl | later)
        · exact .inl old
        · exact .inl there
        · exact .inr later
    · rw [List.mem_append,List.mem_singleton,or_assoc]

theorem foldl_addKind_eq_self (known : ∀ kind ∈ more, kind ∈ kinds) : more.foldl addKind kinds = kinds := by
  induction more with
  | nil => rfl
  | cons added more ih =>
    have there : addKind kinds added = kinds := if_pos (known added List.mem_cons_self)
    rw [List.foldl_cons,there,ih fun kind member => known kind (List.mem_cons_of_mem _ member)]

end Kinds

def broughtKinds (incoming : ProxyAvailability) : List ProxyKind := incoming.kinds ++ incoming.footprints.map ProxyFootprint.kind

theorem mergeEntry_eq (existing incoming : ProxyAvailability) :
    mergeEntry existing incoming = ⟨existing.entityId,(broughtKinds incoming).foldl addKind existing.kinds,
      upsertAll ProxyFootprint.kind incoming.footprints existing.footprints⟩ := by
  have footprints : ∀ (given : List ProxyFootprint) (entry : ProxyAvailability), given.foldl mergeFootprint entry =
      ⟨entry.entityId,(given.map ProxyFootprint.kind).foldl addKind entry.kinds,upsertAll ProxyFootprint.kind given entry.footprints⟩ := by
    intro given
    induction given with
    | nil => exact fun entry => rfl
    | cons footprint given ih => exact fun entry => (ih (mergeFootprint entry footprint)).trans rfl
  unfold mergeEntry broughtKinds
  rw [footprints,List.foldl_append]

theorem foldl_mergeEntry (existing : ProxyAvailability) (added : List ProxyAvailability) :
    added.foldl mergeEntry existing = ⟨existing.entityId,(added.flatMap broughtKinds).foldl addKind existing.kinds,
      upsertAll ProxyFootprint.kind (added.flatMap ProxyAvailability.footprints) existing.footprints⟩ := by
  induction added generalizing existing with
  | nil => rfl
  | cons incoming added ih =>
    rw [List.foldl_cons,ih,mergeEntry_eq,List.flatMap_cons,List.flatMap_cons,List.foldl_append]
    unfold upsertAll
    rw [List.foldl_append]

theorem mergeEntry_entityId (existing incoming : ProxyAvailability) : (mergeEntry existing incoming).entityId = existing.entityId := by
  rw [mergeEntry_eq]

theorem foldl_mergeEntry_twice (existing : ProxyAvailability) (added : List ProxyAvailability) :
    added.foldl mergeEntry (added.foldl mergeEntry existing) = added.foldl mergeEntry existing := by
  have kinds : (added.flatMap broughtKinds).foldl addKind ((added.flatMap broughtKinds).foldl addKind existing.kinds) =
      (added.flatMap broughtKinds).foldl addKind existing.kinds :=
    foldl_addKind_eq_self fun kind member => mem_foldl_addKind.mpr (.inr member)
  simp only [foldl_mergeEntry,kinds,upsertAll_twice]

-- An entry that went in as it was takes itself again if the last footprint of each kind is the first,
-- or another entry has written the kind since.
theorem opened_again_iff (first : ProxyAvailability) (rest : List ProxyAvailability) :
    (completed first::rest).foldl mergeEntry (rest.foldl mergeEntry (completed first)) = rest.foldl mergeEntry (completed first) ↔
      ∀ kind, kind ∈ (rest.flatMap ProxyAvailability.footprints).map ProxyFootprint.kind ∨
        first.footprints.find? (fun footprint => decide (footprint.kind = kind)) =
          first.footprints.reverse.find? fun footprint => decide (footprint.kind = kind) := by
  have own : (completed first).footprints = first.footprints := rfl
  have kinds : ((completed first::rest).flatMap broughtKinds).foldl addKind ((rest.flatMap broughtKinds).foldl addKind (completed first).kinds) =
      (rest.flatMap broughtKinds).foldl addKind (completed first).kinds := by
    refine foldl_addKind_eq_self fun kind member => ?_
    rw [mem_foldl_addKind]
    rw [List.flatMap_cons,List.mem_append] at member
    rcases member with here | later
    · left
      rcases List.mem_append.mp here with listed | shown
      · exact listed
      · have brought : (completed first).kinds = (first.footprints.map ProxyFootprint.kind).foldl addKind first.kinds := by
          rw [List.foldl_map]
          rfl
        rw [brought,mem_foldl_addKind]
        exact .inr shown
    · exact .inr later
  rw [foldl_mergeEntry,foldl_mergeEntry,ProxyAvailability.mk.injEq]
  rw [and_iff_right rfl,and_iff_right kinds,List.flatMap_cons,own]
  generalize rest.flatMap ProxyAvailability.footprints = later
  have present : ∀ footprint ∈ first.footprints ++ later,
      Present ProxyFootprint.kind footprint.kind (upsertAll ProxyFootprint.kind later first.footprints) := by
    intro footprint member
    have found : ((upsertAll ProxyFootprint.kind later first.footprints).find? fun x => decide (x.kind = footprint.kind)).isSome := by
      rw [find?_upsertAll,Option.isSome_or,Bool.or_eq_true,List.find?_isSome,List.find?_isSome]
      rcases List.mem_append.mp member with early | late
      · exact .inr ⟨footprint,early,decide_eq_true rfl⟩
      · exact .inl ⟨footprint,List.mem_reverse.mpr late,decide_eq_true rfl⟩
    obtain ⟨there,listed,same⟩ := List.find?_isSome.mp found
    exact List.any_eq_true.mpr ⟨there,listed,same⟩
  rw [upsertAll_eq_self_iff present]
  simp only [find?_upsertAll,List.reverse_append,List.find?_append]
  constructor
  · intro same kind
    by_cases written : kind ∈ later.map ProxyFootprint.kind
    · exact .inl written
    · right
      have unwritten : later.reverse.find? (fun footprint => decide (footprint.kind = kind)) = none := by
        rw [List.find?_eq_none]
        exact fun footprint member hit => written (List.mem_map.mpr ⟨footprint,List.mem_reverse.mp member,of_decide_eq_true hit⟩)
      by_cases shown : kind ∈ first.footprints.map ProxyFootprint.kind
      · have equal := same kind (by rw [List.map_append]; exact List.mem_append_left _ shown)
        rwa [unwritten,Option.none_or,Option.none_or] at equal
      · have absent : ∀ footprints : List ProxyFootprint, (∀ footprint ∈ footprints, footprint ∈ first.footprints) →
            footprints.find? (fun footprint => decide (footprint.kind = kind)) = none := by
          intro footprints among
          rw [List.find?_eq_none]
          exact fun footprint member hit => shown (List.mem_map.mpr ⟨footprint,among footprint member,of_decide_eq_true hit⟩)
        rw [absent _ fun _ member => member,absent _ fun _ member => List.mem_reverse.mp member]
  · intro same kind _
    rcases same kind with written | equal
    · obtain ⟨footprint,member,hit⟩ := List.mem_map.mp written
      have found : (later.reverse.find? fun x => decide (x.kind = kind)).isSome := by
        rw [List.find?_isSome]
        exact ⟨footprint,List.mem_reverse.mpr member,decide_eq_true hit⟩
      rw [Option.or_of_isSome found,Option.or_of_isSome found]
    · rw [equal]

-- The first entry of the delta for an entity that the catalog does not have: it goes in as it is.
def Opens (catalog : AssetCatalog) (delta : AssetCatalogDelta) (first : ProxyAvailability) (rest : List ProxyAvailability) : Prop :=
  (∀ entry ∈ catalog.entries, entry.entityId ≠ first.entityId) ∧
    delta.added.filter (fun entry => decide (entry.entityId = first.entityId)) = first::rest

-- Where such an entry gives a kind more than once, it gives the same footprint first and last, or a
-- later entry of the entity gives the kind again.
def Settles (catalog : AssetCatalog) (delta : AssetCatalogDelta) : Prop :=
  ∀ first rest, catalog.Opens delta first rest → ∀ kind, kind ∈ (rest.flatMap ProxyAvailability.footprints).map ProxyFootprint.kind ∨
    first.footprints.find? (fun footprint => decide (footprint.kind = kind)) =
      first.footprints.reverse.find? fun footprint => decide (footprint.kind = kind)

-- Such an entry gives no kind twice.
def OpensOnce (catalog : AssetCatalog) (delta : AssetCatalogDelta) : Prop :=
  ∀ first rest, catalog.Opens delta first rest → (first.footprints.map ProxyFootprint.kind).Nodup

structure WellFormed (catalog : AssetCatalog) : Prop where
  entities : (catalog.entries.map ProxyAvailability.entityId).Nodup
  footprints : ∀ entry ∈ catalog.entries, (entry.footprints.map ProxyFootprint.kind).Nodup

variable {catalog : AssetCatalog} {delta : AssetCatalogDelta}

theorem filter_completed (delta : AssetCatalogDelta) (entityId : EntityId) :
    (delta.added.map completed).filter (fun entry => decide (entry.entityId = entityId)) =
      (delta.added.filter fun entry => decide (entry.entityId = entityId)).map completed := by
  rw [List.filter_map]
  rfl

theorem find?_applyDelta {entityId : EntityId} {entry : ProxyAvailability}
    (found : (catalog.applyDelta delta).entries.find? (fun x => decide (x.entityId = entityId)) = some entry) :
    (∃ existing ∈ catalog.entries, entry = ((delta.added.filter fun x => decide (x.entityId = entityId)).map completed).foldl mergeEntry existing) ∨
      ∃ first rest, catalog.Opens delta first rest ∧ first.entityId = entityId ∧ entry = (rest.map completed).foldl mergeEntry (completed first) := by
  rw [applyDelta_entries,find?_mergeAll mergeEntry_entityId,filter_completed] at found
  cases known : catalog.entries.find? fun x => decide (x.entityId = entityId) with
  | some existing =>
    rw [known,gathered_some] at found
    exact .inl ⟨existing,List.mem_of_find?_eq_some known,(Option.some.inj found).symm⟩
  | none =>
    rw [known] at found
    cases own : delta.added.filter fun x => decide (x.entityId = entityId) with
    | nil =>
      rw [own] at found
      cases found
    | cons first rest =>
      have same : first.entityId = entityId :=
        of_decide_eq_true (List.mem_filter.mp (own ▸ List.mem_cons_self : first ∈ delta.added.filter _)).2
      rw [own] at found
      have gathers : gathered mergeEntry (some (completed first)) (rest.map completed) = some entry := found
      rw [gathered_some] at gathers
      refine .inr ⟨first,rest,⟨?_,same ▸ own⟩,same,(Option.some.inj gathers).symm⟩
      intro existing member equal
      exact List.find?_eq_none.mp known existing member (decide_eq_true (equal.trans same))

theorem opens_find? {first : ProxyAvailability} {rest : List ProxyAvailability} (opens : catalog.Opens delta first rest) :
    (catalog.applyDelta delta).entries.find? (fun x => decide (x.entityId = first.entityId)) =
      some ((rest.map completed).foldl mergeEntry (completed first)) := by
  have unknown : catalog.entries.find? (fun x => decide (x.entityId = first.entityId)) = none := by
    rw [List.find?_eq_none]
    exact fun existing member hit => opens.1 existing member (of_decide_eq_true hit)
  rw [applyDelta_entries,find?_mergeAll mergeEntry_entityId,filter_completed,unknown,opens.2]
  exact gathered_some _ _

theorem applyDelta_twice_iff (catalog : AssetCatalog) (delta : AssetCatalogDelta) :
    (catalog.applyDelta delta).applyDelta delta = catalog.applyDelta delta ↔ catalog.Settles delta := by
  have present : ∀ incoming ∈ delta.added.map completed, Present ProxyAvailability.entityId incoming.entityId (catalog.applyDelta delta).entries := by
    intro incoming member
    rw [applyDelta_entries]
    exact present_mergeAll mergeEntry_entityId member
  have again : (catalog.applyDelta delta).applyDelta delta = catalog.applyDelta delta ↔
      mergeAll ProxyAvailability.entityId mergeEntry (delta.added.map completed) (catalog.applyDelta delta).entries = (catalog.applyDelta delta).entries := by
    rw [← applyDelta_entries]
    exact ⟨congrArg AssetCatalog.entries,fun same => congrArg AssetCatalog.mk same⟩
  rw [again,mergeAll_eq_self_iff mergeEntry_entityId present]
  constructor
  · intro settled first rest opens
    have stays := settled first.entityId _ (opens_find? opens)
    rw [filter_completed,opens.2] at stays
    have given := (opened_again_iff first (rest.map completed)).mp stays
    rwa [List.flatMap_map] at given
  · intro settles entityId entry found
    rw [filter_completed]
    rcases find?_applyDelta found with ⟨existing,_,rfl⟩ | ⟨first,rest,opens,rfl,rfl⟩
    · exact foldl_mergeEntry_twice existing _
    · rw [opens.2]
      refine (opened_again_iff first (rest.map completed)).mpr ?_
      rw [List.flatMap_map]
      exact settles first rest opens

theorem applyDelta_entities (wellFormed : catalog.WellFormed) : ((catalog.applyDelta delta).entries.map ProxyAvailability.entityId).Nodup := by
  rw [applyDelta_entries]
  exact nodup_mergeAll mergeEntry_entityId wellFormed.entities

theorem applyDelta_wellFormed_iff (wellFormed : catalog.WellFormed) : (catalog.applyDelta delta).WellFormed ↔ catalog.OpensOnce delta := by
  constructor
  · intro after first rest opens
    have member := List.mem_of_find?_eq_some (opens_find? opens)
    have nodup := after.footprints _ member
    rw [foldl_mergeEntry] at nodup
    have longer : ∃ more, (upsertAll ProxyFootprint.kind ((rest.map completed).flatMap ProxyAvailability.footprints)
        (completed first).footprints).map ProxyFootprint.kind = (completed first).footprints.map ProxyFootprint.kind ++ more := keys_upsertAll _ _
    obtain ⟨more,keys⟩ := longer
    rw [keys] at nodup
    exact (List.nodup_append.mp nodup).1
  · intro once
    refine ⟨applyDelta_entities wellFormed,?_⟩
    intro entry member
    have found := find?_of_nodup (applyDelta_entities wellFormed) member
    rcases find?_applyDelta found with ⟨existing,known,same⟩ | ⟨first,rest,opens,_,same⟩
    · rw [same,foldl_mergeEntry]
      exact nodup_upsertAll (wellFormed.footprints existing known)
    · rw [same,foldl_mergeEntry]
      exact nodup_upsertAll (once first rest opens)

end AssetCatalog

-- A delta is idempotent, and keeps a catalog with one entry for an entity and one footprint for a
-- kind as it is, unless an entry that goes in as it is gives a kind twice.
theorem catalog_delta_settles_iff (catalog : AssetCatalog) (delta : AssetCatalogDelta) :
    ((catalog.applyDelta delta).applyDelta delta = catalog.applyDelta delta ∧ (catalog.WellFormed → (catalog.applyDelta delta).WellFormed)) ↔
      catalog.Settles delta ∧ (catalog.WellFormed → catalog.OpensOnce delta) := by
  rw [AssetCatalog.applyDelta_twice_iff]
  exact and_congr_right fun _ => forall_congr' AssetCatalog.applyDelta_wellFormed_iff

theorem catalog_delta_repeats_a_kind :
    let delta : AssetCatalogDelta := ⟨[⟨"tile",[],[⟨.tileProxy3D,(1,1,1),2⟩,⟨.tileProxy3D,(2,2,2),16⟩]⟩]⟩
    let once := (AssetCatalog.mk []).applyDelta delta
    (AssetCatalog.mk []).WellFormed ∧ once.applyDelta delta ≠ once ∧ ¬ once.WellFormed :=
  ⟨⟨by decide,by decide⟩,by decide,fun wellFormed => absurd (wellFormed.footprints _ List.mem_cons_self) (by decide)⟩

end Lucida.Core
