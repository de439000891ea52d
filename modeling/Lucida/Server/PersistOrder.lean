import Lucida.Server.DatasetOpen

namespace Lucida.Server
open Content Core Lib

variable {R : Type}

def Listed (document : DocumentState R) (id : DatasetId) : Prop := document.manifests.contains id = true

instance (document : DocumentState R) (id : DatasetId) : Decidable (Listed document id) :=
  inferInstanceAs (Decidable (_ = true))

def Task.write? : Task R → Option (Write R)
  | .writing write | .opening _ (.persisting _ _ write) => some write
  | _ => none

def Task.chosen? : Task R → Option (DatasetId × String)
  | .opening canonicalUrl (.deduping id _) | .opening canonicalUrl (.importing id _)
  | .opening canonicalUrl (.committing id _ _) => some (id,canonicalUrl)
  | _ => none

def Task.Finished : Task R → Prop
  | .written | .opening _ (.returned _) => True
  | _ => False

instance : DecidablePred (Task.Finished (R := R)) := fun state => by
  unfold Task.Finished
  split <;> infer_instance

def WriteKind.Changes (before after : DocumentState R) : WriteKind → Prop
  | .document | .renamed _ _ => ∀ id, Listed after id ↔ Listed before id
  | .removed gone => ∀ id, Listed after id ↔ id ≠ gone ∧ Listed before id
  | .opened new _ _ => ∀ id, Listed after id ↔ id = new ∨ Listed before id

section
variable [Numeric R]

theorem listed_apply (document : DocumentState R) (command : DocumentCommand R) (id : DatasetId) :
    Listed (document.apply command) id ↔ match command with
      | .datasetOpened event => id = event.manifest.datasetId ∨ Listed document id
      | .removeDataset removed => id ≠ removed ∧ Listed document id
      | _ => Listed document id := by
  unfold Listed IndexMap.contains
  rw [DocumentState.apply_manifests]
  cases command with
  | datasetOpened event =>
    rw [IndexMap.get?_insert]
    split <;> simp_all
  | removeDataset removed =>
    dsimp only
    rw [IndexMap.get?_mapEntries,Option.isSome_map,IndexMap.get?_erase]
    split <;> simp_all
  | renameDataset renamed name =>
    rw [IndexMap.get?_modify_eq_map,Option.isSome_map]
  | _ => rfl

variable {shared : Workspace R} {state : Task R}

structure Applied (shared shared' : Workspace R) (state : Task R) (command : DocumentCommand R) (kind : WriteKind) : Prop where
  moved : shared' = {shared with session := shared.session.apply command}
  waits : state = .writing ⟨kind,(shared.session.apply command).seq,(shared.session.apply command).document⟩
  changes : kind.Changes shared.session.document (shared.session.apply command).document
  opens : ∀ id source name, kind ≠ .opened id source name

theorem applies_applied {command : DocumentCommand R} {shared' : Workspace R}
    (applied : shared.applies command = some (shared',state)) : ∃ kind, Applied shared shared' state command kind := by
  have changed (kind : WriteKind) (changes : kind.Changes shared.session.document (shared.session.document.apply command))
      (opens : ∀ id source name, kind ≠ .opened id source name)
      (same : some (({shared with session := shared.session.apply command} : Workspace R),
        (Task.writing ⟨kind,(shared.session.apply command).seq,(shared.session.apply command).document⟩ : Task R)) =
          some (shared',state)) : ∃ kind, Applied shared shared' state command kind := by
    cases same
    exact ⟨kind,rfl,rfl,changes,opens⟩
  cases command with
  | datasetOpened event => cases applied
  | renameDataset id name => cases applied
  | removeDataset id => exact changed (.removed id) (listed_apply _ _) (by simp) applied
  | _ => exact changed .document (listed_apply _ _) (by simp) applied

theorem renames_applied {id : DatasetId} {name : String} {shared' : Workspace R}
    (renamed : shared.renames id name = some (shared',state)) :
    Applied shared shared' state (.renameDataset id name) (.renamed id name) := by
  unfold Workspace.renames at renamed
  split at renamed
  · cases renamed
    exact ⟨rfl,rfl,listed_apply _ _,by simp⟩
  · cases renamed

theorem advance_cases {datasetIdForUrl : String → String} {shared' : Workspace R} {before : Option (Task R)} {action : Action R}
    (advanced : shared.advance datasetIdForUrl before action = some (shared',state)) :
    (before = none ∧ action ≠ .persist ∧ ∃ command kind, Applied shared shared' state command kind) ∨
    (before = none ∧ shared' = shared ∧ ∃ canonicalUrl, action = .call canonicalUrl ∧ state = .opening canonicalUrl
      (if shared.cancelled then .returned (.error .closed) else .authorizing)) ∨
    (∃ write, before = some (.writing write) ∧ action = .persist ∧
      shared' = {shared with store := (shared.store.persist write).getD shared.store} ∧ state = .written) ∨
    (∃ write error, before = some (.writing write) ∧ action = .persistFails error ∧ shared' = shared ∧ state = .written) ∨
    ∃ canonicalUrl stage stage', before = some (.opening canonicalUrl stage) ∧ state = .opening canonicalUrl stage' ∧
      shared.proceed datasetIdForUrl canonicalUrl stage action = some (shared',stage') := by
  cases before with
  | none =>
    cases action with
    | apply command =>
      obtain ⟨kind,applied⟩ := applies_applied advanced
      exact .inl ⟨rfl,by simp,command,kind,applied⟩
    | rename id name => exact .inl ⟨rfl,by simp,_,_,renames_applied advanced⟩
    | call canonicalUrl =>
      cases advanced
      exact .inr (.inl ⟨rfl,rfl,canonicalUrl,rfl,rfl⟩)
    | _ => cases advanced
  | some before =>
    cases before with
    | written => cases advanced
    | writing write =>
      cases action with
      | persist =>
        cases advanced
        exact .inr (.inr (.inl ⟨write,rfl,rfl,rfl,rfl⟩))
      | persistFails error =>
        cases advanced
        exact .inr (.inr (.inr (.inl ⟨write,error,rfl,rfl,rfl,rfl⟩)))
      | _ => cases advanced
    | opening canonicalUrl stage =>
      obtain ⟨⟨shared'',stage'⟩,proceeded,same⟩ := Option.map_eq_some_iff.mp advanced
      cases same
      exact .inr (.inr (.inr (.inr ⟨canonicalUrl,stage,stage',rfl,rfl,proceeded⟩)))

end

namespace StoredWorkspace
variable {datasets datasets' : IndexMap DatasetId WorkspaceDataset} {kind : WriteKind}

theorem any_source {source : String} : datasets.entries.any (·.2.datasetSourceId = source) = true ↔
    ∃ id row, datasets.get? id = some row ∧ row.datasetSourceId = source := by
  rw [List.any_eq_true]
  constructor
  · rintro ⟨⟨id,row⟩,listed,same⟩
    exact ⟨id,row,IndexMap.mem_entries_iff.mp listed,of_decide_eq_true same⟩
  · rintro ⟨id,row,found,same⟩
    exact ⟨(id,row),IndexMap.mem_entries_iff.mpr found,decide_eq_true same⟩

-- A row after a write was there before under its source, or is the one of the opened
-- dataset and the first of its source.
theorem mem_writeDatasets (written : writeDatasets datasets kind = some datasets') {id : DatasetId} {row : WorkspaceDataset}
    (found : datasets'.get? id = some row) :
    (∃ row', datasets.get? id = some row' ∧ row'.datasetSourceId = row.datasetSourceId) ∨
      (∃ name, kind = .opened id row.datasetSourceId name) ∧
        ∀ other row', datasets.get? other = some row' → row'.datasetSourceId ≠ row.datasetSourceId := by
  cases kind with
  | document =>
    cases written
    exact .inl ⟨row,found,rfl⟩
  | removed gone =>
    cases written
    rw [IndexMap.get?_erase] at found
    split at found
    · cases found
    · exact .inl ⟨row,found,rfl⟩
  | renamed renamed name =>
    cases written
    rw [IndexMap.get?_modify_eq_map] at found
    obtain ⟨row',before,rfl⟩ := Option.map_eq_some_iff.mp found
    refine .inl ⟨row',before,?_⟩
    split <;> rfl
  | opened new source name =>
    simp only [writeDatasets] at written
    split at written
    · cases written
      exact .inl ⟨row,found,rfl⟩
    · rename_i first
      split at written
      · cases written
      · cases written
        rw [IndexMap.get?_insert] at found
        split at found
        · rename_i same
          cases found
          refine .inr ⟨⟨name,by rw [same]⟩,fun other row' before taken => first (any_source.mpr ⟨other,row',before,taken⟩)⟩
        · exact .inl ⟨row,found,rfl⟩

theorem writeDatasets_unique (written : writeDatasets datasets kind = some datasets')
    (unique : ∀ id id' row row', datasets.get? id = some row → datasets.get? id' = some row' → row.datasetSourceId = row'.datasetSourceId → id = id')
    {id id' : DatasetId} {row row' : WorkspaceDataset} (found : datasets'.get? id = some row) (found' : datasets'.get? id' = some row')
    (source : row.datasetSourceId = row'.datasetSourceId) : id = id' := by
  rcases mem_writeDatasets written found with ⟨old,earlier,kept⟩ | ⟨⟨name,opens⟩,first⟩
  · rcases mem_writeDatasets written found' with ⟨old',earlier',kept'⟩ | ⟨_,first'⟩
    · exact unique id id' old old' earlier earlier' (kept.trans (source.trans kept'.symm))
    · exact absurd (kept.trans source) (first' id old earlier)
  · rcases mem_writeDatasets written found' with ⟨old',earlier',kept'⟩ | ⟨⟨name',opens'⟩,_⟩
    · exact absurd (kept'.trans source.symm) (first id' old' earlier')
    · exact (WriteKind.opened.inj (opens.symm.trans opens')).1

theorem contains_writeDatasets (written : writeDatasets datasets kind = some datasets') {id : DatasetId}
    (before : datasets.contains id = true) (kept : kind ≠ .removed id) : datasets'.contains id = true := by
  cases kind with
  | document =>
    cases written
    exact before
  | removed gone =>
    cases written
    have other : id ≠ gone := fun same => kept (by rw [same])
    simpa [IndexMap.contains,other] using before
  | renamed renamed name =>
    cases written
    unfold IndexMap.contains
    rw [IndexMap.get?_modify_eq_map,Option.isSome_map]
    exact before
  | opened new source name =>
    simp only [writeDatasets] at written
    split at written
    · cases written
      exact before
    · split at written
      · cases written
      · cases written
        simp only [IndexMap.contains,IndexMap.get?_insert] at before ⊢
        split
        · rfl
        · exact before

-- The rows follow the manifests where the source of an opened dataset has no row of
-- another dataset.
theorem writeDatasets_listed {earlier later : DocumentState R} (written : writeDatasets datasets kind = some datasets')
    (rows : ∀ id, datasets.contains id ↔ Listed earlier id) (changes : kind.Changes earlier later)
    (sole : ∀ id source name, kind = .opened id source name → ∀ other row, datasets.get? other = some row →
      row.datasetSourceId = source → other = id) (id : DatasetId) : datasets'.contains id ↔ Listed later id := by
  cases kind with
  | document =>
    cases written
    rw [rows,changes]
  | removed gone =>
    cases written
    rw [changes,← rows]
    unfold IndexMap.contains
    rw [IndexMap.get?_erase]
    split <;> simp_all
  | renamed renamed name =>
    cases written
    rw [changes,← rows]
    unfold IndexMap.contains
    rw [IndexMap.get?_modify_eq_map,Option.isSome_map]
  | opened new source name =>
    rw [changes,← rows]
    simp only [writeDatasets] at written
    split at written
    · rename_i taken
      cases written
      obtain ⟨other,row,found,same⟩ := any_source.mp taken
      obtain rfl := sole new source name rfl other row found same
      refine ⟨.inr,?_⟩
      rintro (rfl | before)
      · exact Option.isSome_iff_exists.mpr ⟨row,found⟩
      · exact before
    · split at written
      · cases written
      · cases written
        unfold IndexMap.contains
        rw [IndexMap.get?_insert]
        split <;> simp_all

end StoredWorkspace

namespace OpenWorld
variable {w after : OpenWorld R} {versions : Nat → DocumentState R}

def Waits (w : OpenWorld R) (task : Nat) (write : Write R) : Prop :=
  ∃ state, w.tasks.get? task = some state ∧ state.write? = some write

def Chose (w : OpenWorld R) (task : Nat) (id : DatasetId) (canonicalUrl : String) : Prop :=
  ∃ state, w.tasks.get? task = some state ∧ state.chosen? = some (id,canonicalUrl)

def Finished (w : OpenWorld R) : Prop := ∀ task state, w.tasks.get? task = some state → state.Finished

theorem Waits.unique {task : Nat} {write write' : Write R} (waits : w.Waits task write) (waits' : w.Waits task write') :
    write = write' := by
  obtain ⟨state,found,here⟩ := waits
  obtain ⟨state',found',here'⟩ := waits'
  rw [found] at found'
  cases found'
  exact Option.some.inj (here.symm.trans here')

theorem waits_insert {shared : Workspace R} {state : Task R} {task task' : Nat} {write : Write R} :
    (OpenWorld.mk shared (w.tasks.insert task state)).Waits task' write ↔
      task' = task ∧ state.write? = some write ∨ task' ≠ task ∧ w.Waits task' write := by
  unfold Waits
  rw [IndexMap.get?_insert]
  by_cases same : task' = task <;> simp [same]

theorem chose_insert {shared : Workspace R} {state : Task R} {task task' : Nat} {id : DatasetId} {canonicalUrl : String} :
    (OpenWorld.mk shared (w.tasks.insert task state)).Chose task' id canonicalUrl ↔
      task' = task ∧ state.chosen? = some (id,canonicalUrl) ∨ task' ≠ task ∧ w.Chose task' id canonicalUrl := by
  unfold Chose
  rw [IndexMap.get?_insert]
  by_cases same : task' = task <;> simp [same]

variable (datasetIdForUrl : String → String)

-- A write that waits is of one of the documents the session went through. An opened
-- dataset was then the only one of its source.
structure Pends (w : OpenWorld R) (versions : Nat → DocumentState R) (write : Write R) (before : Nat) : Prop where
  seq : write.seq = before + 1
  applied : before < w.shared.session.seq
  document : write.document = versions (before + 1)
  changes : write.kind.Changes (versions before) (versions (before + 1))
  alone : ∀ id source name, write.kind = .opened id source name → w.shared.minted.get? id = some source ∧
    ∀ other, Listed (versions before) other → w.shared.minted.get? other = some source → other = id

-- `versions` are the documents of the session by seq.
structure Recorded (w : OpenWorld R) (versions : Nat → DocumentState R) : Prop where
  behind : w.shared.store.seq ≤ w.shared.session.seq
  live : w.shared.session.document = versions w.shared.session.seq
  stored : w.shared.store.document = versions w.shared.store.seq
  known : ∀ seq ≤ w.shared.session.seq, ∀ id, Listed (versions seq) id → ∃ source, w.shared.minted.get? id = some source
  pends : ∀ task write, w.Waits task write → ∃ before, w.Pends versions write before
  apart : ∀ task task' write write', w.Waits task write → w.Waits task' write' → write.seq = write'.seq → task = task'
  unstored : ∀ task write, w.Waits task write → write.seq ≠ w.shared.store.seq
  covered : ∀ seq, w.shared.store.seq < seq → seq ≤ w.shared.session.seq → ∃ task write, w.Waits task write ∧ write.seq = seq
  rows : (∀ task write, w.Waits task write → w.shared.store.seq < write.seq) →
    ∀ id, w.shared.store.datasets.contains id ↔ Listed w.shared.store.document id
  sources : ∀ id row, w.shared.store.datasets.get? id = some row → w.shared.minted.get? id = some row.datasetSourceId
  unique : ∀ id id' row row', w.shared.store.datasets.get? id = some row → w.shared.store.datasets.get? id' = some row' →
    row.datasetSourceId = row'.datasetSourceId → id = id'
  bound : ∀ id binding, w.shared.session.serverBindings.get? id = some binding →
    w.shared.minted.get? id = some (datasetIdForUrl binding.sourceUrl)
  chosen : ∀ task id canonicalUrl, w.Chose task id canonicalUrl → w.shared.minted.get? id = some (datasetIdForUrl canonicalUrl)
  -- a dataset without a binding has been in the store since before the session
  unbound : ∀ id, Listed w.shared.session.document id → w.shared.session.serverBindings.get? id = none →
    w.shared.store.datasets.contains id ∧ (∀ task write, w.Waits task write → write.kind ≠ .removed id) ∧
      ∀ task other canonicalUrl, w.Chose task other canonicalUrl →
        w.shared.minted.get? id = some (datasetIdForUrl canonicalUrl) → other = id

-- A live workspace as it is loaded from a store whose rows are the datasets of its document.
structure Loaded (w : OpenWorld R) : Prop where
  seq : w.shared.store.seq = w.shared.session.seq
  document : w.shared.store.document = w.shared.session.document
  idle : ∀ task, w.tasks.get? task = none
  rows : ∀ id, w.shared.store.datasets.contains id ↔ Listed w.shared.store.document id
  sources : ∀ id row, w.shared.store.datasets.get? id = some row → w.shared.minted.get? id = some row.datasetSourceId
  unique : ∀ id id' row row', w.shared.store.datasets.get? id = some row → w.shared.store.datasets.get? id' = some row' →
    row.datasetSourceId = row'.datasetSourceId → id = id'
  bound : ∀ id binding, w.shared.session.serverBindings.get? id = some binding →
    w.shared.minted.get? id = some (datasetIdForUrl binding.sourceUrl)

def InTurn (w : OpenWorld R) : OpenEvent R → Prop
  | .act task .persist => ∀ state ∈ w.tasks.get? task, ∀ write ∈ state.write?, w.shared.store.seq < write.seq
  | _ => True

-- The URL that an open commits has the source id of no other URL with a loaded dataset.
def Distinct (w : OpenWorld R) : OpenEvent R → Prop
  | .act task .commit => ∀ state ∈ w.tasks.get? task, ∀ chosen ∈ state.chosen?,
    ∀ entry ∈ w.shared.session.serverBindings.entries, Listed w.shared.session.document entry.1 →
      datasetIdForUrl entry.2.sourceUrl = datasetIdForUrl chosen.2 → entry.2.sourceUrl = chosen.2
  | _ => True

def Executes : OpenEvent R → Prop
  | .act _ (.persistFails _) => False
  | _ => True

instance (w : OpenWorld R) : DecidablePred w.InTurn := fun event => by
  unfold InTurn
  split <;> infer_instance

instance (w : OpenWorld R) : DecidablePred (w.Distinct datasetIdForUrl) := fun event => by
  unfold Distinct
  split <;> infer_instance

instance : DecidablePred (Executes (R := R)) := fun event => by
  unfold Executes
  split <;> infer_instance

variable {datasetIdForUrl}

theorem Loaded.recorded (loaded : w.Loaded datasetIdForUrl) : w.Recorded datasetIdForUrl fun _ => w.shared.session.document := by
  have nothing {task : Nat} {write : Write R} : ¬ w.Waits task write := by
    rintro ⟨state,found,_⟩
    rw [loaded.idle] at found
    cases found
  have nobody {task : Nat} {id : DatasetId} {url : String} : ¬ w.Chose task id url := by
    rintro ⟨state,found,_⟩
    rw [loaded.idle] at found
    cases found
  have minted (id : DatasetId) (listed : Listed w.shared.session.document id) : w.shared.store.datasets.contains id :=
    (loaded.rows id).mpr (loaded.document ▸ listed)
  refine ⟨loaded.seq.le,rfl,loaded.document,fun _ _ id listed => ?_,fun _ _ waits => absurd waits nothing,
    fun _ _ _ _ waits => absurd waits nothing,fun _ _ waits => absurd waits nothing,fun seq above below => ?_,
    fun _ => loaded.rows,loaded.sources,loaded.unique,loaded.bound,fun _ _ _ chose => absurd chose nobody,
    fun id listed _ => ⟨minted id listed,fun _ _ waits => absurd waits nothing,fun _ _ _ chose => absurd chose nobody⟩⟩
  · obtain ⟨row,found⟩ := Option.isSome_iff_exists.mp (minted id listed)
    exact ⟨_,loaded.sources id row found⟩
  · rw [loaded.seq] at above
    omega

theorem free_of_silent {task : Nat} {before : Task R} (found : w.tasks.get? task = some before) (silent : before.write? = none)
    (write : Write R) : ¬ w.Waits task write := by
  rintro ⟨state',found',now⟩
  rw [found] at found'
  cases found'
  rw [silent] at now
  cases now

theorem free_of_missing {task : Nat} (missing : w.tasks.get? task = none) (write : Write R) : ¬ w.Waits task write := by
  rintro ⟨state,found,_⟩
  rw [missing] at found
  cases found

theorem lookup_frame {shared shared' : Workspace R} {canonicalUrl : String} {fresh : DatasetId} {stage : OpenStage R}
    (looked : shared.lookup datasetIdForUrl canonicalUrl fresh = some (shared',stage)) :
    shared'.session = shared.session ∧ shared'.store = shared.store ∧ shared'.cancelled = shared.cancelled ∧
      ∀ id source, shared.minted.get? id = some source → shared'.minted.get? id = some source := by
  unfold Workspace.lookup at looked
  split at looked
  · cases looked
    exact ⟨rfl,rfl,rfl,fun _ _ minted => minted⟩
  · split at looked
    · rename_i unused
      cases looked
      refine ⟨rfl,rfl,rfl,fun id source minted => ?_⟩
      rw [IndexMap.get?_insert,if_neg]
      · exact minted
      · rintro rfl
        rw [unused] at minted
        cases minted
    · cases looked

theorem Recorded.quiet (recorded : w.Recorded datasetIdForUrl versions) {task : Nat} {state : Task R} {shared : Workspace R}
    (session : shared.session = w.shared.session) (store : shared.store = w.shared.store)
    (grew : ∀ id source, w.shared.minted.get? id = some source → shared.minted.get? id = some source)
    (free : ∀ write, ¬ w.Waits task write) (silent : state.write? = none)
    (chooses : ∀ id canonicalUrl, state.chosen? = some (id,canonicalUrl) →
      shared.minted.get? id = some (datasetIdForUrl canonicalUrl) ∧
      ∀ other, Listed w.shared.session.document other → w.shared.session.serverBindings.get? other = none →
        w.shared.minted.get? other = some (datasetIdForUrl canonicalUrl) → id = other) :
    (OpenWorld.mk shared (w.tasks.insert task state)).Recorded datasetIdForUrl versions := by
  obtain ⟨_,_,cancelled,minted⟩ := shared
  obtain rfl : _ = _ := session
  obtain rfl : _ = _ := store
  have same {task' : Nat} {write : Write R}
      (waits : (OpenWorld.mk ⟨w.shared.session,w.shared.store,cancelled,minted⟩ (w.tasks.insert task state)).Waits task' write) :
      w.Waits task' write := by
    rcases waits_insert.mp waits with ⟨_,now⟩ | ⟨_,before⟩
    · rw [silent] at now
      cases now
    · exact before
  -- an id that is listed was minted before, so its source stays
  have settled {seq : Nat} {id : DatasetId} {source : String} (past : seq ≤ w.shared.session.seq)
      (listed : Listed (versions seq) id) (now : minted.get? id = some source) : w.shared.minted.get? id = some source := by
    obtain ⟨source',before⟩ := recorded.known seq past id listed
    rw [grew id source' before] at now
    rw [before,now]
  constructor
  · exact recorded.behind
  · exact recorded.live
  · exact recorded.stored
  · intro seq past id listed
    obtain ⟨source,before⟩ := recorded.known seq past id listed
    exact ⟨source,grew id source before⟩
  · intro task' write waits
    obtain ⟨before,pends⟩ := recorded.pends task' write (same waits)
    refine ⟨before,pends.seq,pends.applied,pends.document,pends.changes,fun id source name opens => ?_⟩
    obtain ⟨home,alone⟩ := pends.alone id source name opens
    exact ⟨grew id source home,fun other listed now => alone other listed (settled pends.applied.le listed now)⟩
  · exact fun task' task'' write write' waits waits' => recorded.apart _ _ _ _ (same waits) (same waits')
  · exact fun task' write waits => recorded.unstored task' write (same waits)
  · intro seq above below
    obtain ⟨task',write,waits,at'⟩ := recorded.covered seq above below
    have other : task' ≠ task := by
      rintro rfl
      exact free write waits
    exact ⟨task',write,waits_insert.mpr (.inr ⟨other,waits⟩),at'⟩
  · intro ahead
    refine recorded.rows fun task' write waits => ahead task' write (waits_insert.mpr (.inr ⟨?_,waits⟩))
    rintro rfl
    exact free write waits
  · exact fun id row found => grew id _ (recorded.sources id row found)
  · exact recorded.unique
  · exact fun id binding found => grew id _ (recorded.bound id binding found)
  · intro task' id canonicalUrl chose
    rcases chose_insert.mp chose with ⟨_,now⟩ | ⟨_,before⟩
    · exact (chooses id canonicalUrl now).1
    · exact grew id _ (recorded.chosen task' id canonicalUrl before)
  · intro id listed unbound
    obtain ⟨row,unremoved,others⟩ := recorded.unbound id listed unbound
    refine ⟨row,fun task' write waits => unremoved task' write (same waits),fun task' other canonicalUrl chose home => ?_⟩
    have before := settled le_rfl (recorded.live ▸ listed) home
    rcases chose_insert.mp chose with ⟨_,now⟩ | ⟨_,earlier⟩
    · exact (chooses other canonicalUrl now).2 id listed unbound before
    · exact others task' other canonicalUrl earlier before

structure Advances (datasetIdForUrl : String → String) (w : OpenWorld R) (task : Nat) (state : Task R) (session : Session R) (kind : WriteKind) :
    Prop where
  next : session.seq = w.shared.session.seq + 1
  free : ∀ write, ¬ w.Waits task write
  waits : state.write? = some ⟨kind,session.seq,session.document⟩
  decided : state.chosen? = none
  changes : kind.Changes w.shared.session.document session.document
  alone : ∀ id source name, kind = .opened id source name → w.shared.minted.get? id = some source ∧
    ∀ other, Listed w.shared.session.document other → w.shared.minted.get? other = some source → other = id
  bound : ∀ id binding, session.serverBindings.get? id = some binding →
    w.shared.minted.get? id = some (datasetIdForUrl binding.sourceUrl)
  unbound : ∀ id, session.serverBindings.get? id = none →
    w.shared.session.serverBindings.get? id = none ∧ ∀ source name, kind ≠ .opened id source name

def advanced (w : OpenWorld R) (task : Nat) (state : Task R) (session : Session R) : OpenWorld R :=
  ⟨{w.shared with session},w.tasks.insert task state⟩

section Advance
variable {task : Nat} {state : Task R} {session : Session R} {kind : WriteKind}

theorem Advances.told (advances : w.Advances datasetIdForUrl task state session kind) {task' : Nat} {write : Write R}
    (told : (w.advanced task state session).Waits task' write) :
    task' = task ∧ write = ⟨kind,session.seq,session.document⟩ ∨ w.Waits task' write := by
  rcases waits_insert.mp told with ⟨same,now⟩ | ⟨_,before⟩
  · rw [advances.waits] at now
    exact .inl ⟨same,(Option.some.inj now).symm⟩
  · exact .inr before

theorem Advances.kept (advances : w.Advances datasetIdForUrl task state session kind) {task' : Nat} {write : Write R}
    (before : w.Waits task' write) : (w.advanced task state session).Waits task' write := by
  refine waits_insert.mpr (.inr ⟨?_,before⟩)
  rintro rfl
  exact advances.free write before

theorem Advances.chose (advances : w.Advances datasetIdForUrl task state session kind) {task' : Nat} {id : DatasetId} {canonicalUrl : String}
    (chose : (w.advanced task state session).Chose task' id canonicalUrl) : w.Chose task' id canonicalUrl := by
  rcases chose_insert.mp chose with ⟨_,now⟩ | ⟨_,before⟩
  · rw [advances.decided] at now
    cases now
  · exact before

theorem Advances.earlier (advances : w.Advances datasetIdForUrl task state session kind) {seq : Nat} (past : seq ≤ w.shared.session.seq) :
    Function.update versions session.seq session.document seq = versions seq := by
  have next := advances.next
  rw [Function.update_of_ne]
  omega

theorem Advances.listed (advances : w.Advances datasetIdForUrl task state session kind) {id : DatasetId} (listed : Listed session.document id) :
    Listed w.shared.session.document id ∨ ∃ source name, kind = .opened id source name := by
  have changes := advances.changes
  cases kind with
  | document => exact .inl ((changes id).mp listed)
  | renamed renamed name => exact .inl ((changes id).mp listed)
  | removed gone => exact .inl ((changes id).mp listed).2
  | opened new source name =>
    rcases (changes id).mp listed with rfl | before
    · exact .inr ⟨source,name,rfl⟩
    · exact .inl before

theorem Advances.unremoved (advances : w.Advances datasetIdForUrl task state session kind) {id : DatasetId}
    (listed : Listed session.document id) : kind ≠ .removed id := by
  rintro rfl
  exact ((advances.changes id).mp listed).1 rfl

theorem Recorded.waited (recorded : w.Recorded datasetIdForUrl versions) {task' : Nat} {write : Write R} (waits : w.Waits task' write) :
    write.seq ≤ w.shared.session.seq := by
  obtain ⟨seq,pends⟩ := recorded.pends task' write waits
  have at' := pends.seq
  have applied := pends.applied
  omega

variable (recorded : w.Recorded datasetIdForUrl versions) (advances : w.Advances datasetIdForUrl task state session kind)
include recorded advances

theorem Recorded.advance_known {seq : Nat} (past : seq ≤ session.seq) {id : DatasetId}
    (listed : Listed (Function.update versions session.seq session.document seq) id) : ∃ source, w.shared.minted.get? id = some source := by
  have next := advances.next
  by_cases now : seq = session.seq
  · rw [now,Function.update_self] at listed
    rcases advances.listed listed with before | ⟨source,name,opens⟩
    · exact recorded.known _ le_rfl id (recorded.live ▸ before)
    · exact ⟨source,(advances.alone id source name opens).1⟩
  · have within : seq ≤ w.shared.session.seq := by omega
    rw [advances.earlier within] at listed
    exact recorded.known seq within id listed

theorem Recorded.advance_pends {task' : Nat} {write : Write R} (told : (w.advanced task state session).Waits task' write) :
    ∃ before, (w.advanced task state session).Pends (Function.update versions session.seq session.document) write before := by
  have next := advances.next
  rcases advances.told told with ⟨_,rfl⟩ | before
  · refine ⟨w.shared.session.seq,next,by show _ < session.seq; omega,?_,?_,?_⟩
    · rw [← next,Function.update_self]
    · rw [← next,Function.update_self,advances.earlier le_rfl,← recorded.live]
      exact advances.changes
    · rw [advances.earlier le_rfl,← recorded.live]
      exact advances.alone
  · obtain ⟨seq,pends⟩ := recorded.pends task' write before
    have past := pends.applied
    refine ⟨seq,pends.seq,by show seq < session.seq; omega,?_,?_,?_⟩
    · rw [advances.earlier past]
      exact pends.document
    · rw [advances.earlier past,advances.earlier past.le]
      exact pends.changes
    · rw [advances.earlier past.le]
      exact pends.alone

theorem Recorded.advance_apart {task' task'' : Nat} {write write' : Write R} (told : (w.advanced task state session).Waits task' write)
    (told' : (w.advanced task state session).Waits task'' write') (same : write.seq = write'.seq) : task' = task'' := by
  have next := advances.next
  rcases advances.told told with ⟨rfl,rfl⟩ | before
  · rcases advances.told told' with ⟨rfl,rfl⟩ | before'
    · rfl
    · have old := recorded.waited before'
      simp only at same
      omega
  · rcases advances.told told' with ⟨rfl,rfl⟩ | before'
    · have old := recorded.waited before
      simp only at same
      omega
    · exact recorded.apart _ _ _ _ before before' same

theorem Recorded.advance_covered {seq : Nat} (above : w.shared.store.seq < seq) (below : seq ≤ session.seq) :
    ∃ task' write, (w.advanced task state session).Waits task' write ∧ write.seq = seq := by
  have next := advances.next
  by_cases now : seq = session.seq
  · exact ⟨task,_,waits_insert.mpr (.inl ⟨rfl,advances.waits⟩),now.symm⟩
  · obtain ⟨task',write,before,at'⟩ := recorded.covered seq above (by omega)
    exact ⟨task',write,advances.kept before,at'⟩

theorem Recorded.advance_unbound {id : DatasetId} (listed : Listed session.document id) (missing : session.serverBindings.get? id = none) :
    w.shared.store.datasets.contains id ∧ (∀ task' write, (w.advanced task state session).Waits task' write → write.kind ≠ .removed id) ∧
      ∀ task' other canonicalUrl, (w.advanced task state session).Chose task' other canonicalUrl →
        w.shared.minted.get? id = some (datasetIdForUrl canonicalUrl) → other = id := by
  obtain ⟨missing',never⟩ := advances.unbound id missing
  have before : Listed w.shared.session.document id :=
    (advances.listed listed).resolve_right fun ⟨source,name,opens⟩ => never source name opens
  obtain ⟨row,unremoved,others⟩ := recorded.unbound id before missing'
  refine ⟨row,fun task' write told => ?_,fun task' other canonicalUrl chose => others task' other canonicalUrl (advances.chose chose)⟩
  rcases advances.told told with ⟨_,rfl⟩ | earlier
  · exact advances.unremoved listed
  · exact unremoved task' write earlier

theorem Recorded.advance : (w.advanced task state session).Recorded datasetIdForUrl (Function.update versions session.seq session.document) := by
  have next := advances.next
  have newer := recorded.behind
  constructor
  · show w.shared.store.seq ≤ session.seq
    omega
  · show session.document = Function.update versions session.seq session.document session.seq
    rw [Function.update_self]
  · show w.shared.store.document = Function.update versions session.seq session.document w.shared.store.seq
    rw [advances.earlier newer]
    exact recorded.stored
  · exact fun seq past id listed => recorded.advance_known advances past listed
  · exact fun task' write told => recorded.advance_pends advances told
  · exact fun task' task'' write write' told told' same => recorded.advance_apart advances told told' same
  · intro task' write told
    rcases advances.told told with ⟨_,rfl⟩ | before
    · show session.seq ≠ w.shared.store.seq
      omega
    · exact recorded.unstored task' write before
  · exact fun seq above below => recorded.advance_covered advances above below
  · exact fun ahead => recorded.rows fun task' write before => ahead task' write (advances.kept before)
  · exact recorded.sources
  · exact recorded.unique
  · exact advances.bound
  · exact fun task' id canonicalUrl chose => recorded.chosen task' id canonicalUrl (advances.chose chose)
  · exact fun id listed missing => recorded.advance_unbound advances listed missing

end Advance

theorem Recorded.persists (recorded : w.Recorded datasetIdForUrl versions) {task : Nat} {write : Write R}
    (waits : w.Waits task write) : ∃ store, w.shared.store.persist write = some store := by
  obtain ⟨before,pends⟩ := recorded.pends task write waits
  suffices ∃ datasets, StoredWorkspace.writeDatasets w.shared.store.datasets write.kind = some datasets by
    obtain ⟨datasets,written⟩ := this
    exact ⟨_,by rw [StoredWorkspace.persist,written]; rfl⟩
  cases shape : write.kind with
  | document | removed gone | renamed renamed name => exact ⟨_,rfl⟩
  | opened id source name =>
    simp only [StoredWorkspace.writeDatasets]
    split
    · exact ⟨_,rfl⟩
    · rename_i first
      split
      · rename_i taken
        -- the row under this id could only be of this source
        obtain ⟨row,found⟩ := Option.isSome_iff_exists.mp taken
        have home := (pends.alone id source name shape).1
        rw [recorded.sources id row found] at home
        exact absurd (StoredWorkspace.any_source.mpr ⟨id,row,found,Option.some.inj home⟩) first
      · exact ⟨_,rfl⟩

theorem Recorded.in_turn (recorded : w.Recorded datasetIdForUrl versions) {task : Nat} {write : Write R} {before : Nat} (waits : w.Waits task write)
    (turn : w.shared.store.seq < write.seq) (pends : w.Pends versions write before)
    (ahead : ∀ task' write', task' ≠ task → w.Waits task' write' → write.seq < write'.seq) : w.shared.store.seq = before := by
  have at' := pends.seq
  have applied := pends.applied
  by_contra gap
  obtain ⟨task',write',told,found⟩ := recorded.covered (w.shared.store.seq + 1) (by omega) (by omega)
  have other : task' ≠ task := by
    rintro rfl
    cases told.unique waits
    omega
  have later := ahead task' write' other told
  omega

theorem Recorded.persist_rows (recorded : w.Recorded datasetIdForUrl versions) {task : Nat} {write : Write R} {before : Nat}
    {datasets : IndexMap DatasetId WorkspaceDataset} (waits : w.Waits task write) (turn : w.shared.store.seq < write.seq)
    (pends : w.Pends versions write before) (written : StoredWorkspace.writeDatasets w.shared.store.datasets write.kind = some datasets)
    (ahead : ∀ task' write', task' ≠ task → w.Waits task' write' → write.seq < write'.seq) (id : DatasetId) :
    datasets.contains id ↔ Listed write.document id := by
  have next := recorded.in_turn waits turn pends ahead
  have rows := recorded.rows fun task' write' told => by
    by_cases mine : task' = task
    · subst mine
      exact told.unique waits ▸ turn
    · exact turn.trans (ahead task' write' mine told)
  rw [pends.document]
  refine StoredWorkspace.writeDatasets_listed written rows (?_ : write.kind.Changes _ _) (fun id source name opens other row found same' => ?_) id
  · rw [recorded.stored,next]
    exact pends.changes
  · refine (pends.alone id source name opens).2 other ?_ (same' ▸ recorded.sources other row found)
    rw [← next,← recorded.stored,← rows]
    exact Option.isSome_iff_exists.mpr ⟨row,found⟩

-- A write in turn. The rows agree with the stored document again where no earlier
-- write is left out: then the write is the next one.
theorem Recorded.persist (recorded : w.Recorded datasetIdForUrl versions) {task : Nat} {write : Write R} {state : Task R}
    {store : StoredWorkspace R} (waits : w.Waits task write) (turn : w.shared.store.seq < write.seq)
    (persisted : w.shared.store.persist write = some store) (silent : state.write? = none) (decided : state.chosen? = none) :
    (OpenWorld.mk {w.shared with store} (w.tasks.insert task state)).Recorded datasetIdForUrl versions := by
  obtain ⟨datasets,written,rfl⟩ := Option.map_eq_some_iff.mp persisted
  obtain ⟨before,pends⟩ := recorded.pends task write waits
  have at' := pends.seq
  have applied := pends.applied
  have same {task' : Nat} {write' : Write R}
      (told : (OpenWorld.mk {w.shared with store := ⟨write.seq,write.document,datasets⟩}
        (w.tasks.insert task state)).Waits task' write') : task' ≠ task ∧ w.Waits task' write' := by
    rcases waits_insert.mp told with ⟨_,now⟩ | other
    · rw [silent] at now
      cases now
    · exact other
  have chose' {task' : Nat} {id : DatasetId} {canonicalUrl : String}
      (told : (OpenWorld.mk {w.shared with store := ⟨write.seq,write.document,datasets⟩}
        (w.tasks.insert task state)).Chose task' id canonicalUrl) : w.Chose task' id canonicalUrl := by
    rcases chose_insert.mp told with ⟨_,now⟩ | ⟨_,other⟩
    · rw [decided] at now
      cases now
    · exact other
  constructor
  · show write.seq ≤ w.shared.session.seq
    omega
  · exact recorded.live
  · show write.document = versions write.seq
    rw [at',pends.document]
  · exact recorded.known
  · intro task' write' told
    obtain ⟨seq,pends'⟩ := recorded.pends task' write' (same told).2
    exact ⟨seq,pends'.seq,pends'.applied,pends'.document,pends'.changes,pends'.alone⟩
  · exact fun task' task'' write' write'' told told' => recorded.apart _ _ _ _ (same told).2 (same told').2
  · intro task' write' told equal
    exact (same told).1 (recorded.apart _ _ _ _ (same told).2 waits equal)
  · intro seq above below
    have above' : write.seq < seq := above
    obtain ⟨task',write',told,found⟩ := recorded.covered seq (turn.trans above') below
    have other : task' ≠ task := by
      rintro rfl
      have := told.unique waits
      subst this
      omega
    exact ⟨task',write',waits_insert.mpr (.inr ⟨other,told⟩),found⟩
  · exact fun ahead => recorded.persist_rows waits turn pends written fun task' write' other told =>
      ahead task' write' (waits_insert.mpr (.inr ⟨other,told⟩))
  · intro id row found
    rcases StoredWorkspace.mem_writeDatasets written found with ⟨row',earlier,source⟩ | ⟨⟨name,opens⟩,_⟩
    · rw [← source]
      exact recorded.sources id row' earlier
    · exact (pends.alone _ _ _ opens).1
  · exact fun id id' row row' found found' source => StoredWorkspace.writeDatasets_unique written recorded.unique found found' source
  · exact recorded.bound
  · exact fun task' id canonicalUrl told => recorded.chosen task' id canonicalUrl (chose' told)
  · intro id listed missing
    obtain ⟨row,unremoved,others⟩ := recorded.unbound id listed missing
    refine ⟨StoredWorkspace.contains_writeDatasets written row (unremoved task write waits),?_,?_⟩
    · exact fun task' write' told => unremoved task' write' (same told).2
    · exact fun task' other canonicalUrl told => others task' other canonicalUrl (chose' told)

theorem Recorded.cancel (recorded : w.Recorded datasetIdForUrl versions) :
    (OpenWorld.mk {w.shared with cancelled := true} w.tasks).Recorded datasetIdForUrl versions := by
  constructor
  · exact recorded.behind
  · exact recorded.live
  · exact recorded.stored
  · exact recorded.known
  · intro task write waits
    obtain ⟨before,pends⟩ := recorded.pends task write waits
    exact ⟨before,pends.seq,pends.applied,pends.document,pends.changes,pends.alone⟩
  · exact recorded.apart
  · exact recorded.unstored
  · exact recorded.covered
  · exact recorded.rows
  · exact recorded.sources
  · exact recorded.unique
  · exact recorded.bound
  · exact recorded.chosen
  · exact recorded.unbound

section
variable [Numeric R] {shared : Workspace R} {state : Task R}

theorem Recorded.applied (recorded : w.Recorded datasetIdForUrl versions) {task : Nat} {command : DocumentCommand R}
    {kind : WriteKind} (applied : Applied w.shared shared state command kind) (free : ∀ write, ¬ w.Waits task write) :
    ∃ versions', (OpenWorld.mk shared (w.tasks.insert task state)).Recorded datasetIdForUrl versions' := by
  obtain ⟨rfl,rfl,changes,opens⟩ := applied
  have bindings : (w.shared.session.apply command).serverBindings = w.shared.session.serverBindings := by
    cases command <;> rfl
  refine ⟨_,recorded.advance ⟨rfl,free,rfl,rfl,changes,fun id source name same => absurd same (opens id source name),?_,?_⟩⟩
  · rw [bindings]
    exact recorded.bound
  · rw [bindings]
    exact fun id missing => ⟨missing,fun source name => opens id source name⟩

omit [Numeric R] in
theorem Recorded.lookup (recorded : w.Recorded datasetIdForUrl versions) {task : Nat} {canonicalUrl : String} {fresh : DatasetId}
    {stage : OpenStage R} (found : w.shared.lookup datasetIdForUrl canonicalUrl fresh = some (shared,stage))
    (free : ∀ write, ¬ w.Waits task write) :
    (OpenWorld.mk shared (w.tasks.insert task (.opening canonicalUrl stage))).Recorded datasetIdForUrl versions := by
  have stored {other : DatasetId} (listed : Listed w.shared.session.document other)
      (unbound : w.shared.session.serverBindings.get? other = none)
      (home : w.shared.minted.get? other = some (datasetIdForUrl canonicalUrl)) :
      ∃ row, w.shared.store.datasets.get? other = some row ∧ row.datasetSourceId = datasetIdForUrl canonicalUrl := by
    obtain ⟨row,here⟩ := Option.isSome_iff_exists.mp (recorded.unbound other listed unbound).1
    rw [recorded.sources other row here] at home
    exact ⟨row,here,Option.some.inj home⟩
  obtain ⟨_,_,_,frame⟩ := lookup_frame found
  unfold Workspace.lookup at found
  split at found
  · rename_i id row hit
    cases found
    have here := IndexMap.mem_entries_iff.mp (List.mem_of_find?_eq_some hit)
    have source : row.datasetSourceId = datasetIdForUrl canonicalUrl := by simpa using List.find?_some hit
    refine recorded.quiet rfl rfl (fun _ _ minted => minted) free rfl fun id' canonicalUrl' chosen => ?_
    cases chosen
    refine ⟨source ▸ recorded.sources id row here,fun other listed unbound home => ?_⟩
    obtain ⟨row',here',source'⟩ := stored listed unbound home
    exact recorded.unique id other row row' here here' (source.trans source'.symm)
  · rename_i missing
    split at found
    · cases found
      refine recorded.quiet rfl rfl frame free rfl fun id' canonicalUrl' chosen => ?_
      cases chosen
      refine ⟨by simp,fun other listed unbound home => ?_⟩
      obtain ⟨row',here',source'⟩ := stored listed unbound home
      have nobody := List.find?_eq_none.mp missing _ (IndexMap.mem_entries_iff.mpr here')
      exact absurd source' (by simpa using nobody)
    · cases found

omit [Numeric R] in
theorem Recorded.continues (recorded : w.Recorded datasetIdForUrl versions) {task : Nat} {before : Task R}
    (found : w.tasks.get? task = some before) (silent : before.write? = none) (silent' : state.write? = none)
    (keeps : state.chosen? = none ∨ state.chosen? = before.chosen?) :
    (OpenWorld.mk w.shared (w.tasks.insert task state)).Recorded datasetIdForUrl versions := by
  refine recorded.quiet rfl rfl (fun _ _ minted => minted) (free_of_silent found silent) silent' fun id canonicalUrl chosen => ?_
  have chose : w.Chose task id canonicalUrl := by
    rcases keeps with none' | same
    · rw [none'] at chosen
      cases chosen
    · exact ⟨before,found,same ▸ chosen⟩
  exact ⟨recorded.chosen task id canonicalUrl chose,fun other listed unbound home =>
    (recorded.unbound other listed unbound).2.2 task id canonicalUrl chose home⟩

omit [Numeric R] in
theorem findLoadedBinding_none {session : Session R} {id : DatasetId} {canonicalUrl : String}
    (missing : session.findLoadedBinding id canonicalUrl = none) {other : DatasetId} {binding : ServerBinding R}
    (bound : session.serverBindings.get? other = some binding) (listed : Listed session.document other) :
    binding.sourceUrl ≠ canonicalUrl := by
  unfold Session.findLoadedBinding at missing
  split at missing
  · cases missing
  · intro same
    have nobody := List.find?_eq_none.mp (Option.map_eq_none_iff.mp missing) _ (IndexMap.mem_entries_iff.mpr bound)
    exact nobody (by simp [same,show session.document.manifests.contains other = true from listed])

-- The check under the lock leaves the opened dataset the only one of its source: a bound
-- one would have been found by its URL, an unbound one has the id that the lookup chose.
theorem Recorded.commit (recorded : w.Recorded datasetIdForUrl versions) {task : Nat} {canonicalUrl name : String}
    {id : DatasetId} {imported : Imported R} (own : imported.opened.manifest.datasetId = id)
    (found : w.tasks.get? task = some (.opening canonicalUrl (.committing id name imported)))
    (distinct : w.Distinct datasetIdForUrl (.act task .commit))
    (missing : w.shared.session.findLoadedBinding id canonicalUrl = none) :
    let session := w.shared.session.commit id canonicalUrl (datasetIdForUrl canonicalUrl) name imported
    ∃ versions', (OpenWorld.mk {w.shared with session} (w.tasks.insert task (.opening canonicalUrl
      (.persisting id imported.opened ⟨.opened id (datasetIdForUrl canonicalUrl) name,session.seq,session.document⟩)))).Recorded
        datasetIdForUrl versions' := by
  intro session
  have chose : w.Chose task id canonicalUrl := ⟨_,found,rfl⟩
  have home := recorded.chosen task id canonicalUrl chose
  have free := free_of_silent found rfl
  have bindings : session.serverBindings = w.shared.session.serverBindings.insert id ⟨canonicalUrl,imported.opened⟩ := rfl
  refine ⟨_,recorded.advance ⟨rfl,free,rfl,rfl,(?_ : WriteKind.Changes _ _ (.opened _ _ _)),?_,?_,?_⟩⟩
  · intro other
    rw [← own]
    exact listed_apply _ _ other
  · intro id' source name' same
    cases same
    refine ⟨home,fun other listed home' => ?_⟩
    cases bound : w.shared.session.serverBindings.get? other with
    | some binding =>
      have source := recorded.bound other binding bound
      rw [home'] at source
      have same := distinct _ found _ rfl _ (IndexMap.mem_entries_iff.mpr bound) listed (Option.some.inj source).symm
      exact absurd same (findLoadedBinding_none missing bound listed)
    | none => exact ((recorded.unbound other listed bound).2.2 task id canonicalUrl chose home').symm
  · intro other binding here
    rw [bindings,IndexMap.get?_insert] at here
    split at here
    · rename_i same
      cases here
      exact same ▸ home
    · exact recorded.bound other binding here
  · intro other missing'
    rw [bindings,IndexMap.get?_insert] at missing'
    split at missing'
    · cases missing'
    · rename_i different
      refine ⟨missing',fun source name' same => ?_⟩
      cases same
      exact different rfl

section
variable {canonicalUrl : String} {stage stage' : OpenStage R}

omit [Numeric R] in
theorem dedup_cases (shared : Workspace R) (canonicalUrl : String) (id : DatasetId) (name : String) :
    (∃ result, shared.dedup canonicalUrl id name = .returned result) ∨ shared.dedup canonicalUrl id name = .importing id name := by
  unfold Workspace.dedup
  split
  · exact .inl ⟨_,rfl⟩
  · exact .inr rfl

omit [Numeric R] in
theorem quietly_silent (quietly : Quietly shared canonicalUrl stage stage') :
    (Task.opening canonicalUrl stage).write? = none ∧ (Task.opening canonicalUrl stage').write? = none := by
  cases quietly with
  | dedup =>
    rcases dedup_cases shared canonicalUrl _ _ with ⟨result,same⟩ | same <;> rw [same] <;> exact ⟨rfl,rfl⟩
  | _ => exact ⟨rfl,rfl⟩

omit [Numeric R] in
theorem quietly_chosen (quietly : Quietly shared canonicalUrl stage stage') :
    (Task.opening canonicalUrl stage').chosen? = none ∨
      (Task.opening canonicalUrl stage').chosen? = (Task.opening canonicalUrl stage).chosen? := by
  cases quietly with
  | dedup =>
    rcases dedup_cases shared canonicalUrl _ _ with ⟨result,same⟩ | same
    · rw [same]
      exact .inl rfl
    · rw [same]
      exact .inr rfl
  | imported own => exact .inr rfl
  | _ => exact .inl rfl

theorem proceed_imported {shared' : Workspace R} {action : Action R} {id : DatasetId} {name : String} {imported : Imported R}
    (proceeded : shared.proceed datasetIdForUrl canonicalUrl stage action = some (shared',.committing id name imported)) :
    imported.opened.manifest.datasetId = id := by
  rcases proceed_cases proceeded with ⟨fresh,_,_,looked⟩ | ⟨_,_,_,_,_,committed⟩ | ⟨_,_,_,_,_,persisted⟩ |
    ⟨_,_,_,_,_,_,_,same⟩ | ⟨_,quietly⟩
  · unfold Workspace.lookup at looked
    split at looked
    · cases looked
    · split at looked <;> cases looked
  · unfold Workspace.commit at committed
    split at committed <;> cases committed
  · unfold Workspace.persist at persisted
    split at persisted <;> cases persisted
  · cases same
  · generalize reached : OpenStage.committing id name imported = stage' at quietly
    cases quietly with
    | imported own =>
      cases reached
      exact own
    | dedup =>
      rcases dedup_cases shared canonicalUrl _ _ with ⟨result,same⟩ | same <;> rw [same] at reached <;> cases reached
    | _ => cases reached

end

def Imports (w : OpenWorld R) : Prop := ∀ task canonicalUrl id name imported,
  w.tasks.get? task = some (.opening canonicalUrl (.committing id name imported)) → imported.opened.manifest.datasetId = id

theorem next_imports (imports : w.Imports) (taken : w.next? datasetIdForUrl event = some after) : after.Imports := by
  cases event with
  | cancelBackground =>
    cases taken
    exact imports
  | act task action =>
    obtain ⟨⟨shared,state⟩,advanced,rfl⟩ := Option.map_eq_some_iff.mp taken
    intro task' canonicalUrl id name imported found
    rw [IndexMap.get?_insert] at found
    split at found
    · cases found
      rcases advance_cases advanced with ⟨_,_,_,_,applied⟩ | ⟨_,_,_,_,same⟩ | ⟨_,_,_,_,same⟩ | ⟨_,_,_,_,_,same⟩ |
        ⟨_,stage,_,_,same,proceeded⟩
      · cases applied.waits
      · split at same <;> cases same
      · cases same
      · cases same
      · cases same
        exact proceed_imported proceeded
    · exact imports task' canonicalUrl id name imported found

theorem next_recorded (recorded : w.Recorded datasetIdForUrl versions) (imports : w.Imports)
    (taken : w.next? datasetIdForUrl event = some after) (executes : Executes event) (turn : w.InTurn event)
    (distinct : w.Distinct datasetIdForUrl event) : ∃ versions', after.Recorded datasetIdForUrl versions' := by
  cases event with
  | cancelBackground =>
    cases taken
    exact ⟨_,recorded.cancel⟩
  | act task action =>
    obtain ⟨⟨shared,state⟩,advanced,rfl⟩ := Option.map_eq_some_iff.mp taken
    rcases advance_cases advanced with ⟨missing,_,_,_,applied⟩ | ⟨missing,rfl,canonicalUrl,rfl,rfl⟩ |
      ⟨write,found,rfl,rfl,rfl⟩ | ⟨_,_,_,rfl,_⟩ | ⟨canonicalUrl,stage,stage',found,rfl,proceeded⟩
    · exact recorded.applied applied (free_of_missing missing)
    · refine ⟨_,recorded.quiet rfl rfl (fun _ _ minted => minted) (free_of_missing missing) ?_ fun id canonicalUrl chosen => ?_⟩
      · split <;> rfl
      · split at chosen <;> cases chosen
    · have waits : w.Waits task write := ⟨_,found,rfl⟩
      obtain ⟨store,persisted⟩ := recorded.persists waits
      rw [persisted]
      exact ⟨_,recorded.persist waits (turn _ found _ rfl) persisted rfl rfl⟩
    · exact executes.elim
    · rcases proceed_cases proceeded with ⟨fresh,rfl,rfl,looked⟩ | ⟨id,name,imported,rfl,rfl,committed⟩ |
        ⟨id,opened,write,rfl,rfl,persisted⟩ | ⟨_,_,_,_,rfl,_⟩ | ⟨rfl,quietly⟩
      · exact ⟨_,recorded.lookup looked (free_of_silent found rfl)⟩
      · unfold Workspace.commit at committed
        split at committed
        · cases committed
          exact ⟨_,recorded.continues found rfl rfl (.inl rfl)⟩
        · rename_i missing
          cases committed
          exact recorded.commit (imports _ _ _ _ _ found) found distinct missing
      · have waits : w.Waits task write := ⟨_,found,rfl⟩
        obtain ⟨store,stored⟩ := recorded.persists waits
        unfold Workspace.persist at persisted
        rw [stored] at persisted
        cases persisted
        exact ⟨_,recorded.persist waits (turn _ found _ rfl) stored rfl rfl⟩
      · exact executes.elim
      · exact ⟨_,recorded.continues found (quietly_silent quietly).1 (quietly_silent quietly).2 (quietly_chosen quietly)⟩

theorem next_store (taken : w.next? datasetIdForUrl event = some after) :
    (after.shared.store = w.shared.store ∧ w.InTurn event) ∨
      ∃ task write, event = .act task .persist ∧ w.Waits task write ∧
        after.shared.store = (w.shared.store.persist write).getD w.shared.store := by
  cases event with
  | cancelBackground =>
    cases taken
    exact .inl ⟨rfl,trivial⟩
  | act task action =>
    obtain ⟨⟨shared,state⟩,advanced,rfl⟩ := Option.map_eq_some_iff.mp taken
    have turn (silent : ∀ before, w.tasks.get? task = some before → before.write? = none) : w.InTurn (.act task action) := by
      unfold InTurn
      split
      · rename_i same
        cases same
        intro state' here write waits
        rw [silent state' here] at waits
        cases waits
      · trivial
    rcases advance_cases advanced with ⟨missing,_,_,_,applied⟩ | ⟨_,rfl,_,rfl,_⟩ | ⟨write,found,rfl,rfl,_⟩ |
      ⟨_,_,_,rfl,rfl,_⟩ | ⟨canonicalUrl,stage,stage',found,_,proceeded⟩
    · obtain rfl := applied.moved
      exact .inl ⟨rfl,turn fun before found => by rw [missing] at found; cases found⟩
    · exact .inl ⟨rfl,trivial⟩
    · exact .inr ⟨task,write,rfl,⟨_,found,rfl⟩,rfl⟩
    · exact .inl ⟨rfl,trivial⟩
    · rcases proceed_cases proceeded with ⟨fresh,rfl,rfl,looked⟩ | ⟨id,name,imported,rfl,rfl,committed⟩ |
        ⟨id,opened,write,rfl,rfl,persisted⟩ | ⟨_,_,_,_,rfl,_,rfl,_⟩ | ⟨rfl,quietly⟩
      · exact .inl ⟨(lookup_frame looked).2.1,trivial⟩
      · refine .inl ⟨?_,trivial⟩
        unfold Workspace.commit at committed
        split at committed <;> (cases committed; rfl)
      · refine .inr ⟨task,write,rfl,⟨_,found,rfl⟩,?_⟩
        unfold Workspace.persist at persisted
        split at persisted
        · rename_i store stored
          cases persisted
          rw [stored]
          rfl
        · rename_i failed
          cases persisted
          rw [failed]
          rfl
      · exact .inl ⟨rfl,trivial⟩
      · refine .inl ⟨rfl,turn fun before found' => ?_⟩
        rw [found] at found'
        cases found'
        exact (quietly_silent quietly).1

theorem Recorded.turn (recorded : w.Recorded datasetIdForUrl versions) (taken : w.next? datasetIdForUrl event = some after) :
    w.shared.store.seq ≤ after.shared.store.seq ↔ w.InTurn event := by
  rcases next_store taken with ⟨same,turn⟩ | ⟨task,write,rfl,waits,written⟩
  · exact iff_of_true (by rw [same]) turn
  · obtain ⟨store,persisted⟩ := recorded.persists waits
    obtain ⟨_,_,rfl⟩ := Option.map_eq_some_iff.mp persisted
    have apart := recorded.unstored task write waits
    have seq : after.shared.store.seq = write.seq := by rw [written,persisted]; rfl
    rw [seq]
    constructor
    · intro above state found write' waits'
      obtain rfl := waits.unique ⟨state,found,waits'⟩
      omega
    · intro turn
      obtain ⟨state,found,waits'⟩ := waits
      have above := turn state found write waits'
      omega

omit [Numeric R] in
theorem Recorded.caughtUp (recorded : w.Recorded datasetIdForUrl versions) (finished : w.Finished) :
    w.shared.store.seq = w.shared.session.seq ∧ w.shared.store.document = w.shared.session.document ∧
      ∀ id, w.shared.store.datasets.contains id ↔ w.shared.store.document.manifests.contains id := by
  have nothing {task : Nat} {write : Write R} : ¬ w.Waits task write := by
    rintro ⟨state,found,waits⟩
    have done := finished task state found
    cases state with
    | opening canonicalUrl stage => cases stage <;> first | exact done | cases waits
    | writing write => exact done
    | written => cases waits
  have level : w.shared.store.seq = w.shared.session.seq := by
    by_contra short
    have behind := recorded.behind
    obtain ⟨task,write,waits,_⟩ := recorded.covered w.shared.session.seq (by omega) le_rfl
    exact nothing waits
  exact ⟨level,by rw [recorded.stored,recorded.live,level],recorded.rows fun _ _ waits => absurd waits nothing⟩

end

end OpenWorld

-- In every run whose writes are made in turn, and whose opened URLs are told apart by
-- their source ids, a finished live workspace is stored as it is; the stored seq goes
-- back exactly where a write is out of turn.
theorem stored_state_keeps_up [Numeric R] {datasetIdForUrl : String → String} {start w : OpenWorld R}
    (loaded : start.Loaded datasetIdForUrl)
    (path : Runs (fun w event after => w.next? datasetIdForUrl event = some after ∧ OpenWorld.Executes event ∧
      w.InTurn event ∧ w.Distinct datasetIdForUrl event) start events w) :
    (w.Finished → w.shared.store.seq = w.shared.session.seq ∧ w.shared.store.document = w.shared.session.document ∧
      ∀ id, w.shared.store.datasets.contains id ↔ w.shared.store.document.manifests.contains id) ∧
    ∀ event after, w.next? datasetIdForUrl event = some after →
      (w.shared.store.seq ≤ after.shared.store.seq ↔ w.InTurn event) := by
  have kept : w.Imports ∧ ∃ versions, w.Recorded datasetIdForUrl versions := by
    refine path.preserves (P := fun w => w.Imports ∧ ∃ versions, w.Recorded datasetIdForUrl versions) ?_ ⟨?_,_,loaded.recorded⟩
    · rintro before event after ⟨imports,versions,recorded⟩ ⟨taken,executes,turn,distinct⟩
      exact ⟨OpenWorld.next_imports imports taken,OpenWorld.next_recorded recorded imports taken executes turn distinct⟩
    · intro task canonicalUrl id name imported found
      rw [loaded.idle] at found
      cases found
  obtain ⟨_,versions,recorded⟩ := kept
  exact ⟨recorded.caughtUp,fun event after taken => recorded.turn taken⟩

section
open OpenEvent Action

def sourceIdOf (canonicalUrl : String) : String := "ds-" ++ canonicalUrl

def newWorkspace : OpenWorld Int where
  shared := ⟨⟨.default Int,0,.empty,.empty,.empty⟩,⟨0,.default Int,.empty⟩,false,.empty⟩
  tasks := .empty

theorem newWorkspace_loaded : newWorkspace.Loaded sourceIdOf := by
  constructor <;> simp [newWorkspace,Listed,DocumentState.default,IndexMap.contains]

def plateImport (id : DatasetId) : Imported Int := ⟨⟨⟨id,"plate",.single,[],[],[],[],none,[]⟩,.proxied [],⟨[]⟩⟩,⟨[],[]⟩⟩

theorem stored_state_keeps_up_in_turn :
    ∃ w, Runs (fun w event after => w.next? sourceIdOf event = some after ∧ OpenWorld.Executes event ∧
        w.InTurn event ∧ w.Distinct sourceIdOf event) newWorkspace
        [act 0 (call "gs://b/plate"),act 0 (authorize none),act 0 (lookup "wds-1"),act 0 dedup,
          act 0 (imports (plateImport "wds-1")),act 0 commit,act 1 (apply (.setActiveLayout "wds-1" "grid")),
          act 0 persist,act 1 persist] w ∧
      w.shared.session.seq = 2 ∧ w.shared.store.datasets.keys = ["wds-1"] ∧ w.Finished ∧
      w.shared.store.document = w.shared.session.document := by
  have reached : ∃ w, drive (guarded (fun w event => OpenWorld.Executes event ∧ w.InTurn event ∧ w.Distinct sourceIdOf event)
        (OpenWorld.next? sourceIdOf)) newWorkspace
      [act 0 (call "gs://b/plate"),act 0 (authorize none),act 0 (lookup "wds-1"),act 0 dedup,
        act 0 (imports (plateImport "wds-1")),act 0 commit,act 1 (apply (.setActiveLayout "wds-1" "grid")),
        act 0 persist,act 1 persist] = some w ∧
      w.shared.session.seq = 2 ∧ w.shared.store.datasets.keys = ["wds-1"] ∧ ∀ entry ∈ w.tasks.entries, entry.2.Finished := by
    refine ⟨_,rfl,?_⟩
    decide
  obtain ⟨w,ran,applied,rows,finished⟩ := reached
  have path := drive_guarded ran
  have done : w.Finished := fun task state found => finished _ (IndexMap.mem_entries_iff.mpr found)
  exact ⟨w,path,applied,rows,done,((stored_state_keeps_up newWorkspace_loaded path).1 done).2.1⟩

-- The later of two commands is written first.
theorem crossing_writes_lose_a_command :
    ∃ w after, Runs (fun w event after => w.next? sourceIdOf event = some after ∧ OpenWorld.Executes event) newWorkspace
        [act 0 (apply (.setActiveLayout "wds-1" "grid")),act 1 (apply (.setActiveLayout "wds-1" "row")),act 1 persist] w ∧
      w.next? sourceIdOf (act 0 persist) = some after ∧ after.shared.store.seq < w.shared.store.seq ∧
      after.Finished ∧ after.shared.store.seq ≠ after.shared.session.seq := by
  have reached : ∃ w, drive (guarded (fun _ event => OpenWorld.Executes event) (OpenWorld.next? sourceIdOf)) newWorkspace
      [act 0 (apply (.setActiveLayout "wds-1" "grid")),act 1 (apply (.setActiveLayout "wds-1" "row")),act 1 persist] = some w ∧
      ∃ after, w.next? sourceIdOf (act 0 persist) = some after ∧ after.shared.store.seq < w.shared.store.seq ∧
        (∀ entry ∈ after.tasks.entries, entry.2.Finished) ∧ after.shared.store.seq ≠ after.shared.session.seq := by
    refine ⟨_,rfl,_,rfl,?_⟩
    decide
  obtain ⟨w,ran,after,taken,back,finished,short⟩ := reached
  exact ⟨w,after,drive_guarded ran,taken,back,fun task state found => finished _ (IndexMap.mem_entries_iff.mpr found),short⟩

end

end Lucida.Server
