import Lucida.Server.PersistOrder

namespace Lucida.Server
open Content Core Lib

variable {R : Type} [Numeric R] {datasetIdForUrl : String → String}

def OpenEvent.by (task : Nat) : OpenEvent R → Bool
  | .act other _ => other = task
  | .cancelBackground => false

def Task.returned? : Task R → Option (OpenResult R)
  | .opening _ (.returned result) => some result
  | _ => none

def Task.committed : Task R → Bool
  | .opening _ (.persisting _ _ _) => true
  | _ => false

namespace OpenWorld
variable {w w' after : OpenWorld R} {task : Nat} {canonicalUrl : String}

def returned? (w : OpenWorld R) (task : Nat) : Option (OpenResult R) := (w.tasks.get? task).bind Task.returned?

def committed (w : OpenWorld R) (task : Nat) : Bool := (w.tasks.get? task).any Task.committed

-- What a return promises: an error comes from a call that applied nothing, and a dataset
-- that is reported open is in the document, bound and stored.
def Promise (after : OpenWorld R) (committed : Bool) : OpenResult R → Prop
  | .error _ => committed = false
  | .ok (.opened id _ _) => Listed after.shared.session.document id ∧ after.shared.session.serverBindings.contains id ∧
    after.shared.store.datasets.contains id
  | .ok .cancelled => True

def Honest (w after : OpenWorld R) : Prop :=
  ∀ task result, w.returned? task = none → after.returned? task = some result → after.Promise (w.committed task) result

variable (datasetIdForUrl)

-- A call whose dataset is committed gets its write through, the dataset still being in the
-- document and the store having a row of it exactly where it has one of its source. A call
-- that reuses a loaded dataset finds its row stored.
def Clean (w : OpenWorld R) : OpenEvent R → Prop
  | .act task action => match w.tasks.get? task,action with
    | some (.opening canonicalUrl (.persisting id _ _)),.persist =>
      Listed w.shared.session.document id ∧ w.shared.store.datasets.contains id =
        w.shared.store.datasets.entries.any (·.2.datasetSourceId = datasetIdForUrl canonicalUrl)
    | some (.opening _ (.persisting _ _ _)),.persistFails _ => False
    | some (.opening canonicalUrl (.deduping id _)),.dedup
    | some (.opening canonicalUrl (.committing id _ _)),.commit =>
      ∀ loaded ∈ w.shared.session.findLoadedBinding id canonicalUrl, w.shared.store.datasets.contains loaded.1
    | _,_ => True
  | .cancelBackground => True

-- `Clean` as a check that runs.
def isClean (w : OpenWorld R) : OpenEvent R → Bool
  | .act task action => match w.tasks.get? task,action with
    | some (.opening canonicalUrl (.persisting id _ _)),.persist =>
      decide (Listed w.shared.session.document id) && w.shared.store.datasets.contains id ==
        w.shared.store.datasets.entries.any (·.2.datasetSourceId = datasetIdForUrl canonicalUrl)
    | some (.opening _ (.persisting _ _ _)),.persistFails _ => false
    | some (.opening canonicalUrl (.deduping id _)),.dedup
    | some (.opening canonicalUrl (.committing id _ _)),.commit =>
      (w.shared.session.findLoadedBinding id canonicalUrl).all fun loaded => w.shared.store.datasets.contains loaded.1
    | _,_ => true
  | .cancelBackground => true

omit [Numeric R] in
theorem isClean_iff (w : OpenWorld R) (event : OpenEvent R) : w.isClean datasetIdForUrl event ↔ w.Clean datasetIdForUrl event := by
  unfold isClean Clean
  split
  · split
    all_goals simp [Option.all_eq_true]
  · simp

instance (w : OpenWorld R) : DecidablePred (w.Clean datasetIdForUrl) := fun event =>
  decidable_of_iff _ (w.isClean_iff datasetIdForUrl event)

-- A committed dataset is bound, and what its call waits to write is its row.
def Binds (w : OpenWorld R) : Prop := ∀ task canonicalUrl id opened write,
  w.tasks.get? task = some (.opening canonicalUrl (.persisting id opened write)) →
    w.shared.session.serverBindings.contains id ∧ ∃ name, write.kind = .opened id (datasetIdForUrl canonicalUrl) name

variable {datasetIdForUrl}

omit [Numeric R] in
theorem findLoadedBinding_some {session : Session R} {id existing : DatasetId} {opened : DatasetOpened R}
    (found : session.findLoadedBinding id canonicalUrl = some (existing,opened)) :
    Listed session.document existing ∧ session.serverBindings.contains existing := by
  unfold Session.findLoadedBinding at found
  split at found
  · rename_i binding hit
    cases found
    split at hit
    · rename_i listed
      exact ⟨listed,Option.isSome_iff_exists.mpr ⟨binding,hit⟩⟩
    · cases hit
  · obtain ⟨⟨key,binding⟩,hit,same⟩ := Option.map_eq_some_iff.mp found
    cases same
    have kept := List.find?_some hit
    simp only [Bool.and_eq_true,decide_eq_true_eq] at kept
    exact ⟨kept.2,Option.isSome_iff_exists.mpr ⟨binding,IndexMap.mem_entries_iff.mp (List.mem_of_find?_eq_some hit)⟩⟩

theorem commit_cases {shared shared' : Workspace R} {id : DatasetId} {name : String} {imported : Imported R} {stage : OpenStage R}
    (committed : shared.commit datasetIdForUrl canonicalUrl id name imported = (shared',stage)) :
    (shared' = shared ∧ ∃ existing opened, shared.session.findLoadedBinding id canonicalUrl = some (existing,opened) ∧
      stage = .returned (.ok (.opened existing shared.session.seq opened))) ∨
    shared.session.findLoadedBinding id canonicalUrl = none ∧
      shared'.session = shared.session.commit id canonicalUrl (datasetIdForUrl canonicalUrl) name imported ∧
      ∃ write, write.kind = .opened id (datasetIdForUrl canonicalUrl) name ∧ stage = .persisting id imported.opened write := by
  unfold Workspace.commit at committed
  split at committed
  · rename_i existing opened found
    cases committed
    exact .inl ⟨rfl,existing,opened,found,rfl⟩
  · rename_i missing
    cases committed
    exact .inr ⟨missing,rfl,_,rfl,rfl⟩

theorem advance_bindings {shared shared' : Workspace R} {before : Option (Task R)} {state : Task R} {action : Action R}
    (advanced : shared.advance datasetIdForUrl before action = some (shared',state)) {id : DatasetId}
    (bound : shared.session.serverBindings.contains id = true) : shared'.session.serverBindings.contains id = true := by
  rcases advance_cases advanced with ⟨_,_,command,_,applied⟩ | ⟨_,rfl,_⟩ | ⟨_,_,_,rfl,_⟩ | ⟨_,_,_,_,rfl,_⟩ | ⟨_,_,_,_,_,proceeded⟩
  · obtain rfl := applied.moved
    cases command <;> exact bound
  · exact bound
  · exact bound
  · exact bound
  · rcases proceed_cases proceeded with ⟨_,_,_,looked⟩ | ⟨_,_,_,_,_,committed⟩ | ⟨_,_,_,_,_,persisted⟩ | ⟨_,_,_,_,_,_,rfl,_⟩ | ⟨rfl,_⟩
    · rw [(lookup_frame looked).1]
      exact bound
    · rcases commit_cases committed with ⟨rfl,_⟩ | ⟨_,session,_⟩
      · exact bound
      · rw [session]
        simp only [IndexMap.contains,Session.commit,Session.apply,IndexMap.get?_insert] at bound ⊢
        split
        · rfl
        · exact bound
    · unfold Workspace.persist at persisted
      split at persisted <;> (cases persisted; exact bound)
    · exact bound
    · exact bound

theorem next_binds (binds : w.Binds datasetIdForUrl) (taken : w.next? datasetIdForUrl event = some after) :
    after.Binds datasetIdForUrl := by
  cases event with
  | cancelBackground =>
    cases taken
    exact binds
  | act task action =>
    obtain ⟨⟨shared,state⟩,advanced,rfl⟩ := Option.map_eq_some_iff.mp taken
    intro task' canonicalUrl id opened write found
    rw [IndexMap.get?_insert] at found
    split at found
    · cases found
      rcases advance_cases advanced with ⟨_,_,_,_,applied⟩ | ⟨_,_,_,_,same⟩ | ⟨_,_,_,_,same⟩ | ⟨_,_,_,_,_,same⟩ |
        ⟨_,stage,_,before,same,proceeded⟩
      · cases applied.waits
      · split at same <;> cases same
      · cases same
      · cases same
      · cases same
        rcases proceed_cases proceeded with ⟨_,_,_,looked⟩ | ⟨id',name,imported,_,_,committed⟩ | ⟨_,_,_,_,_,persisted⟩ |
          ⟨_,_,_,_,_,_,_,same⟩ | ⟨_,quietly⟩
        · unfold Workspace.lookup at looked
          split at looked
          · cases looked
          · split at looked <;> cases looked
        · rcases commit_cases committed with ⟨_,_,_,_,same⟩ | ⟨_,session,write',kind,same⟩
          · cases same
          · cases same
            refine ⟨?_,name,kind⟩
            rw [session]
            simp [IndexMap.contains,Session.commit]
        · unfold Workspace.persist at persisted
          split at persisted <;> cases persisted
        · cases same
        · have silent := (quietly_silent quietly).2
          cases silent
    · obtain ⟨bound,name,kind⟩ := binds task' canonicalUrl id opened write found
      exact ⟨advance_bindings advanced bound,name,kind⟩

omit [Numeric R] in
theorem honest_act {shared : Workspace R} {state : Task R} :
    Honest w ⟨shared,w.tasks.insert task state⟩ ↔ (w.returned? task = none → ∀ result, state.returned? = some result →
      Promise ⟨shared,w.tasks.insert task state⟩ (w.committed task) result) := by
  have shown (other : Nat) : (OpenWorld.mk shared (w.tasks.insert task state)).returned? other =
      if other = task then state.returned? else w.returned? other := by
    unfold returned?
    rw [IndexMap.get?_insert]
    split <;> rfl
  constructor
  · intro honest open' result returns
    exact honest task result open' (by rw [shown,if_pos rfl,returns])
  · intro honest other result open' returns
    rw [shown] at returns
    split at returns
    · rename_i same
      subst same
      exact honest open' result returns
    · rw [open'] at returns
      cases returns

omit [Numeric R] in
-- A loaded dataset is listed and bound; whether it is stored nobody has asked.
theorem reuse_honest {id existing : DatasetId} {opened opened' : DatasetOpened R} {seq : Nat} {tasks : IndexMap Nat (Task R)}
    (loaded : w.shared.session.findLoadedBinding id canonicalUrl = some (existing,opened)) :
    (∀ result, (Task.opening canonicalUrl (.returned (.ok (.opened existing seq opened')))).returned? = some result →
      Promise ⟨w.shared,tasks⟩ (w.committed task) result) ↔
      ∀ loaded ∈ w.shared.session.findLoadedBinding id canonicalUrl, w.shared.store.datasets.contains loaded.1 := by
  obtain ⟨listed,bound⟩ := findLoadedBinding_some loaded
  rw [loaded]
  constructor
  · intro honest other same
    cases same
    exact (honest _ rfl).2.2
  · intro stored result returns
    cases returns
    exact ⟨listed,bound,stored _ rfl⟩

omit [Numeric R] in
theorem persist_honest {shared shared' : Workspace R} {id : DatasetId} {opened : DatasetOpened R} {write : Write R}
    {source name : String} {stage : OpenStage R} (kind : write.kind = .opened id source name)
    (persisted : shared.persist id opened write = (shared',stage)) :
    (shared.store.datasets.contains id = shared.store.datasets.entries.any (·.2.datasetSourceId = source) ∧
      stage = .returned (.ok (.opened id write.seq opened)) ∧ shared'.session = shared.session ∧
      shared'.store.datasets.contains id = true) ∨
    shared.store.datasets.contains id ≠ shared.store.datasets.entries.any (·.2.datasetSourceId = source) ∧
      ((∃ failure, stage = .returned (.error failure)) ∨
        stage = .returned (.ok (.opened id write.seq opened)) ∧ shared'.store.datasets.contains id = false) := by
  unfold Workspace.persist StoredWorkspace.persist at persisted
  rw [kind] at persisted
  simp only [StoredWorkspace.writeDatasets] at persisted
  cases taken : shared.store.datasets.entries.any (·.2.datasetSourceId = source) with
  | true =>
    simp only [taken,if_true,Option.map_some] at persisted
    cases persisted
    cases here : shared.store.datasets.contains id with
    | true => exact .inl ⟨rfl,rfl,rfl,rfl⟩
    | false => exact .inr ⟨by simp,.inr ⟨rfl,rfl⟩⟩
  | false =>
    simp only [taken,Bool.false_eq_true,if_false] at persisted
    cases here : shared.store.datasets.contains id with
    | true =>
      simp only [here,if_true,Option.map_none] at persisted
      cases persisted
      exact .inr ⟨by simp,.inl ⟨_,rfl⟩⟩
    | false =>
      simp only [here,Bool.false_eq_true,if_false,Option.map_some] at persisted
      cases persisted
      exact .inl ⟨rfl,rfl,rfl,by simp [IndexMap.contains]⟩

section Returns
variable {shared : Workspace R} {stage : OpenStage R} {tasks : IndexMap Nat (Task R)} {id : DatasetId}

def Keeps (w : OpenWorld R) (task : Nat) (canonicalUrl : String) (shared : Workspace R) (tasks : IndexMap Nat (Task R)) (stage : OpenStage R) :
    Prop :=
  ∀ result, (Task.opening canonicalUrl stage).returned? = some result → Promise ⟨shared,tasks⟩ (w.committed task) result

omit [Numeric R] in
theorem lookup_keeps {fresh : DatasetId} (looked : w.shared.lookup datasetIdForUrl canonicalUrl fresh = some (shared,stage)) :
    w.Keeps task canonicalUrl shared tasks stage := by
  intro result returns
  unfold Workspace.lookup at looked
  split at looked
  · cases looked
    cases returns
  · split at looked
    · cases looked
      cases returns
    · cases looked

theorem commit_keeps {name : String} {imported : Imported R}
    (committed : w.shared.commit datasetIdForUrl canonicalUrl id name imported = (shared,stage)) :
    w.Keeps task canonicalUrl shared tasks stage ↔
      ∀ loaded ∈ w.shared.session.findLoadedBinding id canonicalUrl, w.shared.store.datasets.contains loaded.1 := by
  rcases commit_cases committed with ⟨rfl,existing,opened,loaded,rfl⟩ | ⟨missing,_,_,_,rfl⟩
  · exact reuse_honest loaded
  · exact iff_of_true (fun result returns => by cases returns) (by simp [missing])

omit [Numeric R] in
theorem dedup_keeps {name : String} : w.Keeps task canonicalUrl w.shared tasks (w.shared.dedup canonicalUrl id name) ↔
    ∀ loaded ∈ w.shared.session.findLoadedBinding id canonicalUrl, w.shared.store.datasets.contains loaded.1 := by
  unfold Workspace.dedup
  split
  · rename_i existing opened loaded
    exact reuse_honest loaded
  · rename_i missing
    exact iff_of_true (fun result returns => by cases returns) (by simp [missing])

omit [Numeric R] in
theorem persist_keeps {opened : DatasetOpened R} {write : Write R} {source name : String} (kind : write.kind = .opened id source name)
    (bound : w.shared.session.serverBindings.contains id) (already : w.committed task = true)
    (persisted : w.shared.persist id opened write = (shared,stage)) :
    w.Keeps task canonicalUrl shared tasks stage ↔ Listed w.shared.session.document id ∧
      w.shared.store.datasets.contains id = w.shared.store.datasets.entries.any (·.2.datasetSourceId = source) := by
  unfold Keeps
  rw [already]
  rcases persist_honest kind persisted with ⟨agrees,rfl,session,stored⟩ | ⟨differs,⟨failure,rfl⟩ | ⟨rfl,unstored⟩⟩
  · constructor
    · intro honest
      have promise : Listed shared.session.document id ∧ _ := honest _ rfl
      exact ⟨session ▸ promise.1,agrees⟩
    · rintro ⟨listed,_⟩ result returns
      cases returns
      refine ⟨?_,?_,stored⟩
      · show Listed shared.session.document id
        rwa [session]
      · show shared.session.serverBindings.contains id = true
        rwa [session]
  · refine iff_of_false (fun honest => ?_) fun clean => differs clean.2
    have promise : true = false := honest _ rfl
    cases promise
  · refine iff_of_false (fun honest => ?_) fun clean => differs clean.2
    have promise : Listed shared.session.document id ∧ shared.session.serverBindings.contains id = true ∧
      shared.store.datasets.contains id = true := honest _ rfl
    rw [unstored] at promise
    cases promise.2.2

end Returns

theorem proceed_honest {shared : Workspace R} {stage stage' : OpenStage R} {action : Action R} {tasks : IndexMap Nat (Task R)}
    (binds : w.Binds datasetIdForUrl) (found : w.tasks.get? task = some (.opening canonicalUrl stage))
    (proceeded : w.shared.proceed datasetIdForUrl canonicalUrl stage action = some (shared,stage')) :
    w.Keeps task canonicalUrl shared tasks stage' ↔ w.Clean datasetIdForUrl (.act task action) := by
  rcases proceed_cases proceeded with ⟨fresh,rfl,rfl,looked⟩ | ⟨id,name,imported,rfl,rfl,committed'⟩ |
    ⟨id,opened,write,rfl,rfl,persisted⟩ | ⟨id,opened,write,error,rfl,rfl,rfl,rfl⟩ | ⟨rfl,quietly⟩
  · exact iff_of_true (lookup_keeps looked) (by simp [Clean,found])
  · have clean : w.Clean datasetIdForUrl (.act task .commit) ↔
        ∀ loaded ∈ w.shared.session.findLoadedBinding id canonicalUrl, w.shared.store.datasets.contains loaded.1 := by
      simp only [Clean,found]
    rw [clean,commit_keeps committed']
  · obtain ⟨bound,name,kind⟩ := binds task canonicalUrl id opened write found
    have clean : w.Clean datasetIdForUrl (.act task .persist) ↔ Listed w.shared.session.document id ∧
        w.shared.store.datasets.contains id =
          w.shared.store.datasets.entries.any (·.2.datasetSourceId = datasetIdForUrl canonicalUrl) := by
      simp only [Clean,found]
    rw [clean,persist_keeps kind bound (by simp [committed,found,Task.committed]) persisted]
  · refine iff_of_false (fun honest => ?_) (by simp [Clean,found])
    have promise : w.committed task = false := honest _ rfl
    simp [committed,found,Task.committed] at promise
  · have uncommitted (plain : (Task.opening canonicalUrl stage).committed = false) : w.committed task = false := by
      simpa [committed,found] using plain
    cases quietly with
    | @dedup id name =>
      have clean : w.Clean datasetIdForUrl (.act task action) ↔
          ∀ loaded ∈ w.shared.session.findLoadedBinding id canonicalUrl, w.shared.store.datasets.contains loaded.1 := by
        cases action with
        | dedup => simp only [Clean,found]
        | _ => cases proceeded
      rw [clean,dedup_keeps]
    | authorized | imported own =>
      exact iff_of_true (fun result returns => by cases returns) (by simp [Clean,found])
    | forbidden | lookupFailed | importFailed | cancelled =>
      refine iff_of_true (fun result returns => ?_) (by simp [Clean,found])
      cases returns
      first | exact uncommitted rfl | trivial

theorem next_honest (binds : w.Binds datasetIdForUrl) (taken : w.next? datasetIdForUrl event = some after) :
    w.Honest after ↔ w.Clean datasetIdForUrl event := by
  cases event with
  | cancelBackground =>
    cases taken
    refine iff_of_true (fun task result open' returns => ?_) trivial
    rw [show w.returned? task = some result from returns] at open'
    cases open'
  | act task action =>
    obtain ⟨⟨shared,state⟩,advanced,rfl⟩ := Option.map_eq_some_iff.mp taken
    dsimp only
    rw [honest_act]
    rcases advance_cases advanced with ⟨missing,_,_,_,applied⟩ | ⟨missing,rfl,canonicalUrl,rfl,rfl⟩ |
      ⟨write,found,rfl,rfl,rfl⟩ | ⟨write,error,found,rfl,rfl,rfl⟩ | ⟨canonicalUrl,stage,stage',found,rfl,proceeded⟩
    · refine iff_of_true (fun _ result returns => ?_) (by simp [Clean,missing])
      rw [applied.waits] at returns
      cases returns
    · refine iff_of_true (fun _ result returns => ?_) (by simp [Clean,missing])
      split at returns
      · cases returns
        simp [Promise,committed,missing]
      · cases returns
    · exact iff_of_true (fun _ result returns => by cases returns) (by simp [Clean,found])
    · exact iff_of_true (fun _ result returns => by cases returns) (by simp [Clean,found])
    · have open' : w.returned? task = none := by
        simp only [returned?,found,Option.bind_some]
        cases stage with
        | returned result => cases action <;> cases proceeded
        | _ => rfl
      simp only [open',forall_true_left]
      exact proceed_honest binds found proceeded

structure Without (task : Nat) (w w' : OpenWorld R) : Prop where
  session : w'.shared.session = w.shared.session
  store : w'.shared.store = w.shared.store
  cancelled : w'.shared.cancelled = w.shared.cancelled
  minted : ∀ id, w.shared.minted.get? id = none → w'.shared.minted.get? id = none
  tasks : ∀ other, other ≠ task → w'.tasks.get? other = w.tasks.get? other

section
variable {shared shared' : Workspace R} {state : Task R} {stage stage' : OpenStage R} {before : Option (Task R)}
  {action : Action R} {minted : IndexMap DatasetId String}

theorem proceed_fewer (fewer : ∀ id, shared.minted.get? id = none → minted.get? id = none)
    (proceeded : shared.proceed datasetIdForUrl canonicalUrl stage action = some (shared',stage')) :
    ∃ minted', ({shared with minted} : Workspace R).proceed datasetIdForUrl canonicalUrl stage action =
        some ({shared' with minted := minted'},stage') ∧
      ∀ id, shared'.minted.get? id = none → minted'.get? id = none := by
  unfold Workspace.proceed at proceeded ⊢
  split at proceeded
  · cases proceeded
    exact ⟨minted,rfl,fewer⟩
  · cases proceeded
    exact ⟨minted,rfl,fewer⟩
  · rename_i fresh
    unfold Workspace.lookup at proceeded ⊢
    split at proceeded
    · rename_i hit
      cases proceeded
      exact ⟨minted,by simp only [hit],fewer⟩
    · rename_i missing
      split at proceeded
      · rename_i unused
        cases proceeded
        refine ⟨minted.insert fresh (datasetIdForUrl canonicalUrl),by simp only [missing,fewer fresh unused,if_true],fun id none' => ?_⟩
        rw [IndexMap.get?_insert] at none' ⊢
        split at none'
        · cases none'
        · rename_i other
          rw [if_neg other]
          exact fewer id none'
      · cases proceeded
  · cases proceeded
    exact ⟨minted,rfl,fewer⟩
  · cases proceeded
    exact ⟨minted,rfl,fewer⟩
  · split at proceeded
    · rename_i own
      cases proceeded
      exact ⟨minted,by simp only [own,if_true],fewer⟩
    · cases proceeded
  · cases proceeded
    exact ⟨minted,rfl,fewer⟩
  · refine ⟨minted,?_,?_⟩
    · unfold Workspace.commit at proceeded ⊢
      split at proceeded <;> (rename_i found; cases proceeded; simp only [found])
    · unfold Workspace.commit at proceeded
      split at proceeded <;> (cases proceeded; exact fewer)
  · refine ⟨minted,?_,?_⟩
    · unfold Workspace.persist at proceeded ⊢
      split at proceeded <;> (rename_i found; cases proceeded; simp only [found])
    · unfold Workspace.persist at proceeded
      split at proceeded <;> (cases proceeded; exact fewer)
  · cases proceeded
    exact ⟨minted,rfl,fewer⟩
  · cases proceeded

theorem advance_fewer (fewer : ∀ id, shared.minted.get? id = none → minted.get? id = none)
    (advanced : shared.advance datasetIdForUrl before action = some (shared',state)) :
    ∃ minted', ({shared with minted} : Workspace R).advance datasetIdForUrl before action =
        some ({shared' with minted := minted'},state) ∧
      ∀ id, shared'.minted.get? id = none → minted'.get? id = none := by
  cases before with
  | none =>
    cases action with
    | apply command =>
      refine ⟨minted,?_,?_⟩
      · cases command <;> cases advanced <;> rfl
      · obtain ⟨_,applied⟩ := applies_applied advanced
        obtain rfl := applied.moved
        exact fewer
    | rename id name =>
      have advanced' : shared.renames id name = some (shared',state) := advanced
      refine ⟨minted,?_,?_⟩
      · show Workspace.renames _ id name = _
        unfold Workspace.renames at advanced' ⊢
        split at advanced'
        · rename_i listed
          cases advanced'
          simp only [listed,if_true]
        · cases advanced'
      · obtain rfl := (renames_applied advanced').moved
        exact fewer
    | call canonicalUrl =>
      cases advanced
      exact ⟨minted,rfl,fewer⟩
    | _ => cases advanced
  | some before =>
    cases before with
    | written => cases advanced
    | writing write =>
      cases action with
      | persist | persistFails error =>
        cases advanced
        exact ⟨minted,rfl,fewer⟩
      | _ => cases advanced
    | opening canonicalUrl stage =>
      obtain ⟨⟨shared'',stage'⟩,proceeded,same⟩ := Option.map_eq_some_iff.mp advanced
      cases same
      obtain ⟨minted',proceeded',fewer'⟩ := proceed_fewer fewer proceeded
      refine ⟨minted',?_,fewer'⟩
      show Option.map _ (Workspace.proceed _ _ _ _ _) = _
      rw [proceeded']
      rfl

end

theorem Without.others (without : Without task w w') (taken : w.next? datasetIdForUrl event = some after)
    (others : event.by task = false) : ∃ after', w'.next? datasetIdForUrl event = some after' ∧ Without task after after' := by
  cases event with
  | cancelBackground =>
    cases taken
    exact ⟨_,rfl,without.session,without.store,rfl,without.minted,without.tasks⟩
  | act other action =>
    have different : other ≠ task := by simpa [OpenEvent.by] using others
    obtain ⟨⟨shared,state⟩,advanced,rfl⟩ := Option.map_eq_some_iff.mp taken
    obtain ⟨minted,advanced',fewer⟩ := advance_fewer without.minted advanced
    have alike : ({w.shared with minted := w'.shared.minted} : Workspace R) = w'.shared := by
      obtain ⟨⟨session,store,cancelled,_⟩,_⟩ := w'
      obtain rfl : session = _ := without.session
      obtain rfl : store = _ := without.store
      obtain rfl : cancelled = _ := without.cancelled
      rfl
    rw [alike,← without.tasks other different] at advanced'
    refine ⟨⟨{shared with minted},w'.tasks.insert other state⟩,by simp only [next?,advanced',Option.map_some],rfl,rfl,rfl,fewer,?_⟩
    intro third apart
    rw [IndexMap.get?_insert,IndexMap.get?_insert,without.tasks third apart]

def Task.Spent : Task R → Prop
  | .writing _ | .written | .opening _ (.persisting _ _ _) | .opening _ (.returned (.ok _)) => True
  | _ => False

def Spent (w : OpenWorld R) (task : Nat) : Prop := ∃ state, w.tasks.get? task = some state ∧ Task.Spent state

omit [Numeric R] in
theorem spent_insert {shared : Workspace R} {state : Task R} (spent : Task.Spent state) :
    Spent ⟨shared,w.tasks.insert task state⟩ task := ⟨state,by simp,spent⟩

omit [Numeric R] in
theorem persist_spent (binds : w.Binds datasetIdForUrl) {id : DatasetId} {opened : DatasetOpened R} {write : Write R}
    {shared : Workspace R} {stage : OpenStage R}
    (found : w.tasks.get? task = some (.opening canonicalUrl (.persisting id opened write)))
    (persisted : w.shared.persist id opened write = (shared,stage)) (clean : w.Clean datasetIdForUrl (.act task .persist)) :
    Task.Spent (.opening canonicalUrl stage) := by
  obtain ⟨_,name,kind⟩ := binds task canonicalUrl id opened write found
  simp only [Clean,found] at clean
  rcases persist_honest kind persisted with ⟨_,rfl,_⟩ | ⟨differs,_⟩
  · trivial
  · exact absurd clean.2 differs

theorem Without.own (without : Without task w w') (binds : w.Binds datasetIdForUrl) {action : Action R}
    (taken : w.next? datasetIdForUrl (.act task action) = some after) (clean : w.Clean datasetIdForUrl (.act task action)) :
    after.Spent task ∨ Without task after w' := by
  obtain ⟨⟨shared,state⟩,advanced,rfl⟩ := Option.map_eq_some_iff.mp taken
  have elsewhere (other : Nat) (different : other ≠ task) : w'.tasks.get? other = (w.tasks.insert task state).get? other := by
    rw [IndexMap.get?_insert,if_neg different,without.tasks other different]
  have unnoticed (session : shared.session = w.shared.session) (store : shared.store = w.shared.store)
      (cancelled : shared.cancelled = w.shared.cancelled)
      (grew : ∀ id source, w.shared.minted.get? id = some source → shared.minted.get? id = some source) :
      Without task ⟨shared,w.tasks.insert task state⟩ w' := by
    refine ⟨without.session.trans session.symm,without.store.trans store.symm,without.cancelled.trans cancelled.symm,fun id none' => ?_,elsewhere⟩
    refine without.minted id ?_
    cases minted : w.shared.minted.get? id with
    | none => rfl
    | some source =>
      rw [grew id source minted] at none'
      cases none'
  rcases advance_cases advanced with ⟨_,_,_,_,applied⟩ | ⟨_,rfl,_⟩ | ⟨_,_,_,_,rfl⟩ | ⟨_,_,_,_,_,rfl⟩ |
    ⟨canonicalUrl,stage,stage',found,rfl,proceeded⟩
  · left
    obtain rfl := applied.waits
    exact spent_insert trivial
  · exact .inr (unnoticed rfl rfl rfl fun _ _ minted => minted)
  · exact .inl (spent_insert trivial)
  · exact .inl (spent_insert trivial)
  · rcases proceed_cases proceeded with ⟨_,_,_,looked⟩ | ⟨_,_,_,_,_,committed'⟩ | ⟨id,opened,write,rfl,rfl,persisted⟩ |
      ⟨_,_,_,_,rfl,rfl,_⟩ | ⟨rfl,_⟩
    · obtain ⟨session,store,cancelled,grew⟩ := lookup_frame looked
      exact .inr (unnoticed session store cancelled grew)
    · rcases commit_cases committed' with ⟨rfl,_⟩ | ⟨_,_,_,_,rfl⟩
      · exact .inr (unnoticed rfl rfl rfl fun _ _ minted => minted)
      · exact .inl (spent_insert trivial)
    · exact .inl (spent_insert (persist_spent binds found persisted clean))
    · simp [Clean,found] at clean
    · exact .inr (unnoticed rfl rfl rfl fun _ _ minted => minted)

theorem next_spent (binds : w.Binds datasetIdForUrl) (spent : w.Spent task) (taken : w.next? datasetIdForUrl event = some after)
    (clean : w.Clean datasetIdForUrl event) : after.Spent task := by
  obtain ⟨before,found,spent'⟩ := spent
  cases event with
  | cancelBackground =>
    cases taken
    exact ⟨before,found,spent'⟩
  | act other action =>
    obtain ⟨⟨shared,state⟩,advanced,rfl⟩ := Option.map_eq_some_iff.mp taken
    by_cases mine : other = task
    · subst mine
      rcases advance_cases advanced with ⟨missing,_⟩ | ⟨missing,_⟩ | ⟨_,_,_,_,rfl⟩ | ⟨_,_,_,_,_,rfl⟩ |
        ⟨canonicalUrl,stage,stage',found',rfl,proceeded⟩
      · rw [missing] at found
        cases found
      · rw [missing] at found
        cases found
      · exact spent_insert trivial
      · exact spent_insert trivial
      · rw [found'] at found
        cases found
        cases stage with
        | persisting id opened write =>
          cases action with
          | persist => exact spent_insert (persist_spent binds found' (Option.some.inj proceeded) clean)
          | persistFails error => simp [Clean,found'] at clean
          | _ => cases proceeded
        | returned result => cases action <;> cases proceeded
        | _ => exact spent'.elim
    · exact ⟨before,by simp only [IndexMap.get?_insert,if_neg (Ne.symm mine)]; exact found,spent'⟩

theorem runs_without {start : OpenWorld R} (idle : ∀ task, start.tasks.get? task = none)
    (path : Runs (fun w event after => w.next? datasetIdForUrl event = some after ∧ w.Clean datasetIdForUrl event) start events w)
    (task : Nat) :
    w.Binds datasetIdForUrl ∧ (w.Spent task ∨ ∃ w', Runs (fun w event after => w.next? datasetIdForUrl event = some after) start
      (events.filter fun event => !event.by task) w' ∧ Without task w w') := by
  induction path with
  | nil =>
    refine ⟨fun other canonicalUrl id opened write found => ?_,.inr ⟨start,.nil,rfl,rfl,rfl,fun _ none' => none',fun _ _ => rfl⟩⟩
    rw [idle] at found
    cases found
  | @snoc events middle event after _ taken ih =>
    obtain ⟨binds,progress⟩ := ih
    refine ⟨next_binds binds taken.1,?_⟩
    rcases progress with spent | ⟨w',path',without⟩
    · exact .inl (next_spent binds spent taken.1 taken.2)
    · rw [List.filter_append]
      cases own : event.by task with
      | true =>
        have nothing : [event].filter (fun event => !event.by task) = [] := by simp [own]
        rw [nothing,List.append_nil]
        cases event with
        | cancelBackground => cases own
        | act other action =>
          obtain rfl : other = task := by simpa [OpenEvent.by] using own
          rcases without.own binds taken.1 taken.2 with spent | unnoticed
          · exact .inl spent
          · exact .inr ⟨w',path',unnoticed⟩
      | false =>
        have kept : [event].filter (fun event => !event.by task) = [event] := by simp [own]
        rw [kept]
        obtain ⟨after',taken',without'⟩ := without.others taken.1 own
        exact .inr ⟨after',path'.snoc taken',without'⟩

end OpenWorld

-- In every clean run a call that has returned an error might as well not have been made:
-- the others' steps alone lead to the same session and the same store. And each step keeps
-- the promise of its return exactly when it is clean.
theorem failed_open_leaves_no_trace {start w : OpenWorld R} (idle : ∀ task, start.tasks.get? task = none)
    (path : Runs (fun w event after => w.next? datasetIdForUrl event = some after ∧ w.Clean datasetIdForUrl event) start events w) :
    (∀ task failure, w.returned? task = some (.error failure) →
      ∃ w', Runs (fun w event after => w.next? datasetIdForUrl event = some after) start
        (events.filter fun event => !event.by task) w' ∧
        w'.shared.session = w.shared.session ∧ w'.shared.store = w.shared.store) ∧
    ∀ event after, w.next? datasetIdForUrl event = some after → (w.Honest after ↔ w.Clean datasetIdForUrl event) := by
  constructor
  · intro task failure returns
    rcases (OpenWorld.runs_without idle path task).2 with ⟨state,found,spent⟩ | ⟨w',path',without⟩
    · simp only [OpenWorld.returned?,found,Option.bind_some] at returns
      cases state with
      | opening canonicalUrl stage =>
        cases stage with
        | returned result =>
          cases returns
          exact spent.elim
        | _ => cases returns
      | _ => cases returns
    · exact ⟨w',path',without.session,without.store⟩
  · exact fun event after taken => OpenWorld.next_honest (OpenWorld.runs_without idle path 0).1 taken

section
open OpenEvent Action

def unreachable : DatasetOpenFailureDiagnostic := ⟨.backendOpen,.http,true,"source backend failed to open",none⟩

-- The first call cannot reach its source, the second opens it.
theorem failed_open_leaves_no_trace_of_a_lost_source :
    ∃ w, Runs (fun w event after => w.next? sourceIdOf event = some after ∧ w.Clean sourceIdOf event) newWorkspace
        [act 0 (call "gs://b/plate"),act 0 (authorize none),act 1 (call "gs://b/plate"),act 0 (lookup "wds-1"),act 0 dedup,
          act 1 (authorize none),act 1 (lookup "wds-2"),act 1 dedup,act 1 (imports (plateImport "wds-2")),
          act 0 (importFails unreachable),act 1 commit,act 1 persist] w ∧
      w.shared.store.datasets.keys = ["wds-2"] ∧ w.returned? 0 = some (.error unreachable) ∧
      ∃ w', Runs (fun w event after => w.next? sourceIdOf event = some after) newWorkspace
        [act 1 (call "gs://b/plate"),act 1 (authorize none),act 1 (lookup "wds-2"),act 1 dedup,
          act 1 (imports (plateImport "wds-2")),act 1 commit,act 1 persist] w' ∧
        w'.shared.session = w.shared.session ∧ w'.shared.store = w.shared.store := by
  have reached : ∃ w, drive (guarded (fun w event => w.Clean sourceIdOf event) (OpenWorld.next? sourceIdOf)) newWorkspace
      [act 0 (call "gs://b/plate"),act 0 (authorize none),act 1 (call "gs://b/plate"),act 0 (lookup "wds-1"),act 0 dedup,
        act 1 (authorize none),act 1 (lookup "wds-2"),act 1 dedup,act 1 (imports (plateImport "wds-2")),
        act 0 (importFails unreachable),act 1 commit,act 1 persist] = some w ∧
      w.shared.store.datasets.keys = ["wds-2"] ∧ w.returned? 0 = some (.error unreachable) := by
    refine ⟨_,rfl,?_,rfl⟩
    decide
  obtain ⟨w,ran,rows,failed⟩ := reached
  have path := drive_guarded ran
  exact ⟨w,path,rows,failed,(failed_open_leaves_no_trace (fun _ => rfl) path).1 0 unreachable failed⟩

-- The write fails and the dataset stays, in the document and bound. The retry takes it for
-- open, and it is in no row.
theorem failed_write_leaves_an_open_dataset :
    ∃ w after, Runs (fun w event after => w.next? sourceIdOf event = some after) newWorkspace
        [act 0 (call "gs://b/plate"),act 0 (authorize none),act 0 (lookup "wds-1"),act 0 dedup,
          act 0 (imports (plateImport "wds-1")),act 0 commit,act 0 (persistFails "disk full")] w ∧
      w.returned? 0 = some (.error (.persistFailed "disk full")) ∧
      w.shared.session.seq ≠ newWorkspace.shared.session.seq ∧
      w.shared.session.document.manifests.keys ≠ newWorkspace.shared.session.document.manifests.keys ∧
      w.shared.session.serverBindings.keys ≠ newWorkspace.shared.session.serverBindings.keys ∧
      Runs (fun w event after => w.next? sourceIdOf event = some after) w
        [act 1 (call "gs://b/plate"),act 1 (authorize none),act 1 (lookup "wds-2"),act 1 dedup] after ∧
      (∃ opened, after.returned? 1 = some (.ok (.opened "wds-1" 1 opened))) ∧ after.shared.store.datasets.keys = [] := by
  have reached : ∃ w, drive (OpenWorld.next? sourceIdOf) newWorkspace
      [act 0 (call "gs://b/plate"),act 0 (authorize none),act 0 (lookup "wds-1"),act 0 dedup,
        act 0 (imports (plateImport "wds-1")),act 0 commit,act 0 (persistFails "disk full")] = some w ∧
      w.returned? 0 = some (.error (.persistFailed "disk full")) ∧ w.shared.session.seq = 1 ∧
      w.shared.session.document.manifests.keys = ["wds-1"] ∧ w.shared.session.serverBindings.keys = ["wds-1"] ∧
      ∃ after, drive (OpenWorld.next? sourceIdOf) w
        [act 1 (call "gs://b/plate"),act 1 (authorize none),act 1 (lookup "wds-2"),act 1 dedup] = some after ∧
      (∃ opened, after.returned? 1 = some (.ok (.opened "wds-1" 1 opened))) ∧ after.shared.store.datasets.keys = [] := by
    exact ⟨_,rfl,rfl,rfl,rfl,rfl,_,rfl,⟨_,rfl⟩,rfl⟩
  obtain ⟨w,ran,failed,applied,listed,bound,after,retried,opened,unstored⟩ := reached
  have moves : ∀ (before : OpenWorld Int) event next, before.next? sourceIdOf event = some next →
      before.next? sourceIdOf event = some next := fun _ _ _ taken => taken
  refine ⟨w,after,drive_runs moves ran,failed,?_,?_,?_,drive_runs moves retried,opened,unstored⟩
  · rw [applied]
    decide
  · rw [listed]
    decide
  · rw [bound]
    decide

end

end Lucida.Server
