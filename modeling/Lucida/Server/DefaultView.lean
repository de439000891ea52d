import Lucida.Lib.Runs
import Lucida.Server.SavedViews

namespace Lucida.Server
open Core Lib

inductive ViewAction where
  | op (op : SavedViewOp)
  | create (id : SavedViewId) (name : String) (view : SavedView) (visibility : SavedViewVisibility)
  | approve (id : SavedViewId)
  | reject (id : SavedViewId)

structure ViewRequest where
  workspaceId : WorkspaceId
  principal : AuthPrincipal
  now : Nat
  action : ViewAction

namespace WorkspaceStore
variable {store after : WorkspaceStore} {workspaceId : WorkspaceId} {principal : AuthPrincipal} {id : SavedViewId}

def handle (store : WorkspaceStore) (request : ViewRequest) : Answer :=
  match request.action with
  | .op op => store.perform request.workspaceId request.principal request.now op
  | .create id name view visibility =>
    Manager.createSavedView store request.workspaceId request.principal id name view visibility request.now
  | .approve id => Manager.approveSavedView store request.workspaceId request.principal id request.now
  | .reject id => Manager.rejectSavedView store request.workspaceId request.principal id request.now

def handled (store : WorkspaceStore) (request : ViewRequest) : WorkspaceStore := (store.handle request).store store

def defaultView (store : WorkspaceStore) (workspaceId : WorkspaceId) : Option SavedViewId :=
  (store.workspaces.get? workspaceId).bind (·.defaultSavedViewId)

def DefaultShared (store : WorkspaceStore) : Prop :=
  ∀ workspaceId id, store.defaultView workspaceId = some id →
    ∃ savedView, store.getSavedView workspaceId id = some savedView ∧ savedView.visibility = .shared

-- No accepted change of visibility takes the workspace's current default out of sharing.
def DefaultKept (store : WorkspaceStore) (request : ViewRequest) : Prop :=
  match request.action with
  | .op (.setVisibility id visibility) =>
    visibility ≠ .shared → store.defaultView request.workspaceId = some id →
      ¬ (store.ensureSavedViewRescopable request.workspaceId request.principal id visibility).isOk
  | _ => True

instance (store : WorkspaceStore) : DecidablePred store.DefaultKept := fun request => by
  unfold DefaultKept
  split <;> infer_instance

@[simp] theorem defaultView_touchWorkspace (store : WorkspaceStore) (workspaceId other : WorkspaceId) (now : Nat) :
    (store.touchWorkspace workspaceId now).defaultView other = store.defaultView other := by
  simp only [defaultView,touchWorkspace,IndexMap.get?_modify]
  split
  · rename_i same
    subst same
    cases store.workspaces.get? other <;> rfl
  · rfl

@[simp] theorem getSavedView_touchWorkspace (store : WorkspaceStore) (workspaceId other : WorkspaceId) (now : Nat) :
    (store.touchWorkspace workspaceId now).getSavedView other id = store.getSavedView other id := rfl

-- A change of one row keeps the defaults exactly when it leaves the row shared,
-- if the row is its workspace's default.
theorem modifySavedView_default (start : store.DefaultShared) (found : store.getSavedView workspaceId id = some row)
    (written : store.modifySavedView workspaceId id now change = some (after,answer))
    (home : ∀ row, (change row).workspaceId = row.workspaceId) :
    after.DefaultShared ↔ (store.defaultView workspaceId = some id → (change row).visibility = .shared) := by
  unfold modifySavedView at written
  rw [found] at written
  split at written
  · cases written
    have views : ∀ other there, ({store with savedViews := store.savedViews.modify id change}.touchWorkspace
        workspaceId now).getSavedView other there =
        if there = id then (store.getSavedView other id).map change else store.getSavedView other there := by
      intro other there
      simp only [getSavedView,touchWorkspace,IndexMap.get?_modify]
      split
      · cases store.savedViews.get? id <;> simp [Option.filter,home]
      · rfl
    have defaults : ∀ other, ({store with savedViews := store.savedViews.modify id change}.touchWorkspace
        workspaceId now).defaultView other = store.defaultView other := fun other => defaultView_touchWorkspace ..
    constructor
    · intro kept current
      obtain ⟨view,there,shared⟩ := kept workspaceId id ((defaults workspaceId).trans current)
      rw [views,if_pos rfl,found] at there
      cases there
      exact shared
    · intro shared other there current
      rw [defaults] at current
      obtain ⟨view,stored,before⟩ := start other there current
      rw [views]
      split
      · rename_i same
        subst same
        have here : other = workspaceId := by
          rw [← (getSavedView_some stored).2,← (getSavedView_some found).2]
          rw [Option.some.inj ((getSavedView_some stored).1.symm.trans (getSavedView_some found).1)]
        subst here
        exact ⟨change row,by rw [found]; rfl,shared current⟩
      · exact ⟨view,stored,before⟩
  · cases written

theorem createSavedView_default (start : store.DefaultShared)
    (written : store.createSavedView workspaceId id name principal view visibility now = .ok (some (after,answer))) :
    after.DefaultShared := by
  unfold createSavedView at written
  split at written
  · split at written
    · cases written
    · rename_i fresh
      cases written
      intro other there current
      rw [defaultView_touchWorkspace] at current
      obtain ⟨savedView,stored,shared⟩ := start other there current
      refine ⟨savedView,?_,shared⟩
      have different : there ≠ id := by
        rintro rfl
        exact fresh (by rw [IndexMap.contains,(getSavedView_some stored).1]; rfl)
      simpa [getSavedView,touchWorkspace,different] using stored
  · cases written

theorem deleteSavedView_default (start : store.DefaultShared)
    (written : store.deleteSavedView workspaceId id now = some after) : after.DefaultShared := by
  unfold deleteSavedView at written
  split at written
  · obtain ⟨_,_,rfl⟩ := Option.map_eq_some_iff.mp written
    intro other there current
    rw [defaultView_touchWorkspace] at current
    have kept : store.defaultView other = some there ∧ there ≠ id := by
      simp only [defaultView,IndexMap.get?_mapEntries] at current ⊢
      cases found : store.workspaces.get? other with
      | none => simp [found] at current
      | some row =>
        simp only [found,Option.map_some,Option.bind_some] at current ⊢
        split at current
        · cases current
        · rename_i other_default
          exact ⟨current,fun same => other_default (same ▸ current)⟩
    obtain ⟨savedView,stored,shared⟩ := start other there kept.1
    refine ⟨savedView,?_,shared⟩
    simpa [getSavedView,touchWorkspace,kept.2] using stored
  · cases written

theorem setDefaultSavedView_default (start : store.DefaultShared)
    (checked : Manager.checkDefault store workspaceId chosen = .ok ())
    (written : store.setDefaultSavedView workspaceId chosen now = some (after,row)) : after.DefaultShared := by
  obtain ⟨old,_,made⟩ := Option.map_eq_some_iff.mp written
  cases made
  intro other there current
  simp only [defaultView,IndexMap.get?_insert] at current
  split at current
  · rename_i same
    subst same
    have named : chosen = some there := current
    subst named
    obtain ⟨savedView,found,rest⟩ := bind_ok checked
    refine ⟨savedView,orNotFound_ok found,?_⟩
    split at rest
    · cases rest
    · rename_i shared
      exact not_not.mp shared
  · exact start other there current

theorem setSavedViewVisibility_default (start : store.DefaultShared)
    (found : store.getSavedView workspaceId id = some row)
    (written : store.setSavedViewVisibility workspaceId id visibility now = some (after,answer)) :
    after.DefaultShared ↔ (store.defaultView workspaceId = some id → visibility = .shared) := by
  unfold setSavedViewVisibility at written
  exact modifySavedView_default start found written fun _ => rfl

section Manager
variable {reply : SavedViewReply}

theorem update_default (start : store.DefaultShared)
    (done : Manager.updateSavedView store workspaceId principal id name view now = .ok (after,reply)) :
    after.DefaultShared := by
  obtain ⟨row,passed,rest⟩ := bind_ok done
  obtain ⟨found,_⟩ := ensureSavedViewMutable_ok passed
  split at rest
  · cases rest
  · obtain ⟨_,_,rest⟩ := bind_ok rest
    obtain ⟨_,written⟩ := answerView_ok rest
    unfold updateSavedView at written
    refine (modifySavedView_default start found written fun _ => rfl).mpr fun current => ?_
    obtain ⟨savedView,stored,shared⟩ := start _ _ current
    cases found.symm.trans stored
    exact shared

theorem create_default (start : store.DefaultShared)
    (done : Manager.createSavedView store workspaceId principal id name view visibility now = .ok (after,reply)) :
    after.DefaultShared := by
  obtain ⟨_,_,rest⟩ := bind_ok done
  obtain ⟨_,_,rest⟩ := bind_ok rest
  split at rest
  · cases rest
  · rename_i written stored
    obtain ⟨_,rfl⟩ := answerView_ok rest
    exact createSavedView_default start stored

-- A proposal is nobody's default, so a review cannot hide one.
theorem review_default (start : store.DefaultShared)
    (passed : store.ensureProposalReviewable workspaceId principal id = .ok row)
    (written : store.setSavedViewVisibility workspaceId id visibility now = some (after,answer)) :
    after.DefaultShared := by
  obtain ⟨found,proposed⟩ := ensureProposalReviewable_ok passed
  refine (setSavedViewVisibility_default start found written).mpr fun current => ?_
  obtain ⟨savedView,stored,shared⟩ := start _ _ current
  cases found.symm.trans stored
  rw [proposed] at shared
  cases shared

theorem approve_default (start : store.DefaultShared)
    (done : Manager.approveSavedView store workspaceId principal id now = .ok (after,reply)) :
    after.DefaultShared := by
  obtain ⟨_,passed,rest⟩ := bind_ok done
  split at rest
  · cases rest
  · obtain ⟨_,written⟩ := answerView_ok rest
    exact review_default start passed written

theorem reject_default (start : store.DefaultShared)
    (done : Manager.rejectSavedView store workspaceId principal id now = .ok (after,reply)) :
    after.DefaultShared := by
  obtain ⟨_,passed,rest⟩ := bind_ok done
  obtain ⟨_,written⟩ := answerView_ok rest
  exact review_default start passed written

theorem delete_default (start : store.DefaultShared)
    (done : Manager.deleteSavedView store workspaceId principal id now = .ok (after,reply)) :
    after.DefaultShared := by
  obtain ⟨_,_,rest⟩ := bind_ok done
  obtain ⟨_,written,rest⟩ := bind_ok rest
  cases rest
  exact deleteSavedView_default start (orNotFound_ok written)

theorem setDefault_default (start : store.DefaultShared)
    (done : Manager.setDefaultSavedView store workspaceId principal chosen now = .ok (after,reply)) :
    after.DefaultShared := by
  obtain ⟨_,_,rest⟩ := bind_ok done
  obtain ⟨⟨⟩,checked,rest⟩ := bind_ok rest
  obtain ⟨⟨_,_⟩,written,rest⟩ := bind_ok rest
  cases rest
  exact setDefaultSavedView_default start checked (orNotFound_ok written)

theorem list_default (start : store.DefaultShared)
    (done : Manager.listSavedViews store workspaceId principal = .ok (after,reply)) : after.DefaultShared := by
  obtain ⟨_,_,rest⟩ := bind_ok done
  cases rest
  exact start

theorem get_default (start : store.DefaultShared)
    (done : Manager.getSavedView store workspaceId principal id = .ok (after,reply)) : after.DefaultShared := by
  obtain ⟨_,_,rest⟩ := bind_ok done
  obtain ⟨_,_,rest⟩ := bind_ok rest
  split at rest
  · cases rest
    exact start
  · split at rest
    · cases rest
      exact start
    · cases rest

theorem requireViewer_exists (passed : store.requireViewer workspaceId principal = .ok role) :
    store.workspaceExists workspaceId := by
  unfold requireViewer roleFor at passed
  unfold workspaceExists
  cases found : store.live? workspaceId with
  | none => simp [found] at passed
  | some row => rfl

theorem rescope_default (start : store.DefaultShared) :
    ((Manager.setSavedViewVisibility store workspaceId principal id visibility now).store store).DefaultShared ↔
      (visibility ≠ .shared → store.defaultView workspaceId = some id →
        ¬ (store.ensureSavedViewRescopable workspaceId principal id visibility).isOk) := by
  unfold Manager.setSavedViewVisibility
  cases passed : store.ensureSavedViewRescopable workspaceId principal id visibility with
  | error error => exact iff_of_true start fun _ _ refused => by cases refused
  | ok row =>
    obtain ⟨found,_⟩ := ensureSavedViewRescopable_ok passed
    obtain ⟨role,viewer,_⟩ := bind_ok passed
    have live := requireViewer_exists viewer
    obtain ⟨⟨after,savedView⟩,written⟩ : ∃ written,
        store.setSavedViewVisibility workspaceId id visibility now = some written := by
      simp [setSavedViewVisibility,modifySavedView,live,found]
    have answered : (do
        let _ ← (Except.ok row : Except WorkspaceError WorkspaceSavedView)
        answerView id (store.setSavedViewVisibility workspaceId id visibility now)) = .ok (after,.view id savedView) := by
      rw [written]
      rfl
    rw [answered]
    refine (setSavedViewVisibility_default start found written).trans ?_
    constructor
    · exact fun kept hidden current => absurd (kept current) hidden
    · intro kept current
      by_contra hidden
      exact kept hidden current rfl

end Manager

theorem answered_default (start : store.DefaultShared) {answer : Answer}
    (kept : ∀ after reply, answer = .ok (after,reply) → after.DefaultShared) :
    (answer.store store).DefaultShared := by
  cases answer with
  | error error => exact start
  | ok result => exact kept result.1 result.2 rfl

-- Every request keeps the defaults shared, but for an accepted change of visibility
-- that takes the default of its workspace out of sharing.
theorem handled_default (start : store.DefaultShared) (request : ViewRequest) :
    (store.handled request).DefaultShared ↔ store.DefaultKept request := by
  obtain ⟨workspaceId,principal,now,action⟩ := request
  cases action with
  | create id name view visibility =>
    exact iff_of_true (answered_default start fun _ _ => create_default start) trivial
  | approve id => exact iff_of_true (answered_default start fun _ _ => approve_default start) trivial
  | reject id => exact iff_of_true (answered_default start fun _ _ => reject_default start) trivial
  | op op =>
    cases op with
    | list => exact iff_of_true (answered_default start fun _ _ => list_default start) trivial
    | get id => exact iff_of_true (answered_default start fun _ _ => get_default start) trivial
    | update id name view => exact iff_of_true (answered_default start fun _ _ => update_default start) trivial
    | delete id => exact iff_of_true (answered_default start fun _ _ => delete_default start) trivial
    | setDefault id => exact iff_of_true (answered_default start fun _ _ => setDefault_default start) trivial
    | setVisibility id visibility => exact rescope_default start

end WorkspaceStore

-- From a store whose defaults are shared, along requests of any members of any
-- workspaces, and the first request to break this is one that hides a default.
theorem default_views_stay_shared (start : WorkspaceStore.DefaultShared store)
    (path : Runs (fun store request after => after = store.handled request ∧ store.DefaultKept request) store requests
      after) :
    after.DefaultShared ∧ ∀ request, (after.handled request).DefaultShared ↔ after.DefaultKept request := by
  have kept : after.DefaultShared := by
    refine path.preserves (P := WorkspaceStore.DefaultShared) ?_ start
    rintro before request _ shared ⟨rfl,calm⟩
    exact (WorkspaceStore.handled_default shared request).mpr calm
  exact ⟨kept,WorkspaceStore.handled_default kept⟩

section
open ViewAction SavedViewOp

def oneEditor : WorkspaceStore where
  workspaces := .ofList [("w",⟨"Lab","a@x",0,0,none,0,"",.restricted,.viewer,none⟩)]
  members := .ofList [(("w","a@x"),⟨.editor,"A",0⟩)]
  savedViews := .empty

def byEditor (now : Nat) (action : ViewAction) : ViewRequest := ⟨"w",⟨"a@x","A",false⟩,now,action⟩

theorem oneEditor_shared : oneEditor.DefaultShared := by
  intro workspaceId id current
  have none_set : ∀ entry ∈ oneEditor.workspaces.entries, entry.2.defaultSavedViewId = none := by decide
  obtain ⟨row,found,named⟩ := Option.bind_eq_some_iff.mp current
  have unset := none_set (workspaceId,row) (IndexMap.mem_entries_iff.mpr found)
  rw [unset] at named
  cases named

theorem default_views_stay_shared_after_a_deletion :
    ∃ after, Runs (fun store request after => after = store.handled request ∧ store.DefaultKept request) oneEditor
        [byEditor 1 (create "v" " Front " .empty .shared),byEditor 2 (op (setDefault (some "v"))),
          byEditor 3 (op (setVisibility "v" .shared)),byEditor 4 (op (delete "v"))] after ∧
      after.defaultView "w" = none ∧ after.DefaultShared := by
  have path : ∃ after, Runs (fun store request after => after = store.handled request ∧ store.DefaultKept request)
      oneEditor [byEditor 1 (create "v" " Front " .empty .shared),byEditor 2 (op (setDefault (some "v"))),
        byEditor 3 (op (setVisibility "v" .shared)),byEditor 4 (op (delete "v"))] after ∧
      after.defaultView "w" = none := by
    refine ⟨_,.cons ⟨rfl,trivial⟩ (.cons ⟨rfl,trivial⟩ (.cons ⟨rfl,?_⟩ (.one ⟨rfl,trivial⟩))),?_⟩
    · exact fun hidden => absurd rfl hidden
    · decide
  obtain ⟨after,path,unset⟩ := path
  exact ⟨after,path,unset,(default_views_stay_shared oneEditor_shared path).1⟩

-- The creator of the default view makes it personal, and it stays the default.
theorem rescoped_default_stays :
    ∃ after, Runs (fun store request after => after = store.handled request) oneEditor
        [byEditor 1 (create "v" "Front" .empty .shared),byEditor 2 (op (setDefault (some "v"))),
          byEditor 3 (op (setVisibility "v" .personal))] after ∧
      after.defaultView "w" = some "v" ∧ (after.getSavedView "w" "v").map (·.visibility) = some .personal ∧
      ¬ after.DefaultShared := by
  have path : ∃ after, Runs (fun store request after => after = store.handled request) oneEditor
      [byEditor 1 (create "v" "Front" .empty .shared),byEditor 2 (op (setDefault (some "v"))),
        byEditor 3 (op (setVisibility "v" .personal))] after ∧
      after.defaultView "w" = some "v" ∧ (after.getSavedView "w" "v").map (·.visibility) = some .personal := by
    refine ⟨_,.cons rfl (.cons rfl (.one rfl)),?_,?_⟩ <;> decide
  obtain ⟨after,path,current,personal⟩ := path
  refine ⟨after,path,current,personal,fun kept => ?_⟩
  obtain ⟨savedView,found,shared⟩ := kept "w" "v" current
  rw [found,Option.map_some,shared] at personal
  cases personal

end

end Lucida.Server
