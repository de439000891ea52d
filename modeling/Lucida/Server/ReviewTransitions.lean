import Lucida.Lib.Runs
import Lucida.Server.SavedViews

namespace Lucida.Server
open Core Lib

inductive ReviewOp where
  | update (name : Option String) (view : Option SavedView)
  | setVisibility (visibility : SavedViewVisibility)
  | approve
  | reject
  | delete
  deriving DecidableEq, Repr

-- Which statement of the store a call waits to make, with the row it has read.
inductive ReviewStage where
  | authorizing
  | reading
  | confirming (read : WorkspaceSavedView)
  | writing (read : WorkspaceSavedView)
  | returned (reply : Except WorkspaceError SavedViewReply)

structure ReviewCall where
  principal : AuthPrincipal
  op : ReviewOp
  stage : ReviewStage

-- `ensure_proposal_reviewable` past the read.
def ensureReviewable (read : WorkspaceSavedView) (principal : AuthPrincipal) : Except WorkspaceError Unit :=
  if read.visibility = .personal ∧ read.createdBy ≠ normalizeEmail principal.email then .error .notFound
  else if read.visibility ≠ .proposed then .error (.badRequest "saved view is not a pending proposal")
  else .ok ()

namespace ReviewOp

def perform (store : WorkspaceStore) (workspaceId : WorkspaceId) (principal : AuthPrincipal) (id : SavedViewId) (now : Nat) :
    ReviewOp → Answer
  | .update name view => WorkspaceStore.Manager.updateSavedView store workspaceId principal id name view now
  | .setVisibility visibility => WorkspaceStore.Manager.setSavedViewVisibility store workspaceId principal id visibility now
  | .approve => WorkspaceStore.Manager.approveSavedView store workspaceId principal id now
  | .reject => WorkspaceStore.Manager.rejectSavedView store workspaceId principal id now
  | .delete => WorkspaceStore.Manager.deleteSavedView store workspaceId principal id now

def authorize (store : WorkspaceStore) (workspaceId : WorkspaceId) (principal : AuthPrincipal) :
    ReviewOp → Except WorkspaceError WorkspaceRole
  | .approve | .reject => store.requireEditor workspaceId principal
  | .update _ _ | .setVisibility _ | .delete => store.requireViewer workspaceId principal

def judge (principal : AuthPrincipal) (read : WorkspaceSavedView) : ReviewOp → Except WorkspaceError ReviewStage
  | .update _ _ | .delete => do
    ensureSavedViewReadable read principal
    .ok (if read.visibility = .shared then .confirming read else .writing read)
  | .setVisibility target => do
    ensureSavedViewReadable read principal
    if read.createdBy ≠ normalizeEmail principal.email then .error .forbidden
    else if !savedViewTransitionAllowed read.visibility target then
      .error (.badRequest ("cannot change saved view visibility from " ++ read.visibility.asStr ++ " to " ++ target.asStr))
    else .ok (if target = .shared then .confirming read else .writing read)
  | .approve => do
    ensureReviewable read principal
    if read.createdBy = normalizeEmail principal.email then .error .forbidden else .ok (.writing read)
  | .reject => do
    ensureReviewable read principal
    .ok (.writing read)

def target? : ReviewOp → Option SavedViewVisibility
  | .setVisibility visibility => some visibility
  | .approve => some .shared
  | .reject => some .personal
  | .update _ _ | .delete => none

def write (store : WorkspaceStore) (workspaceId : WorkspaceId) (id : SavedViewId) (now : Nat) : ReviewOp → Answer
  | .update name view =>
    if name.isNone ∧ view.isNone then .error (.badRequest "saved view patch is empty")
    else do
      let name ← WorkspaceStore.Manager.patchName name
      WorkspaceStore.answerView id (store.updateSavedView workspaceId id name (view.map SavedView.clearSourceUrls) now)
  | .delete => do
    let after ← orNotFound (store.deleteSavedView workspaceId id now)
    .ok (after,.deleted)
  | .setVisibility visibility => WorkspaceStore.answerView id (store.setSavedViewVisibility workspaceId id visibility now)
  | .approve => WorkspaceStore.answerView id (store.setSavedViewVisibility workspaceId id .shared now)
  | .reject => WorkspaceStore.answerView id (store.setSavedViewVisibility workspaceId id .personal now)

def Allows : ReviewOp → SavedViewVisibility → SavedViewVisibility → Prop
  | .setVisibility _,source,target => savedViewTransitionAllowed source target
  | .approve,source,target => source = .proposed ∧ target = .shared
  | .reject,source,target => source = .proposed ∧ target = .personal
  | .update _ _,_,_ | .delete,_,_ => False

end ReviewOp

section
variable (workspaceId : WorkspaceId) (id : SavedViewId)

def ReviewCall.advance (store : WorkspaceStore) (now : Nat) (call : ReviewCall) : Option (WorkspaceStore × ReviewStage) :=
  match call.stage with
  | .authorizing => some (store,match call.op.authorize store workspaceId call.principal with
    | .ok _ => .reading
    | .error error => .returned (.error error))
  | .reading => some (store,match (orNotFound (store.getSavedView workspaceId id)).bind (call.op.judge call.principal) with
    | .ok stage => stage
    | .error error => .returned (.error error))
  | .confirming read => some (store,match store.requireEditor workspaceId call.principal with
    | .ok _ => .writing read
    | .error error => .returned (.error error))
  | .writing _ =>
    let answer := call.op.write store workspaceId id now
    some (answer.store store,.returned answer.reply)
  | .returned _ => none

structure ReviewWorld where
  store : WorkspaceStore
  calls : IndexMap Nat ReviewCall

-- `elsewhere` is what other requests do to the store: they leave the view alone.
inductive ReviewEvent where
  | call (index : Nat) (principal : AuthPrincipal) (op : ReviewOp)
  | act (index now : Nat)
  | fails (index : Nat) (error : StoreError)
  | elsewhere (store : WorkspaceStore)

def ReviewWorld.next? (w : ReviewWorld) : ReviewEvent → Option ReviewWorld
  | .call index principal op =>
    if w.calls.contains index then none else some {w with calls := w.calls.insert index ⟨principal,op,.authorizing⟩}
  | .act index now => do
    let call ← w.calls.get? index
    let (store,stage) ← call.advance workspaceId id w.store now
    some ⟨store,w.calls.insert index {call with stage}⟩
  | .fails index error => do
    let call ← w.calls.get? index
    match call.stage with
    | .returned _ => none
    | _ => some {w with calls := w.calls.insert index {call with stage := .returned (.error (.store error))}}
  | .elsewhere store => if store.getSavedView workspaceId id = w.store.getSavedView workspaceId id then some {w with store} else none

def ReviewCall.settle (now : Nat) : Nat → WorkspaceStore → ReviewCall → WorkspaceStore × ReviewCall
  | 0,store,call => (store,call)
  | statements+1,store,call => match call.advance workspaceId id store now with
    | none => (store,call)
    | some (after,stage) => ReviewCall.settle now statements after {call with stage}

end

section
variable {workspaceId : WorkspaceId} {id : SavedViewId}

-- The checks of a call, in the order of its statements, and then the rest of it.
def ReviewOp.gated (store : WorkspaceStore) (workspaceId : WorkspaceId) (principal : AuthPrincipal) (id : SavedViewId)
    (op : ReviewOp) (rest : Answer) : Answer := do
  let _ ← op.authorize store workspaceId principal
  let read ← orNotFound (store.getSavedView workspaceId id)
  match ← op.judge principal read with
  | .confirming _ =>
    let _ ← store.requireEditor workspaceId principal
    rest
  | _ => rest

theorem ensureSavedViewMutable_gated (store : WorkspaceStore) (principal : AuthPrincipal) (rest : Answer) :
    (do let _ ← store.ensureSavedViewMutable workspaceId principal id; rest) =
      ReviewOp.delete.gated store workspaceId principal id rest := by
  unfold WorkspaceStore.ensureSavedViewMutable ReviewOp.gated ReviewOp.authorize
  cases store.requireViewer workspaceId principal with
  | error error => simp only [error_then]
  | ok role =>
    simp only [ok_then,bind_assoc]
    cases orNotFound (store.getSavedView workspaceId id) with
    | error error => simp only [error_then]
    | ok read =>
      simp only [ok_then,ReviewOp.judge,bind_assoc]
      cases ensureSavedViewReadable read principal with
      | error error => simp only [error_then]
      | ok passed =>
        simp only [ok_then]
        by_cases shared : read.visibility = .shared
        · simp only [shared,if_true,bind_assoc,ok_then]
        · simp only [shared,if_false,ok_then]

theorem ensureSavedViewRescopable_gated (store : WorkspaceStore) (principal : AuthPrincipal) (target : SavedViewVisibility)
    (rest : Answer) : (do let _ ← store.ensureSavedViewRescopable workspaceId principal id target; rest) =
      (ReviewOp.setVisibility target).gated store workspaceId principal id rest := by
  unfold WorkspaceStore.ensureSavedViewRescopable ReviewOp.gated ReviewOp.authorize
  cases store.requireViewer workspaceId principal with
  | error error => simp only [error_then]
  | ok role =>
    simp only [ok_then,bind_assoc]
    cases orNotFound (store.getSavedView workspaceId id) with
    | error error => simp only [error_then]
    | ok read =>
      simp only [ok_then,ReviewOp.judge,bind_assoc]
      cases ensureSavedViewReadable read principal with
      | error error => simp only [error_then]
      | ok passed =>
        simp only [ok_then]
        by_cases own : read.createdBy = normalizeEmail principal.email
        · by_cases allowed : savedViewTransitionAllowed read.visibility target
          · simp only [own,allowed,ne_eq,not_true,if_false,Bool.not_true,Bool.false_eq_true,ok_then]
            by_cases shared : target = .shared
            · simp only [shared,if_true,bind_assoc,ok_then]
            · simp only [shared,if_false,ok_then]
          · simp only [own,allowed,ne_eq,not_true,if_false,Bool.not_false,if_true]
            simp only [error_then]
        · simp only [own,ne_eq,not_false_iff,if_true,error_then]

theorem ensureProposalReviewable_gated (store : WorkspaceStore) (principal : AuthPrincipal) (rest : WorkspaceSavedView → Answer) :
    (do let read ← store.ensureProposalReviewable workspaceId principal id; rest read) = (do
      let _ ← store.requireEditor workspaceId principal
      let read ← orNotFound (store.getSavedView workspaceId id)
      ensureReviewable read principal
      rest read) := by
  unfold WorkspaceStore.ensureProposalReviewable
  simp only [bind_assoc]
  refine bind_congr fun role => bind_congr fun read => ?_
  unfold ensureReviewable
  split
  · rfl
  · split <;> rfl

theorem perform_eq (store : WorkspaceStore) (principal : AuthPrincipal) (now : Nat) (op : ReviewOp) :
    op.perform store workspaceId principal id now =
      op.gated store workspaceId principal id (op.write store workspaceId id now) := by
  cases op with
  | update name view => exact ensureSavedViewMutable_gated store principal _
  | delete => exact ensureSavedViewMutable_gated store principal _
  | setVisibility target => exact ensureSavedViewRescopable_gated store principal target _
  | approve =>
    unfold ReviewOp.perform WorkspaceStore.Manager.approveSavedView
    rw [ensureProposalReviewable_gated]
    simp only [ReviewOp.gated,ReviewOp.authorize,ReviewOp.judge,ReviewOp.write,bind_assoc]
    refine bind_congr fun role => bind_congr fun read => bind_congr fun passed => ?_
    by_cases own : read.createdBy = normalizeEmail principal.email
    · simp only [own,if_true,error_then]
    · simp only [own,if_false,ok_then]
  | reject =>
    unfold ReviewOp.perform WorkspaceStore.Manager.rejectSavedView
    rw [ensureProposalReviewable_gated]
    simp only [ReviewOp.gated,ReviewOp.authorize,ReviewOp.judge,ReviewOp.write,bind_assoc,ok_then]

theorem settle_returned (store : WorkspaceStore) (now statements : Nat) (call : ReviewCall) (done : call.stage = .returned reply) :
    call.settle workspaceId id now statements store = (store,call) := by
  cases statements with
  | zero => rfl
  | succ statements => simp only [ReviewCall.settle,ReviewCall.advance,done]

theorem settle_writing (store : WorkspaceStore) (now statements : Nat) (call : ReviewCall) {read : WorkspaceSavedView}
    (waits : call.stage = .writing read) :
    call.settle workspaceId id now (statements+1) store =
      let answer := call.op.write store workspaceId id now
      (answer.store store,{call with stage := .returned answer.reply}) := by
  simp only [ReviewCall.settle,ReviewCall.advance,waits]
  exact settle_returned _ _ _ _ rfl

theorem settle_confirming (store : WorkspaceStore) (now statements : Nat) (call : ReviewCall) {read : WorkspaceSavedView}
    (waits : call.stage = .confirming read) : call.settle workspaceId id now (statements+2) store =
      let answer : Answer := do
        let _ ← store.requireEditor workspaceId call.principal
        call.op.write store workspaceId id now
      (answer.store store,{call with stage := .returned answer.reply}) := by
  rw [ReviewCall.settle,ReviewCall.advance,waits]
  dsimp only
  cases store.requireEditor workspaceId call.principal with
  | error error => exact settle_returned _ _ _ _ rfl
  | ok role => exact settle_writing _ _ _ _ rfl

-- A judged call goes on to its write, past one more check where it has one.
theorem judge_stage {op : ReviewOp} {read : WorkspaceSavedView} (judged : op.judge principal read = .ok stage) :
    stage = .confirming read ∨ stage = .writing read := by
  cases op with
  | update name view =>
    obtain ⟨_,_,rest⟩ := bind_ok judged
    cases rest
    split
    · exact .inl rfl
    · exact .inr rfl
  | delete =>
    obtain ⟨_,_,rest⟩ := bind_ok judged
    cases rest
    split
    · exact .inl rfl
    · exact .inr rfl
  | setVisibility target =>
    obtain ⟨_,_,rest⟩ := bind_ok judged
    split at rest
    · cases rest
    · split at rest
      · cases rest
      · cases rest
        split
        · exact .inl rfl
        · exact .inr rfl
  | approve =>
    obtain ⟨_,_,rest⟩ := bind_ok judged
    split at rest <;> cases rest
    exact .inr rfl
  | reject =>
    obtain ⟨_,_,rest⟩ := bind_ok judged
    cases rest
    exact .inr rfl

theorem settle_eq (store : WorkspaceStore) (principal : AuthPrincipal) (now : Nat) (op : ReviewOp) :
    ReviewCall.settle workspaceId id now 4 store ⟨principal,op,.authorizing⟩ =
      let answer := op.perform store workspaceId principal id now
      (answer.store store,⟨principal,op,.returned answer.reply⟩) := by
  rw [perform_eq,ReviewCall.settle,ReviewCall.advance]
  unfold ReviewOp.gated
  dsimp only
  cases op.authorize store workspaceId principal with
  | error error => exact settle_returned _ _ _ _ rfl
  | ok role =>
    rw [ReviewCall.settle,ReviewCall.advance]
    dsimp only
    cases orNotFound (store.getSavedView workspaceId id) with
    | error error => exact settle_returned _ _ _ _ rfl
    | ok read =>
      simp only [ok_then,Except.bind]
      cases judged : op.judge principal read with
      | error error => exact settle_returned _ _ _ _ rfl
      | ok stage =>
        rcases judge_stage judged with rfl | rfl
        · exact settle_confirming _ _ _ _ rfl
        · exact settle_writing _ _ _ _ rfl

theorem ensureReviewable_proposed {read : WorkspaceSavedView} (passed : ensureReviewable read principal = .ok ()) :
    read.visibility = .proposed := by
  unfold ensureReviewable at passed
  split at passed
  · cases passed
  · split at passed
    · cases passed
    · exact not_not.mp ‹_›

theorem judge_allows {op : ReviewOp} {read : WorkspaceSavedView} (judged : op.judge principal read = .ok stage)
    (targets : op.target? = some target) : op.Allows read.visibility target := by
  cases op with
  | update name view => cases targets
  | delete => cases targets
  | setVisibility visibility =>
    cases targets
    obtain ⟨_,_,rest⟩ := bind_ok judged
    split at rest
    · cases rest
    · split at rest
      · cases rest
      · rename_i allowed
        simpa [ReviewOp.Allows] using allowed
  | approve =>
    cases targets
    obtain ⟨_,passed,_⟩ := bind_ok judged
    exact ⟨ensureReviewable_proposed passed,rfl⟩
  | reject =>
    cases targets
    obtain ⟨_,passed,_⟩ := bind_ok judged
    exact ⟨ensureReviewable_proposed passed,rfl⟩

end

def ReviewCall.Judged (call : ReviewCall) : Prop := ∀ read, call.stage = .confirming read ∨ call.stage = .writing read →
  ∀ target, call.op.target? = some target → call.op.Allows read.visibility target

def ReviewCall.pending? (call : ReviewCall) : Option (WorkspaceSavedView × SavedViewVisibility) :=
  match call.stage,call.op.target? with
  | .writing read,some target => some (read,target)
  | _,_ => none

namespace ReviewWorld
variable (workspaceId : WorkspaceId) (id : SavedViewId)

-- The call behind a visibility write that is about to take effect, the row as it is then, and what it becomes.
def rescopes? (w : ReviewWorld) : ReviewEvent → Option (ReviewCall × WorkspaceSavedView × SavedViewVisibility)
  | .act index _ => do
    let call ← w.calls.get? index
    let (_,target) ← call.pending?
    let row ← w.store.getSavedView workspaceId id
    if w.store.workspaceExists workspaceId then some (call,row,target) else none
  | _ => none

def Unmoved (w : ReviewWorld) : ReviewEvent → Prop
  | .act index _ => ∀ call ∈ w.calls.get? index, ∀ pending ∈ call.pending?,
      ∀ row ∈ w.store.getSavedView workspaceId id, row.visibility = pending.1.visibility
  | _ => True

instance (w : ReviewWorld) : ∀ event, Decidable (w.Unmoved workspaceId id event)
  | .act index _ => inferInstanceAs (Decidable (∀ call ∈ w.calls.get? index, ∀ pending ∈ call.pending?,
      ∀ row ∈ w.store.getSavedView workspaceId id, row.visibility = pending.1.visibility))
  | .call .. => inferInstanceAs (Decidable True)
  | .fails .. => inferInstanceAs (Decidable True)
  | .elsewhere _ => inferInstanceAs (Decidable True)

def Judged (w : ReviewWorld) : Prop := ∀ index call, w.calls.get? index = some call → call.Judged

variable {workspaceId id} {w after : ReviewWorld} {event : ReviewEvent}

theorem judged_returned {call : ReviewCall} (done : call.stage = .returned reply) : call.Judged := by
  intro read waits
  rw [done] at waits
  rcases waits with waits | waits <;> cases waits

theorem advance_judged {call : ReviewCall} {stage : ReviewStage} (judged : call.Judged)
    (advanced : call.advance workspaceId id old now = some (new,stage)) : ReviewCall.Judged {call with stage} := by
  intro read waits target targets
  unfold ReviewCall.advance at advanced
  dsimp only at waits
  split at advanced
  · cases advanced
    split at waits <;> rcases waits with waits | waits <;> cases waits
  · cases advanced
    split at waits
    · rename_i passed
      obtain ⟨row,_,verdict⟩ := bind_ok passed
      have same : row = read := by
        rcases judge_stage verdict with rfl | rfl <;> rcases waits with waits | waits <;> cases waits <;> rfl
      exact same ▸ judge_allows verdict targets
    · rcases waits with waits | waits <;> cases waits
  · rename_i row standing
    cases advanced
    split at waits
    · rcases waits with waits | waits <;> cases waits
      exact judged read (.inl standing) target targets
    · rcases waits with waits | waits <;> cases waits
  · cases advanced
    rcases waits with waits | waits <;> cases waits
  · cases advanced

theorem Judged.set (judged : w.Judged) {index : Nat} {call : ReviewCall} (own : call.Judged) (new : WorkspaceStore) :
    Judged ⟨new,w.calls.insert index call⟩ := by
  intro other found stored
  rw [IndexMap.get?_insert] at stored
  split at stored
  · cases stored
    exact own
  · exact judged other found stored

theorem next_judged (judged : w.Judged) (taken : w.next? workspaceId id event = some after) : after.Judged := by
  cases event with
  | call index principal op =>
    simp only [next?] at taken
    split at taken <;> cases taken
    refine judged.set (fun read waits => ?_) w.store
    rcases waits with waits | waits <;> cases waits
  | act index now =>
    obtain ⟨call,found,rest⟩ := Option.bind_eq_some_iff.mp taken
    obtain ⟨⟨new,stage⟩,advanced,same⟩ := Option.bind_eq_some_iff.mp rest
    cases same
    exact judged.set (advance_judged (judged index call found) advanced) new
  | fails index error =>
    obtain ⟨call,found,rest⟩ := Option.bind_eq_some_iff.mp taken
    split at rest
    · cases rest
    · cases rest
      exact judged.set (judged_returned rfl) w.store
  | elsewhere new =>
    simp only [next?] at taken
    split at taken
    · cases taken
      exact judged
    · cases taken

theorem rescopes?_cases (writes : w.rescopes? workspaceId id event = some (call,row,target)) :
    ∃ index now read, event = .act index now ∧ w.calls.get? index = some call ∧ call.stage = .writing read ∧
      call.op.target? = some target ∧ call.pending? = some (read,target) ∧
      w.store.getSavedView workspaceId id = some row ∧ w.store.workspaceExists workspaceId := by
  cases event with
  | act index now =>
    obtain ⟨found,stored,rest⟩ := Option.bind_eq_some_iff.mp writes
    obtain ⟨⟨read,aim⟩,pending,rest⟩ := Option.bind_eq_some_iff.mp rest
    obtain ⟨current,there,rest⟩ := Option.bind_eq_some_iff.mp rest
    split at rest
    · rename_i lives
      cases rest
      have waits := pending
      unfold ReviewCall.pending? at waits
      split at waits
      · cases waits
        exact ⟨index,now,read,rfl,stored,‹_›,‹_›,pending,there,lives⟩
      · cases waits
    · cases rest
  | _ => cases writes

theorem rescopes?_writes (writes : w.rescopes? workspaceId id event = some (call,row,target))
    (taken : w.next? workspaceId id event = some after) :
    ∃ written, after.store.getSavedView workspaceId id = some written ∧ written.visibility = target := by
  obtain ⟨index,now,read,rfl,found,standing,targets,_,there,lives⟩ := rescopes?_cases writes
  obtain ⟨stored,home⟩ := getSavedView_some there
  have written : w.store.setSavedViewVisibility workspaceId id target now = some
      ({w.store with savedViews := w.store.savedViews.modify id fun row => {row with visibility := target,updatedAt := now}}.touchWorkspace
        workspaceId now,{row with visibility := target,updatedAt := now}) := by
    unfold WorkspaceStore.setSavedViewVisibility WorkspaceStore.modifySavedView
    rw [if_pos lives,there]
    rfl
  have answer : call.op.write w.store workspaceId id now =
      WorkspaceStore.answerView id (w.store.setSavedViewVisibility workspaceId id target now) := by
    cases called : call.op with
    | update name view => rw [called] at targets; cases targets
    | delete => rw [called] at targets; cases targets
    | setVisibility visibility => rw [called] at targets; cases targets; rfl
    | approve => rw [called] at targets; cases targets; rfl
    | reject => rw [called] at targets; cases targets; rfl
  simp only [next?,found,Option.bind_eq_bind,Option.bind_some,ReviewCall.advance,standing,answer,written] at taken
  cases taken
  refine ⟨{row with visibility := target,updatedAt := now},?_,rfl⟩
  unfold WorkspaceStore.getSavedView
  refine Option.filter_eq_some_iff.mpr ⟨?_,by simpa using home⟩
  change (w.store.savedViews.modify id _).get? id = _
  rw [IndexMap.get?_modify,if_pos rfl,stored]
  rfl

-- In a run whose visibility writes each find what their call has read, every such write is a
-- move of the workflow from the visibility the row has.
theorem review_transitions_are_respected {start last : ReviewWorld} (idle : start.calls = .empty)
    (path : Runs (fun w event after => w.next? workspaceId id event = some after ∧ w.Unmoved workspaceId id event) start
      (before ++ event::later) last) :
    ∃ w after, Runs (fun w event after => w.next? workspaceId id event = some after) start before w ∧
      w.next? workspaceId id event = some after ∧
      ∀ call row target, w.rescopes? workspaceId id event = some (call,row,target) →
        call.op.Allows row.visibility target ∧ (call.op = .approve → row.visibility ≠ .personal) ∧
        ∃ written, after.store.getSavedView workspaceId id = some written ∧ written.visibility = target := by
  obtain ⟨w,after,first,⟨taken,unmoved⟩,_⟩ := path.split
  have judged : w.Judged := by
    refine first.preserves (fun _ _ _ judged step => next_judged judged step.1) ?_
    intro index call found
    rw [idle] at found
    cases found
  refine ⟨w,after,first.mono fun _ _ _ step => step.1,taken,fun call row target writes => ?_⟩
  obtain ⟨index,now,read,rfl,found,standing,targets,pending,there,_⟩ := rescopes?_cases writes
  have same : row.visibility = read.visibility := unmoved call found (read,target) pending row there
  have allowed : call.op.Allows row.visibility target := same ▸ judged index call found read (.inr standing) target targets
  refine ⟨allowed,fun approves => ?_,rescopes?_writes writes taken⟩
  rw [approves] at allowed
  rw [allowed.1]
  decide

end ReviewWorld

section
open ReviewEvent

def viewerV : AuthPrincipal := ⟨"v@x","V",false⟩

def editorE : AuthPrincipal := ⟨"e@x","E",false⟩

def oneProposal : ReviewWorld where
  store := {
    workspaces := .ofList [("w",⟨"Lab","e@x",0,0,none,0,"",.restricted,.viewer,none⟩)]
    members := .ofList [(("w","e@x"),⟨.editor,"E",0⟩),(("w","v@x"),⟨.viewer,"V",0⟩)]
    savedViews := .ofList [("s",⟨"w","Front","v@x","V",0,0,.proposed,.empty⟩)]}
  calls := .empty

theorem review_transitions_are_respected_by_an_approval :
    ∃ last, Runs (fun w event after => w.next? "w" "s" event = some after ∧ w.Unmoved "w" "s" event) oneProposal
        ([call 0 editorE .approve,act 0 1,act 0 2] ++ [act 0 3]) last ∧
      (last.store.getSavedView "w" "s").map WorkspaceSavedView.visibility = some .shared ∧
      ∃ w after : ReviewWorld, w.next? "w" "s" (act 0 3) = some after ∧
        ∀ call row target, w.rescopes? "w" "s" (act 0 3) = some (call,row,target) → call.op.Allows row.visibility target := by
  have reached : ∃ w, drive (guarded (ReviewWorld.Unmoved "w" "s") (ReviewWorld.next? "w" "s")) oneProposal
      ([call 0 editorE .approve,act 0 1,act 0 2] ++ [act 0 3]) = some w ∧
      (w.store.getSavedView "w" "s").map WorkspaceSavedView.visibility = some .shared := ⟨_,rfl,rfl⟩
  obtain ⟨last,ran,shared⟩ := reached
  have path := drive_guarded ran
  obtain ⟨w,after,_,taken,respected⟩ := ReviewWorld.review_transitions_are_respected rfl path
  exact ⟨last,path,shared,w,after,taken,fun call row target writes => (respected call row target writes).1⟩

-- The owner withdraws the proposal between the editor's read and the editor's write.
theorem review_of_a_withdrawn_proposal :
    ∃ w after, Runs (fun w event after => w.next? "w" "s" event = some after) oneProposal
        [call 0 editorE .approve,act 0 1,act 0 2,call 1 viewerV (.setVisibility .personal),act 1 3,act 1 4,act 1 5] w ∧
      w.next? "w" "s" (act 0 6) = some after ∧
      (w.store.getSavedView "w" "s").map WorkspaceSavedView.visibility = some .personal ∧
      (after.store.getSavedView "w" "s").map WorkspaceSavedView.visibility = some .shared ∧
      ∃ call row target, w.rescopes? "w" "s" (act 0 6) = some (call,row,target) ∧ call.op = .approve ∧
        row.visibility = .personal ∧ ¬ call.op.Allows row.visibility target := by
  have reached : ∃ w, drive (ReviewWorld.next? "w" "s") oneProposal
      [call 0 editorE .approve,act 0 1,act 0 2,call 1 viewerV (.setVisibility .personal),act 1 3,act 1 4,act 1 5] = some w ∧
      ∃ after, w.next? "w" "s" (act 0 6) = some after ∧
      (w.store.getSavedView "w" "s").map WorkspaceSavedView.visibility = some .personal ∧
      (after.store.getSavedView "w" "s").map WorkspaceSavedView.visibility = some .shared ∧
      ∃ call row, w.rescopes? "w" "s" (act 0 6) = some (call,row,.shared) ∧ call.op = .approve ∧ row.visibility = .personal :=
    ⟨_,rfl,_,rfl,rfl,rfl,_,_,rfl,rfl,rfl⟩
  obtain ⟨w,ran,after,taken,withdrawn,shared,call,row,writes,approves,personal⟩ := reached
  refine ⟨w,after,drive_runs (fun _ _ _ taken => taken) ran,taken,withdrawn,shared,call,row,_,writes,approves,personal,?_⟩
  rw [approves,personal]
  exact fun allowed => by cases allowed.1

end
end Lucida.Server
