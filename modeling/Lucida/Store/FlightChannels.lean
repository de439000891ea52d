import Lucida.Store.FlightOwnership

namespace Lucida.Store.ChunkCache
open Lib
variable {w w' : World} {id : TaskId} {task : Task} {phase : Phase} {guard : LeaderGuard}

-- Messages and the table: a registered read has sent nothing yet, and a caller
-- waits on a channel of its own key that is registered or has its message.
structure Channels (w : World) : Prop where
  registered : ∀ key read, w.flights.reads.get? key = some read →
    read.tx.key = key ∧ read.tx.flight ≤ w.flights.nextFlight ∧ w.sent.get? read.tx = none
  sent : ∀ channel delivery, w.sent.get? channel = some delivery → channel.flight ≤ w.flights.nextFlight
  awaited : ∀ id task channel, w.tasks.get? id = some task → task.phase.awaits? = some channel →
    channel.key = task.key ∧ (w.sent.get? channel ≠ none ∨
      ∃ read, w.flights.reads.get? channel.key = some read ∧ read.tx = channel)
  own : ∀ id task guard channel, w.Live id task guard → task.phase.awaits? = some channel →
    ∀ read, w.flights.reads.get? task.key = some read → read.owner = guard.flight → read.tx = channel

structure Relay (f f' : Flights) (sends : Sends) : Prop where
  flights : f'.nextFlight = f.nextFlight
  kept : ∀ key read', f'.reads.get? key = some read' →
    ∃ read, f.reads.get? key = some read ∧ read.tx = read'.tx ∧ read'.tx ∉ sends.map Prod.fst
  told : ∀ key read, f.reads.get? key = some read →
    (∃ read', f'.reads.get? key = some read' ∧ read'.tx = read.tx) ∨ read.tx ∈ sends.map Prod.fst
  source : ∀ send ∈ sends, ∃ key read, f.reads.get? key = some read ∧ read.tx = send.1

theorem get?_broadcast (w : World) (sends : Sends) (channel : Channel) :
    (channel ∉ sends.map Prod.fst → (w.broadcast sends).sent.get? channel = w.sent.get? channel) ∧
      (channel ∈ sends.map Prod.fst → (w.broadcast sends).sent.get? channel ≠ none) ∧
      ∀ delivery, (w.broadcast sends).sent.get? channel = some delivery →
        (channel,delivery) ∈ sends ∨ w.sent.get? channel = some delivery := by
  unfold World.broadcast
  simp only
  generalize w.sent = sent
  induction sends generalizing sent with
  | nil => simp
  | cons send rest ih =>
    obtain ⟨unsent,told,from_sends⟩ := ih (sent.insert send.1 send.2)
    simp only [List.foldl_cons,List.map_cons,List.mem_cons,not_or]
    refine ⟨?_,?_,?_⟩
    · rintro ⟨apart,outside⟩
      rw [unsent outside,IndexMap.get?_insert,if_neg apart]
    · intro member
      by_cases later : channel ∈ rest.map Prod.fst
      · exact told later
      · rcases member with same | member
        · rw [unsent later,IndexMap.get?_insert,if_pos same]
          simp
        · exact absurd member later
    · intro delivery got
      rcases from_sends delivery got with member | before
      · exact .inl (.inr member)
      · rw [IndexMap.get?_insert] at before
        split at before
        · rename_i same
          cases before
          exact .inl (.inl (Prod.ext same rfl))
        · exact .inr before

theorem Relay.refl (f : Flights) : Relay f f [] :=
  ⟨rfl,fun _ read found => ⟨read,found,rfl,by simp⟩,fun _ read found => .inl ⟨read,found,rfl⟩,by simp⟩

theorem Settled.relay (channels : Channels w) (settled : Settled w.flights mine listed f sends)
    (reads : f'.reads = f.reads) (flights : f'.nextFlight = f.nextFlight) : Relay w.flights f' sends := by
  refine ⟨flights.trans settled.flights,?_,?_,?_⟩
  · intro key read found
    rw [reads] at found
    obtain ⟨before,unlisted⟩ := settled.kept key read found
    refine ⟨read,before,rfl,fun told => ?_⟩
    obtain ⟨send,member,same⟩ := List.mem_map.mp told
    obtain ⟨other,entry,stored,owner,tx,item⟩ := settled.sent send member
    have equal : other = key := by
      rw [← (channels.registered other entry stored).1,tx,same,(channels.registered key read before).1]
    subst equal
    cases Option.some.inj (before.symm.trans stored)
    exact unlisted owner (List.mem_map_of_mem item)
  · intro key read found
    rw [reads]
    by_cases gone : read.owner = mine ∧ key ∈ listed.map Prod.fst
    · exact .inr (settled.told key read found gone.1 gone.2)
    · refine .inl ⟨read,settled.stays key read found ?_,rfl⟩
      by_cases owner : read.owner = mine
      · exact .inr fun member => gone ⟨owner,member⟩
      · exact .inl owner
  · intro send member
    obtain ⟨key,read,found,_,tx,_⟩ := settled.sent send member
    exact ⟨key,read,found,tx⟩

theorem complete_relay (channels : Channels w) (guard : LeaderGuard) (outcomes : List (ReadKey × ShareResult)) :
    Relay w.flights (guard.complete w.flights outcomes).2.1 (guard.complete w.flights outcomes).2.2 :=
  (settle_spec w.flights guard.flight _).relay channels rfl rfl

theorem drop_relay (channels : Channels w) (guard : LeaderGuard) (armed : guard.completed = false) :
    Relay w.flights (guard.drop w.flights).1 (guard.drop w.flights).2 := by
  have settled := settle_spec w.flights guard.flight (guard.keys.map fun key => (key,.abandoned guard.label))
  unfold LeaderGuard.drop
  rw [armed]
  cases guard.queuedAt with
  | none => exact settled.relay channels rfl rfl
  | some path => exact settled.relay channels (dequeue_reads _ _ _) (dequeue_nextFlight _ _ _)

theorem Unclaimed.relay (unclaimed : Unclaimed f guard path f') : Relay f f' [] := by
  refine ⟨unclaimed.flights,?_,?_,by simp⟩
  · intro key read found
    rw [unclaimed.reads] at found
    exact ⟨read,found,rfl,by simp⟩
  · intro key read found
    rw [unclaimed.reads]
    exact .inl ⟨read,found,rfl⟩

theorem Claimed.relay (claimed : Claimed f guard path f' guard' keys) : Relay f f' [] := by
  refine ⟨claimed.flights,?_,?_,by simp⟩
  · intro key read found
    by_cases member : key ∈ keys
    · obtain ⟨before,after,stored,moved,tx,_⟩ := claimed.moved key member
      cases Option.some.inj (moved.symm.trans found)
      exact ⟨before,stored,tx.symm,by simp⟩
    · exact ⟨read,(claimed.rest key member).symm.trans found,rfl,by simp⟩
  · intro key read found
    by_cases member : key ∈ keys
    · obtain ⟨before,after,stored,moved,tx,_⟩ := claimed.moved key member
      cases Option.some.inj (stored.symm.trans found)
      exact .inl ⟨after,moved,tx⟩
    · exact .inl ⟨read,(claimed.rest key member).trans found,rfl⟩

theorem Channels.relay (channels : Channels w) (found : w.tasks.get? id = some task)
    (move : Move mine w.flights w'.flights) (relay : Relay w.flights w'.flights sends)
    (sent : w'.sent = (w.broadcast sends).sent) (tasks : w'.tasks = w.tasks.insert id {task with phase := phase})
    (others : ∀ id' task' guard', id' ≠ id → w.Live id' task' guard' → guard'.flight ≠ mine)
    (awaits : ∀ channel, phase.awaits? = some channel → task.phase.awaits? = some channel)
    (own : ∀ guard' channel, phase.guard? = some guard' → phase.awaits? = some channel →
      task.phase.guard? = some guard' ∧ w'.flights = w.flights) : Channels w' := by
  have heard : ∀ id' task' channel, w.tasks.get? id' = some task' → task'.phase.awaits? = some channel →
      channel.key = task'.key ∧ (w'.sent.get? channel ≠ none ∨
        ∃ read, w'.flights.reads.get? channel.key = some read ∧ read.tx = channel) := by
    intro id' task' channel stored waits
    obtain ⟨key,before | ⟨read,present,tx⟩⟩ := channels.awaited id' task' channel stored waits
    · refine ⟨key,.inl ?_⟩
      rw [sent]
      by_cases told : channel ∈ sends.map Prod.fst
      · exact (get?_broadcast w sends channel).2.1 told
      · rwa [(get?_broadcast w sends channel).1 told]
    · refine ⟨key,?_⟩
      rcases relay.told channel.key read present with ⟨read',after,same⟩ | told
      · exact .inr ⟨read',after,same.trans tx⟩
      · rw [sent]
        exact .inl ((get?_broadcast w sends channel).2.1 (tx ▸ told))
  refine ⟨?_,?_,?_,?_⟩
  · intro key read' after
    obtain ⟨read,before,tx,untold⟩ := relay.kept key read' after
    obtain ⟨same,issued,unsent⟩ := channels.registered key read before
    rw [tx] at same issued unsent
    refine ⟨same,relay.flights ▸ issued,?_⟩
    rw [sent,(get?_broadcast w sends read'.tx).1 untold]
    exact unsent
  · intro channel delivery got
    rw [sent] at got
    rw [relay.flights]
    rcases (get?_broadcast w sends channel).2.2 delivery got with member | before
    · obtain ⟨key,read,stored,tx⟩ := relay.source _ member
      have issued := (channels.registered key read stored).2.1
      rw [tx] at issued
      exact issued
    · exact channels.sent channel delivery before
  · intro id' task' channel stored waits
    rw [tasks,IndexMap.get?_insert] at stored
    split at stored
    · cases stored
      exact heard id task channel found (awaits channel waits)
    · exact heard id' task' channel stored waits
  · intro id' task' guard' channel alive waits read present owner
    obtain ⟨stored,guards⟩ := alive
    rw [tasks,IndexMap.get?_insert] at stored
    split at stored
    · cases stored
      obtain ⟨before,same⟩ := own guard' channel guards waits
      rw [same] at present
      exact channels.own id task guard' channel ⟨found,before⟩ (awaits channel waits) read present owner
    · rename_i apart
      have foreign := others id' task' guard' apart ⟨stored,guards⟩
      exact channels.own id' task' guard' channel ⟨stored,guards⟩ waits read
        (move.kept _ read present (owner ▸ foreign)) owner

theorem Channels.register (channels : Channels w) (valid : Ownership w)
    (registered : Registered w.flights task.key label w'.flights) (absent : w.flights.reads.get? task.key = none)
    (sent : w'.sent = w.sent) (tasks : w'.tasks = w.tasks.insert id {task with phase := phase})
    (awaits : ∀ channel, phase.awaits? = some channel → channel = ⟨w.flights.nextFlight+1,task.key⟩) :
    Channels w' := by
  have keeps : ∀ key read, w.flights.reads.get? key = some read → w'.flights.reads.get? key = some read := by
    intro key read found
    rw [registered.reads,if_neg]
    · exact found
    · rintro rfl
      cases absent.symm.trans found
  have mine : w'.flights.reads.get? task.key =
      some ⟨⟨w.flights.nextFlight+1,task.key⟩,label,w.flights.nextFlight+1⟩ :=
    (registered.reads task.key).trans (if_pos rfl)
  refine ⟨?_,?_,?_,?_⟩
  · intro key read found
    rw [registered.reads] at found
    rw [registered.flights,sent]
    split at found
    · rename_i same
      cases found
      refine ⟨same.symm,Nat.le_refl _,?_⟩
      cases before : w.sent.get? ⟨w.flights.nextFlight+1,task.key⟩ with
      | none => rfl
      | some delivery => exact absurd (channels.sent _ delivery before) (Nat.not_succ_le_self _)
    · obtain ⟨same,issued,unsent⟩ := channels.registered key read found
      exact ⟨same,Nat.le_succ_of_le issued,unsent⟩
  · intro channel delivery got
    rw [sent] at got
    rw [registered.flights]
    exact Nat.le_succ_of_le (channels.sent channel delivery got)
  · intro id' task' channel stored waits
    rw [tasks,IndexMap.get?_insert] at stored
    split at stored
    · cases stored
      cases awaits channel waits
      exact ⟨rfl,.inr ⟨_,mine,rfl⟩⟩
    · obtain ⟨key,heard | ⟨read,found,tx⟩⟩ := channels.awaited id' task' channel stored waits
      · exact ⟨key,.inl (sent ▸ heard)⟩
      · exact ⟨key,.inr ⟨read,keeps _ read found,tx⟩⟩
  · intro id' task' guard' channel alive waits read found owner
    obtain ⟨stored,guards⟩ := alive
    rw [tasks,IndexMap.get?_insert] at stored
    split at stored
    · cases stored
      cases awaits channel waits
      cases Option.some.inj (mine.symm.trans found)
      rfl
    · rw [registered.reads] at found
      split at found
      · cases found
        exact absurd owner.symm (valid.fresh id' task' guard' ⟨stored,guards⟩)
      · exact channels.own id' task' guard' channel ⟨stored,guards⟩ waits read found owner

theorem place_channels (channels : Channels w) (valid : Ownership w) (id : TaskId) (task : Task) :
    Channels (w.place id task) := by
  rcases place_spec w.flights task.key task.label task.mergeable with ⟨read,present,placed⟩ |
    ⟨absent,f',registered,queued | alone⟩
  · unfold World.place
    rw [placed]
    obtain ⟨same,_,_⟩ := channels.registered task.key read present
    refine ⟨channels.registered,channels.sent,?_,?_⟩
    · intro id' task' channel stored waits
      change (w.tasks.insert id _).get? id' = some task' at stored
      rw [IndexMap.get?_insert] at stored
      split at stored
      · cases stored
        cases waits
        refine ⟨same,.inr ⟨read,?_,rfl⟩⟩
        rw [same]
        exact present
      · exact channels.awaited id' task' channel stored waits
    · intro id' task' guard' channel alive waits
      obtain ⟨stored,guards⟩ := alive
      change (w.tasks.insert id _).get? id' = some task' at stored
      rw [IndexMap.get?_insert] at stored
      split at stored
      · cases stored
        cases guards
      · exact channels.own id' task' guard' channel ⟨stored,guards⟩ waits
  · obtain ⟨mergeable,_,placed,_,_⟩ := queued
    unfold World.place
    rw [placed]
    simp only [mergeable,if_true]
    exact channels.register valid registered absent rfl rfl fun channel waits => by cases waits; rfl
  · obtain ⟨_,placed,_⟩ := alone
    unfold World.place
    rw [placed]
    refine channels.register valid registered absent rfl rfl fun channel waits => ?_
    split at waits <;> cases waits
    rfl

end Lucida.Store.ChunkCache
