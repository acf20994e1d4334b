import HomeKeyHousehold.Library.Saver
import HomeKeyHousehold.BackupService
import HomeKeyHousehold.BackupStorage

/-!
# Backups that overlap

A copy is in the memory of the store as soon as it was fetched, and in its file once a
write got to it.  Home Assistant's `Store` stands here as any store of documents that keeps
its promise: the document it was given last is written whole, one write at a time, and a
write that fails is only logged.  Backups of several entries overlap, writes fail, and Home
Assistant is restarted at any moment; the store still is what additions one after the other
make of it.  A copy that is missing from them was added too late to be written before a
restart, had its write fail, or is without a node id.
-/

namespace HomeKeyHousehold

open Library

/-- A session that is over: how many additions came before it, and what its storage did. -/
structure StoreSession where
  before : Nat
  attempts : List WriteAttempt
  returned : List Nat

namespace StoreSession

/-- The call of an addition has returned. -/
def Returned (session : StoreSession) (number : Nat) : Prop :=
  ∃ call ∈ session.returned, number = session.before + call

/-- The write of an addition failed, and no later one succeeded in its session. -/
def Lost (session : StoreSession) (number : Nat) : Prop :=
  ∃ call, 0 < call ∧ number = session.before + call ∧ DocumentStore.Lost session.attempts call

end StoreSession

/-- The memory of the store since the last start, and the storage with the calls of
`async_save`.  Additions are numbered from 1 on, over all sessions. -/
structure BackupSaves (storage : DocumentStore (Option Dict)) where
  keep : Nat
  backups : List StoredBackup
  disk : storage.State
  /-- How many additions there were before the last start, and how many there are now. -/
  opened : Nat := 0
  saved : Nat := opened
  past : List StoreSession := []

/-- A copy was fetched and is added, the storage goes on, or Home Assistant is restarted. -/
inductive SaveEvent (storage : DocumentStore (Option Dict)) where
  | backUp (runtimes : Keyed Runtime.entryId) (entryId : String) (explicit : Bool)
      (includeCredentials : Option Bool) (world : BackupWorld)
  | advance (progress : storage.Progress)
  | restart

/-- The copy a backup adds. -/
def SaveEvent.copy {storage : DocumentStore (Option Dict)} (sha256 : Sha256) :
    SaveEvent storage → Option StoredBackup
  | .backUp runtimes entryId explicit includeCredentials world =>
      (asyncBackUpEntry sha256 runtimes { } entryId explicit includeCredentials world).stored
  | .advance _ | .restart => none

namespace BackupSaves

section

variable {storage : DocumentStore (Option Dict)}

/-- The store, with what is in its file now. -/
def store (state : BackupSaves storage) : BackupStore :=
  ⟨state.keep, state.backups, storage.file state.disk⟩

/-- A store that was loaded from a file. -/
def start (storage : DocumentStore (Option Dict)) (loaded : BackupStore) : BackupSaves storage :=
  { keep := loaded.keep
    backups := loaded.backups
    disk := storage.opened loaded.saved }

/-- What `asyncAdd` leaves in memory, and the document it hands over. -/
def backUp (state : BackupSaves storage) (added : BackupStore) : BackupSaves storage :=
  { state with
    backups := added.backups
    disk := storage.save state.disk added.saved
    saved := state.saved + 1 }

/-- The session since the last start. -/
def session (state : BackupSaves storage) : StoreSession :=
  ⟨state.opened, storage.attempts state.disk, storage.returned state.disk⟩

/-- A new store is loaded from the file. -/
def restart (state : BackupSaves storage) : BackupSaves storage :=
  { keep := state.keep
    backups := state.store.asyncLoad.backups
    disk := storage.opened (storage.file state.disk)
    opened := state.saved
    past := state.past ++ [state.session] }

def step (sha256 : Sha256) (state : BackupSaves storage) : SaveEvent storage → BackupSaves storage
  | .backUp runtimes entryId explicit includeCredentials world =>
      let backedUp := asyncBackUpEntry sha256 runtimes state.store entryId explicit
        includeCredentials world
      if backedUp.stored.isSome then state.backUp backedUp.store else state
  | .advance progress => { state with disk := storage.advance state.disk progress }
  | .restart => state.restart

/-- The copies that were added, with their numbers. -/
def additions (sha256 : Sha256) (events : List (SaveEvent storage)) :
    List (StoredBackup × Nat) :=
  (events.filterMap (SaveEvent.copy sha256)).zipIdx 1

@[simp]
theorem opened_backUp (state : BackupSaves storage) (added : BackupStore) :
    (state.backUp added).opened = state.opened := rfl

@[simp]
theorem saved_backUp (state : BackupSaves storage) (added : BackupStore) :
    (state.backUp added).saved = state.saved + 1 := rfl

@[simp]
theorem opened_restart (state : BackupSaves storage) : state.restart.opened = state.saved := rfl

@[simp]
theorem attempts_session (state : BackupSaves storage) :
    state.session.attempts = storage.attempts state.disk := rfl

/-- No call is in progress, and no write failed without one that succeeded after it. -/
structure Idle (state : BackupSaves storage) : Prop where
  finished : ∀ number, state.opened < number → number ≤ state.saved →
    state.session.Returned number
  unlost : ∀ number, ¬state.session.Lost number

end

/-- A copy that has a node id. -/
def isNamed (backup : StoredBackup) : Bool := backup.nodeId ≠ ""

/-- The store that has only some copies added, one after the other. -/
def storeOf (loaded : BackupStore) (kept : List (StoredBackup × Nat)) : BackupStore :=
  run BackupStore.asyncAdd loaded (kept.map Prod.fst)

/-! ## One addition after the other -/

variable {storage : DocumentStore (Option Dict)} {sha256 : Sha256} {state : BackupSaves storage}
variable {loaded : BackupStore} {kept added : List (StoredBackup × Nat)}

theorem storeOf_concat (addition : StoredBackup × Nat) :
    storeOf loaded (kept ++ [addition]) = (storeOf loaded kept).asyncAdd addition.1 := by
  rw [storeOf, List.map_append, List.map_singleton, run_concat, ← storeOf]

@[simp]
theorem keep_storeOf : (storeOf loaded kept).keep = loaded.keep := by
  induction kept using List.reverseRecOn with
  | nil => rfl
  | append_singleton earlier addition ih => rw [storeOf_concat, BackupStore.keep_asyncAdd, ih]

theorem backups_storeOf :
    (storeOf loaded kept).backups =
      (kept.map Prod.fst).foldl (retain StoredBackup.nodeId loaded.keep) loaded.backups := by
  induction kept using List.reverseRecOn with
  | nil => rfl
  | append_singleton earlier addition ih =>
      rw [storeOf_concat, BackupStore.backups_asyncAdd, keep_storeOf, ih, List.map_append,
        List.foldl_append, List.map_singleton, List.foldl_cons, List.foldl_nil]

/-- The copies with a node id are those of the additions with one. -/
theorem filter_backups_storeOf (named : ∀ backup ∈ loaded.backups, isNamed backup = true) :
    (storeOf loaded kept).backups.filter isNamed =
      (storeOf loaded (kept.filter fun addition => isNamed addition.1)).backups := by
  have windows := filter_foldl_retain StoredBackup.nodeId loaded.keep (fun nodeId => nodeId ≠ "")
    loaded.backups (kept.map Prod.fst)
  rw [backups_storeOf, backups_storeOf]
  refine windows.trans ?_
  congr 1
  · exact List.filter_eq_self.mpr named
  · rw [List.filter_map]
    rfl

/-! ## Steps -/

/-- A backup adds what its runtime produces. -/
theorem copy_of_produces {runtimes : Keyed Runtime.entryId} {runtime : Runtime}
    {entryId : String} {explicit : Bool} {included : Option Bool} {world : BackupWorld}
    {copy : Copy} (running : runtimes.get? entryId = some runtime)
    (produces : runtime.Produces sha256 included world copy) :
    @SaveEvent.copy storage sha256 (.backUp runtimes entryId explicit included world) =
      some copy.record := by
  rw [SaveEvent.copy, asyncBackUpEntry_of_fetched { } explicit running produces.configured
    produces.fetched]

/-- A copy that is added has a blob. -/
theorem SaveEvent.copy_filled {event : SaveEvent storage} {copy : StoredBackup}
    (copied : event.copy sha256 = some copy) : copy.blob ≠ "" := by
  cases event with
  | backUp runtimes entryId explicit includeCredentials world =>
      rcases asyncBackUpEntry_cases sha256 runtimes { } entryId explicit includeCredentials world
        with ⟨runtime, backup, running, configured, fetched⟩ | ⟨error, failed⟩
      · rw [SaveEvent.copy, asyncBackUpEntry_of_fetched { } explicit running configured fetched]
          at copied
        cases copied
        obtain ⟨-, -, -, -, -, -, filled⟩ := asyncFetchBackup_ok fetched
        exact filled
      · rw [SaveEvent.copy, failed] at copied
        cases copied
  | advance _ | restart => cases copied

/-- What a backup adds does not depend on the store. -/
theorem step_backUp (runtimes : Keyed Runtime.entryId) (entryId : String) (explicit : Bool)
    (includeCredentials : Option Bool) (world : BackupWorld) :
    step sha256 state (.backUp runtimes entryId explicit includeCredentials world) =
      ((@SaveEvent.copy storage sha256
        (.backUp runtimes entryId explicit includeCredentials world)).map fun copy =>
          state.backUp (state.store.asyncAdd copy)).getD state := by
  have attempted := @asyncBackUpEntry_eq_attempt sha256 runtimes explicit includeCredentials
    (fun _ => world) state.store entryId
  have chosen (found : Option StoredBackup) :
      (if found.isSome then state.backUp ((found.map state.store.asyncAdd).getD state.store)
        else state) =
        (found.map fun copy => state.backUp (state.store.asyncAdd copy)).getD state := by
    cases found with
    | none => rfl
    | some copy => rfl
  rw [step, attempted, SaveEvent.copy]
  exact chosen _

/-- A backup that yields a copy adds it. -/
theorem step_of_copy {event : SaveEvent storage} {copy : StoredBackup}
    (copied : event.copy sha256 = some copy) :
    step sha256 state event = state.backUp (state.store.asyncAdd copy) := by
  cases event with
  | backUp runtimes entryId explicit includeCredentials world =>
      rw [step_backUp, copied, Option.map_some, Option.getD_some]
  | advance _ | restart => cases copied

theorem run_advance (progress : List storage.Progress) :
    run (step sha256) state (progress.map .advance) =
      { state with disk := progress.foldl storage.advance state.disk } := by
  induction progress generalizing state with
  | nil => rfl
  | cons first rest ih => exact ih

/-! ## What the store amounts to -/

/-- What a document with a number is read as: the copies with a node id, of those added up
to that number. -/
def Reads (loaded : BackupStore) (kept : List (StoredBackup × Nat)) (number : Nat)
    (document : Option Dict) : Prop :=
  (BackupStore.recordsOf document).filterMap StoredBackup.fromDict =
    (storeOf loaded (kept.filter fun addition => addition.2 ≤ number)).backups.filter isNamed

/-- A store that holds what additions one after the other make of it, and lost none but
by a restart.  Its storage was opened with a document, and has gone through some events
since. -/
structure Accounts (loaded : BackupStore) (added kept : List (StoredBackup × Nat))
    (first : Option Dict) (handled : List storage.Event) (state : BackupSaves storage) :
    Prop where
  keep_eq : state.keep = loaded.keep
  sublist : kept.Sublist added
  backups_eq : state.backups = (storeOf loaded kept).backups
  filled : ∀ backup ∈ state.backups, backup.blob ≠ ""
  counted : state.saved = added.length
  numbers : ∀ addition ∈ added, addition.2 ≤ state.saved
  since : ∀ addition ∈ added, state.opened < addition.2 → addition ∈ kept
  disk : state.disk = storage.after first handled
  handed : state.saved = state.opened + (DocumentStore.documents handled).length
  reads : ∀ call document, (first :: DocumentStore.documents handled)[call]? = some document →
    Reads loaded kept (state.opened + call) document
  past : ∀ session ∈ state.past, ∀ number, session.Returned number → number ≤ state.opened
  accounted : ∀ addition ∈ added, isNamed addition.1 = true → ∀ session ∈ state.past,
    session.Returned addition.2 → addition ∈ kept ∨ session.Lost addition.2

variable {first : Option Dict} {handled : List storage.Event}

theorem filter_le_of_forall {number : Nat}
    (bounded : ∀ addition ∈ kept, addition.2 ≤ number) :
    (kept.filter fun addition => addition.2 ≤ number) = kept :=
  List.filter_eq_self.mpr fun addition member => decide_eq_true (bounded addition member)

/-- A storage that was just opened has one document. -/
theorem reads_of_opened {number : Nat} (reads : Reads loaded kept number first) :
    ∀ call document,
      (first :: DocumentStore.documents ([] : List storage.Event))[call]? = some document →
        Reads loaded kept (number + call) document := by
  intro call document found
  rw [DocumentStore.documents, List.filterMap_nil, List.getElem?_singleton] at found
  obtain ⟨rfl, same⟩ := Option.ite_none_right_eq_some.mp found
  cases same
  exact reads

/-- A loaded store holds what its file is read as. -/
theorem accounts_start (file : BackupStore) :
    Accounts file.asyncLoad [] [] file.asyncLoad.saved [] (start storage file.asyncLoad) where
  keep_eq := rfl
  sublist := List.Sublist.refl _
  backups_eq := rfl
  filled := fun backup member => (file.allFiled_asyncLoad backup member).2
  counted := rfl
  numbers := by simp
  since := by simp
  disk := rfl
  handed := rfl
  reads := by
    have named : ∀ backup ∈ file.asyncLoad.backups, isNamed backup = true :=
      fun backup member => decide_eq_true (file.allFiled_asyncLoad backup member).1
    exact reads_of_opened (List.filter_eq_self.mpr named).symm
  past := by simp [start]
  accounted := by simp

namespace Accounts

theorem numbers_kept (accounts : Accounts loaded added kept first handled state) :
    ∀ addition ∈ kept, addition.2 ≤ state.saved :=
  fun addition member => accounts.numbers addition (accounts.sublist.subset member)

/-- An addition to the memory is one more addition. -/
theorem backups_asyncAdd (accounts : Accounts loaded added kept first handled state)
    (copy : StoredBackup) :
    (state.store.asyncAdd copy).backups =
      (storeOf loaded (kept ++ [(copy, state.saved + 1)])).backups := by
  rw [storeOf_concat, BackupStore.backups_asyncAdd, BackupStore.backups_asyncAdd, keep_storeOf,
    ← accounts.backups_eq, ← accounts.keep_eq]
  rfl

theorem filled_asyncAdd (accounts : Accounts loaded added kept first handled state)
    {copy : StoredBackup} (filled : copy.blob ≠ "") :
    ∀ backup ∈ (state.store.asyncAdd copy).backups, backup.blob ≠ "" := by
  intro backup member
  rw [BackupStore.backups_asyncAdd] at member
  rcases mem_retain member with held | rfl
  · exact accounts.filled backup held
  · exact filled

/-- Only the document that is handed over with a copy holds it. -/
theorem reads_save (accounts : Accounts loaded added kept first handled state)
    {copy : StoredBackup} (filled : copy.blob ≠ "") :
    ∀ call document, (first :: DocumentStore.documents
        (handled ++ [.save (state.store.asyncAdd copy).saved]))[call]? = some document →
      Reads loaded (kept ++ [(copy, state.saved + 1)]) (state.opened + call) document := by
  have handed := accounts.handed
  intro call document found
  rw [DocumentStore.documents_concat, ← List.cons_append] at found
  rcases Nat.lt_or_ge call (first :: DocumentStore.documents handled).length with early | late
  · rw [List.getElem?_append_left early] at found
    have below : ¬(state.saved + 1 ≤ state.opened + call) := by
      rw [List.length_cons] at early
      omega
    rw [Reads, List.filter_append, List.filter_cons_of_neg (by simpa using below),
      List.filter_nil, List.append_nil]
    exact accounts.reads call document found
  · rw [List.getElem?_append_right late, DocumentStore.Event.document, Option.toList_some,
      List.getElem?_singleton] at found
    obtain ⟨last, same⟩ := Option.ite_none_right_eq_some.mp found
    cases same
    have whole : ∀ addition ∈ kept ++ [(copy, state.saved + 1)],
        addition.2 ≤ state.opened + call := by
      rw [List.length_cons] at last late
      intro addition member
      rcases List.mem_append.mp member with earlier | new
      · exact Nat.le_trans (accounts.numbers_kept addition earlier) (by omega)
      · rw [List.mem_singleton.mp new]
        dsimp only
        omega
    rw [Reads, filter_le_of_forall whole, ← accounts.backups_asyncAdd]
    exact BackupStore.filterMap_recordsOf_document _ (accounts.filled_asyncAdd filled)

/-- A copy that is added is in memory, and is what the next document adds. -/
theorem backUp (accounts : Accounts loaded added kept first handled state)
    {copy : StoredBackup} (filled : copy.blob ≠ "") :
    Accounts loaded (added ++ [(copy, state.saved + 1)]) (kept ++ [(copy, state.saved + 1)]) first
      (handled ++ [.save (state.store.asyncAdd copy).saved])
      (state.backUp (state.store.asyncAdd copy)) := by
  refine
    { keep_eq := accounts.keep_eq
      sublist := accounts.sublist.append_right _
      backups_eq := accounts.backups_asyncAdd copy
      filled := accounts.filled_asyncAdd filled
      counted := by rw [List.length_append, ← accounts.counted]; rfl
      numbers := ?_
      since := ?_
      disk := ?_
      handed := ?_
      reads := accounts.reads_save filled
      past := accounts.past
      accounted := ?_ }
  · intro addition member
    rcases List.mem_append.mp member with earlier | last
    · exact Nat.le_succ_of_le (accounts.numbers addition earlier)
    · rw [List.mem_singleton.mp last]
      exact Nat.le_refl _
  · intro addition member after
    rcases List.mem_append.mp member with earlier | last
    · exact List.mem_append_left _ (accounts.since addition earlier after)
    · exact List.mem_append_right _ last
  · rw [DocumentStore.after, run_concat, ← DocumentStore.after, ← accounts.disk]
    rfl
  · rw [DocumentStore.documents_concat, List.length_append, ← Nat.add_assoc, opened_backUp,
      ← accounts.handed]
    rfl
  · intro addition member named session ended returned
    rcases List.mem_append.mp member with earlier | last
    · rcases accounts.accounted addition earlier named session ended returned with inside | lost
      · exact Or.inl (List.mem_append_left _ inside)
      · exact Or.inr lost
    · exact Or.inl (List.mem_append_right _ last)

/-- What the storage does changes neither the memory nor what was added. -/
theorem advance (accounts : Accounts loaded added kept first handled state)
    (progress : storage.Progress) :
    Accounts loaded added kept first (handled ++ [.advance progress])
      { state with disk := storage.advance state.disk progress } := by
  have documents : DocumentStore.documents (handled ++ [.advance progress]) =
      DocumentStore.documents handled := by
    rw [DocumentStore.documents_concat]
    exact List.append_nil _
  exact
    { accounts with
      disk := by
        rw [DocumentStore.after, run_concat, ← DocumentStore.after, ← accounts.disk]
        rfl
      handed := documents ▸ accounts.handed
      reads := documents ▸ accounts.reads }

/-- A call of the session that has returned handed over a document that was written, or was
lost. -/
theorem settled (documented : storage.Documented)
    (accounts : Accounts loaded added kept first handled state) {number : Nat}
    (returned : state.session.Returned number) :
    state.opened < number ∧ number ≤ state.saved ∧
      (number ≤ state.opened + DocumentStore.written (storage.attempts state.disk) ∨
        state.session.Lost number) := by
  obtain ⟨call, called, rfl⟩ := returned
  have returnedNow : call ∈ storage.returned (storage.after first handled) :=
    accounts.disk ▸ called
  obtain ⟨positive, attempt, tried, takes⟩ := documented.tried first handled call returnedNow
  have given := documented.given first handled attempt tried
  have handed := accounts.handed
  have outcome := documented.written_or_lost returnedNow
  rw [← accounts.disk] at outcome
  change state.opened < state.opened + call ∧ state.opened + call ≤ state.saved ∧
    (state.opened + call ≤ _ ∨ _)
  refine ⟨by omega, by omega, ?_⟩
  rcases outcome with written | lost
  · exact Or.inl (Nat.add_le_add_left written _)
  · exact Or.inr ⟨call, positive, rfl, lost⟩

/-- A restart gives up the additions whose documents were not written, and the copies
without a node id. -/
theorem restart (documented : storage.Documented)
    (named : ∀ backup ∈ loaded.backups, isNamed backup = true)
    (accounts : Accounts loaded added kept first handled state) :
    ∃ fewer file, Accounts loaded added fewer file [] state.restart := by
  let held := state.opened + DocumentStore.written (storage.attempts state.disk)
  let fewer := (kept.filter fun addition => addition.2 ≤ held).filter fun addition =>
    isNamed addition.1
  have within : fewer.Sublist kept := List.filter_sublist.trans List.filter_sublist
  have numbers : ∀ addition ∈ fewer, addition.2 ≤ state.saved :=
    fun addition member => accounts.numbers_kept addition (within.subset member)
  have inFile : Reads loaded kept held (storage.file state.disk) := by
    refine accounts.reads _ _ ?_
    rw [accounts.disk]
    exact documented.whole first handled
  have backups : state.restart.backups = (storeOf loaded fewer).backups :=
    inFile.trans (filter_backups_storeOf named)
  have filed := state.store.allFiled_asyncLoad
  have kept_of_written {addition : StoredBackup × Nat} (inside : addition ∈ kept)
      (bounded : addition.2 ≤ held) (isNamed : isNamed addition.1 = true) : addition ∈ fewer :=
    List.mem_filter.mpr ⟨List.mem_filter.mpr ⟨inside, decide_eq_true bounded⟩, isNamed⟩
  refine ⟨fewer, storage.file state.disk,
    { keep_eq := accounts.keep_eq
      sublist := within.trans accounts.sublist
      backups_eq := backups
      filled := fun backup member => (filed backup member).2
      counted := accounts.counted
      numbers := accounts.numbers
      since := fun addition member after =>
        absurd (accounts.numbers addition member) (Nat.not_le_of_lt after)
      disk := rfl
      handed := rfl
      reads := reads_of_opened ?_
      past := ?_
      accounted := ?_ }⟩
  · rw [Reads, opened_restart, filter_le_of_forall numbers, ← backups]
    exact (List.filter_eq_self.mpr fun backup member =>
      decide_eq_true (filed backup member).1).symm
  · intro session member number returned
    rcases List.mem_append.mp member with before | ended
    · exact Nat.le_trans (accounts.past session before number returned)
        (Nat.le.intro accounts.handed.symm)
    · rw [List.mem_singleton.mp ended] at returned
      exact (accounts.settled documented returned).2.1
  · intro addition member isNamed session ended returned
    rcases List.mem_append.mp ended with before | now
    · rcases accounts.accounted addition member isNamed session before returned with
        inside | lost
      · have early := accounts.past session before _ returned
        exact Or.inl (kept_of_written inside (Nat.le_trans early (Nat.le_add_right _ _)) isNamed)
      · exact Or.inr lost
    · rw [List.mem_singleton.mp now] at returned ⊢
      obtain ⟨late, -, written | lost⟩ := accounts.settled documented returned
      · exact Or.inl (kept_of_written (accounts.since addition member late) written isNamed)
      · exact Or.inr lost

end Accounts

/-! ## Runs -/

theorem additions_concat (events : List (SaveEvent storage)) (last : SaveEvent storage) :
    additions sha256 (events ++ [last]) =
      additions sha256 events ++
        ((last.copy sha256).map fun copy =>
          (copy, (additions sha256 events).length + 1)).toList := by
  unfold additions
  rw [List.filterMap_append, List.zipIdx_append, List.length_zipIdx, Nat.add_comm]
  cases copied : last.copy sha256 with
  | none => rw [List.filterMap_cons_none copied]; rfl
  | some copy => rw [List.filterMap_cons_some copied]; rfl

/-- One event keeps the account. -/
theorem exists_accounts_step (documented : storage.Documented)
    (named : ∀ backup ∈ loaded.backups, isNamed backup = true)
    (accounts : Accounts loaded added kept first handled state) (event : SaveEvent storage) :
    ∃ others file since, Accounts loaded
      (added ++ ((event.copy sha256).map fun copy => (copy, added.length + 1)).toList)
      others file since (state.step sha256 event) := by
  cases event with
  | backUp runtimes entryId explicit includeCredentials world =>
      rw [step_backUp]
      cases copied : @SaveEvent.copy storage sha256
          (.backUp runtimes entryId explicit includeCredentials world) with
      | none => exact ⟨kept, first, handled, (List.append_nil added).symm ▸ accounts⟩
      | some copy =>
          have next := accounts.backUp (SaveEvent.copy_filled copied)
          rw [accounts.counted] at next
          exact ⟨_, _, _, next⟩
  | advance progress =>
      exact ⟨kept, first, _, (List.append_nil added).symm ▸ accounts.advance progress⟩
  | restart =>
      rw [show @SaveEvent.copy storage sha256 .restart = none from rfl]
      obtain ⟨fewer, file, next⟩ := accounts.restart documented named
      exact ⟨fewer, file, [], (List.append_nil added).symm ▸ next⟩

theorem exists_accounts_run (documented : storage.Documented) (file : BackupStore)
    (events : List (SaveEvent storage)) :
    ∃ kept first handled, Accounts file.asyncLoad (additions sha256 events) kept first handled
      (run (step sha256) (start storage file.asyncLoad) events) := by
  have named : ∀ backup ∈ file.asyncLoad.backups, isNamed backup = true :=
    fun backup member => decide_eq_true (file.allFiled_asyncLoad backup member).1
  induction events using List.reverseRecOn with
  | nil => exact ⟨[], _, [], accounts_start file⟩
  | append_singleton earlier last ih =>
      obtain ⟨kept, first, handled, accounts⟩ := ih
      rw [run_concat, additions_concat]
      exact exists_accounts_step documented named accounts last

theorem Accounts.run_advance (accounts : Accounts loaded added kept first handled state)
    (progress : List storage.Progress) :
    Accounts loaded added kept first (handled ++ progress.map .advance)
      (run (step sha256) state (progress.map .advance)) := by
  induction progress generalizing state handled with
  | nil => exact (List.append_nil handled).symm ▸ accounts
  | cons earliest rest ih =>
      rw [List.map_cons, List.map_cons, List.append_cons]
      exact ih (accounts.advance earliest)

/-- At rest the file holds the document that was handed over last. -/
theorem Accounts.written_of_idle (documented : storage.Documented)
    (accounts : Accounts loaded added kept first handled state) (idle : state.Idle) :
    DocumentStore.written (storage.attempts state.disk) =
      (DocumentStore.documents handled).length := by
  have handed := accounts.handed
  rw [accounts.disk]
  refine documented.written_eq (fun call positive bounded => ?_) fun call positive lost => ?_
  · obtain ⟨other, called, same⟩ := idle.finished (state.opened + call) (by omega) (by omega)
    have alike : call = other := Nat.add_left_cancel same
    rw [alike, ← accounts.disk]
    exact called
  · exact idle.unlost _ ⟨call, positive, rfl, by rwa [attempts_session, accounts.disk]⟩

/-- A restart at rest loses nothing but the copies without a node id. -/
theorem Accounts.restart_of_idle (documented : storage.Documented)
    (accounts : Accounts loaded added kept first handled state) (idle : state.Idle) :
    state.restart.backups = state.backups.filter isNamed := by
  have inFile := accounts.reads _ _ (documented.whole first handled)
  rw [← accounts.disk, accounts.written_of_idle documented idle, ← accounts.handed, Reads,
    filter_le_of_forall accounts.numbers_kept, ← accounts.backups_eq] at inFile
  exact inFile

/-- A backup after which the storage comes to rest leaves the store as `asyncBackUpEntry`
does. -/
theorem Accounts.store_at_rest (documented : storage.Documented)
    (accounts : Accounts loaded added kept first handled state)
    {runtimes : Keyed Runtime.entryId} {entryId : String} {explicit : Bool}
    {includeCredentials : Option Bool} {world : BackupWorld} {copy : StoredBackup}
    (copied : @SaveEvent.copy storage sha256
      (.backUp runtimes entryId explicit includeCredentials world) = some copy)
    (progress : List storage.Progress)
    (idle : (run (step sha256) state
      (.backUp runtimes entryId explicit includeCredentials world ::
        progress.map .advance)).Idle) :
    (run (step sha256) state
        (.backUp runtimes entryId explicit includeCredentials world ::
          progress.map .advance)).store =
      (asyncBackUpEntry sha256 runtimes state.store entryId explicit includeCredentials
        world).store := by
  have attempted := @asyncBackUpEntry_eq_attempt sha256 runtimes explicit includeCredentials
    (fun _ => world) state.store entryId
  have stored : (attempt sha256 runtimes explicit includeCredentials (fun _ => world)
      entryId).stored = some copy := copied
  rw [run_cons, step_of_copy copied] at idle ⊢
  rw [attempted, stored]
  have rested := @Accounts.run_advance _ sha256 _ _ _ _ _ _
    (accounts.backUp (SaveEvent.copy_filled copied)) progress
  have file := documented.whole first
    (handled ++ [.save (state.store.asyncAdd copy).saved] ++ progress.map .advance)
  rw [← rested.disk, rested.written_of_idle documented idle] at file
  rw [DocumentStore.documents_append, DocumentStore.documents_advances, List.append_nil,
    DocumentStore.documents_concat, DocumentStore.Event.document, Option.toList_some,
    List.length_append, List.length_singleton, List.getElem?_cons_succ,
    List.getElem?_concat_length, BackupSaves.run_advance] at file
  rw [BackupSaves.run_advance]
  change BackupStore.mk state.keep (state.store.asyncAdd copy).backups _ =
    state.store.asyncAdd copy
  exact congrArg (BackupStore.mk state.keep (state.store.asyncAdd copy).backups)
    (Option.some.inj file).symm

/-- However backups overlap, writes fail and Home Assistant is restarted, the store is what
some of the additions make of what was loaded, one after the other.  Of those it has every
one since the last start, and every one whose call returned, but for copies without a node
id and for those whose own write failed without one after it that succeeded before the
restart; and a restart at rest keeps every copy with a node id. -/
theorem additions_survive (documented : storage.Documented) (sha256 : Sha256) (keep : Nat)
    (content : Option Json) (events : List (SaveEvent storage)) :
    let loaded := (BackupStore.ofFile keep content).asyncLoad
    let state := run (step sha256) (start storage loaded) events
    ∃ kept : List (StoredBackup × Nat), kept.Sublist (additions sha256 events) ∧
      state.backups = (run BackupStore.asyncAdd loaded (kept.map Prod.fst)).backups ∧
      (∀ addition ∈ additions sha256 events, state.opened < addition.2 → addition ∈ kept) ∧
      (∀ addition ∈ additions sha256 events, addition.1.nodeId ≠ "" →
        ∀ session ∈ state.past, session.Returned addition.2 →
          addition ∈ kept ∨ session.Lost addition.2) ∧
      (state.Idle → state.restart.backups = state.backups.filter isNamed) := by
  intro loaded state
  obtain ⟨kept, first, handled, accounts⟩ :=
    @exists_accounts_run storage sha256 documented (BackupStore.ofFile keep content) events
  exact ⟨kept, accounts.sublist, accounts.backups_eq, accounts.since,
    fun addition member named => accounts.accounted addition member (decide_eq_true named),
    accounts.restart_of_idle documented⟩

/-! ### A write that fails after one that did not -/

def doorWorld (householdId nodeId : String) : BackupWorld :=
  sampleBackup (sampleConnect householdId nodeId) ⟨nodeId, householdId⟩

/-- A door is backed up on behalf of an entry that is set up over MQTT. -/
def doorBackUp (entryId householdId nodeId : String) : SaveEvent (Saver.store (Option Dict)) :=
  .backUp (.put .empty (mqttRuntime entryId householdId)) entryId true none
    (doorWorld householdId nodeId)

theorem exists_copy_doorBackUp (entryId : String) {householdId nodeId : String}
    (joined : householdId ≠ "") (named : nodeId ≠ "") :
    ∃ copy, (doorBackUp entryId householdId nodeId).copy sampleSha256 = some copy ∧
      copy.nodeId = nodeId := by
  obtain ⟨probe, connected, -, -, node⟩ :=
    @connect_mqttRuntime entryId householdId householdId nodeId joined named
  have yields : (mqttRuntime entryId householdId).Yields none (doorWorld householdId nodeId)
      probe.client := ⟨rfl, sampleBackup_handsOver _ _ _ _⟩
  obtain ⟨copy, produces⟩ := @Runtime.exists_produces_of_mqtt sampleSha256
    (mqttRuntime entryId householdId) none (doorWorld householdId nodeId) _ _ rfl connected yields
  obtain ⟨other, again, -, -, filed⟩ := produces.of_mqtt rfl
  cases Except.ok.inj (connected.symm.trans again)
  exact ⟨copy.record, copy_of_produces (mqttRuntime_running .empty entryId householdId) produces,
    filed.trans node⟩

/-- The second copy is fetched while the first is written, its own write fails, and Home
Assistant is restarted. -/
def overlapping : List (SaveEvent (Saver.store (Option Dict))) :=
  [doorBackUp "home" "HOME001" "GATE-001", .advance (.turn 1),
    doorBackUp "barn" "HOME002" "BARN-002", .advance (.finish true), .advance (.turn 2),
    .advance (.finish false), .restart]

def emptyStore : BackupStore := (BackupStore.ofFile backupKeep none).asyncLoad

theorem past_overlapping :
    (run (step sampleSha256) (start (Saver.store (Option Dict)) emptyStore) overlapping).past =
      [⟨0, [⟨1, true⟩, ⟨2, false⟩], [1, 2]⟩] := by
  obtain ⟨gate, first, -⟩ :=
    @exists_copy_doorBackUp "home" "HOME001" "GATE-001" (by decide) (by decide)
  obtain ⟨barn, second, -⟩ :=
    @exists_copy_doorBackUp "barn" "HOME002" "BARN-002" (by decide) (by decide)
  rw [overlapping, run_cons, step_of_copy first, run_cons, run_cons, step_of_copy second]
  rfl

/-- The copy that was written survives. -/
theorem overlapping_survive : ∃ (gate : StoredBackup) (kept : List (StoredBackup × Nat)),
    gate.nodeId = "GATE-001" ∧ (gate, 1) ∈ kept ∧
    kept.Sublist (additions sampleSha256 overlapping) ∧
    (run (step sampleSha256) (start (Saver.store (Option Dict)) emptyStore)
      overlapping).backups = (run BackupStore.asyncAdd emptyStore (kept.map Prod.fst)).backups := by
  obtain ⟨gate, first, node⟩ :=
    @exists_copy_doorBackUp "home" "HOME001" "GATE-001" (by decide) (by decide)
  obtain ⟨kept, within, backups, -, survives, -⟩ :=
    additions_survive (Saver.documented (Option Dict)) sampleSha256 backupKeep none overlapping
  have added : (gate, 1) ∈ additions sampleSha256 overlapping := by
    rw [additions, overlapping, List.filterMap_cons_some first, List.zipIdx_cons]
    exact List.mem_cons_self
  have named : gate.nodeId ≠ "" := by
    rw [node]
    decide
  refine ⟨gate, kept, node, ?_, within, backups⟩
  rcases survives (gate, 1) added named _ (past_overlapping ▸ List.mem_cons_self)
      ⟨1, List.mem_cons_self, rfl⟩ with inside | ⟨call, positive, number, lost⟩
  · exact inside
  · -- The write of number 1 succeeded.
    have failed := lost.failed ⟨1, true⟩ List.mem_cons_self
    have first : call = 1 := by
      change 1 = 0 + call at number
      omega
    exact absurd (failed (by rw [first])) (by decide)

end BackupSaves

end HomeKeyHousehold
