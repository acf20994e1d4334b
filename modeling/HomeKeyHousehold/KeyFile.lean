import Mathlib.Logic.Function.Basic
import HomeKeyHousehold.Library.Run
import HomeKeyHousehold.Credential

/-!
# The key file

All instances of the credential store share one file.  A load reads it, and a save
replaces it with the cache of the instance that saves.  A key therefore survives as
long as every instance that saves knows what the others have done before it, and the
save that was issued last is the last to land.
-/

namespace HomeKeyHousehold

open Library

namespace CommandKeyStore

/-! ## Instances and their calls -/

/-- One `CommandKeyStore`, with its `_cache` and `_loaded`. -/
structure Instance where
  cache : CommandKeyStore := Keyed.empty
  loaded : Bool := false

/-- Take stored households into a cache; the first that is refused ends the call. -/
def takeHouseholds (cache : CommandKeyStore) : Dict → CommandKeyStore × Bool
  | [] => (cache, true)
  | member :: rest =>
      match loadHousehold cache member with
      | .ok cache => takeHouseholds cache rest
      | .error _ => (cache, false)

/-- The rest of `async_load` once the file has been read. -/
def Instance.afterRead (owner : Instance) (document : Option Dict) : Instance :=
  let (cache, loaded) := takeHouseholds owner.cache (storedHouseholds document)
  { cache, loaded := loaded || owner.loaded }

/-- `async_remove`, with the document it leaves in the file, if it saves. -/
def asyncRemove (store : CommandKeyStore) (householdId : String) : CommandKeyStore × Option Dict :=
  match store.get householdId with
  | none => (store, none)
  | some _ =>
      let store : CommandKeyStore := store.erase householdId
      (store, some store.payload)

/-- A call of `async_load` that waits, with what it has read. -/
structure Loading where
  owner : Nat
  read : Option (Option Dict)

/-- The file, the instances that use it, their calls in progress, and for each household
the effect of the last call that was issued for it. -/
structure KeyFile where
  file : Option Dict
  instances : Nat → Instance
  loading : List Loading
  saving : List Dict
  issued : String → Option CommandCredential

/-- What happens: a call is issued, a load reads the file or goes on, a save lands. -/
inductive KeyFileEvent where
  | load (owner : Nat)
  | reads (index : Nat)
  | resumes (index : Nat)
  | set (owner : Nat) (householdId : String) (key : Bytes) (salt : Option String)
  | remove (owner : Nat) (householdId : String)
  | lands (index : Nat)

namespace KeyFile

/-- An instance goes on with another cache. -/
def withCache (state : KeyFile) (owner : Nat) (cache : CommandKeyStore) : KeyFile :=
  { state with
    instances := Function.update state.instances owner { state.instances owner with cache } }

def step (state : KeyFile) : KeyFileEvent → KeyFile
  | .load owner =>
      if (state.instances owner).loaded then state
      else { state with loading := state.loading ++ [⟨owner, none⟩] }
  | .reads index =>
      match state.loading[index]? with
      | some ⟨owner, none⟩ =>
          { state with loading := state.loading.set index ⟨owner, some state.file⟩ }
      | _ => state
  | .resumes index =>
      match state.loading[index]? with
      | some ⟨owner, some document⟩ =>
          { state with
            instances := Function.update state.instances owner
              ((state.instances owner).afterRead document)
            loading := state.loading.eraseIdx index }
      | _ => state
  | .set owner householdId key salt =>
      match (state.instances owner).cache.asyncSet householdId key salt with
      | .error _ => state
      | .ok (cache, document) =>
          { state.withCache owner cache with
            saving := state.saving ++ [document]
            issued := Function.update state.issued householdId
              (CommandCredential.make key salt).toOption }
  | .remove owner householdId =>
      let (cache, document) := (state.instances owner).cache.asyncRemove householdId
      { state.withCache owner cache with
        saving := state.saving ++ document.toList
        issued := Function.update state.issued householdId none }
  | .lands index =>
      match state.saving[index]? with
      | some document =>
          { state with file := some document, saving := state.saving.eraseIdx index }
      | none => state

/-- The credential a document holds for a household: what a new instance loads from it. -/
def held (document : Option Dict) (householdId : String) : Option CommandCredential :=
  match asyncLoad document with
  | .ok store => store.get householdId
  | .error _ => none

/-- A file that no instance has touched yet. -/
def start (file : Option Dict) : KeyFile :=
  { file, instances := fun _ => {}, loading := [], saving := [], issued := held file }

/-- What the file is to hold once the saves have landed that are under way. -/
def latest (state : KeyFile) : Option Dict := state.saving.getLast?.or state.file

/-- The file is to hold the effect of the last call for every household. -/
def Settles (state : KeyFile) : Prop :=
  ∀ householdId, held state.latest householdId = state.issued householdId

/-- An event that loses no effect.  An instance that saves knows of the last calls for all
the households it does not change, and the save issued last leaves none behind that holds
something else. -/
def Current (state : KeyFile) : KeyFileEvent → Prop
  | .load _ | .reads _ | .resumes _ => True
  | .set owner householdId key _ =>
      key = [] ∨ ∀ other, other ≠ householdId →
        (state.instances owner).cache.get other = state.issued other
  | .remove owner householdId =>
      if ((state.instances owner).cache.get householdId).isSome then
        ∀ other, other ≠ householdId →
          (state.instances owner).cache.get other = state.issued other
      else state.issued householdId = none
  | .lands index =>
      index + 1 = state.saving.length →
        ∀ document ∈ state.saving.dropLast.getLast?, ∀ householdId,
          held (some document) householdId = state.issued householdId

variable {state : KeyFile} {file : Option Dict} {owner index : Nat} {householdId : String}

/-! ## What a step does -/

@[simp]
theorem held_payload (store : CommandKeyStore) (householdId : String) :
    held (some store.payload) householdId = store.get householdId := by
  rw [held, asyncLoad_payload]

theorem get_put (store : CommandKeyStore) (stored : StoredCredential) (householdId : String) :
    CommandKeyStore.get (Keyed.put store stored) householdId =
      if householdId = stored.1 then some stored.2 else store.get householdId := by
  rw [CommandKeyStore.get, Keyed.get?_put]
  split <;> rfl

theorem get_erase (store : CommandKeyStore) (removed householdId : String) :
    CommandKeyStore.get (Keyed.erase store removed) householdId =
      if householdId = removed then none else store.get householdId := by
  rw [CommandKeyStore.get, Keyed.get?_erase]
  split <;> rfl

theorem latest_of_saved (state : KeyFile) (document : Dict) :
    latest { state with saving := state.saving ++ [document] } = some document := by
  rw [latest, List.getLast?_concat]
  rfl

/-- One household has a new effect; the cache that is saved has it for that household, and
is right altogether when it is right for the others. -/
theorem agrees_update_iff {saved cache : String → Option CommandCredential}
    {issued : String → Option CommandCredential} {effect : Option CommandCredential}
    (changed : saved householdId = effect)
    (kept : ∀ other, other ≠ householdId → saved other = cache other) :
    (∀ other, saved other = Function.update issued householdId effect other) ↔
      ∀ other, other ≠ householdId → cache other = issued other := by
  constructor
  · intro right other apart
    rw [← kept other apart, right other, Function.update_of_ne apart]
  · intro right other
    by_cases same : other = householdId
    · rw [same, changed, Function.update_self]
    · rw [kept other same, right other same, Function.update_of_ne same]

theorem settles_set_iff (holds : state.Settles) (key : Bytes) (salt : Option String) :
    (state.step (.set owner householdId key salt)).Settles ↔
      state.Current (.set owner householdId key salt) := by
  rw [step, asyncSet, Current]
  by_cases empty : key = []
  · rw [CommandCredential.make, dif_pos empty]
    exact iff_of_true holds (Or.inl empty)
  · rw [CommandCredential.make, dif_neg empty, or_iff_right empty]
    have saved := fun other => get_put (state.instances owner).cache
      (householdId, (⟨key, empty, salt⟩ : CommandCredential)) other
    change (∀ other, held (latest { state with saving := state.saving ++ [_] }) other = _) ↔ _
    simp only [latest_of_saved, held_payload]
    exact agrees_update_iff ((saved householdId).trans (if_pos rfl))
      fun other apart => (saved other).trans (if_neg apart)

theorem settles_remove_iff (holds : state.Settles) :
    (state.step (.remove owner householdId)).Settles ↔
      state.Current (.remove owner householdId) := by
  rw [step, asyncRemove, Current]
  cases known : (state.instances owner).cache.get householdId with
  | none =>
      rw [Option.isSome_none, if_neg Bool.false_ne_true]
      change (∀ other, held (latest { state with saving := state.saving ++ [] }) other =
        Function.update state.issued householdId none other) ↔ _
      rw [List.append_nil]
      constructor
      · intro right
        rw [← holds householdId]
        exact (right householdId).trans (Function.update_self _ _ _)
      · intro gone other
        by_cases same : other = householdId
        · rw [same, Function.update_self, ← gone]
          exact holds householdId
        · rw [Function.update_of_ne same]
          exact holds other
  | some credential =>
      rw [Option.isSome_some, if_pos rfl]
      have saved := fun other => get_erase (state.instances owner).cache householdId other
      change (∀ other, held (latest { state with saving := state.saving ++ [_] }) other = _) ↔ _
      simp only [latest_of_saved, held_payload]
      exact agrees_update_iff ((saved householdId).trans (if_pos rfl))
        fun other apart => (saved other).trans (if_neg apart)

/-- A save that is not the one issued last leaves that one to land. -/
theorem getLast?_eraseIdx_of_lt {saving : List Dict} (early : index + 1 < saving.length) :
    (saving.eraseIdx index).getLast? = saving.getLast? := by
  have ending : (saving.drop (index + 1)).getLast? = saving.getLast? := by
    rw [List.getLast?_drop, if_neg (by omega)]
  have filled : (saving.drop (index + 1)).getLast?.isSome = true := by
    rw [List.getLast?_isSome, Ne, List.drop_eq_nil_iff]
    omega
  rw [List.eraseIdx_eq_take_drop_succ, List.getLast?_append, ← ending]
  exact Option.or_of_isSome filled

theorem settles_lands_iff (holds : state.Settles) :
    (state.step (.lands index)).Settles ↔ state.Current (.lands index) := by
  rw [step, Current]
  cases found : state.saving[index]? with
  | none =>
      refine iff_of_true holds fun last => ?_
      have missing := List.getElem?_eq_none_iff.mp found
      omega
  | some document =>
      obtain ⟨inside, there⟩ := List.getElem?_eq_some_iff.mp found
      change (∀ other, held ((state.saving.eraseIdx index).getLast?.or (some document)) other =
        state.issued other) ↔ _
      by_cases last : index + 1 = state.saving.length
      · rw [List.eraseIdx_eq_dropLast last, forall_prop_of_true last]
        cases behind : state.saving.dropLast.getLast? with
        | none =>
            have ending : state.latest = some document := by
              rw [latest, List.getLast?_eq_getElem?, ← last, Nat.add_sub_cancel, found]
              rfl
            refine iff_of_true (fun other => ?_) (by simp)
            rw [Option.none_or, ← ending]
            exact holds other
        | some older => simp
      · have early : index + 1 < state.saving.length := by omega
        refine iff_of_true (fun other => ?_) fun same => absurd same last
        have ending : (state.saving.getLast?.or (some document)) = state.latest := by
          have filled : state.saving.getLast?.isSome = true := by
            rw [List.getLast?_isSome, Ne, ← List.length_eq_zero_iff]
            omega
          rw [latest, Option.or_of_isSome filled, Option.or_of_isSome filled]
        rw [getLast?_eraseIdx_of_lt early, ending]
        exact holds other

/-- An event keeps the file on the way to what it is to hold when it is a current one. -/
theorem settles_step_iff (holds : state.Settles) (event : KeyFileEvent) :
    (state.step event).Settles ↔ state.Current event := by
  cases event with
  | load owner =>
      refine iff_of_true ?_ trivial
      rw [step]
      split
      · exact holds
      · exact holds
  | reads index =>
      refine iff_of_true ?_ trivial
      rw [step]
      split
      · exact holds
      · exact holds
  | resumes index =>
      refine iff_of_true ?_ trivial
      rw [step]
      split
      · exact holds
      · exact holds
  | set owner householdId key salt => exact settles_set_iff holds key salt
  | remove owner householdId => exact settles_remove_iff holds
  | lands index => exact settles_lands_iff holds

/-! ## Whole runs -/

/-- The saves under way land as they were issued. -/
def landAll (state : KeyFile) : KeyFile :=
  run step state (List.replicate state.saving.length (.lands 0))

theorem landAll_eq (state : KeyFile) :
    state.landAll = { state with file := state.latest, saving := [] } := by
  obtain ⟨file, instances, loading, saving, issued⟩ := state
  rw [landAll]
  induction saving generalizing file with
  | nil => rfl
  | cons document rest ih =>
      rw [List.length_cons, List.replicate_succ, run_cons]
      refine (ih (some document)).trans ?_
      rw [latest, latest, List.getLast?_cons]
      cases rest.getLast? with
      | none => rfl
      | some ending => rfl

/-- Along a run of current events, and of no others, the file comes to hold the effect of
the last call for every household, at whatever point the calls end and their saves land. -/
theorem keys_kept_iff (file : Option Dict) (events : List KeyFileEvent) :
    (Along step Current (start file) events ↔
        ∀ before after, events = before ++ after → ∀ householdId,
          held (run step (start file) before).landAll.file householdId =
            (run step (start file) before).issued householdId) ∧
      (Along step Current (start file) events → (run step (start file) events).saving = [] →
        ∀ householdId, held (run step (start file) events).file householdId =
          (run step (start file) events).issued householdId) := by
  have everywhere := @along_iff_reached _ _ step Current Settles
    (fun _ event holds => settles_step_iff holds event) (start file) events fun _ => rfl
  refine ⟨?_, fun along finished => ?_⟩
  · simp only [landAll_eq]
    exact everywhere
  · have reached := everywhere.mp along events [] (List.append_nil events).symm
    rw [Settles, latest, finished] at reached
    exact reached

/-! ### One instance after another -/

/-- What a flow does with its store once it has loaded it. -/
inductive Call where
  | set (householdId : String) (key : Bytes) (salt : Option String)
  | remove (householdId : String)

def Call.event (owner : Nat) : Call → KeyFileEvent
  | set householdId key salt => .set owner householdId key salt
  | remove householdId => .remove owner householdId

/-- A flow with a store of its own, from its load to the end of its save. -/
def flow (owner : Nat) (call : Call) : List KeyFileEvent :=
  [.load owner, .reads 0, .resumes 0, call.event owner, .lands 0]

/-- No call is in progress, and the file can be read. -/
structure Idle (state : KeyFile) : Prop where
  loading : state.loading = []
  saving : state.saving = []
  readable : ∃ store, asyncLoad state.file = .ok store
  settles : state.Settles

theorem takeHouseholds_of_ok {cache after : CommandKeyStore} {households : Dict}
    (read : households.foldlM loadHousehold cache = .ok after) :
    takeHouseholds cache households = (after, true) := by
  induction households generalizing cache with
  | nil =>
      cases read
      rfl
  | cons member rest ih =>
      rw [List.foldlM_cons] at read
      obtain ⟨taken, loaded, later⟩ := bind_eq_ok.mp read
      rw [takeHouseholds, loaded]
      exact ih later

/-- A new instance that has loaded has in its cache what the file holds. -/
theorem run_load (idle : state.Idle) (fresh : state.instances owner = {}) {store : CommandKeyStore}
    (readable : asyncLoad state.file = .ok store) :
    run step state [.load owner, .reads 0, .resumes 0] =
      { state with instances := Function.update state.instances owner ⟨store, true⟩ } := by
  have called : state.step (.load owner) = { state with loading := [⟨owner, none⟩] } := by
    rw [step, fresh, if_neg Bool.false_ne_true, idle.loading]
    rfl
  have taken : Instance.afterRead {} state.file = ⟨store, true⟩ := by
    rw [Instance.afterRead, takeHouseholds_of_ok readable]
    rfl
  rw [run_cons, called, run_cons, run_cons, run_nil]
  change { state with
    instances := Function.update state.instances owner
      ((state.instances owner).afterRead state.file)
    loading := [] } = _
  rw [fresh, taken, ← idle.loading]

/-- A call saves a cache, or nothing, and touches no other instance. -/
theorem step_call (state : KeyFile) (owner : Nat) (call : Call) :
    ((state.step (call.event owner)).saving = state.saving ∨
        ∃ store : CommandKeyStore,
          (state.step (call.event owner)).saving = state.saving ++ [store.payload]) ∧
      (state.step (call.event owner)).loading = state.loading ∧
      (state.step (call.event owner)).file = state.file ∧
      ∀ other, other ≠ owner →
        (state.step (call.event owner)).instances other = state.instances other := by
  cases call with
  | set householdId key salt =>
      rw [Call.event, step]
      cases saved : (state.instances owner).cache.asyncSet householdId key salt with
      | error reason => exact ⟨Or.inl rfl, rfl, rfl, fun _ _ => rfl⟩
      | ok result =>
          obtain ⟨cache, document⟩ := result
          obtain ⟨rfl, -⟩ := asyncSet_ok saved
          exact ⟨Or.inr ⟨cache, rfl⟩, rfl, rfl, fun other apart => Function.update_of_ne apart _ _⟩
  | remove householdId =>
      rw [Call.event, step, asyncRemove]
      cases (state.instances owner).cache.get householdId with
      | none =>
          exact ⟨Or.inl (List.append_nil _), rfl, rfl,
            fun other apart => Function.update_of_ne apart _ _⟩
      | some credential =>
          exact ⟨Or.inr ⟨_, rfl⟩, rfl, rfl, fun other apart => Function.update_of_ne apart _ _⟩

/-- A call of an instance that knows the file is current, and leaves a file that is right. -/
theorem run_call (idle : state.Idle)
    (known : ∀ householdId,
      (state.instances owner).cache.get householdId = held state.file householdId)
    (call : Call) :
    Along step Current state [call.event owner, .lands 0] ∧
      (run step state [call.event owner, .lands 0]).Idle ∧
      ∀ other, other ≠ owner →
        (run step state [call.event owner, .lands 0]).instances other = state.instances other := by
  have current : ∀ householdId,
      (state.instances owner).cache.get householdId = state.issued householdId := by
    intro householdId
    have right := idle.settles householdId
    rw [latest, idle.saving] at right
    exact (known householdId).trans right
  have issues : state.Current (call.event owner) := by
    cases call with
    | set householdId key salt => exact Or.inr fun other _ => current other
    | remove householdId =>
        rw [Call.event, Current]
        split
        · exact fun other _ => current other
        · next gone => rw [← current, ← Option.not_isSome_iff_eq_none]; exact gone
  have issued := (settles_step_iff idle.settles (call.event owner)).mpr issues
  obtain ⟨saves, loading, file, others⟩ := state.step_call owner call
  rw [run_cons, run_cons, run_nil]
  have waits : ((state.step (call.event owner)).saving = [] ∧
        (state.step (call.event owner)).step (.lands 0) = state.step (call.event owner)) ∨
      ∃ store : CommandKeyStore,
        (state.step (call.event owner)).step (.lands 0) =
          { state.step (call.event owner) with file := some store.payload, saving := [] } := by
    rw [idle.saving] at saves
    rcases saves with none | ⟨store, one⟩
    · exact Or.inl ⟨none, by rw [step, none]; rfl⟩
    · exact Or.inr ⟨store, by rw [step, one]; rfl⟩
  have lands : (state.step (call.event owner)).Current (.lands 0) := by
    intro single document behind
    rw [List.dropLast_eq_take, ← single] at behind
    cases behind
  have landed := (settles_step_iff issued (.lands 0)).mpr lands
  refine ⟨⟨issues, lands, trivial⟩, ?_⟩
  rcases waits with ⟨none, same⟩ | ⟨store, saved⟩
  · rw [same]
    exact ⟨⟨loading.trans idle.loading, none, file ▸ idle.readable, issued⟩, others⟩
  · rw [saved] at landed ⊢
    exact ⟨⟨loading.trans idle.loading, rfl, ⟨store, asyncLoad_payload store⟩, landed⟩, others⟩

/-- A flow that has the file to itself is current, and leaves a file that is right. -/
theorem flow_current (idle : state.Idle) (fresh : state.instances owner = {}) (call : Call) :
    Along step Current state (flow owner call) ∧ (run step state (flow owner call)).Idle ∧
      ∀ other, other ≠ owner →
        (run step state (flow owner call)).instances other = state.instances other := by
  obtain ⟨store, readable⟩ := idle.readable
  have loaded := run_load idle fresh readable
  have ready : (run step state [.load owner, .reads 0, .resumes 0]).Idle := by
    rw [loaded]
    exact ⟨idle.loading, idle.saving, idle.readable, idle.settles⟩
  have known : ∀ householdId,
      ((run step state [.load owner, .reads 0, .resumes 0]).instances owner).cache.get householdId =
        held (run step state [.load owner, .reads 0, .resumes 0]).file householdId := by
    intro householdId
    rw [loaded, held]
    change ((Function.update state.instances owner ⟨store, true⟩) owner).cache.get householdId =
      match asyncLoad state.file with
      | .ok store => store.get householdId
      | .error _ => none
    rw [readable, Function.update_self]
  obtain ⟨current, after, others⟩ := run_call ready known call
  have whole : flow owner call =
      [.load owner, .reads 0, .resumes 0] ++ [call.event owner, .lands 0] := rfl
  rw [whole, run_append, along_append]
  refine ⟨⟨⟨trivial, trivial, trivial, trivial⟩, current⟩, after, fun other apart => ?_⟩
  rw [others other apart, loaded]
  exact Function.update_of_ne apart _ _

/-- Flows that run one after another lose no key. -/
theorem flows_keep_keys (flows : List (Nat × Call)) (distinct : (flows.map Prod.fst).Nodup)
    (idle : state.Idle) (fresh : ∀ owner ∈ flows.map Prod.fst, state.instances owner = {}) :
    Along step Current state (flows.flatMap fun one => flow one.1 one.2) ∧
      (run step state (flows.flatMap fun one => flow one.1 one.2)).Idle := by
  induction flows generalizing state with
  | nil => exact ⟨trivial, idle⟩
  | cons one rest ih =>
      obtain ⟨absent, apart⟩ := List.nodup_cons.mp distinct
      obtain ⟨current, after, others⟩ :=
        flow_current idle (fresh one.1 List.mem_cons_self) one.2
      rw [List.flatMap_cons, along_append, run_append]
      have later := ih apart after fun owner waiting => by
        rw [others owner fun same => absent (same ▸ waiting)]
        exact fresh owner (List.mem_cons_of_mem _ waiting)
      exact ⟨⟨current, later.1⟩, later.2⟩

/-! ### Two flows at once -/

/-- Two flows load the file before either of them saves. -/
def overlappingFlows : List KeyFileEvent :=
  [.load 0, .load 1, .reads 0, .reads 1, .resumes 0, .resumes 0,
    .set 0 "HOME001" [1] none, .set 1 "HOME002" [2] none, .lands 0, .lands 0]

/-- The key of the first household is not in the file that the second flow leaves. -/
theorem overlappingFlows_lose_key :
    ¬ ∀ (file : Option Dict) (events : List KeyFileEvent),
      (run step (start file) events).loading = [] → (run step (start file) events).saving = [] →
        ∀ householdId, held (run step (start file) events).file householdId =
          (run step (start file) events).issued householdId := by
  intro kept
  have lost := kept none overlappingFlows rfl rfl "HOME001"
  have left : (run step (start none) overlappingFlows).file =
      some (CommandKeyStore.payload (Keyed.put Keyed.empty
        ("HOME002", (⟨[2], by decide, none⟩ : CommandCredential)))) := rfl
  have issued : (run step (start none) overlappingFlows).issued =
      Function.update (Function.update (held none) "HOME001"
        (some (⟨[1], by decide, none⟩ : CommandCredential))) "HOME002"
        (some (⟨[2], by decide, none⟩ : CommandCredential)) := rfl
  rw [left, held_payload, get_put, if_neg (by decide), issued,
    Function.update_of_ne (by decide), Function.update_self] at lost
  cases lost

end KeyFile

end CommandKeyStore

end HomeKeyHousehold
