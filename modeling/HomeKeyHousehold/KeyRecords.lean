import HomeKeyHousehold.Credential

/-!
# The records of the key file

A load takes every household whose record spells a key and passes over records
that do not.  A record whose key is only blanks spells the empty key, which the
credential refuses where nothing catches it.
-/

namespace HomeKeyHousehold

open Library

namespace CommandKeyStore

/-- What a file holds for a household. -/
def recordOf (document : Dict) (householdId : String) : Option Json :=
  match Json.lookup document "households" with
  | some (.obj households) => Json.lookup households householdId
  | _ => none

/-- The salt of a record, if it is a string. -/
def saltOf (members : Dict) : Option String :=
  match Json.get members "salt" with
  | .str salt => some salt
  | _ => none

/-- A record is an object whose key is hex for the bytes of a credential. -/
def KeyRecord (record : Json) (credential : CommandCredential) : Prop :=
  ∃ members digits, record = .obj members ∧ Json.get members "key" = .str digits ∧
    fromHex digits = some credential.key ∧ credential.salt = saltOf members

/-- A record is an object whose key is a string of blanks. -/
def BlankKey (record : Json) : Prop :=
  ∃ members digits, record = .obj members ∧ Json.get members "key" = .str digits ∧
    digits ≠ "" ∧ digits.toList.all isBlank = true

/-! ## One record -/

/-- Only blanks are hex for no bytes. -/
theorem fromHexChars_eq_nil_iff (chars : List Char) :
    fromHexChars chars = some [] ↔ chars.all isBlank = true := by
  fun_induction fromHexChars chars with
  | case1 => exact iff_of_true rfl rfl
  | case2 ch blank => exact iff_of_true rfl (by rw [List.all_cons, blank]; rfl)
  | case3 ch filled => exact iff_of_false (fun none => by cases none) (by simpa using filled)
  | case4 high low rest blank ih =>
      rw [ih, List.all_cons (a := high), blank, Bool.true_and]
  | case5 high low rest filled upper lower first second ih =>
      refine iff_of_false (fun none => ?_) (by simp [filled])
      obtain ⟨bytes, -, made⟩ := Option.map_eq_some_iff.mp none
      cases made
  | case6 high low rest filled unread =>
      exact iff_of_false (fun none => by cases none) (by simp [filled])

/-- A record is an object with a string for a key. -/
def Spells (record : Json) (members : Dict) (digits : String) : Prop :=
  record = .obj members ∧ Json.get members "key" = .str digits

theorem readCredential_of_spells {record : Json} {members : Dict} {digits : String}
    (spells : Spells record members digits) (filled : digits ≠ "") :
    readCredential record =
      match fromHex digits with
      | none => .ok none
      | some key => (CommandCredential.make key (saltOf members)).map some := by
  obtain ⟨rfl, spelled⟩ := spells
  rw [readCredential, spelled]
  dsimp only
  rw [if_neg filled]
  rfl

/-- Any other record is passed over. -/
theorem readCredential_of_not_spells {record : Json}
    (unspelled : ∀ members digits, Spells record members digits → digits = "") :
    readCredential record = .ok none := by
  cases record with
  | obj members =>
      rw [readCredential]
      split
      · next digits spelled => rw [if_pos (unspelled members digits ⟨rfl, spelled⟩)]
      · rfl
  | null | bool _ | int _ | float _ | str _ | arr _ => rfl

/-- A record either spells something or is passed over. -/
theorem spells_or_passed (record : Json) :
    (∃ members digits, Spells record members digits ∧ digits ≠ "") ∨
      ∀ members digits, Spells record members digits → digits = "" := by
  by_cases spelled : ∃ members digits, Spells record members digits ∧ digits ≠ ""
  · exact Or.inl spelled
  · refine Or.inr fun members digits spells => ?_
    by_contra filled
    exact spelled ⟨members, digits, spells, filled⟩

/-- What a record spells, it spells alone. -/
theorem Spells.unique {record : Json} {members others : Dict} {digits text : String}
    (spells : Spells record members digits) (other : Spells record others text) :
    others = members ∧ text = digits := by
  obtain ⟨rfl, spelled⟩ := spells
  obtain ⟨made, told⟩ := other
  cases made
  exact ⟨rfl, Json.str.inj (told.symm.trans spelled)⟩

theorem readCredential_eq_some_iff {record : Json} {credential : CommandCredential} :
    readCredential record = .ok (some credential) ↔ KeyRecord record credential := by
  rcases spells_or_passed record with ⟨members, digits, spells, filled⟩ | passed
  · rw [readCredential_of_spells spells filled]
    have only : KeyRecord record credential ↔
        fromHex digits = some credential.key ∧ credential.salt = saltOf members := by
      constructor
      · rintro ⟨others, text, made, told, read, salted⟩
        obtain ⟨rfl, rfl⟩ := spells.unique ⟨made, told⟩
        exact ⟨read, salted⟩
      · rintro ⟨read, salted⟩
        exact ⟨members, digits, spells.1, spells.2, read, salted⟩
    rw [only]
    cases read : fromHex digits with
    | none => exact iff_of_false (fun taken => by cases taken) (fun both => by cases both.1)
    | some key =>
        dsimp only
        rw [CommandCredential.make]
        split
        · next empty =>
            subst empty
            refine iff_of_false (fun taken => by cases taken) fun both => ?_
            exact credential.filled (Option.some.inj both.1).symm
        · constructor
          · rintro ⟨⟩
            exact ⟨rfl, rfl⟩
          · rintro ⟨same, salted⟩
            exact congrArg (fun kept => Except.ok (some kept))
              (CommandCredential.ext (Option.some.inj same) salted.symm)
  · rw [readCredential_of_not_spells passed]
    refine iff_of_false (fun taken => by cases taken) ?_
    rintro ⟨members, digits, made, told, read, -⟩
    rw [passed members digits ⟨made, told⟩] at read
    exact credential.filled (Option.some.inj read).symm

/-- The credential refuses the key of a blank record. -/
theorem readCredential_error_iff {record : Json} :
    (∃ reason, readCredential record = .error reason) ↔ BlankKey record := by
  rcases spells_or_passed record with ⟨members, digits, spells, filled⟩ | passed
  · rw [readCredential_of_spells spells filled]
    have only : BlankKey record ↔ fromHex digits = some [] := by
      rw [fromHex, fromHexChars_eq_nil_iff]
      constructor
      · rintro ⟨others, text, made, told, -, blank⟩
        obtain ⟨-, rfl⟩ := spells.unique ⟨made, told⟩
        exact blank
      · intro blank
        exact ⟨members, digits, spells.1, spells.2, filled, blank⟩
    rw [only]
    cases read : fromHex digits with
    | none => exact iff_of_false (by rintro ⟨reason, ⟨⟩⟩) (fun none => by cases none)
    | some key =>
        dsimp only
        rw [CommandCredential.make]
        split
        · next empty => exact iff_of_true ⟨_, rfl⟩ (congrArg some empty)
        · next bytes =>
            exact iff_of_false (by rintro ⟨reason, ⟨⟩⟩) fun none => bytes (Option.some.inj none)
  · rw [readCredential_of_not_spells passed]
    refine iff_of_false (by rintro ⟨reason, ⟨⟩⟩) ?_
    rintro ⟨members, digits, made, told, filled, -⟩
    exact filled (passed members digits ⟨made, told⟩)

/-! ## All records -/

/-- A household is taken with the key its record spells. -/
theorem get_loadHousehold {store after : CommandKeyStore} {member : String × Json}
    (loaded : loadHousehold store member = .ok after) (fresh : store.get member.1 = none)
    (householdId : String) (credential : CommandCredential) :
    after.get householdId = some credential ↔
      store.get householdId = some credential ∨
        householdId = member.1 ∧ KeyRecord member.2 credential := by
  obtain ⟨read, taken, stored⟩ := bind_eq_ok.mp loaded
  rw [← readCredential_eq_some_iff, taken]
  cases read with
  | none =>
      cases stored
      exact ⟨Or.inl, fun either => either.resolve_right fun both => by cases both.2⟩
  | some kept =>
      cases stored
      rw [get, Keyed.get?_put]
      dsimp only
      by_cases same : householdId = member.1
      · rw [if_pos same, same, fresh]
        constructor
        · rintro ⟨⟩
          exact Or.inr ⟨rfl, rfl⟩
        · rintro (found | ⟨-, spelled⟩)
          · cases found
          · cases spelled
            rfl
      · rw [if_neg same]
        exact ⟨Or.inl, fun either => either.resolve_right fun both => same both.1⟩

/-- A load of households with distinct names takes the keys their records spell. -/
theorem get_foldlM_loadHousehold {households : Dict} {store : CommandKeyStore}
    (distinct : (households.map Prod.fst).Nodup)
    (loaded : households.foldlM loadHousehold Keyed.empty = .ok store) (householdId : String)
    (credential : CommandCredential) :
    store.get householdId = some credential ↔
      ∃ record, (householdId, record) ∈ households ∧ KeyRecord record credential := by
  induction households using List.reverseRecOn generalizing store householdId credential with
  | nil =>
      cases loaded
      exact iff_of_false (fun found => by cases found) (by rintro ⟨record, member, -⟩; cases member)
  | append_singleton earlier member ih =>
      rw [List.foldlM_append] at loaded
      obtain ⟨before, first, last⟩ := bind_eq_ok.mp loaded
      rw [List.foldlM_cons] at last
      obtain ⟨after, taken, same⟩ := bind_eq_ok.mp last
      cases same
      rw [List.map_append, List.nodup_append] at distinct
      have early := ih distinct.1 first
      have fresh : before.get member.1 = none := by
        by_contra found
        obtain ⟨kept, held⟩ := Option.ne_none_iff_exists'.mp found
        obtain ⟨record, known, -⟩ := (early member.1 kept).mp held
        exact distinct.2.2 _ (List.mem_map_of_mem known) _ List.mem_cons_self rfl
      rw [get_loadHousehold taken fresh, early]
      constructor
      · rintro (⟨record, known, spelled⟩ | ⟨rfl, spelled⟩)
        · exact ⟨record, List.mem_append_left _ known, spelled⟩
        · exact ⟨member.2, List.mem_append_right _ List.mem_cons_self, spelled⟩
      · rintro ⟨record, known, spelled⟩
        rcases List.mem_append.mp known with known | new
        · exact Or.inl ⟨record, known, spelled⟩
        · cases List.mem_singleton.mp new
          exact Or.inr ⟨rfl, spelled⟩

/-- A load ends well unless some record is refused. -/
theorem foldlM_loadHousehold_isOk_iff (households : Dict) (store : CommandKeyStore) :
    (∃ after, households.foldlM loadHousehold store = .ok after) ↔
      ∀ member ∈ households, ¬ BlankKey member.2 := by
  induction households generalizing store with
  | nil => exact iff_of_true ⟨store, rfl⟩ (by simp)
  | cons member rest ih =>
      rw [List.forall_mem_cons, ← readCredential_error_iff]
      constructor
      · rintro ⟨after, loaded⟩
        rw [List.foldlM_cons] at loaded
        obtain ⟨next, taken, later⟩ := bind_eq_ok.mp loaded
        obtain ⟨read, found, -⟩ := bind_eq_ok.mp taken
        refine ⟨?_, (ih next).mp ⟨after, later⟩⟩
        rintro ⟨reason, refused⟩
        rw [found] at refused
        cases refused
      · rintro ⟨fits, others⟩
        obtain ⟨next, taken⟩ : ∃ next, loadHousehold store member = .ok next := by
          rw [loadHousehold]
          cases read : readCredential member.2 with
          | error reason => exact absurd ⟨reason, read⟩ fits
          | ok kept =>
              cases kept with
              | none => exact ⟨store, rfl⟩
              | some credential => exact ⟨_, rfl⟩
        obtain ⟨after, later⟩ := (ih next).mpr others
        exact ⟨after, by rw [List.foldlM_cons, taken]; exact later⟩

/-- The households a load goes through are those the file has a record of. -/
theorem mem_storedHouseholds_iff {document : Dict} {householdId : String} {record : Json} :
    (householdId, record) ∈ storedHouseholds (some document) ↔
      recordOf document householdId = some record := by
  rw [storedHouseholds, Option.bind_some, recordOf]
  cases Json.lookup document "households" with
  | none => exact iff_of_false (fun member => by cases member) (fun none => by cases none)
  | some value =>
      cases value with
      | obj households => exact Json.mem_items_iff
      | null | bool _ | int _ | float _ | str _ | arr _ =>
          exact iff_of_false (fun member => by cases member) (fun none => by cases none)

theorem nodup_storedHouseholds (document : Option Dict) :
    ((storedHouseholds document).map Prod.fst).Nodup := by
  rw [storedHouseholds]
  split
  · exact Json.items_nodup _
  · exact List.nodup_nil

/-- A load takes exactly the households whose records spell a key, with that key and its
salt, unless the key of some record is a string of blanks; and it takes what was saved. -/
theorem asyncLoad_exact_iff (document : Dict) :
    ((∃ store, asyncLoad (some document) = .ok store ∧
          ∀ householdId credential, store.get householdId = some credential ↔
            ∃ record, recordOf document householdId = some record ∧ KeyRecord record credential) ∧
        ∀ saved : CommandKeyStore, ∃ store, asyncLoad (some saved.payload) = .ok store ∧
          ∀ householdId, store.get householdId = saved.get householdId) ↔
      ∀ householdId record, recordOf document householdId = some record → ¬ BlankKey record := by
  have reload (saved : CommandKeyStore) : ∃ store, asyncLoad (some saved.payload) = .ok store ∧
      ∀ householdId, store.get householdId = saved.get householdId :=
    ⟨saved, asyncLoad_payload saved, fun _ => rfl⟩
  have records : (∀ householdId record, recordOf document householdId = some record →
      ¬ BlankKey record) ↔ ∀ member ∈ storedHouseholds (some document), ¬ BlankKey member.2 := by
    simp only [← mem_storedHouseholds_iff]
    exact ⟨fun all member => all member.1 member.2, fun all householdId record => all _⟩
  rw [and_iff_left reload, records, ← foldlM_loadHousehold_isOk_iff _ Keyed.empty]
  constructor
  · rintro ⟨store, loaded, -⟩
    exact ⟨store, loaded⟩
  · rintro ⟨store, loaded⟩
    refine ⟨store, loaded, fun householdId credential => ?_⟩
    rw [get_foldlM_loadHousehold (nodup_storedHouseholds _) loaded]
    simp only [mem_storedHouseholds_iff]

/-! ### A key of blanks -/

/-- The key of one household was edited away, the other one is whole. -/
def blankedFile : Dict :=
  [("households", .obj [("HOME001", .obj [("key", .str " ")]),
    ("HOME002", .obj [("key", .str "0a"), ("salt", .str "5a")])])]

/-- The key of the second household is not loaded either. -/
theorem blankedFile_refused :
    ¬ ∀ document : Dict, ∃ store, asyncLoad (some document) = .ok store ∧
      ∀ householdId credential, store.get householdId = some credential ↔
        ∃ record, recordOf document householdId = some record ∧ KeyRecord record credential := by
  intro loads
  obtain ⟨store, loaded, -⟩ := loads blankedFile
  have fine := (foldlM_loadHousehold_isOk_iff _ _).mp ⟨store, loaded⟩
  have member : ("HOME001", Json.obj [("key", .str " ")]) ∈
      storedHouseholds (some blankedFile) :=
    mem_storedHouseholds_iff.mpr rfl
  exact fine _ member ⟨_, _, rfl, rfl, by decide, by decide⟩

end CommandKeyStore

end HomeKeyHousehold
