import HomeKeyHousehold.Library.Keyed
import HomeKeyHousehold.Command

/-!
# Command credentials

A recovery secret is used once, to derive the command key of a household; the key
is kept in a store of its own.  Every instance of the store has a cache, read
from the file when the instance is made and written to it on every change, so
that two instances agree only as long as neither changes.  BLAKE2b is an input.
-/

namespace HomeKeyHousehold

open Library

/-! ## Deriving a key -/

def commandKeyLabel : String := "HK-HOUSEHOLD-CMD-v1"
def commandKeyLength : Nat := 32
def maxBlake2bDigest : Nat := 64
def minHexMaterialChars : Nat := 16

/-- `hashlib.blake2b(material, key=label, digest_size=32).digest()`. -/
abbrev Blake2b : Type := Bytes → Bytes → Vector UInt8 commandKeyLength

def encodeUtf8 (text : String) : Bytes := text.toUTF8.toList

/-- The blanks `bytes.fromhex` skips between bytes. -/
def isBlank (ch : Char) : Bool := ch = ' ' || (0x09 ≤ ch.toNat && ch.toNat ≤ 0x0d)

def fromHexChars : List Char → Option Bytes
  | [] => some []
  | [ch] => if isBlank ch then some [] else none
  | high :: low :: rest =>
      if isBlank high then fromHexChars (low :: rest)
      else
        match Json.hexValue high, Json.hexValue low with
        | some upper, some lower =>
            (fromHexChars rest).map fun bytes => UInt8.ofNat (upper * 16 + lower) :: bytes
        | _, _ => none

/-- `bytes.fromhex`. -/
def fromHex (text : String) : Option Bytes := fromHexChars text.toList

theorem isBlank_hexDigit {value : Nat} (small : value < 16) :
    isBlank (Json.hexDigit value) = false := by
  revert value
  decide

@[simp]
theorem fromHex_hexText (bytes : Bytes) : fromHex (hexText bytes) = some bytes := by
  rw [fromHex, hexText, String.toList_ofList]
  induction bytes with
  | nil => rfl
  | cons byte rest ih =>
      have bounded := byte.toNat_lt
      have whole : byte.toNat / 16 * 16 + byte.toNat % 16 = byte.toNat := by omega
      rw [List.flatMap_cons, hexByte, List.cons_append, List.cons_append, List.nil_append,
        fromHexChars, isBlank_hexDigit (by omega), if_neg Bool.false_ne_true,
        hexValue_hexDigit (by omega), hexValue_hexDigit (by omega)]
      simp only [ih, Option.map_some, whole, UInt8.ofNat_toNat]

/-- `_key_material`: a long hex text is the bytes it spells. -/
def keyMaterial (value : String) : Bytes :=
  let text := strip value
  if minHexMaterialChars ≤ text.length ∧ text.length % 2 = 0 ∧
      text.toList.all isHexDigit = true then
    (fromHex text).getD []
  else encodeUtf8 text

/-- A secret or a salt: `str | bytes`. -/
inductive KeyInput where
  | text (value : String)
  | bytes (value : Bytes)

/-- `_key_material` for either kind of input: bytes are taken as they are. -/
def KeyInput.material : KeyInput → Bytes
  | .text value => keyMaterial value
  | .bytes value => value

@[simp]
theorem KeyInput.material_text (value : String) :
    (KeyInput.text value).material = keyMaterial value := rfl

@[simp]
theorem KeyInput.material_bytes (value : Bytes) : (KeyInput.bytes value).material = value := rfl

/-- `derive_command_key`. -/
def deriveCommandKeyOf (blake2b : Blake2b) (recoverySecret : KeyInput)
    (salt : KeyInput := .bytes []) : Validated Bytes :=
  let secretBytes := recoverySecret.material
  if secretBytes = [] then invalid "recovery_secret: must not be empty"
  else if maxBlake2bDigest < (encodeUtf8 commandKeyLabel).length then
    invalid "command key label too long for BLAKE2b"
  else .ok (blake2b (encodeUtf8 commandKeyLabel) (secretBytes ++ salt.material)).toList

/-- `derive_command_key` on the texts a credential is made of. -/
def deriveCommandKey (blake2b : Blake2b) (recoverySecret salt : String) : Validated Bytes :=
  deriveCommandKeyOf blake2b (.text recoverySecret) (.text salt)

/-! ## The store -/

/-- A derived command key with its salt. -/
@[ext]
structure CommandCredential where
  key : Bytes
  filled : key ≠ []
  salt : Option String

/-- `CommandCredential(...)`, which refuses an empty key. -/
def CommandCredential.make (key : Bytes) (salt : Option String) : Validated CommandCredential :=
  if empty : key = [] then invalid "command credential: empty key"
  else .ok ⟨key, empty, salt⟩

/-- The credential of a household. -/
abbrev StoredCredential : Type := String × CommandCredential

/-- The cache of one `CommandKeyStore`. -/
abbrev CommandKeyStore : Type := Keyed (Prod.fst : StoredCredential → String)

namespace CommandKeyStore

/-- `get`. -/
def get (store : CommandKeyStore) (householdId : String) : Option CommandCredential :=
  (store.get? householdId).map Prod.snd

/-- The stored form of a credential. -/
def record (stored : StoredCredential) : String × Json :=
  (stored.1, .obj (("key", .str (hexText stored.2.key)) ::
    (stored.2.salt.map fun salt => ("salt", Json.str salt)).toList))

/-- The document `_async_save` writes. -/
def payload (store : CommandKeyStore) : Dict :=
  [("households", .obj (store.entries.map record))]

/-- One stored credential; a malformed one is ignored. -/
def readCredential (document : Json) : Validated (Option CommandCredential) :=
  match document with
  | .obj members =>
      match Json.get members "key" with
      | .str digits =>
          if digits = "" then .ok none
          else
            match fromHex digits with
            | none => .ok none
            | some key =>
                let salt :=
                  match Json.get members "salt" with
                  | .str salt => some salt
                  | _ => none
                (CommandCredential.make key salt).map some
      | _ => .ok none
  | _ => .ok none

/-- The stored households; anything but an object counts as none. -/
def storedHouseholds (document : Option Dict) : Dict :=
  match document.bind fun members => Json.lookup members "households" with
  | some (.obj households) => Json.items households
  | _ => []

/-- Take one stored household into the cache. -/
def loadHousehold (store : CommandKeyStore) (member : String × Json) :
    Validated CommandKeyStore := do
  match ← readCredential member.2 with
  | none => pure store
  | some credential => pure (store.put (member.1, credential))

/-- `async_load` of a new instance. -/
def asyncLoad (document : Option Dict) : Validated CommandKeyStore :=
  (storedHouseholds document).foldlM loadHousehold Keyed.empty

/-- `async_set`, with the document it leaves in the file. -/
def asyncSet (store : CommandKeyStore) (householdId : String) (key : Bytes)
    (salt : Option String) : Validated (CommandKeyStore × Dict) := do
  let credential ← CommandCredential.make key salt
  let store : CommandKeyStore := store.put (householdId, credential)
  pure (store, store.payload)

/-- `async_set_from_secret`. -/
def asyncSetFromSecret (blake2b : Blake2b) (store : CommandKeyStore)
    (householdId recoverySecret : String) (salt : Option String) :
    Validated (CommandKeyStore × Dict) := do
  let key ← deriveCommandKey blake2b recoverySecret (salt.getD "")
  store.asyncSet householdId key salt

/-! ### Reading back what was written -/

variable {store after : CommandKeyStore} {document : Dict} {householdId : String}

theorem readCredential_record (stored : StoredCredential) :
    readCredential (record stored).2 = .ok (some stored.2) := by
  obtain ⟨householdId, key, filled, salt⟩ := stored
  have spelled : hexText key ≠ "" := by
    intro blank
    have length := length_hexText key
    rw [blank] at length
    have none : 0 = 2 * key.length := length
    exact filled (List.length_eq_zero_iff.mp (by omega))
  have made : CommandCredential.make key salt = .ok ⟨key, filled, salt⟩ := dif_neg filled
  cases salt with
  | none =>
      simp [readCredential, record, Json.get, Json.lookup, spelled, made, Except.map]
  | some salt =>
      simp [readCredential, record, Json.get, Json.lookup, spelled, made, Except.map]

/-- Households that are not in the cache yet are appended to it. -/
theorem foldlM_loadHousehold (rest : List StoredCredential) (store : CommandKeyStore)
    (distinct : ((store.entries ++ rest).map Prod.fst).Nodup) :
    (rest.map record).foldlM loadHousehold store = .ok ⟨store.entries ++ rest, distinct⟩ := by
  induction rest generalizing store with
  | nil =>
      rw [List.map_nil, List.foldlM_nil]
      exact congrArg Except.ok (Keyed.ext (List.append_nil store.entries).symm)
  | cons stored rest ih =>
      have fresh : stored.1 ∉ store.keys := by
        intro known
        rw [List.map_append, List.map_cons] at distinct
        exact (List.nodup_append.mp distinct).2.2 _ known _ List.mem_cons_self rfl
      have appended : (Keyed.put store stored).entries = store.entries ++ [stored] :=
        Keyed.entries_put_of_new fresh
      have loaded : loadHousehold store (record stored) = .ok (Keyed.put store stored) := by
        rw [loadHousehold, readCredential_record]
        rfl
      have together : (Keyed.put store stored).entries ++ rest = store.entries ++ stored :: rest := by
        rw [appended, List.append_assoc, List.singleton_append]
      rw [List.map_cons, List.foldlM_cons, loaded]
      refine (ih (Keyed.put store stored) (together ▸ distinct)).trans ?_
      exact congrArg Except.ok (Keyed.ext together)

/-- An instance loads what another one saved. -/
@[simp]
theorem asyncLoad_payload (store : CommandKeyStore) : asyncLoad (some store.payload) = .ok store := by
  have distinct : ((store.entries.map record).map Prod.fst).Nodup := by
    rw [List.map_map]
    exact store.nodup
  have households : storedHouseholds (some store.payload) = store.entries.map record :=
    Json.items_of_nodup distinct
  rw [asyncLoad, households]
  exact foldlM_loadHousehold store.entries .empty store.nodup

/-- A stored key is the one that is found, and the one in the file. -/
theorem asyncSet_ok {key : Bytes} {salt : Option String}
    (saved : store.asyncSet householdId key salt = .ok (after, document)) :
    document = after.payload ∧ (after.get householdId).map CommandCredential.key = some key := by
  unfold asyncSet CommandCredential.make at saved
  split at saved
  · cases saved
  · cases saved
    refine ⟨rfl, ?_⟩
    rw [get, Keyed.get?_put_self]
    rfl

theorem asyncSetFromSecret_ok {blake2b : Blake2b} {recoverySecret : String} {salt : Option String}
    (saved : store.asyncSetFromSecret blake2b householdId recoverySecret salt =
      .ok (after, document)) :
    ∃ key, deriveCommandKey blake2b recoverySecret (salt.getD "") = .ok key ∧
      document = after.payload ∧ (after.get householdId).map CommandCredential.key = some key := by
  obtain ⟨key, derived, stored⟩ := bind_eq_ok.mp saved
  exact ⟨key, derived, asyncSet_ok stored⟩

end CommandKeyStore

/-! ## Secrets in a form -/

/-- A text that was left out or left blank. -/
def unlessBlank (text : Option String) : Option String := text.filter fun value => value ≠ ""

/-- What a submitted form does to the key file: it is kept as it is now, the
secret is refused, or the file cannot be read. -/
inductive SecretOutcome where
  | kept (document : Option Dict)
  | refused
  | failed

/-- Derive and store the key of a submitted secret, with a store of its own. -/
def submitSecret (blake2b : Blake2b) (document : Option Dict) (householdId : String)
    (recoverySecret salt : Option String) : SecretOutcome :=
  match unlessBlank recoverySecret with
  | none => .kept document
  | some secret =>
      match CommandKeyStore.asyncLoad document with
      | .error _ => .failed
      | .ok store =>
          match store.asyncSetFromSecret blake2b householdId secret (unlessBlank salt) with
          | .error _ => .refused
          | .ok (_, saved) => .kept (some saved)

/-- A secret that a key can be derived from is stored. -/
theorem submitSecret_of_derived {blake2b : Blake2b} {document : Option Dict} {store : CommandKeyStore}
    (householdId : String) {recoverySecret salt : Option String} {secret : String} {key : Bytes}
    (submitted : unlessBlank recoverySecret = some secret)
    (read : CommandKeyStore.asyncLoad document = .ok store)
    (derived : deriveCommandKey blake2b secret ((unlessBlank salt).getD "") = .ok key)
    (filled : key ≠ []) :
    submitSecret blake2b document householdId recoverySecret salt =
      .kept (some (CommandKeyStore.payload
        (Keyed.put store (householdId, ⟨key, filled, unlessBlank salt⟩)))) := by
  have made : CommandCredential.make key (unlessBlank salt) = .ok ⟨key, filled, unlessBlank salt⟩ :=
    dif_neg filled
  rw [submitSecret, submitted]
  dsimp only
  rw [read]
  dsimp only
  rw [CommandKeyStore.asyncSetFromSecret, derived]
  simp only [bind, Except.bind, CommandKeyStore.asyncSet, made]
  rfl

/-- A digest that tells apart materials of different lengths. -/
def sampleBlake2b : Blake2b := fun _ material => Vector.replicate _ (UInt8.ofNat material.length)

end HomeKeyHousehold
