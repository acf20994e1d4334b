import HomeKeyHousehold.Credential
import HomeKeyHousehold.FirmwareVerifier
import HomeKeyHousehold.Library.Text

/-!
# Two derivations of the command key

The integration decodes a long hex text to the bytes it spells and strips any
other.  The verifier hashes the texts as they are, so the two agree on plain text
only, and not on the hex form a node exports.
-/

namespace HomeKeyHousehold

open Library

theorem length_commandKeyLabel : (encodeUtf8 commandKeyLabel).length = 19 := by
  rw [encodeUtf8, toUTF8_toList, commandKeyLabel]
  decide

/-- The label fits, so that only the secret decides whether there is a key. -/
theorem deriveCommandKeyOf_eq (blake2b : Blake2b) (recoverySecret salt : KeyInput) :
    deriveCommandKeyOf blake2b recoverySecret salt =
      if recoverySecret.material = [] then invalid "recovery_secret: must not be empty"
      else .ok (blake2b (encodeUtf8 commandKeyLabel)
        (recoverySecret.material ++ salt.material)).toList := by
  rw [deriveCommandKeyOf, length_commandKeyLabel, if_neg (by decide : ¬ maxBlake2bDigest < 19)]

/-! ## Hex forms -/

/-- A text spells bytes as hex, in any letter case and with any blanks around. -/
def HexForm (text : String) (bytes : Bytes) : Prop :=
  ∃ front digits back, text = String.ofList (front ++ digits ++ back) ∧
    (∀ ch ∈ front, isWhitespace ch = true) ∧ (∀ ch ∈ back, isWhitespace ch = true) ∧
    digits.map Char.toLower = bytes.flatMap hexByte

/-- What the integration takes for hex: an even number of at least 16 digits,
after stripping. -/
def LongHex (text : String) : Prop :=
  minHexMaterialChars ≤ (strip text).length ∧ (strip text).length % 2 = 0 ∧
    (strip text).toList.all isHexDigit = true

instance (text : String) : Decidable (LongHex text) :=
  inferInstanceAs (Decidable (_ ∧ _ ∧ _))

theorem keyMaterial_eq (value : String) :
    keyMaterial value =
      if LongHex value then (fromHex (strip value)).getD [] else encodeUtf8 (strip value) := by
  unfold keyMaterial LongHex
  dsimp only
  congr

/-- A digit in either case is no blank and has a value. -/
theorem isHexDigit_facts {ch : Char} (digit : isHexDigit ch = true) :
    isWhitespace ch = false ∧ isBlank ch = false ∧
      ∃ value < 16, ch.toLower = Json.hexDigit value := by
  have all : ("0123456789abcdefABCDEF".toList.all fun ch =>
      decide (isWhitespace ch = false ∧ isBlank ch = false ∧ (Json.hexValue ch).getD 0 < 16 ∧
        ch.toLower = Json.hexDigit ((Json.hexValue ch).getD 0))) = true := by
    decide +kernel
  have facts := of_decide_eq_true (List.all_eq_true.mp all ch (List.contains_iff_mem.mp digit))
  obtain ⟨white, blank, small, lowered⟩ := facts
  exact ⟨white, blank, (Json.hexValue ch).getD 0, small, lowered⟩

/-- What becomes a lower-case digit is a digit in either case. -/
theorem isHexDigit_of_toLower {ch : Char} {value : Nat} (small : value < 16)
    (lowered : ch.toLower = Json.hexDigit value) :
    isHexDigit ch = true ∧ Json.hexValue ch = some value := by
  have ascii : ∀ code < 128, ∀ value < 16, (Char.ofNat code).toLower = Json.hexDigit value →
      isHexDigit (Char.ofNat code) = true ∧ Json.hexValue (Char.ofNat code) = some value := by
    decide +kernel
  have below : ch.toNat < 128 := by
    unfold Char.toLower at lowered
    split at lowered
    · next upper => exact Nat.lt_of_le_of_lt (UInt32.le_iff_toNat_le.mp upper.2) (by decide)
    · rw [lowered]
      clear lowered
      revert value
      decide
  have read := ascii ch.toNat below value small
  rw [Char.ofNat_toNat] at read
  exact read lowered

/-- The digits of bytes, in any letter case, are read as these bytes. -/
theorem fromHexChars_digits {digits : List Char} {bytes : Bytes}
    (spelled : digits.map Char.toLower = bytes.flatMap hexByte) :
    fromHexChars digits = some bytes ∧ digits.all isHexDigit = true ∧
      digits.length = 2 * bytes.length := by
  induction bytes generalizing digits with
  | nil =>
      rw [List.flatMap_nil, List.map_eq_nil_iff] at spelled
      rw [spelled]
      exact ⟨rfl, rfl, rfl⟩
  | cons byte bytes ih =>
      obtain ⟨high, tail, rfl, first, others⟩ := List.map_eq_cons_iff.mp spelled
      obtain ⟨low, rest, rfl, second, last⟩ := List.map_eq_cons_iff.mp others
      have bounded := byte.toNat_lt
      have whole : byte.toNat / 16 * 16 + byte.toNat % 16 = byte.toNat := by omega
      obtain ⟨highDigit, upper⟩ := isHexDigit_of_toLower (by omega) first
      obtain ⟨lowDigit, lower⟩ := isHexDigit_of_toLower (by omega) second
      obtain ⟨read, all, length⟩ := ih last
      refine ⟨?_, ?_, ?_⟩
      · rw [fromHexChars, (isHexDigit_facts highDigit).2.1, if_neg Bool.false_ne_true, upper,
          lower]
        simp only [read, Option.map_some, whole, UInt8.ofNat_toNat]
      · rw [List.all_cons, List.all_cons, highDigit, lowDigit, all]
        rfl
      · rw [List.length_cons, List.length_cons, length, List.length_cons]
        omega

/-- An even number of digits spells bytes. -/
theorem exists_bytes_of_digits {digits : List Char} (all : digits.all isHexDigit = true)
    {count : Nat} (even : digits.length = 2 * count) :
    ∃ bytes : Bytes, digits.map Char.toLower = bytes.flatMap hexByte ∧ bytes.length = count := by
  induction count generalizing digits with
  | zero => exact ⟨[], by rw [List.length_eq_zero_iff.mp even]; rfl, rfl⟩
  | succ count ih =>
      match digits with
      | [] => cases even
      | [_] =>
          rw [List.length_singleton] at even
          omega
      | high :: low :: rest =>
          rw [List.all_cons, List.all_cons, Bool.and_eq_true, Bool.and_eq_true] at all
          obtain ⟨highDigit, lowDigit, digits⟩ := all
          obtain ⟨-, -, upper, upperSmall, first⟩ := isHexDigit_facts highDigit
          obtain ⟨-, -, lower, lowerSmall, second⟩ := isHexDigit_facts lowDigit
          obtain ⟨bytes, spelled, length⟩ := ih digits (by
            rw [List.length_cons, List.length_cons] at even
            omega)
          have value : (UInt8.ofNat (upper * 16 + lower)).toNat = upper * 16 + lower := by
            rw [UInt8.toNat_ofNat']
            omega
          refine ⟨UInt8.ofNat (upper * 16 + lower) :: bytes, ?_, ?_⟩
          · rw [List.map_cons, List.map_cons, first, second, spelled, List.flatMap_cons, hexByte,
              value]
            have high : (upper * 16 + lower) / 16 = upper := by omega
            have low : (upper * 16 + lower) % 16 = lower := by omega
            rw [high, low]
            rfl
          · rw [List.length_cons, length]

/-- A hex form is stripped to its digits. -/
theorem HexForm.strip_eq {text : String} {bytes : Bytes} (form : HexForm text bytes) :
    ∃ digits, strip text = String.ofList digits ∧
      digits.map Char.toLower = bytes.flatMap hexByte := by
  obtain ⟨front, digits, back, rfl, frontBlank, backBlank, spelled⟩ := form
  obtain ⟨-, all, -⟩ := fromHexChars_digits spelled
  refine ⟨digits, stripOf_around frontBlank backBlank ?_, spelled⟩
  intro ch member
  exact (isHexDigit_facts (List.all_eq_true.mp all ch member)).1

/-- The integration takes for hex what spells eight bytes or more. -/
theorem longHex_iff {text : String} :
    LongHex text ↔ ∃ bytes : Bytes, 8 ≤ bytes.length ∧ HexForm text bytes := by
  constructor
  · rintro ⟨long, even, all⟩
    obtain ⟨bytes, spelled, length⟩ := @exists_bytes_of_digits (strip text).toList all
      ((strip text).length / 2) (by rw [String.length_toList]; omega)
    obtain ⟨front, back, whole, frontBlank, backBlank⟩ := stripOf_split isWhitespace text
    refine ⟨bytes, ?_, front, _, back, whole, frontBlank, backBlank, spelled⟩
    rw [minHexMaterialChars] at long
    omega
  · rintro ⟨bytes, long, form⟩
    obtain ⟨digits, stripped, spelled⟩ := form.strip_eq
    obtain ⟨-, all, length⟩ := fromHexChars_digits spelled
    rw [LongHex, stripped, String.length_ofList, String.toList_ofList, length,
      minHexMaterialChars]
    exact ⟨by omega, by omega, all⟩

/-- A hex form of eight bytes or more contributes these bytes. -/
theorem keyMaterial_of_hexForm {text : String} {bytes : Bytes} (long : 8 ≤ bytes.length)
    (form : HexForm text bytes) : keyMaterial text = bytes := by
  obtain ⟨digits, stripped, spelled⟩ := form.strip_eq
  rw [keyMaterial_eq, if_pos (longHex_iff.mpr ⟨bytes, long, form⟩), fromHex, stripped,
    String.toList_ofList, (fromHexChars_digits spelled).1]
  rfl

theorem keyMaterial_of_not_longHex {text : String} (short : ¬ LongHex text) :
    keyMaterial text = encodeUtf8 (strip text) := by
  rw [keyMaterial_eq, if_neg short]

/-- A hex form of no bytes contributes none. -/
theorem keyMaterial_of_hexForm_nil {text : String} (form : HexForm text []) :
    keyMaterial text = [] := by
  obtain ⟨digits, stripped, spelled⟩ := form.strip_eq
  have none : digits = [] := List.map_eq_nil_iff.mp spelled
  have short : ¬ LongHex text := by
    rintro ⟨long, -⟩
    rw [stripped, none] at long
    exact absurd long (by decide)
  rw [keyMaterial_of_not_longHex short, stripped, none, encodeUtf8, toUTF8_toList]
  rfl

/-- Whatever BLAKE2b is, the hex form of a secret and a salt gives the key of their
bytes, and any other text is hashed as it stands between its blanks. -/
theorem deriveCommandKey_reads_hex (blake2b : Blake2b) :
    (∀ (secret salt : Bytes), 8 ≤ secret.length → (salt = [] ∨ 8 ≤ salt.length) →
      ∀ secretText saltText, HexForm secretText secret → HexForm saltText salt →
        deriveCommandKeyOf blake2b (.text secretText) (.text saltText) =
          deriveCommandKeyOf blake2b (.bytes secret) (.bytes salt) ∧
        deriveCommandKeyOf blake2b (.bytes secret) (.bytes salt) =
          .ok (blake2b (encodeUtf8 commandKeyLabel) (secret ++ salt)).toList) ∧
    ∀ text, (¬ ∃ bytes : Bytes, 8 ≤ bytes.length ∧ HexForm text bytes) →
      (KeyInput.text text).material = encodeUtf8 (strip text) := by
  constructor
  · intro secret salt long short secretText saltText secretForm saltForm
    have secretBytes : (KeyInput.text secretText).material = secret := by
      rw [KeyInput.material_text, keyMaterial_of_hexForm long secretForm]
    have saltBytes : (KeyInput.text saltText).material = salt := by
      rw [KeyInput.material_text]
      rcases short with rfl | long
      · exact keyMaterial_of_hexForm_nil saltForm
      · exact keyMaterial_of_hexForm long saltForm
    have filled : secret ≠ [] := by
      rintro rfl
      exact absurd long (by decide)
    rw [deriveCommandKeyOf_eq, deriveCommandKeyOf_eq, secretBytes, saltBytes,
      KeyInput.material_bytes, KeyInput.material_bytes, if_neg filled]
    exact ⟨rfl, rfl⟩
  · intro text plain
    have short : ¬ LongHex text := fun long => plain (longHex_iff.mp long)
    rw [KeyInput.material_text, keyMaterial_of_not_longHex short]

/-! ## The verifier's derivation -/

namespace FirmwareVerifier

def commandKeyLabel : String := "HK-HOUSEHOLD-CMD-v1"

/-- `derive_command_key` of the verifier, which takes the texts as they are. -/
def deriveCommandKey (blake2b : Blake2b) (recoverySecret salt : String) : Except Reject Bytes :=
  let material := encodeUtf8 (recoverySecret ++ salt)
  if material = [] then firmwareReject "empty key material"
  else .ok (blake2b (encodeUtf8 commandKeyLabel) material).toList

end FirmwareVerifier

/-- Both derivations reject, or both return the same key. -/
def KeysAgree (blake2b : Blake2b) (recoverySecret salt : String) : Prop :=
  match FirmwareVerifier.deriveCommandKey blake2b recoverySecret salt,
      deriveCommandKey blake2b recoverySecret salt with
  | .ok theirs, .ok ours => theirs = ours
  | .error _, .error _ => True
  | _, _ => False

/-- Text that the integration takes as it is. -/
def PlainText (text : String) : Prop := strip text = text ∧ ¬ LongHex text

theorem encodeUtf8_append (first second : String) :
    encodeUtf8 (first ++ second) = encodeUtf8 first ++ encodeUtf8 second := by
  rw [encodeUtf8, encodeUtf8, encodeUtf8, toUTF8_toList, toUTF8_toList, toUTF8_toList,
    String.toList_append, List.flatMap_append]

@[simp]
theorem encodeUtf8_eq_nil_iff (text : String) : encodeUtf8 text = [] ↔ text = "" := by
  rw [encodeUtf8, toUTF8_toList]
  constructor
  · intro none
    have short := length_le_utf8 text.toList
    rw [none] at short
    exact String.toList_eq_nil_iff.mp (List.eq_nil_of_length_eq_zero (Nat.le_zero.mp short))
  · rintro rfl
    rfl

/-- A hex text contributes half as many bytes as it has digits. -/
theorem length_keyMaterial_of_longHex {text : String} (long : LongHex text) :
    8 ≤ (keyMaterial text).length ∧
      2 * (keyMaterial text).length = (strip text).length := by
  obtain ⟨bytes, enough, form⟩ := longHex_iff.mp long
  obtain ⟨digits, stripped, spelled⟩ := form.strip_eq
  rw [keyMaterial_of_hexForm enough form, stripped, String.length_ofList,
    (fromHexChars_digits spelled).2.2]
  exact ⟨enough, rfl⟩

theorem keyMaterial_eq_nil_iff (text : String) : keyMaterial text = [] ↔ strip text = "" := by
  by_cases long : LongHex text
  · obtain ⟨some, double⟩ := length_keyMaterial_of_longHex long
    constructor
    · intro none
      rw [none] at some
      exact absurd some (by decide)
    · intro none
      rw [none] at double
      change 2 * _ = 0 at double
      omega
  · rw [keyMaterial_of_not_longHex long, encodeUtf8_eq_nil_iff]

theorem length_encodeUtf8_strip_le (text : String) :
    (encodeUtf8 (strip text)).length ≤ (encodeUtf8 text).length := by
  by_cases same : strip text = text
  · rw [same]
  · exact (utf8_stripOf_lt same).le

theorem keyMaterial_of_plainText {text : String} (plain : PlainText text) :
    keyMaterial text = encodeUtf8 text := by
  rw [keyMaterial_of_not_longHex plain.2, plain.1]

/-- Any other text contributes fewer bytes than it has. -/
theorem length_keyMaterial_lt {text : String} (other : ¬ PlainText text) :
    (keyMaterial text).length < (encodeUtf8 text).length := by
  by_cases long : LongHex text
  · obtain ⟨some, double⟩ := length_keyMaterial_of_longHex long
    have kept := length_encodeUtf8_strip_le text
    have digits := length_le_utf8 (strip text).toList
    rw [String.length_toList, ← toUTF8_toList] at digits
    change _ ≤ (encodeUtf8 (strip text)).length at digits
    omega
  · rw [keyMaterial_of_not_longHex long]
    exact utf8_stripOf_lt fun same => other ⟨same, long⟩

theorem length_keyMaterial_le (text : String) :
    (keyMaterial text).length ≤ (encodeUtf8 text).length := by
  by_cases plain : PlainText text
  · rw [keyMaterial_of_plainText plain]
  · exact (length_keyMaterial_lt plain).le

/-- The two materials are the same for plain texts only: for any other the
integration's is shorter. -/
theorem materials_eq_iff (recoverySecret salt : String) :
    keyMaterial recoverySecret ++ keyMaterial salt = encodeUtf8 (recoverySecret ++ salt) ↔
      PlainText recoverySecret ∧ PlainText salt := by
  rw [encodeUtf8_append]
  constructor
  · intro same
    have lengths := congrArg List.length same
    rw [List.length_append, List.length_append] at lengths
    have secretLe := length_keyMaterial_le recoverySecret
    have saltLe := length_keyMaterial_le salt
    constructor
    · by_contra other
      have shorter := length_keyMaterial_lt other
      omega
    · by_contra other
      have shorter := length_keyMaterial_lt other
      omega
  · rintro ⟨secretPlain, saltPlain⟩
    rw [keyMaterial_of_plainText secretPlain, keyMaterial_of_plainText saltPlain]

/-- Under a given BLAKE2b: nothing is given, or there is a secret and the two
materials have one digest. -/
theorem keysAgree_iff (blake2b : Blake2b) (recoverySecret salt : String) :
    KeysAgree blake2b recoverySecret salt ↔
      (recoverySecret = "" ∧ salt = "") ∨
      (strip recoverySecret ≠ "" ∧
        blake2b (encodeUtf8 commandKeyLabel) (encodeUtf8 (recoverySecret ++ salt)) =
          blake2b (encodeUtf8 commandKeyLabel)
            (keyMaterial recoverySecret ++ keyMaterial salt)) := by
  have ours : deriveCommandKey blake2b recoverySecret salt =
      if keyMaterial recoverySecret = [] then invalid "recovery_secret: must not be empty"
      else .ok (blake2b (encodeUtf8 commandKeyLabel)
        (keyMaterial recoverySecret ++ keyMaterial salt)).toList :=
    deriveCommandKeyOf_eq blake2b (.text recoverySecret) (.text salt)
  have empty : encodeUtf8 (recoverySecret ++ salt) = [] ↔ recoverySecret = "" ∧ salt = "" := by
    rw [encodeUtf8_eq_nil_iff, String.append_eq_empty_iff]
  rw [KeysAgree, ours, FirmwareVerifier.deriveCommandKey]
  by_cases none : recoverySecret = "" ∧ salt = ""
  · have blank : keyMaterial recoverySecret = [] :=
      (keyMaterial_eq_nil_iff _).mpr (by rw [none.1]; decide)
    rw [if_pos (empty.mpr none), if_pos blank]
    exact iff_of_true trivial (Or.inl none)
  · rw [if_neg (fun nothing => none (empty.mp nothing))]
    by_cases blank : strip recoverySecret = ""
    · rw [if_pos ((keyMaterial_eq_nil_iff _).mpr blank)]
      refine iff_of_false id ?_
      rintro (nothing | ⟨filled, -⟩)
      · exact none nothing
      · exact filled blank
    · rw [if_neg (fun nothing => blank ((keyMaterial_eq_nil_iff _).mp nothing))]
      exact ⟨fun same => Or.inr ⟨blank, Vector.toList_inj.mp same⟩,
        fun either => congrArg Vector.toList (either.resolve_left none).2⟩

/-- A BLAKE2b that tells one material from all others. -/
def markingBlake2b (marked : Bytes) : Blake2b := fun _ material =>
  Vector.replicate _ (if material = marked then 1 else 0)

theorem markingBlake2b_eq_iff {label marked material : Bytes} :
    markingBlake2b marked label marked = markingBlake2b marked label material ↔
      material = marked := by
  unfold markingBlake2b
  rw [if_pos rfl]
  constructor
  · intro digests
    by_contra apart
    rw [if_neg apart] at digests
    exact absurd digests (by decide)
  · intro same
    rw [if_pos same]

theorem plain_of_keysAgree {recoverySecret salt : String}
    (given : ¬ (recoverySecret = "" ∧ salt = ""))
    (agree : KeysAgree (markingBlake2b (encodeUtf8 (recoverySecret ++ salt)))
      recoverySecret salt) :
    recoverySecret ≠ "" ∧ PlainText recoverySecret ∧ PlainText salt := by
  obtain ⟨filled, digests⟩ := ((keysAgree_iff _ _ _).mp agree).resolve_left given
  obtain ⟨secretPlain, saltPlain⟩ := (materials_eq_iff recoverySecret salt).mp
    (markingBlake2b_eq_iff.mp digests)
  rw [secretPlain.1] at filled
  exact ⟨filled, secretPlain, saltPlain⟩

/-- The verifier agrees with the integration, whatever BLAKE2b is, exactly when
both texts are empty, or there is a secret and both are plain. -/
theorem keysAgree_iff_plain (recoverySecret salt : String) :
    (∀ blake2b, KeysAgree blake2b recoverySecret salt) ↔
      (recoverySecret = "" ∧ salt = "") ∨
      (recoverySecret ≠ "" ∧ PlainText recoverySecret ∧ PlainText salt) := by
  constructor
  · intro agree
    by_cases none : recoverySecret = "" ∧ salt = ""
    · exact Or.inl none
    · exact Or.inr (plain_of_keysAgree none (agree _))
  · rintro (none | ⟨filled, secretPlain, saltPlain⟩) blake2b
    · exact (keysAgree_iff blake2b recoverySecret salt).mpr (Or.inl none)
    · refine (keysAgree_iff blake2b recoverySecret salt).mpr (Or.inr ⟨?_, ?_⟩)
      · rw [secretPlain.1]
        exact filled
      · rw [(materials_eq_iff recoverySecret salt).mpr ⟨secretPlain, saltPlain⟩]

theorem hexForm_hexText (bytes : Bytes) : HexForm (hexText bytes) bytes := by
  have lower : ∀ value < 16, (Json.hexDigit value).toLower = Json.hexDigit value := by decide
  refine ⟨[], bytes.flatMap hexByte, [], ?_, by simp, by simp, ?_⟩
  · rw [List.nil_append, List.append_nil, hexText]
  · rw [List.map_flatMap]
    congr 1
    funext byte
    have bounded := byte.toNat_lt
    rw [hexByte, List.map_cons, List.map_cons, List.map_nil, lower _ (by omega),
      lower _ (by omega)]

/-- The hex form of a 32-byte secret and a 16-byte salt, as a node exports them. -/
def exportedSecret : String := hexText (List.replicate 32 0xa1)
def exportedSalt : String := hexText (List.replicate 16 0xb2)

theorem longHex_exportedSecret : LongHex exportedSecret :=
  longHex_iff.mpr ⟨_, by decide, hexForm_hexText _⟩

/-- Not every BLAKE2b gives the exported hex the key of the bytes it stands for, and
none gives a secret of blanks the same verdict. -/
theorem exported_keys_differ :
    (¬ ∀ blake2b, KeysAgree blake2b exportedSecret exportedSalt) ∧
      ∀ blake2b, ¬ KeysAgree blake2b " " "" := by
  constructor
  · intro agree
    have given : ¬ (exportedSecret = "" ∧ exportedSalt = "") := by
      rintro ⟨none, -⟩
      have long := longHex_exportedSecret.1
      rw [none] at long
      exact absurd long (by decide)
    obtain ⟨-, plain, -⟩ := plain_of_keysAgree given (agree _)
    exact plain.2 longHex_exportedSecret
  · intro blake2b agree
    rcases (keysAgree_iff blake2b " " "").mp agree with ⟨none, -⟩ | ⟨filled, -⟩
    · exact absurd none (by decide)
    · exact filled (by decide)

end HomeKeyHousehold
