import HomeKeyHousehold.Library.Json
import Mathlib.Tactic.IntervalCases

/-!
# What the JSON writer writes, the reader reads back

The reader inverts the writer on every document, whatever white space the
writer puts after its separators.  Strings go through their UTF-16 units, and
a numeral is recognised because nothing that follows a written value can
extend it.
-/

namespace Library.Json

/-! ## Strings -/

theorem hexValue_hexDigit : ∀ value < 16, hexValue (hexDigit value) = some value := by
  decide

/-- Four hexadecimal digits spell their unit. -/
theorem scanUnits_escapeUnit {unit : Nat} (small : unit < 0x10000) (rest : List Char) :
    scanUnits (escapeUnit unit ++ rest) =
      (scanUnits rest).map fun scanned => (unit :: scanned.1, scanned.2) := by
  have spelled : hexUnit (hexDigit (unit / 4096 % 16)) (hexDigit (unit / 256 % 16))
      (hexDigit (unit / 16 % 16)) (hexDigit (unit % 16)) = some unit := by
    simp only [hexUnit, hexValue_hexDigit _ (Nat.mod_lt _ (by decide : 16 > 0)),
      Option.some.injEq]
    omega
  simp only [escapeUnit, List.cons_append, List.nil_append, scanUnits, spelled]
  cases scanUnits rest <;> rfl

/-- A character is never a surrogate. -/
theorem not_surrogate (ch : Char) : ch.toNat < 0xD800 ∨ 0xE000 ≤ ch.toNat ∧ ch.toNat < 0x110000 := by
  have valid := ch.valid
  rcases valid with low | high
  · exact Or.inl low
  · refine Or.inr ⟨?_, high.2⟩
    have above : 0xDFFF < ch.toNat := high.1
    omega

theorem scanUnits_utf16 (ch : Char) (rest : List Char) :
    scanUnits ((utf16 ch).flatMap escapeUnit ++ rest) =
      (scanUnits rest).map fun scanned => (utf16 ch ++ scanned.1, scanned.2) := by
  unfold utf16
  have bounds := not_surrogate ch
  split
  · next small =>
      simpa using scanUnits_escapeUnit small rest
  · next large =>
      have high : 0xD800 + (ch.toNat - 0x10000) / 0x400 < 0x10000 := by omega
      have low : 0xDC00 + (ch.toNat - 0x10000) % 0x400 < 0x10000 := by omega
      simp only [List.flatMap_cons, List.flatMap_nil, List.append_nil, List.append_assoc]
      rw [scanUnits_escapeUnit high, scanUnits_escapeUnit low, Option.map_map]
      rfl

/-- A one-letter escape gives the single unit of its character. -/
theorem scanUnits_simpleEscape (escape : Char) {ch : Char}
    (known : simpleEscape escape = some ch) (rest : List Char) :
    scanUnits ('\\' :: escape :: rest) =
      (scanUnits rest).map fun scanned => (ch.toNat :: scanned.1, scanned.2) := by
  have notUnit : escape ≠ 'u' := by
    rintro rfl
    cases known
  rw [scanUnits.eq_def]
  split
  · next impossible => cases impossible
  · next first => cases first
  · next equal =>
      obtain ⟨_, tail⟩ := List.cons.inj equal
      exact absurd (List.cons.inj tail).1 notUnit
  · next equal =>
      obtain ⟨_, tail⟩ := List.cons.inj equal
      obtain ⟨rfl, rfl⟩ := List.cons.inj tail
      rw [known]
      cases scanUnits rest <;> rfl
  · next noEscape equal =>
      obtain ⟨rfl, tail⟩ := List.cons.inj equal
      exact (noEscape escape rest rfl tail.symm).elim

theorem scanUnits_plain {ch : Char} (quote : ch ≠ '"') (backslash : ch ≠ '\\')
    (printable : 0x20 ≤ ch.toNat) (rest : List Char) :
    scanUnits (ch :: rest) =
      (scanUnits rest).map fun scanned => (ch.toNat :: scanned.1, scanned.2) := by
  have plain : ¬ (ch = '\\' ∨ ch.toNat < 0x20) := by
    rintro (same | control)
    · exact backslash same
    · omega
  rw [scanUnits.eq_def]
  split
  · next impossible => cases impossible
  · next first => exact absurd (List.cons.inj first).1 quote
  · next first => exact absurd (List.cons.inj first).1 backslash
  · next first => exact absurd (List.cons.inj first).1 backslash
  · next equal =>
      obtain ⟨rfl, rfl⟩ := List.cons.inj equal
      rw [if_neg plain]
      cases scanUnits rest <;> rfl

theorem scanUnits_escapeChar (ch : Char) (rest : List Char) :
    scanUnits (escapeChar ch ++ rest) =
      (scanUnits rest).map fun scanned => (utf16 ch ++ scanned.1, scanned.2) := by
  by_cases quote : ch = '"'
  · subst quote; exact scanUnits_simpleEscape '"' rfl rest
  by_cases backslash : ch = '\\'
  · subst backslash; exact scanUnits_simpleEscape '\\' rfl rest
  by_cases newline : ch = '\n'
  · subst newline; exact scanUnits_simpleEscape 'n' rfl rest
  by_cases carriage : ch = '\r'
  · subst carriage; exact scanUnits_simpleEscape 'r' rfl rest
  by_cases tab : ch = '\t'
  · subst tab; exact scanUnits_simpleEscape 't' rfl rest
  by_cases feed : ch = '\x0c'
  · subst feed; exact scanUnits_simpleEscape 'f' rfl rest
  by_cases backspace : ch = '\x08'
  · subst backspace; exact scanUnits_simpleEscape 'b' rfl rest
  simp only [escapeChar, quote, backslash, newline, carriage, tab, feed, backspace, if_false]
  split
  · next printable =>
      have unit : utf16 ch = [ch.toNat] := if_pos (by omega)
      rw [List.singleton_append, scanUnits_plain quote backslash printable.1, unit]
      rfl
  · exact scanUnits_utf16 ch rest

/-- The reader finds the units of a written string and stops at its quote. -/
theorem scanUnits_escapeString (text : List Char) (rest : List Char) :
    scanUnits (text.flatMap escapeChar ++ '"' :: rest) = some (text.flatMap utf16, rest) := by
  induction text with
  | nil => rfl
  | cons ch text ih =>
      rw [List.flatMap_cons, List.append_assoc, scanUnits_escapeChar, ih]
      rfl

theorem decodeUnits_cons {unit : Nat} (single : isHigh unit = false) (units : List Nat) :
    decodeUnits (unit :: units) = ofUnit unit :: decodeUnits units := by
  cases units with
  | nil => rfl
  | cons next rest => simp [decodeUnits, single]

theorem decodeUnits_utf16 (ch : Char) (units : List Nat) :
    decodeUnits (utf16 ch ++ units) = ch :: decodeUnits units := by
  have bounds := not_surrogate ch
  unfold utf16
  split
  · next small =>
      have notHigh : isHigh ch.toNat = false := by
        simp only [isHigh, Bool.and_eq_false_iff, decide_eq_false_iff_not]
        omega
      have notLow : isLow ch.toNat = false := by
        simp only [isLow, Bool.and_eq_false_iff, decide_eq_false_iff_not]
        omega
      rw [List.singleton_append, decodeUnits_cons notHigh]
      simp [ofUnit, notHigh, notLow]
  · next large =>
      have high : isHigh (0xD800 + (ch.toNat - 0x10000) / 0x400) = true := by
        simp only [isHigh, Bool.and_eq_true, decide_eq_true_eq]
        omega
      have low : isLow (0xDC00 + (ch.toNat - 0x10000) % 0x400) = true := by
        simp only [isLow, Bool.and_eq_true, decide_eq_true_eq]
        omega
      have joined : 0x10000 + (0xD800 + (ch.toNat - 0x10000) / 0x400 - 0xD800) * 0x400 +
          (0xDC00 + (ch.toNat - 0x10000) % 0x400 - 0xDC00) = ch.toNat := by
        omega
      simp only [List.cons_append, List.nil_append, decodeUnits, high, low, Bool.and_self,
        if_true, joined, Char.ofNat_toNat]

theorem decodeUnits_flatMap (text : List Char) : decodeUnits (text.flatMap utf16) = text := by
  induction text with
  | nil => rfl
  | cons ch text ih => rw [List.flatMap_cons, decodeUnits_utf16, ih]

theorem scanString_write (text : String) (rest : List Char) :
    scanString (escapeString text ++ '"' :: rest) = some (text, rest) := by
  simp only [scanString, escapeString, scanUnits_escapeString, decodeUnits_flatMap,
    String.ofList_toList]

/-! ## Numerals -/

/-- What may follow a written value: nothing that could extend a numeral. -/
def Follows (rest : List Char) : Prop :=
  ∀ ch tail, rest = ch :: tail →
    ch.isDigit = false ∧ ch ≠ '.' ∧ ch ≠ 'e' ∧ ch ≠ 'E'

theorem follows_nil : Follows [] := by
  intro ch tail impossible
  cases impossible

theorem follows_cons {ch : Char} (plain : ch = ',' ∨ ch = ']' ∨ ch = '}')
    (rest : List Char) : Follows (ch :: rest) := by
  rintro other tail equal
  obtain ⟨rfl, _⟩ := List.cons.inj equal
  rcases plain with rfl | rfl | rfl <;> decide

/-- Text that does not go on with a digit. -/
def NoDigit (rest : List Char) : Prop := ∀ ch tail, rest = ch :: tail → ch.isDigit = false

theorem Follows.noDigit {rest : List Char} (follows : Follows rest) : NoDigit rest :=
  fun ch tail equal => (follows ch tail equal).1

theorem takeWhile_digits {digits rest : List Char} (all : ∀ ch ∈ digits, ch.isDigit = true)
    (stop : NoDigit rest) : (digits ++ rest).takeWhile Char.isDigit = digits := by
  rw [List.takeWhile_append_of_pos all]
  cases rest with
  | nil => simp
  | cons ch tail => simp [stop ch tail rfl]

theorem dropWhile_digits {digits rest : List Char} (all : ∀ ch ∈ digits, ch.isDigit = true)
    (stop : NoDigit rest) : (digits ++ rest).dropWhile Char.isDigit = rest := by
  rw [List.dropWhile_append_of_pos all]
  cases rest with
  | nil => rfl
  | cons ch tail => simp [stop ch tail rfl]

theorem toDigits_all (value : Nat) : ∀ ch ∈ Nat.toDigits 10 value, ch.isDigit = true :=
  fun _ digit => Nat.isDigit_of_mem_toDigits (by decide) (by decide) digit

/-- A decimal numeral is `0`, or starts with another digit. -/
theorem toDigits_head (value : Nat) :
    Nat.toDigits 10 value = ['0'] ∨
      ∃ ch rest, Nat.toDigits 10 value = ch :: rest ∧ ch ≠ '0' := by
  induction value using Nat.strongRecOn with
  | ind value ih =>
      by_cases small : value < 10
      · rw [Nat.toDigits_of_lt_base small]
        by_cases zero : value = 0
        · subst zero; exact Or.inl rfl
        · have positive : 0 < value := Nat.pos_of_ne_zero zero
          refine Or.inr ⟨value.digitChar, [], rfl, ?_⟩
          interval_cases value <;> decide
      · have split := @Nat.toDigits_of_base_le 10 value (by decide) (by omega)
        rw [split]
        rcases ih (value / 10) (by omega) with zero | ⟨ch, rest, head, nonzero⟩
        · exfalso
          have back := @Nat.ofDigitChars_ten_toDigits (value / 10)
          rw [zero] at back
          have : Nat.ofDigitChars 10 ['0'] 0 = 0 := by decide
          omega
        · exact Or.inr ⟨ch, rest ++ [(value % 10).digitChar], by rw [head]; rfl, nonzero⟩

theorem scanWhole_toDigits (value : Nat) {rest : List Char} (stop : NoDigit rest) :
    scanWhole (Nat.toDigits 10 value ++ rest) = some (Nat.toDigits 10 value, rest) := by
  have all := toDigits_all value
  rcases toDigits_head value with zero | ⟨ch, tail, head, nonzero⟩
  · rw [zero]; rfl
  · rw [head] at all ⊢
    have digit : ch.isDigit = true := all ch List.mem_cons_self
    have digits : ∀ other ∈ tail, other.isDigit = true :=
      fun other inside => all other (List.mem_cons_of_mem _ inside)
    simp only [List.cons_append, scanWhole, nonzero, digit, if_true, if_false,
      takeWhile_digits digits stop, dropWhile_digits digits stop]

theorem scanMinus_toDigits (value : Nat) (rest : List Char) :
    scanMinus (Nat.toDigits 10 value ++ rest) = (false, Nat.toDigits 10 value ++ rest) := by
  have all := toDigits_all value
  rcases toDigits_head value with zero | ⟨ch, digits, head, _⟩
  · rw [zero]; rfl
  · rw [head] at all ⊢
    rw [List.cons_append, scanMinus]
    intro tail equal
    obtain ⟨rfl, _⟩ := List.cons.inj equal
    exact absurd (all '-' List.mem_cons_self) (by decide)

theorem scanFraction_of_ne {text : List Char} (other : ∀ tail, text ≠ '.' :: tail) :
    scanFraction text = ([], text) := by
  unfold scanFraction
  split
  · next tail => exact absurd rfl (other tail)
  · rfl

theorem scanExponent_of_follows {rest : List Char} (follows : Follows rest) :
    scanExponent rest = (none, rest) := by
  cases rest with
  | nil => rfl
  | cons ch tail =>
      obtain ⟨_, _, lower, upper⟩ := follows ch tail rfl
      simp only [scanExponent, lower, upper, or_self, if_false]

theorem scanNumber_writeInt (value : Int) {rest : List Char} (follows : Follows rest) :
    scanNumber (writeInt value ++ rest) = some (.int value, rest) := by
  have noPoint : ∀ tail, rest ≠ '.' :: tail :=
    fun tail equal => (follows '.' tail equal).2.1 rfl
  unfold writeInt
  split
  · next negative =>
      have magnitude : -(value.natAbs : Int) = value := by omega
      simp only [List.cons_append, scanNumber, scanMinus, scanWhole_toDigits _ follows.noDigit,
        scanFraction_of_ne noPoint, scanExponent_of_follows follows, and_self, if_true,
        Nat.ofDigitChars_ten_toDigits, magnitude]
  · next nonnegative =>
      have magnitude : (value.natAbs : Int) = value := by omega
      simp only [scanNumber, scanMinus_toDigits, scanWhole_toDigits _ follows.noDigit,
        scanFraction_of_ne noPoint, scanExponent_of_follows follows, and_self, if_true,
        Nat.ofDigitChars_ten_toDigits, Bool.false_eq_true, if_false, magnitude]

theorem scanSign_toDigits (value : Nat) (rest : List Char) :
    scanSign (Nat.toDigits 10 value ++ rest) = (false, Nat.toDigits 10 value ++ rest) := by
  have all := toDigits_all value
  rcases toDigits_head value with zero | ⟨ch, digits, head, _⟩
  · rw [zero]; rfl
  · rw [head] at all ⊢
    have digit := all ch List.mem_cons_self
    rw [List.cons_append, scanSign]
    · intro tail equal
      obtain ⟨rfl, _⟩ := List.cons.inj equal
      exact absurd digit (by decide)
    · intro tail equal
      obtain ⟨rfl, _⟩ := List.cons.inj equal
      exact absurd digit (by decide)

/-- A written exponent is read back whole. -/
theorem scanExponent_write (value : Int) {rest : List Char} (follows : Follows rest) :
    scanExponent ('e' :: (writeInt value ++ rest)) = (some value, rest) := by
  have nonempty : ∀ magnitude, Nat.toDigits 10 magnitude ≠ [] :=
    fun magnitude => Nat.toDigits_ne_nil
  have stop := follows.noDigit
  unfold writeInt
  split
  · next negative =>
      have magnitude : -(value.natAbs : Int) = value := by omega
      simp only [List.cons_append, scanExponent, true_or, if_true, scanSign,
        takeWhile_digits (toDigits_all _) stop, dropWhile_digits (toDigits_all _) stop]
      split
      · next empty => exact absurd empty (nonempty _)
      · simp only [Nat.ofDigitChars_ten_toDigits, magnitude]
  · next nonnegative =>
      have magnitude : (value.natAbs : Int) = value := by omega
      simp only [scanExponent, true_or, if_true, scanSign_toDigits,
        takeWhile_digits (toDigits_all _) stop, dropWhile_digits (toDigits_all _) stop]
      split
      · next empty => exact absurd empty (nonempty _)
      · simp only [Nat.ofDigitChars_ten_toDigits, Bool.false_eq_true, if_false, magnitude]

theorem scanNumber_writeNumeral (negative : Bool) (mantissa : Nat) (exponent : Int)
    {rest : List Char} (follows : Follows rest) :
    scanNumber (writeNumeral negative mantissa exponent ++ rest) =
      some (.float (.ofNumeral negative mantissa exponent), rest) := by
  have stop : NoDigit ('e' :: (writeInt exponent ++ rest)) := by
    rintro ch tail equal
    obtain ⟨rfl, _⟩ := List.cons.inj equal
    decide
  have noPoint : ∀ tail, 'e' :: (writeInt exponent ++ rest) ≠ '.' :: tail := by
    intro tail equal
    cases equal
  have sign : scanMinus (writeNumeral negative mantissa exponent ++ rest) =
      (negative, Nat.toDigits 10 mantissa ++ 'e' :: (writeInt exponent ++ rest)) := by
    cases negative with
    | true => simp [writeNumeral, scanMinus]
    | false => simp [writeNumeral, scanMinus_toDigits]
  simp only [scanNumber, sign, scanWhole_toDigits _ stop, scanFraction_of_ne noPoint,
    scanExponent_write _ follows, reduceCtorEq, and_false, if_false, List.append_nil,
    Nat.ofDigitChars_ten_toDigits, Option.getD_some, List.length_nil, Nat.cast_zero, sub_zero]

/-! ## Documents -/

theorem skipSpace_cons {ch : Char} (plain : isSpace ch = false) (tail : List Char) :
    skipSpace (ch :: tail) = ch :: tail := by
  simp [skipSpace, plain]

theorem skipSpace_gap {gap : List Char} (spaces : ∀ ch ∈ gap, isSpace ch = true)
    (text : List Char) : skipSpace (gap ++ text) = skipSpace text :=
  List.dropWhile_append_of_pos spaces

/-- A character that can begin a written value. -/
def Begins (ch : Char) : Prop := isSpace ch = false ∧ ch ≠ ']' ∧ ch ≠ '}'

theorem begins_of_isDigit {ch : Char} (digit : ch.isDigit = true) : Begins ch := by
  refine ⟨?_, ?_, ?_⟩
  · simp only [isSpace, Bool.or_eq_false_iff, decide_eq_false_iff_not]
    refine ⟨⟨⟨?_, ?_⟩, ?_⟩, ?_⟩ <;> (rintro rfl; exact absurd digit (by decide))
  · rintro rfl
    exact absurd digit (by decide)
  · rintro rfl
    exact absurd digit (by decide)

theorem toDigits_begins (value : Nat) (rest : List Char) :
    ∃ ch tail, Nat.toDigits 10 value ++ rest = ch :: tail ∧ Begins ch ∧ ch.isDigit = true := by
  have all := toDigits_all value
  cases digits : Nat.toDigits 10 value with
  | nil => exact absurd digits Nat.toDigits_ne_nil
  | cons ch tail =>
      rw [digits] at all
      have digit := all ch List.mem_cons_self
      exact ⟨ch, tail ++ rest, rfl, begins_of_isDigit digit, digit⟩

theorem writeInt_begins (value : Int) (rest : List Char) :
    ∃ ch tail, writeInt value ++ rest = ch :: tail ∧ Begins ch := by
  unfold writeInt
  split
  · exact ⟨'-', _, rfl, by decide, by decide, by decide⟩
  · obtain ⟨ch, tail, head, begins, _⟩ := toDigits_begins value.natAbs rest
    exact ⟨ch, tail, head, begins⟩

theorem writeNumeral_begins (negative : Bool) (mantissa : Nat) (exponent : Int)
    (rest : List Char) :
    ∃ ch tail, writeNumeral negative mantissa exponent ++ rest = ch :: tail ∧ Begins ch := by
  cases negative with
  | true => exact ⟨'-', _, rfl, by decide, by decide, by decide⟩
  | false =>
      obtain ⟨ch, tail, head, begins, _⟩ :=
        toDigits_begins mantissa ('e' :: writeInt exponent ++ rest)
      refine ⟨ch, tail, ?_, begins⟩
      simpa [writeNumeral] using head

theorem write_begins (gap : List Char) (value : Json) (rest : List Char) :
    ∃ ch tail, write gap value ++ rest = ch :: tail ∧ Begins ch := by
  cases value with
  | null => exact ⟨'n', _, rfl, by decide, by decide, by decide⟩
  | bool value => cases value <;> exact ⟨_, _, rfl, by decide, by decide, by decide⟩
  | int value => simpa only [write] using writeInt_begins value rest
  | float value =>
      cases value with
      | nan => exact ⟨'N', _, rfl, by decide, by decide, by decide⟩
      | infinity negative => cases negative <;> exact ⟨_, _, rfl, by decide, by decide, by decide⟩
      | finite value =>
          rw [write, writeFloat]
          exact writeNumeral_begins _ _ _ rest
  | str value => exact ⟨'"', _, rfl, by decide, by decide, by decide⟩
  | arr items => cases items <;> exact ⟨'[', _, by rw [write]; rfl, by decide, by decide, by decide⟩
  | obj members =>
      rcases members with _ | ⟨⟨name, value⟩, rest⟩ <;>
        exact ⟨'{', _, by rw [write]; rfl, by decide, by decide, by decide⟩

theorem skipSpace_write (gap : List Char) (value : Json) (rest : List Char) :
    skipSpace (write gap value ++ rest) = write gap value ++ rest := by
  obtain ⟨ch, tail, head, plain, _⟩ := write_begins gap value rest
  rw [head, skipSpace_cons plain]

theorem scanValue_digit {ch : Char} (digit : ch.isDigit = true) (depth : Nat)
    (tail : List Char) : scanValue (depth + 1) (ch :: tail) = scanNumber (ch :: tail) := by
  rw [scanValue]
  all_goals
    intro rest equal
    obtain ⟨rfl, _⟩ := List.cons.inj equal
    exact absurd digit (by decide)

theorem scanValue_minus {ch : Char} (digit : ch.isDigit = true) (depth : Nat)
    (tail : List Char) :
    scanValue (depth + 1) ('-' :: ch :: tail) = scanNumber ('-' :: ch :: tail) := by
  rw [scanValue]
  all_goals
    intro rest equal
    cases equal
  exact absurd digit (by decide)

/-- The reader takes a written value off the head of a text. -/
def Reads (gap : List Char) (depth : Nat) (value : Json) : Prop :=
  ∀ rest, Follows rest → scanValue depth (write gap value ++ rest) = some (value, rest)

theorem scanValue_writeInt (depth : Nat) (value : Int) {rest : List Char}
    (follows : Follows rest) :
    scanValue (depth + 1) (writeInt value ++ rest) = some (.int value, rest) := by
  have number := scanNumber_writeInt value follows
  unfold writeInt at number ⊢
  split
  · next negative =>
      obtain ⟨ch, tail, head, _, digit⟩ := toDigits_begins value.natAbs rest
      rw [if_pos negative] at number
      rw [List.cons_append, head] at number ⊢
      rw [scanValue_minus digit, number]
  · next nonnegative =>
      obtain ⟨ch, tail, head, _, digit⟩ := toDigits_begins value.natAbs rest
      rw [if_neg nonnegative, head] at number
      rw [head, scanValue_digit digit, number]

theorem scanValue_writeNumeral (depth : Nat) (negative : Bool) (mantissa : Nat)
    (exponent : Int) {rest : List Char} (follows : Follows rest) :
    scanValue (depth + 1) (writeNumeral negative mantissa exponent ++ rest) =
      some (.float (.ofNumeral negative mantissa exponent), rest) := by
  have number := scanNumber_writeNumeral negative mantissa exponent follows
  obtain ⟨ch, tail, head, _, digit⟩ :=
    toDigits_begins mantissa ('e' :: (writeInt exponent ++ rest))
  cases negative with
  | true =>
      have text : writeNumeral true mantissa exponent ++ rest = '-' :: ch :: tail := by
        rw [← head]
        simp [writeNumeral]
      rw [text] at number ⊢
      rw [scanValue_minus digit, number]
  | false =>
      have text : writeNumeral false mantissa exponent ++ rest = ch :: tail := by
        rw [← head]
        simp [writeNumeral]
      rw [text] at number ⊢
      rw [scanValue_digit digit, number]

theorem scanValue_writeFloat (depth : Nat) (value : PyFloat) {rest : List Char}
    (follows : Follows rest) :
    scanValue (depth + 1) (writeFloat value ++ rest) = some (.float value, rest) := by
  cases value with
  | nan => rfl
  | infinity negative => cases negative <;> rfl
  | finite value =>
      rw [writeFloat, scanValue_writeNumeral depth _ _ _ follows,
        PyFloat.ofNumeral_shortest value]

theorem follows_writeItems (gap : List Char) (items : List Json) (rest : List Char) :
    Follows (writeItems gap items ++ rest) := by
  cases items with
  | nil => exact follows_cons (by decide) _
  | cons item items => exact follows_cons (by decide) _

theorem follows_writeMembers (gap : List Char) (members : List (String × Json))
    (rest : List Char) : Follows (writeMembers gap members ++ rest) := by
  cases members with
  | nil => exact follows_cons (by decide) _
  | cons member members => exact follows_cons (by decide) _

section Collections

variable {gap : List Char} (spaces : ∀ ch ∈ gap, isSpace ch = true) {depth : Nat}

include spaces

theorem scanItems_write (items : List Json) (each : ∀ item ∈ items, Reads gap depth item)
    (first : Json) (head : Reads gap depth first) (steps : Nat)
    (enough : items.length < steps) (rest : List Char) :
    scanItems (scanValue depth) steps (write gap first ++ (writeItems gap items ++ rest)) =
      some (first :: items, rest) := by
  obtain ⟨steps, rfl⟩ : ∃ fewer, steps = fewer + 1 := ⟨steps - 1, by omega⟩
  induction items generalizing first steps with
  | nil =>
      rw [scanItems, head _ (follows_writeItems gap [] rest)]
      simp only [writeItems, List.cons_append, List.nil_append,
        skipSpace_cons (show isSpace ']' = false by decide)]
  | cons item items ih =>
      obtain ⟨fewer, rfl⟩ : ∃ fewer, steps = fewer + 1 :=
        ⟨steps - 1, by simp only [List.length_cons] at enough; omega⟩
      have tail := ih (fun other inside => each other (List.mem_cons_of_mem _ inside)) item
        (each item List.mem_cons_self) fewer (by simpa using enough)
      rw [scanItems, head _ (follows_writeItems gap _ rest)]
      simp only [writeItems, List.cons_append, List.append_assoc,
        skipSpace_cons (show isSpace ',' = false by decide), skipSpace_gap spaces,
        skipSpace_write, tail]

theorem scanMember_write (name : String) (value : Json) (head : Reads gap depth value)
    {rest : List Char} (follows : Follows rest) :
    scanMember (scanValue depth)
        (writeString name ++ ':' :: (gap ++ write gap value) ++ rest) =
      some ((name, value), rest) := by
  simp only [writeString, List.cons_append, List.append_assoc, List.nil_append, scanMember,
    scanString_write, skipSpace_cons (show isSpace ':' = false by decide),
    skipSpace_gap spaces, skipSpace_write, head rest follows]

theorem scanMembers_write (members : List (String × Json))
    (each : ∀ member ∈ members, Reads gap depth member.2)
    (name : String) (value : Json) (head : Reads gap depth value) (steps : Nat)
    (enough : members.length < steps) (rest : List Char) :
    scanMembers (scanValue depth) steps
        (writeString name ++ ':' :: (gap ++ write gap value) ++
          (writeMembers gap members ++ rest)) =
      some ((name, value) :: members, rest) := by
  obtain ⟨steps, rfl⟩ : ∃ fewer, steps = fewer + 1 := ⟨steps - 1, by omega⟩
  induction members generalizing name value steps with
  | nil =>
      rw [scanMembers, scanMember_write spaces name value head (follows_writeMembers gap _ rest)]
      simp only [writeMembers, List.cons_append, List.nil_append,
        skipSpace_cons (show isSpace '}' = false by decide)]
  | cons member members ih =>
      obtain ⟨other, held⟩ := member
      obtain ⟨fewer, rfl⟩ : ∃ fewer, steps = fewer + 1 :=
        ⟨steps - 1, by simp only [List.length_cons] at enough; omega⟩
      have tail := ih (fun old inside => each old (List.mem_cons_of_mem _ inside)) other held
        (each (other, held) List.mem_cons_self) fewer (by simpa using enough)
      have quoted : ∀ text, skipSpace (writeString other ++ text) = writeString other ++ text :=
        fun text => skipSpace_cons (by decide) _
      rw [scanMembers, scanMember_write spaces name value head (follows_writeMembers gap _ rest)]
      simp only [writeMembers, List.cons_append, List.append_assoc,
        skipSpace_cons (show isSpace ',' = false by decide), skipSpace_gap spaces, quoted]
      simp only [List.cons_append, List.append_assoc] at tail
      rw [tail]

end Collections

/-! ## The round trip -/

theorem length_write_le_of_mem {gap : List Char} {items : List Json} {item : Json}
    (inside : item ∈ items) : (write gap item).length ≤ (writeItems gap items).length := by
  induction items with
  | nil => cases inside
  | cons other items ih =>
      simp only [writeItems, List.length_cons, List.length_append]
      rcases List.mem_cons.mp inside with rfl | later
      · omega
      · have tail := ih later
        omega

theorem length_le_writeItems (gap : List Char) (items : List Json) :
    items.length < (writeItems gap items).length := by
  induction items with
  | nil => exact Nat.zero_lt_one
  | cons item items ih =>
      simp only [writeItems, List.length_cons, List.length_append]
      omega

theorem length_write_member_le_of_mem {gap : List Char} {members : List (String × Json)}
    {member : String × Json} (inside : member ∈ members) :
    (write gap member.2).length ≤ (writeMembers gap members).length := by
  induction members with
  | nil => cases inside
  | cons other members ih =>
      obtain ⟨name, value⟩ := other
      simp only [writeMembers, List.length_cons, List.length_append]
      rcases List.mem_cons.mp inside with rfl | later
      · dsimp only
        omega
      · have tail := ih later
        omega

theorem length_le_writeMembers (gap : List Char) (members : List (String × Json)) :
    members.length < (writeMembers gap members).length := by
  induction members with
  | nil => exact Nat.zero_lt_one
  | cons member members ih =>
      obtain ⟨name, value⟩ := member
      simp only [writeMembers, List.length_cons, List.length_append]
      omega

/-- A value no longer than the depth is read back.  The induction is on the
depth: an item or a member is written in fewer characters than the whole. -/
theorem reads {gap : List Char} (spaces : ∀ ch ∈ gap, isSpace ch = true) :
    ∀ depth value, (write gap value).length ≤ depth → Reads gap depth value := by
  intro depth
  induction depth with
  | zero =>
      intro value short
      obtain ⟨ch, tail, head, _⟩ := write_begins gap value []
      rw [List.append_nil] at head
      simp [head] at short
  | succ depth ih =>
      intro value short rest follows
      cases value with
      | null => rfl
      | bool value => cases value <;> rfl
      | int value => simpa only [write] using scanValue_writeInt depth value follows
      | float value => simpa only [write] using scanValue_writeFloat depth value follows
      | str value =>
          simp only [write, writeString, List.cons_append, List.append_assoc, List.nil_append,
            scanValue, scanString_write]
      | arr items =>
          cases items with
          | nil => rfl
          | cons first items =>
              simp only [write, List.length_cons, List.length_append] at short
              have read := scanItems_write spaces items
                (fun item inside => ih item (by
                  have := @length_write_le_of_mem gap _ _ inside
                  omega))
                first (ih first (by omega))
                (write gap first ++ (writeItems gap items ++ rest)).length (by
                  have := length_le_writeItems gap items
                  simp only [List.length_append]
                  omega)
                rest
              obtain ⟨ch, tail, head, plain, notClose, _⟩ :=
                write_begins gap first (writeItems gap items ++ rest)
              simp only [write, List.cons_append, List.append_assoc, scanValue]
              rw [head] at read ⊢
              rw [skipSpace_cons plain]
              split
              · next equal => exact absurd (List.cons.inj equal).1 notClose
              · rw [read]
      | obj members =>
          rcases members with _ | ⟨⟨name, value⟩, members⟩
          · rfl
          · simp only [write, List.length_cons, List.length_append] at short
            have read := scanMembers_write spaces members
              (fun member inside => ih member.2 (by
                have := @length_write_member_le_of_mem gap _ _ inside
                omega))
              name value (ih value (by omega))
              (writeString name ++ ':' :: (gap ++ write gap value) ++
                (writeMembers gap members ++ rest)).length (by
                have := length_le_writeMembers gap members
                simp only [List.length_append]
                omega)
              rest
            simp only [write, List.cons_append, List.append_assoc, scanValue] at read ⊢
            simp only [writeString, List.cons_append,
              skipSpace_cons (show isSpace '"' = false by decide)] at read ⊢
            split
            · next equal => cases equal
            · rw [read]

theorem loads_write {gap : List Char} (spaces : ∀ ch ∈ gap, isSpace ch = true)
    (value : Json) : loads (String.ofList (write gap value)) = some value := by
  have read := reads spaces ((write gap value).length + 1) value (Nat.le_succ _) [] follows_nil
  have start := skipSpace_write gap value []
  rw [List.append_nil] at read start
  simp only [loads, String.toList_ofList, start, read]
  rfl

/-- Reading what `dumps` wrote gives the document back. -/
@[simp]
theorem loads_dumps (value : Json) : loads (dumps value) = some value :=
  loads_write (List.forall_mem_singleton.mpr rfl) value

@[simp]
theorem loads_dumpsCompact (value : Json) : loads (dumpsCompact value) = some value :=
  loads_write (List.forall_mem_nil _) value

end Library.Json
