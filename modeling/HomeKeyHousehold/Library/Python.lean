import HomeKeyHousehold.Library.Json

/-!
# Python's view of a JSON value

How Python names, tests, compares and prints the values its `json` module
returns, and the string methods that go with them.  Characters outside ASCII are
taken as printable and as having no case, except for the controls Python
escapes.
-/

namespace Library

/-! ## Strings -/

/-- The characters `str.strip` removes. -/
def isWhitespace (ch : Char) : Bool :=
  let code := ch.toNat
  (0x09 ≤ code && code ≤ 0x0d) || (0x1c ≤ code && code ≤ 0x20) || code = 0x85 ||
    code = 0xa0 || code = 0x1680 || (0x2000 ≤ code && code ≤ 0x200a) || code = 0x2028 ||
    code = 0x2029 || code = 0x202f || code = 0x205f || code = 0x3000

/-- A text without the given characters at either end. -/
def stripOf (blank : Char → Bool) (text : String) : String :=
  String.ofList (((text.toList.dropWhile blank).reverse.dropWhile blank).reverse)

/-- `text.strip()`. -/
def strip (text : String) : String := stripOf isWhitespace text

/-- `data.strip()` of the bytes of a text, which removes ASCII blanks only. -/
def stripBytes (text : String) : String :=
  stripOf (fun ch => ch = ' ' || (0x09 ≤ ch.toNat && ch.toNat ≤ 0x0d)) text

/-- `text.lower()`. -/
def lower (text : String) : String := String.ofList (text.toList.map Char.toLower)

/-- One character of a `repr` between the given quotes. -/
def reprChar (quote : Char) (ch : Char) : List Char :=
  if ch = '\\' ∨ ch = quote then ['\\', ch]
  else if ch = '\t' then ['\\', 't']
  else if ch = '\n' then ['\\', 'n']
  else if ch = '\r' then ['\\', 'r']
  else if ch.toNat < 0x20 ∨ (0x7f ≤ ch.toNat ∧ ch.toNat ≤ 0xa0) ∨ ch.toNat = 0xad then
    ['\\', 'x', Json.hexDigit (ch.toNat / 16 % 16), Json.hexDigit (ch.toNat % 16)]
  else [ch]

/-- `repr(text)`: single quotes, unless only those occur in the text. -/
def reprString (text : String) : String :=
  let quote := if text.toList.contains '\'' && !text.toList.contains '"' then '"' else '\''
  String.ofList (quote :: (text.toList.flatMap (reprChar quote) ++ [quote]))

example : reprString "it's" = "\"it's\"" := by decide

/-- `repr` of an optional string. -/
def reprOption : Option String → String
  | none => "None"
  | some text => reprString text

/-! ## Numbers -/

/-- The digits of a float: fixed notation for moderate exponents, else
scientific. -/
def reprDigits (digits : List Char) (exponent : Int) : List Char :=
  let point := digits.length + exponent
  if -4 < point ∧ point ≤ 16 then
    if point ≤ 0 then '0' :: '.' :: (List.replicate (-point).toNat '0' ++ digits)
    else if exponent < 0 then
      digits.take point.toNat ++ '.' :: digits.drop point.toNat
    else digits ++ List.replicate exponent.toNat '0' ++ ['.', '0']
  else
    let fraction := if digits.length = 1 then [] else '.' :: digits.drop 1
    let power := Nat.toDigits 10 (point - 1).natAbs
    digits.take 1 ++ fraction ++ 'e' :: (if point ≤ 0 then '-' else '+') ::
      (List.replicate (2 - power.length) '0' ++ power)

/-- `repr` of a float. -/
def reprFloat : PyFloat → String
  | .nan => "nan"
  | .infinity negative => if negative then "-inf" else "inf"
  | .finite value =>
      String.ofList ((if value.negative then ['-'] else []) ++
        reprDigits (Nat.toDigits 10 value.shortest.1) value.shortest.2)

example : reprFloat (.ofNumeral false 250000000000000001 (-17)) = "2.5" := by decide +kernel

/-- A value that is an `int`, which a boolean is too. -/
inductive PyInt where
  | int (value : Int)
  | bool (value : Bool)
  deriving DecidableEq, Repr

/-- What it counts as. -/
def PyInt.value : PyInt → Int
  | int value => value
  | bool value => if value then 1 else 0

/-- What it is written as. -/
def PyInt.toJson : PyInt → Json
  | int value => .int value
  | bool value => .bool value

/-! ## Values -/

namespace Json

/-- `value if isinstance(value, int) else None`. -/
def asPyInt : Json → Option PyInt
  | int value => some (.int value)
  | bool value => some (.bool value)
  | _ => none

theorem asPyInt_toJson (value : PyInt) : asPyInt value.toJson = some value := by
  cases value <;> rfl

/-- `type(value).__name__`. -/
def typeName : Json → String
  | null => "NoneType"
  | bool _ => "bool"
  | int _ => "int"
  | float _ => "float"
  | str _ => "str"
  | arr _ => "list"
  | obj _ => "dict"

/-- `bool(value)`. -/
def truthy : Json → Bool
  | null => false
  | bool value => value
  | int value => value ≠ 0
  | float (.finite value) => value.units ≠ 0
  | float _ => true
  | str value => value ≠ ""
  | arr items => !items.isEmpty
  | obj members => !members.isEmpty

/-- `value or default`. -/
def orElse (value default : Json) : Json := if value.truthy then value else default

theorem truthy_orElse (value default : Json) :
    (value.orElse default).truthy = (value.truthy || default.truthy) := by
  rw [orElse]
  cases filled : value.truthy with
  | true => exact filled
  | false => exact (Bool.false_or _).symm

/-- `value == number`: a float with the value of an integer equals it. -/
def equalsInt (number : Int) : Json → Bool
  | bool value => (if value then 1 else 0) = number
  | int value => value = number
  | float (.finite value) =>
      value.units = number.natAbs * unitsPerOne ∧ (value.negative = decide (number < 0) ∨ number = 0)
  | _ => false

/-- Whether a value can be a member of a set: lists and dictionaries cannot. -/
def hashable : Json → Bool
  | arr _ => false
  | obj _ => false
  | _ => true

/-- The members without a key. -/
def drop (members : List (String × Json)) (key : String) : List (String × Json) :=
  members.filter fun member => member.1 ≠ key

/-- Dropping a key leaves the other keys alone. -/
theorem lookup_drop (members : List (String × Json)) (key other : String) :
    lookup (drop members key) other = if other = key then none else lookup members other := by
  induction members with
  | nil => rw [drop, List.filter_nil, lookup, ite_self]
  | cons member rest ih =>
      obtain ⟨name, value⟩ := member
      unfold drop at ih ⊢
      by_cases dropped : name = key
      · subst dropped
        rw [List.filter_cons_of_neg (by simp), ih]
        split
        · rfl
        · next apart =>
            rw [lookup]
            cases lookup rest other with
            | none => rw [if_neg fun same => apart same.symm]
            | some later => rfl
      · rw [List.filter_cons_of_pos (by simpa using dropped), lookup, ih, lookup]
        by_cases same : other = key
        · subst same
          rw [if_pos rfl, if_pos rfl]
          exact if_neg dropped
        · rw [if_neg same, if_neg same]

mutual

/-- `repr(value)`. -/
def repr : Json → String
  | null => "None"
  | bool value => if value then "True" else "False"
  | int value => String.ofList (writeInt value)
  | float value => reprFloat value
  | str value => reprString value
  | arr items => "[" ++ reprItems items ++ "]"
  | obj members =>
      let items := (Keyed.ofList (reprMembers members) :
        Keyed (Prod.fst : String × String → String)).entries
      "\x7b" ++ ", ".intercalate (items.map fun item => reprString item.1 ++ ": " ++ item.2) ++ "\x7d"

def reprItems : List Json → String
  | [] => ""
  | [item] => repr item
  | item :: rest => repr item ++ ", " ++ reprItems rest

/-- The insertions of a dictionary, each value by its `repr`. -/
def reprMembers : List (String × Json) → List (String × String)
  | [] => []
  | (name, value) :: rest => (name, repr value) :: reprMembers rest

end

/-- `str(value)`. -/
def text : Json → String
  | str value => value
  | value => repr value

theorem ofList_ne_empty {chars : List Char} (filled : chars ≠ []) : String.ofList chars ≠ "" := by
  intro blank
  have read := congrArg String.toList blank
  rw [String.toList_ofList] at read
  exact filled read

theorem reprFloat_ne_empty (value : PyFloat) : reprFloat value ≠ "" := by
  cases value with
  | nan => decide
  | infinity negative => cases negative <;> decide
  | finite value =>
      apply ofList_ne_empty
      intro blank
      have digits := (List.append_eq_nil_iff.mp blank).2
      unfold reprDigits at digits
      dsimp only at digits
      split at digits
      · split at digits
        · cases digits
        split at digits
        · exact absurd digits (by simp)
        · exact absurd digits (by simp)
      · exact absurd digits (by simp)

/-- No value is printed as nothing. -/
theorem repr_ne_empty (value : Json) : repr value ≠ "" := by
  cases value with
  | null => rw [repr]; decide
  | bool value => rw [repr]; cases value <;> decide
  | int value =>
      rw [repr, writeInt]
      apply ofList_ne_empty
      split
      · exact List.cons_ne_nil _ _
      · exact Nat.toDigits_ne_nil
  | float value =>
      rw [repr]
      exact reprFloat_ne_empty value
  | str value =>
      rw [repr]
      exact ofList_ne_empty (List.cons_ne_nil _ _)
  | arr items => rw [repr]; simp
  | obj members => rw [repr]; simp

/-- A truthy value has a text. -/
theorem text_ne_empty {value : Json} (filled : value.truthy = true) : value.text ≠ "" := by
  cases value with
  | str value => simpa [truthy, text] using filled
  | null | bool _ | int _ | float _ | arr _ | obj _ => exact repr_ne_empty _

end Json

end Library
