import HomeKeyHousehold.Library.Keyed
import HomeKeyHousehold.Library.Numerals
import Mathlib.Data.List.Induction

/-!
# JSON documents and their text

The values, the writer and the reader of Python's `json` module.  The writer
escapes everything outside printable ASCII, and the reader is strict about
control characters and rejects anything after the document.  An object is the
list of its insertions: a lookup finds the latest insertion of a key, which is
all that a dictionary shows of a repeated key.

An escaped lone surrogate is the one string Python holds that a Lean string
cannot; it is read as the replacement character.  A numeral with a fraction or an
exponent is read as a binary64 number, and a float is written in scientific notation,
with the digits Python prints.  The interpreter's setting for the longest integer
numeral it reads (`PYTHONINTMAXSTRDIGITS`) is taken to be off.
-/

namespace Library

/-- A Python float. -/
inductive PyFloat where
  | nan
  | infinity (negative : Bool)
  | finite (value : Binary64)
  deriving DecidableEq

/-- A number that may be too large. -/
def PyFloat.ofFinite (negative : Bool) : Option Binary64 → PyFloat
  | some value => .finite value
  | none => .infinity negative

/-- `float(numeral)`: the nearest number, and an infinity from the limit on. -/
def PyFloat.ofNumeral (negative : Bool) (mantissa : Nat) (exponent : Int) : PyFloat :=
  ofFinite negative (Binary64.ofNumeral negative mantissa exponent)

theorem PyFloat.ofNumeral_shortest (value : Binary64) :
    ofNumeral value.negative value.shortest.1 value.shortest.2 = .finite value := by
  rw [ofNumeral, value.ofNumeral_shortest, ofFinite]

/-- A JSON document. -/
inductive Json where
  | null
  | bool (value : Bool)
  | int (value : Int)
  | float (value : PyFloat)
  | str (value : String)
  | arr (items : List Json)
  | obj (members : List (String × Json))

namespace Json

/-- The latest value inserted under a key. -/
def lookup : List (String × Json) → String → Option Json
  | [], _ => none
  | (name, value) :: rest, key =>
      match lookup rest key with
      | some later => some later
      | none => if name = key then some value else none

/-- `data.get(key)`: an absent key reads as `None`, like an explicit null. -/
def get (members : List (String × Json)) (key : String) : Json :=
  (lookup members key).getD .null

/-- `data.items()`: each key where it was first inserted, with its latest value. -/
def items (members : List (String × Json)) : List (String × Json) :=
  (Keyed.ofList members : Keyed (Prod.fst : String × Json → String)).entries

theorem lookup_concat (members : List (String × Json)) (member : String × Json) (key : String) :
    lookup (members ++ [member]) key =
      if key = member.1 then some member.2 else lookup members key := by
  induction members with
  | nil =>
      rw [List.nil_append, lookup, lookup, lookup]
      exact if_congr eq_comm rfl rfl
  | cons first rest ih =>
      rw [List.cons_append, lookup, lookup, ih]
      by_cases same : key = member.1
      · rw [if_pos same, if_pos same]
      · rw [if_neg same, if_neg same]

theorem lookup_eq_get? (members : List (String × Json)) (key : String) :
    lookup members key =
      ((Keyed.ofList members : Keyed (Prod.fst : String × Json → String)).get? key).map
        Prod.snd := by
  induction members using List.reverseRecOn with
  | nil => rfl
  | append_singleton earlier member ih =>
      rw [lookup_concat, Keyed.get?_ofList_concat, ih]
      split
      · rfl
      · rfl

theorem items_nodup (members : List (String × Json)) : ((items members).map Prod.fst).Nodup :=
  Keyed.nodup _

theorem items_of_nodup {members : List (String × Json)}
    (distinct : (members.map Prod.fst).Nodup) : items members = members :=
  Keyed.entries_ofList_of_nodup distinct

/-- The items are what a lookup finds. -/
theorem mem_items_iff {members : List (String × Json)} {name : String} {value : Json} :
    (name, value) ∈ items members ↔ lookup members name = some value := by
  rw [lookup_eq_get?]
  constructor
  · intro member
    rw [Keyed.get?_of_mem member]
    rfl
  · intro found
    obtain ⟨⟨key, kept⟩, stored, rfl⟩ := Option.map_eq_some_iff.mp found
    cases Keyed.key_of_get? stored
    exact List.mem_of_find?_eq_some stored

/-! ## Strings as UTF-16 units -/

/-- The units a character is escaped as. -/
def utf16 (ch : Char) : List Nat :=
  if ch.toNat < 0x10000 then [ch.toNat]
  else [0xD800 + (ch.toNat - 0x10000) / 0x400, 0xDC00 + (ch.toNat - 0x10000) % 0x400]

def isHigh (unit : Nat) : Bool := 0xD800 ≤ unit && unit < 0xDC00

def isLow (unit : Nat) : Bool := 0xDC00 ≤ unit && unit < 0xE000

/-- A unit on its own; a lone surrogate becomes the replacement character. -/
def ofUnit (unit : Nat) : Char :=
  if isHigh unit || isLow unit then Char.ofNat 0xFFFD else Char.ofNat unit

/-- Join surrogate pairs and keep every other unit as it is. -/
def decodeUnits : List Nat → List Char
  | [] => []
  | [unit] => [ofUnit unit]
  | high :: low :: rest =>
      if isHigh high && isLow low then
        Char.ofNat (0x10000 + (high - 0xD800) * 0x400 + (low - 0xDC00)) :: decodeUnits rest
      else ofUnit high :: decodeUnits (low :: rest)

/-! ## Writing -/

def hexDigit (value : Nat) : Char :=
  if value < 10 then Char.ofNat (48 + value) else Char.ofNat (87 + value)

/-- `\uXXXX` for one unit. -/
def escapeUnit (unit : Nat) : List Char :=
  ['\\', 'u', hexDigit (unit / 4096 % 16), hexDigit (unit / 256 % 16),
    hexDigit (unit / 16 % 16), hexDigit (unit % 16)]

def escapeChar (ch : Char) : List Char :=
  if ch = '"' then ['\\', '"']
  else if ch = '\\' then ['\\', '\\']
  else if ch = '\n' then ['\\', 'n']
  else if ch = '\r' then ['\\', 'r']
  else if ch = '\t' then ['\\', 't']
  else if ch = '\x0c' then ['\\', 'f']
  else if ch = '\x08' then ['\\', 'b']
  else if 0x20 ≤ ch.toNat ∧ ch.toNat ≤ 0x7e then [ch]
  else (utf16 ch).flatMap escapeUnit

/-- The characters between the quotes of a written string. -/
def escapeString (text : String) : List Char := text.toList.flatMap escapeChar

def writeString (text : String) : List Char := '"' :: (escapeString text ++ ['"'])

def writeInt (value : Int) : List Char :=
  if value < 0 then '-' :: Nat.toDigits 10 value.natAbs else Nat.toDigits 10 value.natAbs

/-- A numeral in scientific notation. -/
def writeNumeral (negative : Bool) (mantissa : Nat) (exponent : Int) : List Char :=
  (if negative then ['-'] else []) ++ Nat.toDigits 10 mantissa ++ 'e' :: writeInt exponent

def writeFloat : PyFloat → List Char
  | .nan => "NaN".toList
  | .infinity negative => if negative then "-Infinity".toList else "Infinity".toList
  | .finite value => writeNumeral value.negative value.shortest.1 value.shortest.2

mutual

/-- `json.dumps`, with `gap` after each comma and colon. -/
def write (gap : List Char) : Json → List Char
  | .null => "null".toList
  | .bool value => if value then "true".toList else "false".toList
  | .int value => writeInt value
  | .float value => writeFloat value
  | .str value => writeString value
  | .arr [] => "[]".toList
  | .arr (first :: rest) => '[' :: (write gap first ++ writeItems gap rest)
  | .obj [] => ['{', '}']
  | .obj ((name, value) :: rest) =>
      '{' :: (writeString name ++ ':' :: (gap ++ write gap value) ++ writeMembers gap rest)

def writeItems (gap : List Char) : List Json → List Char
  | [] => [']']
  | item :: rest => ',' :: (gap ++ write gap item ++ writeItems gap rest)

def writeMembers (gap : List Char) : List (String × Json) → List Char
  | [] => ['}']
  | (name, value) :: rest =>
      ',' :: (gap ++ writeString name ++ ':' :: (gap ++ write gap value) ++
        writeMembers gap rest)

end

/-- `json.dumps(value)`. -/
def dumps (value : Json) : String := String.ofList (write [' '] value)

/-- `json.dumps(value, separators=(",", ":"))`. -/
def dumpsCompact (value : Json) : String := String.ofList (write [] value)

/-! ## Reading -/

def isSpace (ch : Char) : Bool := ch = ' ' || ch = '\t' || ch = '\n' || ch = '\r'

def skipSpace (text : List Char) : List Char := text.dropWhile isSpace

def hexValue (ch : Char) : Option Nat :=
  if '0' ≤ ch ∧ ch ≤ '9' then some (ch.toNat - 48)
  else if 'a' ≤ ch ∧ ch ≤ 'f' then some (ch.toNat - 87)
  else if 'A' ≤ ch ∧ ch ≤ 'F' then some (ch.toNat - 55)
  else none

def hexUnit (first second third fourth : Char) : Option Nat :=
  match hexValue first, hexValue second, hexValue third, hexValue fourth with
  | some a, some b, some c, some d => some (((a * 16 + b) * 16 + c) * 16 + d)
  | _, _, _, _ => none

/-- The character a one-letter escape stands for. -/
def simpleEscape (ch : Char) : Option Char :=
  if ch = '"' then some '"'
  else if ch = '\\' then some '\\'
  else if ch = '/' then some '/'
  else if ch = 'b' then some '\x08'
  else if ch = 'f' then some '\x0c'
  else if ch = 'n' then some '\n'
  else if ch = 'r' then some '\r'
  else if ch = 't' then some '\t'
  else none

/-- The units of a string up to its closing quote, and what follows. -/
def scanUnits : List Char → Option (List Nat × List Char)
  | [] => none
  | '"' :: rest => some ([], rest)
  | '\\' :: 'u' :: first :: second :: third :: fourth :: rest =>
      match hexUnit first second third fourth, scanUnits rest with
      | some unit, some (units, rest) => some (unit :: units, rest)
      | _, _ => none
  | '\\' :: escape :: rest =>
      match simpleEscape escape, scanUnits rest with
      | some ch, some (units, rest) => some (ch.toNat :: units, rest)
      | _, _ => none
  | ch :: rest =>
      if ch = '\\' ∨ ch.toNat < 0x20 then none
      else
        match scanUnits rest with
        | some (units, rest) => some (ch.toNat :: units, rest)
        | none => none

def scanString (text : List Char) : Option (String × List Char) :=
  match scanUnits text with
  | some (units, rest) => some (String.ofList (decodeUnits units), rest)
  | none => none

/-- `0`, or digits that do not start with `0`. -/
def scanWhole : List Char → Option (List Char × List Char)
  | [] => none
  | ch :: rest =>
      if ch = '0' then some (['0'], rest)
      else if ch.isDigit then
        some (ch :: rest.takeWhile Char.isDigit, rest.dropWhile Char.isDigit)
      else none

/-- The digits after a decimal point, if there are any. -/
def scanFraction (text : List Char) : List Char × List Char :=
  match text with
  | '.' :: rest =>
      match rest.takeWhile Char.isDigit with
      | [] => ([], text)
      | digits => (digits, rest.dropWhile Char.isDigit)
  | _ => ([], text)

def scanSign : List Char → Bool × List Char
  | '-' :: rest => (true, rest)
  | '+' :: rest => (false, rest)
  | text => (false, text)

/-- A signed exponent, if there is one. -/
def scanExponent (text : List Char) : Option Int × List Char :=
  match text with
  | ch :: rest =>
      if ch = 'e' ∨ ch = 'E' then
        let (negative, digits) := scanSign rest
        match digits.takeWhile Char.isDigit with
        | [] => (none, text)
        | taken =>
            let magnitude : Int := Nat.ofDigitChars 10 taken 0
            (some (if negative then -magnitude else magnitude),
              digits.dropWhile Char.isDigit)
      else (none, text)
  | [] => (none, text)

def scanMinus : List Char → Bool × List Char
  | '-' :: rest => (true, rest)
  | text => (false, text)

def scanNumber (text : List Char) : Option (Json × List Char) :=
  let (negative, unsigned) := scanMinus text
  match scanWhole unsigned with
  | none => none
  | some (whole, rest) =>
      let (fraction, rest) := scanFraction rest
      let (exponent, rest) := scanExponent rest
      if fraction = [] ∧ exponent = none then
        let magnitude : Int := Nat.ofDigitChars 10 whole 0
        some (.int (if negative then -magnitude else magnitude), rest)
      else
        let mantissa := Nat.ofDigitChars 10 (whole ++ fraction) 0
        some (.float (.ofNumeral negative mantissa (exponent.getD 0 - fraction.length)), rest)

/-- The items of an array after its opening bracket, one per step. -/
def scanItems (scan : List Char → Option (Json × List Char)) :
    Nat → List Char → Option (List Json × List Char)
  | 0, _ => none
  | steps + 1, text =>
      match scan text with
      | none => none
      | some (item, rest) =>
          match skipSpace rest with
          | ',' :: rest =>
              match scanItems scan steps (skipSpace rest) with
              | some (items, rest) => some (item :: items, rest)
              | none => none
          | ']' :: rest => some ([item], rest)
          | _ => none

/-- A quoted name, a colon and a value. -/
def scanMember (scan : List Char → Option (Json × List Char)) (text : List Char) :
    Option ((String × Json) × List Char) :=
  match text with
  | '"' :: rest =>
      match scanString rest with
      | none => none
      | some (name, rest) =>
          match skipSpace rest with
          | ':' :: rest =>
              match scan (skipSpace rest) with
              | some (value, rest) => some ((name, value), rest)
              | none => none
          | _ => none
  | _ => none

/-- The members of an object after its opening brace, one per step. -/
def scanMembers (scan : List Char → Option (Json × List Char)) :
    Nat → List Char → Option (List (String × Json) × List Char)
  | 0, _ => none
  | steps + 1, text =>
      match scanMember scan text with
      | none => none
      | some (member, rest) =>
          match skipSpace rest with
          | ',' :: rest =>
              match scanMembers scan steps (skipSpace rest) with
              | some (members, rest) => some (member :: members, rest)
              | none => none
          | '}' :: rest => some ([member], rest)
          | _ => none

/-- One value at the head of a text, nested at most `depth` deep. -/
def scanValue : Nat → List Char → Option (Json × List Char)
  | 0, _ => none
  | depth + 1, text =>
      match text with
      | '"' :: rest =>
          match scanString rest with
          | some (value, rest) => some (.str value, rest)
          | none => none
      | '[' :: rest =>
          match skipSpace rest with
          | ']' :: rest => some (.arr [], rest)
          | rest =>
              match scanItems (scanValue depth) rest.length rest with
              | some (items, rest) => some (.arr items, rest)
              | none => none
      | '{' :: rest =>
          match skipSpace rest with
          | '}' :: rest => some (.obj [], rest)
          | rest =>
              match scanMembers (scanValue depth) rest.length rest with
              | some (members, rest) => some (.obj members, rest)
              | none => none
      | 'n' :: 'u' :: 'l' :: 'l' :: rest => some (.null, rest)
      | 't' :: 'r' :: 'u' :: 'e' :: rest => some (.bool true, rest)
      | 'f' :: 'a' :: 'l' :: 's' :: 'e' :: rest => some (.bool false, rest)
      | 'N' :: 'a' :: 'N' :: rest => some (.float .nan, rest)
      | 'I' :: 'n' :: 'f' :: 'i' :: 'n' :: 'i' :: 't' :: 'y' :: rest =>
          some (.float (.infinity false), rest)
      | '-' :: 'I' :: 'n' :: 'f' :: 'i' :: 'n' :: 'i' :: 't' :: 'y' :: rest =>
          some (.float (.infinity true), rest)
      | text => scanNumber text

/-- `json.loads`: one document with nothing but space around it.  No value
nests deeper than its text is long, so the depth never runs out first. -/
def loads (text : String) : Option Json :=
  match scanValue (text.toList.length + 1) (skipSpace text.toList) with
  | some (value, rest) => if skipSpace rest = [] then some value else none
  | none => none

end Json

end Library
