import HomeKeyHousehold.Library.JsonRoundTrip
import HomeKeyHousehold.Command

/-!
# An ideal MAC

The opaque injective functions that the security results are about exist, and
one can be chosen to agree with HMAC-SHA256 at a text of interest.
-/

namespace HomeKeyHousehold

open Library

/-- An injective MAC that takes a given value at one text, so that it can agree
with HMAC-SHA256 there. -/
def pinnedHmac (text digest : String) : HmacSha256 :=
  fun _ input => if input = text then digest else Json.dumps (.str input)

theorem hexDigit_lt {value : Nat} (small : value < 16) : (Json.hexDigit value).toNat < 128 := by
  revert value
  decide

theorem escapeUnit_lt (unit : Nat) : ∀ ch ∈ Json.escapeUnit unit, ch.toNat < 128 := by
  intro ch member
  simp only [Json.escapeUnit, List.mem_cons, List.not_mem_nil, or_false] at member
  rcases member with rfl | rfl | rfl | rfl | rfl | rfl
  · decide
  · decide
  · exact hexDigit_lt (Nat.mod_lt _ (by decide))
  · exact hexDigit_lt (Nat.mod_lt _ (by decide))
  · exact hexDigit_lt (Nat.mod_lt _ (by decide))
  · exact hexDigit_lt (Nat.mod_lt _ (by decide))

theorem escapeChar_lt (ch : Char) : ∀ written ∈ Json.escapeChar ch, written.toNat < 128 := by
  have pair : ∀ escape : Char, escape.toNat < 128 →
      ∀ written ∈ ['\\', escape], written.toNat < 128 := by
    intro escape ascii written member
    rcases List.mem_pair.mp member with rfl | rfl
    · decide
    · exact ascii
  unfold Json.escapeChar
  split
  · exact pair '"' (by decide)
  split
  · exact pair '\\' (by decide)
  split
  · exact pair 'n' (by decide)
  split
  · exact pair 'r' (by decide)
  split
  · exact pair 't' (by decide)
  split
  · exact pair 'f' (by decide)
  split
  · exact pair 'b' (by decide)
  split
  · next printable =>
      intro written member
      rw [List.mem_singleton.mp member]
      omega
  · intro written member
    obtain ⟨unit, -, inUnit⟩ := List.mem_flatMap.mp member
    exact escapeUnit_lt unit written inUnit

/-- A quoted document is ASCII text that starts with a quote. -/
theorem toList_dumps_str (text : String) :
    (Json.dumps (.str text)).toList = '"' :: (Json.escapeString text ++ ['"']) :=
  String.toList_ofList

theorem dumps_str_lt (text : String) :
    ∀ ch ∈ (Json.dumps (.str text)).toList, ch.toNat < 128 := by
  intro ch member
  rw [toList_dumps_str] at member
  rcases List.mem_cons.mp member with rfl | inside
  · decide
  rcases List.mem_append.mp inside with written | closing
  · obtain ⟨original, -, escaped⟩ := List.mem_flatMap.mp written
    exact escapeChar_lt original ch escaped
  · rw [List.mem_singleton.mp closing]
    decide

theorem ideal_pinnedHmac (text : String) {digest : String}
    (ascii : (digest.toList.all fun ch => ch.toNat < 128) = true)
    (unquoted : digest.toList.head? ≠ some '"') :
    Ideal (pinnedHmac text digest) where
  injective := by
    have apart : ∀ input, Json.dumps (.str input) ≠ digest := by
      intro input equal
      rw [← equal, toList_dumps_str] at unquoted
      exact unquoted rfl
    intro key first second equal
    unfold pinnedHmac at equal
    split at equal
    · next firstPinned =>
        split at equal
        · next secondPinned => exact firstPinned.trans secondPinned.symm
        · exact absurd equal.symm (apart second)
    · split at equal
      · exact absurd equal (apart first)
      · have read := congrArg Json.loads equal
        rw [Json.loads_dumps, Json.loads_dumps] at read
        exact Json.str.inj (Option.some.inj read)
  ascii := by
    intro key input ch member
    unfold pinnedHmac at member
    split at member
    · exact of_decide_eq_true (List.all_eq_true.mp ascii ch member)
    · exact dumps_str_lt input ch member

end HomeKeyHousehold
