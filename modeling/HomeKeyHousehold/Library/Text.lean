import HomeKeyHousehold.Library.Python
import Mathlib.Data.List.DropRight
import Mathlib.Data.List.TakeWhile

/-!
# Stripped and encoded text

What `strip` leaves and takes away, and the bytes of a text in UTF-8.  No
character is encoded as nothing, so a text and a part of it that is as long in
bytes are the same.
-/

namespace Library

/-! ## Stripping -/

section

variable {blank : Char → Bool} {front middle back : List Char}

theorem dropWhile_blanks {rest : List Char} (blanks : ∀ ch ∈ front, blank ch = true)
    (starts : ∀ ch ∈ rest.head?, blank ch = false) : (front ++ rest).dropWhile blank = rest := by
  rw [List.dropWhile_append_of_pos blanks]
  cases rest with
  | nil => rfl
  | cons ch others =>
      have filled : ¬ blank ch = true := by simp [starts ch rfl]
      rw [List.dropWhile_cons_of_neg filled]

/-- Blanks around characters that are none are taken away. -/
theorem stripOf_around (frontBlank : ∀ ch ∈ front, blank ch = true)
    (backBlank : ∀ ch ∈ back, blank ch = true) (filled : ∀ ch ∈ middle, blank ch = false) :
    stripOf blank (String.ofList (front ++ middle ++ back)) = String.ofList middle := by
  rw [stripOf, String.toList_ofList]
  congr 1
  by_cases empty : middle = []
  · have blanks : ∀ ch ∈ front ++ middle ++ back, blank ch = true := by
      intro ch member
      rw [empty, List.append_nil] at member
      exact (List.mem_append.mp member).elim (frontBlank ch) (backBlank ch)
    rw [List.dropWhile_eq_nil_iff.mpr blanks, empty]
    rfl
  · have starts : ∀ ch ∈ (middle ++ back).head?, blank ch = false := by
      intro ch first
      rw [List.head?_append_of_ne_nil _ empty] at first
      exact filled ch (List.mem_of_mem_head? first)
    have ends : ∀ ch ∈ middle.reverse.head?, blank ch = false := by
      intro ch first
      exact filled ch (List.mem_reverse.mp (List.mem_of_mem_head? first))
    rw [List.append_assoc, dropWhile_blanks frontBlank starts, List.reverse_append,
      dropWhile_blanks (by simpa using backBlank) ends, List.reverse_reverse]

/-- A text is what `strip` leaves, between blanks. -/
theorem stripOf_split (blank : Char → Bool) (text : String) :
    ∃ front back, text = String.ofList (front ++ (stripOf blank text).toList ++ back) ∧
      (∀ ch ∈ front, blank ch = true) ∧ ∀ ch ∈ back, blank ch = true := by
  let rest := text.toList.dropWhile blank
  refine ⟨text.toList.takeWhile blank, (rest.reverse.takeWhile blank).reverse, ?_, ?_, ?_⟩
  · have ends : rest = (rest.reverse.dropWhile blank).reverse ++
        (rest.reverse.takeWhile blank).reverse := by
      rw [← List.reverse_append, List.takeWhile_append_dropWhile, List.reverse_reverse]
    rw [stripOf, String.toList_ofList, List.append_assoc]
    change text = String.ofList (text.toList.takeWhile blank ++
      ((rest.reverse.dropWhile blank).reverse ++ (rest.reverse.takeWhile blank).reverse))
    rw [← ends, List.takeWhile_append_dropWhile, String.ofList_toList]
  · intro ch member
    exact List.mem_takeWhile_imp member
  · intro ch member
    exact List.mem_takeWhile_imp (List.mem_reverse.mp member)

/-- What is stripped has no blanks left to strip. -/
theorem stripOf_stripOf (blank : Char → Bool) (text : String) :
    stripOf blank (stripOf blank text) = stripOf blank text := by
  let rest := text.toList.dropWhile blank
  have starts : (rest.rdropWhile blank).dropWhile blank = rest.rdropWhile blank := by
    rw [List.dropWhile_eq_self_iff]
    intro filled
    have front : rest.rdropWhile blank <+: rest := List.rdropWhile_prefix blank rest
    rw [front.getElem filled]
    exact List.dropWhile_eq_self_iff.mp (List.dropWhile_idempotent blank text.toList) _
  change String.ofList (((String.ofList (rest.rdropWhile blank)).toList.dropWhile blank).rdropWhile
    blank) = String.ofList (rest.rdropWhile blank)
  rw [String.toList_ofList, starts, List.rdropWhile_idempotent]

end

/-! ## UTF-8 -/

theorem byteArray_toList (bytes : ByteArray) : bytes.toList = bytes.data.toList := by
  have loop (index : Nat) (read : List UInt8) :
      ByteArray.toList.loop bytes index read = read.reverse ++ bytes.data.toList.drop index := by
    fun_induction ByteArray.toList.loop bytes index read with
    | case1 index read inside ih =>
        have within : index < bytes.data.toList.length := inside
        have next : bytes.data.toList[index] = bytes.get! index := by
          rw [Array.getElem_toList]
          exact (getElem!_pos bytes.data index inside).symm
        rw [ih, List.drop_eq_getElem_cons within, next, List.reverse_cons, List.append_assoc,
          List.singleton_append]
    | case2 index read outside =>
        rw [List.drop_eq_nil_of_le (Nat.le_of_not_lt outside), List.append_nil]
  rw [ByteArray.toList, loop, List.reverse_nil, List.nil_append, List.drop_zero]

/-- The encoding of a text, character by character. -/
theorem toUTF8_toList (text : String) :
    text.toUTF8.toList = text.toList.flatMap String.utf8EncodeChar := by
  rw [byteArray_toList, String.toUTF8, ← String.utf8Encode_toList, List.utf8Encode,
    List.toList_data_toByteArray]

/-- A text has at least as many bytes as characters. -/
theorem length_le_utf8 (chars : List Char) :
    chars.length ≤ (chars.flatMap String.utf8EncodeChar).length := by
  induction chars with
  | nil => exact Nat.le_refl 0
  | cons ch rest ih =>
      have some := List.length_pos_of_ne_nil (@String.utf8EncodeChar_ne_nil ch)
      rw [List.flatMap_cons, List.length_append, List.length_cons]
      omega

/-- What stripping leaves has fewer bytes than the text, unless there was nothing
to strip. -/
theorem utf8_stripOf_lt {blank : Char → Bool} {text : String}
    (stripped : stripOf blank text ≠ text) :
    (stripOf blank text).toUTF8.toList.length < text.toUTF8.toList.length := by
  obtain ⟨front, back, whole, -, -⟩ := stripOf_split blank text
  have around : front ++ back ≠ [] := by
    intro none
    obtain ⟨rfl, rfl⟩ := List.append_eq_nil_iff.mp none
    rw [List.nil_append, List.append_nil, String.ofList_toList] at whole
    exact stripped whole.symm
  have some := List.length_pos_of_ne_nil around
  have frontBytes := length_le_utf8 front
  have backBytes := length_le_utf8 back
  have parts : text.toList = front ++ (stripOf blank text).toList ++ back := by
    rw [← String.toList_ofList (l := front ++ _ ++ back), ← whole]
  rw [toUTF8_toList, toUTF8_toList text, parts, List.flatMap_append, List.flatMap_append]
  rw [List.length_append] at some
  simp only [List.length_append]
  omega

end Library
