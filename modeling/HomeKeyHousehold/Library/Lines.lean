import HomeKeyHousehold.Library.Text

/-!
# Lines of a text

`str.splitlines` ends a line at any line boundary and takes a carriage return with the
line feed behind it for one.  Lines that have no boundary in them are recovered from the
text that joins them with line feeds.
-/

namespace Library

/-- The characters at which `str.splitlines` ends a line. -/
def isLineBreak (ch : Char) : Bool :=
  let code := ch.toNat
  (0x0a ≤ code && code ≤ 0x0d) || (0x1c ≤ code && code ≤ 0x1e) || code = 0x85 ||
    code = 0x2028 || code = 0x2029

/-- The lines of the characters to come, behind the line that is being read. -/
def linesFrom (line : List Char) : List Char → List (List Char)
  | [] => if line = [] then [] else [line]
  | '\r' :: '\n' :: rest => line :: linesFrom [] rest
  | ch :: rest =>
      if isLineBreak ch then line :: linesFrom [] rest else linesFrom (line ++ [ch]) rest

/-- `text.splitlines()`. -/
def splitlines (text : String) : List String := (linesFrom [] text.toList).map String.ofList

example : splitlines "a\r\nb\n\nc\n" = ["a", "b", "", "c"] := by decide

/-- A line boundary is whitespace. -/
theorem isWhitespace_of_isLineBreak {ch : Char} (ends : isLineBreak ch = true) :
    isWhitespace ch = true := by
  simp only [isLineBreak, isWhitespace, Bool.or_eq_true, Bool.and_eq_true, decide_eq_true_eq]
    at ends ⊢
  omega

/-- Characters without a line boundary. -/
def Unbroken (chars : List Char) : Prop := ∀ ch ∈ chars, isLineBreak ch = false

variable {line chars rest found : List Char} {ch : Char}

theorem linesFrom_feed (line rest : List Char) :
    linesFrom line ('\n' :: rest) = line :: linesFrom [] rest := by
  rw [linesFrom]
  · rfl
  · intro after same
    cases same

/-- A character that ends no line is read into it. -/
theorem linesFrom_cons (inside : isLineBreak ch = false) (line rest : List Char) :
    linesFrom line (ch :: rest) = linesFrom (line ++ [ch]) rest := by
  rw [linesFrom, if_neg (Bool.eq_false_iff.mp inside)]
  intro after same
  rw [same] at inside
  cases inside

/-- Characters without a boundary are read into the line. -/
theorem linesFrom_append (unbroken : Unbroken chars) (line rest : List Char) :
    linesFrom line (chars ++ rest) = linesFrom (line ++ chars) rest := by
  induction chars generalizing line with
  | nil => rw [List.nil_append, List.append_nil]
  | cons ch chars ih =>
      have inside := unbroken ch List.mem_cons_self
      have others : Unbroken chars := fun other member =>
        unbroken other (List.mem_cons_of_mem ch member)
      rw [List.cons_append, linesFrom_cons inside, ih others, List.append_assoc,
        List.singleton_append]

/-- Lines without a boundary that are joined by line feeds are split again; the last of
them is not empty, for an empty one would not be there. -/
theorem linesFrom_intercalate (lines : List (List Char)) (unbroken : ∀ line ∈ lines, Unbroken line)
    (filled : ∀ line ∈ lines, line ≠ []) :
    linesFrom [] (List.intercalate ['\n'] lines) = lines := by
  induction lines with
  | nil => rfl
  | cons first others ih =>
      have plain := unbroken first List.mem_cons_self
      cases others with
      | nil =>
          have some := filled first List.mem_cons_self
          have alone := linesFrom_append plain [] []
          rw [List.append_nil, List.nil_append] at alone
          rw [List.intercalate_singleton, alone, linesFrom, if_neg some]
      | cons second others =>
          rw [List.intercalate_cons_cons, List.append_assoc, linesFrom_append plain,
            List.singleton_append, List.nil_append, linesFrom_feed]
          congr 1
          exact ih (fun line member => unbroken line (List.mem_cons_of_mem first member))
            fun line member => filled line (List.mem_cons_of_mem first member)

/-- No line has a boundary in it. -/
theorem unbroken_of_mem_linesFrom (unbroken : Unbroken line)
    (member : found ∈ linesFrom line chars) : Unbroken found := by
  have blank : Unbroken [] := fun ch absent => by cases absent
  fun_induction linesFrom line chars with
  | case1 => cases member
  | case2 line some =>
      rw [List.mem_singleton.mp member]
      exact unbroken
  | case3 line rest ih =>
      rcases List.mem_cons.mp member with rfl | later
      · exact unbroken
      · exact ih blank later
  | case4 line ch rest other ends ih =>
      rcases List.mem_cons.mp member with rfl | later
      · exact unbroken
      · exact ih blank later
  | case5 line ch rest other inside ih =>
      refine ih (fun symbol member => ?_) member
      rcases List.mem_append.mp member with early | last
      · exact unbroken symbol early
      · rw [List.mem_singleton.mp last]
        exact Bool.eq_false_iff.mpr inside

/-- The lines hold every character that ends no line, in order. -/
theorem flatten_linesFrom (line chars : List Char) :
    (linesFrom line chars).flatten = line ++ chars.filter fun ch => !isLineBreak ch := by
  fun_induction linesFrom line chars with
  | case1 => rfl
  | case2 line some => simp
  | case3 line rest ih =>
      have feed : isLineBreak '\n' = true := by decide
      have carriage : isLineBreak '\r' = true := by decide
      rw [List.flatten_cons, ih]
      simp [feed, carriage]
  | case4 line ch rest other ends ih =>
      rw [List.flatten_cons, ih]
      simp [ends]
  | case5 line ch rest other inside ih =>
      rw [ih]
      simp [inside]

end Library
