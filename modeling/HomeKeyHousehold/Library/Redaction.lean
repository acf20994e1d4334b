import HomeKeyHousehold.Library.Json
import Mathlib.Data.List.Forall2

/-!
# Redaction of a document by key names

A value under a secret key is replaced by a mark, at every depth, and the items
of a list stand under the key of the list.  Two values are alike when they are
redacted to the same one.
-/

namespace Library

namespace Json

section

variable (secret : String → Bool) (mark : Json)

mutual

/-- A value that stands under a key, without what is under secret keys. -/
def redact (key : String) : Json → Json
  | .obj members => if secret key then mark else .obj (redactMembers members)
  | .arr items => if secret key then mark else .arr (redactItems key items)
  | value => if secret key then mark else value

def redactItems (key : String) : List Json → List Json
  | [] => []
  | item :: rest => redact key item :: redactItems key rest

def redactMembers : List (String × Json) → List (String × Json)
  | [] => []
  | (name, value) :: rest => (name, redact name value) :: redactMembers rest

end

/-- Values that nobody who reads them redacted can tell apart. -/
def Alike (key : String) (value other : Json) : Prop :=
  redact secret mark key value = redact secret mark key other

/-- Members of one name whose values are alike. -/
def AlikeMembers (member other : String × Json) : Prop :=
  member.1 = other.1 ∧ Alike secret mark member.1 member.2 other.2

end

variable {secret : String → Bool} {mark : Json} {key : String}

theorem redact_of_secret (hidden : secret key = true) (value : Json) :
    redact secret mark key value = mark := by
  cases value with
  | null | bool _ | int _ | float _ | str _ | arr _ | obj _ =>
      rw [redact]
      · exact if_pos hidden
      all_goals exact fun _ same => by cases same

/-- All values are alike under a secret key. -/
theorem alike_of_secret (hidden : secret key = true) (value other : Json) :
    Alike secret mark key value other := by
  rw [Alike, redact_of_secret hidden, redact_of_secret hidden]

theorem alike_refl (key : String) (value : Json) : Alike secret mark key value value := rfl

theorem redactMembers_congr {members others : List (String × Json)}
    (alike : List.Forall₂ (AlikeMembers secret mark) members others) :
    redactMembers secret mark members = redactMembers secret mark others := by
  induction alike with
  | nil => rfl
  | @cons member other rest later first _ ih =>
      obtain ⟨name, value⟩ := member
      obtain ⟨named, told⟩ := other
      obtain ⟨rfl, values⟩ := first
      rw [redactMembers, redactMembers, ih, values]

/-- Objects are alike when their members are. -/
theorem alike_obj {members others : List (String × Json)}
    (alike : List.Forall₂ (AlikeMembers secret mark) members others) :
    Alike secret mark key (.obj members) (.obj others) := by
  rw [Alike, redact, redact, redactMembers_congr alike]

end Json

end Library
