import HomeKeyHousehold.Library.Joined
import HomeKeyHousehold.ConfigFlow

/-!
# The unique ids of entities

An entity is known to Home Assistant by its household, its node and its type, joined by
underscores.  No type ends with another one after an underscore, so the type can be read
back.  The two ids before it may hold underscores themselves: one text can then be cut in
two places, and two nodes of different households share their entities' ids.
-/

namespace HomeKeyHousehold

open Library

/-- The entities the integration creates for a node. -/
inductive EntityType where
  | lock
  | online
  | health
  | backup
  | security
  | firmware
  | lastAuth
  | guestAccess
  | guestValidity
  | guestTags
  | guestTeach
  | guestCancel
  | backupNow
  deriving DecidableEq, Repr

namespace EntityType

def all : List EntityType :=
  [lock, online, health, backup, security, firmware, lastAuth, guestAccess, guestValidity,
    guestTags, guestTeach, guestCancel, backupNow]

def spelling : EntityType → String
  | lock => "lock"
  | online => "online"
  | health => "health"
  | backup => "backup"
  | security => "security"
  | firmware => "firmware"
  | lastAuth => "last_auth"
  | guestAccess => "guest_access"
  | guestValidity => "guest_validity"
  | guestTags => "guest_tags"
  | guestTeach => "guest_teach"
  | guestCancel => "guest_cancel"
  | backupNow => "backup_now"

theorem mem_all (entity : EntityType) : entity ∈ all := by
  cases entity <;> decide

theorem spelling_injective : Function.Injective spelling := by
  have distinct : ∀ first ∈ all, ∀ second ∈ all,
      first.spelling = second.spelling → first = second := by decide
  exact fun first second => distinct first (mem_all first) second (mem_all second)

/-- No type ends with another one after an underscore. -/
theorem not_suffix (first second : EntityType) :
    ¬ '_' :: second.spelling.toList <:+ first.spelling.toList := by
  have apart : ∀ first ∈ all, ∀ second ∈ all,
      ¬ '_' :: second.spelling.toList <:+ first.spelling.toList := by decide
  exact apart first (mem_all first) second (mem_all second)

end EntityType

def uniqueId (householdId nodeId : String) (entity : EntityType) : String :=
  householdId ++ "_" ++ nodeId ++ "_" ++ entity.spelling

variable {firstHome firstNode secondHome secondNode : String}
variable {firstEntity secondEntity : EntityType}

theorem toList_uniqueId (householdId nodeId : String) (entity : EntityType) :
    (uniqueId householdId nodeId entity).toList =
      (householdId.toList ++ '_' :: nodeId.toList) ++ '_' :: entity.spelling.toList := by
  simp [uniqueId]

/-- The front of the second node's id is the back of the second household's: the first
household goes on with an underscore and a part with which the first node begins. -/
def ReadsInto (firstHome firstNode secondHome secondNode : String) : Prop :=
  ∃ middle, secondHome = firstHome ++ "_" ++ middle ∧ firstNode = middle ++ "_" ++ secondNode

theorem ReadsInto.apart (reads : ReadsInto firstHome firstNode secondHome secondNode) :
    firstHome ≠ secondHome := by
  obtain ⟨middle, longer, -⟩ := reads
  intro same
  have lengths := congrArg String.length (same.trans longer)
  rw [String.length_append, String.length_append] at lengths
  have separator : "_".length = 1 := rfl
  omega

/-- Another cut of the joined ids, as texts. -/
theorem readsInto_iff : ReadsInto firstHome firstNode secondHome secondNode ↔
    ∃ middle, secondHome.toList = firstHome.toList ++ '_' :: middle ∧
      firstNode.toList = middle ++ '_' :: secondNode.toList := by
  constructor
  · rintro ⟨middle, rfl, rfl⟩
    exact ⟨middle.toList, by simp, by simp⟩
  · rintro ⟨middle, home, node⟩
    exact ⟨String.ofList middle, String.toList_injective (by simpa using home),
      String.toList_injective (by simpa using node)⟩

/-- Two entities have one id when they are of one type and their households and nodes
join to one text. -/
theorem uniqueId_eq_iff : uniqueId firstHome firstNode firstEntity =
      uniqueId secondHome secondNode secondEntity ↔
    firstEntity = secondEntity ∧
      ((firstHome = secondHome ∧ firstNode = secondNode) ∨
        ReadsInto firstHome firstNode secondHome secondNode ∨
        ReadsInto secondHome secondNode firstHome firstNode) := by
  rw [← String.toList_inj, toList_uniqueId, toList_uniqueId, readsInto_iff, readsInto_iff,
    join_eq_join_iff]
  -- A type that takes in a part of the node's id would end with another type.
  have cut : ∀ (one other : EntityType) (middle : List Char),
      one.spelling.toList ≠ middle ++ '_' :: other.spelling.toList :=
    fun one other middle same => EntityType.not_suffix one other (same ▸ List.suffix_append _ _)
  constructor
  · rintro (⟨ids, spelled⟩ | ⟨middle, -, spelled⟩ | ⟨middle, -, spelled⟩)
    · refine ⟨EntityType.spelling_injective (String.toList_injective spelled), ?_⟩
      simpa only [String.toList_inj] using join_eq_join_iff.mp ids
    · exact absurd spelled (cut _ _ middle)
    · exact absurd spelled (cut _ _ middle)
  · rintro ⟨rfl, ids⟩
    exact Or.inl ⟨join_eq_join_iff.mpr (by simpa only [String.toList_inj] using ids), rfl⟩

/-- One id is one entity, unless the types agree and the one household and node read into
the other. -/
theorem uniqueId_injective_iff :
    (uniqueId firstHome firstNode firstEntity = uniqueId secondHome secondNode secondEntity →
        (firstHome, firstNode, firstEntity) = (secondHome, secondNode, secondEntity)) ↔
      ¬ (firstEntity = secondEntity ∧
        (ReadsInto firstHome firstNode secondHome secondNode ∨
          ReadsInto secondHome secondNode firstHome firstNode)) := by
  rw [uniqueId_eq_iff, Prod.mk.injEq, Prod.mk.injEq]
  constructor
  · rintro same ⟨rfl, reads⟩
    have home := (same ⟨rfl, Or.inr reads⟩).1
    rcases reads with reads | reads
    · exact reads.apart home
    · exact reads.apart home.symm
  · rintro apart ⟨rfl, ⟨home, node⟩ | reads⟩
    · exact ⟨home, node, rfl⟩
    · exact absurd ⟨rfl, reads⟩ apart

/-- Within one household ids tell nodes and types apart. -/
theorem uniqueId_injective_in_household (householdId : String)
    (same : uniqueId householdId firstNode firstEntity =
      uniqueId householdId secondNode secondEntity) :
    firstNode = secondNode ∧ firstEntity = secondEntity := by
  obtain ⟨type, ⟨-, node⟩ | reads | reads⟩ := uniqueId_eq_iff.mp same
  · exact ⟨node, type⟩
  · exact absurd rfl reads.apart
  · exact absurd rfl reads.apart

/-- Households without underscores have no id in common. -/
theorem uniqueId_injective_of_plain (firstPlain : '_' ∉ firstHome.toList)
    (secondPlain : '_' ∉ secondHome.toList)
    (same : uniqueId firstHome firstNode firstEntity =
      uniqueId secondHome secondNode secondEntity) :
    (firstHome, firstNode, firstEntity) = (secondHome, secondNode, secondEntity) := by
  refine uniqueId_injective_iff.mpr ?_ same
  rw [readsInto_iff, readsInto_iff]
  rintro ⟨-, ⟨middle, home, -⟩ | ⟨middle, home, -⟩⟩
  · exact secondPlain (home ▸ by simp)
  · exact firstPlain (home ▸ by simp)

/-! ### Two nodes with one lock -/

/-- Valid ids of two households whose entities cannot be told apart. -/
theorem uniqueId_shared :
    ¬ ∀ (firstHome firstNode secondHome secondNode : String)
      (firstEntity secondEntity : EntityType),
      (validateId firstHome "household_id").isOk = true →
      (validateId firstNode "node_id").isOk = true →
      (validateId secondHome "household_id").isOk = true →
      (validateId secondNode "node_id").isOk = true →
      uniqueId firstHome firstNode firstEntity = uniqueId secondHome secondNode secondEntity →
      (firstHome, firstNode, firstEntity) = (secondHome, secondNode, secondEntity) := by
  intro injective
  have same := injective "HOME" "A_GATE" "HOME_A" "GATE" .lock .lock (by decide) (by decide)
    (by decide) (by decide) (by decide)
  exact absurd same (by decide)

end HomeKeyHousehold
