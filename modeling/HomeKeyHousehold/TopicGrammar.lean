import HomeKeyHousehold.ConfigFlow
import HomeKeyHousehold.Inbound

/-!
# The grammar of topics

The topics that are parsed are the node topics of valid ids and, when a legacy
prefix is set, the prefix followed by a client id and a legacy suffix.  The ids
are those the household form accepts.
-/

namespace HomeKeyHousehold

open Library

/-! ## Ids -/

/-- The two ways of checking an id accept the same texts. -/
theorem validateId_isOk (value fieldName : String) :
    (validateId value fieldName).isOk = isValidId value := by
  have safe : (value.toList.any fun ch => !idSafeChars.toList.contains ch) =
      !value.toList.all fun ch => allowedIdChars.toList.contains ch := by
    rw [List.not_all_eq_any_not]
    rfl
  rw [validateId, isValidId, safe]
  by_cases empty : value = ""
  · simp [empty, invalid, Except.isOk, Except.toBool]
  by_cases long : 64 < value.length
  · simp [empty, long, invalid, Except.isOk, Except.toBool]
  · rw [if_neg empty, if_neg long]
    have short : value.length ≤ 64 := Nat.le_of_not_lt long
    cases value.toList.all fun ch => allowedIdChars.toList.contains ch with
    | false => simp [invalid, Except.isOk, Except.toBool]
    | true => simp [empty, short, Except.isOk, Except.toBool]

/-- A valid id is one level of a topic. -/
theorem slash_not_mem_of_isValidId {text : String} (valid : isValidId text = true) :
    '/' ∉ text.toList := by
  intro slash
  rw [isValidId, Bool.and_eq_true, List.all_eq_true] at valid
  exact absurd (valid.2 '/' slash) (by decide)

/-! ## Levels -/

/-- The levels of a topic, joined again. -/
theorem intercalate_topicLevels (topic : String) : "/".intercalate (topicLevels topic) = topic := by
  apply String.toList_injective
  rw [String.toList_intercalate, topicLevels, List.map_map]
  have same : String.toList ∘ String.ofList = id := by
    funext chars
    exact String.toList_ofList
  rw [same, List.map_id]
  exact List.intercalate_splitOn '/'

/-- A text without a slash before one is the first level. -/
theorem topicLevels_append {front : String} (level : '/' ∉ front.toList) (rest : String) :
    topicLevels (front ++ "/" ++ rest) = front :: topicLevels rest := by
  have chars : (front ++ "/" ++ rest).toList = front.toList ++ '/' :: rest.toList := by simp
  rw [topicLevels, chars, List.splitOn_append_cons_self_of_not_mem level, List.map_cons,
    String.ofList_toList, topicLevels]

/-- The levels of a node topic. -/
theorem topicLevels_nodeTopic {householdId nodeId : String} (household : '/' ∉ householdId.toList)
    (node : '/' ∉ nodeId.toList) (subtopic : String) :
    topicLevels (nodeTopic householdId nodeId subtopic) =
      topicRoot :: topicHousehold :: householdId :: topicNodes :: nodeId ::
        topicLevels subtopic := by
  have spelled : nodeTopic householdId nodeId subtopic =
      topicRoot ++ "/" ++ (topicHousehold ++ "/" ++ (householdId ++ "/" ++
        (topicNodes ++ "/" ++ (nodeId ++ "/" ++ subtopic)))) := by
    simp only [nodeTopic, nodeBase, String.append_assoc]
  rw [spelled, topicLevels_append (by decide), topicLevels_append (by decide),
    topicLevels_append household, topicLevels_append (by decide), topicLevels_append node]

/-- A topic with such levels is a node topic. -/
theorem eq_nodeTopic_of_topicLevels {topic householdId nodeId first : String} {rest : List String}
    (levels : topicLevels topic =
      topicRoot :: topicHousehold :: householdId :: topicNodes :: nodeId :: first :: rest) :
    topic = nodeTopic householdId nodeId ("/".intercalate (first :: rest)) := by
  rw [← intercalate_topicLevels topic, levels]
  simp only [String.intercalate_cons_cons, nodeTopic, nodeBase, String.append_assoc]

/-! ## Parsing -/

/-- A topic below a node whose ids the household form would accept. -/
structure NodeTopic (topic householdId nodeId subtopic : String) : Prop where
  household : (validateId householdId "household_id").isOk = true
  node : (validateId nodeId "node_id").isOk = true
  filled : subtopic ≠ ""
  spelled : topic = nodeTopic householdId nodeId subtopic

/-- A topic outside the household namespace that is a prefix, a client id and a
legacy suffix of some kind. -/
structure LegacyTopic (start topic clientId kind : String) : Prop where
  outside : (topicLevels topic).head? ≠ some topicRoot
  filled : clientId ≠ ""
  level : '/' ∉ clientId.toList
  spelled : ∃ suffix, legacySuffixKind suffix = some kind ∧
    topic = start ++ clientId ++ "/" ++ suffix

/-- The result for a topic below a node. -/
def ParsedTopic.ofNode (householdId nodeId subtopic : String) : ParsedTopic :=
  { householdId := some householdId
    nodeId := some nodeId
    subtopic
    reserved := reservedTopics.contains subtopic }

/-- Every accepted id can be reached: the topic below it is parsed back. -/
theorem NodeTopic.parseTopic_eq {topic householdId nodeId subtopic : String}
    (below : NodeTopic topic householdId nodeId subtopic) (legacyPrefix : Option String) :
    parseTopic topic legacyPrefix = some (.ofNode householdId nodeId subtopic) := by
  obtain ⟨household, node, -, rfl⟩ := below
  rw [validateId_isOk] at household node
  obtain ⟨first, rest, split⟩ := List.exists_cons_of_ne_nil (topicLevels_ne_nil subtopic)
  have joined : "/".intercalate (first :: rest) = subtopic := by
    rw [← split, intercalate_topicLevels]
  refine parseTopic_eq_some_iff.mpr (Or.inl ⟨householdId, nodeId, first, rest, household, node,
    ?_, by rw [joined]; rfl⟩)
  rw [topicLevels_nodeTopic (slash_not_mem_of_isValidId household)
    (slash_not_mem_of_isValidId node), split]

/-- What is parsed, and what it is parsed to: node topics of accepted ids, reserved
when their subtopic is, and with a prefix that is not empty the legacy topics. -/
theorem parseTopic_grammar (topic : String) (legacyPrefix : Option String) :
    (∀ parsed, (parseTopic topic legacyPrefix = some parsed ∧ parsed.legacy = false ∧
        parsed.subtopic ≠ "") ↔
      ∃ householdId nodeId subtopic, NodeTopic topic householdId nodeId subtopic ∧
        parsed = .ofNode householdId nodeId subtopic) ∧
    (∀ parsed, (parseTopic topic legacyPrefix = some parsed ∧ parsed.legacy = true) ↔
      ∃ start clientId kind, legacyPrefix = some start ∧ start ≠ "" ∧
        LegacyTopic start topic clientId kind ∧
        parsed =
          { householdId := none, nodeId := some clientId, subtopic := kind, legacy := true }) ∧
    (∀ text fieldName, (validateId text fieldName).isOk = isValidId text) ∧
    ∀ householdId nodeId subtopic, (validateId householdId "household_id").isOk = true →
      (validateId nodeId "node_id").isOk = true → subtopic ≠ "" →
      parseTopic (nodeTopic householdId nodeId subtopic) legacyPrefix =
        some (.ofNode householdId nodeId subtopic) := by
  refine ⟨fun parsed => ⟨?_, ?_⟩, fun parsed => ⟨?_, ?_⟩, validateId_isOk,
    fun householdId nodeId subtopic household node filled =>
      NodeTopic.parseTopic_eq ⟨household, node, filled, rfl⟩ legacyPrefix⟩
  · rintro ⟨taken, household, filled⟩
    rcases parseTopic_eq_some_iff.mp taken with
      ⟨householdId, nodeId, first, rest, validHousehold, validNode, levels, rfl⟩ |
      ⟨-, start, -, -, legacy⟩
    · exact ⟨householdId, nodeId, _, ⟨by rw [validateId_isOk, validHousehold],
        by rw [validateId_isOk, validNode], filled, eq_nodeTopic_of_topicLevels levels⟩, rfl⟩
    · obtain ⟨_, _, _, -, -, -, -, rfl⟩ := parseLegacyTopic_eq_some_iff.mp legacy
      cases household
  · rintro ⟨householdId, nodeId, subtopic, below, rfl⟩
    exact ⟨below.parseTopic_eq legacyPrefix, rfl, below.filled⟩
  · rintro ⟨taken, legacy⟩
    rcases parseTopic_eq_some_iff.mp taken with
      ⟨_, _, _, _, -, -, -, rfl⟩ | ⟨outside, start, prefixed, begun, suffixed⟩
    · cases legacy
    · obtain ⟨clientId, suffix, kind, filled, level, spelled, known, rfl⟩ :=
        parseLegacyTopic_eq_some_iff.mp suffixed
      exact ⟨start, clientId, kind, prefixed, begun,
        ⟨outside, filled, level, suffix, known, spelled⟩, rfl⟩
  · rintro ⟨start, clientId, kind, rfl, begun, ⟨outside, filled, level, suffix, known, spelled⟩,
      rfl⟩
    exact ⟨parseTopic_eq_some_iff.mpr (Or.inr ⟨outside, start, rfl, begun,
      parseLegacyTopic_eq_some_iff.mpr ⟨clientId, suffix, kind, filled, level, spelled, known,
        rfl⟩⟩), rfl⟩

/-- An empty prefix is no prefix: nothing is a legacy topic then. -/
theorem emptyPrefix_parses_nothing :
    ¬ ∀ topic start clientId kind, LegacyTopic start topic clientId kind →
      ∃ parsed, parseTopic topic (some start) = some parsed ∧ parsed.legacy = true := by
  intro always
  have levels : topicLevels "x/status" = ["x", "status"] := by decide
  obtain ⟨parsed, taken, -⟩ := always "x/status" "" "x" Subtopic.legacyStatus.spelling
    { outside := by rw [levels]; decide
      filled := by decide
      level := by decide
      spelled := ⟨"status", rfl, by decide⟩ }
  rw [parseTopic, levels] at taken
  cases taken

end HomeKeyHousehold
