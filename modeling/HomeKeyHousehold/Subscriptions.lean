import HomeKeyHousehold.EntrySetup
import HomeKeyHousehold.Library.TopicFilter
import HomeKeyHousehold.TopicGrammar

/-!
# What the subscriptions deliver

A client acts on node topics and on the last wills of client ids with its prefix.  The
broker delivers what matches one of its filters.  Which of the topics it would act on
are delivered is settled for every prefix that can be set.
-/

namespace HomeKeyHousehold

open Library

/-! ## Filters -/

/-- A level of a filter as it is written. -/
def filterLevel (text : String) : FilterLevel String :=
  if text = "+" then .single else if text = "#" then .multi else .level text

/-- A filter matches a topic; one that begins with a wildcard leaves out the topics of
the broker itself, which begin with a dollar sign. -/
def filterMatches (filter topic : String) : Bool :=
  let levels := (topicLevels filter).map filterLevel
  FilterLevel.matchesLevels levels (topicLevels topic) &&
    !(FilterLevel.beginsWild levels && topic.toList.head? = some '$')

/-- A text without what no topic has in it. -/
def isTopicName (topic : String) : Bool :=
  topic ≠ "" && topic.toList.all fun ch => ch ≠ '+' && ch ≠ '#' && ch ≠ '\x00'

example : filterMatches "homekey/household/#" "homekey/household" = true := by decide

example : filterMatches "+/status" "home/ESP_A1B2/status" = false := by decide

/-! ## Levels -/

theorem topicLevels_join (front rest : String) :
    topicLevels (front ++ "/" ++ rest) = topicLevels front ++ topicLevels rest := by
  have chars : (front ++ "/" ++ rest).toList = front.toList ++ '/' :: rest.toList := by simp
  rw [topicLevels, chars, List.splitOn_append_cons_of_beq _ _ (beq_self_eq_true '/'),
    List.map_append, topicLevels, topicLevels]

/-- A text without a slash is one level. -/
theorem topicLevels_of_level {text : String} (level : '/' ∉ text.toList) :
    topicLevels text = [text] := by
  rw [topicLevels, List.splitOn_eq_singleton level, List.map_singleton, String.ofList_toList]

/-- A slash ends the first level. -/
theorem exists_split_of_slash {text : String} (slash : '/' ∈ text.toList) :
    ∃ front rest, text = front ++ "/" ++ rest := by
  obtain ⟨before, after, split⟩ := List.append_of_mem slash
  refine ⟨String.ofList before, String.ofList after, String.toList_injective ?_⟩
  simp [split]

variable {start clientId topic : String}

/-- The first level of a text with a slash is that of everything it begins. -/
theorem head_topicLevels_append (slash : '/' ∈ start.toList) (rest : String) :
    (topicLevels (start ++ rest)).head? = (topicLevels start).head? := by
  obtain ⟨front, tail, rfl⟩ := exists_split_of_slash slash
  rw [String.append_assoc, topicLevels_join, topicLevels_join,
    List.head?_append_of_ne_nil _ (topicLevels_ne_nil front),
    List.head?_append_of_ne_nil _ (topicLevels_ne_nil front)]

/-! ## The two filters -/

theorem filterMatches_all :
    filterMatches topicSubscribeAll topic = true ↔
      [topicRoot, topicHousehold] <+: topicLevels topic := by
  have levels : (topicLevels topicSubscribeAll).map filterLevel =
      [topicRoot, topicHousehold].map FilterLevel.level ++ [.multi] := by decide
  have named : FilterLevel.beginsWild
      ([topicRoot, topicHousehold].map FilterLevel.level ++ [.multi]) = false := rfl
  rw [filterMatches, levels, named, Bool.false_and, Bool.not_false, Bool.and_true,
    FilterLevel.matchesLevels_names_multi]

theorem filterMatches_status :
    filterMatches (legacyStatusSubscribe start) topic = true ↔
      (∃ name, topicLevels topic = [name, "status"]) ∧ topic.toList.head? ≠ some '$' := by
  have levels : (topicLevels "+/status").map filterLevel = [.single, .level "status"] := by decide
  have wild : FilterLevel.beginsWild [FilterLevel.single, .level "status"] = true := rfl
  rw [legacyStatusSubscribe, filterMatches, levels, wild, Bool.true_and, Bool.and_eq_true,
    FilterLevel.matchesLevels_single_name, Bool.not_eq_true', decide_eq_false_iff_not]

/-- No topic matches both filters. -/
theorem not_filterMatches_both (all : filterMatches topicSubscribeAll topic = true) :
    filterMatches (legacyStatusSubscribe start) topic = false := by
  obtain ⟨rest, levels⟩ := filterMatches_all.mp all
  rw [Bool.eq_false_iff]
  intro status
  obtain ⟨⟨name, split⟩, -⟩ := filterMatches_status.mp status
  rw [← levels] at split
  have second := congrArg (fun names => names[1]?) split
  exact absurd (Option.some.inj second) (by decide)

/-! ## What is acted upon -/

/-- A topic of a node is delivered. -/
theorem HouseholdTopic.delivered {householdId nodeId : String} {subtopic : Subtopic}
    (topical : HouseholdTopic topic householdId nodeId subtopic) :
    filterMatches topicSubscribeAll topic = true := by
  obtain ⟨first, rest, -, levels⟩ := topical.levels
  rw [filterMatches_all, levels]
  exact ⟨_, rfl⟩

/-- The levels of a last will: those of the prefix and the client id, and the status. -/
theorem topicLevels_will (start clientId : String) :
    topicLevels (start ++ clientId ++ "/status") =
      topicLevels (start ++ clientId) ++ ["status"] := by
  have spelled : start ++ clientId ++ "/status" = start ++ clientId ++ "/" ++ "status" := by
    rw [@String.append_assoc (start ++ clientId) "/" "status"]
    rfl
  have last : topicLevels "status" = ["status"] := by decide
  rw [spelled, topicLevels_join, last]

/-- A last will is delivered when its prefix is the beginning of one level, and not of a
topic of the broker. -/
theorem will_delivered_iff {filter : String} (begun : start ≠ "") (level : '/' ∉ clientId.toList) :
    filterMatches (legacyStatusSubscribe filter) (start ++ clientId ++ "/status") = true ↔
      '/' ∉ start.toList ∧ start.toList.head? ≠ some '$' := by
  have some : start.toList ≠ [] := fun empty => begun (String.toList_eq_nil_iff.mp empty)
  have first : (start ++ clientId ++ "/status").toList.head? = start.toList.head? := by
    rw [String.toList_append, String.toList_append, List.append_assoc,
      List.head?_append_of_ne_nil _ some]
  rw [filterMatches_status, first, topicLevels_will]
  refine and_congr_left fun _ => ?_
  constructor
  · rintro ⟨name, split⟩ slash
    obtain ⟨front, tail, rfl⟩ := exists_split_of_slash slash
    have count := congrArg List.length split
    rw [@String.append_assoc (front ++ "/") tail, topicLevels_join, List.length_append,
      List.length_append] at count
    have before := List.length_pos_of_ne_nil (topicLevels_ne_nil front)
    have behind := List.length_pos_of_ne_nil (topicLevels_ne_nil (tail ++ clientId))
    simp only [List.length_cons, List.length_nil] at count
    omega
  · intro plain
    refine ⟨start ++ clientId, ?_⟩
    rw [topicLevels_of_level]
    · rfl
    · rw [String.toList_append, List.mem_append]
      exact fun slash => slash.elim plain level

namespace MqttSetup

/-- The client of the set-up. -/
def client (world : MqttSetup) : HomeKeyMqttClient :=
  .new world.configured.entry.householdId (some world.legacyPrefix)

/-- The broker delivers a topic to the client. -/
def Delivers (world : MqttSetup) (topic : String) : Prop :=
  ∃ filter ∈ world.filters, filterMatches filter.1 topic = true

/-- A prefix that begins the first level of the topics it is meant for, of those that are
neither of the household namespace nor of the broker. -/
def PrefixServed (world : MqttSetup) : Prop :=
  isTopicName world.legacyPrefix = true →
    world.legacyPrefix.toList.head? ≠ some '$' ∧
      ('/' ∈ world.legacyPrefix.toList → (topicLevels world.legacyPrefix).head? = some topicRoot)

variable {world : MqttSetup}

theorem delivers_iff (topic : String) :
    world.Delivers topic ↔
      filterMatches topicSubscribeAll topic = true ∨
        world.legacyPrefix ≠ "" ∧
          filterMatches (legacyStatusSubscribe world.legacyPrefix) topic = true := by
  unfold Delivers filters
  split
  · next unset => simp [unset]
  · next set => simp [set]

/-- A last will of a client id with the prefix is delivered when the prefix is served. -/
theorem delivers_will_iff (begun : world.legacyPrefix ≠ "") (level : '/' ∉ clientId.toList)
    (outside : (topicLevels (world.legacyPrefix ++ clientId ++ "/status")).head? ≠ some topicRoot) :
    world.Delivers (world.legacyPrefix ++ clientId ++ "/status") ↔
      '/' ∉ world.legacyPrefix.toList ∧ world.legacyPrefix.toList.head? ≠ some '$' := by
  rw [delivers_iff, will_delivered_iff begun level]
  constructor
  · rintro (all | ⟨-, served⟩)
    · obtain ⟨rest, levels⟩ := filterMatches_all.mp all
      rw [← levels] at outside
      exact absurd rfl outside
    · exact served
  · intro served
    exact Or.inr ⟨begun, served⟩

theorem isTopicName_append (front rest : String) :
    isTopicName (front ++ rest) = true → front ≠ "" → isTopicName front = true := by
  unfold isTopicName
  intro named begun
  rw [Bool.and_eq_true, String.toList_append, List.all_append, Bool.and_eq_true] at named
  rw [Bool.and_eq_true, decide_eq_true_eq]
  exact ⟨begun, named.2.1⟩

/-- A topic of the root begins with its first letter. -/
theorem head_of_root (inside : (topicLevels topic).head? = some topicRoot) :
    topic.toList.head? = some 'h' := by
  obtain ⟨rest, levels⟩ := List.head?_eq_some_iff.mp inside
  have root : topicRoot.toList = 'h' :: "omekey".toList := by decide
  rw [← intercalate_topicLevels topic, levels, String.toList_intercalate, List.map_cons]
  cases rest with
  | nil => rw [List.map_nil, List.intercalate_singleton, root, List.head?_cons]
  | cons second rest =>
      rw [List.map_cons, List.intercalate_cons_cons, root, List.append_assoc, List.cons_append,
        List.head?_cons]

/-- At most one filter matches a topic. -/
theorem length_filters_le (world : MqttSetup) (topic : String) :
    (world.filters.filter fun filter => filterMatches filter.1 topic).length ≤ 1 := by
  unfold filters
  rw [List.filter_cons]
  dsimp only
  split
  · next all =>
      have apart := @not_filterMatches_both world.legacyPrefix topic all
      split
      · exact Nat.le_refl 1
      · rw [List.filter_cons_of_neg (by simp [apart])]
        exact Nat.le_refl 1
  · split
    · exact Nat.zero_le 1
    · exact List.length_filter_le _ _

/-- No publication is delivered twice.  Every topic the client acts upon is delivered
exactly when the prefix is served: one of more than one level, or of the topics of the
broker, is set in vain. -/
theorem subscriptions_cover_iff (world : MqttSetup) :
    (∀ topic, (world.filters.filter fun filter => filterMatches filter.1 topic).length ≤ 1) ∧
      ((∀ said message, isTopicName said.topic = true →
          world.client.onMessage said = some message → world.Delivers said.topic) ↔
        world.PrefixServed) := by
  refine ⟨world.length_filters_le, fun covers named => ?_,
    fun served said message topical handed => ?_⟩
  · have begun : world.legacyPrefix ≠ "" := by
      rw [isTopicName, Bool.and_eq_true, decide_eq_true_eq] at named
      exact named.1
    have some : world.legacyPrefix.toList ≠ [] := fun empty =>
      begun (String.toList_eq_nil_iff.mp empty)
    have level : '/' ∉ "a".toList := by decide
    by_cases outside :
        (topicLevels (world.legacyPrefix ++ "a" ++ "/status")).head? = Option.some topicRoot
    · have first := head_of_root outside
      rw [String.append_assoc] at outside first
      rw [String.toList_append, List.head?_append_of_ne_nil _ some] at first
      refine ⟨fun dollar => ?_, fun slash => ?_⟩
      · cases first.symm.trans dollar
      · rw [← head_topicLevels_append slash, outside]
    · -- A last will with the prefix is acted upon, so that it is delivered.
      let said : Publication := ⟨world.legacyPrefix ++ "a" ++ "/status", "offline", 1, true⟩
      have will : WillTopic world.client.legacyPrefix said.topic "a" :=
        ⟨outside, ⟨world.legacyPrefix, rfl, begun, rfl⟩, by decide, level⟩
      have topical : isTopicName said.topic = true := by
        rw [isTopicName, Bool.and_eq_true, decide_eq_true_eq] at named ⊢
        have rest : ("a" ++ "/status").toList.all
            (fun ch => ch ≠ '+' && ch ≠ '#' && ch ≠ '\x00') = true := by decide
        dsimp only [said]
        rw [String.append_assoc]
        refine ⟨fun empty => ?_, ?_⟩
        · exact begun (String.append_eq_empty_iff.mp empty).1
        · rw [String.toList_append, List.all_append, named.2, rest]
          rfl
      have delivered := covers said _ topical will.onMessage
      obtain ⟨plain, ordinary⟩ := (delivers_will_iff begun level outside).mp delivered
      exact ⟨ordinary, fun slash => absurd slash plain⟩
  · rcases HomeKeyMqttClient.onMessage_eq_some_iff.mp handed with
      ⟨householdId, nodeId, subtopic, own, -⟩ | ⟨clientId, will, -⟩
    · exact (delivers_iff said.topic).mpr (Or.inl own.delivered)
    · obtain ⟨start, prefixed, begun, spelled⟩ := will.spelled
      cases (Option.some.inj prefixed : world.legacyPrefix = start)
      have outside := will.outside
      rw [spelled] at topical outside ⊢
      have named := isTopicName_append world.legacyPrefix (clientId ++ "/status")
        (String.append_assoc ▸ topical) begun
      obtain ⟨ordinary, inside⟩ := served named
      refine (delivers_will_iff begun will.level outside).mpr ⟨fun slash => ?_, ordinary⟩
      rw [String.append_assoc, head_topicLevels_append slash] at outside
      exact outside (inside slash)

end MqttSetup

end HomeKeyHousehold
