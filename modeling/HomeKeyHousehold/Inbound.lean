import HomeKeyHousehold.Library.Joined
import HomeKeyHousehold.Coordinator

/-!
# Messages from the broker

A client parses the topic of every message its subscriptions deliver.  A topic of
the household namespace names its household and its node.  A legacy topic names a
client id only, and its last-will status is taken as one of the client's own
household.
-/

namespace HomeKeyHousehold

open Library

/-! ## Topics -/

/-- `topic.split("/")`. -/
def topicLevels (topic : String) : List String :=
  (topic.toList.splitOn '/').map String.ofList

/-- The subtopics the firmware reserves. -/
def reservedTopics : List String :=
  ["events", "backup/request", "backup/data", "restore/request", "restore/status"]

def allowedIdChars : String := "abcdefghijklmnopqrstuvwxyzABCDEFGHIJKLMNOPQRSTUVWXYZ0123456789_-"

/-- `_is_valid_id`. -/
def isValidId (value : String) : Bool :=
  value ≠ "" && value.length ≤ 64 && value.toList.all fun ch => allowedIdChars.toList.contains ch

/-- The result of parsing a topic. -/
structure ParsedTopic where
  householdId : Option String
  nodeId : Option String
  subtopic : String
  legacy : Bool := false
  reserved : Bool := false
  deriving DecidableEq

/-- `_LEGACY_SUFFIX_KINDS`. -/
def legacySuffixKind (suffix : String) : Option String :=
  if suffix = "status" then some Subtopic.legacyStatus.spelling
  else if suffix = "homekit/state" then some "legacy_state"
  else if suffix = "homekey/auth" then some "legacy_auth"
  else none

/-- `_parse_legacy_topic`: the client id ends at the first slash after the prefix. -/
def parseLegacyTopic (topic legacyPrefix : String) : Option ParsedTopic :=
  if legacyPrefix.toList <+: topic.toList then
    let rest := topic.toList.drop legacyPrefix.length
    match rest.dropWhile fun ch => ch ≠ '/' with
    | [] => none
    | _ :: suffix =>
        let clientId := rest.takeWhile fun ch => ch ≠ '/'
        if clientId = [] then none
        else
          (legacySuffixKind (String.ofList suffix)).map fun kind =>
            { householdId := none
              nodeId := some (String.ofList clientId)
              subtopic := kind
              legacy := true }
  else none

/-- `parse_topic`. -/
def parseTopic (topic : String) (legacyPrefix : Option String) : Option ParsedTopic :=
  match topicLevels topic with
  | root :: levels =>
      if root = topicRoot then
        match levels with
        | household :: householdId :: nodes :: nodeId :: first :: rest =>
            if household = topicHousehold ∧ isValidId householdId = true ∧ nodes = topicNodes ∧
                isValidId nodeId = true then
              let subtopic := "/".intercalate (first :: rest)
              some
                { householdId
                  nodeId
                  subtopic
                  reserved := reservedTopics.contains subtopic }
            else none
        | _ => none
      else
        match legacyPrefix with
        | none => none
        | some legacyPrefix =>
            if legacyPrefix = "" then none else parseLegacyTopic topic legacyPrefix
  | [] => none

/-- `_KNOWN_SUBTOPICS`: what a household topic may end in. -/
def isKnownSubtopic (subtopic : String) : Bool :=
  match Subtopic.ofString? subtopic with
  | none => false
  | some known => known ≠ .legacyStatus

/-- `_on_message`: the message that is handed on, if any. -/
def HomeKeyMqttClient.onMessage (client : HomeKeyMqttClient) (publication : Publication) :
    Option HomeKeyMessage :=
  match parseTopic publication.topic client.legacyPrefix with
  | none => none
  | some parsed =>
      if parsed.reserved then none
      else if parsed.legacy then
        if parsed.subtopic = Subtopic.legacyStatus.spelling then
          some
            { householdId := client.householdId
              nodeId := parsed.nodeId
              subtopic := Subtopic.legacyStatus.spelling
              payload := publication.payload
              qos := publication.qos
              retain := publication.retain
              legacy := true }
        else none
      else if isKnownSubtopic parsed.subtopic then
        some
          { householdId := orDefault parsed.householdId client.householdId
            nodeId := parsed.nodeId
            subtopic := parsed.subtopic
            payload := publication.payload
            qos := publication.qos
            retain := publication.retain }
      else none

/-! ## What is handed on -/

/-- A topic of the household namespace that carries a subtopic of the contract. -/
structure HouseholdTopic (topic householdId nodeId : String) (subtopic : Subtopic) : Prop where
  levels : ∃ first rest, "/".intercalate (first :: rest) = subtopic.spelling ∧
    topicLevels topic =
      topicRoot :: topicHousehold :: householdId :: topicNodes :: nodeId :: first :: rest
  household : isValidId householdId = true
  node : isValidId nodeId = true
  known : subtopic ≠ .legacyStatus

/-- A topic outside the household namespace that is the last-will status of a
client id with the given prefix. -/
structure WillTopic (legacyPrefix : Option String) (topic clientId : String) : Prop where
  outside : (topicLevels topic).head? ≠ some topicRoot
  spelled : ∃ start, legacyPrefix = some start ∧ start ≠ "" ∧
    topic = start ++ clientId ++ "/status"
  filled : clientId ≠ ""
  level : '/' ∉ clientId.toList

/-- A topic is the last will of one client id at most. -/
theorem WillTopic.unique {legacyPrefix : Option String} {topic clientId other : String}
    (first : WillTopic legacyPrefix topic clientId) (second : WillTopic legacyPrefix topic other) :
    clientId = other := by
  obtain ⟨start, prefixed, -, spelled⟩ := first.spelled
  obtain ⟨begun, alike, -, again⟩ := second.spelled
  rw [prefixed, Option.some.injEq] at alike
  subst alike
  have parts := congrArg String.toList (spelled.symm.trans again)
  simp only [String.toList_append] at parts
  exact String.toList_injective
    (List.append_cancel_left (List.append_cancel_right parts))

/-- The message of a household topic. -/
def HomeKeyMessage.published (householdId nodeId : String) (subtopic : Subtopic)
    (publication : Publication) : HomeKeyMessage :=
  { householdId
    nodeId
    subtopic := subtopic.spelling
    payload := publication.payload
    qos := publication.qos
    retain := publication.retain }

/-- The message of a last-will topic, as a client of the household takes it. -/
def HomeKeyMessage.will (householdId clientId : String) (publication : Publication) :
    HomeKeyMessage :=
  { householdId
    nodeId := clientId
    subtopic := Subtopic.legacyStatus.spelling
    payload := publication.payload
    qos := publication.qos
    retain := publication.retain
    legacy := true }

variable {client : HomeKeyMqttClient} {publication : Publication}
variable {householdId nodeId clientId : String} {subtopic : Subtopic}

theorem reservedTopics_spelling (subtopic : Subtopic) :
    reservedTopics.contains subtopic.spelling = false := by
  cases subtopic <;> decide

theorem isKnownSubtopic_iff {text : String} :
    isKnownSubtopic text = true ↔
      ∃ subtopic : Subtopic, subtopic ≠ .legacyStatus ∧ text = subtopic.spelling := by
  rw [isKnownSubtopic]
  constructor
  · intro known
    cases found : Subtopic.ofString? text with
    | none =>
        rw [found] at known
        cases known
    | some subtopic =>
        rw [found] at known
        exact ⟨subtopic, of_decide_eq_true known, (Subtopic.spelling_of_ofString? found).symm⟩
  · rintro ⟨subtopic, known, rfl⟩
    rw [Subtopic.ofString?_spelling]
    exact decide_eq_true known

/-- Only one of the legacy suffixes is a last-will status. -/
theorem legacySuffixKind_eq_status_iff {suffix : String} :
    legacySuffixKind suffix = some Subtopic.legacyStatus.spelling ↔ suffix = "status" := by
  unfold legacySuffixKind
  constructor
  · intro kind
    split at kind
    · assumption
    split at kind
    · exact absurd kind (by decide)
    split at kind
    · exact absurd kind (by decide)
    · cases kind
  · rintro rfl
    rfl

/-- A legacy topic is one part for the prefix, one for the client id and one for the
suffix. -/
theorem parseLegacyTopic_eq_some_iff {topic start : String} {parsed : ParsedTopic} :
    parseLegacyTopic topic start = some parsed ↔
      ∃ clientId suffix kind, clientId ≠ "" ∧ '/' ∉ clientId.toList ∧
        topic = start ++ clientId ++ "/" ++ suffix ∧ legacySuffixKind suffix = some kind ∧
        parsed =
          { householdId := none, nodeId := some clientId, subtopic := kind, legacy := true } := by
  unfold parseLegacyTopic
  constructor
  · intro taken
    split at taken
    · next begins =>
        obtain ⟨rest, whole⟩ := begins
        have left : topic.toList.drop start.length = rest := by
          rw [← whole, ← String.length_toList, List.drop_left]
        rw [left] at taken
        dsimp only at taken
        split at taken
        · cases taken
        · next slash suffix cut =>
            split at taken
            · cases taken
            · next filled =>
                obtain ⟨kind, suffixed, made⟩ := Option.map_eq_some_iff.mp taken
                have separator : slash = '/' := by
                  have stopped := List.head?_dropWhile_not (fun ch => ch ≠ '/') rest
                  rw [cut] at stopped
                  simpa using stopped
                obtain ⟨parts, level⟩ := cut_eq_iff.mp ⟨rfl, separator ▸ cut⟩
                refine ⟨String.ofList (rest.takeWhile fun ch => ch ≠ '/'), String.ofList suffix,
                  kind, ?_, ?_, ?_, suffixed, made.symm⟩
                · exact Json.ofList_ne_empty filled
                · rw [String.toList_ofList]
                  exact level
                · apply String.toList_injective
                  have text := whole.symm.trans (congrArg (start.toList ++ ·) parts)
                  rw [text]
                  simp
    · cases taken
  · rintro ⟨clientId, suffix, kind, filled, level, rfl, suffixed, rfl⟩
    have whole : (start ++ clientId ++ "/" ++ suffix).toList =
        start.toList ++ (clientId.toList ++ '/' :: suffix.toList) := by simp
    obtain ⟨front, back⟩ := cut_eq_iff.mpr ⟨rfl, level⟩
    rw [whole, if_pos (List.prefix_append _ _), ← String.length_toList, List.drop_left]
    dsimp only
    rw [back, front]
    dsimp only
    rw [if_neg (by simpa using filled), String.ofList_toList, String.ofList_toList, suffixed]
    rfl

theorem topicLevels_ne_nil (topic : String) : topicLevels topic ≠ [] := by
  rw [topicLevels, ne_eq, List.map_eq_nil_iff]
  exact List.splitOn_ne_nil '/' topic.toList

/-- A topic is parsed as one of the household namespace or as a legacy one. -/
theorem parseTopic_eq_some_iff {topic : String} {legacyPrefix : Option String}
    {parsed : ParsedTopic} :
    parseTopic topic legacyPrefix = some parsed ↔
      (∃ householdId nodeId first rest, isValidId householdId = true ∧ isValidId nodeId = true ∧
        topicLevels topic =
          topicRoot :: topicHousehold :: householdId :: topicNodes :: nodeId :: first :: rest ∧
        parsed =
          { householdId := some householdId
            nodeId := some nodeId
            subtopic := "/".intercalate (first :: rest)
            reserved := reservedTopics.contains ("/".intercalate (first :: rest)) }) ∨
      ((topicLevels topic).head? ≠ some topicRoot ∧
        ∃ start, legacyPrefix = some start ∧ start ≠ "" ∧
          parseLegacyTopic topic start = some parsed) := by
  unfold parseTopic
  constructor
  · intro taken
    split at taken
    · next root levels split =>
        split at taken
        · next household =>
            split at taken
            · next householdName householdId nodes nodeId first rest =>
                split at taken
                · next fits =>
                    obtain ⟨rfl, validHousehold, rfl, validNode⟩ := fits
                    cases taken
                    exact Or.inl ⟨householdId, nodeId, first, rest, validHousehold, validNode,
                      by rw [split, household], rfl⟩
                · cases taken
            · cases taken
        · next outside =>
            right
            refine ⟨by rw [split]; simpa using outside, ?_⟩
            split at taken
            · cases taken
            · next start =>
                split at taken
                · cases taken
                · next filled => exact ⟨start, rfl, filled, taken⟩
    · cases taken
  · rintro (⟨householdId, nodeId, first, rest, validHousehold, validNode, split, rfl⟩ |
      ⟨outside, start, rfl, filled, taken⟩)
    · rw [split]
      dsimp only
      rw [if_pos rfl, if_pos ⟨rfl, validHousehold, rfl, validNode⟩]
    · cases split : topicLevels topic with
      | nil => exact absurd split (topicLevels_ne_nil topic)
      | cons root levels =>
          rw [split] at outside
          dsimp only
          rw [if_neg (by simpa using outside), if_neg filled, taken]

theorem ne_empty_of_isValidId {text : String} (valid : isValidId text = true) : text ≠ "" := by
  rintro rfl
  cases valid

/-- A topic of the household namespace is handed on for the household it names. -/
theorem HouseholdTopic.onMessage (client : HomeKeyMqttClient)
    (topical : HouseholdTopic publication.topic householdId nodeId subtopic) :
    client.onMessage publication = some (.published householdId nodeId subtopic publication) := by
  obtain ⟨first, rest, spelled, split⟩ := topical.levels
  unfold HomeKeyMqttClient.onMessage
  rw [parseTopic_eq_some_iff.mpr (Or.inl ⟨householdId, nodeId, first, rest, topical.household,
    topical.node, split, rfl⟩)]
  dsimp only
  rw [spelled, reservedTopics_spelling, if_neg Bool.false_ne_true,
    if_pos (isKnownSubtopic_iff.mpr ⟨subtopic, topical.known, rfl⟩), orDefault,
    if_neg (ne_empty_of_isValidId topical.household)]
  rfl

/-- A last-will topic is handed on for the household of the client. -/
theorem WillTopic.onMessage (will : WillTopic client.legacyPrefix publication.topic clientId) :
    client.onMessage publication = some (.will client.householdId clientId publication) := by
  obtain ⟨start, prefixed, begun, spelled⟩ := will.spelled
  have parts : publication.topic = start ++ clientId ++ "/" ++ "status" := by
    rw [spelled, @String.append_assoc (start ++ clientId) "/" "status"]
    rfl
  unfold HomeKeyMqttClient.onMessage
  rw [parseTopic_eq_some_iff.mpr (Or.inr ⟨will.outside, start, prefixed, begun,
    parseLegacyTopic_eq_some_iff.mpr ⟨clientId, "status", _, will.filled, will.level, parts, rfl,
      rfl⟩⟩)]
  rfl

/-- Everything a client can make of a publication: a message of the household its topic
names, or a last-will status of its own household. -/
theorem HomeKeyMqttClient.onMessage_eq_some_iff {message : HomeKeyMessage} :
    client.onMessage publication = some message ↔
      (∃ householdId nodeId subtopic,
        HouseholdTopic publication.topic householdId nodeId subtopic ∧
        message = .published householdId nodeId subtopic publication) ∨
      ∃ clientId, WillTopic client.legacyPrefix publication.topic clientId ∧
        message = .will client.householdId clientId publication := by
  constructor
  · intro handed
    unfold HomeKeyMqttClient.onMessage at handed
    split at handed
    · cases handed
    · next parsed taken =>
        rcases parseTopic_eq_some_iff.mp taken with
          ⟨householdId, nodeId, first, rest, validHousehold, validNode, split, rfl⟩ |
          ⟨outside, start, prefixed, begun, legacy⟩
        · left
          dsimp only at handed
          split at handed
          · cases handed
          rw [if_neg Bool.false_ne_true] at handed
          split at handed
          · next known =>
              obtain ⟨subtopic, other, spelled⟩ := isKnownSubtopic_iff.mp known
              refine ⟨householdId, nodeId, subtopic,
                ⟨⟨first, rest, spelled, split⟩, validHousehold, validNode, other⟩, ?_⟩
              rw [orDefault, if_neg (ne_empty_of_isValidId validHousehold), spelled] at handed
              exact (Option.some.inj handed).symm
          · cases handed
        · right
          obtain ⟨clientId, suffix, kind, named, level, spelled, suffixed, rfl⟩ :=
            parseLegacyTopic_eq_some_iff.mp legacy
          dsimp only at handed
          rw [if_neg Bool.false_ne_true, if_pos rfl] at handed
          split at handed
          · next status =>
              rw [status] at suffixed
              rw [legacySuffixKind_eq_status_iff.mp suffixed, String.append_assoc] at spelled
              exact ⟨clientId, ⟨outside, ⟨start, prefixed, begun, spelled⟩, named, level⟩,
                (Option.some.inj handed).symm⟩
          · cases handed
  · rintro (⟨householdId, nodeId, subtopic, topical, rfl⟩ | ⟨clientId, will, rfl⟩)
    · exact topical.onMessage client
    · exact will.onMessage

/-! ## Entries -/

/-- A loaded entry: the client hands what it parses to the coordinator of the same
household. -/
structure MqttEntry where
  client : HomeKeyMqttClient
  coordinator : Coordinator
  joined : client.householdId = coordinator.householdId

namespace MqttEntry

/-- The coordinator after the broker has delivered a message. -/
def deliver (env : Env) (entry : MqttEntry) (publication : Publication) : Coordinator :=
  match entry.client.onMessage publication with
  | none => entry.coordinator
  | some message => (entry.coordinator.asyncHandleMessage env message).coordinator

end MqttEntry

end HomeKeyHousehold
