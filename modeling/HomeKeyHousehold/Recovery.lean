import HomeKeyHousehold.Library.Retained
import HomeKeyHousehold.DeliveryOrder
import HomeKeyHousehold.Redelivery
import HomeKeyHousehold.TopicGrammar

/-!
# Recovery from what the broker retains

A coordinator that has heard a household from the start is compared with one that starts
afresh and hears, in whatever order, what the broker has retained.
-/

namespace HomeKeyHousehold

open Library

/-! ## Parts that are rebuilt -/

namespace Node

/-- A part after a restart: as it was, but for the generation and the firmware, which
the last state document may have left out. -/
inductive Part.RebuiltAs : Part → Part → Prop where
  | same (part : Part) : RebuiltAs part part
  | identity (nodeName nodeRole nodeState : String) {generation later : Option Int}
      {firmware newer : Option String} (generations : later = none ∨ later = generation)
      (versions : newer = none ∨ newer = firmware) :
      RebuiltAs (.identity nodeName nodeRole nodeState generation firmware)
        (.identity nodeName nodeRole nodeState later newer)

variable {first second : Node} {report : Report} {subtopic : Subtopic}

/-- A value that stays as it was when it is left out, over one that is not there. -/
theorem orElse_blank {α : Type} (value kept : Option α) :
    (value <|> none) = none ∨ (value <|> none) = (value <|> kept) := by
  cases value with
  | none => exact Or.inl rfl
  | some value => exact Or.inr rfl

/-- A report writes its own part over a blank record as over any other, but for what a
state document leaves out. -/
theorem part_note_blank (env otherEnv : Env) (householdId nodeId : String)
    (own : report.kind = some subtopic) :
    ((first.note env report).part subtopic).RebuiltAs
      (((ofId householdId nodeId).note otherEnv report).part subtopic) := by
  cases report with
  | silence | mention => cases own
  | identity incoming =>
      cases own
      exact .identity _ _ _ (orElse_blank incoming.generation first.generation)
        (orElse_blank incoming.firmware first.firmware)
  | lockLast change =>
      cases own
      rw [note, note, withEvent_eq, withEvent_eq]
      exact .same _
  | lastWill | status | health | security | backupStatus | backupLast | lastAuth
  | guestStatus =>
      cases own
      exact .same _

/-- A report of any kind but a last will makes its node known. -/
theorem Report.registers_of_kind (own : report.kind = some subtopic)
    (known : subtopic ≠ .legacyStatus) : report.registers = true := by
  cases report with
  | silence | mention => cases own
  | lastWill online =>
      cases own
      exact absurd rfl known
  | identity | status | health | lockLast | security | backupStatus | backupLast | lastAuth
  | guestStatus => rfl

/-- A last will makes no node known. -/
theorem Report.registers_will (householdId nodeId home clientId : String)
    (publication : Publication) :
    (ofMessage householdId nodeId (.will home clientId publication)).registers = false := by
  have plain : Subtopic.isJson .legacyStatus = false := rfl
  rw [ofMessage, HomeKeyMessage.will, Subtopic.ofString?_spelling]
  dsimp only
  rw [plain, if_neg Bool.false_ne_true, ofPlain]
  cases Coordinator.parseOnline publication.payload "legacy status" <;> rfl

/-- A publication with nothing in it says nothing. -/
theorem Report.kind_of_empty (householdId nodeId : String) {message : HomeKeyMessage}
    (blank : message.payload = "") : (ofMessage householdId nodeId message).kind = none := by
  unfold ofMessage
  split
  · rfl
  · next subtopic found =>
      rw [blank]
      split
      · rfl
      · cases subtopic <;> rfl

end Node

/-! ## Topics of a node -/

variable {householdId nodeId topic : String} {subtopic : Subtopic}

theorem householdTopic_nodeTopic (household : isValidId householdId = true)
    (node : isValidId nodeId = true) (known : subtopic ≠ .legacyStatus) :
    HouseholdTopic (nodeTopic householdId nodeId subtopic.spelling) householdId nodeId
      subtopic := by
  obtain ⟨first, rest, split⟩ :=
    List.exists_cons_of_ne_nil (topicLevels_ne_nil subtopic.spelling)
  refine ⟨⟨first, rest, ?_, ?_⟩, household, node, known⟩
  · rw [← split, intercalate_topicLevels]
  · rw [topicLevels_nodeTopic (slash_not_mem_of_isValidId household)
      (slash_not_mem_of_isValidId node), split]

/-- Topics of one node are those of one subtopic. -/
theorem nodeTopic_injective {other : Subtopic}
    (same : nodeTopic householdId nodeId subtopic.spelling =
      nodeTopic householdId nodeId other.spelling) : subtopic = other := by
  rw [nodeTopic, nodeTopic] at same
  exact Subtopic.spelling_injective (String.append_right_inj _ |>.mp same)

/-- Topics of different nodes differ. -/
theorem nodeTopic_ne {otherId : String} (household : isValidId householdId = true)
    (node : isValidId nodeId = true) (other : isValidId otherId = true)
    (apart : nodeId ≠ otherId) (first second : String) :
    nodeTopic householdId nodeId first ≠ nodeTopic householdId otherId second := by
  intro same
  have levels := congrArg topicLevels same
  have slash := slash_not_mem_of_isValidId household
  rw [topicLevels_nodeTopic slash (slash_not_mem_of_isValidId node),
    topicLevels_nodeTopic slash (slash_not_mem_of_isValidId other)] at levels
  simp only [List.cons.injEq, true_and] at levels
  exact apart levels.1

theorem HouseholdTopic.eq_nodeTopic (topical : HouseholdTopic topic householdId nodeId subtopic) :
    topic = nodeTopic householdId nodeId subtopic.spelling := by
  obtain ⟨first, rest, spelled, split⟩ := topical.levels
  rw [eq_nodeTopic_of_topicLevels split, spelled]

/-! ## What the broker delivers -/

/-- What a broker retains of publications, by topic; an empty one clears its topic. -/
def retainedOf (history : List Publication) : Keyed Publication.topic :=
  Keyed.retained Publication.topic (·.retain) (fun said => said.payload = "") history

/-- A publication as it is forwarded while it happens: not marked as retained. -/
def forwarded (arrival : Env × Publication) : Env × Publication :=
  (arrival.1, { arrival.2 with retain := false })

/-- The messages a client hands on. -/
def HomeKeyMqttClient.deliveries (client : HomeKeyMqttClient)
    (arrivals : List (Env × Publication)) : List Delivery :=
  arrivals.filterMap fun arrival => (client.onMessage arrival.2).map (Delivery.mk arrival.1)

/-- The mark of what was retained is handed on as it is. -/
theorem HomeKeyMqttClient.onMessage_retain (client : HomeKeyMqttClient) (said : Publication)
    (mark : Bool) :
    client.onMessage { said with retain := mark } =
      (client.onMessage said).map fun message => { message with retain := mark } := by
  unfold onMessage
  cases parseTopic said.topic client.legacyPrefix with
  | none => rfl
  | some parsed =>
      dsimp only
      split
      · rfl
      split
      · split <;> rfl
      · split <;> rfl

/-- What an entry that starts afresh knows of a node after what the broker delivers. -/
def knownFrom (householdId : String) (legacyPrefix : Option String)
    (arrivals : List (Env × Publication)) (nodeId : String) : Option Node :=
  Coordinator.knownAfter householdId
    ((HomeKeyMqttClient.new householdId legacyPrefix).deliveries arrivals) nodeId

/-- What is heard of a node in what the broker delivers. -/
def heardFrom (householdId : String) (legacyPrefix : Option String) (nodeId : String)
    (arrivals : List (Env × Publication)) : List (Env × Node.Report) :=
  Node.heardOf householdId nodeId
    ((HomeKeyMqttClient.new householdId legacyPrefix).deliveries arrivals)

/-- What a publication on a topic of the node says. -/
def reportOf (householdId nodeId : String) (subtopic : Subtopic) (said : Publication) :
    Node.Report :=
  .ofMessage householdId nodeId (.published householdId nodeId subtopic said)

variable {legacyPrefix : Option String} {arrivals earlier later : List (Env × Publication)}
variable {arrival : Env × Publication} {said : Publication} {env : Env}

theorem decodeJson_dumps (document : Json) :
    Coordinator.decodeJson (Json.dumps document) = .ok document := by
  rw [Coordinator.decodeJson, Json.loads_dumps]

/-- What a document says is what it is read as. -/
theorem reportOf_document {document : Json} (structured : subtopic.isJson = true)
    (decoded : Coordinator.decodeJson said.payload = .ok document) :
    reportOf householdId nodeId subtopic said =
      .ofJson householdId nodeId document subtopic := by
  rw [reportOf, Node.Report.ofMessage, HomeKeyMessage.published, Subtopic.ofString?_spelling]
  dsimp only
  rw [if_pos structured, decoded]

theorem reportOf_plain (plain : subtopic.isJson = false) :
    reportOf householdId nodeId subtopic said = .ofPlain said.payload subtopic := by
  rw [reportOf, Node.Report.ofMessage, HomeKeyMessage.published, Subtopic.ofString?_spelling]
  dsimp only
  rw [plain, if_neg Bool.false_ne_true]

theorem knownFrom_eq (householdId : String) (legacyPrefix : Option String)
    (arrivals : List (Env × Publication)) (nodeId : String) :
    knownFrom householdId legacyPrefix arrivals nodeId =
      Node.hearAll householdId nodeId (heardFrom householdId legacyPrefix nodeId arrivals) :=
  Coordinator.knownAfter_eq householdId _ nodeId

theorem heardFrom_append (householdId : String) (legacyPrefix : Option String)
    (nodeId : String) (earlier later : List (Env × Publication)) :
    heardFrom householdId legacyPrefix nodeId (earlier ++ later) =
      heardFrom householdId legacyPrefix nodeId earlier ++
        heardFrom householdId legacyPrefix nodeId later := by
  rw [heardFrom, HomeKeyMqttClient.deliveries, List.filterMap_append, Node.heardOf,
    List.filter_append, List.map_append]
  rfl

/-- A publication on a topic of the node is heard. -/
theorem heardFrom_cons_own (household : isValidId householdId = true)
    (node : isValidId nodeId = true) (known : subtopic ≠ .legacyStatus)
    (own : said.topic = nodeTopic householdId nodeId subtopic.spelling) :
    heardFrom householdId legacyPrefix nodeId ((env, said) :: later) =
      (env, reportOf householdId nodeId subtopic said) ::
        heardFrom householdId legacyPrefix nodeId later := by
  have topical : HouseholdTopic said.topic householdId nodeId subtopic :=
    own ▸ householdTopic_nodeTopic household node known
  have named : Coordinator.namedNode (.published householdId nodeId subtopic said) =
      some nodeId := Coordinator.namedNode_eq_some rfl (ne_empty_of_isValidId node)
  have reached : Coordinator.reaches householdId nodeId
      ⟨env, .published householdId nodeId subtopic said⟩ = true :=
    decide_eq_true ⟨rfl, named⟩
  rw [heardFrom, HomeKeyMqttClient.deliveries, List.filterMap_cons,
    topical.onMessage (HomeKeyMqttClient.new householdId legacyPrefix), Option.map_some,
    Node.heardOf, List.filter_cons_of_pos reached, List.map_cons]
  rfl

/-- What is heard of a node is what the messages that reach it say. -/
theorem mem_heardFrom_iff {heard : Env × Node.Report} :
    heard ∈ heardFrom householdId legacyPrefix nodeId arrivals ↔
      ∃ arrival ∈ arrivals, ∃ message,
        (HomeKeyMqttClient.new householdId legacyPrefix).onMessage arrival.2 = some message ∧
          Coordinator.reaches householdId nodeId ⟨arrival.1, message⟩ = true ∧
          heard = (arrival.1, .ofMessage householdId nodeId message) := by
  rw [heardFrom, Node.heardOf, HomeKeyMqttClient.deliveries, List.mem_map]
  constructor
  · rintro ⟨delivery, delivered, rfl⟩
    obtain ⟨handedOn, reached⟩ := List.mem_filter.mp delivered
    obtain ⟨arrival, arrived, made⟩ := List.mem_filterMap.mp handedOn
    obtain ⟨message, handed, rfl⟩ := Option.map_eq_some_iff.mp made
    exact ⟨arrival, arrived, message, handed, reached, rfl⟩
  · rintro ⟨arrival, arrived, message, handed, reached, rfl⟩
    refine ⟨⟨arrival.1, message⟩, List.mem_filter.mpr ⟨?_, reached⟩, rfl⟩
    exact List.mem_filterMap.mpr ⟨arrival, arrived, Option.map_eq_some_iff.mpr
      ⟨message, handed, rfl⟩⟩

/-- What is heard of a subtopic of the node was published on its topic. -/
theorem exists_of_mem_heardFrom {heard : Env × Node.Report}
    (told : heard ∈ heardFrom householdId legacyPrefix nodeId arrivals)
    (own : heard.2.kind = some subtopic) (known : subtopic ≠ .legacyStatus) :
    ∃ arrival ∈ arrivals,
      HouseholdTopic arrival.2.topic householdId nodeId subtopic ∧
        heard.2 = reportOf householdId nodeId subtopic arrival.2 := by
  obtain ⟨arrival, arrived, message, handed, reached, rfl⟩ := mem_heardFrom_iff.mp told
  obtain ⟨home, named⟩ := of_decide_eq_true (Coordinator.ownMessage_of_reaches reached)
  have spelled : message.subtopic = subtopic.spelling := Node.Report.kind_ofMessage own
  refine ⟨arrival, arrived, ?_⟩
  rcases HomeKeyMqttClient.onMessage_eq_some_iff.mp handed with
    ⟨topicHousehold, topicNode, topicSubtopic, topical, rfl⟩ | ⟨clientId, -, rfl⟩
  · cases (home : topicHousehold = householdId)
    cases (named : some topicNode = some nodeId)
    cases Subtopic.spelling_injective spelled
    exact ⟨topical, rfl⟩
  · change Subtopic.legacyStatus.spelling = subtopic.spelling at spelled
    exact absurd (Subtopic.spelling_injective spelled).symm known

/-- Where nothing on a topic is accepted, nothing is heard of its subtopic. -/
theorem filter_heardFrom_of_unaccepted (known : subtopic ≠ .legacyStatus)
    (unaccepted : ∀ arrival ∈ arrivals,
      arrival.2.topic = nodeTopic householdId nodeId subtopic.spelling →
        (reportOf householdId nodeId subtopic arrival.2).kind ≠ some subtopic) :
    ((heardFrom householdId legacyPrefix nodeId arrivals).filter fun heard =>
      heard.2.kind = some subtopic) = [] := by
  rw [List.filter_eq_nil_iff]
  intro heard told own
  have accepted := of_decide_eq_true own
  obtain ⟨arrival, arrived, topical, read⟩ := exists_of_mem_heardFrom told accepted known
  exact unaccepted arrival arrived topical.eq_nodeTopic (read ▸ accepted)

/-- A part of which nothing was published is blank. -/
theorem part_of_silent (known : subtopic ≠ .legacyStatus)
    (silent : ∀ arrival ∈ arrivals,
      arrival.2.topic ≠ nodeTopic householdId nodeId subtopic.spelling)
    {node : Node} (found : knownFrom householdId legacyPrefix arrivals nodeId = some node) :
    node.part subtopic = (Node.ofId householdId nodeId).part subtopic := by
  rw [knownFrom_eq] at found
  rw [Node.part_hearAll subtopic found, Node.part_noteAll_eq_filter,
    filter_heardFrom_of_unaccepted known fun arrival arrived own =>
      absurd own (silent arrival arrived), run_nil]

/-- The part of a subtopic is what the last accepted publication on its topic writes. -/
theorem part_of_last (household : isValidId householdId = true)
    (node : isValidId nodeId = true) (known : subtopic ≠ .legacyStatus)
    (own : said.topic = nodeTopic householdId nodeId subtopic.spelling)
    (accepted : (reportOf householdId nodeId subtopic said).kind = some subtopic)
    (last : ∀ next ∈ later, next.2.topic = nodeTopic householdId nodeId subtopic.spelling →
      (reportOf householdId nodeId subtopic next.2).kind ≠ some subtopic) :
    ∃ found record,
      knownFrom householdId legacyPrefix (earlier ++ (env, said) :: later) nodeId = some found ∧
        found.part subtopic =
          (Node.note env record (reportOf householdId nodeId subtopic said)).part subtopic ∧
        ((∀ first ∈ earlier, first.2.topic ≠ nodeTopic householdId nodeId subtopic.spelling) →
          record.part subtopic = (Node.ofId householdId nodeId).part subtopic) := by
  have heard : heardFrom householdId legacyPrefix nodeId (earlier ++ (env, said) :: later) =
      heardFrom householdId legacyPrefix nodeId earlier ++
        (env, reportOf householdId nodeId subtopic said) ::
          heardFrom householdId legacyPrefix nodeId later := by
    rw [heardFrom_append, heardFrom_cons_own household node known own]
  have registered : (knownFrom householdId legacyPrefix (earlier ++ (env, said) :: later)
      nodeId).isSome = true := by
    rw [knownFrom_eq, Node.isSome_hearAll, heard, List.any_append, List.any_cons,
      Node.Report.registers_of_kind accepted known, Bool.true_or, Bool.or_true]
  obtain ⟨found, record⟩ := Option.isSome_iff_exists.mp registered
  refine ⟨found, run (fun node heard => node.note heard.1 heard.2)
    (Node.ofId householdId nodeId) (heardFrom householdId legacyPrefix nodeId earlier),
    record, ?_, fun first => ?_⟩
  · rw [knownFrom_eq, heard] at record
    rw [Node.part_hearAll subtopic record, run_append, run_cons, Node.part_noteAll_eq_filter,
      filter_heardFrom_of_unaccepted known last, run_nil]
  · rw [Node.part_noteAll_eq_filter, filter_heardFrom_of_unaccepted known fun arrival arrived own =>
      absurd own (first arrival arrived), run_nil]

/-! ## The restart -/

/-- A publication is the last one on its topic. -/
def IsLastOn (topic : String) (history : List (Env × Publication)) (said : Publication) : Prop :=
  said.topic = topic ∧
    ∃ earlier env later, history = earlier ++ (env, said) :: later ∧
      ∀ next ∈ later, next.2.topic ≠ topic

/-- The last publication on a topic of the node is retained and is accepted. -/
def IsKept (householdId nodeId : String) (history : List (Env × Publication))
    (subtopic : Subtopic) : Prop :=
  ∃ said, IsLastOn (nodeTopic householdId nodeId subtopic.spelling) history said ∧
    said.retain = true ∧ (reportOf householdId nodeId subtopic said).kind = some subtopic

/-- Nothing was published on a topic of the node. -/
def IsSilent (householdId nodeId : String) (history : List (Env × Publication))
    (subtopic : Subtopic) : Prop :=
  ∀ arrival ∈ history, arrival.2.topic ≠ nodeTopic householdId nodeId subtopic.spelling

variable {history : List (Env × Publication)}

/-- Where every topic is written once, each publication is the last on its topic. -/
theorem isLastOn_of_nodup (distinct : (history.map fun arrival => arrival.2.topic).Nodup)
    (published : arrival ∈ history) : IsLastOn arrival.2.topic history arrival.2 := by
  obtain ⟨sooner, rest, rfl⟩ := List.append_of_mem published
  rw [List.map_append, List.map_cons, List.nodup_middle] at distinct
  refine ⟨rfl, sooner, arrival.1, rest, rfl, fun next follows same => ?_⟩
  exact (List.nodup_cons.mp distinct).1
    (List.mem_append_right _ (List.mem_map.mpr ⟨next, follows, same⟩))

/-- What came before, and what came after on other topics, does not matter. -/
theorem IsLastOn.among (last : IsLastOn topic history said)
    (silent : ∀ next ∈ later, next.2.topic ≠ topic) :
    IsLastOn topic (earlier ++ history ++ later) said := by
  obtain ⟨own, sooner, env, rest, rfl, others⟩ := last
  refine ⟨own, earlier ++ sooner, env, rest ++ later, by simp, fun next follows => ?_⟩
  rcases List.mem_append.mp follows with soon | late
  · exact others next soon
  · exact silent next late

/-- A publication that is last on its topic is last when it is forwarded. -/
theorem IsLastOn.forwarded (last : IsLastOn topic history said) :
    ∃ earlier env later, history.map forwarded =
        earlier ++ (env, { said with retain := false }) :: later ∧
      ∀ next ∈ later, next.2.topic ≠ topic := by
  obtain ⟨-, earlier, env, later, rfl, others⟩ := last
  refine ⟨earlier.map HomeKeyHousehold.forwarded, env, later.map HomeKeyHousehold.forwarded,
    List.map_append, ?_⟩
  intro moved follows
  obtain ⟨next, member, rfl⟩ := List.mem_map.mp follows
  exact others next member

/-- A publication that is last on its topic and kept is what the broker delivers. -/
theorem IsLastOn.delivered (last : IsLastOn topic history said) (kept : said.retain = true)
    (filled : said.payload ≠ "")
    (delivered : (arrivals.map Prod.snd).Perm (retainedOf (history.map Prod.snd)).entries) :
    ∃ earlier env later, arrivals = earlier ++ (env, said) :: later ∧
      ∀ other ∈ earlier ++ later, other.2.topic ≠ topic := by
  obtain ⟨rfl, earlier, env, later, rfl, others⟩ := last
  refine Keyed.exists_split_of_perm delivered ?_
  rw [List.map_append, List.map_cons]
  refine Keyed.get?_retained_of_last kept (decide_eq_false filled) fun later follows => ?_
  obtain ⟨next, member, rfl⟩ := List.mem_map.mp follows
  exact others next member

/-- What the broker delivers was published. -/
theorem mem_of_delivered
    (delivered : (arrivals.map Prod.snd).Perm (retainedOf (history.map Prod.snd)).entries)
    (arrived : arrival ∈ arrivals) : ∃ earlier ∈ history, earlier.2 = arrival.2 := by
  have stored := delivered.mem_iff.mp (List.mem_map_of_mem arrived)
  obtain ⟨published, -⟩ := Keyed.mem_of_get?_retained (Keyed.get?_of_mem stored)
  exact List.mem_map.mp published

/-- A topic on which nothing was published is silent, live and after a restart. -/
theorem IsSilent.forwarded (silent : IsSilent householdId nodeId history subtopic) :
    IsSilent householdId nodeId (history.map forwarded) subtopic := by
  intro moved arrived
  obtain ⟨arrival, member, rfl⟩ := List.mem_map.mp arrived
  exact silent arrival member

theorem IsSilent.delivered (silent : IsSilent householdId nodeId history subtopic)
    (delivered : (arrivals.map Prod.snd).Perm (retainedOf (history.map Prod.snd)).entries) :
    IsSilent householdId nodeId arrivals subtopic := by
  intro arrival arrived
  obtain ⟨earlier, member, same⟩ := mem_of_delivered delivered arrived
  exact same ▸ silent earlier member

/-- What is accepted is not empty. -/
theorem filled_of_kind (accepted : (reportOf householdId nodeId subtopic said).kind =
    some subtopic) : said.payload ≠ "" := by
  intro blank
  cases (Node.Report.kind_of_empty householdId nodeId blank).symm.trans accepted

/-- What is last on its topic, kept and accepted makes its node known, live and after a
restart: live as what it wrote over an earlier record, and after the restart as what it
writes over a blank one. -/
theorem IsKept.written (household : isValidId householdId = true)
    (node : isValidId nodeId = true) (known : subtopic ≠ .legacyStatus)
    (kept : IsKept householdId nodeId history subtopic)
    (delivered : (arrivals.map Prod.snd).Perm (retainedOf (history.map Prod.snd)).entries) :
    ∃ before after report env otherEnv record, report.kind = some subtopic ∧
      knownFrom householdId legacyPrefix (history.map forwarded) nodeId = some before ∧
      knownFrom householdId legacyPrefix arrivals nodeId = some after ∧
      before.part subtopic = (Node.note env record report).part subtopic ∧
      after.part subtopic =
        ((Node.ofId householdId nodeId).note otherEnv report).part subtopic := by
  obtain ⟨said, last, retained, accepted⟩ := kept
  obtain ⟨earlier, env, later, live, others⟩ := last.forwarded
  obtain ⟨sooner, otherEnv, rest, fresh, apart⟩ :=
    last.delivered retained (filled_of_kind accepted) delivered
  obtain ⟨before, record, heard, written, -⟩ :=
    @part_of_last householdId nodeId subtopic legacyPrefix earlier later
      { said with retain := false } env household node known last.1 accepted
      fun next follows own => absurd own (others next follows)
  obtain ⟨after, blank, reheard, rewritten, clean⟩ :=
    @part_of_last householdId nodeId subtopic legacyPrefix sooner rest said otherEnv household node
      known last.1 accepted fun next follows own =>
        absurd own (apart next (List.mem_append_right _ follows))
  refine ⟨before, after, _, env, otherEnv, record, accepted, live ▸ heard, fresh ▸ reheard,
    written, rewritten.trans (Node.part_note_congr otherEnv otherEnv _ ?_)⟩
  exact clean fun first precedes => apart first (List.mem_append_left _ precedes)

/-- A node known after a restart was known before it. -/
theorem isSome_of_delivered
    (delivered : (arrivals.map Prod.snd).Perm (retainedOf (history.map Prod.snd)).entries)
    (found : (knownFrom householdId legacyPrefix arrivals nodeId).isSome = true) :
    (knownFrom householdId legacyPrefix (history.map forwarded) nodeId).isSome = true := by
  rw [knownFrom_eq, Node.isSome_hearAll, List.any_eq_true] at found ⊢
  obtain ⟨heard, told, registers⟩ := found
  obtain ⟨arrival, arrived, message, handed, reached, rfl⟩ := mem_heardFrom_iff.mp told
  obtain ⟨earlier, member, same⟩ := mem_of_delivered delivered arrived
  refine ⟨(earlier.1, .ofMessage householdId nodeId message), mem_heardFrom_iff.mpr
    ⟨forwarded earlier, List.mem_map_of_mem member, { message with retain := false }, ?_, ?_, rfl⟩,
    registers⟩
  · rw [forwarded, same, HomeKeyMqttClient.onMessage_retain, handed]
    rfl
  · exact decide_eq_true (of_decide_eq_true reached)

/-- A part that was kept or never published is rebuilt. -/
theorem part_rebuilt (household : isValidId householdId = true) (node : isValidId nodeId = true)
    (known : subtopic ≠ .legacyStatus)
    (delivered : (arrivals.map Prod.snd).Perm (retainedOf (history.map Prod.snd)).entries)
    (settled : IsKept householdId nodeId history subtopic ∨
      IsSilent householdId nodeId history subtopic)
    {before after : Node}
    (live : knownFrom householdId legacyPrefix (history.map forwarded) nodeId = some before)
    (fresh : knownFrom householdId legacyPrefix arrivals nodeId = some after) :
    (before.part subtopic).RebuiltAs (after.part subtopic) := by
  rcases settled with kept | silent
  · obtain ⟨found, refound, report, env, otherEnv, record, own, heard, reheard, written,
      rewritten⟩ := kept.written household node known delivered
    cases live.symm.trans heard
    cases fresh.symm.trans reheard
    rw [written, rewritten]
    exact Node.part_note_blank env otherEnv householdId nodeId own
  · rw [part_of_silent known silent.forwarded live,
      part_of_silent known (silent.delivered delivered) fresh]
    exact .same _

/-- A node that was heard of on a topic whose last publication is kept is known again. -/
theorem isSome_of_kept (household : isValidId householdId = true)
    (node : isValidId nodeId = true)
    (delivered : (arrivals.map Prod.snd).Perm (retainedOf (history.map Prod.snd)).entries)
    (settled : ∀ subtopic, subtopic ≠ .legacyStatus →
      IsKept householdId nodeId history subtopic ∨ IsSilent householdId nodeId history subtopic)
    (live : (knownFrom householdId legacyPrefix (history.map forwarded) nodeId).isSome = true) :
    (knownFrom householdId legacyPrefix arrivals nodeId).isSome = true := by
  rw [knownFrom_eq, Node.isSome_hearAll, List.any_eq_true] at live
  obtain ⟨heard, told, registers⟩ := live
  obtain ⟨moved, arrived, message, handed, reached, rfl⟩ := mem_heardFrom_iff.mp told
  obtain ⟨arrival, member, rfl⟩ := List.mem_map.mp arrived
  obtain ⟨home, named⟩ := of_decide_eq_true (Coordinator.ownMessage_of_reaches reached)
  rcases HomeKeyMqttClient.onMessage_eq_some_iff.mp handed with
    ⟨topicHousehold, topicNode, subtopic, topical, rfl⟩ | ⟨clientId, -, rfl⟩
  · cases (home : topicHousehold = householdId)
    cases (named : some topicNode = some nodeId)
    rcases settled subtopic topical.known with kept | silent
    · obtain ⟨-, after, -, -, -, -, -, -, reheard, -⟩ :=
        @IsKept.written _ _ _ legacyPrefix _ _ household node topical.known kept delivered
      exact reheard ▸ rfl
    · exact absurd topical.eq_nodeTopic (silent arrival member)
  · dsimp only at registers
    rw [Node.Report.registers_will] at registers
    cases registers

/-- After a restart, what the broker has retained, in whatever order it is delivered, makes
known only nodes that were known.  A part whose topic was last written by a publication
that is retained and accepted is rebuilt, and of a node of which every topic was last
written so, or never, every part is.  What the order of the messages decides is no part:
whether the lock event is fresh, and whether it was announced. -/
theorem restart_rebuilds (legacyPrefix : Option String)
    (household : isValidId householdId = true) (node : isValidId nodeId = true)
    (delivered : (arrivals.map Prod.snd).Perm (retainedOf (history.map Prod.snd)).entries) :
    ((knownFrom householdId legacyPrefix arrivals nodeId).isSome = true →
        (knownFrom householdId legacyPrefix (history.map forwarded) nodeId).isSome = true) ∧
      (∀ subtopic, subtopic ≠ .legacyStatus → IsKept householdId nodeId history subtopic →
        ∃ before after,
          knownFrom householdId legacyPrefix (history.map forwarded) nodeId = some before ∧
            knownFrom householdId legacyPrefix arrivals nodeId = some after ∧
            (before.part subtopic).RebuiltAs (after.part subtopic)) ∧
      ((∀ subtopic, subtopic ≠ .legacyStatus →
          IsKept householdId nodeId history subtopic ∨
            IsSilent householdId nodeId history subtopic) →
        Option.Rel (fun before after : Node =>
            ∀ subtopic, (before.part subtopic).RebuiltAs (after.part subtopic))
          (knownFrom householdId legacyPrefix (history.map forwarded) nodeId)
          (knownFrom householdId legacyPrefix arrivals nodeId)) := by
  refine ⟨isSome_of_delivered delivered, fun subtopic known kept => ?_, fun settled => ?_⟩
  · obtain ⟨before, after, -, -, -, -, -, heard, reheard, -⟩ :=
      @IsKept.written _ _ _ legacyPrefix _ _ household node known kept delivered
    exact ⟨before, after, heard, reheard,
      part_rebuilt household node known delivered (Or.inl kept) heard reheard⟩
  · cases live : knownFrom householdId legacyPrefix (history.map forwarded) nodeId with
    | none =>
        cases fresh : knownFrom householdId legacyPrefix arrivals nodeId with
        | none => exact .none
        | some after =>
            have known := @isSome_of_delivered householdId nodeId legacyPrefix _ _ delivered
              (fresh ▸ rfl)
            rw [live] at known
            cases known
    | some before =>
        have known := @isSome_of_kept householdId nodeId legacyPrefix _ _ household node delivered
          settled (live ▸ rfl)
        obtain ⟨after, fresh⟩ := Option.isSome_iff_exists.mp known
        rw [fresh]
        refine .some fun subtopic => ?_
        by_cases will : subtopic = .legacyStatus
        · subst will
          exact .same _
        · exact part_rebuilt household node will delivered (settled subtopic will) live fresh

/-- With no health snapshot retained, the lock is after a restart in the state of the last
lock event, whatever snapshots came after that event. -/
theorem lockState_after_restart (legacyPrefix : Option String)
    (household : isValidId householdId = true) (node : isValidId nodeId = true)
    (delivered : (arrivals.map Prod.snd).Perm (retainedOf (history.map Prod.snd)).entries)
    (kept : IsKept householdId nodeId history .lockLast)
    (passing : (retainedOf (history.map Prod.snd)).get?
      (nodeTopic householdId nodeId Subtopic.health.spelling) = none) :
    ∃ before after change,
      knownFrom householdId legacyPrefix (history.map forwarded) nodeId = some before ∧
        knownFrom householdId legacyPrefix arrivals nodeId = some after ∧
        before.lockChange = some change ∧ after.lockChange = some change ∧
        after.lockState = lockStateMap change.current := by
  have silent : ∀ arrival ∈ arrivals,
      arrival.2.topic ≠ nodeTopic householdId nodeId Subtopic.health.spelling := by
    intro arrival arrived same
    have stored := Keyed.get?_of_mem (delivered.mem_iff.mp (List.mem_map_of_mem arrived))
    rw [same, passing] at stored
    cases stored
  obtain ⟨before, after, report, env, otherEnv, record, own, live, fresh, written, rewritten⟩ :=
    @IsKept.written _ _ _ legacyPrefix _ _ household node (by decide) kept delivered
  obtain ⟨said, last, retained, accepted⟩ := kept
  obtain ⟨sooner, newEnv, rest, order, -⟩ :=
    last.delivered retained (filled_of_kind accepted) delivered
  -- The event is heard after every health snapshot, for there is none.
  have isFresh : after.lockChangeIsFresh = true := by
    have eventIsLast : Node.EventIsLast (heardFrom householdId legacyPrefix nodeId arrivals) := by
      refine ⟨heardFrom householdId legacyPrefix nodeId sooner,
        (newEnv, reportOf householdId nodeId .lockLast said),
        heardFrom householdId legacyPrefix nodeId rest, ?_, accepted, fun heard told health => ?_⟩
      · rw [order, heardFrom_append, heardFrom_cons_own household node (by decide) last.1]
      · obtain ⟨arrival, arrived, topical, -⟩ := exists_of_mem_heardFrom told health (by decide)
        refine silent arrival ?_ topical.eq_nodeTopic
        rw [order]
        exact List.mem_append_right _ (List.mem_cons_of_mem _ arrived)
    have heard := (Node.lockChangeIsFresh_hearAll householdId nodeId _).mpr eventIsLast
    rw [← knownFrom_eq, fresh] at heard
    exact heard
  cases report with
  | lockLast change =>
      rw [Node.note, Node.withEvent_eq] at written rewritten
      have lockChange : after.lockChange = some change := Node.Part.lockLast.inj rewritten
      refine ⟨before, after, change, live, fresh, Node.Part.lockLast.inj written, lockChange, ?_⟩
      rw [Node.lockState, isFresh, lockChange]
  | silence | mention | lastWill | identity | status | health | security | backupStatus
  | backupLast | lastAuth | guestStatus => cases own

/-! ### A door that is locked after its last event -/

/-- A retained event of a lock. -/
def retainedUnlock : Env × Publication :=
  (Coordinator.sampleEnv,
    { topic := nodeTopic "HOME001" "GATE-001" Subtopic.lockLast.spelling
      payload := Json.dumps Coordinator.unlockEvent
      qos := 1
      retain := true })

def retainedSecurity : Env × Publication :=
  (Coordinator.sampleEnv,
    { topic := nodeTopic "HOME001" "GATE-001" Subtopic.security.spelling
      payload := "OK"
      qos := 0
      retain := true })

def lockedAgain : Json := .obj [("mqtt", .str "OK"), ("lock_current", .int 1)]

/-- The snapshot in which the door is locked again. -/
def lockedSnapshot (mark : Bool) : Env × Publication :=
  (Coordinator.sampleEnv,
    { topic := nodeTopic "HOME001" "GATE-001" Subtopic.health.spelling
      payload := Json.dumps lockedAgain
      qos := 0
      retain := mark })

/-- What the door publishes, with the snapshot retained or not. -/
def doorHistory (mark : Bool) : List (Env × Publication) :=
  [retainedSecurity, retainedUnlock, lockedSnapshot mark]

theorem doorHistory_topics (mark : Bool) :
    ((doorHistory mark).map fun arrival => arrival.2.topic) =
      [Subtopic.security, Subtopic.lockLast, Subtopic.health].map fun subtopic =>
        nodeTopic "HOME001" "GATE-001" subtopic.spelling := rfl

theorem doorHistory_nodup (mark : Bool) :
    ((doorHistory mark).map fun arrival => arrival.2.topic).Nodup := by
  have distinct : [Subtopic.security, Subtopic.lockLast, Subtopic.health].Nodup := by decide
  rw [doorHistory_topics]
  exact distinct.map fun _ _ => nodeTopic_injective

theorem accepted_retainedUnlock :
    (reportOf "HOME001" "GATE-001" .lockLast retainedUnlock.2).kind = some .lockLast := by
  rw [reportOf_document rfl (decodeJson_dumps Coordinator.unlockEvent)]
  rfl

theorem accepted_retainedSecurity :
    (reportOf "HOME001" "GATE-001" .security retainedSecurity.2).kind = some .security := by
  rw [reportOf_plain rfl]
  rfl

theorem accepted_lockedSnapshot (mark : Bool) :
    (reportOf "HOME001" "GATE-001" .health (lockedSnapshot mark).2).kind = some .health := by
  rw [reportOf_document rfl (decodeJson_dumps lockedAgain)]
  rfl

theorem isKept_retainedUnlock (mark : Bool) :
    IsKept "HOME001" "GATE-001" (doorHistory mark) .lockLast :=
  ⟨retainedUnlock.2, isLastOn_of_nodup (doorHistory_nodup mark)
    (List.mem_cons_of_mem _ List.mem_cons_self), rfl, accepted_retainedUnlock⟩

/-- What the broker delivers of it, the newest first. -/
def doorDelivered (mark : Bool) : List (Env × Publication) :=
  ((doorHistory mark).filter fun arrival => arrival.2.retain).reverse

theorem doorHistory_filled {mark : Bool} {said : Publication}
    (published : said ∈ (doorHistory mark).map Prod.snd) : said.payload ≠ "" := by
  rw [doorHistory] at published
  simp only [List.map_cons, List.map_nil, List.mem_cons, List.not_mem_nil, or_false] at published
  rcases published with rfl | rfl | rfl
  · exact filled_of_kind accepted_retainedSecurity
  · exact filled_of_kind accepted_retainedUnlock
  · exact filled_of_kind (accepted_lockedSnapshot mark)

theorem retainedOf_doorHistory (mark : Bool) :
    (retainedOf ((doorHistory mark).map Prod.snd)).entries =
      ((doorHistory mark).map Prod.snd).filter (·.retain) := by
  have distinct : (((doorHistory mark).map Prod.snd).map Publication.topic).Nodup := by
    rw [List.map_map]
    exact doorHistory_nodup mark
  exact Keyed.entries_retained_of_nodup (distinct.sublist (List.filter_sublist.map _))
    fun said published _ => decide_eq_false (doorHistory_filled published)

theorem doorHistory_delivered (mark : Bool) : ((doorDelivered mark).map Prod.snd).Perm
    (retainedOf ((doorHistory mark).map Prod.snd)).entries := by
  rw [retainedOf_doorHistory, List.filter_map]
  exact (List.reverse_perm _).map _

/-- With the snapshot retained, every topic was last written so that it is rebuilt, or never. -/
theorem doorHistory_settled (subtopic : Subtopic) :
    IsKept "HOME001" "GATE-001" (doorHistory true) subtopic ∨
      IsSilent "HOME001" "GATE-001" (doorHistory true) subtopic := by
  have distinct := doorHistory_nodup true
  by_cases told : subtopic ∈ [Subtopic.security, .lockLast, .health]
  · left
    simp only [List.mem_cons, List.not_mem_nil, or_false] at told
    rcases told with rfl | rfl | rfl
    · exact ⟨retainedSecurity.2, isLastOn_of_nodup distinct List.mem_cons_self, rfl,
        accepted_retainedSecurity⟩
    · exact isKept_retainedUnlock true
    · exact ⟨(lockedSnapshot true).2, isLastOn_of_nodup distinct
        (List.mem_cons_of_mem _ (List.mem_cons_of_mem _ List.mem_cons_self)), rfl,
        accepted_lockedSnapshot true⟩
  · right
    intro arrival published same
    have written := @List.mem_map_of_mem _ _ _ _ (fun arrival => arrival.2.topic) published
    rw [doorHistory_topics] at written
    obtain ⟨other, member, spelled⟩ := List.mem_map.mp written
    exact told (nodeTopic_injective (same.symm.trans spelled.symm) ▸ member)

theorem doorHistory_rebuilt :
    (∃ before after,
      knownFrom "HOME001" none ((doorHistory true).map forwarded) "GATE-001" = some before ∧
        knownFrom "HOME001" none (doorDelivered true) "GATE-001" = some after ∧
        (before.part .lockLast).RebuiltAs (after.part .lockLast)) ∧
      Option.Rel (fun before after : Node =>
          ∀ subtopic, (before.part subtopic).RebuiltAs (after.part subtopic))
        (knownFrom "HOME001" none ((doorHistory true).map forwarded) "GATE-001")
        (knownFrom "HOME001" none (doorDelivered true) "GATE-001") :=
  have rebuilt := restart_rebuilds none (by decide) (by decide) (doorHistory_delivered true)
  ⟨rebuilt.2.1 .lockLast (by decide) (isKept_retainedUnlock true),
    rebuilt.2.2 fun subtopic _ => doorHistory_settled subtopic⟩

theorem doorHistory_after_restart : ∃ before after change,
    knownFrom "HOME001" none ((doorHistory false).map forwarded) "GATE-001" = some before ∧
      knownFrom "HOME001" none (doorDelivered false) "GATE-001" = some after ∧
      before.lockChange = some change ∧ after.lockChange = some change ∧
      after.lockState = lockStateMap change.current :=
  lockState_after_restart none (by decide) (by decide) (doorHistory_delivered false)
    (isKept_retainedUnlock false) (by
      rw [Keyed.get?, retainedOf_doorHistory]
      decide)

end HomeKeyHousehold
