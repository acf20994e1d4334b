import HomeKeyHousehold.BackupSensor
import HomeKeyHousehold.Library.Lines
import HomeKeyHousehold.NodeEmulator

/-!
# What the security sensor lists

A node joins its findings with line feeds and reports them in its health snapshot.  The
sensor lists them one by one, in the words of the node.
-/

namespace HomeKeyHousehold

open Library

/-- `_finding_lines`. -/
def findingLines (warnings : Option String) : List String :=
  ((splitlines (warnings.getD "")).filter fun line => strip line ≠ "").map strip

/-- The attributes of `HomeKeySecuritySensor` behind those of its node. -/
structure FindingAttributes where
  securityAllOk : Option Bool
  securityWarnings : Option String
  securityFindings : List String
  warningCount : Nat

/-- What `extra_state_attributes` adds for a health snapshot. -/
def findingAttributes (health : NodeHealth) : FindingAttributes :=
  { securityAllOk := health.securityAllOk
    securityWarnings := health.securityWarnings
    securityFindings := findingLines health.securityWarnings
    warningCount := (findingLines health.securityWarnings).length }

/-- `extra_state_attributes` of the security sensor; an unknown node has none, and one
without a snapshot those of its node only. -/
def securityAttributes (node : Option Node) :
    Option (NodeAttributes × Option FindingAttributes) :=
  node.map fun node => (nodeAttributes node, node.health.map findingAttributes)

/-- A text of one line with nothing to strip. -/
structure IsFinding (text : String) : Prop where
  filled : text ≠ ""
  stripped : strip text = text
  unbroken : Unbroken text.toList

/-- The characters of a text that are no whitespace. -/
def inked (text : String) : List Char := text.toList.filter fun ch => !isWhitespace ch

variable {warnings : Option String} {findings : List String} {finding text : String}

theorem isFinding_of_mem (listed : finding ∈ findingLines warnings) : IsFinding finding := by
  obtain ⟨line, kept, rfl⟩ := List.mem_map.mp listed
  obtain ⟨split, filled⟩ := List.mem_filter.mp kept
  obtain ⟨chars, member, rfl⟩ := List.mem_map.mp split
  have plain : Unbroken chars :=
    unbroken_of_mem_linesFrom (fun ch absent => by cases absent) member
  refine ⟨of_decide_eq_true filled, stripOf_stripOf isWhitespace _, fun ch inside => ?_⟩
  obtain ⟨front, back, whole, -, -⟩ := stripOf_split isWhitespace (String.ofList chars)
  refine plain ch ?_
  have parts := congrArg String.toList whole
  rw [String.toList_ofList, String.toList_ofList] at parts
  rw [parts]
  exact List.mem_append_left _ (List.mem_append_right _ inside)

/-- Findings that are joined with line feeds are listed as they are. -/
theorem findingLines_join (findings : List String)
    (proper : ∀ finding ∈ findings, IsFinding finding) :
    findingLines (some ("\n".intercalate findings)) = findings := by
  have joined : ("\n".intercalate findings).toList =
      List.intercalate ['\n'] (findings.map String.toList) := String.toList_intercalate
  have lines : splitlines ("\n".intercalate findings) = findings := by
    rw [splitlines, joined, linesFrom_intercalate, List.map_map]
    · simp [Function.comp_def]
    · intro line member
      obtain ⟨finding, listed, rfl⟩ := List.mem_map.mp member
      exact (proper finding listed).unbroken
    · intro line member
      obtain ⟨finding, listed, rfl⟩ := List.mem_map.mp member
      intro empty
      exact (proper finding listed).filled (String.toList_eq_nil_iff.mp empty)
  rw [findingLines, Option.getD_some, lines]
  have kept : (findings.filter fun line => strip line ≠ "") = findings := by
    rw [List.filter_eq_self]
    intro finding listed
    rw [(proper finding listed).stripped]
    exact decide_eq_true (proper finding listed).filled
  rw [kept]
  refine (List.map_congr_left fun finding listed => ?_).trans (List.map_id findings)
  exact (proper finding listed).stripped

/-- Stripping takes away whitespace only. -/
theorem inked_strip (text : String) : inked (strip text) = inked text := by
  obtain ⟨front, back, whole, before, after⟩ := stripOf_split isWhitespace text
  have parts := congrArg String.toList whole
  rw [String.toList_ofList] at parts
  have blank {chars : List Char} (blanks : ∀ ch ∈ chars, isWhitespace ch = true) :
      (chars.filter fun ch => !isWhitespace ch) = [] := by
    rw [List.filter_eq_nil_iff]
    intro ch member
    simp [blanks ch member]
  rw [inked, inked, parts, List.filter_append, List.filter_append, blank before, blank after,
    List.nil_append, List.append_nil]
  rfl

/-- The lines hold all that is no whitespace. -/
theorem inked_splitlines (text : String) : (splitlines text).flatMap inked = inked text := by
  have lines : (splitlines text).flatMap inked =
      (linesFrom [] text.toList).flatten.filter fun ch => !isWhitespace ch := by
    rw [splitlines, List.flatMap_map, List.filter_flatten, List.flatMap_def]
    simp [inked]
  rw [lines, flatten_linesFrom, List.nil_append, List.filter_filter, inked]
  refine List.filter_congr fun ch _ => ?_
  cases space : isWhitespace ch with
  | true => rfl
  | false =>
      cases ends : isLineBreak ch with
      | true => cases space.symm.trans (isWhitespace_of_isLineBreak ends)
      | false => rfl

theorem inked_empty : inked "" = [] := by
  rw [inked, String.toList_empty, List.filter_nil]

/-- The findings hold all that is no whitespace, in the order it was reported in. -/
theorem inked_findingLines (warnings : Option String) :
    (findingLines warnings).flatMap inked = inked (warnings.getD "") := by
  rw [← inked_splitlines, findingLines]
  induction splitlines (warnings.getD "") with
  | nil => rfl
  | cons line lines ih =>
      rw [List.filter_cons, List.flatMap_cons, ← ih]
      by_cases blank : strip line = ""
      · have nothing : inked line = [] := by rw [← inked_strip, blank, inked_empty]
        rw [if_neg (by simp [blank]), nothing]
        exact (List.nil_append _).symm
      · rw [if_pos (by simp [blank]), List.map_cons, List.flatMap_cons, inked_strip]

/-! ## What is listed -/

variable {householdId nodeId : String} {legacyPrefix : Option String} {env : Env}
variable {earlier later : List (Env × Publication)} {said : Publication} {health : NodeHealth}

/-- After the last accepted health snapshot of a node its findings are listed one by one:
each is one line with nothing to strip, nothing but whitespace is left out, and findings
the node joined with line feeds are listed as they were. -/
theorem findings_listed (household : isValidId householdId = true)
    (node : isValidId nodeId = true)
    (own : said.topic = nodeTopic householdId nodeId Subtopic.health.spelling)
    (read : reportOf householdId nodeId .health said = .health health)
    (last : ∀ next ∈ later,
      next.2.topic = nodeTopic householdId nodeId Subtopic.health.spelling →
        (reportOf householdId nodeId .health next.2).kind ≠ some .health) :
    ∃ shared listed,
      securityAttributes
          (knownFrom householdId legacyPrefix (earlier ++ (env, said) :: later) nodeId) =
        some (shared, some listed) ∧
        listed.securityAllOk = health.securityAllOk ∧
        listed.securityWarnings = health.securityWarnings ∧
        listed.warningCount = listed.securityFindings.length ∧
        (∀ finding ∈ listed.securityFindings, IsFinding finding) ∧
        listed.securityFindings.flatMap inked = inked (health.securityWarnings.getD "") ∧
        ∀ findings, (∀ finding ∈ findings, IsFinding finding) →
          health.securityWarnings = some ("\n".intercalate findings) →
          listed.securityFindings = findings := by
  obtain ⟨found, record, known, written, -⟩ :=
    @part_of_last _ _ .health legacyPrefix earlier later said env household node (by decide) own
      (read ▸ rfl) last
  rw [read] at written
  have shown : found.health = some health := Node.Part.health.inj written
  refine ⟨nodeAttributes found, findingAttributes health, ?_, rfl, rfl, rfl,
    fun finding listed => isFinding_of_mem listed, inked_findingLines health.securityWarnings,
    fun findings proper joined => ?_⟩
  · rw [known, securityAttributes, Option.map_some, shown]
    rfl
  · rw [findingAttributes, joined]
    exact findingLines_join findings proper

/-! ### Two findings -/

def twoFindings : List String := ["flash encryption disabled", "secure boot disabled"]

theorem twoFindings_proper : ∀ finding ∈ twoFindings, IsFinding finding := by
  have proper {finding : String} (filled : finding ≠ "") (stripped : strip finding = finding)
      (unbroken : (finding.toList.all fun ch => !isLineBreak ch) = true) : IsFinding finding := by
    refine ⟨filled, stripped, fun ch member => ?_⟩
    have inside := List.all_eq_true.mp unbroken ch member
    rwa [Bool.not_eq_true'] at inside
  intro finding listed
  rcases List.mem_cons.mp listed with rfl | rest
  · exact proper (by decide) (by decide) (by decide)
  · rw [List.mem_singleton.mp rest]
    exact proper (by decide) (by decide) (by decide)

/-- The health snapshot of a node that reports them. -/
def warnedHealth : HealthFields :=
  { securityAllOk := false, securityWarnings := "\n".intercalate twoFindings }

def warned : Publication :=
  { topic := nodeTopic "HOME001" "GATE-001" Subtopic.health.spelling
    payload := payloadOf warnedHealth.document
    qos := 0
    retain := false }

theorem reportOf_warned :
    reportOf "HOME001" "GATE-001" .health warned = .health warnedHealth.health := by
  have connected : warnedHealth.mqtt ≠ "" := by decide
  have read := @reportOf_payloadOf "HOME001" "GATE-001" .health warned _ rfl rfl
  rw [Node.Report.ofJson, fromDict_health warnedHealth connected] at read
  exact read

/-- A snapshot that names another household. -/
def foreignDocument : Json := .obj [("household_id", .str "HOME002")]

def foreignHealth : Publication := { warned with payload := Json.dumps foreignDocument }

theorem foreignHealth_refused :
    (reportOf "HOME001" "GATE-001" .health foreignHealth).kind ≠ some .health := by
  rw [reportOf_document rfl (decodeJson_dumps foreignDocument)]
  decide

theorem twoFindings_listed : ∃ shared listed,
    securityAttributes (knownFrom "HOME001" none
        [(Coordinator.sampleEnv, warned), (Coordinator.sampleEnv, foreignHealth)] "GATE-001") =
      some (shared, some listed) ∧ listed.securityFindings = twoFindings := by
  obtain ⟨shared, listed, shown, -, -, -, -, -, joined⟩ :=
    @findings_listed "HOME001" "GATE-001" none Coordinator.sampleEnv []
      [(Coordinator.sampleEnv, foreignHealth)] warned _ (by decide) (by decide) rfl reportOf_warned
      fun next after _ => (List.mem_singleton.mp after) ▸ foreignHealth_refused
  exact ⟨shared, listed, shown, joined twoFindings twoFindings_proper rfl⟩

end HomeKeyHousehold
