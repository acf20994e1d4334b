import HomeKeyHousehold.Coordinator

/-!
# Rejected messages

Every branch that validates before it touches the registry leaves the
coordinator alone when it rejects.  The `health` and `lock/last` branches
register the node first.
-/

namespace HomeKeyHousehold

open Library

namespace Coordinator

variable {env : Env} {coordinator : Coordinator} {message : HomeKeyMessage}

/-- A handler stopped at a validation error. -/
def Handled.Rejected (handled : Handled) : Prop :=
  ∃ reason, handled.raised = some (.validation reason)

/-- The message is one whose branch registers the node before it parses: its
document decodes, and its node is unknown. -/
def RegistersEarly (coordinator : Coordinator) (message : HomeKeyMessage) : Prop :=
  (message.subtopic = Subtopic.health.spelling ∨ message.subtopic = Subtopic.lockLast.spelling) ∧
    (Json.loads message.payload).isSome ∧
      ∃ nodeId, namedNode message = some nodeId ∧ coordinator.getNode nodeId = none

theorem coordinator_of_orReject {α : Type} {result : Validated α} {accept : α → Coordinator}
    (rejected : (coordinator.orReject result accept).Rejected) :
    (coordinator.orReject result accept).coordinator = coordinator := by
  obtain ⟨reason, raised⟩ := rejected
  cases result with
  | ok value => cases raised
  | error error => rfl

/-- Only a handler rejects: finishing an update never raises a validation error. -/
theorem Handled.rejected_of_finish {handled : Handled}
    (rejected : (handled.finish env).Rejected) :
    handled.finish env = handled ∧ handled.Rejected := by
  obtain ⟨reason, raised⟩ := rejected
  unfold Handled.finish at raised ⊢
  cases outcome : handled.raised with
  | some exception =>
      rw [outcome] at raised
      dsimp only at raised ⊢
      exact ⟨rfl, reason, raised⟩
  | none =>
      rw [outcome] at raised
      dsimp only [finishUpdate] at raised
      split at raised
      · cases raised
      · cases raised

theorem coordinator_of_handlePlain {nodeId payload : String} {subtopic : Subtopic}
    (rejected : (coordinator.handlePlain env nodeId payload subtopic).Rejected) :
    (coordinator.handlePlain env nodeId payload subtopic).coordinator = coordinator := by
  cases subtopic with
  | legacyStatus =>
      rw [handlePlain, handleLegacyStatus] at rejected ⊢
      exact coordinator_of_orReject rejected
  | status =>
      rw [handlePlain, handleNodeStatus] at rejected ⊢
      exact coordinator_of_orReject rejected
  | security =>
      rw [handlePlain, handleSecurity] at rejected ⊢
      exact coordinator_of_orReject rejected
  | backupStatus =>
      rw [handlePlain, handleBackupStatus] at rejected ⊢
      exact coordinator_of_orReject rejected
  | state | health | lockLast | backupLast | lastAuth | guestStatus => rfl

/-- A rejected document leaves the coordinator alone, but for the registration
that two branches make first. -/
theorem coordinator_of_handleJson {nodeId : String} {payload : Json} {subtopic : Subtopic}
    (rejected : (coordinator.handleJson env nodeId payload subtopic).Rejected) :
    (coordinator.handleJson env nodeId payload subtopic).coordinator =
      if subtopic = .health ∨ subtopic = .lockLast then (coordinator.ensureNode nodeId).1
      else coordinator := by
  cases subtopic with
  | health =>
      rw [handleJson, handleHealth] at rejected ⊢
      exact coordinator_of_orReject rejected
  | lockLast =>
      rw [handleJson, handleLockLast] at rejected ⊢
      exact coordinator_of_orReject rejected
  | state =>
      rw [handleJson, handleState] at rejected ⊢
      exact coordinator_of_orReject rejected
  | backupLast =>
      rw [handleJson, handleBackupLast] at rejected ⊢
      exact coordinator_of_orReject rejected
  | lastAuth =>
      rw [handleJson, handleLastAuth] at rejected ⊢
      exact coordinator_of_orReject rejected
  | guestStatus =>
      rw [handleJson, handleGuestStatus] at rejected ⊢
      exact coordinator_of_orReject rejected
  | legacyStatus | status | security | backupStatus => rfl

/-- Registering an unknown node changes the coordinator. -/
theorem ensureNode_ne {nodeId : String} (unknown : coordinator.getNode nodeId = none) :
    (coordinator.ensureNode nodeId).1 ≠ coordinator := by
  intro same
  have registered := coordinator.getNode_ensureNode_self nodeId
  rw [same, unknown] at registered
  cases registered

/-- A branch that rejected leaves the coordinator alone, or registers the node
of an early branch. -/
theorem coordinator_of_dispatch (rejected : (coordinator.dispatch env message).Rejected) :
    (¬ RegistersEarly coordinator message ∧
      (coordinator.dispatch env message).coordinator = coordinator) ∨
    RegistersEarly coordinator message ∧
      (coordinator.dispatch env message).coordinator ≠ coordinator := by
  unfold dispatch at rejected ⊢
  cases parsed : Subtopic.ofString? message.subtopic with
  | none =>
      rw [parsed] at rejected
      obtain ⟨reason, raised⟩ := rejected
      cases raised
  | some subtopic =>
      rw [parsed] at rejected
      have early : RegistersEarly coordinator message ↔
          (subtopic = .health ∨ subtopic = .lockLast) ∧ (Json.loads message.payload).isSome ∧
            ∃ nodeId, namedNode message = some nodeId ∧ coordinator.getNode nodeId = none := by
        unfold RegistersEarly
        rw [← Subtopic.spelling_of_ofString? parsed]
        cases subtopic <;> simp [Subtopic.spelling]
      dsimp only at rejected ⊢
      cases documented : subtopic.isJson with
      | false =>
          have plain : ¬ (subtopic = .health ∨ subtopic = .lockLast) := by
            rintro (rfl | rfl)
            · cases documented
            · cases documented
          refine Or.inl ⟨fun registers => plain (early.mp registers).1, ?_⟩
          rw [documented, if_neg Bool.false_ne_true] at rejected
          rw [if_neg Bool.false_ne_true]
          cases named : namedNode message with
          | none => rfl
          | some nodeId =>
              rw [named] at rejected
              obtain ⟨unfinished, handlerRejected⟩ := Handled.rejected_of_finish rejected
              dsimp only
              rw [unfinished]
              exact coordinator_of_handlePlain handlerRejected
      | true =>
          rw [documented, if_pos rfl] at rejected
          rw [if_pos rfl]
          cases loaded : Json.loads message.payload with
          | none =>
              refine Or.inl ⟨?_, ?_⟩
              · intro registers
                rw [early, loaded] at registers
                cases registers.2.1
              · rw [decodeJson, loaded]
                rfl
          | some payload =>
              rw [decodeJson, loaded] at rejected
              rw [decodeJson, loaded]
              dsimp only at rejected ⊢
              cases named : namedNode message with
              | none =>
                  rw [named] at rejected
                  obtain ⟨reason, raised⟩ := rejected
                  cases raised
              | some nodeId =>
                  rw [named] at rejected
                  obtain ⟨unfinished, handlerRejected⟩ := Handled.rejected_of_finish rejected
                  dsimp only
                  rw [unfinished, coordinator_of_handleJson handlerRejected, early, loaded, named]
                  by_cases registering : subtopic = .health ∨ subtopic = .lockLast
                  · rw [if_pos registering]
                    cases known : coordinator.getNode nodeId with
                    | none =>
                        exact Or.inr ⟨⟨registering, rfl, nodeId, rfl, known⟩, ensureNode_ne known⟩
                    | some node =>
                        refine Or.inl ⟨?_, congrArg Prod.fst (ensureNode_of_known known)⟩
                        rintro ⟨-, -, other, same, unknown⟩
                        rw [← Option.some.inj same, known] at unknown
                        cases unknown
                  · rw [if_neg registering]
                    exact Or.inl ⟨fun registers => registering registers.1, rfl⟩

/-- A rejected message leaves the coordinator exactly as it was, with no cause
pending, precisely when its branch did not register a new node before parsing
and no cause was pending before it. -/
theorem rejected_unchanged_iff
    (rejected : (coordinator.asyncHandleMessage env message).Rejected) :
    ((coordinator.asyncHandleMessage env message).coordinator = coordinator ∧
        (coordinator.asyncHandleMessage env message).coordinator.pendingContexts = .empty) ↔
      ¬ RegistersEarly coordinator message ∧ coordinator.pendingContexts = .empty := by
  have addressed : message.householdId = coordinator.householdId := by
    by_contra foreign
    rw [asyncHandleMessage, if_neg foreign] at rejected
    obtain ⟨reason, raised⟩ := rejected
    cases raised
  rw [asyncHandleMessage, if_pos addressed] at rejected ⊢
  rcases coordinator_of_dispatch rejected with ⟨late, same⟩ | ⟨early, different⟩
  · rw [same]
    exact ⟨fun unchanged => ⟨late, unchanged.2⟩, fun quiet => ⟨rfl, quiet.2⟩⟩
  · constructor
    · rintro ⟨same, -⟩
      exact absurd same different
    · rintro ⟨late, -⟩
      exact absurd early late

/-! ## Sample messages -/

def sampleEnv : Env :=
  { now := 1700000000 * microsPerSecond
    parseDatetime := fun _ => .ok none
    logbookWorks := true
    lockEntityId := fun _ => none
    listenersRaise := false }

/-- A document with no field reaches the parser of `health`. -/
def emptyHealth : HomeKeyMessage :=
  { householdId := "HOME001", subtopic := "health", payload := "\x7b\x7d", nodeId := "GATE-001" }

theorem emptyHealth_rejected :
    (new "HOME001").asyncHandleMessage sampleEnv emptyHealth =
      ⟨((new "HOME001").ensureNode "GATE-001").1,
        some (.validation ⟨"mqtt: expected string, got NoneType"⟩)⟩ := by
  rfl

def numericSecurity : HomeKeyMessage :=
  { householdId := "HOME001", subtopic := "security", payload := "0", nodeId := "GATE-001" }

theorem numericSecurity_rejected :
    ((new "HOME001").asyncHandleMessage sampleEnv numericSecurity).Rejected :=
  ⟨⟨"security: unknown value '0'"⟩, by rfl⟩

theorem numericSecurity_unchanged :
    ((new "HOME001").asyncHandleMessage sampleEnv numericSecurity).coordinator = new "HOME001" :=
  ((rejected_unchanged_iff numericSecurity_rejected).mpr ⟨by
    rintro ⟨early | early, -⟩
    · exact absurd early (by decide)
    · exact absurd early (by decide), rfl⟩).1

/-- A rejected health document registers its node. -/
theorem rejected_health_registers :
    ¬ ∀ (env : Env) (coordinator : Coordinator) (message : HomeKeyMessage),
      (coordinator.asyncHandleMessage env message).Rejected →
        (coordinator.asyncHandleMessage env message).coordinator = coordinator ∧
          (coordinator.asyncHandleMessage env message).coordinator.pendingContexts = .empty := by
  intro unchanged
  have kept := unchanged sampleEnv (new "HOME001") emptyHealth (by
    rw [emptyHealth_rejected]
    exact ⟨_, rfl⟩)
  rw [emptyHealth_rejected] at kept
  exact ensureNode_ne (by rfl) kept.1

end Coordinator

end HomeKeyHousehold
