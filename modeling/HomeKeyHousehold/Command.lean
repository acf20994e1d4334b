import HomeKeyHousehold.Library.Window
import HomeKeyHousehold.Models

/-!
# Command authentication

The client half of the lock command protocol: nonces, the canonical MAC input
and the signed four-field payload.  HMAC-SHA256 and the random source are
inputs; what the security results ask of the former is stated as `Ideal`.
-/

namespace HomeKeyHousehold

open Library

abbrev Bytes : Type := List UInt8

/-- `hmac.new(key, text.encode("utf-8"), hashlib.sha256).hexdigest()`. -/
abbrev HmacSha256 : Type := Bytes → String → String

/-- HMAC-SHA256 as an opaque function: no two texts share a digest under one
key, and a digest is ASCII text. -/
structure Ideal (hmac : HmacSha256) : Prop where
  injective : ∀ key, Function.Injective (hmac key)
  ascii : ∀ key text, ∀ ch ∈ (hmac key text).toList, ch.toNat < 128

/-! ## Random values -/

/-- Sixteen bytes from the system's random source. -/
abbrev RandomBytes : Type := Vector UInt8 commandNonceBytes

def hexByte (byte : UInt8) : List Char :=
  [Json.hexDigit (byte.toNat / 16), Json.hexDigit (byte.toNat % 16)]

/-- `bytes.hex()`. -/
def hexText (bytes : List UInt8) : String := String.ofList (bytes.flatMap hexByte)

/-- `secrets.token_hex(16)`. -/
def newNonce (bytes : RandomBytes) : String := hexText bytes.toList

/-- `uuid.uuid4().hex`: random bytes with the version and variant bits set. -/
def newRequestId (bytes : RandomBytes) : String :=
  hexText ((bytes.toList.modify 6 fun byte => (byte &&& 0x0f) ||| 0x40).modify 8
    fun byte => (byte &&& 0x3f) ||| 0x80)

/-- How often a fresh nonce is drawn before giving up. -/
def nonceDraws : Nat := 8

/-- What one command may take from the random source. -/
structure Entropy where
  draws : Vector RandomBytes nonceDraws
  uuid : RandomBytes

def isHexDigit (ch : Char) : Bool := "0123456789abcdefABCDEF".toList.contains ch

theorem hexDigit_isHexDigit {value : Nat} (small : value < 16) :
    isHexDigit (Json.hexDigit value) = true := by
  revert value
  decide

theorem hexText_isHexDigit (bytes : List UInt8) :
    ∀ ch ∈ (hexText bytes).toList, isHexDigit ch = true := by
  intro ch member
  rw [hexText, String.toList_ofList, List.mem_flatMap] at member
  obtain ⟨byte, -, inByte⟩ := member
  have bounded := byte.toNat_lt
  rcases List.mem_pair.mp inByte with rfl | rfl
  · exact hexDigit_isHexDigit (by omega)
  · exact hexDigit_isHexDigit (by omega)

theorem length_hexText (bytes : List UInt8) :
    (hexText bytes).toList.length = 2 * bytes.length := by
  rw [hexText, String.toList_ofList]
  induction bytes with
  | nil => rfl
  | cons byte rest ih =>
      rw [List.flatMap_cons, List.length_append, ih, List.length_cons]
      simp only [hexByte, List.length_cons, List.length_nil]
      omega

theorem hexValue_hexDigit {value : Nat} (small : value < 16) :
    Json.hexValue (Json.hexDigit value) = some value := by
  revert value
  decide

theorem hexDigit_inj {first second : Nat} (firstSmall : first < 16) (secondSmall : second < 16)
    (equal : Json.hexDigit first = Json.hexDigit second) : first = second := by
  have read := congrArg Json.hexValue equal
  rw [hexValue_hexDigit firstSmall, hexValue_hexDigit secondSmall] at read
  exact Option.some.inj read

/-- The two digits of a byte determine it. -/
theorem hexByte_append_inj {first second : UInt8} {rest other : List Char}
    (equal : hexByte first ++ rest = hexByte second ++ other) :
    first = second ∧ rest = other := by
  have firstBound := first.toNat_lt
  have secondBound := second.toNat_lt
  simp only [hexByte, List.cons_append, List.nil_append, List.cons.injEq] at equal
  obtain ⟨high, low, tails⟩ := equal
  have highs := hexDigit_inj (by omega) (by omega) high
  have lows := hexDigit_inj (by omega) (by omega) low
  refine ⟨?_, tails⟩
  apply UInt8.toNat_inj.mp
  omega

theorem hexText_injective : Function.Injective hexText := by
  intro first second equal
  have lists : first.flatMap hexByte = second.flatMap hexByte := String.ofList_injective equal
  clear equal
  induction first generalizing second with
  | nil =>
      cases second with
      | nil => rfl
      | cons byte rest => cases lists
  | cons byte rest ih =>
      cases second with
      | nil => cases lists
      | cons other others =>
          rw [List.flatMap_cons, List.flatMap_cons] at lists
          obtain ⟨rfl, tails⟩ := hexByte_append_inj lists
          rw [ih tails]

/-- Different random bytes give different nonces. -/
theorem newNonce_injective : Function.Injective newNonce := by
  intro first second equal
  exact Vector.toList_inj.mp (hexText_injective equal)

theorem length_newNonce (bytes : RandomBytes) : (newNonce bytes).length = 32 := by
  rw [← String.length_toList, newNonce, length_hexText, Vector.length_toList, commandNonceBytes]

theorem length_newRequestId (bytes : RandomBytes) : (newRequestId bytes).length = 32 := by
  rw [← String.length_toList, newRequestId, length_hexText, List.length_modify,
    List.length_modify, Vector.length_toList, commandNonceBytes]

/-! ## Nonces -/

/-- The nonces a client has used lately, at most two windows of them. -/
structure NonceTracker where
  window : Nat
  positive : 0 < window
  seen : List String
  bounded : seen.length ≤ 2 * window

namespace NonceTracker

/-- A new tracker; the window is at least one. -/
def new (window : Nat := commandReplayWindow) : NonceTracker :=
  ⟨max 1 window, Nat.lt_of_lt_of_le Nat.one_pos (Nat.le_max_left 1 window), [],
    Nat.zero_le _⟩

/-- Append a nonce, and forget the oldest window when two are exceeded. -/
def remember (tracker : NonceTracker) (nonce : String) : NonceTracker :=
  let seen := tracker.seen ++ [nonce]
  if exceeded : tracker.window * 2 < seen.length then
    { tracker with
      seen := seen.drop tracker.window
      bounded := by
        have := tracker.bounded
        have := tracker.positive
        simp only [seen, List.length_drop, List.length_append, List.length_singleton]
        omega }
  else
    { tracker with
      seen
      bounded := by omega }

@[simp]
theorem remember_window (tracker : NonceTracker) (nonce : String) :
    (tracker.remember nonce).window = tracker.window := by
  unfold remember
  dsimp only
  split <;> rfl

theorem remember_of_room {tracker : NonceTracker} (nonce : String)
    (room : tracker.seen.length < tracker.window * 2) :
    (tracker.remember nonce).seen = tracker.seen ++ [nonce] := by
  unfold remember
  dsimp only
  split
  · next exceeded =>
      rw [List.length_append, List.length_singleton] at exceeded
      omega
  · rfl

theorem remember_of_full {tracker : NonceTracker} (nonce : String)
    (full : tracker.window * 2 ≤ tracker.seen.length) :
    (tracker.remember nonce).seen = (tracker.seen ++ [nonce]).drop tracker.window := by
  unfold remember
  dsimp only
  split
  · rfl
  · next under =>
      rw [List.length_append, List.length_singleton] at under
      omega

/-- Remembering forgets nothing, or forgets from the front and keeps more than a
window. -/
theorem remember_split (tracker : NonceTracker) (nonce : String) :
    ∃ forgotten, tracker.seen ++ [nonce] = forgotten ++ (tracker.remember nonce).seen ∧
      ((forgotten = [] ∧ tracker.seen.length < (tracker.remember nonce).seen.length) ∨
        tracker.window < (tracker.remember nonce).seen.length) := by
  by_cases room : tracker.seen.length < tracker.window * 2
  · refine ⟨[], (remember_of_room nonce room).symm, Or.inl ⟨rfl, ?_⟩⟩
    rw [remember_of_room nonce room, List.length_append, List.length_singleton]
    omega
  · have full := remember_of_full nonce (Nat.le_of_not_lt room)
    refine ⟨(tracker.seen ++ [nonce]).take tracker.window, ?_, Or.inr ?_⟩
    · rw [full, List.take_append_drop]
    · have := tracker.positive
      rw [full, List.length_drop, List.length_append, List.length_singleton]
      omega

/-- The first draw that was not seen, which is remembered. -/
def firstFresh (tracker : NonceTracker) : List RandomBytes → NonceTracker × Option String
  | [] => (tracker, none)
  | bytes :: rest =>
      let nonce := newNonce bytes
      if nonce ∈ tracker.seen then tracker.firstFresh rest
      else (tracker.remember nonce, some nonce)

/-- A nonce this process has not used, or a refusal after eight draws. -/
def freshNonce (tracker : NonceTracker) (draws : Vector RandomBytes nonceDraws) :
    NonceTracker × Validated String :=
  match tracker.firstFresh draws.toList with
  | (tracker, some nonce) => (tracker, .ok nonce)
  | (tracker, none) => (tracker, invalid "could not generate a fresh nonce")

/-- The shape a nonce must have: bounded, non-empty hex. -/
def isPlausible (nonce : String) : Bool :=
  if nonce = "" then false
  else if 128 < nonce.length then false
  else nonce.toList.all isHexDigit

/-- Everything a draw of nonces can do. -/
theorem firstFresh_cases (tracker : NonceTracker) (draws : List RandomBytes) :
    (tracker.firstFresh draws = (tracker, none) ∧
      ∀ bytes ∈ draws, newNonce bytes ∈ tracker.seen) ∨
    ∃ bytes ∈ draws, newNonce bytes ∉ tracker.seen ∧
      tracker.firstFresh draws = (tracker.remember (newNonce bytes), some (newNonce bytes)) := by
  induction draws with
  | nil =>
      left
      refine ⟨rfl, ?_⟩
      intro bytes absent
      cases absent
  | cons bytes rest ih =>
      by_cases known : newNonce bytes ∈ tracker.seen
      · have skipped : tracker.firstFresh (bytes :: rest) = tracker.firstFresh rest := by
          rw [firstFresh, if_pos known]
        rw [skipped]
        rcases ih with ⟨exhausted, all⟩ | ⟨found, inRest, fresh, taken⟩
        · left
          refine ⟨exhausted, ?_⟩
          intro other member
          rcases List.mem_cons.mp member with rfl | inRest
          · exact known
          · exact all other inRest
        · exact Or.inr ⟨found, List.mem_cons_of_mem _ inRest, fresh, taken⟩
      · right
        refine ⟨bytes, List.mem_cons_self, known, ?_⟩
        rw [firstFresh, if_neg known]

/-- Everything `freshNonce` can do. -/
theorem freshNonce_cases (tracker : NonceTracker) (draws : Vector RandomBytes nonceDraws) :
    (tracker.freshNonce draws = (tracker, invalid "could not generate a fresh nonce") ∧
      ∀ bytes ∈ draws.toList, newNonce bytes ∈ tracker.seen) ∨
    ∃ bytes ∈ draws.toList, newNonce bytes ∉ tracker.seen ∧
      tracker.freshNonce draws = (tracker.remember (newNonce bytes), .ok (newNonce bytes)) := by
  unfold freshNonce
  rcases tracker.firstFresh_cases draws.toList with
    ⟨exhausted, all⟩ | ⟨bytes, drawn, fresh, taken⟩
  · exact Or.inl ⟨by rw [exhausted], all⟩
  · exact Or.inr ⟨bytes, drawn, fresh, by rw [taken]⟩

theorem isPlausible_newNonce (bytes : RandomBytes) : isPlausible (newNonce bytes) = true := by
  have length := length_newNonce bytes
  have nonempty : newNonce bytes ≠ "" := by
    intro empty
    rw [empty] at length
    exact absurd length (by decide)
  rw [isPlausible, if_neg nonempty, if_neg (by omega), List.all_eq_true]
  exact hexText_isHexDigit bytes.toList

end NonceTracker

/-! ## Signed commands -/

/-- The string a MAC is computed over: the fields and the action, concatenated. -/
def canonicalInput (ts : Int) (nonce reqId action : String) : String :=
  String.ofList (Json.writeInt ts) ++ nonce ++ reqId ++ action

def unsupportedAction (action : String) : String := "unsupported action: " ++ reprString action

def makeCommandMac (hmac : HmacSha256) (key : Bytes) (ts : Int)
    (nonce reqId action : String) : Validated String :=
  match Action.ofString? action with
  | none => invalid (unsupportedAction action)
  | some _ => .ok (hmac key (canonicalInput ts nonce reqId action))

/-- The four-field payload; the action is not part of it. -/
structure AuthenticatedCommand where
  ts : Int
  nonce : String
  reqId : String
  mac : String
  deriving DecidableEq, Repr

/-- `AuthenticatedCommand.to_dict`. -/
def AuthenticatedCommand.toDict (command : AuthenticatedCommand) : Json :=
  .obj [("ts", .int command.ts), ("nonce", .str command.nonce),
    ("req_id", .str command.reqId), ("mac", .str command.mac)]

/-- `dumps_command`. -/
def dumpsCommand (command : AuthenticatedCommand) : String := Json.dumpsCompact command.toDict

/-- A nonce given, or one from the tracker, or one at random. -/
def chooseNonce (nonce : Option String) (tracker : Option NonceTracker) (entropy : Entropy) :
    Option NonceTracker × Validated String :=
  match nonce, tracker with
  | some nonce, tracker => (tracker, .ok nonce)
  | none, some tracker =>
      let (tracker, drawn) := tracker.freshNonce entropy.draws
      (some tracker, drawn)
  | none, none => (none, .ok (newNonce (entropy.draws.get ⟨0, by decide⟩)))

/-- Sign the chosen fields, after checking the nonce and the request id. -/
def signFields (hmac : HmacSha256) (key : Bytes) (action : String) (ts : Int)
    (nonce reqId : String) : Validated AuthenticatedCommand :=
  if NonceTracker.isPlausible nonce then
    if reqId = "" ∨ 128 < reqId.length then
      invalid "req_id: must be a non-empty bounded string"
    else do
      let mac ← makeCommandMac hmac key ts nonce reqId action
      pure { ts, nonce, reqId, mac }
  else invalid "nonce: must be a bounded hex string"

/-- `build_command`, with the tracker it leaves behind. -/
def buildCommand (hmac : HmacSha256) (key : Bytes) (action : String) (clock : Int)
    (entropy : Entropy) (ts : Option Int) (nonce reqId : Option String)
    (tracker : Option NonceTracker) : Option NonceTracker × Validated AuthenticatedCommand :=
  match Action.ofString? action with
  | none => (tracker, invalid (unsupportedAction action))
  | some _ =>
      if key = [] then (tracker, invalid "command key: must not be empty")
      else
        match chooseNonce nonce tracker entropy with
        | (tracker, .error reason) => (tracker, .error reason)
        | (tracker, .ok nonce) =>
            (tracker, signFields hmac key action (ts.getD clock) nonce
              (reqId.getD (newRequestId entropy.uuid)))

theorem signFields_ok (hmac : HmacSha256) (key : Bytes) (action : Action) (ts : Int)
    (bytes uuid : RandomBytes) :
    signFields hmac key action.spelling ts (newNonce bytes) (newRequestId uuid) =
      .ok
        { ts
          nonce := newNonce bytes
          reqId := newRequestId uuid
          mac := hmac key
            (canonicalInput ts (newNonce bytes) (newRequestId uuid) action.spelling) } := by
  have length := length_newRequestId uuid
  have bounded : ¬ (newRequestId uuid = "" ∨ 128 < (newRequestId uuid).length) := by
    rintro (empty | long)
    · rw [empty] at length
      exact absurd length (by decide)
    · omega
  rw [signFields, if_pos (NonceTracker.isPlausible_newNonce bytes), if_neg bounded,
    makeCommandMac, Action.ofString?_spelling]
  rfl

end HomeKeyHousehold
