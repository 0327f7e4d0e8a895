import DigAccount.Chain.Query
import Mathlib.Data.List.DropRight
import Mathlib.Data.List.Infix

namespace DigAccount

inductive JsonValue where
  | null
  | bool (value : Bool)
  | number (literal : String)
  | string (text : String)
  | array (items : List JsonValue)
  | object (fields : List (String × JsonValue))

namespace JsonValue

def get (value : JsonValue) (key : String) : Option JsonValue :=
  match value with
  | .object fields => fields.lookup key
  | _ => none

def asStr : JsonValue → Option String
  | .string text => some text
  | _ => none

def strAt (value : JsonValue) (key : String) : Option String := (value.get key).bind asStr

inductive Says (p : String → Prop) : JsonValue → Prop
  | text {text : String} : p text → Says p (.string text)
  | item {items : List JsonValue} {value : JsonValue} : value ∈ items → Says p value →
      Says p (.array items)
  | key {fields : List (String × JsonValue)} {key : String} {value : JsonValue} :
      (key, value) ∈ fields → p key → Says p (.object fields)
  | field {fields : List (String × JsonValue)} {key : String} {value : JsonValue} :
      (key, value) ∈ fields → Says p value → Says p (.object fields)

variable {p : String → Prop} {json value : JsonValue} {key text : String}

theorem says_string : Says p (.string text) ↔ p text := by
  constructor
  · intro h
    cases h with
    | text h => exact h
  · exact .text

theorem strAt_eq_some : json.strAt key = some text ↔ json.get key = some (.string text) := by
  rw [strAt, Option.bind_eq_some_iff]
  constructor
  · rintro ⟨value, hget, htext⟩
    cases value with
    | string said =>
        cases htext
        exact hget
    | null => cases htext
    | bool value => cases htext
    | number literal => cases htext
    | array items => cases htext
    | object fields => cases htext
  · exact fun hget => ⟨_, hget, rfl⟩

theorem strAt_eq_none (h : json.get key = some value) :
    json.strAt key = none ↔ value.asStr = none := by
  rw [strAt, h, Option.bind_some]

end JsonValue

class SerdeJson where
  fromStr : String → Option JsonValue

export SerdeJson (fromStr)

class UnicodeTables where
  graphemeExtend : Char → Bool
  printable : Char → Bool

def escapeUnicode (c : Char) : String :=
  "\\u\x7b" ++ String.ofList (Nat.toDigits 16 c.toNat) ++ "\x7d"

def escapeDebug [UnicodeTables] (c : Char) : String :=
  if c = '\x00' then "\\0"
  else if c = '\t' then "\\t"
  else if c = '\r' then "\\r"
  else if c = '\n' then "\\n"
  else if c = '\\' then "\\\\"
  else if c = '"' then "\\\""
  else if UnicodeTables.graphemeExtend c then escapeUnicode c
  else if UnicodeTables.printable c then c.toString
  else escapeUnicode c

def debugStr [UnicodeTables] (text : String) : String :=
  "\"" ++ String.join (text.toList.map escapeDebug) ++ "\""

def maxQuotedBody : Nat := 400

def pendingAssertions : List String :=
  ["ASSERT_HEIGHT_ABSOLUTE_FAILED",
    "ASSERT_HEIGHT_RELATIVE_FAILED",
    "ASSERT_SECONDS_ABSOLUTE_FAILED",
    "ASSERT_SECONDS_RELATIVE_FAILED"]

def mempoolRefusalMarker : String := "failed to include transaction"

def alreadyIncluding : String := "already_including_transaction"

structure HttpAnswer where
  status : Nat
  body : String
  deriving DecidableEq, Repr

def toAsciiLowercase (s : String) : String := String.ofList (s.toList.map Char.toLower)

def strContains (s pattern : String) : Bool := decide (pattern.toList <:+: s.toList)

def isWhitespace (c : Char) : Bool :=
  (9 ≤ c.toNat && c.toNat ≤ 13) || (0x2000 ≤ c.toNat && c.toNat ≤ 0x200A) ||
    c.toNat ∈ [0x20, 0x85, 0xA0, 0x1680, 0x2028, 0x2029, 0x202F, 0x205F, 0x3000]

def trim (s : String) : String :=
  String.ofList ((s.toList.dropWhile isWhitespace).rdropWhile isWhitespace)

def quote (text : String) : String :=
  let trimmed := trim text
  if maxQuotedBody < trimmed.length then
    String.ofList (trimmed.toList.take maxQuotedBody) ++ "…"
  else trimmed

def unsettled (answer : HttpAnswer) (why : String) : String :=
  s!"the push outcome is unknown ({why}); HTTP {answer.status} said: {quote answer.body}"

def classifyError (answer : HttpAnswer) (reason : String) : Except String PushOutcome :=
  let lowered := toAsciiLowercase reason
  if strContains lowered alreadyIncluding then .ok .alreadyInMempool
  else if pendingAssertions.any (strContains reason) then
    .error (unsettled answer
      "the bundle failed a height/seconds assertion, so the node is holding it")
  else if strContains lowered mempoolRefusalMarker then .ok (.rejected (quote reason))
  else .error (unsettled answer "the error is not a recognisable mempool decision")

def interpretPushAnswer [SerdeJson] [UnicodeTables] (answer : HttpAnswer) :
    Except String PushOutcome :=
  match fromStr answer.body with
  | none => .error (unsettled answer "the body is not JSON")
  | some json =>
      match json.strAt "error" with
      | some reason => classifyError answer reason
      | none =>
          match json.strAt "status" with
          | some status =>
              if status = "SUCCESS" then .ok .accepted
              else if status = "PENDING" then
                .error (unsettled answer "the mempool answered PENDING")
              else if status = "FAILED" then .ok (.rejected (quote answer.body))
              else
                .error (unsettled answer s!"unrecognised mempool status {debugStr status}")
          | none => .error (unsettled answer "the body states neither status nor error")

def NamesPending (text : String) : Prop :=
  ∃ name ∈ "PENDING" :: pendingAssertions,
    strContains (toAsciiLowercase text) (toAsciiLowercase name) = true

def BodyNamesPending (json : JsonValue) : Prop :=
  ∃ value, (json.get "status" = some value ∨ json.get "error" = some value) ∧
    value.Says NamesPending

def StatesRefusal (json : JsonValue) : Prop :=
  match json.strAt "error" with
  | some reason => strContains (toAsciiLowercase reason) mempoolRefusalMarker = true
  | none => json.strAt "status" = some "FAILED"

def RefusesUnheld (reason : String) : Prop :=
  strContains (toAsciiLowercase reason) alreadyIncluding = false ∧
    pendingAssertions.any (strContains reason) = false ∧
    strContains (toAsciiLowercase reason) mempoolRefusalMarker = true

-- a string error is read alone; any other error is passed over for the status
def ReadsRetained (json : JsonValue) : Prop :=
  (∃ reason, json.strAt "error" = some reason ∧ RefusesUnheld reason ∧ BodyNamesPending json) ∨
    ∃ error, json.get "error" = some error ∧ error.asStr = none ∧ error.Says NamesPending ∧
      json.strAt "status" = some "FAILED"

section Classified

variable {answer : HttpAnswer} {reason said : String}

theorem classifyError_rejected :
    classifyError answer reason = .ok (.rejected said) ↔
      RefusesUnheld reason ∧ said = quote reason := by
  unfold classifyError RefusesUnheld
  dsimp only
  split
  · rename_i halready
    simp [halready]
  · rename_i hnew
    split
    · rename_i hheld
      simp [hheld]
    · rename_i hunheld
      split
      · rename_i hmarker
        simp [hnew, hunheld, hmarker, eq_comm]
      · rename_i hunmarked
        simp [hunmarked]

theorem classifyError_eq (body reason : String) : ∃ verdict : Except String PushOutcome,
    ∀ status, classifyError ⟨status, body⟩ reason =
      verdict.mapError (unsettled ⟨status, body⟩) := by
  unfold classifyError
  dsimp only
  split
  · exact ⟨.ok .alreadyInMempool, fun status => rfl⟩
  · split
    · exact ⟨.error _, fun status => rfl⟩
    · split
      · exact ⟨.ok (.rejected (quote reason)), fun status => rfl⟩
      · exact ⟨.error _, fun status => rfl⟩

end Classified

theorem not_namesPending_failed : ¬ NamesPending "FAILED" := by
  unfold NamesPending
  decide +kernel

theorem not_bodyNamesPending_of_failed {json : JsonValue} (herror : json.strAt "error" = none)
    (hstatus : json.strAt "status" = some "FAILED")
    (hretained : ¬ ReadsRetained json) : ¬ BodyNamesPending json := by
  rintro ⟨value, hvalue | hvalue, hsays⟩
  · rw [JsonValue.strAt_eq_some.1 hstatus, Option.some.injEq] at hvalue
    rw [← hvalue, JsonValue.says_string] at hsays
    exact not_namesPending_failed hsays
  · have hshape : value.asStr = none := (JsonValue.strAt_eq_none hvalue).1 herror
    exact hretained (.inr ⟨value, hvalue, hshape, hsays, hstatus⟩)

section Interpreted

variable [SerdeJson] [UnicodeTables] {answer : HttpAnswer} {said : String}

theorem interpretPushAnswer_rejected :
    interpretPushAnswer answer = .ok (.rejected said) ↔
      ∃ json, fromStr answer.body = some json ∧
        ((∃ reason, json.strAt "error" = some reason ∧ RefusesUnheld reason ∧
            said = quote reason) ∨
          (json.strAt "error" = none ∧ json.strAt "status" = some "FAILED" ∧
            said = quote answer.body)) := by
  unfold interpretPushAnswer
  cases hjson : fromStr answer.body with
  | none => simp
  | some json =>
      cases herror : json.strAt "error" with
      | some reason => simp [herror, classifyError_rejected]
      | none =>
          cases hstatus : json.strAt "status" with
          | none => simp [herror, hstatus]
          | some status =>
              by_cases hfailed : status = "FAILED"
              · simp [herror, hstatus, hfailed, eq_comm]
              · simp only [herror, hstatus]
                split_ifs <;> simp [herror, hstatus, hfailed]

theorem interpretPushAnswer_eq (body : String) : ∃ verdict : Except String PushOutcome,
    ∀ status, interpretPushAnswer ⟨status, body⟩ = verdict.mapError (unsettled ⟨status, body⟩) := by
  unfold interpretPushAnswer
  dsimp only
  cases fromStr body with
  | none => exact ⟨.error _, fun status => rfl⟩
  | some json =>
      dsimp only
      cases json.strAt "error" with
      | some reason => exact classifyError_eq body reason
      | none =>
          dsimp only
          cases json.strAt "status" with
          | none => exact ⟨.error _, fun status => rfl⟩
          | some said =>
              dsimp only
              split_ifs
              · exact ⟨.ok .accepted, fun status => rfl⟩
              · exact ⟨.error _, fun status => rfl⟩
              · exact ⟨.ok (.rejected (quote body)), fun status => rfl⟩
              · exact ⟨.error _, fun status => rfl⟩

theorem interpretPushAnswer_settled (answer : HttpAnswer) :
    ((∀ said, interpretPushAnswer answer = .ok (.rejected said) →
        ∃ json, fromStr answer.body = some json ∧ StatesRefusal json ∧ ¬ BodyNamesPending json) ∧
      ∃ verdict : Except String PushOutcome, ∀ status,
        interpretPushAnswer ⟨status, answer.body⟩ =
          verdict.mapError (unsettled ⟨status, answer.body⟩)) ↔
    ∀ json, fromStr answer.body = some json → ¬ ReadsRetained json := by
  constructor
  · rintro ⟨hsettled, -⟩ json hjson hretained
    have hrefuted : ∀ said, interpretPushAnswer answer = .ok (.rejected said) →
        ¬ BodyNamesPending json := by
      intro said hrejected
      obtain ⟨json', hjson', -, hunnamed⟩ := hsettled said hrejected
      rw [hjson, Option.some.injEq] at hjson'
      exact hjson' ▸ hunnamed
    rcases hretained with
      ⟨reason, herror, hrefuses, hnames⟩ | ⟨error, herror, hshape, hsays, hstatus⟩
    · exact hrefuted (quote reason) (interpretPushAnswer_rejected.2
        ⟨json, hjson, Or.inl ⟨reason, herror, hrefuses, rfl⟩⟩) hnames
    · have hskipped : json.strAt "error" = none := (JsonValue.strAt_eq_none herror).2 hshape
      exact hrefuted (quote answer.body) (interpretPushAnswer_rejected.2
        ⟨json, hjson, Or.inr ⟨hskipped, hstatus, rfl⟩⟩) ⟨error, .inr herror, hsays⟩
  · intro hcondition
    refine ⟨fun said hrejected => ?_, interpretPushAnswer_eq answer.body⟩
    obtain ⟨json, hjson, hcase⟩ := interpretPushAnswer_rejected.1 hrejected
    have hunretained := hcondition json hjson
    refine ⟨json, hjson, ?_⟩
    rcases hcase with ⟨reason, herror, hrefuses, -⟩ | ⟨herror, hstatus, -⟩
    · refine ⟨?_, fun hnames => hunretained (.inl ⟨reason, herror, hrefuses, hnames⟩)⟩
      rw [StatesRefusal, herror]
      exact hrefuses.2.2
    · refine ⟨?_, not_bodyNamesPending_of_failed herror hstatus hunretained⟩
      rw [StatesRefusal, herror]
      exact hstatus

end Interpreted

section Example

def heldRefusal : String :=
  "Failed to include transaction abcd, error assert_height_absolute_failed"

def heldAnswer : HttpAnswer where
  status := 400
  body := "\x7b\"error\":\"" ++ heldRefusal ++ "\"\x7d"

@[reducible] def heldJson : SerdeJson where
  fromStr body :=
    if body = heldAnswer.body then some (.object [("error", .string heldRefusal)]) else none

@[reducible] def asciiTables : UnicodeTables where
  graphemeExtend _ := false
  printable c := 32 ≤ c.toNat && c.toNat < 127

theorem lowercase_assertion_rejected :
    letI := heldJson
    letI := asciiTables
    interpretPushAnswer heldAnswer = .ok (.rejected heldRefusal) ∧
      ∃ json, fromStr heldAnswer.body = some json ∧ BodyNamesPending json := by
  let _ := heldJson
  let _ := asciiTables
  have hjson : fromStr heldAnswer.body = some (.object [("error", .string heldRefusal)]) :=
    if_pos rfl
  have hquoted : quote heldRefusal = heldRefusal := by decide +kernel
  have hrefuses : RefusesUnheld heldRefusal := by
    unfold RefusesUnheld
    decide +kernel
  have hnames : NamesPending heldRefusal := by
    unfold NamesPending
    decide +kernel
  refine ⟨?_, _, hjson, .string heldRefusal, Or.inr rfl, .text hnames⟩
  exact interpretPushAnswer_rejected.2
    ⟨_, hjson, Or.inl ⟨heldRefusal, rfl, hrefuses, hquoted.symm⟩⟩

end Example

end DigAccount
