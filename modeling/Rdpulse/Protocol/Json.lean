import Rdpulse.Protocol.Control

namespace Rdpulse.Protocol

open Foundation

/-! What `encoding/json` makes of a string on the way from `Marshal` to `Unmarshal`: a
byte that starts no valid UTF-8 sequence arrives as the replacement character. -/

def isContinuation (byte : UInt8) : Bool := 0x80 ≤ byte && byte ≤ 0xBF

/-- The bytes that may follow the first byte of a sequence, as `utf8.acceptRanges` has
them. -/
def acceptRange (first second : UInt8) : Bool :=
  if first = 0xE0 then 0xA0 ≤ second && second ≤ 0xBF
  else if first = 0xED then 0x80 ≤ second && second ≤ 0x9F
  else if first = 0xF0 then 0x90 ≤ second && second ≤ 0xBF
  else if first = 0xF4 then 0x80 ≤ second && second ≤ 0x8F
  else isContinuation second

/-- The number of continuation bytes of the sequence that starts here. -/
def runeTail (first : UInt8) (rest : GoString) : Option Nat :=
  if first < 0x80 then some 0
  else if 0xC2 ≤ first && first ≤ 0xDF then
    match rest with
    | second :: _ => if acceptRange first second then some 1 else none
    | _ => none
  else if 0xE0 ≤ first && first ≤ 0xEF then
    match rest with
    | second :: third :: _ =>
        if acceptRange first second && isContinuation third then some 2 else none
    | _ => none
  else if 0xF0 ≤ first && first ≤ 0xF4 then
    match rest with
    | second :: third :: fourth :: _ =>
        if acceptRange first second && isContinuation third && isContinuation fourth then some 3
        else none
    | _ => none
  else none

def replacement : GoString := [0xEF, 0xBF, 0xBD]

/-- With the number of bytes that belong to the sequence before. -/
def jsonBytes : Nat → GoString → GoString
  | _, [] => []
  | owed + 1, byte :: rest => byte :: jsonBytes owed rest
  | 0, first :: rest =>
      match runeTail first rest with
      | some owed => first :: jsonBytes owed rest
      | none => replacement ++ jsonBytes 0 rest

def jsonString (text : GoString) : GoString := jsonBytes 0 text

def CandidateInfo.transmitted (candidate : CandidateInfo) : CandidateInfo where
  protocol := jsonString candidate.protocol
  type := jsonString candidate.type
  address := jsonString candidate.address
  priority := candidate.priority

/-- A message that `WriteControlMessage` has written, as `ReadControlMessage` reads it. -/
def ControlMessage.transmitted (message : ControlMessage) : ControlMessage :=
  { message with
    type :=
      match message.type with
      | .other text => .other (jsonString text)
      | type => type
    deviceID := jsonString message.deviceID
    targetDeviceID := jsonString message.targetDeviceID
    secret := jsonString message.secret
    secretHash := jsonString message.secretHash
    enrollmentToken := jsonString message.enrollmentToken
    hostname := jsonString message.hostname
    publicHost := jsonString message.publicHost
    sessionToken := jsonString message.sessionToken
    candidates := message.candidates.map CandidateInfo.transmitted }

@[simp] theorem jsonString_nil : jsonString [] = [] := rfl

@[simp] theorem jsonString_eq_nil {text : GoString} : jsonString text = [] ↔ text = [] := by
  refine ⟨fun empty => ?_, fun empty => by rw [empty]; rfl⟩
  cases text with
  | nil => rfl
  | cons first rest =>
      unfold jsonString jsonBytes at empty
      split at empty <;> cases empty

theorem jsonString_ascii {text : GoString} (ascii : ∀ byte ∈ text, byte < 0x80) :
    jsonString text = text := by
  unfold jsonString
  induction text with
  | nil => rfl
  | cons first rest induction =>
      have here : runeTail first rest = some 0 := if_pos (ascii first List.mem_cons_self)
      rw [jsonBytes, here]
      exact congrArg _ (induction fun byte member => ascii byte (List.mem_cons_of_mem _ member))

/-- "é" has two bytes. The second one alone is no sequence. -/
example : jsonString [0xC3, 0xA9] = [0xC3, 0xA9] ∧ jsonString [0xA9] = replacement := by decide

end Rdpulse.Protocol
