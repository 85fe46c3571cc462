import LostProperty.Http.Fault
import LostProperty.Json.Fault

/-
  Why a run, or the update of one record, failed.

  Key definitions include:
    * `ConfigFault`
    * `Failure`
    * `Failure.message`
    * `Failure.detail`
    * `Failure.status?`
    * `Failure.body?`
-/

------------------------------------------------------------
-- Causes
------------------------------------------------------------

namespace LostProperty

/- What is wrong with the settings. -/
inductive ConfigFault where
  | invalidUrl (cause : UrlFault) (given : String)
  | notHttp (given : String)
  | invalidTimeout (given : String)
  | zeroTimeout
  | described (words : String)
deriving DecidableEq, Repr

/- The words of a fault of the settings. -/
def ConfigFault.message : ConfigFault → String
  | invalidUrl cause given =>
      "API_BASE_URL is not a valid URL (" ++ cause.message
        ++ "): " ++ given
  | notHttp given =>
      "API_BASE_URL must use http or https: " ++ given
  | invalidTimeout given =>
      "Invalid API_TIMEOUT_SECS value: " ++ given
  | zeroTimeout => "API_TIMEOUT_SECS must be greater than zero"
  | described words => words

/-
  Why something failed: the settings, the exchange, an
  answer that refuses, or a document of the wrong shape.
-/
inductive Failure where
  | config (cause : ConfigFault)
  | http (cause : HttpFault)
  | api (status : Nat) (body : Option Json)
  | decode (cause : JsonError)
deriving Repr

end LostProperty

------------------------------------------------------------
-- Accounts
------------------------------------------------------------

namespace LostProperty

namespace Failure

/- The words of a failure. -/
def message : Failure → String
  | config cause => "Configuration error: " ++ cause.message
  | http cause => "HTTP request failed: " ++ cause.message
  | api status _ =>
      "API responded with status " ++ toString status
  | decode cause =>
      "Failed to decode API payload: " ++ cause.message

/- What the service answered, if it answered something. -/
def body? : Failure → Option Json
  | api _ body => body
  | _ => none

/- The status code of a failure. -/
def status? : Failure → Option Nat
  | api status _ => some status
  | http cause => cause.status?
  | _ => none

/-
  The account of a failure for one record: the answer of
  the service, or the words of the failure.
-/
def detail
    (failure : Failure) : String :=
  match failure.body? with
  | some (.text words) => words
  | some body => body.compact
  | none => failure.message

end Failure

end LostProperty

------------------------------------------------------------
-- Diagnostics
------------------------------------------------------------

namespace LostProperty

namespace Json

mutual

/- A value as the log shows it. -/
def diagnosis : Json → String
  | null => "Null"
  | flag true => "Bool(true)"
  | flag false => "Bool(false)"
  | number value => "Number(" ++ value.compact ++ ")"
  | text value => "String(" ++ Text.quoted value ++ ")"
  | array elements =>
      "Array [" ++ ", ".intercalate (diagnoses elements) ++ "]"
  | object entries =>
      "Object \x7b" ++ ", ".intercalate (entryDiagnoses entries)
        ++ "\x7d"

/- Elements as the log shows them. -/
def diagnoses : List Json → List String
  | [] => []
  | v :: rest => diagnosis v :: diagnoses rest

/- Entries as the log shows them. -/
def entryDiagnoses : List (String × Json) → List String
  | [] => []
  | (k, v) :: rest =>
      (Text.quoted k ++ ": " ++ diagnosis v)
        :: entryDiagnoses rest

end

end Json

/- An error of a document as the log shows it. -/
def JsonError.diagnosis
    (e : JsonError) : String :=
  let shown (words : String) (line column : Nat) :=
    "Error(" ++ Text.quoted words ++ ", line: "
      ++ toString line ++ ", column: " ++ toString column ++ ")"
  match e with
  | unreadable cause =>
      shown cause.fault.message cause.line cause.column
  | mismatch cause => shown cause.message 0 0

/- A failure as the log shows it. -/
def Failure.diagnosis : Failure → String
  | config cause =>
      "Config(" ++ Text.quoted cause.message ++ ")"
  | http cause => "Http(" ++ cause.diagnosis ++ ")"
  | api status body =>
      "Api \x7b status: " ++ toString status ++ ", body: "
        ++ Text.optionText (body.map Json.diagnosis) ++ " \x7d"
  | decode cause => "Decode(" ++ cause.diagnosis ++ ")"

end LostProperty
