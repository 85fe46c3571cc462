import LostProperty.Config.EnvFile
import LostProperty.Failure
import LostProperty.Number.Word64
import LostProperty.Url.Parser

/-
  The settings of a run.

  The base URL is kept as it was given, without blanks at
  its ends and without slashes at its end. It has to be a
  valid URL of the web. The timeout is a positive number of
  seconds; a blank one is none at all.

  Key definitions include:
    * `Config`
    * `Config.ofValues`
    * `Config.ofValues_eq_ok_iff`
    * `Config.ofEnvironment`
    * `Config.listingUrl`
    * `Config.recordUrl`
-/

------------------------------------------------------------
-- Settings
------------------------------------------------------------

namespace LostProperty

/- The settings of a run. -/
structure Config where
  baseUrl : String
  timeout : Option Nat
  pageLimit : Nat
deriving DecidableEq, Repr

namespace Config

/- The base URL when none is given. -/
def defaultBaseUrl : String :=
  "http://localhost:8080/api/v1"

/- The greatest number of records that is asked for. -/
def defaultPageLimit : Nat :=
  1000

/- The URL of the listing. -/
def listingUrl
    (config : Config) : String :=
  config.baseUrl ++ "/objets-perdus"

/- The URL of one record. -/
def recordUrl
    (config : Config)
    (id : String) : String :=
  config.baseUrl ++ "/objets-perdus/" ++ id

end Config

------------------------------------------------------------
-- Base URLs
------------------------------------------------------------

namespace Config

/- A base URL without blanks and without slashes at its end. -/
def normalizedBase
    (given : String) : String :=
  Text.trimEnd '/' (Text.trim given)

/- The base URL that is kept for a given one. -/
def readBase
    (given : String) : Except ConfigFault String :=
  let base := normalizedBase given
  match Url.parse base with
  | .error cause => .error (.invalidUrl cause given)
  | .ok url =>
      if url.isHttp then
        .ok base
      else
        .error (.notHttp given)

end Config

------------------------------------------------------------
-- Timeouts
------------------------------------------------------------

namespace Config

/- The timeout that is kept for a given one. -/
def readTimeout
    (given : Option String) :
    Except ConfigFault (Option Nat) :=
  let text := Text.trim (given.getD "")
  if text = "" then
    .ok none
  else
    match Word64.read? text.toList with
    | none => .error (.invalidTimeout text)
    | some n =>
        if n = 0 then
          .error .zeroTimeout
        else
          .ok (some n.toNat)

end Config

------------------------------------------------------------
-- Sources
------------------------------------------------------------

namespace Config

/- The settings for given values. -/
def ofValues
    (base timeout : Option String) :
    Except ConfigFault Config := do
  let base ← readBase (base.getD defaultBaseUrl)
  let timeout ← readTimeout timeout
  pure ⟨base, timeout, defaultPageLimit⟩

/-
  Settings are accepted exactly if the base and the timeout
  are, and keep what is kept of each.
-/
theorem ofValues_eq_ok_iff
    {base timeout : Option String}
    {config : Config} :
    ofValues base timeout = .ok config ↔
      readBase (base.getD defaultBaseUrl) = .ok config.baseUrl ∧
        readTimeout timeout = .ok config.timeout ∧
          config.pageLimit = defaultPageLimit := by
  rcases config with ⟨kept, seconds, limit⟩
  rw [ofValues]
  cases readBase (base.getD defaultBaseUrl) with
  | error fault =>
      constructor
      · intro hAccepted
        cases hAccepted
      · rintro ⟨hBase, -⟩
        cases hBase
  | ok text =>
      cases readTimeout timeout with
      | error fault =>
          constructor
          · intro hAccepted
            cases hAccepted
          · rintro ⟨-, hTimeout, -⟩
            cases hTimeout
      | ok given =>
          constructor
          · intro hAccepted
            cases hAccepted
            exact ⟨rfl, rfl, rfl⟩
          · rintro ⟨hBase, hTimeout, rfl⟩
            cases hBase
            cases hTimeout
            rfl

/-
  Settings that take any base URL as it is, with a timeout
  of five seconds.
-/
def unchecked
    (base : String) : Config :=
  ⟨Text.trimEnd '/' base, some 5, defaultPageLimit⟩

/-
  The settings of an environment, to which the file of the
  working directory may add variables, as long as it adds
  none that cannot be set.
-/
def ofEnvironment
    (environment : Environment)
    (file : Option String) : Except ConfigFault Config :=
  let environment :=
    match file with
    | some text => EnvFile.load environment text
    | none => environment
  ofValues
    (environment.get? "API_BASE_URL")
    (environment.get? "API_TIMEOUT_SECS")

end Config

end LostProperty
