import LostProperty.Http.Client
import LostProperty.Log.Line
import LostProperty.Task

/-
  The whole program, as a function of what it finds: the
  environment, a file of variables, the time and a registry.

  The work is that of a task, which may be broken off. The
  program judges how the task ended.

  Key definitions include:
    * `Surroundings`
    * `Outside`
    * `Program.readSettings`
    * `Program.work`
    * `Program.supervise`
    * `Program.run`
-/

------------------------------------------------------------
-- Surroundings
------------------------------------------------------------

namespace LostProperty

/-
  What the program finds when it is started. Its task will
  have a number.
-/
structure Surroundings where
  environment : Environment
  envFile : Option String
  runId : RunId
  startedAt : Instant
  task : Nat := 1

/- Why the task breaks off over the file of variables. -/
def Surroundings.breakdown?
    (s : Surroundings) : Option Breakdown := do
  let text ← s.envFile
  let (name, value) ← EnvFile.unsettable? s.environment text
  some (.panicked (some (EnvFile.unsettableWords name value)))

/-
  What the program meets outside: the moment in which its
  task begins, and the registry that it is connected with
  for its settings, if that can be done.
-/
structure Outside (m : Type → Type) where
  begin : Work m Unit
  connect :
    (config : Config) → Work m (Except HttpFault (Api (Work m)))

/-
  A network outside: the task begins, the connection is
  always made, and no call breaks the task off.
-/
def Outside.ofNetwork
    {m : Type → Type}
    [Monad m]
    (network : Network m) : Outside m where
  begin := pure ()
  connect config :=
    pure (.ok (Client.api network config).steady)

/- What the program leaves behind. -/
structure Conclusion where
  outcome : Outcome
  journal : Journal

end LostProperty

------------------------------------------------------------
-- The Program
------------------------------------------------------------

namespace LostProperty

namespace Program

/- The target of the events of the program itself. -/
def logTarget : String :=
  "container_migration"

/- The settings were accepted. -/
def configuredEvent
    (config : Config) : Entry :=
  .event
    { severity := .info
      target := logTarget
      message := "Configuration loaded"
      fields := [
        ("api_base_url", config.baseUrl),
        ("page_limit", toString config.pageLimit)
      ]
      span := none }

variable {m : Type → Type} [Monad m]

/- Connect for settings that were accepted, and run once. -/
def runWith
    (outside : Outside m)
    (clock : m Instant)
    (s : Surroundings)
    (config : Config) : Work m (Answer Report) := do
  let settings : RunSettings :=
    ⟨config.pageLimit, s.runId, s.startedAt⟩
  match ← outside.connect config with
  | .error cause => pure ⟨.error (.http cause), []⟩
  | .ok api => Task.run api clock settings

/- Read the settings, unless the task breaks off over them. -/
def readSettings
    (s : Surroundings) : Work m (Except ConfigFault Config) :=
  match s.breakdown? with
  | some cause => throw ⟨s.task, cause, []⟩
  | none => pure (Config.ofEnvironment s.environment s.envFile)

/- The work of the task: read the settings and run once. -/
def work
    (outside : Outside m)
    (clock : m Instant)
    (s : Surroundings) : Work m (Answer Report) := do
  outside.begin
  match ← readSettings s with
  | .error cause => pure ⟨.error (.config cause), []⟩
  | .ok config =>
      let told := [configuredEvent config]
      let answer ←
        Work.behind told (runWith outside clock s config)
      pure ⟨answer.result, told ++ answer.journal⟩

/- Judge how the task ended. -/
def conclude
    (ended : Except BrokenTask (Answer Report)) : Conclusion :=
  match ended with
  | .ok answer =>
      let (outcome, told) :=
        Outcome.ofTask (.returned answer.result)
      ⟨outcome, answer.journal ++ told⟩
  | .error broken =>
      let (outcome, told) :=
        Outcome.ofTask (.broken broken.task broken.cause)
      ⟨outcome, broken.told ++ told⟩

/- Let a task do the work and judge how it ended. -/
def supervise
    (outside : Outside m)
    (clock : m Instant)
    (s : Surroundings) : m Conclusion := do
  let ended ← (work outside clock s).run
  pure (conclude ended)

/- The program over a network. -/
def run
    (network : Network m)
    (clock : m Instant)
    (s : Surroundings) : m Conclusion :=
  supervise (.ofNetwork network) clock s

/- The filter of the log, which only the environment sets. -/
def logFilter
    (environment : Environment) : LogFilter :=
  LogFilter.ofSetting (environment.get? "RUST_LOG")

end Program

end LostProperty
