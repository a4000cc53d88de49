import AmazonSimilarSearch.Foundation.Casefold
import AmazonSimilarSearch.Foundation.Interaction
import AmazonSimilarSearch.Foundation.JsonCanonical
import Mathlib.Data.List.Infix

/-!
# Commands of the outer broker

The outer executor reaches the container runtime, the ledger and the clocks only
through the queries below; the environment answers them in any way. A command
that was issued has its whole request in the history.
-/
namespace AmazonSimilarSearch.Broker
open Foundation Interaction

/-- What leaves a function of `broker_outer_executor.py` by `raise`. -/
inductive Raised where
  /-- `OuterBrokerExecutionError` -/
  | outerBroker (message : String)
  /-- an exception of another class -/
  | exception
  deriving DecidableEq, Repr

abbrev Environment := List (String × String)

structure Command where
  argv : List String
  stdin : Bytes
  environment : Environment
  timeoutSeconds : ℕ
  maxStdinBytes : ℕ
  maxStdoutBytes : ℕ
  maxStderrBytes : ℕ
  deriving DecidableEq

structure CommandResult where
  exitCode : ℤ
  stdout : Bytes
  stderr : Bytes
  durationMs : ℕ

/-- The fields of `os.stat` that must stay the same while a runtime is measured. -/
structure RuntimeStat where
  device : ℕ
  inode : ℕ
  mode : ℕ
  owner : ℕ
  group : ℕ
  size : ℕ
  modified : ℤ
  deriving DecidableEq

/-- A committed reservation: the dict that `_reserve` returns. -/
structure Reservation where
  fields : Fields

inductive Query where
  /-- one process of the container runtime -/
  | command (command : Command)
  /-- `_measure_runtime(path)` -/
  | measureRuntime (path : String)
  /-- `_base_environment(name)` -/
  | baseEnvironment (name : String)
  /-- `os.urandom(32)` -/
  | urandom
  /-- `_reserve`, which is one transaction on the ledger -/
  | reserve
  /-- `time.time_ns()` and `time.monotonic_ns()` -/
  | clock

def Answer : Query → Type
  | .command _ => Except Raised CommandResult
  | .measureRuntime _ => Except Raised (Sha256 × RuntimeStat)
  | .baseEnvironment _ => Environment
  | .urandom => Bytes
  | .reserve => Except Raised Reservation
  | .clock => ℤ

abbrev Execution := Interaction Query Answer Raised
abbrev Host := Answering Query Answer
abbrev History := List (Exchange Query Answer)

def maxInspectBytes : ℕ := 64000
def maxCommandStderrBytes : ℕ := 64000

/-- `_canonical` -/
def canonical (value : Json) : Except Raised Bytes :=
  required (.outerBroker "outer broker artifact is not canonical JSON")
    ((Json.dumps value).map encodeUtf8)

/-- `part in text` -/
def contains (part text : String) : Bool := decide (part.toList <:+: text.toList)

theorem contains_casefold_of_ascii {part text : String}
    (h : text.toList.all fun c => c.toNat < 128) :
    contains part (casefold text) = decide (part.toList <:+: text.toList.map Char.toLower) := by
  rw [contains, casefold_of_ascii h, String.toList_ofList]

def forbiddenArguments : List String :=
  ["--mount", "--volume", "-v", "--privileged", "--network=host"]

def validArgument (value : String) : Bool :=
  value ≠ "" && value.toList.all (fun c => c ≠ '\x00' && c ≠ '\r' && c ≠ '\n') &&
    !contains "docker.sock" value && !contains "podman.sock" value &&
    !forbiddenArguments.contains value

/-- What `_run` asks of a command line before it is started. -/
def validArgv (argv : List String) : Bool :=
  match argv with
  | [] => false
  | executable :: _ => executable.toList.head? = some '/' && argv.all validArgument

/-- `_real_run`, or the runner that stands in its place -/
def issue (command : Command) : Execution CommandResult :=
  .ask (.command command) Interaction.ofExcept

/-- `_measure_runtime` -/
def measureRuntime (path : String) : Execution (Sha256 × RuntimeStat) :=
  .ask (.measureRuntime path) Interaction.ofExcept

/-- `_base_environment` -/
def baseEnvironment (name : String) : Execution Environment :=
  .ask (.baseEnvironment name) .done

/-- `_run` -/
def run (command : Command) : Execution CommandResult := do
  ensure (validArgv command.argv = true) (Raised.outerBroker "outer broker command argv is invalid")
  ensure (command.stdin.length ≤ command.maxStdinBytes)
    (Raised.outerBroker "outer broker stdin exceeds its byte limit")
  let result ← issue command
  ensure (result.stdout.length ≤ command.maxStdoutBytes ∧
      result.stderr.length ≤ command.maxStderrBytes ∧
      result.durationMs ≤ command.timeoutSeconds * 1000)
    (Raised.outerBroker "outer broker command result exceeded its limit")
  pure result

/-- A command with its result. The source holds the output as base64 with its digest and
decodes it where it is read. -/
structure CommandRecord where
  argv : List String
  result : CommandResult

/-- `_run_record` -/
def runRecord (command : Command) : Execution CommandRecord := do
  let result ← run command
  pure ⟨command.argv, result⟩

end AmazonSimilarSearch.Broker
