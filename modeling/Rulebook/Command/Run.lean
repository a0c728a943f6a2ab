import Rulebook.Command.Check
import Rulebook.Command.Types

/-!
# Running a command line

`Command.run` reads the words of a command line and carries out the command that they ask for.
-/

namespace Rulebook

namespace Command

/-- The number of the exit without a command. -/
def Stop.code : Stop → Nat
  | help => 0
  | misused => 2

variable {m : Type → Type} [Monad m] (read : String → m (Except ReadError String))

/-- Carries out a request. -/
def Request.run (terminal : Bool) : Request → m Outcome
  | .check request => Command.check read .inOrder terminal request
  | .types format => return { exit := .passed, output := Command.types .builtin format }

/-- Carries out what the words of a command line ask for, if they ask for a command. -/
def run (terminal : Bool) (words : List String) : m (Except Stop Outcome) :=
  match Request.ofWords words with
  | .error stop => return .error stop
  | .ok request => do return .ok (← request.run read terminal)

end Command

end Rulebook
