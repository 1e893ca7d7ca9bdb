import ApiTools.Command.Generate
import ApiTools.Command.Inspect
import ApiTools.Command.Validate

set_option autoImplicit false

/-!
# Running the program

The program reads its command line, opens the console, does what is asked for, and gives the exit
code.
-/

namespace ApiTools.Command

def perform (e : Equipment) (c : Console) : Task → Run Unit
  | .generate r => generate e c r
  | .batch r => batch e c r
  | .validate source => validate e c source
  | .inspect r => inspect e c r

def View.console (v : View) : Action Console :=
  Console.start v.format v.noColour v.quiet v.verbose

/-- Answers a request, and gives the exit code. -/
def Request.answer (e : Equipment) (r : Request) : Action Nat := do
  let c ← r.view.console
  finish c (perform e c r.task)

/-- Runs the program on the words of a command line, and gives the exit code. -/
def run (e : Equipment) (line : List String) : Action Nat :=
  match Request.read line with
  | .ok r => r.answer e
  | .error refusal => refusal.answer

end ApiTools.Command
