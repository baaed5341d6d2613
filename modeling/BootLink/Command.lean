/-
# `BootLink.Command` — the commands by name

There are three commands: one builds an image, one converts a single source file, and one runs an
image. They differ in their options and in what they do; what each is given and how each ends is
the same.
-/
import BootLink.Command.Build
import BootLink.Command.Convert
import BootLink.Command.Run

namespace BootLink

/-- The commands. -/
inductive Command
  | build
  | convert
  | run
  deriving DecidableEq, Repr

namespace Command

/-- Every command. -/
def all : List Command := [build, convert, run]

/-- The name under which a command is called. -/
def name : Command → String
  | build => "rosbuild"
  | convert => "rosconv"
  | run => "rosrun"

/-- The command of a name. -/
def ofName? (name : String) : Option Command := all.find? (·.name = name)

/-- Does what the arguments of a command ask for. -/
def perform : Command → Setting → List String → Task Outcome
  | build => Build.main
  | convert => Convert.main
  | run => Run.main

end Command

end BootLink
