/-
# `BootLink.Main` — the command line

The first argument names the command, the others are its own. The command sees the current directory
with everything below it, as it is found at the start, and what it changes is written when it has
ended. Links are not followed. Programs cannot be launched from here: every launch is answered as
that of a program that is not there.
-/
import BootLink.Catalogue.Listing
import BootLink.Command

namespace BootLink.Console

/-- What stands below a directory, given its entries. -/
partial def tree (l : Location) (entries : Array IO.FS.DirEntry) : IO (List (Location × Node)) := do
  let below ← entries.toList.mapM fun entry => do
    let here := l ++ [entry.fileName]
    match (← entry.path.symlinkMetadata).type with
    | .dir => return (here, .directory) :: (← tree here (← entry.path.readDir))
    | .file => return [(here, .file (← IO.FS.readBinFile entry.path))]
    | _ => return []
  return below.flatten

/-- The current directory with everything below it. -/
def currentStore : IO Store := do
  let dir ← IO.currentDir
  let here := (Path.ofText dir.toString).parts
  let above := (List.range here.length).map fun k => (here.take (k + 1), Node.directory)
  return .ofFound (above ++ (← tree here (← dir.readDir))) here

/-- The variables that a configuration looks at. -/
def currentEnvironment : IO Environment := do
  let found ← Config.variableNames.mapM fun name => return (← IO.getEnv name).map (name, ·)
  return found.reduceOption

/-- Writes what has changed. A directory comes before what is in it. -/
def writeChanges (before after : Store) : IO Unit :=
  (before.changes after).forM fun (l, n) =>
    let path := "/" ++ "/".intercalate l
    match n with
    | .directory => IO.FS.createDir path
    | .file content => IO.FS.writeBinFile path content

/-- Answers every launch as that of a program that is not there. -/
def launcher : Launcher := fun _ store l =>
  (.error (.system .missing (.onPath (.ofText (l.command.headD "")))), store)

/-- How a command is called. -/
def usage (tool : String) : String := "Usage: " ++ tool ++ " [OPTIONS] [ARGUMENTS]"

/-- Refuses a call and says what it should be like. -/
def refuse (tool : String) : IO UInt32 := do
  IO.eprintln (usage tool)
  return 2

/-- Runs a command and prints what it has to say. -/
def run (command : Command) (args : List String) : IO UInt32 := do
  let store ← currentStore
  let setting : Command.Setting :=
    { launcher, catalogue := .builtIn, environment := ← currentEnvironment
      here := { anchor := .root, parts := store.here } }
  let (outcome, world) := (command.perform setting args).runIn { store }
  writeChanges store world.store
  match outcome with
  | .ok (.finished status verbose) =>
    IO.print (Command.stdout (← (← IO.getStdout).isTty) world.journal)
    IO.eprint (Command.stderr (← (← IO.getStderr).isTty) verbose "" world.journal)
    return status.toUInt32
  | .ok .help =>
    IO.println (usage command.name)
    return 0
  | .ok .usage => refuse command.name
  | .error failure =>
    IO.eprintln ("Error: " ++ failure.message)
    return 1

end BootLink.Console

/-- The command that the first argument names. -/
def main (args : List String) : IO UInt32 :=
  match args with
  | tool :: rest =>
    match BootLink.Command.ofName? tool with
    | some command => BootLink.Console.run command rest
    | none => BootLink.Console.refuse "rosbuild|rosconv|rosrun"
  | [] => BootLink.Console.refuse "rosbuild|rosconv|rosrun"
