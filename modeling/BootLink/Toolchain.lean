/-
# `BootLink.Toolchain` — finding and running the external assembler

`probe` asks each candidate for its version, in order, and takes the first that answers with status
zero. A candidate that cannot be launched or does not come back in time is passed over like one that
fails; any other failure ends the search. `assemble` then has the assembly text turned into a flat
binary. Candidates and limits are the caller's; the defaults are here.
-/
import BootLink.World

namespace BootLink.Toolchain

/-- The usual places of the assembler, in the order of trying. -/
def defaultCandidates : List String :=
  ["nasm", "C:/Program Files/NASM/nasm.exe", "C:/Program Files (x86)/NASM/nasm.exe",
    "/usr/bin/nasm", "/usr/local/bin/nasm"]

/-- How long one candidate may take to tell its version. -/
def defaultProbeLimit : Option Seconds := some (.ofNat 10)

/-- How long assembling may take. -/
def defaultAssemblyLimit : Option Seconds := some (.ofNat 120)

/-- The question for a candidate's version. -/
def versionQuery (limit : Option Seconds) (candidate : String) : Launch :=
  { command := [candidate, "--version"], limit := .ofOption limit, quiet := true }

/-- Tries candidates in order; `all` of them are named if none will do. -/
def probeFrom (run : Launcher) (limit : Option Seconds) (all : List String) :
    List String → Task String
  | [] => throw (.toolchainNotFound all)
  | candidate :: rest => do
    match ← Task.attempt (Task.launch run (versionQuery limit candidate)) with
    | .error failure =>
      if failure.isLaunchFailure then
        Task.debug ("Assembler candidate " ++ Text.quoted candidate ++ " unusable: " ++
          failure.message)
        probeFrom run limit all rest
      else throw failure
    | .ok status =>
      if status = 0 then
        Task.info ("  Found NASM at: " ++ candidate)
        return candidate
      else
        Task.debug ("Assembler candidate " ++ Text.quoted candidate ++ " exited with " ++
          toString status.value)
        probeFrom run limit all rest

/-- The first candidate that answers. -/
def probe (run : Launcher) (limit : Option Seconds) (candidates : List String) : Task String :=
  probeFrom run limit candidates candidates

/-- The command line that turns a source file into a flat binary. -/
def assemblyCommand (executable : String) (source output : Path) : List String :=
  [executable, "-f", "bin", "-o", output.text, source.text]

/-- Turns a source file into a flat binary. -/
def assemble (run : Launcher) (limit : Option Seconds) (executable : String)
    (source output : Path) : Task Path := do
  let command := assemblyCommand executable source output
  Task.debug ("Running: " ++ " ".intercalate command)
  match ← Task.attempt (Task.launch run { command, limit := .ofOption limit }) with
  | .error (.timeExpired ..) => throw (.externalAssembly command none true)
  | .error failure => throw failure
  | .ok status =>
    if status = 0 then return output
    else throw (.externalAssembly command (some status.value) false)

end BootLink.Toolchain
