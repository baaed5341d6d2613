/-
# `BootLink.Proofs.Build.Artifacts` — the files that a build writes

All that a build writes is named after its program and differs in the suffix only, so the files are
siblings: they lead to different locations (`suffix_eq_of_locate`), and where stores differ in them
alone, each leads to the same place in both (`locate_output_eq`).
-/
import BootLink.Proofs.Build.Stages
import BootLink.Proofs.Store.Leftovers

namespace BootLink

/-- The suffixes of all that a build may write. -/
def Build.artifactSuffixes : List String := [".asm", ".rombin", "-vm.asm", ".bin", ".img"]

namespace Config

/-- All that a build may write. -/
def artifacts (c : Config) (name : String) : List Path :=
  Build.artifactSuffixes.map (c.output name)

/-- What the backend writes, in this order. -/
def generated (c : Config) (name : String) : Mode → List Path
  | .native => [c.output name ".asm"]
  | .vm => [c.output name ".rombin", c.output name "-vm.asm"]

/-- What a build writes before the image, in this order. -/
def written (c : Config) (name : String) (mode : Mode) : List Path :=
  c.generated name mode ++ [c.output name ".bin"]

end Config

namespace Build

variable {config : Config} {name x y : String} {s t : Store} {l : Location}

theorem isSuffix_of_mem (hx : x ∈ artifactSuffixes) : Path.IsSuffix x := by
  have all : ∀ x ∈ artifactSuffixes, Path.IsSuffix x := by decide
  exact all x hx

theorem isNormal_output (normal : config.outputDir.IsNormal) (name x : String) :
    (config.output name x).IsNormal := normal.child _

/-- The artifacts are siblings. -/
theorem exists_artifacts_eq (config : Config) (name : String) :
    ∃ (anchor : Anchor) (parts : List String) (stem : String),
      (∀ x ∈ artifactSuffixes, config.output name x = ⟨anchor, parts ++ [stem ++ x]⟩) ∧
      config.artifacts name =
        (artifactSuffixes.map (stem ++ ·)).map fun n => ⟨anchor, parts ++ [n]⟩ := by
  obtain ⟨anchor, parts, stem, child⟩ := Path.exists_child_append config.outputDir name
  have each : ∀ x ∈ artifactSuffixes, config.output name x = ⟨anchor, parts ++ [stem ++ x]⟩ :=
    fun x hx => child x (isSuffix_of_mem hx)
  refine ⟨anchor, parts, stem, each, ?_⟩
  rw [Config.artifacts, List.map_map]
  exact List.map_congr_left each

/-- Different artifacts lead to different locations. -/
theorem suffix_eq_of_locate (hx : x ∈ artifactSuffixes) (hy : y ∈ artifactSuffixes)
    (h : s.locate (config.output name x) = .ok l) (h' : s.locate (config.output name y) = .ok l) :
    x = y :=
  Store.suffix_eq_of_locate_child (isSuffix_of_mem hx) (isSuffix_of_mem hy) h h'

/-- Whatever is left of them, artifacts lead to the same place. -/
theorem locate_output_eq (h : Store.AgreeBut (config.artifacts name) s t)
    (hx : x ∈ artifactSuffixes) :
    s.locate (config.output name x) = t.locate (config.output name x) := by
  obtain ⟨anchor, parts, stem, each, all⟩ := exists_artifacts_eq config name
  rw [all] at h
  rw [each x hx]
  refine h.locate_sibling_eq (fun n hn => ?_) (List.mem_map_of_mem hx)
  obtain ⟨y, hy, rfl⟩ := List.mem_map.1 hn
  exact ((isSuffix_of_mem hy).isName stem).2

end Build

end BootLink
