import VirtualNpu.Daemon.Outcome
import VirtualNpu.Proofs.ConfigRules

/-!
A config that is shown is a device config again: the checks change nothing in a config that went
through them, so what is written for a config reads back as that config.
-/

namespace VirtualNpu
namespace Config

theorem parse_render {text origin : String} {config : DeviceConfig}
    (parsed : DeviceConfig.parse text origin = .ok config) (origin' : String) :
    DeviceConfig.parse config.render origin' = .ok config :=
  (isSettled_of_parse parsed).parse_render origin'

end Config
namespace Daemon

open Config (CapacityTemplate ChipFamily DeviceConfig)

/-- Behind the lines for the families, what is shown for a config is a device config: it has the
same families, and the same text would be shown for it. -/
theorem shown_config_reads_back {path text : String} {config : DeviceConfig}
    (parsed : DeviceConfig.parse text path = .ok config) (origin : String) :
    Outcome.ofConfig path (some text) =
        ⟨0, String.join (config.families.map Outcome.familyLine) ++ config.render ++ "\n", none⟩ ∧
      ∃ again, DeviceConfig.parse config.render origin = .ok again ∧
        again.families = config.families ∧ again.render = config.render := by
  constructor
  · have loaded : DeviceConfig.load path (some text) = .ok config := parsed
    rw [Outcome.ofConfig, loaded]
    rfl
  · exact ⟨config, Config.parse_render parsed origin, rfl, rfl⟩

/-- Names that look like a number and like nothing, a text of two lines, an empty one, and
templates out of order. -/
def oddText : String :=
  "vnpus: [\x7bchipName: 1e3, commonWord: ~, resourceName: \"\\né\", memoryAllocatable: 4, "
    ++ "aiCore: 8, templates: [\x7bname: '', memory: 2\x7d, \x7bname: on, memory: 1\x7d]\x7d]"

def oddFamily (templates : List CapacityTemplate) : ChipFamily where
  chipName := "1e3"
  commonWord := "~"
  resourceName := "\né"
  memoryAllocatable := 4
  memoryCapacity := 0
  aiCore := 8
  maxVirtualDevices := none
  templates

def oddConfig : DeviceConfig := ⟨[oddFamily [⟨"on", 1, 0⟩, ⟨"", 2, 0⟩]]⟩

theorem parse_oddText : DeviceConfig.parse oddText "odd.yaml" = .ok oddConfig := by
  have read : Yaml.readDocument? oddText Config.readFamilies =
      some [oddFamily [⟨"", 2, 0⟩, ⟨"on", 1, 0⟩]] := by decide +kernel
  have sorted : (oddFamily [⟨"", 2, 0⟩, ⟨"on", 1, 0⟩]).sorted =
      oddFamily [⟨"on", 1, 0⟩, ⟨"", 2, 0⟩] := by
    simp [ChipFamily.sorted, oddFamily, List.mergeSort]
  rw [DeviceConfig.parse, read, oddConfig, ← sorted]
  rfl

theorem odd_config_reads_back :
    DeviceConfig.parse oddText "odd.yaml" = .ok oddConfig ∧
      ∃ again, DeviceConfig.parse oddConfig.render "again.yaml" = .ok again ∧
        again.families = oddConfig.families ∧ again.render = oddConfig.render :=
  ⟨parse_oddText, (shown_config_reads_back parse_oddText "again.yaml").2⟩

end Daemon
end VirtualNpu
