import VirtualNpu.Config.Family

/-!
The rules that a device config keeps, and the families of one that keeps them.
-/

namespace VirtualNpu
namespace Config

inductive Fault where
  | noFamilies (origin : String)
  | declaredTwice (chipName : String)
  | missingWords (chipName : String)
  | zeroMemory (chipName : String)
  | zeroTemplate (template chipName : String)
  deriving DecidableEq

def Fault.message : Fault → String
  | .noFamilies origin => origin ++ " declares no chip families"
  | .declaredTwice chip => "chip " ++ chip ++ " is declared twice"
  | .missingWords chip => "chip " ++ chip ++ " needs both commonWord and resourceName"
  | .zeroMemory chip => "chip " ++ chip ++ " has zero memoryAllocatable"
  | .zeroTemplate template chip =>
      "template " ++ template ++ " of chip " ++ chip ++ " has zero memory"

inductive Error where
  | read (path : String)
  | parse (path : String)
  | invalid (fault : Fault)
  | unknownChip (chipName : String)
  deriving DecidableEq

def Error.message : Error → String
  | .read path => "Failed to read device config: " ++ path
  | .parse path => "Failed to parse device config: " ++ path
  | .invalid fault => "Invalid device config: " ++ fault.message
  | .unknownChip chip => "No device config entry matches chip " ++ chip

/-- The first rule that a family breaks by itself: words, then memory, then templates. -/
def ChipFamily.fault? (family : ChipFamily) : Option Fault :=
  if family.commonWord = "" ∨ family.resourceName = "" then
    some (.missingWords family.chipName)
  else if family.memoryAllocatable = 0 then some (.zeroMemory family.chipName)
  else
    (family.templates.find? fun template => template.memory = 0).map fun template =>
      .zeroTemplate template.name family.chipName

/-- The family with its templates in ascending order of memory; equal ones keep
their order. -/
def ChipFamily.sorted (family : ChipFamily) : ChipFamily :=
  { family with
    templates := family.templates.mergeSort fun left right => left.memory ≤ right.memory }

def checkFamilies : List String → List ChipFamily → Except Fault (List ChipFamily)
  | _, [] => .ok []
  | named, family :: rest =>
      if family.chipName ∈ named then .error (.declaredTwice family.chipName)
      else
        match family.fault? with
        | some fault => .error fault
        | none =>
            match checkFamilies (family.chipName :: named) rest with
            | .ok checked => .ok (family.sorted :: checked)
            | .error fault => .error fault

structure DeviceConfig where
  families : List ChipFamily
  deriving DecidableEq

def DeviceConfig.empty : DeviceConfig := ⟨[]⟩

def DeviceConfig.ofFamilies (origin : String) (families : List ChipFamily) :
    Except Error DeviceConfig :=
  match families with
  | [] => .error (.invalid (.noFamilies origin))
  | families =>
      match checkFamilies [] families with
      | .ok checked => .ok ⟨checked⟩
      | .error fault => .error (.invalid fault)

def DeviceConfig.family (config : DeviceConfig) (chipName : String) :
    Except Error ChipFamily :=
  match config.families.find? fun family => family.chipName = chipName with
  | some family => .ok family
  | none => .error (.unknownChip chipName)

end Config
end VirtualNpu
