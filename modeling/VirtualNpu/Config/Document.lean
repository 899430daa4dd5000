import VirtualNpu.Config.Validation
import VirtualNpu.Yaml.Decode
import VirtualNpu.Yaml.Written

/-!
The device config as a YAML document: reading it, and writing the families of a
config that was read.
-/

namespace VirtualNpu
namespace Config

open Yaml (Reading)

def readUInt32 (document : Yaml.Document) (node : Yaml.Node) : Reading UInt32 := do
  return UInt32.ofNat (← document.readNat 0xFFFFFFFF node)

def readUInt64 (document : Yaml.Document) (node : Yaml.Node) : Reading UInt64 := do
  return UInt64.ofNat (← document.readNat 0xFFFFFFFFFFFFFFFF node)

def templateFields : List String := ["name", "memory", "aiCore"]

def readTemplate (document : Yaml.Document) (node : Yaml.Node) : Reading CapacityTemplate := do
  match ← document.readFields templateFields node with
  | [name, memory, aiCore] =>
      return { name := ← Yaml.Document.required document.readText name
               memory := ← Yaml.Document.required (readUInt64 document) memory
               aiCore := ← Yaml.Document.orDefault 0 (readUInt32 document) aiCore }
  | _ => failure

def familyFields : List String :=
  ["chipName", "commonWord", "resourceName", "memoryAllocatable", "memoryCapacity",
    "aiCore", "maxVirtualDevices", "templates"]

def readTemplates (document : Yaml.Document) (node : Yaml.Node) :
    Reading (List CapacityTemplate) := do
  (← document.readItems node).mapM (readTemplate document)

def readFamily (document : Yaml.Document) (node : Yaml.Node) : Reading ChipFamily := do
  match ← document.readFields familyFields node with
  | [chipName, commonWord, resourceName, memoryAllocatable, memoryCapacity, aiCore,
      maxVirtualDevices, templates] =>
      let limit := document.readOptional (readUInt32 document)
      return { chipName := ← Yaml.Document.required document.readText chipName
               commonWord := ← Yaml.Document.required document.readText commonWord
               resourceName := ← Yaml.Document.required document.readText resourceName
               memoryAllocatable :=
                 ← Yaml.Document.required (readUInt64 document) memoryAllocatable
               memoryCapacity :=
                 ← Yaml.Document.orDefault 0 (readUInt64 document) memoryCapacity
               aiCore := ← Yaml.Document.required (readUInt32 document) aiCore
               maxVirtualDevices := ← Yaml.Document.orDefault none limit maxVirtualDevices
               templates := ← Yaml.Document.orDefault [] (readTemplates document) templates }
  | _ => failure

def readFamilies (document : Yaml.Document) (node : Yaml.Node) : Reading (List ChipFamily) := do
  match ← document.readFields ["vnpus"] node with
  | [families] =>
      Yaml.Document.orDefault []
        (fun node => do (← document.readItems node).mapM (readFamily document)) families
  | _ => failure

def DeviceConfig.parse (text origin : String) : Except Error DeviceConfig :=
  match Yaml.readDocument? text readFamilies with
  | some families => DeviceConfig.ofFamilies origin families
  | none => .error (.parse origin)

/-- The device config in a file; `text` is `none` if the file cannot be read as text. -/
def DeviceConfig.load (path : String) (text : Option String) : Except Error DeviceConfig :=
  match text with
  | some text => DeviceConfig.parse text path
  | none => .error (.read path)

def textLine (indent : Nat) (name value : String) : List Char :=
  name.toList ++ ':' :: Yaml.Written.value indent value

def numberLine (name : String) (value : Nat) : List Char :=
  name.toList ++ ':' :: ' ' :: (Nat.toDigits 10 value ++ ['\n'])

def itemLines (column : Nat) : List (List Char) → List Char
  | [] => []
  | first :: others =>
      Yaml.Written.spaces column ++ '-' :: ' ' :: (first
        ++ others.flatMap fun line => Yaml.Written.spaces (column + 2) ++ line)

def CapacityTemplate.write (template : CapacityTemplate) : List Char :=
  itemLines 2
    [textLine 6 "name" template.name, numberLine "memory" template.memory.toNat,
      numberLine "aiCore" template.aiCore.toNat]

def templatesLine : List CapacityTemplate → List Char
  | [] => "templates: []\n".toList
  | templates => "templates:\n".toList ++ templates.flatMap CapacityTemplate.write

def ChipFamily.write (family : ChipFamily) : List Char :=
  itemLines 0
    [textLine 4 "chipName" family.chipName, textLine 4 "commonWord" family.commonWord,
      textLine 4 "resourceName" family.resourceName,
      numberLine "memoryAllocatable" family.memoryAllocatable.toNat,
      numberLine "memoryCapacity" family.memoryCapacity.toNat,
      numberLine "aiCore" family.aiCore.toNat,
      match family.maxVirtualDevices with
      | some limit => numberLine "maxVirtualDevices" limit.toNat
      | none => "maxVirtualDevices: null\n".toList,
      templatesLine family.templates]

def DeviceConfig.render (config : DeviceConfig) : String :=
  String.ofList
    (match config.families with
    | [] => "vnpus: []\n".toList
    | families => "vnpus:\n".toList ++ families.flatMap ChipFamily.write)

end Config
end VirtualNpu
