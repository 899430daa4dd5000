import VirtualNpu.Inventory.Report
import VirtualNpu.Kubelet.Device
import VirtualNpu.Text.Digits

/-!
What a plugin asks of the machine that it runs on, its own socket and the kubelet behind another,
and why it cannot serve.
-/

namespace VirtualNpu
namespace Plugin

/-! ### Spans of time -/

/-- The digits of `fraction / 10 ^ width` behind a decimal point, without zeros at
their end; nothing for a whole number. -/
def decimals (width fraction : Nat) : String :=
  if fraction = 0 then ""
  else
    let digits := (Text.padded width fraction).toList
    "." ++ String.ofList (digits.reverse.dropWhile (· == '0')).reverse

/-- A quantity of `nanoseconds` in a unit of `size` of them, which is a one with
`width` zeros. -/
def inUnit (nanoseconds size width : Nat) (unit : String) : String :=
  toString (nanoseconds / size) ++ decimals width (nanoseconds % size) ++ unit

def durationText (nanoseconds : Nat) : String :=
  if 1000000000 ≤ nanoseconds then inUnit nanoseconds 1000000000 9 "s"
  else if 1000000 ≤ nanoseconds then inUnit nanoseconds 1000000 6 "ms"
  else if 1000 ≤ nanoseconds then inUnit nanoseconds 1000 3 "µs"
  else inUnit nanoseconds 1 0 "ns"

/-! ### Errors -/

inductive Error where
  | inventory
  | socket (path : String)
  | liveness (path : String)
  | registration (kubelet : String)
  | crashBudgetExhausted (restarts windowNanoseconds : Nat)
  deriving DecidableEq

def Error.message : Error → String
  | .inventory => "Failed to refresh the device inventory"
  | .socket path => "Failed to prepare plugin socket " ++ path
  | .liveness path => "Plugin socket " ++ path ++ " is not answering"
  | .registration kubelet => "Failed to register with kubelet at " ++ kubelet
  | .crashBudgetExhausted restarts window =>
      "Device plugin server crashed " ++ toString restarts ++ " times within "
        ++ durationText window

/-! ### The machine -/

structure Request where
  version : String
  endpoint : String
  resourceName : String
  options : Kubelet.Options
  deriving DecidableEq

/-- A machine with states in `ω`.  Every action says whether it succeeded:
`clear` takes away what stands at a socket path, `listen` opens the server of a
serving period there, `probe` asks the server at a path for its options, and
`register` brings a request to the kubelet.  `listener?` is the period whose server
can be reached at a path. -/
structure Host (ω : Type) where
  clear : (path : String) → ω → Bool × ω
  listen : (path : String) → (period : Nat) → ω → Bool × ω
  probe : (path : String) → ω → Bool × ω
  register : (path : String) → Request → ω → Bool × ω
  listener? : (path : String) → ω → Option Nat

def detached : Host Unit where
  clear _ _ := (true, ())
  listen _ _ _ := (false, ())
  probe _ _ := (false, ())
  register _ _ _ := (false, ())
  listener? _ _ := none

end Plugin
end VirtualNpu
