import VirtualNpu.Plugin.Host

/-!
How often the serving loop may be restarted after a crash.  Crashes that follow
one another within the window add up; a longer quiet spell forgets them.
-/

namespace VirtualNpu
namespace Plugin

/-- A restart allowance and the crashes counted against it, in nanoseconds. -/
structure CrashBudget where
  maxRestarts : Nat
  window : Nat
  restarts : Nat
  lastCrash : Option Nat
  deriving DecidableEq

namespace CrashBudget

def new (maxRestarts window : Nat) : CrashBudget := ⟨maxRestarts, window, 0, none⟩

def default : CrashBudget := new 5 3600000000000

/-- The count after a crash at `now`.  A clock that goes backwards counts as standing still. -/
def countAt (budget : CrashBudget) (now : Nat) : Nat :=
  match budget.lastCrash with
  | some last => if now - last ≤ budget.window then budget.restarts + 1 else 1
  | none => 1

/-- Records a crash: the restarts within the current window, or that they exceed
the allowance. -/
def record (budget : CrashBudget) (now : Nat) : Except Error Nat × CrashBudget :=
  let restarts := budget.countAt now
  let after := { budget with restarts, lastCrash := some now }
  if restarts ≤ budget.maxRestarts then (.ok restarts, after)
  else (.error (.crashBudgetExhausted restarts budget.window), after)

def recordAll : CrashBudget → List Nat → List (Except Error Nat)
  | _, [] => []
  | budget, now :: rest => (budget.record now).1 :: recordAll (budget.record now).2 rest

end CrashBudget
end Plugin
end VirtualNpu
