import VirtualNpu.Kubelet.Device

/-!
Watches: streams of device lists.  A watch sends the current list at its start
and again after health notifications.  Its queue holds four lists; a task with a
fifth one waits until the reader has made room, and notifications raised in the
meantime count as one.
-/

namespace VirtualNpu
namespace Kubelet

inductive Task where
  | listing
  | sending (list : List Device)
  /-- wait for the stop signal, the reader's departure or a notification -/
  | idle
  | ended
  deriving DecidableEq

/-- A watch: its task, the number of notifications that it has seen, the lists
that wait for the reader, and whether the reader is still there. -/
structure Watch where
  task : Task
  seen : Nat
  queue : List (List Device)
  readerPresent : Bool
  deriving DecidableEq

structure View where
  current : List Device
  raised : Nat
  stopped : Bool

def queueCapacity : Nat := 4

inductive Branch where
  | stop
  | departure
  | notification
  deriving DecidableEq

namespace Watch

def opened (raised : Nat) : Watch := ⟨.listing, raised, [], true⟩

def isLive (watch : Watch) : Bool := watch.task ≠ .ended

def isReady (view : View) (watch : Watch) : Branch → Bool
  | .stop => view.stopped
  | .departure => !watch.readerPresent
  | .notification => watch.seen ≠ view.raised

/-- What an idle task does when it takes a branch.  A notification is marked as seen
before the list is computed. -/
def wake (view : View) (watch : Watch) : Branch → Watch
  | .stop => { watch with task := .ended }
  | .departure => { watch with task := .ended }
  | .notification => { watch with task := .listing, seen := view.raised }

def readyBranch? (view : View) (watch : Watch) : Option Branch :=
  [Branch.stop, .departure, .notification].find? (watch.isReady view)

def onlyBranch? (branch : Branch) (view : View) (watch : Watch) : Option Branch :=
  if watch.isReady view branch then some branch else none

/-- One step of the task, where it can take one.  `choose` picks the branch of an
idle task. -/
def step (choose : View → Watch → Option Branch) (view : View) (watch : Watch) :
    Option Watch :=
  match watch.task with
  | .listing => some { watch with task := .sending view.current }
  | .sending list =>
      if !watch.readerPresent then some { watch with task := .ended }
      else if watch.queue.length < queueCapacity then
        some { watch with task := .idle, queue := watch.queue ++ [list] }
      else none
  | .idle => (choose view watch).map (watch.wake view)
  | .ended => none

def runSteps (view : View) : Nat → Watch → Watch
  | 0, watch => watch
  | fuel + 1, watch =>
      match watch.step readyBranch? view with
      | some after => runSteps view fuel after
      | none => watch

/-- Runs the task until it can do nothing more.  Six steps are always enough: two
for a first list and its sending, three for one more if notifications were not seen,
and the end. -/
def settle (view : View) (watch : Watch) : Watch :=
  watch.runSteps view 6

inductive Received where
  | list (devices : List Device)
  | pending
  | ended
  deriving DecidableEq

def receive (watch : Watch) : Received × Watch :=
  match watch.queue with
  | list :: rest => (.list list, { watch with queue := rest })
  | [] => (if watch.isLive then .pending else .ended, watch)

def depart (watch : Watch) : Watch :=
  { watch with readerPresent := false, queue := [] }

end Watch
end Kubelet
end VirtualNpu
