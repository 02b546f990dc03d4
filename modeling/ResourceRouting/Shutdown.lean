/-!
# Shutdown

A signal that any of several handles may give, and that releases everyone who was waiting for it.
Without handles left nobody is kept waiting.

Signals go through a channel that keeps the last one only.  A waiter reads from the place where
the channel was when it began to wait; it may find that the signal at this place is overwritten,
and then it knows that it has missed some.
-/

namespace ResourceRouting

/-- Handles and waiters by their names. -/
structure Shutdown (Name : Type) where
  /-- The handles. -/
  handles : List Name
  /-- How many signals the channel has taken.  It takes none while nobody waits. -/
  sent : Nat := 0
  /-- The waiters, each with how many signals the channel had taken when it began to wait. -/
  waiters : List (Name × Nat) := []
  deriving DecidableEq, Repr

namespace Shutdown

variable {Name : Type} [DecidableEq Name]

/-- What is done to handles and waiters. -/
inductive Step (Name : Type)
  /-- Makes a further handle; it replaces one of its name. -/
  | clone (handle new : Name)
  /-- Gives up a handle. -/
  | dropHandle (handle : Name)
  /-- Makes a waiter; it replaces one of its name. -/
  | subscribe (handle waiter : Name)
  /-- Gives up a waiter. -/
  | dropWaiter (waiter : Name)
  /-- Gives the signal. -/
  | trigger (handle : Name)
  /-- Asks whether a waiter may go on; one that may is no waiter any longer. -/
  | poll (waiter : Name)
  deriving DecidableEq, Repr

/-- What a step answers. -/
inductive Answer
  /-- The step was taken. -/
  | ok
  /-- There is no handle of the name. -/
  | noHandle
  /-- There is no waiter of the name. -/
  | noWaiter
  /-- The waiter has to wait. -/
  | pending
  /-- The waiter may go on. -/
  | done
  deriving DecidableEq, Repr

/-- What a waiter finds in the channel. -/
inductive Reception
  /-- The signal at its place. -/
  | signal
  /-- This signal is overwritten, and so many have been missed. -/
  | missed (count : Nat)
  /-- There is no signal, and nobody is left to give one. -/
  | closed
  /-- There is no signal yet. -/
  | nothing
  deriving DecidableEq, Repr

/-- The number of signals that the channel keeps. -/
def capacity : Nat := 1

/-- A single handle and no waiters. -/
def start (handle : Name) : Shutdown Name := { handles := [handle] }

/-- Whether a handle is there. -/
def hasHandle (shutdown : Shutdown Name) (handle : Name) : Bool :=
  shutdown.handles.contains handle

/-- The number of waiters, unless no handle is left to count them. -/
def waiterCount? (shutdown : Shutdown Name) : Option Nat :=
  if shutdown.handles.isEmpty then none else some shutdown.waiters.length

/-- Without a handle. -/
def withoutHandle (shutdown : Shutdown Name) (handle : Name) : Shutdown Name :=
  { shutdown with handles := shutdown.handles.filter (· ≠ handle) }

/-- Without a waiter. -/
def withoutWaiter (shutdown : Shutdown Name) (waiter : Name) : Shutdown Name :=
  { shutdown with waiters := shutdown.waiters.filter (·.1 ≠ waiter) }

/-- With a handle. -/
def withHandle (shutdown : Shutdown Name) (handle : Name) : Shutdown Name :=
  if shutdown.hasHandle handle then shutdown
  else { shutdown with handles := shutdown.handles ++ [handle] }

/-- With a waiter that reads what is sent from now on. -/
def withWaiter (shutdown : Shutdown Name) (waiter : Name) : Shutdown Name :=
  let rest := shutdown.withoutWaiter waiter
  { rest with waiters := rest.waiters ++ [(waiter, shutdown.sent)] }

/-- With one more signal in the channel, if somebody waits. -/
def signalled (shutdown : Shutdown Name) : Shutdown Name :=
  if shutdown.waiters.isEmpty then shutdown else { shutdown with sent := shutdown.sent + 1 }

/-- What a waiter finds whose place is behind the first `seen` signals. -/
def receive (shutdown : Shutdown Name) (seen : Nat) : Reception :=
  if seen = shutdown.sent then
    if shutdown.handles.isEmpty then .closed else .nothing
  else if seen + capacity < shutdown.sent then
    .missed (shutdown.sent - capacity - seen)
  else
    .signal

/-- Takes a step. -/
def step (shutdown : Shutdown Name) : Step Name → Answer × Shutdown Name
  | .clone handle new =>
      if shutdown.hasHandle handle then (.ok, shutdown.withHandle new) else (.noHandle, shutdown)
  | .dropHandle handle => (.ok, shutdown.withoutHandle handle)
  | .subscribe handle waiter =>
      if shutdown.hasHandle handle then (.ok, shutdown.withWaiter waiter)
      else (.noHandle, shutdown)
  | .dropWaiter waiter => (.ok, shutdown.withoutWaiter waiter)
  | .trigger handle =>
      if shutdown.hasHandle handle then (.ok, shutdown.signalled) else (.noHandle, shutdown)
  | .poll waiter =>
      match shutdown.waiters.lookup waiter with
      | none => (.noWaiter, shutdown)
      | some seen =>
          match shutdown.receive seen with
          | .nothing => (.pending, shutdown)
          | .signal | .missed _ | .closed => (.done, shutdown.withoutWaiter waiter)

/-- What is left after steps in order. -/
def after (shutdown : Shutdown Name) (steps : List (Step Name)) : Shutdown Name :=
  steps.foldl (fun current next => (current.step next).2) shutdown

end Shutdown
end ResourceRouting
