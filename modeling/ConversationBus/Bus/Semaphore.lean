/-!
# Semaphores

A number of permits, handed out first come, first served. A permit that is given back while
somebody waits goes to the head of the row at once, and stays put aside until its new owner takes
it up; so permits are free only while nobody waits.
-/

namespace ConversationBus

/-- The name that a waiter goes by. -/
abbrev CallId := Nat

/-- Permits and those who wait for them. -/
structure Semaphore where
  /-- The permits that anybody may take. -/
  free : Nat
  /-- Those who wait, in the order in which they came. -/
  waiting : List CallId
  /-- Those who have a permit put aside for them. -/
  granted : List CallId
  deriving DecidableEq, Repr

namespace Semaphore

/-- A semaphore with so many permits. -/
def ofPermits (permits : Nat) : Semaphore :=
  ⟨permits, [], []⟩

/-- Takes a permit, or joins the row. The flag says whether a permit was taken. -/
def request (semaphore : Semaphore) (who : CallId) : Semaphore × Bool :=
  match semaphore.free with
  | 0 => ({ semaphore with waiting := semaphore.waiting ++ [who] }, false)
  | free + 1 => ({ semaphore with free }, true)

def release (semaphore : Semaphore) : Semaphore :=
  match semaphore.waiting with
  | [] => { semaphore with free := semaphore.free + 1 }
  | who :: waiting => { semaphore with waiting, granted := semaphore.granted ++ [who] }

/-- Takes up a permit that was put aside. -/
def collect? (semaphore : Semaphore) (who : CallId) : Option Semaphore :=
  if who ∈ semaphore.granted then
    some { semaphore with granted := semaphore.granted.erase who }
  else none

/-- Leaves the row, giving back a permit that was put aside. -/
def withdraw (semaphore : Semaphore) (who : CallId) : Semaphore :=
  match semaphore.collect? who with
  | some rest => rest.release
  | none => { semaphore with waiting := semaphore.waiting.erase who }

end Semaphore

end ConversationBus
