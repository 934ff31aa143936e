/-!
# The module throttle

Jobs of a module run one at a time. There is one slot; whoever wants it makes a claim, and claims
are granted in the order in which they were made. A job holds the slot from its grant to its end,
whichever way it ends, and somebody who waits for the throttle to be idle claims the slot only to
give it back at once.
-/

namespace Intercept

/-- A claim on the slot. -/
structure Claim where
  id : Nat
  /-- Whether it is made for a job, and not just to wait. -/
  isJob : Bool
deriving DecidableEq, Repr

/-- The state of a throttle. -/
structure Throttle where
  /-- The claim that has been granted and not been given up. -/
  holder : Option Claim := none
  /-- The claims that have not been granted, oldest first. -/
  waiting : List Claim := []
  /-- The jobs that are running. -/
  running : List Nat := []
  /-- The jobs that have ended, oldest first. -/
  ended : List Nat := []
  nextId : Nat := 0
deriving Repr

namespace Throttle

/-- Whether the slot is taken. -/
def isBusy (t : Throttle) : Bool := t.holder.isSome

/-- Make a claim. It is granted at once if the slot is free. -/
def claim (t : Throttle) (isJob : Bool) : Throttle × Nat :=
  let c : Claim := ⟨t.nextId, isJob⟩
  let t := { t with nextId := t.nextId + 1 }
  match t.holder with
  | none => ({ t with holder := some c }, c.id)
  | some _ => ({ t with waiting := t.waiting ++ [c] }, c.id)

/-- Begin the job that has been granted the slot. -/
def start (t : Throttle) : Throttle :=
  match t.holder with
  | some ⟨id, true⟩ => if id ∈ t.running then t else { t with running := id :: t.running }
  | _ => t

/-- Give up the slot, and grant it to the next claim. A job that held it has ended, with or without
a failure. -/
def release (t : Throttle) : Throttle :=
  match t.holder with
  | none => t
  | some c =>
    { t with
      holder := t.waiting.head?
      waiting := t.waiting.tail
      running := t.running.filter (· ≠ c.id)
      ended := if c.isJob then t.ended ++ [c.id] else t.ended }

/-- What a job sees while it runs: how many jobs are running, itself included, and whether the slot
is taken. -/
structure Glimpse where
  running : Nat
  isBusy : Bool
deriving DecidableEq, Repr

/-- Submit a job to a throttle whose slot is free, and let it run to its end. -/
def runJob (t : Throttle) : Glimpse × Throttle :=
  let during := (t.claim true).1.start
  (⟨during.running.length, during.isBusy⟩, during.release)

/-- Wait for the slot to be free, and leave it free. -/
def waitIdle (t : Throttle) : Throttle := (t.claim false).1.release

end Throttle

end Intercept
