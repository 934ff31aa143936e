import Intercept.Throttle
import Mathlib.Data.List.Basic
import Mathlib.Logic.Relation

/-!
# A throttle that is called from many threads

Any number of threads submit jobs to a throttle, wait for it to be idle, and look whether it is
busy, and jobs come to their end in between, with or without a failure. Whoever calls makes a claim
on the slot, and the claims are the places of the calls in `ThrottleSystem.tasks`. A job that is
submitted inside a runtime is handed over once the slot is granted, and the call is over; otherwise
the job runs in the thread that calls. A job holds the slot until it leaves it, some time after its
last line. `ThrottleSystem.Goes` lists what a call can do next, and `ThrottleSystem.Step` adds that a
new call comes.

Beside the state `ThrottleSystem.log` tells in which order the slot was granted, jobs were begun, and
the slot was left. A call that nothing comes in between does what `Throttle.runJob` and
`Throttle.waitIdle` do (`steps_runJob`, `steps_waitIdle`).
-/

namespace Intercept

/-- What is asked of a throttle. -/
inductive ThrottleCall where
  /-- To run a job, inside a runtime or in the thread that calls. -/
  | submit (inRuntime : Bool)
  | waitIdle
  /-- To say whether the slot is taken, when it is not: it is taken for the moment. Until it has been
  given up again others find it taken, so a look that is not over is one of the calls that keep the
  slot from being free. -/
  | look
deriving DecidableEq

/-- Whether a call submits a job. -/
def ThrottleCall.isJob : ThrottleCall → Bool
  | submit _ => true
  | _ => false

/-- How far a call has come. -/
inductive TurnPhase where
  /-- It has made its claim. -/
  | waiting
  /-- Its job was handed over, and the call has come back. -/
  | handed
  /-- Its job is running. -/
  | running
  /-- Its job has come to an end, or failed, and still holds the slot. -/
  | ended (failed : Bool)
  /-- The slot was given up. -/
  | left
  /-- The call has come back, after the slot was given up. -/
  | returned
deriving DecidableEq

/-- Whether the slot was given up. -/
def TurnPhase.isLeft : TurnPhase → Bool
  | left => true
  | returned => true
  | _ => false

/-- Whether a job was begun and has not left the slot. -/
def TurnPhase.isUnderWay : TurnPhase → Bool
  | running => true
  | ended _ => true
  | _ => false

/-- How many steps a call can do at most. -/
def TurnPhase.remaining : TurnPhase → Nat
  | waiting => 5
  | handed => 4
  | running => 3
  | ended _ => 2
  | left => 1
  | returned => 0

/-- A call on its way. -/
structure ThrottleTask where
  call : ThrottleCall
  phase : TurnPhase := .waiting
deriving DecidableEq

/-- Whether a call has nothing left to do. -/
def ThrottleTask.isDone (t : ThrottleTask) : Bool :=
  t.phase = .returned || t = ⟨.submit true, .left⟩

/-- What is told of the slot. -/
inductive ThrottleEvent where
  | granted (k : Nat)
  | begins (k : Nat)
  | leaves (k : Nat)
deriving DecidableEq

/-- A throttle that is called from many threads. -/
structure ThrottleSystem where
  throttle : Throttle := {}
  /-- All calls that ever came, in the order of their claims. -/
  tasks : List ThrottleTask := []
  log : List ThrottleEvent := []

namespace ThrottleSystem

/-- A call has come further. -/
def goto (w : ThrottleSystem) (k : Nat) (phase : TurnPhase) : ThrottleSystem :=
  { w with tasks := w.tasks.modify k fun t => { t with phase } }

/-- A call comes and makes its claim. -/
def enter (w : ThrottleSystem) (call : ThrottleCall) : ThrottleSystem :=
  let (throttle, k) := w.throttle.claim call.isJob
  { throttle
    tasks := w.tasks ++ [⟨call, .waiting⟩]
    log := w.log ++ if w.throttle.isBusy then [] else [.granted k] }

/-- The job of a call begins. -/
def startJob (w : ThrottleSystem) (k : Nat) : ThrottleSystem :=
  { w.goto k .running with
    throttle := w.throttle.start
    log := w.log ++ [.begins k] }

/-- The slot is given up for a call, and granted to the next claim. -/
def letGo (w : ThrottleSystem) (k : Nat) : ThrottleSystem :=
  { w.goto k .left with
    throttle := w.throttle.release
    log := w.log ++ .leaves k :: w.throttle.waiting.head?.toList.map fun c => .granted c.id }

/-- A call does its next step. -/
inductive Goes (k : Nat) (w : ThrottleSystem) : ThrottleSystem → Prop
  /-- The job is handed over to the runtime, and the call comes back. -/
  | handOver : w.tasks[k]? = some ⟨.submit true, .waiting⟩ → w.throttle.holder = some ⟨k, true⟩ →
      Goes k w (w.goto k .handed)
  /-- The runtime begins a job that was handed over. -/
  | beginHanded : w.tasks[k]? = some ⟨.submit true, .handed⟩ → Goes k w (w.startJob k)
  /-- Without a runtime the job begins in the thread that calls. -/
  | beginInline : w.tasks[k]? = some ⟨.submit false, .waiting⟩ →
      w.throttle.holder = some ⟨k, true⟩ → Goes k w (w.startJob k)
  /-- The job comes to its end, or fails. -/
  | finish {inRuntime : Bool} (failed : Bool) : w.tasks[k]? = some ⟨.submit inRuntime, .running⟩ →
      Goes k w (w.goto k (.ended failed))
  /-- The slot is given up after a job. -/
  | leave {inRuntime failed : Bool} : w.tasks[k]? = some ⟨.submit inRuntime, .ended failed⟩ →
      Goes k w (w.letGo k)
  /-- Whoever does not submit a job gives up the slot at once. -/
  | pass {call : ThrottleCall} : w.tasks[k]? = some ⟨call, .waiting⟩ → call.isJob = false →
      w.throttle.holder = some ⟨k, false⟩ → Goes k w (w.letGo k)
  /-- The call comes back, if it has not done so before. -/
  | comeBack {call : ThrottleCall} : w.tasks[k]? = some ⟨call, .left⟩ → call ≠ .submit true →
      Goes k w (w.goto k .returned)

/-- Anything that can happen. -/
inductive Step (w : ThrottleSystem) : ThrottleSystem → Prop
  /-- A new call comes. Whoever looks takes the slot only where it is free. -/
  | enter (call : ThrottleCall) : (call = .look → w.throttle.isBusy = false) →
      Step w (w.enter call)
  | go {k : Nat} {w' : ThrottleSystem} : Goes k w w' → Step w w'

/-- Any number of steps. -/
abbrev Steps : ThrottleSystem → ThrottleSystem → Prop := Relation.ReflTransGen Step

/-! ### Tasks -/

variable {w w' : ThrottleSystem} {k : Nat}

/-- Whether a call submits a job. -/
def isJob (w : ThrottleSystem) (k : Nat) : Bool := w.tasks[k]?.any fun t => t.call.isJob

/-- The claims of all calls. -/
def claims (w : ThrottleSystem) : List Claim := w.tasks.mapIdx fun k t => ⟨k, t.call.isJob⟩

/-- There are as many claims as calls. -/
lemma length_claims (w : ThrottleSystem) : w.claims.length = w.tasks.length := List.length_mapIdx

/-- The claim of a call has its place for a number. -/
lemma getElem?_claims (w : ThrottleSystem) (k : Nat) :
    w.claims[k]? = w.tasks[k]?.map fun t => ⟨k, t.call.isJob⟩ := List.getElem?_mapIdx

/-- The calls after one has come further. -/
lemma getElem?_goto (w : ThrottleSystem) (k : Nat) (phase : TurnPhase) (j : Nat) :
    (w.goto k phase).tasks[j]? =
      if k = j then w.tasks[j]?.map fun t => { t with phase } else w.tasks[j]? := by
  by_cases hj : k = j
  · rw [if_pos hj, hj]
    exact List.getElem?_modify_eq _ _ _
  · rw [if_neg hj]
    exact List.getElem?_modify_ne _ _ hj

/-- The call that has come further. -/
lemma getElem?_goto_self {t : ThrottleTask} (h : w.tasks[k]? = some t) (phase : TurnPhase) :
    (w.goto k phase).tasks[k]? = some { t with phase } := by
  rw [getElem?_goto, if_pos rfl, h, Option.map_some]

/-- The other calls. -/
lemma getElem?_goto_of_ne {j : Nat} (hne : j ≠ k) (phase : TurnPhase) :
    (w.goto k phase).tasks[j]? = w.tasks[j]? := by
  rw [getElem?_goto, if_neg hne.symm]

/-- No call is lost or added when one comes further. -/
lemma length_goto (w : ThrottleSystem) (k : Nat) (phase : TurnPhase) :
    (w.goto k phase).tasks.length = w.tasks.length := List.length_modify _ _ _

/-- What is called does not change when a call comes further. -/
lemma call_goto (w : ThrottleSystem) (k : Nat) (phase : TurnPhase) (j : Nat) :
    (w.goto k phase).tasks[j]?.map (·.call) = w.tasks[j]?.map (·.call) := by
  rw [getElem?_goto]
  split
  · rw [Option.map_map]
    rfl
  · rfl

/-- How far a call had come does not matter when it gives up the slot. -/
lemma letGo_goto (w : ThrottleSystem) (k : Nat) (phase : TurnPhase) :
    (w.goto k phase).letGo k = w.letGo k := by
  have htasks : ((w.goto k phase).goto k .left).tasks = (w.goto k .left).tasks :=
    List.modify_modify_eq _ _ _ _
  exact congrArg (fun tasks => { w.letGo k with tasks }) htasks

/-- Two states with the same calls have the same claims. -/
lemma claims_congr (h : ∀ j : Nat, w'.tasks[j]?.map (·.call) = w.tasks[j]?.map (·.call)) :
    w'.claims = w.claims := by
  have heach : ∀ v : ThrottleSystem, ∀ j : Nat, v.claims[j]? =
      (v.tasks[j]?.map (·.call)).map fun call => ⟨j, call.isJob⟩ := by
    intro v j
    rw [getElem?_claims, Option.map_map]
    rfl
  apply List.ext_getElem?
  intro j
  rw [heach, heach, h]

/-- Two states with the same calls have the same jobs. -/
lemma isJob_congr (h : ∀ j : Nat, w'.tasks[j]?.map (·.call) = w.tasks[j]?.map (·.call)) :
    w'.isJob = w.isJob := by
  have heach : ∀ v : ThrottleSystem, ∀ j : Nat, v.isJob j =
      (v.tasks[j]?.map (·.call)).any ThrottleCall.isJob := by
    intro v j
    exact Option.any_map.symm
  funext j
  rw [heach, heach, h]

/-- Whether a call that is there submits a job. -/
lemma isJob_of_getElem? {t : ThrottleTask} (h : w.tasks[k]? = some t) :
    w.isJob k = t.call.isJob := by
  rw [isJob, h, Option.any_some]

/-- A call that comes is numbered, and leaves alone what is told of jobs. -/
lemma jobs_enter (w : ThrottleSystem) (call : ThrottleCall) :
    (w.enter call).throttle.nextId = w.throttle.nextId + 1 ∧
      (w.enter call).throttle.running = w.throttle.running ∧
      (w.enter call).throttle.ended = w.throttle.ended := by
  simp only [enter, Throttle.claim]
  split
  · exact ⟨rfl, rfl, rfl⟩
  · exact ⟨rfl, rfl, rfl⟩

/-- A call that comes while the slot is free is granted it. -/
lemma enter_of_free (hfree : w.throttle.holder = none) (call : ThrottleCall) :
    w.enter call =
      { throttle :=
          { w.throttle with
            holder := some ⟨w.throttle.nextId, call.isJob⟩
            nextId := w.throttle.nextId + 1 }
        tasks := w.tasks ++ [⟨call, .waiting⟩]
        log := w.log ++ [.granted w.throttle.nextId] } := by
  simp only [enter, Throttle.claim, Throttle.isBusy, hfree, Option.isSome_none, Bool.false_eq_true,
    if_false]

/-- A call that comes while the slot is taken has to wait. -/
lemma enter_of_busy {c : Claim} (hbusy : w.throttle.holder = some c) (call : ThrottleCall) :
    w.enter call =
      { throttle :=
          { w.throttle with
            waiting := w.throttle.waiting ++ [⟨w.throttle.nextId, call.isJob⟩]
            nextId := w.throttle.nextId + 1 }
        tasks := w.tasks ++ [⟨call, .waiting⟩]
        log := w.log } := by
  simp only [enter, Throttle.claim, Throttle.isBusy, hbusy, Option.isSome_some, if_true,
    List.append_nil]

/-! ### The log -/

/-- The calls that were granted the slot, in this order. -/
def granted (w : ThrottleSystem) : List Nat :=
  w.log.filterMap fun | .granted k => some k | _ => none

/-- The calls whose jobs were begun, in this order. -/
def begun (w : ThrottleSystem) : List Nat :=
  w.log.filterMap fun | .begins k => some k | _ => none

/-- A call that comes may be granted the slot. -/
lemma granted_enter (w : ThrottleSystem) (call : ThrottleCall) :
    (w.enter call).granted = w.granted ++ if w.throttle.isBusy then [] else [w.throttle.nextId] := by
  cases hholder : w.throttle.holder with
  | none =>
    rw [enter_of_free hholder, granted, List.filterMap_append, Throttle.isBusy, hholder]
    rfl
  | some c =>
    rw [enter_of_busy hholder, Throttle.isBusy, hholder]
    exact (List.append_nil _).symm

/-- A call that comes begins no job. -/
lemma begun_enter (w : ThrottleSystem) (call : ThrottleCall) :
    (w.enter call).begun = w.begun := by
  cases hholder : w.throttle.holder with
  | none =>
    rw [enter_of_free hholder, begun, List.filterMap_append]
    exact List.append_nil _
  | some c =>
    rw [enter_of_busy hholder]
    rfl

/-- No call is granted the slot when a job begins. -/
lemma granted_startJob (w : ThrottleSystem) (k : Nat) : (w.startJob k).granted = w.granted := by
  rw [granted, startJob, List.filterMap_append]
  exact List.append_nil _

/-- A job begins after those that were begun before. -/
lemma begun_startJob (w : ThrottleSystem) (k : Nat) : (w.startJob k).begun = w.begun ++ [k] := by
  rw [begun, startJob, List.filterMap_append]
  rfl

/-- When the slot is given up, the next claim is granted it. -/
lemma granted_letGo (w : ThrottleSystem) (k : Nat) :
    (w.letGo k).granted = w.granted ++ w.throttle.waiting.head?.toList.map (·.id) := by
  rw [granted, letGo, List.filterMap_append]
  cases w.throttle.waiting.head? with
  | none => rfl
  | some c => rfl

/-- No job begins when the slot is given up. -/
lemma begun_letGo (w : ThrottleSystem) (k : Nat) : (w.letGo k).begun = w.begun := by
  rw [begun, letGo, List.filterMap_append]
  cases w.throttle.waiting.head? with
  | none => exact List.append_nil _
  | some c => exact List.append_nil _

/-! ### Calls that nothing comes in between -/

/-- The call that has just come. -/
lemma getElem?_enter_self (w : ThrottleSystem) (call : ThrottleCall) :
    (w.enter call).tasks[w.tasks.length]? = some ⟨call, .waiting⟩ := List.getElem?_concat_length

/-- A call that comes to a free slot holds it. -/
lemma holder_enter_self (hfree : w.throttle.holder = none)
    (hnext : w.throttle.nextId = w.tasks.length) (call : ThrottleCall) :
    (w.enter call).throttle.holder = some ⟨w.tasks.length, call.isJob⟩ := by
  rw [enter_of_free hfree, hnext]

/-- A job that nothing comes in between runs to its end, whether it fails or not. -/
lemma steps_runJob (hfree : w.throttle.holder = none)
    (hnext : w.throttle.nextId = w.tasks.length) (failed : Bool) :
    ∃ during after, Steps w during ∧ Steps during after ∧
      w.throttle.runJob =
        (⟨during.throttle.running.length, during.throttle.isBusy⟩, after.throttle) := by
  let k := w.tasks.length
  let during := (w.enter (.submit false)).startJob k
  let after := (during.goto k (.ended failed)).letGo k
  have henter : Step w (w.enter (.submit false)) := Step.enter _ (fun h => by contradiction)
  have htask := w.getElem?_enter_self (.submit false)
  have hrunning : during.tasks[k]? = some ⟨.submit false, .running⟩ :=
    getElem?_goto_self htask .running
  have hended := getElem?_goto_self hrunning (.ended failed)
  refine ⟨during, after, ?_, ?_, rfl⟩
  · apply (Relation.ReflTransGen.single henter).tail
    exact Step.go (Goes.beginInline htask (holder_enter_self hfree hnext _))
  · apply (Relation.ReflTransGen.single (Step.go (Goes.finish failed hrunning))).tail
    exact Step.go (Goes.leave hended)

/-- Whoever waits for a throttle that is idle already leaves it idle. -/
lemma steps_waitIdle (hfree : w.throttle.holder = none)
    (hnext : w.throttle.nextId = w.tasks.length) :
    ∃ after, Steps w after ∧ after.throttle = w.throttle.waitIdle := by
  have htask := w.getElem?_enter_self .waitIdle
  have henter : Step w (w.enter .waitIdle) := Step.enter _ (fun h => by contradiction)
  refine ⟨(w.enter .waitIdle).letGo w.tasks.length, ?_, rfl⟩
  apply (Relation.ReflTransGen.single henter).tail
  exact Step.go (Goes.pass htask rfl (holder_enter_self hfree hnext _))

end ThrottleSystem

end Intercept
