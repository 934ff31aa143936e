import Intercept.Proofs.Session.Activity
import Intercept.Proofs.Session.Mirror
import Intercept.Proofs.Session.Steady

/-!
# The course of a run

What handlers look at and what modules do is read off the code by recursions of their own, beside the
ones that run it. That they pass through the states of the runs is shown here, once for code and once
for what is made of it.

The course of a piece of code are the moments of its run: the engine, and what is left of the code. One
step leads from each moment to the next (`isChain_course`), and the last one is where the run ends
(`getLast?_course`). The looks and the activities of the code are those of its steps, each of them in
the engine of its moment (`reads_eq_flatMap_course`, `activity_eq_flatMap_course`).

A packet passes hook by hook, and a session is started or shut down module by module. Such steps can
take notes without being disturbed (`foldl_noting`). With notes of what each of them brings, the engine
comes out as without, and the notes are the looks or the activities of the whole (`dispatchNoting_eq`,
`shutdownNoting_eq`, `startNoting_eq`).
-/

namespace Intercept

variable {σ α β γ : Type}

/-! ### Code -/

namespace Engine

variable {e : Engine σ} {p : Program σ}

/-- The moments of a run: the engine and what is left of the code, before each step and at the end. -/
def course (e : Engine σ) : Program σ → List (Engine σ × Program σ)
  | .finish output => [(e, .finish output)]
  | .fail fault => [(e, .fail fault)]
  | .recall next => (e, .recall next) :: e.course (next e.memory)
  | .remember change next =>
    (e, .remember change next) :: { e with memory := change e.memory }.course next
  | .inspect ctx next => (e, .inspect ctx next) :: e.course (next (e.view ctx))
  | .hook ctx target priority handler next =>
    let (e', h) := e.hook ctx target priority handler
    (e, .hook ctx target priority handler next) :: e'.course (next h)
  | .unhook h next => (e, .unhook h next) :: (e.unhook h).course next
  | .pathHook ctx path listener wantPayload next =>
    let (e', h) := e.pathHook ctx path listener wantPayload
    (e, .pathHook ctx path listener wantPayload next) :: e'.course (next h)
  | .unhookPath h next => (e, .unhookPath h next) :: (e.unhookPath h).course next
  | .onShutdown ctx callback next =>
    (e, .onShutdown ctx callback next) :: (e.onShutdown ctx callback).course next

/-- The course of code that has ended is its one moment. -/
lemma course_of_isSome (h : p.outcome?.isSome = true) : e.course p = [(e, p)] := by
  cases p <;> first | rfl | contradiction

/-- Code that has a step left goes on after it. -/
lemma course_of_none (h : p.outcome? = none) :
    e.course p = (e, p) :: (e.advance p).1.course (e.advance p).2 := by
  cases p <;> first | rfl | contradiction

/-- A course begins with the engine and the code. -/
lemma head?_course (e : Engine σ) (p : Program σ) : (e.course p).head? = some (e, p) := by
  cases p <;> rfl

/-- From each moment one step leads to the next. -/
theorem isChain_course (e : Engine σ) (p : Program σ) :
    (e.course p).IsChain fun m m' => m.2.outcome? = none ∧ m' = m.1.advance m.2 := by
  induction e, p using advance_induction with
  | ended e p h =>
    rw [course_of_isSome h]
    exact .singleton _
  | step e p h ih =>
    rw [course_of_none h]
    refine ih.cons fun m hm => ?_
    rw [head?_course] at hm
    exact ⟨h, (Option.some.inj hm).symm⟩

/-- The last moment is where the run ends. -/
theorem getLast?_course (e : Engine σ) (p : Program σ) :
    ∃ rest, (e.course p).getLast? = some ((e.run p).1, rest) ∧ rest.outcome? = some (e.run p).2 := by
  induction e, p using advance_induction with
  | ended e p h =>
    obtain ⟨hengine, houtcome⟩ := run_of_isSome e h
    rw [course_of_isSome h, hengine]
    exact ⟨p, rfl, houtcome⟩
  | step e p h ih =>
    obtain ⟨rest, hlast, houtcome⟩ := ih
    rw [run_advance] at hlast houtcome
    refine ⟨rest, ?_, houtcome⟩
    rw [course_of_none h, List.getLast?_cons, hlast]
    rfl

/-- The look that the next step of some code takes, if it takes one. -/
def looks (e : Engine σ) : Program σ → List (Nat × Option Document)
  | .inspect ctx _ => (e.context? ctx).toList.map fun _ => (ctx.session, (e.view ctx).state)
  | _ => []

/-- The registration of a callback that the next step of some code makes, if it makes one. -/
def registrations (e : Engine σ) : Program σ → List (Activity σ)
  | .onShutdown ctx callback _ => if (e.context? ctx).isSome then [.registers ctx callback] else []
  | _ => []

/-- The looks of some code are those of its steps. -/
theorem reads_eq_flatMap_course (e : Engine σ) (p : Program σ) :
    e.reads p = (e.course p).flatMap fun m => m.1.looks m.2 := by
  induction e, p using advance_induction with
  | ended e p h =>
    rw [course_of_isSome h]
    cases p <;> first | rfl | contradiction
  | step e p h ih =>
    rw [course_of_none h, List.flatMap_cons, ← ih]
    cases p <;> rfl

/-- The activities of some code are those of its steps. -/
theorem activity_eq_flatMap_course (e : Engine σ) (p : Program σ) :
    e.activity p = (e.course p).flatMap fun m => m.1.registrations m.2 := by
  induction e, p using advance_induction with
  | ended e p h =>
    rw [course_of_isSome h]
    cases p <;> first | rfl | contradiction
  | step e p h ih =>
    rw [course_of_none h, List.flatMap_cons, ← ih]
    cases p <;> rfl

end Engine

/-! ### What is made of code -/

/-- A step that also notes what it brings. -/
def noting (step : β → α → β) (brings : β → α → List γ) (w : β × List γ) (x : α) : β × List γ :=
  (step w.1 x, w.2 ++ brings w.1 x)

/-- Steps that take notes do what they do without, and note what they bring. -/
theorem foldl_noting (step : β → α → β) (brings : β → α → List γ) (w : β) (notes : List γ)
    (xs : List α) :
    xs.foldl (noting step brings) (w, notes) =
      (xs.foldl step w, notes ++ gather step brings w xs) := by
  induction xs generalizing w notes with
  | nil => rw [gather, List.append_nil, List.foldl_nil, List.foldl_nil]
  | cons x xs ih =>
    rw [List.foldl_cons, noting, ih, gather, List.append_assoc, List.foldl_cons]

namespace Engine

/-- The looks that the handler of a hook takes while a packet passes it. -/
def hookReads (op : String) (exchange : PacketMeta) (w : Engine σ × ByteArray)
    (h : Hook (Packet → Program σ)) : List (Nat × Option Document) :=
  w.1.reads (h.handler { op, payload := w.2, exchange })

/-- The looks that are taken while a packet passes some hooks are gathered from them. -/
lemma passageReads_eq_gather (key : SessionKey) (op : String) (exchange : PacketMeta)
    (w : Engine σ × ByteArray) (hooks : List (Hook (Packet → Program σ))) :
    passageReads key op exchange w hooks =
      gather (runHook key op exchange) (hookReads op exchange) w hooks := by
  induction hooks generalizing w with
  | nil => rfl
  | cons h hooks ih =>
    rw [passageReads, gather, ih]
    rfl

/-- Dispatch a packet and take notes at each of its hooks. -/
def dispatchNoting (brings : Engine σ × ByteArray → Hook (Packet → Program σ) → List α)
    (e : Engine σ) (n : Nat) (op : String) (payload : ByteArray) (exchange : PacketMeta) :
    (Engine σ × ByteArray) × List α :=
  let e := e.ingest n op payload
  match e.session? n with
  | none => ((e, payload), [])
  | some s =>
    (s.table.chainFor op).foldl (noting (runHook s.key op exchange) brings) ((e, payload), [])

/-- The looks and the activities of a dispatch are noted in a run of it. -/
theorem dispatchNoting_eq (e : Engine σ) (n : Nat) (op : String) (payload : ByteArray)
    (exchange : PacketMeta) :
    e.dispatchNoting (hookReads op exchange) n op payload exchange =
        (e.dispatch n op payload exchange, e.dispatchReads n op payload exchange) ∧
      e.dispatchNoting (hookActivity n op exchange) n op payload exchange =
        (e.dispatch n op payload exchange, e.dispatchActivity n op payload exchange) := by
  unfold dispatchNoting dispatch dispatchReads dispatchActivity
  cases hs : (e.ingest n op payload).session? n with
  | none => simp only [hs, and_self]
  | some s =>
    simp only [hs, foldl_noting, passageReads_eq_gather, List.nil_append, and_self]

/-- Shut a session down and take notes at each turn. -/
def shutdownNoting (brings : Engine σ → Nat → List α) (e : Engine σ) (n : Nat)
    (processEnds : Bool) : Engine σ × List α :=
  match e.session? n with
  | none => (e, [])
  | some s => s.modules.foldl (noting (shutdownModule n s.key processEnds) brings) (e, [])

/-- The activities of a shutdown are noted in a run of it. -/
theorem shutdownNoting_eq (e : Engine σ) (n : Nat) (processEnds : Bool) :
    e.shutdownNoting (turnActivity n processEnds) n processEnds =
      (e.shutdown n processEnds, e.shutdownActivity n processEnds) := by
  unfold shutdownNoting shutdown shutdownActivity
  cases e.session? n with
  | none => rfl
  | some s => simp only [foldl_noting, List.nil_append]

/-- Start a session and take notes at each module. -/
def startNoting (brings : Engine σ → ModuleDescriptor σ → List α) (e : Engine σ)
    (key : SessionKey) (config : StateConfig) (registry : ModuleRegistry σ) :
    (Engine σ × Nat) × List α :=
  let n := e.sessions.length
  let (e, notes) := registry.modules.foldl
    (noting (fun e module => e.initModule n key module) brings) (e.openSession key config, [])
  ((e.completeSession n, n), notes)

/-- The activities of a start are noted in a run of it. -/
theorem startNoting_eq (e : Engine σ) (key : SessionKey) (config : StateConfig)
    (registry : ModuleRegistry σ) :
    e.startNoting (initActivity e.sessions.length) key config registry =
      (e.startSession key config registry, e.startActivity key config registry) := by
  unfold startNoting
  simp only [foldl_noting, List.nil_append]
  rfl

end Engine

end Intercept
