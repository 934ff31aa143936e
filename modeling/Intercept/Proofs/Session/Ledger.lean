import Intercept.Proofs.Register
import Intercept.Proofs.Session.Roster

/-!
# The ledger of a session

Which packet hooks of a session are live is a matter of its history: a hook is live if it was
registered while the init function of its module ran, that function did not fail, and the hook has
not been unhooked since. The ledger tells this history as a register (`Proofs.Register`). It is read
off the code that runs and knows neither the hook table nor which contexts are sealed: in `ledger` a
registration is entered if it is made through the context whose init function runs, and an unhooking
strikes out a number, be there a hook of that number or not. An init function that fails leaves only
what it has struck out (`initLedger`).

That a session does what its ledger says is `Roster.Follows`. It holds of one step of module code
(`Roster.Follows.enter`, `Roster.Follows.strike`), is closed under composition
(`Roster.Follows.trans`), and so holds of every piece of code (`Engine.run_advances`). Of the start
of a session and of whatever happens later it is shown in `Proofs.Session.Live`.
-/

namespace Intercept

variable {σ : Type}

/-- What happens to the packet hooks of a session. -/
abbrev Ledger (σ : Type) := List (RegisterEntry (Hook (Packet → Program σ)))

/-- What a registration enters into the ledger of session `n`: the hook of that module, if it is
made through the context `own` whose init function runs. -/
def registration (n : Nat) (own : Option (Nat × String)) (ctx : ContextId)
    (hook : String → Hook (Packet → Program σ)) : Ledger σ :=
  match own with
  | some (j, module) => if ctx = ⟨n, j⟩ then [.entered (hook module)] else []
  | none => []

namespace Engine

/-- What a piece of code enters into the ledger of session `n`, and what it strikes out. If it is
the init function of a context of that session, `own` is the context's index and module. -/
def ledger (n : Nat) (own : Option (Nat × String)) (e : Engine σ) : Program σ → Ledger σ
  | .finish _ => []
  | .fail _ => []
  | .recall next => e.ledger n own (next e.memory)
  | .remember change next => { e with memory := change e.memory }.ledger n own next
  | .inspect ctx next => e.ledger n own (next (e.view ctx))
  | .hook ctx target priority handler next =>
    let number := ((e.session? n).map (·.nextHook)).getD 0
    let (e, h) := e.hook ctx target priority handler
    registration n own ctx (fun module => ⟨number, ⟨target, priority, module⟩, handler⟩) ++
      e.ledger n own (next h)
  | .unhook h next =>
    (if h.session = n then [.struck h.id] else []) ++ (e.unhook h).ledger n own next
  | .pathHook ctx path listener wantPayload next =>
    let (e, h) := e.pathHook ctx path listener wantPayload
    e.ledger n own (next h)
  | .unhookPath h next => (e.unhookPath h).ledger n own next
  | .onShutdown ctx callback next => (e.onShutdown ctx callback).ledger n own next

/-- The entries of steps that are performed one after the other. -/
def foldLedger {α β : Type} (step : β → α → β) (entries : β → α → Ledger σ) : β → List α → Ledger σ
  | _, [] => []
  | w, x :: xs => entries w x ++ foldLedger step entries (step w x) xs

/-- What the init function of a module for session `m` means for the ledger of session `n`. If it
fails, nothing is entered. -/
def initLedger (n : Nat) (e : Engine σ) (m : Nat) (module : ModuleDescriptor σ) : Ledger σ :=
  let (e, ctx) := e.addContext m module.name
  let own := if m = n then some (ctx.index, module.name) else none
  let entries := e.ledger n own (module.init ctx)
  match (e.run (module.init ctx)).2 with
  | .finished _ => entries
  | .failed _ => Register.withoutEntered entries

/-- What the start of a session means for the ledger of session `n`. -/
def startLedger (n : Nat) (e : Engine σ) (key : SessionKey) (config : StateConfig)
    (registry : ModuleRegistry σ) : Ledger σ :=
  let m := e.sessions.length
  let e : Engine σ := { e with sessions := e.sessions ++ [{ key, store := { config } }] }
  foldLedger (fun (e : Engine σ) module => e.initModule m key module)
    (fun e module => e.initLedger n m module) e registry.modules

end Engine

/-- Something that happens to an engine. -/
inductive EngineStep (σ : Type) where
  /-- Some code of a module runs. -/
  | code (program : Program σ)
  | packet (session : Nat) (op : String) (payload : ByteArray) (exchange : PacketMeta)
  | shutdown (session : Nat) (processEnds : Bool)
  | start (key : SessionKey) (config : StateConfig) (registry : ModuleRegistry σ)
  /-- The receivers of the listeners take events out or go away. -/
  | receive (change : Listeners → Listeners)

namespace Engine

/-- Perform one step. -/
def step (e : Engine σ) : EngineStep σ → Engine σ
  | .code p => (e.run p).1
  | .packet n op payload exchange => (e.dispatch n op payload exchange).1
  | .shutdown n processEnds => e.shutdown n processEnds
  | .start key config registry => (e.startSession key config registry).1
  | .receive change => { e with listeners := change e.listeners }

/-- Perform steps one after the other. -/
def runSteps (e : Engine σ) (steps : List (EngineStep σ)) : Engine σ := steps.foldl step e

/-- What a step means for the ledger of a session that has been started: it may strike hooks out. -/
def stepLedger (n : Nat) (e : Engine σ) : EngineStep σ → Ledger σ
  | .code p => e.ledger n none p
  | .packet m op payload exchange =>
    let e := e.ingest m op payload
    match e.session? m with
    | none => []
    | some s =>
      foldLedger (runHook s.key op exchange)
        (fun w h => w.1.ledger n none (h.handler { op, payload := w.2, exchange }))
        (e, payload) (s.table.chainFor op)
  | .shutdown m processEnds =>
    match e.session? m with
    | none => []
    | some s =>
      foldLedger (shutdownModule m s.key processEnds)
        (fun e i =>
          match (e.context? ⟨m, i⟩).bind (·.2.shutdown) with
          | none => []
          | some callback => (e.takeShutdown m i).ledger n none (callback processEnds))
        e s.modules
  | .start key config registry => e.startLedger n key config registry
  | .receive _ => []

/-- What steps mean for the ledger of a session that has been started. -/
def stepsLedger (n : Nat) (e : Engine σ) (steps : List (EngineStep σ)) : Ledger σ :=
  foldLedger step (stepLedger n) e steps

end Engine

/-! ### Following a ledger -/

namespace Roster

/-- A roster becomes another one as some entries say: the hooks that they strike out are gone, those
that they enter have been added behind, and these have numbers of their own. -/
structure Follows (r : Roster σ) (entries : Ledger σ) (r' : Roster σ) : Prop where
  key : r'.key = r.key
  isAlive : r'.isAlive = r.isAlive
  hooks : r'.table.hooks =
    r.table.hooks.filter (fun h => !Register.strikes h.id entries) ++
      Register.standing Hook.id entries
  le : r.nextHook ≤ r'.nextHook
  numbers : ((Register.entered entries).map Hook.id).Sublist
    (List.range' r.nextHook (r'.nextHook - r.nextHook))

namespace Follows

variable {r r₁ r₂ : Roster σ} {entries entries' : Ledger σ}

/-- Without entries the hooks stay as they are. -/
lemma of_eq (hkey : r₁.key = r.key) (halive : r₁.isAlive = r.isAlive)
    (htable : r₁.table = r.table) (hnext : r₁.nextHook = r.nextHook) : r.Follows [] r₁ where
  key := hkey
  isAlive := halive
  hooks := by
    rw [htable]
    simp [Register.strikes, Register.standing]
  le := hnext.ge
  numbers := List.nil_sublist _

/-- Nothing happens without entries. -/
lemma refl (r : Roster σ) : r.Follows [] r := of_eq rfl rfl rfl rfl

/-- One register after another one. -/
theorem trans (h : r.Follows entries r₁) (h' : r₁.Follows entries' r₂) :
    r.Follows (entries ++ entries') r₂ where
  key := h'.key.trans h.key
  isAlive := h'.isAlive.trans h.isAlive
  hooks := by
    rw [h'.hooks, h.hooks, List.filter_append, List.filter_filter, Register.standing_append,
      List.append_assoc]
    congr 2
    funext g
    rw [Register.strikes_append, Bool.not_or, Bool.and_comm]
  le := h.le.trans h'.le
  numbers := by
    have hrange : List.range' r.nextHook (r₂.nextHook - r.nextHook) =
        List.range' r.nextHook (r₁.nextHook - r.nextHook) ++
          List.range' r₁.nextHook (r₂.nextHook - r₁.nextHook) := by
      have hle := h.le
      have hle' := h'.le
      rw [show r₁.nextHook = r.nextHook + (r₁.nextHook - r.nextHook) by omega]
      rw [Nat.add_sub_cancel_left, List.range'_append_1]
      congr 1
      omega
    rw [Register.entered_append, List.map_append, hrange]
    exact h.numbers.append h'.numbers

/-- Entering a hook. -/
lemma enter (r : Roster σ) (j : Nat) (label : HookLabel) (handler : Packet → Program σ) :
    r.Follows [.entered ⟨r.nextHook, label, handler⟩] (r.enter j label handler) where
  key := rfl
  isAlive := rfl
  hooks := by simp [Roster.enter, HookTable.insert, Register.strikes, Register.standing]
  le := Nat.le_succ _
  numbers := by simp [Roster.enter, Register.entered]

/-- Striking out a hook. -/
lemma strike (r : Roster σ) (id : Nat) : r.Follows [.struck id] (r.strike id) where
  key := rfl
  isAlive := rfl
  hooks := by simp [Roster.strike, HookTable.remove, Register.strikes, Register.standing, eq_comm]
  le := Nat.le_refl _
  numbers := List.nil_sublist _

/-- A hook that was entered has a number from the range that was used up. -/
lemma mem_numbers (h : r.Follows entries r₁) {g : Hook (Packet → Program σ)}
    (hg : g ∈ Register.entered entries) : r.nextHook ≤ g.id ∧ g.id < r₁.nextHook := by
  have hmem := h.numbers.subset (List.mem_map.2 ⟨g, hg, rfl⟩)
  rw [List.mem_range'_1] at hmem
  have hle := h.le
  omega

/-- If no number is used up, nothing is entered. -/
lemma entered_eq_nil (h : r.Follows entries r₁) (hnext : r₁.nextHook = r.nextHook) :
    Register.entered entries = [] := by
  refine List.eq_nil_iff_forall_not_mem.2 fun g hg => ?_
  have hbounds := h.mem_numbers hg
  omega

/-- Numbers of hooks are below the next one. -/
lemma bound (h : r.Follows entries r₁) (hbound : ∀ g ∈ r.table.hooks, g.id < r.nextHook) :
    ∀ g ∈ r₁.table.hooks, g.id < r₁.nextHook := by
  intro g hg
  rw [h.hooks] at hg
  rcases List.mem_append.1 hg with hold | hnew
  · exact (hbound g (List.mem_filter.1 hold).1).trans_le h.le
  · exact (h.mem_numbers ((Register.standing_sublist entries).subset hnew)).2

end Follows

/-! ### Open seats -/

/-- The numbers of the hooks that were registered through a seat. -/
def owned (r : Roster σ) (j : Nat) : List Nat := (r.seats[j]?.map (·.hooks)).getD []

/-- A live session takes hooks through one seat at most: that of the module whose init function
runs. -/
structure OpenOnly (own : Option (Nat × String)) (r : Roster σ) : Prop where
  isAlive : r.isAlive = true
  seats : ∀ j, r.openSeat? j = (own.filter fun o => o.1 = j).map (·.2)

/-- Entering a hook opens and closes no seat. -/
lemma openSeat?_enter (r : Roster σ) (i j : Nat) (label : HookLabel)
    (handler : Packet → Program σ) : (r.enter i label handler).openSeat? j = r.openSeat? j := by
  unfold openSeat? enter
  simp only [List.getElem?_modify]
  cases r.seats[j]? with
  | none => rfl
  | some c => by_cases h : i = j <;> simp [h]

/-- A hook that is entered through an open seat belongs to it. -/
lemma owned_enter {r : Roster σ} {j : Nat} {module : String} (h : r.openSeat? j = some module)
    (label : HookLabel) (handler : Packet → Program σ) :
    (r.enter j label handler).owned j = r.owned j ++ [r.nextHook] := by
  unfold openSeat? at h
  cases hc : r.seats[j]? with
  | none => simp [hc] at h
  | some c => simp [owned, enter, hc]

/-- A roster follows a ledger while some code runs: which seat is open remains the same, what is
entered belongs to it, and without an open seat no number is used up. -/
structure Advances (own : Option (Nat × String)) (r : Roster σ) (entries : Ledger σ)
    (r' : Roster σ) : Prop extends r.Follows entries r' where
  openOnly : r'.OpenOnly own
  owned : ∀ j module, own = some (j, module) →
    r'.owned j = r.owned j ++ (Register.entered entries).map Hook.id
  nextHook : own = none → r'.nextHook = r.nextHook

namespace Advances

variable {own : Option (Nat × String)} {r r₁ r₂ : Roster σ} {entries entries' : Ledger σ}

/-- Nothing happens without entries. -/
lemma refl (hopen : r.OpenOnly own) : r.Advances own [] r where
  toFollows := Follows.refl r
  openOnly := hopen
  owned := by simp [Register.entered]
  nextHook := fun _ => rfl

/-- One register after another one. -/
theorem trans (h : r.Advances own entries r₁) (h' : r₁.Advances own entries' r₂) :
    r.Advances own (entries ++ entries') r₂ where
  toFollows := h.toFollows.trans h'.toFollows
  openOnly := h'.openOnly
  owned j module hown := by
    rw [h'.owned j module hown, h.owned j module hown, Register.entered_append, List.map_append,
      List.append_assoc]
  nextHook hown := (h'.nextHook hown).trans (h.nextHook hown)

/-- Entering a hook through the open seat. -/
lemma enter {j : Nat} {module : String} (hopen : r.OpenOnly (some (j, module)))
    (label : HookLabel) (handler : Packet → Program σ) :
    r.Advances (some (j, module)) [.entered ⟨r.nextHook, label, handler⟩]
      (r.enter j label handler) where
  toFollows := Follows.enter r j label handler
  openOnly := ⟨hopen.isAlive, fun i => (openSeat?_enter r j i label handler).trans (hopen.seats i)⟩
  owned i module' heq := by
    obtain ⟨rfl, rfl⟩ := Prod.mk.inj (Option.some.inj heq)
    have hseat : r.openSeat? j = some module := by simpa [Option.filter] using hopen.seats j
    rw [owned_enter hseat]
    rfl
  nextHook := by simp

/-- Striking out a hook. -/
lemma strike (hopen : r.OpenOnly own) (id : Nat) : r.Advances own [.struck id] (r.strike id) where
  toFollows := Follows.strike r id
  openOnly := ⟨hopen.isAlive, hopen.seats⟩
  owned j module _ := by simp [Roster.strike, Roster.owned, Register.entered]
  nextHook := fun _ => rfl

end Advances

end Roster

namespace Engine

/-- The number of the next hook, as a roster has it. -/
lemma nextHook_of_roster? {e : Engine σ} {n : Nat} {r : Roster σ} (hr : e.roster? n = some r) :
    ((e.session? n).map (·.nextHook)).getD 0 = r.nextHook := by
  obtain ⟨s, hs, rfl⟩ := Option.map_eq_some_iff.1 hr
  rw [hs]
  rfl

/-- Running a piece of code follows its ledger. -/
theorem run_advances {n : Nat} {own : Option (Nat × String)} (p : Program σ) {e : Engine σ}
    {r : Roster σ} (hr : e.roster? n = some r) (hopen : r.OpenOnly own) :
    ∃ r', (e.run p).1.roster? n = some r' ∧ r.Advances own (e.ledger n own p) r' := by
  induction p generalizing e r with
  | finish output => exact ⟨r, hr, .refl hopen⟩
  | fail fault => exact ⟨r, hr, .refl hopen⟩
  | «recall» next ih => exact ih e.memory hr hopen
  | remember change next ih => exact ih hr hopen
  | inspect ctx next ih => exact ih (e.view ctx) hr hopen
  | hook ctx target priority handler next _ ih =>
    have hroster := e.roster?_hook ctx target priority handler hr
    rw [run, ledger]
    by_cases hctx : ctx.session = n ∧ ∃ module, own = some (ctx.index, module)
    · obtain ⟨rfl, module, rfl⟩ := hctx
      have hseat : r.openSeat? ctx.index = some module := by
        simpa [Option.filter] using hopen.seats ctx.index
      rw [if_pos rfl, hseat] at hroster
      have henter := Roster.Advances.enter hopen ⟨target, priority, module⟩ handler
      obtain ⟨r', hr', hadv⟩ := ih (e.hook ctx target priority handler).2 hroster henter.openOnly
      exact ⟨r', hr', by simpa [registration, nextHook_of_roster? hr] using henter.trans hadv⟩
    · -- Another context is sealed, or belongs to another session.
      have hnone : (if ctx.session = n then r.openSeat? ctx.index else none) = none := by
        split_ifs with hn
        · rw [hopen.seats, Option.map_eq_none_iff, Option.filter_eq_none_iff]
          intro o ho hindex
          exact hctx ⟨hn, o.2, by rw [ho, ← of_decide_eq_true hindex]⟩
        · rfl
      rw [hnone] at hroster
      obtain ⟨r', hr', hadv⟩ := ih (e.hook ctx target priority handler).2 hroster hopen
      refine ⟨r', hr', ?_⟩
      cases own with
      | none => exact hadv
      | some o =>
        obtain ⟨j, module⟩ := o
        have hne : ctx ≠ ⟨n, j⟩ := by
          rintro rfl
          exact hctx ⟨rfl, module, rfl⟩
        simpa [registration, hne] using hadv
  | unhook h next ih =>
    have hroster := e.roster?_unhook h hr
    rw [run, ledger]
    by_cases hn : h.session = n
    · rw [if_pos ⟨hn, hopen.isAlive⟩] at hroster
      have hstrike := Roster.Advances.strike hopen h.id
      obtain ⟨r', hr', hadv⟩ := ih hroster hstrike.openOnly
      exact ⟨r', hr', by simpa [hn] using hstrike.trans hadv⟩
    · rw [if_neg fun hc => hn hc.1] at hroster
      obtain ⟨r', hr', hadv⟩ := ih hroster hopen
      exact ⟨r', hr', by simpa [hn] using hadv⟩
  | pathHook ctx path listener wantPayload next ih =>
    exact ih _ ((roster?_pathHook e ctx path listener wantPayload n).trans hr) hopen
  | unhookPath h next ih => exact ih ((roster?_unhookPath e h n).trans hr) hopen
  | onShutdown ctx callback next _ ih =>
    exact ih ((roster?_onShutdown e ctx callback n).trans hr) hopen

end Engine

end Intercept
