import Intercept.Proofs.Session.HookOrder
import Intercept.Proofs.Session.Step

/-!
# Rosters

The roster of a session is what of it bears on packet hooks: its key, the table, whether the session
is alive, the number of the next hook, and of each context its module, whether it is sealed, and
what was registered through it. Module code acts on a roster in two ways only. A hook is entered
through an open seat (`roster?_hook`), and a hook is struck out (`roster?_unhook`); everything else
that module code can do leaves every roster alone.
-/

namespace Intercept

variable {σ : Type}

/-- What of a context bears on packet hooks. -/
structure Seat where
  module : String
  isInitialized : Bool := false
  hooks : List Nat := []

/-- What of a session bears on packet hooks. -/
structure Roster (σ : Type) where
  key : SessionKey
  table : HookTable (Packet → Program σ) := {}
  isAlive : Bool := true
  nextHook : Nat := 0
  seats : List Seat := []

/-- The seat of a context. -/
def Context.seat (c : Context σ) : Seat := ⟨c.module, c.isInitialized, c.hooks⟩

/-- The roster of a session. -/
def Session.roster (s : Session σ) : Roster σ :=
  ⟨s.key, s.table, s.isAlive, s.nextHook, s.contexts.map Context.seat⟩

/-- The roster of a session, by the number of the session. -/
def Engine.roster? (e : Engine σ) (n : Nat) : Option (Roster σ) := (e.session? n).map Session.roster

namespace Session

/-- A change of a context that its seat does not show is not seen in the roster. -/
lemma roster_updateContext (s : Session σ) (i : Nat) {f : Context σ → Context σ}
    (h : ∀ c, (f c).seat = c.seat) : (s.updateContext i f).roster = s.roster := by
  have hseats : (s.contexts.modify i f).map Context.seat = s.contexts.map Context.seat := by
    rw [map_modify (k := id) h, List.modify_id]
  exact congrArg (Roster.mk s.key s.table s.isAlive s.nextHook) hseats

end Session

namespace Roster

/-- The module in a seat that takes hooks: it is not sealed, and the session is alive. -/
def openSeat? (r : Roster σ) (j : Nat) : Option String :=
  if r.isAlive then r.seats[j]?.bind fun c => if c.isInitialized then none else some c.module
  else none

/-- Enter a hook through a seat. -/
def enter (r : Roster σ) (j : Nat) (label : HookLabel) (handler : Packet → Program σ) : Roster σ :=
  { r with
    table := r.table.insert ⟨r.nextHook, label, handler⟩
    nextHook := r.nextHook + 1
    seats := r.seats.modify j fun c => { c with hooks := c.hooks ++ [r.nextHook] } }

/-- Strike out a hook. -/
def strike (r : Roster σ) (id : Nat) : Roster σ := { r with table := r.table.remove id }

end Roster

/-- Nothing happens when a hook is removed that is not there. -/
lemma HookTable.remove_of_not_contains {α : Type} {t : HookTable α} {id : Nat}
    (h : t.contains id = false) : t.remove id = t := by
  have hne : ∀ g ∈ t.hooks, g.id ≠ id := by
    intro g hg heq
    rw [contains, List.any_eq_false] at h
    exact h g hg (decide_eq_true heq)
  rw [remove, List.filter_eq_self.2 fun g hg => decide_eq_true (hne g hg)]

namespace Engine

/-! ### Changes of sessions -/

/-- A roster after some session was changed. -/
lemma roster?_updateSession (e : Engine σ) (m n : Nat) {f : Session σ → Session σ}
    {g : Roster σ → Roster σ} (h : ∀ s, (f s).roster = g s.roster) :
    (e.updateSession m f).roster? n = if m = n then (e.roster? n).map g else e.roster? n := by
  rw [roster?, session?_updateSession, roster?]
  split
  · rw [Option.map_map, Option.map_map]
    exact congrArg (Option.map · _) (funext h)
  · rfl

/-- A roster after some session was changed in a way that rosters do not show. -/
lemma roster?_updateSession_self (e : Engine σ) (m n : Nat) {f : Session σ → Session σ}
    (h : ∀ s, (f s).roster = s.roster) : (e.updateSession m f).roster? n = e.roster? n := by
  rw [roster?_updateSession e m n (g := id) h, Option.map_id, id, ite_self]

/-- Signals are not seen in a roster. -/
@[simp] lemma roster?_emit (e : Engine σ) (signals : List Signal) (n : Nat) :
    (e.emit signals).roster? n = e.roster? n := rfl

/-- The seat of a context that is there. -/
lemma openSeat?_of_context? {e : Engine σ} {ctx : ContextId} {s : Session σ} {c : Context σ}
    (h : e.context? ctx = some (s, c)) : e.roster? ctx.session = some s.roster ∧
      s.roster.openSeat? ctx.index =
        if s.isAlive = true ∧ c.isInitialized = false then some c.module else none := by
  obtain ⟨hs, hc⟩ := context?_eq_some.1 h
  refine ⟨by rw [roster?, hs, Option.map_some], ?_⟩
  unfold Roster.openSeat? Session.roster
  cases s.isAlive <;> cases hinit : c.isInitialized <;> simp [hc, hinit, Context.seat]

/-- No seat is open for a context that is not there. -/
lemma openSeat?_of_context?_eq_none {e : Engine σ} {ctx : ContextId} {r : Roster σ}
    (h : e.context? ctx = none) (hr : e.roster? ctx.session = some r) :
    r.openSeat? ctx.index = none := by
  unfold context? at h
  unfold roster? at hr
  cases hs : e.session? ctx.session with
  | none => simp [hs] at hr
  | some s =>
    obtain rfl : s.roster = r := by simpa [hs] using hr
    have hc : s.contexts[ctx.index]? = none := by
      cases hc : s.contexts[ctx.index]? with
      | none => rfl
      | some c => simp [hs, hc] at h
    simp [Roster.openSeat?, Session.roster, hc]

/-! ### The steps of module code -/

/-- A hook is registered if its module is not sealed and the session is alive. Otherwise nothing is
registered, whatever is noted. -/
lemma hook_cases (e : Engine σ) (ctx : ContextId) (target : String) (priority : Int32)
    (handler : Packet → Program σ) :
    (∃ s c, e.context? ctx = some (s, c) ∧ c.isInitialized = false ∧ s.isAlive = true ∧
      let label : HookLabel := ⟨target, priority, c.module⟩
      e.hook ctx target priority handler =
        (e.updateSession ctx.session fun s' =>
          { s'.updateContext ctx.index fun c => { c with hooks := c.hooks ++ [s.nextHook] } with
            table := s'.table.insert ⟨s.nextHook, label, handler⟩
            nextHook := s.nextHook + 1 },
          some ⟨ctx.session, s.nextHook, label⟩)) ∨
    ((∀ r, e.roster? ctx.session = some r → r.openSeat? ctx.index = none) ∧
      ∃ signals, e.hook ctx target priority handler = (e.emit signals, none)) := by
  unfold hook
  cases h : e.context? ctx with
  | none =>
    exact Or.inr ⟨fun r hr => openSeat?_of_context?_eq_none h hr, [], by simp [emit]⟩
  | some sc =>
    obtain ⟨s, c⟩ := sc
    obtain ⟨hr, hopen⟩ := openSeat?_of_context? h
    simp only [hr, Option.some.injEq, forall_eq', hopen]
    cases hinit : c.isInitialized with
    | true => exact Or.inr ⟨by simp, _, rfl⟩
    | false =>
      cases halive : s.isAlive with
      | false => exact Or.inr ⟨by simp, _, rfl⟩
      | true => exact Or.inl ⟨s, c, rfl, hinit, halive, rfl⟩

/-- A hook is registered exactly through an open seat. The answer is its number. -/
lemma hook_answer (e : Engine σ) (ctx : ContextId) (target : String) (priority : Int32)
    (handler : Packet → Program σ) :
    (e.hook ctx target priority handler).2 = (e.roster? ctx.session).bind fun r =>
      (r.openSeat? ctx.index).map fun module =>
        ⟨ctx.session, r.nextHook, ⟨target, priority, module⟩⟩ := by
  rcases e.hook_cases ctx target priority handler with
    ⟨s, c, hctx, hinit, halive, heq⟩ | ⟨hclosed, signals, heq⟩
  · obtain ⟨hr, hopen⟩ := openSeat?_of_context? hctx
    rw [heq, hr, Option.bind_some, hopen, if_pos ⟨halive, hinit⟩]
    rfl
  · rw [heq]
    cases hr : e.roster? ctx.session with
    | none => rfl
    | some r => rw [Option.bind_some, hclosed r hr, Option.map_none]

/-- Registering a hook enters it through its seat, if that is open, and does nothing else. -/
lemma roster?_hook (e : Engine σ) (ctx : ContextId) (target : String) (priority : Int32)
    (handler : Packet → Program σ) {n : Nat} {r : Roster σ} (hr : e.roster? n = some r) :
    (e.hook ctx target priority handler).1.roster? n = some
      (match if ctx.session = n then r.openSeat? ctx.index else none with
      | some module => r.enter ctx.index ⟨target, priority, module⟩ handler
      | none => r) := by
  rcases e.hook_cases ctx target priority handler with
    ⟨s, c, hctx, hinit, halive, heq⟩ | ⟨hclosed, signals, heq⟩
  · obtain ⟨hs, hopen⟩ := openSeat?_of_context? hctx
    rw [heq, roster?_updateSession e ctx.session n (g := fun r' => { r' with
      table := r'.table.insert ⟨s.nextHook, ⟨target, priority, c.module⟩, handler⟩
      nextHook := s.nextHook + 1
      seats := r'.seats.modify ctx.index fun c => { c with hooks := c.hooks ++ [s.nextHook] } })]
    · by_cases hn : ctx.session = n
      · subst hn
        obtain rfl : s.roster = r := Option.some.inj (hs.symm.trans hr)
        rw [if_pos rfl, if_pos rfl, hopen, if_pos ⟨halive, hinit⟩, hr]
        rfl
      · rw [if_neg hn, if_neg hn, hr]
    · intro s'
      have hseats : (s'.contexts.modify ctx.index fun c =>
            { c with hooks := c.hooks ++ [s.nextHook] }).map Context.seat =
          s'.roster.seats.modify ctx.index fun c =>
            { c with hooks := c.hooks ++ [s.nextHook] } := by
        refine map_modify ?_ s'.contexts ctx.index
        exact fun _ => rfl
      exact congrArg (Roster.mk s'.key _ s'.isAlive _) hseats
  · rw [heq, roster?_emit, hr]
    split_ifs with hn
    · subst hn
      rw [hclosed r hr]
    · rfl

/-- A hook of a live session is removed. Where that does nothing to the roster, something may be
noted. -/
lemma unhook_cases (e : Engine σ) (h : HookHandle) :
    (∃ s, e.session? h.session = some s ∧ s.isAlive = true ∧
      e.unhook h = e.updateSession h.session fun s => { s with table := s.table.remove h.id }) ∨
    ((∀ r, e.roster? h.session = some r → r.isAlive = true → r.strike h.id = r) ∧
      ∃ signals, e.unhook h = e.emit signals) := by
  unfold unhook
  cases hs : e.session? h.session with
  | none => exact Or.inr ⟨by simp [roster?, hs], [], by simp [emit]⟩
  | some s =>
    have hroster : e.roster? h.session = some s.roster := by
      rw [roster?, hs, Option.map_some]
    simp only [hroster, Option.some.injEq, forall_eq']
    cases halive : s.isAlive with
    | false => exact Or.inr ⟨by simp [Session.roster, halive], [], by simp [emit]⟩
    | true =>
      cases hin : s.table.contains h.id with
      | true => exact Or.inl ⟨s, rfl, halive, rfl⟩
      | false =>
        refine Or.inr ⟨fun _ => ?_, _, rfl⟩
        rw [Roster.strike, show s.roster.table = s.table from rfl,
          HookTable.remove_of_not_contains hin]
        rfl

/-- Removing a hook strikes it out of the roster of its session, if that is alive. -/
lemma roster?_unhook (e : Engine σ) (h : HookHandle) {n : Nat} {r : Roster σ}
    (hr : e.roster? n = some r) :
    (e.unhook h).roster? n =
      some (if h.session = n ∧ r.isAlive = true then r.strike h.id else r) := by
  rcases e.unhook_cases h with ⟨s, hs, halive, heq⟩ | ⟨hsame, signals, heq⟩
  · rw [heq, roster?_updateSession e h.session n (g := fun r => r.strike h.id) fun _ => rfl, hr]
    by_cases hn : h.session = n
    · subst hn
      obtain rfl : s.roster = r := by simpa [roster?, hs] using hr
      rw [if_pos rfl, if_pos ⟨rfl, halive⟩, Option.map_some]
    · rw [if_neg hn, if_neg fun hc => hn hc.1]
  · rw [heq, roster?_emit, hr]
    split_ifs with hc
    · obtain ⟨rfl, halive⟩ := hc
      rw [hsame r hr halive]
    · rfl

/-- Registering a path hook is not seen in a roster. -/
@[simp] lemma roster?_pathHook (e : Engine σ) (ctx : ContextId) (path listener : String)
    (wantPayload : Bool) (n : Nat) :
    (e.pathHook ctx path listener wantPayload).1.roster? n = e.roster? n := by
  unfold pathHook
  cases e.context? ctx with
  | none => rfl
  | some sc =>
    obtain ⟨s, c⟩ := sc
    have hstore (store : Store) :
        (e.updateSession ctx.session fun s => { s with store }).roster? n = e.roster? n :=
      roster?_updateSession_self e ctx.session n fun _ => rfl
    simp only
    split
    · exact hstore _
    · refine (roster?_updateSession_self _ ctx.session n fun s => ?_).trans (hstore _)
      exact s.roster_updateContext _ fun _ => rfl

/-- Removing a path hook is not seen in a roster. -/
@[simp] lemma roster?_unhookPath (e : Engine σ) (h : PathHookHandle) (n : Nat) :
    (e.unhookPath h).roster? n = e.roster? n :=
  roster?_updateSession_self e h.session n fun _ => rfl

/-- Setting a shutdown callback is not seen in a roster. -/
@[simp] lemma roster?_onShutdown (e : Engine σ) (ctx : ContextId) (callback : Bool → Program σ)
    (n : Nat) : (e.onShutdown ctx callback).roster? n = e.roster? n := by
  unfold onShutdown
  cases e.context? ctx with
  | none => rfl
  | some sc =>
    have hset : (e.updateSession ctx.session fun s =>
        s.updateContext ctx.index fun c => { c with shutdown := some callback }).roster? n =
          e.roster? n :=
      roster?_updateSession_self e ctx.session n fun s => s.roster_updateContext _ fun _ => rfl
    simp only
    split
    · exact hset
    · exact hset

/-- Taking in a packet is not seen in a roster. -/
@[simp] lemma roster?_ingest (e : Engine σ) (m : Nat) (op : String) (payload : ByteArray)
    (n : Nat) : (e.ingest m op payload).roster? n = e.roster? n := by
  unfold ingest
  cases e.session? m with
  | none => rfl
  | some s => exact roster?_updateSession_self _ m n fun _ => rfl

end Engine

end Intercept
