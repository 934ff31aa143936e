import Intercept.Proofs.Session.Activity
import Intercept.Proofs.Session.Passage

/-!
# Unhooking while a packet passes

Handlers may remove hooks of the session whose packet they handle: themselves, hooks that have
handled the packet before them, and hooks that are still to come. The calls that they make are read
off the code that runs, each with the engine that it finds (`Engine.removals`,
`Engine.dispatchRemovals`).

A session that has been started takes no more hooks, so its roster can only dwindle (`Dwindles`):
each call finds the roster without the hooks that earlier calls have named (`Dwindles.moment`), and
the last one leaves it without all of them (`Dwindles.eq_without`). The hooks that the packet passes
were settled before the first of these calls.

Main statement: `Engine.dispatch_unhooks_from_next_packet`.
-/

namespace Intercept

variable {σ : Type}

namespace Engine

/-- The calls to remove packet hooks that a piece of code makes, each with the engine that it
finds. -/
def removals (e : Engine σ) : Program σ → List (Engine σ × HookHandle)
  | .finish _ => []
  | .fail _ => []
  | .recall next => e.removals (next e.memory)
  | .remember change next => { e with memory := change e.memory }.removals next
  | .inspect ctx next => e.removals (next (e.view ctx))
  | .hook ctx target priority handler next =>
    let (e, h) := e.hook ctx target priority handler
    e.removals (next h)
  | .unhook h next => (e, h) :: (e.unhook h).removals next
  | .pathHook ctx path listener wantPayload next =>
    let (e, h) := e.pathHook ctx path listener wantPayload
    e.removals (next h)
  | .unhookPath h next => (e.unhookPath h).removals next
  | .onShutdown ctx callback next => (e.onShutdown ctx callback).removals next

/-- The calls to remove hooks that the handler of a hook makes. -/
def hookRemovals (op : String) (exchange : PacketMeta) (w : Engine σ × ByteArray)
    (h : Hook (Packet → Program σ)) : List (Engine σ × HookHandle) :=
  w.1.removals (h.handler { op, payload := w.2, exchange })

/-- The calls to remove hooks that handlers make while a packet is dispatched. -/
def dispatchRemovals (e : Engine σ) (n : Nat) (op : String) (payload : ByteArray)
    (exchange : PacketMeta) : List (Engine σ × HookHandle) :=
  let e := e.ingest n op payload
  match e.session? n with
  | none => []
  | some s => gather (runHook s.key op exchange) (hookRemovals op exchange) (e, payload)
      (s.table.chainFor op)

end Engine

/-- The numbers of the hooks of a session that some calls name, in order. -/
def namedBy (n : Nat) (calls : List (Engine σ × HookHandle)) : List Nat :=
  calls.filterMap fun call => if call.2.session = n then some call.2.id else none

/-! ### Rosters that dwindle -/

/-- A roster without the hooks of some numbers. -/
def Roster.without (r : Roster σ) (numbers : List Nat) : Roster σ :=
  { r with table := ⟨r.table.hooks.filter fun g => g.id ∉ numbers⟩ }

namespace Roster

@[simp] lemma without_nil (r : Roster σ) : r.without [] = r := by
  simp [without]

lemma without_strike (r : Roster σ) (id : Nat) (numbers : List Nat) :
    (r.strike id).without numbers = r.without (id :: numbers) := by
  have hhooks : (r.table.remove id).hooks.filter (fun g => g.id ∉ numbers) =
      r.table.hooks.filter fun g => g.id ∉ id :: numbers := by
    rw [HookTable.remove, List.filter_filter]
    apply List.filter_congr
    intro g _
    rw [← Bool.decide_and]
    apply decide_eq_decide.2
    rw [List.mem_cons, not_or, and_comm]
  rw [without, strike, hhooks]
  rfl

/-- A roster without open seats has none when hooks are gone. -/
lemma OpenOnly.without {r : Roster σ} {own : Option (Nat × String)} (h : r.OpenOnly own)
    (numbers : List Nat) : (r.without numbers).OpenOnly own := ⟨h.isAlive, h.seats⟩

end Roster

/-- Each of some calls finds the roster of session `n` as the calls before it have left it, and
leaves it without the hook that it names, if it names one of that session. -/
inductive Dwindles (n : Nat) : Roster σ → List (Engine σ × HookHandle) → Roster σ → Prop where
  | done (r : Roster σ) : Dwindles n r [] r
  | call {r r' : Roster σ} {e : Engine σ} {h : HookHandle} {calls : List (Engine σ × HookHandle)} :
      e.roster? n = some r → Dwindles n (if h.session = n then r.strike h.id else r) calls r' →
      Dwindles n r ((e, h) :: calls) r'

namespace Dwindles

variable {n : Nat} {r r₁ r₂ : Roster σ} {calls calls' : List (Engine σ × HookHandle)}

/-- Some calls after others. -/
theorem trans (h : Dwindles n r calls r₁) (h' : Dwindles n r₁ calls' r₂) :
    Dwindles n r (calls ++ calls') r₂ := by
  induction h with
  | done r => exact h'
  | call hr _ ih => exact .call hr (ih h')

/-- What is left is the roster without the hooks that the calls name. -/
theorem eq_without (h : Dwindles n r calls r₁) : r₁ = r.without (namedBy n calls) := by
  induction h with
  | done r => exact r.without_nil.symm
  | @call r r' e h calls _ _ ih =>
    rw [ih]
    by_cases hn : h.session = n
    · rw [if_pos hn, Roster.without_strike]
      simp [namedBy, hn]
    · rw [if_neg hn]
      simp [namedBy, hn]

/-- A call finds the roster without the hooks that earlier calls name. -/
theorem moment {before after : List (Engine σ × HookHandle)} {e : Engine σ} {h : HookHandle}
    (hcalls : Dwindles n r (before ++ (e, h) :: after) r₁) :
    e.roster? n = some (r.without (namedBy n before)) := by
  induction before generalizing r with
  | nil =>
    cases hcalls with
    | call hr _ => exact hr.trans (congrArg some r.without_nil.symm)
  | cons call before ih =>
    obtain ⟨e', h'⟩ := call
    cases hcalls with
    | call _ hrest =>
      rw [ih hrest]
      by_cases hn : h'.session = n
      · rw [if_pos hn, Roster.without_strike]
        simp [namedBy, hn]
      · rw [if_neg hn]
        simp [namedBy, hn]

end Dwindles

namespace Engine

/-- While code runs, the roster of a session that takes no hooks dwindles. -/
theorem run_dwindles {n : Nat} (p : Program σ) {e : Engine σ} {r : Roster σ}
    (hr : e.roster? n = some r) (hopen : r.OpenOnly none) :
    ∃ r', (e.run p).1.roster? n = some r' ∧ Dwindles n r (e.removals p) r' := by
  induction p generalizing e r with
  | finish output => exact ⟨r, hr, .done r⟩
  | fail fault => exact ⟨r, hr, .done r⟩
  | «recall» next ih => exact ih e.memory hr hopen
  | remember change next ih => exact ih hr hopen
  | inspect ctx next ih => exact ih (e.view ctx) hr hopen
  | hook ctx target priority handler next _ ih =>
    have hroster := e.roster?_hook ctx target priority handler hr
    have hseat : r.openSeat? ctx.index = none := hopen.seats ctx.index
    rw [hseat, ite_self] at hroster
    exact ih _ hroster hopen
  | unhook h next ih =>
    have hroster := e.roster?_unhook h hr
    have halive : (h.session = n ∧ r.isAlive = true) = (h.session = n) :=
      propext (and_iff_left hopen.isAlive)
    simp only [halive] at hroster
    have hstill : (if h.session = n then r.strike h.id else r).OpenOnly none := by
      split
      · exact ⟨hopen.isAlive, hopen.seats⟩
      · exact hopen
    obtain ⟨r', hr', hdwindles⟩ := ih hroster hstill
    exact ⟨r', hr', .call hr hdwindles⟩
  | pathHook ctx path listener wantPayload next ih =>
    exact ih _ ((roster?_pathHook e ctx path listener wantPayload n).trans hr) hopen
  | unhookPath h next ih => exact ih ((roster?_unhookPath e h n).trans hr) hopen
  | onShutdown ctx callback next _ ih =>
    exact ih ((roster?_onShutdown e ctx callback n).trans hr) hopen

/-- While a packet passes hooks, the roster of a session that takes no hooks dwindles. -/
theorem foldl_runHook_dwindles {n : Nat} (key : SessionKey) (op : String) (exchange : PacketMeta)
    (hooks : List (Hook (Packet → Program σ))) {w : Engine σ × ByteArray} {r : Roster σ}
    (hr : w.1.roster? n = some r) (hopen : r.OpenOnly none) :
    ∃ r', (hooks.foldl (runHook key op exchange) w).1.roster? n = some r' ∧
      Dwindles n r (gather (runHook key op exchange) (hookRemovals op exchange) w hooks) r' := by
  induction hooks generalizing w r with
  | nil => exact ⟨r, hr, .done r⟩
  | cons h hooks ih =>
    obtain ⟨r₁, hr₁, hfirst⟩ := run_dwindles (h.handler { op, payload := w.2, exchange }) hr hopen
    have hopen₁ : r₁.OpenOnly none := hfirst.eq_without ▸ hopen.without _
    obtain ⟨signals, -, hrun⟩ := runHook_fst key op exchange w h
    have hnext : (runHook key op exchange w h).1.roster? n = some r₁ := by
      rw [hrun]
      exact hr₁
    obtain ⟨r₂, hr₂, hrest⟩ := ih hnext hopen₁
    exact ⟨r₂, hr₂, hfirst.trans hrest⟩

/-! ### One call -/

/-- The session that a roster is of. -/
lemma exists_session_of_roster? {e : Engine σ} {n : Nat} {r : Roster σ}
    (hr : e.roster? n = some r) : ∃ s, e.session? n = some s ∧ s.roster = r :=
  Option.map_eq_some_iff.1 hr

/-- Two changes of a session are the same if they are for its present state. -/
lemma updateSession_congr {e : Engine σ} {n : Nat} {f g : Session σ → Session σ}
    (h : ∀ s, e.session? n = some s → f s = g s) : e.updateSession n f = e.updateSession n g := by
  have hmodify : e.sessions.modify n f = e.sessions.modify n g := by
    apply List.ext_getElem?
    intro i
    rw [List.getElem?_modify, List.getElem?_modify]
    by_cases hi : n = i
    · subst hi
      cases hs : e.sessions[n]? with
      | none => rfl
      | some s => simp [h s hs]
    · simp [hi]
  rw [updateSession, updateSession, hmodify]

/-- Removing a hook that is there takes this hook out of the table and does nothing else. -/
lemma unhook_of_mem {e : Engine σ} {h : HookHandle} {n : Nat} {s : Session σ}
    (hn : h.session = n) (hs : e.session? n = some s) (halive : s.isAlive = true)
    (hnodup : (s.table.hooks.map Hook.id).Nodup) {g : Hook (Packet → Program σ)}
    (hg : g ∈ s.table.hooks) (hid : g.id = h.id) :
    ∃ front back, s.table.hooks = front ++ g :: back ∧
      e.unhook h = e.updateSession n fun _ => { s with table := ⟨front ++ back⟩ } := by
  obtain ⟨front, back, hsplit⟩ := List.append_of_mem hg
  have hcontains : s.table.contains h.id = true := by
    rw [HookTable.contains, List.any_eq_true]
    exact ⟨g, hg, decide_eq_true hid⟩
  have hremove : s.table.remove h.id = ⟨front ++ back⟩ := by
    rw [hsplit, List.map_append, List.map_cons, List.nodup_middle, List.nodup_cons] at hnodup
    have hothers : ∀ x ∈ front ++ back, x.id ≠ h.id := by
      intro x hx heq
      apply hnodup.1
      rw [← List.map_append, hid, ← heq]
      exact List.mem_map_of_mem hx
    rw [HookTable.remove, hsplit, List.filter_append, List.filter_cons_of_neg (by simp [hid]),
      ← List.filter_append, List.filter_eq_self.2 fun x hx => decide_eq_true (hothers x hx)]
  have hunhook : e.unhook h =
      e.updateSession n fun t => { t with table := t.table.remove h.id } := by
    unfold unhook
    rw [hn, hs]
    simp only [halive, hcontains, Bool.not_true, Bool.false_eq_true, if_false, if_true]
  refine ⟨front, back, hsplit, ?_⟩
  rw [hunhook, ← hremove]
  exact updateSession_congr fun t ht => by rw [Option.some.inj (ht.symm.trans hs)]

/-- Removing a hook that is not there is reported, and nothing else happens. -/
lemma unhook_of_not_mem {e : Engine σ} {h : HookHandle} {n : Nat} {s : Session σ}
    (hn : h.session = n) (hs : e.session? n = some s) (halive : s.isAlive = true)
    (hgone : ∀ g ∈ s.table.hooks, g.id ≠ h.id) : e.unhook h = e.note (.hookAbsent h.label) := by
  have hcontains : s.table.contains h.id = false := by
    rw [HookTable.contains, List.any_eq_false]
    intro g hg heq
    exact hgone g hg (of_decide_eq_true heq)
  unfold unhook
  rw [hn, hs]
  simp only [halive, hcontains, Bool.not_true, Bool.false_eq_true, if_false]

/-! ### A packet -/

/-- Whatever has happened since a session was started, and whatever the handlers of its hooks do,
unhooking takes effect from the next packet.

* A packet passes the hooks on every operation and then those on its own, as they are in the table
  when the store has taken the packet in, in the order of their chains.
* Afterwards the table holds those hooks that no call has named, in their order, as does the chain
  of each target.
* A call that names a hook of the table for the first time takes this hook out and changes nothing
  else; no notice is given. Every other call changes nothing and gives one notice. -/
theorem dispatch_unhooks_from_next_packet (e : Engine σ) (key : SessionKey) (config : StateConfig)
    (registry : ModuleRegistry σ) (later : List (EngineStep σ)) (op : String)
    (payload : ByteArray) (exchange : PacketMeta) :
    let n := (e.startSession key config registry).2
    let e₁ := (e.startSession key config registry).1.runSteps later
    let e₂ := e₁.ingest n op payload
    let e₃ := (e₁.dispatch n op payload exchange).1
    let calls := e₁.dispatchRemovals n op payload exchange
    ∃ s s', e₂.session? n = some s ∧ e₃.session? n = some s' ∧
      (∃ k, Passage key op exchange
        (s.table.chain wildcard ++ if op = wildcard then [] else s.table.chain op)
        (e₂, payload) (e₁.dispatch n op payload exchange) k) ∧
      (s'.table.hooks = s.table.hooks.filter (fun h => h.id ∉ namedBy n calls) ∧
        ∀ target, s'.table.chain target =
          (s.table.chain target).filter fun h => h.id ∉ namedBy n calls) ∧
      ∀ before after e' h, calls = before ++ (e', h) :: after → h.session = n →
        (∀ g ∈ s.table.hooks, g.id = h.id → h.id ∉ namedBy n before →
          ∃ t front back, e'.session? n = some t ∧ t.table.hooks = front ++ g :: back ∧
            e'.unhook h = e'.updateSession n fun _ => { t with table := ⟨front ++ back⟩ }) ∧
        (h.id ∈ namedBy n before ∨ (∀ g ∈ s.table.hooks, g.id ≠ h.id) →
          e'.unhook h = e'.note (.hookAbsent h.label)) := by
  intro n e₁ e₂ e₃ calls
  obtain ⟨r, hr, hsealed, hkey, horder, hnodup⟩ :=
    table_inPriorityOrder e key config registry later
  have htaken : e₂.roster? n = some r := (e₁.roster?_ingest n op payload n).trans hr
  obtain ⟨s, hs, rfl⟩ := exists_session_of_roster? htaken
  obtain rfl : s.key = key := hkey
  have hdispatch : e₁.dispatch n op payload exchange =
      (s.table.chainFor op).foldl (runHook s.key op exchange) (e₂, payload) := by
    rw [dispatch, hs]
  have hcalls : calls = gather (runHook s.key op exchange) (hookRemovals op exchange)
      (e₂, payload) (s.table.chainFor op) := by
    simp only [calls]
    rw [dispatchRemovals, hs]
  obtain ⟨r', hr', hdwindles⟩ :=
    foldl_runHook_dwindles s.key op exchange (s.table.chainFor op) (w := (e₂, payload)) htaken
      hsealed.openOnly
  rw [← hdispatch] at hr'
  rw [← hcalls] at hdwindles
  obtain ⟨s', hs', hroster⟩ := exists_session_of_roster? hr'
  have hafter : s'.table.hooks = s.table.hooks.filter fun h => h.id ∉ namedBy n calls := by
    have htable : s'.table = r'.table := congrArg Roster.table hroster
    rw [htable, hdwindles.eq_without]
    rfl
  refine ⟨s, s', hs, hs', ?_, ⟨hafter, fun target => ?_⟩, ?_⟩
  · obtain ⟨k, hpassage, -⟩ := passage_foldl s.key op exchange (s.table.chainFor op) (e₂, payload)
    rw [hdispatch]
    exact ⟨k, hpassage⟩
  · rw [HookTable.chain, hafter, List.filter_comm]
    rfl
  · intro before after e' h hsplit hn
    rw [hsplit] at hdwindles
    obtain ⟨t, ht, hleft⟩ := exists_session_of_roster? hdwindles.moment
    have halive : t.isAlive = true := by
      have hsame : t.isAlive = s.isAlive := congrArg Roster.isAlive hleft
      rw [hsame]
      exact hsealed.openOnly.isAlive
    have htable : t.table.hooks = s.table.hooks.filter fun g => g.id ∉ namedBy n before :=
      congrArg (fun r => r.table.hooks) hleft
    constructor
    · intro g hg hid hfirst
      have hmem : g ∈ t.table.hooks := by
        rw [htable]
        exact List.mem_filter.2 ⟨hg, decide_eq_true (hid ▸ hfirst)⟩
      have hids : (t.table.hooks.map Hook.id).Nodup := by
        rw [htable]
        exact (List.filter_sublist.map Hook.id).nodup (horder.nodup_map_id hnodup)
      obtain ⟨front, back, hhooks, hunhook⟩ := unhook_of_mem hn ht halive hids hmem hid
      exact ⟨t, front, back, ht, hhooks, hunhook⟩
    · intro hgone
      apply unhook_of_not_mem hn ht halive
      intro g hg hid
      rw [htable] at hg
      obtain ⟨hmem, hnot⟩ := List.mem_filter.1 hg
      rcases hgone with hnamed | hnever
      · exact of_decide_eq_true hnot (hid ▸ hnamed)
      · exact hnever g hmem hid

/-- The second of three hooks removes the first one, itself, itself again, and the third one, and then
fails. The third one handles the packet nevertheless, and afterwards the table is empty. The hook's
second attempt to remove itself is reported. -/
theorem dispatch_unhooks_own_chain :
    let first : HookHandle := ⟨0, 0, ⟨"*", 0, "m"⟩⟩
    let second : HookHandle := ⟨0, 1, ⟨"S", 5, "m"⟩⟩
    let third : HookHandle := ⟨0, 2, ⟨"S", 0, "m"⟩⟩
    let module : ModuleDescriptor Unit := ⟨"m", fun ctx =>
      .hook ctx "*" 0 (fun p => .finish p.payload) fun _ => .hook ctx "S" 5 (fun _ =>
        .unhook first (.unhook second (.unhook second (.unhook third (.fail .untyped))))) fun _ =>
          .hook ctx "S" 0 (fun _ => .finish "x".toUTF8) fun _ => .finish .empty⟩
    let e : Engine Unit := { memory := () }
    let e₁ := (e.startSession ⟨"GL", 7⟩ {} { modules := [module] }).1
    (e₁.dispatch 0 "S" .empty {}).2 = "x".toUTF8 ∧
      (∃ s', (e₁.dispatch 0 "S" .empty {}).1.session? 0 = some s' ∧ s'.table.hooks = []) ∧
      ∃ before after e', e₁.dispatchRemovals 0 "S" .empty {} = before ++ (e', second) :: after ∧
        before.map Prod.snd = [first, second] ∧
        e'.unhook second = e'.note (.hookAbsent second.label) := by
  intro first second third module e e₁
  obtain ⟨s, s', hs, hs', -, ⟨hafter, -⟩, hcall⟩ := dispatch_unhooks_from_next_packet e ⟨"GL", 7⟩ {}
    { modules := [module] } [] "S" .empty {}
  have hhooks : ((e₁.ingest 0 "S" .empty).session? 0).map (fun s => s.table.hooks.map Hook.id) =
      some [1, 0, 2] := rfl
  have hids : s.table.hooks.map Hook.id = [1, 0, 2] := by
    rw [show (e₁.ingest 0 "S" .empty).session? 0 = some s from hs] at hhooks
    exact Option.some.inj hhooks
  obtain ⟨c₀, c₁, c₂, c₃, hcalls⟩ : ∃ c₀ c₁ c₂ c₃, e₁.dispatchRemovals 0 "S" .empty {} =
      [(c₀, first), (c₁, second), (c₂, second), (c₃, third)] := ⟨_, _, _, _, rfl⟩
  have hnamed : namedBy 0 (e₁.dispatchRemovals 0 "S" .empty {}) = [0, 1, 1, 2] := by
    rw [hcalls]
    rfl
  refine ⟨?_, ⟨s', hs', ?_⟩, [(c₀, first), (c₁, second)], [(c₃, third)], c₂, hcalls, rfl, ?_⟩
  · simp only [e₁, e, module, first, second, third]
    cbv
  · rw [hafter, List.filter_eq_nil_iff]
    intro g hg hout
    have hid : g.id ∈ s.table.hooks.map Hook.id := List.mem_map_of_mem hg
    apply of_decide_eq_true hout
    change g.id ∈ namedBy 0 (e₁.dispatchRemovals 0 "S" .empty {})
    rw [hids] at hid
    rw [hnamed]
    simp only [List.mem_cons, List.not_mem_nil, or_false] at hid ⊢
    omega
  · have hagain : second.id ∈ namedBy 0 [(c₀, first), (c₁, second)] :=
      List.mem_cons_of_mem _ List.mem_cons_self
    exact (hcall [(c₀, first), (c₁, second)] [(c₃, third)] c₂ second hcalls rfl).2 (Or.inl hagain)

end Engine

end Intercept
