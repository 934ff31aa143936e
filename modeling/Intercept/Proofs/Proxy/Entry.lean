import Intercept.Proofs.Proxy.Orderly

/-!
# What a held entry guarantees

While a login holds the entry of an identity, the state of that identity is in its hands: it knows
which of the old session's contexts have had their turn, and which modules of the new one have been
initialised (`LoginSound`). Nobody else can spoil this, for other logins have other identities, and
whatever else happens leaves sessions steady.

`Swapping` says so of all entries at once, together with what is true of the log. Its heart are the
fields `current` and `live`: the sessions that have not been shut down for new ones are those that
entries are about, be it in the table or in the hands of the logins that hold them.
-/

namespace Intercept

variable {σ γ : Type}

/-! ### What a login does to its session -/

namespace Engine

/-- A session that has been changed. -/
lemma session?_updateSession_self {e : Engine σ} {n : Nat} {s : Session σ}
    (hs : e.session? n = some s) (f : Session σ → Session σ) :
    (e.updateSession n f).session? n = some (f s) := by
  rw [session?_updateSession, if_pos rfl, hs, Option.map_some]

/-- A session that has been given a context, and the context. -/
lemma session?_addContext {e : Engine σ} {n : Nat} {s : Session σ} (hs : e.session? n = some s)
    (module : String) :
    (e.addContext n module).1.session? n =
        some { s with contexts := s.contexts ++ [{ module }] } ∧
      (e.addContext n module).2 = ⟨n, s.contexts.length⟩ := by
  constructor
  · exact session?_updateSession_self hs _
  · rw [addContext, hs]
    rfl

/-- What has become of a session when an init function has ended: its context is sealed. -/
lemma session?_settle {e : Engine σ} {n i : Nat} {s : Session σ} (hs : e.session? n = some s)
    (key : SessionKey) (m : ModuleDescriptor σ) (outcome : Outcome) :
    ∃ s', (e.settle n key m ⟨n, i⟩ outcome).session? n = some s' ∧ s'.key = s.key ∧
      s'.isInitialized = s.isInitialized ∧ s'.seals = s.seals.modify i fun x => (x.1, true) := by
  have hclosed : (e.closeContext ⟨n, i⟩).session? n =
      some (s.updateContext i fun c => { c with isInitialized := true }) :=
    session?_updateSession_self hs _
  have hseals : (s.updateContext i fun c => { c with isInitialized := true }).seals =
      s.seals.modify i fun x => (x.1, true) := s.seals_updateContext i fun _ => rfl
  cases outcome with
  | finished output =>
    exact ⟨_, session?_updateSession_self hclosed _, rfl, rfl, hseals⟩
  | failed fault =>
    have hnoted : ((e.closeContext ⟨n, i⟩).note
        (.initFault m.name key.display fault.message)).session? n = _ := hclosed
    rw [settle, rollBack]
    cases ((e.closeContext ⟨n, i⟩).note
        (.initFault m.name key.display fault.message)).context? ⟨n, i⟩ with
    | none => exact ⟨_, hnoted, rfl, rfl, hseals⟩
    | some sc =>
      refine ⟨_, session?_updateSession_self hnoted _, rfl, rfl, ?_⟩
      exact (Session.seals_updateContext_self _ i
        (f := fun c => { c with hooks := [], pathHooks := [] }) fun _ => rfl).trans hseals

/-- Other sessions do not notice that an init function has ended. -/
lemma session?_settle_of_ne (e : Engine σ) {m n i : Nat} (hne : n ≠ m) (key : SessionKey)
    (module : ModuleDescriptor σ) (outcome : Outcome) :
    (e.settle n key module ⟨n, i⟩ outcome).session? m = e.session? m := by
  have hclosed : (e.closeContext ⟨n, i⟩).session? m = e.session? m :=
    (session?_updateSession e n m _).trans (if_neg hne)
  cases outcome with
  | finished output => exact ((session?_updateSession _ n m _).trans (if_neg hne)).trans hclosed
  | failed fault =>
    rw [settle, rollBack]
    cases ((e.closeContext ⟨n, i⟩).note
        (.initFault module.name key.display fault.message)).context? ⟨n, i⟩ with
    | none => exact hclosed
    | some sc => exact ((session?_updateSession _ n m _).trans (if_neg hne)).trans hclosed

/-- The contexts of a session that take part in it. -/
lemma loaded_of_session? {e : Engine σ} {n : Nat} {s : Session σ} (hs : e.session? n = some s) :
    e.loaded n = s.modules := by
  rw [loaded, hs]
  rfl

end Engine

/-! ### The log -/

/-- The log of a login tells the truth about turns and ends: when a session has been shut down, all
its modules have had their turn, and no callback of it begins or ends any more; and when the init
function of a module begins for a session, all earlier sessions of the identity have been shut down.
-/
structure Logged (e : Engine σ) (log : List SwapEvent) : Prop where
  ended : ∀ p m : Nat, log[p]? = some (.ended m) → ∃ s, e.session? m = some s ∧
    (∀ i ∈ s.modules, ∃ q < p, log[q]? = some (.turnEnds m i)) ∧
    ∀ q i : Nat, log[q]? = some (.callbackBegins m i) ∨ log[q]? = some (.turnEnds m i) → q < p
  begun : ∀ p n : Nat, log[p]? = some (.initBegins n) → ∃ s, e.session? n = some s ∧
    ∀ m t, m < n → e.session? m = some t → t.key = s.key → ∃ q < p, log[q]? = some (.ended m)

namespace Logged

variable {e e' : Engine σ} {log : List SwapEvent}

/-- What stands in a log, and where, stays there. -/
lemma getElem?_append {x : SwapEvent} {p q : Nat} (hq : q < p) (hp : p ≤ log.length)
    {more : List SwapEvent} (h : log[q]? = some x) : q < p ∧ (log ++ more)[q]? = some x :=
  ⟨hq, (List.getElem?_append_left (Nat.lt_of_lt_of_le hq hp)).trans h⟩

/-- What one more event has to fulfil. -/
def Fits (e : Engine σ) (log : List SwapEvent) : SwapEvent → Prop
  | .callbackBegins m _ => .ended m ∉ log
  | .turnEnds m _ => .ended m ∉ log
  | .ended m => ∃ s, e.session? m = some s ∧ ∀ i ∈ s.modules, .turnEnds m i ∈ log
  | .initBegins n => ∃ s, e.session? n = some s ∧
      ∀ m t, m < n → e.session? m = some t → t.key = s.key → .ended m ∈ log

/-- One more event. -/
theorem concat (h : Logged e log) {event : SwapEvent} (hfits : Fits e log event) :
    Logged e (log ++ [event]) where
  ended p m hp := by
    rcases getElem?_concat hp with ⟨hlt, hold⟩ | ⟨rfl, rfl⟩
    · obtain ⟨s, hs, hturns, hlast⟩ := h.ended p m hold
      refine ⟨s, hs, fun i hi => ?_, fun q i hq => ?_⟩
      · obtain ⟨q, hq, hturn⟩ := hturns i hi
        exact ⟨q, getElem?_append hq (Nat.le_of_lt hlt) hturn⟩
      · have hmem : .ended m ∈ log := List.mem_of_getElem? hold
        rcases hq with hq | hq
        · rcases getElem?_concat hq with ⟨-, hbefore⟩ | ⟨-, rfl⟩
          · exact hlast q i (Or.inl hbefore)
          · exact absurd hmem hfits
        · rcases getElem?_concat hq with ⟨-, hbefore⟩ | ⟨-, rfl⟩
          · exact hlast q i (Or.inr hbefore)
          · exact absurd hmem hfits
    · obtain ⟨s, hs, hturns⟩ := hfits
      refine ⟨s, hs, fun i hi => ?_, fun q i hq => ?_⟩
      · obtain ⟨q, hq⟩ := List.mem_iff_getElem?.1 (hturns i hi)
        exact ⟨q, getElem?_append (List.getElem?_eq_some_iff.1 hq).1 (Nat.le_refl _) hq⟩
      · rcases hq with hq | hq
        · rcases getElem?_concat hq with ⟨hlt, -⟩ | ⟨-, heq⟩
          · exact hlt
          · contradiction
        · rcases getElem?_concat hq with ⟨hlt, -⟩ | ⟨-, heq⟩
          · exact hlt
          · contradiction
  begun p n hp := by
    rcases getElem?_concat hp with ⟨hlt, hold⟩ | ⟨rfl, rfl⟩
    · obtain ⟨s, hs, hearlier⟩ := h.begun p n hold
      refine ⟨s, hs, fun m t hm ht hkey => ?_⟩
      obtain ⟨q, hq, hended⟩ := hearlier m t hm ht hkey
      exact ⟨q, getElem?_append hq (Nat.le_of_lt hlt) hended⟩
    · obtain ⟨s, hs, hearlier⟩ := hfits
      refine ⟨s, hs, fun m t hm ht hkey => ?_⟩
      obtain ⟨q, hq⟩ := List.mem_iff_getElem?.1 (hearlier m t hm ht hkey)
      exact ⟨q, getElem?_append (List.getElem?_eq_some_iff.1 hq).1 (Nat.le_refl _) hq⟩

/-- The log stays true as long as sessions keep their keys, and those that have been shut down their
modules. -/
lemma congr (h : Logged e log)
    (hkeys : ∀ m s, e.session? m = some s → ∃ s', e'.session? m = some s' ∧ s'.key = s.key ∧
      (.ended m ∈ log → s'.modules = s.modules))
    (hback : ∀ m n s s', m < n → e.session? n = some s → e'.session? m = some s' →
      ∃ t, e.session? m = some t ∧ t.key = s'.key) : Logged e' log where
  ended p m hp := by
    obtain ⟨s, hs, hturns, hlast⟩ := h.ended p m hp
    obtain ⟨s', hs', -, hmodules⟩ := hkeys m s hs
    rw [← hmodules (List.mem_of_getElem? hp)] at hturns
    exact ⟨s', hs', hturns, hlast⟩
  begun p n hp := by
    obtain ⟨s, hs, hearlier⟩ := h.begun p n hp
    obtain ⟨s', hs', hkey, -⟩ := hkeys n s hs
    refine ⟨s', hs', fun m t' hm ht' hsame => ?_⟩
    obtain ⟨t, ht, hkey'⟩ := hback m n s t' hm hs ht'
    exact hearlier m t hm ht (hkey'.trans (hsame.trans hkey))

end Logged

namespace SwapSystem

variable {w w' : SwapSystem σ γ}

/-! ### What is known of an entry -/

/-- The session that the entry of an identity is about. -/
def current? (w : SwapSystem σ γ) (key : SessionKey) : Option Nat :=
  match w.logins key with
  | some login => login.phase.session?
  | none => w.proxy.session? key

/-- A session of an identity that may be handed out. -/
def Offers (w : SwapSystem σ γ) (key : SessionKey) (n : Nat) : Prop :=
  ∃ s, w.proxy.engine.session? n = some s ∧ s.key = key ∧ s.Ready w.proxy.registry.modules

/-- A request has been given a session. It may be handed out and is of the identity of the request,
and this identity has a session from then on. -/
def Serves (w : SwapSystem σ γ) (r : Request) (n : Nat) : Prop :=
  ∃ key, r.identity? w.proxy.config w.proxy.filter = some key ∧ w.Offers key n ∧
    w.proxy.session? key ≠ none

/-- A session in which some modules have been initialised and others have not. The init function that
is running has the last context. -/
def Underway (modules todo : List (ModuleDescriptor σ)) (n : Nat)
    (code : Option (ContextId × ModuleDescriptor σ × Program σ)) (s : Session σ) : Prop :=
  s.isInitialized = false ∧ ∃ done, modules = done ++ (code.map (·.2.1)).toList ++ todo ∧
    s.seals = done.map (fun m => (m.name, true)) ++
      (code.map fun x => (x.2.1.name, false)).toList ∧
    ∀ x, code = some x → x.1 = ⟨n, done.length⟩

/-- What is known of an identity while a login holds its entry. -/
def LoginSound (w : SwapSystem σ γ) (key : SessionKey) : LoginPhase σ → Prop
  | .closing none todo code => w.proxy.session? key = none ∧ todo = [] ∧ code = none
  | .closing (some m) todo code => w.proxy.session? key = some m ∧
      ∀ i ∈ w.proxy.engine.loaded m,
        i ∈ todo ∨ (∃ x, code = some (i, x)) ∨ .turnEnds m i ∈ w.log
  | .opening n todo code => ∃ s, w.proxy.engine.session? n = some s ∧ s.key = key ∧
      Underway w.proxy.registry.modules todo n code s
  | .sorted n => w.Offers key n
  | .entered n => w.Offers key n ∧ w.proxy.session? key = some n

/-- What is known of all entries, and of the log. -/
structure Swapping (w : SwapSystem σ γ) : Prop where
  logins : ∀ key k phase, w.logins key = some ⟨k, phase⟩ → w.LoginSound key phase
  table : ∀ key n, w.proxy.session? key = some n → w.Offers key n
  handed : ∀ t ∈ w.tasks, ∀ n, t.phase.session? = some n → w.Serves t.request n
  /-- The session that an entry is about has not been shut down for a new one. -/
  current : ∀ key n, w.current? key = some n → .ended n ∉ w.log
  /-- A session that has not been shut down for a new one is the one its entry is about. -/
  live : ∀ n s, w.proxy.engine.session? n = some s → .ended n ∉ w.log → w.current? s.key = some n
  logged : Logged w.proxy.engine w.log

/-- A session may be handed out as long as it is steady. -/
lemma Offers.steady {key : SessionKey} {n : Nat} (h : w.Offers key n)
    (hregistry : w'.proxy.registry = w.proxy.registry)
    (hsteady : w.proxy.engine.SteadyAt n w'.proxy.engine) : w'.Offers key n := by
  obtain ⟨s, hs, hkey, hready⟩ := h
  obtain ⟨s', hs', hsteady'⟩ := hsteady.session? hs
  rw [← hregistry] at hready
  exact ⟨s', hs', hsteady'.key.trans hkey, hready.steady hsteady'⟩

/-- Who has been given a session keeps it as long as it is steady, and identities keep having
sessions. -/
lemma Serves.steady {r : Request} {n : Nat} (h : w.Serves r n)
    (hsettings : w'.proxy.settings = w.proxy.settings)
    (hserves : ∀ key, w.proxy.session? key ≠ none → w'.proxy.session? key ≠ none)
    (hsteady : ∀ key, w.Offers key n → w.proxy.engine.SteadyAt n w'.proxy.engine) :
    w'.Serves r n := by
  obtain ⟨key, hidentity, hoffers, hsession⟩ := h
  obtain ⟨hconfig, hrest⟩ := Prod.mk.inj hsettings
  obtain ⟨hfilter, hregistry⟩ := Prod.mk.inj hrest
  refine ⟨key, ?_, hoffers.steady hregistry (hsteady key hoffers), hserves key hsession⟩
  rwa [hconfig, hfilter]

/-- What is known of an identity stays true as long as its session is steady. -/
lemma LoginSound.steady {key : SessionKey} {phase : LoginPhase σ} (h : w.LoginSound key phase)
    (hregistry : w'.proxy.registry = w.proxy.registry)
    (htable : w'.proxy.session? key = w.proxy.session? key)
    (hsteady : ∀ m, phase.session? = some m → w.proxy.engine.SteadyAt m w'.proxy.engine)
    (hkept : ∀ x ∈ w.log, x ∈ w'.log) : w'.LoginSound key phase := by
  cases phase with
  | closing old todo code =>
    cases old with
    | none =>
      obtain ⟨hnone, htodo, hcode⟩ := h
      exact ⟨htable.trans hnone, htodo, hcode⟩
    | some m =>
      obtain ⟨hsession, hturns⟩ := h
      refine ⟨htable.trans hsession, fun i hi => ?_⟩
      have hloaded : w'.proxy.engine.loaded m = w.proxy.engine.loaded m := by
        rcases hsteady m rfl with ⟨hnone, hnone'⟩ | ⟨s, s', hs, hs', hsteady'⟩
        · rw [Engine.loaded, Engine.loaded, hnone, hnone']
        · rw [Engine.loaded_of_session? hs, Engine.loaded_of_session? hs', hsteady'.modules]
      rw [hloaded] at hi
      exact (hturns i hi).imp id (Or.imp id (hkept _))
  | opening n todo code =>
    obtain ⟨s, hs, hkey, hinit, done, hdone, hseals, hctx⟩ := h
    obtain ⟨s', hs', hsteady'⟩ := (hsteady n rfl).session? hs
    refine ⟨s', hs', hsteady'.key.trans hkey, hsteady'.isInitialized.trans hinit, done, ?_,
      hsteady'.seals.trans hseals, hctx⟩
    rwa [hregistry]
  | sorted n => exact Offers.steady h hregistry (hsteady n rfl)
  | entered n =>
    obtain ⟨hoffers, hsession⟩ := h
    exact ⟨hoffers.steady hregistry (hsteady n rfl), htable.trans hsession⟩

/-! ### What a login may change -/

/-- An engine is changed in no other way than that sessions are steady, and the login that holds an
entry goes on initialising its session. -/
def ChangesOwn (w : SwapSystem σ γ) (key : SessionKey) (e : Engine σ) : Prop :=
  ∀ m, w.proxy.engine.SteadyAt m e ∨ ∃ s s', w.proxy.engine.session? m = some s ∧
    e.session? m = some s' ∧ s.key = key ∧ s'.key = key ∧ s.isInitialized = false ∧
    .ended m ∉ w.log

namespace ChangesOwn

variable {key : SessionKey} {e : Engine σ}

/-- Steady sessions are not changed. -/
lemma of_steady (h : w.proxy.engine.Steady e) : w.ChangesOwn key e := fun m => Or.inl (h m)

/-- A change of the session that a login initialises. -/
lemma of_opening {n : Nat} {todo : List (ModuleDescriptor σ)}
    {code : Option (ContextId × ModuleDescriptor σ × Program σ)}
    (hsound : w.LoginSound key (.opening n todo code)) (hlive : .ended n ∉ w.log)
    (hother : ∀ m, n ≠ m → e.session? m = w.proxy.engine.session? m)
    {s' : Session σ} (hs' : e.session? n = some s') (hkey' : s'.key = key) :
    w.ChangesOwn key e := by
  intro m
  by_cases hm : n = m
  · subst hm
    obtain ⟨s, hs, hkey, hinit, -⟩ := hsound
    exact Or.inr ⟨s, s', hs, hs', hkey, hkey', hinit, hlive⟩
  · exact Or.inl (.of_eq (hother m hm))

/-- A session after the change. -/
lemma session? (h : w.ChangesOwn key e) {m : Nat} {s : Session σ}
    (hs : w.proxy.engine.session? m = some s) :
    ∃ s', e.session? m = some s' ∧ s'.key = s.key ∧
      (.ended m ∈ w.log → s'.modules = s.modules) := by
  rcases h m with hsteady | ⟨t, s', ht, hs', hkey, hkey', -, hlive⟩
  · obtain ⟨s', hs', hsteady'⟩ := hsteady.session? hs
    exact ⟨s', hs', hsteady'.key, fun _ => hsteady'.modules⟩
  · obtain rfl : s = t := Option.some.inj (hs.symm.trans ht)
    exact ⟨s', hs', hkey'.trans hkey.symm, fun hended => absurd hended hlive⟩

/-- A session before the change. -/
lemma session?_of (h : w.ChangesOwn key e) {m : Nat} {s' : Session σ}
    (hs' : e.session? m = some s') :
    ∃ s, w.proxy.engine.session? m = some s ∧ s.key = s'.key := by
  rcases h m with hsteady | ⟨s, t, hs, ht, hkey, hkey', -, -⟩
  · obtain ⟨s, hs, hsteady'⟩ := hsteady.session?_of hs'
    exact ⟨s, hs, hsteady'.key.symm⟩
  · obtain rfl : s' = t := Option.some.inj (hs'.symm.trans ht)
    exact ⟨s, hs, hkey.trans hkey'.symm⟩

/-- A session that may be handed out is not changed. -/
lemma steadyAt_of_offers (h : w.ChangesOwn key e) {key' : SessionKey} {m : Nat}
    (hoffers : w.Offers key' m) : w.proxy.engine.SteadyAt m e := by
  rcases h m with hsteady | ⟨t, -, ht, -, -, -, hinit, -⟩
  · exact hsteady
  · obtain ⟨s, hs, -, hready⟩ := hoffers
    obtain rfl : s = t := Option.some.inj (hs.symm.trans ht)
    rw [hready.isInitialized] at hinit
    contradiction

end ChangesOwn

namespace Swapping

/-- The session that a held entry is about has not been shut down for a new one. -/
lemma live_of_login (h : Swapping w) {key : SessionKey} {k m : Nat} {phase : LoginPhase σ}
    (hlogin : w.logins key = some ⟨k, phase⟩) (hm : phase.session? = some m) :
    .ended m ∉ w.log := by
  refine h.current key m ?_
  rw [current?, hlogin]
  exact hm

/-- The session that a held entry is about is of its identity. -/
lemma session_of_login (h : Swapping w) {key : SessionKey} {k m : Nat} {phase : LoginPhase σ}
    (hlogin : w.logins key = some ⟨k, phase⟩) (hm : phase.session? = some m) :
    ∃ s, w.proxy.engine.session? m = some s ∧ s.key = key := by
  have hsound := h.logins key k phase hlogin
  have hoffers (hn : w.Offers key m) : ∃ s, w.proxy.engine.session? m = some s ∧ s.key = key := by
    obtain ⟨s, hs, hkey, -⟩ := hn
    exact ⟨s, hs, hkey⟩
  cases phase with
  | closing old todo code =>
    obtain rfl : old = some m := hm
    exact hoffers (h.table key m hsound.1)
  | opening n todo code =>
    obtain rfl : n = m := Option.some.inj hm
    obtain ⟨s, hs, hkey, -⟩ := hsound
    exact ⟨s, hs, hkey⟩
  | sorted n =>
    obtain rfl : n = m := Option.some.inj hm
    exact hoffers hsound
  | entered n =>
    obtain rfl : n = m := Option.some.inj hm
    exact hoffers hsound.1

/-- The session that an entry is about is of its identity. -/
lemma session_of_current (h : Swapping w) {key : SessionKey} {m : Nat}
    (hm : w.current? key = some m) : ∃ s, w.proxy.engine.session? m = some s ∧ s.key = key := by
  unfold current? at hm
  split at hm
  · next login hlogin => exact h.session_of_login hlogin hm
  · obtain ⟨s, hs, hkey, -⟩ := h.table key m hm
    exact ⟨s, hs, hkey⟩

/-- Of two sessions of an identity one has been shut down. -/
lemma eq_of_live (h : Swapping w) {m n : Nat} {s t : Session σ}
    (hs : w.proxy.engine.session? m = some s) (ht : w.proxy.engine.session? n = some t)
    (hkey : s.key = t.key) (hm : .ended m ∉ w.log) (hn : .ended n ∉ w.log) : m = n := by
  have hcurrent := h.live m s hs hm
  rw [hkey, h.live n t ht hn] at hcurrent
  exact (Option.some.inj hcurrent).symm

/-- A session that another login holds is not changed. -/
lemma steadyAt_of_login (h : Swapping w) {key key' : SessionKey} {e : Engine σ}
    (hchange : w.ChangesOwn key e) (hne : key' ≠ key) {k m : Nat} {phase : LoginPhase σ}
    (hlogin : w.logins key' = some ⟨k, phase⟩) (hm : phase.session? = some m) :
    w.proxy.engine.SteadyAt m e := by
  rcases hchange m with hsteady | ⟨t, -, ht, -, hkey, -⟩
  · exact hsteady
  · obtain ⟨s, hs, hkey'⟩ := h.session_of_login hlogin hm
    obtain rfl : s = t := Option.some.inj (hs.symm.trans ht)
    exact absurd (hkey'.symm.trans hkey) hne

/-- What is known stays true when one event comes to the log, logins are sound, and entries are about
the same sessions as before. -/
theorem next (h : Swapping w) (w' : SwapSystem σ γ) (key : SessionKey) (event : Option SwapEvent)
    (hsettings : w'.proxy.settings = w.proxy.settings)
    (hchange : w.ChangesOwn key w'.proxy.engine) (hlog : w'.log = w.log ++ event.toList)
    (hfits : ∀ x, event = some x → Logged.Fits w.proxy.engine w.log x)
    (hended : ∀ m, event ≠ some (.ended m))
    (hlogins : ∀ key' k phase, w'.logins key' = some ⟨k, phase⟩ →
      (w.logins key' = some ⟨k, phase⟩ ∧ w'.proxy.session? key' = w.proxy.session? key' ∧
        ∀ m, phase.session? = some m → w.proxy.engine.SteadyAt m w'.proxy.engine) ∨
      w'.LoginSound key' phase)
    (hcurrent : ∀ key', w'.current? key' = w.current? key')
    (htable : ∀ key' n, w'.proxy.session? key' = some n →
      w.proxy.session? key' = some n ∨ w'.Offers key' n)
    (hserves : ∀ key', w.proxy.session? key' ≠ none → w'.proxy.session? key' ≠ none)
    (htasks : ∀ t ∈ w'.tasks, ∀ n, t.phase.session? = some n → w.Serves t.request n) :
    Swapping w' := by
  have hregistry : w'.proxy.registry = w.proxy.registry := congrArg (·.2.2) hsettings
  have hkept : ∀ x ∈ w.log, x ∈ w'.log := by
    intro x hx
    rw [hlog]
    exact List.mem_append_left _ hx
  have hback : ∀ m, .ended m ∈ w'.log → .ended m ∈ w.log := by
    intro m hm
    rw [hlog] at hm
    rcases List.mem_append.1 hm with hold | hnew
    · exact hold
    · exact absurd (Option.mem_toList.1 hnew) (hended m)
  have hoffers {key' : SessionKey} {n : Nat} (hn : w.Offers key' n) : w'.Offers key' n :=
    hn.steady hregistry (hchange.steadyAt_of_offers hn)
  refine ⟨?_, ?_, ?_, ?_, ?_, ?_⟩
  · intro key' k phase hlogin
    rcases hlogins key' k phase hlogin with ⟨hold, hsession, hsteady⟩ | hsound
    · exact (h.logins key' k phase hold).steady hregistry hsession hsteady hkept
    · exact hsound
  · intro key' n hsession
    rcases htable key' n hsession with hold | hnew
    · exact hoffers (h.table key' n hold)
    · exact hnew
  · intro t ht n hn
    exact (htasks t ht n hn).steady hsettings hserves fun _ hoffers =>
      hchange.steadyAt_of_offers hoffers
  · intro key' n hn hended
    exact h.current key' n ((hcurrent key').symm.trans hn) (hback n hended)
  · intro n s' hs' hlive
    obtain ⟨s, hs, hkey⟩ := hchange.session?_of hs'
    rw [← hkey, hcurrent]
    exact h.live n s hs fun hin => hlive (hkept _ hin)
  · have hlogged : Logged w.proxy.engine w'.log := by
      rw [hlog]
      cases event with
      | none =>
        rw [Option.toList_none, List.append_nil]
        exact h.logged
      | some x => exact h.logged.concat (hfits x rfl)
    refine hlogged.congr (fun m s hs => ?_) fun m n s s' _ _ hs' => hchange.session?_of hs'
    obtain ⟨s', hs', hkey, hmodules⟩ := hchange.session? hs
    exact ⟨s', hs', hkey, fun hin => hmodules (hback m hin)⟩

/-- What is known stays true when something happens that is no step of a login. -/
lemma around (h : Swapping w) (hlogins : w'.logins = w.logins) (hlog : w'.log = w.log)
    (htable : ∀ key, w'.proxy.session? key = w.proxy.session? key)
    (hsettings : w'.proxy.settings = w.proxy.settings)
    (hsteady : w.proxy.engine.Steady w'.proxy.engine)
    (htasks : ∀ t ∈ w'.tasks, ∀ n, t.phase.session? = some n → w.Serves t.request n) :
    Swapping w' := by
  refine h.next w' ⟨"", 0⟩ none hsettings (.of_steady hsteady)
    (by rw [hlog, Option.toList_none, List.append_nil]) (fun _ hx => by contradiction)
    (fun _ hx => by contradiction) (fun key k phase hlogin => ?_) (fun key => ?_)
    (fun key n hsession => Or.inl ((htable key).symm.trans hsession))
    (fun key hsome => (htable key).symm ▸ hsome) htasks
  · rw [hlogins] at hlogin
    exact Or.inl ⟨hlogin, htable key, fun m _ => hsteady m⟩
  · rw [current?, current?, hlogins, htable]

/-- What is known stays true when a login makes a step and knows what it needs. -/
lemma hold (h : Swapping w) {key : SessionKey} {k : Nat} {phase phase' : LoginPhase σ}
    {e : Engine σ} (hlogin : w.logins key = some ⟨k, phase⟩) (event : Option SwapEvent)
    (hchange : w.ChangesOwn key e) (hsession : phase'.session? = phase.session?)
    (hfits : ∀ x, event = some x → Logged.Fits w.proxy.engine w.log x)
    (hended : ∀ m, event ≠ some (.ended m))
    (hsound : (w.hold key k phase' e event).LoginSound key phase') :
    Swapping (w.hold key k phase' e event) := by
  refine h.next _ key event rfl hchange rfl hfits hended (fun key' k' phase'' hlogin' => ?_)
    (fun key' => ?_)
    (fun key' n hsession => Or.inl hsession) (fun key' hsome => hsome) h.handed
  · by_cases hkey : key' = key
    · subst hkey
      rw [logins_hold_self] at hlogin'
      obtain ⟨-, rfl⟩ := Login.mk.inj (Option.some.inj hlogin')
      exact Or.inr hsound
    · rw [logins_hold_of_ne w hkey] at hlogin'
      exact Or.inl ⟨hlogin', rfl, fun m hm => h.steadyAt_of_login hchange hkey hlogin' hm⟩
  · by_cases hkey : key' = key
    · subst hkey
      rw [current?, current?, logins_hold_self, hlogin]
      exact hsession
    · rw [current?, current?, logins_hold_of_ne w hkey]
      rfl

end Swapping

end SwapSystem

end Intercept
