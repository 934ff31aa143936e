import Intercept.Proofs.Proxy.Entry

/-!
# What every step keeps

What is known of entries and of the log (`Swapping`) is true of a proxy that has just been set up, and
every step keeps it (`Swapping.step`). There is one lemma for each step of a login, and most of them
are cases of three: a step that shuts down modules of the old session (`closing`), one that
initialises modules of the new one (`opening`), and one that changes what the entry is about, of which
there is only the start of the new session.
-/

namespace Intercept

variable {σ γ : Type}

namespace SwapSystem

variable {w w' : SwapSystem σ γ} {key : SessionKey} {k : Nat}

/-! ### The steps of a login -/

/-- The modules of a session do not change as long as it is steady. -/
lemma loaded_of_steady {e e' : Engine σ} (h : e.Steady e') (m : Nat) : e'.loaded m = e.loaded m := by
  rcases h m with ⟨hnone, hnone'⟩ | ⟨s, s', hs, hs', hsteady⟩
  · rw [Engine.loaded, Engine.loaded, hnone, hnone']
  · rw [Engine.loaded_of_session? hs, Engine.loaded_of_session? hs', hsteady.modules]

namespace Swapping

/-- A step of a login that shuts a session down. -/
lemma closing (h : Swapping w) {m : Nat} {todo todo' : List Nat}
    {code code' : Option (Nat × String × Program σ)}
    (hlogin : w.logins key = some ⟨k, .closing (some m) todo code⟩) {e : Engine σ}
    (hsteady : w.proxy.engine.Steady e) (event : Option SwapEvent)
    (hevent : ∀ x, event = some x → ∃ i, x = .callbackBegins m i ∨ x = .turnEnds m i)
    (hturns : ∀ i, i ∈ todo ∨ (∃ x, code = some (i, x)) →
      i ∈ todo' ∨ (∃ x, code' = some (i, x)) ∨ event = some (.turnEnds m i)) :
    Swapping (w.hold key k (.closing (some m) todo' code') e event) := by
  obtain ⟨hsession, hpending⟩ := h.logins _ _ _ hlogin
  have hlive := h.live_of_login hlogin rfl
  have hfits : ∀ x, event = some x → Logged.Fits w.proxy.engine w.log x := by
    intro x hx
    obtain ⟨i, rfl | rfl⟩ := hevent x hx
    · exact hlive
    · exact hlive
  have hended : ∀ m', event ≠ some (.ended m') := by
    intro m' hm'
    obtain ⟨i, hi | hi⟩ := hevent _ hm' <;> contradiction
  refine h.hold hlogin event (.of_steady hsteady) rfl hfits hended ⟨hsession, fun i hi => ?_⟩
  have hloaded : i ∈ w.proxy.engine.loaded m := loaded_of_steady hsteady m ▸ hi
  have hcases : i ∈ todo' ∨ (∃ x, code' = some (i, x)) ∨ event = some (.turnEnds m i) ∨
      .turnEnds m i ∈ w.log := by
    rcases hpending i hloaded with htodo | hcode | hdone
    · exact (hturns i (Or.inl htodo)).imp id (Or.imp id Or.inl)
    · exact (hturns i (Or.inr hcode)).imp id (Or.imp id Or.inl)
    · exact Or.inr (Or.inr (Or.inr hdone))
  refine hcases.imp id (Or.imp id ?_)
  rintro (hevent | hlog)
  · exact List.mem_append_right _ (Option.mem_toList.2 hevent)
  · exact List.mem_append_left _ hlog

/-- A step of a login that initialises modules. -/
lemma opening (h : Swapping w) {n : Nat} {todo todo' : List (ModuleDescriptor σ)}
    {code code' : Option (ContextId × ModuleDescriptor σ × Program σ)}
    (hlogin : w.logins key = some ⟨k, .opening n todo code⟩) {e : Engine σ}
    (hother : ∀ m, n ≠ m → w.proxy.engine.SteadyAt m e) {s' : Session σ}
    (hs' : e.session? n = some s') (hkey' : s'.key = key)
    (hunderway : Underway w.proxy.registry.modules todo' n code' s') (event : Option SwapEvent)
    (hevent : ∀ x, event = some x → x = .initBegins n) :
    Swapping (w.hold key k (.opening n todo' code') e event) := by
  have hsound := h.logins _ _ _ hlogin
  obtain ⟨s, hs, hkey, hinit, -⟩ := id hsound
  have hlive := h.live_of_login hlogin rfl
  have hfits : ∀ x, event = some x → Logged.Fits w.proxy.engine w.log x := by
    intro x hx
    obtain rfl := hevent x hx
    refine ⟨s, hs, fun m t hm ht hsame => ?_⟩
    -- An earlier session of the identity that was not shut down would be this one.
    by_contra hmissing
    exact Nat.ne_of_lt hm (h.eq_of_live ht hs hsame hmissing hlive)
  have hended : ∀ m, event ≠ some (.ended m) := by
    intro m hm
    have heq := hevent _ hm
    contradiction
  have hchange : w.ChangesOwn key e := by
    intro m
    by_cases hm : n = m
    · subst hm
      exact Or.inr ⟨s, s', hs, hs', hkey, hkey', hinit, hlive⟩
    · exact Or.inl (hother m hm)
  exact h.hold hlogin event hchange rfl hfits hended ⟨s', hs', hkey', hunderway⟩

/-- An init function begins. -/
lemma initBegins (h : Swapping w) {n : Nat} {module : ModuleDescriptor σ}
    {todo : List (ModuleDescriptor σ)}
    (hlogin : w.logins key = some ⟨k, .opening n (module :: todo) none⟩) :
    Swapping (w.hold key k
      (.opening n todo (some ((w.proxy.engine.addContext n module.name).2, module,
        module.init (w.proxy.engine.addContext n module.name).2)))
      (w.proxy.engine.addContext n module.name).1 (some (.initBegins n))) := by
  obtain ⟨s, hs, hkey, hinit, done, hdone, hseals, -⟩ := h.logins _ _ _ hlogin
  obtain ⟨hs', hctx⟩ := Engine.session?_addContext hs module.name
  have hlength : s.contexts.length = done.length := by
    have hseals' := congrArg List.length hseals
    simpa [Session.seals] using hseals'
  refine h.opening hlogin (fun m hm => .updateSession_of_ne _ hm _) hs' hkey
    ⟨hinit, done, ?_, ?_, ?_⟩ _ fun x hx => (Option.some.inj hx).symm
  · simpa using hdone
  · have hnew : ({ s with contexts := s.contexts ++ [{ module := module.name }] } :
        Session σ).seals = s.seals ++ [(module.name, false)] := List.map_append
    rw [hnew, hseals]
    simp
  · rintro x hx
    obtain rfl := Option.some.inj hx
    rw [hctx, hlength]

/-- An init function makes a step. -/
lemma initRuns (h : Swapping w) {n : Nat} {todo : List (ModuleDescriptor σ)} {ctx : ContextId}
    {module : ModuleDescriptor σ} {p : Program σ}
    (hlogin : w.logins key = some ⟨k, .opening n todo (some (ctx, module, p))⟩) (p' : Program σ)
    {e : Engine σ} (hsteady : w.proxy.engine.Steady e) :
    Swapping (w.hold key k (.opening n todo (some (ctx, module, p'))) e none) := by
  obtain ⟨s, hs, hkey, hinit, done, hdone, hseals, hctx⟩ := h.logins _ _ _ hlogin
  obtain ⟨s', hs', hsteady'⟩ := (hsteady n).session? hs
  have hunderway : Underway w.proxy.registry.modules todo n (some (ctx, module, p')) s' := by
    refine ⟨hsteady'.isInitialized.trans hinit, done, hdone, hsteady'.seals.trans hseals, ?_⟩
    intro x hx
    obtain rfl := Option.some.inj hx
    exact hctx (ctx, module, p) rfl
  exact h.opening hlogin (fun m _ => hsteady m) hs' (hsteady'.key.trans hkey) hunderway none
    fun x hx => by contradiction

/-- An init function ends. -/
lemma initEnds (h : Swapping w) {n : Nat} {todo : List (ModuleDescriptor σ)} {ctx : ContextId}
    {module : ModuleDescriptor σ} {p : Program σ}
    (hlogin : w.logins key = some ⟨k, .opening n todo (some (ctx, module, p))⟩)
    (outcome : Outcome) :
    Swapping (w.hold key k (.opening n todo none)
      (w.proxy.engine.settle n key module ctx outcome) none) := by
  obtain ⟨s, hs, hkey, hinit, done, hdone, hseals, hctx⟩ := h.logins _ _ _ hlogin
  obtain rfl : ctx = ⟨n, done.length⟩ := hctx _ rfl
  obtain ⟨s', hs', hkey', hinit', hseals'⟩ :=
    Engine.session?_settle (i := done.length) hs key module outcome
  refine h.opening hlogin (fun m hm => .of_eq (Engine.session?_settle_of_ne _ hm _ _ _)) hs'
    (hkey'.trans hkey) ⟨hinit'.trans hinit, done ++ [module], ?_, ?_, ?_⟩ none fun x hx => by
      contradiction
  · simpa using hdone
  · rw [hseals', hseals]
    exact (modify_concat (List.length_map _) _ _).trans (by simp)
  · intro x hx
    contradiction

/-- A context without a callback has its turn. -/
lemma skip (h : Swapping w) {m i : Nat} {todo : List Nat}
    (hlogin : w.logins key = some ⟨k, .closing (some m) (i :: todo) none⟩) :
    Swapping (w.hold key k (.closing (some m) todo none) w.proxy.engine (some (.turnEnds m i))) := by
  refine h.closing hlogin (.of_sessions rfl) _ (fun x hx => ⟨i, Or.inr (Option.some.inj hx).symm⟩)
    fun j hj => ?_
  rcases hj with hmem | ⟨x, hx⟩
  · rcases List.mem_cons.1 hmem with rfl | hmem
    · exact Or.inr (Or.inr rfl)
    · exact Or.inl hmem
  · contradiction

/-- A callback begins. -/
lemma callbackBegins (h : Swapping w) {m i : Nat} {todo : List Nat}
    (hlogin : w.logins key = some ⟨k, .closing (some m) (i :: todo) none⟩)
    (code : String × Program σ) :
    Swapping (w.hold key k (.closing (some m) todo (some (i, code)))
      (w.proxy.engine.takeShutdown m i) (some (.callbackBegins m i))) := by
  refine h.closing hlogin (.takeShutdown _ m i) _
    (fun x hx => ⟨i, Or.inl (Option.some.inj hx).symm⟩) fun j hj => ?_
  rcases hj with hmem | ⟨x, hx⟩
  · rcases List.mem_cons.1 hmem with rfl | hmem
    · exact Or.inr (Or.inl ⟨code, rfl⟩)
    · exact Or.inl hmem
  · contradiction

/-- A callback makes a step. -/
lemma callbackRuns (h : Swapping w) {i : Nat} {old : Option Nat} {todo : List Nat}
    {code : String × Program σ}
    (hlogin : w.logins key = some ⟨k, .closing old todo (some (i, code))⟩)
    (code' : String × Program σ) {e : Engine σ} (hsteady : w.proxy.engine.Steady e) :
    Swapping (w.hold key k (.closing old todo (some (i, code'))) e none) := by
  cases old with
  | none =>
    obtain ⟨-, -, hnone⟩ := h.logins _ _ _ hlogin
    contradiction
  | some m =>
    refine h.closing hlogin hsteady none (fun x hx => by contradiction) fun j hj => ?_
    rcases hj with hmem | ⟨x, hx⟩
    · exact Or.inl hmem
    · obtain ⟨rfl, -⟩ := Prod.mk.inj (Option.some.inj hx)
      exact Or.inr (Or.inl ⟨code', rfl⟩)

/-- A callback ends. -/
lemma callbackEnds (h : Swapping w) {m i : Nat} {todo : List Nat} {code : String × Program σ}
    (hlogin : w.logins key = some ⟨k, .closing (some m) todo (some (i, code))⟩) {e : Engine σ}
    (hsteady : w.proxy.engine.Steady e) :
    Swapping (w.hold key k (.closing (some m) todo none) e (some (.turnEnds m i))) := by
  refine h.closing hlogin hsteady _ (fun x hx => ⟨i, Or.inr (Option.some.inj hx).symm⟩)
    fun j hj => ?_
  rcases hj with hmem | ⟨x, hx⟩
  · exact Or.inl hmem
  · obtain ⟨rfl, -⟩ := Prod.mk.inj (Option.some.inj hx)
    exact Or.inr (Or.inr rfl)

/-- The hooks of a new session are put in order. -/
lemma sort (h : Swapping w) {n : Nat} (hlogin : w.logins key = some ⟨k, .opening n [] none⟩) :
    Swapping (w.hold key k (.sorted n) (w.proxy.engine.completeSession n) none) := by
  have hsound := h.logins _ _ _ hlogin
  obtain ⟨s, hs, hkey, -, done, hdone, hseals, -⟩ := id hsound
  have hs' := Engine.session?_updateSession_self hs
    fun s => { s with table := s.table.sort, isInitialized := true }
  have hmodules : w.proxy.registry.modules = done := by simpa using hdone
  have hready : ({ s with table := s.table.sort, isInitialized := true } : Session σ).Ready
      w.proxy.registry.modules :=
    ⟨rfl, hmodules ▸ hseals.trans (List.append_nil _), s.table.inPriorityOrder_sort.descending⟩
  have hchange : w.ChangesOwn key (w.proxy.engine.completeSession n) :=
    .of_opening hsound (h.live_of_login hlogin rfl)
      (fun m hm => (Engine.session?_updateSession _ n m _).trans (if_neg hm)) hs' hkey
  exact h.hold hlogin none hchange rfl (fun x hx => by contradiction)
    (fun m hm => by contradiction) ⟨_, hs', hkey, hready⟩

/-- The new session is entered into the table. -/
lemma insert (h : Swapping w) {n : Nat} (hlogin : w.logins key = some ⟨k, .sorted n⟩) :
    Swapping { w.hold key k (.entered n) w.proxy.engine none with
      proxy := w.proxy.setSession key n } := by
  have hoffers : w.Offers key n := h.logins _ _ _ hlogin
  let w' : SwapSystem σ γ := { w.hold key k (.entered n) w.proxy.engine none with
    proxy := w.proxy.setSession key n }
  have hheld : w'.logins key = some ⟨k, .entered n⟩ := Function.update_self _ _ _
  have hfree {key' : SessionKey} (hne : key' ≠ key) : w'.logins key' = w.logins key' :=
    Function.update_of_ne hne _ _
  have hself : w'.proxy.session? key = some n :=
    (Proxy.session?_setSession _ _ _ _).trans (if_pos rfl)
  have hother {key' : SessionKey} (hne : key' ≠ key) :
      w'.proxy.session? key' = w.proxy.session? key' :=
    (Proxy.session?_setSession _ _ _ _).trans (if_neg hne)
  refine h.next w' key none rfl (.of_steady (.of_sessions rfl)) rfl
    (fun x hx => by contradiction) (fun m hm => by contradiction) (fun key' k' phase hlogin' => ?_)
    (fun key' => ?_) (fun key' m hm => ?_) (fun key' => session?_step (.insert hlogin)) h.handed
  · by_cases hkey : key' = key
    · subst hkey
      obtain ⟨-, rfl⟩ := Login.mk.inj (Option.some.inj (hheld.symm.trans hlogin'))
      exact Or.inr ⟨hoffers, hself⟩
    · exact Or.inl ⟨(hfree hkey).symm.trans hlogin', hother hkey, fun m _ => .of_eq rfl⟩
  · by_cases hkey : key' = key
    · subst hkey
      rw [current?, current?, hheld, hlogin]
      rfl
    · rw [current?, current?, hfree hkey, hother hkey]
  · by_cases hkey : key' = key
    · subst hkey
      obtain rfl : n = m := Option.some.inj (hself.symm.trans hm)
      exact Or.inr hoffers
    · exact Or.inl ((hother hkey).symm.trans hm)

/-- A request has come further, and has been given what may be handed out. -/
lemma handed_goto (h : Swapping w) {r : Request} {phase phase' : RequestPhase}
    (htask : w.tasks[k]? = some ⟨r, phase⟩)
    (hphase : ∀ n, phase'.session? = some n → w.Serves r n) :
    ∀ t ∈ (w.goto k phase').tasks, ∀ n, t.phase.session? = some n → w.Serves t.request n := by
  intro t ht n hn
  obtain ⟨j, hj⟩ := List.mem_iff_getElem?.1 ht
  rcases getElem?_goto hj with ⟨-, hold⟩ | ⟨-, u, hu, rfl⟩
  · exact h.handed t (List.mem_of_getElem? hold) n hn
  · obtain rfl : u = ⟨r, phase⟩ := Option.some.inj (hu.symm.trans htask)
    exact hphase n hn

/-- A login takes the entry of its identity. -/
lemma acquire (h : Swapping w) {r : Request} (htask : w.tasks[k]? = some ⟨r, .waiting⟩)
    (hfree : w.logins key = none) :
    Swapping ((w.hold key k (.closing (w.proxy.session? key)
      (((w.proxy.session? key).map w.proxy.engine.loaded).getD []) none) w.proxy.engine none).goto k
        .inside) := by
  set phase : LoginPhase σ := .closing (w.proxy.session? key)
    (((w.proxy.session? key).map w.proxy.engine.loaded).getD []) none with hphase
  let w' : SwapSystem σ γ := (w.hold key k phase w.proxy.engine none).goto k .inside
  have hheld : w'.logins key = some ⟨k, phase⟩ := Function.update_self _ _ _
  have hother {key' : SessionKey} (hne : key' ≠ key) : w'.logins key' = w.logins key' :=
    Function.update_of_ne hne _ _
  have hsound : w'.LoginSound key phase := by
    rw [hphase]
    cases hsession : w.proxy.session? key with
    | none => exact ⟨hsession, rfl, rfl⟩
    | some m => exact ⟨hsession, fun i hi => Or.inl hi⟩
  refine h.next w' key none rfl (.of_steady (.of_sessions rfl)) rfl
    (fun x hx => by contradiction) (fun m hm => by contradiction) (fun key' k' phase' hlogin => ?_)
    (fun key' => ?_) (fun key' m hm => Or.inl hm) (fun key' hsome => hsome) ?_
  · by_cases hkey : key' = key
    · subst hkey
      obtain ⟨-, rfl⟩ := Login.mk.inj (Option.some.inj (hheld.symm.trans hlogin))
      exact Or.inr hsound
    · exact Or.inl ⟨(hother hkey).symm.trans hlogin, rfl, fun m _ => .of_eq rfl⟩
  · by_cases hkey : key' = key
    · subst hkey
      rw [current?, current?, hheld, hfree]
      rfl
    · rw [current?, current?, hother hkey]
      rfl
  · exact h.handed_goto htask fun n hn => by contradiction

/-- A login lets go of the entry. -/
lemma release (h : Swapping w) {r : Request} {phase : RequestPhase} {n : Nat}
    (hlogin : w.logins key = some ⟨k, .entered n⟩) (htask : w.tasks[k]? = some ⟨r, phase⟩)
    (hidentity : r.identity? w.proxy.config w.proxy.filter = some key) :
    Swapping { w.goto k (.handed n) with logins := Function.update w.logins key none } := by
  obtain ⟨hoffers, hsession⟩ := h.logins _ _ _ hlogin
  let w' : SwapSystem σ γ :=
    { w.goto k (.handed n) with logins := Function.update w.logins key none }
  have hfree : w'.logins key = none := Function.update_self _ _ _
  have hother {key' : SessionKey} (hne : key' ≠ key) : w'.logins key' = w.logins key' :=
    Function.update_of_ne hne _ _
  refine h.next w' key none rfl (.of_steady (.of_sessions rfl))
    (List.append_nil _).symm (fun x hx => by contradiction) (fun m hm => by contradiction)
    (fun key' k' phase' hlogin' => ?_) (fun key' => ?_) (fun key' m hm => Or.inl hm)
    (fun key' hsome => hsome) ?_
  · by_cases hkey : key' = key
    · subst hkey
      rw [hfree] at hlogin'
      contradiction
    · exact Or.inl ⟨(hother hkey).symm.trans hlogin', rfl, fun m _ => .of_eq rfl⟩
  · by_cases hkey : key' = key
    · subst hkey
      rw [current?, current?, hfree, hlogin]
      exact hsession
    · rw [current?, current?, hother hkey]
      rfl
  · refine h.handed_goto htask fun m hm => ?_
    obtain rfl : n = m := Option.some.inj hm
    exact ⟨key, hidentity, hoffers, hsession ▸ Option.some_ne_none n⟩

end Swapping

/-! ### The start of the new session -/

/-- The system after a login has started its new session. -/
def started (w : SwapSystem σ γ) (key : SessionKey) (k : Nat) (old : Option Nat) : SwapSystem σ γ :=
  w.hold key k (.opening w.proxy.engine.sessions.length w.proxy.registry.modules none)
    ((w.proxy.engine.emit [.count .sessionsCreated 1]).openSession key w.proxy.config.state)
    (old.map .ended)

/-- The new session has the next number. -/
lemma session?_started (w : SwapSystem σ γ) (key : SessionKey) (k : Nat) (old : Option Nat)
    (m : Nat) : (w.started key k old).proxy.engine.session? m =
      if m = w.proxy.engine.sessions.length
      then some { key, store := { config := w.proxy.config.state } }
      else w.proxy.engine.session? m :=
  (w.proxy.engine.emit [.count .sessionsCreated 1]).session?_openSession key _ m

/-- The other sessions remain, and none of them has the next number. -/
lemma session?_started_of_some {m : Nat} {s : Session σ}
    (hs : w.proxy.engine.session? m = some s) (key : SessionKey) (k : Nat) (old : Option Nat) :
    m < w.proxy.engine.sessions.length ∧
      (w.started key k old).proxy.engine.session? m = some s := by
  have hlt : m < w.proxy.engine.sessions.length := (List.getElem?_eq_some_iff.1 hs).1
  rw [session?_started, if_neg (Nat.ne_of_lt hlt)]
  exact ⟨hlt, hs⟩

/-- A session may still be handed out. -/
lemma Offers.started {m : Nat} (h : w.Offers key m) (key' : SessionKey) (k : Nat)
    (old : Option Nat) : (w.started key' k old).Offers key m := by
  obtain ⟨s, hs, hready⟩ := h
  exact ⟨s, (session?_started_of_some hs key' k old).2, hready⟩

/-- The login has the old session noted as shut down. -/
lemma ended_mem_started {old : Option Nat} {m : Nat} :
    .ended m ∈ (w.started key k old).log ↔ .ended m ∈ w.log ∨ old = some m := by
  change .ended m ∈ w.log ++ (old.map SwapEvent.ended).toList ↔ _
  rw [List.mem_append, Option.mem_toList]
  cases old <;> simp

/-- The entry of the identity is about the new session, and the other entries are about what they
were about. -/
lemma current?_started (w : SwapSystem σ γ) (key key' : SessionKey) (k : Nat) (old : Option Nat) :
    (w.started key k old).current? key' =
      if key' = key then some w.proxy.engine.sessions.length else w.current? key' := by
  by_cases hkey : key' = key
  · subst hkey
    rw [if_pos rfl, current?, started, logins_hold_self]
    rfl
  · rw [if_neg hkey, current?, started, logins_hold_of_ne w hkey]
    rfl

namespace Swapping

variable {old : Option Nat}

/-- The login that starts the new session is about the old one. -/
lemma current?_of_closing (hlogin : w.logins key = some ⟨k, .closing old [] none⟩) :
    w.current? key = old := by
  rw [current?, hlogin]
  rfl

/-- The entries are sound when a session is started. -/
lemma logins_started (h : Swapping w) {key' : SessionKey} {k' : Nat} {phase : LoginPhase σ}
    (hlogin' : (w.started key k old).logins key' = some ⟨k', phase⟩) :
    (w.started key k old).LoginSound key' phase := by
  by_cases hkey : key' = key
  · subst hkey
    rw [started, logins_hold_self] at hlogin'
    obtain ⟨-, rfl⟩ := Login.mk.inj (Option.some.inj hlogin')
    exact ⟨_, (session?_started w key' k old _).trans (if_pos rfl), rfl, rfl, [], rfl, rfl,
      fun x hx => by contradiction⟩
  · rw [started, logins_hold_of_ne w hkey] at hlogin'
    refine (h.logins key' k' phase hlogin').steady rfl rfl (fun m hm => ?_)
      fun x hx => List.mem_append_left _ hx
    obtain ⟨s, hs, -⟩ := h.session_of_login hlogin' hm
    exact .of_eq ((session?_started_of_some hs key k old).2.trans hs.symm)

/-- What an entry is about has not been shut down when a session is started. -/
lemma current_started (h : Swapping w) (hlogin : w.logins key = some ⟨k, .closing old [] none⟩)
    {key' : SessionKey} {m : Nat} (hm : (w.started key k old).current? key' = some m) :
    .ended m ∉ (w.started key k old).log := by
  intro hin
  have hcurrent := current?_of_closing hlogin
  rw [current?_started] at hm
  split at hm
  · -- Nothing can have been noted of the new session.
    obtain rfl := Option.some.inj hm
    have hnone : w.proxy.engine.session? w.proxy.engine.sessions.length = none :=
      List.getElem?_eq_none (Nat.le_refl _)
    rcases ended_mem_started.1 hin with hold | rfl
    · obtain ⟨p, hp⟩ := List.mem_iff_getElem?.1 hold
      obtain ⟨s, hs, -⟩ := h.logged.ended p _ hp
      rw [hnone] at hs
      contradiction
    · obtain ⟨s, hs, -⟩ := h.session_of_current hcurrent
      rw [hnone] at hs
      contradiction
  · next hkey =>
    rcases ended_mem_started.1 hin with hold | rfl
    · exact h.current key' m hm hold
    · obtain ⟨s, hs, hkey'⟩ := h.session_of_current hm
      obtain ⟨t, ht, hkey''⟩ := h.session_of_current hcurrent
      obtain rfl : s = t := Option.some.inj (hs.symm.trans ht)
      exact hkey (hkey'.symm.trans hkey'')

/-- What has not been shut down is what an entry is about when a session is started. -/
lemma live_started (h : Swapping w) (hlogin : w.logins key = some ⟨k, .closing old [] none⟩)
    {m : Nat} {s : Session σ} (hs : (w.started key k old).proxy.engine.session? m = some s)
    (hlive : .ended m ∉ (w.started key k old).log) :
    (w.started key k old).current? s.key = some m := by
  rw [session?_started] at hs
  rw [current?_started]
  split at hs
  · next hm =>
    obtain rfl := Option.some.inj hs
    rw [if_pos rfl, hm]
  · have hbefore := h.live m s hs fun hin => hlive (ended_mem_started.2 (Or.inl hin))
    split
    · next hkey =>
      rw [hkey, current?_of_closing hlogin] at hbefore
      exact absurd (ended_mem_started.2 (Or.inr hbefore)) hlive
    · exact hbefore

/-- The log is in order when a session is started: the old session has been shut down. -/
lemma logged_started (h : Swapping w) (hlogin : w.logins key = some ⟨k, .closing old [] none⟩) :
    Logged (w.started key k old).proxy.engine (w.started key k old).log := by
  have hlogged : Logged w.proxy.engine (w.started key k old).log := by
    change Logged w.proxy.engine (w.log ++ (old.map SwapEvent.ended).toList)
    cases old with
    | none => exact (List.append_nil w.log).symm ▸ h.logged
    | some m =>
      obtain ⟨hsession, hturns⟩ := h.logins _ _ _ hlogin
      obtain ⟨s, hs, -⟩ := h.table key m hsession
      refine h.logged.concat ⟨s, hs, fun i hi => ?_⟩
      rw [Engine.loaded_of_session? hs] at hturns
      rcases hturns i hi with htodo | ⟨x, hx⟩ | hdone
      · contradiction
      · contradiction
      · exact hdone
  refine hlogged.congr
    (fun m s hs => ⟨s, (session?_started_of_some hs key k old).2, rfl, fun _ => rfl⟩) ?_
  intro m m' s s' hlt hs hs'
  have hm' : m' < w.proxy.engine.sessions.length := (session?_started_of_some hs key k old).1
  rw [session?_started, if_neg (Nat.ne_of_lt (Nat.lt_trans hlt hm'))] at hs'
  exact ⟨s', hs', rfl⟩

/-- A new session is started. -/
lemma start (h : Swapping w) (hlogin : w.logins key = some ⟨k, .closing old [] none⟩) :
    Swapping (w.started key k old) where
  logins _ _ _ hlogin' := h.logins_started hlogin'
  table key' m hsession := (h.table key' m hsession).started key k old
  handed t ht m hm := by
    obtain ⟨key', hidentity, hkey', hsession⟩ := h.handed t ht m hm
    exact ⟨key', hidentity, hkey'.started key k old, hsession⟩
  current _ _ hm := h.current_started hlogin hm
  live _ _ hs hlive := h.live_started hlogin hs hlive
  logged := h.logged_started hlogin

/-- Reporting something is no step of a login. -/
lemma report (h : Swapping w) {r : Request} (htask : w.tasks[k]? = some ⟨r, .waiting⟩)
    (signals : List Signal) :
    Swapping { w.goto k (.answered none) with proxy := w.proxy.emit signals } :=
  h.around rfl rfl (fun _ => rfl) rfl (.of_sessions rfl)
    (h.handed_goto htask fun n hn => by contradiction)

/-- What is known of entries is kept by every step. -/
theorem step (h : Swapping w) (horderly : Orderly w) (hstep : Step w w') : Swapping w' := by
  cases hstep with
  | call r =>
    refine h.around rfl rfl (fun _ => rfl) rfl (.of_sessions rfl) fun t ht n hn => ?_
    rcases List.mem_append.1 ht with hold | hnew
    · exact h.handed t hold n hn
    · obtain rfl := List.mem_singleton.1 hnew
      contradiction
  | pass htask hdest =>
    obtain ⟨signals, hproxy⟩ := w.proxy.processRequest_of_nowhere hdest
    rw [hproxy]
    exact h.report htask signals
  | @find k n r key htask hdest hfree hsession =>
    refine h.around rfl rfl (fun _ => rfl) rfl (.of_sessions rfl)
      (h.handed_goto htask fun m hm => ?_)
    obtain rfl : n = m := Option.some.inj hm
    have hidentity : r.identity? w.proxy.config w.proxy.filter = some key := by
      rw [Request.identity?, show r.destination w.proxy.config w.proxy.filter = _ from hdest]
    exact ⟨key, hidentity, h.table key n hsession, hsession ▸ Option.some_ne_none n⟩
  | miss htask hdest hfree hsession =>
    obtain ⟨signals, hproxy⟩ := Proxy.processRequest_of_absent hdest hsession
    rw [hproxy]
    exact h.report htask signals
  | acquire htask hdest hfree => exact h.acquire htask hfree
  | skip hlogin hslot => exact h.skip hlogin
  | callbackBegins hlogin hctx hcallback => exact h.callbackBegins hlogin _
  | callbackRuns hlogin hruns => exact h.callbackRuns hlogin _ (.advance _ _)
  | @callbackEnds key k m i todo module p outcome hlogin hend =>
    refine h.callbackEnds hlogin ?_
    cases outcome with
    | finished output => exact .of_sessions rfl
    | failed fault => exact .of_sessions rfl
  | start hlogin => exact h.start hlogin
  | initBegins hlogin => exact h.initBegins hlogin
  | initRuns hlogin hruns => exact h.initRuns hlogin _ (.advance _ _)
  | initEnds hlogin hend => exact h.initEnds hlogin _
  | sort hlogin => exact h.sort hlogin
  | insert hlogin => exact h.insert hlogin
  | @release key k n hlogin =>
    obtain ⟨r, htask, hdest⟩ := horderly.inside key k _ hlogin
    have hidentity : r.identity? w.proxy.config w.proxy.filter = some key := by
      rw [Request.identity?, show r.destination w.proxy.config w.proxy.filter = _ from hdest]
    exact h.release hlogin htask hidentity
  | @finish k n r htask =>
    exact h.around rfl rfl (fun _ => rfl) rfl (.of_sessions rfl)
      (h.handed_goto htask (h.handed _ (List.mem_of_getElem? htask)))
  | drop n hunused =>
    refine h.around rfl rfl (fun _ => rfl) rfl ?_ h.handed
    exact .updateSession _ n fun s _ => ⟨rfl, rfl, rfl, rfl, fun _ => List.Sublist.refl _⟩
  | elsewhere x =>
    exact h.around rfl rfl (fun _ => rfl) rfl (.elsewhere _ x) h.handed

/-- What is known of entries is true from the start and stays so over all steps. -/
theorem of_steps {c : EngineConfig} {f : HostFilter} {registry : ModuleRegistry σ} {memory : σ}
    {ls : Listeners} (h : Steps { proxy := Proxy.setUp c f registry memory ls } w) : Swapping w := by
  have hstart : Swapping ({ proxy := Proxy.setUp c f registry memory ls } : SwapSystem σ γ) := by
    refine ⟨fun key k phase h => ?_, fun key n h => ?_, fun t ht => ?_, fun key n h => ?_,
      fun n s hs => ?_, fun p m h => ?_, fun p n h => ?_⟩ <;> contradiction
  induction h with
  | refl => exact hstart
  | tail hsteps hstep ih => exact ih.step (.of_steps hsteps) hstep

end Swapping

end SwapSystem

end Intercept
