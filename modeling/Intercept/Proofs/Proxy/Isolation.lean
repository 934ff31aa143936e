import Intercept.Proofs.Proxy.Parallel

/-!
# Identities do not notice each other

A run of a proxy is told by its traffic and by what the receivers of the listeners do (`Move`). An
identity observes of it its current session, its listeners, and what comes back from the moves that
are about it (`observed`): requests that say they are of it, what belongs to the exchanges of these
requests, its listeners, and the start and the end of the process.

If the modules keep to their sessions, an identity observes the same when all other moves are left
out (`run_isolates_identities`). Of two runs that differ in other moves only, it cannot tell which one
it is in.
-/

namespace Intercept

/-! ### Moves -/

/-- What happens to a proxy, or to the receiving end of a listener. -/
inductive Move where
  | traffic (t : Traffic)
  /-- Take events from the front of a listener, at most `max` if a limit is given. -/
  | drain (listener : String) (max : Option Nat)
  /-- Drop the receiving end of a listener. -/
  | close (listener : String)

/-- What comes back from a move. -/
inductive Reply where
  /-- What the transport has to do with a request. -/
  | outcome (outcome : RequestOutcome)
  /-- The body of a response as it is sent on, if the exchange is in progress. -/
  | body (body : Option ByteArray)
  | events (events : List Event)
  | nothing

namespace Move

variable (own : SessionKey → String → Bool) (c : EngineConfig) (f : HostFilter) (key : SessionKey)

/-- Whether a move is about an identity whose exchanges have the names that are given. -/
def concerns (names : List String) : Move → Bool
  | .traffic (.request _ r) => r.identity? c f = some key
  | .traffic (.response name _) => name ∈ names
  | .traffic (.finish name) => name ∈ names
  | .traffic .start => true
  | .traffic (.shutdown _) => true
  | .drain listener _ => own key listener
  | .close listener => own key listener

/-- The names of the exchanges of an identity after a move. -/
def rename (names : List String) : Move → List String
  | .traffic (.request name r) =>
    if r.identity? c f = some key then name :: names else names.filter (· ≠ name)
  | .traffic (.finish name) => names.filter (· ≠ name)
  | _ => names

/-- The moves that are about an identity. -/
def only (names : List String) : List Move → List Move
  | [] => []
  | m :: moves =>
    if m.concerns own c f key names then m :: only (m.rename c f key names) moves
    else only (m.rename c f key names) moves

variable {own c f key}

/-- What is about an identity is so when the identity has more exchanges. -/
lemma concerns_mono {names names' : List String} (hsub : names ⊆ names') {m : Move}
    (h : m.concerns own c f key names = true) : m.concerns own c f key names' = true := by
  unfold concerns at h ⊢
  split at h
  · exact h
  · exact decide_eq_true (hsub (of_decide_eq_true h))
  · exact decide_eq_true (hsub (of_decide_eq_true h))
  · rfl
  · rfl
  · exact h
  · exact h

/-- An identity that had more exchanges has more afterwards. -/
lemma rename_mono {names names' : List String} (hsub : names ⊆ names') (m : Move) :
    m.rename c f key names ⊆ m.rename c f key names' := by
  unfold rename
  split
  · split
    · exact List.cons_subset_cons _ hsub
    · exact List.filter_subset _ hsub
  · exact List.filter_subset _ hsub
  · exact hsub

/-- A move that is not about an identity gives it no exchange. -/
lemma rename_subset {names : List String} {m : Move}
    (h : m.concerns own c f key names = false) : m.rename c f key names ⊆ names := by
  unfold rename
  split
  · next name r =>
    rw [if_neg (of_decide_eq_false h)]
    exact List.filter_subset_self _
  · exact List.filter_subset_self _
  · exact List.Subset.refl _

end Move

namespace Proxy

variable {σ γ : Type}

/-- Perform a move. -/
def move (p : Proxy σ γ) : Move → Proxy σ γ
  | .traffic t => p.handle t
  | .drain listener max =>
    { p with engine := { p.engine with
        listeners := p.engine.listeners.update listener fun l => (l.take max).2 } }
  | .close listener =>
    { p with engine := { p.engine with
        listeners := p.engine.listeners.update listener (·.close) } }

/-- Perform moves one after the other. -/
def play (p : Proxy σ γ) (moves : List Move) : Proxy σ γ := moves.foldl move p

/-- What comes back from a move. -/
def reply (p : Proxy σ γ) : Move → Reply
  | .traffic (.request name r) => .outcome (p.handleRequest name r).2.2
  | .traffic (.response name body) =>
    .body ((p.exchange? name).map fun x => (p.handleResponse x body).2)
  | .drain listener max =>
    .events (((p.engine.listeners.find? listener).map fun l => (l.take max).1).getD [])
  | _ => .nothing

/-- Of the current session of an identity the store and the packet hooks. -/
def sight (p : Proxy σ γ) (key : SessionKey) : Option (Store × List (Nat × HookLabel)) :=
  (p.session? key).bind fun n => (p.engine.session? n).map fun s =>
    (s.store, s.table.hooks.map fun h => (h.id, h.label))

/-- What comes back from the moves that are about an identity. -/
def replies (own : SessionKey → String → Bool) (key : SessionKey) (names : List String)
    (p : Proxy σ γ) : List Move → List Reply
  | [] => []
  | m :: moves =>
    let later := replies own key (m.rename p.config p.filter key names) (p.move m) moves
    if m.concerns own p.config p.filter key names then p.reply m :: later else later

end Proxy

/-- What an identity observes of a run. -/
structure Observed where
  /-- Its session at the end, if it has one: the store and the packet hooks. -/
  session : Option (Store × List (Nat × HookLabel))
  /-- Its listeners at the end. -/
  listeners : String → Option Listener
  /-- What has come back from the moves that were about it. -/
  replies : List Reply

namespace Proxy

variable {σ γ : Type} {own : SessionKey → String → Bool} {key : SessionKey}

/-- What an identity observes when a proxy performs moves. -/
def observed (own : SessionKey → String → Bool) (key : SessionKey) (p : Proxy σ γ)
    (moves : List Move) : Observed where
  session := (p.play moves).sight key
  listeners listener :=
    if own key listener then (p.play moves).engine.listeners.find? listener else none
  replies := p.replies own key [] moves

/-! ### Moves and parallel proxies -/

/-- No move changes the settings. -/
lemma settings_move (p : Proxy σ γ) (m : Move) : (p.move m).settings = p.settings := by
  cases m with
  | traffic t => exact (p.frame_step (.traffic t)).1
  | drain listener max => rfl
  | close listener => rfl

/-- Every move keeps a proxy sound. -/
lemma Sound.move {p : Proxy σ γ} (h : Sound p) (m : Move) : Sound (p.move m) := by
  cases m with
  | traffic t => exact h.handle t
  | drain listener max => exact h.of_roll rfl
  | close listener => exact h.of_roll rfl

/-- Every move leaves a proxy tidy. -/
lemma tidy_move {p : Proxy σ γ} (hregistry : p.registry.Isolated own) (hsound : Sound p)
    (h : p.engine.Tidy own) (m : Move) : (p.move m).engine.Tidy own := by
  cases m with
  | traffic t => exact tidy_handle hregistry hsound h t
  | drain listener max => exact h
  | close listener => exact h

namespace Parallel

variable {names : List String} {twins : List Nat} {p p' : Proxy σ γ}

/-- A listener changes in the same way in both proxies. -/
lemma update (h : Parallel own key names twins p p') (listener : String) (g : Listener → Listener) :
    Parallel own key names twins
      { p with engine := { p.engine with listeners := p.engine.listeners.update listener g } }
      { p' with engine := { p'.engine with listeners := p'.engine.listeners.update listener g } } :=
  { h with listeners := h.listeners.update listener g }

/-- A listener of others changes in the first proxy. -/
lemma update_left (h : Parallel own key names twins p p') {listener : String}
    (hother : own key listener = false) (g : Listener → Listener) :
    Parallel own key names twins
      { p with engine := { p.engine with listeners := p.engine.listeners.update listener g } } p' :=
  { h with
    listeners := by
      intro name hname
      have hne : name ≠ listener := by
        rintro rfl
        rw [hother] at hname
        contradiction
      rw [Listeners.find?_update_of_ne _ hne]
      exact h.listeners name hname }

/-- Both proxies perform a move that is about the identity, and the same comes back. -/
theorem move (h : Parallel own key names twins p p') (hregistry : p.registry.Isolated own)
    (hsound : Sound p) (hsound' : Sound p') (htidy : p.engine.Tidy own) {m : Move}
    (hm : m.concerns own p.config p.filter key names = true) :
    (∃ twins', Parallel own key (m.rename p.config p.filter key names) twins' (p.move m)
      (p'.move m)) ∧ p.reply m = p'.reply m := by
  cases m with
  | traffic t =>
    cases t with
    | request name r =>
      have hr : r.identity? p.config p.filter = some key := of_decide_eq_true hm
      obtain ⟨twins', hprocessed, hexchange, houtcome⟩ := h.request hregistry hsound hsound' hr
      rw [Move.rename, if_pos hr]
      exact ⟨⟨twins', (hprocessed.keep hexchange name).dropUnused_left.dropUnused_right⟩,
        congrArg Reply.outcome houtcome⟩
    | response name body =>
      obtain ⟨hhandled, hbody⟩ := h.response hsound hsound' (of_decide_eq_true hm) body
      exact ⟨⟨twins, hhandled⟩, congrArg Reply.body hbody⟩
    | finish name =>
      have hgone : name ∉ names.filter (· ≠ name) := by simp
      exact ⟨⟨twins, ((h.forget_left name).forget_right hgone).dropUnused_left.dropUnused_right⟩,
        rfl⟩
    | start => exact ⟨⟨twins, h.start hregistry⟩, rfl⟩
    | shutdown rank => exact ⟨⟨twins, h.shutdown hregistry hsound hsound' htidy rank⟩, rfl⟩
  | drain listener max =>
    refine ⟨⟨twins, h.update listener fun l => (l.take max).2⟩, ?_⟩
    rw [reply, reply, h.listeners listener hm]
  | close listener => exact ⟨⟨twins, h.update listener (·.close)⟩, rfl⟩

/-- The first proxy performs a move that is not about the identity. -/
theorem moveOther (h : Parallel own key names twins p p') (hregistry : p.registry.Isolated own)
    (hsound : Sound p) (htidy : p.engine.Tidy own) {m : Move}
    (hm : m.concerns own p.config p.filter key names = false) :
    Parallel own key (m.rename p.config p.filter key names) twins (p.move m) p' := by
  cases m with
  | traffic t =>
    cases t with
    | request name r =>
      have hr : r.identity? p.config p.filter ≠ some key := of_decide_eq_false hm
      obtain ⟨hprocessed, hexchange⟩ := h.requestOther hregistry hsound htidy hr
      rw [Move.rename, if_neg hr]
      exact (hprocessed.keep_left hexchange name).dropUnused_left
    | response name body =>
      exact h.responseOther hregistry hsound htidy (of_decide_eq_false hm) body
    | finish name => exact (h.forget_left name).dropUnused_left
    | start => contradiction
    | shutdown rank => contradiction
  | drain listener max => exact h.update_left hm _
  | close listener => exact h.update_left hm _

/-- A run and the moves of it that are about the identity. -/
theorem play {c : EngineConfig} {f : HostFilter} {registry : ModuleRegistry σ}
    (hregistry : registry.Isolated own) {names' : List String} (hsub : names ⊆ names')
    (h : Parallel own key names twins p p') (hsettings : p.settings = (c, f, registry))
    (hsound : Sound p) (hsound' : Sound p') (htidy : p.engine.Tidy own) (moves : List Move) :
    (∃ names₁ twins₁, Parallel own key names₁ twins₁ (p.play moves)
      (p'.play (Move.only own c f key names moves))) ∧
    p.replies own key names moves =
      p'.replies own key names' (Move.only own c f key names moves) := by
  induction moves generalizing names names' twins p p' with
  | nil => exact ⟨⟨names, twins, h⟩, rfl⟩
  | cons m moves ih =>
    have hsettings' : p'.settings = (c, f, registry) := h.settings.trans hsettings
    obtain ⟨rfl, rfl, rfl⟩ : p.config = c ∧ p.filter = f ∧ p.registry = registry := by
      simpa [Proxy.settings] using hsettings
    obtain ⟨hc, hf, -⟩ : p'.config = p.config ∧ p'.filter = p.filter ∧
        p'.registry = p.registry := by
      simpa [Proxy.settings] using hsettings'
    have hnext : (p.move m).settings = (p.config, p.filter, p.registry) := settings_move p m
    have hsoundNext := hsound.move m
    have htidyNext := tidy_move hregistry hsound htidy m
    rw [replies, Move.only]
    cases hm : m.concerns own p.config p.filter key names with
    | true =>
      obtain ⟨⟨twins', hmoved⟩, hreply⟩ := h.move hregistry hsound hsound' htidy hm
      obtain ⟨hrun, hreplies⟩ := ih (Move.rename_mono hsub m) hmoved hnext hsoundNext
        (hsound'.move m) htidyNext
      simp only [if_true, replies, hc, hf, Move.concerns_mono hsub hm, hreply]
      exact ⟨hrun, congrArg (p'.reply m :: ·) hreplies⟩
    | false =>
      have hmoved := h.moveOther hregistry hsound htidy hm
      obtain ⟨hrun, hreplies⟩ := ih (List.Subset.trans (Move.rename_subset hm) hsub) hmoved hnext
        hsoundNext hsound' htidyNext
      simp only [Bool.false_eq_true, if_false]
      exact ⟨hrun, hreplies⟩

/-- The identity sees the same in parallel proxies. -/
lemma sight_eq (h : Parallel own key names twins p p') : p.sight key = p'.sight key := by
  unfold sight
  rcases optionRel_cases h.current with ⟨hs, hs'⟩ | ⟨n, n', hs, hs', hn⟩
  · rw [hs, hs']
    rfl
  · obtain ⟨s, s', size, hsession, hsession', halike⟩ := h.alike n n' hn
    have hhooks : s.table.hooks.map (fun h => (h.id, h.label)) =
        s'.table.hooks.map fun h => (h.id, h.label) := by
      have hrel := halike.hooks
      generalize s.table.hooks = hooks at hrel ⊢
      generalize s'.table.hooks = hooks' at hrel ⊢
      induction hrel with
      | nil => rfl
      | cons ha _ ih => rw [List.map_cons, List.map_cons, ha.id, ha.label, ih]
    simp only [hs, hs', Option.bind_some, hsession, hsession', Option.map_some, halike.store,
      hhooks]

/-- A proxy that has just been set up is parallel to itself. -/
lemma setUp (own : SessionKey → String → Bool) (key : SessionKey) (c : EngineConfig)
    (f : HostFilter) (registry : ModuleRegistry σ) (memory : σ) (ls : Listeners) :
    Parallel own key [] [] (setUp c f registry memory ls : Proxy σ γ)
      (setUp c f registry memory ls) where
  settings := rfl
  isStarted := rfl
  listeners := Listeners.Agree.refl _ _
  nodup := List.nodup_nil
  length := rfl
  alike _ _ hn := by contradiction
  current := .none
  keys _ hk := by contradiction
  tracked _ hname := by contradiction
  others _ _ _ _ _ hx := by contradiction

end Parallel

/-- An identity observes of a run what it observes when the moves are left out that are not about it,
and so it observes the same of all runs that differ in other moves only, whoever they are about. -/
theorem run_isolates_identities {registry : ModuleRegistry σ} (hregistry : registry.Isolated own)
    (c : EngineConfig) (f : HostFilter) (memory : σ) (ls : Listeners) (key : SessionKey)
    (moves : List Move) :
    let p : Proxy σ γ := setUp c f registry memory ls
    p.observed own key moves = p.observed own key (Move.only own c f key [] moves) ∧
      ∀ moves', Move.only own c f key [] moves' = Move.only own c f key [] moves →
        p.observed own key moves' = p.observed own key moves := by
  intro p
  have honly : ∀ moves,
      p.observed own key moves = p.observed own key (Move.only own c f key [] moves) := by
    intro moves
    obtain ⟨⟨names, twins, hparallel⟩, hreplies⟩ :=
      (Parallel.setUp own key c f registry memory ls : Parallel own key [] [] p p).play (c := c)
        (f := f) hregistry (List.Subset.refl []) rfl (Sound.setUp c f registry memory ls)
        (Sound.setUp c f registry memory ls) (fun n s hs => by contradiction) moves
    have hlisteners : (fun listener => if own key listener then
          (p.play moves).engine.listeners.find? listener else none) =
        fun listener => if own key listener then
          (p.play (Move.only own c f key [] moves)).engine.listeners.find? listener else none := by
      funext listener
      split
      · next hown => exact hparallel.listeners listener hown
      · rfl
    unfold observed
    rw [hparallel.sight_eq, hlisteners, hreplies]
  refine ⟨honly moves, fun moves' hsame => ?_⟩
  rw [honly moves', hsame, ← honly moves]

/-- Two users of a region log in, and either is sent its state. A level of the first one changes, and
the listener of that user is told. The user observes the same without the moves of the other. -/
theorem run_isolates_two_users :
    let listener? (key : SessionKey) : Option String :=
      if key = ⟨"GL", 7⟩ then some "seven" else if key = ⟨"GL", 8⟩ then some "eight" else none
    let own : SessionKey → String → Bool := fun key listener => listener? key = some listener
    let c : EngineConfig := {}
    let f : HostFilter :=
      { deny := none, gameHost := .group 1 .empty, config := { regions := [("", "GL")] } }
    let module : ModuleDescriptor Unit := ⟨"m", fun ctx =>
      .hook ctx "*" 0 (fun packet => .inspect ctx fun v =>
          .finish (if v.state.isSome then packet.payload else .empty)) fun _ =>
        .inspect ctx fun v =>
          match listener? v.key with
          | some listener => .pathHook ctx "level" listener true fun _ => .finish .empty
          | none => .finish .empty⟩
    let login (body : String) : Request :=
      { host := "h", path := "/account/login", body := body.toUTF8 }
    let sync (uid : String) : Request :=
      { host := "h", path := "/account/syncData", uid := some uid }
    let seven := login "\x7b\"uid\":7\x7d"
    let eight := login "\x7b\"uid\":8\x7d"
    let state := "\x7b\"user\":\x7b\"level\":1\x7d\x7d".toUTF8
    let delta := "\x7b\"playerDataDelta\":\x7b\"modified\":\x7b\"level\":2\x7d\x7d\x7d".toUTF8
    let moves : List Move := [.traffic (.request "a" seven), .traffic (.request "b" eight),
      .traffic (.request "c" (sync "7")), .traffic (.request "d" (sync "8")),
      .traffic (.response "c" state), .traffic (.response "d" state),
      .traffic (.response "b" delta), .traffic (.response "a" delta)]
    let kept : List Move := [.traffic (.request "a" seven), .traffic (.request "c" (sync "7")),
      .traffic (.response "c" state), .traffic (.response "a" delta)]
    let p : Proxy Unit Unit :=
      setUp c f { modules := [module] } () [("seven", { capacity := 8 }), ("eight", { capacity := 8 })]
    Move.only own c f ⟨"GL", 7⟩ [] moves = kept ∧
      ((p.observed own ⟨"GL", 7⟩ moves).listeners "seven").map (·.waiting.length) = some 1 ∧
      p.observed own ⟨"GL", 7⟩ moves = p.observed own ⟨"GL", 7⟩ kept := by
  intro listener? own c f module login sync seven eight state delta moves kept p
  have hregistry : ({ modules := [module] } : ModuleRegistry Unit).Isolated own := by
    refine ⟨fun key key' listener h h' => ?_, fun m hm key left right i => ?_,
      fun callback hc => by contradiction⟩
    · simp only [own, listener?, decide_eq_true_eq] at h h'
      grind
    · obtain rfl := List.mem_singleton.1 hm
      have hfinish : Program.Alike (σ := Unit) ⟨key, own key, left, right⟩ i (.finish .empty)
          (.finish .empty) := .finish .empty
      have hsubscribe : ∀ v : ContextView, v.key = key →
          Program.Alike (σ := Unit) ⟨key, own key, left, right⟩ i
            (match listener? v.key with
              | some listener => .pathHook ⟨left, i⟩ "level" listener true fun _ => .finish .empty
              | none => .finish .empty)
            (match listener? v.key with
              | some listener => .pathHook ⟨right, i⟩ "level" listener true fun _ => .finish .empty
              | none => .finish .empty) := by
        intro v hv
        cases hlistener : listener? v.key with
        | none => exact hfinish
        | some listener =>
          refine .pathHook "level" true ?_ hfinish fun _ _ => hfinish
          exact decide_eq_true (hv ▸ hlistener)
      exact .hook "*" 0 (fun packet => .inspect fun v _ => .finish _) (.inspect hsubscribe)
        fun _ _ => .inspect hsubscribe
  have hidentities : seven.identity? c f = some ⟨"GL", 7⟩ ∧
      eight.identity? c f = some ⟨"GL", 8⟩ ∧ (sync "7").identity? c f = some ⟨"GL", 7⟩ ∧
      (sync "8").identity? c f = some ⟨"GL", 8⟩ := by
    simp only [seven, eight, login, sync, f, c]
    decide +kernel
  obtain ⟨hseven, height, hsync, hsync'⟩ := hidentities
  have honly : Move.only own c f ⟨"GL", 7⟩ [] moves = kept := by
    simp [moves, kept, Move.only, Move.concerns, Move.rename, hseven, height, hsync, hsync']
  obtain ⟨hsame, -⟩ := @run_isolates_identities Unit Unit own { modules := [module] } hregistry c f
    () [("seven", { capacity := 8 }), ("eight", { capacity := 8 })] ⟨"GL", 7⟩ moves
  rw [honly] at hsame
  refine ⟨honly, ?_, hsame⟩
  simp only [p, moves, delta, state, eight, seven, sync, login, module, f, c, own, listener?]
  decide +kernel

end Proxy

end Intercept
