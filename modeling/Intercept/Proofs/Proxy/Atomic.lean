import Intercept.Proofs.Proxy.Swapping

/-!
# Logins are atomic

Nobody sees a login half done. However the steps of any number of logins and other requests
interleave, once an identity has a session no lookup finds it without one, a session that is given to
a request is completely initialised, and the old session of an identity has been shut down before the
first module of the new one is initialised. Main statement: `steps_swap_atomically`.

Most of it is known of entries already (`Swapping.of_steps`). It remains to say whose login an entry
is held by, that those who have been served have a session in the table, and that a callback that has
begun goes on until its end (`Orderly`).
-/

namespace Intercept

variable {σ γ : Type}

namespace SwapSystem

variable {w w' : SwapSystem σ γ} {key : SessionKey} {k : Nat}

/-! ### What lasts -/

/-- A request misses its session only where there is none. -/
lemma missed_step (hstep : Step w w') (h : w.proxy.session? key ≠ none) {r : Request}
    (hdest : w.destination r = .current key) (hmissed : w'.tasks[k]? = some ⟨r, .answered none⟩) :
    w.tasks[k]? = some ⟨r, .answered none⟩ := by
  have hgoto {j : Nat} {phase phase' : RequestPhase} {r' : Request}
      (htask : w.tasks[j]? = some ⟨r', phase⟩) (hother : r' = r → phase' ≠ .answered none)
      (hmissed : (w.goto j phase').tasks[k]? = some ⟨r, .answered none⟩) :
      w.tasks[k]? = some ⟨r, .answered none⟩ := by
    rcases getElem?_goto hmissed with ⟨-, hold⟩ | ⟨-, u, hu, heq⟩
    · exact hold
    · obtain rfl : u = ⟨r', phase⟩ := Option.some.inj (hu.symm.trans htask)
      obtain ⟨hrequest, hphase⟩ := RequestTask.mk.inj heq
      exact absurd hphase.symm (hother hrequest.symm)
  cases hstep with
  | call r' =>
    rcases getElem?_concat hmissed with ⟨-, hold⟩ | ⟨-, hnew⟩
    · exact hold
    · obtain ⟨-, hphase⟩ := RequestTask.mk.inj hnew
      contradiction
  | pass htask hdest' =>
    refine hgoto htask (fun heq => ?_) hmissed
    rw [heq, hdest] at hdest'
    contradiction
  | @miss j r' key' htask hdest' hfree hsession =>
    refine hgoto htask (fun heq => ?_) hmissed
    rw [heq, hdest] at hdest'
    obtain rfl := Destination.current.inj hdest'
    exact absurd hsession h
  | find htask hdest' hfree hsession => exact hgoto htask (fun _ h => by contradiction) hmissed
  | acquire htask hdest' hfree => exact hgoto htask (fun _ h => by contradiction) hmissed
  | release hlogin =>
    rcases getElem?_goto (w := w) hmissed with ⟨-, hold⟩ | ⟨-, u, -, heq⟩
    · exact hold
    · obtain ⟨-, hphase⟩ := RequestTask.mk.inj heq
      contradiction
  | finish htask => exact hgoto htask (fun _ h => by simp at h) hmissed
  | _ => exact hmissed

/-- Once an identity has a session, it always has one, and no request of it misses its session any
more. -/
theorem serves_of_steps (h : w.proxy.session? key ≠ none) (hsteps : Steps w w') :
    w'.proxy.session? key ≠ none ∧ ∀ (k : Nat) (r : Request), w.destination r = .current key →
      w'.tasks[k]? = some ⟨r, .answered none⟩ → w.tasks[k]? = some ⟨r, .answered none⟩ := by
  induction hsteps with
  | refl => exact ⟨h, fun k r _ hmissed => hmissed⟩
  | @tail w₁ w₂ hsteps hstep ih =>
    obtain ⟨hserves, hmissed⟩ := ih
    have hsame : w₁.destination = w.destination := destination_congr (settings_steps hsteps)
    refine ⟨session?_step hstep hserves, fun k r hdest hnow => hmissed k r hdest ?_⟩
    exact missed_step hstep hserves ((congrFun hsame r).trans hdest) hnow

/-! ### The swap -/

/-- The swap of sessions over all interleavings of steps. Whatever modules do, of a proxy that has
been set up and is used by any number of logins and other requests it holds at any time:

* A session that was given to a request, be it a login or not, is of the identity of the request and
  completely initialised: all init functions have returned, and the hooks are in order.
* From then on, that is, from the end of the first login at the latest, the identity always has a
  session, and no request of the identity misses it any more.
* When a session has been shut down for a new one, each of its modules has had its turn, every
  callback that has begun has ended, and none begins afterwards.
* When the init function of a module begins, all earlier sessions of the identity have been shut down.
* Of all sessions of an identity, one at most has not been shut down. -/
theorem steps_swap_atomically (c : EngineConfig) (f : HostFilter) (registry : ModuleRegistry σ)
    (memory : σ) (ls : Listeners) {w : SwapSystem σ γ}
    (h : Steps { proxy := Proxy.setUp c f registry memory ls } w) :
    (∀ t ∈ w.tasks, ∀ n, t.phase.session? = some n → ∃ s, w.proxy.engine.session? n = some s ∧
      t.request.identity? c f = some s.key ∧ s.Ready registry.modules ∧
      ∀ w', Steps w w' → w'.proxy.session? s.key ≠ none ∧
        ∀ (k : Nat) (r : Request), r.destination c f = .current s.key →
          w'.tasks[k]? = some ⟨r, .answered none⟩ → w.tasks[k]? = some ⟨r, .answered none⟩) ∧
    (∀ p m : Nat, w.log[p]? = some (.ended m) → ∃ s, w.proxy.engine.session? m = some s ∧
      (∀ i ∈ s.modules, ∃ q < p, w.log[q]? = some (.turnEnds m i)) ∧
      ∀ q i : Nat, w.log[q]? = some (.callbackBegins m i) →
        ∃ q', q < q' ∧ q' < p ∧ w.log[q']? = some (.turnEnds m i)) ∧
    (∀ p n : Nat, w.log[p]? = some (.initBegins n) → ∃ s, w.proxy.engine.session? n = some s ∧
      ∀ m t, m < n → w.proxy.engine.session? m = some t → t.key = s.key →
        ∃ q < p, w.log[q]? = some (.ended m)) ∧
    ∀ m n s t, w.proxy.engine.session? m = some s → w.proxy.engine.session? n = some t →
      s.key = t.key → .ended m ∉ w.log → .ended n ∉ w.log → m = n := by
  have hswap := Swapping.of_steps h
  have horderly := Orderly.of_steps h
  have hsettings := settings_steps h
  obtain ⟨hconfig, hrest⟩ := Prod.mk.inj hsettings
  obtain ⟨hfilter, hregistry⟩ := Prod.mk.inj hrest
  have hdest : ∀ r : Request, w.destination r = r.destination c f :=
    congrFun (destination_congr hsettings)
  refine ⟨?_, ?_, hswap.logged.begun, ?_⟩
  · intro t ht n hn
    obtain ⟨key, hidentity, ⟨s, hs, rfl, hready⟩, hsession⟩ := hswap.handed t ht n hn
    rw [hregistry] at hready
    rw [hconfig, hfilter] at hidentity
    refine ⟨s, hs, hidentity, hready, fun w' hsteps => ?_⟩
    obtain ⟨hlasts, hmissed⟩ := serves_of_steps hsession hsteps
    exact ⟨hlasts, fun k r hcurrent => hmissed k r ((hdest r).trans hcurrent)⟩
  · intro p m hp
    obtain ⟨s, hs, hturns, hlast⟩ := hswap.logged.ended p m hp
    refine ⟨s, hs, hturns, fun q i hq => ?_⟩
    rcases horderly.running q m i hq with ⟨q', hlt, hq'⟩ | ⟨key, ⟨k, phase⟩, hlogin, hrun⟩
    · exact ⟨q', hlt, hlast q' i (Or.inr hq'), hq'⟩
    · -- A login that runs callbacks of a session has not shut it down yet.
      have hm : phase.session? = some m := LoginPhase.session?_of_running hrun
      exact absurd (List.mem_of_getElem? hp) (hswap.live_of_login hlogin hm)
  · intro m n s t hs ht hkey hm hn
    exact hswap.eq_of_live hs ht hkey hm hn

/-- A user logs in and then once more. The requests have been given two different sessions, one of
which has been shut down, and no later request of the user misses its session. -/
theorem steps_swap_reconnect :
    let c : EngineConfig := {}
    let f : HostFilter :=
      { deny := none, gameHost := .group 1 .empty, config := { regions := [("", "GL")] } }
    let r : Request := { host := "h", path := "/account/login", body := "\x7b\"uid\":7\x7d".toUTF8 }
    let registry : ModuleRegistry Unit :=
      { modules := [⟨"m", fun ctx =>
        .onShutdown ctx (fun _ => .finish ByteArray.empty) (.finish ByteArray.empty)⟩] }
    let start : SwapSystem Unit Unit := { proxy := Proxy.setUp c f registry () [] }
    ∃ w m n, Steps start w ∧ w.tasks = [⟨r, .handed m⟩, ⟨r, .handed n⟩] ∧ m < n ∧
      (.ended m ∈ w.log ∨ .ended n ∈ w.log) ∧
      ∀ w', Steps w w' → w'.proxy.session? ⟨"GL", 7⟩ ≠ none := by
  intro c f r registry start
  have hlogin : r.destination c f = .login ⟨"GL", 7⟩ := by cbv
  have hfirst : Step start { start with tasks := [⟨r, .waiting⟩] } := .call r
  obtain ⟨w₁, hsteps₁, hproxy₁, htasks₁, hlogins₁⟩ := steps_addUser
    (w := { start with tasks := [⟨r, .waiting⟩] }) (k := 0) rfl hlogin rfl
    fun m s hm => by contradiction
  have hreached₁ : Steps start w₁ := hsteps₁.head hfirst
  have hlogin₁ : w₁.destination r = .login ⟨"GL", 7⟩ :=
    (congrFun (destination_congr (settings_steps hreached₁)) r).trans hlogin
  -- The first login is completed, and the second one comes.
  let w₁' : SwapSystem Unit Unit := { w₁ with tasks := w₁.tasks ++ [⟨r, .waiting⟩] }
  have hsecond : Step w₁ w₁' := .call r
  have htask : w₁'.tasks[1]? = some ⟨r, .waiting⟩ := by
    change (w₁.tasks ++ _)[1]? = _
    rw [htasks₁]
    rfl
  have hkey : ∀ m s, w₁.proxy.session? ⟨"GL", 7⟩ = some m → w₁.proxy.engine.session? m = some s →
      s.key = ⟨"GL", 7⟩ := by
    intro m s hm hs
    obtain ⟨s', hs', hkey, -⟩ := (Swapping.of_steps hreached₁).table _ m hm
    obtain rfl : s = s' := Option.some.inj (hs.symm.trans hs')
    exact hkey
  obtain ⟨w₂, hsteps₂, -, htasks₂, -⟩ :=
    steps_addUser htask hlogin₁ (congrFun hlogins₁ _) hkey
  have hreached₂ : Steps start w₂ := (hreached₁.tail hsecond).trans hsteps₂
  set m := (start.proxy.addUser ⟨"GL", 7⟩).2
  set n := (w₁.proxy.addUser ⟨"GL", 7⟩).2 with hn
  have htasks : w₂.tasks = [⟨r, .handed m⟩, ⟨r, .handed n⟩] := by
    rw [htasks₂]
    change (w₁.tasks ++ _).modify 1 _ = _
    rw [htasks₁]
    rfl
  obtain ⟨hgiven₁, -⟩ := steps_swap_atomically c f registry () [] hreached₁
  obtain ⟨hgiven₂, -, -, honly⟩ := steps_swap_atomically c f registry () [] hreached₂
  obtain ⟨s, hs, hidentity, -, hlasts⟩ :=
    hgiven₂ ⟨r, .handed m⟩ (by rw [htasks]; exact List.mem_cons_self) m rfl
  obtain ⟨t, ht, hidentity', -, -⟩ :=
    hgiven₂ ⟨r, .handed n⟩ (by rw [htasks]; exact List.mem_cons_of_mem _ List.mem_cons_self) n rfl
  have hmn : m < n := by
    obtain ⟨s, hs, -⟩ := hgiven₁ ⟨r, .handed m⟩ (by rw [htasks₁]; exact List.mem_cons_self) m rfl
    rw [hn, Proxy.addUser_eq]
    exact (List.getElem?_eq_some_iff.1 hs).1
  have hsame : s.key = t.key := Option.some.inj (hidentity.symm.trans hidentity')
  have hkey : s.key = ⟨"GL", 7⟩ := by
    have hself : r.identity? c f = some ⟨"GL", 7⟩ := by rw [Request.identity?, hlogin]
    exact Option.some.inj (hidentity.symm.trans hself)
  refine ⟨w₂, m, n, hreached₂, htasks, hmn, ?_, fun w' hsteps => hkey ▸ (hlasts w' hsteps).1⟩
  by_contra hlive
  obtain ⟨hm, hn⟩ := not_or.1 hlive
  exact Nat.ne_of_lt hmn (honly m n s t hs ht hsame hm hn)

end SwapSystem

end Intercept
