import Intercept.Proofs.Proxy.Step

/-!
# Sound proxies

A proxy keeps three things together: the sessions that were ever started, the table with the current
session of each identity, and the exchanges in progress, each of which may be bound to a session. In a
sound proxy the table has one entry for an identity at most, every entry is a session of that
identity, every exchange is bound to a session that exists, and a session is alive exactly as long as
an entry or an exchange refers to it.

A proxy that was just set up is sound, and no step makes it unsound (`Sound.run`).
-/

namespace Intercept

namespace Proxy

variable {σ γ : Type}

/-! ### What refers to a session -/

/-- A session is referred to by an entry of the table or by an exchange that is bound to it. -/
lemma refersTo_iff {p : Proxy σ γ} {n : Nat} : p.refersTo n = true ↔
    (∃ key, (key, n) ∈ p.table) ∨ ∃ name x, (name, x) ∈ p.exchanges ∧ x.session = some n := by
  simp [refersTo]

/-- Those sessions stay alive that were, and that something refers to. -/
lemma roll_dropUnused (p : Proxy σ γ) : p.dropUnused.engine.roll =
    p.engine.roll.mapIdx fun n entry => (entry.1, entry.2 && p.refersTo n) := by
  refine List.ext_getElem? fun n => ?_
  rw [dropUnused, Engine.roll, Engine.roll, List.getElem?_map, List.getElem?_mapIdx,
    List.getElem?_mapIdx, List.getElem?_map]
  cases p.engine.sessions[n]? <;> rfl

/-- The table and the exchanges refer to sessions as they should, and nothing refers to a session
that is not alive. -/
structure Attached (p : Proxy σ γ) : Prop where
  keys : p.keys.Nodup
  current : ∀ key n, (key, n) ∈ p.table → ∃ alive, p.engine.roll[n]? = some (key, alive)
  bound : ∀ name x n, (name, x) ∈ p.exchanges → x.session = some n → n < p.engine.roll.length
  alive : ∀ n key alive, p.engine.roll[n]? = some (key, alive) → p.refersTo n = true → alive = true

/-- The table and the exchanges refer to sessions as they should, and to just those that are alive. -/
structure Sound (p : Proxy σ γ) : Prop extends Attached p where
  referred : ∀ n key, p.engine.roll[n]? = some (key, true) → p.refersTo n = true

/-- A proxy is sound when the life of the sessions has ended that nothing refers to. -/
lemma Attached.dropUnused {p : Proxy σ γ} (h : Attached p) : Sound p.dropUnused where
  keys := h.keys
  current key n hmem := by
    obtain ⟨alive, hroll⟩ := h.current key n hmem
    rw [roll_dropUnused, List.getElem?_mapIdx, hroll]
    exact ⟨_, rfl⟩
  bound name x n hmem hsession := by
    rw [roll_dropUnused, List.length_mapIdx]
    exact h.bound name x n hmem hsession
  alive n key alive hroll hrefers := by
    rw [roll_dropUnused, List.getElem?_mapIdx] at hroll
    obtain ⟨entry, hentry, heq⟩ := Option.map_eq_some_iff.1 hroll
    obtain ⟨rfl, rfl⟩ := Prod.mk.inj heq
    rw [h.alive n entry.1 entry.2 hentry hrefers]
    exact hrefers
  referred n key hroll := by
    rw [roll_dropUnused, List.getElem?_mapIdx] at hroll
    obtain ⟨entry, hentry, heq⟩ := Option.map_eq_some_iff.1 hroll
    exact (Bool.and_eq_true_iff.1 (Prod.mk.inj heq).2).2

namespace Sound

variable {p : Proxy σ γ}

/-- What does not change the roll keeps a proxy sound. -/
lemma of_roll (h : Sound p) {e : Engine σ} (hroll : e.roll = p.engine.roll) :
    Sound { p with engine := e } where
  keys := h.keys
  current key n := by
    rw [hroll]
    exact h.current key n
  bound name x n := by
    rw [hroll]
    exact h.bound name x n
  alive n key alive := by
    rw [hroll]
    exact h.alive n key alive
  referred n key := by
    rw [hroll]
    exact h.referred n key

/-- What refers to a session refers to one that exists. -/
lemma lt_of_refersTo (h : Sound p) {n : Nat} (hrefers : p.refersTo n = true) :
    n < p.engine.roll.length := by
  rcases refersTo_iff.1 hrefers with ⟨key, hmem⟩ | ⟨name, x, hmem, hsession⟩
  · obtain ⟨_, hroll⟩ := h.current key n hmem
    exact (List.getElem?_eq_some_iff.1 hroll).1
  · exact h.bound name x n hmem hsession

/-- The current session of an identity is one of its own, and alive. -/
lemma roll_of_session? (h : Sound p) {key : SessionKey} {n : Nat} (hs : p.session? key = some n) :
    p.engine.roll[n]? = some (key, true) := by
  have hmem := mem_of_find?_key hs
  obtain ⟨alive, hroll⟩ := h.current key n hmem
  rw [hroll, h.alive n key alive hroll (refersTo_iff.2 (Or.inl ⟨key, hmem⟩))]

/-- The entries of the table are live sessions of their identities. -/
lemma roll_of_mem (h : Sound p) {key : SessionKey} {n : Nat} (hmem : (key, n) ∈ p.table) :
    p.engine.roll[n]? = some (key, true) :=
  h.roll_of_session? (find?_key_of_mem h.keys hmem)

/-- Around the entry of an identity there are those of others, however the table is arranged. -/
lemma arranged_around (h : Sound p) {key : SessionKey} {n : Nat} (hs : p.session? key = some n)
    (rank : SessionKey → Nat) :
    ∃ before after, p.arranged rank = before ++ (key, n) :: after ∧
      ∀ k m, (k, m) ∈ before ++ after → k ≠ key ∧ p.engine.roll[m]? = some (k, true) := by
  obtain ⟨before, after, htable⟩ := List.append_of_mem (mem_arranged.2 (mem_of_find?_key hs))
  have hkeys : ((p.arranged rank).map Prod.fst).Nodup :=
    ((p.arranged_perm rank).map Prod.fst).nodup_iff.2 h.keys
  rw [htable, List.map_append, List.map_cons] at hkeys
  have hfresh := (List.nodup_middle.1 hkeys).notMem
  rw [← List.map_append] at hfresh
  refine ⟨before, after, htable, fun k m hmem => ⟨?_, ?_⟩⟩
  · rintro rfl
    have hkey := List.mem_map_of_mem (f := Prod.fst) hmem
    exact hfresh hkey
  · have hvisited : (k, m) ∈ p.arranged rank := by
      rw [htable]
      exact List.perm_middle.mem_iff.2 (List.mem_cons_of_mem _ hmem)
    exact h.roll_of_mem (mem_arranged.1 hvisited)

/-- A session that an exchange is bound to is alive. -/
lemma roll_of_bound (h : Sound p) {name : String} {x : Exchange} {n : Nat}
    (hmem : (name, x) ∈ p.exchanges) (hsession : x.session = some n) :
    ∃ key, p.engine.roll[n]? = some (key, true) := by
  obtain ⟨⟨key, alive⟩, hroll⟩ : ∃ entry, p.engine.roll[n]? = some entry :=
    ⟨_, List.getElem?_eq_getElem (h.bound name x n hmem hsession)⟩
  refine ⟨key, ?_⟩
  rw [hroll, h.alive n key alive hroll (refersTo_iff.2 (Or.inr ⟨name, x, hmem, hsession⟩))]

/-- The session of an exchange in progress is alive. -/
lemma roll_of_exchange? (h : Sound p) {name : String} {x : Exchange} {n : Nat}
    (hx : p.exchange? name = some x) (hsession : x.session = some n) :
    ∃ key, p.engine.roll[n]? = some (key, true) :=
  h.roll_of_bound (mem_of_find?_key hx) hsession

end Sound

/-! ### Steps -/

namespace Attached

variable {p : Proxy σ γ}

/-- Exchanges may be kept if they are bound to sessions that are alive. -/
lemma keep (h : Attached p) {exchanges : List (String × Exchange)}
    (hkeep : ∀ name x n, (name, x) ∈ exchanges → x.session = some n →
      ∃ key, p.engine.roll[n]? = some (key, true)) : Attached { p with exchanges } where
  keys := h.keys
  current := h.current
  bound name x n hmem hsession := by
    obtain ⟨key, hroll⟩ := hkeep name x n hmem hsession
    exact (List.getElem?_eq_some_iff.1 hroll).1
  alive n key alive hroll hrefers := by
    rcases refersTo_iff.1 hrefers with hentry | ⟨name, x, hmem, hsession⟩
    · exact h.alive n key alive hroll (refersTo_iff.2 (Or.inl hentry))
    · obtain ⟨key', hroll'⟩ := hkeep name x n hmem hsession
      exact (Prod.mk.inj (Option.some.inj (hroll.symm.trans hroll'))).2

end Attached

namespace Sound

variable {p : Proxy σ γ}

/-- A proxy with a new session is sound. -/
lemma addUser (h : Sound p) (key : SessionKey) : Sound (p.addUser key).1 ∧
    (p.addUser key).1.session? key = some (p.addUser key).2 := by
  have hroll : (p.opened key).roll = p.engine.roll ++ [(key, true)] := by
    rw [opened, Engine.roll_startSession, ← p.view_closed Engine.enduring_roll.toLasting key]
    rfl
  have hold : ∀ n, n < p.engine.roll.length → (p.opened key).roll[n]? = p.engine.roll[n]? := by
    intro n hn
    rw [hroll]
    exact List.getElem?_append_left hn
  have hnew : (p.opened key).roll[p.engine.sessions.length]? = some (key, true) := by
    rw [hroll, ← Engine.length_roll]
    exact List.getElem?_concat_length
  rw [addUser_eq]
  refine ⟨Attached.dropUnused ⟨?_, ?_, ?_, ?_⟩, (session?_setSession _ key key _).trans (if_pos rfl)⟩
  · rw [keys_setSession]
    split
    · exact h.keys
    · next hfresh =>
      refine List.nodup_append.2 ⟨h.keys, List.nodup_singleton key, ?_⟩
      intro a ha b hb
      rw [List.mem_singleton.1 hb]
      rintro rfl
      exact hfresh ha
  · intro key' n hmem
    change ∃ alive, (p.opened key).roll[n]? = some (key', alive)
    rcases mem_setSession hmem with ⟨rfl, rfl⟩ | hmem
    · exact ⟨true, hnew⟩
    · obtain ⟨alive, hentry⟩ := h.current key' n hmem
      exact ⟨alive, (hold n (List.getElem?_eq_some_iff.1 hentry).1).trans hentry⟩
  · intro name x n hmem hsession
    change n < (p.opened key).roll.length
    rw [hroll, List.length_append]
    exact Nat.lt_add_right _ (h.bound name x n hmem hsession)
  · intro n key' alive hentry hrefers
    change (p.opened key).roll[n]? = some (key', alive) at hentry
    have hcases : n = p.engine.sessions.length ∨ p.refersTo n = true := by
      rcases refersTo_iff.1 hrefers with ⟨key'', hmem⟩ | hexchange
      · rcases mem_setSession hmem with ⟨-, rfl⟩ | hmem
        · exact Or.inl rfl
        · exact Or.inr (refersTo_iff.2 (Or.inl ⟨key'', hmem⟩))
      · exact Or.inr (refersTo_iff.2 (Or.inr hexchange))
    rcases hcases with rfl | hrefers
    · rw [hnew] at hentry
      exact (Prod.mk.inj (Option.some.inj hentry)).2.symm
    · rw [hold n (h.lt_of_refersTo hrefers)] at hentry
      exact h.alive n key' alive hentry hrefers

/-- Dispatching a request keeps a proxy sound. -/
lemma forward (h : Sound p) (n : Nat) (r : Request) : Sound (p.forward n r).1 :=
  h.of_roll (p.engine.roll_dispatch n _ r.body _)

/-- Processing a request keeps a proxy sound, and binds its exchange to a session that is alive. -/
lemma processRequest (h : Sound p) (r : Request) : Sound (p.processRequest r).1 ∧
    ∀ n, (p.processRequest r).2.1.session = some n →
      ∃ key, (p.processRequest r).1.engine.roll[n]? = some (key, true) := by
  rcases p.processRequest_cases r with
    ⟨key, -, heq⟩ | ⟨key, n, -, hsession, heq⟩ | ⟨isBlocked, -, signals, -, heq⟩
  · rw [heq]
    obtain ⟨hadd, hcurrent⟩ := h.addUser key
    refine ⟨hadd.forward _ r, ?_⟩
    rintro n ⟨rfl⟩
    refine ⟨key, ?_⟩
    rw [← hadd.roll_of_session? hcurrent]
    exact congrArg (·[_]?) (Engine.roll_dispatch _ _ _ _ _)
  · rw [heq]
    refine ⟨h.forward n r, ?_⟩
    rintro m ⟨rfl⟩
    refine ⟨key, ?_⟩
    rw [← h.roll_of_session? hsession]
    exact congrArg (·[_]?) (Engine.roll_dispatch _ _ _ _ _)
  · rw [heq]
    exact ⟨h.of_roll rfl, fun n hn => by contradiction⟩

/-- Whatever comes from outside keeps a proxy sound. -/
theorem handle (h : Sound p) (t : Traffic) : Sound (p.handle t) := by
  cases t with
  | request name r =>
    obtain ⟨hprocessed, hbound⟩ := h.processRequest r
    rw [Proxy.handle, handleRequest_eq]
    refine Attached.dropUnused (hprocessed.toAttached.keep ?_)
    intro name' x n hmem hsession
    rcases List.mem_cons.1 hmem with heq | hmem
    · obtain ⟨rfl, rfl⟩ := Prod.mk.inj heq
      exact hbound n hsession
    · exact hprocessed.roll_of_bound (List.mem_of_mem_filter hmem) hsession
  | response name body =>
    rw [Proxy.handle]
    cases p.exchange? name with
    | none => exact h
    | some x =>
      simp only [Proxy.handleResponse]
      split_ifs
      · exact h
      · cases x.session with
        | none => exact h
        | some n => exact h.of_roll (p.engine.roll_dispatch n x.responseOp body x.packetMeta)
  | finish name =>
    refine Attached.dropUnused (h.toAttached.keep fun name' x n hmem hsession => ?_)
    exact h.roll_of_bound (List.mem_of_mem_filter hmem) hsession
  | start =>
    have hroll := p.view_start Engine.enduring_roll.toLasting
    rw [Proxy.handle]
    unfold Proxy.start at hroll ⊢
    split_ifs at hroll ⊢
    · exact h
    · exact { h.of_roll hroll with }
  | shutdown rank => exact h.of_roll (p.view_shutdown Engine.enduring_roll.toLasting rank)

/-- Every step keeps a proxy sound. -/
lemma step (h : Sound p) (s : ProxyStep σ) : Sound (p.step s) := by
  cases s with
  | traffic t => exact h.handle t
  | code program => exact h.of_roll (Engine.enduring_roll.run p.engine program)

/-- However many steps keep a proxy sound. -/
theorem run (h : Sound p) (steps : List (ProxyStep σ)) : Sound (p.run steps) := by
  induction steps generalizing p with
  | nil => exact h
  | cons s steps ih => exact ih (h.step s)

/-- A proxy that has just been set up is sound. -/
lemma setUp (c : EngineConfig) (f : HostFilter) (registry : ModuleRegistry σ) (memory : σ)
    (ls : Listeners) : Sound (Proxy.setUp c f registry memory ls : Proxy σ γ) where
  keys := List.nodup_nil
  current _ _ hmem := by contradiction
  bound _ _ _ hmem := by contradiction
  alive _ _ _ hroll := by contradiction
  referred _ _ hroll := by contradiction

end Sound

end Proxy

end Intercept