import Intercept.Proofs.Proxy.Request

/-!
# What a step of a proxy changes

The parts of a proxy are changed by few steps. The table changes in logins only, where the new session
becomes the current one of its identity (`frame_step`). What lasts in an engine and is not touched by
packets does so in a proxy, but for logins (`view_step`). An exchange in progress is replaced or
forgotten only by a step that says so (`exchange?_step`).
-/

namespace Intercept

/-! ### Lists of entries -/

section Entries

variable {κ β : Type} [DecidableEq κ]

/-- What is found under a key is an entry with that key. -/
lemma find?_key {l : List (κ × β)} {k : κ} {e : κ × β}
    (h : (l.find? fun e => e.1 = k) = some e) : e ∈ l ∧ e.1 = k :=
  ⟨List.mem_of_find?_eq_some h, by simpa using List.find?_some h⟩

/-- What is found under a key is one of the entries. -/
lemma mem_of_find?_key {l : List (κ × β)} {k : κ} {v : β}
    (h : (l.find? fun e => e.1 = k).map (·.2) = some v) : (k, v) ∈ l := by
  obtain ⟨e, he, rfl⟩ := Option.map_eq_some_iff.1 h
  obtain ⟨hmem, rfl⟩ := find?_key he
  exact hmem

/-- Every entry is found if no key is repeated. -/
lemma find?_key_of_mem {l : List (κ × β)} (hnodup : (l.map Prod.fst).Nodup) {k : κ} {v : β}
    (h : (k, v) ∈ l) : (l.find? fun e => e.1 = k).map (·.2) = some v := by
  have hsome : (l.find? fun e => e.1 = k).isSome = true :=
    List.find?_isSome.2 ⟨(k, v), h, decide_eq_true rfl⟩
  obtain ⟨e, he⟩ := Option.isSome_iff_exists.1 hsome
  obtain ⟨hmem, hkey⟩ := find?_key he
  rw [he, List.inj_on_of_nodup_map hnodup hmem h hkey]
  rfl

/-- Entries of other keys are found as if those of one key were not there. -/
lemma find?_key_filter_ne {l : List (κ × β)} {k k' : κ} (hne : k' ≠ k) :
    ((l.filter fun e => e.1 ≠ k).find? fun e => e.1 = k') = l.find? fun e => e.1 = k' := by
  rw [List.find?_filter]
  refine congrArg (List.find? · l) (funext fun e => ?_)
  by_cases he : e.1 = k'
  · simp [he, hne]
  · simp [he]

/-- An entry that takes the place of those of its key. -/
lemma find?_key_replace (l : List (κ × β)) (k k' : κ) (v : β) :
    ((((k, v) :: l.filter fun e => e.1 ≠ k).find? fun e => e.1 = k').map (·.2)) =
      if k' = k then some v else (l.find? fun e => e.1 = k').map (·.2) := by
  by_cases h : k' = k
  · simp [h]
  · have hfirst : ¬ k = k' := fun heq => h heq.symm
    rw [if_neg h, List.find?_cons_of_neg (by simpa using hfirst), find?_key_filter_ne h]

end Entries

/-- Whether a step replaces or ends the exchange of a name. -/
def ProxyStep.Renames {σ : Type} (name : String) : ProxyStep σ → Prop
  | .traffic (.request other _) => other = name
  | .traffic (.finish other) => other = name
  | _ => False

namespace Proxy

variable {σ γ : Type}

/-! ### The table -/

/-- The identities with a session. -/
def keys (p : Proxy σ γ) : List SessionKey := p.table.map Prod.fst

/-- A session that becomes the current one takes the place of an earlier one. -/
lemma keys_setSession (p : Proxy σ γ) (key : SessionKey) (n : Nat) :
    (p.setSession key n).keys = if key ∈ p.keys then p.keys else p.keys ++ [key] := by
  have hany : (p.table.any fun e => e.1 = key) = true ↔ key ∈ p.keys := by
    simp [keys]
  unfold setSession
  by_cases hkey : key ∈ p.keys
  · rw [if_pos hkey, if_pos (hany.2 hkey), keys, keys, List.map_map]
    refine List.map_congr_left fun e _ => ?_
    by_cases he : e.1 = key
    · simp [he]
    · simp [he]
  · rw [if_neg hkey, if_neg fun h => hkey (hany.1 h), keys, keys, List.map_append]
    rfl

/-- A session that becomes the current one of its identity changes no other identity. -/
lemma session?_setSession (p : Proxy σ γ) (key key' : SessionKey) (n : Nat) :
    (p.setSession key n).session? key' = if key' = key then some n else p.session? key' := by
  unfold setSession session?
  by_cases hany : (p.table.any fun e => e.1 = key) = true
  · have hsame : ((fun e : SessionKey × Nat => decide (e.1 = key')) ∘
        fun e => if e.1 = key then (key, n) else e) = fun e => decide (e.1 = key') := by
      funext e
      by_cases he : e.1 = key
      · simp [he]
      · simp [he]
    simp only [if_pos hany]
    rw [List.find?_map, hsame]
    split
    · next heq =>
      obtain ⟨e, he, hkey⟩ := List.any_eq_true.1 hany
      have hkey : e.1 = key := of_decide_eq_true hkey
      have hfound : (p.table.find? fun e => e.1 = key').isSome = true :=
        List.find?_isSome.2 ⟨e, he, decide_eq_true (hkey.trans heq.symm)⟩
      obtain ⟨e', he'⟩ := Option.isSome_iff_exists.1 hfound
      have hkey' : e'.1 = key := (find?_key he').2.trans heq
      simp [he', hkey']
    · next hne =>
      cases he : p.table.find? fun e => e.1 = key' with
      | none => rfl
      | some e =>
        have hkey : e.1 = key' := (find?_key he).2
        have hother : e.1 ≠ key := fun h => hne (hkey.symm.trans h)
        simp [hother]
  · simp only [if_neg hany, List.find?_append]
    split
    · next heq =>
      subst heq
      have hnone : (p.table.find? fun e => e.1 = key') = none := by
        rw [List.find?_eq_none]
        intro e he hkey
        exact hany (List.any_eq_true.2 ⟨e, he, hkey⟩)
      simp [hnone]
    · next hne =>
      have hnew : ¬ key = key' := fun h => hne h.symm
      simp [hnew]

/-- The entries of the table when a session has become the current one of its identity. -/
lemma mem_setSession {p : Proxy σ γ} {key key' : SessionKey} {n m : Nat}
    (h : (key', m) ∈ (p.setSession key n).table) :
    key' = key ∧ m = n ∨ (key', m) ∈ p.table := by
  unfold setSession at h
  by_cases hany : (p.table.any fun e => e.1 = key) = true
  · simp only [if_pos hany] at h
    obtain ⟨e, he, heq⟩ := List.mem_map.1 h
    split at heq
    · obtain ⟨rfl, rfl⟩ := Prod.mk.inj heq
      exact Or.inl ⟨rfl, rfl⟩
    · exact Or.inr (heq ▸ he)
  · simp only [if_neg hany] at h
    rcases List.mem_append.1 h with hold | hnew
    · exact Or.inr hold
    · obtain ⟨rfl, rfl⟩ := Prod.mk.inj (List.mem_singleton.1 hnew)
      exact Or.inl ⟨rfl, rfl⟩

/-! ### What lasts in a proxy -/

/-- A session of which it has been settled whether something refers to it. -/
lemma session?_dropUnused (p : Proxy σ γ) (n : Nat) : p.dropUnused.engine.session? n =
    (p.engine.session? n).map fun s => { s with isAlive := s.isAlive && p.refersTo n } :=
  List.getElem?_mapIdx

/-- What is seen of sessions apart from their life is the same when the life of some has ended. -/
lemma map_dropUnused {β : Type} {g : Session σ → β}
    (h : ∀ s isAlive, g { s with isAlive } = g s) (p : Proxy σ γ) :
    p.dropUnused.engine.sessions.map g = p.engine.sessions.map g := by
  refine List.ext_getElem? fun n => ?_
  rw [dropUnused, List.getElem?_map, List.getElem?_mapIdx, List.getElem?_map]
  cases p.engine.sessions[n]? with
  | none => rfl
  | some s => exact congrArg some (h s _)

/-- The engine when the session of an identity, if it has one, has been shut down for a new one. -/
def closed (p : Proxy σ γ) (key : SessionKey) : Engine σ :=
  match p.session? key with
  | none => p.engine
  | some old => p.engine.shutdown old false

/-- The engine when the new session has been counted and started. -/
def opened (p : Proxy σ γ) (key : SessionKey) : Engine σ :=
  (((p.closed key).emit [.count .sessionsCreated 1]).startSession key p.config.state p.registry).1

/-- What lasts is the same when the session of an identity has been shut down. -/
lemma view_closed {β : Type} {view : Engine σ → β} (h : Engine.Lasting view) (p : Proxy σ γ)
    (key : SessionKey) : view (p.closed key) = view p.engine := by
  unfold closed
  cases p.session? key with
  | none => rfl
  | some old => exact h.shutdown p.engine old false

/-- No session is added by shutting one down. -/
lemma length_closed (p : Proxy σ γ) (key : SessionKey) :
    (p.closed key).sessions.length = p.engine.sessions.length := by
  rw [← Engine.length_roll, p.view_closed Engine.enduring_roll.toLasting, Engine.length_roll]

/-- A login shuts the session down that the identity has, and starts a new one. -/
lemma addUser_eq (p : Proxy σ γ) (key : SessionKey) :
    p.addUser key =
      (({ p with engine := p.opened key }.setSession key p.engine.sessions.length).dropUnused,
        p.engine.sessions.length) := by
  have hnumber : p.addUser key =
      (({ p with engine := p.opened key }.setSession key (p.closed key).sessions.length).dropUnused,
        (p.closed key).sessions.length) := by
    unfold addUser opened closed
    cases p.session? key <;> rfl
  rw [hnumber, length_closed]

/-- What lasts is the same when the proxy has started to serve. -/
lemma view_start {β : Type} {view : Engine σ → β} (h : Engine.Lasting view) (p : Proxy σ γ) :
    view p.start.engine = view p.engine := by
  have hcallback : ∀ (e : Engine σ) callback, view (runStart e callback) = view e := by
    intro e callback
    obtain ⟨signals, hcounts, heq⟩ := runStart_eq e callback
    rw [heq]
    exact (h.emit _ signals (hcounts _)).trans (h.run e callback)
  unfold start
  split_ifs
  · rfl
  · exact Engine.view_foldl id hcallback p.registry.onStart p.engine

/-- What is visited in a shutdown is the table, in some order. -/
lemma arranged_perm (p : Proxy σ γ) (rank : SessionKey → Nat) : (p.arranged rank).Perm p.table :=
  List.mergeSort_perm p.table _

/-- An entry is visited in a shutdown if it is in the table. -/
lemma mem_arranged {p : Proxy σ γ} {rank : SessionKey → Nat} {entry : SessionKey × Nat} :
    entry ∈ p.arranged rank ↔ entry ∈ p.table := (p.arranged_perm rank).mem_iff

/-- Where the identities in the table are distinct, no order of it is left out: each is that of some
rank. -/
theorem exists_arranged_eq {p : Proxy σ γ} (hkeys : p.keys.Nodup) {entries : List (SessionKey × Nat)}
    (h : entries.Perm p.table) : ∃ rank, p.arranged rank = entries := by
  have hnodup : (entries.map Prod.fst).Nodup := (h.map Prod.fst).nodup_iff.2 hkeys
  let rank : SessionKey → Nat := fun key => (entries.map Prod.fst).idxOf key
  have hrank : ∀ i (hi : i < entries.length), rank entries[i].1 = i := by
    intro i hi
    have hidx := hnodup.idxOf_getElem i (by rwa [List.length_map])
    rwa [List.getElem_map] at hidx
  have harranged : (p.arranged rank).Pairwise fun a b => decide (rank a.1 ≤ rank b.1) = true := by
    apply List.pairwise_mergeSort
    · intro a b c hab hbc
      exact decide_eq_true ((of_decide_eq_true hab).trans (of_decide_eq_true hbc))
    · intro a b
      rcases le_total (rank a.1) (rank b.1) with hle | hle <;> simp [hle]
  have hentries : entries.Pairwise fun a b => decide (rank a.1 ≤ rank b.1) = true := by
    refine List.pairwise_iff_getElem.2 fun i j hi hj hlt => ?_
    rw [hrank i hi, hrank j hj]
    exact decide_eq_true hlt.le
  have hperm : (p.arranged rank).Perm entries := (p.arranged_perm rank).trans h.symm
  refine ⟨rank, hperm.eq_of_pairwise (fun a b ha hb hab hba => ?_) harranged hentries⟩
  -- entries of one rank stand at one place
  obtain ⟨i, hi, rfl⟩ := List.getElem_of_mem (hperm.mem_iff.1 ha)
  obtain ⟨j, hj, rfl⟩ := List.getElem_of_mem hb
  have hsame := (of_decide_eq_true hab).antisymm (of_decide_eq_true hba)
  rw [hrank i hi, hrank j hj] at hsame
  subst hsame
  rfl

/-- What lasts is the same when all current sessions have been shut down. -/
lemma view_shutdown {β : Type} {view : Engine σ → β} (h : Engine.Lasting view) (p : Proxy σ γ)
    (rank : SessionKey → Nat) : view (p.shutdown rank).engine = view p.engine := by
  refine Engine.view_foldl id ?_ (p.arranged rank) p.engine
  exact fun e entry => h.shutdown e entry.2 true

/-- A request is kept under its name, in the place of an earlier one. -/
lemma handleRequest_eq (p : Proxy σ γ) (name : String) (r : Request) :
    p.handleRequest name r =
      let (p', x, outcome) := p.processRequest r
      ({ p' with exchanges := (name, x) :: p'.exchanges.filter fun e => e.1 ≠ name }.dropUnused, x,
        outcome) := rfl

/-- The settings of a proxy: its configuration, the compiled filter and the modules. -/
def settings (p : Proxy σ γ) : EngineConfig × HostFilter × ModuleRegistry σ :=
  (p.config, p.filter, p.registry)

/-- No step changes the settings, and only logins change the table. -/
lemma frame_step (p : Proxy σ γ) (s : ProxyStep σ) : (p.step s).settings = p.settings ∧
    (p.step s).table =
      match s.login? p.config p.filter with
      | some key => (p.setSession key p.engine.sessions.length).table
      | none => p.table := by
  cases s with
  | code program => exact ⟨rfl, rfl⟩
  | traffic t =>
    cases t with
    | request name r =>
      have hsettings : (p.step (.traffic (.request name r))).settings =
          (p.processRequest r).1.settings := rfl
      have htable : (p.step (.traffic (.request name r))).table = (p.processRequest r).1.table := rfl
      rw [hsettings, htable, ProxyStep.login?, Traffic.login?]
      rcases p.processRequest_cases r with
        ⟨key, hdest, heq⟩ | ⟨key, n, hdest, -, heq⟩ | ⟨isBlocked, hdest, signals, -, heq⟩
      · rw [heq, hdest, addUser_eq]
        exact ⟨rfl, rfl⟩
      · rw [heq, hdest]
        exact ⟨rfl, rfl⟩
      · rw [heq]
        rcases hdest with hdest | ⟨-, key, hdest, -⟩ <;>
          rw [hdest] <;> exact ⟨rfl, rfl⟩
    | response name body =>
      rw [step, handle]
      cases p.exchange? name with
      | none => exact ⟨rfl, rfl⟩
      | some x =>
        simp only [handleResponse]
        split_ifs
        · exact ⟨rfl, rfl⟩
        · cases x.session <;> exact ⟨rfl, rfl⟩
    | finish name => exact ⟨rfl, rfl⟩
    | start =>
      rw [step, handle, start]
      split_ifs <;> exact ⟨rfl, rfl⟩
    | shutdown rank => exact ⟨rfl, rfl⟩

/-- The identities with a session are those before the step, and the one that logs in. -/
lemma keys_step (p : Proxy σ γ) (s : ProxyStep σ) : (p.step s).keys =
    match s.login? p.config p.filter with
    | some key => if key ∈ p.keys then p.keys else p.keys ++ [key]
    | none => p.keys := by
  have htable := (p.frame_step s).2
  unfold keys
  rw [htable]
  cases s.login? p.config p.filter with
  | none => rfl
  | some key => exact p.keys_setSession key p.engine.sessions.length

/-- However many steps do not change the settings. -/
lemma settings_run (p : Proxy σ γ) (steps : List (ProxyStep σ)) :
    (p.run steps).settings = p.settings := by
  induction steps generalizing p with
  | nil => rfl
  | cons s steps ih => exact (ih (p.step s)).trans (p.frame_step s).1

/-- No step changes the configuration. -/
lemma config_step (p : Proxy σ γ) (s : ProxyStep σ) : (p.step s).config = p.config :=
  congrArg (·.1) (p.frame_step s).1

/-- No step changes the filter. -/
lemma filter_step (p : Proxy σ γ) (s : ProxyStep σ) : (p.step s).filter = p.filter :=
  congrArg (·.2.1) (p.frame_step s).1

/-- However many steps do not change the configuration. -/
lemma config_run (p : Proxy σ γ) (steps : List (ProxyStep σ)) : (p.run steps).config = p.config :=
  congrArg (·.1) (p.settings_run steps)

/-- However many steps do not change the filter. -/
lemma filter_run (p : Proxy σ γ) (steps : List (ProxyStep σ)) : (p.run steps).filter = p.filter :=
  congrArg (·.2.1) (p.settings_run steps)

/-- What lasts, and is changed neither by the stores that take in packets nor by the end of the life
of sessions, is changed by logins only. -/
theorem view_step {β : Type} {view : Engine σ → β} (h : Engine.Lasting view)
    (hingest : ∀ (e : Engine σ) n op payload, view (e.ingest n op payload) = view e)
    (hdrop : ∀ p : Proxy σ γ, view p.dropUnused.engine = view p.engine) (p : Proxy σ γ)
    (s : ProxyStep σ) : view (p.step s).engine =
      match s.login? p.config p.filter with
      | some key => view (p.opened key)
      | none => view p.engine := by
  have hdispatch : ∀ (e : Engine σ) n op payload exchange,
      view (e.dispatch n op payload exchange).1 = view e :=
    fun e n op payload exchange => (h.dispatch e n op payload exchange).trans (hingest e n op payload)
  cases s with
  | code program => exact h.run p.engine program
  | traffic t =>
    cases t with
    | request name r =>
      have hdropped : view (p.step (.traffic (.request name r))).engine =
          view (p.processRequest r).1.engine := hdrop _
      rw [hdropped]
      rcases p.processRequest_cases r with
        ⟨key, hdest, heq⟩ | ⟨key, n, hdest, -, heq⟩ | ⟨isBlocked, hdest, signals, hcounts, heq⟩
      · have hlogin : (ProxyStep.traffic (σ := σ) (.request name r)).login? p.config p.filter =
            some key := by rw [ProxyStep.login?, Traffic.login?, hdest]
        rw [hlogin, heq]
        refine (hdispatch _ _ _ _ _).trans ?_
        rw [addUser_eq]
        exact hdrop _
      · have hlogin : (ProxyStep.traffic (σ := σ) (.request name r)).login? p.config p.filter =
            none := by rw [ProxyStep.login?, Traffic.login?, hdest]
        rw [hlogin, heq]
        exact hdispatch _ _ _ _ _
      · have hlogin : (ProxyStep.traffic (σ := σ) (.request name r)).login? p.config p.filter =
            none := by
          rcases hdest with hdest | ⟨-, key, hdest, -⟩ <;>
            rw [ProxyStep.login?, Traffic.login?, hdest]
        rw [hlogin, heq]
        exact h.emit p.engine signals (hcounts _)
    | response name body =>
      rw [step, handle]
      cases p.exchange? name with
      | none => rfl
      | some x =>
        simp only [handleResponse]
        split_ifs
        · rfl
        · cases x.session with
          | none => rfl
          | some n => exact hdispatch _ _ _ _ _
    | finish name => exact hdrop _
    | start => exact p.view_start h
    | shutdown rank => exact p.view_shutdown h rank

/-! ### Exchanges in progress -/

/-- Processing a request keeps no exchange. -/
lemma exchanges_processRequest (p : Proxy σ γ) (r : Request) :
    (p.processRequest r).1.exchanges = p.exchanges := by
  rcases p.processRequest_cases r with
    ⟨key, -, heq⟩ | ⟨key, n, -, -, heq⟩ | ⟨isBlocked, -, signals, -, heq⟩
  · rw [heq, addUser_eq]
    rfl
  · rw [heq]
    rfl
  · rw [heq]
    rfl

/-- The exchange of a request is in progress from then on. -/
lemma exchange?_request (p : Proxy σ γ) (name : String) (r : Request) :
    (p.step (.traffic (.request name r))).exchange? name = some (p.processRequest r).2.1 := by
  have hkept : (p.step (.traffic (.request name r))).exchanges =
      (name, (p.processRequest r).2.1) ::
        (p.processRequest r).1.exchanges.filter fun e => e.1 ≠ name := rfl
  rw [exchange?, hkept, find?_key_replace, if_pos rfl]

/-- A step that is not about an exchange leaves it as it is. -/
lemma exchange?_step (p : Proxy σ γ) {name : String} {s : ProxyStep σ} (h : ¬ s.Renames name) :
    (p.step s).exchange? name = p.exchange? name := by
  cases s with
  | code program => rfl
  | traffic t =>
    cases t with
    | request other r =>
      have hne : name ≠ other := fun heq => h heq.symm
      have hkept : (p.step (.traffic (.request other r))).exchanges =
          (other, (p.processRequest r).2.1) ::
            (p.processRequest r).1.exchanges.filter fun e => e.1 ≠ other := rfl
      rw [exchange?, hkept, find?_key_replace, if_neg hne, exchanges_processRequest]
      rfl
    | response other body =>
      rw [step, handle]
      cases p.exchange? other with
      | none => rfl
      | some x =>
        simp only [handleResponse]
        split_ifs
        · rfl
        · cases x.session <;> rfl
    | finish other =>
      have hne : name ≠ other := fun heq => h heq.symm
      have hkept : (p.step (.traffic (.finish other))).exchanges =
          p.exchanges.filter fun e => e.1 ≠ other := rfl
      rw [exchange?, hkept, find?_key_filter_ne hne]
      rfl
    | start =>
      rw [step, handle, start]
      split_ifs <;> rfl
    | shutdown rank => rfl

/-- An exchange remains in progress as long as no step is about it. -/
lemma exchange?_run (p : Proxy σ γ) {name : String} {steps : List (ProxyStep σ)}
    (h : ∀ s ∈ steps, ¬ s.Renames name) : (p.run steps).exchange? name = p.exchange? name := by
  induction steps generalizing p with
  | nil => rfl
  | cons s steps ih =>
    have hfirst := p.exchange?_step (h s List.mem_cons_self)
    have hlater := ih (p.step s) fun s' hs' => h s' (List.mem_cons_of_mem s hs')
    exact hlater.trans hfirst

end Proxy

end Intercept
