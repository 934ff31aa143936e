import Intercept.Certificate.Cache
import Mathlib.Data.List.Basic
import Mathlib.Tactic.Common

/-!
# Which hosts are cached

A cache is asked for certificates one after the other, each time with a generator for the case that
it has none. `CertRun` is such a cache together with its history: for every request whether its
generator was called and what came of it, the newest request first. Generators are wrapped so that
they count their calls (`CertRun.counted`); what the history says of them does not depend on what the
cache says of itself.

Main statement: `run_keeps_recent_hosts`. The cached hosts are read off the history, as the first
hosts that one meets when one goes back through the requests that were given a certificate. One
request moves its host to the front of these (`recentHosts_cons`), and so does the cache: it takes a
host out and puts it in front (`take_filter_of_mem`), or puts a new host in front of what there is
room for (`take_filter_of_not_mem`).
-/

namespace Intercept

/-! ### Lists without repetitions -/

/-- If the first entries of a list are kept, those that are not are among the others. -/
lemma filter_not_mem_sublist_drop {l kept : List String} {n : Nat}
    (hkept : ∀ a ∈ l.take n, a ∈ kept) : (l.filter (· ∉ kept)).Sublist (l.drop n) := by
  have hfirst : (l.take n).filter (· ∉ kept) = [] := by
    refine List.filter_eq_nil_iff.2 fun a ha => ?_
    simpa using hkept a ha
  have hrest : l.filter (· ∉ kept) = (l.drop n).filter (· ∉ kept) := by
    conv_lhs => rw [← List.take_append_drop n l, List.filter_append, hfirst, List.nil_append]
  rw [hrest]
  exact List.filter_sublist

/-- Repetitions may be erased before or after some entries are left out. -/
lemma eraseDups_filter (p : String → Bool) (l : List String) :
    (l.filter p).eraseDups = l.eraseDups.filter p := by
  induction hn : l.length using Nat.strongRecOn generalizing l with
  | _ n ih =>
    cases l with
    | nil => rfl
    | cons a l =>
      have hlt : (l.filter fun b => !b == a).length < n := by
        have hle := List.length_filter_le (fun b => !b == a) l
        rw [List.length_cons] at hn
        omega
      have hrest := ih _ hlt (l.filter fun b => !b == a) rfl
      rw [List.filter_filter, List.filter_congr fun b _ => Bool.and_comm (p b) _,
        ← List.filter_filter] at hrest
      rw [List.eraseDups_cons]
      cases hp : p a with
      | true => rw [List.filter_cons_of_pos hp, List.filter_cons_of_pos hp, List.eraseDups_cons, hrest]
      | false =>
        have hsame : (l.filter p).filter (fun b => !b == a) = l.filter p := by
          refine List.filter_eq_self.2 fun b hb => ?_
          have hne : b ≠ a := by
            rintro rfl
            rw [(List.mem_filter.1 hb).2] at hp
            contradiction
          simpa using hne
        rw [List.filter_cons_of_neg (by simp [hp]), List.filter_cons_of_neg (by simp [hp]), ← hrest,
          hsame]

/-- What comes first in a list is in front when repetitions are erased. -/
lemma eraseDups_cons_eq (a : String) (l : List String) :
    (a :: l).eraseDups = a :: l.eraseDups.filter (· ≠ a) := by
  rw [List.eraseDups_cons, eraseDups_filter]
  refine congrArg (a :: ·) (List.filter_congr fun b _ => ?_)
  rw [beq_eq_decide, decide_not]

/-- Without repetitions, entries stand in the order in which they are met first. -/
lemma pairwise_idxOf_eraseDups (l : List String) :
    l.eraseDups.Pairwise fun a b => l.idxOf a < l.idxOf b := by
  induction l with
  | nil => exact List.Pairwise.nil
  | cons a l ih =>
    have hback : ∀ {b : String}, b ≠ a → (a :: l).idxOf b = l.idxOf b + 1 := by
      intro b hb
      simp [Ne.symm hb]
    rw [eraseDups_cons_eq]
    refine List.pairwise_cons.2 ⟨fun b hb => ?_, ?_⟩
    · rw [List.idxOf_cons_self, hback (by simpa using (List.mem_filter.1 hb).2)]
      exact Nat.succ_pos _
    · refine (ih.filter _).imp_of_mem fun {b c} hb hc hlt => ?_
      rw [hback (by simpa using (List.mem_filter.1 hb).2),
        hback (by simpa using (List.mem_filter.1 hc).2)]
      omega

/-- Nothing is repeated when repetitions are erased. -/
lemma nodup_eraseDups (l : List String) : l.eraseDups.Nodup :=
  (pairwise_idxOf_eraseDups l).imp fun hlt heq => by
    rw [heq] at hlt
    exact Nat.lt_irrefl _ hlt

/-- Leaving an entry out does not show in front of it. -/
lemma take_filter_of_not_mem {a : String} {l : List String} {n : Nat} (ha : a ∉ l.take n) :
    (l.filter (· ≠ a)).take n = l.take n := by
  induction l generalizing n with
  | nil => rfl
  | cons b l ih =>
    cases n with
    | zero => rfl
    | succ n =>
      rw [List.take_succ_cons, List.mem_cons, not_or] at ha
      rw [List.filter_cons_of_pos (by simpa using Ne.symm ha.1), List.take_succ_cons,
        List.take_succ_cons, ih ha.2]

/-- If one of the first entries is left out, the next one takes its place. -/
lemma take_filter_of_mem {a : String} {l : List String} (hl : l.Nodup) {n : Nat}
    (ha : a ∈ l.take (n + 1)) :
    (l.filter (· ≠ a)).take n = (l.take (n + 1)).filter (· ≠ a) := by
  induction l generalizing n with
  | nil => simp at ha
  | cons b l ih =>
    obtain ⟨hb, hl⟩ := List.nodup_cons.1 hl
    rw [List.take_succ_cons] at ha ⊢
    by_cases hab : b = a
    · subst hab
      have hsame : ∀ k : List String, k ⊆ l → k.filter (· ≠ b) = k := by
        intro k hk
        refine List.filter_eq_self.2 fun c hc => decide_eq_true ?_
        rintro rfl
        exact hb (hk hc)
      rw [List.filter_cons_of_neg (by simp), List.filter_cons_of_neg (by simp),
        hsame l (List.Subset.refl l), hsame _ (List.take_subset n l)]
    · have hmem : a ∈ l.take n := (List.mem_cons.1 ha).resolve_left fun h => hab h.symm
      cases n with
      | zero => simp at hmem
      | succ n =>
        rw [List.filter_cons_of_pos (by simpa using hab), List.filter_cons_of_pos (by simpa using hab),
          List.take_succ_cons, ih hl hmem]

/-! ### Requests and their history -/

/-- The certificate in an answer, if there is one. -/
def Generated.value? {α : Type} : Generated α → Option α
  | .made value => some value
  | _ => none

/-- A request for the certificate of a host, with the generator to call if it is not cached. -/
structure CertRequest (α γ : Type) where
  host : String
  generate : γ → Generated α × γ

/-- What became of a request. -/
structure FetchRecord (α : Type) where
  host : String
  /-- Whether the generator was called. -/
  isGenerated : Bool
  result : Generated α

namespace FetchRecord

variable {α : Type}

/-- The host of a request that was given a certificate. -/
def served? (r : FetchRecord α) : Option String := r.result.value?.map fun _ => r.host

/-- The certificate that was generated for a host with a request. -/
def generatedFor? (host : String) (r : FetchRecord α) : Option α :=
  if r.host = host ∧ r.isGenerated then r.result.value? else none

end FetchRecord

variable {α γ : Type}

/-- The hosts of the requests that were given a certificate, newest first. -/
def servedHosts (history : List (FetchRecord α)) : List String := history.filterMap (·.served?)

/-- The hosts that were given a certificate, in the order in which one meets them when one goes back
through the requests. -/
def recentHosts (history : List (FetchRecord α)) : List String := (servedHosts history).eraseDups

/-- The certificate that was last generated for a host. -/
def lastGenerated? (history : List (FetchRecord α)) (host : String) : Option α :=
  history.findSome? (·.generatedFor? host)

/-- A cache in use. -/
structure CertRun (α γ : Type) where
  cache : CertCache α
  /-- The state of the generators. -/
  state : γ
  /-- How often a generator was called. -/
  calls : Nat := 0
  /-- What became of the requests, the newest first. -/
  history : List (FetchRecord α) := []

namespace CertRun

/-- A cache that has not been asked for anything. -/
def ofCapacity (capacity : Nat) (state : γ) : CertRun α γ :=
  { cache := CertCache.ofCapacity capacity, state }

/-- A generator that counts its calls. -/
def counted (generate : γ → Generated α × γ) (w : γ × Nat) : Generated α × (γ × Nat) :=
  ((generate w.1).1, ((generate w.1).2, w.2 + 1))

/-- Make one request. -/
def step (w : CertRun α γ) (r : CertRequest α γ) : CertRun α γ :=
  let f := w.cache.fetch r.host (counted r.generate) (w.state, w.calls)
  { cache := f.cache
    state := f.state.1
    calls := f.state.2
    history := ⟨r.host, f.state.2 != w.calls, f.result⟩ :: w.history }

/-- Make requests one after the other. -/
def run (w : CertRun α γ) (requests : List (CertRequest α γ)) : CertRun α γ :=
  requests.foldl step w

/-- The cached hosts, the most recently used one first. -/
def hosts (w : CertRun α γ) : List String := w.cache.entries.map Prod.fst

/-! ### One request -/

/-- What a cache becomes when a generator has answered: what it has made is added, and nothing else
changes the cached hosts. -/
def missed (c : CertCache α) (host : String) (answer : Generated α) : CertCache α :=
  match answer.value? with
  | some value => { c with misses := c.misses + 1 }.add host value
  | none => { c with misses := c.misses + 1 }

/-- What is asked for is in the cache, or else the generator is called. -/
lemma fetch_cases (c : CertCache α) (host : String) (generate : γ → Generated α × γ) (state : γ) :
    (∃ value, c.find? host = some value ∧
      c.fetch host generate state =
        { result := .made value
          cache := { c.promote host value with hits := c.hits + 1 }
          state
          signals := [.count .certificateHits 1] }) ∨
    (c.find? host = none ∧ ∃ signals,
      c.fetch host generate state =
        { result := (generate state).1
          cache := missed c host (generate state).1
          state := (generate state).2
          signals }) := by
  unfold CertCache.fetch
  cases hfind : c.find? host with
  | some value => exact Or.inl ⟨value, rfl, rfl⟩
  | none =>
    refine Or.inr ⟨rfl, ?_⟩
    obtain ⟨answer, state⟩ := generate state
    cases answer <;> exact ⟨_, rfl⟩

/-- A request is answered by the cache, and its host becomes the most recently used one, or it is
answered by its generator. -/
lemma step_cases (w : CertRun α γ) (r : CertRequest α γ) :
    (∃ value, w.cache.find? r.host = some value ∧
      w.step r =
        { w with
          cache := { w.cache.promote r.host value with hits := w.cache.hits + 1 }
          history := ⟨r.host, false, .made value⟩ :: w.history }) ∨
    (w.cache.find? r.host = none ∧
      w.step r =
        { cache := missed w.cache r.host (r.generate w.state).1
          state := (r.generate w.state).2
          calls := w.calls + 1
          history := ⟨r.host, true, (r.generate w.state).1⟩ :: w.history }) := by
  unfold step
  rcases fetch_cases w.cache r.host (counted r.generate) (w.state, w.calls) with
    ⟨value, hfind, hfetch⟩ | ⟨hfind, signals, hfetch⟩
  · rw [hfetch]
    exact Or.inl ⟨value, hfind, by simp⟩
  · rw [hfetch]
    exact Or.inr ⟨hfind, by simp [counted]⟩

/-- A host is cached if it is found. -/
lemma mem_hosts_iff (w : CertRun α γ) (host : String) :
    host ∈ w.hosts ↔ (w.cache.find? host).isSome = true := by
  unfold hosts CertCache.find?
  simp [List.mem_map]

/-- What is found is an entry of the cache. -/
lemma mem_entries_of_find? {c : CertCache α} {host : String} {value : α}
    (h : c.find? host = some value) : (host, value) ∈ c.entries := by
  obtain ⟨e, he, rfl⟩ := Option.map_eq_some_iff.1 h
  have hhost : e.1 = host := by simpa using List.find?_some he
  rw [← hhost]
  exact List.mem_of_find?_eq_some he

end CertRun

/-! ### Reading the history -/

/-- A request that was given a certificate brings its host to the front. -/
lemma recentHosts_cons_made (host : String) (isGenerated : Bool) (value : α)
    (history : List (FetchRecord α)) :
    recentHosts (⟨host, isGenerated, .made value⟩ :: history) =
      host :: (recentHosts history).filter (· ≠ host) := by
  have hserved : (FetchRecord.mk host isGenerated (.made value)).served? = some host := rfl
  rw [recentHosts, servedHosts, List.filterMap_cons_some hserved, eraseDups_cons_eq]
  rfl

/-- A request that was given none leaves the hosts as they were. -/
lemma recentHosts_cons_failed {r : FetchRecord α} (hr : r.result.value? = none)
    (history : List (FetchRecord α)) : recentHosts (r :: history) = recentHosts history := by
  have hserved : r.served? = none := by
    rw [FetchRecord.served?, hr]
    rfl
  rw [recentHosts, servedHosts, List.filterMap_cons_none hserved]
  rfl

/-- What was last generated for a host, after one more request. -/
lemma lastGenerated?_cons (r : FetchRecord α) (history : List (FetchRecord α)) (host : String) :
    lastGenerated? (r :: history) host =
      (r.generatedFor? host).or (lastGenerated? history host) := by
  rw [lastGenerated?, List.findSome?_cons]
  cases r.generatedFor? host <;> rfl

namespace CertRun

/-! ### The cache follows its history -/

/-- A cache holds what its history tells: the hosts that one meets first when one goes back, as many
as there is room for, with the certificates that were last generated for them. -/
structure Recalls (room : Nat) (w : CertRun α γ) : Prop where
  capacity : w.cache.capacity = room
  hosts : w.hosts = (recentHosts w.history).take room
  values : ∀ e ∈ w.cache.entries, lastGenerated? w.history e.1 = some e.2
  total : w.cache.hits + w.cache.misses = w.history.length
  misses : w.cache.misses = w.calls

namespace Recalls

variable {room : Nat} {w : CertRun α γ}

/-- There are never more hosts than there is room for. -/
lemma length_le (h : Recalls room w) : w.hosts.length ≤ room := by
  rw [h.hosts]
  exact List.length_take_le room _

/-- A host that is found was given the certificate that was last generated for it. -/
lemma find? (h : Recalls room w) (host : String) :
    w.cache.find? host = if host ∈ w.hosts then lastGenerated? w.history host else none := by
  have hmem := w.mem_hosts_iff host
  cases hfind : w.cache.find? host with
  | none =>
    rw [hfind] at hmem
    rw [if_neg fun hhost => by simpa using hmem.1 hhost]
  | some value =>
    rw [hfind] at hmem
    rw [if_pos (hmem.2 rfl), h.values _ (mem_entries_of_find? hfind)]

/-- A request that is answered by the cache. -/
lemma hit (h : Recalls (room + 1) w) {host : String} {value : α}
    (hfind : w.cache.find? host = some value) :
    Recalls (room + 1)
      { w with
        cache := { w.cache.promote host value with hits := w.cache.hits + 1 }
        history := ⟨host, false, .made value⟩ :: w.history } where
  capacity := h.capacity
  hosts := by
    have hmem : host ∈ (recentHosts w.history).take (room + 1) := by
      rw [← h.hosts, mem_hosts_iff, hfind]
      rfl
    have hkept : (w.cache.entries.filter fun e => e.1 ≠ host).map Prod.fst =
        w.hosts.filter (· ≠ host) := by
      rw [CertRun.hosts, List.filter_map]
      rfl
    rw [recentHosts_cons_made, List.take_succ_cons,
      take_filter_of_mem (l := recentHosts w.history) (nodup_eraseDups _) hmem, ← h.hosts, ← hkept]
    rfl
  values e he := by
    have hlast : lastGenerated? (⟨host, false, .made value⟩ :: w.history) e.1 =
        lastGenerated? w.history e.1 := by
      simp [lastGenerated?_cons, FetchRecord.generatedFor?]
    rw [hlast]
    rcases List.mem_cons.1 he with rfl | hold
    · exact h.values _ (mem_entries_of_find? hfind)
    · exact h.values e (List.mem_filter.1 hold).1
  total := by
    have htotal := h.total
    simp only [List.length_cons, CertCache.promote]
    omega
  misses := h.misses

/-- A request for which nothing was made. The cache is as it was, and so are the hosts of the
history. -/
lemma miss_failed (h : Recalls (room + 1) w) (host : String) {answer : Generated α}
    (hvalue : answer.value? = none) (state : γ) :
    Recalls (room + 1)
      { cache := missed w.cache host answer
        state
        calls := w.calls + 1
        history := ⟨host, true, answer⟩ :: w.history } := by
  have hnone : ∀ other, (FetchRecord.mk host true answer).generatedFor? other = none := by
    simp [FetchRecord.generatedFor?, hvalue]
  have hcache : missed w.cache host answer = { w.cache with misses := w.cache.misses + 1 } := by
    rw [missed, hvalue]
  rw [hcache]
  refine ⟨h.capacity, ?_, fun e he => ?_, ?_, congrArg (· + 1) h.misses⟩
  · rw [recentHosts_cons_failed hvalue]
    exact h.hosts
  · rw [lastGenerated?_cons, hnone, Option.none_or]
    exact h.values e he
  · rw [List.length_cons, ← h.total, Nat.add_assoc]

/-- A request for which a certificate was made. -/
lemma miss_made (h : Recalls (room + 1) w) {host : String} (habsent : host ∉ w.hosts) (value : α)
    (state : γ) :
    Recalls (room + 1)
      { cache := missed w.cache host (.made value)
        state
        calls := w.calls + 1
        history := ⟨host, true, .made value⟩ :: w.history } := by
  have hcache : missed w.cache host (.made value) =
      { w.cache with misses := w.cache.misses + 1 }.add host value := rfl
  rw [hcache]
  refine ⟨h.capacity, ?_, fun e he => ?_, ?_, congrArg (· + 1) h.misses⟩
  · have hfirst : host ∉ (recentHosts w.history).take room := by
      intro hmem
      refine habsent ?_
      rw [h.hosts]
      exact List.take_subset_take_left _ (Nat.le_succ room) hmem
    have hentries : (((host, value) :: w.cache.entries).take (room + 1)).map Prod.fst =
        host :: w.hosts.take room := by
      rw [List.take_succ_cons, List.map_cons, List.map_take]
      rfl
    rw [recentHosts_cons_made, List.take_succ_cons, take_filter_of_not_mem hfirst]
    refine (congrArg (fun n => (((host, value) :: w.cache.entries).take n).map Prod.fst)
      h.capacity).trans (hentries.trans ?_)
    rw [h.hosts, List.take_take, Nat.min_eq_left (Nat.le_succ room)]
  · rcases List.mem_cons.1 (List.mem_of_mem_take he) with rfl | hold
    · simp [lastGenerated?_cons, FetchRecord.generatedFor?, Generated.value?]
    · have hne : host ≠ e.1 := by
        rintro rfl
        exact habsent (List.mem_map_of_mem hold)
      simp only [lastGenerated?_cons, FetchRecord.generatedFor?, hne, false_and, if_false,
        Option.none_or]
      exact h.values e hold
  · rw [List.length_cons, ← h.total, Nat.add_assoc]
    rfl

/-- A request that is answered by its generator. -/
lemma miss (h : Recalls (room + 1) w) {host : String} (hfind : w.cache.find? host = none)
    (answer : Generated α) (state : γ) :
    Recalls (room + 1)
      { cache := missed w.cache host answer
        state
        calls := w.calls + 1
        history := ⟨host, true, answer⟩ :: w.history } := by
  have habsent : host ∉ w.hosts := by
    rw [mem_hosts_iff, hfind]
    exact Bool.false_ne_true
  cases answer with
  | made value => exact h.miss_made habsent value state
  | refused e => exact h.miss_failed host rfl state
  | failed fault => exact h.miss_failed host rfl state

/-- Every request keeps the cache in line with its history. -/
theorem step (h : Recalls (room + 1) w) (r : CertRequest α γ) : Recalls (room + 1) (w.step r) := by
  rcases w.step_cases r with ⟨value, hfind, heq⟩ | ⟨hfind, heq⟩
  · rw [heq]
    exact h.hit hfind
  · rw [heq]
    exact h.miss hfind _ _

/-- After any requests a cache holds what its history tells. -/
theorem run (h : Recalls (room + 1) w) (requests : List (CertRequest α γ)) :
    Recalls (room + 1) (w.run requests) := by
  induction requests generalizing w with
  | nil => exact h
  | cons r requests ih => exact ih (h.step r)

/-- What one more request does to the cached hosts: its host comes to the front, or a new one is put
in front of those that there is room for, or they stay as they are. -/
lemma hosts_step_cases (h : Recalls (room + 1) w) (r : CertRequest α γ) :
    (r.host ∈ w.hosts ∧ (w.step r).hosts = r.host :: w.hosts.filter (· ≠ r.host)) ∨
    (r.host ∉ w.hosts ∧ ∃ value, (r.generate w.state).1 = .made value ∧
      (w.step r).hosts = r.host :: w.hosts.take room) ∨
    (r.host ∉ w.hosts ∧ (r.generate w.state).1.value? = none ∧ (w.step r).hosts = w.hosts) := by
  rcases w.step_cases r with ⟨value, hfind, heq⟩ | ⟨hfind, heq⟩
  · refine Or.inl ⟨(w.mem_hosts_iff r.host).2 (by rw [hfind]; rfl), ?_⟩
    rw [heq, CertRun.hosts, CertRun.hosts, List.filter_map]
    rfl
  · have habsent : r.host ∉ w.hosts := by
      rw [mem_hosts_iff, hfind]
      exact Bool.false_ne_true
    rw [heq]
    cases hanswer : (r.generate w.state).1 with
    | made value =>
      refine Or.inr (Or.inl ⟨habsent, value, rfl, ?_⟩)
      have hroom : (missed w.cache r.host (.made value)).entries =
          ((r.host, value) :: w.cache.entries).take (room + 1) :=
        congrArg (((r.host, value) :: w.cache.entries).take ·) h.capacity
      rw [CertRun.hosts, hroom, List.take_succ_cons, List.map_cons, List.map_take]
      rfl
    | refused e => exact Or.inr (Or.inr ⟨habsent, rfl, rfl⟩)
    | failed fault => exact Or.inr (Or.inr ⟨habsent, rfl, rfl⟩)

/-- The cached hosts stand in the order of their last success, the newest first. -/
lemma pairwise_hosts (h : Recalls room w) : w.hosts.Pairwise fun a b =>
    (servedHosts w.history).idxOf a < (servedHosts w.history).idxOf b := by
  rw [h.hosts]
  exact (pairwise_idxOf_eraseDups _).sublist (List.take_sublist room _)

/-- At most one host is evicted with a request, and of the cached hosts it is the one whose last
success is longest ago. -/
lemma evicted (h : Recalls (room + 1) w) (r : CertRequest α γ) :
    let lost := w.hosts.filter (· ∉ (w.step r).hosts)
    lost.length ≤ 1 ∧ ∀ victim ∈ lost, ∀ host ∈ w.hosts, host ≠ victim →
      (servedHosts w.history).idxOf host < (servedHosts w.history).idxOf victim := by
  intro lost
  have hnone : (∀ host ∈ w.hosts, host ∈ (w.step r).hosts) → lost = [] := by
    intro hall
    refine List.filter_eq_nil_iff.2 fun host hhost => ?_
    simpa using hall host hhost
  rcases h.hosts_step_cases r with ⟨-, heq⟩ | ⟨-, value, -, heq⟩ | ⟨-, -, heq⟩
  · have hnil : lost = [] := by
      refine hnone fun host hhost => ?_
      rw [heq]
      by_cases hsame : host = r.host
      · exact hsame ▸ List.mem_cons_self
      · exact List.mem_cons_of_mem _ (List.mem_filter.2 ⟨hhost, decide_eq_true hsame⟩)
    rw [hnil]
    exact ⟨Nat.zero_le 1, fun _ hv => by contradiction⟩
  · -- What is lost is what there is no room for behind the new host.
    have hsplit := List.take_append_drop room w.hosts
    have hkept : ∀ host ∈ w.hosts.take room, host ∈ (w.step r).hosts := by
      rw [heq]
      exact fun host => List.mem_cons_of_mem _
    have hlost : lost.Sublist (w.hosts.drop room) := filter_not_mem_sublist_drop hkept
    have hpairs := h.pairwise_hosts
    rw [← hsplit, List.pairwise_append] at hpairs
    have hone : (w.hosts.drop room).length ≤ 1 := by
      have hle := h.length_le
      rw [List.length_drop]
      omega
    constructor
    · exact Nat.le_trans hlost.length_le hone
    · intro victim hvictim host hhost hne
      have hlast := hlost.subset hvictim
      rw [← hsplit, List.mem_append] at hhost
      rcases hhost with hfirst | hdropped
      · exact hpairs.2.2 host hfirst victim hlast
      · obtain ⟨last, hdrop⟩ : ∃ last, w.hosts.drop room = [last] := by
          refine List.length_eq_one_iff.1 (Nat.le_antisymm hone ?_)
          exact List.length_pos_of_mem hlast
        rw [hdrop, List.mem_singleton] at hdropped hlast
        exact absurd (hdropped.trans hlast.symm) hne
  · rw [hnone fun host hhost => heq ▸ hhost]
    exact ⟨Nat.zero_le 1, fun _ hv => by contradiction⟩

end Recalls

/-- A cache that has not been asked for anything holds nothing. -/
lemma recalls_ofCapacity (capacity : Nat) (state : γ) :
    Recalls (max capacity 1) (ofCapacity capacity state : CertRun α γ) where
  capacity := rfl
  hosts := List.take_nil.symm
  values _ he := by contradiction
  total := rfl
  misses := rfl

/-- The history has one record for each request, in the reverse order. -/
lemma map_host_history (w : CertRun α γ) (requests : List (CertRequest α γ)) :
    (w.run requests).history.map (·.host) =
      (requests.map (·.host)).reverse ++ w.history.map (·.host) := by
  induction requests generalizing w with
  | nil => rfl
  | cons r requests ih =>
    rw [run, List.foldl_cons]
    refine (ih (w.step r)).trans ?_
    rw [List.map_cons, List.reverse_cons, List.append_assoc]
    rfl

/-- A cache holds exactly the most recently used hosts. After any requests:

* the cached hosts are the first ones that one meets when one goes back through the requests that were
  given a certificate, as many as there is room for, and each has the certificate that was last
  generated for it;
* every request was answered by the cache or not, and the generators were called for the latter;
* another request is answered by the cache if and only if its host is cached, with what is cached,
  and without its generator. Otherwise its generator is called, once, and answers it. A generator that
  gives no certificate leaves the cached hosts, their certificates and their order as they are;
* another request evicts at most one host, the one whose last success is longest ago. -/
theorem run_keeps_recent_hosts (capacity : Nat) (state : γ) (requests : List (CertRequest α γ)) :
    let w : CertRun α γ := (ofCapacity capacity state).run requests
    w.history.map (·.host) = (requests.map (·.host)).reverse ∧
    w.hosts = (recentHosts w.history).take (max capacity 1) ∧
    (∀ host, w.cache.find? host =
      if host ∈ w.hosts then lastGenerated? w.history host else none) ∧
    (∀ host ∈ w.hosts, (lastGenerated? w.history host).isSome) ∧
    w.cache.hits + w.cache.misses = requests.length ∧ w.cache.misses = w.calls ∧
    ∀ r : CertRequest α γ,
      let next := w.step r
      let lost := w.hosts.filter (· ∉ next.hosts)
      (next.cache.hits = w.cache.hits + 1 ↔ r.host ∈ w.hosts) ∧
      (∀ value, w.cache.find? r.host = some value →
        next.history = ⟨r.host, false, .made value⟩ :: w.history ∧
        next.calls = w.calls ∧ next.state = w.state) ∧
      (r.host ∉ w.hosts →
        next.history = ⟨r.host, true, (r.generate w.state).1⟩ :: w.history ∧
        next.calls = w.calls + 1 ∧ next.state = (r.generate w.state).2 ∧
        ((r.generate w.state).1.value? = none → next.cache.entries = w.cache.entries)) ∧
      lost.length ≤ 1 ∧ ∀ victim ∈ lost, ∀ host ∈ w.hosts, host ≠ victim →
        (servedHosts w.history).idxOf host < (servedHosts w.history).idxOf victim := by
  intro w
  obtain ⟨room, hroom⟩ : ∃ room, max capacity 1 = room + 1 := ⟨max capacity 1 - 1, by omega⟩
  have hstart := recalls_ofCapacity (α := α) capacity state
  rw [hroom] at hstart ⊢
  have h : Recalls (room + 1) w := hstart.run requests
  have hhistory : w.history.map (·.host) = (requests.map (·.host)).reverse :=
    (map_host_history _ requests).trans (List.append_nil _)
  have hlength : w.history.length = requests.length := by
    have hlengths := congrArg List.length hhistory
    rwa [List.length_map, List.length_reverse, List.length_map] at hlengths
  refine ⟨hhistory, h.hosts, h.find?, fun host hhost => ?_, h.total.trans hlength, h.misses,
    fun r => ?_⟩
  · obtain ⟨e, he, rfl⟩ := List.mem_map.1 hhost
    rw [h.values e he]
    rfl
  · have hcached := w.mem_hosts_iff r.host
    intro next lost
    refine ⟨?_, ?_, ?_, h.evicted r⟩
    · rcases w.step_cases r with ⟨value, hfind, heq⟩ | ⟨hfind, heq⟩
      · rw [hcached, hfind]
        exact iff_of_true (congrArg (·.cache.hits) heq) rfl
      · have hhits : next.cache.hits = w.cache.hits := by
          refine (congrArg (·.cache.hits) heq).trans ?_
          unfold missed
          cases (r.generate w.state).1.value? <;> rfl
        rw [hcached, hfind, hhits]
        exact iff_of_false (by omega) Bool.false_ne_true
    · intro value hvalue
      rcases w.step_cases r with ⟨value', hfind, heq⟩ | ⟨hfind, -⟩
      · obtain rfl : value = value' := Option.some.inj (hvalue.symm.trans hfind)
        exact ⟨congrArg (·.history) heq, congrArg (·.calls) heq, congrArg (·.state) heq⟩
      · rw [hfind] at hvalue
        contradiction
    · intro habsent
      rcases w.step_cases r with ⟨value, hfind, -⟩ | ⟨-, heq⟩
      · rw [hcached, hfind] at habsent
        exact absurd rfl habsent
      · refine ⟨congrArg (·.history) heq, congrArg (·.calls) heq, congrArg (·.state) heq,
          fun hnone => (congrArg (·.cache.entries) heq).trans ?_⟩
        simp only [missed, hnone]

/-- There is room for two hosts. A host that is asked for again stays, and makes the other one leave
when a third one comes; before that, a generator that fails has changed nothing. -/
theorem run_keeps_touched_host :
    let made (value : Nat) (state : Unit) : Generated Nat × Unit := (.made value, state)
    let refused (state : Unit) : Generated Nat × Unit := (.refused (.certificate "no CA"), state)
    let w : CertRun Nat Unit := (ofCapacity 2 ()).run
      [⟨"a", made 1⟩, ⟨"b", made 2⟩, ⟨"a", made 3⟩, ⟨"c", refused⟩]
    let next := w.step ⟨"c", made 4⟩
    w.hosts = ["a", "b"] ∧ w.cache.find? "a" = some 1 ∧ next.hosts = ["c", "a"] ∧
      next.calls = w.calls + 1 ∧
      (servedHosts w.history).idxOf "a" < (servedHosts w.history).idxOf "b" := by
  intro made refused w next
  obtain ⟨-, hhosts, hfind, -, -, -, hnext⟩ := run_keeps_recent_hosts 2 ()
    [⟨"a", made 1⟩, ⟨"b", made 2⟩, ⟨"a", made 3⟩, ⟨"c", refused⟩]
  obtain ⟨-, -, hmiss, -, hvictim⟩ := hnext ⟨"c", made 4⟩
  refine ⟨hhosts.trans (by decide +kernel), (hfind "a").trans (by decide +kernel),
    by decide +kernel, (hmiss (by decide +kernel)).2.1, ?_⟩
  exact hvictim "b" (by decide +kernel) "a" (by decide +kernel) (by decide)

end CertRun

end Intercept
