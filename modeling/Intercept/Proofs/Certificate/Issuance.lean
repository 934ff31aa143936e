import Intercept.Certificate.Issuer
import Intercept.Proofs.Certificate.Recency

/-!
# Certificates name the host that was asked for

An issuer is asked for certificates one after the other. Its generator may do as it likes: refuse,
fail, or make a certificate for a host that nobody asked for, and each time something else. Here it
keeps a book (`booked`), in which it enters every host that it is called for, so that the state of
an issuer tells when it was called.

Main statement: `serve_names_hosts`. Whatever the generator does, what is given out names the host
that was asked for, and so does everything in the cache. Four things can come of a request
(`certificateFor_cases`): the issuer is switched off, it has no cache, or its cache has the host or
lacks it. What is cached afterwards was cached before or has just been given out
(`mem_cached_certificateFor`), so that a host for which nothing proper was made stays out of the
cache until it is asked for again.
-/

namespace Intercept

namespace Issuer

variable {γ : Type}

/-! ### Checked answers -/

/-- The answer of a generator is a certificate that names a host. -/
def Names (host : String) (answer : Generated Certificate) : Prop :=
  ∃ c, answer = .made c ∧ c.domain = host

/-- A certificate that names the host is passed on. -/
lemma generate_of_names {generator : String → γ → Generated Certificate × γ} {host : String}
    {state : γ} (h : Names host (generator host state).1) :
    generate generator host state = generator host state := by
  unfold generate
  generalize generator host state = answered at h ⊢
  obtain ⟨answer, after⟩ := answered
  obtain ⟨c, rfl, hname⟩ := h
  exact if_pos hname

/-- What does not name the host is refused, unless the generator has failed. -/
lemma generate_of_not_names {generator : String → γ → Generated Certificate × γ} {host : String}
    {state : γ} (h : ¬ Names host (generator host state).1) :
    (generate generator host state).2 = (generator host state).2 ∧
      ((∃ e, (generate generator host state).1 = .refused e) ∨
        ∃ fault, (generator host state).1 = .failed fault ∧
          (generate generator host state).1 = .failed fault) := by
  unfold generate
  generalize generator host state = answered at h ⊢
  obtain ⟨answer, after⟩ := answered
  cases answer with
  | made c =>
    have hname : c.domain ≠ host := fun hname => h ⟨c, rfl, hname⟩
    dsimp only
    rw [if_neg hname]
    exact ⟨rfl, Or.inl ⟨_, rfl⟩⟩
  | refused e => exact ⟨rfl, Or.inl ⟨e, rfl⟩⟩
  | failed fault => exact ⟨rfl, Or.inr ⟨fault, rfl, rfl⟩⟩

/-- The check does not change what the call does to the generator. -/
lemma generate_snd (generator : String → γ → Generated Certificate × γ) (host : String)
    (state : γ) : (generate generator host state).2 = (generator host state).2 := by
  by_cases h : Names host (generator host state).1
  · rw [generate_of_names h]
  · exact (generate_of_not_names h).1

/-- What passes the check names the host. -/
lemma domain_of_generate {generator : String → γ → Generated Certificate × γ} {host : String}
    {state : γ} {c : Certificate} (h : (generate generator host state).1 = .made c) :
    c.domain = host := by
  by_cases hnames : Names host (generator host state).1
  · rw [generate_of_names hnames] at h
    obtain ⟨c', hmade, hname⟩ := hnames
    obtain rfl : c = c' := Generated.made.inj (h.symm.trans hmade)
    exact hname
  · rcases (generate_of_not_names hnames).2 with ⟨e, he⟩ | ⟨fault, -, hfault⟩
    · rw [he] at h
      contradiction
    · rw [hfault] at h
      contradiction

/-! ### One request -/

/-- The cached certificates by host, the most recently used one first. -/
def cached (i : Issuer γ) : List (String × Certificate) := (i.cache.map (·.entries)).getD []

/-- Whether the certificate of a host is cached. -/
def isCached (i : Issuer γ) (host : String) : Bool := i.cache.any (·.contains host)

/-- A request is refused, goes to the generator, is answered by the cache, or goes to the generator
because the cache cannot answer it. -/
lemma certificateFor_cases (i : Issuer γ) (host : String) :
    let fresh := generate i.generator host i.state
    (i.config.enabled = false ∧
      i.certificateFor host = (.refused (.certificate "TLS interception is disabled"), i, [])) ∨
    (i.config.enabled = true ∧ i.cache = none ∧
      i.certificateFor host = (fresh.1, { i with state := fresh.2 }, [])) ∨
    (i.config.enabled = true ∧ ∃ cache value signals, i.cache = some cache ∧
      cache.find? host = some value ∧
      i.certificateFor host =
        (.made value,
          { i with cache := some { cache.promote host value with hits := cache.hits + 1 } },
          signals)) ∨
    (i.config.enabled = true ∧ ∃ cache signals, i.cache = some cache ∧
      cache.find? host = none ∧
      i.certificateFor host =
        (fresh.1,
          { i with cache := some (CertRun.missed cache host fresh.1), state := fresh.2 },
          signals)) := by
  intro fresh
  unfold certificateFor
  cases henabled : i.config.enabled with
  | false => exact Or.inl ⟨rfl, rfl⟩
  | true =>
    refine Or.inr ?_
    cases hcache : i.cache with
    | none => exact Or.inl ⟨rfl, rfl, rfl⟩
    | some cache =>
      refine Or.inr ?_
      rcases CertRun.fetch_cases cache host (generate i.generator host) i.state with
        ⟨value, hfind, hfetch⟩ | ⟨hfind, signals, hfetch⟩
      · refine Or.inl ⟨rfl, cache, value, [.count .certificateHits 1], rfl, hfind, ?_⟩
        dsimp only
        rw [hfetch]
        rfl
      · refine Or.inr ⟨rfl, cache, signals, rfl, hfind, ?_⟩
        dsimp only
        rw [hfetch]
        rfl

/-! ### What is cached -/

/-- A host is cached if there is an entry for it. -/
lemma isCached_iff (i : Issuer γ) (host : String) :
    i.isCached host = true ↔ ∃ e ∈ i.cached, e.1 = host := by
  unfold isCached cached
  cases i.cache with
  | none => simp
  | some cache => simp [CertCache.contains, CertCache.find?]

/-- A host that the cache finds is cached, and a host that it does not find is not. -/
lemma isCached_eq_isSome {i : Issuer γ} {cache : CertCache Certificate} (h : i.cache = some cache)
    (host : String) : i.isCached host = (cache.find? host).isSome := by
  rw [isCached, h]
  rfl

/-- What is cached after a request was cached before, or has just been given out. -/
lemma mem_cached_certificateFor {i : Issuer γ} {host : String} {e : String × Certificate}
    (he : e ∈ (i.certificateFor host).2.1.cached) :
    e ∈ i.cached ∨ (e.1 = host ∧ (i.certificateFor host).1 = .made e.2) := by
  rcases i.certificateFor_cases host with ⟨-, heq⟩ | ⟨-, hcache, heq⟩ |
    ⟨-, cache, value, signals, hcache, -, heq⟩ | ⟨-, cache, signals, hcache, -, heq⟩
  · rw [heq] at he
    exact Or.inl he
  · rw [heq, cached, hcache] at he
    contradiction
  · rw [heq] at he ⊢
    rcases List.mem_cons.1 he with rfl | hold
    · exact Or.inr ⟨rfl, rfl⟩
    · rw [cached, hcache]
      exact Or.inl (List.mem_filter.1 hold).1
  · rw [heq] at he ⊢
    have hmissed : e ∈ (CertRun.missed cache host (generate i.generator host i.state).1).entries :=
      he
    rw [cached, hcache]
    unfold CertRun.missed at hmissed
    cases hanswer : (generate i.generator host i.state).1 with
    | made value =>
      rw [hanswer] at hmissed
      rcases List.mem_cons.1 (List.mem_of_mem_take hmissed) with rfl | hold
      · exact Or.inr ⟨rfl, rfl⟩
      · exact Or.inl hold
    | refused error =>
      rw [hanswer] at hmissed
      exact Or.inl hmissed
    | failed fault =>
      rw [hanswer] at hmissed
      exact Or.inl hmissed

/-- If everything that is cached names its host, what is given out names the host that was asked
for. -/
lemma domain_certificateFor {i : Issuer γ} (h : ∀ e ∈ i.cached, e.2.domain = e.1) {host : String}
    {c : Certificate} (hc : (i.certificateFor host).1 = .made c) : c.domain = host := by
  rcases i.certificateFor_cases host with ⟨-, heq⟩ | ⟨-, -, heq⟩ |
    ⟨-, cache, value, signals, hcache, hfind, heq⟩ | ⟨-, cache, signals, -, -, heq⟩
  · rw [heq] at hc
    contradiction
  · rw [heq] at hc
    exact domain_of_generate hc
  · rw [heq] at hc
    obtain rfl : value = c := Generated.made.inj hc
    have hmem : (host, value) ∈ i.cached := by
      rw [cached, hcache]
      exact CertRun.mem_entries_of_find? hfind
    exact h _ hmem
  · rw [heq] at hc
    exact domain_of_generate hc

/-! ### Requests one after the other -/

/-- Ask for the certificates of hosts, one after the other. -/
def serve (i : Issuer γ) (hosts : List String) : Issuer γ :=
  hosts.foldl (fun i host => (i.certificateFor host).2.1) i

@[simp] lemma serve_cons (i : Issuer γ) (host : String) (hosts : List String) :
    i.serve (host :: hosts) = (i.certificateFor host).2.1.serve hosts := rfl

/-- A host that is not cached does not become so by requests for others. -/
lemma isCached_serve_of_not_mem {i : Issuer γ} {host : String} (h : i.isCached host = false)
    {others : List String} (hothers : host ∉ others) : (i.serve others).isCached host = false := by
  induction others generalizing i with
  | nil => exact h
  | cons other others ih =>
    rw [List.mem_cons, not_or] at hothers
    refine ih ?_ hothers.2
    rw [Bool.eq_false_iff, ne_eq, isCached_iff] at h ⊢
    rintro ⟨e, he, rfl⟩
    rcases mem_cached_certificateFor he with hold | ⟨hother, -⟩
    · exact h ⟨e, hold, rfl⟩
    · exact hothers.1 hother

/-! ### Generators that keep a book -/

/-- A generator that also enters into a book which hosts it was called for. -/
def booked (generator : String → γ → Generated Certificate × γ) (host : String)
    (s : γ × List String) : Generated Certificate × (γ × List String) :=
  ((generator host s.1).1, ((generator host s.1).2, s.2 ++ [host]))

/-- The hosts that the generator was called for, in the order of the calls. -/
def asked (i : Issuer (γ × List String)) : List String := i.state.2

/-- An issuer as it is set up, with a generator that keeps a book. -/
def ofBooked (config : TlsConfig) (generator : String → γ → Generated Certificate × γ) (state : γ) :
    Issuer (γ × List String) :=
  (ofGenerator config (booked generator) (state, [])).1

/-- What does not change while an issuer is in use, nor does it that everything which is cached
names its host. -/
structure Steady (config : TlsConfig) (generator : String → γ → Generated Certificate × γ)
    (i : Issuer (γ × List String)) : Prop where
  settings : i.config = config
  source : i.generator = booked generator
  store : i.cache.isNone = config.disableCertStore
  room : ∀ cache, i.cache = some cache → 0 < cache.capacity
  named : ∀ e ∈ i.cached, e.2.domain = e.1

namespace Steady

variable {config : TlsConfig} {generator : String → γ → Generated Certificate × γ}
  {i : Issuer (γ × List String)}

/-- An issuer that has not been asked for anything. -/
lemma start (config : TlsConfig) (generator : String → γ → Generated Certificate × γ) (state : γ) :
    Steady config generator (ofBooked config generator state) := by
  unfold ofBooked ofGenerator
  cases hstore : config.disableCertStore with
  | true => exact ⟨rfl, rfl, hstore.symm, fun _ h => by contradiction, fun _ h => by contradiction⟩
  | false =>
    refine ⟨rfl, rfl, hstore.symm, fun cache h => ?_, fun _ h => by contradiction⟩
    obtain rfl : CertCache.ofCapacity config.certCacheCapacity.toNat = cache := Option.some.inj h
    exact Nat.lt_of_lt_of_le Nat.zero_lt_one (Nat.le_max_right _ _)

/-- One request. -/
lemma certificateFor (h : Steady config generator i) (host : String) :
    Steady config generator (i.certificateFor host).2.1 := by
  have hnamed : ∀ e ∈ (i.certificateFor host).2.1.cached, e.2.domain = e.1 := by
    intro e he
    rcases mem_cached_certificateFor he with hold | ⟨hhost, hmade⟩
    · exact h.named e hold
    · rw [hhost]
      exact domain_certificateFor h.named hmade
  rcases i.certificateFor_cases host with ⟨-, heq⟩ | ⟨-, hcache, heq⟩ |
    ⟨-, cache, value, signals, hcache, -, heq⟩ | ⟨-, cache, signals, hcache, -, heq⟩
  · rw [heq]
    exact h
  · rw [heq] at hnamed ⊢
    exact ⟨h.settings, h.source, h.store, h.room, hnamed⟩
  · rw [heq] at hnamed ⊢
    refine ⟨h.settings, h.source, ?_, fun kept hkept => ?_, hnamed⟩
    · rw [← h.store, hcache]
      rfl
    · obtain rfl := Option.some.inj hkept
      exact h.room cache hcache
  · rw [heq] at hnamed ⊢
    refine ⟨h.settings, h.source, ?_, fun kept hkept => ?_, hnamed⟩
    · rw [← h.store, hcache]
      rfl
    · obtain rfl := Option.some.inj hkept
      have hroom := h.room cache hcache
      unfold CertRun.missed
      split <;> exact hroom

/-- Any requests. -/
lemma serve (h : Steady config generator i) (hosts : List String) :
    Steady config generator (i.serve hosts) := by
  induction hosts generalizing i with
  | nil => exact h
  | cons host hosts ih => exact ih (h.certificateFor host)

/-- The generator is called, once and for the host of the request, if the issuer is switched on and
has no cache or does not find the host there. -/
lemma asked_certificateFor (h : Steady config generator i) (host : String) :
    (i.certificateFor host).2.1.asked =
      if config.enabled && (config.disableCertStore || !i.isCached host) then i.asked ++ [host]
      else i.asked := by
  have hfresh : (generate i.generator host i.state).2.2 = i.asked ++ [host] := by
    rw [generate_snd, h.source]
    rfl
  rw [← h.settings, show i.config.disableCertStore = i.cache.isNone by rw [h.store, h.settings]]
  rcases i.certificateFor_cases host with ⟨henabled, heq⟩ | ⟨henabled, hcache, heq⟩ |
    ⟨henabled, cache, value, signals, hcache, hfind, heq⟩ |
    ⟨henabled, cache, signals, hcache, hfind, heq⟩
  · rw [heq, henabled]
    rfl
  · rw [heq, henabled, hcache]
    exact hfresh
  · rw [heq, henabled, isCached_eq_isSome hcache, hcache, hfind]
    rfl
  · rw [heq, henabled, isCached_eq_isSome hcache, hcache, hfind]
    exact hfresh

/-- An issuer that is switched off never calls its generator. -/
lemma asked_serve_of_not_enabled (h : Steady config generator i) (henabled : config.enabled = false)
    (hosts : List String) : (i.serve hosts).asked = i.asked := by
  induction hosts generalizing i with
  | nil => rfl
  | cons host hosts ih =>
    rw [serve_cons, ih (h.certificateFor host), h.asked_certificateFor, henabled]
    rfl

/-- An issuer without a cache calls its generator for every request. -/
lemma asked_serve_of_no_store (h : Steady config generator i) (henabled : config.enabled = true)
    (hstore : config.disableCertStore = true) (hosts : List String) :
    (i.serve hosts).asked = i.asked ++ hosts := by
  induction hosts generalizing i with
  | nil => exact (List.append_nil _).symm
  | cons host hosts ih =>
    rw [serve_cons, ih (h.certificateFor host), h.asked_certificateFor, henabled, hstore]
    exact (List.append_cons i.asked host hosts).symm

/-- An issuer without a cache has nothing to count. -/
lemma counts_of_no_store (h : Steady config generator i) (hstore : config.disableCertStore = true) :
    i.hits = 0 ∧ i.misses = 0 := by
  have hnone : i.cache = none := by
    rw [← Option.isNone_iff_eq_none, h.store, hstore]
  rw [hits, misses, hnone]
  exact ⟨rfl, rfl⟩

/-- What the generator answers, with the check that it names the host. -/
lemma generate_booked (h : Steady config generator i) (host : String) :
    (generate i.generator host i.state).1 = (generate generator host i.state.1).1 := by
  rw [h.source]
  unfold generate booked
  rcases generator host i.state.1 with ⟨answer, after⟩
  cases answer with
  | made c => by_cases hname : c.domain = host <;> simp [hname]
  | refused e => rfl
  | failed fault => rfl

/-- A request for a host that the cache does not find. A certificate that names the host is given
out and cached, and everything else is refused, which leaves the cached hosts as they are. -/
lemma certificateFor_of_not_cached (h : Steady config generator i)
    (henabled : config.enabled = true) (hstore : config.disableCertStore = false) {host : String}
    (hcached : i.isCached host = false) :
    let answer := (i.certificateFor host).1
    let next := (i.certificateFor host).2.1
    let made := (generator host i.state.1).1
    (Names host made → answer = made ∧ next.isCached host = true) ∧
    (¬ Names host made →
      ((∃ e, answer = .refused e) ∨ ∃ fault, made = .failed fault ∧ answer = .failed fault) ∧
        next.cached = i.cached) := by
  intro answer next made
  rcases i.certificateFor_cases host with ⟨hoff, -⟩ | ⟨-, hcache, -⟩ |
    ⟨-, cache, value, signals, hcache, hfind, -⟩ | ⟨-, cache, signals, hcache, hfind, heq⟩
  · rw [h.settings, henabled] at hoff
    contradiction
  · have hnone := h.store
    rw [hcache, hstore] at hnone
    contradiction
  · rw [isCached_eq_isSome hcache, hfind] at hcached
    contradiction
  · have hanswer : answer = (generate generator host i.state.1).1 :=
      (congrArg Prod.fst heq).trans (h.generate_booked host)
    have hnext : next.cached = (CertRun.missed cache host answer).entries := by
      rw [hanswer, ← h.generate_booked host]
      exact congrArg (fun r => r.2.1.cached) heq
    constructor
    · intro hnames
      have hmade : answer = made := by rw [hanswer, generate_of_names hnames]
      obtain ⟨c, hc, -⟩ := hnames
      refine ⟨hmade, (isCached_iff _ _).2 ⟨(host, c), ?_, rfl⟩⟩
      have hroom : cache.capacity = cache.capacity - 1 + 1 :=
        (Nat.sub_add_cancel (h.room cache hcache)).symm
      have hentries : (CertRun.missed cache host (.made c)).entries =
          ((host, c) :: cache.entries).take cache.capacity := rfl
      rw [hnext, hmade, hc, hentries, hroom, List.take_succ_cons]
      exact List.mem_cons_self
    · intro hnames
      have hrefused := (generate_of_not_names hnames).2
      rw [← hanswer] at hrefused
      refine ⟨hrefused, ?_⟩
      have hkept : (CertRun.missed cache host answer).entries = cache.entries := by
        rcases hrefused with ⟨e, he⟩ | ⟨fault, -, hfault⟩
        · rw [he]
          rfl
        · rw [hfault]
          rfl
      rw [hnext, hkept, cached, hcache]
      rfl

/-- A request for a host that the cache finds is answered with what is cached. -/
lemma certificateFor_of_cached (h : Steady config generator i) (henabled : config.enabled = true)
    {host : String} (hcached : i.isCached host = true) :
    ∃ c, (host, c) ∈ i.cached ∧ (i.certificateFor host).1 = .made c := by
  rcases i.certificateFor_cases host with ⟨hoff, -⟩ | ⟨-, hcache, -⟩ |
    ⟨-, cache, value, signals, hcache, hfind, heq⟩ | ⟨-, cache, signals, hcache, hfind, -⟩
  · rw [h.settings, henabled] at hoff
    contradiction
  · rw [isCached, hcache] at hcached
    contradiction
  · refine ⟨value, ?_, congrArg Prod.fst heq⟩
    rw [cached, hcache]
    exact CertRun.mem_entries_of_find? hfind
  · rw [isCached_eq_isSome hcache, hfind] at hcached
    contradiction

end Steady

/-- Whatever the generator does, after any requests everything that is cached names its host, and so
does what another request gives out.

* An issuer that is switched off refuses every request and never calls its generator.
* One without a cache calls its generator for every request, once, and counts nothing.
* One with a cache calls its generator, once, if and only if it has not cached the host. A
  certificate that names the host is then given out and cached. Anything else is refused, unless the
  generator itself has failed; it leaves the cached hosts as they are, and the generator is called
  again when the host is asked for next. A host that is cached gets the cached certificate. -/
theorem serve_names_hosts (config : TlsConfig)
    (generator : String → γ → Generated Certificate × γ) (state : γ) (hosts : List String) :
    let i := (ofBooked config generator state).serve hosts
    (∀ e ∈ i.cached, e.2.domain = e.1) ∧
    (config.enabled = false → i.asked = []) ∧
    (config.enabled = true → config.disableCertStore = true →
      i.asked = hosts ∧ i.hits = 0 ∧ i.misses = 0) ∧
    ∀ host,
      let answer := (i.certificateFor host).1
      let next := (i.certificateFor host).2.1
      let made := (generator host i.state.1).1
      (∀ c, answer = .made c → c.domain = host) ∧
      (config.enabled = false →
        (∃ e, answer = .refused e) ∧ next.asked = i.asked ∧ next.cached = i.cached) ∧
      (config.enabled = true → config.disableCertStore = true →
        next.asked = i.asked ++ [host] ∧ next.hits = i.hits ∧ next.misses = i.misses) ∧
      (config.enabled = true → config.disableCertStore = false →
        next.asked = (if i.isCached host then i.asked else i.asked ++ [host]) ∧
        (i.isCached host = true → ∃ c, (host, c) ∈ i.cached ∧ answer = .made c) ∧
        (i.isCached host = false → Names host made →
          answer = made ∧ next.isCached host = true) ∧
        (i.isCached host = false → ¬ Names host made →
          ((∃ e, answer = .refused e) ∨ ∃ fault, made = .failed fault ∧ answer = .failed fault) ∧
          next.cached = i.cached ∧
          ∀ others, host ∉ others →
            let later := next.serve others
            (later.certificateFor host).2.1.asked = later.asked ++ [host])) := by
  intro i
  have h : Steady config generator i := (Steady.start config generator state).serve hosts
  refine ⟨h.named, fun henabled => ?_, fun henabled hstore => ?_, fun host => ?_⟩
  · exact (Steady.start config generator state).asked_serve_of_not_enabled henabled hosts
  · refine ⟨?_, h.counts_of_no_store hstore⟩
    have hstart := Steady.start config generator state
    exact (hstart.asked_serve_of_no_store henabled hstore hosts).trans (List.nil_append hosts)
  intro answer next made
  have hnext : Steady config generator next := h.certificateFor host
  have hasked := h.asked_certificateFor host
  refine ⟨fun c hc => domain_certificateFor h.named hc, fun henabled => ?_,
    fun henabled hstore => ?_, fun henabled hstore => ⟨?_,
      fun hcached => h.certificateFor_of_cached henabled hcached, fun hcached hnames => ?_,
      fun hcached hnames => ?_⟩⟩
  · have hoff : i.config.enabled = false := by rw [h.settings, henabled]
    have heq : i.certificateFor host =
        (.refused (.certificate "TLS interception is disabled"), i, []) := by
      rw [certificateFor, hoff]
      rfl
    exact ⟨⟨_, congrArg Prod.fst heq⟩, congrArg (fun r => r.2.1.asked) heq,
      congrArg (fun r => r.2.1.cached) heq⟩
  · obtain ⟨hhits, hmisses⟩ := h.counts_of_no_store hstore
    obtain ⟨hhits', hmisses'⟩ := hnext.counts_of_no_store hstore
    rw [henabled, hstore] at hasked
    exact ⟨hasked, hhits'.trans hhits.symm, hmisses'.trans hmisses.symm⟩
  · rw [henabled, hstore] at hasked
    refine hasked.trans ?_
    cases i.isCached host <;> rfl
  · exact (h.certificateFor_of_not_cached henabled hstore hcached).1 hnames
  · obtain ⟨hrefused, hkept⟩ :=
      (h.certificateFor_of_not_cached henabled hstore hcached).2 hnames
    refine ⟨hrefused, hkept, fun others hothers => ?_⟩
    have hstill : next.isCached host = false := by
      rw [Bool.eq_false_iff, ne_eq, isCached_iff] at hcached ⊢
      rwa [hkept]
    have hlater := (hnext.serve others).asked_certificateFor host
    rw [henabled, hstore, isCached_serve_of_not_mem hstill hothers] at hlater
    exact hlater

/-- A generator that names another host the first time it is called. Nothing is cached then, and
after a request for a second host it is called for the first one again. Without a cache it is called
every time, and never when the issuer is switched off. -/
theorem serve_retries_mismatched_host :
    let generator (host : String) (calls : Nat) : Generated Certificate × Nat :=
      (.made ⟨if calls = 0 then "other.com" else host, "CERT", "KEY"⟩, calls + 1)
    let i := (ofBooked {} generator 0).serve []
    let next := (i.certificateFor "a.com").2.1
    let later := next.serve ["b.com"]
    next.cached = [] ∧ (later.certificateFor "a.com").2.1.asked = ["a.com", "b.com", "a.com"] ∧
      ((ofBooked { disableCertStore := true } generator 0).serve ["a.com", "a.com"]).asked =
        ["a.com", "a.com"] ∧
      ((ofBooked { enabled := false } generator 0).serve ["a.com"]).asked = [] := by
  intro generator i next later
  have hnames : ¬ Names "a.com" (generator "a.com" 0).1 := by
    rintro ⟨c, hc, hname⟩
    obtain rfl := Generated.made.inj hc
    exact absurd hname (by decide)
  obtain ⟨-, -, -, hrequest⟩ := serve_names_hosts {} generator 0 []
  obtain ⟨-, -, -, hstored⟩ := hrequest "a.com"
  obtain ⟨-, -, -, hmissed⟩ := hstored rfl rfl
  obtain ⟨-, hkept, hagain⟩ := hmissed rfl hnames
  obtain ⟨-, -, hplain, -⟩ :=
    serve_names_hosts { disableCertStore := true } generator 0 ["a.com", "a.com"]
  obtain ⟨-, hoff, -, -⟩ := serve_names_hosts { enabled := false } generator 0 ["a.com"]
  have hlater : later.asked = ["a.com", "b.com"] := by decide +kernel
  refine ⟨hkept, ?_, (hplain rfl rfl).1, hoff rfl⟩
  exact (hagain ["b.com"] (by decide)).trans (congrArg (· ++ ["a.com"]) hlater)

end Issuer

end Intercept
