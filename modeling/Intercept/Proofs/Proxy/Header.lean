import Intercept.Proofs.Numeral
import Intercept.Proofs.Proxy.Legs
import Intercept.Proofs.Proxy.Login

/-!
# Users in bodies and headers

A login names its user in the body, by a text or by an integer, and later requests name the user in
the header. Both places mean the same number however it is spelled there. Main statement:
`run_finds_session_by_header`. A text in the body starts a session exactly if it would be read in the
header, and until the next login of the same user that session belongs to the headers that spell the
number, at hosts of the same region, and to no others.
-/

namespace Intercept

/-- A header names a user by any spelling of the number. -/
lemma Identity.ofHeader_eq_known {uid : Option String} {n : UInt64} :
    ofHeader uid = .known n ↔ ∃ s, uid = some s ∧ Numeral.Spells s n.toNat := by
  cases uid with
  | none => simp [ofHeader]
  | some s =>
    have hempty : Numeral.readWord? "" = none := rfl
    simp only [ofHeader, Option.some.injEq, exists_eq_left', ← Numeral.readWord?_eq_some_iff]
    split
    · next h => simp [h, hempty]
    · cases Numeral.readWord? s <;> simp

/-- The user id in a document names a user: it is a text that spells the number, or what the number
writes as an integer. -/
def Document.Names (d : Document) (uid : UInt64) : Prop :=
  (∃ s, d.field? "uid" = some (.string s) ∧ Numeral.Spells s uid.toNat) ∨
    d.field? "uid" = Document.parse? (toString uid.toNat)

/-- The user id of a document is the one that it names. -/
lemma bodyUid?_eq_some_iff {d : Document} {uid : UInt64} : bodyUid? d = some uid ↔ d.Names uid := by
  rw [Document.Names, Document.parse?_toString, bodyUid?]
  split
  · next s h => simp [h, Numeral.readWord?_eq_some_iff]
  · next n h => simp [h]
  · next hstring hnumber =>
    constructor
    · intro h
      contradiction
    · rintro (⟨s, hs, -⟩ | hn)
      · exact (hstring s hs).elim
      · exact (hnumber uid hn).elim

/-- A login body that is a document gives the user id of the document. -/
lemma loginUid_of_parseBytes? {body : ByteArray} {d : Document}
    (h : Document.parseBytes? body = some d) : (loginUid body).1 = bodyUid? d := by
  rw [loginUid, h]
  simp only
  cases bodyUid? d <;> rfl

namespace Proxy

variable {σ γ : Type} {p : Proxy σ γ}

/-- A request starts anew for an identity only if it is a login of that identity. -/
lemma Sound.startsAnew_iff (h : Sound p) (name : String) {r : Request} {key : SessionKey} :
    p.StartsAnew name r key ↔ r.destination p.config p.filter = .login key := by
  refine ⟨fun hanew => ?_, fun hdest => h.startsAnew name hdest⟩
  obtain ⟨n, body, hfresh, hcurrent, -⟩ := hanew
  have hstep := p.session?_step (.traffic (.request name r)) key
  split at hstep
  · next hlogin => exact ProxyStep.login?_request.1 hlogin
  · -- Otherwise the session was the current one before, so it was there.
    have hold : p.session? key = some n := hstep.symm.trans hcurrent
    obtain ⟨s, hs, -⟩ := Engine.session_of_roll (h.roll_of_session? hold)
    rw [hfresh] at hs
    contradiction

/-- What a session is current for it was current for before, and no such identity has logged in
since. -/
lemma session?_run_eq_some_iff {n : Nat} (hn : n < p.engine.sessions.length)
    (steps : List (ProxyStep σ)) (key : SessionKey) : (p.run steps).session? key = some n ↔
      p.session? key = some n ∧ key ∉ ProxyStep.logins p.config p.filter steps := by
  induction steps generalizing p with
  | nil => simp [run, ProxyStep.logins]
  | cons s steps ih =>
    have hlength : n < (p.step s).engine.sessions.length := by
      rw [length_step]
      exact Nat.lt_add_right _ hn
    have hmem : key ∈ ProxyStep.logins p.config p.filter (s :: steps) ↔
        s.login? p.config p.filter = some key ∨ key ∈ ProxyStep.logins p.config p.filter steps := by
      simp [ProxyStep.logins]
    have hrest := ih hlength
    rw [config_step, filter_step, session?_step] at hrest
    rw [hmem, not_or]
    refine hrest.trans ?_
    split
    · next hlogin => simp [hlogin, Nat.ne_of_gt hn]
    · next hother => simp [hother]

/-- No session is ever taken away. -/
lemma length_le_run (p : Proxy σ γ) (steps : List (ProxyStep σ)) :
    p.engine.sessions.length ≤ (p.run steps).engine.sessions.length := by
  induction steps generalizing p with
  | nil => exact Nat.le_refl _
  | cons s steps ih =>
    refine Nat.le_trans ?_ (ih (p.step s))
    rw [length_step]
    exact Nat.le_add_right _ _

/-- The session that a login starts is current for the identity that logs in, until it does so again,
and for no other. -/
lemma Sound.session?_run_of_login (h : Sound p) {s : ProxyStep σ} {key : SessionKey}
    (hlogin : s.login? p.config p.filter = some key) (later : List (ProxyStep σ))
    (key' : SessionKey) :
    ((p.step s).run later).session? key' = some p.engine.sessions.length ↔
      key' = key ∧ key ∉ ProxyStep.logins p.config p.filter later := by
  have hlength : p.engine.sessions.length < (p.step s).engine.sessions.length := by
    rw [length_step, hlogin]
    exact Nat.lt_succ_self _
  have hold : p.session? key' ≠ some p.engine.sessions.length := by
    intro hs
    obtain ⟨hlt, -⟩ := List.getElem?_eq_some_iff.1 (h.roll_of_session? hs)
    rw [Engine.length_roll] at hlt
    exact Nat.lt_irrefl _ hlt
  rw [session?_run_eq_some_iff hlength, config_step, filter_step, session?_step, hlogin]
  by_cases heq : key = key'
  · simp [heq]
  · simp [heq, hold, Ne.symm heq]

/-- The session of an exchange is the one that the request belongs to. -/
lemma session_processRequest (p : Proxy σ γ) (r : Request) :
    (p.processRequest r).2.1.session = p.owner? r := by
  cases howner : p.owner? r with
  | some n =>
    rw [processRequest_of_owner? howner]
    rfl
  | none =>
    obtain ⟨isBlocked, signals, heq⟩ := processRequest_of_owner?_eq_none howner
    rw [heq]
    rfl

/-- A request belongs to a session that is there exactly if it is of an identity of which the session is
the current one. -/
lemma owner?_eq_some_iff {r : Request} {n : Nat} (hn : n < p.engine.sessions.length) :
    p.owner? r = some n ↔
      ∃ key, p.session? key = some n ∧ r.destination p.config p.filter = .current key := by
  unfold owner?
  cases r.destination p.config p.filter with
  | login key => simp [Nat.ne_of_gt hn]
  | current key => simp
  | nowhere isBlocked => simp

/-- To the session that a login starts belong the requests of the identity that logs in, until it does
so again, and no others. They are dispatched in it, and it is alive then. -/
lemma Sound.processRequest_after_login (h : Sound p) {s : ProxyStep σ} {key : SessionKey}
    (hlogin : s.login? p.config p.filter = some key) (later : List (ProxyStep σ)) (r : Request) :
    let n := p.engine.sessions.length
    let q := (p.step s).run later
    ((q.processRequest r).2.1.session = some n ↔
      key ∉ ProxyStep.logins p.config p.filter later ∧
        r.destination p.config p.filter = .current key) ∧
    ((q.processRequest r).2.1.session = some n →
      (∃ s, q.engine.session? n = some s ∧ s.key = key ∧ s.isAlive = true) ∧
        q.processRequest r = q.forward n r) := by
  intro n q
  have hcurrent := h.session?_run_of_login hlogin later
  have hn : n < q.engine.sessions.length := by
    refine Nat.lt_of_lt_of_le ?_ ((p.step s).length_le_run later)
    rw [length_step, hlogin]
    exact Nat.lt_succ_self _
  have hq : Sound q := (h.step s).run later
  have hdestination : r.destination q.config q.filter = r.destination p.config p.filter := by
    rw [config_run, filter_run, config_step, filter_step]
  rw [session_processRequest, owner?_eq_some_iff hn, hdestination]
  constructor
  · constructor
    · rintro ⟨key', hs, hdest⟩
      obtain ⟨rfl, hno⟩ := (hcurrent key').1 hs
      exact ⟨hno, hdest⟩
    · rintro ⟨hno, hdest⟩
      exact ⟨key, (hcurrent key).2 ⟨rfl, hno⟩, hdest⟩
  · rintro ⟨key', hs, hdest⟩
    obtain ⟨rfl, -⟩ := (hcurrent key').1 hs
    exact ⟨Engine.session_of_roll (hq.roll_of_session? hs),
      processRequest_of_current (hdestination.trans hdest) hs⟩

/-- Users named in bodies and headers, over all runs. Whatever modules do, of a proxy that has been
set up and of one more request of the login operation to a game host, without a header that names the
user and with a document for a body, it holds:

* A header is read as a number of 64 bits exactly if it spells the number, and no text spells two.
* If the user id in the body is a text, the request starts anew for just that user of the region of
  the host who would be read in a header of this text. If the text would not be read, no session is
  started and the table stays as it is.
* If the body names a user, by a text or by an integer, the request starts anew for this user. After
  any further steps, a request belongs to the session that was started exactly if the user has not
  logged in again, the host is a game host of the same region, and the header spells the number of
  the user. The session is then there and alive, and the request is dispatched in it. -/
theorem run_finds_session_by_header (c : EngineConfig) (f : HostFilter)
    (registry : ModuleRegistry σ) (memory : σ) (ls : Listeners) (steps : List (ProxyStep σ))
    (name : String) {r : Request} {region : String} {d : Document}
    (hgame : (f.classify r.host).1 = .game region)
    (hop : (Exchange.ofRequest r).requestOp = c.proxy.loginOp)
    (hheader : r.uid = none ∨ r.uid = some "") (hbody : Document.parseBytes? r.body = some d) :
    let p : Proxy σ γ := (setUp c f registry memory ls).run steps
    let p' := p.step (.traffic (.request name r))
    let n := p.engine.sessions.length
    (∀ s, (∀ uid, Identity.ofHeader (some s) = .known uid ↔ Numeral.Spells s uid.toNat) ∧
      ∀ m k, Numeral.Spells s m → Numeral.Spells s k → m = k) ∧
    (∀ s, d.field? "uid" = some (.string s) →
      (∀ key, p.StartsAnew name r key ↔
        key.region = region ∧ Identity.ofHeader (some s) = .known key.uid) ∧
      ((∀ uid, Identity.ofHeader (some s) ≠ .known uid) →
        p'.table = p.table ∧ p'.engine.sessions.length = n)) ∧
    ∀ uid, d.Names uid →
      let key : SessionKey := ⟨region, uid⟩
      p.StartsAnew name r key ∧
      ∀ (later : List (ProxyStep σ)) (r' : Request),
        let q := p'.run later
        ((q.processRequest r').2.1.session = some n ↔
          key ∉ ProxyStep.logins c f later ∧ (f.classify r'.host).1 = .game region ∧
            ∃ s, r'.uid = some s ∧ Numeral.Spells s uid.toNat) ∧
        ((q.processRequest r').2.1.session = some n →
          (∃ s, q.engine.session? n = some s ∧ s.key = key ∧ s.isAlive = true) ∧
            q.processRequest r' = q.forward n r') := by
  intro p p' n
  have hsettings : p.settings = (c, f, registry) := settings_run _ steps
  have hsound : Sound p := (Sound.setUp c f registry memory ls).run steps
  clear_value p
  obtain ⟨rfl, rfl, rfl⟩ : p.config = c ∧ p.filter = f ∧ p.registry = registry := by
    simpa [settings] using hsettings
  have hanew : ∀ key, p.StartsAnew name r key ↔ key.region = region ∧ bodyUid? d = some key.uid := by
    intro key
    rw [hsound.startsAnew_iff, Request.destination_eq_login, hgame, loginUid_of_parseBytes? hbody,
      Identity.ofHeader_eq_anonymous]
    simp [hheader, hop, eq_comm]
  have htext : ∀ s, d.field? "uid" = some (.string s) → ∀ uid,
      bodyUid? d = some uid ↔ Identity.ofHeader (some s) = .known uid := by
    intro s hs uid
    rw [Identity.ofHeader_eq_known, bodyUid?, hs]
    simp [Numeral.readWord?_eq_some_iff]
  refine ⟨fun s => ⟨fun uid => ?_, fun m k => Numeral.Spells.unique⟩,
    fun s hs => ⟨fun key => ?_, fun hno => ?_⟩, fun uid huid => ?_⟩
  · rw [Identity.ofHeader_eq_known]
    simp
  · rw [hanew, htext s hs]
  · have hnone : (ProxyStep.traffic (σ := σ) (.request name r)).login? p.config p.filter =
        none := by
      refine Option.eq_none_iff_forall_ne_some.2 fun key hlogin => ?_
      have hdest := ProxyStep.login?_request.1 hlogin
      obtain ⟨-, hread⟩ := (hanew key).1 (hsound.startsAnew name hdest)
      exact hno key.uid ((htext s hs key.uid).1 hread)
    obtain ⟨htable, hlength, -⟩ := handleRequest_of_no_login hnone
    exact ⟨htable, hlength⟩
  · intro key
    have hstart : p.StartsAnew name r key := (hanew key).2 ⟨rfl, bodyUid?_eq_some_iff.2 huid⟩
    have hdest := (hsound.startsAnew_iff name).1 hstart
    have hlogin : (ProxyStep.traffic (σ := σ) (.request name r)).login? p.config p.filter =
        some key := ProxyStep.login?_request.2 hdest
    refine ⟨hstart, fun later r' => ?_⟩
    obtain ⟨hsession, hdispatched⟩ := hsound.processRequest_after_login hlogin later r'
    rw [Request.destination_eq_current, Identity.ofHeader_eq_known] at hsession
    exact ⟨hsession, hdispatched⟩

/-- A user whom the body of the login names by the greatest integer of 64 bits is found by a header
that spells it with a sign and zeros, but not by one that spells the next number. -/
theorem run_finds_session_by_padded_header :
    let c : EngineConfig := {}
    let f : HostFilter :=
      { deny := none, gameHost := .group 1 .empty, config := { regions := [("", "GL")] } }
    let r : Request :=
      { host := "h", path := "/account/login"
        body := "\x7b\"uid\":18446744073709551615\x7d".toUTF8 }
    let next (uid : String) : Request := { host := "h", path := "/battle", uid := some uid }
    let d : Document := .ofFields [("uid", .number (.natural 18446744073709551615))]
    let p : Proxy Unit Unit := (setUp c f {} () []).run []
    let q := (p.step (.traffic (.request "x" r))).run []
    (f.classify r.host).1 = .game "GL" ∧ (Exchange.ofRequest r).requestOp = c.proxy.loginOp ∧
      Document.parseBytes? r.body = some d ∧ d.Names 18446744073709551615 ∧
      (q.processRequest (next "+0018446744073709551615")).2.1.session = some 0 ∧
      (q.processRequest (next "18446744073709551616")).2.1.session ≠ some 0 := by
  intro c f r next d p q
  have hgame : (f.classify r.host).1 = .game "GL" := by
    simp only [f, r]
    cbv
  have hop : (Exchange.ofRequest r).requestOp = c.proxy.loginOp := by
    simp only [c, r]
    cbv
  have hbody : Document.parseBytes? r.body = some d := by
    simp only [r, d]
    cbv
  have hnames : d.Names 18446744073709551615 := by
    refine Or.inr ?_
    rw [Document.parse?_toString]
    simp only [d]
    cbv
  have hspells : ∀ s, Numeral.Spells s (18446744073709551615 : UInt64).toNat ↔
      Numeral.readWord? s = some 18446744073709551615 :=
    fun s => Numeral.readWord?_eq_some_iff.symm
  obtain ⟨-, -, hnamed⟩ := @run_finds_session_by_header Unit Unit c f {} () [] [] "x" r "GL" d
    hgame hop (Or.inl rfl) hbody
  obtain ⟨-, hlater⟩ := hnamed 18446744073709551615 hnames
  refine ⟨hgame, hop, hbody, hnames, ?_, ?_⟩
  · have hpadded : Numeral.Spells "+0018446744073709551615" (18446744073709551615 : UInt64).toNat :=
      (hspells _).2 (by cbv)
    exact (hlater [] (next "+0018446744073709551615")).1.2
      ⟨List.not_mem_nil, hgame, "+0018446744073709551615", rfl, hpadded⟩
  · intro hsession
    obtain ⟨-, -, s, hs, hspelled⟩ := (hlater [] (next "18446744073709551616")).1.1 hsession
    obtain rfl := Option.some.inj hs
    have hread : Numeral.readWord? "18446744073709551616" = none := by cbv
    rw [hspells, hread] at hspelled
    contradiction

end Proxy

end Intercept
