import Intercept.Proofs.Http.Receive

/-!
# The host that is contacted

A request is classified by its host, and then sent to the authority of a URI. If the target of the
request names an authority, both are the same text. If it does not, the URI is put together from the
host header and the target and read again (`authority_originUri?`): its authority is what stands in
front of the first slash, question mark or number sign, be that the beginning of the target or a
character of the header. So the two hosts are the same exactly if the header has none of these
characters and the target begins with one of them, as all but the asterisk do
(`authority_originUri?_eq_host_iff`).
-/

namespace Intercept

namespace Uri

/-! ### Characters of authorities -/

/-- No authority goes on past a character that ends it. -/
lemma endsAuthority_of_next? {s s' : AuthorityScan} {c : Char} (h : s.next? c = some s') :
    endsAuthority c = false := by
  by_contra hends
  rw [Bool.not_eq_false, endsAuthority, Bool.or_eq_true, Bool.or_eq_true] at hends
  have hc : c = '/' ∨ c = '?' ∨ c = '#' := by simpa [or_assoc] using hends
  rcases hc with rfl | rfl | rfl <;> exact absurd h (by simp [AuthorityScan.next?, isAuthorityChar])

/-- An authority has no character that ends it. -/
lemma endsAuthority_of_isAuthority {cs : List Char} (h : isAuthority cs = true) :
    ∀ c ∈ cs, endsAuthority c = false := by
  have hscan (s s' : AuthorityScan) (hs : cs.foldlM AuthorityScan.next? s = some s') :
      ∀ c ∈ cs, endsAuthority c = false := by
    clear h
    induction cs generalizing s with
    | nil => simp
    | cons c cs ih =>
      rw [List.foldlM_cons] at hs
      obtain ⟨u, hu, hs⟩ := Option.bind_eq_some_iff.1 hs
      exact List.forall_mem_cons.2 ⟨endsAuthority_of_next? hu, ih u hs⟩
  unfold isAuthority at h
  split at h
  · next s hs => exact hscan {} s hs
  · contradiction

/-! ### What is read -/

/-- A path is read with what it begins with. -/
lemma exists_of_pathAndQuery? {cs : List Char} {target : String}
    (h : pathAndQuery? ('/' :: cs) = some target) : ∃ ds, target = String.ofList ('/' :: ds) := by
  unfold pathAndQuery? at h
  simp only [Option.ite_none_right_eq_some] at h
  obtain ⟨-, heq⟩ := h
  rw [List.takeWhile_cons_of_pos (by decide), List.cons_append] at heq
  exact ⟨_, (Option.some.inj heq).symm⟩

/-- A URI that does not begin with its path is an authority, or has one after its scheme. -/
lemma withAuthority?_cases {cs : List Char} {u : Uri} (h : withAuthority? cs = some u) :
    (isAuthority cs = true ∧ u = { authority := some (String.ofList cs) }) ∨
      ∃ scheme rest, cutScheme? cs = some (scheme, rest) ∧ u.scheme = some (schemeText scheme) ∧
        u.authority = some (String.ofList (rest.takeWhile (!endsAuthority ·))) := by
  unfold withAuthority? at h
  split at h
  · rw [Option.ite_none_right_eq_some] at h
    exact Or.inl ⟨h.1, (Option.some.inj h.2).symm⟩
  · next scheme rest hcut =>
    simp only [Option.ite_none_right_eq_some] at h
    obtain ⟨-, hmap⟩ := h
    obtain ⟨target, -, rfl⟩ := Option.map_eq_some_iff.1 hmap
    exact Or.inr ⟨scheme, rest, hcut, rfl, rfl⟩

/-- The forms of a target: the asterisk, a path, an authority, and a URI with a scheme. -/
lemma parse?_cases {s : String} {u : Uri} (h : parse? s = some u) :
    (s = "*" ∧ u = { pathAndQuery := "*" }) ∨
    (s ≠ "*" ∧ ∃ cs, u = { pathAndQuery := String.ofList ('/' :: cs) }) ∨
    (s ≠ "*" ∧ u.scheme = none ∧ u.authority = some s ∧ isAuthority s.toList = true) ∨
    (s ≠ "*" ∧ u.scheme.isSome = true ∧ u.authority.isSome = true) := by
  have hasterisk {cs : List Char} (hs : s.toList = cs) (hne : cs ≠ ['*']) : s ≠ "*" := by
    rintro rfl
    exact hne hs.symm
  unfold parse? at h
  split at h
  · contradiction
  · split at h
    · contradiction
    · next hs => exact Or.inl ⟨String.toList_inj.1 hs, (Option.some.inj h).symm⟩
    · next cs hs =>
      obtain ⟨target, htarget, rfl⟩ := Option.map_eq_some_iff.1 h
      obtain ⟨ds, rfl⟩ := exists_of_pathAndQuery? htarget
      exact Or.inr (Or.inl ⟨hasterisk hs (by simp), ds, rfl⟩)
    · next hne hpath =>
      have hs : s ≠ "*" := by
        rintro rfl
        exact hne rfl
      rcases withAuthority?_cases h with ⟨hauth, rfl⟩ | ⟨scheme, rest, -, hscheme, hauthority⟩
      · exact Or.inr (Or.inr (Or.inl ⟨hs, rfl, by rw [String.ofList_toList], hauth⟩))
      · exact Or.inr (Or.inr (Or.inr ⟨hs, by rw [hscheme]; rfl, by rw [hauthority]; rfl⟩))

/-- The authority of a URI with a common scheme: what stands in front of the character that ends it.
-/
lemma authority_of_http {s : String} {u : Uri} (h : parse? ("http://" ++ s) = some u) :
    u.authority = some (String.ofList (s.toList.takeWhile (!endsAuthority ·))) := by
  have hchars : ("http://" ++ s).toList =
      'h' :: 't' :: 't' :: 'p' :: ':' :: '/' :: '/' :: s.toList := String.toList_append
  have hcut : cutScheme? ('h' :: 't' :: 't' :: 'p' :: ':' :: '/' :: '/' :: s.toList) =
      some (['h', 't', 't', 'p'], s.toList) := rfl
  unfold parse? at h
  split at h
  · contradiction
  · rw [hchars] at h
    rcases withAuthority?_cases h with ⟨hauth, -⟩ | ⟨scheme, rest, hrest, -, hauthority⟩
    · exact absurd (endsAuthority_of_isAuthority hauth '/' (by simp)) (by decide)
    · obtain ⟨-, rfl⟩ := Prod.mk.inj (Option.some.inj (hcut.symm.trans hrest))
      exact hauthority

end Uri

namespace Http

/-! ### The authority of the origin -/

/-- What is taken from the front of two lists is all of the first one, and no more. -/
lemma takeWhile_append_eq_left {α : Type} {q : α → Bool} {l m : List α} :
    (l ++ m).takeWhile q = l ↔ (∀ a ∈ l, q a = true) ∧ m.takeWhile q = [] := by
  induction l with
  | nil => simp
  | cons a l ih =>
    by_cases ha : q a = true
    · rw [List.cons_append, List.takeWhile_cons_of_pos ha, List.cons_inj_right, ih,
        List.forall_mem_cons, and_assoc, and_iff_right ha]
    · rw [List.cons_append, List.takeWhile_cons_of_neg ha, List.forall_mem_cons]
      simp [ha]

/-- A target that names no authority of its own is put together with the host and read again. -/
lemma authority_originUri? {u uri : Uri} {host : String} (h : originUri? u host = some uri)
    (hnone : u.scheme = none ∨ u.authority = none) :
    uri.authority = some (String.ofList
      ((host.toList ++ u.resource.toList).takeWhile (!Uri.endsAuthority ·))) := by
  have hrelative : ¬ (u.scheme.isSome = true ∧ u.authority.isSome = true) := by
    rintro ⟨hscheme, hauthority⟩
    rcases hnone with hno | hno
    · simp [hno] at hscheme
    · simp [hno] at hauthority
  rw [originUri?, if_neg hrelative, String.append_assoc] at h
  rw [Uri.authority_of_http h, String.toList_append]

/-- So it is the host if that has no character that ends it and the target begins with one. -/
lemma authority_originUri?_iff {u uri : Uri} {host : String} (h : originUri? u host = some uri)
    (hnone : u.scheme = none ∨ u.authority = none) :
    uri.authority = some host ↔ (∀ c ∈ host.toList, Uri.endsAuthority c = false) ∧
      u.resource.toList.takeWhile (!Uri.endsAuthority ·) = [] := by
  rw [authority_originUri? h hnone, Option.some.injEq, ← String.toList_inj, String.toList_ofList,
    takeWhile_append_eq_left]
  simp only [Bool.not_eq_true']

/-- The host that is contacted. For every target that can be read, of a request whose origin has a
URI:

* The authority of that URI is the host of the request exactly if the target names an authority
  itself, or it is not the asterisk and the host header has no slash, question mark or number sign.
* The host of the request is what the proxy classifies, and that URI is where the request is sent. -/
theorem authority_originUri?_eq_host_iff {target : String} {r : ClientRequest} {uri : Uri}
    (htarget : Uri.parse? target = some r.uri) (huri : originUri? r.uri r.host = some uri) :
    (uri.authority = some r.host ↔ r.uri.authority.isSome = true ∨
      target ≠ "*" ∧ ∀ c ∈ r.host.toList, c ≠ '/' ∧ c ≠ '?' ∧ c ≠ '#') ∧
    ∀ {σ γ : Type} (p : Proxy σ γ) (name : String) (body : ByteArray),
      r.method ≠ "CONNECT" → r.body = some body → (p.filter.classify r.host).1 ≠ .blocked →
      ∃ x sent, (receive p name r).2 = .forwarded x sent ∧ x.host = r.host ∧ sent.uri = uri := by
  have hplain : (∀ c ∈ r.host.toList, Uri.endsAuthority c = false) ↔
      ∀ c ∈ r.host.toList, c ≠ '/' ∧ c ≠ '?' ∧ c ≠ '#' := by
    simp [Uri.endsAuthority, and_assoc]
  have hhost {authority : String} (h : r.uri.authority = some authority) : r.host = authority := by
    rw [ClientRequest.host, h]
    rfl
  refine ⟨?_, ?_⟩
  · rcases Uri.parse?_cases htarget with
      ⟨rfl, hu⟩ | ⟨hne, cs, hu⟩ | ⟨-, hscheme, hauthority, hchars⟩ | ⟨-, hscheme, hauthority⟩
    · have hmore : ({ pathAndQuery := "*" } : Uri).resource.toList.takeWhile
          (!Uri.endsAuthority ·) ≠ [] := by decide
      rw [authority_originUri?_iff huri (Or.inl (by rw [hu])), hu]
      simp [hmore]
    · have hslash : ({ pathAndQuery := String.ofList ('/' :: cs) } : Uri).resource.toList =
          '/' :: cs := by simp [Uri.resource]
      rw [authority_originUri?_iff huri (Or.inl (by rw [hu])), hu, hslash,
        List.takeWhile_cons_of_neg (by decide), hplain]
      simp [hne]
    · have hslash : r.uri.resource = "/" := by simp [Uri.resource, hscheme, hauthority]
      have hends := Uri.endsAuthority_of_isAuthority hchars
      rw [authority_originUri?_iff huri (Or.inl hscheme), hslash, hhost hauthority, hauthority]
      simp only [Option.isSome_some, true_or, iff_true]
      exact ⟨hends, by decide⟩
    · obtain ⟨authority, hauth⟩ := Option.isSome_iff_exists.1 hauthority
      rw [originUri?, if_pos ⟨hscheme, hauthority⟩] at huri
      obtain rfl := Option.some.inj huri
      simp [hauth, hhost hauth]
  · intro σ γ p name body hmethod hbody hclass
    have hreceived := receive_of_not_blocked p name hmethod hbody hclass
    rw [huri] at hreceived
    exact ⟨_, _, congrArg (·.2) hreceived, Proxy.host_exchangeFor _ _, rfl⟩

/-- A path with a query is asked of the host that the header names. -/
theorem authority_originUri?_of_path :
    let r : ClientRequest :=
      { method := "GET", uri := { pathAndQuery := "/b?c=/" }, headers := [("host", "h:81".toUTF8)],
        body := some .empty }
    let uri : Uri :=
      { scheme := some "http", authority := some "h:81", pathAndQuery := "/b?c=/" }
    Uri.parse? "/b?c=/" = some r.uri ∧ originUri? r.uri r.host = some uri ∧ r.host = "h:81" ∧
      uri.authority = some r.host := by
  intro r uri
  have htarget : Uri.parse? "/b?c=/" = some r.uri := by
    simp only [r]
    cbv
  have hhost : r.host = "h:81" := by
    simp only [r]
    cbv
  have huri : originUri? r.uri r.host = some uri := by
    rw [hhost]
    simp only [r, uri]
    cbv
  refine ⟨htarget, huri, hhost, ?_⟩
  exact (authority_originUri?_eq_host_iff htarget huri).1.2
    (Or.inr ⟨by decide, by simp [hhost]⟩)

/-- A header with a slash: the request passes through, for its host is no game host, and goes to a
game host. -/
theorem authority_originUri?_ne_host_with_slash :
    let c : ProxyConfig := { gameHostPattern := "^(h)$", regions := [("h", "GL")] }
    let r : ClientRequest :=
      { method := "GET", uri := { pathAndQuery := "/b" }, headers := [("host", "h/a".toUTF8)],
        body := some .empty }
    let uri : Uri := { scheme := some "http", authority := some "h", pathAndQuery := "/a/b" }
    Uri.parse? "/b" = some r.uri ∧ r.host = "h/a" ∧ originUri? r.uri r.host = some uri ∧
      uri.authority ≠ some r.host ∧
      (HostFilter.ofConfig c).toOption.map (fun f => ((f.classify r.host).1, (f.classify "h").1)) =
        some (.passThrough, .game "GL") := by
  intro c r uri
  have hhost : r.host = "h/a" := by
    simp only [r]
    cbv
  rw [hhost]
  refine ⟨?_, rfl, ?_, ?_, ?_⟩
  · simp only [r]
    cbv
  · simp only [r, uri]
    cbv
  · simp [uri]
  · simp only [c]
    cbv

end Http

end Intercept
