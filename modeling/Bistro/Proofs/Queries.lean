import Bistro.Proofs.Address
import Bistro.Proofs.FormEncoding
import Bistro.Proofs.Step

/-!
# The query of a request

The pairs that a call adds stand at the end of its query. In front of them are the pairs that the
address of the backend has itself, and there are none where it has no query of its own
(`Call.exists_query_of_request?`). A call with a value that is too long for an address is not made
(`Call.request?_of_long`).
-/

namespace Bistro

namespace Url

/-- Whether an address has a query: a question mark in front of the fragment. -/
def HasQuery (s : List Char) : Prop :=
  '?' ∈ s.takeWhile (· ≠ '#')

theorem hasQuery_iff {s : List Char} :
    HasQuery s ↔ ∃ before after, s = before ++ '?' :: after ∧ '#' ∉ before := by
  constructor
  · intro h
    obtain ⟨before, after, heq⟩ := List.append_of_mem h
    refine ⟨before, after ++ s.dropWhile (· ≠ '#'), ?_, fun hmem => ?_⟩
    · rw [← List.cons_append, ← List.append_assoc, ← heq, List.takeWhile_append_dropWhile]
    · have hin : '#' ∈ s.takeWhile (· ≠ '#') := heq ▸ List.mem_append_left _ hmem
      simpa using List.mem_takeWhile_imp hin
  · rintro ⟨before, after, rfl, hbefore⟩
    rw [HasQuery, List.takeWhile_append_of_pos fun c hc => by
      exact decide_eq_true (ne_of_mem_of_not_mem hc hbefore)]
    simp

theorem HasQuery.append_left {s : List Char} (h : HasQuery s) {before : List Char}
    (hbefore : '#' ∉ before) : HasQuery (before ++ s) := by
  obtain ⟨a, b, rfl, ha⟩ := hasQuery_iff.1 h
  exact hasQuery_iff.2 ⟨before ++ a, b, by simp, by simp [hbefore, ha]⟩

theorem HasQuery.append_right {s : List Char} (h : HasQuery s) (after : List Char) :
    HasQuery (s ++ after) := by
  obtain ⟨a, b, rfl, ha⟩ := hasQuery_iff.1 h
  exact hasQuery_iff.2 ⟨a, b ++ after, by simp, ha⟩

theorem HasQuery.of_append_left {s t : List Char} (h : HasQuery (s ++ t)) (hs : '?' ∉ s) :
    HasQuery t := by
  obtain ⟨a, b, heq, ha⟩ := hasQuery_iff.1 h
  rcases List.append_eq_append_iff.1 heq with ⟨c, rfl, ht⟩ | ⟨c, rfl, hc⟩
  · exact hasQuery_iff.2 ⟨c, b, ht, fun hmem => ha (List.mem_append_right _ hmem)⟩
  · rcases c with _ | ⟨d, c⟩
    · exact hasQuery_iff.2 ⟨[], b, hc.symm, nofun⟩
    · cases hc
      simp at hs

theorem HasQuery.of_append {s t : List Char} (h : HasQuery (s ++ t)) (ht : '?' ∉ t) :
    HasQuery s := by
  rw [HasQuery, List.takeWhile_append] at h
  split_ifs at h with hall
  · rcases List.mem_append.1 h with hmem | hmem
    · rwa [HasQuery, (List.takeWhile_prefix _).eq_of_length hall]
    · exact absurd (List.takeWhile_subset _ hmem) ht
  · exact h

theorem HasQuery.of_filter {s : List Char} {p : Char → Bool} (hp : p '#' = true)
    (h : HasQuery (s.filter p)) : HasQuery s := by
  obtain ⟨a, b, heq, ha⟩ := hasQuery_iff.1 h
  obtain ⟨front, back, rfl, rfl, hback⟩ := List.filter_eq_append_iff.1 heq
  obtain ⟨skipped, rest, rfl, hskipped, -, -⟩ := List.filter_eq_cons_iff.1 hback
  refine hasQuery_iff.2 ⟨front ++ skipped, rest, by simp, fun hmem => ?_⟩
  rcases List.mem_append.1 hmem with hmem | hmem
  · exact ha (List.mem_filter.2 ⟨hmem, hp⟩)
  · exact hskipped _ hmem hp

/-- What is left out around an address and in it does not count for its query. -/
theorem HasQuery.of_clean {s : List Char} (h : HasQuery (clean s)) : HasQuery s := by
  rw [clean_eq] at h
  have hquery := HasQuery.of_filter (by decide) h
  obtain ⟨outer, houter, -⟩ := exists_dropEndWhile_append isOuter (s.dropWhile isOuter)
  rw [← List.takeWhile_append_dropWhile (p := isOuter) (l := s), houter]
  refine (hquery.append_right outer).append_left fun hmem => ?_
  exact absurd (List.mem_takeWhile_imp hmem) (by decide)

theorem query_withRest {scheme : String} {authority : Option Authority} {s : List Char}
    (h : ¬ HasQuery s) : (withRest scheme authority s).query = none := by
  have hs := List.takeWhile_append_dropWhile (p := fun c => !endsPath c) (l := s)
  have hfront : '#' ∉ s.takeWhile fun c => !endsPath c := fun hmem =>
    absurd (List.mem_takeWhile_imp hmem) (by decide)
  simp only [withRest, cut_eq, tailOf]
  split
  · rename_i rest heq
    exact absurd (hasQuery_iff.2 ⟨_, rest, heq ▸ hs.symm, hfront⟩) h
  · rfl

theorem hasQuery_of_authorityOf {scheme : String} {s tail : List Char} {authority : Authority}
    (h : authorityOf scheme s = .ok (authority, tail)) (htail : HasQuery tail) : HasQuery s := by
  obtain ⟨rest, port, hrest, hport⟩ := authorityOf_eq_ok h
  obtain ⟨gone, heq, hgone⟩ := portOf_eq_ok hport
  have htext : ∀ c : Char, endsPath c = true →
      c ∉ s.takeWhile fun c => !endsAuthority (isSpecial scheme) c := fun c hc hmem => by
    simpa [endsAuthority, hc] using List.mem_takeWhile_imp hmem
  have hport : '#' ∉ gone := fun hmem => absurd (hgone _ hmem) (by decide)
  have hbehind := (heq ▸ htail.append_left hport).of_append_left
    fun hmem => htext '?' rfl (hrest hmem)
  rw [← List.takeWhile_append_dropWhile (p := fun c => !endsAuthority (isSpecial scheme) c)
    (l := s)]
  exact hbehind.append_left (htext '#' rfl)

theorem hasQuery_of_parse {text : String} {url : Url} (h : parse text = .ok url)
    (hscheme : url.scheme = "http" ∨ url.scheme = "https") (hquery : url.query ≠ none) :
    HasQuery text.toList := by
  obtain ⟨rest, hrest, hafter⟩ := parse_eq_ok h
  obtain ⟨name, hclean, hname, -⟩ := schemeOf_eq_some hrest
  obtain ⟨⟨authority, tail⟩, hauthority, hurl⟩ := map_eq_ok_iff.1 (hafter hscheme)
  have htail : HasQuery tail := by
    by_contra hnone
    exact hquery (hurl ▸ query_withRest hnone)
  have hslashes : '#' ∉ rest.takeWhile (isSlash true) := fun hmem =>
    absurd (List.mem_takeWhile_imp hmem) (by decide)
  have hbehind : HasQuery rest := by
    rw [← List.takeWhile_append_dropWhile (p := isSlash true) (l := rest)]
    exact (hasQuery_of_authorityOf hauthority htail).append_left hslashes
  refine HasQuery.of_clean ?_
  rw [hclean, ← List.singleton_append, ← List.append_assoc]
  refine hbehind.append_left fun hmem => ?_
  rcases List.mem_append.1 hmem with hmem | hmem
  · exact absurd (hname _ hmem) (by decide)
  · exact absurd (List.mem_singleton.1 hmem) (by decide)

/-- Where the address of the backend has no query, that of an endpoint has none. -/
theorem query_endpointUrl {base : String} {e : Endpoint} {url : Url}
    (hbase : ¬ HasQuery base.toList) (h : parse (endpointUrl base e.path) = .ok url)
    (hscheme : url.scheme = "http" ∨ url.scheme = "https") : url.query = none := by
  by_contra hquery
  have haddress := hasQuery_of_parse h hscheme hquery
  rw [toList_endpointUrl] at haddress
  have hname : '?' ∉ '/' :: e.name := fun hmem => by
    rcases List.mem_cons.1 hmem with heq | hmem
    · cases heq
    · exact absurd ((isSegment_name e).ends _ hmem) (by decide)
  obtain ⟨slashes, hslashes, -⟩ := exists_dropEndWhile_append (· == '/') base.toList
  exact hbase (hslashes ▸ (haddress.of_append hname).append_right slashes)

end Url

theorem Urlencoded.decode_append_encode (q : List Char) (pairs : List (String × String)) :
    decode (utf8 (String.ofList (q ++ '&' :: encode pairs))) =
      decode (utf8 (String.ofList q)) ++ pairs := by
  conv_rhs => rw [← decode_encode pairs]
  rw [utf8_ofList, utf8_ofList, utf8_ofList, charBytes_append, charBytes_cons]
  simp only [decode]
  rw [show String.utf8EncodeChar '&' = [0x26] from rfl, List.singleton_append,
    List.splitOn_append_cons_self, List.filter_append, List.map_append]

/-- The pairs stand behind the query that the address has of its own, if it has one. -/
theorem Url.exists_query_addPairs (url : Url) (pairs : List (String × String)) :
    ∃ own query, (url.addPairs pairs).query = some query ∧ Urlencoded.encode pairs <:+ query ∧
      Urlencoded.decode (utf8 (String.ofList query)) = own ++ pairs ∧
      (url.query = none → own = []) := by
  unfold Url.addPairs
  rcases url.query with _ | _ | ⟨c, q⟩
  · exact ⟨[], _, rfl, List.suffix_rfl, Urlencoded.decode_encode pairs, fun _ => rfl⟩
  · exact ⟨[], _, rfl, List.suffix_rfl, Urlencoded.decode_encode pairs, nofun⟩
  · refine ⟨_, _, rfl, ?_, Urlencoded.decode_append_encode _ pairs, nofun⟩
    exact (List.suffix_cons '&' _).trans (List.suffix_append (c :: q) _)

namespace Call

theorem pairs_ne_nil : ∀ c : Call, c.pairs ≠ []
  | .detail _ | .review _ | .search _ | .reservation _ | .popular _ | .reserve _ | .postReview _
  | .postDetail _ => List.cons_ne_nil _ _

theorem method_of_request? {base : String} {c : Call} {r : Request}
    (h : c.request? base = some r) : r.method = c.method := by
  rw [Call.request?, Call.request, Request.make] at h
  split at h
  · cases h
  · simp only at h
    split_ifs at h <;> cases h <;> rfl

theorem exists_parsed_of_request? {base : String} {c : Call} {q : Request}
    (h : c.request? base = some q) :
    ∃ parsed, Url.parse (endpointUrl base c.endpoint.path) = .ok parsed ∧
      q.url = parsed.withoutUser.addPairs c.pairs ∧
      (parsed.scheme = "http" ∨ parsed.scheme = "https") ∧ q.url.isUri := by
  have hempty : c.pairs.isEmpty = false := by simpa using c.pairs_ne_nil
  have hmake : Request.make c.method (endpointUrl base c.endpoint.path) c.pairs = .ok q := by
    rw [request?, request] at h
    cases hmake : Request.make c.method (endpointUrl base c.endpoint.path) c.pairs with
    | error f => simp [hmake, Except.toOption] at h
    | ok r => simpa [hmake, Except.toOption] using h
  rw [Request.make] at hmake
  split at hmake
  · cases hmake
  · rename_i parsed hparsed
    simp only [hempty, Bool.false_eq_true, if_false] at hmake
    split_ifs at hmake with hhost hscheme huri
    cases hmake
    refine ⟨parsed, hparsed, rfl, ?_, huri⟩
    by_contra hnone
    exact hscheme (not_or.1 hnone)

theorem exists_query_of_request? {base : String} {c : Call} {q : Request}
    (h : c.request? base = some q) :
    ∃ own query, q.url.query = some query ∧
      Urlencoded.decode (utf8 (String.ofList query)) = own ++ c.pairs ∧
      (¬ Url.HasQuery base.toList → own = []) := by
  obtain ⟨parsed, hparsed, hurl, hscheme, -⟩ := exists_parsed_of_request? h
  obtain ⟨own, query, hquery, -, hdecode, hown⟩ := parsed.withoutUser.exists_query_addPairs c.pairs
  refine ⟨own, query, hurl ▸ hquery, hdecode, fun hbase => hown ?_⟩
  exact (Url.query_endpointUrl hbase hparsed hscheme : parsed.query = none)

end Call

theorem length_le_utf8ByteSize (s : List Char) : s.length ≤ (String.ofList s).utf8ByteSize := by
  have hbytes : ∀ s : List Char, s.length ≤ (charBytes s).length := by
    intro s
    induction s with
    | nil => exact Nat.le_refl 0
    | cons c s ih =>
      have hc := List.length_pos_iff.2 (String.utf8EncodeChar_ne_nil (c := c))
      rw [charBytes_cons, List.length_cons, List.length_append]
      omega
  exact (utf8_ofList s ▸ hbytes s : s.length ≤ (utf8 (String.ofList s)).length)

theorem Url.length_query_le {url : Url} {query : List Char} (h : url.query = some query) :
    query.length ≤ url.write.utf8ByteSize := by
  refine Nat.le_trans ?_ (length_le_utf8ByteSize url.chars)
  simp only [Url.chars, h, List.length_append, List.length_cons]
  omega

namespace Urlencoded

theorem length_value_le :
    ∀ {pairs : List (String × String)} {p : String × String}, p ∈ pairs →
      (encodeText p.2).length ≤ (encode pairs).length
  | [q], p, h => by
    obtain rfl := List.mem_singleton.1 h
    simp only [encode, List.map_singleton, List.intercalate_singleton, encodePair,
      List.length_append, List.length_cons]
    omega
  | q :: r :: pairs, p, h => by
    have hencode : encode (q :: r :: pairs) = encodePair q ++ ['&'] ++ encode (r :: pairs) :=
      List.intercalate_cons_cons
    rw [hencode, List.length_append, List.length_append]
    rcases List.mem_cons.1 h with rfl | h
    · simp only [encodePair, List.length_append, List.length_cons]
      omega
    · exact Nat.le_trans (length_value_le h) (Nat.le_add_left _ _)

theorem encodeText_replicate (n : Nat) :
    encodeText (String.ofList (List.replicate n 'a')) = List.replicate n 'a' := by
  rw [encodeText, utf8_ofList]
  induction n with
  | zero => rfl
  | succ n ih =>
    rw [List.replicate_succ, charBytes_cons, List.flatMap_append, ih]
    rfl

end Urlencoded

/-- A call with a value that is longer than an address may be is not made, whatever the address of
the backend is. -/
theorem Call.request?_of_long {c : Call} {p : String × String} (hp : p ∈ c.pairs)
    (hlong : Url.maxUri < (Urlencoded.encodeText p.2).length) (base : String) :
    c.request? base = none := by
  by_contra hsome
  obtain ⟨q, hq⟩ := Option.ne_none_iff_exists'.1 hsome
  obtain ⟨parsed, -, hurl, -, huri⟩ := exists_parsed_of_request? hq
  obtain ⟨_, query, hquery, hencode, -⟩ := parsed.withoutUser.exists_query_addPairs c.pairs
  have hvalue := Urlencoded.length_value_le hp
  have hwrite := Url.length_query_le (hurl ▸ hquery)
  have hsize : q.url.write.utf8ByteSize ≤ Url.maxUri := by
    rw [Url.isUri, Bool.and_eq_true] at huri
    exact of_decide_eq_true huri.1
  have hsuffix := hencode.length_le
  omega

end Bistro
