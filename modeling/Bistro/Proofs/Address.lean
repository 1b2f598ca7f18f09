import Bistro.Backend.Call
import Bistro.Proofs.Reading
import Bistro.Proofs.Trimmed
import Mathlib.Data.List.TakeDrop
import Mathlib.Tactic.SplitIfs

/-!
# Addresses of endpoints

The path of an endpoint that is added to an address is the last segment of the new address, if the
address has neither a query nor a fragment (`Url.parse_endpointUrl`). With pairs in its query the
same endpoint is asked, unless this makes its address too long to be a URI
(`Request.make_addPairs`).
-/

namespace Bistro

section Pieces

variable {α : Type} {p : α → Bool} {a : α}

theorem takeWhile_append_cons (ha : p a = false) (s t : List α) :
    (s ++ a :: t).takeWhile p = s.takeWhile p := by
  rw [List.takeWhile_append, List.takeWhile_cons_of_neg (by simp [ha])]
  split_ifs with hall
  · rw [List.append_nil]
    exact ((List.takeWhile_prefix p).eq_of_length hall).symm
  · rfl

theorem dropWhile_append_cons (ha : p a = false) (s t : List α) :
    (s ++ a :: t).dropWhile p = s.dropWhile p ++ a :: t := by
  rw [List.dropWhile_append, List.dropWhile_cons_of_neg (by simp [ha])]
  split_ifs with hall
  · rw [List.isEmpty_iff.1 hall, List.nil_append]
  · rfl

end Pieces

namespace Url

theorem cut_eq (p : Char → Bool) (s : List Char) :
    cut p s = (s.takeWhile fun c => !p c, s.dropWhile fun c => !p c) :=
  List.span_eq_takeWhile_dropWhile _ s

/-- The characters that do not count at the ends of an address. -/
def isOuter (c : Char) : Bool :=
  c.toNat ≤ 0x20

/-- The characters that count in an address. -/
def isKept (c : Char) : Bool :=
  c != '\t' && c != '\n' && c != '\r'

theorem clean_eq (s : List Char) :
    clean s = (dropEndWhile isOuter (s.dropWhile isOuter)).filter isKept :=
  rfl

theorem isKept_of_isOuter {c : Char} (h : isOuter c = false) : isKept c = true := by
  have hne : ∀ d : Char, isOuter d = true → c ≠ d := by
    rintro d hd rfl
    rw [h] at hd
    cases hd
  simp [isKept, hne '\t' rfl, hne '\n' rfl, hne '\r' rfl]

/-- A segment that stays as it is at the end of a path. -/
structure IsSegment (l : List Char) : Prop where
  outer : ∀ c ∈ l, isOuter c = false
  slash : ∀ c ∈ l, isSlash true c = false
  ends : ∀ c ∈ l, endsPath c = false
  encoded : Percent.encode Percent.inPath l = l
  dot : isDot l = false
  doubleDot : isDoubleDot l = false

variable {l : List Char}

theorem clean_append (hl : ∀ c ∈ l, isOuter c = false) (s : List Char) :
    clean (s ++ '/' :: l) = (s.dropWhile isOuter).filter isKept ++ '/' :: l := by
  have hl' : ∀ c ∈ '/' :: l, isOuter c = false := List.forall_mem_cons.2 ⟨rfl, hl⟩
  rw [clean_eq, dropWhile_append_cons rfl, dropEndWhile_eq_self, List.filter_append,
    List.filter_eq_self.2 fun c hc => isKept_of_isOuter (hl' c hc)]
  intro c hc
  rw [List.getLast?_append_of_ne_nil _ (List.cons_ne_nil _ _)] at hc
  exact hl' c (List.mem_of_getLast? hc)

/-- What stands in front of the added segment is the address with more behind it, or without
slashes at its end. -/
theorem clean_dropEndWhile (hl : ∀ c ∈ l, isOuter c = false) (s : List Char) :
    ∃ front, clean (dropEndWhile (· == '/') s ++ '/' :: l) = front ++ '/' :: l ∧ front ⊆ s ∧
      ((∃ more, front = clean s ++ more) ∨
        ∃ slashes, clean s = front ++ slashes ∧ ∀ c ∈ slashes, c = '/') := by
  obtain ⟨slashes, hs, hslashes⟩ := exists_dropEndWhile_append (· == '/') s
  generalize dropEndWhile (· == '/') s = t at hs
  subst hs
  refine ⟨(t.dropWhile isOuter).filter isKept, clean_append hl t, fun c hc => ?_, ?_⟩
  · exact List.mem_append_left _ (List.dropWhile_subset _ (List.mem_of_mem_filter hc))
  · rcases slashes with _ | ⟨first, slashes⟩
    -- without a slash at the end, what was trimmed there is now in front of the segment
    · obtain ⟨blanks, ht, -⟩ := exists_dropEndWhile_append isOuter (t.dropWhile isOuter)
      refine .inl ⟨blanks.filter isKept, ?_⟩
      rw [List.append_nil, clean_eq, ← List.filter_append, ← ht]
    · have hslash : ∀ c ∈ first :: slashes, c = '/' := fun c hc => by simpa using hslashes c hc
      obtain rfl := hslash first List.mem_cons_self
      refine .inr ⟨_, clean_append (fun c hc => ?_) t, hslash⟩
      rw [hslash c (List.mem_cons_of_mem _ hc)]
      rfl

/-! ## The scheme -/

/-- The characters of schemes. -/
def inScheme (c : Char) : Bool :=
  c.isAlphanum || c == '+' || c == '-' || c == '.'

theorem schemeOf_eq (s : List Char) :
    schemeOf s = match s.takeWhile inScheme, s.dropWhile inScheme with
      | first :: _, ':' :: rest =>
        if first.isAlpha then some (String.ofList ((s.takeWhile inScheme).map Char.toLower), rest)
        else none
      | _, _ => none := by
  simp only [schemeOf, List.span_eq_takeWhile_dropWhile]
  rfl

theorem schemeOf_append {first : Char} {name : List Char} (hfirst : first.isAlpha = true)
    (hname : ∀ c ∈ first :: name, inScheme c = true) (rest : List Char) :
    schemeOf ((first :: name) ++ ':' :: rest) =
      some (String.ofList ((first :: name).map Char.toLower), rest) := by
  rw [schemeOf_eq, takeWhile_append_cons rfl, dropWhile_append_cons rfl,
    List.takeWhile_eq_self_iff.2 hname, List.dropWhile_eq_nil_iff.2 hname, List.nil_append]
  exact if_pos hfirst

/-- The scheme is that of the name in front of a colon, whatever follows it. -/
theorem schemeOf_eq_some {s rest : List Char} {scheme : String}
    (h : schemeOf s = some (scheme, rest)) :
    ∃ name, s = name ++ ':' :: rest ∧ (∀ c ∈ name, inScheme c = true) ∧
      ∀ rest', schemeOf (name ++ ':' :: rest') = some (scheme, rest') := by
  have hs := List.takeWhile_append_dropWhile (p := inScheme) (l := s)
  have hmem : ∀ c ∈ s.takeWhile inScheme, inScheme c = true := fun c => List.mem_takeWhile_imp
  rw [schemeOf_eq] at h
  split at h
  · rename_i first name rest' hname hrest
    rw [hname] at hs hmem h
    split_ifs at h with halpha
    obtain ⟨rfl, rfl⟩ := Prod.mk.inj (Option.some.inj h)
    exact ⟨first :: name, by rw [← hrest, hs], hmem, schemeOf_append halpha hmem⟩
  · cases h

theorem scheme_afterSlashes {scheme : String} {s : List Char} {url : Url}
    (h : afterSlashes scheme s = .ok url) : url.scheme = scheme := by
  obtain ⟨_, -, rfl⟩ := map_eq_ok_iff.1 h
  rfl

theorem scheme_onHost (host : Host) (s : List Char) : (onHost host s).scheme = "file" := by
  rw [onHost]
  split <;> rfl

theorem scheme_fileOf {s : List Char} {url : Url} (h : fileOf s = .ok url) :
    url.scheme = "file" := by
  have honHost : ∀ {host rest}, onHost host rest = url → url.scheme = "file" := by
    rintro host rest rfl
    exact scheme_onHost host rest
  rw [fileOf.eq_def] at h
  split at h
  · simp only [cut_eq] at h
    split_ifs at h
    · exact honHost (Except.ok.inj h)
    · exact honHost (Except.ok.inj h)
    · obtain ⟨_, -, hurl⟩ := map_eq_ok_iff.1 h
      exact honHost hurl
    · exact honHost (Except.ok.inj h)
  · exact honHost (Except.ok.inj h)

theorem scheme_plainOf {scheme : String} {s : List Char} {url : Url}
    (h : plainOf scheme s = .ok url) : url.scheme = scheme := by
  rw [plainOf.eq_def] at h
  split at h
  · exact scheme_afterSlashes h
  · cases h
    rfl
  · cases h
    rfl

/-- An address is read by its scheme: one of http or https has its authority behind all the slashes
that follow the scheme. -/
theorem parse_eq_ok {text : String} {url : Url} (h : parse text = .ok url) :
    ∃ rest, schemeOf (clean text.toList) = some (url.scheme, rest) ∧
      (url.scheme = "http" ∨ url.scheme = "https" →
        afterSlashes url.scheme (rest.dropWhile (isSlash true)) = .ok url) := by
  rw [parse, parseAt] at h
  split at h
  · rename_i scheme rest hscheme
    simp only at h
    have hdrop : rest.drop (rest.takeWhile (isSlash true)).length =
        rest.dropWhile (isSlash true) := by
      conv_lhs =>
        arg 2
        rw [← List.takeWhile_append_dropWhile (p := isSlash true) (l := rest)]
      exact List.drop_left
    split_ifs at h with hfile hspecial
    · refine ⟨rest, by rw [hscheme, hfile, scheme_fileOf h], ?_⟩
      simp [scheme_fileOf h]
    · rw [hdrop] at h
      obtain rfl := scheme_afterSlashes h
      exact ⟨rest, hscheme, fun _ => h⟩
    · obtain rfl := scheme_plainOf h
      refine ⟨rest, hscheme, ?_⟩
      rintro (hs | hs) <;> rw [hs] at hspecial <;> exact absurd rfl hspecial
  · cases h

/-- A segment behind others is the last one of the path. -/
theorem walk_concat (h : IsSegment l) :
    ∀ (init done : List (List Char)), ∃ dir, walk done (init ++ [l]) = dir ++ [l]
  | [], done => ⟨done.reverse, by simp [walk, h.encoded, h.dot, h.doubleDot]⟩
  | s :: init, done => by
    rw [List.cons_append, walk]
    split
    · exact walk_concat h init _
    · exact walk_concat h init _

theorem segmentsOf_self (h : IsSegment l) : segmentsOf true l = [l] := by
  have hne : ∀ c : Char, isSlash true c = true → c ∉ l := fun c hc hmem => by
    simp [h.slash c hmem] at hc
  have hback : (l.map fun c => if c = '\\' then '/' else c) = l := by
    conv_rhs => rw [← List.map_id l]
    refine List.map_congr_left fun c hc => if_neg ?_
    rintro rfl
    exact hne _ rfl hc
  rw [segmentsOf, if_pos rfl, hback, List.splitOn_eq_singleton (hne '/' rfl)]

theorem segmentsOf_append (h : IsSegment l) (y : List Char) :
    segmentsOf true (y ++ '/' :: l) = segmentsOf true y ++ [l] := by
  rw [← segmentsOf_self h, segmentsOf, segmentsOf, segmentsOf, if_pos rfl, if_pos rfl, if_pos rfl,
    List.map_append, List.map_cons, if_neg (by decide), List.splitOn_append_cons_self]

/-- A first slash is left out, and the segment stays the last one. -/
theorem exists_segmentsOf (h : IsSegment l) (y : List Char) :
    ∃ init, segmentsOf true (match y ++ '/' :: l with
      | c :: r => if isSlash true c then r else y ++ '/' :: l
      | [] => []) = init ++ [l] := by
  cases y with
  | nil => exact ⟨[], segmentsOf_self h⟩
  | cons c y =>
    simp only [List.cons_append]
    split_ifs
    · exact ⟨_, segmentsOf_append h y⟩
    · exact ⟨_, segmentsOf_append h (c :: y)⟩

/-- What follows an authority and ends with a segment is a path that ends with it. -/
theorem withRest_append (h : IsSegment l) {scheme : String} (hscheme : isSpecial scheme = true)
    (authority : Option Authority) {y : List Char} (hy : ∀ c ∈ y, endsPath c = false) :
    ∃ dir, (withRest scheme authority (y ++ '/' :: l)).path = .segments (dir ++ [l]) := by
  have hl : ∀ c ∈ '/' :: l, endsPath c = false := List.forall_mem_cons.2 ⟨rfl, h.ends⟩
  have hall : ∀ c ∈ y ++ '/' :: l, (fun c => !endsPath c) c = true := by
    intro c hc
    rcases List.mem_append.1 hc with hc | hc
    · exact congrArg not (hy c hc)
    · exact congrArg not (hl c hc)
  obtain ⟨init, hinit⟩ := exists_segmentsOf h y
  obtain ⟨dir, hdir⟩ := walk_concat h init []
  simp only [withRest, cut_eq, List.takeWhile_eq_self_iff.2 hall,
    List.dropWhile_eq_nil_iff.2 hall, hscheme]
  refine ⟨dir, congrArg UrlPath.segments ?_⟩
  rw [if_neg (by simp)]
  exact (congrArg (walk []) hinit).trans hdir

/-- A port is a colon and digits. -/
theorem portOf_eq_ok {scheme : String} {s tail : List Char} {port : Option Nat}
    (h : portOf scheme s = .ok (port, tail)) :
    ∃ gone, s = gone ++ tail ∧ ∀ c ∈ gone, c = ':' ∨ Decimal.isDigit c = true := by
  rw [portOf.eq_def] at h
  split at h
  · rename_i text
    simp only [List.span_eq_takeWhile_dropWhile] at h
    split at h
    · cases h
    · obtain ⟨-, rfl⟩ := Prod.mk.inj (Except.ok.inj h)
      refine ⟨':' :: text.takeWhile Decimal.isDigit, by simp, fun c hc => ?_⟩
      exact (List.mem_cons.1 hc).imp_right List.mem_takeWhile_imp
  · obtain ⟨-, rfl⟩ := Prod.mk.inj (Except.ok.inj h)
    exact ⟨[], rfl, by simp⟩

theorem portOf_append {scheme : String} {z tail : List Char} {port : Option Nat}
    (h : portOf scheme (z ++ '/' :: l) = .ok (port, tail)) :
    ∃ y, tail = y ++ '/' :: l ∧ y ⊆ z := by
  obtain ⟨gone, heq, hgone⟩ := portOf_eq_ok h
  have hslash : '/' ∉ gone := fun hmem => absurd (hgone _ hmem) (by decide)
  rcases List.append_eq_append_iff.1 heq with ⟨a, rfl, ha⟩ | ⟨y, rfl, hy⟩
  · rcases a with _ | ⟨c, a⟩
    · exact ⟨[], ha.symm, List.nil_subset z⟩
    · obtain ⟨rfl, -⟩ := List.cons.inj ha
      exact absurd (List.mem_append_right z List.mem_cons_self) hslash
  · exact ⟨y, hy, List.subset_append_right gone y⟩

theorem cutHost_append : ∀ (inside : Bool) (s : List Char),
    (cutHost inside s).1 ++ (cutHost inside s).2 = s
  | _, [] => rfl
  | inside, c :: s => by
    rw [cutHost]
    split_ifs
    · rfl
    · exact congrArg (c :: ·) (cutHost_append _ s)
    · exact congrArg (c :: ·) (cutHost_append _ s)
    · exact congrArg (c :: ·) (cutHost_append _ s)

theorem subset_of_mem_splitOn (a : Char) :
    ∀ (s : List Char) {piece : List Char}, piece ∈ s.splitOn a → piece ⊆ s
  | [], piece, h => by
    rw [List.splitOn_nil, List.mem_singleton] at h
    exact h ▸ List.Subset.refl _
  | c :: s, piece, h => by
    rw [List.splitOn_cons_eq_if_modifyHead] at h
    obtain ⟨first, pieces, hpieces⟩ := List.exists_cons_of_ne_nil (List.splitOn_ne_nil a s)
    have ih := fun p (hp : p ∈ s.splitOn a) => subset_of_mem_splitOn a s hp
    rw [hpieces] at h ih
    split_ifs at h
    · rcases List.mem_cons.1 h with rfl | h
      · exact List.nil_subset _
      · exact List.subset_cons_of_subset _ (ih piece h)
    · rcases List.mem_cons.1 h with rfl | h
      · exact List.cons_subset_cons c (ih first List.mem_cons_self)
      · exact List.subset_cons_of_subset _ (ih piece (List.mem_cons_of_mem _ h))

/-- The port is read in what the host leaves of the authority and in what follows it. -/
theorem authorityOf_eq_ok {scheme : String} {s tail : List Char} {authority : Authority}
    (h : authorityOf scheme s = .ok (authority, tail)) :
    ∃ rest port, rest ⊆ s.takeWhile (fun c => !endsAuthority (isSpecial scheme) c) ∧
      portOf scheme (rest ++ s.dropWhile fun c => !endsAuthority (isSpecial scheme) c) =
        .ok (port, tail) := by
  simp only [authorityOf, cut_eq] at h
  generalize s.takeWhile (fun c => !endsAuthority (isSpecial scheme) c) = text at *
  generalize s.dropWhile (fun c => !endsAuthority (isSpecial scheme) c) = behind at *
  have hlast : (text.splitOn '@').getLastD [] ⊆ text := by
    have hmem := List.getLastD_mem_cons (l := text.splitOn '@') (a := [])
    rcases List.mem_cons.1 hmem with hnil | hmem
    · rw [hnil]
      exact List.nil_subset _
    · exact subset_of_mem_splitOn '@' text hmem
  have hrest : (cutHost false ((text.splitOn '@').getLastD [])).2 ⊆ text := fun c hc => by
    refine hlast ?_
    rw [← cutHost_append false ((text.splitOn '@').getLastD [])]
    exact List.mem_append_right _ hc
  generalize cutHost false ((text.splitOn '@').getLastD []) = host at *
  split at h
  · cases h
  split at h
  · cases h
  split at h
  · cases h
  split at h
  · cases h
  obtain ⟨⟨port, _⟩, hport, heq⟩ := map_eq_ok_iff.1 h
  cases heq
  exact ⟨host.2, port, hrest, hport⟩

/-- A segment at the end is not in the authority. -/
theorem authorityOf_append {scheme : String} {x tail : List Char} {authority : Authority}
    (h : authorityOf scheme (x ++ '/' :: l) = .ok (authority, tail)) :
    ∃ y, tail = y ++ '/' :: l ∧ y ⊆ x := by
  obtain ⟨rest, port, hrest, hport⟩ := authorityOf_eq_ok h
  rw [takeWhile_append_cons (p := fun c => !endsAuthority (isSpecial scheme) c) rfl] at hrest
  rw [dropWhile_append_cons (p := fun c => !endsAuthority (isSpecial scheme) c) rfl,
    ← List.append_assoc] at hport
  obtain ⟨y, htail, hy⟩ := portOf_append hport
  refine ⟨y, htail, fun c hc => ?_⟩
  rcases List.mem_append.1 (hy hc) with hc | hc
  · exact List.takeWhile_subset _ (hrest hc)
  · exact List.dropWhile_subset _ hc

end Url

/-! ## An endpoint at an address -/

/-- The last segment of the addresses of an endpoint. -/
def Endpoint.name (e : Endpoint) : List Char :=
  e.path.toList.drop 1

namespace Url

theorem isSegment_name (e : Endpoint) : IsSegment e.name := by
  have hall : (e.name.all fun c => !isOuter c && !isSlash true c && !endsPath c) = true := by
    cases e <;> decide
  simp only [List.all_eq_true, Bool.and_eq_true, Bool.not_eq_true'] at hall
  exact {
    outer := fun c hc => (hall c hc).1.1
    slash := fun c hc => (hall c hc).1.2
    ends := fun c hc => (hall c hc).2
    encoded := by cases e <;> decide
    dot := by cases e <;> decide
    doubleDot := by cases e <;> decide }

theorem toList_endpointUrl (base : String) (e : Endpoint) :
    (endpointUrl base e.path).toList =
      dropEndWhile (· == '/') base.toList ++ '/' :: e.name := by
  rw [endpointUrl, String.toList_ofList]
  cases e <;> rfl

/-- Only slashes are no authority. -/
theorem exists_notSlash {scheme : String} (hscheme : scheme = "http" ∨ scheme = "https")
    {s : List Char} {url : Url} (h : afterSlashes scheme (s.dropWhile (isSlash true)) = .ok url) :
    ∃ c ∈ s, isSlash true c = false := by
  by_contra hall
  have hall' : ∀ c ∈ s, isSlash true c = true := by
    simpa using hall
  rw [List.dropWhile_eq_nil_iff.2 hall'] at h
  rcases hscheme with rfl | rfl <;> cases h

theorem afterSlashes_append (h : IsSegment l) {scheme : String}
    (hscheme : isSpecial scheme = true) {x : List Char} {url : Url}
    (hx : ∀ c ∈ x, endsPath c = false) (hurl : afterSlashes scheme (x ++ '/' :: l) = .ok url) :
    ∃ dir, url.path = .segments (dir ++ [l]) := by
  obtain ⟨a, ha, rfl⟩ := map_eq_ok_iff.1 hurl
  obtain ⟨y, hy, hsub⟩ := authorityOf_append ha
  simp only [hy]
  exact withRest_append h hscheme _ fun c hc => hx c (hsub hc)

/-- An address with an endpoint behind it keeps its scheme and all of it that is no slash. -/
theorem exists_schemeOf_endpointUrl {base : String} {e : Endpoint} {scheme : String}
    {rest : List Char} (h : schemeOf (clean base.toList) = some (scheme, rest)) :
    ∃ r, schemeOf (clean (endpointUrl base e.path).toList) = some (scheme, r ++ '/' :: e.name) ∧
      r ⊆ base.toList ∧ ∀ c ∈ rest, isSlash true c = false → c ∈ r := by
  obtain ⟨front, hclean, hsub, hfront⟩ :=
    clean_dropEndWhile (isSegment_name e).outer base.toList
  obtain ⟨name, hbase, -, hname⟩ := schemeOf_eq_some h
  rw [hbase] at hfront
  obtain ⟨r, rfl, hr⟩ : ∃ r, front = name ++ ':' :: r ∧
      ∀ c ∈ rest, isSlash true c = false → c ∈ r := by
    rcases hfront with ⟨more, rfl⟩ | ⟨slashes, heq, hslashes⟩
    · exact ⟨rest ++ more, by simp, fun c hc _ => List.mem_append_left _ hc⟩
    · have hcolon : ':' ∉ slashes := fun hmem => absurd (hslashes _ hmem) (by decide)
      rcases List.append_eq_append_iff.1 heq with ⟨a, rfl, ha⟩ | ⟨a, rfl, rfl⟩
      · rcases a with _ | ⟨c, r⟩
        · rw [List.nil_append] at ha
          exact absurd (ha ▸ List.mem_cons_self) hcolon
        · obtain ⟨rfl, rfl⟩ := List.cons.inj ha
          refine ⟨r, rfl, fun c hc hne => (List.mem_append.1 hc).resolve_right fun hmem => ?_⟩
          rw [hslashes c hmem] at hne
          cases hne
      · exact absurd (List.mem_append_right a List.mem_cons_self) hcolon
  rw [toList_endpointUrl, hclean, List.append_assoc, List.cons_append, hname]
  exact ⟨r, rfl, fun c hc => hsub (List.mem_append_right _ (List.mem_cons_of_mem _ hc)), hr⟩

/-- The path of an endpoint is the last segment behind an address that has no query. -/
theorem parse_endpointUrl {base : String} {e : Endpoint} {origin url : Url}
    (hbase : parse base = .ok origin) (hquery : '?' ∉ base.toList) (hfragment : '#' ∉ base.toList)
    (h : parse (endpointUrl base e.path) = .ok url)
    (hscheme : url.scheme = "http" ∨ url.scheme = "https") :
    ∃ dir, url.path = .segments (dir ++ [e.name]) := by
  obtain ⟨rest, hrest, hafter⟩ := parse_eq_ok hbase
  obtain ⟨rest', hrest', hafter'⟩ := parse_eq_ok h
  obtain ⟨r, hr, hsub, hmem⟩ := exists_schemeOf_endpointUrl (e := e) hrest
  obtain ⟨hsame, rfl⟩ := Prod.mk.inj (Option.some.inj (hrest'.symm.trans hr))
  obtain ⟨c, hc, hne⟩ := exists_notSlash (hsame ▸ hscheme) (hafter (hsame ▸ hscheme))
  -- the slashes behind the scheme end in the address itself: the one of the endpoint is kept
  have hdrop : ¬ (r.dropWhile (isSlash true)).isEmpty := fun hempty => by
    have hslash := List.dropWhile_eq_nil_iff.1 (List.isEmpty_iff.1 hempty) c (hmem c hc hne)
    rw [hne] at hslash
    cases hslash
  have hurl := hafter' hscheme
  rw [List.dropWhile_append, if_neg hdrop] at hurl
  refine afterSlashes_append (isSegment_name e) ?_ (fun c hc => ?_) hurl
  · rcases hscheme with hs | hs <;> rw [hs] <;> rfl
  · have hbase := hsub (List.dropWhile_subset _ hc)
    simp only [endsPath, Bool.or_eq_false_iff, beq_eq_false_iff_ne]
    exact ⟨fun h => hquery (h ▸ hbase), fun h => hfragment (h ▸ hbase)⟩

end Url

theorem Request.make_eq_ok {method : Method} {address : String} {request : Request}
    (h : Request.make method address [] = .ok request) :
    ∃ parsed, Url.parse address = .ok parsed ∧ parsed.host?.isNone = false ∧
      request = ⟨method, parsed.withoutUser⟩ ∧
      (parsed.scheme = "http" ∨ parsed.scheme = "https") ∧ parsed.withoutUser.isUri := by
  rw [Request.make] at h
  split at h
  · cases h
  · rename_i parsed hparsed
    simp only [List.isEmpty_nil, if_true] at h
    split_ifs at h with hhost hscheme huri
    cases h
    refine ⟨parsed, hparsed, Bool.not_eq_true _ ▸ hhost, rfl, ?_, huri⟩
    by_contra hnone
    exact hscheme (not_or.1 hnone)

/-- Where an endpoint can be asked without pairs it can be asked with them, as far as its address is
not too long for it. -/
theorem Request.make_addPairs {method : Method} {address : String} {url : Url}
    (h : Request.make method address [] = .ok ⟨method, url⟩) {pairs : List (String × String)}
    (hpairs : pairs ≠ []) :
    (Request.make method address pairs).toOption =
      if (url.addPairs pairs).write.utf8ByteSize ≤ Url.maxUri then
        some ⟨method, url.addPairs pairs⟩
      else none := by
  obtain ⟨parsed, hparsed, hhost, heq, hscheme, huri⟩ := Request.make_eq_ok h
  cases heq
  have hwrite : (parsed.withoutUser.addPairs pairs).isUri =
      decide ((parsed.withoutUser.addPairs pairs).write.utf8ByteSize ≤ Url.maxUri) := by
    rw [Url.isUri, Bool.and_eq_true] at huri
    exact (congrArg _ huri.2).trans (Bool.and_true _)
  have hempty : pairs.isEmpty = false := by simpa using hpairs
  have hnone : ¬ ((parsed.withoutUser.addPairs pairs).scheme ≠ "http" ∧
      (parsed.withoutUser.addPairs pairs).scheme ≠ "https") := fun hnone =>
    hscheme.elim hnone.1 hnone.2
  simp only [Request.make, hparsed, hhost, hempty, Bool.false_eq_true, if_false]
  rw [if_neg hnone, hwrite]
  by_cases hfits : (parsed.withoutUser.addPairs pairs).write.utf8ByteSize ≤ Url.maxUri
  · rw [if_pos hfits, if_pos (decide_eq_true hfits)]
    rfl
  · rw [if_neg hfits, if_neg (by simpa using hfits)]
    rfl

end Bistro
