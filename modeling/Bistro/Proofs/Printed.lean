import Bistro.Json.Printer
import Bistro.Proofs.IntegerTokens
import Bistro.Proofs.Reading

/-!
# Printed JSON read back

What is printed is read back as it was, whatever follows it. A text is read character by character,
since every escape is undone (`Json.readText_textChars`), and the loops over items and members go
round once for each that is printed, if one round reads one of them (`Json.readItems_chars`,
`Json.readMembersWith_chars`). So a value whose numbers are integers of 64 bits is read as itself,
within as many levels as it has (`Json.readValue_chars`).
-/

namespace Bistro

namespace Json

theorem hexNumber_control :
    ∀ n < 0x20, hexNumber '0' '0' (Nat.digitChar (n / 16)) (Nat.digitChar (n % 16)) = some n := by
  decide

theorem readTextBody_charText (done : List Char) (c : Char) (rest : List Char) :
    readTextBody done (charText c ++ rest) = readTextBody (c :: done) rest := by
  unfold charText
  split_ifs with hquote hbackslash hn hr ht hb hf hcontrol
  · simp [readTextBody, escapedChar, hquote]
  · simp [readTextBody, escapedChar, hbackslash]
  · simp [readTextBody, escapedChar, hn]
  · simp [readTextBody, escapedChar, hr]
  · simp [readTextBody, escapedChar, ht]
  · simp [readTextBody, escapedChar, hb]
  · simp [readTextBody, escapedChar, hf]
  · have hsecond : isSecondHalf c.toNat = false := by
      simp only [isSecondHalf, Bool.and_eq_false_iff, decide_eq_false_iff_not]
      omega
    have hfirst : isFirstHalf c.toNat = false := by
      simp only [isFirstHalf, Bool.and_eq_false_iff, decide_eq_false_iff_not]
      omega
    simp only [List.cons_append, List.nil_append]
    rw [readTextBody, hexNumber_control _ hcontrol]
    simp [hsecond, hfirst]
  · rw [List.singleton_append, readTextBody, if_neg hcontrol]
    all_goals simp_all

theorem readText_textChars (s : String) (rest : List Char) :
    readText (s.toList.flatMap charText ++ '"' :: rest) = .ok (s, rest) := by
  have hbody : ∀ (s done : List Char), readTextBody done (s.flatMap charText ++ '"' :: rest) =
      .ok (String.ofList (done.reverse ++ s), rest) := by
    intro s
    induction s with
    | nil =>
      intro done
      rw [List.flatMap_nil, List.nil_append, readTextBody, List.append_nil]
    | cons c s ih =>
      intro done
      rw [List.flatMap_cons, List.append_assoc, readTextBody_charText, ih, List.reverse_cons,
        List.append_assoc, List.singleton_append]
  rw [readText, hbody, List.reverse_nil, List.nil_append, String.ofList_toList]

/-- A value with at most that many levels of lists and objects, and with no other numbers than
integers that 64 bits hold, with a sign or without. -/
inductive Fits : Nat → Json → Prop
  | null (levels : Nat) : Fits levels .null
  | boolean (levels : Nat) (b : Bool) : Fits levels (.boolean b)
  | integer (levels : Nat) (z : Int)
      (bounds : -9223372036854775808 ≤ z ∧ z ≤ 18446744073709551615) :
      Fits levels (.number (.integer z))
  | text (levels : Nat) (s : String) : Fits levels (.text s)
  | list {levels : Nat} {items : List Json} (items_fit : ∀ v ∈ items, Fits levels v) :
      Fits (levels + 1) (.list items)
  | object {levels : Nat} {members : List (String × Json)}
      (members_fit : ∀ m ∈ members, Fits levels m.2) : Fits (levels + 1) (.object members)

theorem skipSpaces_cons {c : Char} (h : isSpace c = false) (s : List Char) :
    skipSpaces (c :: s) = c :: s :=
  List.dropWhile_cons_of_neg (by simp [h])

theorem exists_chars_eq_cons (z : Int) :
    ∃ c s, Decimal.chars z = c :: s ∧ (c = '-' ∨ Decimal.isDigit c) := by
  cases z with
  | negSucc n => exact ⟨'-', _, rfl, .inl rfl⟩
  | ofNat n =>
    rcases hdigits : Decimal.digits n with _ | ⟨c, s⟩
    · exact absurd hdigits Nat.toDigits_ne_nil
    · exact ⟨c, s, hdigits, .inr (Decimal.isDigit_of_mem_digits (n := n) (by simp [hdigits]))⟩

theorem isSpace_of_isDigit {c : Char} (h : Decimal.isDigit c) : isSpace c = false := by
  rw [← (Decimal.digitChar_digitValue h).2]
  have hsmall : ∀ n < 10, isSpace (Nat.digitChar n) = false := by decide
  exact hsmall _ (Decimal.digitChar_digitValue h).1

/-- Whether a text begins with neither a blank nor the end of a list, as what is printed does. -/
def StartsValue (s : List Char) : Prop :=
  ∃ c rest, s = c :: rest ∧ isSpace c = false ∧ c ≠ ']'

theorem StartsValue.append {s : List Char} (h : StartsValue s) (rest : List Char) :
    StartsValue (s ++ rest) := by
  obtain ⟨c, s, rfl, hc⟩ := h
  exact ⟨c, s ++ rest, rfl, hc⟩

theorem Fits.startsValue {levels : Nat} {v : Json} (h : Fits levels v) : StartsValue v.chars := by
  cases h with
  | null => exact ⟨'n', _, rfl, by decide, by decide⟩
  | boolean _ b => cases b <;> exact ⟨_, _, rfl, by decide, by decide⟩
  | integer _ z =>
    obtain ⟨c, s, hcs, rfl | hc⟩ := exists_chars_eq_cons z
    · exact ⟨'-', s, hcs, by decide, by decide⟩
    · refine ⟨c, s, hcs, isSpace_of_isDigit hc, ?_⟩
      rintro rfl
      exact absurd hc (by decide)
  | text _ s => exact ⟨'"', _, rfl, by decide, by decide⟩
  | list => exact ⟨'[', _, rfl, by decide, by decide⟩
  | object => exact ⟨'\x7b', _, rfl, by decide, by decide⟩

section Items

variable {σ α : Type}

theorem nextItem_first {s : List Char} (h : StartsValue s) : nextItem true s = .ok (some s) := by
  obtain ⟨c, s, rfl, hspace, hend⟩ := h
  rw [nextItem, skipSpaces_cons hspace]
  split <;> simp_all

theorem nextItem_false_comma (s : List Char) :
    nextItem false (',' :: s) = match skipSpaces s with
      | [] => .error (.on .endInValue [])
      | ']' :: r => .error (.on .trailingComma (']' :: r))
      | r => .ok (some r) :=
  rfl

theorem nextItem_comma {s : List Char} (h : StartsValue s) :
    nextItem false (',' :: s) = .ok (some s) := by
  obtain ⟨c, s, rfl, hspace, hend⟩ := h
  rw [nextItem_false_comma, skipSpaces_cons hspace]
  split <;> simp_all

/-- One round of the loop over items. -/
theorem readItemsWith_succ {item : σ → Reader σ} {fuel : Nat} {first : Bool} {state state' : σ}
    {s s' rest : List Char} (hnext : nextItem first s = .ok (some s'))
    (hitem : item state s' = .ok (state', rest)) :
    readItemsWith item (fuel + 1) first state s = readItemsWith item fuel false state' rest := by
  rw [readItemsWith, hnext]
  simp only [hitem]

theorem itemChars_cons (v : Json) (items : List Json) :
    itemChars (v :: items) = v.chars ++ items.flatMap fun v => ',' :: v.chars := by
  induction items generalizing v with
  | nil => simp [itemChars]
  | cons w items ih => simp [itemChars, ih]

/-- A number ends where the next item or member begins, or the list or object ends. -/
theorem endsNumber_flatMap (print : α → List Char) (xs : List α) {close : Char}
    (hclose : close = ']' ∨ close = '\x7d') (rest : List Char) :
    EndsNumber (xs.flatMap (fun x => ',' :: print x) ++ close :: rest) := by
  have hsign : ∀ {c : Char}, c = ',' ∨ c = ']' ∨ c = '\x7d' → ∀ s, EndsNumber (c :: s) := by
    rintro c (rfl | rfl | rfl) s <;> constructor <;> simp +decide [startsWithDigit, startsTail]
  cases xs with
  | nil => exact hsign (.inr hclose) _
  | cons x xs => exact hsign (.inl rfl) _

/-- Notes an item in front of those noted before. -/
def noteItem (item : Reader α) (done : List α) : Reader (List α) := fun s =>
  (item s).map fun x => (x.1 :: done, x.2)

theorem readItems_eq (item : Reader α) (s : List Char) :
    readItems item s =
      (readItemsWith (noteItem item) (s.length + 1) true [] s).map fun x => (x.1.reverse, x.2) :=
  rfl

theorem noteItem_eq_ok {item : Reader α} {s rest : List Char} {x : α}
    (h : item s = .ok (x, rest)) (done : List α) :
    noteItem item done s = .ok (x :: done, rest) := by
  rw [noteItem, h]
  rfl

/-- Whether an item is read from what is printed for it. -/
def ReadsItem (item : Reader α) (print : α → List Char) (x : α) : Prop :=
  StartsValue (print x) ∧ ∀ rest, EndsNumber rest → item (print x ++ rest) = .ok (x, rest)

variable {item : Reader α}

/-- The loop over items from the comma of the next one. -/
theorem readItemsWith_chars {print : α → List Char} {rest : List Char} :
    ∀ {xs : List α}, (∀ x ∈ xs, ReadsItem item print x) → ∀ (done : List α) (fuel : Nat),
      (xs.flatMap (fun x => ',' :: print x) ++ ']' :: rest).length ≤ fuel →
      readItemsWith (noteItem item) fuel false done
          (xs.flatMap (fun x => ',' :: print x) ++ ']' :: rest) =
        .ok (xs.reverse ++ done, rest)
  | _, _, _, 0, hfuel => by simp at hfuel
  | [], _, done, fuel + 1, _ => rfl
  | x :: xs, hxs, done, fuel + 1, hfuel => by
    obtain ⟨⟨hstart, hitem⟩, hxs⟩ := List.forall_mem_cons.1 hxs
    rw [List.flatMap_cons, List.cons_append, List.cons_append, List.append_assoc] at hfuel ⊢
    -- a round takes the comma at least, so that the fuel lasts
    have hrest : (xs.flatMap (fun x => ',' :: print x) ++ ']' :: rest).length ≤ fuel := by
      simp only [List.length_cons, List.length_append] at hfuel ⊢
      omega
    rw [readItemsWith_succ (nextItem_comma (hstart.append _))
      (noteItem_eq_ok (hitem _ (endsNumber_flatMap print xs (.inl rfl) rest)) done),
      readItemsWith_chars hxs _ fuel hrest, List.reverse_cons, List.append_assoc,
      List.singleton_append]

theorem readItems_chars (json : α → Json) {xs : List α}
    (hxs : ∀ x ∈ xs, ReadsItem item (fun x => (json x).chars) x) (rest : List Char) :
    readItems item (itemChars (xs.map json) ++ ']' :: rest) = .ok (xs, rest) := by
  rw [readItems_eq]
  cases xs with
  | nil => rfl
  | cons x xs =>
    obtain ⟨⟨hstart, hitem⟩, hxs⟩ := List.forall_mem_cons.1 hxs
    have htail : itemChars ((x :: xs).map json) ++ ']' :: rest =
        (json x).chars ++ (xs.flatMap (fun x => ',' :: (json x).chars) ++ ']' :: rest) := by
      rw [List.map_cons, itemChars_cons, List.flatMap_map, List.append_assoc]
    rw [htail, readItemsWith_succ (nextItem_first (hstart.append _))
      (noteItem_eq_ok (hitem _ (endsNumber_flatMap _ xs (.inl rfl) rest)) []),
      readItemsWith_chars hxs _ _ (by simp)]
    simp [Except.map]

end Items

section Members

variable {σ : Type}

def oneMember (m : String × Json) : List Char :=
  textChars m.1 ++ ':' :: m.2.chars

theorem memberChars_cons (m : String × Json) (members : List (String × Json)) :
    memberChars (m :: members) = oneMember m ++ members.flatMap fun m => ',' :: oneMember m := by
  induction members generalizing m with
  | nil => simp [memberChars, oneMember]
  | cons n members ih => simp [memberChars, oneMember, ih]

theorem textChars_append (s : String) (rest : List Char) :
    textChars s ++ rest = '"' :: (s.toList.flatMap charText ++ '"' :: rest) := by
  simp [textChars]

theorem oneMember_append (m : String × Json) (rest : List Char) :
    oneMember m ++ rest =
      '"' :: (m.1.toList.flatMap charText ++ '"' :: ':' :: (m.2.chars ++ rest)) := by
  simp [oneMember, textChars]

theorem readMembersWith_text {member : σ → String → Reader σ} {fuel : Nat} {first : Bool}
    {state state' : σ} {name : String} {s rest s' : List Char}
    (hnext : nextName first s = .ok (some (name.toList.flatMap charText ++ '"' :: rest)))
    (hmember : member state name rest = .ok (state', s')) :
    readMembersWith member (fuel + 1) first state s =
      readMembersWith member fuel false state' s' := by
  rw [readMembersWith, hnext]
  simp only [readText_textChars, hmember]

/-- Whether a member is read from what is printed for it, to the effect of `put`. -/
def ReadsMember (member : σ → String → Reader σ) (put : σ → String × Json → Option σ)
    (m : String × Json) : Prop :=
  ∀ state state' rest, put state m = some state' → EndsNumber rest →
    member state m.1 (':' :: (m.2.chars ++ rest)) = .ok (state', rest)

variable {member : σ → String → Reader σ} {put : σ → String × Json → Option σ}

theorem readMembersWith_tail {rest : List Char} :
    ∀ {members : List (String × Json)}, (∀ m ∈ members, ReadsMember member put m) →
      ∀ {state state' : σ}, members.foldlM put state = some state' → ∀ (fuel : Nat),
        (members.flatMap (fun m => ',' :: oneMember m) ++ '\x7d' :: rest).length ≤ fuel →
        readMembersWith member fuel false state
            (members.flatMap (fun m => ',' :: oneMember m) ++ '\x7d' :: rest) =
          .ok (state', '\x7d' :: rest)
  | _, _, _, _, _, 0, hfuel => by simp at hfuel
  | [], _, _, _, hfold, fuel + 1, _ => by
    cases hfold
    rfl
  | m :: members, hmembers, state, state', hfold, fuel + 1, hfuel => by
    obtain ⟨hmember, hmembers⟩ := List.forall_mem_cons.1 hmembers
    rw [List.foldlM_cons] at hfold
    obtain ⟨state₁, hput, hfold⟩ := Option.bind_eq_some_iff.1 hfold
    rw [List.flatMap_cons, List.cons_append, List.cons_append, List.append_assoc] at hfuel ⊢
    have hrest : (members.flatMap (fun m => ',' :: oneMember m) ++ '\x7d' :: rest).length ≤
        fuel := by
      simp only [List.length_cons, List.length_append] at hfuel ⊢
      omega
    rw [oneMember_append, readMembersWith_text rfl
      (hmember _ _ _ hput (endsNumber_flatMap _ members (.inr rfl) rest)),
      readMembersWith_tail hmembers hfold fuel hrest]

/-- Members are read one after the other if each of them is, up to the closing brace. -/
theorem readMembersWith_chars {members : List (String × Json)}
    (hmembers : ∀ m ∈ members, ReadsMember member put m) {state state' : σ}
    (hfold : members.foldlM put state = some state') (rest : List Char) :
    readMembersWith member ((memberChars members ++ '\x7d' :: rest).length + 1) true state
        (memberChars members ++ '\x7d' :: rest) =
      .ok (state', '\x7d' :: rest) := by
  cases members with
  | nil =>
    cases hfold
    rfl
  | cons m members =>
    obtain ⟨hmember, hmembers⟩ := List.forall_mem_cons.1 hmembers
    rw [List.foldlM_cons] at hfold
    obtain ⟨state₁, hput, hfold⟩ := Option.bind_eq_some_iff.1 hfold
    rw [memberChars_cons, List.append_assoc]
    generalize htail : members.flatMap (fun m => ',' :: oneMember m) ++ '\x7d' :: rest = tail
    have hfuel : tail.length ≤ (oneMember m ++ tail).length := by simp
    have hends : EndsNumber tail := htail ▸ endsNumber_flatMap oneMember members (.inr rfl) rest
    rw [readMembersWith_text (congrArg (nextName true) (oneMember_append m tail))
      (hmember _ _ _ hput hends), ← htail, readMembersWith_tail hmembers hfold _ (htail ▸ hfuel)]

end Members

theorem foldlM_cons_members (members done : List (String × Json)) :
    members.foldlM (fun done m => some (m :: done)) done = some (members.reverse ++ done) :=
  List.foldlM_pure.trans (congrArg some (List.foldl_flip_cons_eq_append'))

theorem readsMember_noteMember {value : Reader Json} {m : String × Json}
    (h : ∀ rest, EndsNumber rest → value (m.2.chars ++ rest) = .ok (m.2, rest)) :
    ReadsMember (noteMember value) (fun done m => some (m :: done)) m := by
  rintro done _ rest ⟨⟩ hrest
  have hcolon : readMemberValue value (':' :: (m.2.chars ++ rest)) =
      value (m.2.chars ++ rest) := rfl
  rw [noteMember, hcolon, h rest hrest]
  rfl

/-- A value is read from what is printed for it. -/
theorem readValue_chars {levels : Nat} {v : Json} (h : Fits levels v) :
    ∀ rest, EndsNumber rest → readValue levels (v.chars ++ rest) = .ok (v, rest) := by
  induction h with
  | null levels =>
    intro rest _
    obtain ⟨inner, hinner⟩ := readValue_eq_readWith levels
    rw [hinner]
    rfl
  | boolean levels b =>
    intro rest _
    obtain ⟨inner, hinner⟩ := readValue_eq_readWith levels
    rw [hinner]
    cases b <;> rfl
  | integer levels z bounds =>
    intro rest hrest
    obtain ⟨inner, hinner⟩ := readValue_eq_readWith levels
    obtain ⟨c, s, hcs, hspace, -⟩ := ((Fits.integer levels z bounds).startsValue).append rest
    obtain ⟨d, t, hdt, hd⟩ := exists_chars_eq_cons z
    have hsame : skipSpaces ((number (.integer z)).chars ++ rest) = Decimal.chars z ++ rest := by
      rw [hcs, skipSpaces_cons hspace, ← hcs]
      rfl
    rw [hinner, readWith_eq_number_iff, hsame]
    refine ⟨?_, readNumber_eq_integer_iff.2 ⟨rfl, hrest, bounds⟩⟩
    rw [hdt]
    simpa [startsNumber] using hd
  | text levels t =>
    intro rest _
    obtain ⟨inner, hinner⟩ := readValue_eq_readWith levels
    have hquote : readTextValue ('"' :: (t.toList.flatMap charText ++ '"' :: rest)) =
      readText (t.toList.flatMap charText ++ '"' :: rest) := rfl
    rw [hinner, readWith_eq_text_iff, chars, textChars_append, hquote, readText_textChars]
  | @list levels items items_fit ih =>
    intro rest _
    have hitems := readItems_chars id
      (fun v hv => ⟨(items_fit v hv).startsValue, ih v hv⟩) rest
    have hopen : (list items).chars ++ rest = '[' :: (itemChars items ++ ']' :: rest) := by
      simp [chars]
    have hread : readValue (levels + 1) ('[' :: (itemChars items ++ ']' :: rest)) =
        (readItems (readValue levels) (itemChars items ++ ']' :: rest)).map
          fun x => (.list x.1, x.2) := rfl
    rw [List.map_id] at hitems
    rw [hopen, hread, hitems]
    rfl
  | @object levels members members_fit ih =>
    intro rest _
    have hmembers := readMembersWith_chars (fun m hm => readsMember_noteMember (ih m hm))
      (foldlM_cons_members members []) rest
    have hopen : (object members).chars ++ rest =
        '\x7b' :: (memberChars members ++ '\x7d' :: rest) := by
      simp [chars]
    rw [List.append_nil] at hmembers
    rw [hopen]
    exact readWith_eq_object_iff.2 ⟨_, rfl, readMembers_iff.2 ⟨_, hmembers, rfl⟩⟩

theorem read_write {v : Json} (h : Fits maxLevels v) : read v.write = .ok v := by
  refine readAll_eq_ok_iff.2 ⟨[], ?_, rfl⟩
  have hread := readValue_chars h [] ⟨by decide, by decide⟩
  rwa [write, String.toList_ofList, ← List.append_nil v.chars]

end Json

end Bistro
