import Bistro.Proofs.SortedMembers
import Bistro.Url.Urlencoded

/-!
# Encoded forms read back

Pairs of texts that are written in form encoding are read back as they were (`decode_encode`): the
bytes of a name or a value have none of the two characters that part the pairs, and each encoded
byte is decoded whatever follows it.
-/

namespace Bistro

/-- Bytes that are the UTF-8 of a text are read as this text. -/
theorem Utf8.read_utf8 (s : String) : Utf8.read (utf8 s) = s := by
  have hread : String.fromUTF8? s.toUTF8 = some s := by
    simp only [String.fromUTF8?, String.toUTF8_eq_toByteArray, dif_pos s.isValidUTF8]
    rfl
  rw [Utf8.read, utf8, Array.toArray_toList, hread]

def charBytes (s : List Char) : List UInt8 :=
  s.flatMap String.utf8EncodeChar

theorem utf8_ofList (s : List Char) : utf8 (String.ofList s) = charBytes s := by
  rw [utf8_eq_flatMap, String.toList_ofList, charBytes]

@[simp] theorem charBytes_append (s t : List Char) :
    charBytes (s ++ t) = charBytes s ++ charBytes t :=
  List.flatMap_append

theorem charBytes_cons (c : Char) (s : List Char) :
    charBytes (c :: s) = String.utf8EncodeChar c ++ charBytes s :=
  List.flatMap_cons

/-- A byte below 128 is the only byte of its character. -/
theorem utf8EncodeChar_ofNat {b : UInt8} (h : b.toNat < 0x80) :
    String.utf8EncodeChar (Char.ofNat b.toNat) = [b] := by
  have hvalid : b.toNat.isValidChar := .inl (by omega)
  have hval : (Char.ofNat b.toNat).val.toNat = b.toNat := by
    rw [Char.ofNat, dif_pos hvalid]
    rfl
  simp only [String.utf8EncodeChar, hval]
  rw [if_pos (by omega)]
  simp

namespace Urlencoded

theorem decode_nil : Percent.decode [] = [] := by
  simp [Percent.decode]

/-- A byte that is no percent sign stands for itself. -/
theorem decode_cons {b : UInt8} (h : b ≠ 0x25) (rest : List UInt8) :
    Percent.decode (b :: rest) = b :: Percent.decode rest := by
  obtain ⟨first, pieces, hpieces⟩ := List.exists_cons_of_ne_nil (List.splitOn_ne_nil 0x25 rest)
  have hne : (b == 0x25) = false := beq_eq_false_iff_ne.2 h
  simp [Percent.decode, List.splitOn_cons_eq_if_modifyHead, hne, hpieces]

/-- Two digits behind a percent sign are a byte. -/
theorem decode_percent {a b : UInt8} {x y : Nat} (ha : Percent.hexValue a = some x)
    (hb : Percent.hexValue b = some y) (hane : a ≠ 0x25) (hbne : b ≠ 0x25) (rest : List UInt8) :
    Percent.decode (0x25 :: a :: b :: rest) = UInt8.ofNat (x * 16 + y) :: Percent.decode rest := by
  obtain ⟨first, pieces, hpieces⟩ := List.exists_cons_of_ne_nil (List.splitOn_ne_nil 0x25 rest)
  have ha' : (a == 0x25) = false := beq_eq_false_iff_ne.2 hane
  have hb' : (b == 0x25) = false := beq_eq_false_iff_ne.2 hbne
  simp [Percent.decode, List.splitOn_cons_eq_if_modifyHead, ha', hb', hpieces, Percent.decodePiece,
    ha, hb]

def hexByte (n : Nat) : UInt8 :=
  UInt8.ofNat (Percent.hexDigit n).toNat

theorem hexByte_spec :
    ∀ n < 16, String.utf8EncodeChar (Percent.hexDigit n) = [hexByte n] ∧
      Percent.hexValue (hexByte n) = some n ∧ hexByte n ≠ 0x25 ∧ hexByte n ≠ 0x26 ∧
      hexByte n ≠ 0x2B ∧ hexByte n ≠ 0x3D := by
  decide

/-- What a byte is written as: a plus sign for a space, itself, or two digits. -/
theorem encodeByte_cases (b : UInt8) :
    (b = 0x20 ∧ charBytes (encodeByte b) = [0x2B]) ∨
    (b ≠ 0x25 ∧ b ≠ 0x26 ∧ b ≠ 0x2B ∧ b ≠ 0x3D ∧ charBytes (encodeByte b) = [b]) ∨
    charBytes (encodeByte b) = [0x25, hexByte (b.toNat / 16), hexByte (b.toNat % 16)] := by
  unfold encodeByte
  split_ifs with hspace hplain
  · exact .inl ⟨hspace, rfl⟩
  · have hne : ∀ c : UInt8, isPlain c = false → b ≠ c := by
      rintro c hc rfl
      rw [hc] at hplain
      cases hplain
    have hlt : b.toNat < 0x80 := by
      simp only [isPlain, Bool.or_eq_true, Bool.and_eq_true, decide_eq_true_eq, beq_iff_eq]
        at hplain
      omega
    refine .inr (.inl ⟨hne _ (by decide), hne _ (by decide), hne _ (by decide), hne _ (by decide),
      ?_⟩)
    rw [charBytes, List.flatMap_singleton, utf8EncodeChar_ofNat hlt]
  · refine .inr (.inr ?_)
    have hlt := b.toNat_lt
    have hhigh := hexByte_spec (b.toNat / 16) (by omega)
    have hlow := hexByte_spec (b.toNat % 16) (by omega)
    rw [Percent.encodeByte]
    simp only [charBytes_cons, hhigh.1, hlow.1]
    rfl

theorem decode_encodeByte (b : UInt8) (rest : List UInt8) :
    Percent.decode ((charBytes (encodeByte b) ++ rest).map plusToSpace) =
      b :: Percent.decode (rest.map plusToSpace) := by
  rcases encodeByte_cases b with ⟨rfl, hbytes⟩ | ⟨h25, -, h2B, -, hbytes⟩ | hbytes
  · rw [hbytes]
    exact decode_cons (by decide) _
  · rw [hbytes, List.singleton_append, List.map_cons, plusToSpace, if_neg h2B, decode_cons h25]
  · have hlt := b.toNat_lt
    obtain ⟨-, hhigh, hh25, -, hh2B, -⟩ := hexByte_spec (b.toNat / 16) (by omega)
    obtain ⟨-, hlow, hl25, -, hl2B, -⟩ := hexByte_spec (b.toNat % 16) (by omega)
    have hbyte : UInt8.ofNat (b.toNat / 16 * 16 + b.toNat % 16) = b := by
      rw [Nat.div_add_mod', UInt8.ofNat_toNat]
    simp only [hbytes, List.cons_append, List.nil_append, List.map_cons, plusToSpace, hh2B, hl2B,
      if_false]
    rw [if_neg (by decide), decode_percent hhigh hlow hh25 hl25, hbyte]

/-- A text is decoded from what it is encoded as. -/
theorem decodeText_encodeText (s : String) : decodeText (charBytes (encodeText s)) = s := by
  have hdecode : ∀ bytes : List UInt8,
      Percent.decode ((charBytes (bytes.flatMap encodeByte)).map plusToSpace) = bytes := by
    intro bytes
    induction bytes with
    | nil => exact decode_nil
    | cons b bytes ih => rw [List.flatMap_cons, charBytes_append, decode_encodeByte, ih]
  rw [decodeText, encodeText, hdecode, Utf8.read_utf8]

/-- Nothing in an encoded text parts pairs, or a name from its value. -/
theorem notMem_encodeText {s : String} {b : UInt8} (hb : b = 0x26 ∨ b = 0x3D) :
    b ∉ charBytes (encodeText s) := by
  have hbyte : ∀ c, b ∉ charBytes (encodeByte c) := by
    intro c
    rcases encodeByte_cases c with ⟨-, hbytes⟩ | ⟨-, h26, -, h3D, hbytes⟩ | hbytes
    · rcases hb with rfl | rfl <;> simp [hbytes]
    · rcases hb with rfl | rfl <;> simp [hbytes, Ne.symm h26, Ne.symm h3D]
    · have hlt := c.toNat_lt
      obtain ⟨-, -, -, hh26, -, hh3D⟩ := hexByte_spec (c.toNat / 16) (by omega)
      obtain ⟨-, -, -, hl26, -, hl3D⟩ := hexByte_spec (c.toNat % 16) (by omega)
      rcases hb with rfl | rfl <;>
        simp [hbytes, Ne.symm hh26, Ne.symm hh3D, Ne.symm hl26, Ne.symm hl3D]
  rw [encodeText]
  induction utf8 s with
  | nil => exact List.not_mem_nil
  | cons c bytes ih =>
    rw [List.flatMap_cons, charBytes_append, List.mem_append, not_or]
    exact ⟨hbyte c, ih⟩

theorem charBytes_encodePair (p : String × String) :
    charBytes (encodePair p) =
      charBytes (encodeText p.1) ++ 0x3D :: charBytes (encodeText p.2) := by
  rw [encodePair, charBytes_append, charBytes_cons]
  rfl

theorem decodePair_encodePair (p : String × String) :
    decodePair (charBytes (encodePair p)) = p := by
  have hname : ∀ b ∈ charBytes (encodeText p.1), decide (b ≠ 0x3D) = true := fun b hb =>
    decide_eq_true fun heq => notMem_encodeText (.inr rfl) (heq ▸ hb)
  rw [charBytes_encodePair, decodePair, List.takeWhile_append_of_pos hname,
    List.takeWhile_cons_of_neg (by decide), List.append_nil]
  have hvalue : (charBytes (encodeText p.1) ++ 0x3D :: charBytes (encodeText p.2)).drop
      ((charBytes (encodeText p.1)).length + 1) = charBytes (encodeText p.2) := by
    rw [List.append_cons]
    exact List.drop_left' (by simp)
  rw [hvalue, decodeText_encodeText, decodeText_encodeText]

theorem notMem_encodePair (p : String × String) : 0x26 ∉ charBytes (encodePair p) := by
  rw [charBytes_encodePair, List.mem_append, List.mem_cons, not_or, not_or]
  exact ⟨notMem_encodeText (.inl rfl), by decide, notMem_encodeText (.inl rfl)⟩

theorem charBytes_encode :
    ∀ pairs : List (String × String),
      charBytes (encode pairs) =
        List.intercalate [0x26] (pairs.map fun p => charBytes (encodePair p))
  | [] => rfl
  | [p] => by simp [encode]
  | p :: q :: pairs => by
    have ih := charBytes_encode (q :: pairs)
    simp only [encode, List.map_cons] at ih ⊢
    rw [List.intercalate_cons_cons, List.intercalate_cons_cons, charBytes_append, charBytes_append,
      ih]
    rfl

/-- Pairs are read back as they were written. -/
theorem decode_encode (pairs : List (String × String)) :
    decode (utf8 (String.ofList (encode pairs))) = pairs := by
  rw [utf8_ofList, charBytes_encode, decode]
  rcases eq_or_ne pairs [] with rfl | hne
  · rfl
  · have hpieces : ∀ p : String × String, !(charBytes (encodePair p)).isEmpty := fun p => by
      simp [charBytes_encodePair]
    rw [List.splitOn_intercalate 0x26 (List.forall_mem_map.2 fun p _ => notMem_encodePair p)
        (by simpa using hne),
      List.filter_eq_self.2, List.map_map]
    · exact List.map_id'' decodePair_encodePair pairs
    · exact List.forall_mem_map.2 fun p _ => hpieces p

end Urlencoded

end Bistro
