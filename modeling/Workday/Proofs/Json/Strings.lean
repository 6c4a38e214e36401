import Workday.Proofs.Json.Reading

/-!
# Reading and passing over strings

A string that is written in any of its ways is read as its text. The loop goes character by
character: `takes_char` says that one written character is used up, whether it stands for itself, in
several bytes, or is escaped. A string without a text is not read, since the loop comes to an escape
that stands for no character. All strings are passed over, with a text or without.
-/

set_option autoImplicit false

namespace Workday.Json

open Workday.Text (decodeUtf8? hexDigitValue?)

/-! ## Escapes -/

/-- The hexadecimal digits of the grammar are ASCII, and the reader gives them their values. -/
theorem of_mem_hexDigits {x : Char} {n : Nat} (h : (x, n) ∈ hexDigits) :
    IsAscii x ∧ hexDigitValue? x = some n := by
  have hall : ∀ p ∈ hexDigits, IsAscii p.1 ∧ hexDigitValue? p.1 = some p.2 := by decide
  exact hall (x, n) h

/-- The letters of the short escapes are ASCII, and the reader gives each its character. -/
theorem of_mem_shortEscapes {letter x : Char} (h : (letter, x) ∈ shortEscapes) :
    IsAscii letter ∧ shortEscape? letter = some x := by
  have hall : ∀ p ∈ shortEscapes, IsAscii p.1 ∧ shortEscape? p.1 = some p.2 := by decide
  exact hall (letter, x) h

namespace Cursor

variable {c : Cursor} {x : Char} {s r : List Char} {unit : Nat}

/-- A unit of four hexadecimal digits is taken with its value. -/
theorem Holds.takeUnit (h : c.Holds (s ++ r)) (hs : WrittenUnit unit s) :
    ∃ c', c.takeUnit = .ok (unit, c') ∧ c'.Holds r := by
  obtain ⟨w, i, x, j, y, k, z, l, hw, hx, hy, hz, rfl, rfl⟩ := hs
  obtain ⟨hw, hi⟩ := of_mem_hexDigits hw
  obtain ⟨hx, hj⟩ := of_mem_hexDigits hx
  obtain ⟨hy, hk⟩ := of_mem_hexDigits hy
  obtain ⟨hz, hl⟩ := of_mem_hexDigits hz
  have hrest : c.rest = UInt8.ofNat w.toNat :: UInt8.ofNat x.toNat :: UInt8.ofNat y.toNat ::
      UInt8.ofNat z.toNat :: bytesOf r := by
    simp only [Holds, List.cons_append, List.nil_append] at h
    rw [h, bytesOf_cons_of_ascii hw, bytesOf_cons_of_ascii hx, bytesOf_cons_of_ascii hy,
      bytesOf_cons_of_ascii hz]
  refine ⟨c.skip.skip.skip.skip, ?_, ((((h.skip hw).skip hx).skip hy).skip hz)⟩
  simp [Cursor.takeUnit, hrest, byteChar_of_ascii, hw, hx, hy, hz, hi, hj, hk, hl]

/-- A character that has to come in the middle of a surrogate pair is taken where it does. -/
theorem Holds.takePairSign (h : c.Holds (x :: r)) (hx : IsAscii x) :
    ∃ c', c.takePairSign x = .ok c' ∧ c'.Holds r := by
  refine ⟨c.skip, ?_, h.skip hx⟩
  simp [Cursor.takePairSign, h.peek hx]

/-- No character is half a surrogate pair. -/
theorem not_surrogate (x : Char) : isTrailing x.toNat = false ∧ isLeading x.toNat = false := by
  have hvalid : x.toNat < 0xD800 ∨ 0xDFFF < x.toNat ∧ x.toNat < 0x110000 := x.valid
  simp only [isTrailing, isLeading, Bool.and_eq_false_iff, decide_eq_false_iff_not]
  omega

/-- An escape that starts with a u is that of a code point. -/
theorem Holds.takeEscape_unit (h : c.Holds ('u' :: s)) : c.takeEscape = c.skip.takeCodePoint := by
  simp [Cursor.takeEscape, h.peek (by decide), shortEscape?]

/-- An escape is read as the character that it stands for. A character past the first plane takes two
escapes, half a pair each, and the signs between them. -/
theorem Holds.takeEscape (h : c.Holds (s ++ r)) (hs : WrittenChar x ('\\' :: s)) :
    ∃ c', c.takeEscape = .ok (x, c') ∧ c'.Holds r := by
  cases hs with
  | plain _ _ noBackslash => exact absurd rfl noBackslash
  | short listed =>
    obtain ⟨hascii, hvalue⟩ := of_mem_shortEscapes listed
    refine ⟨c.skip, ?_, h.skip hascii⟩
    simp only [Cursor.takeEscape, Holds.peek h hascii, hvalue]
  | unit digits =>
    obtain ⟨c', htake, hc'⟩ := Holds.takeUnit (h.skip (by decide)) digits
    obtain ⟨htrailing, hleading⟩ := not_surrogate x
    refine ⟨c', ?_, hc'⟩
    rw [Holds.takeEscape_unit h]
    simp [takeCodePoint, htake, htrailing, hleading, bind, Except.bind, pure, Except.pure]
  | @pair lead trail s t digits digits' leading trailing value =>
    simp only [List.cons_append, List.append_assoc] at h
    have hfirst := h.skip (by decide)
    obtain ⟨c₁, htake₁, hc₁⟩ := Holds.takeUnit hfirst digits
    obtain ⟨c₂, htake₂, hc₂⟩ := Holds.takePairSign hc₁ (by decide)
    obtain ⟨c₃, htake₃, hc₃⟩ := Holds.takePairSign hc₂ (by decide)
    obtain ⟨c₄, htake₄, hc₄⟩ := Holds.takeUnit hc₃ digits'
    have hlead : isTrailing lead = false ∧ isLeading lead = true := by
      simp only [isTrailing, isLeading, Bool.and_eq_false_iff, Bool.and_eq_true,
        decide_eq_false_iff_not, decide_eq_true_eq]
      omega
    have htrail : isTrailing trail = true := by
      simp only [isTrailing, Bool.and_eq_true, decide_eq_true_eq]
      omega
    refine ⟨c₄, ?_, hc₄⟩
    rw [Holds.takeEscape_unit h]
    simp [takeCodePoint, htake₁, hlead, htake₂, htake₃, htake₄, htrail, ← value, bind, Except.bind,
      pure, Except.pure]

end Cursor

/-! ## Characters that stand for themselves -/

/-- A byte that is read as it stands. -/
def IsPlain (b : UInt8) : Prop :=
  byteChar b ≠ '"' ∧ byteChar b ≠ '\\' ∧ ¬ byteChar b < ' '

/-- A character beyond ASCII is made of bytes beyond ASCII. None of them is taken for a quote or a
backslash. -/
theorem le_of_mem_utf8EncodeChar {x : Char} (hx : ¬ IsAscii x) :
    ∀ b ∈ String.utf8EncodeChar x, 128 ≤ b.toNat := by
  have hvalue : ¬ x.val.toNat ≤ 0x7f := fun hle => hx (Nat.lt_succ_of_le hle)
  intro b hb
  simp only [String.utf8EncodeChar, if_neg hvalue] at hb
  split at hb
  · simp only [List.mem_cons, List.not_mem_nil, or_false] at hb
    rcases hb with rfl | rfl <;> (rw [UInt8.toNat_ofNat']; omega)
  · split at hb
    · simp only [List.mem_cons, List.not_mem_nil, or_false] at hb
      rcases hb with rfl | rfl | rfl <;> (rw [UInt8.toNat_ofNat']; omega)
    · simp only [List.mem_cons, List.not_mem_nil, or_false] at hb
      rcases hb with rfl | rfl | rfl | rfl <;> (rw [UInt8.toNat_ofNat']; omega)

/-- A number that is that of a character is the number of its character. -/
theorem toNat_ofNat_of_isValidChar {n : Nat} (h : n.isValidChar) : (Char.ofNat n).toNat = n := by
  rw [Char.ofNat, dif_pos h]
  rfl

/-- Bytes beyond ASCII are plain. -/
theorem isPlain_of_le {b : UInt8} (h : 128 ≤ b.toNat) : IsPlain b := by
  have hlt := b.toNat_lt
  have hnat : (byteChar b).toNat = b.toNat := toNat_ofNat_of_isValidChar (.inl (by omega))
  have hne (y : Char) (hy : y.toNat < 128) : byteChar b ≠ y := by
    rintro rfl
    omega
  refine ⟨hne '"' (by decide), hne '\\' (by decide), fun hcontrol => ?_⟩
  have hsmall : (byteChar b).toNat < 32 := UInt32.lt_iff_toNat_lt.mp (Char.lt_def.mp hcontrol)
  omega

/-- A character that stands for itself is read in plain bytes. -/
theorem isPlain_of_mem {x : Char} (printable : ' ' ≤ x) (noQuote : x ≠ '"')
    (noBackslash : x ≠ '\\') : ∀ b ∈ String.utf8EncodeChar x, IsPlain b := by
  intro b hb
  by_cases hx : IsAscii x
  · rw [utf8EncodeChar_of_ascii hx, List.mem_singleton] at hb
    subst hb
    rw [IsPlain, byteChar_of_ascii hx]
    exact ⟨noQuote, noBackslash, Char.not_lt.mpr printable⟩
  · exact isPlain_of_le (le_of_mem_utf8EncodeChar hx b hb)

section Loops

variable {c : Cursor} {b : UInt8} {bs rest text : List UInt8} {fuel : Nat} {x : Char}
  {cs s r : List Char}

/-- A plain byte goes to the text as it is. -/
theorem takeStringBytes_plain (hc : c.rest = b :: bs) (hb : IsPlain b) :
    takeStringBytes (fuel + 1) c text = takeStringBytes fuel c.skip (b :: text) := by
  obtain ⟨hquote, hbackslash, hcontrol⟩ := hb
  rw [takeStringBytes, hc]
  split
  next heq => cases heq
  next heq =>
    cases heq
    split
    next hx => exact absurd hx hquote
    next hx => exact absurd hx hbackslash
    next => rw [if_neg hcontrol]

/-- A plain byte is passed over. -/
theorem skipStringBytes_plain (hc : c.rest = b :: bs) (hb : IsPlain b) :
    skipStringBytes (fuel + 1) c = skipStringBytes fuel c.skip := by
  obtain ⟨hquote, hbackslash, hcontrol⟩ := hb
  rw [skipStringBytes, Cursor.peek_of_rest hc]
  split
  next heq => cases heq
  next heq => exact absurd (Option.some.inj heq) hquote
  next heq => exact absurd (Option.some.inj heq) hbackslash
  next heq =>
    cases heq
    rw [if_neg hcontrol]

/-- Plain bytes in a row go to the text in their order, which the reader keeps backwards. -/
theorem takeStringBytes_plains (fuel : Nat) (text : List UInt8) (hbs : ∀ b ∈ bs, IsPlain b)
    (hc : c.rest = bs ++ rest) : ∃ c', c'.rest = rest ∧
      takeStringBytes (bs.length + fuel) c text = takeStringBytes fuel c' (bs.reverse ++ text) := by
  induction bs generalizing c text with
  | nil => exact ⟨c, hc, by rw [List.length_nil, Nat.zero_add]; rfl⟩
  | cons b bs ih =>
    obtain ⟨c', hc', htake⟩ := ih (b :: text)
      (fun y hy => hbs y (List.mem_cons_of_mem b hy)) (Cursor.skip_rest hc)
    refine ⟨c', hc', ?_⟩
    rw [List.length_cons, Nat.add_right_comm,
      takeStringBytes_plain hc (hbs b List.mem_cons_self), htake, List.reverse_cons,
      List.append_assoc]
    rfl

/-- Plain bytes in a row are passed over. -/
theorem skipStringBytes_plains (fuel : Nat) (hbs : ∀ b ∈ bs, IsPlain b)
    (hc : c.rest = bs ++ rest) :
    ∃ c', c'.rest = rest ∧ skipStringBytes (bs.length + fuel) c = skipStringBytes fuel c' := by
  induction bs generalizing c with
  | nil => exact ⟨c, hc, by rw [List.length_nil, Nat.zero_add]⟩
  | cons b bs ih =>
    obtain ⟨c', hc', hskip⟩ :=
      ih (fun y hy => hbs y (List.mem_cons_of_mem b hy)) (Cursor.skip_rest hc)
    refine ⟨c', hc', ?_⟩
    rw [List.length_cons, Nat.add_right_comm,
      skipStringBytes_plain hc (hbs b List.mem_cons_self), hskip]

/-- Behind a backslash an escape is taken, and its character goes to the text. -/
theorem takeStringBytes_backslash (hc : c.Holds ('\\' :: s)) :
    takeStringBytes (fuel + 1) c text = c.skip.takeEscape >>= fun p =>
      takeStringBytes fuel p.2 ((String.utf8EncodeChar p.1).reverse ++ text) := by
  have hbackslash : IsAscii '\\' := by decide
  simp only [takeStringBytes, hc.rest_cons hbackslash, byteChar_of_ascii hbackslash]

/-- An escaped character goes to the text, and the fuel is still enough for what follows. Short
escapes, units and surrogate pairs are told apart by the form in which the character is written. -/
theorem takes_escape (text : List UInt8) (hx : WrittenChar x ('\\' :: s))
    (hc : c.Holds ('\\' :: (s ++ r))) (hfuel : c.rest.length < fuel) :
    ∃ fuel' c', c'.Holds r ∧ c'.rest.length < fuel' ∧
      takeStringBytes fuel c text =
        takeStringBytes fuel' c' ((String.utf8EncodeChar x).reverse ++ text) := by
  obtain ⟨c', hescape, hc'⟩ := Cursor.Holds.takeEscape (hc.skip (by decide)) hx
  obtain ⟨fuel, rfl⟩ := Nat.exists_eq_add_one_of_ne_zero (Nat.ne_zero_of_lt hfuel)
  refine ⟨fuel, c', hc', ?_, ?_⟩
  · rw [hc.rest_cons (by decide), List.length_cons, bytesOf_append, List.length_append] at hfuel
    rw [hc']
    omega
  · rw [takeStringBytes_backslash hc, hescape]
    rfl

/-- Reading uses up one written character. The fuel stays above the bytes that are left. -/
theorem takes_char (text : List UInt8) (hx : WrittenChar x s) (hc : c.Holds (s ++ r))
    (hfuel : c.rest.length < fuel) :
    ∃ fuel' c', c'.Holds r ∧ c'.rest.length < fuel' ∧
      takeStringBytes fuel c text =
        takeStringBytes fuel' c' ((String.utf8EncodeChar x).reverse ++ text) := by
  cases hx with
  | plain printable noQuote noBackslash =>
    have hbs := isPlain_of_mem printable noQuote noBackslash
    have hrest : c.rest = String.utf8EncodeChar x ++ bytesOf r := hc
    rw [hrest, List.length_append] at hfuel
    obtain ⟨fuel, rfl⟩ := Nat.exists_eq_add_of_le (Nat.le_of_lt (Nat.lt_of_le_of_lt
      (Nat.le_add_right _ _) hfuel))
    obtain ⟨c', hc', htake⟩ := takeStringBytes_plains fuel text hbs hrest
    exact ⟨fuel, c', hc', by rw [hc']; omega, htake⟩
  | short listed => exact takes_escape text (.short listed) hc hfuel
  | unit digits => exact takes_escape text (.unit digits) hc hfuel
  | pair digits digits' leading trailing value =>
    exact takes_escape text (.pair digits digits' leading trailing value) hc hfuel

/-- A written text is taken up to its quote, as the bytes of the characters that it stands for. The
induction is on the characters: each is plain bytes or an escape. -/
theorem takeStringBytes_written (text : List UInt8) (h : WrittenText cs s)
    (hc : c.Holds (s ++ '"' :: r)) (hfuel : c.rest.length < fuel) :
    ∃ c', takeStringBytes fuel c text = .ok (text.reverse ++ bytesOf cs, c') ∧ c'.Holds r := by
  induction h generalizing c text fuel with
  | nil =>
    have hquote : IsAscii '"' := by decide
    have hrest := hc.rest_cons hquote
    obtain ⟨fuel, rfl⟩ := Nat.exists_eq_add_one_of_ne_zero (Nat.ne_zero_of_lt hfuel)
    refine ⟨c.skip, ?_, hc.skip hquote⟩
    simp only [takeStringBytes, hrest, byteChar_of_ascii hquote]
    rw [bytesOf, List.flatMap_nil, List.append_nil]
  | @cons x cs s t head tail ih =>
    rw [List.append_assoc] at hc
    obtain ⟨fuel', c₁, hc₁, hfuel', htake⟩ := takes_char text head hc hfuel
    obtain ⟨c', hrest, hc'⟩ := ih ((String.utf8EncodeChar x).reverse ++ text) hc₁ hfuel'
    refine ⟨c', ?_, hc'⟩
    rw [htake, hrest, bytesOf_cons, List.reverse_append, List.reverse_reverse, List.append_assoc]

/-- The bytes of a text are decoded to the text. -/
theorem decodeUtf8?_bytesOf (s : String) : decodeUtf8? (bytesOf s.toList) = some s := by
  have hbytes : (⟨(bytesOf s.toList).toArray⟩ : ByteArray) = s.toByteArray := by
    rw [← String.utf8Encode_toList, List.utf8Encode]
    exact ByteArray.ext List.data_toByteArray.symm
  rw [decodeUtf8?, hbytes, String.fromUTF8?, dif_pos s.isValidUTF8]
  rfl

/-- A written string is read as its text. -/
theorem Cursor.Holds.takeString {text : String} (hc : c.Holds (s ++ '"' :: r))
    (h : WrittenText text.toList s) : ∃ c', c.takeString = .ok (text, c') ∧ c'.Holds r := by
  obtain ⟨c', htake, hc'⟩ :=
    takeStringBytes_written [] h hc (Nat.lt_succ_self c.rest.length)
  refine ⟨c', ?_, hc'⟩
  rw [List.reverse_nil, List.nil_append] at htake
  simp only [Cursor.takeString, htake, decodeUtf8?_bytesOf, bind, Except.bind, pure, Except.pure]

/-! ## Strings without a text -/

/-- A unit has 16 bits. -/
theorem WrittenUnit.lt {unit : Nat} (h : WrittenUnit unit s) : unit < 0x10000 := by
  obtain ⟨w, i, x, j, y, k, z, l, hw, hx, hy, hz, rfl, -⟩ := h
  have hall : ∀ p ∈ hexDigits, p.2 < 16 := by decide
  have hi := hall _ hw
  have hj := hall _ hx
  have hk := hall _ hy
  have hl := hall _ hz
  omega

/-- A number that is no half of a surrogate pair is a character. -/
theorem toNat_ofNat_of_not_surrogate {n : Nat} (hlt : n < 0x110000) (htrailing : isTrailing n = false)
    (hleading : isLeading n = false) : (Char.ofNat n).toNat = n := by
  simp only [isTrailing, isLeading, Bool.and_eq_false_iff, decide_eq_false_iff_not] at *
  apply toNat_ofNat_of_isValidChar
  unfold Nat.isValidChar
  omega

/-- Where another character comes than a surrogate pair has to go on with, the reader fails. -/
theorem takePairSign_fails {y : Char} (hc : c.rest = b :: bs) (hb : byteChar b ≠ y) :
    Fails (c.takePairSign y) := by
  simp only [Cursor.takePairSign, Cursor.peek_of_rest hc, beq_iff_eq, hb.symm, if_false]
  exact Cursor.fails_fail _ _

/-- Whether the second escape of a pair comes next. If it does not, taking its signs fails at the first
of them or at the second. -/
theorem takePairSigns (h : IsStringBody s) (hc : c.Holds (s ++ '"' :: r)) :
    (∃ unit u t c₁ c₂, WrittenUnit unit u ∧ IsStringBody t ∧ s = '\\' :: 'u' :: (u ++ t) ∧
      c.takePairSign '\\' = .ok c₁ ∧ c₁.takePairSign 'u' = .ok c₂ ∧
      c₂.Holds (u ++ (t ++ '"' :: r))) ∨
    Fails (c.takePairSign '\\') ∨
    ∃ c₁, c.takePairSign '\\' = .ok c₁ ∧ Fails (c₁.takePairSign 'u') := by
  cases h with
  | nil =>
    have hquote : IsAscii '"' := by decide
    refine .inr (.inl (takePairSign_fails (Cursor.Holds.rest_cons hc hquote) ?_))
    rw [byteChar_of_ascii hquote]
    decide
  | @plain x s printable noQuote noBackslash rest =>
    obtain ⟨b, bs, hbytes⟩ := List.exists_cons_of_ne_nil
      (String.utf8EncodeChar_ne_nil (c := x))
    have hrest : c.rest = b :: (bs ++ bytesOf (s ++ '"' :: r)) := by
      rw [hc, List.cons_append, bytesOf_cons, hbytes, List.cons_append]
    have hplain : IsPlain b :=
      isPlain_of_mem printable noQuote noBackslash b (by rw [hbytes]; exact List.mem_cons_self)
    exact .inr (.inl (takePairSign_fails hrest hplain.2.1))
  | @short x letter s listed rest =>
    obtain ⟨c₁, htake, hc₁⟩ := Cursor.Holds.takePairSign hc (by decide)
    -- a short escape has the first sign of a pair, but never the second
    have hletter : IsAscii letter ∧ letter ≠ 'u' := by
      have hall : ∀ p ∈ shortEscapes, IsAscii p.1 ∧ p.1 ≠ 'u' := by decide
      exact hall _ listed
    refine .inr (.inr ⟨c₁, htake, takePairSign_fails (Cursor.Holds.rest_cons hc₁ hletter.1) ?_⟩)
    rw [byteChar_of_ascii hletter.1]
    exact hletter.2
  | @unit unit u s digits rest =>
    rw [List.cons_append, List.cons_append, List.append_assoc] at hc
    obtain ⟨c₁, htake₁, hc₁⟩ := Cursor.Holds.takePairSign hc (by decide)
    obtain ⟨c₂, htake₂, hc₂⟩ := Cursor.Holds.takePairSign hc₁ (by decide)
    exact .inl ⟨unit, u, s, c₁, c₂, digits, rest, rfl, htake₁, htake₂, hc₂⟩

/-- The units of a pair are the escape of a character. -/
theorem pair_written {lead trail : Nat} {u v : List Char} (digits : WrittenUnit lead u)
    (digits' : WrittenUnit trail v) (hleading : isLeading lead = true)
    (htrailing : isTrailing trail = true) :
    WrittenChar (Char.ofNat ((lead - 0xD800) * 0x400 + (trail - 0xDC00) + 0x10000))
      ('\\' :: 'u' :: (u ++ '\\' :: 'u' :: v)) := by
  simp only [isLeading, isTrailing, Bool.and_eq_true, decide_eq_true_eq] at hleading htrailing
  refine .pair digits digits' hleading htrailing (toNat_ofNat_of_not_surrogate ?_ ?_ ?_)
  · omega
  · simp only [isTrailing, Bool.and_eq_false_iff, decide_eq_false_iff_not]
    omega
  · simp only [isLeading, Bool.and_eq_false_iff, decide_eq_false_iff_not]
    omega

/-- After `\u` comes the escape of a character, or reading fails: at a trailing half by itself, at a
leading half without its other one, or at two leading halves. -/
theorem takeCodePoint_cases {unit : Nat} {u : List Char} (digits : WrittenUnit unit u)
    (rest : IsStringBody s) (hc : c.Holds (u ++ (s ++ '"' :: r))) :
    (∃ x w t, WrittenChar x ('\\' :: 'u' :: w) ∧ IsStringBody t ∧ u ++ s = w ++ t) ∨
    Fails c.takeCodePoint := by
  obtain ⟨c₁, htake₁, hc₁⟩ := hc.takeUnit digits
  by_cases htrailing : isTrailing unit = true
  · refine .inr ?_
    simp only [Cursor.takeCodePoint, htake₁, bind, Except.bind, htrailing, if_true]
    exact Cursor.fails_fail _ _
  by_cases hleading : isLeading unit = true
  · obtain ⟨trail, v, t, c₂, c₃, digits', rest', rfl, htake₂, htake₃, hc₃⟩ | ⟨fault, hfault⟩ |
      ⟨c₂, htake₂, fault, hfault⟩ := takePairSigns rest hc₁
    · obtain ⟨c₄, htake₄, -⟩ := hc₃.takeUnit digits'
      by_cases htrailing' : isTrailing trail = true
      · exact .inl ⟨_, u ++ '\\' :: 'u' :: v, t, pair_written digits digits' hleading htrailing',
          rest', by simp only [List.append_assoc, List.cons_append]⟩
      · refine .inr ?_
        simp only [Cursor.takeCodePoint, htake₁, htake₂, htake₃, htake₄, bind, Except.bind,
          htrailing, hleading, htrailing', Bool.not_true, Bool.false_eq_true, if_false]
        exact Cursor.fails_fail _ _
    · refine .inr ⟨fault, ?_⟩
      simp only [Cursor.takeCodePoint, htake₁, hfault, bind, Except.bind, htrailing, hleading,
        Bool.not_true, Bool.false_eq_true, if_false]
    · refine .inr ⟨fault, ?_⟩
      simp only [Cursor.takeCodePoint, htake₁, htake₂, hfault, bind, Except.bind, htrailing,
        hleading, Bool.not_true, Bool.false_eq_true, if_false]
  · refine .inl ⟨Char.ofNat unit, u, s, .unit ?_, rest, rfl⟩
    rw [toNat_ofNat_of_not_surrogate (Nat.lt_trans digits.lt (by decide))
      (Bool.not_eq_true _ ▸ htrailing) (Bool.not_eq_true _ ▸ hleading)]
    exact digits

/-- A string without a text is not read. The induction is on its length, as a pair of escapes is read at
once although the grammar has it as two. -/
theorem takeStringBytes_fails (h : IsStringBody s) (hno : ∀ cs, ¬ WrittenText cs s)
    (hc : c.Holds (s ++ '"' :: r)) (hfuel : c.rest.length < fuel) :
    Fails (takeStringBytes fuel c text) := by
  induction hn : s.length using Nat.strongRecOn generalizing s c text fuel with
  | _ n ih =>
  subst hn
  -- What remains after a written character has no text either.
  have hstep : ∀ x w t, WrittenChar x w → IsStringBody t → s = w ++ t →
      Fails (takeStringBytes fuel c text) := by
    rintro x w t hx ht rfl
    rw [List.append_assoc] at hc
    obtain ⟨fuel', c', hc', hfuel', htake⟩ := takes_char text hx hc hfuel
    rw [htake]
    refine ih t.length ?_ ht (fun cs hcs => hno (x :: cs) (.cons hx hcs)) hc' hfuel' rfl
    have hpos : 0 < w.length := by
      cases hx <;> exact Nat.succ_pos _
    rw [List.length_append]
    omega
  cases h with
  | nil => exact absurd .nil (hno [])
  | plain printable noQuote noBackslash rest =>
    exact hstep _ [_] _ (.plain printable noQuote noBackslash) rest rfl
  | short listed rest => exact hstep _ ['\\', _] _ (.short listed) rest rfl
  | @unit unit u t digits rest =>
    rw [List.cons_append, List.cons_append, List.append_assoc] at hc
    have hafter := (hc.skip (by decide)).skip (by decide)
    obtain ⟨x, w, t', hx, ht', heq⟩ | hfails := takeCodePoint_cases digits rest hafter
    · exact hstep x ('\\' :: 'u' :: w) t' hx ht' (by rw [heq]; rfl)
    · obtain ⟨fuel, rfl⟩ := Nat.exists_eq_add_one_of_ne_zero (Nat.ne_zero_of_lt hfuel)
      rw [takeStringBytes_backslash hc, (hc.skip (by decide)).takeEscape_unit]
      exact hfails.bind _

/-- A string whose body stands for no text is refused. -/
theorem Cursor.Holds.takeString_fails (hc : c.Holds (s ++ '"' :: r)) (h : IsStringBody s)
    (hno : ∀ cs, ¬ WrittenText cs s) : Fails c.takeString :=
  (takeStringBytes_fails h hno hc (Nat.lt_succ_self c.rest.length)).bind _

/-! ## Passing over -/

/-- What stands for a text is the body of a string. A pair of surrogates is two units to the grammar,
which does not ask what units stand for. -/
theorem WrittenText.isStringBody (h : WrittenText cs s) : IsStringBody s := by
  induction h with
  | nil => exact .nil
  | cons head _ ih =>
    cases head with
    | plain printable noQuote noBackslash => exact .plain printable noQuote noBackslash ih
    | short listed => exact .short listed ih
    | unit digits => exact .unit digits ih
    | pair digits digits' _ _ _ =>
      have hbody := IsStringBody.unit digits (.unit digits' ih)
      simpa only [List.cons_append, List.append_assoc] using hbody

/-- What is written for a string is the body of one, whether it stands for a text or not. -/
theorem WrittenString.isStringBody {text : Option String} (h : WrittenString text s) :
    IsStringBody s := by
  cases h with
  | text chars => exact chars.isStringBody
  | noText body _ => exact body

/-- Behind a backslash an escape is passed over. -/
theorem skipStringBytes_backslash (hc : c.Holds ('\\' :: s)) :
    skipStringBytes (fuel + 1) c = c.skip.skipEscape >>= skipStringBytes fuel := by
  simp only [skipStringBytes, hc.peek (by decide)]

/-- If an escape is passed over and the rest of the body after it, so is the body as a whole. The
fuel is enough because the escape has taken bytes of its own. -/
theorem skipStringBytes_escape {u : List Char} (hc : c.Holds ('\\' :: (u ++ (s ++ '"' :: r))))
    (hfuel : c.rest.length < fuel) {c' : Cursor} (hescape : c.skip.skipEscape = .ok c')
    (hc' : c'.Holds (s ++ '"' :: r))
    (ih : ∀ {c : Cursor} {fuel : Nat}, c.Holds (s ++ '"' :: r) → c.rest.length < fuel →
      ∃ c', skipStringBytes fuel c = .ok c' ∧ c'.Holds r) :
    ∃ c', skipStringBytes fuel c = .ok c' ∧ c'.Holds r := by
  obtain ⟨fuel, rfl⟩ := Nat.exists_eq_add_one_of_ne_zero (Nat.ne_zero_of_lt hfuel)
  rw [skipStringBytes_backslash hc, hescape]
  refine ih hc' ?_
  rw [hc.rest_cons (by decide), List.length_cons, bytesOf_append, List.length_append] at hfuel
  rw [hc']
  omega

/-- Passing over a string takes one turn for each escape, also for those of a pair. Halves that do not
match are no fault here. -/
theorem skipStringBytes_body (h : IsStringBody s) (hc : c.Holds (s ++ '"' :: r))
    (hfuel : c.rest.length < fuel) : ∃ c', skipStringBytes fuel c = .ok c' ∧ c'.Holds r := by
  induction h generalizing c fuel with
  | nil =>
    obtain ⟨fuel, rfl⟩ := Nat.exists_eq_add_one_of_ne_zero (Nat.ne_zero_of_lt hfuel)
    refine ⟨c.skip, ?_, Cursor.Holds.skip hc (by decide)⟩
    simp only [skipStringBytes, Cursor.Holds.peek hc (by decide)]
  | @plain x s printable noQuote noBackslash _ ih =>
    have hbs := isPlain_of_mem printable noQuote noBackslash
    have hrest : c.rest = String.utf8EncodeChar x ++ bytesOf (s ++ '"' :: r) := hc
    rw [hrest, List.length_append] at hfuel
    -- a plain character takes a turn for each of its bytes
    obtain ⟨fuel, rfl⟩ := Nat.exists_eq_add_of_le (Nat.le_of_lt (Nat.lt_of_le_of_lt
      (Nat.le_add_right _ _) hfuel))
    obtain ⟨c₁, hc₁, hskip⟩ := skipStringBytes_plains fuel hbs hrest
    rw [hskip]
    exact ih hc₁ (by rw [hc₁]; omega)
  | @short x letter s listed _ ih =>
    obtain ⟨hascii, hvalue⟩ := of_mem_shortEscapes listed
    have hletter := Cursor.Holds.skip hc (by decide)
    have hescape : c.skip.skipEscape = .ok c.skip.skip := by
      simp [Cursor.skipEscape, hletter.peek hascii, hvalue]
    exact skipStringBytes_escape (u := [letter]) hc hfuel hescape (hletter.skip hascii) ih
  | @unit unit u s digits _ ih =>
    rw [List.cons_append, List.cons_append, List.append_assoc] at hc
    have hu := Cursor.Holds.skip hc (by decide)
    obtain ⟨c', htake, hc'⟩ := Cursor.Holds.takeUnit (hu.skip (by decide)) digits
    have hescape : c.skip.skipEscape = .ok c' := by
      simp [Cursor.skipEscape, hu.peek (by decide), shortEscape?, htake, Except.map]
    exact skipStringBytes_escape (u := 'u' :: u) hc hfuel hescape hc' ih

/-- A string is passed over. -/
theorem Cursor.Holds.skipString (hc : c.Holds (s ++ '"' :: r)) (h : IsStringBody s) :
    ∃ c', c.skipString = .ok c' ∧ c'.Holds r :=
  skipStringBytes_body h hc (Nat.lt_succ_self c.rest.length)

end Loops

end Workday.Json
