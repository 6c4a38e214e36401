import Mathlib.Data.List.TakeDrop
import Workday.Proofs.Json.Strings
import Workday.Proofs.Url.Path
import Workday.Proofs.Url.Trimming

/-!
# Blanks inside a URL

A control or a space that is not at the end of the text of a URL is part of what is read. No authority
may end with one, and a path keeps it, encoded.
-/

set_option autoImplicit false

namespace Workday.Url

open Workday.Text (decodeUtf8? hexDigitValue?)

variable {scheme : String} {s authority : List Char} {c : Char} {a : Authority}

/-! ## In an authority -/

/-- A control is an ASCII character, so it is encoded as one byte. -/
theorem isAscii_of_isControl (h : isControl c = true) : Json.IsAscii c :=
  Nat.lt_of_le_of_lt (of_decide_eq_true h) (by decide)

/-- A control is none of the characters that are not controls, and so none of the signs of a URL. -/
theorem ne_of_isControl {d : Char} (h : isControl c = true) (hd : isControl d = false) : c ≠ d :=
  fun heq => Bool.false_ne_true (hd.symm.trans (heq ▸ h))

/-- A control ends no authority. -/
theorem endsAuthority_of_isControl (h : isControl c = true) : endsAuthority true c = false := by
  have hne (d : Char) (hd : isControl d = false) : (c == d) = false :=
    beq_eq_false_iff_ne.mpr (ne_of_isControl h hd)
  rw [endsAuthority, hne '/' (by decide), hne '?' (by decide), hne '#' (by decide),
    hne '\\' (by decide)]
  rfl

theorem endsPath_of_isControl (h : isControl c = true) : endsPath c = false :=
  Bool.eq_false_iff.mpr fun hends =>
    Bool.false_ne_true ((endsAuthority_of_isControl h).symm.trans (endsAuthority_of_endsPath hends))

/-- A control is no digit. -/
theorem isDigit_of_isControl (h : isControl c = true) : c.isDigit = false := by
  have hle : c.toNat ≤ 0x20 := of_decide_eq_true h
  refine Bool.eq_false_iff.mpr fun hdigit => ?_
  have hval : 0x30 ≤ c.toNat := (Char.isDigit_iff_toNat.mp hdigit).1
  omega

/-- A control is no hexadecimal digit, so none is taken up by a percent sign before it. -/
theorem hexDigitValue?_of_isControl (h : isControl c = true) : hexDigitValue? c = none := by
  have hle : c.val.toNat ≤ 0x20 := of_decide_eq_true h
  have ha : ¬ 'a' ≤ c := by
    intro hle'
    have hval : 0x61 ≤ c.val.toNat := hle'
    omega
  have hA : ¬ 'A' ≤ c := by
    intro hle'
    have hval : 0x41 ≤ c.val.toNat := hle'
    omega
  simp only [hexDigitValue?, isDigit_of_isControl h, ha, hA, decide_false, Bool.false_and,
    Bool.false_eq_true, if_false]

/-- A control stands for its byte, whatever is before it. It is no percent sign and no hexadecimal
digit, so it belongs to no escape. -/
theorem mem_percentDecode (hc : isControl c = true) (h : c ∈ s) :
    UInt8.ofNat c.toNat ∈ percentDecode s := by
  have hhex := hexDigitValue?_of_isControl hc
  have hpercent : c ≠ '%' := ne_of_isControl hc (by decide)
  fun_induction percentDecode s with
  | case1 => cases h
  | case2 a b r x y hb ha ih =>
    have hne : c ≠ a ∧ c ≠ b := by
      constructor
      · rintro rfl
        cases hhex.symm.trans ha
      · rintro rfl
        cases hhex.symm.trans hb
    simp only [List.mem_cons, hpercent, hne, false_or] at h
    exact List.mem_cons_of_mem _ (ih h)
  | case3 a b r hnot ih =>
    simp only [List.mem_cons, hpercent, false_or] at h
    exact List.mem_cons_of_mem _ (ih (List.mem_cons.mpr (by simpa using h)))
  | case4 d r hnot ih =>
    rcases List.mem_cons.mp h with rfl | hr
    · rw [Json.utf8EncodeChar_of_ascii (isAscii_of_isControl hc)]
      exact List.mem_cons_self
    · exact List.mem_append_right _ (ih hr)

/-- An ASCII byte stands for its character alone: every byte of a longer character has its highest bit
set. -/
theorem mem_of_decodeUtf8? {bytes : List UInt8} {text : String} (hc : Json.IsAscii c)
    (h : decodeUtf8? bytes = some text) (hmem : UInt8.ofNat c.toNat ∈ bytes) : c ∈ text.toList := by
  have hbytes : Json.bytesOf text.toList = bytes := by
    rw [decodeUtf8?, String.fromUTF8?] at h
    split at h
    · cases h
      have harray : (Json.bytesOf (String.fromUTF8 ⟨bytes.toArray⟩ ‹_›).toList).toByteArray =
          ⟨bytes.toArray⟩ := String.utf8Encode_toList
      simpa using congrArg (fun b => b.data.toList) harray
    · cases h
  have hbyte : (UInt8.ofNat c.toNat).toNat = c.toNat :=
    UInt8.toNat_ofNat_of_lt (Nat.lt_trans hc (by decide))
  rw [← hbytes] at hmem
  obtain ⟨x, hx, hb⟩ := List.mem_flatMap.mp hmem
  by_cases hascii : Json.IsAscii x
  · rw [Json.utf8EncodeChar_of_ascii hascii, List.mem_singleton] at hb
    have hsame : Json.byteChar (UInt8.ofNat c.toNat) = Json.byteChar (UInt8.ofNat x.toNat) :=
      congrArg Json.byteChar hb
    rw [Json.byteChar_of_ascii hc, Json.byteChar_of_ascii hascii] at hsame
    exact hsame ▸ hx
  · have hle := Json.le_of_mem_utf8EncodeChar hascii _ hb
    have hlt : c.toNat < 128 := hc
    omega

/-- A list that is mapped as a whole has what each of its elements is mapped to. -/
theorem mem_of_mapM {α β : Type} {f : α → Option β} {xs : List α} {ys : List β}
    (h : xs.mapM f = some ys) {x : α} {y : β} (hx : x ∈ xs) (hy : f x = some y) : y ∈ ys := by
  induction xs generalizing ys with
  | nil => cases hx
  | cons z xs ih =>
    rw [List.mapM_cons] at h
    obtain ⟨first, hfirst, h⟩ := Option.bind_eq_some_iff.mp h
    obtain ⟨rest, hrest, hys⟩ := Option.bind_eq_some_iff.mp h
    cases hys
    rcases List.mem_cons.mp hx with rfl | hx
    · cases hfirst.symm.trans hy
      exact List.mem_cons_self
    · exact List.mem_cons_of_mem first (ih hrest hx)

/-- No name of a domain holds a control. Mapping leaves it as it is, and what is left of it is
forbidden. -/
theorem toAscii?_eq_none (hc : isControl c = true) (h : c ∈ s) : Domain.toAscii? s = none := by
  have hle : c.toNat ≤ 0x20 := of_decide_eq_true hc
  have hkept : Domain.mapChar c = some [c] := by
    have hascii : c.toNat < 0x80 := isAscii_of_isControl hc
    simp only [Domain.mapChar, hascii, if_true]
    unfold Char.toLower
    rw [dif_neg]
    rintro ⟨hupper, -⟩
    have hval : 0x41 ≤ c.val.toNat := hupper
    have hval' : c.val.toNat ≤ 0x20 := hle
    omega
  unfold Domain.toAscii?
  cases hmapped : s.mapM Domain.mapChar with
  | none => rfl
  | some mapped =>
    have hmem : c ∈ mapped.flatten :=
      List.mem_flatten.mpr ⟨[c], mem_of_mapM hmapped h hkept, List.mem_singleton_self c⟩
    have hforbidden : (mapped.flatten.any fun c => c.toNat < 0x80 && Domain.isForbidden c) = true := by
      refine List.any_eq_true.mpr ⟨c, hmem, ?_⟩
      have hascii : c.toNat < 0x80 := isAscii_of_isControl hc
      simp only [Domain.isForbidden, hascii, hle, decide_true, Bool.true_or, Bool.and_self]
    simp only [hforbidden, Option.bind_eq_bind, Option.bind_some, if_true]
    rfl

/-- No host ends with a control: a text in brackets ends with one of them, and in a domain the control
is refused, be it encoded or not. -/
theorem host_read_concat (hc : isControl c = true) (host : Host) :
    Host.read (s ++ [c]) ≠ .ok host := by
  have hmem : c ∈ s ++ [c] := List.mem_append_right _ (List.mem_singleton_self c)
  have hbytes := mem_percentDecode hc hmem
  have hnone : (decodeUtf8? (percentDecode (s ++ [c]))).bind (fun t => Domain.toAscii? t.toList) =
      none := by
    cases htext : decodeUtf8? (percentDecode (s ++ [c])) with
    | none => rfl
    | some text =>
      exact toAscii?_eq_none hc (mem_of_decodeUtf8? (isAscii_of_isControl hc) htext hbytes)
  intro h
  unfold Host.read at h
  split at h
  · rename_i r hopen
    -- a text in brackets ends with one
    have hlast : r.reverse.head? = some c := by
      cases s with
      | nil =>
        cases hopen
        exact absurd hc (by decide)
      | cons d s =>
        cases hopen
        show (s ++ [c]).reverse.head? = some c
        rw [List.reverse_append]
        rfl
    unfold Host.readBracketed at h
    split at h
    · rename_i hclose
      rw [hclose] at hlast
      cases hlast
      exact absurd hc (by decide)
    · cases h
  · rw [hnone] at h
    cases h

/-- What follows the user information of an authority is its end. -/
theorem exists_before (authority : List Char) :
    ∃ before info rest, (splitUserInfo authority).getD ([], authority) = (info, rest) ∧
      authority = before ++ rest := by
  unfold splitUserInfo
  split
  · rename_i host info hspan
    rw [List.span_eq_takeWhile_dropWhile] at hspan
    have hparts := List.takeWhile_append_dropWhile (p := (· != '@')) (l := authority.reverse)
    rw [(Prod.mk.inj hspan).1, (Prod.mk.inj hspan).2] at hparts
    refine ⟨info.reverse ++ ['@'], info.reverse, host.reverse, rfl, ?_⟩
    rw [← List.reverse_reverse authority, ← hparts, List.reverse_append, List.reverse_cons]
  · exact ⟨[], [], authority, rfl, rfl⟩

/-- What an authority is read from: what follows its user information, as a host and a port. Each of
them is read on its own, and one that cannot be read fails the whole. -/
theorem parts_of_readAuthority (hscheme : isSpecial scheme = true)
    (h : readAuthority scheme authority true = .ok a) :
    ∃ before host port, authority = before ++ (host ++ port) ∧ host ≠ [] ∧
      (∀ c ∈ port.head?, c = ':') ∧ Host.read host = .ok a.host ∧ readPort scheme port = .ok a.port := by
  obtain ⟨before, info, rest, hinfo, hauthority⟩ := exists_before authority
  obtain ⟨host, port, hsplit⟩ : ∃ host port, splitPort false rest = (host, port) := ⟨_, _, rfl⟩
  obtain ⟨hrest, hcolon⟩ := of_splitPort hsplit
  rw [readAuthority_eq hscheme true hinfo hsplit] at h
  split at h
  · cases h
  · rename_i hne
    obtain ⟨readHost, hhost, h⟩ := exists_of_bind h
    obtain ⟨readPort, hport, h⟩ := exists_of_bind h
    cases h
    exact ⟨before, host, port, hrest ▸ hauthority, hne, hcolon, hhost, hport⟩

/-- No authority ends with a control. It would end the port, which has digits only, or the host, which
has no control in it. -/
theorem readAuthority_concat (hscheme : isSpecial scheme = true) (hc : isControl c = true) :
    readAuthority scheme (s ++ [c]) true ≠ .ok a := by
  intro h
  obtain ⟨before, host, port, hparts, hne, hcolon, hhost, hport⟩ := parts_of_readAuthority hscheme h
  have hlast : ((before ++ (host ++ port)).getLast?) = some c := by
    rw [← hparts]
    exact List.getLast?_concat
  cases port with
  | nil =>
    rw [List.append_nil, List.getLast?_append_of_ne_nil before hne] at hlast
    rw [← List.dropLast_append_getLast? c hlast] at hhost
    exact host_read_concat hc a.host hhost
  | cons colon digits =>
    cases hcolon colon rfl
    have hend : (':' :: digits).getLast? = some c := by
      rw [← List.append_assoc, List.getLast?_append_of_ne_nil _ (List.cons_ne_nil _ _)] at hlast
      exact hlast
    have hmem : c ∈ digits := by
      rcases List.mem_cons.mp (List.mem_of_getLast? hend) with rfl | hmem
      · exact absurd hc (by decide)
      · exact hmem
    have hdigits : digits.all Char.isDigit = false :=
      List.all_eq_false.mpr ⟨c, hmem, by rw [isDigit_of_isControl hc]; exact Bool.false_ne_true⟩
    simp only [readPort, hdigits, Bool.not_false, Bool.true_or, if_true] at hport
    cases hport

/-! ## In a path -/

/-- A control is written as a percent sign and its two digits. -/
theorem percentEncode_concat (hc : isControl c = true) (s : List Char) :
    percentEncode .path (s ++ [c]) =
      percentEncode .path s ++ ['%', hexDigit (c.toNat / 16), hexDigit (c.toNat % 16)] := by
  have hle : c.toNat ≤ 0x20 := of_decide_eq_true hc
  have hencodes : EncodeSet.path.encodes c = true := by
    by_cases hspace : c.toNat = 0x20
    · have hchar : c = ' ' := Char.ext (UInt32.toNat_inj.mp hspace)
      rw [hchar]
      decide
    · have hlt : c.toNat < 0x20 := by omega
      simp only [EncodeSet.encodes, hlt, decide_true, Bool.true_or]
  have hbyte : (UInt8.ofNat c.toNat).toNat = c.toNat :=
    UInt8.toNat_ofNat_of_lt (Nat.lt_of_le_of_lt hle (by decide))
  rw [percentEncode, List.flatMap_append, List.flatMap_singleton, hencodes, if_pos rfl,
    Json.utf8EncodeChar_of_ascii (isAscii_of_isControl hc), List.flatMap_singleton, percentByte,
    hbyte]
  rfl

/-- A segment that ends with a control is a name and not dots: the code of the control is none that
stands for a full stop. -/
theorem isDots_concat (hc : isControl c = true) (s : List Char) : isDots (s ++ [c]) = false := by
  have hle : c.toNat ≤ 0x20 := of_decide_eq_true hc
  have hdigits : ∀ n < 33, (hexDigit (n % 16)).toLower ≠ '.' ∧
      ¬ ((hexDigit (n % 16)).toLower = 'e' ∧ (hexDigit (n / 16)).toLower = '2') := by decide
  obtain ⟨hdot, hcode⟩ := hdigits c.toNat (by omega)
  have hends : ((percentEncode .path (s ++ [c])).map Char.toLower).reverse =
      (hexDigit (c.toNat % 16)).toLower :: (hexDigit (c.toNat / 16)).toLower :: '%' ::
        ((percentEncode .path s).map Char.toLower).reverse := by
    rw [percentEncode_concat hc, List.map_append, List.reverse_append]
    rfl
  -- dots end with a full stop or with its code
  have hnot : ∀ dots : String, (dots.toList.reverse.head? = some '.' ∨
      dots.toList.reverse.take 2 = ['e', '2']) →
        (String.ofList ((percentEncode .path (s ++ [c])).map Char.toLower) == dots) = false := by
    intro dots hdots
    refine beq_eq_false_iff_ne.mpr fun heq => ?_
    rw [← heq, String.toList_ofList, hends] at hdots
    rcases hdots with h | h
    · exact hdot (Option.some.inj h)
    · simp only [List.take_succ_cons, List.take_zero, List.cons.injEq, and_true] at h
      exact hcode h
  have hsingle : isSingleDot (percentEncode .path (s ++ [c])) = false := by
    have hlong := congrArg List.length hends
    simp only [List.length_reverse, List.length_cons] at hlong
    simp only [isSingleDot, Bool.or_eq_false_iff, beq_eq_false_iff_ne]
    constructor
    · intro heq
      rw [heq] at hlong
      simp at hlong
    · intro heq
      rw [heq] at hends
      simp only [List.reverse_cons, List.reverse_nil, List.nil_append, List.cons_append,
        List.cons.injEq] at hends
      exact hcode ⟨hends.1.symm, hends.2.1.symm⟩
  simp only [isDots, isDoubleDot, hsingle, Bool.or_false, Bool.or_eq_false_iff]
  exact ⟨⟨⟨hnot _ (by decide), hnot _ (by decide)⟩, hnot _ (by decide)⟩, hnot _ (by decide)⟩

/-- A path with a control behind it is written longer in the end. Before the control comes a segment
that may have been dots; with it, it is a name, and a name is written out. -/
theorem exists_longer (hweb : IsWeb scheme) {slash : Char} (hslash : isSlash slash = true)
    (hc : isControl c = true) (front blanks : List Char)
    (hblanks : ∀ c ∈ blanks, isControl c = true) {last : List Char}
    (hlast : ∀ c ∈ last, isSlash c = false) (hname : isDots last = false) :
    ∃ before after, readPathStart scheme (slash :: front) = .segments before ∧
      readPathStart scheme (slash :: (front ++ (blanks ++ [c])) ++ '/' :: last) =
        .segments (after ++ [String.ofList (percentEncode .path last)]) ∧
      (written before).length < (written after).length := by
  obtain ⟨segments, segment, hsplit, happend⟩ := Text.exists_splitAt_append_plain isSlash front
  have hplain : ∀ d ∈ blanks ++ [c], isSlash d = false := by
    intro d hd
    have hcontrol : isControl d = true := by
      rcases List.mem_append.mp hd with h | h
      · exact hblanks d h
      · exact List.mem_singleton.mp h ▸ hc
    simp only [isSlash, Bool.or_eq_false_iff, beq_eq_false_iff_ne]
    exact ⟨ne_of_isControl hcontrol (by decide), ne_of_isControl hcontrol (by decide)⟩
  let place := segments.foldl step []
  have hdots : isDots (segment ++ (blanks ++ [c])) = false := by
    rw [← List.append_assoc]
    exact isDots_concat hc _
  refine ⟨follow false place [segment],
    place ++ [String.ofList (percentEncode .path (segment ++ (blanks ++ [c])))], ?_, ?_, ?_⟩
  · rw [hweb.readPathStart_eq, dropSlash_cons hslash, hsplit, follow_append (List.cons_ne_nil _ _)]
  · rw [hweb.readPathStart_eq, List.cons_append, dropSlash_cons hslash,
      Text.splitAt_append_cons (by decide), happend _ hplain, Text.splitAt_plain hlast,
      follow_append (List.cons_ne_nil _ _), follow_last, step_of_not_isDots hname, hname,
      List.foldl_append, List.foldl_cons, List.foldl_nil, step_of_not_isDots hdots]
    simp only [Bool.false_eq_true, if_false, List.replicate_zero, List.append_nil]
    rfl
  · -- dots take the path back, and a name makes it no longer than its code
    have hbefore := length_written_follow_le place segment
    have hafter : (written (place ++
        [String.ofList (percentEncode .path (segment ++ (blanks ++ [c])))])).length =
          (written place).length + 1 + (percentEncode .path segment).length +
            (percentEncode .path (blanks ++ [c])).length := by
      rw [written_append, List.length_append, written_ofList, List.length_cons, percentEncode,
        List.flatMap_append, List.length_append]
      simp only [percentEncode]
      omega
    rw [percentEncode_concat hc, List.length_append] at hafter
    simp only [List.length_cons, List.length_nil] at hafter
    omega

end Workday.Url
