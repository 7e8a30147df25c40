import ExportStream.Proofs.Resumption
/-!
# Texts between quotes

What the bytes between two quotes may be, said without a decoder: a spelling (`Escape.Spells`) has
each character of the text as itself or as an escape (`Escape.Escaped`), which is a letter behind a
backslash, the code of the character, or the codes of two surrogates.

The decoder puts out bytes and looks only at the end whether they are characters. It accepts nothing
but spellings all the same (**`Escape.decode_spelling`**): an escape puts out a whole character, so
that it never completes one whose bytes began before it (`Escape.expand_tails`). The one liberty that
it takes is a plus in place of the first digit of a code (`Escape.ReadCode`), by which it reads a
text from bytes that spell none in JSON (`Escape.decode_plus`).
-/

namespace ExportStream

namespace Escape

open Text.Utf8 (encodeChar encode)

/-! ### Codes -/

/-- The digit in base sixteen of a value below sixteen, in lower or upper case. -/
inductive HexDigit : Nat → UInt8 → Prop where
  /-- From `0` to `9`. -/
  | digit {v : Nat} (h : v < 10) : HexDigit v (UInt8.ofNat (48 + v))
  /-- From `a` to `f`. -/
  | lower {v : Nat} (h : v < 6) : HexDigit (10 + v) (UInt8.ofNat (97 + v))
  /-- From `A` to `F`. -/
  | upper {v : Nat} (h : v < 6) : HexDigit (10 + v) (UInt8.ofNat (65 + v))

/-- The code of a number: four digits in base sixteen. -/
inductive Code : Nat → List UInt8 → Prop where
  /-- The first digit counts most. -/
  | digits {w x y z : Nat} {a b c d : UInt8} : HexDigit w a → HexDigit x b → HexDigit y c →
      HexDigit z d → Code (((w * 16 + x) * 16 + y) * 16 + z) [a, b, c, d]

/-- What is read as the code of a number: its code, or a plus and three digits. -/
inductive ReadCode : Nat → List UInt8 → Prop where
  /-- A code. -/
  | code {n : Nat} {text : List UInt8} : Code n text → ReadCode n text
  /-- A plus in place of the first digit. -/
  | plus {x y z : Nat} {b c d : UInt8} : HexDigit x b → HexDigit y c → HexDigit z d →
      ReadCode ((x * 16 + y) * 16 + z) [43, b, c, d]

theorem hexValue?_eq_some_iff {b : UInt8} {v : Nat} :
    Text.hexValue? b = some v ↔ HexDigit v b := by
  constructor
  · intro h
    simp only [Text.hexValue?, Text.isDigit, Bool.and_eq_true, decide_eq_true_eq,
      UInt8.le_iff_toNat_le, UInt8.reduceToNat] at h
    have hb : UInt8.ofNat b.toNat = b := UInt8.ofNat_toNat
    split_ifs at h with h1 h2 h3
    · cases h
      have hdigit := HexDigit.digit (v := b.toNat - 48) (by omega)
      rwa [Nat.add_sub_cancel' h1.1, hb] at hdigit
    · cases h
      have hlower := HexDigit.lower (v := b.toNat - 97) (by omega)
      rwa [Nat.add_sub_cancel' h2.1, hb, show 10 + (b.toNat - 97) = b.toNat - 87 by omega] at hlower
    · cases h
      have hupper := HexDigit.upper (v := b.toNat - 65) (by omega)
      rwa [Nat.add_sub_cancel' h3.1, hb, show 10 + (b.toNat - 65) = b.toNat - 55 by omega] at hupper
  · intro h
    cases h with
    | digit h =>
      revert v
      decide
    | @lower v h =>
      revert v
      decide
    | @upper v h =>
      revert v
      decide

/-- A digit is neither quote nor backslash nor plus, and ASCII. -/
theorem HexDigit.byte {v : Nat} {b : UInt8} (h : HexDigit v b) :
    b ≠ 34 ∧ b ≠ 92 ∧ b ≠ 43 ∧ b.toNat < 128 := by
  cases h with
  | digit h =>
    revert v
    decide
  | @lower v h =>
    revert v
    decide
  | @upper v h =>
    revert v
    decide

theorem hexNumber?_four {a b c d : UInt8} {n : Nat} :
    hexNumber? [a, b, c, d] = some n ↔ Code n [a, b, c, d] := by
  have hdigits : hexNumber? [a, b, c, d] = some n ↔
      ∃ w x y z, Text.hexValue? a = some w ∧ Text.hexValue? b = some x ∧
        Text.hexValue? c = some y ∧ Text.hexValue? d = some z ∧
        ((w * 16 + x) * 16 + y) * 16 + z = n := by
    rcases ha : Text.hexValue? a with _ | w <;> rcases hb : Text.hexValue? b with _ | x <;>
      rcases hc : Text.hexValue? c with _ | y <;> rcases hd : Text.hexValue? d with _ | z <;>
      simp [hexNumber?, ha, hb, hc, hd]
  rw [hdigits]
  constructor
  · rintro ⟨w, x, y, z, ha, hb, hc, hd, rfl⟩
    rw [hexValue?_eq_some_iff] at ha hb hc hd
    exact .digits ha hb hc hd
  · intro h
    cases h with
    | digits ha hb hc hd =>
      rw [← hexValue?_eq_some_iff] at ha hb hc hd
      exact ⟨_, _, _, _, ha, hb, hc, hd, rfl⟩

theorem hexNumber?_three {b c d : UInt8} {n : Nat} :
    hexNumber? [b, c, d] = some n ↔
      ∃ x y z, HexDigit x b ∧ HexDigit y c ∧ HexDigit z d ∧ (x * 16 + y) * 16 + z = n := by
  simp only [← hexValue?_eq_some_iff]
  rcases hb : Text.hexValue? b with _ | x <;> rcases hc : Text.hexValue? c with _ | y <;>
    rcases hd : Text.hexValue? d with _ | z <;> simp [hexNumber?, hb, hc, hd]

/-- Four bytes have a number exactly if they are read as its code. -/
theorem codeOf?_eq_some_iff {a b c d : UInt8} {n : Nat} :
    codeOf? [a, b, c, d] = some n ↔ ReadCode n [a, b, c, d] := by
  by_cases ha : a = 43
  · subst ha
    rw [codeOf?, hexNumber?_three]
    constructor
    · rintro ⟨x, y, z, hb, hc, hd, rfl⟩
      exact .plus hb hc hd
    · intro h
      cases h with
      | code h =>
        -- a plus is no digit
        cases h with
        | digits ha => exact absurd rfl ha.byte.2.2.1
      | plus hb hc hd => exact ⟨_, _, _, hb, hc, hd, rfl⟩
  · have hplain : codeOf? [a, b, c, d] = hexNumber? [a, b, c, d] := by
      unfold codeOf?
      split
      · next h => exact absurd (List.cons.inj h).1 ha
      · rfl
    rw [hplain, hexNumber?_four]
    constructor
    · exact .code
    · intro h
      cases h with
      | code h => exact h
      | plus => exact absurd rfl ha

/-- No byte that is read as part of a code is a quote or a backslash, and all are ASCII. -/
theorem ReadCode.bytes {n : Nat} {text : List UInt8} (h : ReadCode n text) :
    ∀ b ∈ text, b ≠ 34 ∧ b ≠ 92 ∧ b.toNat < 128 := by
  have hdigit {v : Nat} {b : UInt8} (hb : HexDigit v b) : b ≠ 34 ∧ b ≠ 92 ∧ b.toNat < 128 :=
    ⟨hb.byte.1, hb.byte.2.1, hb.byte.2.2.2⟩
  cases h with
  | code h =>
    cases h with
    | digits ha hb hc hd => simp [hdigit ha, hdigit hb, hdigit hc, hdigit hd]
  | plus hb hc hd => simp [hdigit hb, hdigit hc, hdigit hd]

/-- Four bytes are read as the code of a number, or refused. -/
theorem readCode_eq_ok_iff {a b c d : UInt8} {n : Nat} :
    readCode a b c d = .ok n ↔ ReadCode n [a, b, c, d] := by
  rw [← codeOf?_eq_some_iff, readCode]
  cases hcode : codeOf? [a, b, c, d] with
  | none => cases Text.Utf8.text? [a, b, c, d] <;> simp
  | some m =>
    have hbytes := (codeOf?_eq_some_iff.mp hcode).bytes
    rw [Text.Utf8.text?_ascii fun b hb => (hbytes b hb).2.2]
    simp

/-! ### Spellings -/

/-- The letters behind a backslash, and the characters that they stand for. -/
def letters : List (UInt8 × Char) :=
  [(34, '"'), (92, '\\'), (47, '/'), (98, '\x08'), (102, '\x0c'), (110, '\n'), (114, '\r'), (116, '\t')]

/-- An escape of a character, where codes of numbers are as told. -/
inductive Escaped (IsCode : Nat → List UInt8 → Prop) (c : Char) : List UInt8 → Prop where
  /-- A letter behind a backslash. -/
  | letter {e : UInt8} : (e, c) ∈ letters → Escaped IsCode c [92, e]
  /-- The code of the character. -/
  | code {text : List UInt8} : IsCode c.toNat text → Escaped IsCode c (92 :: 117 :: text)
  /-- The codes of a high and a low surrogate. -/
  | pair {high low : Nat} {text text' : List UInt8} : 0xD800 ≤ high → high ≤ 0xDBFF →
      0xDC00 ≤ low → low ≤ 0xDFFF → IsCode high text → IsCode low text' →
      c.toNat = 0x10000 + (high - 0xD800) * 0x400 + (low - 0xDC00) →
      Escaped IsCode c (92 :: 117 :: (text ++ 92 :: 117 :: text'))

/-- A spelling of some characters, each as itself if it may stand so, or as an escape. -/
inductive Spells (Bare : Char → Prop) (IsCode : Nat → List UInt8 → Prop) :
    List Char → List UInt8 → Prop where
  /-- Of none. -/
  | nil : Spells Bare IsCode [] []
  /-- The first stands as itself. -/
  | bare {c : Char} {cs : List Char} {raw : List UInt8} : Bare c → Spells Bare IsCode cs raw →
      Spells Bare IsCode (c :: cs) (encodeChar c ++ raw)
  /-- The first is escaped. -/
  | escape {c : Char} {cs : List Char} {text raw : List UInt8} : Escaped IsCode c text →
      Spells Bare IsCode cs raw → Spells Bare IsCode (c :: cs) (text ++ raw)

variable {c : Char} {cs : List Char} {raw rest out text : List UInt8}

/-! ### Spellings are decoded -/

/-- An ASCII byte in the encoding of a character is the character. -/
theorem eq_of_mem_encodeChar {b : UInt8} (hb : b ∈ encodeChar c) (hlt : b.toNat < 128) :
    c.toNat = b.toNat := by
  have hform := Text.Utf8.form_encodeChar c
  generalize encodeChar c = bytes at hb hform
  cases hform with
  | one hn ha =>
    rw [List.mem_singleton.mp hb, ha]
  | two =>
    simp only [List.mem_cons, List.not_mem_nil, or_false] at hb
    rcases hb with rfl | rfl <;> omega
  | three =>
    simp only [List.mem_cons, List.not_mem_nil, or_false] at hb
    rcases hb with rfl | rfl | rfl <;> omega
  | four =>
    simp only [List.mem_cons, List.not_mem_nil, or_false] at hb
    rcases hb with rfl | rfl | rfl | rfl <;> omega

theorem not_mem_encodeChar {a : Char} (ha : a.toNat < 128) (hc : c ≠ a) :
    UInt8.ofNat a.toNat ∉ encodeChar c := by
  intro hmem
  have hn : (UInt8.ofNat a.toNat).toNat = a.toNat := Text.Utf8.toNat_ofNat_of_lt (by omega)
  have heq := eq_of_mem_encodeChar hmem (by rw [hn]; exact ha)
  rw [hn] at heq
  exact hc (Char.toNat_inj.mp heq)

theorem expand_plain_append (h : ∀ b ∈ text, b ≠ 92) (rest : List UInt8) :
    expand (text ++ rest) = (expand rest).map (text ++ ·) := by
  induction text with
  | nil => rcases hrest : expand rest with f | out <;> rw [List.nil_append, hrest] <;> rfl
  | cons b text ih =>
    have hmore := ih fun x hx => h x (List.mem_cons_of_mem _ hx)
    rw [List.cons_append, Indexed.expand_plain_byte (h b (List.mem_cons_self ..)), hmore,
      ← Indexed.map_append]
    rfl

theorem short?_eq_some_iff {e byte : UInt8} :
    short? e = some byte ↔ ∃ c, (e, c) ∈ letters ∧ encodeChar c = [byte] := by
  constructor
  · intro h
    unfold short? at h
    split_ifs at h with h1 h2 h3 h4 h5 h6 h7 h8
    all_goals
      subst e
      cases h
    · exact ⟨'"', by decide, by decide⟩
    · exact ⟨'\\', by decide, by decide⟩
    · exact ⟨'/', by decide, by decide⟩
    · exact ⟨'\x08', by decide, by decide⟩
    · exact ⟨'\x0c', by decide, by decide⟩
    · exact ⟨'\n', by decide, by decide⟩
    · exact ⟨'\r', by decide, by decide⟩
    · exact ⟨'\t', by decide, by decide⟩
  · rintro ⟨c, hmem, hc⟩
    have hall : ∀ p ∈ letters, short? p.1 = (encodeChar p.2).head? := by decide
    rw [hall (e, c) hmem, hc]
    rfl

theorem letters_ascii {e : UInt8} (h : (e, c) ∈ letters) : e ≠ 117 ∧ c.toNat < 128 := by
  have hall : ∀ p ∈ letters, p.1 ≠ 117 ∧ p.2.toNat < 128 := by decide
  exact hall (e, c) h

theorem ReadCode.four {n : Nat} (h : ReadCode n text) : ∃ a b c d, text = [a, b, c, d] := by
  cases h with
  | code h =>
    cases h
    exact ⟨_, _, _, _, rfl⟩
  | plus => exact ⟨_, _, _, _, rfl⟩

theorem charOf?_toNat (c : Char) : charOf? c.toNat = some c := by
  rw [charOf?, if_pos (Text.Utf8.valid_toNat c), Char.ofNat_toNat]

/-- The number of a character is no surrogate. -/
theorem not_isHigh_toNat (c : Char) : ¬isHigh c.toNat = true := by
  have hvalid := Text.Utf8.valid_toNat c
  simp only [isHigh, Bool.and_eq_true, decide_eq_true_eq]
  omega

/-- An escape is expanded to the encoding of its character. -/
theorem expand_escaped_append (h : Escaped ReadCode c text) (rest : List UInt8) :
    expand (text ++ rest) = (expand rest).map (encodeChar c ++ ·) := by
  cases h with
  | @letter e hmem =>
    obtain ⟨hne, hascii⟩ := letters_ascii hmem
    have hchar := Text.Utf8.encodeChar_ascii hascii
    have hshort := short?_eq_some_iff.mpr ⟨c, hmem, hchar⟩
    rw [List.cons_append, List.singleton_append, Indexed.expand_letter hne, hshort, hchar]
  | code hcode =>
    obtain ⟨w, x, y, z, rfl⟩ := hcode.four
    have hread := readCode_eq_ok_iff.mpr hcode
    rw [List.cons_append, List.cons_append, List.cons_append, List.cons_append, List.cons_append,
      List.singleton_append, Indexed.expand_of_single hread (not_isHigh_toNat c), charOf?_toNat]
  | @pair high low text text' hhigh hhigh' hlow hlow' hcode hcode' hchar =>
    obtain ⟨w, x, y, z, rfl⟩ := hcode.four
    obtain ⟨w', x', y', z', rfl⟩ := hcode'.four
    have hishigh : isHigh high = true := by simp [isHigh, hhigh, hhigh']
    have hislow : isLow low = true := by simp [isLow, hlow, hlow']
    have hpair : pairChar high low = c := by rw [pairChar, ← hchar, Char.ofNat_toNat]
    have hexpand := Indexed.expand_of_pair w' x' y' z' rest (readCode_eq_ok_iff.mpr hcode) hishigh
    rw [readCode_eq_ok_iff.mpr hcode'] at hexpand
    simp only [hislow, if_true, hpair] at hexpand
    exact hexpand

/-- A spelling is expanded to the encoding of its characters. -/
theorem Spells.expand (h : Spells (· ≠ '\\') ReadCode cs raw) : expand raw = .ok (encode cs) := by
  induction h with
  | nil => rw [Escape.expand, Text.Utf8.encode_nil]
  | @bare c cs raw hc _ ih =>
    have hplain : ∀ b ∈ encodeChar c, b ≠ 92 := by
      rintro b hb rfl
      exact not_mem_encodeChar (by decide) hc hb
    rw [expand_plain_append hplain, ih, Text.Utf8.encode_cons]
    rfl
  | escape htext _ ih =>
    rw [expand_escaped_append htext, ih, Text.Utf8.encode_cons]
    rfl

/-! ### What is decoded is a spelling -/

/-- What stands at the front of the bytes between two quotes. -/
inductive Front : List UInt8 → Prop where
  /-- Nothing. -/
  | nil : Front []
  /-- A byte that stands for itself. -/
  | plain {b : UInt8} (rest : List UInt8) : b ≠ 92 → Front (b :: rest)
  /-- An escape. -/
  | escape {c : Char} {text : List UInt8} (rest : List UInt8) : Escaped ReadCode c text →
      Front (text ++ rest)
  /-- A backslash and nothing else. -/
  | unterminated : Front [92]
  /-- Bytes that are refused for another reason. -/
  | refused {raw : List UInt8} {f : Fault} : expand raw = .error f → f ≠ .unterminated → Front raw

theorem readCode_ne_unterminated {a b c d : UInt8} {f : Fault} (h : readCode a b c d = .error f) :
    f ≠ .unterminated := by
  unfold readCode at h
  split at h
  · cases h
    simp
  · split at h
    · cases h
    · cases h
      simp

/-- The codes of a high and a low surrogate are an escape. -/
theorem escaped_pair {high low : Nat} {text text' : List UInt8} (hcode : ReadCode high text)
    (hhigh : isHigh high = true) (hcode' : ReadCode low text') (hlow : isLow low = true) :
    Escaped ReadCode (pairChar high low) (92 :: 117 :: (text ++ 92 :: 117 :: text')) := by
  simp only [isHigh, isLow, Bool.and_eq_true, decide_eq_true_eq] at hhigh hlow
  refine .pair hhigh.1 hhigh.2 hlow.1 hlow.2 hcode hcode' ?_
  exact Text.Utf8.toNat_charOf (by omega)

/-- Behind a high surrogate stands the code of a low one, or the bytes are refused. -/
theorem front_of_high {a b c d : UInt8} {high : Nat} (hcode : readCode a b c d = .ok high)
    (hhigh : isHigh high = true) (rest : List UInt8) :
    Front (92 :: 117 :: a :: b :: c :: d :: rest) := by
  by_cases hpair : ∃ more, rest = 92 :: 117 :: more
  · obtain ⟨rest, rfl⟩ := hpair
    by_cases hshort : rest.length < 4
    · exact .refused (Indexed.expand_of_short_pair hcode hhigh hshort) (by simp)
    obtain ⟨w, x, y, z, rest, rfl⟩ := Indexed.exists_four hshort
    have hexpand := Indexed.expand_of_pair w x y z rest hcode hhigh
    rcases hcode' : readCode w x y z with f | low
    · rw [hcode'] at hexpand
      exact .refused hexpand (readCode_ne_unterminated hcode')
    · by_cases hlow : isLow low = true
      · exact .escape rest (escaped_pair (readCode_eq_ok_iff.mp hcode) hhigh
          (readCode_eq_ok_iff.mp hcode') hlow)
      · rw [hcode'] at hexpand
        simp only [if_neg hlow] at hexpand
        exact .refused hexpand (by simp)
  · exact .refused (Indexed.expand_of_unpaired hcode hhigh hpair) (by simp)

/-- Behind the letter of a code stands a code, or the bytes are refused. -/
theorem front_of_unicode (rest : List UInt8) : Front (92 :: 117 :: rest) := by
  by_cases hshort : rest.length < 4
  · exact .refused (Indexed.expand_of_short hshort) (by simp)
  obtain ⟨a, b, c, d, rest, rfl⟩ := Indexed.exists_four hshort
  rcases hcode : readCode a b c d with f | n
  · exact .refused (Indexed.expand_of_refused hcode) (readCode_ne_unterminated hcode)
  by_cases hhigh : isHigh n = true
  · exact front_of_high hcode hhigh rest
  · by_cases hvalid : n.isValidChar
    · have hread := readCode_eq_ok_iff.mp hcode
      have hn : (Text.Utf8.charOf n).toNat = n := Text.Utf8.toNat_charOf hvalid
      rw [← hn] at hread
      exact .escape rest (.code hread)
    · refine .refused (f := .code) ?_ (by simp)
      rw [Indexed.expand_of_single hcode hhigh, charOf?, if_neg hvalid]

/-- Something of this stands at the front of any bytes. -/
theorem front (raw : List UInt8) : Front raw := by
  rcases raw with _ | ⟨b, rest⟩
  · exact .nil
  by_cases hb : b = 92
  · subst hb
    rcases rest with _ | ⟨e, rest⟩
    · exact .unterminated
    by_cases he : e = 117
    · subst he
      exact front_of_unicode rest
    · rcases hshort : short? e with _ | byte
      · refine .refused (f := .letter e) ?_ (by simp)
        rw [Indexed.expand_letter he, hshort]
      · obtain ⟨c, hmem, -⟩ := short?_eq_some_iff.mp hshort
        exact .escape rest (.letter hmem)
  · exact .plain rest hb

/-- What comes out behind some bytes begins with them. -/
theorem map_append_eq_ok {r : Except Fault (List UInt8)} {out : List UInt8}
    (h : r.map (text ++ ·) = .ok out) : ∃ more, out = text ++ more ∧ r = .ok more := by
  rcases r with f | more
  · cases h
  · cases h
    exact ⟨more, rfl, rfl⟩

theorem expand_unterminated : expand [92] = .error .unterminated := by
  rw [expand.eq_def]
  rfl

/-- Bytes that are expanded are empty, or begin with a byte that stands for itself or with an
escape. -/
theorem expand_eq_ok (h : expand raw = .ok out) :
    (raw = [] ∧ out = []) ∨
    (∃ b rest more, raw = b :: rest ∧ b ≠ 92 ∧ out = b :: more ∧ expand rest = .ok more) ∨
    (∃ c text rest more, raw = text ++ rest ∧ Escaped ReadCode c text ∧
      out = encodeChar c ++ more ∧ expand rest = .ok more) := by
  cases front raw with
  | nil =>
    rw [expand] at h
    cases h
    exact .inl ⟨rfl, rfl⟩
  | @plain b rest hplain =>
    rw [Indexed.expand_plain_byte hplain] at h
    obtain ⟨more, rfl, hmore⟩ := map_append_eq_ok h
    exact .inr (.inl ⟨b, rest, more, rfl, hplain, rfl, hmore⟩)
  | @escape c text rest hescaped =>
    rw [expand_escaped_append hescaped] at h
    obtain ⟨more, rfl, hmore⟩ := map_append_eq_ok h
    exact .inr (.inr ⟨c, text, rest, more, rfl, hescaped, rfl, hmore⟩)
  | unterminated =>
    rw [expand_unterminated] at h
    cases h
  | refused hrefused =>
    rw [hrefused] at h
    cases h

/-- Bytes that continue a character stand for themselves: no escape puts out such a byte first. -/
theorem expand_tails {more : List UInt8} (htails : ∀ b ∈ more, Text.Utf8.isTail b = true)
    (h : expand raw = .ok (more ++ out)) :
    ∃ rest, raw = more ++ rest ∧ expand rest = .ok out := by
  induction more generalizing raw with
  | nil => exact ⟨raw, rfl, h⟩
  | cons b more ih =>
    obtain ⟨-, hnil⟩ | ⟨a, rest, next, rfl, -, hnext, hrest⟩ | ⟨c, text, rest, next, -, -, hnext, -⟩ :=
      expand_eq_ok h
    · cases hnil
    · obtain ⟨rfl, rfl⟩ := List.cons.inj hnext
      obtain ⟨rest', rfl, hout⟩ := ih (fun x hx => htails x (List.mem_cons_of_mem _ hx)) hrest
      exact ⟨rest', rfl, hout⟩
    · obtain ⟨a, tail, hchar, hlead, -⟩ := Text.Utf8.encodeChar_eq_cons c
      rw [hchar] at hnext
      obtain ⟨rfl, -⟩ := List.cons.inj hnext
      rw [htails b (List.mem_cons_self ..)] at hlead
      cases hlead

/-- Bytes that expand to the encoding of some characters are a spelling of these. -/
theorem spells_of_expand (h : expand raw = .ok (encode cs)) :
    Spells (· ≠ '\\') ReadCode cs raw := by
  induction cs generalizing raw with
  | nil =>
    obtain ⟨rfl, -⟩ | ⟨a, rest, next, -, -, hnext, -⟩ | ⟨c, text, rest, next, -, -, hnext, -⟩ :=
      expand_eq_ok h
    · exact .nil
    · cases hnext
    · obtain ⟨a, tail, hchar, -⟩ := Text.Utf8.encodeChar_eq_cons c
      rw [hchar] at hnext
      cases hnext
  | cons c cs ih =>
    obtain ⟨a, tail, hchar, -, htails⟩ := Text.Utf8.encodeChar_eq_cons c
    rw [Text.Utf8.encode_cons] at h
    obtain ⟨-, hnext⟩ | ⟨b, rest, next, rfl, hplain, hnext, hrest⟩ |
      ⟨d, text, rest, next, rfl, hescaped, hnext, hrest⟩ := expand_eq_ok h
    · rw [hchar] at hnext
      cases hnext
    · -- the character stands as itself: the bytes behind its first one continue it
      rw [hchar] at hnext
      obtain ⟨rfl, rfl⟩ := List.cons.inj hnext
      obtain ⟨rest', rfl, hout⟩ := expand_tails htails hrest
      have hbare : c ≠ '\\' := by
        rintro rfl
        cases hchar
        exact hplain rfl
      have hspells : Spells (· ≠ '\\') ReadCode (c :: cs) (encodeChar c ++ rest') :=
        .bare hbare (ih hout)
      rw [hchar] at hspells
      exact hspells
    · obtain ⟨rfl, rfl⟩ := Text.Utf8.encodeChar_append_inj hnext
      exact .escape hescaped (ih hrest)

/-- Bytes are decoded exactly if they are a spelling of what comes out. -/
theorem decode_eq_ok_iff {s : String} :
    decode raw = .ok s ↔ Spells (· ≠ '\\') ReadCode s.toList raw := by
  unfold decode
  constructor
  · intro h
    rcases hexpand : expand raw with f | out
    · rw [hexpand] at h
      cases h
    · rw [hexpand] at h
      simp only [bind, Except.bind] at h
      split at h
      · next text htext =>
        cases h
        rw [Text.Utf8.text?_eq_some_iff.mp htext] at hexpand
        exact spells_of_expand hexpand
      · cases h
  · intro h
    rw [h.expand]
    simp only [bind, Except.bind]
    rw [show encode s.toList = Text.Utf8.bytesOf s from rfl, Text.Utf8.text?_bytesOf]

/-! ### What JSON says -/

/-- A spelling stays one where more characters may stand as themselves and more is a code. -/
theorem Spells.mono {Bare Bare' : Char → Prop} {IsCode IsCode' : Nat → List UInt8 → Prop}
    (h : Spells Bare IsCode cs raw) (hbare : ∀ c, Bare c → Bare' c)
    (hcode : ∀ n text, IsCode n text → IsCode' n text) : Spells Bare' IsCode' cs raw := by
  induction h with
  | nil => exact .nil
  | bare hc _ ih => exact .bare (hbare _ hc) ih
  | escape htext _ ih =>
    refine .escape ?_ ih
    cases htext with
    | letter hmem => exact .letter hmem
    | code h => exact .code (hcode _ _ h)
    | pair hhigh hhigh' hlow hlow' h h' hchar =>
      exact .pair hhigh hhigh' hlow hlow' (hcode _ _ h) (hcode _ _ h') hchar

/-- No spelling in codes of four digits begins with the code of a plus and three. -/
theorem not_spells_plus (cs : List Char) (rest : List UInt8) :
    ¬Spells (· ≠ '\\') Code cs (92 :: 117 :: 43 :: rest) := by
  have hplus {n : Nat} {text more : List UInt8} (hcode : Code n text)
      (h : text ++ more = 43 :: rest) : False := by
    cases hcode with
    | digits ha =>
      cases h
      exact ha.byte.2.2.1 rfl
  intro h
  generalize hraw : 92 :: 117 :: 43 :: rest = raw at h
  cases h with
  | nil => cases hraw
  | @bare c cs raw hc =>
    -- a backslash would have to stand as itself
    obtain ⟨a, tail, hchar, -⟩ := Text.Utf8.encodeChar_eq_cons c
    rw [hchar] at hraw
    obtain ⟨rfl, -⟩ := List.cons.inj hraw
    exact not_mem_encodeChar (by decide) hc (hchar ▸ List.mem_cons_self ..)
  | escape htext =>
    cases htext with
    | letter hmem =>
      cases hraw
      exact (letters_ascii hmem).1 rfl
    | code hcode =>
      simp only [List.cons_append, List.cons.injEq, true_and] at hraw
      exact hplus hcode hraw.symm
    | pair _ _ _ _ hcode =>
      simp only [List.cons_append, List.cons.injEq, true_and, List.append_assoc] at hraw
      exact hplus hcode hraw.symm

/-- **The bytes between two quotes are decoded exactly if they are a spelling**, in which a code may
have a plus in place of its first digit, and what comes out is the text that they spell. All others
are refused as a stream that is not well formed. -/
theorem decode_spelling (raw : List UInt8) :
    (∀ s : String, decode raw = .ok s ↔ Spells (· ≠ '\\') ReadCode s.toList raw) ∧
    ((∃ f, decode raw = .error f ∧
        (StreamFault.unplaced (.token (.string f))).status = .invalidFormat) ↔
      ¬∃ s : String, Spells (· ≠ '\\') ReadCode s.toList raw) := by
  refine ⟨fun s => decode_eq_ok_iff, ?_⟩
  constructor
  · rintro ⟨f, hf, -⟩ ⟨s, hs⟩
    rw [decode_eq_ok_iff.mpr hs] at hf
    cases hf
  · intro hno
    rcases hdecode : decode raw with f | s
    · exact ⟨f, rfl, rfl⟩
    · exact absurd ⟨s, decode_eq_ok_iff.mp hdecode⟩ hno

/-- The code `+041` is read as that of `A`, while no text has a spelling with it in JSON. -/
theorem decode_plus :
    decode [92, 117, 43, 48, 52, 49] = .ok "A" ∧
      ¬∃ s : String, Spells (· ≠ '\\') Code s.toList [92, 117, 43, 48, 52, 49] := by
  constructor
  · have hcode : ReadCode 'A'.toNat [43, 48, 52, 49] :=
      .plus (.digit (v := 0) (by decide)) (.digit (v := 4) (by decide)) (.digit (v := 1) (by decide))
    have hspells : Spells (· ≠ '\\') ReadCode ['A'] ([92, 117, 43, 48, 52, 49] ++ []) :=
      .escape (.code hcode) .nil
    exact decode_eq_ok_iff.mpr hspells
  · rintro ⟨s, hs⟩
    exact not_spells_plus _ _ hs

end Escape

end ExportStream
