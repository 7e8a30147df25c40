import ExportStream.Json.Reader
import ExportStream.Proofs.ElementTexts
import ExportStream.Proofs.IntegerTexts
/-!
# Texts that the strict reader accepts

The strict reader takes a text apart by a recursion of its own, with fuel, and knows commas, colons
and a limit of its own for brackets; the scanner and the builder take commas and colons for blanks.
Nevertheless **`Json.spelt_of_readRaw`**: what the strict reader makes of a text, if all its numbers
are integers of 64 bits (`Json.Integral`), the text spells (`Json.Spelt`), so that the scanner and
the builder come to the same, with the fields in order.

The proof follows the strict reader. Its texts between quotes are spellings of what it makes of them
(`Json.spells_of_readString`), its integers are written as integers are
(`Json.integer_of_readNumeral`), and values, items and fields go together by induction on the fuel
(`Json.spelt_of_fuel`). Behind an item that is not the last there is a comma or a bracket, which ends
a number for the scanner also.
-/

namespace ExportStream

open Text.Utf8 (encode encodeChar)

namespace Text.Utf8

/-! ### Bytes of characters -/

/-- The bytes are those of some characters. -/
def Valid (bytes : List UInt8) : Prop := ∃ cs, bytes = encode cs

variable {bytes rest part : List UInt8} {b : UInt8}

theorem valid_bytesOf (s : String) : Valid (bytesOf s) := ⟨s.toList, rfl⟩

/-- A byte of ASCII is a character of its own. -/
theorem Valid.tail (h : Valid (b :: rest)) (hb : b.toNat < 128) : Valid rest := by
  obtain ⟨cs, hcs⟩ := h
  cases cs with
  | nil => cases hcs
  | cons c cs =>
    obtain ⟨a, more, hchar, -⟩ := encodeChar_eq_cons c
    have hform := form_encodeChar c
    rw [encode_cons, hchar, List.cons_append] at hcs
    obtain ⟨rfl, rfl⟩ := List.cons.inj hcs
    rw [hchar] at hform
    generalize hbytes : b :: more = bytes at hform
    cases hform with
    | one =>
      cases hbytes
      exact ⟨cs, rfl⟩
    | two =>
      cases hbytes
      omega
    | three =>
      cases hbytes
      omega
    | four =>
      cases hbytes
      omega

theorem Valid.behind (h : Valid (part ++ rest)) (hpart : ∀ b ∈ part, b.toNat < 128) :
    Valid rest := by
  induction part with
  | nil => exact h
  | cons b part ih =>
    obtain ⟨hb, hpart⟩ := List.forall_mem_cons.mp hpart
    exact ih (h.tail hb) hpart

end Text.Utf8

open Text.Utf8 (Valid)

namespace Json

/-- What is read in two steps is read if both are. -/
theorem bind_eq_ok {α β : Type} {x : Except Refusal α} {f : α → Except Refusal β} {b : β} :
    (x >>= f) = .ok b ↔ ∃ a, x = .ok a ∧ f a = .ok b := by
  cases x <;> simp [bind, Except.bind]

variable {bytes rest content : List UInt8}

/-! ### Blanks -/

theorem isSeparator_of_isSpace {b : UInt8} (h : isSpace b = true) :
    Scanner.isSeparator b = true ∧ b.toNat < 128 := by
  simp only [isSpace, Bool.or_eq_true, beq_iff_eq] at h
  rcases h with ((rfl | rfl) | rfl) | rfl <;> decide

/-- Blanks are separators. -/
theorem skipSpace_spec (bytes : List UInt8) :
    ∃ gap, bytes = gap ++ skipSpace bytes ∧ gap.all Scanner.isSeparator = true ∧
      ∀ b ∈ gap, b.toNat < 128 := by
  have hall : ∀ b ∈ bytes.takeWhile isSpace, isSpace b = true := fun b hb =>
    List.mem_takeWhile_imp hb
  refine ⟨bytes.takeWhile isSpace, (List.takeWhile_append_dropWhile).symm, ?_, ?_⟩
  · exact List.all_eq_true.mpr fun b hb => (isSeparator_of_isSpace (hall b hb)).1
  · exact fun b hb => (isSeparator_of_isSpace (hall b hb)).2

/-! ### Texts -/

theorem code_of_readHex4 {n : Nat} (h : readHex4 bytes = .ok (n, rest)) :
    ∃ text, bytes = text ++ rest ∧ Escape.Code n text := by
  unfold readHex4 at h
  split at h
  · next a b c d rest =>
    split at h
    · next w x y z ha hb hc hd =>
      cases h
      rw [Escape.hexValue?_eq_some_iff] at ha hb hc hd
      exact ⟨[a, b, c, d], rfl, .digits ha hb hc hd⟩
    · cases h
  · cases h

theorem code_lt {n : Nat} {text : List UInt8} (h : Escape.Code n text) : n < 0x10000 := by
  have hdigit {v : Nat} {b : UInt8} (hb : Escape.HexDigit v b) : v < 16 := by
    cases hb <;> omega
  cases h with
  | digits ha hb hc hd =>
    have := hdigit ha
    have := hdigit hb
    have := hdigit hc
    have := hdigit hd
    omega

theorem toNat_ofNat {n : Nat} (h : n < 0xD800 ∨ 0xDFFF < n ∧ n < 0x110000) :
    (Char.ofNat n).toNat = n := Text.Utf8.toNat_charOf h

/-- The second half of a pair of surrogates is read where its code stands. -/
theorem escaped_of_readLowSurrogate {high : Nat} {text part : List UInt8}
    (hhigh : 0xD800 ≤ high ∧ high ≤ 0xDBFF) (hcode : Escape.Code high text)
    (h : readLowSurrogate high bytes = .ok (part, rest)) :
    ∃ c text', part = encodeChar c ∧ bytes = 92 :: 117 :: (text' ++ rest) ∧
      Escape.Escaped Escape.Code c (92 :: 117 :: (text ++ 92 :: 117 :: text')) := by
  unfold readLowSurrogate at h
  split at h
  · cases h
  · cases h
  · obtain ⟨⟨low, rest'⟩, hread, h⟩ := bind_eq_ok.mp h
    simp only at h
    split_ifs at h with hlow
    · cases h
    · simp only [Except.ok.injEq, Prod.mk.injEq] at h
      obtain ⟨rfl, rfl⟩ := h
      obtain ⟨text', rfl, hcode'⟩ := code_of_readHex4 hread
      have hchar := toNat_ofNat (n := 0x10000 + (high - 0xD800) * 0x400 + (low - 0xDC00))
        (.inr ⟨by omega, by omega⟩)
      exact ⟨_, text', rfl, rfl,
        .pair hhigh.1 hhigh.2 (by omega) (by omega) hcode hcode' hchar⟩
  · cases h
  · cases h

/-- An escape is read as its character. -/
theorem escaped_of_readEscape {part : List UInt8} (h : readEscape bytes = .ok (part, rest)) :
    ∃ c text, part = encodeChar c ∧ 92 :: bytes = text ++ rest ∧
      Escape.Escaped Escape.Code c text := by
  unfold readEscape at h
  split at h
  · cases h
  · next e more =>
    have hletter {c : Char} (hmem : (e, c) ∈ Escape.letters)
        (heq : (Except.ok (encodeChar c, more) : Except Refusal _) = .ok (part, rest)) :
        ∃ c text, part = encodeChar c ∧ 92 :: e :: more = text ++ rest ∧
          Escape.Escaped Escape.Code c text := by
      cases heq
      exact ⟨c, [92, e], rfl, rfl, .letter hmem⟩
    simp only at h
    by_cases hself : e = 34 ∨ e = 92 ∨ e = 47
    · rw [if_pos hself] at h
      rcases hself with rfl | rfl | rfl
      · exact hletter (c := '"') (by decide) h
      · exact hletter (c := '\\') (by decide) h
      · exact hletter (c := '/') (by decide) h
    rw [if_neg hself] at h
    by_cases hb : e = 98
    · subst hb
      exact hletter (c := '\x08') (by decide) h
    rw [if_neg hb] at h
    by_cases hf : e = 102
    · subst hf
      exact hletter (c := '\x0c') (by decide) h
    rw [if_neg hf] at h
    by_cases hn : e = 110
    · subst hn
      exact hletter (c := '\n') (by decide) h
    rw [if_neg hn] at h
    by_cases hr : e = 114
    · subst hr
      exact hletter (c := '\r') (by decide) h
    rw [if_neg hr] at h
    by_cases ht : e = 116
    · subst ht
      exact hletter (c := '\t') (by decide) h
    rw [if_neg ht] at h
    split_ifs at h with hu
    · subst hu
      obtain ⟨⟨n, behind⟩, hread, hnext⟩ := bind_eq_ok.mp h
      obtain ⟨text, rfl, hcode⟩ := code_of_readHex4 hread
      have hlt := code_lt hcode
      simp only at hnext
      split_ifs at hnext with hlow hhigh
      · cases hnext
      · obtain ⟨c, text', rfl, rfl, hescaped⟩ := escaped_of_readLowSurrogate hhigh hcode hnext
        exact ⟨c, _, rfl, by simp, hescaped⟩
      · cases hnext
        have hvalid : n < 0xD800 ∨ 0xDFFF < n ∧ n < 0x110000 := by omega
        rw [← toNat_ofNat hvalid] at hcode
        exact ⟨_, _, rfl, rfl, .code hcode⟩
    · cases h

theorem escaped_ascii {c : Char} {text : List UInt8} (h : Escape.Escaped Escape.Code c text) :
    ∀ b ∈ text, b.toNat < 128 := by
  have hcode {n : Nat} {text : List UInt8} (h : Escape.Code n text) : ∀ b ∈ text, b.toNat < 128 :=
    fun b hb => ((Escape.ReadCode.code h).bytes b hb).2.2
  cases h with
  | @letter e hmem =>
    have hall : ∀ p ∈ Escape.letters, p.1.toNat < 128 := by decide
    simpa using hall (e, c) hmem
  | code h => simpa using hcode h
  | pair _ _ _ _ h h' =>
    intro b hb
    simp only [List.mem_cons, List.mem_append] at hb
    rcases hb with rfl | rfl | hb | rfl | rfl | hb
    · decide
    · decide
    · exact hcode h b hb
    · decide
    · decide
    · exact hcode h' b hb

/-- Bytes that need no escape are taken as they are. -/
theorem readStringBytes_plain {part : List UInt8} (hpart : ∀ b ∈ part, b ≠ 34 ∧ b ≠ 92)
    {fuel : Nat} (h : readStringBytes fuel (part ++ rest) = .ok (content, bytes)) :
    ∃ n more, n + part.length = fuel ∧ content = part ++ more ∧
      readStringBytes n rest = .ok (more, bytes) ∧ ∀ b ∈ part, 32 ≤ b.toNat := by
  induction part generalizing fuel content with
  | nil => exact ⟨fuel, content, rfl, rfl, h, by simp⟩
  | cons b part ih =>
    obtain ⟨⟨hquote, hslash⟩, hpart⟩ := List.forall_mem_cons.mp hpart
    cases fuel with
    | zero => cases h
    | succ fuel =>
      rw [List.cons_append, readStringBytes, if_neg hquote, if_neg hslash] at h
      split_ifs at h with hcontrol
      · cases h
      · obtain ⟨⟨more, bytes'⟩, hread, h⟩ := bind_eq_ok.mp h
        cases h
        obtain ⟨n, more, hn, rfl, hrest, hall⟩ := ih hpart hread
        refine ⟨n, more, by rw [List.length_cons]; omega, rfl, hrest, ?_⟩
        refine List.forall_mem_cons.mpr ⟨?_, hall⟩
        simpa [UInt8.lt_iff_toNat_lt] using hcontrol

/-- **A text that is read is a spelling of what comes out**, and ends with the quote. -/
theorem spells_of_readStringBytes {fuel : Nat} (hvalid : Valid bytes)
    (h : readStringBytes fuel bytes = .ok (content, rest)) :
    Valid rest ∧ ∃ cs raw, content = encode cs ∧ bytes = raw ++ 34 :: rest ∧
      Escape.Spells Escape.Unquoted Escape.Code cs raw := by
  induction fuel using Nat.strongRecOn generalizing bytes content with
  | ind fuel ih =>
    obtain ⟨cs, rfl⟩ := hvalid
    cases fuel with
    | zero => cases h
    | succ fuel =>
      cases cs with
      | nil => cases h
      | cons c cs =>
        by_cases hquote : c = '"'
        · subst hquote
          cases h
          exact ⟨⟨cs, rfl⟩, [], [], rfl, rfl, .nil⟩
        by_cases hslash : c = '\\'
        · subst hslash
          have hbytes : encode ('\\' :: cs) = 92 :: encode cs := rfl
          rw [hbytes, readStringBytes, if_neg (by decide), if_pos rfl] at h
          obtain ⟨⟨part, bytes⟩, hescape, h⟩ := bind_eq_ok.mp h
          obtain ⟨⟨more, rest'⟩, hmore, h⟩ := bind_eq_ok.mp h
          cases h
          obtain ⟨d, text, rfl, htext, hescaped⟩ := escaped_of_readEscape hescape
          have hbehind : Valid bytes := by
            have hall : Valid (text ++ bytes) := ⟨'\\' :: cs, htext.symm⟩
            exact hall.behind (escaped_ascii hescaped)
          obtain ⟨hrest, ds, raw, rfl, rfl, hspells⟩ := ih fuel (Nat.lt_succ_self _) hbehind hmore
          refine ⟨hrest, d :: ds, text ++ raw, rfl, ?_, .escape hescaped hspells⟩
          rw [hbytes, htext, List.append_assoc]
        · have hpart : ∀ b ∈ encodeChar c, b ≠ 34 ∧ b ≠ 92 := by
            intro b hb
            constructor
            · rintro rfl
              exact Escape.not_mem_encodeChar (by decide) hquote hb
            · rintro rfl
              exact Escape.not_mem_encodeChar (by decide) hslash hb
          rw [Text.Utf8.encode_cons] at h ⊢
          obtain ⟨n, more, hn, rfl, hmore, -⟩ := readStringBytes_plain hpart h
          have hpos : 0 < (encodeChar c).length := by
            obtain ⟨a, tail, hchar, -⟩ := Text.Utf8.encodeChar_eq_cons c
            rw [hchar]
            exact Nat.succ_pos _
          obtain ⟨hrest, ds, raw, rfl, hraw, hspells⟩ := ih n (by omega) ⟨cs, rfl⟩ hmore
          refine ⟨hrest, c :: ds, encodeChar c ++ raw, rfl, ?_, .bare ⟨hquote, hslash⟩ hspells⟩
          rw [hraw, List.append_assoc]

/-- The same of a text as a whole, behind its opening quote. -/
theorem spells_of_readString {s : String} (hvalid : Valid bytes)
    (h : readString bytes = .ok (s, rest)) :
    Valid rest ∧ ∃ raw, bytes = raw ++ 34 :: rest ∧
      Escape.Spells Escape.Unquoted Escape.ReadCode s.toList raw := by
  obtain ⟨⟨content, rest'⟩, hread, h⟩ := bind_eq_ok.mp h
  cases h
  obtain ⟨hrest, cs, raw, rfl, hraw, hspells⟩ := spells_of_readStringBytes hvalid hread
  refine ⟨hrest, raw, hraw, ?_⟩
  rw [Text.Utf8.lossy_encode, String.toList_ofList]
  exact hspells.mono (fun _ hc => hc) fun _ _ hcode => .code hcode

/-! ### Words and integers -/

theorem readWord_eq_ok_iff {u v : Json} {word : List UInt8} :
    readWord u word bytes = .ok (v, rest) ↔ u = v ∧ bytes = word ++ rest := by
  induction word generalizing bytes with
  | nil => simp [readWord]
  | cons w ws ih =>
    cases bytes with
    | nil => simp [readWord, blameLast]
    | cons b bytes =>
      rw [readWord]
      split_ifs with hb
      · rw [ih]
        simp [hb]
      · simp [blameLast, hb]

variable {negative : Bool} {n untaken : Nat} {power i : Int}

theorem realFromParts_ne_integer :
    realFromParts negative n power bytes ≠ .ok (.integer i, rest) := by
  unfold realFromParts
  split
  · simp
  · simp [blameLast]

theorem readExponent_ne_integer :
    readExponent negative n power bytes ≠ .ok (.integer i, rest) := by
  unfold readExponent
  simp only
  split
  · simp [blameLast]
  · split
    · split
      · exact realFromParts_ne_integer
      · intro h
        rcases ite_eq_iff.mp h with ⟨-, h⟩ | ⟨-, h⟩ <;> cases h
    · simp [blameLast]

theorem readFraction_ne_integer :
    readFraction negative n power bytes ≠ .ok (.integer i, rest) := by
  unfold readFraction readOptionalExponent
  simp only
  split_ifs
  · simp [blameNext]
  · simp [blameNext]
  · split
    · exact realFromParts_ne_integer
    · split_ifs
      · exact readExponent_ne_integer
      · exact realFromParts_ne_integer

/-- An integer has neither fraction nor exponent, and all its digits were taken. -/
theorem integer_of_readAfterDigits
    (h : readAfterDigits negative n untaken bytes = .ok (.integer i, rest)) :
    untaken = 0 ∧ rest = bytes ∧ i = if negative then -(n : Int) else n := by
  unfold readAfterDigits at h
  split at h
  · exact absurd h readFraction_ne_integer
  · split at h
    · exact absurd h readExponent_ne_integer
    · exact absurd h readExponent_ne_integer
    · split_ifs at h with hplain hminus
      · cases h
        have hsign : negative = false := by simpa using hplain.2
        exact ⟨hplain.1, rfl, by rw [hsign]; rfl⟩
      · cases h
        have hsign : negative = true := by
          have := not_and.mp hplain hminus.1
          simpa using this
        exact ⟨hminus.1, rfl, by rw [hsign]; rfl⟩
      · exact absurd h realFromParts_ne_integer

/-- Digits that are all taken are worth what they write. -/
theorem takeDigits_eq (ds : List UInt8) (h : (takeDigits n ds).2 = 0) :
    (takeDigits n ds).1 = ds.foldl (fun n d => n * 10 + (d.toNat - 48)) n := by
  induction ds generalizing n with
  | nil => rfl
  | cons d ds ih =>
    rw [takeDigits] at h ⊢
    split_ifs at h ⊢
    exact ih h

/-- **An integer that is read is written**: digits, behind the sign that was read before. -/
theorem integer_of_readNumeral (h : readNumeral negative bytes = .ok (.integer i, rest)) :
    ∃ text, bytes = text ++ rest ∧
      Decimal.IntegerText i (if negative then 45 :: text else text) := by
  have hwritten {ds : List UInt8} (hne : ds ≠ []) (hds : ds.all Text.isDigit = true)
      (hi : i = if negative then -(Decimal.digitsValue ds : Int) else Decimal.digitsValue ds) :
      Decimal.IntegerText i (if negative then 45 :: ds else ds) := by
    cases negative with
    | true => exact hi ▸ .minus hne hds
    | false => exact hi ▸ .digits hne hds
  unfold readNumeral at h
  split at h
  · cases h
  · next b more =>
    split_ifs at h with hzero hdigit
    · subst hzero
      split at h
      · obtain ⟨-, rfl, hi⟩ := integer_of_readAfterDigits h
        exact ⟨[48], rfl, hwritten (by simp) (by decide) hi⟩
      · split_ifs at h with hdigit
        · cases h
        · obtain ⟨-, rfl, hi⟩ := integer_of_readAfterDigits h
          exact ⟨[48], rfl, hwritten (by simp) (by decide) hi⟩
    · simp only at h
      obtain ⟨huntaken, rfl, hi⟩ := integer_of_readAfterDigits h
      refine ⟨(b :: more).takeWhile Text.isDigit, List.takeWhile_append_dropWhile.symm,
        hwritten ?_ ?_ ?_⟩
      · simp [hdigit]
      · exact List.all_eq_true.mpr fun d hd => List.mem_takeWhile_imp hd
      · rw [hi, takeDigits_eq _ huntaken]
        rfl
    · cases h

/-! ### Values -/

/-- A value as it was written: its numbers are integers that fit in 64 bits with a sign, and at most
so many brackets are open at once in it. -/
inductive Integral : Nat → Json → Prop where
  /-- The null value. -/
  | null (depth : Nat) : Integral depth .null
  /-- A truth value. -/
  | bool (depth : Nat) (b : Bool) : Integral depth (.bool b)
  /-- An integer. -/
  | integer (depth : Nat) {i : Int} : Decimal.Fits64 i → Integral depth (.number (.integer i))
  /-- A text. -/
  | string (depth : Nat) (s : String) : Integral depth (.string s)
  /-- An array of such values. -/
  | array {depth : Nat} {items : List Json} : (∀ v ∈ items, Integral depth v) →
      Integral (depth + 1) (.array items)
  /-- An object of such values. -/
  | object {depth : Nat} {fields : List (String × Json)} : (∀ f ∈ fields, Integral depth f.2) →
      Integral (depth + 1) (.object fields)

/-- What the strict reader accepts as a value with so much fuel is the text of the value. -/
def ValuesSpelt (fuel : Nat) : Prop :=
  ∀ {limit depth : Nat} {bytes rest : List UInt8} {v : Json}, Valid bytes →
    readValue fuel limit bytes = .ok (v, rest) → v.Integral depth →
    Valid rest ∧ ∃ text, bytes = text ++ rest ∧ Spelt depth text v.inOrder

/-- What it accepts as the items of an array are their texts; behind an item that was read before, a
number has ended. -/
def ItemsSpelt (fuel : Nat) : Prop :=
  ∀ {limit depth : Nat} {first : Bool} {bytes rest : List UInt8} {items : List Json}, Valid bytes →
    readItems fuel limit first bytes = .ok (items, rest) → (∀ v ∈ items, v.Integral depth) →
    Valid rest ∧ ∃ text, bytes = text ++ 93 :: rest ∧
      ItemTexts depth (itemsInOrder items) text ∧ (first = false → Scanner.EndsNumber (text ++ [93]))

/-- What it accepts as the fields of an object are their texts. -/
def FieldsSpelt (fuel : Nat) : Prop :=
  ∀ {limit depth : Nat} {first : Bool} {bytes rest : List UInt8} {fields : List (String × Json)},
    Valid bytes → readFields fuel limit first bytes = .ok (fields, rest) →
    (∀ f ∈ fields, f.2.Integral depth) →
    Valid rest ∧ ∃ text, bytes = text ++ 125 :: rest ∧
      FieldTexts depth (fieldsInOrder fields) text

/-- The same behind the quote that opens the name of the first. -/
def FieldSpelt (fuel : Nat) : Prop :=
  ∀ {limit depth : Nat} {bytes rest : List UInt8} {fields : List (String × Json)},
    Valid bytes → readField fuel limit bytes = .ok (fields, rest) →
    (∀ f ∈ fields, f.2.Integral depth) →
    Valid rest ∧ ∃ text, 34 :: bytes = text ++ 125 :: rest ∧
      FieldTexts depth (fieldsInOrder fields) text

variable {fuel limit depth : Nat} {v : Json}

/-- A word is the text of what it stands for. -/
theorem spelt_of_readWord {w : Word} {b : UInt8} {u : Json} (hletters : w.letters = b :: w.tail)
    (hderives : Derives depth [w.token] u.inOrder) (hnumber : w.token.isNumber = false)
    (hvalid : Valid (b :: bytes)) (h : readWord u w.tail bytes = .ok (v, rest)) :
    Valid rest ∧ ∃ text, b :: bytes = text ++ rest ∧ Spelt depth text v.inOrder := by
  obtain ⟨rfl, rfl⟩ := readWord_eq_ok_iff.mp h
  have hletter : w.letters.all (fun c => c.toNat < 128) = true := by
    cases w <;> decide
  have hascii : ∀ c ∈ w.letters, c.toNat < 128 := by simpa using hletter
  have hbytes : b :: (w.tail ++ rest) = w.letters ++ rest := by rw [hletters, List.cons_append]
  rw [hbytes] at hvalid ⊢
  refine ⟨hvalid.behind hascii, w.letters, rfl, .of_spells hderives (.word w) ?_⟩
  rw [hnumber]
  rintro ⟨⟩

theorem map_eq_ok {α β : Type} {x : Except Refusal α} {f : α → β} {b : β} :
    x.map f = .ok b ↔ ∃ a, x = .ok a ∧ f a = b := by
  cases x <;> simp [Except.map]

/-- A number of an integral value is the text of its integer. -/
theorem spelt_of_readNumeral {n : Number} (hv : (Json.number n).Integral depth)
    (h : readNumeral negative bytes = .ok (n, rest)) (hvalid : Valid bytes) :
    Valid rest ∧ ∃ text, (if negative then 45 :: bytes else bytes) = text ++ rest ∧
      Spelt depth text (.number n) := by
  cases hv with
  | @integer _ i hi =>
    obtain ⟨text, rfl, hwritten⟩ := integer_of_readNumeral h
    have hspelt := Spelt.of_spells (.integer depth i) (Token.spells_integerText hwritten hi)
      fun _ => ⟨_, rfl⟩
    have hascii := hwritten.ascii
    cases negative with
    | true =>
      refine ⟨hvalid.behind fun b hb => hascii b (List.mem_cons_of_mem _ hb), _, ?_, hspelt⟩
      rfl
    | false => exact ⟨hvalid.behind hascii, _, rfl, hspelt⟩

/-- What stands behind blanks is what stands there without them. -/
theorem valid_behind_blanks {b : UInt8} {more : List UInt8} (hvalid : Valid bytes)
    (hskip : skipSpace bytes = b :: more) :
    ∃ gap, bytes = gap ++ b :: more ∧ gap.all Scanner.isSeparator = true ∧ Valid (b :: more) := by
  obtain ⟨gap, hbytes, hgap, hascii⟩ := skipSpace_spec bytes
  rw [hskip] at hbytes
  exact ⟨gap, hbytes, hgap, (hbytes ▸ hvalid).behind hascii⟩

/-- **One value**, if what is inside of it is as it should be. -/
theorem valuesSpelt_succ (hitems : ItemsSpelt fuel) (hfields : FieldsSpelt fuel) :
    ValuesSpelt (fuel + 1) := by
  intro limit depth bytes rest v hvalid h hv
  rw [readValue] at h
  cases hskip : skipSpace bytes with
  | nil =>
    rw [hskip] at h
    cases h
  | cons b more =>
    obtain ⟨gap, rfl, hgap, hfront⟩ := valid_behind_blanks hvalid hskip
    rw [hskip] at h
    suffices hsuff : Valid rest ∧ ∃ text, b :: more = text ++ rest ∧ Spelt depth text v.inOrder by
      obtain ⟨hrest, text, htext, hspelt⟩ := hsuff
      exact ⟨hrest, gap ++ text, by rw [htext, List.append_assoc], hspelt.behind hgap⟩
    -- one case for each first byte of a value, in the order in which the reader looks for it
    simp only at h
    by_cases hn : b = 110
    · subst hn
      exact spelt_of_readWord (w := .null) (u := .null) rfl (.null depth) rfl hfront h
    rw [if_neg hn] at h
    by_cases ht : b = 116
    · subst ht
      exact spelt_of_readWord (w := .true) (u := .bool true) rfl (.bool depth true) rfl hfront h
    rw [if_neg ht] at h
    by_cases hf : b = 102
    · subst hf
      exact spelt_of_readWord (w := .false) (u := .bool false) rfl (.bool depth false) rfl hfront h
    rw [if_neg hf] at h
    by_cases hminus : b = 45
    · subst hminus
      obtain ⟨⟨n, rest'⟩, hread, heq⟩ := map_eq_ok.mp h
      cases heq
      exact spelt_of_readNumeral hv hread (hfront.tail (by decide))
    rw [if_neg hminus] at h
    by_cases hdigit : Text.isDigit b = true
    · rw [if_pos hdigit] at h
      obtain ⟨⟨n, rest'⟩, hread, heq⟩ := map_eq_ok.mp h
      cases heq
      exact spelt_of_readNumeral hv hread hfront
    rw [if_neg hdigit] at h
    by_cases hquote : b = 34
    · subst hquote
      obtain ⟨⟨s, rest'⟩, hread, heq⟩ := map_eq_ok.mp h
      cases heq
      obtain ⟨hrest, raw, rfl, hspells⟩ := spells_of_readString (hfront.tail (by decide)) hread
      refine ⟨hrest, _, ?_, .string hspells⟩
      simp
    rw [if_neg hquote] at h
    by_cases hbracket : b = 91
    · subst hbracket
      rw [if_pos rfl] at h
      split_ifs at h
      · cases h
      · obtain ⟨⟨items, rest'⟩, hread, heq⟩ := map_eq_ok.mp h
        cases heq
        cases hv with
        | array hv =>
          obtain ⟨hrest, text, rfl, htexts, -⟩ := hitems (hfront.tail (by decide)) hread hv
          refine ⟨hrest, _, ?_, .array htexts⟩
          simp
    rw [if_neg hbracket] at h
    split_ifs at h with hbrace hdeep
    · cases h
    · subst hbrace
      obtain ⟨⟨fields, rest'⟩, hread, heq⟩ := map_eq_ok.mp h
      cases heq
      cases hv with
      | object hv =>
        obtain ⟨hrest, text, rfl, htexts⟩ := hfields (hfront.tail (by decide)) hread hv
        refine ⟨hrest, _, ?_, .object htexts⟩
        simp
    · cases h

/-- An item and those behind it. -/
theorem itemTexts_of_read (hvalues : ValuesSpelt fuel) (hitems : ItemsSpelt fuel)
    {items : List Json} (hvalid : Valid bytes)
    (h : (do
      let (v, rest) ← readValue fuel limit bytes
      let (vs, rest) ← readItems fuel limit false rest
      .ok (v :: vs, rest)) = .ok (items, rest)) (hv : ∀ v ∈ items, v.Integral depth) :
    Valid rest ∧ ∃ text, bytes = text ++ 93 :: rest ∧
      ItemTexts depth (itemsInOrder items) text := by
  obtain ⟨⟨v, behind⟩, hread, h⟩ := bind_eq_ok.mp h
  obtain ⟨⟨vs, rest'⟩, hmore, h⟩ := bind_eq_ok.mp h
  cases h
  obtain ⟨hv, hvs⟩ := List.forall_mem_cons.mp hv
  obtain ⟨hbehind, text, rfl, hspelt⟩ := hvalues hvalid hread hv
  obtain ⟨hrest, text', rfl, htexts, hends⟩ := hitems hbehind hmore hvs
  refine ⟨hrest, text ++ text', by rw [List.append_assoc], ?_⟩
  rw [itemsInOrder]
  exact .cons hspelt (fun _ => hends rfl) htexts

/-- **The items of an array**, if each value is as it should be. -/
theorem itemsSpelt_succ (hvalues : ValuesSpelt fuel) (hitems : ItemsSpelt fuel) :
    ItemsSpelt (fuel + 1) := by
  intro limit depth first bytes rest items hvalid h hv
  rw [readItems] at h
  cases hskip : skipSpace bytes with
  | nil =>
    rw [hskip] at h
    cases h
  | cons b more =>
    obtain ⟨gap, rfl, hgap, hfront⟩ := valid_behind_blanks hvalid hskip
    rw [hskip] at h
    simp only at h
    split_ifs at h with hbracket hfirst hcomma
    · cases h
      subst hbracket
      exact ⟨hfront.tail (by decide), gap, rfl, .nil hgap,
        fun _ => Scanner.endsNumber_append hgap ⟨93, [], rfl, by decide⟩⟩
    · obtain ⟨hrest, text, htext, htexts⟩ := itemTexts_of_read hvalues hitems hfront h hv
      refine ⟨hrest, gap ++ text, by rw [htext, List.append_assoc], htexts.behind hgap, ?_⟩
      intro hno
      rw [hfirst] at hno
      cases hno
    · subst hcomma
      cases hnext : skipSpace more with
      | nil =>
        rw [hnext] at h
        cases h
      | cons c more' =>
        obtain ⟨gap', rfl, hgap', hfront'⟩ :=
          valid_behind_blanks (hfront.tail (by decide)) hnext
        rw [hnext] at h
        simp only at h
        split_ifs at h with hclosed
        · cases h
        · obtain ⟨hrest, text, htext, htexts⟩ := itemTexts_of_read hvalues hitems hfront' h hv
          have hlead : (gap ++ 44 :: gap').all Scanner.isSeparator = true := by
            rw [List.all_append, List.all_cons, hgap, hgap']
            decide
          refine ⟨hrest, (gap ++ 44 :: gap') ++ text, ?_, htexts.behind hlead, fun _ => ?_⟩
          · simp [htext]
          · rw [List.append_assoc, List.append_assoc]
            exact Scanner.endsNumber_append hgap ⟨44, _, rfl, by decide⟩
    · cases h

/-- **The fields of an object**, if each field is as it should be. -/
theorem fieldsSpelt_succ (hfield : FieldSpelt fuel) : FieldsSpelt (fuel + 1) := by
  intro limit depth first bytes rest fields hvalid h hv
  rw [readFields] at h
  cases hskip : skipSpace bytes with
  | nil =>
    rw [hskip] at h
    cases h
  | cons b more =>
    obtain ⟨gap, rfl, hgap, hfront⟩ := valid_behind_blanks hvalid hskip
    rw [hskip] at h
    simp only at h
    split_ifs at h with hbrace hfirst hquote hcomma
    · cases h
      subst hbrace
      exact ⟨hfront.tail (by decide), gap, rfl, .nil hgap⟩
    · subst hquote
      obtain ⟨hrest, text, htext, htexts⟩ := hfield (hfront.tail (by decide)) h hv
      exact ⟨hrest, gap ++ text, by rw [htext, List.append_assoc], htexts.behind hgap⟩
    · cases h
    · subst hcomma
      cases hnext : skipSpace more with
      | nil =>
        rw [hnext] at h
        cases h
      | cons c more' =>
        obtain ⟨gap', rfl, hgap', hfront'⟩ :=
          valid_behind_blanks (hfront.tail (by decide)) hnext
        rw [hnext] at h
        simp only at h
        split_ifs at h with hquote hclosed
        · subst hquote
          obtain ⟨hrest, text, htext, htexts⟩ := hfield (hfront'.tail (by decide)) h hv
          have hlead : (gap ++ 44 :: gap').all Scanner.isSeparator = true := by
            rw [List.all_append, List.all_cons, hgap, hgap']
            decide
          refine ⟨hrest, (gap ++ 44 :: gap') ++ text, ?_, htexts.behind hlead⟩
          simp [htext]
        · cases h
        · cases h
    · cases h

/-- **A field**, if its value and the fields behind it are as they should be. -/
theorem fieldSpelt_succ (hvalues : ValuesSpelt fuel) (hfields : FieldsSpelt fuel) :
    FieldSpelt (fuel + 1) := by
  intro limit depth bytes rest fields hvalid h hv
  rw [readField] at h
  obtain ⟨⟨name, behind⟩, hname, hnext⟩ := bind_eq_ok.mp h
  clear h
  obtain ⟨hbehind, raw, rfl, hspells⟩ := spells_of_readString hvalid hname
  simp only at hnext
  cases hskip : skipSpace behind with
  | nil =>
    rw [hskip] at hnext
    cases hnext
  | cons b more =>
    obtain ⟨gap, rfl, hgap, hfront⟩ := valid_behind_blanks hbehind hskip
    rw [hskip] at hnext
    simp only at hnext
    split_ifs at hnext with hcolon
    · subst hcolon
      obtain ⟨⟨v, behind'⟩, hread, hnext⟩ := bind_eq_ok.mp hnext
      obtain ⟨⟨fs, rest'⟩, hmore, hnext⟩ := bind_eq_ok.mp hnext
      cases hnext
      obtain ⟨hv, hfs⟩ := List.forall_mem_cons.mp hv
      obtain ⟨hbehind', text, rfl, hspelt⟩ := hvalues (hfront.tail (by decide)) hread hv
      obtain ⟨hrest, text', rfl, htexts⟩ := hfields hbehind' hmore hfs
      have hlead : (gap ++ [58]).all Scanner.isSeparator = true := by
        rw [List.all_append, hgap]
        decide
      have hfield : FieldTexts depth ((name, v.inOrder) :: fieldsInOrder fs)
          ([] ++ 34 :: (raw ++ 34 :: (((gap ++ [58]) ++ text) ++ text'))) :=
        .cons rfl hspells (hspelt.behind hlead) htexts
      refine ⟨hrest, _, ?_, hfield⟩
      simp
    · cases hnext

/-- **Whatever the strict reader accepts is the text of what comes out**: values, items and fields
alike, by induction on the fuel. -/
theorem spelt_of_fuel (fuel : Nat) :
    ValuesSpelt fuel ∧ ItemsSpelt fuel ∧ FieldsSpelt fuel ∧ FieldSpelt fuel := by
  induction fuel with
  | zero =>
    -- without fuel nothing is accepted
    refine ⟨?_, ?_, ?_, ?_⟩
    · intro _ _ _ _ _ _ h
      rw [readValue] at h
      cases h
    · intro _ _ _ _ _ _ _ h
      rw [readItems] at h
      cases h
    · intro _ _ _ _ _ _ _ h
      rw [readFields] at h
      cases h
    · intro _ _ _ _ _ _ h
      rw [readField] at h
      cases h
  | succ fuel ih =>
    obtain ⟨hvalues, hitems, hfields, hfield⟩ := ih
    exact ⟨valuesSpelt_succ hitems hfields, itemsSpelt_succ hvalues hitems,
      fieldsSpelt_succ hfield, fieldSpelt_succ hvalues hfields⟩

/-- **A text of which the strict reader makes a value**, blanks around it included, is the text of
the value as the library holds it. -/
theorem spelt_of_readRaw {text : String} (h : readRaw text = .ok v) (hv : v.Integral depth) :
    ∃ body gap, Text.Utf8.bytesOf text = body ++ gap ∧ gap.all Scanner.isSeparator = true ∧
      Spelt depth body v.inOrder := by
  unfold readRaw at h
  simp only at h
  split at h
  · next w hread =>
    cases h
    obtain ⟨⟨w, rest⟩, hvalue, hend⟩ := bind_eq_ok.mp hread
    simp only at hend
    obtain ⟨gap, hrest, hgap, -⟩ := skipSpace_spec rest
    cases hskip : skipSpace rest with
    | nil =>
      rw [hskip] at hend hrest
      cases hend
      obtain ⟨-, body, hbytes, hspelt⟩ :=
        (spelt_of_fuel _).1 (Text.Utf8.valid_bytesOf text) hvalue hv
      rw [List.append_nil] at hrest
      exact ⟨body, rest, hbytes, hrest ▸ hgap, hspelt⟩
    | cons b more =>
      rw [hskip] at hend
      cases hend
  · cases h

end Json

end ExportStream
