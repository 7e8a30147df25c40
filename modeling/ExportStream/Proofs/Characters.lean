import ExportStream.Text.Utf8
import Mathlib.Tactic.SplitIfs
/-!
# Characters and their bytes

A character has one form in UTF-8 (`Text.Utf8.Form`): one to four bytes, of which only the first may
stand first. The encoder writes it and the decoder accepts nothing else, so that a byte string is
decoded exactly if it is the encoding of what comes out (**`Text.Utf8.decode_eq_ok_iff`**), and no
character can begin inside another one (`Text.Utf8.Form.tails`).
-/

namespace ExportStream.Text.Utf8

/-! ### Numbers of bytes and characters -/

theorem toNat_ofNat_of_lt {n : Nat} (h : n < 256) : (UInt8.ofNat n).toNat = n := by
  rw [UInt8.toNat_ofNat']
  omega

theorem valid_toNat (c : Char) :
    c.toNat < 0xD800 ∨ 0xDFFF < c.toNat ∧ c.toNat < 0x110000 := c.valid

theorem toNat_charOf {n : Nat} (h : n < 0xD800 ∨ 0xDFFF < n ∧ n < 0x110000) :
    (charOf n).toNat = n := by
  rw [charOf, Char.ofNat, dif_pos h]
  rfl

theorem charOf_eq {c : Char} {n : Nat} (h : n = c.toNat) : charOf n = c := by
  rw [h, charOf, Char.ofNat_toNat]

/-! ### Classes of bytes -/

theorem isTail_iff {b : UInt8} : isTail b = true ↔ 0x80 ≤ b.toNat ∧ b.toNat ≤ 0xBF := by
  simp [isTail, UInt8.le_iff_toNat_le]

/-- A byte behind the first of three, which excludes long forms and surrogates. -/
theorem second3_iff {a b : UInt8} :
    second3 a b = true ↔ (0x80 ≤ b.toNat ∧ b.toNat ≤ 0xBF) ∧
      (a.toNat = 0xE0 → 0xA0 ≤ b.toNat) ∧ (a.toNat = 0xED → b.toNat ≤ 0x9F) := by
  unfold second3
  split_ifs with h1 h2
  · have hlead : a.toNat = 0xE0 := by rw [h1]; rfl
    simp only [Bool.and_eq_true, decide_eq_true_eq, UInt8.le_iff_toNat_le, UInt8.reduceToNat]
    omega
  · have hlead : a.toNat = 0xED := by rw [h2]; rfl
    simp only [Bool.and_eq_true, decide_eq_true_eq, UInt8.le_iff_toNat_le, UInt8.reduceToNat]
    omega
  · have hfirst : a.toNat ≠ 0xE0 := fun ha => h1 (UInt8.toNat_inj.mp ha)
    have hlast : a.toNat ≠ 0xED := fun ha => h2 (UInt8.toNat_inj.mp ha)
    rw [isTail_iff]
    omega

/-- A byte behind the first of four, which excludes long forms and what is beyond all characters. -/
theorem second4_iff {a b : UInt8} :
    second4 a b = true ↔ (0x80 ≤ b.toNat ∧ b.toNat ≤ 0xBF) ∧
      (a.toNat = 0xF0 → 0x90 ≤ b.toNat) ∧ (a.toNat = 0xF4 → b.toNat ≤ 0x8F) := by
  unfold second4
  split_ifs with h1 h2
  · have hlead : a.toNat = 0xF0 := by rw [h1]; rfl
    simp only [Bool.and_eq_true, decide_eq_true_eq, UInt8.le_iff_toNat_le, UInt8.reduceToNat]
    omega
  · have hlead : a.toNat = 0xF4 := by rw [h2]; rfl
    simp only [Bool.and_eq_true, decide_eq_true_eq, UInt8.le_iff_toNat_le, UInt8.reduceToNat]
    omega
  · have hfirst : a.toNat ≠ 0xF0 := fun ha => h1 (UInt8.toNat_inj.mp ha)
    have hlast : a.toNat ≠ 0xF4 := fun ha => h2 (UInt8.toNat_inj.mp ha)
    rw [isTail_iff]
    omega

/-! ### Forms -/

/-- The form of the character with a number. -/
inductive Form (n : Nat) : List UInt8 → Prop where
  /-- One byte. -/
  | one {a : UInt8} : n < 0x80 → a.toNat = n → Form n [a]
  /-- Two bytes. -/
  | two {a b : UInt8} : 0x80 ≤ n → n < 0x800 →
      a.toNat = 0xC0 + n / 64 → b.toNat = 0x80 + n % 64 → Form n [a, b]
  /-- Three bytes, which no surrogate has. -/
  | three {a b c : UInt8} : 0x800 ≤ n → n < 0x10000 → n < 0xD800 ∨ 0xDFFF < n →
      a.toNat = 0xE0 + n / 4096 → b.toNat = 0x80 + n / 64 % 64 → c.toNat = 0x80 + n % 64 →
      Form n [a, b, c]
  /-- Four bytes. -/
  | four {a b c d : UInt8} : 0x10000 ≤ n → n < 0x110000 →
      a.toNat = 0xF0 + n / 262144 → b.toNat = 0x80 + n / 4096 % 64 →
      c.toNat = 0x80 + n / 64 % 64 → d.toNat = 0x80 + n % 64 → Form n [a, b, c, d]

/-- The encoder writes the form of a character. -/
theorem form_encodeChar (c : Char) : Form c.toNat (encodeChar c) := by
  have hvalid := valid_toNat c
  unfold encodeChar
  simp only
  split_ifs with h1 h2 h3
  · exact .one h1 (toNat_ofNat_of_lt (by omega))
  · exact .two (by omega) h2 (toNat_ofNat_of_lt (by omega)) (toNat_ofNat_of_lt (by omega))
  · exact .three (by omega) h3 (by omega) (toNat_ofNat_of_lt (by omega))
      (toNat_ofNat_of_lt (by omega)) (toNat_ofNat_of_lt (by omega))
  · exact .four (by omega) (by omega) (toNat_ofNat_of_lt (by omega))
      (toNat_ofNat_of_lt (by omega)) (toNat_ofNat_of_lt (by omega))
      (toNat_ofNat_of_lt (by omega))

/-- A character has one form only. -/
theorem Form.eq {n : Nat} {xs ys : List UInt8} (h : Form n xs) (h' : Form n ys) : xs = ys := by
  cases h
  all_goals
    cases h'
    all_goals try omega
    simp only [List.cons.injEq, and_true, ← UInt8.toNat_inj]
    omega

/-- Behind the first byte of a form stand bytes that continue a character, and the first is none of
these. -/
theorem Form.tails {n : Nat} {xs : List UInt8} (h : Form n xs) :
    ∃ a more, xs = a :: more ∧ isTail a = false ∧ ∀ b ∈ more, isTail b = true := by
  have hlead {a : UInt8} (ha : a.toNat < 0x80 ∨ 0xBF < a.toNat) : isTail a = false := by
    rw [← Bool.not_eq_true, isTail_iff]
    omega
  have hcont {m : Nat} {b : UInt8} (hb : b.toNat = 0x80 + m % 64) : isTail b = true :=
    isTail_iff.mpr (by omega)
  cases h with
  | one hn ha => exact ⟨_, _, rfl, hlead (by omega), by simp⟩
  | two hn hn' ha hb => exact ⟨_, _, rfl, hlead (by omega), by simp [hcont hb]⟩
  | three hn hn' hs ha hb hc =>
    exact ⟨_, _, rfl, hlead (by omega), by simp [hcont hb, hcont hc]⟩
  | four hn hn' ha hb hc hd =>
    exact ⟨_, _, rfl, hlead (by omega), by simp [hcont hb, hcont hc, hcont hd]⟩

/-! ### Decoding -/

/-- What a first byte tells of the length of a form. -/
theorem takeChar_eq (a : UInt8) (rest : List UInt8) :
    takeChar a rest =
      if a.toNat < 0x80 then .char (charOf a.toNat) rest
      else if 0xC2 ≤ a.toNat ∧ a.toNat ≤ 0xDF then take2 a rest
      else if 0xE0 ≤ a.toNat ∧ a.toNat ≤ 0xEF then take3 a rest
      else if 0xF0 ≤ a.toNat ∧ a.toNat ≤ 0xF4 then take4 a rest
      else .bad 1 rest := by
  simp only [takeChar, Bool.and_eq_true, decide_eq_true_eq, UInt8.lt_iff_toNat_lt,
    UInt8.le_iff_toNat_le, UInt8.reduceToNat]

/-- The form of a character is taken as the character. -/
theorem Form.takeChar {c : Char} {a : UInt8} {more : List UInt8} (h : Form c.toNat (a :: more))
    (rest : List UInt8) : takeChar a (more ++ rest) = .char c rest := by
  rw [takeChar_eq]
  cases h with
  | one hn ha => rw [if_pos (by omega), charOf_eq ha, List.nil_append]
  | @two a b hn hn' ha hb =>
    have hcode : charOf (a.toNat % 32 * 64 + tailBits b) = c := charOf_eq (by unfold tailBits; omega)
    have htail : isTail b = true := isTail_iff.mpr (by omega)
    rw [if_neg (by omega), if_pos (by omega), List.cons_append, take2, if_pos htail, hcode,
      List.nil_append]
  | @three a b d hn hn' hs ha hb hd =>
    have hcode : charOf (a.toNat % 16 * 4096 + tailBits b * 64 + tailBits d) = c :=
      charOf_eq (by unfold tailBits; omega)
    have hsecond : second3 a b = true := second3_iff.mpr (by omega)
    have htail : isTail d = true := isTail_iff.mpr (by omega)
    rw [if_neg (by omega), if_neg (by omega), if_pos (by omega)]
    simp only [List.cons_append, List.nil_append, take3, hsecond, htail, if_true, hcode]
  | @four a b d e hn hn' ha hb hd he =>
    have hcode : charOf (a.toNat % 8 * 262144 + tailBits b * 4096 + tailBits d * 64 + tailBits e) =
        c := charOf_eq (by unfold tailBits; omega)
    have hsecond : second4 a b = true := second4_iff.mpr (by omega)
    have htail : isTail d = true := isTail_iff.mpr (by omega)
    have htail' : isTail e = true := isTail_iff.mpr (by omega)
    rw [if_neg (by omega), if_neg (by omega), if_neg (by omega), if_pos (by omega)]
    simp only [List.cons_append, List.nil_append, take4, hsecond, htail, htail', if_true, hcode]

/-- What is taken as a character is the form of it. -/
theorem form_of_takeChar {a : UInt8} {rest rest' : List UInt8} {c : Char}
    (h : takeChar a rest = .char c rest') :
    ∃ more, rest = more ++ rest' ∧ Form c.toNat (a :: more) := by
  rw [takeChar_eq] at h
  split_ifs at h with h1 h2 h3 h4
  · cases h
    rw [toNat_charOf (by omega)]
    exact ⟨[], rfl, .one h1 rfl⟩
  · unfold take2 at h
    split at h
    · cases h
    · next b rest =>
      split_ifs at h with hb
      cases h
      rw [isTail_iff] at hb
      refine ⟨[b], rfl, ?_⟩
      unfold tailBits
      rw [toNat_charOf (by omega)]
      exact .two (by omega) (by omega) (by omega) (by omega)
  · unfold take3 at h
    split at h
    · cases h
    · next b rest =>
      split_ifs at h with hb
      split at h
      · cases h
      · next d rest =>
        split_ifs at h with hd
        cases h
        rw [second3_iff] at hb
        rw [isTail_iff] at hd
        refine ⟨[b, d], rfl, ?_⟩
        unfold tailBits
        rw [toNat_charOf (by omega)]
        exact .three (by omega) (by omega) (by omega) (by omega) (by omega) (by omega)
  · unfold take4 at h
    split at h
    · cases h
    · next b rest =>
      split_ifs at h with hb
      split at h
      · cases h
      · next d rest =>
        split_ifs at h with hd
        split at h
        · cases h
        · next e rest =>
          split_ifs at h with he
          cases h
          rw [second4_iff] at hb
          rw [isTail_iff] at hd he
          refine ⟨[b, d, e], rfl, ?_⟩
          unfold tailBits
          rw [toNat_charOf (by omega)]
          exact .four (by omega) (by omega) (by omega) (by omega) (by omega) (by omega)

theorem encodeChar_eq_cons (c : Char) : ∃ a more, encodeChar c = a :: more ∧
    isTail a = false ∧ ∀ b ∈ more, isTail b = true :=
  (form_encodeChar c).tails

/-- **A character is taken off some bytes exactly if its encoding stands in front.** -/
theorem takeChar_eq_char_iff {a : UInt8} {rest rest' : List UInt8} {c : Char} :
    takeChar a rest = .char c rest' ↔ a :: rest = encodeChar c ++ rest' := by
  constructor
  · intro h
    obtain ⟨more, rfl, hform⟩ := form_of_takeChar h
    rw [(form_encodeChar c).eq hform, List.cons_append]
  · intro h
    obtain ⟨b, more, hchar, -⟩ := encodeChar_eq_cons c
    have hform := form_encodeChar c
    rw [hchar] at h hform
    obtain ⟨rfl, rfl⟩ := List.cons.inj h
    exact hform.takeChar rest'

/-- Of two encodings in front of some bytes neither goes on where the other ends. -/
theorem encodeChar_append_inj {c d : Char} {xs ys : List UInt8}
    (h : encodeChar c ++ xs = encodeChar d ++ ys) : c = d ∧ xs = ys := by
  obtain ⟨a, more, hchar, -⟩ := encodeChar_eq_cons c
  have hfront : a :: (more ++ xs) = encodeChar c ++ xs := by rw [hchar, List.cons_append]
  have htake := takeChar_eq_char_iff.mpr hfront
  rw [takeChar_eq_char_iff.mpr (hfront.trans h)] at htake
  cases htake
  exact ⟨rfl, rfl⟩

theorem encode_nil : encode [] = [] := rfl

theorem encode_cons (c : Char) (cs : List Char) : encode (c :: cs) = encodeChar c ++ encode cs := rfl

theorem encode_append (cs ds : List Char) : encode (cs ++ ds) = encode cs ++ encode ds :=
  List.flatMap_append

theorem decodeFrom_encode (offset : Nat) (cs : List Char) :
    decodeFrom offset (encode cs) = .ok cs := by
  induction cs generalizing offset with
  | nil => rw [encode_nil, decodeFrom]
  | cons c cs ih =>
    obtain ⟨a, more, hchar, -⟩ := encodeChar_eq_cons c
    have htake : takeChar a (more ++ encode cs) = .char c (encode cs) :=
      takeChar_eq_char_iff.mpr (by rw [hchar, List.cons_append])
    rw [encode_cons, hchar, List.cons_append, decodeFrom]
    split
    · next d rest hd =>
      rw [htake] at hd
      cases hd
      rw [ih]
      rfl
    · next n rest hd =>
      rw [htake] at hd
      cases hd
    · next n hd =>
      rw [htake] at hd
      cases hd

theorem eq_encode_of_decodeFrom {offset : Nat} {bytes : List UInt8} {cs : List Char}
    (h : decodeFrom offset bytes = .ok cs) : bytes = encode cs := by
  fun_induction decodeFrom offset bytes generalizing cs with
  | case1 =>
    cases h
    rfl
  | case2 offset a rest c rest' htake ih =>
    obtain ⟨ds, hds, rfl⟩ : ∃ ds, decodeFrom (offset + c.utf8Size) rest' = .ok ds ∧ c :: ds = cs := by
      rcases hrest : decodeFrom (offset + c.utf8Size) rest' with f | ds
      · rw [hrest] at h
        cases h
      · rw [hrest] at h
        cases h
        exact ⟨ds, rfl, rfl⟩
    rw [takeChar_eq_char_iff.mp htake, ih hds, encode_cons]
  | case3 => cases h
  | case4 => cases h

/-- **Bytes are decoded exactly if they are the encoding of what comes out.** -/
theorem decode_eq_ok_iff {bytes : List UInt8} {cs : List Char} :
    decode bytes = .ok cs ↔ bytes = encode cs := by
  constructor
  · exact eq_encode_of_decodeFrom
  · rintro rfl
    exact decodeFrom_encode 0 cs

/-- Bytes are a text exactly if they are the bytes of it. -/
theorem text?_eq_some_iff {bytes : List UInt8} {s : String} :
    text? bytes = some s ↔ bytes = bytesOf s := by
  unfold text? bytesOf
  rcases hdecode : decode bytes with f | cs
  · simp only [reduceCtorEq, false_iff]
    intro hbytes
    rw [decode_eq_ok_iff.mpr hbytes] at hdecode
    cases hdecode
  · have hbytes := decode_eq_ok_iff.mp hdecode
    simp only [Option.some.injEq]
    constructor
    · rintro rfl
      rw [String.toList_ofList]
      exact hbytes
    · intro hs
      rw [decode_eq_ok_iff.mpr hs] at hdecode
      cases hdecode
      exact String.ofList_toList

/-- A text is read back from its bytes. -/
theorem text?_bytesOf (s : String) : text? (bytesOf s) = some s := text?_eq_some_iff.mpr rfl

/-! ### Forgiving reading -/

/-- Where nothing is bad there is nothing to forgive. -/
theorem decodeLossy_encode (cs : List Char) : decodeLossy (encode cs) = cs := by
  induction cs with
  | nil => rw [encode_nil, decodeLossy]
  | cons c cs ih =>
    obtain ⟨a, more, hchar, -⟩ := encodeChar_eq_cons c
    have htake : takeChar a (more ++ encode cs) = .char c (encode cs) :=
      takeChar_eq_char_iff.mpr (by rw [hchar, List.cons_append])
    rw [encode_cons, hchar, List.cons_append, decodeLossy]
    split
    · next d rest hd =>
      rw [htake] at hd
      cases hd
      rw [ih]
    · next n rest hd =>
      rw [htake] at hd
      cases hd
    · next n hd =>
      rw [htake] at hd
      cases hd

theorem lossy_encode (cs : List Char) : lossy (encode cs) = String.ofList cs := by
  rw [lossy, decodeLossy_encode]

/-- The bytes of a text are read as the text. -/
theorem lossy_bytesOf (s : String) : lossy (bytesOf s) = s := by
  rw [bytesOf, lossy_encode, String.ofList_toList]

end ExportStream.Text.Utf8
