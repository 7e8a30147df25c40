import ExportStream.Kind
import ExportStream.Proofs.Characters
import ExportStream.Proofs.Spelling
/-!
# Labels and builds as they are written

An export writes its labels between quotes and the number of its build in base ten. Both are ASCII,
so that every character is one byte (`Text.Utf8.encode_ascii`); a label holds letters only, and so
needs no escapes (`Token.spells_letters`), and an integer is a minus or none and digits
(`Decimal.bytesOf_toString`).
-/

namespace ExportStream

/-! ### ASCII -/

namespace Text.Utf8

theorem encodeChar_ascii {c : Char} (h : c.toNat < 128) : encodeChar c = [UInt8.ofNat c.toNat] := by
  unfold encodeChar
  simp only
  rw [if_pos h]

theorem encode_ascii {cs : List Char} (h : ∀ c ∈ cs, c.toNat < 128) :
    encode cs = cs.map fun c => UInt8.ofNat c.toNat := by
  induction cs with
  | nil => rfl
  | cons c cs ih =>
    have htail := ih fun d hd => h d (List.mem_cons_of_mem _ hd)
    rw [encode, List.flatMap_cons, encodeChar_ascii (h c (List.mem_cons_self ..))]
    exact congrArg (UInt8.ofNat c.toNat :: ·) htail

/-- ASCII bytes are the bytes of the characters with their numbers. -/
theorem text?_ascii {bytes : List UInt8} (h : ∀ b ∈ bytes, b.toNat < 128) :
    text? bytes = some (String.ofList (bytes.map fun b => charOf b.toNat)) := by
  have hnumber {b : UInt8} (hb : b ∈ bytes) : (charOf b.toNat).toNat = b.toNat := by
    have hlt := h b hb
    exact toNat_charOf (by omega)
  have hbytes : bytes.map (fun b => UInt8.ofNat (charOf b.toNat).toNat) = bytes := by
    refine (List.map_congr_left fun b hb => ?_).trans (List.map_id bytes)
    rw [hnumber hb, UInt8.ofNat_toNat]
    rfl
  rw [text?_eq_some_iff, bytesOf, String.toList_ofList, encode_ascii, List.map_map]
  · exact hbytes.symm
  · intro c hc
    obtain ⟨b, hb, rfl⟩ := List.mem_map.mp hc
    rw [hnumber hb]
    exact h b hb

end Text.Utf8

/-! ### Texts without escapes -/

theorem Escape.expand_plain {raw : List UInt8} (h : ∀ b ∈ raw, b ≠ 92) : expand raw = .ok raw := by
  induction raw with
  | nil => rw [expand]
  | cons b raw ih =>
    have htail := ih fun c hc => h c (List.mem_cons_of_mem _ hc)
    rw [expand.eq_def]
    simp only [if_neg (h b (List.mem_cons_self ..)), htail]
    rfl

theorem Scanner.isQuotable_plain {raw : List UInt8} (h : ∀ b ∈ raw, b ≠ 34 ∧ b ≠ 92) :
    isQuotable false raw = true := by
  induction raw with
  | nil => rfl
  | cons b raw ih =>
    obtain ⟨hq, hs⟩ := h b (List.mem_cons_self ..)
    have htail := ih fun c hc => h c (List.mem_cons_of_mem _ hc)
    have hb : (b == 92) = false := by simp [hs]
    simp [isQuotable, hq, hb, htail]

namespace Token

theorem toNat_of_isAlpha {c : Char} (h : c.isAlpha = true) :
    65 ≤ c.toNat ∧ c.toNat ≤ 90 ∨ 97 ≤ c.toNat ∧ c.toNat ≤ 122 := by
  rcases Bool.or_eq_true_iff.mp h with hupper | hlower
  · have hrange : 65 ≤ c.val ∧ c.val ≤ 90 := of_decide_eq_true hupper
    simp only [UInt32.le_iff_toNat_le] at hrange
    exact .inl hrange
  · obtain ⟨hmin, hmax⟩ := Bool.and_eq_true_iff.mp hlower
    have hrange : 97 ≤ c.val ∧ c.val ≤ 122 := ⟨of_decide_eq_true hmin, of_decide_eq_true hmax⟩
    simp only [UInt32.le_iff_toNat_le] at hrange
    exact .inr hrange

/-- Letters between quotes spell their text. -/
theorem spells_letters {label : String} (h : ∀ c ∈ label.toList, c.isAlpha = true) :
    (Token.string label).Spells (34 :: (Text.Utf8.bytesOf label ++ [34])) := by
  have hascii : ∀ c ∈ label.toList, c.toNat < 128 := by
    intro c hc
    have := toNat_of_isAlpha (h c hc)
    omega
  have hplain : ∀ b ∈ Text.Utf8.bytesOf label, b ≠ 34 ∧ b ≠ 92 := by
    intro b hb
    rw [Text.Utf8.bytesOf, Text.Utf8.encode_ascii hascii] at hb
    obtain ⟨c, hc, rfl⟩ := List.mem_map.mp hb
    have hletter := toNat_of_isAlpha (h c hc)
    have hn : (UInt8.ofNat c.toNat).toNat = c.toNat := by
      rw [UInt8.toNat_ofNat']
      omega
    constructor
    · intro he
      rw [he] at hn
      simp at hn
      omega
    · intro he
      rw [he] at hn
      simp at hn
      omega
  refine .string (Scanner.isQuotable_plain hplain) ?_
  unfold Escape.decode
  rw [Escape.expand_plain fun b hb => (hplain b hb).2]
  simp only [bind, Except.bind, Text.Utf8.text?_bytesOf label]

end Token

/-! ### Labels -/

namespace Label

theorem isAlpha_of_lowerChar {c : Char} (h : (Text.lowerChar c).isAlpha = true) :
    c.isAlpha = true := by
  unfold Text.lowerChar Char.toLower at h
  split at h
  · next hupper =>
    have hletter : c.isUpper = true := decide_eq_true hupper
    exact Bool.or_eq_true_iff.mpr (.inl hletter)
  · exact h

/-- A label in any case holds letters only if it does so in lower case. -/
theorem isAlpha_of_lower {label : String}
    (h : ∀ c ∈ (Text.lower label).toList, c.isAlpha = true) :
    ∀ c ∈ label.toList, c.isAlpha = true := by
  intro c hc
  refine isAlpha_of_lowerChar (h _ ?_)
  rw [Text.lower, String.toList_ofList]
  exact List.mem_map_of_mem hc

theorem isAlpha_of_mem_kinds {label : String} {k : Kind} (h : (Text.lower label, k) ∈ kinds) :
    ∀ c ∈ label.toList, c.isAlpha = true := by
  have hall : kinds.all (fun p => p.1.toList.all Char.isAlpha) = true := by decide +kernel
  have hletters := List.all_eq_true.mp hall (Text.lower label, k) h
  exact isAlpha_of_lower (List.all_eq_true.mp hletters)

theorem isAlpha_of_mem_retired {label : String} (h : Text.lower label ∈ retiredSections) :
    ∀ c ∈ label.toList, c.isAlpha = true := by
  have hall : retiredSections.all (fun p => p.toList.all Char.isAlpha) = true := by
    decide +kernel
  have hletters := List.all_eq_true.mp hall (Text.lower label) h
  exact isAlpha_of_lower (List.all_eq_true.mp hletters)

/-- Every label of a kind announces it, in any case of its letters. -/
theorem resolve_of_mem_kinds {label : String} {k : Kind} (h : (Text.lower label, k) ∈ kinds) :
    resolve label = .kind k := by
  have hall : ∀ p ∈ kinds, p.1 ≠ "buildversion" ∧ kinds.lookup p.1 = some p.2 := by
    decide +kernel
  obtain ⟨hb, hk⟩ := hall _ h
  unfold resolve
  simp only at hb hk ⊢
  rw [if_neg hb, hk]

/-- The labels of retired sections announce nothing that is read, in any case of their letters. -/
theorem resolve_of_mem_retired {label : String} (h : Text.lower label ∈ retiredSections) :
    resolve label = .retired := by
  have hall : ∀ p ∈ retiredSections, p ≠ "buildversion" ∧ kinds.lookup p = none := by decide
  obtain ⟨hb, hk⟩ := hall _ h
  unfold resolve
  simp only
  rw [if_neg hb, hk]
  simp only [h, if_true]

end Label

/-! ### Builds -/

namespace Decimal

/-- The bytes of digits. -/
def digitBytes (n : Nat) : List UInt8 := (Nat.toDigits 10 n).map fun c => UInt8.ofNat c.toNat

theorem toNat_of_isDigit {c : Char} (h : c.isDigit = true) : 48 ≤ c.toNat ∧ c.toNat ≤ 57 := by
  simp only [Char.isDigit, Bool.and_eq_true, decide_eq_true_eq, ge_iff_le,
    UInt32.le_iff_toNat_le] at h
  exact h

theorem digit_of_mem {n : Nat} {c : Char} (hc : c ∈ Nat.toDigits 10 n) :
    48 ≤ c.toNat ∧ c.toNat ≤ 57 :=
  toNat_of_isDigit (Nat.isDigit_of_mem_toDigits (by decide) (by decide) hc)

theorem bytesOf_repr (n : Nat) : Text.Utf8.bytesOf n.repr = digitBytes n := by
  rw [Text.Utf8.bytesOf, Nat.toList_repr, Text.Utf8.encode_ascii]
  · rfl
  · intro c hc
    have := digit_of_mem hc
    omega

theorem all_isDigit_digitBytes (n : Nat) : (digitBytes n).all Text.isDigit = true := by
  rw [List.all_eq_true]
  intro b hb
  obtain ⟨c, hc, rfl⟩ := List.mem_map.mp hb
  have hdigit := digit_of_mem hc
  have hn : (UInt8.ofNat c.toNat).toNat = c.toNat := by
    rw [UInt8.toNat_ofNat']
    omega
  simp only [Text.isDigit, Bool.and_eq_true, decide_eq_true_eq, UInt8.le_iff_toNat_le, hn]
  exact hdigit

theorem digitBytes_ne_nil (n : Nat) : digitBytes n ≠ [] := by
  unfold digitBytes
  simp [Nat.toDigits_ne_nil]

theorem digitsValue_digitBytes (n : Nat) : digitsValue (digitBytes n) = n := by
  have hfold (cs : List Char) (hcs : ∀ c ∈ cs, 48 ≤ c.toNat ∧ c.toNat ≤ 57) (m : Nat) :
      (cs.map fun c => UInt8.ofNat c.toNat).foldl (fun n d => n * 10 + (d.toNat - 48)) m =
        Nat.ofDigitChars 10 cs m := by
    induction cs generalizing m with
    | nil => rfl
    | cons c cs ih =>
      have hdigit := hcs c (List.mem_cons_self ..)
      have hn : (UInt8.ofNat c.toNat).toNat = c.toNat := by
        rw [UInt8.toNat_ofNat']
        omega
      rw [List.map_cons, List.foldl_cons, ih fun d hd => hcs d (List.mem_cons_of_mem _ hd),
        Nat.ofDigitChars_cons, hn, Nat.mul_comm]
      rfl
  have hdigits := hfold (Nat.toDigits 10 n) (fun c hc => digit_of_mem hc) 0
  rw [Nat.ofDigitChars_ten_toDigits] at hdigits
  exact hdigits

/-- Does an integer fit in 64 bits with a sign? -/
def Fits64 (n : Int) : Prop := -0x8000000000000000 ≤ n ∧ n < 0x8000000000000000

/-- The bytes of an integer: a minus if it is negative, and digits. -/
theorem bytesOf_toString (n : Int) :
    Text.Utf8.bytesOf (toString n) =
      if 0 ≤ n then digitBytes n.toNat else 45 :: digitBytes (-n).toNat := by
  rw [Int.toString_eq_repr, Int.repr_eq_if]
  split_ifs
  · exact bytesOf_repr _
  · rw [← bytesOf_repr, Text.Utf8.bytesOf, String.toList_append, Text.Utf8.encode,
      List.flatMap_append]
    rfl

end Decimal

end ExportStream
