import ExportStream.Proofs.Writing
import Mathlib.Data.List.TakeWhile
/-!
# Integers as they may be written

An integer is written as digits behind a minus or none, with as many zeros in front as one likes
(`Decimal.IntegerText`). The scanner makes an integer token of such a text if the integer fits in 64
bits with a sign, and the nearest double of any other one, unless that would be infinite: whatever
the text, the value of an integer token is the integer that is written.
-/

namespace ExportStream

open Scanner (numberToken)

namespace Decimal

/-- The text writes the integer. -/
inductive IntegerText : Int → List UInt8 → Prop where
  /-- Digits. -/
  | digits {ds : List UInt8} : ds ≠ [] → ds.all Text.isDigit = true →
      IntegerText (digitsValue ds) ds
  /-- Digits behind a minus. -/
  | minus {ds : List UInt8} : ds ≠ [] → ds.all Text.isDigit = true →
      IntegerText (-(digitsValue ds : Int)) (45 :: ds)

variable {i : Int} {text ds : List UInt8}

theorem fit64_eq_some (h : Fits64 i) : fit64 i = some i := if_pos h

theorem fit64_eq_none (h : ¬Fits64 i) : fit64 i = none := if_neg h

theorem digits?_eq_some (hne : ds ≠ []) (hds : ds.all Text.isDigit = true) :
    digits? ds = some (digitsValue ds) := if_pos ⟨hne, hds⟩

theorem splitSign_digit {b : UInt8} (h : Text.isDigit b = true) (rest : List UInt8) :
    splitSign (b :: rest) = (false, b :: rest) := by
  unfold splitSign
  split
  · next heq =>
    cases heq
    cases h
  · next heq =>
    cases heq
    cases h
  · rfl

theorem int64?_of_splitSign {text ds : List UInt8} {negative : Bool}
    (h : splitSign text = (negative, ds)) :
    int64? text = (digits? ds).bind fun n => fit64 (if negative then -n else n) := by
  unfold int64?
  rw [h]

theorem splitSign_digits (hne : ds ≠ []) (hds : ds.all Text.isDigit = true) :
    splitSign ds = (false, ds) := by
  obtain ⟨b, rest, rfl⟩ := List.exists_cons_of_ne_nil hne
  rw [List.all_cons, Bool.and_eq_true] at hds
  exact splitSign_digit hds.1 rest

/-- The text is read as the integer, if this fits. -/
theorem IntegerText.int64?_eq (h : IntegerText i text) : int64? text = fit64 i := by
  cases h with
  | digits hne hds =>
    rw [int64?_of_splitSign (splitSign_digits hne hds), digits?_eq_some hne hds, Option.bind_some,
      if_neg Bool.false_ne_true]
  | @minus ds hne hds =>
    have hsign : splitSign (45 :: ds) = (true, ds) := rfl
    rw [int64?_of_splitSign hsign, digits?_eq_some hne hds, Option.bind_some, if_pos rfl]

/-- As a decimal it has no fraction and no power of ten. -/
theorem IntegerText.literal?_eq (h : IntegerText i text) :
    ∃ negative, literal? text = some { negative, digits := i.natAbs, power := 0 } := by
  have hdigits {ds : List UInt8} (hne : ds ≠ []) (hds : ds.all Text.isDigit = true) :
      ds.takeWhile Text.isDigit = ds ∧ ds.isEmpty = false :=
    ⟨List.takeWhile_eq_self_iff.mpr (List.all_eq_true.mp hds), by simpa using hne⟩
  cases h with
  | @digits ds hne hds =>
    obtain ⟨hwhole, hempty⟩ := hdigits hne hds
    refine ⟨false, ?_⟩
    unfold literal?
    rw [splitSign_digits hne hds]
    simp [hwhole, hempty]
  | @minus ds hne hds =>
    obtain ⟨hwhole, hempty⟩ := hdigits hne hds
    refine ⟨true, ?_⟩
    unfold literal? splitSign
    simp [hwhole, hempty]

/-- What an integer is printed as writes it. -/
theorem integerText_toString (i : Int) : IntegerText i (Text.Utf8.bytesOf (toString i)) := by
  have hvalue {j : Int} (hj : 0 ≤ j) : (digitsValue (digitBytes j.toNat) : Int) = j := by
    rw [digitsValue_digitBytes, Int.toNat_of_nonneg hj]
  rw [bytesOf_toString]
  split_ifs with hi
  · have hdigits := IntegerText.digits (digitBytes_ne_nil i.toNat) (all_isDigit_digitBytes i.toNat)
    rwa [hvalue hi] at hdigits
  · have hminus := IntegerText.minus (digitBytes_ne_nil (-i).toNat)
      (all_isDigit_digitBytes (-i).toNat)
    rwa [hvalue (by omega), Int.neg_neg] at hminus

/-! ### Bytes -/

/-- Every byte is a minus or a digit, and there is one. -/
theorem IntegerText.bytes (h : IntegerText i text) :
    text ≠ [] ∧ ∀ b ∈ text, b = 45 ∨ Text.isDigit b = true := by
  cases h with
  | digits hne hds => exact ⟨hne, fun b hb => .inr (List.all_eq_true.mp hds b hb)⟩
  | minus hne hds =>
    refine ⟨List.cons_ne_nil _ _, List.forall_mem_cons.mpr ⟨.inl rfl, fun b hb => .inr ?_⟩⟩
    exact List.all_eq_true.mp hds b hb

theorem toNat_of_minus_or_digit {b : UInt8} (h : b = 45 ∨ Text.isDigit b = true) :
    b.toNat = 45 ∨ 48 ≤ b.toNat ∧ b.toNat ≤ 57 := by
  rcases h with rfl | h
  · exact .inl rfl
  · simp only [Text.isDigit, Bool.and_eq_true, decide_eq_true_eq, UInt8.le_iff_toNat_le,
      UInt8.reduceToNat] at h
    exact .inr h

/-- All bytes are ASCII. -/
theorem IntegerText.ascii (h : IntegerText i text) : ∀ b ∈ text, b.toNat < 128 := by
  intro b hb
  have := toNat_of_minus_or_digit (h.bytes.2 b hb)
  omega

/-- There is neither a point nor an exponent. -/
theorem IntegerText.plain (h : IntegerText i text) :
    text.all (fun b => b ≠ 46 ∧ b ≠ 101 ∧ b ≠ 69) = true := by
  refine List.all_eq_true.mpr fun b hb => ?_
  have hnumber := toNat_of_minus_or_digit (h.bytes.2 b hb)
  simp only [decide_eq_true_eq]
  refine ⟨?_, ?_, ?_⟩
  all_goals
    rintro rfl
    revert hnumber
    decide

end Decimal

/-! ### Tokens -/

namespace Token

variable {i : Int} {text : List UInt8} {t : Token}

/-- The text of an integer spells the token that the scanner makes of it. -/
theorem spells_of_numberToken (h : Decimal.IntegerText i text) (ht : numberToken text = .ok t) :
    t.Spells text := by
  obtain ⟨hne, hbytes⟩ := h.bytes
  obtain ⟨b, body, rfl⟩ := List.exists_cons_of_ne_nil hne
  obtain ⟨hb, hbody⟩ := List.forall_mem_cons.mp hbytes
  refine .number hb (List.all_eq_true.mpr fun c hc => ?_) ht
  rcases hbody c hc with rfl | hdigit
  · decide
  · simp [Scanner.isNumberByte, hdigit]

/-- The text of an integer that fits spells the integer. -/
theorem spells_integerText (h : Decimal.IntegerText i text) (hi : Decimal.Fits64 i) :
    (Token.integer i).Spells text := by
  have hread := h.int64?_eq
  rw [Decimal.fit64_eq_some hi] at hread
  refine spells_of_numberToken h ?_
  unfold numberToken
  simp only [h.plain, hread, if_true]

/-- An integer that fits is spelled by what it is printed as. -/
theorem spells_int (hi : Decimal.Fits64 i) :
    (Token.integer i).Spells (Text.Utf8.bytesOf (toString i)) :=
  spells_integerText (Decimal.integerText_toString i) hi

/-- The text of one that does not fit spells the nearest double. -/
theorem spells_integerText_real (h : Decimal.IntegerText i text) (hi : ¬Decimal.Fits64 i)
    {x : Binary64} (hx : Decimal.real? text = some x) : (Token.real x).Spells text := by
  have hread := h.int64?_eq
  rw [Decimal.fit64_eq_none hi] at hread
  refine spells_of_numberToken h ?_
  unfold numberToken
  simp only [h.plain, hread, if_true, hx]

end Token

end ExportStream
