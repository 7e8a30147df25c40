import ExportStream.Proofs.DocumentFrames
import ExportStream.Proofs.ElementTexts
import ExportStream.Proofs.IntegerTexts
import ExportStream.Proofs.NearestDoubles
import ExportStream.Proofs.Rejections
/-!
# Numbers of identities

The value of an identity is an integer of 64 bits, which is written as a number or as a text. A
number is read by the scanner, which makes a double of an integer that does not fit; a text is read
by itself, without the blanks around it. Whichever way an integer is written, with zeros in front or
without, its identity is handed out with the integer itself, or rejected if the integer does not
fit; no value is a rounded or a shortened one (**`Reader.pull_integer`**).

The integer is below `10 ^ 308`. A larger one may have no nearest double; as a number it is then no
token at all, which is the end of the import.
-/

namespace ExportStream

open Decimal (IntegerText Fits64)

/-! ### Integers between quotes -/

theorem Text.trimmed_eq_self {cs : List Char} (h : ∀ c ∈ cs, isBlank c = false) :
    trimmed cs = cs := by
  have hfront {ds : List Char} (hds : ∀ c ∈ ds, isBlank c = false) : trimFront ds = ds := by
    cases ds with
    | nil => rfl
    | cons d ds => exact List.dropWhile_cons_of_neg (by simp [hds d])
  have hreverse : ∀ c ∈ cs.reverse, isBlank c = false := fun c hc => h c (List.mem_reverse.mp hc)
  rw [trimmed, hfront h, hfront hreverse, List.reverse_reverse]

variable {i : Int} {literal : List UInt8} {depth : Nat}

/-- An integer is a text of characters that need no escape and are not blank. -/
theorem Decimal.IntegerText.text (h : IntegerText i literal) :
    ∃ s : String, Text.Utf8.bytesOf s = literal ∧
      ∀ c ∈ s.toList, Escape.Unquoted c ∧ Text.isBlank c = false := by
  refine ⟨_, (Text.Utf8.text?_eq_some_iff.mp (Text.Utf8.text?_ascii h.ascii)).symm, ?_⟩
  intro c hc
  rw [String.toList_ofList, List.mem_map] at hc
  obtain ⟨b, hb, rfl⟩ := hc
  have hnumber := toNat_of_minus_or_digit (h.bytes.2 b hb)
  have hchar := Text.Utf8.toNat_charOf (n := b.toNat) (by omega)
  rw [← hchar] at hnumber
  generalize Text.Utf8.charOf b.toNat = c at hnumber
  refine ⟨⟨?_, ?_⟩, ?_⟩
  · rintro rfl
    revert hnumber
    decide
  · rintro rfl
    revert hnumber
    decide
  · simp only [Text.isBlank, Bool.or_eq_false_iff, Bool.and_eq_false_iff, decide_eq_false_iff_not,
      beq_eq_false_iff_ne]
    omega

namespace Identity

/-- The value of an identity that writes an integer: the integer, if it fits. -/
def valueFor (i : Int) : Except RecordFault Int :=
  match Decimal.fit64 i with
  | some i => .ok i
  | none => .error (.invalid "Value" "expected a 64-bit integer")

/-- As the value of an identity, `v` stands for the integer. -/
def StandsFor (v : Json) (i : Int) : Prop :=
  ∀ fields, Fields.find? "Value" fields = some v → valueOf fields = valueFor i

/-- An integer as a number. -/
theorem spelt_number (depth : Nat) (h : IntegerText i literal) (hi : i.natAbs < 10 ^ 308) :
    ∃ v, Json.Spelt depth literal v ∧ StandsFor v i := by
  by_cases hfits : Fits64 i
  · refine ⟨.number (.integer i), ?_, ?_⟩
    · exact .of_spells (.integer depth i) (Token.spells_integerText h hfits) fun _ => ⟨_, rfl⟩
    · intro fields hvalue
      rw [valueOf, hvalue]
      rfl
  · obtain ⟨negative, hliteral⟩ := h.literal?_eq
    have hbound : 10 ^ 308 < 2 ^ 1024 - 2 ^ 970 := by decide +kernel
    obtain ⟨x, hx⟩ := Binary64.ofDecimal_integer negative (Nat.lt_trans hi hbound)
    have hreal : Decimal.real? literal = some x := by
      rw [Decimal.real?, hliteral]
      exact hx
    refine ⟨.number (.real x), ?_, ?_⟩
    · exact .of_spells (.real depth x) (Token.spells_integerText_real h hfits hreal)
        fun _ => ⟨_, rfl⟩
    · intro fields hvalue
      rw [valueOf, hvalue, valueFor, Decimal.fit64_eq_none hfits]
      rfl

/-- An integer as a text. -/
theorem spelt_quoted (depth : Nat) (h : IntegerText i literal) :
    ∃ v, Json.Spelt depth (34 :: (literal ++ [34])) v ∧ StandsFor v i := by
  obtain ⟨s, rfl, hs⟩ := h.text
  refine ⟨.string s, .string (.plain fun c hc => (hs c hc).1), ?_⟩
  intro fields hvalue
  have hread : textValue? s = Decimal.fit64 i := by
    rw [textValue?, Text.trimmed_eq_self fun c hc => (hs c hc).2]
    exact h.int64?_eq
  cases hfit : Decimal.fit64 i with
  | none => simp only [valueOf, hvalue, hread, valueFor, hfit]
  | some j => simp only [valueOf, hvalue, hread, valueFor, hfit]

variable {fields : Fields} {key : String} {v : Json}

theorem parse_eq (hkey : Fields.find? "Key" fields = some (.string key))
    (hvalue : Fields.find? "Value" fields = some v) (hv : StandsFor v i) :
    parse (.object fields) = (valueFor i).map fun i => { key, value := i } := by
  unfold parse Json.element
  simp only [Fields.dueText_eq_ok.mpr hkey, hv fields hvalue, bind, Except.bind]
  cases valueFor i <;> rfl

end Identity

namespace Reader

/-- What becomes of the element at `s` of an identity that writes an integer; the session behind it
is `u`. -/
inductive Settles (g : Staging) (key : String) (i : Int) (s u : Session) : Prop where
  /-- The integer fits, and the identity is handed out with it and counted. -/
  | handedOut (fits : Fits64 i)
      (pull_eq : pull g .identities .identities s =
        (.ok (some (.identity { key, value := i })), g, u))
      (tally_eq : u.tally = s.tally.modify .identities .addRead)
  /-- The integer does not fit, and the element is rejected with a warning that shows it. -/
  | rejected (exceeds : ¬Fits64 i) (shown : String)
      (pull_eq : pull g .identities .identities s = pull g .identities .identities u)
      (rejects : s.tally.Rejects .identities [Session.rejectionWarning .identities
        (.invalid "Value" "expected a 64-bit integer") shown] u.tally)

variable {g : Staging} {s t : Session} {p : Session.Stage} {rest : List UInt8} {key : String}

/-- An element with a key and a value that stands for an integer is settled by the integer alone. -/
theorem settles_of_standsFor {fields : Fields} {v : Json}
    (hn : s.nextElement = (.ok (some (.object fields)), t)) (ht : t.Stands p rest)
    (hkey : Fields.find? "Key" fields = some (.string key))
    (hvalue : Fields.find? "Value" fields = some v) (hv : Identity.StandsFor v i) :
    ∃ u, Settles g key i s u ∧ u.Stands p rest := by
  have hparse := Identity.parse_eq hkey hvalue hv
  have htally : t.tally = s.tally := by rw [Session.frame_nextElement hn]
  by_cases hfits : Fits64 i
  · have hdecode : g.decode .identities .identities (.object fields) t =
        (.ok (.record (.identity { key, value := i })), g, t) := by
      unfold Staging.decode
      rw [hparse, Identity.valueFor, Decimal.fit64_eq_some hfits]
      rfl
    refine ⟨_, .handedOut hfits (pull_of_decode hn hdecode) ?_, ht.settle .identities (.record _)⟩
    rw [← htally]
    rfl
  · have hdecode : g.decode .identities .identities (.object fields) t =
        (.ok (.rejected (.invalid "Value" "expected a 64-bit integer") (.object fields)), g,
          t) := by
      unfold Staging.decode
      rw [hparse, Identity.valueFor, Decimal.fit64_eq_none hfits]
      rfl
    refine ⟨_, .rejected hfits ((Json.object fields).snapshot t.options.maxWarningSnapshot)
      (pull_of_decode hn hdecode) ?_, ht.settle .identities (.rejected _ _)⟩
    rw [← htally]
    exact Tally.rejects _ _ _

/-- **A number and a text for one integer.** Two elements that have the same literal as their value,
one of them between quotes, are settled alike: by the integer that the literal writes. -/
theorem pull_integer (hliteral : IntegerText i literal) (hi : i.natAbs < 10 ^ 308)
    (hdepth : depth + 1 ≤ p.options.maxDepth) {front back front' back' rest' : List UInt8}
    (hbare : Json.AroundValue depth key front back)
    (hquoted : Json.AroundValue depth key front' back') {s' : Session}
    (hs : s.Awaits p (front ++ (literal ++ (back ++ rest))))
    (hs' : s'.Awaits p (front' ++ (34 :: (literal ++ 34 :: (back' ++ rest'))))) (g g' : Staging) :
    ∃ u u', Settles g key i s u ∧ u.Stands { p with array := .isOpen } rest ∧
      Settles g' key i s' u' ∧ u'.Stands { p with array := .isOpen } rest' := by
  obtain ⟨v, hspelt, hv⟩ := Identity.spelt_number depth hliteral hi
  obtain ⟨v', hspelt', hv'⟩ := Identity.spelt_quoted depth hliteral
  obtain ⟨t, fields, hnext, ht, hkey, hvalue⟩ := hs.nextElement_around hbare hspelt hdepth
  obtain ⟨t', fields', hnext', ht', hkey', hvalue'⟩ :=
    hs'.nextElement_quoted hquoted hspelt' hdepth
  obtain ⟨u, hu, hstands⟩ := settles_of_standsFor (g := g) hnext ht hkey hvalue hv
  obtain ⟨u', hu', hstands'⟩ := settles_of_standsFor (g := g') hnext' ht' hkey' hvalue' hv'
  exact ⟨u, u', hu, hstands, hu', hstands'⟩

open Text.Utf8 (bytesOf) in
/-- The least integer that fits, with zeros in front, and the one below it. -/
theorem pull_integer_least :
    let front := bytesOf "\x7b\"Key\":\"" ++ (bytesOf "k" ++ bytesOf "\",\"Value\":")
    let bare (literal : String) : Session :=
      .within .identities {} (front ++ (bytesOf literal ++ ([125] ++ [93])))
    let quoted (literal : String) : Session :=
      .within .identities {} (front ++ (34 :: (bytesOf literal ++ 34 :: ([125] ++ [93]))))
    let g : Staging := { sinks := .memory }
    (∃ u u', Settles g "k" (-9223372036854775808) (bare "-009223372036854775808") u ∧
        Settles g "k" (-9223372036854775808) (quoted "-009223372036854775808") u') ∧
      ∃ u u', Settles g "k" (-9223372036854775809) (bare "-9223372036854775809") u ∧
        Settles g "k" (-9223372036854775809) (quoted "-9223372036854775809") u' := by
  intro front bare quoted g
  have hkey : Escape.Spells Escape.Unquoted Escape.ReadCode "k".toList (bytesOf "k") :=
    .plain (by simp [Escape.Unquoted])
  have hminus (digits : String) (n : Nat) (hne : bytesOf digits ≠ [])
      (hdigits : (bytesOf digits).all Text.isDigit = true)
      (hn : Decimal.digitsValue (bytesOf digits) = n) :
      IntegerText (-(n : Int)) (45 :: bytesOf digits) := hn ▸ .minus hne hdigits
  have hleast := hminus "009223372036854775808" 9223372036854775808 (by decide) (by decide)
    (by decide +kernel)
  have hbelow := hminus "9223372036854775809" 9223372036854775809 (by decide) (by decide)
    (by decide +kernel)
  have haround : Json.AroundValue 0 "k" front [125] := .of_key hkey
  constructor
  · obtain ⟨u, u', hu, -, hu', -⟩ := pull_integer hleast (by decide +kernel) (by decide)
      haround haround (Session.awaits_within .identities {} _)
      (Session.awaits_within .identities {} _) g g
    exact ⟨u, u', hu, hu'⟩
  · obtain ⟨u, u', hu, -, hu', -⟩ := pull_integer hbelow (by decide +kernel) (by decide)
      haround haround (Session.awaits_within .identities {} _)
      (Session.awaits_within .identities {} _) g g
    exact ⟨u, u', hu, hu'⟩

end Reader

end ExportStream
