import ExportStream.Json.Printer
import ExportStream.Proofs.Grammar
import ExportStream.Proofs.IntegerTexts
import ExportStream.Proofs.QuotedTexts
import ExportStream.Proofs.Values
import Mathlib.Data.List.Induction
/-!
# Compact texts are read back

The writer of compact texts and what reads them, a scanner with a builder behind it, agree: of the
text of a value without fractions the value itself is read (**`Assembler.build_compact`**), wherever
the text stands and however it comes in.

The proof goes through the grammar. The text of a value is a row of tokens that derive it
(`Json.Plain.readBack`, by induction on the value): its texts are spellings
(`Json.spells_written`), its integers are read back from their digits, and commas and colons are
separators. A builder accepts what the grammar derives, so that its frames are not opened here.
-/

namespace ExportStream

open Text.Utf8 (encode encodeChar bytesOf)

/-! ### Fields in order -/

namespace Fields

variable {fields : Fields} {name : String} {v : Json}

/-- A name behind all others is put at the end. -/
theorem insert_of_forall_lt (h : ∀ f ∈ fields, f.1 < name) :
    insert name v fields = fields ++ [(name, v)] := by
  induction fields with
  | nil => rfl
  | cons f fields ih =>
    have hlt := h f (List.mem_cons_self ..)
    have hmore := ih fun g hg => h g (List.mem_cons_of_mem _ hg)
    rw [insert, if_neg (String.lt_asymm hlt), if_neg (String.ne_of_lt hlt).symm, hmore]
    rfl

/-- Fields that are in order stay as they are. -/
theorem ofList_of_ascending (h : fields.Pairwise fun f g => f.1 < g.1) :
    ofList fields = fields := by
  induction fields using List.reverseRecOn with
  | nil => rfl
  | append_singleton fields f ih =>
    obtain ⟨hfields, -, hlt⟩ := List.pairwise_append.mp h
    rw [ofList_append_singleton, ih hfields]
    exact insert_of_forall_lt fun g hg => hlt g hg f (List.mem_singleton_self f)

end Fields

/-! ### Tokens at the front of bytes -/

namespace Scanner

/-- The tokens that stand one after the other at the front of some bytes, and the bytes behind. -/
inductive Reads : List UInt8 → List Token → List UInt8 → Prop where
  /-- None. -/
  | nil (bytes : List UInt8) : Reads bytes [] bytes
  /-- One, and then the others. -/
  | cons {bytes more rest : List UInt8} {t : Token} {ts : List Token} :
      scan .idle bytes = .token t more → Reads more ts rest → Reads bytes (t :: ts) rest

variable {bytes more rest : List UInt8} {t : Token} {ts us : List Token}

theorem Reads.append (h : Reads bytes ts more) (h' : Reads more us rest) :
    Reads bytes (ts ++ us) rest := by
  induction h with
  | nil => exact h'
  | cons hscan _ ih => exact .cons hscan (ih h')

/-- A separator before tokens is passed over. -/
theorem reads_behind_iff {b : UInt8} (hb : isSeparator b = true) (hts : ts ≠ []) :
    Reads (b :: bytes) ts rest ↔ Reads bytes ts rest := by
  have hall : [b].all isSeparator = true := by simp [hb]
  have hgap : scan .idle (b :: bytes) = scan .idle bytes := scan_gap hall bytes
  constructor
  · intro h
    cases h with
    | nil => exact absurd rfl hts
    | cons hscan hmore => exact .cons (hgap.symm.trans hscan) hmore
  · intro h
    cases h with
    | nil => exact absurd rfl hts
    | cons hscan hmore => exact .cons (hgap.trans hscan) hmore

/-- A spelling that may end where it does is its token. -/
theorem Reads.spelling {text : List UInt8} (h : t.Spells text) (hend : t.EndsBefore rest) :
    Reads (text ++ rest) [t] rest :=
  .cons (scan_spelling h hend) (.nil rest)

end Scanner

namespace Cursor

variable {c : Cursor} {bytes rest : List UInt8} {ts : List Token}

/-- A cursor gives the tokens that stand before it, and takes the bytes up to the end of the last. -/
theorem At.gives (h : c.At bytes) (hreads : Scanner.Reads bytes ts rest) :
    ∃ c', c.Gives ts c' ∧ c'.At rest ∧
      c'.position + rest.length = c.position + bytes.length := by
  induction hreads generalizing c with
  | nil => exact ⟨c, .nil c, h, rfl⟩
  | cons hscan _ ih =>
    obtain ⟨d, hread, hd, hcount⟩ := h.readToken_counted hscan
    obtain ⟨c', hgives, hat, hcount'⟩ := ih hd
    exact ⟨c', .cons hread hgives, hat, hcount'.trans hcount⟩

end Cursor

/-! ### Texts as they are written -/

namespace Json

theorem encodeChar_hexDigit {n : Nat} (h : n < 16) :
    ∃ b, encodeChar (Text.hexDigit n) = [b] ∧ Escape.HexDigit n b := by
  have hall : ∀ n < 16, encodeChar (Text.hexDigit n) = [UInt8.ofNat (Text.hexDigit n).toNat] ∧
      Text.hexValue? (UInt8.ofNat (Text.hexDigit n).toNat) = some n := by decide
  exact ⟨_, (hall n h).1, Escape.hexValue?_eq_some_iff.mp (hall n h).2⟩

/-- A control is written by its code if it has no letter. -/
theorem escaped_control {c : Char} (h : c.toNat < 0x20) :
    Escape.Escaped Escape.Code c (encode
      ['\\', 'u', '0', '0', Text.hexDigit (c.toNat / 16), Text.hexDigit (c.toNat % 16)]) := by
  obtain ⟨a, ha, hdigit⟩ := encodeChar_hexDigit (n := c.toNat / 16) (by omega)
  obtain ⟨b, hb, hdigit'⟩ := encodeChar_hexDigit (n := c.toNat % 16) (by omega)
  have hzero : Escape.HexDigit 0 48 := .digit (v := 0) (by decide)
  have hcode := Escape.Code.digits hzero hzero hdigit hdigit'
  rw [show ((0 * 16 + 0) * 16 + c.toNat / 16) * 16 + c.toNat % 16 = c.toNat by omega] at hcode
  have hbytes : encode ['\\', 'u', '0', '0', Text.hexDigit (c.toNat / 16),
      Text.hexDigit (c.toNat % 16)] = 92 :: 117 :: [48, 48, a, b] := by
    simp only [encode, List.flatMap_cons, List.flatMap_nil, ha, hb]
    rfl
  rw [hbytes]
  exact .code hcode

/-- A character is written as itself, or as an escape of it. -/
theorem writeChar_cases (c : Char) :
    Escape.Unquoted c ∧ writeChar c = [c] ∨
      Escape.Escaped Escape.Code c (encode (writeChar c)) := by
  have hletter {e : UInt8} {d : Char} (hmem : (e, d) ∈ Escape.letters) (hd : c = d)
      (hbytes : encode (writeChar d) = [92, e]) :
      Escape.Escaped Escape.Code c (encode (writeChar c)) := by
    subst hd
    rw [hbytes]
    exact .letter hmem
  by_cases hquote : c = '"'
  · exact .inr (hletter (e := 34) (by decide) hquote (by decide))
  by_cases hslash : c = '\\'
  · exact .inr (hletter (e := 92) (by decide) hslash (by decide))
  by_cases hb : c = '\x08'
  · exact .inr (hletter (e := 98) (by decide) hb (by decide))
  by_cases hf : c = '\x0c'
  · exact .inr (hletter (e := 102) (by decide) hf (by decide))
  by_cases hn : c = '\n'
  · exact .inr (hletter (e := 110) (by decide) hn (by decide))
  by_cases hr : c = '\r'
  · exact .inr (hletter (e := 114) (by decide) hr (by decide))
  by_cases ht : c = '\t'
  · exact .inr (hletter (e := 116) (by decide) ht (by decide))
  unfold writeChar
  simp only [hquote, hslash, hb, hf, hn, hr, ht, if_false]
  split_ifs with hcontrol
  · exact .inr (escaped_control hcontrol)
  · exact .inl ⟨⟨hquote, hslash⟩, rfl⟩

/-- What is written of some characters is a spelling of them. -/
theorem spells_written (cs : List Char) :
    Escape.Spells Escape.Unquoted Escape.Code cs (encode (cs.flatMap writeChar)) := by
  induction cs with
  | nil => exact .nil
  | cons c cs ih =>
    rw [List.flatMap_cons, Text.Utf8.encode_append]
    obtain ⟨hbare, hself⟩ | hescaped := writeChar_cases c
    · rw [hself, Text.Utf8.encode_cons, Text.Utf8.encode_nil, List.append_nil]
      exact .bare hbare ih
    · exact .escape hescaped ih

/-- A text that is written is a text token, whatever follows. -/
theorem reads_writeText (s : String) (rest : List UInt8) :
    Scanner.Reads (encode (writeText s) ++ rest) [.string s] rest := by
  have hbytes : encode (writeText s) ++ rest =
      34 :: (encode (s.toList.flatMap writeChar) ++ 34 :: rest) := by
    rw [writeText, Text.Utf8.encode_cons, Text.Utf8.encode_append, List.append_assoc,
      List.append_assoc]
    rfl
  rw [hbytes]
  refine .cons (Scanner.scan_quote_iff.mpr ⟨_, rfl, ?_⟩) (.nil rest)
  exact (spells_written s.toList).mono (fun _ hc => hc) fun _ _ hcode => .code hcode

/-! ### Values as they are written -/

/-- A value without fractions as the library holds it: its integers fit in 64 bits with a sign, the
fields of its objects are in order, and at most so many brackets are open at once in it. -/
inductive Plain : Nat → Json → Prop where
  /-- The null value. -/
  | null (depth : Nat) : Plain depth .null
  /-- A truth value. -/
  | bool (depth : Nat) (b : Bool) : Plain depth (.bool b)
  /-- An integer. -/
  | integer (depth : Nat) {i : Int} : Decimal.Fits64 i → Plain depth (.number (.integer i))
  /-- A text. -/
  | string (depth : Nat) (s : String) : Plain depth (.string s)
  /-- An array of such values. -/
  | array {depth : Nat} {items : List Json} :
      (∀ v ∈ items, Plain depth v) → Plain (depth + 1) (.array items)
  /-- An object of such values. -/
  | object {depth : Nat} {fields : Fields} : (fields.Pairwise fun f g => f.1 < g.1) →
      (∀ f ∈ fields, Plain depth f.2) → Plain (depth + 1) (.object fields)

/-- The text of the value ends before these bytes: that of a number needs a byte behind it that no
number holds, and every other one needs nothing. -/
def EndsBefore (v : Json) (rest : List UInt8) : Prop :=
  (∃ n, v = .number n) → ∃ b more, rest = b :: more ∧ Scanner.isNumberByte b = false

/-- The text of the value is a row of tokens that derive it, whatever it ends before. -/
def ReadBack (depth : Nat) (v : Json) : Prop :=
  ∀ rest, v.EndsBefore rest → ∃ t ts, Derives depth (t :: ts) v ∧
    Scanner.Reads (encode v.chars ++ rest) (t :: ts) rest

variable {depth : Nat} {v : Json} {items : List Json} {fields : Fields}

/-- A value of one token is read back if its text is a spelling of the token. -/
theorem ReadBack.of_spells {t : Token} (hderives : Derives depth [t] v)
    (hspells : t.Spells (encode v.chars)) (hnumber : t.isNumber = true → ∃ n, v = .number n) :
    v.ReadBack depth := by
  intro rest hend
  exact ⟨t, [], hderives, .spelling hspells fun ht => hend (hnumber ht)⟩

/-- Behind an item stands a comma or a bracket, where a number ends. -/
theorem endsBefore_items (v : Json) (items : List Json) (rest : List UInt8) :
    v.EndsBefore (encode (itemChars items) ++ rest) := by
  intro _
  cases items with
  | nil => exact ⟨93, rest, rfl, by decide⟩
  | cons w items =>
    rw [itemChars, Text.Utf8.encode_cons]
    exact ⟨44, _, rfl, by decide⟩

theorem endsBefore_fields (v : Json) (fields : Fields) (rest : List UInt8) :
    v.EndsBefore (encode (fieldChars fields) ++ rest) := by
  intro _
  cases fields with
  | nil => exact ⟨125, rest, rfl, by decide⟩
  | cons f fields =>
    rw [fieldChars, Text.Utf8.encode_cons]
    exact ⟨44, _, rfl, by decide⟩

/-- The items behind the first one, each behind a comma, and the bracket that closes them. -/
theorem reads_itemChars (h : ∀ v ∈ items, v.ReadBack depth) (rest : List UInt8) :
    ∃ parts : List (List Token × Json), (∀ p ∈ parts, Derives depth p.1 p.2) ∧
      parts.map (fun p => p.2) = items ∧
      Scanner.Reads (encode (itemChars items) ++ rest)
        (parts.flatMap (fun p => p.1) ++ [.endArray]) rest := by
  induction items with
  | nil => exact ⟨[], by simp, rfl, .spelling .endArray (by rintro ⟨⟩)⟩
  | cons v items ih =>
    obtain ⟨parts, hparts, hitems, hreads⟩ := ih fun w hw => h w (List.mem_cons_of_mem _ hw)
    obtain ⟨t, ts, hderives, hfirst⟩ :=
      h v (List.mem_cons_self ..) _ (endsBefore_items v items rest)
    refine ⟨(t :: ts, v) :: parts, ?_, by rw [List.map_cons, hitems], ?_⟩
    · intro p hp
      rcases List.mem_cons.mp hp with rfl | hp
      · exact hderives
      · exact hparts p hp
    · have hcomma := (Scanner.reads_behind_iff (b := 44) (by decide) (List.cons_ne_nil _ _)).mpr
        (hfirst.append hreads)
      rw [itemChars, Text.Utf8.encode_cons, Text.Utf8.encode_append, List.append_assoc,
        List.append_assoc, List.flatMap_cons, List.append_assoc]
      exact hcomma

/-- A name, a colon and the value. -/
theorem reads_field (name : String) (h : v.ReadBack depth) {rest : List UInt8}
    (hend : v.EndsBefore rest) :
    ∃ ts, Derives depth ts v ∧
      Scanner.Reads (encode (writeText name ++ ':' :: v.chars) ++ rest) (.string name :: ts)
        rest := by
  obtain ⟨t, ts, hderives, hvalue⟩ := h rest hend
  refine ⟨t :: ts, hderives, ?_⟩
  have hname := reads_writeText name (58 :: (encode v.chars ++ rest))
  rw [Text.Utf8.encode_append, List.append_assoc, Text.Utf8.encode_cons, List.append_assoc]
  exact hname.append ((Scanner.reads_behind_iff (by decide) (List.cons_ne_nil _ _)).mpr hvalue)

/-- The fields behind the first one, each behind a comma, and the brace that closes them. -/
theorem reads_fieldChars (h : ∀ f ∈ fields, f.2.ReadBack depth) (rest : List UInt8) :
    ∃ parts : List (String × List Token × Json), (∀ p ∈ parts, Derives depth p.2.1 p.2.2) ∧
      parts.map (fun p => (p.1, p.2.2)) = fields ∧
      Scanner.Reads (encode (fieldChars fields) ++ rest)
        (parts.flatMap (fun p => .string p.1 :: p.2.1) ++ [.endObject]) rest := by
  induction fields with
  | nil => exact ⟨[], by simp, rfl, .spelling .endObject (by rintro ⟨⟩)⟩
  | cons f fields ih =>
    obtain ⟨parts, hparts, hfields, hreads⟩ := ih fun g hg => h g (List.mem_cons_of_mem _ hg)
    obtain ⟨ts, hderives, hfirst⟩ := reads_field f.1 (h f (List.mem_cons_self ..))
      (endsBefore_fields f.2 fields rest)
    refine ⟨(f.1, ts, f.2) :: parts, ?_, by rw [List.map_cons, hfields], ?_⟩
    · intro p hp
      rcases List.mem_cons.mp hp with rfl | hp
      · exact hderives
      · exact hparts p hp
    · have hcomma := (Scanner.reads_behind_iff (b := 44) (by decide) (List.cons_ne_nil _ _)).mpr
        (hfirst.append hreads)
      have hchars : fieldChars (f :: fields) =
          ',' :: ((writeText f.1 ++ ':' :: f.2.chars) ++ fieldChars fields) := by
        rw [fieldChars, List.append_assoc, List.cons_append]
      rw [hchars, Text.Utf8.encode_cons, Text.Utf8.encode_append, List.append_assoc,
        List.append_assoc, List.flatMap_cons, List.append_assoc]
      exact hcomma

/-- An array is read back if its items are. -/
theorem ReadBack.array (h : ∀ v ∈ items, v.ReadBack depth) :
    (Json.array items).ReadBack (depth + 1) := by
  intro rest _
  obtain ⟨parts, hparts, hitems, hreads⟩ := reads_itemChars h rest
  have hderives := Derives.array hparts
  rw [hitems] at hderives
  have hopen {bytes : List UInt8}
      (hbytes : Scanner.Reads bytes (parts.flatMap (fun p => p.1) ++ [.endArray]) rest) :
      Scanner.Reads (91 :: bytes) (.startArray :: (parts.flatMap (fun p => p.1) ++ [.endArray]))
        rest :=
    (Scanner.Reads.spelling .startArray (by rintro ⟨⟩)).append hbytes
  refine ⟨_, _, hderives, ?_⟩
  -- what stands behind the bracket is what stands behind a comma, without it
  cases items with
  | nil => exact hopen hreads
  | cons v items =>
    rw [itemChars, Text.Utf8.encode_cons] at hreads
    rw [chars, Text.Utf8.encode_cons]
    exact hopen ((Scanner.reads_behind_iff (b := 44) (by decide) (by simp)).mp hreads)

/-- An object in order is read back if its values are. -/
theorem ReadBack.object (horder : fields.Pairwise fun f g => f.1 < g.1)
    (h : ∀ f ∈ fields, f.2.ReadBack depth) : (Json.object fields).ReadBack (depth + 1) := by
  intro rest _
  obtain ⟨parts, hparts, hfields, hreads⟩ := reads_fieldChars h rest
  have hderives := Derives.object hparts
  rw [hfields, Fields.ofList_of_ascending horder] at hderives
  have hopen {bytes : List UInt8} (hbytes : Scanner.Reads bytes
      (parts.flatMap (fun p => .string p.1 :: p.2.1) ++ [.endObject]) rest) :
      Scanner.Reads (123 :: bytes)
        (.startObject :: (parts.flatMap (fun p => .string p.1 :: p.2.1) ++ [.endObject])) rest :=
    (Scanner.Reads.spelling .startObject (by rintro ⟨⟩)).append hbytes
  refine ⟨_, _, hderives, ?_⟩
  cases fields with
  | nil => exact hopen hreads
  | cons f fields =>
    rw [fieldChars, Text.Utf8.encode_cons] at hreads
    rw [chars, Text.Utf8.encode_cons]
    exact hopen ((Scanner.reads_behind_iff (b := 44) (by decide) (by simp)).mp hreads)

/-- The text of a value without fractions is a row of tokens that derive it. -/
theorem Plain.readBack (h : v.Plain depth) : v.ReadBack depth := by
  induction h with
  | null depth => exact .of_spells (.null depth) (.word .null) (by rintro ⟨⟩)
  | bool depth b =>
    cases b with
    | true => exact .of_spells (.bool depth true) (.word .true) (by rintro ⟨⟩)
    | false => exact .of_spells (.bool depth false) (.word .false) (by rintro ⟨⟩)
  | integer depth hi => exact .of_spells (.integer depth _) (Token.spells_int hi) fun _ => ⟨_, rfl⟩
  | string depth s => exact fun rest _ => ⟨_, [], .string depth s, reads_writeText s rest⟩
  | array _ ih => exact .array ih
  | object horder _ ih => exact .object horder ih

end Json

namespace Assembler

/-- **A value is read back from its compact text.** A cursor in order, whatever its buffer and
however its supply portions the bytes, reads the first token of the text, and a builder in whatever
state puts the value itself together from it, if it has no fractions and is not nested deeper than
the builder admits. Exactly the bytes of the text are used, whatever follows them; behind a number
a byte is due that ends it. -/
theorem build_compact (a : Assembler) {v : Json} (hv : v.Plain a.maxDepth) {rest : List UInt8}
    (hend : v.EndsBefore rest) {c : Cursor} (hc : c.At (bytesOf v.compact ++ rest)) :
    ∃ t c' c'', c.readToken = (.ok t, c') ∧
      a.build t c' = (.ok v, { a with frames := [], built := a.built + 1 }, c'') ∧
      c''.At rest ∧ c''.position = c.position + (bytesOf v.compact).length := by
  obtain ⟨t, ts, hderives, hreads⟩ := hv.readBack rest hend
  have hbytes : bytesOf v.compact = encode v.chars := by
    rw [bytesOf, Json.compact, String.toList_ofList]
  rw [hbytes] at hc ⊢
  obtain ⟨c'', hgives, hat, hcount⟩ := hc.gives hreads
  cases hgives with
  | @cons _ c' _ _ _ hread hgives =>
    refine ⟨t, c', c'', hread, ?_, hat, ?_⟩
    · exact (a.build_eq_ok_iff t c').mpr ⟨ts, hderives, hgives, rfl⟩
    · rw [List.length_append] at hcount
      omega

/-- An object with names and texts that are escaped, a negative integer and a value inside of a value,
that comes byte by byte with nothing behind it; and an integer before a comma. -/
theorem build_compact_nested :
    let v : Json := .object [("a\n", .array [.int (-5), .null, .string "\"\x01"]), ("é", .bool true)]
    v.compact = "\x7b\"a\\n\":[-5,null,\"\\\"\\u0001\"],\"é\":true\x7d" ∧
    (∃ t c c', (Cursor.start { rest := bytesOf v.compact, portions := [1] } 1 0).readToken =
        (.ok t, c) ∧
      ({ maxDepth := 2 } : Assembler).build t c =
        (.ok v, { maxDepth := 2, built := 1 }, c') ∧ c'.position = 38) ∧
    ∃ t c c', (Cursor.start { rest := [45, 53, 44], portions := [1] } 1 0).readToken =
        (.ok t, c) ∧
      ({ maxDepth := 0 } : Assembler).build t c =
        (.ok (.int (-5)), { maxDepth := 0, built := 1 }, c') ∧ c'.position = 2 := by
  intro v
  have htext : v.compact = "\x7b\"a\\n\":[-5,null,\"\\\"\\u0001\"],\"é\":true\x7d" := by
    decide +kernel
  have hplain : v.Plain 2 := by
    refine .object (by decide) ?_
    simp only [List.forall_mem_cons, List.not_mem_nil, false_imp_iff, implies_true, and_true]
    refine ⟨.array ?_, .bool _ _⟩
    simp only [List.forall_mem_cons, List.not_mem_nil, false_imp_iff, implies_true, and_true]
    exact ⟨.integer _ ⟨by decide, by decide⟩, .null _, .string _ _⟩
  refine ⟨htext, ?_, ?_⟩
  · have hsteady : ({ rest := bytesOf v.compact, portions := [1] } : Supply).Steady := by
      simp [Supply.Steady]
    have hat := Cursor.at_start hsteady 1 0
    rw [← List.append_nil (Supply.rest _)] at hat
    obtain ⟨t, c, c', hread, hbuild, -, hposition⟩ :=
      build_compact { maxDepth := 2 } hplain (by simp [Json.EndsBefore, v]) hat
    refine ⟨t, c, c', hread, hbuild, ?_⟩
    rw [hposition, htext]
    decide +kernel
  · have hsteady : ({ rest := [45, 53, 44], portions := [1] } : Supply).Steady := by
      simp [Supply.Steady]
    have hfive : Json.Plain 0 (.int (-5)) := .integer _ ⟨by decide, by decide⟩
    have hend : (Json.int (-5)).EndsBefore [44] := fun _ => ⟨44, [], rfl, by decide⟩
    obtain ⟨t, c, c', hread, hbuild, -, hposition⟩ :=
      build_compact { maxDepth := 0 } hfive hend (Cursor.at_start hsteady 1 0)
    exact ⟨t, c, c', hread, hbuild, hposition⟩

end Assembler

end ExportStream
