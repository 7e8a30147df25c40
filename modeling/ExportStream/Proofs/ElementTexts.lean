import ExportStream.Proofs.CompactTexts
import ExportStream.Proofs.Standing
/-!
# Texts of elements

An element as an export may write it: its fields in any order, of several of one name the last one
counting, with any separators between their parts and any spelling of each part. `Json.Spelt` says
that a text is read as a value, whatever follows it; `Json.ItemTexts` and `Json.FieldTexts` put such
texts together, and brackets around them are again such a text (`Json.Spelt.array`,
`Json.Spelt.object`). A session before the text of an element takes it off as the value
(`Session.Awaits.nextElement_spelt`).

Elements are compared that differ in the text of one field: `Json.AroundValue` holds of what stands
before and behind the value of the field `Value`, whatever else the element has.
-/

namespace ExportStream

open Scanner (isSeparator EndsNumber Reads)
open Text.Utf8 (bytesOf)

/-- Characters that may stand as themselves spell themselves. -/
theorem Escape.Spells.plain {cs : List Char} (h : ∀ c ∈ cs, Unquoted c) :
    Spells Unquoted ReadCode cs (Text.Utf8.encode cs) := by
  induction cs with
  | nil => exact .nil
  | cons c cs ih =>
    obtain ⟨hc, hcs⟩ := List.forall_mem_cons.mp h
    exact .bare hc (ih hcs)

namespace Json

/-! ### Texts that are read as a value -/

/-- The text is a row of tokens that derive the value, whatever it ends before. -/
def Spelt (depth : Nat) (text : List UInt8) (v : Json) : Prop :=
  ∀ rest, v.EndsBefore rest → ∃ t ts, Derives depth (t :: ts) v ∧
    Reads (text ++ rest) (t :: ts) rest

variable {depth : Nat} {text text' gap rest : List UInt8} {v : Json}

/-- A spelling of a token is the text of the value that the token is. -/
theorem Spelt.of_spells {t : Token} (hderives : Derives depth [t] v) (hspells : t.Spells text)
    (hnumber : t.isNumber = true → ∃ n, v = .number n) : Spelt depth text v := by
  intro rest hend
  exact ⟨t, [], hderives, .spelling hspells fun ht => hend (hnumber ht)⟩

/-- A text between quotes is the text of what it spells. -/
theorem Spelt.string {raw : List UInt8} {s : String}
    (h : Escape.Spells Escape.Unquoted Escape.ReadCode s.toList raw) :
    Spelt depth (34 :: (raw ++ [34])) (.string s) := by
  intro rest _
  refine ⟨_, [], .string depth s, ?_⟩
  rw [List.cons_append, List.append_assoc]
  exact .cons (Scanner.scan_quote_iff.mpr ⟨raw, rfl, h⟩) (.nil rest)

theorem reads_behind (hgap : gap.all isSeparator = true) {bytes : List UInt8} {ts : List Token}
    (hts : ts ≠ []) (h : Reads bytes ts rest) : Reads (gap ++ bytes) ts rest := by
  induction gap with
  | nil => exact h
  | cons b gap ih =>
    rw [List.all_cons, Bool.and_eq_true] at hgap
    exact (Scanner.reads_behind_iff hgap.1 hts).mpr (ih hgap.2)

/-- Separators before a text do not matter. -/
theorem Spelt.behind (hgap : gap.all isSeparator = true) (h : Spelt depth text v) :
    Spelt depth (gap ++ text) v := by
  intro rest hend
  obtain ⟨t, ts, hderives, hreads⟩ := h rest hend
  rw [List.append_assoc]
  exact ⟨t, ts, hderives, reads_behind hgap (List.cons_ne_nil _ _) hreads⟩

/-! ### Rows of texts -/

/-- The texts of items, one behind the other. -/
inductive ItemTexts (depth : Nat) : List Json → List UInt8 → Prop where
  /-- None, and separators. -/
  | nil {gap : List UInt8} : gap.all isSeparator = true → ItemTexts depth [] gap
  /-- One, and what is behind it; a number ends before what is behind it. -/
  | cons {v : Json} {items : List Json} {text more : List UInt8} : Spelt depth text v →
      v.EndsBefore (more ++ [93]) → ItemTexts depth items more →
      ItemTexts depth (v :: items) (text ++ more)

/-- The texts of fields, one behind the other. -/
inductive FieldTexts (depth : Nat) : List (String × Json) → List UInt8 → Prop where
  /-- None, and separators. -/
  | nil {gap : List UInt8} : gap.all isSeparator = true → FieldTexts depth [] gap
  /-- One with its name between quotes, and what is behind it. -/
  | cons {name : String} {v : Json} {fields : List (String × Json)}
      {gap raw text more : List UInt8} : gap.all isSeparator = true →
      Escape.Spells Escape.Unquoted Escape.ReadCode name.toList raw → Spelt depth text v →
      FieldTexts depth fields more →
      FieldTexts depth ((name, v) :: fields) (gap ++ 34 :: (raw ++ 34 :: (text ++ more)))

theorem ItemTexts.behind {items : List Json} (hgap : gap.all isSeparator = true)
    (h : ItemTexts depth items text) : ItemTexts depth items (gap ++ text) := by
  cases h with
  | nil hgap' =>
    refine .nil ?_
    rw [List.all_append, hgap, hgap', Bool.and_self]
  | cons hv hend hmore =>
    rw [← List.append_assoc]
    exact .cons (hv.behind hgap) hend hmore

theorem FieldTexts.behind {fields : List (String × Json)} (hgap : gap.all isSeparator = true)
    (h : FieldTexts depth fields text) : FieldTexts depth fields (gap ++ text) := by
  cases h with
  | nil hgap' =>
    refine .nil ?_
    rw [List.all_append, hgap, hgap', Bool.and_self]
  | cons hgap' hname hv hmore =>
    rw [← List.append_assoc]
    refine .cons ?_ hname hv hmore
    rw [List.all_append, hgap, hgap', Bool.and_self]

/-- The fields of two rows, one behind the other. -/
theorem FieldTexts.append {fields fields' : List (String × Json)}
    (h : FieldTexts depth fields text) (h' : FieldTexts depth fields' text') :
    FieldTexts depth (fields ++ fields') (text ++ text') := by
  induction h with
  | nil hgap => exact h'.behind hgap
  | cons hgap hname hv _ ih =>
    simp only [List.append_assoc, List.cons_append]
    exact .cons hgap hname hv ih

/-- A number ends before the fields behind it and before the brace. -/
theorem FieldTexts.endsNumber {fields : List (String × Json)} (h : FieldTexts depth fields text)
    (rest : List UInt8) : EndsNumber (text ++ 125 :: rest) := by
  cases h with
  | nil hgap => exact Scanner.endsNumber_append hgap ⟨125, rest, rfl, by decide⟩
  | cons hgap =>
    rw [List.append_assoc]
    exact Scanner.endsNumber_append hgap ⟨34, _, rfl, by decide⟩

/-! ### Brackets around rows -/

theorem EndsBefore.of_append_bracket {more : List UInt8} (h : v.EndsBefore (more ++ [93]))
    (rest : List UInt8) : v.EndsBefore (more ++ 93 :: rest) := by
  intro hnumber
  obtain ⟨b, tail, heq, hb⟩ := h hnumber
  cases more with
  | nil =>
    cases heq
    exact ⟨93, rest, rfl, hb⟩
  | cons c more =>
    cases heq
    exact ⟨b, more ++ 93 :: rest, rfl, hb⟩

theorem ItemTexts.reads {items : List Json} (h : ItemTexts depth items text) (rest : List UInt8) :
    ∃ parts : List (List Token × Json), (∀ p ∈ parts, Derives depth p.1 p.2) ∧
      parts.map (fun p => p.2) = items ∧
      Reads (text ++ 93 :: rest) (parts.flatMap (fun p => p.1) ++ [.endArray]) rest := by
  induction h with
  | nil hgap =>
    have hbracket : Reads ([93] ++ rest) [.endArray] rest := .spelling .endArray (by rintro ⟨⟩)
    exact ⟨[], by simp, rfl, reads_behind hgap (List.cons_ne_nil _ _) hbracket⟩
  | @cons v items text more hv hend _ ih =>
    obtain ⟨parts, hparts, hitems, hreads⟩ := ih
    obtain ⟨t, ts, hderives, hfirst⟩ := hv _ (hend.of_append_bracket rest)
    refine ⟨(t :: ts, v) :: parts, ?_, by rw [List.map_cons, hitems], ?_⟩
    · exact List.forall_mem_cons.mpr ⟨hderives, hparts⟩
    · rw [List.append_assoc, List.flatMap_cons, List.append_assoc]
      exact hfirst.append hreads

theorem FieldTexts.reads {fields : List (String × Json)} (h : FieldTexts depth fields text)
    (rest : List UInt8) :
    ∃ parts : List (String × List Token × Json), (∀ p ∈ parts, Derives depth p.2.1 p.2.2) ∧
      parts.map (fun p => (p.1, p.2.2)) = fields ∧
      Reads (text ++ 125 :: rest) (parts.flatMap (fun p => .string p.1 :: p.2.1) ++ [.endObject])
        rest := by
  induction h with
  | nil hgap =>
    have hbrace : Reads ([125] ++ rest) [.endObject] rest := .spelling .endObject (by rintro ⟨⟩)
    exact ⟨[], by simp, rfl, reads_behind hgap (List.cons_ne_nil _ _) hbrace⟩
  | @cons name v fields gap raw text more hgap hname hv hmore ih =>
    obtain ⟨parts, hparts, hfields, hreads⟩ := ih
    obtain ⟨t, ts, hderives, hvalue⟩ := hv _ fun _ => hmore.endsNumber rest
    refine ⟨(name, t :: ts, v) :: parts, ?_, by rw [List.map_cons, hfields], ?_⟩
    · exact List.forall_mem_cons.mpr ⟨hderives, hparts⟩
    · have hquote : Reads (34 :: (raw ++ 34 :: (text ++ (more ++ 125 :: rest)))) [.string name]
          (text ++ (more ++ 125 :: rest)) :=
        .cons (Scanner.scan_quote_iff.mpr ⟨raw, rfl, hname⟩) (.nil _)
      simp only [List.append_assoc, List.cons_append, List.flatMap_cons]
      exact reads_behind hgap (by simp) (hquote.append (hvalue.append hreads))

/-- Brackets around the texts of items are the text of the array. -/
theorem Spelt.array {items : List Json} (h : ItemTexts depth items text) :
    Spelt (depth + 1) (91 :: (text ++ [93])) (.array items) := by
  intro rest _
  obtain ⟨parts, hparts, hitems, hreads⟩ := h.reads rest
  have hderives := Derives.array hparts
  rw [hitems] at hderives
  refine ⟨_, _, hderives, ?_⟩
  have hbracket : Reads ([91] ++ (text ++ 93 :: rest)) [.startArray] (text ++ 93 :: rest) :=
    .spelling .startArray (by rintro ⟨⟩)
  rw [List.cons_append, List.append_assoc]
  exact hbracket.append hreads

/-- Braces around the texts of fields are the text of the object. -/
theorem Spelt.object {fields : List (String × Json)} (h : FieldTexts depth fields text) :
    Spelt (depth + 1) (123 :: (text ++ [125])) (.object (Fields.ofList fields)) := by
  intro rest _
  obtain ⟨parts, hparts, hfields, hreads⟩ := h.reads rest
  have hderives := Derives.object hparts
  rw [hfields] at hderives
  refine ⟨_, _, hderives, ?_⟩
  have hbrace : Reads ([123] ++ (text ++ 125 :: rest)) [.startObject] (text ++ 125 :: rest) :=
    .spelling .startObject (by rintro ⟨⟩)
  rw [List.cons_append, List.append_assoc]
  exact hbrace.append hreads

/-! ### Elements that differ in one field -/

/-- What stands before and behind the value of the field `Value` of an element with a key:
separators, the fields before it, its name and a colon; and the fields behind it, of which none has
its name. -/
inductive AroundValue (depth : Nat) (key : String) : List UInt8 → List UInt8 → Prop where
  /-- The parts one after the other. -/
  | intro {before after : List (String × Json)} {lead text raw colon text' : List UInt8} :
      lead.all isSeparator = true → FieldTexts depth before text →
      Escape.Spells Escape.Unquoted Escape.ReadCode "Value".toList raw →
      colon.all isSeparator = true → FieldTexts depth after text' → (∀ f ∈ after, f.1 ≠ "Value") →
      Fields.find? "Key" (Fields.ofList (before ++ after)) = some (.string key) →
      AroundValue depth key (lead ++ 123 :: (text ++ 34 :: (raw ++ 34 :: colon))) (text' ++ [125])

theorem find?_key_around {before after : List (String × Json)} (v : Json) :
    Fields.find? "Key" (Fields.ofList (before ++ ("Value", v) :: after)) =
      Fields.find? "Key" (Fields.ofList (before ++ after)) := by
  rw [Fields.find?_ofList, Fields.find?_ofList]
  simp [List.find?_append]

theorem find?_value_around {before after : List (String × Json)} (v : Json)
    (h : ∀ f ∈ after, f.1 ≠ "Value") :
    Fields.find? "Value" (Fields.ofList (before ++ ("Value", v) :: after)) = some v := by
  have hnone : after.reverse.find? (fun f => f.1 = "Value") = none := by
    rw [List.find?_eq_none]
    intro f hf
    simpa using h f (List.mem_reverse.mp hf)
  rw [Fields.find?_ofList]
  simp [List.find?_append, hnone]

/-- With the text of a value in between an element is read that has the value and the key. -/
theorem AroundValue.spelt {key : String} {front back : List UInt8}
    (h : AroundValue depth key front back) (hv : Spelt depth text v) :
    ∃ fields, Spelt (depth + 1) (front ++ (text ++ back)) (.object fields) ∧
      Fields.find? "Key" fields = some (.string key) ∧ Fields.find? "Value" fields = some v := by
  cases h with
  | @intro before after lead front raw colon back hlead hbefore hname hcolon hafter hlast hkey =>
    have hvalue : FieldTexts depth (("Value", v) :: after)
        ([] ++ 34 :: (raw ++ 34 :: ((colon ++ text) ++ back))) :=
      .cons rfl hname (hv.behind hcolon) hafter
    have helement := (Spelt.object (hbefore.append hvalue)).behind hlead
    refine ⟨Fields.ofList (before ++ ("Value", v) :: after), ?_, ?_, ?_⟩
    · simp only [List.append_assoc, List.cons_append] at helement ⊢
      exact helement
    · rw [find?_key_around, hkey]
    · exact find?_value_around v hlast

/-- An element that has a key, in any spelling, and a value. -/
theorem AroundValue.of_key {key : String} {raw : List UInt8}
    (h : Escape.Spells Escape.Unquoted Escape.ReadCode key.toList raw) :
    AroundValue depth key
      (bytesOf "\x7b\"Key\":\"" ++ (raw ++ bytesOf "\",\"Value\":")) [125] := by
  have hplain (name : String) (hname : name = "Key" ∨ name = "Value") :
      Escape.Spells Escape.Unquoted Escape.ReadCode name.toList (bytesOf name) := by
    refine .plain ?_
    rcases hname with rfl | rfl <;> simp [Escape.Unquoted]
  have hcolon : [58].all isSeparator = true := by decide
  have hcomma : [44].all isSeparator = true := by decide
  have hnothing : [].all isSeparator = true := rfl
  have hkey : FieldTexts depth [("Key", .string key)]
      ([] ++ 34 :: (bytesOf "Key" ++ 34 :: (([58] ++ 34 :: (raw ++ [34])) ++ [44]))) :=
    .cons hnothing (hplain "Key" (.inl rfl)) ((Spelt.string h).behind hcolon) (.nil hcomma)
  have hfind : Fields.find? "Key" (Fields.ofList ([("Key", .string key)] ++ [])) =
      some (.string key) := by
    rw [Fields.find?_ofList]
    rfl
  have haround := AroundValue.intro hnothing hkey (hplain "Value" (.inr rfl)) hcolon
    (.nil hnothing) (by simp) hfind
  have hfront : bytesOf "\x7b\"Key\":\"" = 123 :: 34 :: (bytesOf "Key" ++ [34, 58, 34]) := by decide
  have hback : bytesOf "\",\"Value\":" = 34 :: 44 :: 34 :: (bytesOf "Value" ++ [34, 58]) := by
    decide
  rw [hfront, hback]
  simpa using haround

/-- A value may be followed by blanks before what is behind it. -/
theorem AroundValue.behind {key : String} {front back : List UInt8}
    (hgap : gap.all isSeparator = true) (h : AroundValue depth key front back) :
    AroundValue depth key front (gap ++ back) := by
  cases h with
  | intro hlead hbefore hname hcolon hafter hlast hkey =>
    rw [← List.append_assoc]
    exact .intro hlead hbefore hname hcolon (hafter.behind hgap) hlast hkey

end Json

/-! ### Sessions before texts -/

/-- What the tokens that stand at the front of some bytes complete is built from them. -/
theorem Assembly.Completes.builds {maxDepth : Nat} {frames : List Frame} {t : Token}
    {ts : List Token} {v : Json} {bytes rest : List UInt8}
    (h : Completes maxDepth (.more frames) (t :: ts) v) (hreads : Reads bytes ts rest) :
    Builds maxDepth frames t bytes v rest := by
  induction ts generalizing frames t bytes with
  | nil =>
    cases hreads
    cases h with
    | more h =>
      generalize haccept : accept maxDepth frames t = x at h
      cases h
      exact .done haccept
  | cons u ts ih =>
    cases hreads with
    | cons hscan hreads =>
      cases h with
      | more h =>
        generalize haccept : accept maxDepth frames t = x at h
        cases x with
        | more frames' => exact .more haccept hscan (ih h hreads)
        | done w => cases h
        | refused f frames' => cases h

/-- A session before the text of an element takes it off as the value. -/
theorem Session.Awaits.nextElement_spelt {s : Session} {p : Stage} {depth : Nat}
    {text rest : List UInt8} {v : Json} (h : s.Awaits p (text ++ rest))
    (hv : Json.Spelt depth text v) (hdepth : depth ≤ p.options.maxDepth)
    (hend : v.EndsBefore rest) :
    ∃ s', s.nextElement = (.ok (some v), s') ∧ s'.Stands { p with array := .isOpen } rest := by
  obtain ⟨t, ts, hderives, hreads⟩ := hv rest hend
  have hready : Assembly.Ready [] := trivial
  have hcompletes : Assembly.Completes p.options.maxDepth (.more []) ((t :: ts) ++ []) v :=
    .of_derives hderives hready (by simpa using hdepth) (.done v)
  rw [List.append_nil] at hcompletes
  cases hreads with
  | cons hscan hreads => exact h.nextElement hscan (hcompletes.builds hreads)

/-- A session before an element takes it off with the value of its field `Value` and its key. -/
theorem Session.Awaits.nextElement_around {s : Session} {p : Stage} {depth : Nat} {key : String}
    {front text back rest : List UInt8} {v : Json}
    (h : s.Awaits p (front ++ (text ++ (back ++ rest))))
    (haround : Json.AroundValue depth key front back) (hv : Json.Spelt depth text v)
    (hdepth : depth + 1 ≤ p.options.maxDepth) :
    ∃ s' fields, s.nextElement = (.ok (some (.object fields)), s') ∧
      s'.Stands { p with array := .isOpen } rest ∧
      Fields.find? "Key" fields = some (.string key) ∧ Fields.find? "Value" fields = some v := by
  obtain ⟨fields, hspelt, hkey, hvalue⟩ := haround.spelt hv
  rw [show front ++ (text ++ (back ++ rest)) = (front ++ (text ++ back)) ++ rest by simp] at h
  obtain ⟨s', hnext, hs'⟩ := h.nextElement_spelt hspelt hdepth (by rintro ⟨n, hn⟩; cases hn)
  exact ⟨s', fields, hnext, hs', hkey, hvalue⟩

/-- The same, with a text between quotes as the value. -/
theorem Session.Awaits.nextElement_quoted {s : Session} {p : Stage} {depth : Nat} {key : String}
    {front raw back rest : List UInt8} {v : Json}
    (h : s.Awaits p (front ++ (34 :: (raw ++ 34 :: (back ++ rest)))))
    (haround : Json.AroundValue depth key front back)
    (hv : Json.Spelt depth (34 :: (raw ++ [34])) v) (hdepth : depth + 1 ≤ p.options.maxDepth) :
    ∃ s' fields, s.nextElement = (.ok (some (.object fields)), s') ∧
      s'.Stands { p with array := .isOpen } rest ∧
      Fields.find? "Key" fields = some (.string key) ∧ Fields.find? "Value" fields = some v := by
  have hbytes : 34 :: (raw ++ 34 :: (back ++ rest)) = 34 :: (raw ++ [34]) ++ (back ++ rest) := by
    simp
  rw [hbytes] at h
  exact h.nextElement_around haround hv hdepth

/-! ### Sessions within arrays -/

/-- A session within the array of a kind, before these bytes. -/
def Session.within (k : Kind) (options : Options) (bytes : List UInt8) : Session :=
  { Session.start { rest := bytes } options {} with current := some k, array := .isOpen }

theorem Session.awaits_within (k : Kind) (options : Options) (bytes : List UInt8) :
    (within k options bytes).Awaits { options, current := some k } bytes := by
  have hsteady : ({ rest := bytes } : Supply).Steady := by simp [Supply.Steady]
  have hstart := stands_start hsteady options {}
  have hwithin : (within k options bytes).Stands
      { options, current := some k, array := .isOpen } bytes :=
    hstart.restage (fun q => { q with current := some k, array := .isOpen }) rfl rfl rfl rfl rfl
  exact hwithin.awaits

end ExportStream
