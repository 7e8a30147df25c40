import ExportStream.Proofs.DocumentFrames
import ExportStream.Proofs.StrictTexts
/-!
# Values in the stream and values in texts

A compare-exchange value is an object in the stream, or a text that writes one. The first is read by
the scanner and the builder, which ask for little, the second by the strict reader. Both come to the
same value (**`Reader.pull_embedded`**): whatever the strict reader accepts is, in the stream, a row
of tokens that derive what it comes to (`Json.spelt_of_readRaw`).

They do so for integers that fit in 64 bits with a sign. A minus before a zero, an integer beyond
these and a number with a fraction or an exponent are outside of what is said here, since the two
ways differ in what they make of these.
-/

namespace ExportStream

namespace CompareExchange

variable {fields inner : Fields} {key text : String} {value : Json}

/-- An object stands for itself. -/
theorem valueOf_object (h : Fields.find? "Value" fields = some (.object inner)) :
    valueOf fields = .ok (.object inner) := by
  rw [valueOf, h]

/-- A text stands for the object that it writes. -/
theorem valueOf_string (h : Fields.find? "Value" fields = some (.string text))
    (hread : Json.read text = .ok (.object inner)) : valueOf fields = .ok (.object inner) := by
  rw [valueOf, h]
  simp only [embedded, hread]

theorem parse_eq (hkey : Fields.find? "Key" fields = some (.string key))
    (hvalue : valueOf fields = .ok value) :
    parse (.object fields) = .ok { key, value } := by
  unfold parse Json.element
  simp only [Fields.dueText_eq_ok.mpr hkey, hvalue, bind, Except.bind]
  rfl

end CompareExchange

namespace Reader

variable {g : Staging} {s t : Session} {p : Session.Stage} {rest : List UInt8}

/-- A compare-exchange value that was taken off is handed out. -/
theorem pull_compareExchange {fields : Fields} {key : String} {value : Json}
    (hn : s.nextElement = (.ok (some (.object fields)), t)) (ht : t.Stands p rest)
    (hkey : Fields.find? "Key" fields = some (.string key))
    (hvalue : CompareExchange.valueOf fields = .ok value) :
    ∃ u, pull g .compareExchange .compareExchange s =
      (.ok (some (.compareExchange { key, index := 0, value })), g, u) ∧ u.Stands p rest := by
  have hdecode : g.decode .compareExchange .compareExchange (.object fields) t =
      (.ok (.record (.compareExchange { key, value })), g, t) := by
    unfold Staging.decode
    simp only [CompareExchange.parse_eq hkey hvalue, Decoded.ofParsed]
  exact ⟨_, pull_of_decode hn hdecode, ht.settle .compareExchange (.record _)⟩

/-- **A value in the stream and in a text.** If the strict reader accepts a text as an object, with
integers of 64 bits only and with room for one more bracket around it, then the element that has the
text itself as its value and the one that has it as a string, in any spelling, yield the same: the
object, under the key of the element. -/
theorem pull_embedded {text key : String} {object : List (String × Json)} {depth : Nat}
    (hread : Json.readRaw text = .ok (.object object))
    (hobject : (Json.object object).Integral depth) (hdepth : depth + 1 ≤ p.options.maxDepth)
    {front back raw front' back' rest' : List UInt8}
    (hinline : Json.AroundValue depth key front back)
    (hembedded : Json.AroundValue depth key front' back')
    (hraw : Escape.Spells Escape.Unquoted Escape.ReadCode text.toList raw) {s' : Session}
    (hs : s.Awaits p (front ++ (Text.Utf8.bytesOf text ++ (back ++ rest))))
    (hs' : s'.Awaits p (front' ++ (34 :: (raw ++ 34 :: (back' ++ rest'))))) (g' : Staging) :
    ∃ record u u',
      record = .compareExchange { key, index := 0, value := (Json.object object).inOrder } ∧
      pull g .compareExchange .compareExchange s = (.ok (some record), g, u) ∧
      u.Stands { p with array := .isOpen } rest ∧
      pull g' .compareExchange .compareExchange s' = (.ok (some record), g', u') ∧
      u'.Stands { p with array := .isOpen } rest' := by
  obtain ⟨body, gap, hbytes, hgap, hspelt⟩ := Json.spelt_of_readRaw hread hobject
  have hvalue : Json.read text = .ok (Json.object object).inOrder := by
    rw [Json.read, hread]
    rfl
  rw [Json.inOrder] at hspelt hvalue ⊢
  rw [hbytes, List.append_assoc, ← List.append_assoc gap] at hs
  obtain ⟨t, fields, hnext, ht, hkey, hfield⟩ :=
    hs.nextElement_around (hinline.behind hgap) hspelt hdepth
  obtain ⟨t', fields', hnext', ht', hkey', hfield'⟩ :=
    hs'.nextElement_quoted hembedded (.string hraw) hdepth
  obtain ⟨u, hpull, hu⟩ := pull_compareExchange hnext ht hkey
    (CompareExchange.valueOf_object hfield)
  obtain ⟨u', hpull', hu'⟩ := pull_compareExchange hnext' ht' hkey'
    (CompareExchange.valueOf_string hfield' hvalue)
  exact ⟨_, u, u', rfl, hpull, hu, hpull', hu'⟩

open Text.Utf8 (bytesOf encode) in
/-- The value `{"c":[1, {"b":-2}],"a":true,` and behind a line feed `"\u0061" : "x\ny" }`: its last
field has the name of the one before. -/
theorem pull_embedded_nested :
    let text := "\x7b\"c\":[1, \x7b\"b\":-2\x7d],\"a\":true,\n\"\\u0061\" : \"x\\ny\" \x7d"
    let front := bytesOf "\x7b\"Key\":\"" ++ (bytesOf "k" ++ bytesOf "\",\"Value\":")
    let bare := Session.within .compareExchange {} (front ++ (bytesOf text ++ ([125] ++ [93])))
    let raw := encode (text.toList.flatMap Json.writeChar)
    let quoted :=
      Session.within .compareExchange {} (front ++ (34 :: (raw ++ 34 :: ([125] ++ [93]))))
    let value := Json.object [("a", .string "x\ny"),
      ("c", .array [.number (.integer 1), .object [("b", .number (.integer (-2)))]])]
    let g : Staging := { sinks := .memory }
    let record := Record.compareExchange { key := "k", index := 0, value }
    ∃ u u', pull g .compareExchange .compareExchange bare = (.ok (some record), g, u) ∧
      pull g .compareExchange .compareExchange quoted = (.ok (some record), g, u') := by
  intro text front bare raw quoted value g record
  have hread : Json.readRaw text = .ok (.object
      [("c", .array [.number (.integer 1), .object [("b", .number (.integer (-2)))]]),
        ("a", .bool true), ("a", .string "x\ny")]) := by decide +kernel
  have hobject : (Json.object
      [("c", .array [.number (.integer 1), .object [("b", .number (.integer (-2)))]]),
        ("a", .bool true), ("a", .string "x\ny")]).Integral 3 := by
    refine .object ?_
    simp only [List.forall_mem_cons]
    refine ⟨.array ?_, .bool _ _, .string _ _, by simp⟩
    simp only [List.forall_mem_cons]
    refine ⟨.integer _ (by unfold Decimal.Fits64; decide), .object ?_, by simp⟩
    simp only [List.forall_mem_cons]
    exact ⟨.integer _ (by unfold Decimal.Fits64; decide), by simp⟩
  have hkey : Escape.Spells Escape.Unquoted Escape.ReadCode "k".toList (bytesOf "k") :=
    .plain (by simp [Escape.Unquoted])
  have hraw : Escape.Spells Escape.Unquoted Escape.ReadCode text.toList raw :=
    (Json.spells_written _).mono (fun _ hc => hc) fun _ _ hcode => .code hcode
  obtain ⟨record, u, u', rfl, hpull, -, hpull', -⟩ :=
    pull_embedded (g := g) hread hobject (by decide) (.of_key hkey) (.of_key hkey) hraw
      (Session.awaits_within .compareExchange {} _) (Session.awaits_within .compareExchange {} _) g
  exact ⟨u, u', hpull, hpull'⟩

end Reader

end ExportStream
