import ExportStream.Proofs.Escapes
/-!
# Texts in a stream

A text in a stream is passed over twice. The scanner looks for the closing quote and minds nothing but
backslashes; the decoder expands what lies before that quote. Both agree on which bytes are escaped:
a text token is found exactly where a spelling lies between quotes (`Scanner.scan_quote_iff`), and
every spelling of JSON is read back, whatever follows it (**`Scanner.next_spelling`**).

So the decoder never meets a backslash at the end of the bytes that the scanner gives it. Across the
parts of a stream this needs an invariant of the unfinished text: its bytes can lie between quotes,
but for a last backslash that waits for its partner (`Scanner.Orderly`).
-/

namespace ExportStream

namespace Scanner

variable {raw rest more bytes : List UInt8} {cs : List Char} {s : String}

/-! ### Where a text ends -/

/-- Bytes that can lie between quotes leave no backslash that waits for its partner. -/
theorem isQuotable_append {escaped : Bool} (h : isQuotable escaped raw = true)
    (more : List UInt8) : isQuotable escaped (raw ++ more) = isQuotable false more := by
  induction raw generalizing escaped with
  | nil =>
    cases escaped with
    | false => rfl
    | true => cases h
  | cons b raw ih =>
    cases escaped with
    | true => exact ih h
    | false =>
      simp only [isQuotable, Bool.and_eq_true] at h
      simp only [List.cons_append, isQuotable, h.1, Bool.true_and]
      exact ih h.2

end Scanner

open Scanner (isQuotable)

namespace Escape

variable {raw rest text : List UInt8} {cs : List Char} {c : Char}

/-- May the character stand as itself between quotes? -/
def Unquoted (c : Char) : Prop := c ≠ '"' ∧ c ≠ '\\'

theorem isQuotable_encodeChar (h : Unquoted c) :
    isQuotable false (Text.Utf8.encodeChar c) = true := by
  refine Scanner.isQuotable_plain fun b hb => ⟨?_, ?_⟩
  · rintro rfl
    exact not_mem_encodeChar (by decide) h.1 hb
  · rintro rfl
    exact not_mem_encodeChar (by decide) h.2 hb

/-- The search for the quote passes over the code of a number. -/
theorem isQuotable_code {n : Nat} (h : ReadCode n text) :
    isQuotable false (92 :: 117 :: text) = true := by
  have htext : isQuotable false text = true :=
    Scanner.isQuotable_plain fun b hb => ⟨(h.bytes b hb).1, (h.bytes b hb).2.1⟩
  exact htext

/-- The search for the quote passes over an escape. -/
theorem isQuotable_escaped (h : Escaped ReadCode c text) : isQuotable false text = true := by
  cases h with
  | letter => rfl
  | code hcode => exact isQuotable_code hcode
  | @pair _ _ text text' _ _ _ _ hcode hcode' =>
    have hpair := Scanner.isQuotable_append (isQuotable_code hcode) (92 :: 117 :: text')
    exact hpair.trans (isQuotable_code hcode')

/-- A spelling can lie between quotes if no quote stands in it as itself. -/
theorem Spells.isQuotable (h : Spells Unquoted ReadCode cs raw) :
    Scanner.isQuotable false raw = true := by
  induction h with
  | nil => rfl
  | bare hc _ ih =>
    rw [Scanner.isQuotable_append (isQuotable_encodeChar hc)]
    exact ih
  | escape htext _ ih =>
    rw [Scanner.isQuotable_append (isQuotable_escaped htext)]
    exact ih

/-- No quote stands as itself in a spelling that can lie between quotes. -/
theorem Spells.unquoted (h : Spells (· ≠ '\\') ReadCode cs raw)
    (hq : Scanner.isQuotable false raw = true) : Spells Unquoted ReadCode cs raw := by
  induction h with
  | nil => exact .nil
  | @bare c cs raw hc _ ih =>
    have hquote : c ≠ '"' := by
      rintro rfl
      cases hq
    rw [Scanner.isQuotable_append (isQuotable_encodeChar ⟨hquote, hc⟩)] at hq
    exact .bare ⟨hquote, hc⟩ (ih hq)
  | escape htext _ ih =>
    rw [Scanner.isQuotable_append (isQuotable_escaped htext)] at hq
    exact .escape htext (ih hq)

theorem Escaped.ne_nil {IsCode : Nat → List UInt8 → Prop} (h : Escaped IsCode c text) :
    text ≠ [] := by
  cases h <;> exact List.cons_ne_nil _ _

/-- Bytes that can lie between quotes do not end behind a backslash. -/
theorem expand_ne_unterminated (h : isQuotable false raw = true) :
    expand raw ≠ .error .unterminated := by
  have hmap {front : List UInt8} {r : Except Fault (List UInt8)} (hr : r ≠ .error .unterminated) :
      r.map (front ++ ·) ≠ .error .unterminated := by
    rcases r with f | out
    · exact hr
    · simp [Except.map]
  induction hn : raw.length using Nat.strongRecOn generalizing raw with
  | ind n ih =>
    subst hn
    cases front raw with
    | nil =>
      rw [expand]
      simp
    | @plain b rest hb =>
      rw [Indexed.expand_plain_byte hb]
      have hslash : (b == 92) = false := by simpa using hb
      simp only [isQuotable, hslash, Bool.and_eq_true] at h
      exact hmap (ih rest.length (by simp) h.2 rfl)
    | @escape c text rest htext =>
      rw [expand_escaped_append htext]
      rw [Scanner.isQuotable_append (isQuotable_escaped htext)] at h
      have hlength := List.length_pos_iff.mpr htext.ne_nil
      exact hmap (ih rest.length (by rw [List.length_append]; omega) h rfl)
    | unterminated => cases h
    | refused hrefused hne =>
      rw [hrefused]
      simpa using hne

theorem decode_ne_unterminated (h : isQuotable false raw = true) :
    decode raw ≠ .error .unterminated := by
  have hexpand := expand_ne_unterminated h
  unfold decode
  rcases hout : expand raw with f | out
  · rw [hout] at hexpand
    simpa [bind, Except.bind] using hexpand
  · simp only [bind, Except.bind]
    split <;> simp

end Escape

namespace Scanner

/-! ### Unfinished texts -/

/-- The bytes of an unfinished text can lie between quotes, but for a backslash that waits for its
partner. -/
def Orderly : Scanner → Prop
  | .string raw false => isQuotable false raw.reverse = true
  | .string raw true => ∃ before, raw = 92 :: before ∧ isQuotable false before.reverse = true
  | _ => True

theorem orderly_opening {b : UInt8} {s : Scanner} (h : opening b = .begun s) : s.Orderly := by
  unfold opening at h
  split_ifs at h
  all_goals
    cases h
    simp [Orderly, isQuotable]

theorem finish_ne_more (t : Except Fault Token) (rest : List UInt8) (s : Scanner) :
    finish t rest ≠ .more s := by
  cases t <;> simp [finish]

theorem finish_string_ne {raw : List UInt8} (h : isQuotable false raw = true) (rest : List UInt8) :
    finish (stringToken raw) rest ≠ .fail (.string .unterminated) := by
  have hdecode := Escape.decode_ne_unterminated h
  unfold stringToken
  rcases hout : Escape.decode raw with f | s
  · rintro ⟨⟩
    exact hdecode hout
  · simp [finish]

theorem finish_number_ne (text rest : List UInt8) (f : Escape.Fault) :
    finish (numberToken text) rest ≠ .fail (.string f) := by
  unfold numberToken
  simp only
  split
  · simp [finish]
  · split <;> simp [finish]

/-- Every part keeps it, and the bytes of a text do not end behind a backslash. -/
theorem Orderly.scan {s : Scanner} (h : s.Orderly) (part : List UInt8) :
    (∀ s', s.scan part = .more s' → s'.Orderly) ∧
      s.scan part ≠ .fail (.string .unterminated) := by
  fun_induction Scanner.scan s part with
  | case1 s =>
    refine ⟨?_, by simp⟩
    intro s' hs
    cases hs
    exact h
  | case2 b rest hb ih => exact ih trivial
  | case3 => simp
  | case4 b rest hb s hs ih => exact ih (orderly_opening hs)
  | case5 => simp
  | case6 raw b rest ih =>
    obtain ⟨before, rfl, hbefore⟩ := h
    refine ih ?_
    simp only [Orderly, List.reverse_cons, List.append_assoc, isQuotable_append hbefore]
    rfl
  | case7 raw rest => exact ⟨by simp [finish_ne_more], finish_string_ne h rest⟩
  | case8 raw b rest hb ih =>
    refine ih ?_
    by_cases hslash : b = 92
    · subst hslash
      exact ⟨raw, rfl, h⟩
    · have hplain : (b == 92) = false := by simpa using hslash
      simp only [hplain, Orderly, List.reverse_cons, isQuotable_append h]
      simp [isQuotable, hb, hslash]
  | case9 raw b rest hb ih => exact ih trivial
  | case10 raw b rest hb => exact ⟨by simp [finish_ne_more], finish_number_ne _ _ _⟩
  | case11 => simp
  | case12 => simp
  | case13 => simp
  | case14 w rest c due hd ih => exact ih trivial
  | case15 => simp

/-- What a scanner comes to know, whatever parts of streams it is given one after the other. -/
inductive Arises : Scanner → Prop where
  /-- At the beginning it knows nothing. -/
  | idle : Arises .idle
  /-- It is given a part. -/
  | next {s : Scanner} (part : List UInt8) : Arises s → Arises (s.next part).2

theorem Arises.orderly {s : Scanner} (h : s.Arises) : s.Orderly := by
  induction h with
  | idle => trivial
  | @next s part _ ih =>
    have hscan := (ih.scan part).1
    unfold Scanner.next
    cases hpart : s.scan part with
    | token t rest => trivial
    | more s' => exact hscan s' hpart
    | fail f => trivial

/-! ### Texts -/

/-- A text token is found exactly where a quote, a spelling without a quote that stands as itself,
and a quote stand. -/
theorem scan_quote_iff {bytes rest : List UInt8} {s : String} :
    scan .idle (34 :: bytes) = .token (.string s) rest ↔
      ∃ raw, bytes = raw ++ 34 :: rest ∧
        Escape.Spells Escape.Unquoted Escape.ReadCode s.toList raw := by
  have hopen : scan .idle (34 :: bytes) = scan (.string [] false) bytes := by
    simp [scan, isSeparator, opening]
  rw [hopen, scan_string_iff]
  constructor
  · rintro ⟨raw, rfl, hq, htoken⟩
    obtain ⟨s', hdecode, hs⟩ := stringToken_eq_ok_iff.mp htoken
    cases hs
    exact ⟨raw, rfl, (Escape.decode_eq_ok_iff.mp hdecode).unquoted hq⟩
  · rintro ⟨raw, rfl, hspells⟩
    refine ⟨raw, rfl, hspells.isQuotable, stringToken_eq_ok_iff.mpr ⟨s, ?_, rfl⟩⟩
    exact Escape.decode_eq_ok_iff.mpr (hspells.mono (fun _ h => h.2) fun _ _ h => h)

/-- A text between quotes is read whatever follows, and exactly its bytes are used. -/
theorem next_quote {raw : List UInt8} {s : String}
    (h : Escape.Spells Escape.Unquoted Escape.ReadCode s.toList raw) (rest : List UInt8) :
    idle.next (34 :: (raw ++ 34 :: rest)) = (.ok (raw.length + 2, some (.string s)), .idle) := by
  refine next_eq_token_iff.mpr ⟨rfl, rest, scan_quote_iff.mpr ⟨raw, rfl, h⟩, ?_⟩
  simp only [List.length_cons, List.length_append]
  omega

/-- **Every spelling of a text in JSON is read back**, each character as itself or in any of its
escapes, whatever follows the closing quote, and exactly the bytes of the spelling and the quotes are
used. The search for the closing quote and the decoding of what lies before it agree on what is
escaped: the quote found is the one behind what is decoded, with no quote that stands as itself in
it, and whatever parts a scanner is given, a text that it finds never ends behind a backslash. -/
theorem next_spelling :
    (∀ (s : String) (raw rest : List UInt8),
      Escape.Spells Escape.Unquoted Escape.Code s.toList raw →
        idle.next (34 :: (raw ++ 34 :: rest)) =
          (.ok (raw.length + 2, some (.string s)), .idle)) ∧
    (∀ (s : String) (bytes rest : List UInt8),
      scan .idle (34 :: bytes) = .token (.string s) rest ↔
        ∃ raw, bytes = raw ++ 34 :: rest ∧
          Escape.Spells Escape.Unquoted Escape.ReadCode s.toList raw) ∧
    (∀ (s : Scanner) (part : List UInt8), s.Arises →
      (s.next part).1 ≠ .error (.string .unterminated)) := by
  refine ⟨?_, ?_, ?_⟩
  · intro s raw rest h
    exact next_quote (h.mono (fun _ hc => hc) fun _ _ hcode => .code hcode) rest
  · intro s bytes rest
    exact scan_quote_iff
  · intro s part h hnext
    have hscan := (h.orderly.scan part).2
    exact hscan (next_eq_error_iff.mp (Prod.ext hnext rfl)).2

/-- A text of four characters: one as itself, one in two surrogates of either case, a quote behind a
backslash and a line feed by its code; and a text that is cut behind a backslash. -/
theorem next_spelling_mixed :
    let raw : List UInt8 := [195, 169, 92, 117, 100, 56, 51, 100, 92, 117, 68, 69, 48, 48, 92, 34,
      92, 117, 48, 48, 48, 65]
    Escape.Spells Escape.Unquoted Escape.Code "é😀\"\n".toList raw ∧
      idle.next (34 :: (raw ++ [34, 125])) = (.ok (24, some (.string "é😀\"\n")), .idle) ∧
      (idle.next [34, 92]).2.Arises ∧
      ((idle.next [34, 92]).2.next [34, 34]).1 ≠ .error (.string .unterminated) := by
  intro raw
  have hhigh : Escape.Code 0xD83D [100, 56, 51, 100] := Escape.hexNumber?_four.mp (by decide)
  have hlow : Escape.Code 0xDE00 [68, 69, 48, 48] := Escape.hexNumber?_four.mp (by decide)
  have hface : Escape.Escaped Escape.Code '😀'
      [92, 117, 100, 56, 51, 100, 92, 117, 68, 69, 48, 48] :=
    .pair (by decide) (by decide) (by decide) (by decide) hhigh hlow (by decide)
  have hfeed : Escape.Escaped Escape.Code '\n' [92, 117, 48, 48, 48, 65] :=
    .code (Escape.hexNumber?_four.mp (by decide))
  have hquote : Escape.Escaped Escape.Code '"' [92, 34] := .letter (by decide)
  have hspells : Escape.Spells Escape.Unquoted Escape.Code "é😀\"\n".toList raw :=
    .bare ⟨by decide, by decide⟩ (.escape hface (.escape hquote (.escape hfeed .nil)))
  have harises : (idle.next [34, 92]).2.Arises := .next [34, 92] .idle
  exact ⟨hspells, next_spelling.1 _ raw [125] hspells, harises, next_spelling.2.2 _ [34, 34] harises⟩

end Scanner

end ExportStream
