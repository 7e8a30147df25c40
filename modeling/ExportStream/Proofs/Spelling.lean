import ExportStream.Token.Scanner
import Mathlib.Tactic.SplitIfs
/-!
# Spellings of tokens

What `Scanner.scan` accepts, said without a scanner: `Token.Spells t text` holds when the bytes
`text` are a spelling of the token `t`. A token at the front of some bytes is then a run of
separators, a spelling, and the bytes behind it (`Scanner.scan_idle_iff`); the spelling of a number
ends only where a byte follows that no number holds.

Scanning a part of the stream and then the next part is scanning both at once
(`Scanner.scan_append`), whatever had begun before: this is why it does not matter where a stream is
cut.
-/

namespace ExportStream

/-! ### Parts of a stream -/

namespace Scanner

/-- The outcome of scanning when more bytes follow the part: a finished token leaves them too, a
refusal stays, and an unfinished token goes on with them. -/
def Scan.extend (more : List UInt8) : Scan → Scan
  | .token t rest => .token t (rest ++ more)
  | .more s => scan s more
  | .fail f => .fail f

theorem finish_extend (t : Except Fault Token) (rest more : List UInt8) :
    (finish t rest).extend more = finish t (rest ++ more) := by
  cases t <;> rfl

/-- **Cutting a stream**: scanning two parts one after the other is scanning them at once. -/
theorem scan_append (s : Scanner) (part more : List UInt8) :
    s.scan (part ++ more) = (s.scan part).extend more := by
  fun_induction scan s part with
  | case1 s => rfl
  | case2 b rest hb ih => simpa [scan, hb] using ih
  | case3 b rest hb t ht => simp [scan, hb, ht, Scan.extend]
  | case4 b rest hb s hs ih => simpa [scan, hb, hs] using ih
  | case5 b rest hb hf => simp [scan, hb, hf, Scan.extend]
  | case6 raw b rest ih => simpa [scan] using ih
  | case7 raw rest => simp [scan, finish_extend]
  | case8 raw b rest hb ih => simpa [scan, hb] using ih
  | case9 raw b rest hb ih => simpa [scan, hb] using ih
  | case10 raw b rest hb => simp [scan, hb, finish_extend]
  | case11 w b rest => simp [scan, Scan.extend]
  | case12 w rest c => simp [scan, Scan.extend]
  | case13 w c b rest hb => simp [scan, hb, Scan.extend]
  | case14 w rest c due hd ih => simpa [scan] using ih
  | case15 w c due b rest hd hb => simp [scan, hb, Scan.extend]

end Scanner

/-! ### Spellings -/

/-- The bytes of a word. -/
def Word.letters (w : Word) : List UInt8 :=
  match w with
  | .true => 116 :: w.tail
  | .false => 102 :: w.tail
  | .null => 110 :: w.tail

/-- Can all bytes lie between the quotes of a string? A quote can only behind a backslash, and no
backslash may wait for its partner at the end; `escaped` tells whether one does at the beginning. -/
def Scanner.isQuotable : Bool → List UInt8 → Bool
  | escaped, [] => !escaped
  | .true, _ :: rest => isQuotable false rest
  | .false, b :: rest => b != 34 && isQuotable (b == 92) rest

namespace Token

/-- Is the token a number? -/
def isNumber : Token → Bool
  | .integer _ | .real _ => true
  | _ => false

/-- A spelling of the token. -/
inductive Spells : Token → List UInt8 → Prop where
  /-- An opening brace. -/
  | startObject : Spells .startObject [123]
  /-- A closing brace. -/
  | endObject : Spells .endObject [125]
  /-- An opening bracket. -/
  | startArray : Spells .startArray [91]
  /-- A closing bracket. -/
  | endArray : Spells .endArray [93]
  /-- A text between quotes. -/
  | string {raw : List UInt8} {s : String} : Scanner.isQuotable false raw = true →
      Escape.decode raw = .ok s → Spells (.string s) (34 :: (raw ++ [34]))
  /-- A number. -/
  | number {b : UInt8} {body : List UInt8} {t : Token} : b = 45 ∨ Text.isDigit b →
      body.all Scanner.isNumberByte → Scanner.numberToken (b :: body) = .ok t →
      Spells t (b :: body)
  /-- A word. -/
  | word (w : Word) : Spells w.token w.letters

/-- A spelling of the token ends before these bytes: that of a number needs a byte behind it that no
number holds, and every other one needs nothing. -/
def EndsBefore (t : Token) (rest : List UInt8) : Prop :=
  t.isNumber → ∃ b more, rest = b :: more ∧ Scanner.isNumberByte b = false

end Token

namespace Scanner

theorem isNumber_of_numberToken {text : List UInt8} {t : Token} (h : numberToken text = .ok t) :
    t.isNumber := by
  unfold numberToken at h
  simp only at h
  split at h
  · cases h; rfl
  · split at h
    · cases h; rfl
    · cases h

theorem stringToken_eq_ok_iff {raw : List UInt8} {t : Token} :
    stringToken raw = .ok t ↔ ∃ s, Escape.decode raw = .ok s ∧ t = .string s := by
  unfold stringToken
  split
  · next s hs => simp [hs, eq_comm]
  · next f hf => simp [hf]

theorem finish_eq_token_iff {x : Except Fault Token} {rest rest' : List UInt8} {t : Token} :
    finish x rest = .token t rest' ↔ x = .ok t ∧ rest = rest' := by
  cases x <;> simp [finish]

/-! ### Tokens that have begun -/

/-- A string that has begun ends with the first quote that has no backslash before it. -/
theorem scan_string_iff {raw : List UInt8} {escaped : Bool} {bytes rest : List UInt8} {t : Token} :
    scan (.string raw escaped) bytes = .token t rest ↔
      ∃ body, bytes = body ++ 34 :: rest ∧ isQuotable escaped body = true ∧
        stringToken (raw.reverse ++ body) = .ok t := by
  induction bytes generalizing raw escaped with
  | nil => simp [scan]
  | cons b bytes ih =>
    cases escaped with
    | true =>
      rw [scan, ih]
      constructor
      · rintro ⟨body, rfl, hq, ht⟩
        exact ⟨b :: body, rfl, hq, by simpa using ht⟩
      · rintro ⟨body, hb, hq, ht⟩
        cases body with
        | nil => simp [isQuotable] at hq
        | cons c body =>
          obtain ⟨rfl, rfl⟩ := List.cons.inj hb
          exact ⟨body, rfl, hq, by simpa using ht⟩
    | false =>
      by_cases h34 : b = 34
      · subst h34
        simp only [scan, if_true, finish_eq_token_iff]
        constructor
        · rintro ⟨ht, rfl⟩
          exact ⟨[], rfl, rfl, by simpa using ht⟩
        · rintro ⟨body, hb, hq, ht⟩
          cases body with
          | nil => exact ⟨by simpa using ht, (List.cons.inj hb).2⟩
          | cons c body =>
            -- the quote would lie within the string
            obtain ⟨rfl, -⟩ := List.cons.inj hb
            simp [isQuotable] at hq
      · simp only [scan, h34, if_false, ih]
        constructor
        · rintro ⟨body, rfl, hq, ht⟩
          exact ⟨b :: body, rfl, by simp [isQuotable, h34, hq], by simpa using ht⟩
        · rintro ⟨body, hb, hq, ht⟩
          cases body with
          | nil => exact absurd (List.cons.inj hb).1 h34
          | cons c body =>
            obtain ⟨rfl, rfl⟩ := List.cons.inj hb
            simp only [isQuotable, Bool.and_eq_true] at hq
            exact ⟨body, rfl, hq.2, by simpa using ht⟩

/-- A number that has begun goes on to the first byte that no number holds. -/
theorem scan_number_iff {raw bytes rest : List UInt8} {t : Token} :
    scan (.number raw) bytes = .token t rest ↔
      ∃ body b more, bytes = body ++ rest ∧ rest = b :: more ∧ isNumberByte b = false ∧
        body.all isNumberByte ∧ numberToken (raw.reverse ++ body) = .ok t := by
  induction bytes generalizing raw with
  | nil =>
    simp only [scan, reduceCtorEq, false_iff]
    rintro ⟨body, b, more, heq, rfl, -⟩
    simp at heq
  | cons b bytes ih =>
    by_cases hb : isNumberByte b
    · simp only [scan, hb, if_true, ih]
      constructor
      · rintro ⟨body, c, more, rfl, hr, hc, hall, ht⟩
        exact ⟨b :: body, c, more, rfl, hr, hc, by simp [hb, hall], by simpa using ht⟩
      · rintro ⟨body, c, more, heq, rfl, hc, hall, ht⟩
        cases body with
        | nil =>
          obtain ⟨rfl, -⟩ := List.cons.inj heq
          simp [hb] at hc
        | cons d body =>
          obtain ⟨rfl, rfl⟩ := List.cons.inj heq
          simp only [List.all_cons, Bool.and_eq_true] at hall
          exact ⟨body, c, more, rfl, rfl, hc, hall.2, by simpa using ht⟩
    · simp only [scan, hb, Bool.false_eq_true, if_false, finish_eq_token_iff]
      constructor
      · rintro ⟨ht, rfl⟩
        exact ⟨[], b, bytes, rfl, rfl, by simpa using hb, rfl, by simpa using ht⟩
      · rintro ⟨body, c, more, heq, hr, -, hall, ht⟩
        cases body with
        | nil => exact ⟨by simpa using ht, by simpa using heq⟩
        | cons d body =>
          obtain ⟨rfl, -⟩ := List.cons.inj heq
          simp [hb] at hall

/-- A word that has begun goes on with the letters that are due. -/
theorem scan_word_iff {w : Word} {due bytes rest : List UInt8} {t : Token} (hd : due ≠ []) :
    scan (.word w due) bytes = .token t rest ↔ bytes = due ++ rest ∧ t = w.token := by
  induction bytes generalizing due with
  | nil => simp [scan, hd]
  | cons b bytes ih =>
    obtain ⟨c, due, rfl⟩ := List.exists_cons_of_ne_nil hd
    by_cases hb : b = c
    · cases due with
      | nil => simp [scan, hb, eq_comm, and_comm]
      | cons d due => simp [scan, hb, ih]
    · cases due with
      | nil => simp [scan, hb]
      | cons d due => simp [scan, hb]

/-! ### Tokens that have not begun -/

/-- What a number begins with is no separator and opens a number. -/
theorem opening_number {b : UInt8} (h : b = 45 ∨ Text.isDigit b) :
    isSeparator b = false ∧ opening b = .begun (.number [b]) := by
  have hb : b.toNat = 45 ∨ 48 ≤ b.toNat ∧ b.toNat ≤ 57 := by
    rcases h with rfl | h
    · exact Or.inl rfl
    · simp only [Text.isDigit, Bool.and_eq_true, decide_eq_true_eq, UInt8.le_iff_toNat_le] at h
      exact Or.inr h
  have hne (n : UInt8) (hn : n.toNat < 45 ∨ n.toNat = 58 ∨ 58 < n.toNat) : b ≠ n := by
    rintro rfl
    omega
  constructor
  · simp [isSeparator, hne 32 (by decide), hne 9 (by decide), hne 10 (by decide),
      hne 13 (by decide), hne 44 (by decide), hne 58 (by decide)]
  · simp [opening, h, hne 123 (by decide), hne 125 (by decide), hne 91 (by decide),
      hne 93 (by decide), hne 34 (by decide)]

/-- A scanned token ends where it may. -/
theorem endsBefore_of_scan_number {raw bytes rest : List UInt8} {t : Token}
    (h : scan (.number raw) bytes = .token t rest) : t.EndsBefore rest := by
  obtain ⟨-, b, more, -, hr, hb, -, -⟩ := scan_number_iff.mp h
  exact fun _ => ⟨b, more, hr, hb⟩

/-- What begins with a byte that separates nothing is scanned as a token only if it begins with a
spelling of it. -/
theorem spells_of_scan_front {b : UInt8} {bytes rest : List UInt8} {t : Token}
    (hb : isSeparator b = false) (h : scan .idle (b :: bytes) = .token t rest) :
    ∃ text, b :: bytes = text ++ rest ∧ t.Spells text ∧ t.EndsBefore rest := by
  have hno {t : Token} (ht : t.isNumber = false) : t.EndsBefore rest := by
    intro hn
    rw [ht] at hn
    cases hn
  simp only [scan, hb, Bool.false_eq_true, if_false, opening] at h
  split_ifs at h with h1 h2 h3 h4 h5 h6 h7 h8 h9
  · cases h
    exact ⟨[b], rfl, h1 ▸ .startObject, hno rfl⟩
  · cases h
    exact ⟨[b], rfl, h2 ▸ .endObject, hno rfl⟩
  · cases h
    exact ⟨[b], rfl, h3 ▸ .startArray, hno rfl⟩
  · cases h
    exact ⟨[b], rfl, h4 ▸ .endArray, hno rfl⟩
  · obtain ⟨body, rfl, hq, ht⟩ := scan_string_iff.mp h
    obtain ⟨s, hs, rfl⟩ := stringToken_eq_ok_iff.mp ht
    exact ⟨34 :: (body ++ [34]), by simp [h5], .string hq hs, hno rfl⟩
  · have he := endsBefore_of_scan_number h
    obtain ⟨body, -, -, rfl, -, -, hall, ht⟩ := scan_number_iff.mp h
    exact ⟨b :: body, rfl, .number h6 hall ht, he⟩
  · obtain ⟨rfl, rfl⟩ := (scan_word_iff (by decide)).mp h
    exact ⟨Word.true.letters, by rw [h7]; rfl, .word .true, hno rfl⟩
  · obtain ⟨rfl, rfl⟩ := (scan_word_iff (by decide)).mp h
    exact ⟨Word.false.letters, by rw [h8]; rfl, .word .false, hno rfl⟩
  · obtain ⟨rfl, rfl⟩ := (scan_word_iff (by decide)).mp h
    exact ⟨Word.null.letters, by rw [h9]; rfl, .word .null, hno rfl⟩

/-- A spelling at the front is scanned as its token. -/
theorem scan_spelling {t : Token} {text rest : List UInt8} (h : t.Spells text)
    (he : t.EndsBefore rest) : scan .idle (text ++ rest) = .token t rest := by
  cases h with
  | startObject => simp [scan, isSeparator, opening]
  | endObject => simp [scan, isSeparator, opening]
  | startArray => simp [scan, isSeparator, opening]
  | endArray => simp [scan, isSeparator, opening]
  | @string raw s hq hs =>
    have hstr : scan (.string [] false) (raw ++ 34 :: rest) = .token (.string s) rest :=
      scan_string_iff.mpr ⟨raw, rfl, hq, stringToken_eq_ok_iff.mpr ⟨s, hs, rfl⟩⟩
    simpa [scan, isSeparator, opening] using hstr
  | @number b body t hb hall ht =>
    obtain ⟨c, more, hr, hc⟩ := he (isNumber_of_numberToken ht)
    have hnum : scan (.number [b]) (body ++ rest) = .token t rest :=
      scan_number_iff.mpr ⟨body, c, more, rfl, hr, hc, hall, ht⟩
    obtain ⟨hsep, hopen⟩ := opening_number hb
    simpa [scan, hsep, hopen] using hnum
  | word w =>
    have hw : scan (.word w w.tail) (w.tail ++ rest) = .token w.token rest :=
      (scan_word_iff (by cases w <;> decide)).mpr ⟨rfl, rfl⟩
    cases w <;> simpa [scan, isSeparator, opening, Word.letters, Text.isDigit] using hw

/-- Separators at the front are passed over. -/
theorem scan_gap {gap : List UInt8} (h : gap.all isSeparator) (bytes : List UInt8) :
    scan .idle (gap ++ bytes) = scan .idle bytes := by
  induction gap with
  | nil => rfl
  | cons b gap ih =>
    simp only [List.all_cons, Bool.and_eq_true] at h
    simp [scan, h.1, ih h.2]

/-- Bytes of which the first ends a number. -/
def EndsNumber (bytes : List UInt8) : Prop :=
  ∃ b more, bytes = b :: more ∧ isNumberByte b = false

theorem isNumberByte_of_isSeparator {b : UInt8} (h : isSeparator b = true) :
    isNumberByte b = false := by
  simp only [isSeparator, Bool.or_eq_true, beq_iff_eq, or_assoc] at h
  rcases h with rfl | rfl | rfl | rfl | rfl | rfl <;> rfl

/-- Separators end a number, and so does what stands behind none. -/
theorem endsNumber_append {gap bytes : List UInt8} (hgap : gap.all isSeparator = true)
    (h : EndsNumber bytes) : EndsNumber (gap ++ bytes) := by
  cases gap with
  | nil => exact h
  | cons b gap =>
    simp only [List.all_cons, Bool.and_eq_true] at hgap
    exact ⟨b, gap ++ bytes, rfl, isNumberByte_of_isSeparator hgap.1⟩

/-- **Tokens by their spellings**: a token is scanned where separators, a spelling of it and the
bytes behind it stand, and the spelling may end there. -/
theorem scan_idle_iff {bytes rest : List UInt8} {t : Token} :
    scan .idle bytes = .token t rest ↔
      ∃ gap text, bytes = gap ++ (text ++ rest) ∧ gap.all isSeparator ∧ t.Spells text ∧
        t.EndsBefore rest := by
  constructor
  · intro h
    induction bytes with
    | nil => simp [scan] at h
    | cons b bytes ih =>
      by_cases hb : isSeparator b
      · simp only [scan, hb, if_true] at h
        obtain ⟨gap, text, rfl, hg, ht, he⟩ := ih h
        exact ⟨b :: gap, text, rfl, by simp [hb, hg], ht, he⟩
      · obtain ⟨text, heq, ht, he⟩ := spells_of_scan_front (by simpa using hb) h
        exact ⟨[], text, heq, rfl, ht, he⟩
  · rintro ⟨gap, text, rfl, hg, ht, he⟩
    rw [scan_gap hg]
    exact scan_spelling ht he

/-- What is left behind a token stands at the end of the part. -/
theorem suffix_of_scan {s : Scanner} {bytes rest : List UInt8} {t : Token}
    (h : scan s bytes = .token t rest) : ∃ front, bytes = front ++ rest := by
  cases s with
  | idle =>
    obtain ⟨gap, text, rfl, -⟩ := scan_idle_iff.mp h
    exact ⟨gap ++ text, by simp⟩
  | string raw escaped =>
    obtain ⟨body, rfl, -⟩ := scan_string_iff.mp h
    exact ⟨body ++ [34], by simp⟩
  | number raw =>
    obtain ⟨body, b, more, rfl, -⟩ := scan_number_iff.mp h
    exact ⟨body, rfl⟩
  | word w due =>
    cases due with
    | nil =>
      cases bytes with
      | nil => simp [scan] at h
      | cons b bytes =>
        simp only [scan, Scan.token.injEq] at h
        exact ⟨[], h.2⟩
    | cons c due =>
      obtain ⟨rfl, -⟩ := (scan_word_iff (by simp)).mp h
      exact ⟨c :: due, rfl⟩

end Scanner

end ExportStream
