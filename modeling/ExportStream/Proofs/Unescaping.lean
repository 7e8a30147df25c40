import ExportStream.Proofs.Writing
/-!
# Decoding by indices

The library takes lists apart, so that it cannot read where nothing is. Here the bytes between two
quotes are decoded as a program in front of a buffer does it: with indices into the bytes, parts of
them from one index to another, and differences of numbers, each of which may be out of range. Such
a program answers `none` as soon as one of its accesses is, or its index has passed the end.

None ever is: the program answers what `Escape.decode` does (**`Indexed.unescape_eq`**). What carries
its loop is where its index stands: the bytes before it and those from it on make up the whole.
-/

namespace ExportStream

namespace Indexed

/-! ### Accesses -/

/-- The part of a list from one index up to another, if it has such a part. -/
def slice? {α : Type} (xs : List α) (i j : Nat) : Option (List α) :=
  if i ≤ j ∧ j ≤ xs.length then some ((xs.take j).drop i) else none

/-- The difference of two numbers, if it is one. -/
def sub? (m n : Nat) : Option Nat := if n ≤ m then some (m - n) else none

theorem slice?_eq {α : Type} {xs : List α} {i j : Nat} (hi : i ≤ j) (hj : j ≤ xs.length) :
    slice? xs i j = some ((xs.take j).drop i) := if_pos ⟨hi, hj⟩

/-- A part that a list has is as long as its indices are apart. -/
theorem length_of_slice? {α : Type} {xs part : List α} {i j : Nat} (h : slice? xs i j = some part) :
    part.length = j - i := by
  unfold slice? at h
  split_ifs at h with hrange
  cases h
  rw [List.length_drop, List.length_take, Nat.min_eq_left hrange.2]

theorem slice?_to_end {α : Type} {xs : List α} {i : Nat} (hi : i ≤ xs.length) :
    slice? xs i xs.length = some (xs.drop i) := by
  rw [slice?_eq hi (Nat.le_refl _), List.take_length]

theorem slice?_append {α : Type} (front part : List α) :
    slice? (front ++ part) front.length (front ++ part).length = some part := by
  rw [slice?_to_end (by simp), List.drop_left]

theorem slice?_front {α : Type} (front part : List α) :
    slice? (front ++ part) 0 front.length = some front := by
  rw [slice?_eq (Nat.zero_le _) (by simp), List.take_left, List.drop_zero]

theorem sub?_eq {m n : Nat} (h : n ≤ m) : sub? m n = some (m - n) := if_pos h

/-- Behind the bytes before the index stand those from it on. -/
theorem getElem?_append_at {α : Type} (front part : List α) (i : Nat) :
    (front ++ part)[front.length + i]? = part[i]? := by
  rw [List.getElem?_append_right (Nat.le_add_right ..), Nat.add_sub_cancel_left]

theorem getElem?_append_head {α : Type} (front part : List α) :
    (front ++ part)[front.length]? = part.head? := by
  rw [List.head?_eq_getElem?]
  exact getElem?_append_at front part 0

/-! ### Escapes -/

/-- The code of the four bytes from an index on, if there are four. -/
def readHex (raw : List UInt8) (i : Nat) : Except Escape.Fault Nat :=
  match slice? raw i (i + 4) with
  | some [a, b, c, d] => Escape.readCode a b c d
  | _ => .error .truncated

/-- The code behind a backslash and the letter of a code, the four bytes of which start at an index,
and the index behind it. A high surrogate takes a low one. -/
def readUnicode (raw : List UInt8) (i : Nat) : Option (Except Escape.Fault (Nat × Nat)) :=
  match readHex raw i with
  | .error f => some (.error f)
  | .ok high =>
    if Escape.isHigh high then
      if raw[i + 4]? = some 92 ∧ raw[i + 5]? = some 117 then
        match readHex raw (i + 6) with
        | .error f => some (.error f)
        | .ok low =>
          if Escape.isLow low then
            match sub? high 0xD800, sub? low 0xDC00 with
            | some h, some l => some (.ok (0x10000 + h * 0x400 + l, i + 10))
            | _, _ => none
          else some (.error .lowSurrogate)
      else some (.error .unpaired)
    else some (.ok (high, i + 4))

theorem readUnicode_index {raw : List UInt8} {i j code : Nat}
    (h : readUnicode raw i = some (.ok (code, j))) : i < j := by
  unfold readUnicode at h
  split at h
  · cases h
  · split_ifs at h
    · split at h
      · cases h
      · split_ifs at h
        · split at h
          · cases h
            omega
          · cases h
        · cases h
    · cases h
    · cases h
      omega

/-- The bytes that the bytes from an index on stand for, behind those that were put out before. -/
def expandFrom (raw : List UInt8) (i : Nat) (out : List UInt8) :
    Option (Except Escape.Fault (List UInt8)) :=
  if i < raw.length then
    match raw[i]? with
    | none => none
    | some b =>
      if b = 92 then
        match raw[i + 1]? with
        | none => some (.error .unterminated)
        | some e =>
          if e = 117 then
            match _h : readUnicode raw (i + 2) with
            | none => none
            | some (.error f) => some (.error f)
            | some (.ok (code, j)) =>
              match Escape.charOf? code with
              | some ch => expandFrom raw j (out ++ Text.Utf8.encodeChar ch)
              | none => some (.error .code)
          else
            match Escape.short? e with
            | some byte => expandFrom raw (i + 2) (out ++ [byte])
            | none => some (.error (.letter e))
      else expandFrom raw (i + 1) (out ++ [b])
  else if i = raw.length then some (.ok out)
  else none
termination_by raw.length - i
decreasing_by
  · have := readUnicode_index _h
    omega
  · omega
  · omega

/-- The bytes that the bytes between two quotes stand for: themselves, where no backslash is. -/
def expand (raw : List UInt8) : Option (Except Escape.Fault (List UInt8)) :=
  if raw.contains 92 then expandFrom raw 0 [] else some (.ok raw)

/-- The text that the bytes between two quotes stand for. -/
def unescape (raw : List UInt8) : Option (Except Escape.Fault String) := do
  match ← expand raw with
  | .error f => return .error f
  | .ok bytes =>
    match Text.Utf8.text? bytes with
    | some text => return .ok text
    | none => return .error .encoding

/-! ### No escape is out of range -/

variable {front rest raw : List UInt8}

/-- The four bytes of a code stand from the index on. -/
theorem readHex_append (front : List UInt8) (a b c d : UInt8) (rest : List UInt8) :
    readHex (front ++ a :: b :: c :: d :: rest) front.length = Escape.readCode a b c d := by
  have hslice : slice? (front ++ a :: b :: c :: d :: rest) front.length (front.length + 4) =
      some [a, b, c, d] := by
    rw [slice?_eq (Nat.le_add_right ..) (by simp), List.take_append, List.take_of_length_le (by simp),
      List.drop_left, Nat.add_sub_cancel_left]
    rfl
  rw [readHex, hslice]

/-- Where fewer than four bytes stand, there is no code. -/
theorem readHex_of_short (h : rest.length < 4) : readHex (front ++ rest) front.length =
    .error .truncated := by
  have hslice : slice? (front ++ rest) front.length (front.length + 4) = none := by
    rw [slice?, if_neg (by simp; omega)]
  rw [readHex, hslice]

/-- The character of a pair of surrogates is one. -/
theorem charOf?_pair {high low : Nat} (hhigh : Escape.isHigh high = true)
    (hlow : Escape.isLow low = true) :
    Escape.charOf? (0x10000 + (high - 0xD800) * 0x400 + (low - 0xDC00)) =
      some (Escape.pairChar high low) := by
  simp only [Escape.isHigh, Escape.isLow, Bool.and_eq_true, decide_eq_true_eq] at hhigh hlow
  rw [Escape.charOf?, if_pos]
  · rfl
  · right
    omega

/-- Four bytes stand where no fewer do. -/
theorem exists_four {bytes : List UInt8} (h : ¬bytes.length < 4) :
    ∃ a b c d more, bytes = a :: b :: c :: d :: more := by
  rcases bytes with _ | ⟨a, _ | ⟨b, _ | ⟨c, _ | ⟨d, more⟩⟩⟩⟩
  · exact absurd (by simp) h
  · exact absurd (by simp) h
  · exact absurd (by simp) h
  · exact absurd (by simp) h
  · exact ⟨a, b, c, d, more, rfl⟩

section Codes

variable {a b c d : UInt8} {f : Escape.Fault} {high low : Nat}

theorem expand_of_short (h : rest.length < 4) :
    Escape.expand (92 :: 117 :: rest) = .error .truncated := by
  rw [Escape.expand, if_pos rfl, if_pos rfl]
  rintro a b c d more rfl
  simp only [List.length_cons] at h
  omega

theorem expand_of_refused (h : Escape.readCode a b c d = .error f) :
    Escape.expand (92 :: 117 :: a :: b :: c :: d :: rest) = .error f := by
  rw [Escape.expand, if_pos rfl, if_pos rfl, h]
  rfl

/-- A code that is no high surrogate is that of a character. -/
theorem expand_of_single (h : Escape.readCode a b c d = .ok high) (hhigh : ¬Escape.isHigh high) :
    Escape.expand (92 :: 117 :: a :: b :: c :: d :: rest) =
      match Escape.charOf? high with
      | some ch => (Escape.expand rest).map (Text.Utf8.encodeChar ch ++ ·)
      | none => .error .code := by
  rw [Escape.expand, if_pos rfl, if_pos rfl, h]
  simp only [bind, Except.bind, if_neg hhigh]
  rcases Escape.charOf? high with _ | ch
  · rfl
  · rcases Escape.expand rest with g | more <;> rfl

theorem expand_of_unpaired (h : Escape.readCode a b c d = .ok high) (hhigh : Escape.isHigh high)
    (hrest : ¬∃ more, rest = 92 :: 117 :: more) :
    Escape.expand (92 :: 117 :: a :: b :: c :: d :: rest) = .error .unpaired := by
  rw [Escape.expand, if_pos rfl, if_pos rfl, h]
  simp only [bind, Except.bind, if_pos hhigh]
  split
  · exact absurd ⟨_, rfl⟩ hrest
  · rfl

/-- Behind a high surrogate and the opening of another code, the other code is read. -/
theorem expand_of_pair (e g i j : UInt8) (rest : List UInt8)
    (h : Escape.readCode a b c d = .ok high) (hhigh : Escape.isHigh high) :
    Escape.expand (92 :: 117 :: a :: b :: c :: d :: 92 :: 117 :: e :: g :: i :: j :: rest) =
      match Escape.readCode e g i j with
      | .error f => .error f
      | .ok low =>
        if Escape.isLow low then
          (Escape.expand rest).map (Text.Utf8.encodeChar (Escape.pairChar high low) ++ ·)
        else .error .lowSurrogate := by
  rw [Escape.expand, if_pos rfl, if_pos rfl, h]
  simp only [bind, Except.bind, if_pos hhigh]
  rcases Escape.readCode e g i j with f | low
  · rfl
  · by_cases hlow : Escape.isLow low = true
    · simp only [hlow, if_true]
      rcases Escape.expand rest with g | more <;> rfl
    · simp only [if_neg hlow]

theorem expand_of_short_pair (h : Escape.readCode a b c d = .ok high)
    (hhigh : Escape.isHigh high) (hrest : rest.length < 4) :
    Escape.expand (92 :: 117 :: a :: b :: c :: d :: 92 :: 117 :: rest) = .error .truncated := by
  rw [Escape.expand, if_pos rfl, if_pos rfl, h]
  simp only [bind, Except.bind, if_pos hhigh]
  split
  · simp only [List.length_cons] at hrest
    omega
  · rfl

end Codes

/-- What the code behind a backslash and its letter comes to: the list is refused as it is, or its
character stands before what the bytes behind it expand to. -/
def Coded (front rest : List UInt8) : Except Escape.Fault (Nat × Nat) → Prop
  | .error f => Escape.expand (92 :: 117 :: rest) = .error f
  | .ok (code, j) => ∃ text rest', rest = text ++ rest' ∧ j = (front ++ text).length ∧
      Escape.expand (92 :: 117 :: rest) =
        match Escape.charOf? code with
        | some ch => (Escape.expand rest').map (Text.Utf8.encodeChar ch ++ ·)
        | none => .error .code

theorem readUnicode_spec (front rest : List UInt8) :
    ∃ r, readUnicode (front ++ rest) front.length = some r ∧ Coded front rest r := by
  by_cases hshort : rest.length < 4
  · refine ⟨.error .truncated, ?_, expand_of_short hshort⟩
    rw [readUnicode, readHex_of_short hshort]
  obtain ⟨a, b, c, d, rest, rfl⟩ := exists_four hshort
  rw [readUnicode, readHex_append]
  rcases hcode : Escape.readCode a b c d with f | high
  · exact ⟨.error f, rfl, expand_of_refused hcode⟩
  by_cases hhigh : Escape.isHigh high = true
  · have hfour : (front ++ a :: b :: c :: d :: rest)[front.length + 4]? = rest[0]? :=
      getElem?_append_at front _ 4
    have hfive : (front ++ a :: b :: c :: d :: rest)[front.length + 5]? = rest[1]? :=
      getElem?_append_at front _ 5
    simp only [hhigh, if_true, hfour, hfive]
    by_cases hpair : ∃ more, rest = 92 :: 117 :: more
    · obtain ⟨rest, rfl⟩ := hpair
      have hlist : front ++ a :: b :: c :: d :: 92 :: 117 :: rest =
          (front ++ [a, b, c, d, 92, 117]) ++ rest := by simp
      have hlength : front.length + 6 = (front ++ [a, b, c, d, 92, 117]).length := by simp
      simp only [List.getElem?_cons_zero, List.getElem?_cons_succ, and_self, if_true, hlist,
        hlength]
      by_cases hless : rest.length < 4
      · rw [readHex_of_short hless]
        exact ⟨.error .truncated, rfl, expand_of_short_pair hcode hhigh hless⟩
      obtain ⟨e, g, i, j, rest, rfl⟩ := exists_four hless
      have hexpand := expand_of_pair e g i j rest hcode hhigh
      rw [readHex_append]
      rcases hlow : Escape.readCode e g i j with f | low
      · rw [hlow] at hexpand
        exact ⟨.error f, rfl, hexpand⟩
      rw [hlow] at hexpand
      by_cases hislow : Escape.isLow low = true
      · have hchar := charOf?_pair hhigh hislow
        have hfar := hhigh
        have hnear := hislow
        simp only [Escape.isHigh, Escape.isLow, Bool.and_eq_true, decide_eq_true_eq] at hfar hnear
        simp only [hislow, if_true, sub?_eq hfar.1, sub?_eq hnear.1] at hexpand ⊢
        refine ⟨_, rfl, [a, b, c, d, 92, 117, e, g, i, j], rest, rfl, by simp, ?_⟩
        rw [hchar]
        exact hexpand
      · simp only [if_neg hislow] at hexpand ⊢
        exact ⟨_, rfl, hexpand⟩
    · rw [if_neg]
      · exact ⟨_, rfl, expand_of_unpaired hcode hhigh hpair⟩
      · rintro ⟨hzero, hone⟩
        rcases rest with _ | ⟨x, _ | ⟨y, more⟩⟩
        · simp at hzero
        · simp at hone
        · simp only [List.getElem?_cons_zero, List.getElem?_cons_succ, Option.some.injEq] at hzero hone
          exact hpair ⟨more, by rw [hzero, hone]⟩
  · simp only [if_neg hhigh]
    exact ⟨_, rfl, [a, b, c, d], rest, rfl, by simp, expand_of_single hcode hhigh⟩

/-! ### The bytes between two quotes -/

theorem expand_plain_byte {b : UInt8} (h : b ≠ 92) :
    Escape.expand (b :: rest) = (Escape.expand rest).map ([b] ++ ·) := by
  rw [Escape.expand.eq_def]
  simp only [if_neg h]
  rcases Escape.expand rest with f | more <;> rfl

theorem expand_letter {e : UInt8} (h : e ≠ 117) :
    Escape.expand (92 :: e :: rest) =
      match Escape.short? e with
      | some byte => (Escape.expand rest).map ([byte] ++ ·)
      | none => .error (.letter e) := by
  rw [Escape.expand.eq_def]
  simp only [if_true, if_neg h]
  rcases Escape.short? e with _ | byte
  · rfl
  · rcases Escape.expand rest with f | more <;> rfl

theorem map_append (r : Except Escape.Fault (List UInt8)) (out text : List UInt8) :
    r.map ((out ++ text) ++ ·) = (r.map (text ++ ·)).map (out ++ ·) := by
  rcases r with f | more
  · rfl
  · exact congrArg Except.ok (List.append_assoc ..)

/-- From an index on, the bytes behind it are expanded. -/
theorem expandFrom_append (front bytes out : List UInt8) :
    expandFrom (front ++ bytes) front.length out =
      some ((Escape.expand bytes).map (out ++ ·)) := by
  induction hn : bytes.length using Nat.strongRecOn generalizing front bytes out with
  | ind n ih =>
    subst hn
    -- the bytes behind a part that is done are fewer
    have hnext (text rest more : List UInt8) (hne : bytes = text ++ rest) (hlt : 0 < text.length) :
        expandFrom (front ++ bytes) (front ++ text).length more =
          some ((Escape.expand rest).map (more ++ ·)) := by
      subst hne
      rw [← List.append_assoc]
      exact ih rest.length (by simp only [List.length_append]; omega) (front ++ text) rest more rfl
    rcases bytes with _ | ⟨b, rest⟩
    · rw [expandFrom, if_neg (by simp), if_pos (by simp), Escape.expand]
      simp [Except.map]
    rw [expandFrom, if_pos (by simp), getElem?_append_head]
    simp only [List.head?_cons]
    by_cases hb : b = 92
    · subst hb
      have hsecond : (front ++ 92 :: rest)[front.length + 1]? = rest[0]? :=
        getElem?_append_at front _ 1
      simp only [if_true, hsecond]
      rcases rest with _ | ⟨e, rest⟩
      · rfl
      simp only [List.getElem?_cons_zero]
      by_cases he : e = 117
      · subst he
        obtain ⟨r, hr, hcoded⟩ := readUnicode_spec (front ++ [92, 117]) rest
        rw [List.append_assoc, List.length_append] at hr
        simp only [if_true]
        split
        · next hnone => cases hr.symm.trans hnone
        · next f herror =>
          cases hr.symm.trans herror
          rw [hcoded]
          rfl
        · next code j hok =>
          cases hr.symm.trans hok
          obtain ⟨text, rest', rfl, rfl, hexpand⟩ := hcoded
          rw [hexpand]
          rcases Escape.charOf? code with _ | ch
          · rfl
          · have hmore := hnext ([92, 117] ++ text) rest' (out ++ Text.Utf8.encodeChar ch) rfl
              (by simp)
            rw [← List.append_assoc front] at hmore
            simp only
            rw [hmore, map_append]
      · simp only [if_neg he, expand_letter he]
        rcases Escape.short? e with _ | byte
        · rfl
        · have hmore := hnext [92, e] rest (out ++ [byte]) rfl (by simp)
          rw [List.length_append] at hmore
          simp only
          rw [← map_append]
          exact hmore
    · have hmore := hnext [b] rest (out ++ [b]) rfl (by simp)
      rw [List.length_append] at hmore
      simp only [if_neg hb]
      rw [expand_plain_byte hb, ← map_append]
      exact hmore

theorem expand_eq (raw : List UInt8) : expand raw = some (Escape.expand raw) := by
  by_cases h : raw.contains 92 = true
  · have hall := expandFrom_append [] raw []
    rw [List.nil_append, List.length_nil] at hall
    rw [expand, if_pos h, hall]
    rcases Escape.expand raw with f | bytes <;> rfl
  · have hplain : ∀ b ∈ raw, b ≠ 92 := by
      intro b hb heq
      subst heq
      exact h (List.contains_iff_mem.mpr hb)
    rw [expand, if_neg h, Escape.expand_plain hplain]

/-- **The bytes between two quotes are decoded by indices that are in range.** -/
theorem unescape_eq (raw : List UInt8) : unescape raw = some (Escape.decode raw) := by
  rw [unescape, expand_eq, Escape.decode]
  rcases Escape.expand raw with f | bytes
  · rfl
  · simp only [bind, Option.bind, Except.bind]
    rcases Text.Utf8.text? bytes with _ | text <;> rfl

end Indexed

end ExportStream
