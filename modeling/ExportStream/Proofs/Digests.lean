import ExportStream.Digest.ContentHash
import ExportStream.Proofs.Writing
/-!
# Base64 and content hashes

A byte string is read back from its base64 text (**`Digest.Base64.decode_encode`**). The text goes
in groups of four symbols for three bytes, so that the proof follows the groups of the encoder: a
group with another one behind it stands for its three bytes, and the last one, with its padding, for
the one to three bytes that are left.

A content hash is the base64 text of 32 bytes and so always of one length
(`Digest.length_contentHash`), which is what makes it readable at the end of a text that nothing
else delimits.
-/

namespace ExportStream.Digest

/-! ### Symbols -/

namespace Base64

theorem value?_symbol {n : Nat} (h : n < 64) : value? (symbol n) = some n := by
  have hall : ∀ m : Fin 64, value? (symbol m) = some m.val := by decide
  exact hall ⟨n, h⟩

theorem symbol_ne_pad {n : Nat} (h : n < 64) : symbol n ≠ pad := by
  have hall : ∀ m : Fin 64, symbol m ≠ pad := by decide
  exact hall ⟨n, h⟩

theorem symbol_ascii (n : Nat) : (symbol n).toNat < 128 := by
  unfold symbol
  split_ifs
  · rw [UInt8.toNat_ofNat']
    omega
  · rw [UInt8.toNat_ofNat']
    omega
  · rw [UInt8.toNat_ofNat']
    omega
  · decide
  · decide

theorem valueAt_symbol {n : Nat} (h : n < 64) (offset : Nat) :
    valueAt offset (symbol n) = .ok n := by
  rw [valueAt, value?_symbol h]

/-! ### Groups -/

theorem readTail_symbol {n : Nat} (h : n < 64) (start i : Nat) (t : Tail) (hpads : t.pads = 0)
    (rest : List UInt8) :
    readTail start t i (symbol n :: rest) =
      readTail start { t with values := t.values ++ [n], last := symbol n } (i + 1) rest := by
  rw [readTail]
  simp only [symbol_ne_pad h, hpads, value?_symbol h, if_false, Nat.lt_irrefl]

theorem readTail_pad {i : Nat} (h : 2 ≤ i) (start : Nat) (t : Tail) (rest : List UInt8) :
    readTail start t i (pad :: rest) =
      readTail start
        { t with pads := t.pads + 1, firstPad := if t.pads = 0 then i else t.firstPad } (i + 1)
        rest := by
  rw [readTail]
  simp only [if_true, if_neg (Nat.not_lt.mpr h)]

theorem decodeTail_two {a b : Nat} (ha : a < 64) (hb : b < 64) (hlast : b % 16 = 0)
    (start : Nat) :
    decodeTail start [symbol a, symbol b, pad, pad] = .ok ((threeBytes a b 0 0).take 1) := by
  unfold decodeTail
  rw [readTail_symbol ha _ _ _ rfl, readTail_symbol hb _ _ _ rfl, readTail_pad (by omega),
    readTail_pad (by omega), readTail]
  simp [bind, Except.bind, hlast]

theorem decodeTail_three {a b c : Nat} (ha : a < 64) (hb : b < 64) (hc : c < 64)
    (hlast : c % 4 = 0) (start : Nat) :
    decodeTail start [symbol a, symbol b, symbol c, pad] = .ok ((threeBytes a b c 0).take 2) := by
  unfold decodeTail
  rw [readTail_symbol ha _ _ _ rfl, readTail_symbol hb _ _ _ rfl, readTail_symbol hc _ _ _ rfl,
    readTail_pad (by omega), readTail]
  simp [bind, Except.bind, hlast]

theorem decodeTail_four {a b c d : Nat} (ha : a < 64) (hb : b < 64) (hc : c < 64) (hd : d < 64)
    (start : Nat) :
    decodeTail start [symbol a, symbol b, symbol c, symbol d] = .ok (threeBytes a b c d) := by
  unfold decodeTail
  rw [readTail_symbol ha _ _ _ rfl, readTail_symbol hb _ _ _ rfl, readTail_symbol hc _ _ _ rfl,
    readTail_symbol hd _ _ _ rfl, readTail]
  simp [bind, Except.bind]

/-- A group stands for its three bytes, whether another one follows or not. -/
theorem decodeGroups_four {a b c d : Nat} (ha : a < 64) (hb : b < 64) (hc : c < 64) (hd : d < 64)
    {start : Nat} {text bytes : List UInt8} (h : decodeGroups (start + 4) text = .ok bytes) :
    decodeGroups start (symbol a :: symbol b :: symbol c :: symbol d :: text) =
      .ok (threeBytes a b c d ++ bytes) := by
  cases text with
  | nil =>
    rw [decodeGroups] at h
    cases h
    rw [decodeGroups, decodeTail_four ha hb hc hd, List.append_nil]
    all_goals simp
  | cons e rest =>
    rw [decodeGroups, valueAt_symbol ha, valueAt_symbol hb, valueAt_symbol hc, valueAt_symbol hd]
    simp only [bind, Except.bind, h]

/-- The symbols of three bytes hold them. -/
theorem threeBytes_split (a b c : UInt8) :
    threeBytes (a.toNat / 4) (a.toNat % 4 * 16 + b.toNat / 16) (b.toNat % 16 * 4 + c.toNat / 64)
      (c.toNat % 64) = [a, b, c] := by
  have ha := a.toNat_lt
  have hb := b.toNat_lt
  have hc := c.toNat_lt
  unfold threeBytes
  simp only [List.cons.injEq, and_true, ← UInt8.toNat_inj, UInt8.toNat_ofNat']
  omega

/-! ### Texts -/

theorem length_encode (bytes : List UInt8) :
    (encode bytes).length = 4 * ((bytes.length + 2) / 3) := by
  fun_induction encode bytes with
  | case1 => rfl
  | case2 => simp
  | case3 => simp
  | case4 a b c rest ih =>
    simp only [List.length_cons, ih]
    omega

theorem encode_ascii (bytes : List UInt8) : ∀ b ∈ encode bytes, b.toNat < 128 := by
  have hpad : pad.toNat < 128 := by decide
  fun_induction encode bytes with
  | case1 => simp
  | case2 a => simp [symbol_ascii, hpad]
  | case3 a b => simp [symbol_ascii, hpad]
  | case4 a b c rest ih =>
    simp only [List.forall_mem_cons]
    exact ⟨symbol_ascii _, symbol_ascii _, symbol_ascii _, symbol_ascii _, ih⟩

theorem decodeGroups_encode (start : Nat) (bytes : List UInt8) :
    decodeGroups start (encode bytes) = .ok bytes := by
  fun_induction encode bytes generalizing start with
  | case1 => rw [decodeGroups]
  | case2 a =>
    have ha := a.toNat_lt
    have hbytes := threeBytes_split a 0 0
    simp only [UInt8.toNat_zero, Nat.zero_div, Nat.zero_mod, Nat.add_zero, Nat.zero_mul] at hbytes
    rw [decodeGroups, decodeTail_two (by omega) (by omega) (by omega), hbytes]
    · rfl
    all_goals simp
  | case3 a b =>
    have ha := a.toNat_lt
    have hb := b.toNat_lt
    have hbytes := threeBytes_split a b 0
    simp only [UInt8.toNat_zero, Nat.zero_div, Nat.zero_mod, Nat.add_zero] at hbytes
    rw [decodeGroups, decodeTail_three (by omega) (by omega) (by omega) (by omega), hbytes]
    · rfl
    all_goals simp
  | case4 a b c rest ih =>
    have ha := a.toNat_lt
    have hb := b.toNat_lt
    have hc := c.toNat_lt
    rw [decodeGroups_four (by omega) (by omega) (by omega) (by omega) (ih _), threeBytes_split]
    rfl

/-- **A byte string is read back from its text.** -/
theorem decode_encode (bytes : List UInt8) : decode (encode bytes) = .ok bytes := by
  have hwhole : ¬(encode bytes).length % 4 = 1 := by
    rw [length_encode]
    omega
  have hstray : strayLast? (encode bytes) = none := by
    rw [strayLast?, if_neg hwhole]
  rw [decode, hstray]
  exact decodeGroups_encode 0 bytes

/-- The text of a byte string as a text. -/
def text (bytes : List UInt8) : String := Text.Utf8.lossy (encode bytes)

/-- Every symbol is a character. -/
theorem text_eq (bytes : List UInt8) :
    text bytes = String.ofList ((encode bytes).map fun b => Text.Utf8.charOf b.toNat) := by
  have hbytes := Text.Utf8.text?_eq_some_iff.mp (Text.Utf8.text?_ascii (encode_ascii bytes))
  rw [text]
  exact (congrArg Text.Utf8.lossy hbytes).trans (Text.Utf8.lossy_bytesOf _)

theorem bytesOf_text (bytes : List UInt8) : Text.Utf8.bytesOf (text bytes) = encode bytes := by
  rw [text_eq]
  exact (Text.Utf8.text?_eq_some_iff.mp (Text.Utf8.text?_ascii (encode_ascii bytes))).symm

theorem length_text (bytes : List UInt8) :
    (text bytes).toList.length = 4 * ((bytes.length + 2) / 3) := by
  rw [text_eq, String.toList_ofList, List.length_map, length_encode]

end Base64

/-! ### Content hashes -/

theorem length_wordBytes (w : UInt32) : (wordBytes w).length = 4 := rfl

theorem length_sha256 (message : List UInt8) : (sha256 message).length = 32 := by
  unfold sha256
  simp [length_wordBytes]

theorem contentHash_eq (payload : List UInt8) :
    contentHash payload = Base64.text (sha256 payload) := rfl

/-- All content hashes are of one length. -/
theorem length_contentHash (payload : List UInt8) : (contentHash payload).toList.length = 44 := by
  rw [contentHash_eq, Base64.length_text, length_sha256]

end ExportStream.Digest
