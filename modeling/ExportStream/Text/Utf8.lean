/-!
# UTF-8

Bytes to characters. A byte string is read one character at a time (`takeChar`); where no character
stands, the longest start of one that the bytes still allow is taken off as *bad*, which is what
both the error report and the forgiving reading need:

* `decode` refuses the first bad part and tells where it starts and whether the bytes just ended too
  soon;
* `decodeLossy` writes one replacement character for each bad part and reads on.
-/

namespace ExportStream.Text.Utf8

/-- The bytes that may continue a character. -/
def isTail (b : UInt8) : Bool := 0x80 ≤ b && b ≤ 0xBF

/-- What stands at the front of a byte string. -/
inductive Front where
  /-- A character, and the bytes after it. -/
  | char (c : Char) (rest : List UInt8)
  /-- So many bytes that cannot belong to any character, and the bytes after them. -/
  | bad (count : Nat) (rest : List UInt8)
  /-- So many bytes that start a character and end before it is complete. -/
  | cut (count : Nat)

/-- The character with a code made of payload bits; every code that reaches it is a character. -/
def charOf (code : Nat) : Char := Char.ofNat code

/-- The payload bits of a continuing byte. -/
def tailBits (b : UInt8) : Nat := b.toNat % 64

/-- The range of the second byte of a character of three bytes. -/
def second3 (a b : UInt8) : Bool :=
  if a = 0xE0 then 0xA0 ≤ b && b ≤ 0xBF
  else if a = 0xED then 0x80 ≤ b && b ≤ 0x9F
  else isTail b

/-- The range of the second byte of a character of four bytes. -/
def second4 (a b : UInt8) : Bool :=
  if a = 0xF0 then 0x90 ≤ b && b ≤ 0xBF
  else if a = 0xF4 then 0x80 ≤ b && b ≤ 0x8F
  else isTail b

/-- A character of two bytes from its first byte and what follows. -/
def take2 (a : UInt8) : List UInt8 → Front
  | [] => .cut 1
  | b :: rest =>
    if isTail b then .char (charOf (a.toNat % 32 * 64 + tailBits b)) rest else .bad 1 (b :: rest)

/-- A character of three bytes from its first byte and what follows. -/
def take3 (a : UInt8) : List UInt8 → Front
  | [] => .cut 1
  | b :: rest =>
    if second3 a b then
      match rest with
      | [] => .cut 2
      | c :: rest' =>
        if isTail c then
          .char (charOf (a.toNat % 16 * 4096 + tailBits b * 64 + tailBits c)) rest'
        else .bad 2 (c :: rest')
    else .bad 1 (b :: rest)

/-- A character of four bytes from its first byte and what follows. -/
def take4 (a : UInt8) : List UInt8 → Front
  | [] => .cut 1
  | b :: rest =>
    if second4 a b then
      match rest with
      | [] => .cut 2
      | c :: rest' =>
        if isTail c then
          match rest' with
          | [] => .cut 3
          | d :: rest'' =>
            if isTail d then
              .char
                (charOf (a.toNat % 8 * 262144 + tailBits b * 4096 + tailBits c * 64 + tailBits d))
                rest''
            else .bad 3 (d :: rest'')
        else .bad 2 (c :: rest')
    else .bad 1 (b :: rest)

/-- What stands at the front of a non-empty byte string. -/
def takeChar (a : UInt8) (rest : List UInt8) : Front :=
  if a < 0x80 then .char (charOf a.toNat) rest
  else if 0xC2 ≤ a && a ≤ 0xDF then take2 a rest
  else if 0xE0 ≤ a && a ≤ 0xEF then take3 a rest
  else if 0xF0 ≤ a && a ≤ 0xF4 then take4 a rest
  else .bad 1 rest

/-- At most so many bytes are left behind the front. -/
def Front.Leaves (n : Nat) : Front → Prop
  | .char _ rest => rest.length ≤ n
  | .bad _ rest => rest.length ≤ n
  | .cut _ => True

theorem leaves_take2 (a : UInt8) (rest : List UInt8) : (take2 a rest).Leaves rest.length := by
  unfold take2
  split
  · trivial
  · split
    · exact Nat.le_succ _
    · exact Nat.le_refl _

theorem leaves_take3 (a : UInt8) (rest : List UInt8) : (take3 a rest).Leaves rest.length := by
  unfold take3
  split
  · trivial
  · next b rest =>
    split
    · split
      · trivial
      · split
        · exact Nat.le_add_right _ 2
        · exact Nat.le_succ _
    · exact Nat.le_refl _

theorem leaves_take4 (a : UInt8) (rest : List UInt8) : (take4 a rest).Leaves rest.length := by
  unfold take4
  split
  · trivial
  · next b rest =>
    split
    · split
      · trivial
      · split
        · split
          · trivial
          · split
            · exact Nat.le_add_right _ 3
            · exact Nat.le_add_right _ 2
        · exact Nat.le_succ _
    · exact Nat.le_refl _

theorem leaves_takeChar (a : UInt8) (rest : List UInt8) :
    (takeChar a rest).Leaves rest.length := by
  unfold takeChar
  split
  · exact Nat.le_refl _
  split
  · exact leaves_take2 a rest
  split
  · exact leaves_take3 a rest
  split
  · exact leaves_take4 a rest
  · exact Nat.le_refl _

/-- What is left after the front is shorter than the whole. -/
theorem length_of_takeChar {a : UInt8} {rest : List UInt8} :
    (∀ c r, takeChar a rest = .char c r → r.length ≤ rest.length) ∧
      (∀ n r, takeChar a rest = .bad n r → r.length ≤ rest.length) := by
  have hleaves := leaves_takeChar a rest
  constructor
  · intro c r h
    rw [h] at hleaves
    exact hleaves
  · intro n r h
    rw [h] at hleaves
    exact hleaves

/-- Where and how a byte string fails to be UTF-8. -/
structure Fault where
  /-- The bytes before the fault, which are good. -/
  goodBytes : Nat
  /-- The length of the bad part, or `none` where the bytes ended inside a character. -/
  badBytes : Option Nat
  deriving DecidableEq

/-- The wording of a fault. -/
def Fault.message (f : Fault) : String :=
  match f.badBytes with
  | some n => s!"invalid utf-8 sequence of {n} bytes from index {f.goodBytes}"
  | none => s!"incomplete utf-8 byte sequence from index {f.goodBytes}"

/-- The characters of a byte string that starts `offset` bytes into the whole. A character has only
one form, so that its bytes can be counted without looking back. -/
def decodeFrom (offset : Nat) : List UInt8 → Except Fault (List Char)
  | [] => .ok []
  | a :: rest =>
    match _h : takeChar a rest with
    | .char c rest' => (decodeFrom (offset + c.utf8Size) rest').map (c :: ·)
    | .bad n _ => .error ⟨offset, some n⟩
    | .cut _ => .error ⟨offset, none⟩
termination_by bytes => bytes.length
decreasing_by exact Nat.lt_succ_of_le (length_of_takeChar.1 _ _ _h)

/-- The characters of a byte string, or its first fault. -/
def decode (bytes : List UInt8) : Except Fault (List Char) := decodeFrom 0 bytes

/-- The text of a byte string, if it is UTF-8. -/
def text? (bytes : List UInt8) : Option String :=
  match decode bytes with
  | .ok cs => some (String.ofList cs)
  | .error _ => none

/-- The characters of a byte string, with one U+FFFD in place of each bad part. -/
def decodeLossy : List UInt8 → List Char
  | [] => []
  | a :: rest =>
    match _h : takeChar a rest with
    | .char c rest' => c :: decodeLossy rest'
    | .bad _ rest' => '\ufffd' :: decodeLossy rest'
    | .cut _ => ['\ufffd']
termination_by bytes => bytes.length
decreasing_by
  · exact Nat.lt_succ_of_le (length_of_takeChar.1 _ _ _h)
  · exact Nat.lt_succ_of_le (length_of_takeChar.2 _ _ _h)

/-- The text of a byte string, with one U+FFFD in place of each bad part. -/
def lossy (bytes : List UInt8) : String := String.ofList (decodeLossy bytes)

/-- The bytes of one character. -/
def encodeChar (c : Char) : List UInt8 :=
  let n := c.toNat
  if n < 0x80 then [UInt8.ofNat n]
  else if n < 0x800 then [UInt8.ofNat (0xC0 + n / 64), UInt8.ofNat (0x80 + n % 64)]
  else if n < 0x10000 then
    [UInt8.ofNat (0xE0 + n / 4096), UInt8.ofNat (0x80 + n / 64 % 64), UInt8.ofNat (0x80 + n % 64)]
  else
    [UInt8.ofNat (0xF0 + n / 262144), UInt8.ofNat (0x80 + n / 4096 % 64),
      UInt8.ofNat (0x80 + n / 64 % 64), UInt8.ofNat (0x80 + n % 64)]

/-- The bytes of a run of characters. -/
def encode (cs : List Char) : List UInt8 := cs.flatMap encodeChar

/-- The bytes of a text. -/
def bytesOf (s : String) : List UInt8 := encode s.toList

end ExportStream.Text.Utf8
