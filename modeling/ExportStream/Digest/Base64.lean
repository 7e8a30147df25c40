/-!
# Base64

The standard alphabet with obligatory, canonical padding. `decode` undoes `encode`, and refuses
every text that `encode` does not write; which fault of a refused text is named follows from the
order in which the text is looked at: a stray last byte first, then the groups of four up to the
last one, then the last group with its padding.
-/

namespace ExportStream.Digest.Base64

/-- The symbol of six bits. -/
def symbol (n : Nat) : UInt8 :=
  if n < 26 then UInt8.ofNat (65 + n)
  else if n < 52 then UInt8.ofNat (71 + n)
  else if n < 62 then UInt8.ofNat (n - 4)
  else if n = 62 then 43
  else 47

/-- The six bits of a symbol. -/
def value? (b : UInt8) : Option Nat :=
  if 65 ≤ b && b ≤ 90 then some (b.toNat - 65)
  else if 97 ≤ b && b ≤ 122 then some (b.toNat - 71)
  else if 48 ≤ b && b ≤ 57 then some (b.toNat + 4)
  else if b = 43 then some 62
  else if b = 47 then some 63
  else none

/-- The sign that fills the last group. -/
def pad : UInt8 := 61

/-- The text of a byte string. -/
def encode : List UInt8 → List UInt8
  | [] => []
  | [a] => [symbol (a.toNat / 4), symbol (a.toNat % 4 * 16), pad, pad]
  | [a, b] =>
    [symbol (a.toNat / 4), symbol (a.toNat % 4 * 16 + b.toNat / 16), symbol (b.toNat % 16 * 4), pad]
  | a :: b :: c :: rest =>
    symbol (a.toNat / 4) :: symbol (a.toNat % 4 * 16 + b.toNat / 16) ::
      symbol (b.toNat % 16 * 4 + c.toNat / 64) :: symbol (c.toNat % 64) :: encode rest

/-- Why a text is refused. -/
inductive Fault where
  /-- A byte that is no symbol, or padding where none may stand, and its place. -/
  | symbol (byte : UInt8) (offset : Nat)
  /-- The last symbol carries bits that belong to no byte. -/
  | lastSymbol (byte : UInt8) (offset : Nat)
  /-- The text ends with a single symbol. -/
  | length (n : Nat)
  /-- The last group is not filled. -/
  | padding
  deriving DecidableEq

/-- The wording of a fault. -/
def Fault.message : Fault → String
  | .symbol byte offset => s!"Invalid symbol {byte.toNat}, offset {offset}."
  | .lastSymbol byte offset => s!"Invalid last symbol {byte.toNat}, offset {offset}."
  | .length n => s!"Invalid input length: {n}"
  | .padding => "Invalid padding"

/-- The three bytes of four values of six bits. -/
def threeBytes (a b c d : Nat) : List UInt8 :=
  [UInt8.ofNat (a * 4 + b / 16), UInt8.ofNat (b * 16 + c / 4), UInt8.ofNat (c * 64 + d)]

/-- The value of a symbol at a place. -/
def valueAt (offset : Nat) (b : UInt8) : Except Fault Nat :=
  match value? b with
  | some n => .ok n
  | none => .error (.symbol b offset)

/-- The symbols of the last group, the padding behind them, and the place of its first sign. -/
structure Tail where
  /-- The values of the symbols. -/
  values : List Nat
  /-- The last symbol. -/
  last : UInt8
  /-- The number of padding signs. -/
  pads : Nat
  /-- The place of the first padding sign within the group. -/
  firstPad : Nat

/-- Takes the bytes of the last group one by one; `i` is the place within the group. -/
def readTail (start : Nat) (t : Tail) : (i : Nat) → List UInt8 → Except Fault Tail
  | _, [] => .ok t
  | i, b :: rest =>
    if b = pad then
      if i < 2 then .error (.symbol b (start + i))
      else
        readTail start
          { t with pads := t.pads + 1, firstPad := if t.pads = 0 then i else t.firstPad }
          (i + 1) rest
    else if 0 < t.pads then .error (.symbol pad (start + t.firstPad))
    else
      match value? b with
      | some n => readTail start { t with values := t.values ++ [n], last := b } (i + 1) rest
      | none => .error (.symbol b (start + i))

/-- The bytes of the last group, which starts at `start`. -/
def decodeTail (start : Nat) (group : List UInt8) : Except Fault (List UInt8) := do
  let t ← readTail start ⟨[], 0, 0, 0⟩ 0 group
  if t.values.length < 2 then
    .error (.length (start + t.values.length))
  else if (t.values.length + t.pads) % 4 ≠ 0 then .error .padding
  else
    match t.values with
    | [a, b] =>
      if b % 16 ≠ 0 then .error (.lastSymbol t.last (start + 1))
      else .ok ((threeBytes a b 0 0).take 1)
    | [a, b, c] =>
      if c % 4 ≠ 0 then .error (.lastSymbol t.last (start + 2))
      else .ok ((threeBytes a b c 0).take 2)
    | [a, b, c, d] => .ok (threeBytes a b c d)
    | _ => .error .padding

/-- The bytes of the groups from `start` on; the last group may be short or padded. -/
def decodeGroups (start : Nat) : List UInt8 → Except Fault (List UInt8)
  | a :: b :: c :: d :: e :: rest => do
    let a ← valueAt start a
    let b ← valueAt (start + 1) b
    let c ← valueAt (start + 2) c
    let d ← valueAt (start + 3) d
    let more ← decodeGroups (start + 4) (e :: rest)
    .ok (threeBytes a b c d ++ more)
  | [] => .ok []
  | group => decodeTail start group

/-- A byte that is left over after whole groups and is neither a symbol nor padding. -/
def strayLast? (text : List UInt8) : Option UInt8 :=
  if text.length % 4 = 1 then
    text.getLast?.filter fun b => b ≠ pad ∧ value? b = none
  else none

/-- The bytes of a text. -/
def decode (text : List UInt8) : Except Fault (List UInt8) :=
  match strayLast? text with
  | some b => .error (.symbol b (text.length - 1))
  | none => decodeGroups 0 text

end ExportStream.Digest.Base64
