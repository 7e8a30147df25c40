import ExportStream.Json.Reader
/-!
# Reading only what is wanted

A structure takes the parts that it knows from a JSON text and passes over the rest. What is passed
over is only looked at as far as it takes to find its end: its numbers may be out of range, its
escapes may stand for no character, and its arrays and objects may lie in one another as deep as
they like. A `Shape` says which parts are wanted, and `readShaped` reads them and leaves the others
out.
-/

namespace ExportStream.Json

/-! ### Passing over values -/

/-- The bytes behind so many digits as there are, if there is one. -/
def passDigits (bytes : List UInt8) : Option (List UInt8) :=
  let rest := bytes.dropWhile Text.isDigit
  if rest.length < bytes.length then some rest else none

/-- The bytes behind the sign of an exponent, if there is one. -/
def passSign : List UInt8 → List UInt8
  | 43 :: rest => rest
  | 45 :: rest => rest
  | bytes => bytes

/-- The bytes behind an exponent, if there is one. -/
def passExponent : List UInt8 → Option (List UInt8)
  | 101 :: rest => passDigits (passSign rest)
  | 69 :: rest => passDigits (passSign rest)
  | bytes => some bytes

/-- The bytes behind a number without its sign. -/
def passNumeral (bytes : List UInt8) : Option (List UInt8) := do
  let rest ←
    match bytes with
    | 48 :: d :: rest => if Text.isDigit d then none else some (d :: rest)
    | bytes => passDigits bytes
  match rest with
  | 46 :: rest => passExponent (← passDigits rest)
  | rest => passExponent rest

/-- The bytes behind a word. -/
def passWord (word : List UInt8) (bytes : List UInt8) : Option (List UInt8) :=
  if word.isPrefixOf bytes then some (bytes.drop word.length) else none

/-- The letters that a backslash goes with, other than the one of a code. -/
def escapeLetters : List UInt8 := [34, 92, 47, 98, 102, 110, 114, 116]

/-- The bytes behind a string whose opening quote is read; the fuel bounds its parts. -/
def passString : Nat → List UInt8 → Option (List UInt8)
  | 0, _ => none
  | _, [] => none
  | fuel + 1, b :: rest =>
    if b = 34 then some rest
    else if b = 92 then
      match rest with
      | 117 :: rest =>
        match readHex4 rest with
        | .ok (_, rest) => passString fuel rest
        | .error _ => none
      | c :: rest => if c ∈ escapeLetters then passString fuel rest else none
      | [] => none
    else if b < 32 then none
    else passString fuel rest

/-- What is due next while a value is passed over. -/
inductive Due where
  /-- A value. -/
  | value
  /-- The name of a field. -/
  | name
  /-- A comma, or the end of the innermost array or object. -/
  | comma
  deriving DecidableEq

/-- The bytes behind a value; `within` tells of each array and object around, the innermost first,
whether it is an object, and the fuel bounds the steps. -/
def passFrom : Nat → Due → (within : List Bool) → List UInt8 → Option (List UInt8)
  | 0, _, _, _ => none
  | fuel + 1, .comma, within, bytes =>
    match within, skipSpace bytes with
    | [], _ => some bytes
    | true :: outer, 125 :: rest => passFrom fuel .comma outer rest
    | false :: outer, 93 :: rest => passFrom fuel .comma outer rest
    | true :: outer, 44 :: rest => passFrom fuel .name (true :: outer) rest
    | false :: outer, 44 :: rest => passFrom fuel .value (false :: outer) rest
    | _, _ => none
  | fuel + 1, .name, within, bytes =>
    match skipSpace bytes with
    | 34 :: rest =>
      match passString (rest.length + 1) rest with
      | some rest =>
        match skipSpace rest with
        | 58 :: rest => passFrom fuel .value within rest
        | _ => none
      | none => none
    | _ => none
  | fuel + 1, .value, within, bytes =>
    match skipSpace bytes with
    | [] => none
    | b :: rest =>
      if b = 91 then
        match skipSpace rest with
        | 93 :: rest => passFrom fuel .comma within rest
        | rest => passFrom fuel .value (false :: within) rest
      else if b = 123 then
        match skipSpace rest with
        | 125 :: rest => passFrom fuel .comma within rest
        | rest => passFrom fuel .name (true :: within) rest
      else
        let plain :=
          if b = 110 then passWord [117, 108, 108] rest
          else if b = 116 then passWord [114, 117, 101] rest
          else if b = 102 then passWord [97, 108, 115, 101] rest
          else if b = 34 then passString (rest.length + 1) rest
          else if b = 45 then passNumeral rest
          else passNumeral (b :: rest)
        match plain with
        | some rest => passFrom fuel .comma within rest
        | none => none

/-- The bytes behind a value that is not wanted. -/
def passValue (bytes : List UInt8) : Option (List UInt8) :=
  passFrom (2 * bytes.length + 2) .value [] bytes

/-! ### Reading what is wanted -/

/-- What of a value is wanted. -/
inductive Shape where
  /-- Everything. -/
  | whole
  /-- The parts with these names, or the items at their places. -/
  | parts (shapes : List (String × Shape))

mutual

/-- A value of a shape; the fuel bounds its parts. -/
def takeShaped : Nat → Shape → List UInt8 → Option (Json × List UInt8)
  | 0, _, _ => none
  | fuel + 1, shape, bytes =>
    match shape, skipSpace bytes with
    | .parts shapes, 123 :: rest =>
      (takeShapedFields fuel shapes true rest).map fun (fs, rest) => (.object fs, rest)
    | .parts shapes, 91 :: rest =>
      (takeShapedItems fuel (shapes.map Prod.snd) true rest).map fun (vs, rest) =>
        (.array vs, rest)
    | _, bytes => (readValue (2 * bytes.length + 2) nestingLimit bytes).toOption

/-- The items of an array with the shapes of their places, and the closing bracket. -/
def takeShapedItems : Nat → List Shape → (first : Bool) → List UInt8 →
    Option (List Json × List UInt8)
  | 0, _, _, _ => none
  | fuel + 1, shapes, first, bytes =>
    match first, skipSpace bytes with
    | _, 93 :: rest => some ([], rest)
    | true, rest => do
      let (v, rest) ← takeShaped fuel (shapes.headD .whole) rest
      let (vs, rest) ← takeShapedItems fuel shapes.tail false rest
      return (v :: vs, rest)
    | false, 44 :: rest => do
      let (v, rest) ← takeShaped fuel (shapes.headD .whole) rest
      let (vs, rest) ← takeShapedItems fuel shapes.tail false rest
      return (v :: vs, rest)
    | _, _ => none

/-- The wanted fields of an object, and the closing brace. -/
def takeShapedFields : Nat → List (String × Shape) → (first : Bool) → List UInt8 →
    Option (List (String × Json) × List UInt8)
  | 0, _, _, _ => none
  | fuel + 1, shapes, first, bytes =>
    match first, skipSpace bytes with
    | _, 125 :: rest => some ([], rest)
    | true, 34 :: rest => takeShapedField fuel shapes rest
    | false, 44 :: rest =>
      match skipSpace rest with
      | 34 :: rest => takeShapedField fuel shapes rest
      | _ => none
    | _, _ => none

/-- A field behind the opening quote of its name, and the wanted fields after it. -/
def takeShapedField : Nat → List (String × Shape) → List UInt8 →
    Option (List (String × Json) × List UInt8)
  | 0, _, _ => none
  | fuel + 1, shapes, bytes => do
    let (name, rest) ← (readString bytes).toOption
    match skipSpace rest with
    | 58 :: rest =>
      match shapes.lookup name with
      | some shape =>
        let (v, rest) ← takeShaped fuel shape rest
        let (fs, rest) ← takeShapedFields fuel shapes false rest
        return ((name, v) :: fs, rest)
      | none => takeShapedFields fuel shapes false (← passValue rest)
    | _ => none

end

/-- What a text holds of a shape: fields that are not wanted are left out. -/
def readShaped (shape : Shape) (text : String) : Option Json := do
  let bytes := Text.Utf8.bytesOf text
  let (v, rest) ← takeShaped (2 * bytes.length + 2) shape bytes
  guard (skipSpace rest).isEmpty
  return v

end ExportStream.Json
