import ExportStream.Stream.Cursor
/-!
# Assembling values

A value is put together from tokens. The arrays and objects that are open are kept as frames, the
innermost at the front; `accept` says what one token does to them. In an object names and values
alternate: a text is a name where a name is due. Of two fields of one name the later stays.

A failure leaves the frames as they are, and the next value starts without any.
-/

namespace ExportStream

/-- An array or an object that is open. -/
inductive Frame where
  /-- An object: its fields so far, and the name that waits for its value. -/
  | object (fields : Fields) (name : Option String)
  /-- An array: its items so far, last first. -/
  | array (reversed : List Json)

/-- What a token does to the open frames. -/
inductive Assembly where
  /-- More tokens are due. -/
  | more (frames : List Frame)
  /-- The value is complete. -/
  | done (value : Json)
  /-- The token may not stand here; so many frames stay open. -/
  | refused (fault : StreamFault) (frames : List Frame)

namespace Assembly

/-- Puts a finished value where it belongs. -/
def place (frames : List Frame) (v : Json) : Assembly :=
  match frames with
  | [] => .done v
  | .array items :: outer => .more (.array (v :: items) :: outer)
  | .object fields (some name) :: outer =>
    .more (.object (Fields.insert name v fields) none :: outer)
  | .object _ none :: _ => .refused (.unplaced .propertyName) frames

/-- Opens a frame, unless too many are open. -/
def openFrame (maxDepth : Nat) (frames : List Frame) (frame : Frame) : Assembly :=
  if maxDepth ≤ frames.length then .refused (.limit "Nesting depth" maxDepth none) frames
  else .more (frame :: frames)

/-- What a token does. -/
def accept (maxDepth : Nat) (frames : List Frame) : Token → Assembly
  | .startObject => openFrame maxDepth frames (.object [] none)
  | .startArray => openFrame maxDepth frames (.array [])
  | .endObject =>
    match frames with
    | .object fields none :: outer => place outer (.object fields)
    | .object _ (some name) :: outer => .refused (.unplaced (.propertyWithoutValue name)) outer
    | .array _ :: outer => .refused (.unplaced .endOfObject) outer
    | [] => .refused (.unplaced .endOfObject) []
  | .endArray =>
    match frames with
    | .array items :: outer => place outer (.array items.reverse)
    | .object .. :: outer => .refused (.unplaced .endOfArray) outer
    | [] => .refused (.unplaced .endOfArray) []
  | .string s =>
    match frames with
    | .object fields none :: outer => .more (.object fields (some s) :: outer)
    | _ => place frames (.string s)
  | .integer i => place frames (.int i)
  | .real x => place frames (.number (.real x))
  | .bool b => place frames (.bool b)
  | .null => place frames .null

end Assembly

/-- A builder of values, used for one value after the other. -/
structure Assembler where
  /-- The most frames that may be open. -/
  maxDepth : Nat
  /-- The open frames. -/
  frames : List Frame := []
  /-- The number of values put together so far. -/
  built : Nat := 0

namespace Assembler

/-- Is no frame open? -/
def isClean (a : Assembler) : Bool := a.frames.isEmpty

/-- Forgets the open frames. -/
def reset (a : Assembler) : Assembler := { a with frames := [] }

/-- Goes on with a value from a token and the tokens of a cursor. -/
def go (a : Assembler) (t : Token) (c : Cursor) : Except Failure Json × Assembler × Cursor :=
  match Assembly.accept a.maxDepth a.frames t with
  | .done v => (.ok v, { a with frames := [], built := a.built + 1 }, c)
  | .refused f frames => (.error (.ofStream (c.locate f)), { a with frames }, c)
  | .more frames =>
    match _h : c.readToken with
    | (.ok t, c') => go { a with frames } t c'
    | (.error f, c') => (.error f, { a with frames }, c')
termination_by c.fuel
decreasing_by exact Cursor.fuel_readToken _h

/-- Puts together the value that starts with a token which is already read. -/
def build (a : Assembler) (t : Token) (c : Cursor) : Except Failure Json × Assembler × Cursor :=
  a.reset.go t c

/-- Putting a value together does not raise the fuel of the cursor. -/
theorem fuel_go {a a' : Assembler} {t : Token} {c c' : Cursor} {v : Json}
    (h : a.go t c = (.ok v, a', c')) : c'.fuel ≤ c.fuel := by
  fun_induction go a t c with
  | case1 => simp only [Prod.mk.injEq] at h; exact Nat.le_of_eq (by rw [← h.2.2])
  | case2 => simp at h
  | case3 _ _ _ _ _ _ _ hr ih =>
    exact Nat.le_trans (ih h) (Nat.le_of_lt (Cursor.fuel_readToken hr))
  | case4 => simp at h

/-- Putting a value together does not raise the fuel of the cursor. -/
theorem fuel_build {a a' : Assembler} {t : Token} {c c' : Cursor} {v : Json}
    (h : a.build t c = (.ok v, a', c')) : c'.fuel ≤ c.fuel := fuel_go h

end Assembler

end ExportStream
