import ExportStream.Decimal.Style
/-!
# JSON values

The structured values that an export carries: bodies of documents, markers, definitions. A number is
an integer or a finite double. An object is a list of named fields; the operations below keep the
names in ascending order and without repetition (`Fields.insert`: of two fields of one name the
later stays), which is the only form in which the library holds an object.
-/

namespace ExportStream

/-- A JSON number. -/
inductive Number where
  /-- A number written without fraction and exponent. -/
  | integer (i : Int)
  /-- Any other number. -/
  | real (x : Binary64)
  deriving DecidableEq

/-- A JSON value. -/
inductive Json where
  /-- The null value. -/
  | null
  /-- A truth value. -/
  | bool (b : Bool)
  /-- A number. -/
  | number (n : Number)
  /-- A text. -/
  | string (s : String)
  /-- A sequence of values. -/
  | array (items : List Json)
  /-- Named values. -/
  | object (fields : List (String × Json))

/-- The named values of an object. -/
abbrev Fields := List (String × Json)

namespace Json

mutual

/-- Equality of values is decidable. -/
def decEq : (a b : Json) → Decidable (a = b)
  | .null, .null => isTrue rfl
  | .bool a, .bool b => if h : a = b then isTrue (by rw [h]) else isFalse (by simp [h])
  | .number a, .number b => if h : a = b then isTrue (by rw [h]) else isFalse (by simp [h])
  | .string a, .string b => if h : a = b then isTrue (by rw [h]) else isFalse (by simp [h])
  | .array a, .array b =>
    match decEqItems a b with
    | isTrue h => isTrue (by rw [h])
    | isFalse h => isFalse (by simpa using h)
  | .object a, .object b =>
    match decEqFields a b with
    | isTrue h => isTrue (by rw [h])
    | isFalse h => isFalse (by simpa using h)
  | .null, .bool _ | .null, .number _ | .null, .string _ | .null, .array _ | .null, .object _
  | .bool _, .null | .bool _, .number _ | .bool _, .string _ | .bool _, .array _
  | .bool _, .object _ | .number _, .null | .number _, .bool _ | .number _, .string _
  | .number _, .array _ | .number _, .object _ | .string _, .null | .string _, .bool _
  | .string _, .number _ | .string _, .array _ | .string _, .object _ | .array _, .null
  | .array _, .bool _ | .array _, .number _ | .array _, .string _ | .array _, .object _
  | .object _, .null | .object _, .bool _ | .object _, .number _ | .object _, .string _
  | .object _, .array _ => isFalse (by simp)

/-- Equality of sequences of values is decidable. -/
def decEqItems : (a b : List Json) → Decidable (a = b)
  | [], [] => isTrue rfl
  | [], _ :: _ => isFalse (by simp)
  | _ :: _, [] => isFalse (by simp)
  | a :: as, b :: bs =>
    match decEq a b, decEqItems as bs with
    | isTrue h, isTrue h' => isTrue (by rw [h, h'])
    | isFalse h, _ => isFalse (by simp [h])
    | _, isFalse h => isFalse (by simp [h])

/-- Equality of named values is decidable. -/
def decEqFields : (a b : List (String × Json)) → Decidable (a = b)
  | [], [] => isTrue rfl
  | [], _ :: _ => isFalse (by simp)
  | _ :: _, [] => isFalse (by simp)
  | (k, a) :: as, (l, b) :: bs =>
    match decEq a b, decEqFields as bs with
    | isTrue h, isTrue h' =>
      if hk : k = l then isTrue (by rw [h, h', hk]) else isFalse (by simp [hk])
    | isFalse h, _ => isFalse (by simp [h])
    | _, isFalse h => isFalse (by simp [h])

end

instance : DecidableEq Json := decEq

instance : Inhabited Json := ⟨.null⟩

end Json

/-! ### Fields -/

namespace Fields

/-- The value of a name. -/
def find? (name : String) : Fields → Option Json
  | [] => none
  | (k, v) :: rest => if k = name then some v else find? name rest

/-- Puts a value under a name, in order; a value that stood there gives way. -/
def insert (name : String) (value : Json) : Fields → Fields
  | [] => [(name, value)]
  | (k, v) :: rest =>
    if name < k then (name, value) :: (k, v) :: rest
    else if name = k then (name, value) :: rest
    else (k, v) :: insert name value rest

/-- Takes a name away. -/
def erase (name : String) (fields : Fields) : Fields := fields.filter fun f => f.1 ≠ name

/-- Named values in order; of several of one name the last stays. -/
def ofList (fields : List (String × Json)) : Fields :=
  fields.foldl (fun acc f => insert f.1 f.2 acc) []

@[simp] theorem find?_nil (name : String) : find? name [] = none := rfl

/-- A name that was just put is found. -/
@[simp] theorem find?_insert_self (name : String) (value : Json) (fields : Fields) :
    find? name (insert name value fields) = some value := by
  induction fields with
  | nil => simp [insert, find?]
  | cons f rest ih =>
    obtain ⟨k, v⟩ := f
    by_cases h : name < k
    · simp [insert, h, find?]
    · by_cases h' : name = k
      · simp [insert, h', find?]
      · simp [insert, h, h', find?, Ne.symm h', ih]

/-- Putting one name leaves the others alone. -/
theorem find?_insert_of_ne {name other : String} (value : Json) (fields : Fields)
    (h : other ≠ name) : find? other (insert name value fields) = find? other fields := by
  induction fields with
  | nil => simp [insert, find?, Ne.symm h]
  | cons f rest ih =>
    obtain ⟨k, v⟩ := f
    by_cases h1 : name < k
    · simp [insert, h1, find?, Ne.symm h]
    · by_cases h2 : name = k
      · subst h2; simp [insert, find?, Ne.symm h]
      · simp [insert, h1, h2, find?, ih]

/-- A name that was taken away is not found. -/
@[simp] theorem find?_erase_self (name : String) (fields : Fields) :
    find? name (erase name fields) = none := by
  induction fields with
  | nil => rfl
  | cons f rest ih =>
    obtain ⟨k, v⟩ := f
    by_cases h : k = name
    · simpa [erase, h] using ih
    · simpa [erase, h, find?] using ih

/-- Taking one name away leaves the others alone. -/
theorem find?_erase_of_ne {name other : String} (fields : Fields) (h : other ≠ name) :
    find? other (erase name fields) = find? other fields := by
  induction fields with
  | nil => rfl
  | cons f rest ih =>
    obtain ⟨k, v⟩ := f
    by_cases hk : k = name
    · subst hk; simpa [erase, find?, Ne.symm h] using ih
    · by_cases ho : k = other
      · subst ho; simp [erase, find?, h]
      · simpa [erase, hk, find?, ho] using ih

end Fields

namespace Json

mutual

/-- The value with the fields of every object in order, the last of one name staying. -/
def inOrder : Json → Json
  | .array items => .array (itemsInOrder items)
  | .object fields => .object (Fields.ofList (fieldsInOrder fields))
  | v => v

/-- Each item with its fields in order. -/
def itemsInOrder : List Json → List Json
  | [] => []
  | v :: vs => v.inOrder :: itemsInOrder vs

/-- Each named value with its fields in order. -/
def fieldsInOrder : List (String × Json) → List (String × Json)
  | [] => []
  | (k, v) :: fs => (k, v.inOrder) :: fieldsInOrder fs

end

end Json

/-! ### Views of a value -/

namespace Number

/-- The integer, if it fits in 64 bits with a sign. -/
def toInt64? : Number → Option Int
  | .integer i => if -0x8000000000000000 ≤ i ∧ i < 0x8000000000000000 then some i else none
  | .real _ => none

/-- The integer, if it fits in 64 bits without a sign. -/
def toNat64? : Number → Option Nat
  | .integer i => if 0 ≤ i ∧ i < 0x10000000000000000 then some i.toNat else none
  | .real _ => none

end Number

namespace Json

/-- An integer as a value. -/
def int (i : Int) : Json := .number (.integer i)

/-- A natural number as a value. -/
def nat (n : Nat) : Json := int n

/-- The kind of a value, as messages name it. -/
def typeName : Json → String
  | .null => "null"
  | .bool _ => "bool"
  | .number _ => "number"
  | .string _ => "string"
  | .array _ => "array"
  | .object _ => "object"

/-- The text, if the value is one. -/
def text? : Json → Option String
  | .string s => some s
  | _ => none

/-- The fields, if the value is an object. -/
def fields? : Json → Option Fields
  | .object fs => some fs
  | _ => none

/-- The items, if the value is an array. -/
def items? : Json → Option (List Json)
  | .array vs => some vs
  | _ => none

/-- The truth value, if the value is one. -/
def bool? : Json → Option Bool
  | .bool b => some b
  | _ => none

/-- The integer, if the value is one that fits in 64 bits with a sign. -/
def int64? : Json → Option Int
  | .number n => n.toInt64?
  | _ => none

/-- The integer, if the value is one that fits in 64 bits without a sign. -/
def nat64? : Json → Option Nat
  | .number n => n.toNat64?
  | _ => none

/-- The value under a name, if the value is an object that has it. -/
def field? (v : Json) (name : String) : Option Json := v.fields?.bind (Fields.find? name)

/-- Is the value null? -/
def isNull : Json → Bool
  | .null => true
  | _ => false

end Json

end ExportStream
