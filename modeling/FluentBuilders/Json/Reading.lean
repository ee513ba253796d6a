/-
  Reading values out of located trees.

  A reader takes the number of levels that may still be entered and a tree, and returns a value or
  a failure: a fault with the path to where it lies.  Readers go through a tree from left to right
  and report the first thing that is wrong.

  A record is described by a form: its fields in order, which of them are required, and the record
  from which reading starts.  It is read from an object, where unknown keys are passed over, or
  from a list that gives the fields in order.
-/
import FluentBuilders.Json.Scanner

namespace FluentBuilders.Json

/-! ## Failures -/

/-- One step of the path to a value. -/
inductive Segment
  | key (name : String)
  | index (number : Nat)
  /-- A member whose key was not read. -/
  | unknown
  deriving DecidableEq, Repr

/-- A fault and the path to where it lies, outermost step first. -/
structure Failure where
  path : List Segment
  fault : Fault
  deriving DecidableEq, Repr

/-- A path in words: keys are joined by points, and the path of the document itself is a point. -/
def pathText : List Segment → String
  | [] => "."
  | s :: r => first s ++ String.join (r.map rest)
where
  /-- A step at the beginning of a path. -/
  first : Segment → String
    | .key k => k
    | .index n => "[" ++ toString n ++ "]"
    | .unknown => "?"
  /-- A step after others. -/
  rest : Segment → String
    | .key k => "." ++ k
    | .index n => "[" ++ toString n ++ "]"
    | .unknown => ".?"

/-- A failure at the value being read. -/
def failAt {α : Type} (offset : Nat) (cause : Cause) : Except Failure α :=
  .error ⟨[], ⟨offset, cause⟩⟩

/-- The failures of a part, seen from the whole. -/
def within {α : Type} (s : Segment) : Except Failure α → Except Failure α
  | .ok a => .ok a
  | .error f => .error { f with path := s :: f.path }

/-- The verdict of a reader that needs a string or a number. -/
def Lexeme.get {α : Type} (l : Lexeme α) : Except Failure α :=
  match l.read with
  | .ok a => .ok a
  | .error f => .error ⟨[], f⟩

/-! ## Passing over values -/

mutual

/-- What stops a reader that passes over a value. -/
def Tree.obstacle : Tree → Option Fault
  | .absent s => some ⟨s, .valueCut⟩
  | .junk _ f => some f
  | .null _ _ => none
  | .bool _ _ _ => none
  | .number _ l => l.skip
  | .text _ l => l.skip
  | .list _ items => items.obstacle
  | .object _ members => members.obstacle

/-- What stops a reader that passes over the rest of a list. -/
def Items.obstacle : Items → Option Fault
  | .close _ => none
  | .cut k => some ⟨k, .listCut⟩
  | .junk k => some ⟨k + 1, .noCommaOrBracket⟩
  | .surplusComma k => some ⟨k + 1, .noValue⟩
  | .commaCut k => some ⟨k, .valueCut⟩
  | .item v rest => v.obstacle <|> rest.obstacle

/-- What stops a reader that passes over the rest of an object. -/
def Members.obstacle : Members → Option Fault
  | .close _ => none
  | .cut k => some ⟨k, .objectCut⟩
  | .noKey found => some ⟨found.start + 1, .keyNotString⟩
  | .junk k => some ⟨k + 1, .noCommaOrBrace⟩
  | .surplusComma k => some ⟨k + 1, .keyNotString⟩
  | .commaCut k => some ⟨k, .objectCut⟩
  | .noColon key _ _ f => key.skip <|> some f
  | .member key _ v _ rest => key.skip <|> v.obstacle <|> rest.obstacle

end

/-! ## Readers -/

/-- A reader of values: it is given how many more levels may be entered. -/
abbrev Reader (α : Type) := Nat → Tree → Except Failure α

/-- How many nested lists and objects a document may have. -/
def maxDepth : Nat := 127

/-- The failure of a reader that meets a value of another kind. -/
def mismatch {α : Type} (expected : String) : Tree → Except Failure α
  | .absent s => failAt s .valueCut
  | .junk _ f => .error ⟨[], f⟩
  | .null _ stop => failAt stop (.wrongType .null expected)
  | .bool _ b stop => failAt stop (.wrongType (.flag b) expected)
  | .number _ l => do let n ← l.get; failAt l.stop (.wrongType (.number n) expected)
  | .text _ l => do let s ← l.get; failAt l.stop (.wrongType (.text s) expected)
  | .list s _ => failAt s (.wrongType .sequence expected)
  | .object s _ => failAt s (.wrongType .map expected)

/-- Reads a string; `expected` says what it is for. -/
def readTextAs (expected : String) : Reader String
  | _, .text _ l => l.get
  | _, t => mismatch expected t

/-- Reads a string. -/
def readText : Reader String := readTextAs "a string"

/-- Reads a truth value. -/
def readFlag : Reader Bool
  | _, .bool _ b _ => .ok b
  | _, t => mismatch "a boolean" t

/-- Reads a natural number of 32 bits. -/
def readWord32 : Reader Nat
  | _, .number _ l => do
    match ← l.get with
    | .whole n =>
      if 0 ≤ n && n ≤ 0xFFFFFFFF then .ok n.toNat else failAt l.stop (.wrongInteger n "u32")
    | .double x => failAt l.stop (.wrongType (.number (.double x)) "u32")
  | _, t => mismatch "u32" t

/-- Reads null. -/
def readUnit : Reader Unit
  | _, .null _ _ => .ok ()
  | _, t => mismatch "unit" t

/-- Reads null as nothing and anything else with the reader. -/
def readOption {α : Type} (read : Reader α) : Reader (Option α)
  | _, .null _ _ => .ok none
  | room, t => some <$> read room t

/-- Reads the items of a list from the one with the given number on. -/
def Items.read {α : Type} (read : Tree → Except Failure α) (i : Nat) :
    Items → Except Failure (List α)
  | .close _ => .ok []
  | .cut k => failAt k .listCut
  | .junk k => failAt (k + 1) .noCommaOrBracket
  | .surplusComma k => failAt (k + 1) .trailingComma
  | .commaCut k => failAt k .valueCut
  | .item v rest => do
    let a ← within (.index i) (read v)
    let as ← rest.read read (i + 1)
    .ok (a :: as)

/-- Reads a list. -/
def readList {α : Type} (read : Reader α) : Reader (List α)
  | 0, .list s _ => failAt (s + 1) .tooDeep
  | room + 1, .list _ items => items.read (read room) 0
  | _, t => mismatch "a sequence" t

/-- Reads one of several named values: its name, or an object that gives the name and null. -/
def readChoice {α : Type} (variants : List (String × α)) : Reader α
  | _, .absent s => failAt s .valueCut
  | _, .text _ l => l.get >>= named l.stop
  | 0, .object s _ => failAt (s + 1) .tooDeep
  | room + 1, .object _ members =>
    match members with
    | .close k => failAt (k + 1) .noValue
    | .cut k => failAt k .objectCut
    | .noKey found => failAt (found.start + 1) .keyNotString
    | .noColon key _ _ f => do
      let _ ← key.get >>= named key.stop
      .error ⟨[], f⟩
    | .member key _ v next rest => do
      let name ← key.get
      let a ← named key.stop name
      within (.key name) (readUnit room v)
      match rest with
      | .close _ => .ok a
      | .cut k => failAt k .objectCut
      | _ => failAt next .noValue
    | .junk k | .surplusComma k | .commaCut k => failAt k .noValue
  | _, t => failAt (t.start + 1) .noValue
where
  /-- The value with a name that ends at the given offset. -/
  named (stop : Nat) (name : String) : Except Failure α :=
    match variants.lookup name with
    | some a => .ok a
    | none => failAt stop (.unknownVariant name (variants.map (·.1)))

/-! ## Records -/

/-- A field of a record: its key, whether it must be given, and how its value is put in. -/
structure Field (σ : Type) where
  key : String
  required : Bool
  read : Nat → Tree → σ → Except Failure σ

/-- A field with a reader of its value and the record with that value in it. -/
def Field.of {σ α : Type} (key : String) (required : Bool) (read : Reader α) (put : σ → α → σ) :
    Field σ :=
  ⟨key, required, fun room t s => (put s) <$> read room t⟩

/-- The fields of a record in order, and the record before any of them is read. -/
structure Form (σ : Type) where
  name : String
  fields : List (Field σ)
  start : σ

/-- What a form is called in messages. -/
def Form.title {σ : Type} (f : Form σ) : String := "struct " ++ f.name

/-- Reads the members of an object into a record.  `seen` holds the keys read before. -/
def Form.readMembers {σ : Type} (f : Form σ) (room : Nat) (seen : List String) (s : σ) :
    Members → Except Failure σ
  | .close k =>
    match f.fields.find? fun x => x.required && !seen.contains x.key with
    | some x => failAt (k + 1) (.missingField x.key)
    | none => .ok s
  | .cut k => within .unknown (failAt k .objectCut)
  | .noKey found => within .unknown (failAt (found.start + 1) .keyNotString)
  | .junk k => within .unknown (failAt (k + 1) .noCommaOrBrace)
  | .surplusComma k => within .unknown (failAt (k + 1) .trailingComma)
  | .commaCut k => within .unknown (failAt k .valueCut)
  | .noColon key after closed fault => do
    let name ← within .unknown key.get
    if seen.contains name then
      failAt (if closed then after + 1 else after) (.duplicateField name)
    else .error ⟨[], fault⟩
  | .member key colon v _ rest => do
    let name ← within .unknown key.get
    match f.fields.find? (·.key == name) with
    | some x =>
      if seen.contains name then failAt colon (.duplicateField name)
      else do
        let s ← within (.key name) (x.read room v s)
        f.readMembers room (name :: seen) s rest
    | none =>
      match v.obstacle with
      | some fault => within (.key name) (.error ⟨[], fault⟩)
      | none => f.readMembers room seen s rest

/-- Reads the items of a list into the fields of a record, from the field with the given number
    on. -/
def Form.readItems {σ : Type} (f : Form σ) (room : Nat) :
    (fields : List (Field σ)) → (i : Nat) → σ → Items → Except Failure σ
  | [], _, s, items =>
    match items with
    | .close _ => .ok s
    | .cut k => failAt k .listCut
    | .junk k => failAt (k + 1) .trailingCharacters
    | .surplusComma k => failAt (k + 1) .trailingComma
    | .commaCut k => failAt k .trailingCharacters
    | .item v _ => failAt (v.start + 1) .trailingCharacters
  | x :: fields, i, s, items =>
    match items with
    | .close k =>
      if x.required then failAt (k + 1) (.wrongLength i f.title f.fields.length)
      else f.readItems room fields (i + 1) s (.close k)
    | .cut k => failAt k .listCut
    | .junk k => failAt (k + 1) .noCommaOrBracket
    | .surplusComma k => failAt (k + 1) .trailingComma
    | .commaCut k => failAt k .valueCut
    | .item v rest => do
      let s ← within (.index i) (x.read room v s)
      f.readItems room fields (i + 1) s rest

/-- Reads a record. -/
def Form.read {σ : Type} (f : Form σ) : Reader σ
  | 0, .list s _ => failAt (s + 1) .tooDeep
  | 0, .object s _ => failAt (s + 1) .tooDeep
  | room + 1, .list _ items => f.readItems room f.fields 0 f.start items
  | room + 1, .object _ members => f.readMembers room [] f.start members
  | _, t => mismatch f.title t

/-! ## Any value -/

mutual

/-- The value that a tree stands for. -/
def Tree.value? : Tree → Option Json
  | .absent _ => none
  | .junk _ _ => none
  | .null _ _ => some .null
  | .bool _ b _ => some (.bool b)
  | .number _ l => l.read.toOption.map .number
  | .text _ l => l.read.toOption.map .text
  | .list _ items => items.values?.map .list
  | .object _ members => members.values?.map .object

/-- The values of a list. -/
def Items.values? : Items → Option (List Json)
  | .close _ => some []
  | .item v rest => do
    let a ← v.value?
    let as ← rest.values?
    some (a :: as)
  | .cut _ => none
  | .junk _ => none
  | .surplusComma _ => none
  | .commaCut _ => none

/-- The members of an object. -/
def Members.values? : Members → Option (List (String × Json))
  | .close _ => some []
  | .member key _ v _ rest => do
    let k ← key.read.toOption
    let a ← v.value?
    let as ← rest.values?
    some ((k, a) :: as)
  | .cut _ => none
  | .noKey _ => none
  | .junk _ => none
  | .surplusComma _ => none
  | .commaCut _ => none
  | .noColon _ _ _ _ => none

end

/-- The value of a text's bytes; what follows it is not looked at. -/
def ofBytes? (bytes : List UInt8) : Option Json := (Tree.ofBytes bytes).value?

end FluentBuilders.Json
