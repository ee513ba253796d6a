/-
  Code trees — the part of the generated language that generated modules are written in, and the
  part that a path written by hand can bring into them.

  A tree is what is said, not how it is laid out: the token list and the laid-out text of a module
  are two functions of the same tree.  Identifiers hold a word and whether it is written raw, so
  that a keyword can name a field; a path holds its segments, each with the arguments applied to
  it.
-/
import FluentBuilders.Code.Token
import FluentBuilders.Name.Grammar

namespace FluentBuilders.Code

/-! ## Identifiers -/

/-- An identifier: a word, written with the raw mark in front of it or not. -/
structure Ident where
  word : String
  raw : Bool := false
  deriving DecidableEq, Repr

namespace Ident

/-- An identifier as it is written. -/
def spelled (i : Ident) : String := if i.raw then "r#" ++ i.word else i.word

/-- The identifier for a name, escaped if it has to be.  A text that is no word has none. -/
def ofName? (name : String) : Option Ident :=
  if Text.isWord name.toList then some ⟨name, Name.isEscaped name⟩ else none

end Ident

/-! ## Lifetimes -/

/-- A lifetime that a binder introduces, with those that it is contained in.  `plus` says that a
plus sign follows the last of these. -/
structure LifetimeParam where
  name : Ident
  bounds : List Ident := []
  plus : Bool := false
  deriving DecidableEq, Repr

/-- Lifetimes that what follows is meant for all of. -/
structure Binder where
  params : List LifetimeParam
  comma : Bool := false
  deriving DecidableEq, Repr

/-- What stands in front of the type of a function: a binder, whether calling the function is up
to the caller to justify, and the convention it is called by, with its name. -/
structure FunctionHead where
  binder : Option Binder := none
  unchecked : Bool := false
  convention : Option (Option String) := none
  deriving DecidableEq, Repr

/-! ## Paths, types and expressions -/

/-- What a segment of a path names: one thing, or all things of a module. -/
inductive Head
  | ident (name : Ident)
  | star

/-
  Types, paths, expressions, patterns and statements contain each other: an array type has a length,
  and a path in an expression has types applied to it.  Where `comma` or `plus` occurs, it says that
  the mark follows the last item too.
-/
mutual

/-- A type. -/
inductive Ty
  | path (p : Path)
  | projection (p : Projection)
  /-- Some type with the given traits. -/
  | impl (bounds : List Bound) (plus : Bool)
  /-- Any type with the given traits; `marked` says that the word for this is written. -/
  | object (marked : Bool) (bounds : List Bound) (plus : Bool)
  | ref (lifetime : Option Ident) (mutable : Bool) (target : Ty)
  | pointer (mutable : Bool) (target : Ty)
  | slice (item : Ty)
  | array (item : Ty) (length : Expr)
  | tuple (items : List Ty) (comma : Bool)
  | paren (inner : Ty)
  /-- The type of a function.  `further` says that there may be any further parameters, and under
  which name if one is given. -/
  | function (head : FunctionHead) (params : List (Option Ident × Ty))
      (further : Option (Option Ident)) (comma : Bool) (result : Option Ty)
  /-- The type without values. -/
  | never
  /-- What a name with some tokens behind it expands to. -/
  | expansion (name : Path) (body : List Token)

/-- A path, absolute if it begins with the separator. -/
inductive Path
  | mk (leading : Bool) (segments : List Segment)

/-- What belongs to a type, by way of a trait or of its own. -/
inductive Projection
  | mk (owner : Ty) (trait : Option Path) (rest : List Segment)

/-- A segment of a path. -/
inductive Segment
  | mk (head : Head) (arguments : Arguments)

/-- What a segment is applied to. -/
inductive Arguments
  | none
  /-- Arguments between angle brackets; `turbo` says that the separator stands in front of
  them. -/
  | types (turbo : Bool) (items : List Argument) (comma : Bool)
  /-- The parameters of a function trait, and its result. -/
  | inputs (items : List Ty) (comma : Bool) (result : Option Ty)

/-- What stands between angle brackets. -/
inductive Argument
  | lifetime (name : Ident)
  | type (t : Ty)
  | value (e : Expr)
  /-- The type that a trait has under a name. -/
  | typeOf (name : Ident) (arguments : Arguments) (t : Ty)
  /-- The value that a trait has under a name. -/
  | valueOf (name : Ident) (arguments : Arguments) (e : Expr)
  /-- What the type must have that a trait has under a name. -/
  | boundsOf (name : Ident) (arguments : Arguments) (bounds : List Bound) (plus : Bool)

/-- What a type must have: a trait, perhaps given up by a question mark, or a lifetime. -/
inductive Bound
  | trait (parens : Bool) (binder : Option Binder) (waived : Bool) (p : Path)
  | lifetime (name : Ident)
  /-- Lifetimes and types that a type known only by its traits may depend on. -/
  | capture (names : Arguments)

/-- An expression. -/
inductive Expr
  | path (p : Path)
  | projection (p : Projection)
  | call (callee : Expr) (arguments : List Expr) (comma : Bool)
  | field (receiver : Expr) (name : Ident)
  | method (receiver : Expr) (name : Ident) (types : Arguments) (arguments : List Expr)
      (comma : Bool)
  | index (receiver index : Expr)
  /-- A value or an early return of its error. -/
  | attempt (value : Expr)
  /-- The value of a computation that takes its time. -/
  | await (value : Expr)
  /-- A literal, as it is written. -/
  | literal (text : String)
  /-- An operator in front of its operand. -/
  | unary (operator : String) (operand : Expr)
  | borrow (raw mutable : Bool) (target : Expr)
  | binary (operator : String) (left right : Expr)
  | assign (place value : Expr)
  | cast (value : Expr) (type : Ty)
  | range (first : Option Expr) (closed : Bool) (last : Option Expr)
  | paren (inner : Expr)
  | tuple (items : List Expr) (comma : Bool)
  | array (items : List Expr) (comma : Bool)
  /-- An array of one value several times. -/
  | fill (item length : Expr)
  /-- Statements, with words in front that say how they are run. -/
  | block (label : Option Ident) (words : List String) (body : List Stmt)
  | branch (condition : Expr) (body : List Stmt) (otherwise : Option Expr)
  | loop (label : Option Ident) (body : List Stmt)
  | whileLoop (label : Option Ident) (condition : Expr) (body : List Stmt)
  | forLoop (label : Option Ident) (pattern : Pattern) (source : Expr) (body : List Stmt)
  | choice (value : Expr) (arms : List Arm)
  /-- Whether a value has a pattern. -/
  | fits (pattern : Pattern) (value : Expr)
  /-- A function without a name, with words in front that say how it is called. -/
  | closure (binder : Option Binder) (words : List String) (params : List Pattern) (comma : Bool)
      (result : Option Ty) (body : Expr)
  /-- A way out of a loop, a block or a function. -/
  | jump (word : String) (label : Option Ident) (value : Option Expr)
  /-- A value of a type, field by field.  A field without a value takes that of the variable with
  its name; `more` says that the other fields are left to another value, or open. -/
  | record (type : Expr) (fields : List (Ident × Option Expr)) (comma : Bool) (more : Bool)
      (base : Option Expr)
  | expansion (name : Path) (body : List Token)

/-- What a value is taken apart by. -/
inductive Pattern
  | wild
  /-- Whatever else there is. -/
  | rest
  /-- A new variable, for what has a further pattern if one is given. -/
  | bind (byRef mutable : Bool) (name : Ident) (inner : Option Pattern)
  | value (e : Expr)
  | typed (inner : Pattern) (type : Ty)
  | borrow (mutable : Bool) (inner : Pattern)
  | paren (inner : Pattern)
  | tuple (items : List Pattern) (comma : Bool)
  | slice (items : List Pattern) (comma : Bool)
  /-- One of several patterns; `leading` says that the mark stands in front of the first too. -/
  | either (leading : Bool) (cases : List Pattern)
  | variant (constructor : Expr) (items : List Pattern) (comma : Bool)
  /-- Fields by their names.  A field without a name is the variable that its pattern binds. -/
  | record (type : Expr) (fields : List (Option Ident × Pattern)) (comma more : Bool)

/-- One of the cases that a value is told apart by. -/
inductive Arm
  | mk (pattern : Pattern) (guard : Option Expr) (body : Expr) (comma : Bool)

/-- A statement. -/
inductive Stmt
  /-- A semicolon with nothing in front of it. -/
  | empty
  /-- New variables, and what is run where the value does not have the pattern. -/
  | bind (pattern : Pattern) (value : Option Expr) (otherwise : Option (List Stmt))
  /-- An expression whose value is not used. -/
  | run (value : Expr)
  /-- An expression without a semicolon: a block may stand for the value of the last one. -/
  | result (value : Expr)

end

namespace Segment

/-- A segment that names one thing. -/
def ofIdent (i : Ident) : Segment := .mk (.ident i) .none

/-- A segment that names one thing by a word that needs no escape. -/
def word (w : String) : Segment := ofIdent ⟨w, false⟩

/-- The segment with other arguments. -/
def withArguments (a : Arguments) : Segment → Segment
  | .mk h _ => .mk h a

end Segment

namespace Path

/-- The segments of a path. -/
def segments : Path → List Segment
  | .mk _ s => s

/-- Whether a path is absolute. -/
def leading : Path → Bool
  | .mk l _ => l

/-- A path of one segment. -/
def ofIdent (i : Ident) : Path := .mk false [.ofIdent i]

/-- An absolute path of words. -/
def root (words : List String) : Path := .mk true (words.map .word)

/-- The path with another segment behind it. -/
def push (p : Path) (s : Segment) : Path := .mk p.leading (p.segments ++ [s])

/-- The segments with arguments on the last of them. -/
def applyLast (a : Arguments) : List Segment → List Segment
  | [] => []
  | [s] => [s.withArguments a]
  | s :: t :: r => s :: applyLast a (t :: r)

/-- The path with its last segment applied to something. -/
def apply (p : Path) (a : Arguments) : Path := .mk p.leading (applyLast a p.segments)

/-- The path with its last segment applied to types, as it is written in a type. -/
def of (p : Path) (items : List Ty) : Path :=
  if items.isEmpty then p else p.apply (.types false (items.map .type) false)

/-- The path with its last segment applied to types, as it is written in an expression. -/
def turbo (p : Path) (items : List Ty) : Path :=
  if items.isEmpty then p else p.apply (.types true (items.map .type) false)

end Path

/-! ## Items -/

/-- Where an item may be used. -/
inductive Scope
  | here
  | crate
  | everywhere
  deriving DecidableEq, Repr

/-- A type parameter of an item, with the traits that it must have. -/
structure Generic where
  name : Ident
  bounds : List Path

/-- A parameter of a function. -/
inductive Param
  /-- The value itself, borrowed to be changed. -/
  | selfRef
  /-- The value itself, moved; it may be changed if `mutable`. -/
  | selfValue (mutable : Bool)
  | typed (name : Ident) (type : Ty)

/-- A function. -/
structure Function where
  scope : Scope
  name : Ident
  generics : List Generic := []
  params : List Param
  /-- Whether a comma follows the last parameter in the token list. -/
  comma : Bool := false
  result : Option Ty
  body : List Stmt

/-- An item of a module. -/
inductive Item
  | use (path : Path)
  /-- Names of a module, made available under this one. -/
  | reexport (scope : Scope) (module : Ident) (names : List Ident)
  | submodule (scope : Scope) (name : Ident)
  | struct (scope : Scope) (name : Ident) (generics : List Generic) (fields : List (Ident × Ty))
  | impl (generics : List Generic) (trait : Option Path) (target : Path)
      (functions : List Function)
  | function (f : Function)

/-- A module: the lints it is exempt from, and its items. -/
structure Module where
  exempt : List (List String) := []
  items : List Item

end FluentBuilders.Code
