/-
  Acceptance — whether a code tree reads back as code.

  Names from a descriptor can put a reserved word or a star where the generated language wants an
  identifier, and a path written by hand can carry arguments that an expression does not admit.
  Such a tree has a token list but is no code.  The refusal is the first one that a reader from
  left to right would meet.

  Arguments without a separator make what follows an expression of another kind, if it is one at
  all; `Expr.settled` puts the fields of a value into the form in which they are read back.  What
  can only come from a path written by hand has been read already and needs no second look.
-/
import FluentBuilders.Code.Grammar
import FluentBuilders.Code.TokenList

namespace FluentBuilders.Code

/-! ## Names -/

/-- Why an identifier cannot name a declared thing. -/
def Ident.refusal? (i : Ident) : Option Refusal :=
  if i.isFree then none else some (.reserved i.word)

/-- Why the beginning of a segment is none. -/
def Head.refusal? : Head → Option Refusal
  | .ident i => if i.isBareSegment || i.isSegment then none else some (.reserved i.word)
  | .star => some (.wanted .identifier)

/-- Whether nothing can be applied to the beginning of a segment. -/
def Head.isBare : Head → Bool
  | .ident i => i.isBareSegment
  | .star => false

/-- Why a path that is not absolute is no type, judged by how it begins.  The hole is a type if
    nothing follows it. -/
def Segment.openingRefusal? : List Segment → Option (Option Refusal)
  | .mk .star _ :: _ => some (some (.expected [.sign "const", .sign "mut"] false))
  | .mk (.ident i) arguments :: rest =>
    if i.isHole then
      match arguments, rest with
      | .none, [] => some none
      | _, _ => some (some (.wantedSign ","))
    else if !i.isTypeStart then some (some (.expected Refusal.typeWants false))
    else none
  | [] => none

/-! ## Values that read back as something else -/

/-- Whether a path has arguments without a separator. -/
def Path.isAmbiguous (p : Path) : Bool :=
  p.segments.any fun
    | .mk _ (.types false _ _) => true
    | .mk _ _ => false

/-- Whether an expression is a path, or a call of one, that has arguments without a separator. -/
def Expr.isAmbiguous : Expr → Bool
  | .path p => p.isAmbiguous
  | .call (.path p) _ _ => p.isAmbiguous
  | _ => false

/-- Whether the value of a field has arguments without a separator. -/
def anyAmbiguous (fields : List (Ident × Option Expr)) : Bool :=
  fields.any fun (_, e) => e.any Expr.isAmbiguous

/-- A value with its fields as they are read back, if they are. -/
def Expr.settled : Expr → Expr
  | .record type fields comma more base =>
    if anyAmbiguous fields then
      match fieldsOfTokens (Expr.tokensFields comma fields) with
      | .ok (fields, comma) => .record type fields comma more base
      | .error _ => .record type fields comma more base
    else .record type fields comma more base
  | e => e

/-- Why the fields of a value do not read back. -/
def rereadRefusal? (fields : List (Ident × Option Expr)) (comma : Bool) : Option Refusal :=
  match fieldsOfTokens (Expr.tokensFields comma fields) with
  | .ok _ => none
  | .error r => some r

/-! ## Paths, types, expressions and statements -/

mutual

/-- Why a type is none. -/
def Ty.refusal? : Ty → Option Refusal
  | .path (.mk leading segments) =>
    match if leading then none else Segment.openingRefusal? segments with
    | some verdict => verdict
    | none => Segment.refusalIn? segments
  | .projection p => p.refusal?
  | .impl bounds _ => Bound.refusalIn? bounds
  | .ref _ _ target => target.refusal?
  | .tuple items _ => Ty.refusalIn? items
  | .function _ _ _ _ result => Ty.resultRefusal? result
  | _ => none

/-- Why one of several types is none. -/
def Ty.refusalIn? : List Ty → Option Refusal
  | [] => none
  | t :: ts => t.refusal? <|> Ty.refusalIn? ts

/-- Why the result of a function is none. -/
def Ty.resultRefusal? : Option Ty → Option Refusal
  | some t => t.refusal?
  | none => none

/-- Why a path is none where only a path can stand. -/
def Path.refusal? : Path → Option Refusal
  | .mk _ segments => Segment.refusalIn? segments

/-- Why what belongs to a type is nothing. -/
def Projection.refusal? : Projection → Option Refusal
  | .mk owner trait rest =>
    owner.refusal?
      <|> (match trait with
          | some t => t.refusal?
          | none => none)
      <|> Segment.refusalIn? rest

/-- Why one of several segments is none. -/
def Segment.refusalIn? : List Segment → Option Refusal
  | [] => none
  | .mk head arguments :: r =>
    head.refusal? <|> arguments.refusal? head.isBare <|> Segment.refusalIn? r

/-- Why the arguments of a segment are none, given whether it can have any. -/
def Arguments.refusal? (bare : Bool) : Arguments → Option Refusal
  | .none => none
  | .types _ items _ =>
    (if bare then some (.wantedSign ",") else none) <|> Argument.refusalIn? items
  | .inputs items _ result => Ty.refusalIn? items <|> Ty.resultRefusal? result

/-- Why an argument is none. -/
def Argument.refusal? : Argument → Option Refusal
  | .type t => t.refusal?
  | _ => none

/-- Why one of several arguments is none. -/
def Argument.refusalIn? : List Argument → Option Refusal
  | [] => none
  | a :: r => a.refusal? <|> Argument.refusalIn? r

/-- Why a bound is none. -/
def Bound.refusal? : Bound → Option Refusal
  | .trait _ _ _ p => p.refusal?
  | _ => none

/-- Why one of several bounds is none. -/
def Bound.refusalIn? : List Bound → Option Refusal
  | [] => none
  | b :: r => b.refusal? <|> Bound.refusalIn? r

/-- Why an expression is none. -/
def Expr.refusal? : Expr → Option Refusal
  | .path p => p.refusal?
  | .projection p => p.refusal?
  | .call callee arguments _ => callee.refusal? <|> Expr.refusalIn? arguments
  | .field receiver name => receiver.refusal? <|> name.refusal?
  | .method receiver name _ arguments _ =>
    receiver.refusal? <|> name.refusal? <|> Expr.refusalIn? arguments
  | .attempt value => value.refusal?
  | .borrow _ _ target => target.refusal?
  | .assign place value => place.refusal? <|> value.refusal?
  | .branch condition body _ => condition.refusal? <|> Stmt.refusalIn? body
  | .fits pattern value => pattern.refusal? <|> value.refusal?
  | .record type fields comma _ _ =>
    if anyAmbiguous fields then rereadRefusal? fields comma
    else type.refusal? <|> Expr.refusalInFields? fields
  | _ => none

/-- Why one of several expressions is none. -/
def Expr.refusalIn? : List Expr → Option Refusal
  | [] => none
  | e :: es => e.refusal? <|> Expr.refusalIn? es

/-- Why one of several fields is none. -/
def Expr.refusalInFields? : List (Ident × Option Expr) → Option Refusal
  | [] => none
  | (name, some e) :: fs => name.refusal? <|> e.refusal? <|> Expr.refusalInFields? fs
  | (name, none) :: fs => name.refusal? <|> Expr.refusalInFields? fs

/-- Why a pattern is none. -/
def Pattern.refusal? : Pattern → Option Refusal
  | .bind _ _ name _ => name.refusal?
  | .variant constructor items _ => constructor.refusal? <|> Pattern.refusalIn? items
  | _ => none

/-- Why one of several patterns is none. -/
def Pattern.refusalIn? : List Pattern → Option Refusal
  | [] => none
  | p :: r => p.refusal? <|> Pattern.refusalIn? r

/-- Why a statement is none. -/
def Stmt.refusal? : Stmt → Option Refusal
  | .bind pattern (some value) _ => pattern.refusal? <|> value.refusal?
  | .bind pattern none _ => pattern.refusal?
  | .run value | .result value => value.refusal?
  | .empty => none

/-- Why one of several statements is none. -/
def Stmt.refusalIn? : List Stmt → Option Refusal
  | [] => none
  | s :: ss => s.refusal? <|> Stmt.refusalIn? ss

end

/-- Why the segments of an import are none.  A star must be the last of them. -/
def importRefusal? : List Segment → Option Refusal
  | [] => none
  | .mk .star _ :: r => if r.isEmpty then none else some (.wantedSign ";")
  | .mk (.ident i) _ :: r =>
    if i.isFree || i.isBareSegment then importRefusal? r
    else some (.expected Refusal.importWants false)

/-! ## Items -/

/-- Why a type parameter is none. -/
def Generic.refusal? (g : Generic) : Option Refusal :=
  g.name.refusal? <|> g.bounds.findSome? (·.refusal?)

/-- Why a parameter is none. -/
def Param.refusal? : Param → Option Refusal
  | .selfRef | .selfValue _ => none
  | .typed name type => name.refusal? <|> type.refusal?

/-- Why a function is none. -/
def Function.refusal? (f : Function) : Option Refusal :=
  f.name.refusal? <|> f.generics.findSome? (·.refusal?) <|> f.params.findSome? (·.refusal?)
    <|> f.result.bind (·.refusal?) <|> Stmt.refusalIn? f.body

/-- Why an item is none. -/
def Item.refusal? : Item → Option Refusal
  | .use path => importRefusal? path.segments
  | .reexport _ module names => importRefusal? ((module :: names).map .ofIdent)
  | .submodule _ name => name.refusal?
  | .struct _ name generics fields =>
    name.refusal? <|> generics.findSome? (·.refusal?)
      <|> fields.findSome? fun (n, t) => n.refusal? <|> t.refusal?
  | .impl generics trait target functions =>
    generics.findSome? (·.refusal?) <|> trait.bind (·.refusal?) <|> target.refusal?
      <|> functions.findSome? (·.refusal?)
  | .function f => f.refusal?

/-- Why a module is none. -/
def Module.refusal? (m : Module) : Option Refusal := m.items.findSome? (·.refusal?)

end FluentBuilders.Code
