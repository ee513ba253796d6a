/-
  Token lists — a code tree as the sequence of its tokens.

  Every list is written with the marks that its tree asks for, so that reading the tokens gives the
  tree again.
-/
import FluentBuilders.Code.Kind

namespace FluentBuilders.Code

/-! ## Identifiers and lifetimes -/

/-- The token of an identifier. -/
def Ident.tokens (i : Ident) : List Token := [.word i.spelled]

/-- The tokens of a lifetime with some name. -/
def Ident.lifetimeTokens (i : Ident) : List Token := .mark '\'' true :: i.tokens

/-- The token of what a segment names. -/
def Head.tokens : Head → List Token
  | .ident i => i.tokens
  | .star => [.mark '*']

/-- The tokens of a lifetime with the bounds that it is introduced with. -/
def LifetimeParam.tokens (p : LifetimeParam) : List Token :=
  p.name.lifetimeTokens ++
    if p.bounds.isEmpty then []
    else .mark ':' :: Token.sepBy '+' p.plus (p.bounds.map Ident.lifetimeTokens)

/-- The tokens of a binder. -/
def Binder.tokens (b : Binder) : List Token :=
  .word "for" :: Token.between '<' '>' (Token.sepBy ',' b.comma (b.params.map (·.tokens)))

/-- The tokens of a binder, if there is one. -/
def binderTokens : Option Binder → List Token
  | some b => b.tokens
  | none => []

/-- The tokens of what stands in front of the type of a function. -/
def FunctionHead.tokens (h : FunctionHead) : List Token :=
  binderTokens h.binder ++ (if h.unchecked then [.word "unsafe"] else [])
    ++ (match h.convention with
        | some (some name) => [.word "extern", .literal name]
        | some none => [.word "extern"]
        | none => [])
    ++ [.word "fn"]

/-! ## Paths, types and expressions -/

/-- The tokens of the name of a parameter or of a field, if it has one. -/
def nameTokens : Option Ident → List Token
  | some i => i.tokens ++ [.mark ':']
  | none => []

/-- The tokens of what stands for further parameters of a function, if it is written. -/
def furtherTokens : Option (Option Ident) → List (List Token)
  | some name => [nameTokens name ++ Token.marks "..."]
  | none => []

/-- The tokens of a lifetime, if there is one. -/
def lifetimeTokens : Option Ident → List Token
  | some l => l.lifetimeTokens
  | none => []

/-- The tokens of a label, if there is one. -/
def labelTokens : Option Ident → List Token
  | some l => l.lifetimeTokens ++ [.mark ':']
  | none => []

/-- The tokens of some words. -/
def wordTokens (ws : List String) : List Token := ws.map Token.word

/-- A mark, if it is written. -/
def optionalMark (c : Char) (written : Bool) : List Token := if written then [.mark c] else []

/-- A word, if it is written. -/
def optionalWord (w : String) (written : Bool) : List Token := if written then [.word w] else []

mutual

/-- The tokens of a type. -/
def Ty.tokens : Ty → List Token
  | .path p => p.tokens
  | .projection p => p.tokens
  | .impl bounds plus => .word "impl" :: Bound.tokensList plus bounds
  | .object marked bounds plus => optionalWord "dyn" marked ++ Bound.tokensList plus bounds
  | .ref lifetime mutable target =>
    .mark '&' :: lifetimeTokens lifetime ++ optionalWord "mut" mutable ++ target.tokens
  | .pointer mutable target =>
    .mark '*' :: .word (if mutable then "mut" else "const") :: target.tokens
  | .slice item => Token.between '[' ']' item.tokens
  | .array item length => Token.between '[' ']' (item.tokens ++ .mark ';' :: length.tokens)
  | .tuple items comma => Token.between '(' ')' (Ty.tokensList comma items)
  | .paren inner => Token.between '(' ')' inner.tokens
  | .function head params further comma result =>
    head.tokens
      ++ Token.between '(' ')'
        (Token.sepBy ',' comma (Ty.tokensParams params ++ furtherTokens further))
      ++ Ty.tokensResult result
  | .never => [.mark '!']
  | .expansion name body => name.tokens ++ .mark '!' :: body

/-- The tokens of types with commas between them. -/
def Ty.tokensList (comma : Bool) : List Ty → List Token
  | [] => []
  | [t] => t.tokens ++ optionalMark ',' comma
  | t :: u :: ts => t.tokens ++ .mark ',' :: Ty.tokensList comma (u :: ts)

/-- The tokens of each parameter of a function type. -/
def Ty.tokensParams : List (Option Ident × Ty) → List (List Token)
  | [] => []
  | (name, t) :: ts => (nameTokens name ++ t.tokens) :: Ty.tokensParams ts

/-- The tokens of the result of a function. -/
def Ty.tokensResult : Option Ty → List Token
  | some t => Token.marks "->" ++ t.tokens
  | none => []

/-- The tokens of a path. -/
def Path.tokens : Path → List Token
  | .mk leading segments =>
    (if leading then Token.marks "::" else []) ++ Segment.tokensList segments

/-- The tokens of what belongs to a type. -/
def Projection.tokens : Projection → List Token
  | .mk owner trait rest =>
    Token.between '<' '>' (owner.tokens ++ match trait with
        | some t => .word "as" :: t.tokens
        | none => [])
      ++ Token.marks "::" ++ Segment.tokensList rest

/-- The tokens of a segment. -/
def Segment.tokens : Segment → List Token
  | .mk head arguments => head.tokens ++ arguments.tokens

/-- The tokens of segments with separators between them. -/
def Segment.tokensList : List Segment → List Token
  | [] => []
  | [s] => s.tokens
  | s :: t :: r => s.tokens ++ Token.marks "::" ++ Segment.tokensList (t :: r)

/-- The tokens of what a segment is applied to. -/
def Arguments.tokens : Arguments → List Token
  | .none => []
  | .types turbo items comma =>
    (if turbo then Token.marks "::" else [])
      ++ Token.between '<' '>' (Argument.tokensList comma items)
  | .inputs items comma result =>
    Token.between '(' ')' (Ty.tokensList comma items) ++ Ty.tokensResult result

/-- The tokens of what stands between angle brackets. -/
def Argument.tokens : Argument → List Token
  | .lifetime name => name.lifetimeTokens
  | .type t => t.tokens
  | .value e => e.tokens
  | .typeOf name arguments t => name.tokens ++ arguments.tokens ++ .mark '=' :: t.tokens
  | .valueOf name arguments e => name.tokens ++ arguments.tokens ++ .mark '=' :: e.tokens
  | .boundsOf name arguments bounds plus =>
    name.tokens ++ arguments.tokens ++ .mark ':' :: Bound.tokensList plus bounds

/-- The tokens of arguments with commas between them. -/
def Argument.tokensList (comma : Bool) : List Argument → List Token
  | [] => []
  | [a] => a.tokens ++ optionalMark ',' comma
  | a :: b :: r => a.tokens ++ .mark ',' :: Argument.tokensList comma (b :: r)

/-- The tokens of what a type must have. -/
def Bound.tokens : Bound → List Token
  | .trait parens binder waived p =>
    let inner := binderTokens binder ++ optionalMark '?' waived ++ p.tokens
    if parens then Token.between '(' ')' inner else inner
  | .lifetime name => name.lifetimeTokens
  | .capture names => .word "use" :: names.tokens

/-- The tokens of several things that a type must have. -/
def Bound.tokensList (plus : Bool) : List Bound → List Token
  | [] => []
  | [b] => b.tokens ++ optionalMark '+' plus
  | b :: c :: r => b.tokens ++ .mark '+' :: Bound.tokensList plus (c :: r)

/-- The tokens of an expression. -/
def Expr.tokens : Expr → List Token
  | .path p => p.tokens
  | .projection p => p.tokens
  | .call callee arguments comma =>
    callee.tokens ++ Token.between '(' ')' (Expr.tokensList comma arguments)
  | .field receiver name => receiver.tokens ++ .mark '.' :: name.tokens
  | .method receiver name types arguments comma =>
    receiver.tokens ++ .mark '.' :: name.tokens ++ types.tokens
      ++ Token.between '(' ')' (Expr.tokensList comma arguments)
  | .index receiver index => receiver.tokens ++ Token.between '[' ']' index.tokens
  | .attempt value => value.tokens ++ [.mark '?']
  | .await value => value.tokens ++ [.mark '.', .word "await"]
  | .literal text => [.literal text]
  | .unary operator operand => Token.marks operator ++ operand.tokens
  | .borrow raw mutable target =>
    .mark '&' :: optionalWord "raw" raw ++ optionalWord "mut" mutable
      ++ optionalWord "const" (raw && !mutable) ++ target.tokens
  | .binary operator left right => left.tokens ++ Token.marks operator ++ right.tokens
  | .assign place value => place.tokens ++ .mark '=' :: value.tokens
  | .cast value type => value.tokens ++ .word "as" :: type.tokens
  | .range first closed last =>
    Expr.tokensOption first ++ Token.marks (rangeSign closed) ++ Expr.tokensOption last
  | .paren inner => Token.between '(' ')' inner.tokens
  | .tuple items comma => Token.between '(' ')' (Expr.tokensList comma items)
  | .array items comma => Token.between '[' ']' (Expr.tokensList comma items)
  | .fill item length => Token.between '[' ']' (item.tokens ++ .mark ';' :: length.tokens)
  | .block label words body => labelTokens label ++ wordTokens words ++ Stmt.tokensBlock body
  | .branch condition body otherwise =>
    .word "if" :: condition.tokens ++ Stmt.tokensBlock body
      ++ optionalWord "else" otherwise.isSome ++ Expr.tokensOption otherwise
  | .loop label body => labelTokens label ++ .word "loop" :: Stmt.tokensBlock body
  | .whileLoop label condition body =>
    labelTokens label ++ .word "while" :: condition.tokens ++ Stmt.tokensBlock body
  | .forLoop label pattern source body =>
    labelTokens label ++ .word "for" :: pattern.tokens ++ .word "in" :: source.tokens
      ++ Stmt.tokensBlock body
  | .choice value arms =>
    .word "match" :: value.tokens ++ Token.between '\x7b' '\x7d' (Arm.tokensList arms)
  | .fits pattern value => .word "let" :: pattern.tokens ++ .mark '=' :: value.tokens
  | .closure binder words params comma result body =>
    binderTokens binder ++ wordTokens words
      ++ Token.between '|' '|' (Pattern.tokensList comma params) ++ Ty.tokensResult result
      ++ body.tokens
  | .jump word label value => .word word :: lifetimeTokens label ++ Expr.tokensOption value
  | .record type fields comma more base =>
    type.tokens
      ++ Token.between '\x7b' '\x7d'
        (Expr.tokensFields (comma || !fields.isEmpty && more) fields
          ++ (if more then Token.marks ".." else []) ++ Expr.tokensOption base)
  | .expansion name body => name.tokens ++ .mark '!' :: body

/-- The tokens of an expression, if there is one. -/
def Expr.tokensOption : Option Expr → List Token
  | some e => e.tokens
  | none => []

/-- The tokens of expressions with commas between them. -/
def Expr.tokensList (comma : Bool) : List Expr → List Token
  | [] => []
  | [e] => e.tokens ++ optionalMark ',' comma
  | e :: f :: r => e.tokens ++ .mark ',' :: Expr.tokensList comma (f :: r)

/-- The tokens of the fields of a value. -/
def Expr.tokensFields (comma : Bool) : List (Ident × Option Expr) → List Token
  | [] => []
  | [f] => Expr.tokensField f ++ optionalMark ',' comma
  | f :: g :: r => Expr.tokensField f ++ .mark ',' :: Expr.tokensFields comma (g :: r)

/-- The tokens of a field of a value. -/
def Expr.tokensField : Ident × Option Expr → List Token
  | (name, some e) => name.tokens ++ .mark ':' :: e.tokens
  | (name, none) => name.tokens

/-- The tokens of a pattern. -/
def Pattern.tokens : Pattern → List Token
  | .wild => [.word "_"]
  | .rest => Token.marks ".."
  | .bind byRef mutable name inner =>
    optionalWord "ref" byRef ++ optionalWord "mut" mutable ++ name.tokens
      ++ (match inner with
          | some p => .mark '@' :: p.tokens
          | none => [])
  | .value e => e.tokens
  | .typed inner type => inner.tokens ++ .mark ':' :: type.tokens
  | .borrow mutable inner => .mark '&' :: optionalWord "mut" mutable ++ inner.tokens
  | .paren inner => Token.between '(' ')' inner.tokens
  | .tuple items comma => Token.between '(' ')' (Pattern.tokensList comma items)
  | .slice items comma => Token.between '[' ']' (Pattern.tokensList comma items)
  | .either leading cases => optionalMark '|' leading ++ Pattern.tokensCases cases
  | .variant constructor items comma =>
    constructor.tokens ++ Token.between '(' ')' (Pattern.tokensList comma items)
  | .record type fields comma more =>
    type.tokens
      ++ Token.between '\x7b' '\x7d'
        (Pattern.tokensFields (comma || !fields.isEmpty && more) fields
          ++ (if more then Token.marks ".." else []))

/-- The tokens of patterns with commas between them. -/
def Pattern.tokensList (comma : Bool) : List Pattern → List Token
  | [] => []
  | [p] => p.tokens ++ optionalMark ',' comma
  | p :: q :: r => p.tokens ++ .mark ',' :: Pattern.tokensList comma (q :: r)

/-- The tokens of patterns one of which is asked for. -/
def Pattern.tokensCases : List Pattern → List Token
  | [] => []
  | [p] => p.tokens
  | p :: q :: r => p.tokens ++ .mark '|' :: Pattern.tokensCases (q :: r)

/-- The tokens of the fields of a pattern. -/
def Pattern.tokensFields (comma : Bool) : List (Option Ident × Pattern) → List Token
  | [] => []
  | [(name, p)] => nameTokens name ++ p.tokens ++ optionalMark ',' comma
  | (name, p) :: f :: r =>
    nameTokens name ++ p.tokens ++ .mark ',' :: Pattern.tokensFields comma (f :: r)

/-- The tokens of a case. -/
def Arm.tokens : Arm → List Token
  | .mk pattern guard body comma =>
    pattern.tokens
      ++ optionalWord "if" guard.isSome ++ Expr.tokensOption guard
      ++ Token.marks "=>" ++ body.tokens ++ optionalMark ',' comma

/-- The tokens of cases. -/
def Arm.tokensList : List Arm → List Token
  | [] => []
  | a :: r => a.tokens ++ Arm.tokensList r

/-- The tokens of a statement. -/
def Stmt.tokens : Stmt → List Token
  | .empty => [.mark ';']
  | .bind pattern value otherwise =>
    .word "let" :: pattern.tokens
      ++ optionalMark '=' value.isSome ++ Expr.tokensOption value
      ++ (match otherwise with
          | some body => .word "else" :: Stmt.tokensBlock body
          | none => [])
      ++ [.mark ';']
  | .run value => value.tokens ++ [.mark ';']
  | .result value => value.tokens

/-- The tokens of statements. -/
def Stmt.tokensList : List Stmt → List Token
  | [] => []
  | s :: r => s.tokens ++ Stmt.tokensList r

/-- The tokens of statements between braces. -/
def Stmt.tokensBlock : List Stmt → List Token
  | [] => Token.between '\x7b' '\x7d' []
  | s :: r => Token.between '\x7b' '\x7d' (s.tokens ++ Stmt.tokensList r)

end

/-! ## Items -/

/-- The tokens of a scope. -/
def Scope.tokens : Scope → List Token
  | .here => []
  | .crate => .word "pub" :: Token.between '(' ')' [.word "crate"]
  | .everywhere => [.word "pub"]

/-- The tokens of a type parameter. -/
def Generic.tokens (g : Generic) : List Token :=
  if g.bounds.isEmpty then g.name.tokens
  else g.name.tokens ++ .mark ':' :: Token.sepBy '+' false (g.bounds.map (·.tokens))

/-- The tokens of the type parameters of an item. -/
def genericsTokens (gs : List Generic) : List Token :=
  if gs.isEmpty then []
  else Token.between '<' '>' (Token.sepBy ',' false (gs.map (·.tokens)))

/-- The tokens of a parameter. -/
def Param.tokens : Param → List Token
  | .selfRef => [.mark '&', .word "mut", .word "self"]
  | .selfValue mutable => (if mutable then [.word "mut"] else []) ++ [.word "self"]
  | .typed name type => name.tokens ++ .mark ':' :: type.tokens

/-- The tokens of a function. -/
def Function.tokens (f : Function) : List Token :=
  f.scope.tokens ++ .word "fn" :: f.name.tokens ++ genericsTokens f.generics
    ++ Token.between '(' ')' (Token.sepBy ',' f.comma (f.params.map (·.tokens)))
    ++ Ty.tokensResult f.result
    ++ Stmt.tokensBlock f.body

/-- The tokens of an item. -/
def Item.tokens : Item → List Token
  | .use path => .word "use" :: path.tokens ++ [.mark ';']
  | .reexport scope module names =>
    scope.tokens ++ .word "use" :: module.tokens ++ Token.marks "::"
      ++ Token.between '\x7b' '\x7d' (Token.sepBy ',' false (names.map (·.tokens))) ++ [.mark ';']
  | .submodule scope name => scope.tokens ++ .word "mod" :: name.tokens ++ [.mark ';']
  | .struct scope name generics fields =>
    scope.tokens ++ .word "struct" :: name.tokens ++ genericsTokens generics
      ++ Token.between '\x7b' '\x7d'
          (Token.sepBy ',' true (fields.map fun (n, t) => n.tokens ++ .mark ':' :: t.tokens))
  | .impl generics trait target functions =>
    .word "impl" :: genericsTokens generics
      ++ (match trait with
          | some t => t.tokens ++ [.word "for"]
          | none => [])
      ++ target.tokens
      ++ Token.between '\x7b' '\x7d' (functions.flatMap (·.tokens))
  | .function f => f.tokens

/-- The tokens of a lint exemption. -/
def exemptTokens (lint : List String) : List Token :=
  [.mark '#', .mark '!'] ++ Token.between '[' ']' (.word "allow"
    :: Token.between '(' ')' (Path.mk false (lint.map .word)).tokens)

/-- The tokens of a module. -/
def Module.tokens (m : Module) : List Token :=
  m.exempt.flatMap exemptTokens ++ m.items.flatMap (·.tokens)

end FluentBuilders.Code
