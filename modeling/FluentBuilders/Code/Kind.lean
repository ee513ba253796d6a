/-
  Kinds — what an expression, a statement or a pattern is like, as far as those around it have to
  know: where a block may end, which brackets it needs, what may follow it.
-/
import FluentBuilders.Code.Operator
import FluentBuilders.Code.Tree

namespace FluentBuilders.Code

/-! ## Paths and types -/

/-- Whether one thing alone is applied to nothing, as far as it is written. -/
def Arguments.isEmpty : Arguments → Bool
  | .none => true
  | .types _ items _ => items.isEmpty
  | .inputs _ _ _ => false

/-- Whether nothing is applied at all. -/
def Arguments.isNone : Arguments → Bool
  | .none => true
  | _ => false

/-- Whether an argument is a lifetime. -/
def Argument.isLifetime : Argument → Bool
  | .lifetime _ => true
  | _ => false

/-- Whether a path is the hole that stands for any type. -/
def Path.isHole : Path → Bool
  | .mk false [.mk (.ident i) .none] => i == ⟨"_", false⟩
  | _ => false

/-- Whether a path consists of words alone. -/
def Path.isPlain (p : Path) : Bool := p.segments.all fun | .mk _ a => a.isNone

/-- Whether nothing is applied in the last segment of a path. -/
def Path.endsBare (p : Path) : Bool :=
  (p.segments.getLast?.map fun | .mk _ a => a.isEmpty).getD false

/-- The path that a type is.  The hole is none. -/
def Ty.asPath? : Ty → Option Path
  | .path p => if p.isHole then none else some p
  | _ => none

/-- The word and the arguments of a path that could name something of a trait. -/
def Path.asName? : Path → Option (Ident × Arguments)
  | .mk false [.mk (.ident i) arguments] => some (i, arguments)
  | _ => none

/-- The bound that a type between brackets is, if others follow it. -/
def Ty.asBound? : Ty → Option Bound
  | .path p => if p.isHole then none else some (.trait true none false p)
  | .object false [.trait _ b w p] false => some (.trait true b w p)
  | .object false [b] false => some b
  | _ => none

/-- Whether a bound is a trait. -/
def Bound.isTrait : Bound → Bool
  | .trait _ _ _ _ => true
  | _ => false

/-! ## Expressions -/

/-- Whether an expression is a name of at most four bytes. -/
def Expr.isShortName : Expr → Bool
  | .path (.mk false [.mk (.ident i) .none]) => decide (i.spelled.utf8ByteSize ≤ 4)
  | _ => false

/-- The sign of a range. -/
def rangeSign (closed : Bool) : String := if closed then "..=" else ".."

/-- Whether an expression is a range. -/
def Expr.isRange : Expr → Bool
  | .range _ _ _ => true
  | _ => false

/-- Whether an expression is a comparison. -/
def Expr.isComparison : Expr → Bool
  | .binary s _ _ => Code.isComparison s
  | _ => false

/-- Whether an expression is an expansion between braces. -/
def Expr.isBracedExpansion : Expr → Bool
  | .expansion _ body => body.head? == some (.mark '\x7b')
  | _ => false

/-- Whether an expression brings its own brackets, so that it needs no others around it. -/
def Expr.isBracketed : Expr → Bool
  | .array _ _ | .closure _ _ _ _ _ _ | .record _ _ _ _ _ | .tuple _ _ => true
  | .block _ words _ => !words.contains "try"
  | _ => false

/-- Whether an expression can be the body of a function without a name as it is. -/
def Expr.isClosureBody : Expr → Bool
  | .choice _ _ | .call _ _ _ => true
  | e => e.isBracketed

/-- Whether a line may end within an expression so that a brace behind it has to begin the next. -/
def Expr.mayWrap : Expr → Bool
  | .assign _ _ | .await _ | .binary _ _ _ | .cast _ _ | .field _ _ | .index _ _
  | .method _ _ _ _ _ => true
  | .call e _ _ | .fits _ e | .paren e | .range _ _ (some e) | .borrow _ _ e | .jump _ _ (some e)
  | .attempt e | .unary _ e => e.mayWrap
  | _ => false

/-- Whether an expression changes a place. -/
def Expr.isChange : Expr → Bool
  | .assign _ _ => true
  | .binary s _ _ => operators.lookup s == some .assign
  | _ => false

/-- Whether an expression at the end of a block is written with a semicolon. -/
def Expr.endsWithSemicolon : Expr → Bool
  | .jump _ _ _ => true
  | e => e.isChange

/-- Whether an expression needs no semicolon as a statement, even if one is written. -/
def Expr.dropsSemicolon : Expr → Bool
  | .forLoop _ _ _ _ | .whileLoop _ _ _ | .branch _ _ none => true
  | .branch _ _ (some e) => e.dropsSemicolon
  | _ => false

/-- Whether an expression is a statement where it has no semicolon behind it. -/
def Expr.isStatement : Expr → Bool
  | .branch _ _ _ | .choice _ _ | .loop _ _ | .whileLoop _ _ _ | .forLoop _ _ _ _ => true
  | .block _ words _ => !words.contains "async"
  | _ => false

/-- Whether an expression can be the first thing in a statement without brackets around it. -/
def Expr.opensStatement : Expr → Bool
  | .assign e _ | .await e | .binary _ e _ | .call e _ _ | .cast e _ | .field e _ | .index e _
  | .method e _ _ _ _ | .range (some e) _ _ | .attempt e => !e.isStatement && e.opensStatement
  | _ => true

/-- Whether an expression behind an arrow is written as a block. -/
def Expr.isArmBlock : Expr → Bool
  | .block _ [] _ | .tuple [] _ => true
  | _ => false

/-- Whether the last thing of an expression is a brace. -/
def Expr.endsInBrace : Expr → Bool
  | .block _ _ _ | .branch _ _ _ | .loop _ _ | .whileLoop _ _ _ | .forLoop _ _ _ _ | .choice _ _
  | .record _ _ _ _ _ => true
  | .assign _ e | .binary _ _ e | .jump _ _ (some e) | .closure _ _ _ _ _ e | .fits _ e
  | .range _ _ (some e) | .borrow _ _ e | .unary _ e => e.endsInBrace
  | e => e.isBracedExpansion

/-! ## Statements and patterns -/

/-- Whether a statement is nothing but a semicolon. -/
def Stmt.isEmpty : Stmt → Bool
  | .empty => true
  | _ => false

/-- Whether a pattern is so small that several of them share a line. -/
def Pattern.isSmall : Pattern → Bool
  | .value (.literal _) | .value (.unary _ _) | .wild => true
  | _ => false

/-- Whether a pattern stands for whatever else there is. -/
def Pattern.isRest : Pattern → Bool
  | .rest => true
  | _ => false

/-- Whether a pattern is a range with one end only. -/
def Pattern.isHalfRange : Pattern → Bool
  | .value (.range none _ _) | .value (.range _ _ none) => true
  | _ => false

end FluentBuilders.Code
