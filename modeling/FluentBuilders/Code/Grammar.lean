/-
  Grammar — paths, types, expressions and patterns read from their tokens.

  Every reader takes the longest beginning of the source that its rule allows.  A path in an
  expression has arguments only behind a separator, because a sign `<` alone compares there; an
  operator takes the operands that bind more tightly than it does; in front of a block a brace
  never begins a value, which is what `records` says.

  Each step of a reader takes one from a given number of steps, which `stepsFor` makes great enough.
-/
import FluentBuilders.Code.Kind
import FluentBuilders.Code.Source

namespace FluentBuilders.Code

open Reader Ahead

/-! ## Lists and small parts -/

/-- The arguments of a segment with the lifetimes in front, as they are always written.  A comma
stays with the argument that it stood behind, so there is one at the end if the last argument was
not the last before. -/
def Arguments.ordered (turbo : Bool) (items : List Argument) (comma : Bool) : Arguments :=
  let (lifetimes, others) := items.partition Argument.isLifetime
  let moved := !others.isEmpty && (items.getLast?.map Argument.isLifetime).getD false
  .types turbo (lifetimes ++ others) (comma || moved)

/-- Reads the bounds of a lifetime that a binder introduces. -/
def readLifetimeBounds : Nat → Reader (List Ident × Bool)
  | 0 => refuse [.lifetime]
  | n + 1 => do
    if ← sees fun ts => isEnd ts || isSign "," ts || isSign ">" ts then return ([], false)
    let l ← lifetime
    if ← sign? "+" then
      let (ls, plus) ← readLifetimeBounds n
      return (l :: ls, plus || ls.isEmpty)
    else return ([l], false)

/-- Reads the lifetimes of a binder up to the closing bracket. -/
def readLifetimeParams : Nat → Reader (List LifetimeParam × Bool)
  | 0 => refuse [.lifetime]
  | n + 1 => do
    if ← sees (isSign ">") then return ([], false)
    if !(← sees isLifetime) then refuse [.identifier, .lifetime, .sign "const"]
    let name ← lifetime
    let (bounds, plus) ← if ← sign? ":" then readLifetimeBounds n else pure ([], false)
    let param : LifetimeParam := { name, bounds, plus }
    if ← sees (isSign ">") then return ([param], false)
    sign ","
    let (params, comma) ← readLifetimeParams n
    return (param :: params, comma || params.isEmpty)

/-- Reads a binder, if one comes next. -/
def readBinder? (n : Nat) : Reader (Option Binder) := do
  if !(← word? "for") then return none
  sign "<"
  let (params, comma) ← readLifetimeParams n
  sign ">"
  return some { params, comma }

/-- Reads what stands in front of the type of a function. -/
def readFunctionHead (binder : Option Binder) : Reader FunctionHead := do
  let unchecked ← word? "unsafe"
  let convention ← if ← word? "extern" then some <$> literalName? else pure none
  word "fn"
  return { binder, unchecked, convention }
where
  /-- The name of a calling convention, if it is given. -/
  literalName? : Reader (Option String) := do
    match ← rest with
    | .literal s :: ts =>
      if s.startsWith "\"" || s.startsWith "r" then
        setRest ts
        return some s
      else return none
    | _ => return none

/-- Reads the sign of a range and says whether it is closed.  `old` says that three dots may stand
for a closed one. -/
def readRangeSign (old : Bool) : Reader Bool := do
  if ← sign? "..=" then return true
  if ← sees (isSign "...") then
    if old then
      sign "..."
      return true
    else refuse [.sign "..="]
  sign ".."
  return false

/-- Refuses what cannot follow a cast. -/
def refuseLink : Reader Unit := do
  match linkAt? (← rest) with
  | some what => throw (.castLink what)
  | none => return ()

/-- The indices that a number with points stands for, and whether a point ends it. -/
def indicesOf (s : String) : List String × Bool :=
  let parts := s.splitOn "."
  if parts.getLast? == some "" then (parts.dropLast, true) else (parts, false)

/-- The field of an expression under an index. -/
def Expr.part (e : Expr) (index : String) : Expr := .field e ⟨index, false⟩

/-- Reads the names that a type may depend on. -/
def readCaptures : Nat → Reader (List Argument × Bool)
  | 0 => refuse [.lifetime]
  | n + 1 => do
    if ← sees (isSign ">") then return ([], false)
    if !(← sees fun ts => isLifetime ts || isIdent ts || isWord "Self" ts) then
      refuse [.lifetime, .identifier, .sign ">"]
    let name ← if ← sees isLifetime then Argument.lifetime <$> lifetime
      else (fun i => .type (.path (.ofIdent i))) <$> anyIdent
    if ← sees (isSign ">") then return ([name], false)
    if !(← sign? ",") then refuse [.sign ",", .sign ">"]
    let (names, comma) ← readCaptures n
    return (name :: names, comma || names.isEmpty)

/-! ## The grammar -/

mutual

/-- Reads a path.  In an expression arguments need a separator in front of them. -/
def readPath (inExpr : Bool) : Nat → Reader Path
  | 0 => refuse [.identifier]
  | n + 1 => do
    let leading ← sign? "::"
    return .mk leading (← readSegments inExpr true n)

/-- Reads segments with separators between them.  `brackets` says that a separator in front of
round brackets is left alone. -/
def readSegments (inExpr brackets : Bool) : Nat → Reader (List Segment)
  | 0 => refuse [.identifier]
  | n + 1 => do
    let segment ← readSegment inExpr n
    if ← sees fun ts => if brackets then goesOn ts else isSign "::" ts then
      sign "::"
      return segment :: (← readSegments inExpr brackets n)
    else return [segment]

/-- Reads one segment. -/
def readSegment (inExpr : Bool) : Nat → Reader Segment
  | 0 => refuse [.identifier]
  | n + 1 => do
    if ← sees (isOneOf ["super", "self", "crate", "try"]) then return .ofIdent (← anyIdent)
    let i ← if ← sees (isWord "Self") then anyIdent else ident
    if ← sees fun ts => !inExpr && takesArguments ts || takesTurbo ts then
      let turbo ← sign? "::"
      return .mk (.ident i) (← readArguments turbo n)
    else return .ofIdent i

/-- Reads arguments between angle brackets. -/
def readArguments (turbo : Bool) : Nat → Reader Arguments
  | 0 => refuse []
  | n + 1 => do
    sign "<"
    let (items, comma) ← readArgumentList n
    sign ">"
    return .ordered turbo items comma

/-- Reads arguments up to the closing bracket. -/
def readArgumentList : Nat → Reader (List Argument × Bool)
  | 0 => refuse []
  | n + 1 => do
    if ← sees (isSign ">") then return ([], false)
    let a ← readArgument n
    if ← sees (isSign ">") then return ([a], false)
    sign ","
    let (as, comma) ← readArgumentList n
    return (a :: as, comma || as.isEmpty)

/-- Reads one argument. -/
def readArgument : Nat → Reader Argument
  | 0 => refuse []
  | n + 1 => do
    if ← sees fun ts => isLifetime ts && !isSign "+" (ts.drop 2) then return .lifetime (← lifetime)
    if ← sees fun ts => isLiteral ts || isOpen '\x7b' ts then return .value (← readConstant n)
    let t ← readType true n
    match t.asPath? >>= Path.asName? with
    | none => return .type t
    | some (name, arguments) =>
      if ← sign? "=" then
        if ← sees fun ts => isLiteral ts || isOpen '\x7b' ts then
          return .valueOf name arguments (← readConstant n)
        else return .typeOf name arguments (← readType true n)
      else if ← sign? ":" then
        let (bounds, plus) ← readBoundList n
        return .boundsOf name arguments bounds plus
      else return .type t

/-- Reads a literal, a negative number or a block. -/
def readConstant : Nat → Reader Expr
  | 0 => refuse []
  | n + 1 => do
    if ← sees (isOpen '\x7b') then return .block none [] (← readBlock n)
    let negative ← sign? "-"
    match ← rest with
    | .literal s :: ts | .word s :: ts =>
      setRest ts
      return if negative then .unary "-" (.literal s) else .literal s
    | _ => refuse []

/-- Reads bounds up to the end of an argument. -/
def readBoundList : Nat → Reader (List Bound × Bool)
  | 0 => refuse []
  | n + 1 => do
    if ← sees fun ts => isSign "," ts || isSign ">" ts then return ([], false)
    let b ← readBound false n
    if ← sign? "+" then
      let (bs, plus) ← readBoundList n
      return (b :: bs, plus || bs.isEmpty)
    else return ([b], false)

/-- Reads bounds with plus signs between them, or one alone.  `captures` says that names may stand
among them. -/
def readBounds (several captures : Bool) : Nat → Reader (List Bound × Bool)
  | 0 => refuse []
  | n + 1 => do
    let b ← readBound captures n
    if several && (← sign? "+") then
      if ← sees isBoundStart then
        let (bs, plus) ← readBounds several captures n
        return (b :: bs, plus)
      else return ([b], true)
    else return ([b], false)

/-- Reads the further bounds of a type that begins with one, each behind a plus sign. -/
def readFurtherBounds : Nat → Reader (List Bound)
  | 0 => refuse []
  | n + 1 => do
    if ← sign? "+" then
      let b ← readBound false n
      return b :: (← readFurtherBounds n)
    else return []

/-- Reads one bound. -/
def readBound (captures : Bool) : Nat → Reader Bound
  | 0 => refuse []
  | n + 1 => do
    if ← sees isLifetime then return .lifetime (← lifetime)
    if ← word? "use" then
      sign "<"
      let (names, comma) ← readCaptures n
      sign ">"
      if captures then return .capture (.ordered false names comma) else throw .capture
    if ← sees (isOpen '(') then
      opening '(' .parentheses
      let b ← readTraitBound true n
      closing ')'
      return b
    else readTraitBound false n

/-- Reads a trait that a type must have. -/
def readTraitBound (parens : Bool) : Nat → Reader Bound
  | 0 => refuse []
  | n + 1 => do
    let before ← readBinder? n
    let waived ← sign? "?"
    let binder ← if before.isNone && waived then readBinder? n else pure before
    let path ← readPath false n
    let path ←
      if path.endsBare && (← sees takesInputs) then do
        let _ ← sign? "::"
        opening '(' .parentheses
        let (items, comma) ← readTypes n
        closing ')'
        pure (path.apply (.inputs items comma (← readResult n)))
      else pure path
    if binder.isSome && waived then throw .boundWaiver
    return .trait parens binder waived path

/-- Reads a type.  `several` says that bounds may follow each other. -/
def readType (several : Bool) : Nat → Reader Ty
  | 0 => refuse Refusal.typeWants
  | n + 1 => do
    let binder ← readBinder? n
    let ts ← rest
    if isOneOf ["fn", "unsafe", "extern"] ts then readFunction binder n
    else if binder.isSome && !(isIdent ts || isPlace ts) then refuse Refusal.boundTypeWants
    else if isOpen '(' ts then readParens several n
    else if isPathStart ts then readNamed several binder n
    else if ← word? "dyn" then
      let (bounds, plus) ← readBounds several false n
      if !bounds.any Bound.isTrait then throw .objectWithoutTrait
      return .object true bounds plus
    else if isOpen '[' ts then
      opening '[' .squareBrackets
      let item ← readType true n
      if ← sign? ";" then
        let length ← readExpr true n
        closing ']'
        return .array item length
      else
        closing ']'
        return .slice item
    else if ← sign? "*" then
      if ← word? "const" then return .pointer false (← readType false n)
      else if ← word? "mut" then return .pointer true (← readType false n)
      else refuse [.sign "const", .sign "mut"]
    else if ← sign? "&" then
      let l ← lifetime?
      let mutable ← word? "mut"
      return .ref l mutable (← readType false n)
    else if ← sign? "!" then return .never
    else if ← word? "impl" then
      let (bounds, plus) ← readBounds several true n
      if !bounds.any Bound.isTrait then throw .unknownWithoutTrait
      return .impl bounds plus
    else if isWord "_" ts then return .path (.ofIdent (← anyIdent))
    else if isLifetime ts then
      let (bounds, plus) ← readBounds true false n
      if !bounds.any Bound.isTrait then throw .objectWithoutTrait
      return .object false bounds plus
    else refuse Refusal.typeWants

/-- Reads a type that begins with a path. -/
def readNamed (several : Bool) (binder : Option Binder) : Nat → Reader Ty
  | 0 => refuse Refusal.typeWants
  | n + 1 => do
    if ← sees (isSign "<") then return .projection (← readProjection false n)
    let path ← readPath false n
    if path.isPlain && (← sees isBang) then
      sign "!"
      return .expansion path (← group)
    else if binder.isSome || several && (← sees (isSign "+")) then
      let first := Bound.trait false binder false path
      if several && (← sign? "+") then
        if ← sees isBoundStart then
          let (bounds, plus) ← readBounds true false n
          return .object false (first :: bounds) plus
        else return .object false [first] true
      else return .object false [first] false
    else return .path path

/-- Reads what belongs to a type. -/
def readProjection (inExpr : Bool) : Nat → Reader Projection
  | 0 => refuse Refusal.typeWants
  | n + 1 => do
    sign "<"
    let owner ← readType true n
    let trait ← if ← word? "as" then some <$> readPath false n else pure none
    sign ">"
    sign "::"
    return .mk owner trait (← readSegments inExpr false n)

/-- Reads a type between round brackets, or a tuple of types. -/
def readParens (several : Bool) : Nat → Reader Ty
  | 0 => refuse Refusal.typeWants
  | n + 1 => do
    opening '(' .parentheses
    if ← sees isEnd then
      closing ')'
      return .tuple [] false
    else if ← sees isLifetime then
      let (bounds, plus) ← readBounds true false n
      if !bounds.any Bound.isTrait then throw .objectWithoutTrait
      closing ')'
      return .paren (.object false bounds plus)
    else if ← sees (isSign "?") then
      let first ← readTraitBound true n
      closing ')'
      return .object false (first :: (← readFurtherBounds n)) false
    else
      let first ← readType true n
      if ← sign? "," then
        let (items, comma) ← readTypes n
        closing ')'
        return .tuple (first :: items) (comma || items.isEmpty)
      else
        closing ')'
        match first.asBound? with
        | some b =>
          if several && (← sees (isSign "+")) then
            return .object false (b :: (← readFurtherBounds n)) false
          else return .paren first
        | none => return .paren first

/-- Reads types with commas between them up to a closing bracket. -/
def readTypes : Nat → Reader (List Ty × Bool)
  | 0 => refuse Refusal.typeWants
  | n + 1 => do
    if ← sees isEnd then return ([], false)
    let t ← readType true n
    if ← sees isEnd then return ([t], false)
    sign ","
    let (ts, comma) ← readTypes n
    return (t :: ts, comma || ts.isEmpty)

/-- Reads the type of a function. -/
def readFunction (binder : Option Binder) : Nat → Reader Ty
  | 0 => refuse Refusal.typeWants
  | n + 1 => do
    let head ← readFunctionHead binder
    opening '(' .parentheses
    let (params, further, comma) ← readParams true n
    closing ')'
    return .function head params further comma (← readResult n)

/-- Reads the parameters of a function type up to the closing bracket. -/
def readParams (first : Bool) :
    Nat → Reader (List (Option Ident × Ty) × Option (Option Ident) × Bool)
  | 0 => refuse Refusal.typeWants
  | n + 1 => do
    if ← sees isEnd then return ([], none, false)
    if ← sees isFurther then
      let name ← if ← sees (isSign "...") then pure none else some <$> anyIdent
      if name.isSome then sign ":"
      sign "..."
      return ([], some name, ← sign? ",")
    let name ← if ← sees (isParamName first) then some <$> anyIdent else pure none
    if name.isSome then sign ":"
    let t ← readType true n
    if ← sees isEnd then return ([(name, t)], none, false)
    sign ","
    let (ps, further, comma) ← readParams false n
    return ((name, t) :: ps, further, comma || ps.isEmpty && further.isNone)

/-- Reads the result of a function, if one comes next. -/
def readResult : Nat → Reader (Option Ty)
  | 0 => refuse Refusal.typeWants
  | n + 1 => do
    if ← sign? "->" then some <$> readType false n else return none

/-- Reads an expression. -/
def readExpr (records : Bool) : Nat → Reader Expr
  | 0 => refuse [.expression]
  | n + 1 => do
    let left ← readUnary records n
    readOperators records left .least n

/-- Reads the operators behind an operand that bind at least as tightly as a level.  A range is no
operand. -/
def readOperators (records : Bool) (left : Expr) (base : Level) : Nat → Reader Expr
  | 0 => refuse [.expression]
  | n + 1 => do
    if left.isRange then return left
    let ts ← rest
    match operatorAt? ts with
    | some (s, level, behind) =>
      if level.rank < base.rank then return left
      else if level == .compare && left.isComparison then throw .comparisons
      else
        setRest behind
        let right ← readRight records level n
        readOperators records (.binary s left right) base n
    | none =>
      let level := levelAt ts
      if level == .assign && base.rank ≤ Level.assign.rank then
        sign "="
        let right ← readRight records .assign n
        readOperators records (.assign left right) base n
      else if level == .range && base.rank ≤ Level.range.rank then
        let closed ← readRangeSign false
        return .range (some left) closed (← readRangeLast records closed n)
      else if level == .cast then
        word "as"
        let t ← readType false n
        refuseLink
        readOperators records (.cast left t) base n
      else return left

/-- Reads the operand behind an operator of some level, with what binds more tightly. -/
def readRight (records : Bool) (level : Level) : Nat → Reader Expr
  | 0 => refuse [.expression]
  | n + 1 => do
    let operand ← readUnary records n
    readTighter records level operand n

/-- Reads on behind an operand while what comes next binds more tightly than a level. -/
def readTighter (records : Bool) (level : Level) (operand : Expr) : Nat → Reader Expr
  | 0 => refuse [.expression]
  | n + 1 => do
    let ts ← rest
    let next := levelAt ts
    if level.rank < next.rank || next == level && level == .assign then
      let more ← readOperators records operand next n
      if (← rest).length == ts.length then return more else readTighter records level more n
    else return operand

/-- Reads the end of a range, if there is one. -/
def readRangeLast (records closed : Bool) : Nat → Reader (Option Expr)
  | 0 => refuse [.expression]
  | n + 1 => do
    if !closed && (← sees (isRangeEnd records)) then return none
    return some (← readRight records .range n)

/-- Reads an operand with the operators in front of it. -/
def readUnary (records : Bool) : Nat → Reader Expr
  | 0 => refuse [.expression]
  | n + 1 => do
    if ← sign? "&" then
      let raw ← sees fun ts => isWord "raw" ts && isOneOf ["mut", "const"] ts.tail
      if raw then word "raw"
      let mutable ← word? "mut"
      if raw && !mutable then word "const"
      return .borrow raw mutable (← readUnary records n)
    else if ← sign? "*" then return .unary "*" (← readUnary records n)
    else if ← sign? "!" then return .unary "!" (← readUnary records n)
    else if ← sign? "-" then return .unary "-" (← readUnary records n)
    else
      let atom ← readAtom records n
      readLinks atom n

/-- Reads calls, fields and indices behind an expression. -/
def readLinks (e : Expr) : Nat → Reader Expr
  | 0 => refuse [.expression]
  | n + 1 => do
    if ← sees (isOpen '(') then
      opening '(' .parentheses
      let (arguments, comma) ← readExprs n
      closing ')'
      readLinks (.call e arguments comma) n
    else if ← sees (isOpen '[') then
      opening '[' .squareBrackets
      let index ← readExpr true n
      closing ']'
      readLinks (.index e index) n
    else if e.isRange then return e
    else if ← sees isDot then
      sign "."
      readPart e n
    else if ← sign? "?" then readLinks (.attempt e) n
    else return e

/-- Reads the name of a field or a method behind its dot, and what follows. -/
def readPart (e : Expr) : Nat → Reader Expr
  | 0 => refuse [.identifier, .integer]
  | n + 1 => do
    match ← rest with
    | .literal s :: behind =>
      if !isNumber s then refuse [.identifier, .integer]
      let (indices, pointed) := indicesOf s
      if !indices.all (·.all Char.isDigit) then throw .suffixedIndex
      setRest behind
      let e := indices.foldl Expr.part e
      if pointed then readPart e n else readLinks e n
    | ts =>
      if isWord "await" ts then
        word "await"
        readLinks (.await e) n
      else
        if !isIdent ts then refuse [.identifier, .integer]
        let name ← ident
        let types ← if ← sign? "::" then readArguments true n else pure .none
        if !types.isNone || (← sees (isOpen '(')) then
          opening '(' .parentheses
          let (arguments, comma) ← readExprs n
          closing ')'
          readLinks (.method e name types arguments comma) n
        else readLinks (.field e name) n

/-- Reads expressions with commas between them up to a closing bracket. -/
def readExprs : Nat → Reader (List Expr × Bool)
  | 0 => refuse [.expression]
  | n + 1 => do
    if ← sees isEnd then return ([], false)
    let e ← readExpr true n
    if ← sees isEnd then return ([e], false)
    sign ","
    let (es, comma) ← readExprs n
    return (e :: es, comma || es.isEmpty)

/-- Reads an expression that no operator is part of. -/
def readAtom (records : Bool) : Nat → Reader Expr
  | 0 => refuse [.expression]
  | n + 1 => do
    let ts ← rest
    match ts with
    | .literal s :: behind => setRest behind; return .literal s
    | _ =>
      if isOneOf ["true", "false"] ts then return .literal (← anyIdent).word
      else if isAsyncBlock ts then
        let words ← ["async", "move"].filterM word?
        return .block none words (← readBlock n)
      else if isWord "try" ts && isOpen '\x7b' ts.tail then
        word "try"
        return .block none ["try"] (← readBlock n)
      else if isClosureStart ts then readClosure records n
      else if isValuePathStart ts then readNamedValue records n
      else if isOpen '(' ts then
        opening '(' .parentheses
        let (items, comma) ← readExprs n
        closing ')'
        return match items, comma with
          | [e], false => .paren e
          | _, _ => .tuple items comma
      else if isOneOf ["break", "continue", "return", "yield"] ts then readJump records n
      else if isOpen '[' ts then
        opening '[' .squareBrackets
        let e ← readArray n
        closing ']'
        return e
      else if ← word? "let" then
        let pattern ← readCases n
        sign "="
        let left ← readUnary records n
        return .fits pattern (← readOperators records left .compare n)
      else if isWord "if" ts then readBranch n
      else if isOneOf ["while", "for", "loop"] ts then readLoop none n
      else if ← word? "match" then
        let value ← readExpr false n
        opening '\x7b' .curlyBraces
        let arms ← readArms n
        closing '\x7d'
        return .choice value arms
      else if isOneOf ["unsafe", "const"] ts then
        let w ← anyIdent
        return .block none [w.word] (← readBlock n)
      else if isOpen '\x7b' ts then return .block none [] (← readBlock n)
      else if isSign ".." ts then
        let closed ← readRangeSign false
        return .range none closed (← readRangeLast records closed n)
      else if isWord "_" ts then return .path (.ofIdent (← anyIdent))
      else if isLifetime ts then
        let label ← lifetime
        sign ":"
        readLoop (some label) n
      else refuse [.expression]

/-- Reads an expression that begins with a path. -/
def readNamedValue (records : Bool) : Nat → Reader Expr
  | 0 => refuse [.expression]
  | n + 1 => do
    let named ← readValuePath n
    match named with
    | .path path =>
      if path.isPlain && (← sees isBang) then
        sign "!"
        return .expansion path (← group)
    | _ => pure ()
    if records && (← sees (isOpen '\x7b')) then
      opening '\x7b' .curlyBraces
      let (fields, comma) ← readFields n
      let more ← sign? ".."
      let base ← if !more || (← sees isEnd) then pure none else some <$> readExpr true n
      closing '\x7d'
      return .record named fields comma more base
    else return named

/-- Reads a path in an expression, or what belongs to a type. -/
def readValuePath : Nat → Reader Expr
  | 0 => refuse [.expression]
  | n + 1 => do
    if ← sees (isSign "<") then return .projection (← readProjection true n)
    else return .path (← readPath true n)

/-- Reads a function without a name. -/
def readClosure (records : Bool) : Nat → Reader Expr
  | 0 => refuse [.expression]
  | n + 1 => do
    let binder ← readBinder? n
    let words ← ["const", "static", "async", "move"].filterM word?
    sign "|"
    let (params, comma) ← readClosureParams n
    sign "|"
    if ← sign? "->" then
      let t ← readType true n
      return .closure binder words params comma (some t) (.block none [] (← readBlock n))
    else return .closure binder words params comma none (← readExpr records n)

/-- Reads the parameters of a function without a name up to the closing mark. -/
def readClosureParams : Nat → Reader (List Pattern × Bool)
  | 0 => refuse Refusal.patternWants
  | n + 1 => do
    if ← sees (isSign "|") then return ([], false)
    let p ← readTyped n
    if ← sees (isSign "|") then return ([p], false)
    sign ","
    let (ps, comma) ← readClosureParams n
    return (p :: ps, comma || ps.isEmpty)

/-- Reads a way out of a loop, a block or a function. -/
def readJump (records : Bool) : Nat → Reader Expr
  | 0 => refuse [.expression]
  | n + 1 => do
    let w := (← anyIdent).word
    let isLoose (ts : List Token) : Bool := isLifetime ts && isSign ":" (ts.drop 2)
    if w == "break" && (← sees isLoose) then
      let _ ← readExpr true n
      throw .looseLabel
    let label ← if w == "break" || w == "continue" then lifetime? else pure none
    let valued (ts : List Token) : Bool :=
      w != "continue" && isValueStart ts && (w != "break" || records || !isOpen '\x7b' ts)
    let value ← if ← sees valued then some <$> readExpr true n else pure none
    return .jump w label value

/-- Reads a condition with the block that depends on it, and what is done otherwise. -/
def readBranch : Nat → Reader Expr
  | 0 => refuse [.expression]
  | n + 1 => do
    word "if"
    let condition ← readExpr false n
    let body ← readBlock n
    if ← word? "else" then
      if ← sees (isWord "if") then return .branch condition body (some (← readBranch n))
      else if ← sees (isOpen '\x7b') then
        return .branch condition body (some (.block none [] (← readBlock n)))
      else refuse [.sign "if", .curlyBraces]
    else return .branch condition body none

/-- Reads a loop, or a block with a label. -/
def readLoop (label : Option Ident) : Nat → Reader Expr
  | 0 => refuse [.loop]
  | n + 1 => do
    if ← word? "while" then
      let condition ← readExpr false n
      return .whileLoop label condition (← readBlock n)
    else if ← word? "for" then
      let pattern ← readCases n
      word "in"
      let source ← readExpr false n
      return .forLoop label pattern source (← readBlock n)
    else if ← word? "loop" then return .loop label (← readBlock n)
    else if ← sees (isOpen '\x7b') then return .block label [] (← readBlock n)
    else refuse [.loop]

/-- Reads the cases of a choice up to the closing brace.  A case that is no block has a comma
behind it, unless it is the last. -/
def readArms : Nat → Reader (List Arm)
  | 0 => refuse [.expression]
  | n + 1 => do
    if ← sees isEnd then return []
    let pattern ← readCases n
    let guard ← if ← word? "if" then some <$> readExpr true n else pure none
    sign "=>"
    let body ← readValue n
    let comma ←
      if !body.isStatement && !(← sees isEnd) then do
        sign ","
        pure true
      else sign? ","
    return .mk pattern guard body comma :: (← readArms n)

/-- Reads the items of an array, or its item and its length. -/
def readArray : Nat → Reader Expr
  | 0 => refuse [.expression]
  | n + 1 => do
    if ← sees isEnd then return .array [] false
    let first ← readExpr true n
    if ← sees isEnd then return .array [first] false
    else if ← sign? "," then
      let (items, comma) ← readExprs n
      return .array (first :: items) (comma || items.isEmpty)
    else if ← sign? ";" then return .fill first (← readExpr true n)
    else refuse [.sign ",", .sign ";"]

/-- Reads the fields of a value up to the closing brace, or up to what leaves the others open. -/
def readFields : Nat → Reader (List (Ident × Option Expr) × Bool)
  | 0 => refuse [.identifier, .integer]
  | n + 1 => do
    if ← sees fun ts => isEnd ts || isSign ".." ts then return ([], false)
    let field ← readField n
    if ← sees isEnd then return ([field], false)
    sign ","
    let (fields, comma) ← readFields n
    return (field :: fields, comma || fields.isEmpty)

/-- Reads one field of a value.  A number names a field too, but not one that has a name. -/
def readField : Nat → Reader (Ident × Option Expr)
  | 0 => refuse [.identifier, .integer]
  | n + 1 => do
    let name ← member
    if name.word.toList.all Char.isDigit then
      sign ":"
      return (name, some (← readExpr true n))
    else if ← sign? ":" then return (name, some (← readExpr true n))
    else return (name, none)

/-- Reads statements between braces. -/
def readBlock : Nat → Reader (List Stmt)
  | 0 => refuse [.curlyBraces]
  | n + 1 => do
    opening '\x7b' .curlyBraces
    let body ← readStatements n
    closing '\x7d'
    return body

/-- Reads statements up to the closing brace.  All but the last of them that are no blocks end in a
semicolon. -/
def readStatements : Nat → Reader (List Stmt)
  | 0 => refuse [.expression]
  | n + 1 => do
    if ← sign? ";" then return .empty :: (← readStatements n)
    else if ← sees isEnd then return []
    else if ← word? "let" then
      let s ← readBinding n
      return s :: (← readStatements n)
    else
      let e ← readStatement n
      if ← sign? ";" then return .run e :: (← readStatements n)
      else if ← sees isEnd then return [.result e]
      else if e.isStatement || e.isBracedExpansion then return .result e :: (← readStatements n)
      else throw (.leftOver (some ';'))

/-- Reads what introduces variables, up to its semicolon. -/
def readBinding : Nat → Reader Stmt
  | 0 => refuse [.expression]
  | n + 1 => do
    let pattern ← readTyped n
    let value ← if ← sign? "=" then some <$> readExpr true n else pure none
    let otherwise ←
      if value.any (!·.endsInBrace) && (← word? "else") then some <$> readBlock n else pure none
    sign ";"
    return .bind pattern value otherwise

/-- Reads the expression of a statement. -/
def readStatement : Nat → Reader Expr
  | 0 => refuse [.expression]
  | n + 1 => do
    if ← sees isBracedExpansion then readComplete n else readValue n

/-- Reads an expression whose first block, if it begins with one, is the whole of it. -/
def readValue : Nat → Reader Expr
  | 0 => refuse [.expression]
  | n + 1 => do
    if ← sees isBlockStart then readComplete n else readExpr true n

/-- Reads an expression that is complete, unless a link follows it. -/
def readComplete : Nat → Reader Expr
  | 0 => refuse [.expression]
  | n + 1 => do
    let atom ← readAtom true n
    if ← sees isLink then
      let linked ← readLinks atom n
      readOperators true linked .least n
    else return atom

/-- Reads a pattern, with its type if one is given. -/
def readTyped : Nat → Reader Pattern
  | 0 => refuse Refusal.patternWants
  | n + 1 => do
    let p ← readPattern n
    if ← sign? ":" then return .typed p (← readType true n) else return p

/-- Reads patterns one of which is asked for, or a single one. -/
def readCases : Nat → Reader Pattern
  | 0 => refuse Refusal.patternWants
  | n + 1 => do
    let leading ← sign? "|"
    let cases ← readCaseList n
    match leading, cases with
    | false, [p] => return p
    | _, _ => return .either leading cases

/-- Reads patterns with marks between them. -/
def readCaseList : Nat → Reader (List Pattern)
  | 0 => refuse Refusal.patternWants
  | n + 1 => do
    let p ← readPattern n
    if ← sees isCase then
      sign "|"
      return p :: (← readCaseList n)
    else return [p]

/-- Reads one pattern. -/
def readPattern : Nat → Reader Pattern
  | 0 => refuse Refusal.patternWants
  | n + 1 => do
    let ts ← rest
    if isNamedPattern ts then readNamedPattern n
    else if isWord "_" ts then
      word "_"
      return .wild
    else if isSign "-" ts || isLiteral ts || isWord "const" ts then
      match ← readRangeBound n with
      | some e => readRangePattern e n
      | none => refuse Refusal.rangeWants
    else if isOneOf ["ref", "mut", "self"] ts || isIdent ts then
      let byRef ← word? "ref"
      let mutable ← word? "mut"
      let name ← if ← sees (isWord "self") then anyIdent else ident
      let inner ← if ← sign? "@" then some <$> readPattern n else pure none
      return .bind byRef mutable name inner
    else if ← sign? "&" then
      let mutable ← word? "mut"
      return .borrow mutable (← readPattern n)
    else if isOpen '(' ts then
      opening '(' .parentheses
      let (items, comma) ← readPatterns n
      closing ')'
      match items, comma with
      | [p], false => return if p.isRest then .tuple [p] false else .paren p
      | _, _ => return .tuple items comma
    else if isOpen '[' ts then
      opening '[' .squareBrackets
      let (items, comma) ← readPatterns n
      closing ']'
      if items.any Pattern.isHalfRange then throw .halfRange
      return .slice items comma
    else if isSign ".." ts && !isSign "..." ts then
      let closed ← readRangeSign false
      match ← readRangeBound n with
      | some e => return .value (.range none closed (some e))
      | none =>
        if closed then throw (.openRange (isEnd (← rest)))
        return .rest
    else refuse Refusal.patternWants

/-- Reads a pattern that begins with a path. -/
def readNamedPattern : Nat → Reader Pattern
  | 0 => refuse Refusal.patternWants
  | n + 1 => do
    let named ← readValuePath n
    match named with
    | .path path =>
      if path.isPlain && (← sees isBang) then
        sign "!"
        return .value (.expansion path (← group))
    | _ => pure ()
    if ← sees (isOpen '\x7b') then
      opening '\x7b' .curlyBraces
      let (fields, comma) ← readPatternFields n
      let more ← sign? ".."
      closing '\x7d'
      return .record named fields comma more
    else if ← sees (isOpen '(') then
      opening '(' .parentheses
      let (items, comma) ← readPatterns n
      closing ')'
      return .variant named items comma
    else readRangePattern named n

/-- Reads the range that begins with a value, or the value alone. -/
def readRangePattern (first : Expr) : Nat → Reader Pattern
  | 0 => refuse Refusal.rangeWants
  | n + 1 => do
    if ← sees (isSign "..") then
      let closed ← readRangeSign true
      let last ← readRangeBound n
      if closed && last.isNone then throw (.openRange (isEnd (← rest)))
      return .value (.range (some first) closed last)
    else return .value first

/-- Reads the end of a range in a pattern, if there is one. -/
def readRangeBound : Nat → Reader (Option Expr)
  | 0 => refuse Refusal.rangeWants
  | n + 1 => do
    if ← sees isBoundEnd then return none
    else if ← sees isLiteral then return some (← readConstant n)
    else if ← sees isPathStart then return some (← readValuePath n)
    else if ← word? "const" then return some (.block none ["const"] (← readBlock n))
    else refuse Refusal.rangeWants

/-- Reads patterns with commas between them up to a closing bracket. -/
def readPatterns : Nat → Reader (List Pattern × Bool)
  | 0 => refuse Refusal.patternWants
  | n + 1 => do
    if ← sees isEnd then return ([], false)
    let p ← readCases n
    if ← sees isEnd then return ([p], false)
    sign ","
    let (ps, comma) ← readPatterns n
    return (p :: ps, comma || ps.isEmpty)

/-- Reads the fields of a pattern up to the closing brace, or up to what leaves the others open. -/
def readPatternFields : Nat → Reader (List (Option Ident × Pattern) × Bool)
  | 0 => refuse Refusal.patternWants
  | n + 1 => do
    if ← sees fun ts => isEnd ts || isSign ".." ts then return ([], false)
    let field ← readPatternField n
    if ← sees isEnd then return ([field], false)
    sign ","
    let (fields, comma) ← readPatternFields n
    return (field :: fields, comma || fields.isEmpty)

/-- Reads one field of a pattern: a variable with its name, or a name and a pattern. -/
def readPatternField : Nat → Reader (Option Ident × Pattern)
  | 0 => refuse Refusal.patternWants
  | n + 1 => do
    let byRef ← word? "ref"
    let mutable ← word? "mut"
    let name ← if byRef || mutable then ident else member
    if name.word.toList.all Char.isDigit || !byRef && !mutable && (← sees (isSign ":")) then
      sign ":"
      return (some name, ← readCases n)
    else return (none, .bind byRef mutable name none)

end

/-- As many steps as reading some tokens can take. -/
def stepsFor (ts : List Token) : Nat := 16 * (ts.length + 1)

/-- The path that some tokens make up. -/
def Path.ofTokens (ts : List Token) : Except Refusal Path :=
  Reader.run (readPath false (stepsFor ts)) ts

/-- The fields that some tokens make up, and whether a comma follows the last. -/
def fieldsOfTokens (ts : List Token) : Except Refusal (List (Ident × Option Expr) × Bool) :=
  Reader.run (readFields (stepsFor ts)) ts

end FluentBuilders.Code
