/-
  Looking ahead — what the next tokens of a source begin.

  A reader decides by at most three tokens which way to go.  A sign is seen where its marks stand,
  even if they go on to a longer sign; where that matters, the longer one is ruled out.
-/
import FluentBuilders.Code.Operator
import FluentBuilders.Code.Reserved
import FluentBuilders.Code.Token

namespace FluentBuilders.Code.Ahead

/-! ## Single tokens and signs -/

/-- Whether nothing more stands between the brackets around. -/
def isEnd : List Token → Bool
  | [] => true
  | .mark c _ :: _ => Token.isClosing c
  | _ :: _ => false

/-- What follows a sign, whose marks all but the last must be joint to the next. -/
def afterSign? : List Char → List Token → Option (List Token)
  | [], ts => some ts
  | [c], .mark d _ :: ts => if c == d then some ts else none
  | c :: cs, .mark d true :: ts => if c == d then afterSign? cs ts else none
  | _, _ => none

/-- Whether a sign stands here. -/
def isSign (s : String) (ts : List Token) : Bool := (afterSign? s.toList ts).isSome

/-- Whether a word stands here. -/
def isWord (w : String) (ts : List Token) : Bool := ts.head? == some (.word w)

/-- Whether one of several words stands here. -/
def isOneOf (ws : List String) (ts : List Token) : Bool := ws.any fun w => isWord w ts

/-- Whether some bracket opens here. -/
def isOpen (c : Char) (ts : List Token) : Bool :=
  match ts with
  | .mark d _ :: _ => c == d
  | _ => false

/-- Whether a word of any kind stands here. -/
def isAnyWord : List Token → Bool
  | .word _ :: _ => true
  | _ => false

/-- Whether an identifier stands here. -/
def isIdent : List Token → Bool
  | .word w :: _ => (Ident.ofWord w).isFree
  | _ => false

/-- Whether a lifetime stands here. -/
def isLifetime : List Token → Bool
  | .mark '\'' true :: .word _ :: _ => true
  | _ => false

/-- Whether a literal is a number. -/
def isNumber (s : String) : Bool := (s.toList.head?.map Char.isDigit).getD false

/-- Whether a literal stands here, or a number with a sign. -/
def isLiteral : List Token → Bool
  | .literal _ :: _ => true
  | .word w :: _ => w == "true" || w == "false"
  | .mark '-' _ :: .literal s :: _ => isNumber s
  | _ => false

/-- Whether a segment of a path stands here that is no identifier. -/
def isPlace (ts : List Token) : Bool := isOneOf ["super", "self", "Self", "crate"] ts

/-- What stands between brackets that are open here, and what follows behind them.  `depth` counts
the brackets that were opened since. -/
def splitGroup : (depth : Nat) → List Token → List Token × List Token
  | _, [] => ([], [])
  | depth, t :: ts =>
    let next (d : Nat) := let (a, b) := splitGroup d ts; (t :: a, b)
    match t with
    | .mark c _ =>
      if Token.isClosing c then
        match depth with
        | 0 => ([], t :: ts)
        | d + 1 => next d
      else next (if (Token.closing? c).isSome then depth + 1 else depth)
    | _ => next depth

/-! ## Paths and types -/

/-- Whether the words of an identifier are followed by arguments. -/
def takesArguments (ts : List Token) : Bool :=
  isSign "<" ts && !isSign "<=" ts && !isSign "<<=" ts

/-- Whether arguments stand here behind a separator. -/
def takesTurbo (ts : List Token) : Bool :=
  match afterSign? "::".toList ts with
  | some r => isSign "<" r
  | none => false

/-- Whether a separator stands here that leads to a further segment, and not to brackets. -/
def goesOn (ts : List Token) : Bool :=
  match afterSign? "::".toList ts with
  | some r => !isOpen '(' r
  | none => false

/-- Whether the parameters of a function trait stand here. -/
def takesInputs (ts : List Token) : Bool :=
  isOpen '(' ts || isSign "::" ts && isOpen '(' (ts.drop 2)

/-- Whether the mark of an expansion stands here. -/
def isBang (ts : List Token) : Bool := isSign "!" ts && !isSign "!=" ts

/-- Whether a path may begin here. -/
def isPathStart (ts : List Token) : Bool :=
  isIdent ts || isPlace ts || isSign "::" ts || isSign "<" ts

/-- Whether a further bound may begin here. -/
def isBoundStart (ts : List Token) : Bool :=
  isAnyWord ts || isSign "::" ts || isSign "?" ts || isLifetime ts || isOpen '(' ts

/-- Whether a parameter of a function type has a name here.  Only the first may be named as the
value itself. -/
def isParamName (first : Bool) : List Token → Bool
  | .word w :: ts =>
    ((Ident.ofWord w).isFree || w == "_" || first && w == "self")
      && isSign ":" ts && !isSign "::" ts
  | _ => false

/-- Whether what stands for further parameters of a function is written here. -/
def isFurther (ts : List Token) : Bool :=
  isSign "..." ts
    || (isIdent ts || isWord "_" ts) && isSign ":" ts.tail && isSign "..." (ts.drop 2)

/-! ## Expressions -/

/-- The operator that stands here, and what follows it. -/
def operatorAt? (ts : List Token) : Option (String × Level × List Token) :=
  operators.findSome? fun (s, level) => (afterSign? s.toList ts).map fun r => (s, level, r)

/-- How tightly what stands here binds. -/
def levelAt (ts : List Token) : Level :=
  match operatorAt? ts with
  | some (_, level, _) => level
  | none =>
    if isSign "=" ts && !isSign "=>" ts then .assign
    else if isSign ".." ts then .range
    else if isWord "as" ts then .cast
    else .least

/-- Whether the dot of a field or a method stands here. -/
def isDot (ts : List Token) : Bool := isSign "." ts && !isSign ".." ts

/-- Whether something stands here that goes on with a block as with a value. -/
def isLink (ts : List Token) : Bool := isDot ts || isSign "?" ts

/-- What a cast cannot be followed by, if it stands here. -/
def linkAt? (ts : List Token) : Option String :=
  if isDot ts then
    if isWord "await" ts.tail then some "`.await`"
    else if isIdent ts.tail && takesInputs (ts.drop 2) then some "a method call"
    else some "a field access"
  else if isSign "?" ts then some "`?`"
  else if isOpen '[' ts then some "indexing"
  else if isOpen '(' ts then some "a function call"
  else none

/-- Whether a binder stands here. -/
def isBinder (ts : List Token) : Bool :=
  isWord "for" ts && isSign "<" ts.tail
    && (isLifetime (ts.drop 2) || isSign ">" (ts.drop 2))

/-- Whether a function without a name begins here. -/
def isClosureStart (ts : List Token) : Bool :=
  isSign "|" ts || isOneOf ["move", "static"] ts || isBinder ts
    || isWord "const" ts && !isOpen '\x7b' ts.tail
    || isWord "async" ts && (isSign "|" ts.tail || isWord "move" ts.tail)

/-- Whether a block that is run later begins here. -/
def isAsyncBlock (ts : List Token) : Bool :=
  isWord "async" ts
    && (isOpen '\x7b' ts.tail || isWord "move" ts.tail && isOpen '\x7b' (ts.drop 2))

/-- Whether a path may begin an expression here. -/
def isValuePathStart (ts : List Token) : Bool :=
  isPathStart ts || isWord "try" ts && (isSign "!" ts.tail || isSign "::" ts.tail)

/-- Whether an expression may begin here. -/
def isValueStart (ts : List Token) : Bool :=
  isAnyWord ts || isOpen '(' ts || isOpen '[' ts || isOpen '\x7b' ts || isLiteral ts
    || isBang ts || isSign "-" ts && !isSign "-=" ts && !isSign "->" ts
    || isSign "*" ts && !isSign "*=" ts || isSign "|" ts && !isSign "|=" ts
    || isSign "&" ts && !isSign "&=" ts || isSign ".." ts || takesArguments ts
    || isSign "::" ts || isLifetime ts || isSign "#" ts

/-- Whether a range goes no further.  `records` says that a brace behind a path would begin a value
of its type. -/
def isRangeEnd (records : Bool) (ts : List Token) : Bool :=
  isEnd ts || isDot ts || !records && isOpen '\x7b' ts || isWord "as" ts
    || [",", ";", "?", "=>", "=", "+", "/", "%", "^", ">", "<=", "!=", "-=", "*=", "&=", "|=",
        "<<="].any (isSign · ts)

/-- Whether an expression begins here that is a statement by itself. -/
def isBlockStart (ts : List Token) : Bool :=
  isOneOf ["if", "while", "loop", "match", "unsafe"] ts || isOpen '\x7b' ts || isLifetime ts
    || isOneOf ["try", "const"] ts && isOpen '\x7b' ts.tail || isWord "for" ts && !isBinder ts

/-- What follows segments without arguments, given whether one has to come next. -/
def afterPlainSegments : (due : Bool) → List Token → List Token
  | true, .word _ :: ts => afterPlainSegments false ts
  | false, .mark ':' true :: .mark ':' _ :: ts => afterPlainSegments true ts
  | _, ts => ts

/-- Whether an expansion between braces begins here. -/
def isBracedExpansion (ts : List Token) : Bool :=
  let behind := afterPlainSegments true ((afterSign? "::".toList ts).getD ts)
  isPathStart ts && isSign "!" behind && isOpen '\x7b' behind.tail

/-! ## Patterns -/

/-- Whether a pattern that begins with a path stands here. -/
def isNamedPattern (ts : List Token) : Bool :=
  isIdent ts
      && (isSign "::" ts.tail || isSign "!" ts.tail || isOpen '\x7b' ts.tail || isOpen '(' ts.tail
        || isSign ".." ts.tail)
    || isWord "self" ts && isSign "::" ts.tail || isSign "::" ts || isSign "<" ts
    || isOneOf ["Self", "super", "crate"] ts

/-- Whether a range of a pattern has no end here. -/
def isBoundEnd (ts : List Token) : Bool :=
  isEnd ts || isWord "if" ts || isSign ":" ts && !isSign "::" ts
    || ["|", "=", ",", ";"].any (isSign · ts)

/-- Whether a further case of a pattern follows here. -/
def isCase (ts : List Token) : Bool := isSign "|" ts && !isSign "||" ts && !isSign "|=" ts

end FluentBuilders.Code.Ahead
