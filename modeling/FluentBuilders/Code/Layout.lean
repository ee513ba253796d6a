/-
  Laid-out code — a code tree as a document.

  Every construct is a box, or a run of texts and gaps in the box around it.  A list between
  brackets goes on one line or has each item on its own; a chain of calls breaks in front of each
  dot; statements and items end their lines.  No comma is kept behind the last item of a list that
  stays on its line.

  At the beginning of a statement a chain that starts from a name of at most four bytes keeps its
  first dot on the line, because breaking there would gain nothing.
-/
import FluentBuilders.Code.Kind
import FluentBuilders.Code.TokenLayout

namespace FluentBuilders.Code

open Layout

/-! ## Names and lifetimes -/

/-- The text of an identifier. -/
def Ident.doc (i : Ident) : Doc := .text i.spelled

/-- The text of a lifetime with some name. -/
def Ident.lifetimeDoc (i : Ident) : Doc := .text ("'" ++ i.spelled)

/-- The text of what a segment names. -/
def Head.doc : Head → Doc
  | .ident i => i.doc
  | .star => .text "*"

/-- Documents with a text between neighbours. -/
def sepDocs (separator : String) : List (List Doc) → List Doc
  | [] => []
  | [d] => d
  | d :: e :: r => d ++ .text separator :: sepDocs separator (e :: r)

/-- A lifetime with the bounds that it is introduced with. -/
def LifetimeParam.docs (p : LifetimeParam) : List Doc :=
  p.name.lifetimeDoc ::
    if p.bounds.isEmpty then []
    else .text ": " :: sepDocs " + " (p.bounds.map fun i => [i.lifetimeDoc])

/-- A binder, if there is one. -/
def binderDocs : Option Binder → List Doc
  | some b => .text "for<" :: sepDocs ", " (b.params.map (·.docs)) ++ [.text "> "]
  | none => []

/-- What stands in front of the type of a function. -/
def FunctionHead.docs (h : FunctionHead) : List Doc :=
  binderDocs h.binder ++ (if h.unchecked then [.text "unsafe "] else [])
    ++ (match h.convention with
        | some (some name) => [.text "extern ", .text name, .text " "]
        | some none => [.text "extern "]
        | none => [])

/-- The name of a parameter of a function type, if it has one. -/
def paramNameDocs : Option Ident → List Doc
  | some i => [i.doc, .text ": "]
  | none => []

/-- A label, if there is one. -/
def labelDocs : Option Ident → List Doc
  | some l => [l.lifetimeDoc, .text ": "]
  | none => []

/-- Words with a blank behind each. -/
def wordDocs (ws : List String) : List Doc := ws.map fun w => .text (w ++ " ")

/-! ## Positions -/

/-- Where a path stands: types applied to it need a separator in front of them in an expression
    and none in a type. -/
inductive Position
  | inType
  | inExpr
  deriving DecidableEq, Repr

/-- What stands in front of the types that a path is applied to. -/
def Position.opening : Position → String
  | .inType => "<"
  | .inExpr => "::<"

/-- How an expression stands in what is around it: for itself, or as a link of a chain, whose box
    it shares. -/
inductive Standing
  | alone
  | linked
  deriving DecidableEq, Repr

/-- An expression that is no chain, as it stands. -/
def Standing.leaf : Standing → List Doc → List Doc
  | .alone, ds => ds
  | .linked, ds => [cbox (-step) ds]

/-- An expression that is a chain, as it stands. -/
def Standing.chain : Standing → List Doc → List Doc
  | .alone, ds => [cbox step ds]
  | .linked, ds => ds

/-- The gap in front of a dot, given whether the chain begins a statement. -/
def dotGap (starts : Bool) (receiver : Expr) : List Doc :=
  if starts && receiver.isShortName then [] else [zeroBreak 0]

/-- The width up to which the fields of a value stay on one line. -/
def fieldsLimit : Nat := 34

/-- Items between brackets. -/
def itemsDoc (items : List (List Doc)) : Doc := cbox step (commaList (-step) items)

/-- The items of a tuple.  One item alone always has a comma behind it. -/
def tupleItems : List (List Doc) → List Doc
  | [d] => zeroBreak 0 :: d ++ [.text ",", zeroBreak (-step)]
  | ds => commaList (-step) ds

/-- The items of a tuple that is a pattern.  What stands for the rest of it needs no comma. -/
def tuplePatternItems (comma : Bool) : List (List Doc) → List Doc
  | [d] => zeroBreak 0 :: d ++ [.text (if comma then "," else ""), zeroBreak (-step)]
  | ds => commaList (-step) ds

/-- The parameters of a function type, and what stands for further ones. -/
def paramsDoc (params : List (List Doc)) : Option (Option Ident) → Doc
  | none => itemsDoc params
  | some name =>
    cbox step (zeroBreak 0 :: params.flatMap (fun d => d ++ [.text ",", space])
      ++ paramNameDocs name ++ [.text "...", zeroBreak (-step)])

/-- Items with commas between them and no gap in front of the first. -/
def looseItems : List (List Doc) → List Doc
  | [] => []
  | [d] => d
  | d :: e :: r => d ++ .text "," :: space :: looseItems (e :: r)

/-- The parameters of a function without a name.  `result` says that a result follows. -/
def closureParamsDoc (result : Bool) (params : List (List Doc)) : Doc :=
  let items := if params.isEmpty then [] else zeroBreak 0 :: looseItems params
  if result then
    cbox step (.text "|" :: items
      ++ (if params.isEmpty then [] else [.gap { offset := -step, before := "," }])
      ++ [.text "|"])
  else cbox step (.text "|" :: items ++ [.text "|", .gap { blank := 1, offset := -step }])

/-! ## Around expressions -/

/-- An expression that is put between brackets where it does not fit on its line: between braces, or
between round ones where it could not open a block.  `comma` says that a comma follows. -/
def Expr.bracedDocs (comma : Bool) (e : Expr) (docs : List Doc) : List Doc :=
  let braces := e.opensStatement
  [cbox step
    (.gap { before := if braces then "\x7b" else "(" } :: docs
      ++ [.gap {
            offset := -step
            before := if braces && e.endsWithSemicolon then ";" else ""
            after := if braces then "\x7d" else if comma then ")," else ")"
            instead := if comma && !e.isStatement then "," else "" }])]

/-- What stands in front of what is borrowed. -/
def borrowText (raw mutable : Bool) : String :=
  (if raw then "&raw " else "&") ++ (if mutable then "mut " else if raw then "const " else "")

/-- An expression in front of a brace. -/
def Expr.headDocs (e : Expr) (docs : List Doc) : List Doc :=
  [cbox 0 (docs ++ [if e.mayWrap then space else .text " "])]

/-- A condition in front of the block that depends on it. -/
def Expr.ifDocs (e : Expr) (docs : List Doc) : List Doc :=
  [.text "if ", cbox (-step) (e.headDocs docs)]

/-! ## Paths, types, expressions and statements -/

mutual

/-- A type. -/
def Ty.docs : Ty → List Doc
  | .path p => p.docs .inType
  | .projection p => p.docs .inType
  | .impl bounds _ => .text "impl " :: Bound.docsList bounds
  | .object _ bounds _ => .text "dyn " :: Bound.docsList bounds
  | .ref lifetime mutable target =>
    .text "&" :: (match lifetime with
        | some l => [l.lifetimeDoc, .text " "]
        | none => [])
      ++ (if mutable then [.text "mut "] else []) ++ target.docs
  | .pointer mutable target => .text (if mutable then "*mut " else "*const ") :: target.docs
  | .slice item => .text "[" :: item.docs ++ [.text "]"]
  | .array item length =>
    .text "[" :: item.docs ++ .text "; " :: length.docs .alone false ++ [.text "]"]
  | .tuple items _ => [.text "(", cbox step (tupleItems (Ty.docsEach items)), .text ")"]
  | .paren inner => .text "(" :: inner.docs ++ [.text ")"]
  | .function head params further _ result =>
    head.docs ++ [.text "fn(", paramsDoc (Ty.paramDocs params) further, .text ")"]
      ++ Ty.resultDocs result
  | .never => [.text "!"]
  | .expansion name body => name.docs .inType ++ .text "!" :: bodyDocs body

/-- The documents of types. -/
def Ty.docsEach : List Ty → List (List Doc)
  | [] => []
  | t :: ts => t.docs :: Ty.docsEach ts

/-- The documents of the parameters of a function type. -/
def Ty.paramDocs : List (Option Ident × Ty) → List (List Doc)
  | [] => []
  | (name, t) :: ts => (paramNameDocs name ++ t.docs) :: Ty.paramDocs ts

/-- The result of a function. -/
def Ty.resultDocs : Option Ty → List Doc
  | some t => .text " -> " :: t.docs
  | none => []

/-- A path. -/
def Path.docs (position : Position) : Path → List Doc
  | .mk leading segments =>
    (if leading then [Doc.text "::"] else []) ++ Segment.docsList position segments

/-- What belongs to a type. -/
def Projection.docs (position : Position) : Projection → List Doc
  | .mk owner trait rest =>
    .text "<" :: owner.docs
      ++ (match trait with
          | some t => .text " as " :: t.docs .inType
          | none => [])
      ++ [.text ">", .text "::"] ++ Segment.docsList position rest

/-- Segments with separators between them. -/
def Segment.docsList (position : Position) : List Segment → List Doc
  | [] => []
  | [s] => s.docs position
  | s :: t :: r => s.docs position ++ .text "::" :: Segment.docsList position (t :: r)

/-- A segment. -/
def Segment.docs (position : Position) : Segment → List Doc
  | .mk head arguments => head.doc :: arguments.docs position

/-- What a segment is applied to. -/
def Arguments.docs (position : Position) : Arguments → List Doc
  | .none => []
  | .types _ [] _ => []
  | .types _ (a :: as) _ =>
    [.text position.opening, itemsDoc (a.docs :: Argument.docsEach as), .text ">"]
  | .inputs items _ result =>
    [cbox step
      (.text "(" :: commaList (-step) (Ty.docsEach items) ++ .text ")" :: Ty.resultDocs result)]

/-- The names that something may depend on. -/
def Arguments.captureDocs : Arguments → List Doc
  | .types _ items _ => .text "use<" :: sepDocs ", " (Argument.docsEach items) ++ [.text ">"]
  | .none | .inputs _ _ _ => []

/-- What stands between angle brackets. -/
def Argument.docs : Argument → List Doc
  | .lifetime name => [name.lifetimeDoc]
  | .type t => t.docs
  | .value e => e.docs .alone false
  | .typeOf name arguments t => name.doc :: arguments.docs .inType ++ .text " = " :: t.docs
  | .valueOf name arguments e =>
    name.doc :: arguments.docs .inType ++ .text " = " :: e.docs .alone false
  | .boundsOf name arguments bounds _ =>
    name.doc :: arguments.docs .inType ++ [ibox step (Bound.brokenDocs ": " bounds)]

/-- The documents of arguments. -/
def Argument.docsEach : List Argument → List (List Doc)
  | [] => []
  | a :: r => a.docs :: Argument.docsEach r

/-- What a type must have. -/
def Bound.docs : Bound → List Doc
  | .trait parens binder waived p =>
    (if parens then [Doc.text "("] else []) ++ binderDocs binder
      ++ (if waived then [.text "?"] else []) ++ p.docs .inType
      ++ (if parens then [.text ")"] else [])
  | .lifetime name => [name.lifetimeDoc]
  | .capture names => names.captureDocs

/-- Several things that a type must have, on one line. -/
def Bound.docsList : List Bound → List Doc
  | [] => []
  | [b] => b.docs
  | b :: c :: r => b.docs ++ .text " + " :: Bound.docsList (c :: r)

/-- Several things that a type must have, behind a text; the line may end in front of each plus
    sign. -/
def Bound.brokenDocs (opening : String) : List Bound → List Doc
  | [] => []
  | [b] => .text opening :: b.docs
  | b :: c :: r => .text opening :: b.docs ++ space :: Bound.brokenDocs "+ " (c :: r)

/-- An expression.  `starts` says whether it begins a statement. -/
def Expr.docs (standing : Standing) (starts : Bool) : Expr → List Doc
  | .path p => standing.leaf (p.docs .inExpr)
  | .projection p => standing.leaf (p.docs .inExpr)
  | .call callee arguments _ =>
    callee.docs standing (starts && standing == .alone) ++ Expr.callDocs arguments
  | .field receiver name =>
    standing.chain
      (receiver.docs .linked starts ++ dotGap starts receiver ++ [.text ".", name.doc])
  | .method receiver name types arguments _ =>
    let offset := if standing == .alone && starts && receiver.isShortName then -step else 0
    standing.chain
      (receiver.docs .linked starts ++ dotGap starts receiver
        ++ .text "." :: name.doc :: types.docs .inExpr ++ [cbox offset (Expr.callDocs arguments)])
  | .index receiver index =>
    receiver.docs standing starts ++ .text "[" :: index.docs .alone false ++ [.text "]"]
  | .attempt value => value.docs standing starts ++ [.text "?"]
  | .await value =>
    standing.chain (value.docs .linked starts ++ dotGap starts value ++ [.text ".await"])
  | .literal text => standing.leaf [.text text]
  | .unary operator operand => standing.leaf (.text operator :: operand.docs .alone false)
  | .borrow raw mutable target =>
    standing.leaf
      (.text (borrowText raw mutable) :: target.docs .alone false)
  | .binary operator left right =>
    standing.leaf
      [ibox step
        ([ibox (-step) (left.docs .alone false), space, .text operator, .text " "]
          ++ right.docs .alone false)]
  | .assign place value =>
    standing.leaf
      [ibox 0 (place.docs .alone false ++ [.text " = ", neverBreak] ++ value.docs .alone false)]
  | .cast value type =>
    standing.leaf
      [ibox step ([ibox (-step) (value.docs .alone false), space, .text "as "] ++ type.docs)]
  | .range first closed last =>
    standing.leaf
      (Expr.docsOption first ++ .text (rangeSign closed) :: Expr.docsOption last)
  | .paren inner => standing.leaf (.text "(" :: inner.docs .alone false ++ [.text ")"])
  | .tuple items _ =>
    standing.leaf [.text "(", cbox step (tupleItems (Expr.docsEach items)), .text ")"]
  | .array items _ => standing.leaf [.text "[", itemsDoc (Expr.docsEach items), .text "]"]
  | .fill item length =>
    standing.leaf
      (.text "[" :: item.docs .alone false ++ .text "; " :: length.docs .alone false
        ++ [.text "]"])
  | .block label words body =>
    standing.leaf (labelDocs label ++ wordDocs words ++ [cbox step (Stmt.blockDocs body)])
  | .branch condition body none =>
    standing.leaf
      [cbox step (condition.ifDocs (condition.docs .alone false)
        ++ (if body.isEmpty then [.text "\x7b\x7d"]
            else .text "\x7b" :: hardBreak 0 :: Stmt.docsList body ++ [.text "\x7d"]))]
  | .branch condition body (some otherwise) =>
    standing.leaf
      [cbox step (condition.ifDocs (condition.docs .alone false) ++ Stmt.blockDocs body
        ++ .text " else " :: otherwise.elseDocs)]
  | .loop label body =>
    standing.leaf (labelDocs label ++ .text "loop \x7b" :: Stmt.loopDocs body)
  | .whileLoop label condition body =>
    standing.leaf
      (labelDocs label ++ .text "while " :: condition.headDocs (condition.docs .alone false)
        ++ .text "\x7b" :: neverBreak :: Stmt.loopDocs body)
  | .forLoop label pattern source body =>
    standing.leaf
      [ibox 0
        (labelDocs label ++ .text "for " :: pattern.docs ++ .text " in " :: neverBreak
          :: source.headDocs (source.docs .alone false) ++ .text "\x7b" :: neverBreak
          :: Stmt.loopDocs body)]
  | .choice value arms =>
    standing.leaf
      [ibox 0
        (.text "match " :: value.headDocs (value.docs .alone false) ++
          [.text "\x7b", neverBreak,
           cbox step (hardBreakIfNonempty (if arms.isEmpty then -step else 0) :: Arm.docsList arms),
           .text "\x7d"])]
  | .fits pattern value =>
    standing.leaf
      [ibox 0
        [.text "let ", ibox 0 pattern.docs, .text " = ", neverBreak,
         ibox 0 (value.docs .alone false)]]
  | .closure binder words params _ result body =>
    standing.leaf
      [ibox 0
        (binderDocs binder ++ wordDocs words
          ++ closureParamsDoc result.isSome (Pattern.docsEach params) :: Ty.resultDocs result
          ++ (if result.isSome then .text " " :: body.docs .alone false
              else if body.isClosureBody then neverBreak :: body.docs .alone false
              else neverBreak :: body.bracedDocs false (body.docs .alone false)))]
  | .jump word label value =>
    standing.leaf
      (.text word :: (match label with
          | some l => [.text " ", l.lifetimeDoc]
          | none => [])
        ++ (match value with
          | some e => .text " " :: e.docs .alone false
          | none => []))
  | .record type fields _ _ base =>
    if fields.isEmpty && base.isNone then
      standing.leaf (type.docs .alone false ++ [.text " \x7b\x7d"])
    else
      standing.leaf
        [.box .consistent step (some fieldsLimit)
          (ibox (-step) (type.docs .alone false) :: .text " \x7b" :: space
            :: Expr.fieldDocs base.isNone fields ++ Expr.baseDocs base),
         .text "\x7d"]
  | .expansion name body => standing.leaf (name.docs .inType ++ .text "!" :: bodyDocs body)

/-- An expression, if there is one. -/
def Expr.docsOption : Option Expr → List Doc
  | some e => e.docs .alone false
  | none => []

/-- The value that a variable begins with, if there is one. -/
def Expr.initialDocs : Option Expr → List Doc
  | some e => .text " = " :: neverBreak :: e.docs .alone false
  | none => []

/-- The documents of expressions. -/
def Expr.docsEach : List Expr → List (List Doc)
  | [] => []
  | e :: es => e.docs .alone false :: Expr.docsEach es

/-- What something is called with.  One argument that brings its own brackets stands close to
those around it. -/
def Expr.callDocs : List Expr → List Doc
  | [] => [.text "(", itemsDoc [], .text ")"]
  | [e] =>
    if e.isBracketed then .text "(" :: e.docs .alone false ++ [.text ")"]
    else [.text "(", itemsDoc [e.docs .alone false], .text ")"]
  | e :: f :: r =>
    [.text "(", itemsDoc (e.docs .alone false :: Expr.docsEach (f :: r)), .text ")"]

/-- What is done otherwise. -/
def Expr.elseDocs : Expr → List Doc
  | .branch condition body none =>
    condition.ifDocs (condition.docs .alone false) ++ Stmt.blockDocs body
  | .branch condition body (some otherwise) =>
    condition.ifDocs (condition.docs .alone false) ++ Stmt.blockDocs body
      ++ .text " else " :: otherwise.elseDocs
  | .block _ _ body => Stmt.blockDocs body
  | _ => []

/-- A block behind an arrow.  Of one that holds nothing but a value, the value stands there. -/
def Expr.armDocs : Expr → List Doc
  | .block none [] [.result e] =>
    if e.isBracedExpansion then
      [.text "\x7b", neverBreak,
       cbox step [hardBreak 0, ibox 0 (e.docs .alone true), hardBreak (-step)], .text "\x7d"]
    else if e.isArmBlock then e.armDocs
    else neverBreak :: e.bracedDocs true (e.docs .alone true)
  | .block label _ body => labelDocs label ++ .text "\x7b" :: neverBreak :: Stmt.loopDocs body
  | .tuple _ _ => [.text "\x7b", neverBreak, .text "\x7d"]
  | _ => []

/-- The fields of a value.  Behind the last of them there is a blank, or a comma and a new line;
`last` says that nothing else follows. -/
def Expr.fieldDocs (last : Bool) : List (Ident × Option Expr) → List Doc
  | [] => []
  | [f] =>
    Expr.fieldDoc f ++
      (if last then [.gap { blank := 1, offset := -step, before := "," }] else [.text ",", space])
  | f :: g :: fs => Expr.fieldDoc f ++ .text "," :: space :: Expr.fieldDocs last (g :: fs)

/-- The value that the other fields are taken from, if there is one. -/
def Expr.baseDocs : Option Expr → List Doc
  | some e => .text ".." :: e.docs .alone false ++ [.gap { blank := 1, offset := -step }]
  | none => []

/-- A field of a value. -/
def Expr.fieldDoc : Ident × Option Expr → List Doc
  | (name, some e) => [.text (name.spelled ++ ": "), ibox 0 (e.docs .alone false)]
  | (name, none) => [name.doc]

/-- A pattern. -/
def Pattern.docs : Pattern → List Doc
  | .wild => [.text "_"]
  | .rest => [.text ".."]
  | .bind byRef mutable name inner =>
    (if byRef then [.text "ref "] else []) ++ (if mutable then [.text "mut "] else [])
      ++ name.doc :: (match inner with
        | some p => .text " @ " :: p.docs
        | none => [])
  | .value e => e.docs .alone false
  | .typed inner type => inner.docs ++ .text ": " :: type.docs
  | .borrow mutable inner => .text (if mutable then "&mut " else "&") :: inner.docs
  | .paren inner => .text "(" :: inner.docs ++ [.text ")"]
  | .tuple items comma =>
    [.text "(", cbox step (tuplePatternItems comma (Pattern.docsEach items)), .text ")"]
  | .slice items _ =>
    .text "[" :: commaItems 0 (Pattern.docsEach items) ++ [.text "]"]
  | .either _ cases =>
    [.box (if cases.all Pattern.isSmall then .inconsistent else .consistent) 0 none
      (Pattern.caseDocs cases)]
  | .variant constructor items _ =>
    constructor.docs .alone false ++ [.text "(", itemsDoc (Pattern.docsEach items), .text ")"]
  | .record type fields _ more =>
    [cbox step
      (type.docs .alone false ++ .text " \x7b"
        :: (if fields.isEmpty && !more then []
            else space :: Pattern.fieldDocs (!more) fields
              ++ (if more then [.text "..", .gap { blank := 1, offset := -step }] else []))),
     .text "\x7d"]

/-- The documents of patterns. -/
def Pattern.docsEach : List Pattern → List (List Doc)
  | [] => []
  | p :: r => p.docs :: Pattern.docsEach r

/-- Patterns one of which is asked for. -/
def Pattern.caseDocs : List Pattern → List Doc
  | [] => []
  | [p] => p.docs
  | p :: q :: r => p.docs ++ space :: .text "| " :: Pattern.caseDocs (q :: r)

/-- The fields of a pattern. -/
def Pattern.fieldDocs (last : Bool) : List (Option Ident × Pattern) → List Doc
  | [] => []
  | [(name, p)] =>
    paramNameDocs name ++ p.docs ++
      (if last then [.gap { blank := 1, offset := -step, before := "," }] else [.text ",", space])
  | (name, p) :: f :: r =>
    paramNameDocs name ++ p.docs ++ .text "," :: space :: Pattern.fieldDocs last (f :: r)

/-- A case.  A value that does not fit on the line is put between braces. -/
def Arm.docs : Arm → List Doc
  | .mk pattern guard body _ =>
    [ibox 0
      (pattern.docs
        ++ (match guard with
          | some e => .text " if " :: e.docs .alone false
          | none => [])
        ++ .text " => "
          :: (if body.isArmBlock then body.armDocs
              else neverBreak :: body.bracedDocs true (body.docs .alone true)))]

/-- Cases, each on lines of its own. -/
def Arm.docsList : List Arm → List Doc
  | [] => []
  | [a] => a.docs ++ [hardBreak (-step)]
  | a :: b :: r => a.docs ++ hardBreak 0 :: Arm.docsList (b :: r)

/-- A statement.  The next line is indented by `last` more than the box around it. -/
def Stmt.docs (last : Int) : Stmt → List Doc
  | .empty => []
  | .bind pattern value none =>
    [ibox 0 (.text "let " :: pattern.docs ++ Expr.initialDocs value ++ [.text ";"]),
     hardBreak last]
  | .bind pattern value (some body) =>
    [ibox 0 (.text "let " :: pattern.docs ++ Expr.initialDocs value ++ [space, .text "else "]),
     neverBreak, cbox step (Stmt.blockDocs body), .text ";", hardBreak last]
  | .run value =>
    [ibox 0 (value.docs .alone true ++ if value.dropsSemicolon then [] else [.text ";"]),
     hardBreak last]
  | .result value =>
    [ibox 0 (value.docs .alone true ++ if value.endsWithSemicolon then [.text ";"] else []),
     hardBreak last]

/-- Statements in a block; the line after the last of them is indented as the block is. -/
def Stmt.docsList : List Stmt → List Doc
  | [] => []
  | s :: r => s.docs (if r.all Stmt.isEmpty then -step else 0) ++ Stmt.docsList r

/-- A block within an expression.  One that holds nothing but a value may stay on its line. -/
def Stmt.blockDocs : List Stmt → List Doc
  | [] => [.text "\x7b", .text "\x7d"]
  | [.result e] =>
    if e.isBracedExpansion then
      .text "\x7b" :: space :: ibox 0 (e.docs .alone true) :: hardBreak (-step) :: [.text "\x7d"]
    else
      [.text "\x7b", space, ibox 0 (e.docs .alone true), .gap { blank := 1, offset := -step },
       .text "\x7d"]
  | s :: r =>
    .text "\x7b" :: .gap { blank := 1, offset := if (s :: r).all Stmt.isEmpty then -step else 0 }
      :: s.docs (if r.all Stmt.isEmpty then -step else 0) ++ Stmt.docsList r ++ [.text "\x7d"]

/-- The body of a loop, behind its opening brace. -/
def Stmt.loopDocs : List Stmt → List Doc
  | [] => [.text "\x7d"]
  | s :: r =>
    [cbox step
      (hardBreakIfNonempty (if (s :: r).all Stmt.isEmpty then -step else 0)
        :: s.docs (if r.all Stmt.isEmpty then -step else 0) ++ Stmt.docsList r),
     .text "\x7d"]

end

/-! ## Items -/

/-- The text of a scope. -/
def Scope.text : Scope → String
  | .here => ""
  | .crate => "pub(crate) "
  | .everywhere => "pub "

/-- The bounds of a type parameter. -/
def boundDocs : List Path → List Doc
  | [] => []
  | b :: bs => .text ": " :: b.docs .inType ++
      bs.flatMap fun c => space :: .text "+ " :: c.docs .inType

/-- A type parameter. -/
def Generic.docs (g : Generic) : List Doc := [g.name.doc, ibox step (boundDocs g.bounds)]

/-- The type parameters of an item. -/
def genericsDocs (gs : List Generic) : List Doc :=
  if gs.isEmpty then []
  else [.text "<", cbox 0 (commaList (-step) (gs.map (·.docs))), .text ">"]

/-- A parameter of a function. -/
def Param.docs : Param → List Doc
  | .selfRef => [.text "&mut self"]
  | .selfValue mutable => [.text (if mutable then "mut self" else "self")]
  | .typed name type => name.doc :: .text ": " :: type.docs

/-- A function. -/
def Function.docs (last : Int) (f : Function) : List Doc :=
  [cbox step
    ([.text f.scope.text, .text "fn ", f.name.doc] ++ genericsDocs f.generics ++
      [.text "(", neverBreak, cbox 0 (commaList (-step) (f.params.map (·.docs))), .text ")",
       cbox (-step) (Ty.resultDocs f.result), .text " ", .text "\x7b",
       hardBreakIfNonempty (if f.body.isEmpty then -step else 0)] ++ Stmt.docsList f.body),
   .text "\x7d", hardBreak last]

/-- The functions of an implementation; the line after the last of them is indented as the
    implementation is. -/
def functionDocs : List Function → List Doc
  | [] => []
  | [f] => f.docs (-step)
  | f :: g :: r => f.docs 0 ++ functionDocs (g :: r)

/-- The fields of a type; the line after the last of them is indented as the type is. -/
def fieldDocs : List (Ident × Ty) → List Doc
  | [] => []
  | [(name, t)] => name.doc :: .text ": " :: t.docs ++ [.text ",", hardBreak (-step)]
  | (name, t) :: f :: r =>
    name.doc :: .text ": " :: t.docs ++ [.text ",", hardBreak 0] ++ fieldDocs (f :: r)

/-- Names behind an opening brace, filled into lines. -/
def nameDocs : List Ident → List Doc
  | [] => []
  | [i] => [i.doc]
  | i :: j :: r => i.doc :: .text "," :: space :: nameDocs (j :: r)

/-- An item. -/
def Item.docs : Item → List Doc
  | .use path => .text "use " :: path.docs .inType ++ [.text ";", hardBreak 0]
  | .reexport scope module names =>
    [.text scope.text, .text "use ", module.doc, .text "::",
     cbox step [.text "\x7b", zeroBreak 0, ibox 0 (nameDocs names),
       .gap { offset := -step, before := "," }, .text "\x7d"],
     .text ";", hardBreak 0]
  | .submodule scope name => [.text scope.text, .text "mod ", name.doc, .text ";", hardBreak 0]
  | .struct scope name generics fields =>
    [cbox step
      ([.text scope.text, .text "struct ", name.doc] ++ genericsDocs generics ++
        [.text " ", .text "\x7b", hardBreakIfNonempty (if fields.isEmpty then -step else 0)] ++
        fieldDocs fields),
     .text "\x7d", hardBreak 0]
  | .impl generics trait target functions =>
    [cbox step
      ([ibox (-step)
          ([cbox step (.text "impl" :: genericsDocs generics), .text " "] ++
            (match trait with
              | some t => t.docs .inType ++ [space, .text "for "]
              | none => []) ++
            target.docs .inType),
        .text " ", .text "\x7b", hardBreakIfNonempty (if functions.isEmpty then -step else 0)] ++
        functionDocs functions),
     .text "\x7d", hardBreak 0]
  | .function f => f.docs 0

/-! ## Modules -/

/-- A lint exemption. -/
def exemptDocs (lint : List String) : List Doc :=
  [.text ("#![allow(" ++ String.intercalate "::" lint ++ ")]"), space]

/-- The document of a module. -/
def Module.doc (m : Module) : Doc :=
  cbox 0 (m.exempt.flatMap exemptDocs ++ m.items.flatMap (·.docs))

/-- The laid-out text of a module. -/
def Module.text (m : Module) : String := render [m.doc]

end FluentBuilders.Code
