/-
  Idioms — the turns of the generated language that every generated module uses.
-/
import FluentBuilders.Code.Tree

namespace FluentBuilders.Code

/-! ## Names and values -/

/-- A word that needs no escape. -/
def plain (w : String) : Ident := ⟨w, false⟩

/-- A variable. -/
def var (w : String) : Expr := .path (.ofIdent (plain w))

/-- A field of the value itself. -/
def ownField (name : Ident) : Expr := .field (var "self") name

/-- The type being implemented. -/
def selfTy : Ty := .path (.ofIdent (plain "Self"))

/-- The value itself, borrowed to be changed, as a type. -/
def selfRefTy : Ty := .ref none true selfTy

/-- Some type with a trait. -/
def someTy (trait : Path) : Ty := .impl [.trait false none false trait] false

/-- A text as a literal.  It holds nothing that would have to be escaped. -/
def textLiteral (s : String) : Expr := .literal ("\"" ++ s ++ "\"")

/-- A call of something. -/
def callOf (callee : Expr) (arguments : List Expr) : Expr := .call callee arguments false

/-- A call of a method. -/
def methodOf (receiver : Expr) (name : Ident) (arguments : List Expr) : Expr :=
  .method receiver name .none arguments false

/-- A value of the type being implemented, field by field. -/
def selfValue (fields : List (Ident × Expr)) : Expr :=
  .record (var "Self") (fields.map fun (name, e) => (name, some e)) true false none

/-- The trait of types with a default. -/
def defaultTrait : Path := .root ["core", "default", "Default"]

/-- The function that makes a default. -/
def defaultFunction : Path := defaultTrait.push (.word "default")

/-- The trait of types that turn into another. -/
def intoTrait (t : Ty) : Path := (Path.root ["core", "convert", "Into"]).of [t]

/-- The trait of functions that are called once on a borrowed value. -/
def blockTrait (t : Ty) : Path :=
  (Path.root ["core", "ops", "FnOnce"]).apply (.inputs [.ref none true t] false none)

/-- The constructor of a present value. -/
def someFunction : Path := .root ["core", "option", "Option", "Some"]

/-- The absent value. -/
def noneValue : Expr := .path (.root ["core", "option", "Option", "None"])

/-- A value, as a present one if the place for it admits the absent one. -/
def present (nullable : Bool) (e : Expr) : Expr :=
  if nullable then callOf (.path someFunction) [e] else e

/-- The function `new` of a type. -/
def newCall (t : Path) : Expr := callOf (.path (t.push (.word "new"))) []

/-- The statement that makes a new variable that may be changed. -/
def letMut (name : Ident) (value : Expr) : Stmt :=
  .bind (.bind false true name none) (some value) none

/-- The statement that runs others if a value is that of a constructor with one part. -/
def ifLet (constructor : Path) (part : Ident) (value : Expr) (body : List Stmt) : Stmt :=
  .result (.branch
    (.fits (.variant (.path constructor) [.bind false false part none] false) value) body none)

/-- The statement that calls a block on a variable. -/
def runBlock (name : String) : Stmt :=
  .run (callOf (var "block") [.borrow false true (var name)])

/-- The statement that sets a property. -/
def setField (field : Ident) (value : Expr) : Stmt :=
  .run (methodOf (ownField field) (plain "set") [value])

/-- The statement that a method ends with if calls can be chained to it. -/
def returnSelf : Stmt := .result (var "self")

/-- The scope of a thing that is for its own package only, or for all. -/
def Scope.ofInternal (internal : Bool) : Scope := if internal then .crate else .everywhere

/-- A public method that borrows the value and gives it back. -/
def chainMethod (name : Ident) (param : Param) (body : List Stmt) : Function :=
  { scope := .everywhere, name, params := [.selfRef, param], result := some selfRefTy,
    body := body ++ [returnSelf] }

/-- A collector of a container. -/
def collectorTy (support : Path) (container : Ty) : Ty :=
  .path ((support.push (.word "Collector")).of [container])

/-- The type of what building gives. -/
def resultTy (support : Path) (classType : Ty) : Ty :=
  .path ((Path.root ["core", "result", "Result"]).of
    [classType, .path (support.push (.word "BuildError"))])

/-- The function that makes an empty builder. -/
def newFunction : Function where
  scope := .everywhere
  name := plain "new"
  params := []
  result := some selfTy
  body := [.result (callOf (.projection (.mk selfTy (some defaultTrait) [.word "default"])) [])]

end FluentBuilders.Code
