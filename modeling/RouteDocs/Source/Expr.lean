import RouteDocs.Source.Literal

/-!
Expressions of the source language. Parentheses that only group leave no trace.
-/

namespace RouteDocs.Source

inductive UnaryOp where
  | invert
  | not
  | plus
  | minus
deriving DecidableEq

inductive BinaryOp where
  | add
  | sub
  | mul
  | matMul
  | div
  | floorDiv
  | mod
  | pow
  | shiftLeft
  | shiftRight
  | bitOr
  | bitXor
  | bitAnd
deriving DecidableEq

inductive BoolOp where
  | and
  | or
deriving DecidableEq

inductive CompareOp where
  | eq
  | ne
  | lt
  | le
  | gt
  | ge
  | is
  | isNot
  | in
  | notIn
deriving DecidableEq

/-- what a comprehension builds -/
inductive Collection where
  | list
  | set
  | generator
deriving DecidableEq

/-- where a parameter of a function stands -/
inductive ParamKind where
  /-- given by position only -/
  | positionOnly
  /-- given by position or by name -/
  | plain
  /-- takes the remaining positions -/
  | rest
  /-- given by name only -/
  | nameOnly
  /-- takes the remaining names -/
  | restNames
deriving DecidableEq

inductive Expr where
  | name (s : String)
  | constant (c : Constant)
  /-- a formatted string: literal texts and fields -/
  | formatted (parts : List Expr)
  /-- a field of a formatted string, with its conversion and its format specification -/
  | field (value : Expr) (conversion : Option Char) (spec : Option Expr)
  | attribute (value : Expr) (name : String)
  | subscript (value index : Expr)
  | call (function : Expr) (args : List Expr) (keywords : List (Option String × Expr))
  | tuple (items : List Expr)
  | list (items : List Expr)
  | set (items : List Expr)
  /-- the entries of a mapping; one without a key brings in another mapping -/
  | dict (entries : List (Option Expr × Expr))
  | unary (op : UnaryOp) (operand : Expr)
  | binary (op : BinaryOp) (left right : Expr)
  | bool (op : BoolOp) (operands : List Expr)
  | compare (left : Expr) (rest : List (CompareOp × Expr))
  | conditional (test yes no : Expr)
  /-- a function without a name; each parameter may have a default -/
  | lambda (params : List (ParamKind × String × Option Expr)) (body : Expr)
  | starred (value : Expr)
  | await (value : Expr)
  | yield (value : Option Expr)
  | yieldFrom (value : Expr)
  /-- an assignment inside an expression -/
  | named (target value : Expr)
  | slice (lower upper step : Option Expr)
  | comprehension (kind : Collection) (item : Expr) (clauses : List Expr)
  | dictComprehension (key value : Expr) (clauses : List Expr)
  /-- a clause of a comprehension -/
  | clause (isAsync : Bool) (target source : Expr) (conditions : List Expr)
deriving Inhabited

mutual

/-- does a property hold for an expression and for all that it is made of? -/
def Expr.all (p : Expr → Bool) (e : Expr) : Bool :=
  p e && match e with
  | .name _ | .constant _ => true
  | .formatted parts => Expr.allIn p parts
  | .field value _ spec => value.all p && Expr.allOf p spec
  | .attribute value _ => value.all p
  | .subscript value index => value.all p && index.all p
  | .call function args keywords => function.all p && Expr.allIn p args && Expr.allKeywords p keywords
  | .tuple items | .list items | .set items => Expr.allIn p items
  | .dict entries => Expr.allEntries p entries
  | .unary _ operand => operand.all p
  | .binary _ left right => left.all p && right.all p
  | .bool _ operands => Expr.allIn p operands
  | .compare left rest => left.all p && Expr.allCompared p rest
  | .conditional test yes no => test.all p && yes.all p && no.all p
  | .lambda params body => Expr.allDefaults p params && body.all p
  | .starred value | .await value | .yieldFrom value => value.all p
  | .yield value => Expr.allOf p value
  | .named target value => target.all p && value.all p
  | .slice lower upper step => Expr.allOf p lower && Expr.allOf p upper && Expr.allOf p step
  | .comprehension _ item clauses => item.all p && Expr.allIn p clauses
  | .dictComprehension key value clauses => key.all p && value.all p && Expr.allIn p clauses
  | .clause _ target source conditions => target.all p && source.all p && Expr.allIn p conditions

/-- does a property hold in each of the expressions? -/
def Expr.allIn (p : Expr → Bool) : List Expr → Bool
  | [] => true
  | e :: rest => e.all p && Expr.allIn p rest

/-- does a property hold in the expression, if there is one? -/
def Expr.allOf (p : Expr → Bool) : Option Expr → Bool
  | none => true
  | some e => e.all p

/-- does a property hold in each of the arguments by name? -/
def Expr.allKeywords (p : Expr → Bool) : List (Option String × Expr) → Bool
  | [] => true
  | (_, e) :: rest => e.all p && Expr.allKeywords p rest

/-- does a property hold in each of the entries? -/
def Expr.allEntries (p : Expr → Bool) : List (Option Expr × Expr) → Bool
  | [] => true
  | (key, e) :: rest => Expr.allOf p key && e.all p && Expr.allEntries p rest

/-- does a property hold in each of the operands of comparisons? -/
def Expr.allCompared (p : Expr → Bool) : List (CompareOp × Expr) → Bool
  | [] => true
  | (_, e) :: rest => e.all p && Expr.allCompared p rest

/-- does a property hold in each of the defaults? -/
def Expr.allDefaults (p : Expr → Bool) : List (ParamKind × String × Option Expr) → Bool
  | [] => true
  | (_, _, default) :: rest => Expr.allOf p default && Expr.allDefaults p rest

end

end RouteDocs.Source
