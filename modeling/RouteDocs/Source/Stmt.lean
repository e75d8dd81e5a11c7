import RouteDocs.Source.Expr

/-!
Statements of the source language, as far as they are looked at: functions, classes, assignments and expressions. Every
other statement only has to be well formed. Places are those of tokens.
-/

namespace RouteDocs.Source

structure Param where
  kind : ParamKind
  name : String
  type : Option Expr
  default : Option Expr

/-- an expression before a definition, at a place -/
structure Decorator (π : Type) where
  place : π
  expr : Expr

inductive Stmt (π : Type) where
  | function (place : π) (name : String) (params : List Param) (decorators : List (Decorator π))
      (body : List (Stmt π))
  | classDef (name : String) (bases : List Expr) (body : List (Stmt π))
  /-- an assignment with an annotation, or an annotation alone -/
  | annotated (target type : Expr) (hasValue : Bool)
  /-- an assignment of a value to one target or more -/
  | assigned (targets : List Expr) (value : Expr)
  | expression (e : Expr)
  | other

end RouteDocs.Source
