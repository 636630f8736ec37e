import ComponentReference.Json.Basic
import ComponentReference.Machine.Text.Octets

/-!
# Recipes

A recipe is a list of steps.  Steps hold expressions, and blocks of further steps.
-/

namespace ComponentReference.Recipe

/-- An expression. -/
inductive Expr where
  | const (j : Json)
  | octets (s : Octets)
  | name (s : String)
  | list (items : List Expr)
  | tuple (items : List Expr)
  | dict (fields : List (Expr × Expr))
  /-- What a value has under a name. -/
  | member (e : Expr) (name : String)
  | item (e index : Expr)
  | slice (e : Expr) (from? to? step? : Option Expr)
  | call (f : Expr) (arguments : List Expr) (named : List (String × Expr))
  /-- An argument that stands for all of its items. -/
  | spread (e : Expr)
  | unary (sign : String) (e : Expr)
  | binary (sign : String) (a b : Expr)
  /-- A chain of comparisons. -/
  | compare (first : Expr) (others : List (String × Expr))
  | both (a b : Expr)
  | either (a b : Expr)
  | choice (condition yes no : Expr)
  /-- Pieces of text. -/
  | template (pieces : List Expr)
  /-- A value as a piece of text. -/
  | shown (e : Expr) (conversion : String) (format : String)
  /-- The value of an expression for each of the items of another. -/
  | each (value target source : Expr) (conditions : List Expr)
  /-- The fields that two expressions give for each of the items of another. -/
  | eachField (key value target source : Expr) (conditions : List Expr)
  /-- A function without a name. -/
  | function (parameters : List (String × Option Expr)) (value : Expr)

/-- A step, with its line where that may be told. -/
inductive Step where
  | value (line : Nat) (e : Expr)
  | assign (line : Nat) (targets : List Expr) (e : Expr)
  | update (line : Nat) (sign : String) (target e : Expr)
  /-- What is brought in, as module, part of it, and the name that it gets. -/
  | bring (line : Nat) (parts : List (String × Option String × String))
  | branch (condition : Expr) (yes no : List Step)
  | loop (condition : Expr) (body : List Step)
  | forEach (target source : Expr) (body : List Step)
  | pass
  /-- Names that stand for what they do outside of the function. -/
  | shared (names : List String)
  | remove (line : Nat) (targets : List Expr)
  | require (line : Nat) (condition : Expr) (message? : Option Expr)
  | leave
  | skip
  | fail (line : Nat) (e? : Option Expr)
  /-- Steps whose failures are handled by those of a kind. -/
  | attempt (body : List Step) (handlers : List (Option Expr × String × List Step))
      (otherwise atEnd : List Step)
  | define (name : String) (parameters : List (String × Option Expr)) (body : List Step)
  | result (e? : Option Expr)
  | withFile (line : Nat) (e : Expr) (target? : Option Expr) (body : List Step)

end ComponentReference.Recipe
