import Folio.Statement.Write

/-!
# Commands

A command is the text of statements and the values of its parameters. Statements follow one another on lines of
their own, each ended by a semicolon, and share one sequence of parameters.
-/

namespace Folio

/-- A statement about one table of documents. -/
inductive Statement
  | select (s : Statement.Selection)
  | insert (x : Statement.Insert)
  | update (x : Statement.Update)
  | upsert (x : Statement.Upsert)
  | delete (x : Statement.Delete)
  | deleteWhere (x : Statement.DeleteWhere)
  | undeleteWhere (x : Statement.UndeleteWhere)
  | createTable (x : Statement.CreateTable)
  deriving Repr

namespace Statement

open Folio.Sql (Dialect)

/-- Does the statement answer rows? -/
def returnsRows : Statement → Bool
  | .select _ => true
  | _ => false

/-- The text of a statement, its values bound. -/
def sql (d : Dialect) : Statement → Binding String
  | .select s => return (← s.toQuery d).sql d
  | .insert x => return (← x.toChange).sql d
  | .update x => return (← x.toChange).sql d
  | .upsert x => return (← x.toChange d).sql d
  | .delete x => return (← x.toChange).sql d
  | .deleteWhere x => return (← x.toChange d).sql d
  | .undeleteWhere x => return (← x.toChange d).sql d
  | .createTable x => return (Sql.Change.createTable x.definition).sql d

/-- A parameter of a command. -/
structure Parameter where
  name : String
  value : Value
  deriving Repr

/-- The text of statements and the values of its parameters, in the order of their numbers. -/
structure Command where
  sql : String
  params : List Value
  deriving Repr

/-- A command that is being put together. -/
structure Builder where
  dialect : Dialect
  sql : String := ""
  params : Array Value := #[]
  deriving Repr

namespace Builder

/-- Is there no text yet? -/
def isEmpty (b : Builder) : Bool :=
  b.sql.isEmpty

/-- Adds a complete statement. -/
def append (b : Builder) (s : Statement) : Builder :=
  let (text, params) := s.sql b.dialect b.params
  { b with sql := b.sql ++ (if b.isEmpty then "" else "\n") ++ text ++ ";", params }

/-- Adds a predicate by itself. -/
def appendFragment (b : Builder) (f : Fragment) : Builder :=
  let (condition, params) := f.toCondition b.dialect b.params
  { b with sql := b.sql ++ condition.sql b.dialect, params }

/-- Adds a value without text, and names its parameter. -/
def addParam (b : Builder) (v : Value) : String × Builder :=
  (b.dialect.placeholder (b.params.size + 1), { b with params := b.params.push v })

/-- The finished command. -/
def build (b : Builder) : Command :=
  ⟨b.sql, b.params.toList⟩

end Builder

/-- The parameters with their names in the text. -/
def Command.parameters (d : Dialect) (c : Command) : List Parameter :=
  c.params.zipIdx.map fun (v, i) => ⟨d.placeholder (i + 1), v⟩

/-- A command of one statement. -/
def Command.ofStatement (d : Dialect) (s : Statement) : Command :=
  (Builder.append { dialect := d } s).build

end Statement

end Folio
