import Folio.Failure

/-!
# Replies of a database

A command is answered by the number of rows it changed or by the rows of each of its statements. The rows are
read set by set, in the order of the statements.
-/

namespace Folio

/-- Takes a column out of a row; what is left in its place is missing. -/
def Row.takeColumn (row : Row) (i : Nat) : Value × Row :=
  ((row[i]?).getD .null, row.set i .null)

/-- A reader of result sets, standing on one of them. -/
structure Cursor where
  /-- The set the reader stands on, unless it is taken or there is none. -/
  current : Option (List Row)
  remaining : List (List Row)
  deriving Repr

namespace Cursor

/-- A reader on the first of the sets. -/
def ofList (sets : List (List Row)) : Cursor :=
  ⟨sets.head?, sets.tail⟩

/-- Takes the set the reader stands on. -/
def takeCurrent (c : Cursor) : Outcome (List Row) × Cursor :=
  match c.current with
  | some rows => (.ok rows, { c with current := none })
  | none => (fail (.result .noCurrentSet), c)

/-- Goes on to the next set, and tells whether there is one. -/
def next (c : Cursor) : Bool × Cursor :=
  (c.remaining.head?.isSome, ⟨c.remaining.head?, c.remaining.tail⟩)

/-- How many sets are still to be read, the current one included. -/
def size (c : Cursor) : Nat :=
  c.remaining.length + if c.current.isSome then 1 else 0

/-- Is no set left to be read? -/
def isEmpty (c : Cursor) : Bool :=
  c.size == 0

end Cursor

/-- What a database answers to a command. -/
inductive Reply
  | count (n : Nat)
  | sets (c : Cursor)
  deriving Repr

namespace Reply

/-- Is it a number of rows? -/
def isCount : Reply → Bool
  | .count _ => true
  | .sets _ => false

/-- The number of rows, where one is expected. -/
def toCount : Reply → Outcome Nat
  | .count n => .ok n
  | .sets _ => fail (.result .setsForCount)

/-- The result sets, where they are expected. -/
def toSets : Reply → Outcome Cursor
  | .sets c => .ok c
  | .count _ => fail (.result .countForSets)

end Reply

end Folio
