import Folio.Document
import Folio.Query
import Folio.Session.Versions
import Folio.Reply
import Folio.Typed.Shape

/-!
# Plans

A plan is a read that can be sent: a selection, and how its rows become an answer. Reading documents notes their
versions, row by row, so an answer that fails at one row has noted the versions of the rows before it.
-/

namespace Folio

open Folio.Sql (Aggregate)
open Folio.Statement (Command Projection Selection)
open Folio.Typed (Shape)

/-- A read of one table of documents. -/
structure Plan (α : Type) where
  mapping : Mapping
  selection : Selection
  /-- The answer in the rows, and the versions known after it. -/
  read : List Row → Versions → Outcome α × Versions

/-- The plan whose answer is made into another one. -/
def Plan.map {α β : Type} (p : Plan α) (f : α → Outcome β) : Plan β where
  mapping := p.mapping
  selection := p.selection
  read rows versions :=
    let (answer, versions) := p.read rows versions
    (answer.bind f, versions)

/-! ## Rows -/

/-- The JSON text in a row's first column. -/
def payload (row : Row) : Outcome String :=
  match (row.takeColumn 0).1 with
  | .text s => .ok s
  | other => fail (.result (.notPayload other.kindName))

/-- The document in a row and its version. -/
def readRow (m : Mapping) (row : Row) : Outcome (Document × Int64) := do
  let doc ← Document.read m.idKind (← payload row)
  return (doc, ← (row.takeColumn 1).1.whole)

/-- The documents in rows, their versions noted. -/
def readDocuments (m : Mapping) : List Row → Versions → Outcome (List Document) × Versions
  | [], versions => (.ok [], versions)
  | row :: rest, versions =>
    match readRow m row with
    | .error f => (.error f, versions)
    | .ok (doc, v) =>
      let (docs, versions) := readDocuments m rest (versions.set ⟨m.typeName, doc.id⟩ v)
      (docs.map (doc :: ·), versions)

/-- The first column of the first row; without a row, the missing value. -/
def firstValue (rows : List Row) : Value :=
  match rows with
  | row :: _ => (row.takeColumn 0).1
  | [] => .null

/-- The only document, if any. -/
def onlyDocument : List Document → Outcome (Option Document)
  | [] => .ok none
  | [doc] => .ok (some doc)
  | _ => fail .moreThanOneElement

/-- The document, where there must be one. -/
def needDocument : Option Document → Outcome Document
  | some doc => .ok doc
  | none => fail .noElements

/-- A number of rows. -/
def readCount (v : Value) : Outcome Nat := do
  let n ← v.whole
  if n < 0 then fail (.result (.negativeCount n.toInt)) else return n.toInt.toNat

/-- A value read in a shape, unless it is missing. -/
def loadIfThere (shape : Shape) (v : Value) : Outcome (Option Value) :=
  if v.isNull then .ok none else return some (← shape.load v)

namespace Plan

/-- The plan of a selection whose answer depends on its rows alone. -/
def ofRows {α : Type} (m : Mapping) (s : Selection) (read : List Row → Outcome α) : Plan α :=
  ⟨m, s, fun rows versions => (read rows, versions)⟩

/-- The plan of a selection of documents. -/
def ofDocuments (m : Mapping) (s : Selection) : Plan (List Document) :=
  ⟨m, s, readDocuments m⟩

end Plan

/-- The selection without an order that nobody sees. -/
def Statement.Selection.unorderedUnlessPaged (s : Selection) : Selection :=
  if s.isPaged then s else { s with order := [] }

/-- The selection of so many rows at most. -/
def Statement.Selection.atMost (s : Selection) (n : Nat) : Selection :=
  { s with limit := some (match s.limit with | some m => min m n | none => n) }

namespace Query

/-- All documents. -/
def list (q : Query) (s : Scope) : Outcome (Plan (List Document)) :=
  return .ofDocuments s.mapping (← q.toSelection s .documents)

/-- The documents, so many at most. -/
def atMost (q : Query) (n : Nat) (s : Scope) : Outcome (Plan (List Document)) := do
  let plan ← q.list s
  return { plan with selection := plan.selection.atMost n }

/-- The first document, if any. -/
def firstOrDefault (q : Query) (s : Scope) : Outcome (Plan (Option Document)) :=
  return (← q.atMost 1 s).map fun docs => .ok docs.head?

/-- The first document. -/
def first (q : Query) (s : Scope) : Outcome (Plan Document) :=
  return (← q.firstOrDefault s).map needDocument

/-- The only document, if any. -/
def singleOrDefault (q : Query) (s : Scope) : Outcome (Plan (Option Document)) :=
  return (← q.atMost 2 s).map onlyDocument

/-- The only document. -/
def single (q : Query) (s : Scope) : Outcome (Plan Document) :=
  return (← q.singleOrDefault s).map needDocument

/-- How many documents there are. -/
def count (q : Query) (s : Scope) : Outcome (Plan Nat) := do
  let selection ← q.toSelection s .count
  return .ofRows s.mapping selection.unorderedUnlessPaged fun rows => readCount (firstValue rows)

/-- Whether there are any documents. -/
def any (q : Query) (s : Scope) : Outcome (Plan Bool) := do
  let selection ← q.toSelection s .documents
  return .ofRows s.mapping { selection with existence := true } fun rows =>
    return (← (firstValue rows).whole) ≠ 0

/-- A member of all documents, computed into one value. -/
def aggregate (q : Query) (a : Aggregate) (m : Member) (s : Scope) : Outcome (Plan Value) := do
  let l ← s.compiler.locate m
  let selection ← q.toSelection s (.aggregate a l.typed)
  return .ofRows s.mapping selection.unorderedUnlessPaged fun rows => .ok (firstValue rows)

/-- The sum of a member; the shape's default if there is nothing to add. -/
def sum (q : Query) (m : Member) (shape : Shape) (s : Scope) : Outcome (Plan Value) :=
  return (← q.aggregate .sum m s).map fun v => if v.isNull then .ok shape.default else shape.load v

/-- The least value of a member, if any. -/
def min (q : Query) (m : Member) (shape : Shape) (s : Scope) : Outcome (Plan (Option Value)) :=
  return (← q.aggregate .min m s).map (loadIfThere shape)

/-- The greatest value of a member, if any. -/
def max (q : Query) (m : Member) (shape : Shape) (s : Scope) : Outcome (Plan (Option Value)) :=
  return (← q.aggregate .max m s).map (loadIfThere shape)

/-- The mean of a member, if it has any values. -/
def average (q : Query) (m : Member) (s : Scope) : Outcome (Plan (Option Value)) :=
  return (← q.aggregate .average m s).map (loadIfThere .float)

/-- A member of each document; each value once when `distinct`. Distinct values have no order but their own. -/
def select (q : Query) (m : Member) (shape : Shape) (distinct : Bool) (s : Scope) :
    Outcome (Plan (List Value)) := do
  let l ← s.compiler.locate m
  let selection ← q.toSelection s (.locator l.typed)
  let selection := { selection with distinct := selection.distinct || distinct }
  if selection.distinct && selection.order.any (·.1 ≠ l.typed) then fail (.feature .distinctOrder)
  else
    return .ofRows s.mapping selection fun rows =>
      rows.mapM fun row => shape.load (row.takeColumn 0).1

/-- The command that reads all documents. -/
def toCommand (q : Query) (s : Scope) : Outcome Command :=
  return .ofStatement s.schema.dialect (.select (← q.list s).selection)

end Query

end Folio
