import Folio.Failure
import Folio.Sqlite.Like
import Folio.Sqlite.Stored

/-!
# A database in memory

A SQLite database with one table of numbered names. The statements of a command are carried out one after the
other; they share the command's parameters, of which each takes as many from the start as its greatest number
says. A statement that fails leaves no trace, but those before it stay done.
-/

namespace Folio.Sqlite

open Folio.Sqlite.Stored

/-- A name and its number. -/
structure Entry where
  id : Int64
  name : Option String
  deriving Repr, DecidableEq

/-- The database. -/
structure Memory where
  /-- The table, in the order of the numbers. -/
  entries : List Entry := []
  /-- Within a transaction, the table at its start. -/
  before : Option (List Entry) := none
  deriving Repr, DecidableEq

/-- A statement, its parameters given by their numbers. -/
inductive Statement
  /-- Answers these parameters; without any, the number 7. -/
  | select (params : List Nat)
  /-- Adds an entry. -/
  | insert (id name : Nat)
  /-- Deletes the entries whose number is greater. -/
  | deleteAbove (id : Nat)
  /-- Answers the entries. -/
  | all
  /-- Answers the numbers of the entries whose name matches the pattern. -/
  | like (pattern : Nat)
  /-- Answers bytes. -/
  | blob
  deriving Repr, DecidableEq

/-- A step of a transaction. -/
inductive Step
  | start
  | commit
  | rollback
  deriving Repr, DecidableEq

/-- What a statement answers: rows, or how many it changed. -/
inductive Effect
  | rows (rows : List Row)
  | changed (n : Nat)
  deriving Repr

/-- Fails as the database does. -/
def refuse {α : Type} (why : String) : Outcome α :=
  fail (.database why [])

namespace Statement

/-- The numbers of the parameters. -/
def slots : Statement → List Nat
  | .select params => params
  | .insert id name => [id, name]
  | .deleteAbove id => [id]
  | .like pattern => [pattern]
  | .all | .blob => []

/-- How many parameters the statement takes. -/
def parameterCount (s : Statement) : Nat :=
  s.slots.foldl max 0

/-- The greatest number that a parameter can have. -/
def greatestSlot : Nat := 32766

/-- The greatest number of columns of an answer. -/
def greatestWidth : Nat := 2000

/-- Rejects a statement that is none. -/
def check (s : Statement) : Outcome Unit :=
  if s.slots.any fun n => n = 0 || greatestSlot < n then
    refuse "variable number must be between ?1 and ?32766"
  else if greatestWidth < s.slots.length then refuse "too many columns in result set"
  else .ok ()

end Statement

/-- The forms in which the first values are bound. -/
def bind (values : List Value) (count : Nat) : Outcome (List Stored) :=
  if values.length < count then fail (.result (.tooFewParameters count values.length))
  else
    match (values.take count).mapM ofValue with
    | some bound => .ok bound
    | none => refuse "a list cannot be bound"

/-- The bound parameter of that number. -/
def slot (bound : List Stored) (n : Nat) : Stored :=
  (bound[n - 1]?).getD .null

namespace Memory

/-- Is there an entry of that number? -/
def holds (m : Memory) (id : Int64) : Bool :=
  m.entries.any (·.id = id)

/-- Numbers far from those in use: from the middle of the positive ones downwards, one more than there are
entries. -/
def spareIds (m : Memory) : List Int64 :=
  (List.range (m.entries.length + 1)).map fun n => Int64.ofNat (2 ^ 62 - n)

/-- The number of a new entry that is given none: one more than the greatest, and if that is the greatest of all,
any free one. -/
def nextId (m : Memory) : Option Int64 :=
  match m.entries.getLast? with
  | none => some 1
  | some e => if e.id < Int64.maxValue then some (e.id + 1) else m.spareIds.find? (!m.holds ·)

/-- The number of a new entry. -/
def newId (m : Memory) : Stored → Outcome Int64
  | .null =>
    match m.nextId with
    | some n => .ok n
    | none => refuse "database or disk is full"
  | v =>
    match v.key? with
    | some n => .ok n
    | none => refuse "datatype mismatch"

/-- Puts an entry where its number belongs. -/
def place (e : Entry) : List Entry → List Entry
  | [] => [e]
  | f :: rest => if e.id < f.id then e :: f :: rest else f :: place e rest

/-- Adds an entry. -/
def insert (m : Memory) (id name : Stored) : Outcome Memory := do
  let id ← m.newId id
  if m.holds id then fail (.duplicateKey "UNIQUE constraint failed: t.id")
  else return { m with entries := place ⟨id, name.text?⟩ m.entries }

/-- The entry as a row. -/
def row (e : Entry) : Row :=
  [.int64 e.id, (e.name.map .text).getD .null]

/-- The greatest length of a pattern, in bytes. -/
def greatestPattern : Nat := 50000

/-- The numbers of the entries whose name matches. -/
def matching (m : Memory) (pattern : Stored) : Outcome (List Row) :=
  match pattern.text? with
  | none => .ok []
  | some p =>
    if greatestPattern < p.utf8ByteSize && !m.entries.isEmpty then refuse "LIKE or GLOB pattern too complex"
    else
      let fits (e : Entry) : Bool := e.name.any fun s => likes (terminated p) (terminated s)
      .ok ((m.entries.filter fits).map fun e => [.int64 e.id])

/-- Carries out a statement. -/
def perform (m : Memory) (s : Statement) (bound : List Stored) : Outcome (Effect × Memory) :=
  match s with
  | .select [] => .ok (.rows [[.int64 7]], m)
  | .select params => .ok (.rows [params.map fun n => (slot bound n).toValue], m)
  | .insert id name => do return (.changed 1, ← m.insert (slot bound id) (slot bound name))
  | .deleteAbove id =>
    let (gone, left) := m.entries.partition fun e => exceeds e.id (slot bound id)
    .ok (.changed gone.length, { m with entries := left })
  | .all => .ok (.rows (m.entries.map row), m)
  | .like pattern => do return (.rows (← m.matching (slot bound pattern)), m)
  | .blob => fail (.result .blob)

/-- The answers of a command: the rows of each statement that has any, and how many rows were changed. -/
structure Answers where
  sets : List (List Row) := []
  changed : Nat := 0
  deriving Repr

/-- Counts an effect in. -/
def Answers.add (a : Answers) : Effect → Answers
  | .rows rows => { a with sets := a.sets ++ [rows] }
  | .changed n => { a with changed := a.changed + n }

/-- Carries out the statements of a command up to the first that fails. -/
def run (values : List Value) : List Statement → Answers → Memory → Outcome Answers × Memory
  | [], a, m => (.ok a, m)
  | s :: rest, a, m =>
    let done := do
      s.check
      m.perform s (← bind values s.parameterCount)
    match done with
    | .ok (effect, m) => run values rest (a.add effect) m
    | .error f => (.error f, m)

/-- Takes a step of a transaction. -/
def step (m : Memory) : Step → Outcome Memory
  | .start =>
    match m.before with
    | none => .ok { m with before := some m.entries }
    | some _ => refuse "cannot start a transaction within a transaction"
  | .commit =>
    match m.before with
    | some _ => .ok { m with before := none }
    | none => refuse "cannot commit - no transaction is active"
  | .rollback =>
    match m.before with
    | some entries => .ok ⟨entries, none⟩
    | none => refuse "cannot rollback - no transaction is active"

end Memory

end Folio.Sqlite
