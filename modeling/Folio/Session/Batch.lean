import Folio.Session.Read

/-!
# Batches

The plans of a batch are sent as one command, which is answered by one set of rows for each. The answers are read
in order; one that cannot be read takes nothing from the others. If the command itself fails, every plan of the
batch fails with it.
-/

namespace Folio

open Folio.Database
open Folio.Statement (Builder Command)

/-- Reads that are sent together. -/
structure Batch (α : Type) where
  plans : List (Plan α) := []

/-- How a batch ended: the outcome of the whole, the outcome of each plan, and what it left behind. -/
structure BatchEnded (σ α : Type) where
  result : Except Halt Unit
  answers : List (Outcome α)
  session : Session
  world : World σ

namespace Batch

variable {σ α : Type}

/-- How many plans there are. -/
def size (b : Batch α) : Nat :=
  b.plans.length

/-- Adds a plan. -/
def push (b : Batch α) (p : Plan α) : Batch α :=
  { b with plans := b.plans ++ [p] }

/-- The command that all plans are sent as. -/
def command (b : Batch α) (schema : Schema) : Command :=
  (b.plans.foldl (fun builder p => builder.append p.statement) { dialect := schema.dialect : Builder }).build

/-- Reads one answer after another. -/
def readSets : List (Plan α) → Cursor → Versions → List (Outcome α) × Versions
  | [], _, versions => ([], versions)
  | p :: rest, cursor, versions =>
    let (set, cursor) := cursor.takeCurrent
    let (answer, versions) := p.readSet set versions
    let (answers, versions) := readSets rest cursor.next.2 versions
    (answer :: answers, versions)

/-- Sends the batch and reads its answers. -/
def execute (b : Batch α) (store : Store σ) (s : Session) (w : World σ) : BatchEnded σ α :=
  if b.plans.isEmpty then ⟨.ok (), [], s, w⟩
  else
    match store.fetch (b.plans.map (·.mapping)) (b.command store.schema) w with
    | (.error (.failed f), w) => ⟨.error (.failed f), b.plans.map fun _ => .error f, s, w⟩
    | (.error .stalled, w) => ⟨.error .stalled, [], s, w⟩
    | (.ok cursor, w) =>
      let (answers, versions) := readSets b.plans cursor s.versions
      ⟨.ok (), answers, { s with versions }, w⟩

/-- The answers of a batch that is never sent. -/
def abandoned (b : Batch α) : List (Outcome α) :=
  b.plans.map fun _ => fail (.message "batch was dropped before it executed")

end Batch

end Folio
