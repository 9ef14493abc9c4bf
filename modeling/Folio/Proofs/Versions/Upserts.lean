import Folio.Proofs.Predicate.Preserved
import Folio.Proofs.Versions.Checked

/-!
# Folio.Proofs.Versions.Upserts

An upsert is a `MERGE` for SQL Server and an `INSERT ... ON CONFLICT` for SQLite. They place the key, the
expected version and the parameters differently, and come to the same (`Upsert.dialects_agree`), which is
one of four things (`Upserts`): the document is added, its row is written once more, its row is at another
version and left alone, or it is at the last version that there is and the statement is refused.
-/

namespace Folio

open Folio.Relational
open Folio.Sql (Dialect InsertOrUpdate Merge TableName)
open Folio.Statement (Command Upsert)
open Folio.Time (Timestamp)

section

variable {id : DocumentId} {data type a : String} {now : Timestamp} {expected : Option Int64}
  {revive : Bool} {rows : Table}

namespace Relational

variable (id data type a now expected revive) in
/-- What an upsert of the document makes of the rows. -/
inductive Upserts (rows : Table) : Changed → Prop
  /-- There is no row of the key, and one is added: at version 1, and not deleted. -/
  | added (missing : ∀ r ∈ rows, r.key ≠ (a, id)) :
    Upserts rows (.ok (1, ⟨id, data, 1, now, type, a, false, none⟩ ::ₘ rows))
  /-- The row of the key is written once more, as it is at the expected version. Its deletion is taken
  back if it is to be revived, and else it stays as it is. -/
  | updated {r : Record} {rest : Table} (there : rows = r ::ₘ rest) (key : r.key = (a, id))
      (current : ∀ v ∈ expected, v = r.version) (room : r.version < Int64.maxValue) :
    Upserts rows (.ok (1,
      { r with
        data
        version := r.version + 1
        modified := now
        type
        deleted := if revive then false else r.deleted
        deletedAt := if revive then none else r.deletedAt } ::ₘ rest))
  /-- The row of the key is at another version. -/
  | moved {r : Record} {v : Int64} (there : r ∈ rows) (key : r.key = (a, id)) (expects : expected = some v)
      (stale : v ≠ r.version) :
    Upserts rows (.ok (0, rows))
  /-- The row of the key has no next version. -/
  | exhausted {r : Record} (there : r ∈ rows) (key : r.key = (a, id))
      (current : ∀ v ∈ expected, v = r.version) (last : ¬r.version < Int64.maxValue) :
    Upserts rows (.error .constraint)

/-- If a row matches that cannot be rewritten, none is. -/
theorem rewrite_error {matched : Record → Bool} {f : Record → Option Record} {r : Record}
    (mem : r ∈ rows) (taken : matched r = true) (stuck : f r = none) :
    rewrite matched f rows = .error .constraint := by
  refine if_neg fun possible => ?_
  have := possible r mem taken
  rw [stuck] at this
  cases this

/-- The row of a key is met at most once. -/
theorem upserts_upserted (keyed : (versionsAt rows).Keyed) :
    Upserts id data type a now expected revive rows
      (Library.upserted (a, id) expected (Library.freshRow id data type a now)
        (·.rewritten data type now revive) rows) := by
  by_cases missing : ∀ r ∈ rows, r.key ≠ (a, id)
  · rw [Library.upserted, if_pos (Multiset.filter_eq_nil.mpr missing)]
    exact .added missing
  push Not at missing
  obtain ⟨r, mem, key⟩ := missing
  obtain ⟨rest, there⟩ := Multiset.exists_cons_of_mem mem
  have others : ∀ s ∈ rest, s.key ≠ (a, id) := key ▸ key_ne_of_mem keyed there
  have unmatched : ∀ s ∈ rest, s.isAt (a, id) expected = false := by
    intro s its
    rw [Bool.eq_false_iff, ne_eq, Record.isAt_iff]
    exact fun isAt => others s its isAt.1
  have taken : rows.filter (·.key = (a, id)) ≠ 0 :=
    fun none => Multiset.filter_eq_nil.mp none r mem key
  rw [Library.upserted, if_neg taken]
  by_cases current : ∀ v, expected = some v → v = r.version
  · have isAt : r.isAt (a, id) expected = true := Record.isAt_iff.mpr ⟨key, current⟩
    by_cases room : r.version < Int64.maxValue
    · rw [there, rewrite_one isAt unmatched (if_pos room), ← there]
      exact .updated there key current room
    · rw [rewrite_error mem isAt (if_neg room)]
      exact .exhausted mem key current room
  · push Not at current
    obtain ⟨v, expects, stale⟩ := current
    have missed : r.isAt (a, id) expected = false := by
      rw [Bool.eq_false_iff, ne_eq, Record.isAt_iff]
      exact fun isAt => stale (isAt.2 v expects)
    rw [rewrite_of_none (there ▸ Multiset.forall_mem_cons.mpr ⟨missed, unmatched⟩)]
    exact .moved mem key expects stale

end Relational

end

/-! ### An order that is stored again -/

namespace Orders

/-- The order of tenant `a`, stored again as an empty document where version 1 is expected. -/
def storedAgain : Upsert :=
  ⟨mapping.table, ⟨.int32 7, "\x7b\x7d", "order", "a", .epoch⟩, some 1, true⟩

end Orders

end Folio
