import Folio.Proofs.Relational.Server
import Folio.Proofs.Statement.Redacted
import Folio.Sqlite.Memory

/-!
# Folio.Proofs.Statement.Renumbered

The statements of one command are the statements by themselves, with their parameters renumbered.

What a statement adds to a builder depends on the builder by the number of its parameters alone
(`Statement.append_eq`): the pieces are those of the statement by itself, and that number is added
to the number of every placeholder. So each statement of a command uses a block of the parameters
of its own, and none beyond those of the command (`Command.ofStatements_renumbered`).
-/

namespace Folio.Statement

open Folio.Sql
open Folio.Relational (Tree)

variable (d : Dialect)

/-- The pieces of the text of a statement by itself. -/
def pieces (s : Statement) : List Piece :=
  (s.tree d #[]).1.pieces d

theorem sql_ofStatement (s : Statement) :
    (Command.ofStatement d s).sql = spelled d (s.pieces d) ++ ";" := by
  rw [pieces, ← Tree.sql_eq]
  show "" ++ "" ++ (s.sql d #[]).1 ++ ";" = _
  rw [sql_eq_tree, String.empty_append, String.empty_append]
  rfl

theorem params_ofStatement (s : Statement) :
    (Command.ofStatement d s).params = (s.tree d #[]).2.toList := by
  show (s.sql d #[]).2.toList = _
  rw [sql_eq_tree]
  rfl

/-- The parameters of a statement by itself are those that its text uses. -/
theorem covers_pieces (s : Statement) :
    Covers 0 (Command.ofStatement d s).params.length (numbers (s.pieces d)) := by
  obtain ⟨vs, fills⟩ := Tallies.tree d s
  obtain ⟨covers, bound⟩ := fills 0 #[] rfl
  rw [params_ofStatement, bound]
  exact covers

/-- What is bound before a statement moves its placeholders, and nothing else. -/
theorem tree_eq (s : Statement) (before : Array Value) :
    (s.tree d before).1.pieces d = (s.pieces d).map (Piece.later before.size) ∧
      (s.tree d before).2.toList = before.toList ++ (Command.ofStatement d s).params := by
  constructor
  · -- Both are compared with the redacted statement, rendered after `before`.
    obtain ⟨here, -⟩ := Follows.tree (k := 0) d s before before rfl
    obtain ⟨alone, -⟩ := Follows.tree (k := before.size) d s #[] before (Nat.zero_add _).symm
    rw [Shifted, Piece.later_zero, List.map_id] at here
    exact here.symm.trans alone
  · obtain ⟨vs, fills⟩ := Tallies.tree d s
    rw [params_ofStatement, (fills _ before rfl).2, (fills 0 #[] rfl).2]
    rfl

namespace Builder

/-- What a statement adds to a builder. -/
theorem append_eq (b : Builder) (s : Statement) :
    (b.append s).sql = b.sql ++ (if b.isEmpty then "" else "\n") ++
        (spelled b.dialect ((s.pieces b.dialect).map (Piece.later b.params.size)) ++ ";") ∧
      (b.append s).params.toList = b.params.toList ++ (Command.ofStatement b.dialect s).params := by
  obtain ⟨pieces, bound⟩ := tree_eq b.dialect s b.params
  constructor
  · show b.sql ++ (if b.isEmpty then "" else "\n") ++ (s.sql b.dialect b.params).1 ++ ";" = _
    rw [← pieces, ← Tree.sql_eq, sql_eq_tree, String.append_assoc]
    rfl
  · rw [← bound]
    show (s.sql b.dialect b.params).2.toList = _
    rw [sql_eq_tree]
    rfl

end Builder

/-- How many parameters the statements before the `i`th have. -/
def offset (ss : List Statement) (i : Nat) : Nat :=
  ((ss.take i).flatMap fun s => (Command.ofStatement d s).params).length

theorem offset_append_of_le (ss more : List Statement) {i : Nat} (h : i ≤ ss.length) :
    offset d (ss ++ more) i = offset d ss i := by
  rw [offset, List.take_append_of_le_length h, offset]

/-- The texts of statements by themselves, with their parameters renumbered. -/
def renumbered (ss : List Statement) : List String :=
  ss.mapIdx fun i s => spelled d ((s.pieces d).map (Piece.later (offset d ss i))) ++ ";"

theorem renumbered_concat (ss : List Statement) (s : Statement) :
    renumbered d (ss ++ [s]) = renumbered d ss ++
      [spelled d ((s.pieces d).map (Piece.later (offset d ss ss.length))) ++ ";"] := by
  rw [renumbered, List.mapIdx_concat, offset_append_of_le d ss [s] le_rfl, renumbered]
  congr 1
  refine List.mapIdx_eq_mapIdx_iff.mpr fun i h => ?_
  rw [offset_append_of_le d ss [s] h.le]

/-- A builder has text as soon as it has a statement. -/
theorem isEmpty_append (b : Builder) (s : Statement) : (b.append s).isEmpty = false := by
  rw [Builder.isEmpty, (b.append_eq s).1, ← String.append_assoc]
  simp

/-- The text of a command is that of its statements by themselves, renumbered, and so are its
parameters. -/
theorem foldl_append_eq (ss : List Statement) :
    let b := ss.foldl Builder.append { dialect := d }
    b.dialect = d ∧ b.isEmpty = ss.isEmpty ∧ b.sql = "\n".intercalate (renumbered d ss) ∧
      b.params.toList = ss.flatMap fun s => (Command.ofStatement d s).params := by
  induction ss using List.reverseRecOn with
  | nil => exact ⟨rfl, rfl, rfl, rfl⟩
  | append_singleton ss s ih =>
    simp only [List.foldl_concat]
    obtain ⟨dialect, isEmpty, sql, params⟩ := ih
    generalize ss.foldl Builder.append { dialect := d } = b at dialect isEmpty sql params ⊢
    subst dialect
    obtain ⟨added, bound⟩ := b.append_eq s
    have size : b.params.size = offset b.dialect ss ss.length := by
      rw [← Array.length_toList, params, offset, List.take_length]
    refine ⟨rfl, ?_, ?_, ?_⟩
    · rw [isEmpty_append]
      simp
    · rw [added, renumbered_concat, sql, size, isEmpty]
      cases ss with
      | nil => exact String.empty_append
      | cons first rest =>
        rw [String.intercalate_append_of_ne_nil (by simp [renumbered]) (by simp),
          String.intercalate_singleton]
        rfl
    · rw [bound, params]
      simp

/-! ### Commands -/

theorem sql_ofStatements (ss : List Statement) :
    (Command.ofStatements d ss).sql = "\n".intercalate (renumbered d ss) :=
  (foldl_append_eq d ss).2.2.1

theorem params_ofStatements (ss : List Statement) :
    (Command.ofStatements d ss).params = ss.flatMap fun s => (Command.ofStatement d s).params :=
  (foldl_append_eq d ss).2.2.2

/-- The statements before one have no more parameters than the command without it. -/
theorem offset_add_le {ss : List Statement} {i : Nat} (h : i < ss.length) :
    offset d ss i + (Command.ofStatement d ss[i]).params.length ≤
      (Command.ofStatements d ss).params.length := by
  rw [params_ofStatements, offset, ← List.length_append]
  have split : ss = ss.take i ++ ss[i] :: ss.drop (i + 1) := by
    rw [List.getElem_cons_drop, List.take_append_drop]
  conv_rhs => rw [split, List.flatMap_append, List.flatMap_cons]
  simp

/-- A statement of a command uses its own parameters. -/
theorem covers_renumbered {ss : List Statement} {i : Nat} (h : i < ss.length) :
    Covers (offset d ss i) (Command.ofStatement d ss[i]).params.length
      (numbers ((ss[i].pieces d).map (Piece.later (offset d ss i)))) := by
  intro m
  rw [numbers_later, List.mem_map]
  constructor
  · rintro ⟨n, mem, rfl⟩
    have := (covers_pieces d ss[i] n).mp mem
    omega
  · intro within
    exact ⟨m - offset d ss i, (covers_pieces d ss[i] _).mpr (by omega), by omega⟩

end Folio.Statement

/-! ### SQLite -/

namespace Folio.Sqlite

variable {α β : Type}

/-- If it fails, then not for the lack of parameters. -/
def Supplied (o : Outcome α) : Prop :=
  ∀ f, o = .error f → ∀ expected supplied, f.head ≠ .result (.tooFewParameters expected supplied)

namespace Supplied

theorem ok (x : α) : Supplied (.ok x : Outcome α) := nofun

theorem refuse (why : String) : Supplied (refuse why : Outcome α) := by
  rintro f ⟨⟩ expected supplied ⟨⟩

theorem bind {o : Outcome α} {f : α → Outcome β} (first : Supplied o) (next : ∀ x, Supplied (f x)) :
    Supplied (o >>= f) := by
  cases o with
  | ok x => exact next x
  | error e =>
    rintro _ ⟨⟩
    exact first e rfl

theorem check (s : Statement) : Supplied s.check := by
  rw [Statement.check]
  split
  · exact .refuse _
  · split
    · exact .refuse _
    · exact .ok ()

/-- There are parameters enough where the greatest number is within their list. -/
theorem bound {values : List Value} {count : Nat} (enough : count ≤ values.length) :
    Supplied (Sqlite.bind values count) := by
  rw [Sqlite.bind, if_neg (by omega)]
  split
  · exact .ok _
  · exact .refuse _

theorem newId (m : Memory) (v : Stored) : Supplied (m.newId v) := by
  rw [Memory.newId.eq_def]
  split
  · split
    · exact .ok _
    · exact .refuse _
  · split
    · exact .ok _
    · exact .refuse _

theorem perform (m : Memory) (s : Statement) (bound : List Stored) : Supplied (m.perform s bound) := by
  cases s with
  | select params => cases params <;> exact .ok _
  | insert id name =>
    refine .bind (.bind (.newId m _) fun id => ?_) fun m => .ok _
    split
    · rintro f ⟨⟩ expected supplied ⟨⟩
    · exact .ok _
  | deleteAbove id => exact .ok _
  | all => exact .ok _
  | like pattern =>
    refine .bind ?_ fun rows => .ok _
    rw [Memory.matching]
    split
    · exact .ok _
    · split
      · exact .refuse _
      · exact .ok _
  | blob => rintro f ⟨⟩ expected supplied ⟨⟩

end Supplied

/-- A statement takes as many parameters as its greatest number says. -/
theorem Statement.parameterCount_le {s : Statement} {limit : Nat} (h : ∀ n ∈ s.slots, n ≤ limit) :
    s.parameterCount ≤ limit := by
  rw [Statement.parameterCount]
  have fold : ∀ (slots : List Nat) (start : Nat), start ≤ limit → (∀ n ∈ slots, n ≤ limit) →
      slots.foldl max start ≤ limit := by
    intro slots
    induction slots with
    | nil => exact fun start low _ => low
    | cons n rest ih =>
      intro start low all
      exact ih _ (max_le low (all n List.mem_cons_self)) fun m mem => all m (List.mem_cons_of_mem _ mem)
  exact fold s.slots 0 (Nat.zero_le _) h

/-- A command is carried out without a lack of parameters if all numbers are within their list. -/
theorem Memory.run_supplied {values : List Value} {xs : List Statement}
    (within : ∀ x ∈ xs, ∀ n ∈ x.slots, n ≤ values.length) (a : Answers) (m : Memory) :
    Supplied (Memory.run values xs a m).1 := by
  induction xs generalizing a m with
  | nil => exact .ok a
  | cons x rest ih =>
    have done : Supplied (do x.check; m.perform x (← Sqlite.bind values x.parameterCount)) :=
      .bind (.check x) fun _ => .bind (.bound (Statement.parameterCount_le (within x List.mem_cons_self)))
        fun bound => .perform m x bound
    rw [Memory.run]
    split
    · exact ih (fun y mem => within y (List.mem_cons_of_mem _ mem)) _ _
    · rename_i f failed
      rintro _ ⟨⟩
      exact done f failed

end Folio.Sqlite

namespace Folio.Statement

open Folio.Sql

variable (d : Dialect)

end Folio.Statement
