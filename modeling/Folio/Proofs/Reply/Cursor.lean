import Mathlib.Data.List.Basic
import Mathlib.Data.List.Induction
import Folio.Reply

/-!
# Folio.Proofs.Reply.Cursor

Result sets as a reader gives them.

A reader is asked for the set it stands on, or to go on to the next one, in any order and as often as one likes.
What it holds does not tell where it stands: a reader whose last set is taken is that of a reader behind the last
set. So the place is kept beside it, as the number of the moves on (`Cursor.place`), and `Cursor.StandsAt` says
what a reader at a place has in hand. Each move keeps that (`StandsAt.take`, `StandsAt.next`), and all that a
reader shows after any moves follows (`Cursor.shows_place`).

That no set is given twice or out of order is told by what a reader has left to give (`Cursor.left`): what a move
gives is in front of what is left afterwards (`gives_append_left`).
-/

namespace Folio.Cursor

variable {c : Cursor} {sets : List (List Row)} {k : Nat} {taken : Prop}

/-! ### Moves -/

/-- What a reader is asked to do. -/
inductive Move
  /-- To give the set it stands on. -/
  | take
  /-- To go on to the next set. -/
  | next
  deriving Repr, DecidableEq

/-- The reader after the move. -/
def move (c : Cursor) : Move → Cursor
  | .take => c.takeCurrent.2
  | .next => c.next.2

/-- The reader after the moves. -/
def after (c : Cursor) (moves : List Move) : Cursor :=
  moves.foldl move c

/-- The set that the move gives, if it gives one. -/
def gives (c : Cursor) : Move → List (List Row)
  | .take => c.takeCurrent.1.toOption.toList
  | .next => []

/-- The sets that the moves give, one after the other. -/
def given (c : Cursor) : List Move → List (List Row)
  | [] => []
  | m :: moves => c.gives m ++ (c.move m).given moves

/-- The place of a reader of `n` sets after the moves, counted from 0. At place `n` it is behind the last set. -/
def place (n : Nat) (moves : List Move) : Nat :=
  min (moves.count .next) n

/-- The set at the reader's place has been asked for: there was no move on since. -/
def Taken (moves : List Move) : Prop :=
  ∃ front back, moves = front ++ .take :: back ∧ .next ∉ back

theorem after_concat (c : Cursor) (moves : List Move) (m : Move) :
    c.after (moves ++ [m]) = (c.after moves).move m :=
  List.foldl_concat ..

theorem taken_iff {moves : List Move} : Taken moves ↔ moves.getLast? = some .take := by
  constructor
  · rintro ⟨front, back, rfl, still⟩
    rw [List.getLast?_append_cons]
    -- without moves on, takes are all that follows
    rcases List.eq_nil_or_concat' back with rfl | ⟨back, m, rfl⟩
    · rfl
    · cases m with
      | take => rw [← List.cons_append, List.getLast?_concat]
      | next => exact absurd (List.mem_append_right _ (List.mem_singleton_self _)) still
  · intro last
    obtain ⟨front, rfl⟩ := List.getLast?_eq_some_iff.mp last
    exact ⟨front, [], rfl, List.not_mem_nil⟩

instance (moves : List Move) : Decidable (Taken moves) :=
  decidable_of_iff _ taken_iff.symm

theorem taken_concat {moves : List Move} {m : Move} : Taken (moves ++ [m]) ↔ m = .take := by
  rw [taken_iff, List.getLast?_concat, Option.some.injEq]

/-- A move on goes one place further, but not beyond the end. -/
theorem place_concat_next (n : Nat) (moves : List Move) :
    place n (moves ++ [.next]) = min (place n moves + 1) n := by
  rw [place, place, List.count_append, List.count_singleton_self]
  omega

theorem place_concat_take (n : Nat) (moves : List Move) :
    place n (moves ++ [.take]) = place n moves := by
  rw [place, place, List.count_append, List.count_singleton, if_neg (by decide), Nat.add_zero]

theorem place_le (n : Nat) (moves : List Move) : place n moves ≤ n :=
  Nat.min_le_right ..

/-! ### What a reader has in hand -/

/-- The reader stands at place `k` of the sets, and the set there is taken or not. -/
structure StandsAt (c : Cursor) (sets : List (List Row)) (k : Nat) (taken : Prop) : Prop where
  current : ∀ rows, c.current = some rows ↔ ¬taken ∧ sets[k]? = some rows
  remaining : c.remaining = sets.drop (k + 1)

theorem takeCurrent_eq_ok {rows : List Row} : c.takeCurrent.1 = .ok rows ↔ c.current = some rows := by
  rw [takeCurrent]
  cases c.current with
  | none => exact iff_of_false nofun nofun
  | some here =>
    constructor
    · intro same
      rw [Except.ok.inj same]
    · intro same
      rw [Option.some.inj same]

/-- Nothing is given just if there is nothing to be had. -/
theorem takeCurrent_eq_fail : c.takeCurrent.1 = fail (.result .noCurrentSet) ↔ c.current = none := by
  rw [takeCurrent]
  cases c.current with
  | none => exact iff_of_true rfl rfl
  | some here => exact iff_of_false nofun nofun

theorem standsAt_ofList (sets : List (List Row)) : (ofList sets).StandsAt sets 0 False where
  current rows := by rw [ofList, List.head?_eq_getElem?, not_false_iff, true_and]
  remaining := List.drop_one.symm

/-- A take leaves the reader where it is. -/
theorem StandsAt.take (stands : c.StandsAt sets k taken) : (c.move .take).StandsAt sets k True := by
  rw [move, takeCurrent]
  cases here : c.current with
  | none => exact ⟨fun rows => by simp [here], stands.remaining⟩
  | some rows => exact ⟨fun rows => by simp, stands.remaining⟩

/-- A move on goes to the next place, if there is one. -/
theorem StandsAt.next (stands : c.StandsAt sets k taken) (within : k ≤ sets.length) :
    (c.move .next).StandsAt sets (min (k + 1) sets.length) False := by
  have current : (c.move .next).current = sets[k + 1]? := by
    rw [move, Cursor.next, stands.remaining, List.head?_drop]
  have remaining : (c.move .next).remaining = sets.drop (k + 1 + 1) := by
    rw [move, Cursor.next, stands.remaining, List.tail_drop]
  rcases Nat.lt_or_ge k sets.length with inside | outside
  · rw [Nat.min_eq_left inside]
    exact ⟨fun rows => by rw [current, not_false_iff, true_and], remaining⟩
  · -- behind the last set there is nothing, and nothing further on
    rw [Nat.min_eq_right (by omega)]
    refine ⟨fun rows => ?_, ?_⟩
    · rw [current, List.getElem?_eq_none (by omega), List.getElem?_eq_none (Nat.le_refl _)]
      simp
    · rw [remaining, List.drop_of_length_le (by omega), List.drop_of_length_le (by omega)]

/-- The place of a reader after any moves is their number of moves on. -/
theorem standsAt_after (sets : List (List Row)) (moves : List Move) :
    ((ofList sets).after moves).StandsAt sets (place sets.length moves) (Taken moves) := by
  induction moves using List.reverseRecOn with
  | nil =>
    have fresh : ¬Taken [] := fun taken => nomatch taken_iff.mp taken
    rw [eq_false fresh, place, List.count_nil, Nat.zero_min]
    exact standsAt_ofList sets
  | append_singleton moves m ih =>
    rw [after_concat, propext taken_concat]
    cases m with
    | take =>
      rw [place_concat_take, eq_self]
      exact ih.take
    | next =>
      rw [place_concat_next, eq_false (by decide : ¬Move.next = .take)]
      exact ih.next (place_le ..)

/-! ### What a reader has left to give -/

/-- The sets that the reader can still give. -/
def left (c : Cursor) : List (List Row) :=
  c.current.toList ++ c.remaining

theorem left_ofList (sets : List (List Row)) : (ofList sets).left = sets := by
  cases sets <;> rfl

/-- What a move gives is left before, and is in front of what is left afterwards. -/
theorem gives_append_left (c : Cursor) (m : Move) : (c.gives m ++ (c.move m).left).Sublist c.left := by
  rcases c with ⟨current, remaining⟩
  cases m with
  | take => cases current <;> exact List.Sublist.refl _
  | next =>
    have moved : (Cursor.move ⟨current, remaining⟩ .next).left = remaining := left_ofList remaining
    rw [gives, List.nil_append, moved]
    exact List.sublist_append_right ..

theorem given_sublist (c : Cursor) (moves : List Move) : (c.given moves).Sublist c.left := by
  induction moves generalizing c with
  | nil => exact List.nil_sublist _
  | cons m moves ih => exact ((List.Sublist.refl _).append (ih _)).trans (gives_append_left c m)

/-- What a reader at a place has left: what is there and behind, without the set there if it is taken. -/
theorem StandsAt.size_eq [Decidable taken] (stands : c.StandsAt sets k taken) (within : k ≤ sets.length) :
    c.size = sets.length - k - if k < sets.length ∧ taken then 1 else 0 := by
  rw [size, stands.remaining, List.length_drop]
  cases here : c.current with
  | some rows =>
    obtain ⟨free, there⟩ := (stands.current rows).mp here
    obtain ⟨inside, -⟩ := List.getElem?_eq_some_iff.mp there
    rw [Option.isSome_some, if_pos rfl, if_neg fun h => free h.2]
    omega
  | none =>
    rw [Option.isSome_none, if_neg Bool.false_ne_true]
    split
    · omega
    next untaken =>
      -- a set that is neither taken nor in hand is not there
      have outside : ¬k < sets.length := fun inside => by
        have free : ¬taken := fun taken => untaken ⟨inside, taken⟩
        exact nomatch here.symm.trans ((stands.current _).mpr ⟨free, List.getElem?_eq_getElem inside⟩)
      omega

/-! ### What a reader shows -/

/-- A reader of sets, after any moves: it stands at the place that is the number of moves on, or behind the last
set. A take gives the set there if there is one and it is not taken, and else fails. A move on finds a set just if
the new place has one. The number of sets is that of those from the place on, without the one there if it is taken.
And all that was given are sets of the list, each at most once and in their order. -/
theorem shows_place (sets : List (List Row)) (moves : List Move) :
    ((ofList sets).after moves).StandsAt sets (place sets.length moves) (Taken moves) ∧
      (∀ rows, ((ofList sets).after moves).takeCurrent.1 = .ok rows ↔
        (place sets.length moves < sets.length ∧ ¬Taken moves) ∧ sets[place sets.length moves]? = some rows) ∧
      (((ofList sets).after moves).takeCurrent.1 = fail (.result .noCurrentSet) ↔
        ¬(place sets.length moves < sets.length ∧ ¬Taken moves)) ∧
      (((ofList sets).after moves).next.1 = true ↔ place sets.length (moves ++ [.next]) < sets.length) ∧
      ((ofList sets).after moves).size = sets.length - place sets.length moves -
        (if place sets.length moves < sets.length ∧ Taken moves then 1 else 0) ∧
      ((ofList sets).given moves).Sublist sets := by
  have stands := standsAt_after sets moves
  have gives : ∀ rows, ((ofList sets).after moves).takeCurrent.1 = .ok rows ↔
      (place sets.length moves < sets.length ∧ ¬Taken moves) ∧ sets[place sets.length moves]? = some rows := by
    intro rows
    rw [takeCurrent_eq_ok, stands.current]
    constructor
    · rintro ⟨free, there⟩
      exact ⟨⟨(List.getElem?_eq_some_iff.mp there).1, free⟩, there⟩
    · rintro ⟨⟨-, free⟩, there⟩
      exact ⟨free, there⟩
  refine ⟨stands, gives, ?_, ?_, stands.size_eq (place_le ..), ?_⟩
  · rw [takeCurrent_eq_fail, Option.eq_none_iff_forall_ne_some]
    constructor
    · rintro nothing ⟨inside, free⟩
      exact nothing _ ((stands.current _).mpr ⟨free, List.getElem?_eq_getElem inside⟩)
    · intro nothing rows here
      exact nothing ((gives rows).mp (takeCurrent_eq_ok.mpr here)).1
  · rw [place_concat_next, next, stands.remaining, List.head?_drop, Option.isSome_iff_ne_none, ne_eq,
      List.getElem?_eq_none_iff]
    omega
  · have within := given_sublist (ofList sets) moves
    rwa [left_ofList] at within

/-- A second take of a set gives nothing, and the set behind the last is none. -/
example (a b : List Row) : (ofList [a, b]).given [.take, .take, .next, .take, .next, .take] = [a, b] := rfl

end Folio.Cursor
