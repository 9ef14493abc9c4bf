import Folio.Proofs.Session.Turns

/-!
# Folio.Proofs.Session.Tables

Tables are made once, and before they are used.

`standing` are the tables for which a creation has succeeded since a connection was last closed, as the turns
tell it. They are the tables that the store takes for granted (`Standing`), so what each visit knows when it
begins is what the turns before it have left (`System.opened_follows`).
-/

namespace Folio

open Folio.Database
open Folio.Relational (Request)
open Folio.Sql (TableName)

variable {σ : Type} {store : Store σ}

/-- The tables that stand after a turn: what was made in it has come to those that stood before, and none is left
if a connection is closed at the end. -/
def Turn.standing (known : List TableName) (t : Turn) : List TableName :=
  match t.visit with
  | .on _ _ .closed => []
  | .on _ x _ => known ++ x.made
  | .none | .refused => known

/-- The tables for which a creation has succeeded since a connection was last closed. -/
def standing (turns : List Turn) : List TableName :=
  turns.foldl Turn.standing []

theorem standing_concat (turns : List Turn) (t : Turn) :
    standing (turns ++ [t]) = t.standing (standing turns) :=
  List.foldl_concat ..

/-! ### Dialogues in order -/

/-- What is asked at a place of a dialogue is in order there. Before a creation there are others only, none of
them of a table that is known, and if it does not succeed it is the last. What else is asked uses tables that
are known. -/
def Dialogue.InOrder (known : List TableName) (before : Dialogue) (r : Request) (answer : Answer Reply)
    (after : Dialogue) : Prop :=
  match r.creates? with
  | some table =>
    table ∉ known ++ before.made ∧ (∀ e ∈ before, e.1.creates? ≠ none) ∧
      ((∀ n, answer ≠ .reply (.count n)) → after = [])
  | none => ∀ s ∈ r.statements, s.table ∈ known ++ before.made

/-- So it is everywhere in an orderly dialogue. -/
theorem Dialogue.Orderly.inOrder {known : List TableName} {before after : Dialogue} {r : Request}
    {answer : Answer Reply} (h : Dialogue.Orderly known (before ++ (r, answer) :: after)) :
    Dialogue.InOrder known before r answer after := by
  induction before generalizing known with
  | nil =>
    unfold InOrder
    unfold Orderly at h
    simp only [List.nil_append] at h
    cases making : r.creates? with
    | some table =>
      simp only [making] at h ⊢
      refine ⟨by rw [made, List.filterMap_nil, List.append_nil]; exact h.1,
        fun e mem => absurd mem List.not_mem_nil, fun failed => ?_⟩
      rcases answer with (n | cursor) | f | _
      · exact absurd rfl (failed n)
      · exact h.2
      · exact h.2
      · exact h.2
    | none =>
      simp only [making] at h ⊢
      exact fun s among => List.mem_append_left _ ((h _ List.mem_cons_self).2 s among)
  | cons first before ih =>
    obtain ⟨r', answer'⟩ := first
    unfold Orderly at h
    simp only [List.cons_append] at h
    cases making : r'.creates? with
    | some table =>
      simp only [making] at h
      -- more is said, so the table was made
      obtain ⟨n, rfl⟩ : ∃ n, answer' = .reply (.count n) := by
        rcases answer' with (n | cursor) | f | _
        · exact ⟨n, rfl⟩
        · exact absurd h.2 (List.append_ne_nil_of_right_ne_nil _ (List.cons_ne_nil _ _))
        · exact absurd h.2 (List.append_ne_nil_of_right_ne_nil _ (List.cons_ne_nil _ _))
        · exact absurd h.2 (List.append_ne_nil_of_right_ne_nil _ (List.cons_ne_nil _ _))
      have known_then : ∀ t, t ∈ known ++ made ((r', .reply (.count n)) :: before) ↔
          t ∈ (table :: known) ++ made before := by
        have here : madeBy (r', .reply (.count n)) = some table := making
        intro t
        rw [made, List.filterMap_cons_some here]
        simp only [made, List.mem_append, List.mem_cons]
        tauto
      have later := ih h.2
      unfold InOrder at later ⊢
      cases making' : r.creates? with
      | some table' =>
        simp only [making'] at later ⊢
        refine ⟨(known_then table').not.mpr later.1, ?_, later.2.2⟩
        refine List.forall_mem_cons.mpr ⟨?_, later.2.1⟩
        rw [making]
        exact Option.some_ne_none _
      | none =>
        simp only [making'] at later ⊢
        exact fun s among => (known_then _).mpr (later s among)
    | none =>
      simp only [making] at h
      obtain ⟨use, there⟩ := h (r, answer) (List.mem_cons_of_mem _ (List.mem_append_right _ List.mem_cons_self))
      unfold InOrder
      simp only [use]
      exact fun s among => List.mem_append_left _ (there s among)

/-! ### Runs -/

/-- The store takes the tables for granted that stand after these turns. -/
def Standing (past : List Turn) (w : World σ) : Prop :=
  w.tables = standing past

/-- A visit keeps to the tables that stand, and what it makes of them is what is then taken for granted. -/
theorem Standing.visit {past : List Turn} {v : Visit} {w w' : World σ} {e : Made} (h : Standing past w)
    (visits : Visits store w v w')
    (conducted : ∀ c x fate, v = .on c x fate → Conducted (e.requests store.schema) w.tables e.result x fate) :
    (∀ c x fate, v = .on c x fate → Conducted (e.requests store.schema) (standing past) e.result x fate) ∧
      Standing (past ++ [⟨e, v⟩]) w' := by
  refine ⟨fun c x fate on => h ▸ conducted c x fate on, ?_⟩
  unfold Standing
  rw [standing_concat, ← h]
  cases visits with
  | none => rfl
  | refused refused =>
    have same := store.acquire_tables w
    rw [refused] at same
    exact same
  | @on c w₁ x st fate acquired said =>
    have same := store.acquire_tables w
    rw [acquired] at same
    cases fate with
    | returned => exact congrArg (· ++ x.made) same
    | closed => rfl
    | held => exact congrArg (· ++ x.made) same

/-- A turn that can follow these: its session has queued writes of its types, and it conducts itself on its visit,
knowing the tables that stand. -/
structure Follows (store : Store σ) (past : List Turn) (t : Turn) : Prop where
  proper : t.made.before.Proper store.schema
  conducted : ∀ c x fate, t.visit = .on c x fate →
    Conducted (t.made.requests store.schema) (standing past) t.made.result x fate

namespace System

/-- Every turn of a run can follow those before it. -/
theorem opened_follows (store : Store σ) (tenants : Nat → String) (st : σ) (calls : List (Nat × Call)) :
    ∃ turns, (opened tenants st).Unfolds store calls turns ∧
      ∀ past t future, turns = past ++ t :: future → Follows store past t := by
  refine opened_unfolds (I := Standing) (fun {past w v w' e} stands proper visits conducted => ?_) rfl calls
  obtain ⟨conducted, onward⟩ := stands.visit visits conducted
  exact ⟨⟨proper, conducted⟩, onward⟩

/-- Tables are made once and always before use. In every run, a creation is only sent for a table that does not
stand, every other statement only for one that does, and after a creation that fails nothing is sent, nor was
anything before it but creations. What these have made stands then, so it is not made again until a connection
is closed. -/
theorem tables_made_once (store : Store σ) (tenants : Nat → String) (st : σ) (calls : List (Nat × Call)) :
    ∃ turns, (System.opened tenants st).Unfolds store calls turns ∧
      ∀ past t future, turns = past ++ t :: future → ∀ c x fate, t.visit = .on c x fate →
        ∀ before r answer after, x = before ++ (r, answer) :: after →
          Dialogue.InOrder (standing past) before r answer after := by
  obtain ⟨turns, unfolds, follows⟩ := opened_follows store tenants st calls
  refine ⟨turns, unfolds, ?_⟩
  rintro past t future split c x fate on before r answer after rfl
  exact ((follows past t future split).conducted c _ fate on).orderly.inOrder

end System

end Folio
