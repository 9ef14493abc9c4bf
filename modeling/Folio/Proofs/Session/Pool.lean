import Folio.Proofs.Session.Turns

/-!
# Folio.Proofs.Session.Pool

No connection goes back to the pool inside a transaction.

A connection enters a transaction when a start succeeds, and leaves it when a commit or a rollback does
(`InTransaction`). After every turn of a run, the connections that nobody holds are different ones, are in no
transaction, and were given back each time that they were taken (`Pooled`).
-/

namespace Folio

open Folio.Database

variable {σ : Type} {store : Store σ}

/-- What is said on a connection in a turn. -/
def Turn.saidOn (c : ConnectionId) (t : Turn) : Dialogue :=
  match t.visit with
  | .on c' x _ => if c' = c then x else []
  | .none | .refused => []

/-- The connection is in a transaction after the turns. -/
def InTransaction (c : ConnectionId) (turns : List Turn) : Prop :=
  Dialogue.inTransaction (turns.flatMap (·.saidOn c)) false = true

/-- Each of the turns that takes the connection gives it back. -/
def AlwaysReturned (c : ConnectionId) (turns : List Turn) : Prop :=
  ∀ t ∈ turns, ∀ x fate, t.visit = .on c x fate → fate = .returned

/-- The turn does not take the connection. -/
def Turn.LeavesAlone (c : ConnectionId) (t : Turn) : Prop :=
  ∀ x fate, t.visit ≠ .on c x fate

/-! ### Connections -/

section

variable {c : ConnectionId} {past : List Turn} {t : Turn}

theorem Turn.LeavesAlone.saidOn (h : t.LeavesAlone c) : t.saidOn c = [] := by
  unfold Turn.saidOn
  split
  next c' x fate on =>
    refine if_neg fun same => ?_
    subst same
    exact h x fate on
  · rfl
  · rfl

/-- Nothing has been said on a connection that was never taken. -/
theorem not_inTransaction_of_unused (h : ∀ t ∈ past, t.LeavesAlone c) : ¬InTransaction c past := by
  have nothing : past.flatMap (·.saidOn c) = [] := List.flatMap_eq_nil_iff.mpr fun t mem => (h t mem).saidOn
  unfold InTransaction
  rw [nothing]
  exact Bool.false_ne_true

theorem inTransaction_concat_of_leavesAlone (h : t.LeavesAlone c) :
    InTransaction c (past ++ [t]) ↔ InTransaction c past := by
  unfold InTransaction
  rw [List.flatMap_append, List.flatMap_singleton, h.saidOn, List.append_nil]

/-- A turn on a connection that is in no transaction. -/
theorem inTransaction_concat_of_on {x : Dialogue} {fate : Saving.Fate} (on : t.visit = .on c x fate)
    (outside : ¬InTransaction c past) : InTransaction c (past ++ [t]) ↔ x.inTransaction false = true := by
  have said : t.saidOn c = x := by
    unfold Turn.saidOn
    rw [on]
    exact if_pos rfl
  have clean : Dialogue.inTransaction (past.flatMap (·.saidOn c)) false = false :=
    Bool.eq_false_iff.mpr outside
  unfold InTransaction
  rw [List.flatMap_append, List.flatMap_singleton, said, Dialogue.inTransaction_append, clean]

theorem AlwaysReturned.concat (h : AlwaysReturned c past)
    (last : ∀ x fate, t.visit = .on c x fate → fate = .returned) : AlwaysReturned c (past ++ [t]) :=
  List.forall_mem_append.mpr ⟨h, List.forall_mem_singleton.mpr last⟩

end

/-! ### The pool -/

/-- After these turns, the connections that nobody holds can be taken. -/
structure Pooled (past : List Turn) (w : World σ) : Prop where
  nodup : w.idle.Nodup
  opened : ∀ c ∈ w.idle, c < w.attempts
  taken : ∀ t ∈ past, ∀ c x fate, t.visit = .on c x fate → c < w.attempts
  outside : ∀ c ∈ w.idle, ¬InTransaction c past
  returned : ∀ c ∈ w.idle, AlwaysReturned c past

namespace Pooled

variable {past : List Turn} {t : Turn} {w w₁ : World σ} {c : ConnectionId}

/-- Only the connections matter. -/
theorem congr (h : Pooled past w) (idle : w₁.idle = w.idle) (attempts : w₁.attempts = w.attempts) :
    Pooled past w₁ := by
  obtain ⟨nodup, opened, taken, outside, returned⟩ := h
  rw [← idle] at nodup opened outside returned
  rw [← attempts] at opened taken
  exact ⟨nodup, opened, taken, outside, returned⟩

/-- A connection that is opened, or is not, leaves the others as they are. -/
theorem attempted (h : Pooled past w) (idle : w₁.idle = w.idle) (attempts : w₁.attempts = w.attempts + 1) :
    Pooled past w₁ := by
  obtain ⟨nodup, opened, taken, outside, returned⟩ := h
  rw [← idle] at nodup opened outside returned
  refine ⟨nodup, fun c mem => ?_, fun t mem c x fate on => ?_, outside, returned⟩
  · exact attempts ▸ Nat.lt_succ_of_lt (opened c mem)
  · exact attempts ▸ Nat.lt_succ_of_lt (taken t mem c x fate on)

/-- A turn that takes none of the connections that nobody holds afterwards. -/
theorem concat (h : Pooled past w) (alone : ∀ c ∈ w.idle, t.LeavesAlone c)
    (opened : ∀ c x fate, t.visit = .on c x fate → c < w.attempts) : Pooled (past ++ [t]) w where
  nodup := h.nodup
  opened := h.opened
  taken := List.forall_mem_append.mpr ⟨h.taken, List.forall_mem_singleton.mpr opened⟩
  outside c mem := (inTransaction_concat_of_leavesAlone (alone c mem)).not.mpr (h.outside c mem)
  returned c mem := (h.returned c mem).concat fun x fate on => absurd on (alone c mem x fate)

/-- Giving back a connection. -/
theorem giveBack (h : Pooled past w) (held : c ∉ w.idle) (opened : c < w.attempts)
    (outside : ¬InTransaction c past) (returned : AlwaysReturned c past) : Pooled past (w.giveBack c) where
  nodup := List.nodup_append.mpr ⟨h.nodup, List.nodup_singleton c, fun a mem b last => by
    rw [List.mem_singleton.mp last]
    exact fun same => held (same ▸ mem)⟩
  opened := List.forall_mem_append.mpr ⟨h.opened, List.forall_mem_singleton.mpr opened⟩
  taken := h.taken
  outside := List.forall_mem_append.mpr ⟨h.outside, List.forall_mem_singleton.mpr outside⟩
  returned := List.forall_mem_append.mpr ⟨h.returned, List.forall_mem_singleton.mpr returned⟩

/-- A connection that cannot be had. -/
theorem refused {halt : Halt} (h : Pooled past w) (refused : store.acquire w = (.error halt, w₁)) :
    Pooled past w₁ := by
  rcases store.acquire_cases w with ⟨c, rest, -, acquired⟩ | ⟨result, w', asked, idle, -, attempts, -⟩
  · rw [refused] at acquired
    cases acquired
  · rw [refused] at asked
    cases asked
    exact h.attempted idle attempts

/-- The connection that is taken is held by nobody else, in no transaction, and was always given back. -/
theorem acquired (h : Pooled past w) (acquired : store.acquire w = (.ok c, w₁)) :
    Pooled past w₁ ∧ c ∉ w₁.idle ∧ c < w₁.attempts ∧ ¬InTransaction c past ∧ AlwaysReturned c past := by
  rcases store.acquire_cases w with ⟨a, rest, idle, taken⟩ | ⟨result, w', asked, idle, -, attempts, fresh⟩
  · rw [acquired] at taken
    cases taken
    have mem : c ∈ w.idle := idle ▸ List.mem_cons_self
    have part : ∀ b ∈ rest, b ∈ w.idle := fun b later => idle ▸ List.mem_cons_of_mem c later
    obtain ⟨apart, nodup⟩ := List.nodup_cons.mp (idle ▸ h.nodup)
    refine ⟨?_, apart, h.opened c mem, h.outside c mem, h.returned c mem⟩
    exact ⟨nodup, fun b later => h.opened b (part b later), h.taken,
      fun b later => h.outside b (part b later), fun b later => h.returned b (part b later)⟩
  · rw [acquired] at asked
    cases asked
    obtain rfl := fresh c rfl
    -- a connection of this number was never opened before
    have unused : ∀ t ∈ past, t.LeavesAlone w.attempts := fun t mem x fate on =>
      Nat.lt_irrefl _ (h.taken t mem _ x fate on)
    refine ⟨h.attempted idle attempts, ?_, ?_, not_inTransaction_of_unused unused, ?_⟩
    · rw [idle]
      exact fun mem => Nat.lt_irrefl _ (h.opened _ mem)
    · rw [attempts]
      exact Nat.lt_succ_self _
    · exact fun t mem x fate on => absurd on (unused t mem x fate)

end Pooled

namespace System

/-- No connection goes back to the pool inside a transaction. In every run, each call takes one connection at
most. The call holds it for ever if and only if it never ends; else it gives it back or closes it, and what it
gives back is in no transaction. A connection that is taken was given back by all turns that took it before. -/
theorem pool_clean (store : Store σ) (tenants : Nat → String) (st : σ) (calls : List (Nat × Call)) :
    ∃ turns, (System.opened tenants st).Unfolds store calls turns ∧
      ∀ past t future, turns = past ++ t :: future → ∀ c x fate, t.visit = .on c x fate →
        (fate = .held ↔ t.made.result = .error .stalled) ∧
          (fate = .returned → ¬InTransaction c (past ++ [t])) ∧ AlwaysReturned c past := by
  have start : Pooled [] (System.opened tenants st).world :=
    ⟨List.nodup_nil, fun _ mem => absurd mem List.not_mem_nil, fun _ mem => absurd mem List.not_mem_nil,
      fun _ mem => absurd mem List.not_mem_nil, fun _ mem => absurd mem List.not_mem_nil⟩
  refine opened_unfolds (fun {past w v w' e} pooled _ visits conducted => ?_) start calls
  cases visits with
  | none => exact ⟨nofun, pooled.concat (fun _ _ _ _ => nofun) nofun⟩
  | refused refused => exact ⟨nofun, (pooled.refused refused).concat (fun _ _ _ _ => nofun) nofun⟩
  | @on c w₁ x st' fate acquired said =>
    obtain ⟨asked, orderly, held_iff, outside, broken⟩ := conducted c x fate rfl
    obtain ⟨others, apart, opened, clean, returned⟩ := pooled.acquired acquired
    have here : fate = .returned → ¬InTransaction c (past ++ [⟨e, .on c x fate⟩]) := fun back => by
      rw [inTransaction_concat_of_on rfl clean, outside back]
      exact Bool.false_ne_true
    refine ⟨?_, ?_⟩
    · rintro _ _ _ ⟨⟩
      exact ⟨held_iff, here, returned⟩
    · have left : Pooled (past ++ [⟨e, .on c x fate⟩]) w₁ := by
        refine others.concat (fun a mem y left on => ?_) fun a y left on => ?_
        · cases on
          exact apart mem
        · cases on
          exact opened
      cases fate with
      | returned =>
        refine (left.giveBack apart opened (here rfl) (returned.concat ?_)).congr rfl rfl
        rintro _ _ ⟨⟩
        rfl
      | closed => exact left.congr rfl rfl
      | held => exact left.congr rfl rfl

end System

end Folio
