import Folio.Proofs.Versions.Moves

/-!
# Folio.Proofs.Versions.Advance

Versions while no document is deleted: they only ever advance.

* `Advance`: the rows that are there stay, at the same versions or later ones.
* `Behind`: a session knows no version that its row has not reached yet.
* `Grounded`: a queued write expects a version only of a row that it will find.
* `Carries.advance`, `Carries.behind`, `Carries.meets`: what the writes of a save do to the
  versions, and what the first write of a document tells when it is accepted.
-/

namespace Folio

open Folio.Database
open Folio.Relational

variable {L : Library} {d : Sql.Dialect} {m : Mapping} {a : String} {id : DocumentId}
  {vs : Versions} {V V' V'' : View} {K K' : Content} {p : PendingWrite} {ps : List PendingWrite}

/-- A version that is not the last one has a next one. -/
theorem toInt_add_one {v : Int64} (room : v < Int64.maxValue) : (v + 1).toInt = v.toInt + 1 := by
  have top : v.toInt < Int64.maxValue.toInt := Int64.lt_iff_toInt_lt.mp room
  have bottom := Int64.le_toInt v
  have last : Int64.maxValue.toInt = 9223372036854775807 := rfl
  have one : (1 : Int64).toInt = 1 := rfl
  rw [last] at top
  rw [Int64.toInt_add, one]
  refine Int.bmod_eq_of_le ?_ ?_
  · omega
  · omega

/-! ### Views that advance -/

/-- The rows that are there stay, at the same versions or later ones. -/
def Advance (V V' : View) : Prop :=
  ∀ k v, V k = {v} → ∃ w, V' k = {w} ∧ v.toInt ≤ w.toInt

/-- The row of a key, if there is one, is at a later version. -/
def Passes (k : Key) (V V' : View) : Prop :=
  ∀ v, V k = {v} → ∃ w, V' k = {w} ∧ v.toInt < w.toInt

theorem Advance.refl (V : View) : Advance V V := by
  intro k v there
  exact ⟨v, there, Int.le_refl _⟩

theorem Advance.trans (h : Advance V V') (later : Advance V' V'') : Advance V V'' := by
  intro k v there
  obtain ⟨w, there', le⟩ := h k v there
  obtain ⟨x, there'', le'⟩ := later k w there'
  exact ⟨x, there'', Int.le_trans le le'⟩

theorem Advance.trans_passes {k : Key} (h : Advance V V') (later : Passes k V' V'') :
    Passes k V V'' := by
  intro v there
  obtain ⟨w, there', le⟩ := h k v there
  obtain ⟨x, there'', lt⟩ := later w there'
  exact ⟨x, there'', Int.lt_of_le_of_lt le lt⟩

theorem Passes.trans_advance {k : Key} (h : Passes k V V') (later : Advance V' V'') :
    Passes k V V'' := by
  intro v there
  obtain ⟨w, there', lt⟩ := h v there
  obtain ⟨x, there'', le⟩ := later k w there'
  exact ⟨x, there'', Int.lt_of_lt_of_le lt le⟩

/-- Rows that advance do not vanish. -/
theorem Advance.row (h : Advance V V') (keyed : V.Keyed) {k : Key} (there : V k ≠ 0) :
    V' k ≠ 0 := by
  rcases keyed.cases k with absent | ⟨v, one⟩
  · exact absurd absent there
  · obtain ⟨w, there', -⟩ := h k v one
    exact View.ne_zero_of_version there'

/-! ### One write -/

/-- A write that deletes nothing. -/
def WriteKind.keepsRows : WriteKind → Bool
  | .insert _ | .update .. | .upsert .. => true
  | .delete _ | .bulk => false

/-- The version that the write expects of its document. -/
def WriteKind.expected? : WriteKind → Option Int64
  | .update _ expected | .upsert _ expected => expected
  | .insert _ | .delete _ | .bulk => none

/-- Such a write changes the row of its document only. It leaves it at a later version than before,
if there was one before. -/
theorem Shift.rewrites {soft : Bool} {kind : WriteKind} (shift : Shift a soft kind V V')
    (keeps : kind.keepsRows = true) :
    ∃ id w, kind.id? = some id ∧ V' = Function.update V (a, id) {w} ∧
      ∀ v, V (a, id) = {v} → v.toInt < w.toInt := by
  have next {k : Key} {u v : Int64} (own : V k = {u}) (room : u < Int64.maxValue)
      (there : V k = {v}) : v.toInt < (u + 1).toInt := by
    obtain rfl := View.version_inj own there
    rw [toInt_add_one room]
    omega
  cases shift with
  | inserted absent =>
    exact ⟨_, 1, rfl, rfl, fun v there => absurd absent (View.ne_zero_of_version there)⟩
  | updated own room _ => exact ⟨_, _, rfl, rfl, fun v there => next own room there⟩
  | replaced own room _ => exact ⟨_, _, rfl, rfl, fun v there => next own room there⟩
  | created absent =>
    exact ⟨_, 1, rfl, rfl, fun v there => absurd absent (View.ne_zero_of_version there)⟩
  | deleted => cases keeps
  | flagged => cases keeps
  | swept => cases keeps

theorem Shift.advance {soft : Bool} {kind : WriteKind} (shift : Shift a soft kind V V')
    (keeps : kind.keepsRows = true) : Advance V V' := by
  intro k v there
  obtain ⟨id, w, -, rfl, later⟩ := shift.rewrites keeps
  by_cases own : k = (a, id)
  · subst own
    exact ⟨w, Function.update_self .., (later v there).le⟩
  · exact ⟨v, by rw [Function.update_of_ne own, there], Int.le_refl _⟩

/-- The document's own row passes on. -/
theorem Shift.passes {soft : Bool} {kind : WriteKind} (shift : Shift a soft kind V V')
    (keeps : kind.keepsRows = true) (own : kind.id? = some id) : Passes (a, id) V V' := by
  intro v there
  obtain ⟨id', w, its, rfl, later⟩ := shift.rewrites keeps
  obtain rfl : id' = id := Option.some.inj (its.symm.trans own)
  exact ⟨w, Function.update_self .., later v there⟩

/-! ### What sessions know, and what they expect -/

/-- A version is known only of rows that are there, and that have reached it. -/
def Behind (m : Mapping) (a : String) (vs : Versions) (V : View) : Prop :=
  ∀ id v, vs.get? ⟨m.typeName, id⟩ = some v → ∃ w, V (a, id) = {w} ∧ v.toInt ≤ w.toInt

/-- A queued write expects a version only of a row that is there, or that an earlier one inserts. -/
def Grounded (a : String) (V : View) (ps : List PendingWrite) : Prop :=
  ∀ former p, former ++ [p] <+: ps → ∀ id n, p.kind.id? = some id → p.kind.expected? = some n →
    V (a, id) ≠ 0 ∨ ∃ q ∈ former, q.kind = .insert id

theorem Behind.advance (behind : Behind m a vs V) (h : Advance V V') : Behind m a vs V' := by
  intro id v known
  obtain ⟨w, there, le⟩ := behind id v known
  obtain ⟨x, there', le'⟩ := h (a, id) w there
  exact ⟨x, there', Int.le_trans le le'⟩

theorem Behind.noted {seen : List DocumentId} {vs' : Versions} (behind : Behind m a vs V)
    (noted : Noted m a V seen vs vs') : Behind m a vs' V := by
  intro id v known
  by_cases now : id ∈ seen
  · obtain ⟨w, known', there⟩ := noted.current id now
    obtain rfl := Option.some.inj (known.symm.trans known')
    exact ⟨v, there, Int.le_refl _⟩
  · rw [noted.of_not_mem now] at known
    exact behind id v known

theorem Grounded.nil : Grounded a V [] := by
  intro former p h
  have impossible := List.prefix_nil.mp h
  cases former <;> cases impossible

theorem Grounded.advance (grounded : Grounded a V ps) (keyed : V.Keyed) (h : Advance V V') :
    Grounded a V' ps := by
  intro former p split id n own expects
  rcases grounded former p split id n own expects with there | inserted
  · exact .inl (h.row keyed there)
  · exact .inr inserted

/-- The first write expects a version of a row that is there. -/
theorem Grounded.head (grounded : Grounded a V (p :: ps)) {n : Int64} (own : p.kind.id? = some id)
    (expects : p.kind.expected? = some n) : V (a, id) ≠ 0 := by
  have first : [] ++ [p] <+: p :: ps := List.prefix_append [p] ps
  rcases grounded [] p first id n own expects with there | ⟨q, mem, -⟩
  · exact there
  · cases mem

/-- What the first write inserts is there for the others. -/
theorem Grounded.tail {soft : Bool} (grounded : Grounded a V (p :: ps)) (keyed : V.Keyed)
    (shift : Shift a soft p.kind V V') (h : Advance V V') : Grounded a V' ps := by
  intro former q split id n own expects
  have whole : (p :: former) ++ [q] <+: p :: ps := List.cons_prefix_cons.mpr ⟨rfl, split⟩
  rcases grounded (p :: former) q whole id n own expects with there | ⟨r, mem, inserts⟩
  · exact .inl (h.row keyed there)
  · rcases List.mem_cons.mp mem with rfl | mem
    · rw [inserts] at shift
      cases shift with
      | inserted absent =>
        rw [Function.update_self]
        exact .inl (Multiset.singleton_ne_zero 1)
    · exact .inr ⟨r, mem, inserts⟩

/-- Only inserts, and writes that expect a version, tell the version that they leave. -/
theorem WriteKind.cases_of_versionAfter {kind : WriteKind} {n : Int64}
    (after : kind.versionAfter = some n) :
    (∃ id, kind = .insert id) ∨ ∃ v, kind.expected? = some v := by
  cases kind with
  | insert id => exact .inl ⟨id, rfl⟩
  | update id expected | upsert id expected =>
    obtain ⟨v, rfl, -⟩ := Option.map_eq_some_iff.mp after
    exact .inr ⟨v, rfl⟩
  | delete id => cases after
  | bulk => cases after

/-- A queued write after which the version is known has a row to find. -/
theorem Grounded.found {q : PendingWrite} {n : Int64} (grounded : Grounded a V ps) (mem : q ∈ ps)
    (own : q.kind.id? = some id) (after : q.kind.versionAfter = some n) :
    V (a, id) ≠ 0 ∨ ∃ r ∈ ps, r.kind = .insert id := by
  rcases WriteKind.cases_of_versionAfter after with ⟨id', kind⟩ | ⟨v, expects⟩
  · rw [kind] at own
    obtain rfl := Option.some.inj own
    exact .inr ⟨q, mem, kind⟩
  · obtain ⟨former, latter, rfl⟩ := List.append_of_mem mem
    have split : former ++ [q] <+: former ++ q :: latter :=
      (List.prefix_append_right_inj former).mpr (List.prefix_append [q] latter)
    rcases grounded former q split id v own expects with there | ⟨r, mem, inserts⟩
    · exact .inl there
    · exact .inr ⟨r, List.mem_append_left _ mem, inserts⟩

/-- A session expects a version of rows that are there, or that it has queued an insert for. -/
theorem Grounded.push {s : Session} (grounded : Grounded a V s.pending)
    (behind : Behind m a s.versions V)
    (asked : ∀ id n, p.kind.id? = some id → p.kind.expected? = some n →
      s.expectedVersion m id = some n) :
    Grounded a V (s.push p).pending := by
  intro former q split id n own expects
  rcases List.prefix_concat_iff.mp split with last | earlier
  · obtain ⟨rfl, same⟩ := List.append_inj' last rfl
    obtain rfl := List.singleton_inj.mp same
    have expected := asked id n own expects
    rw [Session.expectedVersion] at expected
    split at expected
    · split at expected
      next r found =>
        have its : Session.isWriteOf m id r = true := List.find?_some found
        rw [Session.isWriteOf, Bool.and_eq_true, decide_eq_true_eq, decide_eq_true_eq] at its
        have mem : r ∈ s.pending := List.mem_reverse.mp (List.mem_of_find?_eq_some found)
        exact grounded.found mem its.2 expected
      next =>
        obtain ⟨w, there, -⟩ := behind id n expected
        exact .inl (View.ne_zero_of_version there)
    · cases expected
  · exact grounded former q earlier id n own expects

/-- A version that is counted up stays behind that of the row, which is counted up too. -/
theorem le_of_rewritten {expected : Option Int64} {v w : Int64}
    (kind : p.kind = .update id expected ∨ p.kind = .upsert id expected) (there : V (a, id) = {w})
    (room : w < Int64.maxValue) (meets : ∀ n, expected = some n → n = w)
    (behind : Behind p.mapping a vs V)
    (known : (p.saved vs).get? ⟨p.mapping.typeName, id⟩ = some v) : v.toInt ≤ (w + 1).toInt := by
  rw [saved_of_rewritten kind] at known
  obtain ⟨u, before, rfl⟩ := Option.map_eq_some_iff.mp known
  have le : u.toInt ≤ w.toInt := by
    cases expected with
    | some n =>
      obtain rfl := meets n rfl
      obtain rfl := Option.some.inj before
      exact Int.le_refl _
    | none =>
      obtain ⟨w', there', le⟩ := behind id u before
      rwa [View.version_inj there there']
  have top : w.toInt < Int64.maxValue.toInt := Int64.lt_iff_toInt_lt.mp room
  have room' : u < Int64.maxValue := Int64.lt_iff_toInt_lt.mpr (by omega)
  rw [toInt_add_one room, toInt_add_one room']
  omega

/-- Without a row no version is known, and so none after a store that expects none. -/
theorem unknown_of_created (kind : p.kind = .upsert id none) (absent : V (a, id) = 0)
    (behind : Behind p.mapping a vs V) :
    (p.saved vs).get? ⟨p.mapping.typeName, id⟩ = none := by
  rw [saved_of_rewritten (.inr kind), Option.none_or, Option.map_eq_none_iff]
  cases before : vs.get? ⟨p.mapping.typeName, id⟩ with
  | none => rfl
  | some u =>
    obtain ⟨w, there, -⟩ := behind id u before
    exact absurd absent (View.ne_zero_of_version there)

theorem Shift.behind {soft : Bool} (shift : Shift a soft p.kind V V') (same : p.mapping = m)
    (keeps : p.kind.keepsRows = true)
    (expects : ∀ id n, p.kind.id? = some id → p.kind.expected? = some n → V (a, id) ≠ 0)
    (behind : Behind m a vs V) : Behind m a (p.saved vs) V' := by
  intro id v known
  by_cases own : p.kind.id? = some id
  · subst same
    generalize kind : p.kind = k at shift keeps own expects
    cases shift with
    | inserted absent =>
      obtain rfl := (Option.some.inj own).symm
      have one : (p.saved vs).get? ⟨p.mapping.typeName, id⟩ = some 1 := by
        rw [PendingWrite.saved, kind]
        exact Versions.get?_put_self ..
      obtain rfl := Option.some.inj (one.symm.trans known)
      exact ⟨1, Function.update_self .., Int.le_refl _⟩
    | updated there room meets =>
      obtain rfl := (Option.some.inj own).symm
      exact ⟨_, Function.update_self .., le_of_rewritten (.inl kind) there room meets behind known⟩
    | replaced there room meets =>
      obtain rfl := (Option.some.inj own).symm
      exact ⟨_, Function.update_self .., le_of_rewritten (.inr kind) there room meets behind known⟩
    | @created _ expected _ absent =>
      obtain rfl := (Option.some.inj own).symm
      cases expected with
      | some n => exact absurd absent (expects id n rfl rfl)
      | none =>
        rw [unknown_of_created kind absent behind] at known
        cases known
    | deleted => cases keeps
    | flagged => cases keeps
    | swept => cases keeps
  · rw [saved_of_other same own] at known
    exact behind.advance (shift.advance keeps) id v known

/-! ### The writes of a save -/

section

variable (carried : Carries L d ps K K') (queued : ∀ p ∈ ps, Written m a p)
  (keeps : ∀ p ∈ ps, p.kind.keepsRows = true) (orderly : Orderly m a K)
include carried queued keeps orderly

theorem Carries.advance : Advance (versionsAt (K m.table)) (versionsAt (K' m.table)) := by
  induction carried with
  | nil => exact .refl _
  | cons effect accepted _ ih =>
    rw [List.forall_mem_cons] at queued keeps
    obtain ⟨next, shift⟩ := queued.1.shift_orderly orderly effect accepted
    exact (shift.advance keeps.1).trans (ih queued.2 keeps.2 next)

/-- The row of a document that is written passes on. -/
theorem Carries.passes (own : ∃ p ∈ ps, p.kind.id? = some id) :
    Passes (a, id) (versionsAt (K m.table)) (versionsAt (K' m.table)) := by
  induction carried with
  | nil =>
    obtain ⟨p, mem, -⟩ := own
    cases mem
  | cons effect accepted carried ih =>
    rw [List.forall_mem_cons] at queued keeps
    obtain ⟨next, shift⟩ := queued.1.shift_orderly orderly effect accepted
    obtain ⟨p, mem, its⟩ := own
    rcases List.mem_cons.mp mem with rfl | mem
    · exact (shift.passes keeps.1 its).trans_advance (carried.advance queued.2 keeps.2 next)
    · exact (shift.advance keeps.1).trans_passes (ih queued.2 keeps.2 next ⟨p, mem, its⟩)

/-- The versions that are noted after a save are behind those of the rows. -/
theorem Carries.behind (grounded : Grounded a (versionsAt (K m.table)) ps)
    (behind : Behind m a vs (versionsAt (K m.table))) :
    Behind m a (ps.foldl PendingWrite.saved vs) (versionsAt (K' m.table)) := by
  induction carried generalizing vs with
  | nil => exact behind
  | cons effect accepted _ ih =>
    rw [List.forall_mem_cons] at queued keeps
    obtain ⟨next, shift⟩ := queued.1.shift_orderly orderly effect accepted
    refine ih queued.2 keeps.2 next ?_ ?_
    · exact grounded.tail orderly.keyed shift (shift.advance keeps.1)
    · exact shift.behind queued.1.mapping keeps.1 (fun id n => grounded.head) behind

end

/-- The first write of a document whose row is there is no insert, and the version that it expects,
if it expects one, is that of the row. -/
theorem Carries.meets {former latter : List PendingWrite} {w : Int64}
    (carried : Carries L d (former ++ p :: latter) K K')
    (queued : ∀ q ∈ former ++ p :: latter, Written m a q)
    (keeps : ∀ q ∈ former ++ p :: latter, q.kind.keepsRows = true) (orderly : Orderly m a K)
    (others : ∀ q ∈ former, q.kind.id? ≠ some id) (own : p.kind.id? = some id)
    (there : versionsAt (K m.table) (a, id) = {w}) :
    p.kind ≠ .insert id ∧ ∀ n, p.kind.expected? = some n → n = w := by
  induction former generalizing K with
  | nil =>
    obtain ⟨n, K₁, effect, accepted, -⟩ := Carries.cons_iff.mp carried
    obtain ⟨-, shift⟩ := (queued p List.mem_cons_self).shift_orderly orderly effect accepted
    have first := keeps p List.mem_cons_self
    generalize p.kind = kind at shift first own ⊢
    generalize versionsAt (K₁ m.table) = V₁ at shift
    cases shift with
    | inserted absent | created absent =>
      obtain rfl := Option.some.inj own
      exact absurd absent (View.ne_zero_of_version there)
    | updated row _ meets | replaced row _ meets =>
      obtain rfl := Option.some.inj own
      obtain rfl := View.version_inj row there
      exact ⟨nofun, meets⟩
    | deleted => cases first
    | flagged => cases first
    | swept => cases first
  | cons q former ih =>
    obtain ⟨n, K₁, effect, accepted, later⟩ := Carries.cons_iff.mp carried
    rw [List.cons_append, List.forall_mem_cons] at queued keeps
    rw [List.forall_mem_cons] at others
    obtain ⟨next, shift⟩ := queued.1.shift_orderly orderly effect accepted
    -- writes of other documents leave the row where it is
    have still : versionsAt (K₁ m.table) (a, id) = {w} := by
      obtain ⟨w', there', -⟩ := shift.advance keeps.1 (a, id) w there
      rcases shift.other others.1 with same | gone
      · rw [same, there]
      · exact absurd gone (View.ne_zero_of_version there')
    exact ih later queued.2 keeps.2 next others.2 still

end Folio
