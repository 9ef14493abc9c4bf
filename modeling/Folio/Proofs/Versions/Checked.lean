import Folio.Proofs.Versions.Advance

/-!
# Folio.Proofs.Versions.Checked

What a store does that expects a version.

One might expect that it exchanges the row at that version, and that without one nothing changes and
the save ends with a conflict (`Library.Swaps`, `Session.Reaches`). A row at another version is left
alone in this way. A row that is missing is not: whatever version is expected of it, it is inserted,
at version 1. So a store is checked just where the document has a row (`PendingWrite.checked_iff`).
-/

namespace Folio

open Folio.Database
open Folio.Relational
open Folio.Sql (Dialect TableName)
open Folio.Time (Timestamp)

/-! ### Rows -/

namespace Relational

theorem Record.isAt_some {r : Record} {k : Key} {v : Int64} :
    r.isAt k (some v) = true ↔ r.key = k ∧ r.version = v := by
  rw [Record.isAt_iff]
  simp only [Option.some.injEq, forall_eq', eq_comm]

/-- If one row matches, it alone is rewritten. -/
theorem rewrite_one {matched : Record → Bool} {f : Record → Option Record} {r new : Record} {rest : Table}
    (taken : matched r = true) (others : ∀ s ∈ rest, matched s = false) (becomes : f r = some new) :
    rewrite matched f (r ::ₘ rest) = .ok (1, new ::ₘ rest) := by
  have possible : ∀ s ∈ r ::ₘ rest, matched s → (f s).isSome := by
    intro s mem meets
    rcases Multiset.mem_cons.mp mem with rfl | mem
    · rw [becomes]
      rfl
    · rw [others s mem] at meets
      cases meets
  have counted : (r ::ₘ rest).countP (matched ·) = 1 := by
    have none : rest.countP (matched ·) = 0 :=
      Multiset.countP_eq_zero.mpr fun s mem => Bool.eq_false_iff.mp (others s mem)
    rw [Multiset.countP_cons_of_pos (p := (matched ·)) rest taken, none]
  have kept : (rest.map fun s => if matched s then (f s).getD s else s) = rest := by
    refine (Multiset.map_congr rfl fun s mem => ?_).trans (Multiset.map_id rest)
    rw [others s mem, if_neg Bool.false_ne_true]
    rfl
  rw [rewrite, if_pos possible, counted, Multiset.map_cons, kept, if_pos taken, becomes]
  rfl

/-- The other rows are of other keys. -/
theorem key_ne_of_mem {rows : Table} (keyed : (versionsAt rows).Keyed) {r : Record} {rest : Table}
    (split : rows = r ::ₘ rest) : ∀ s ∈ rest, s.key ≠ r.key := by
  intro s mem same
  have two : (rows.filter (·.key = r.key)).card ≤ 1 := by
    rw [← Multiset.card_map (·.version)]
    exact keyed r.key
  rw [split, Multiset.filter_cons_of_pos (p := (·.key = r.key)) rest rfl, Multiset.card_cons] at two
  have more : 0 < (rest.filter (·.key = r.key)).card :=
    Multiset.card_pos_iff_exists_mem.mpr ⟨s, Multiset.mem_filter.mpr ⟨mem, same⟩⟩
  omega

/-- The statement exchanges the row of the key at the version for one with the text, at the next
version, and without such a row it changes nothing. -/
structure Library.Swaps (L : Library) (d : Dialect) (s : Statement) (table : TableName) (k : Key) (v : Int64)
    (data : String) (K : Content) : Prop where
  missed : (∀ r ∈ K table, ¬(r.key = k ∧ r.version = v)) → L.effect d s K = .ok (0, K)
  exchanged : ∀ r ∈ K table, r.key = k → r.version = v →
    ∃ new : Record, new.key = k ∧ new.version.toInt = v.toInt + 1 ∧ new.data = data ∧
      L.effect d s K = .ok (1, Function.update K table (new ::ₘ (K table).erase r))

end Relational

/-! ### Saves -/

open Saving

section

variable {σ : Type} {db : Database σ} {refused : Request → Refusal → Failure}

/-- The save of the session gets to the queued write, which finds these contents: there is a
connection, all that comes before the write passes, and the write can be sent. -/
inductive Session.Reaches (db : Database σ) (s : Session) (w : World σ) (p : PendingWrite) (K : Content) :
    Prop
  | intro {c w' before after x st y st₁ made passed} :
      db.store.acquire w = (.ok c, w') →
      s.pending = before ++ p :: after →
      Progress db.store c (preparation (firstUses w'.tables (s.pending.map (·.mapping)))) w'.state x st made
        none →
      Progress db.store c (before.map .write) st y st₁ passed none →
      refusal db.store (.write p) = none →
      (db.contents st₁).working = K →
      Reaches db s w p K

/-- Writes that end with a failure are rolled back, and so the save ends with it. -/
theorem Saving.Conclusion.of_failed {c : ConnectionId} {writes : List PendingWrite} {st st₁ st₂ : σ}
    {x y : Exchange} {passed : List Step} {f : Failure} {fate : Fate} {result : Except Halt Unit}
    (undoes : db.Answers refused .rollback)
    (failed : Progress db.store c (writes.map .write) st x st₁ passed (some (.failed f)))
    (conclusion : Conclusion db.store c writes st y st₂ fate result) : result = .error (.failed f) := by
  cases conclusion with
  | committed all _ => cases (failed.unique all).2.2.2
  | commitStall all _ => cases (failed.unique all).2.2.2
  | dropped stalled _ => cases (failed.unique stalled).2.2.2
  | rolledBack undone answered =>
    cases undone with
    | write failed' =>
      obtain ⟨rfl, rfl, rfl, same⟩ := failed.unique failed'
      obtain rfl := Halt.failed.inj (Option.some.inj same)
      obtain ⟨st₃, -, replied⟩ := undoes c st₁
      obtain ⟨rfl, rfl⟩ := Prod.mk.inj (answered.symm.trans replied)
      rfl
    | timeout stalled _ => cases (failed.unique stalled).2.2.2
    | commit all _ => cases (failed.unique all).2.2.2

/-- A save that gets to a write which fails ends with its failure. -/
theorem Session.Reaches.failed {s : Session} {w : World σ} {p : PendingWrite} {K K' : Content} {n : Nat}
    {f : Failure} (reaches : s.Reaches db w p K) (carries : db.Answers refused (.write p.statement))
    (undoes : db.Answers refused .rollback)
    (effect : db.library.effect db.dialect p.statement K = .ok (n, K'))
    (rejected : p.verdict (.reply (.count n)) = .error (.failed f)) :
    (s.saveChanges db.store w).result = .error (.failed f) := by
  obtain ⟨acquired, pending, prepared, former, admitted, found⟩ := reaches
  next c w' before after x st y st₁ made passed =>
  have queued : s.pending ≠ [] := by
    rw [pending]
    exact List.append_ne_nil_of_right_ne_nil _ (List.cons_ne_nil _ _)
  obtain ⟨z, st₂, tables, fate, result, conversation, saved⟩ := Session.save_conversation queued acquired
  suffices ends : result = .error (.failed f) by
    rw [Session.saveChanges, saved, ends]
    rfl
  -- the write is answered with the count that makes it fail
  have response : db.library.respond db.dialect (.write p.statement) (db.contents st₁) =
      .ok (.count n, { db.contents st₁ with working := K' }) := by
    show (db.library.effect db.dialect p.statement (db.contents st₁).working).map _ = _
    rw [found, effect]
    rfl
  have answered := carries c st₁
  rw [response] at answered
  obtain ⟨st₃, -, replied⟩ := answered
  have failing : Progress db.store c (Step.write p :: after.map .write) st₁ _ st₃ [] (some (.failed f)) :=
    .failed admitted replied rejected
  have writes := former.append failing
  have split : before.map Step.write ++ Step.write p :: after.map .write = s.pending.map .write := by
    rw [pending, List.map_append, List.map_cons]
  rw [split] at writes
  cases conversation with
  | unprepared unready => cases (prepared.unique unready).2.2.2
  | preparationStall stalled => cases (prepared.unique stalled).2.2.2
  | prepared ready conclusion =>
    obtain ⟨rfl, rfl, rfl, -⟩ := prepared.unique ready
    exact conclusion.of_failed undoes writes

/-! ### Stores -/

/-- The store of a document of which a version is expected, as a session queues it. -/
def PendingWrite.checked (m : Mapping) (id : DocumentId) (v : Int64) (data type a : String)
    (now : Timestamp) (revive : Bool) : PendingWrite :=
  ⟨m, .upsert id (some v), .upsert ⟨m.table, ⟨id.toValue, data, type, a, now⟩, some v, revive⟩⟩

variable {m : Mapping} {id : DocumentId} {v : Int64} {data type a : String} {now : Timestamp}
  {revive : Bool} {K : Content}

/-- The row is written if it is at the version, and else left alone. -/
theorem effect_checked_of_row {L : Library} {d : Dialect} {r : Record}
    (kinds : ∀ r ∈ K m.table, r.id.kind = id.kind) (mem : r ∈ K m.table) (key : r.key = (a, id)) :
    L.effect d (PendingWrite.checked m id v data type a now revive).statement K =
      within K m.table (rewrite (·.isAt (a, id) (some v)) (·.rewritten data type now revive)
        (K m.table)) := by
  have taken : (K m.table).filter (·.key = (a, id)) ≠ 0 := by
    rw [Ne, Multiset.filter_eq_nil]
    exact fun none => none r mem key
  show L.effect d (.upsert ⟨m.table, ⟨id.toValue, data, type, a, now⟩, some v, revive⟩) K = _
  rw [L.effect_upsert kinds, Library.upserted, if_neg taken]

/-- A row that is missing is inserted. -/
theorem effect_checked_of_missing {L : Library} {d : Dialect}
    (kinds : ∀ r ∈ K m.table, r.id.kind = id.kind) (missing : ∀ r ∈ K m.table, r.key ≠ (a, id)) :
    L.effect d (PendingWrite.checked m id v data type a now revive).statement K =
      .ok (1, Function.update K m.table (Library.freshRow id data type a now ::ₘ K m.table)) := by
  have free : (K m.table).filter (·.key = (a, id)) = 0 := Multiset.filter_eq_nil.mpr missing
  show L.effect d (.upsert ⟨m.table, ⟨id.toValue, data, type, a, now⟩, some v, revive⟩) K = _
  rw [L.effect_upsert kinds, Library.upserted, if_pos free]
  rfl

/-- A row at another version is left alone. -/
theorem effect_checked_of_moved {L : Library} {d : Dialect} {r : Record}
    (kinds : ∀ r ∈ K m.table, r.id.kind = id.kind) (mem : r ∈ K m.table) (key : r.key = (a, id))
    (missed : ∀ r ∈ K m.table, ¬(r.key = (a, id) ∧ r.version = v)) :
    L.effect d (PendingWrite.checked m id v data type a now revive).statement K = .ok (0, K) := by
  have unmatched : ∀ r ∈ K m.table, r.isAt (a, id) (some v) = false := by
    intro r mem
    rw [Bool.eq_false_iff, ne_eq, Record.isAt_some]
    exact missed r mem
  rw [effect_checked_of_row kinds mem key, rewrite_of_none unmatched]
  show Except.ok (0, Function.update K m.table (K m.table)) = _
  rw [Function.update_eq_self]

/-- A row at the version is exchanged, if there is a next version. -/
theorem effect_checked_of_current {L : Library} {d : Dialect} {r : Record}
    (kinds : ∀ r ∈ K m.table, r.id.kind = id.kind) (keyed : (versionsAt (K m.table)).Keyed)
    (mem : r ∈ K m.table) (key : r.key = (a, id)) (current : r.version = v) {new : Record}
    (next : r.rewritten data type now revive = some new) :
    L.effect d (PendingWrite.checked m id v data type a now revive).statement K =
      .ok (1, Function.update K m.table (new ::ₘ (K m.table).erase r)) := by
  obtain ⟨rest, split⟩ := Multiset.exists_cons_of_mem mem
  have others := key_ne_of_mem keyed split
  have taken : r.isAt (a, id) (some v) = true := Record.isAt_some.mpr ⟨key, current⟩
  have unmatched : ∀ s ∈ rest, s.isAt (a, id) (some v) = false := by
    intro s mem
    rw [Bool.eq_false_iff, ne_eq, Record.isAt_some]
    rintro ⟨its, -⟩
    exact others s mem (its.trans key.symm)
  rw [effect_checked_of_row kinds mem key, split, rewrite_one taken unmatched next,
    Multiset.erase_cons_head]
  rfl

namespace PendingWrite

/-- A store that expects a version is checked, for the contents: it exchanges the row of its document
if that is at the version, and else changes nothing and ends the save with a conflict. -/
structure IsChecked (db : Database σ) (m : Mapping) (id : DocumentId) (v : Int64) (data type a : String)
    (now : Timestamp) (revive : Bool) (K : Content) : Prop where
  swaps : db.library.Swaps db.dialect (checked m id v data type a now revive).statement m.table (a, id) v
    data K
  conflicts : (∀ r ∈ K m.table, ¬(r.key = (a, id) ∧ r.version = v)) →
    ∀ (s : Session) w, s.Reaches db w (checked m id v data type a now revive) K →
      (s.saveChanges db.store w).result = .error (.failed ⟨.conflict m.typeAlias id v, []⟩)

/-- Where the document has a row, a store that expects a version is checked, unless the row is at the
version and that is the last. Where it has none, the store inserts it at version 1. -/
theorem checked_iff (kinds : ∀ r ∈ K m.table, r.id.kind = id.kind)
    (keyed : (versionsAt (K m.table)).Keyed)
    (carries : db.Answers refused (.write (checked m id v data type a now revive).statement))
    (undoes : db.Answers refused .rollback) :
    (IsChecked db m id v data type a now revive K ↔
        ∃ r ∈ K m.table, r.key = (a, id) ∧ (r.version = v → v < Int64.maxValue)) ∧
      ((∀ r ∈ K m.table, r.key ≠ (a, id)) →
        db.library.effect db.dialect (checked m id v data type a now revive).statement K =
          .ok (1, Function.update K m.table (Library.freshRow id data type a now ::ₘ K m.table))) := by
  refine ⟨⟨fun checked => ?_, fun row => ?_⟩, effect_checked_of_missing kinds⟩
  · by_cases missing : ∀ r ∈ K m.table, r.key ≠ (a, id)
    · have left := checked.swaps.missed fun r mem at_v => missing r mem at_v.1
      rw [effect_checked_of_missing kinds missing] at left
      cases left
    · push Not at missing
      obtain ⟨r, mem, key⟩ := missing
      refine ⟨r, mem, key, fun current => ?_⟩
      obtain ⟨new, -, -, -, done⟩ := checked.swaps.exchanged r mem key current
      -- no row could have been rewritten at the last version
      rw [effect_checked_of_row kinds mem key] at done
      obtain ⟨rows, rewritten, -⟩ := within_eq_ok done
      obtain ⟨possible, -, -⟩ := rewrite_eq_ok rewritten
      obtain ⟨r', becomes⟩ :=
        Option.isSome_iff_exists.mp (possible r mem (Record.isAt_some.mpr ⟨key, current⟩))
      rw [← current]
      exact (Record.rewritten_eq_some becomes).1
  · obtain ⟨r, mem, key, room⟩ := row
    refine ⟨⟨effect_checked_of_moved kinds mem key, fun s there its current => ?_⟩, ?_⟩
    · have one := versionsAt_of_mem keyed mem
      rw [key, ← its] at one
      have same : r.version = v := (View.version_inj one (versionsAt_of_mem keyed there)).trans current
      have next : s.rewritten data type now revive = some _ := if_pos (current ▸ room same)
      obtain ⟨-, keeps, counted, text⟩ := Record.rewritten_eq_some next
      refine ⟨_, keeps.trans its, ?_, text, effect_checked_of_current kinds keyed there its current next⟩
      rw [counted, current, toInt_add_one (room same)]
    · intro missed s w reaches
      exact reaches.failed carries undoes (effect_checked_of_moved kinds mem key missed) rfl

end PendingWrite

end

/-! ### An order of another tenant, and one that was written again -/

namespace Orders

/-- The tenant has the order, at the version. -/
def holding (tenant : String) (version : Int64) : Content :=
  fun table =>
    if table = mapping.table then
      {⟨.int32 7, stored.data, version, .epoch, "order", tenant, false, none⟩}
    else 0

theorem mem_holding {tenant : String} {version : Int64} {r : Record} :
    r ∈ holding tenant version mapping.table ↔
      r = ⟨.int32 7, stored.data, version, .epoch, "order", tenant, false, none⟩ := by
  rw [holding, if_pos rfl, Multiset.mem_singleton]

theorem keyed_holding (tenant : String) (version : Int64) :
    (versionsAt (holding tenant version mapping.table)).Keyed := by
  intro k
  rw [versionsAt, Multiset.card_map, holding, if_pos rfl]
  exact (Multiset.card_le_card (Multiset.filter_le _ _)).trans (Multiset.card_singleton _).le

/-- The order stored where version 1 is expected. -/
def checking : PendingWrite :=
  .checked mapping (.int32 7) 1 stored.data "order" "a" .epoch false

/-- The database holds the order at version 2. -/
noncomputable def renewed : World Contents :=
  { state := ⟨holding "a" 2, holding "a" 2⟩ }

theorem checking_reaches :
    Session.Reaches database ⟨"a", [checking], .empty⟩ renewed checking (holding "a" 2) := by
  have queued : (⟨"a", [checking], .empty⟩ : Session).pending = [] ++ checking :: [] := rfl
  have prepared : Progress database.store 0 (preparation [mapping]) (renewed.state) _
      ⟨holding "a" 2, holding "a" 2⟩ _ none :=
    .passed rfl rfl rfl (.passed rfl rfl rfl .done)
  exact .intro rfl queued prepared .done rfl rfl

/-- A foreign order is no order of the tenant's, so the store is not checked. An order at version 2
is, and a save that stores it where version 1 is expected ends with a conflict. -/
theorem checked_iff_holding :
    ¬PendingWrite.IsChecked database mapping (.int32 7) 1 stored.data "order" "a" .epoch false
        (holding "b" 1) ∧
      ((⟨"a", [checking], .empty⟩ : Session).saveChanges database.store renewed).result =
        .error (.failed ⟨.conflict "order" (.int32 7) 1, []⟩) := by
  have kinds (tenant : String) (version : Int64) :
      ∀ r ∈ holding tenant version mapping.table, r.id.kind = (DocumentId.int32 7).kind := by
    intro r mem
    rw [mem_holding.mp mem]
  have carries : database.Answers refused (.write checking.statement) := Library.database_answers rfl
  have undoes : database.Answers refused .rollback := Library.database_answers rfl
  constructor
  · rw [(PendingWrite.checked_iff (kinds "b" 1) (keyed_holding "b" 1) carries undoes).1]
    rintro ⟨r, mem, key, -⟩
    rw [mem_holding.mp mem] at key
    exact absurd (congrArg Prod.fst key) (by decide)
  · have checked := (PendingWrite.checked_iff (kinds "a" 2) (keyed_holding "a" 2) carries undoes).1.mpr
      ⟨_, mem_holding.mpr rfl, rfl, fun same => absurd same (by decide)⟩
    refine checked.conflicts ?_ _ renewed checking_reaches
    rintro r mem ⟨-, same⟩
    rw [mem_holding.mp mem] at same
    exact absurd same (by decide)

end Orders

end Folio
