import Folio.Proofs.Relational.Writes
import Folio.Session.Save

/-!
# Folio.Proofs.Versions.View

The versions in a table, by key, and what a queued write does to them.

A `View` forgets all of a table but its versions. `Shift` is everything that a queued write
can do to it when it is carried out with an outcome that it may have
(`Written.shift`), so that what is said of versions elsewhere is said of views.
-/

namespace Folio

open Folio.Relational
open Folio.Sql (TableName)
open Folio.Statement
open Folio.Time (Timestamp)

/-- The primary key of a document. -/
abbrev Key := String × DocumentId

/-- The versions of the rows of each key. -/
abbrev View := Key → Multiset Int64

/-- The versions in a table. -/
def versionsAt (rows : Table) : View :=
  fun k => (rows.filter (·.key = k)).map (·.version)

/-- No two rows have the same key. -/
def View.Keyed (V : View) : Prop :=
  ∀ k, (V k).card ≤ 1

/-- Where there is a version there is a row. -/
theorem View.ne_zero_of_version {V : View} {k : Key} {v : Int64} (there : V k = {v}) : V k ≠ 0 := by
  rw [there]
  exact Multiset.singleton_ne_zero v

theorem View.version_inj {V : View} {k : Key} {v w : Int64} (there : V k = {v})
    (there' : V k = {w}) : v = w :=
  Multiset.singleton_inj.mp (there.symm.trans there')

theorem View.Keyed.cases {V : View} (h : V.Keyed) (k : Key) : V k = 0 ∨ ∃ v, V k = {v} := by
  have small := h k
  rcases Nat.le_one_iff_eq_zero_or_eq_one.mp small with none | one
  · exact .inl (Multiset.card_eq_zero.mp none)
  · exact .inr (Multiset.card_eq_one.mp one)

theorem versionsAt_eq_zero {rows : Table} {k : Key} :
    versionsAt rows k = 0 ↔ rows.filter (·.key = k) = 0 :=
  Multiset.map_eq_zero

/-- The row of a key whose version is known. -/
theorem filter_of_versionsAt {rows : Table} {k : Key} {v : Int64} (h : versionsAt rows k = {v}) :
    ∃ r, rows.filter (·.key = k) = {r} ∧ r.key = k ∧ r.version = v := by
  obtain ⟨r, only, same⟩ := Multiset.map_eq_singleton.mp h
  have mem : r ∈ rows.filter (·.key = k) := by
    rw [only]
    exact Multiset.mem_singleton_self r
  exact ⟨r, only, (Multiset.mem_filter.mp mem).2, same⟩

/-- A row that is there has the version of its key. -/
theorem versionsAt_of_mem {rows : Table} (keyed : (versionsAt rows).Keyed) {r : Record}
    (mem : r ∈ rows) : versionsAt rows r.key = {r.version} := by
  have there : r.version ∈ versionsAt rows r.key :=
    Multiset.mem_map_of_mem _ (Multiset.mem_filter.mpr ⟨mem, rfl⟩)
  rcases keyed.cases r.key with none | ⟨v, one⟩
  · rw [none] at there
    exact absurd there (Multiset.notMem_zero _)
  · rw [one] at there ⊢
    rw [Multiset.mem_singleton.mp there]

theorem versionsAt_cons (new : Record) (rows : Table) (absent : versionsAt rows new.key = 0) :
    versionsAt (new ::ₘ rows) = Function.update (versionsAt rows) new.key {new.version} := by
  funext k
  by_cases same : k = new.key
  · subst same
    rw [Function.update_self, versionsAt, Multiset.filter_cons_of_pos (p := (·.key = new.key)) rows rfl,
      versionsAt_eq_zero.mp absent]
    rfl
  · rw [Function.update_of_ne same, versionsAt,
      Multiset.filter_cons_of_neg (p := (·.key = k)) rows (fun h => same h.symm)]
    rfl

/-- Rows that keep their keys stay where they are. -/
theorem versionsAt_map {rows : Table} {f : Record → Record} (keeps : ∀ r, (f r).key = r.key)
    (k : Key) :
    versionsAt (rows.map f) k = (rows.filter (·.key = k)).map fun r => (f r).version := by
  rw [versionsAt, Multiset.filter_map, Multiset.map_map]
  congr 1
  refine Multiset.filter_congr fun r _ => ?_
  simp [keeps r]

theorem versionsAt_map_of_version {rows : Table} {f : Record → Record}
    (keeps : ∀ r, (f r).key = r.key) (same : ∀ r, (f r).version = r.version) :
    versionsAt (rows.map f) = versionsAt rows := by
  funext k
  rw [versionsAt_map keeps, versionsAt]
  exact Multiset.map_congr rfl fun r _ => same r

theorem versionsAt_filter {rows : Table} (p : Record → Bool) (k : Key) :
    versionsAt (rows.filter (p ·)) k ≤ versionsAt rows k := by
  rw [versionsAt, versionsAt]
  refine Multiset.map_le_map ?_
  exact Multiset.filter_le_filter _ (Multiset.filter_le _ _)

theorem View.Keyed.mono {V V' : View} (h : V.Keyed) (le : ∀ k, V' k ≤ V k) : V'.Keyed :=
  fun k => (Multiset.card_le_card (le k)).trans (h k)

theorem View.Keyed.update {V : View} (h : V.Keyed) (k : Key) (v : Int64) :
    View.Keyed (Function.update V k {v}) := by
  intro k'
  by_cases same : k' = k
  · subst same
    rw [Function.update_self]
    exact (Multiset.card_singleton v).le
  · rw [Function.update_of_ne same]
    exact h k'

/-! ### What was queued -/

/-- The text is the stored form of the document of that identity: whoever reads it reads the
identity back. -/
structure Stores (m : Mapping) (id : DocumentId) (text : String) : Prop where
  kind : id.kind = m.idKind
  reads : ∀ doc, Document.read m.idKind text = .ok doc → doc.id = id

/-- A row of a table of documents, and if it is the tenant's, one that holds its document. -/
structure Sound (m : Mapping) (a : String) (r : Record) : Prop where
  kind : r.id.kind = m.idKind
  reads : r.tenant = a → ∀ doc, Document.read m.idKind r.data = .ok doc → doc.id = r.id

/-- A write as a session of the tenant queues it. -/
inductive Written (m : Mapping) (a : String) : PendingWrite → Prop
  | insert {id data type now} : Stores m id data →
      Written m a ⟨m, .insert id, .insert ⟨m.table, ⟨id.toValue, data, type, a, now⟩⟩⟩
  | update {id data type now} (expected : Option Int64) : Stores m id data →
      Written m a ⟨m, .update id expected,
        .update ⟨m.table, ⟨id.toValue, data, type, a, now⟩, expected⟩⟩
  | store {id data type now} (expected : Option Int64) (revive : Bool) : Stores m id data →
      Written m a ⟨m, .upsert id expected,
        .upsert ⟨m.table, ⟨id.toValue, data, type, a, now⟩, expected, revive⟩⟩
  | delete {id} (soft : Option Timestamp) : id.kind = m.idKind →
      Written m a ⟨m, .delete id, .delete ⟨m.table, id.toValue, a, soft⟩⟩
  | deleteWhere (filters : List Fragment) (soft : Option Timestamp) :
      soft.isSome = m.softDeleted →
      Written m a ⟨m, .bulk, .deleteWhere ⟨m.table, filters, a, soft⟩⟩
  | undeleteWhere (filters : List Fragment) :
      Written m a ⟨m, .bulk, .undeleteWhere ⟨m.table, filters, a⟩⟩

/-- What a queued write can do to the versions in its table when it is accepted. -/
inductive Shift (a : String) (soft : Bool) : WriteKind → View → View → Prop
  | inserted {id : DocumentId} {V : View} : V (a, id) = 0 →
      Shift a soft (.insert id) V (Function.update V (a, id) {1})
  | updated {id : DocumentId} {expected : Option Int64} {V : View} {v : Int64} :
      V (a, id) = {v} → v < Int64.maxValue → (∀ n, expected = some n → n = v) →
      Shift a soft (.update id expected) V (Function.update V (a, id) {v + 1})
  | replaced {id : DocumentId} {expected : Option Int64} {V : View} {v : Int64} :
      V (a, id) = {v} → v < Int64.maxValue → (∀ n, expected = some n → n = v) →
      Shift a soft (.upsert id expected) V (Function.update V (a, id) {v + 1})
  /-- There was no row, whatever version was expected of it. -/
  | created {id : DocumentId} {expected : Option Int64} {V : View} : V (a, id) = 0 →
      Shift a soft (.upsert id expected) V (Function.update V (a, id) {1})
  | deleted {id : DocumentId} {V : View} :
      Shift a soft (.delete id) V (Function.update V (a, id) 0)
  /-- The row was kept and flagged. -/
  | flagged {id : DocumentId} {V : View} : Shift a soft (.delete id) V V
  | swept {V V' : View} : (∀ k, V' k = V k ∨ V' k = 0) → (soft → V' = V) →
      Shift a soft .bulk V V'

/-- Keys stay unique. -/
theorem Shift.keyed {a : String} {soft : Bool} {kind : WriteKind} {V V' : View}
    (shift : Shift a soft kind V V') (keyed : V.Keyed) : V'.Keyed := by
  cases shift with
  | inserted _ => exact keyed.update _ _
  | updated _ _ _ => exact keyed.update _ _
  | replaced _ _ _ => exact keyed.update _ _
  | created _ => exact keyed.update _ _
  | deleted =>
    refine keyed.mono fun k => ?_
    by_cases same : k = (a, ‹DocumentId›)
    · rw [same, Function.update_self]
      exact Multiset.zero_le _
    · rw [Function.update_of_ne same]
  | flagged => exact keyed
  | swept less _ =>
    refine keyed.mono fun k => ?_
    rcases less k with same | gone
    · exact same.le
    · rw [gone]
      exact Multiset.zero_le _

/-! ### Rows -/

theorem rewrite_eq_ok {matched : Record → Bool} {f : Record → Option Record} {rows rows' : Table}
    {n : Nat} (h : rewrite matched f rows = .ok (n, rows')) :
    (∀ r ∈ rows, matched r → (f r).isSome) ∧ n = rows.countP (matched ·) ∧
      rows' = rows.map fun r => if matched r then (f r).getD r else r := by
  rw [rewrite] at h
  split at h
  next possible =>
    simp only [Except.ok.injEq, Prod.mk.injEq] at h
    exact ⟨possible, h.1.symm, h.2.symm⟩
  next => cases h

/-- Where no row matches, nothing is rewritten. -/
theorem rewrite_of_none {matched : Record → Bool} {f : Record → Option Record} {rows : Table}
    (none : ∀ r ∈ rows, matched r = false) : rewrite matched f rows = .ok (0, rows) := by
  have possible : ∀ r ∈ rows, matched r → (f r).isSome := by
    intro r mem m
    rw [none r mem] at m
    cases m
  have counted : rows.countP (matched ·) = 0 := by
    rw [Multiset.countP_eq_zero]
    intro r mem
    simp [none r mem]
  have mapped : (rows.map fun r => if matched r then (f r).getD r else r) = rows := by
    refine (Multiset.map_congr rfl fun r mem => ?_).trans (Multiset.map_id rows)
    simp [none r mem]
  rw [rewrite, if_pos possible, counted, mapped]

section

variable {k : Key} {expected : Option Int64} {data type : String} {now : Timestamp} {revive : Bool}

theorem Record.isAt_iff {r : Record} :
    r.isAt k expected = true ↔ r.key = k ∧ ∀ n, expected = some n → n = r.version := by
  cases expected with
  | none => simp [Record.isAt]
  | some x =>
    simp only [Record.isAt, Option.all_some, Bool.and_eq_true, decide_eq_true_eq,
      Option.some.injEq, forall_eq']
    rw [eq_comm (a := r.version)]

theorem Record.rewritten_eq_some {r r' : Record} (h : r.rewritten data type now revive = some r') :
    r.version < Int64.maxValue ∧ r'.key = r.key ∧ r'.version = r.version + 1 ∧ r'.data = data := by
  rw [Record.rewritten] at h
  split at h
  next room =>
    obtain rfl := Option.some.inj h
    exact ⟨room, rfl, rfl, rfl⟩
  next => cases h

/-- A row after it was written, if it is the one. -/
def written (k : Key) (expected : Option Int64) (data type : String) (now : Timestamp)
    (revive : Bool) (r : Record) : Record :=
  if r.isAt k expected then (r.rewritten data type now revive).getD r else r

theorem written_key (r : Record) : (written k expected data type now revive r).key = r.key := by
  rw [written]
  split
  · cases h : r.rewritten data type now revive with
    | none => rfl
    | some r' => exact (Record.rewritten_eq_some h).2.1
  · rfl

/-- Writing the only row of a key counts its version up by one, and nothing else. -/
theorem versionsAt_written {rows : Table} {r r' : Record}
    (only : rows.filter (·.key = k) = {r}) (isAt : r.isAt k expected = true)
    (rewritten : r.rewritten data type now revive = some r') :
    versionsAt (rows.map (written k expected data type now revive)) =
      Function.update (versionsAt rows) k {r.version + 1} := by
  obtain ⟨-, -, next, -⟩ := Record.rewritten_eq_some rewritten
  funext k'
  rw [versionsAt_map written_key]
  by_cases same : k' = k
  · subst same
    rw [Function.update_self, only, Multiset.map_singleton, written, if_pos isAt, rewritten,
      Option.getD_some, next]
  · rw [Function.update_of_ne same, versionsAt]
    refine Multiset.map_congr rfl fun s mem => ?_
    have other : ¬s.isAt k expected = true := by
      rw [Record.isAt_iff]
      intro at_k
      exact same ((Multiset.mem_filter.mp mem).2.symm.trans at_k.1)
    rw [written, if_neg other]

/-- A rewriting counts the version of the row up by one, or it has met no row. -/
theorem versionsAt_rewrite {rows rows' : Table} {n : Nat} (keyed : (versionsAt rows).Keyed)
    (h : rewrite (·.isAt k expected) (·.rewritten data type now revive) rows = .ok (n, rows')) :
    (n = 0 ∧ versionsAt rows' = versionsAt rows ∧
      ∀ v, versionsAt rows k = {v} → ∃ x, expected = some x ∧ x ≠ v) ∨
    ∃ v, versionsAt rows k = {v} ∧ v < Int64.maxValue ∧ (∀ x, expected = some x → x = v) ∧
      versionsAt rows' = Function.update (versionsAt rows) k {v + 1} := by
  -- a row at another version than the expected one is as good as none
  have unmatched (none : ∀ v, versionsAt rows k = {v} → ¬∀ x, expected = some x → x = v) :
      n = 0 ∧ versionsAt rows' = versionsAt rows := by
    have passed : ∀ r ∈ rows, r.isAt k expected = false := by
      intro r mem
      rw [Bool.eq_false_iff, ne_eq, Record.isAt_iff]
      intro at_k
      obtain ⟨same, meets⟩ := at_k
      have one := versionsAt_of_mem keyed mem
      rw [same] at one
      exact none r.version one meets
    rw [rewrite_of_none passed] at h
    obtain ⟨zero, same⟩ := Prod.mk.inj (Except.ok.inj h)
    exact ⟨zero.symm, by rw [same]⟩
  rcases keyed.cases k with absent | ⟨v, there⟩
  · left
    obtain ⟨zero, same⟩ := unmatched fun v one => absurd absent (View.ne_zero_of_version one)
    exact ⟨zero, same, fun v one => absurd absent (View.ne_zero_of_version one)⟩
  · have its (w : Int64) (one : versionsAt rows k = {w}) : v = w := View.version_inj there one
    by_cases meets : ∀ x, expected = some x → x = v
    · right
      obtain ⟨r, only, key, rfl⟩ := filter_of_versionsAt there
      obtain ⟨possible, -, rfl⟩ := rewrite_eq_ok h
      have found : r ∈ rows.filter (·.key = k) := by
        rw [only]
        exact Multiset.mem_singleton_self r
      have isAt : r.isAt k expected = true := Record.isAt_iff.mpr ⟨key, meets⟩
      obtain ⟨r', rewritten⟩ :=
        Option.isSome_iff_exists.mp (possible r (Multiset.mem_filter.mp found).1 isAt)
      have room := (Record.rewritten_eq_some rewritten).1
      exact ⟨r.version, there, room, meets, versionsAt_written only isAt rewritten⟩
    · left
      obtain ⟨zero, same⟩ := unmatched fun w one => its w one ▸ meets
      push Not at meets
      obtain ⟨x, expects, differs⟩ := meets
      exact ⟨zero, same, fun w one => ⟨x, expects, its w one ▸ differs⟩⟩

end

theorem within_eq_ok {K K' : Content} {table : TableName} {c : Changed} {n : Nat}
    (h : within K table c = .ok (n, K')) :
    ∃ rows, c = .ok (n, rows) ∧ K' = Function.update K table rows := by
  rcases c with e | ⟨m, rows⟩
  · cases h
  · simp only [within, Except.map, Except.ok.injEq, Prod.mk.injEq] at h
    obtain ⟨rfl, rfl⟩ := h
    exact ⟨rows, rfl, rfl⟩

/-! ### Soundness of rows -/

section

variable {m : Mapping} {a : String}

theorem Sound.fresh {id : DocumentId} {data type : String} {now : Timestamp}
    (stores : Stores m id data) : Sound m a (Library.freshRow id data type a now) :=
  ⟨stores.kind, fun _ => stores.reads⟩

/-- Only the row of the document is given its text. -/
theorem Sound.written {id : DocumentId} {expected : Option Int64} {data type : String}
    {now : Timestamp} {revive : Bool} {r : Record} (stores : Stores m id data)
    (sound : Sound m a r) : Sound m a (written (a, id) expected data type now revive r) := by
  rw [Folio.written]
  split
  next isAt =>
    cases rewritten : r.rewritten data type now revive with
    | none => exact sound
    | some r' =>
      obtain ⟨-, same, -, text⟩ := Record.rewritten_eq_some rewritten
      have its : r'.id = id := by
        rw [(Record.isAt_iff.mp isAt).1] at same
        exact (Record.key_eq_iff.mp same).2
      refine ⟨?_, fun _ => ?_⟩
      · rw [Option.getD_some, its]
        exact stores.kind
      · rw [Option.getD_some, its, text]
        exact stores.reads
  next => exact sound

theorem Sound.rewrite {id : DocumentId} {expected : Option Int64} {data type : String}
    {now : Timestamp} {revive : Bool} {rows rows' : Table} {n : Nat} (stores : Stores m id data)
    (sound : ∀ r ∈ rows, Sound m a r)
    (h : Relational.rewrite (·.isAt (a, id) expected) (·.rewritten data type now revive) rows =
      .ok (n, rows')) :
    ∀ r ∈ rows', Sound m a r := by
  obtain ⟨-, -, rfl⟩ := rewrite_eq_ok h
  intro r mem
  obtain ⟨r, there, rfl⟩ := Multiset.mem_map.mp mem
  exact (sound r there).written stores

/-- Flagging keeps what makes a row sound. -/
theorem Sound.map {f : Record → Record} (same : ∀ r, (f r).id = r.id ∧ (f r).data = r.data ∧
    (f r).tenant = r.tenant) {rows : Table} (sound : ∀ r ∈ rows, Sound m a r) :
    ∀ r ∈ rows.map f, Sound m a r := by
  intro r mem
  obtain ⟨r, there, rfl⟩ := Multiset.mem_map.mp mem
  obtain ⟨kind, reads⟩ := sound r there
  obtain ⟨id, data, tenant⟩ := same r
  refine ⟨?_, ?_⟩
  · rw [id]
    exact kind
  · rw [id, data, tenant]
    exact reads

end

/-! ### Deleted rows -/

/-- Rows that were deleted softly keep their versions. -/
theorem versionsAt_deleted (t : Timestamp) (matched : Record → Bool) (rows : Table) :
    versionsAt (Library.deleted (some t) matched rows).2 = versionsAt rows := by
  refine versionsAt_map_of_version (fun r => ?_) fun r => ?_
  · split <;> rfl
  · split <;> rfl

theorem Sound.deleted {m : Mapping} {a : String} {rows : Table} (sound : ∀ r ∈ rows, Sound m a r)
    (soft : Option Timestamp) (matched : Record → Bool) :
    ∀ r ∈ (Library.deleted soft matched rows).2, Sound m a r := by
  cases soft with
  | none => exact fun r mem => sound r (Multiset.mem_filter.mp mem).1
  | some t =>
    refine Sound.map (fun r => ?_) sound
    split <;> exact ⟨rfl, rfl, rfl⟩

/-- A row that is removed by its key leaves the others. -/
theorem versionsAt_remove (rows : Table) (k : Key) :
    versionsAt (rows.filter fun r => !decide (r.key = k)) =
      Function.update (versionsAt rows) k 0 := by
  funext k'
  rw [versionsAt, Multiset.filter_filter]
  by_cases same : k' = k
  · subst same
    rw [Function.update_self, Multiset.map_eq_zero, Multiset.filter_eq_nil]
    simp
  · rw [Function.update_of_ne same, versionsAt]
    congr 1
    refine Multiset.filter_congr fun r _ => ?_
    simp only [Bool.not_eq_true', decide_eq_false_iff_not, and_iff_left_iff_imp]
    intro h
    subst h
    exact same

/-- Where keys are unique, removing rows removes their versions. -/
theorem versionsAt_filter_cases {rows : Table} (keyed : (versionsAt rows).Keyed)
    (p : Record → Bool) (k : Key) :
    versionsAt (rows.filter (p ·)) k = versionsAt rows k ∨ versionsAt (rows.filter (p ·)) k = 0 := by
  have less : versionsAt (rows.filter (p ·)) k ≤ versionsAt rows k := versionsAt_filter p k
  rcases keyed.cases k with absent | ⟨v, there⟩
  · rw [absent] at less
    exact .inr (Multiset.le_zero.mp less)
  · rw [there] at less ⊢
    exact (Multiset.le_singleton.mp less).symm.imp_left id

/-! ### Queued writes -/

/-- A new row is at version 1, under its own key. -/
theorem versionsAt_fresh {rows : Table} {id : DocumentId} {data type a : String} {now : Timestamp}
    (free : versionsAt rows (a, id) = 0) :
    versionsAt (Library.freshRow id data type a now ::ₘ rows) =
      Function.update (versionsAt rows) (a, id) {1} :=
  versionsAt_cons _ _ free

theorem Sound.cons {m : Mapping} {a : String} {new : Record} {rows : Table} (h : Sound m a new)
    (sound : ∀ r ∈ rows, Sound m a r) : ∀ r ∈ new ::ₘ rows, Sound m a r := by
  intro r mem
  rcases Multiset.mem_cons.mp mem with rfl | mem
  · exact h
  · exact sound r mem

/-- A store that is accepted inserts the row if there is none, and else rewrites it. -/
theorem upserted_shift {m : Mapping} {a : String} {id : DocumentId} {data type : String}
    {now : Timestamp} {expected : Option Int64} {revive soft : Bool} {rows rows' : Table} {n : Nat}
    (stores : Stores m id data) (sound : ∀ r ∈ rows, Sound m a r)
    (keyed : (versionsAt rows).Keyed)
    (changed : Library.upserted (a, id) expected (Library.freshRow id data type a now)
      (·.rewritten data type now revive) rows = .ok (n, rows'))
    (accepted : n = 0 → expected = none) :
    (∀ r ∈ rows', Sound m a r) ∧
      Shift a soft (.upsert id expected) (versionsAt rows) (versionsAt rows') := by
  unfold Library.upserted at changed
  split at changed
  next absent =>
    obtain ⟨-, rfl⟩ := Prod.mk.inj (Except.ok.inj changed)
    have free := versionsAt_eq_zero.mpr absent
    refine ⟨Sound.cons (.fresh stores) sound, ?_⟩
    rw [versionsAt_fresh free]
    exact .created free
  next taken =>
    refine ⟨Sound.rewrite stores sound changed, ?_⟩
    rcases versionsAt_rewrite keyed changed with ⟨rfl, -, missed⟩ | ⟨v, there, room, meets, same⟩
    · -- There is a row, so it is not at the version that is expected: a conflict.
      rcases keyed.cases (a, id) with absent | ⟨v, there⟩
      · exact absurd (versionsAt_eq_zero.mp absent) taken
      · obtain ⟨x, known, -⟩ := missed v there
        rw [accepted rfl] at known
        cases known
    · rw [same]
      exact .replaced there room meets

/-- Rows that are no longer flagged keep their versions. -/
theorem versionsAt_revived (matched : Record → Bool) (rows : Table) :
    versionsAt (rows.map fun r => if matched r then r.revived else r) = versionsAt rows := by
  refine versionsAt_map_of_version (fun r => ?_) fun r => ?_
  · split <;> rfl
  · split <;> rfl

/-- An accepted write shifts the versions in its table, and leaves other tables alone. -/
theorem Written.shift {L : Library} {d : Sql.Dialect} {m : Mapping} {a : String} {p : PendingWrite}
    {K K' : Content} {n : Nat} (queued : Written m a p) (sound : ∀ r ∈ K m.table, Sound m a r)
    (keyed : (versionsAt (K m.table)).Keyed) (effect : L.effect d p.statement K = .ok (n, K'))
    (accepted : p.judge (.ok n) = .ok ()) :
    ∃ rows, K' = Function.update K m.table rows ∧ (∀ r ∈ rows, Sound m a r) ∧
      Shift a m.softDeleted p.kind (versionsAt (K m.table)) (versionsAt rows) := by
  have kinds {id : DocumentId} (kind : id.kind = m.idKind) :
      ∀ r ∈ K m.table, r.id.kind = id.kind := by
    intro r mem
    rw [(sound r mem).kind, kind]
  cases queued with
  | insert stores =>
    rw [L.effect_insert (kinds stores.kind)] at effect
    obtain ⟨rows, changed, rfl⟩ := within_eq_ok effect
    split at changed
    next absent =>
      obtain ⟨-, rfl⟩ := Prod.mk.inj (Except.ok.inj changed)
      have free := versionsAt_eq_zero.mpr absent
      refine ⟨_, rfl, Sound.cons (.fresh stores) sound, ?_⟩
      rw [versionsAt_fresh free]
      exact .inserted free
    next => cases changed
  | update expected stores =>
    rw [L.effect_update (kinds stores.kind)] at effect
    obtain ⟨rows, changed, rfl⟩ := within_eq_ok effect
    refine ⟨rows, rfl, Sound.rewrite stores sound changed, ?_⟩
    rcases versionsAt_rewrite keyed changed with ⟨rfl, -, -⟩ | ⟨v, there, room, meets, same⟩
    · cases expected <;> cases accepted
    · rw [same]
      exact .updated there room meets
  | store expected revive stores =>
    rw [L.effect_upsert (kinds stores.kind)] at effect
    obtain ⟨rows, changed, rfl⟩ := within_eq_ok effect
    refine ⟨rows, rfl, upserted_shift stores sound keyed changed ?_⟩
    intro none
    subst none
    cases expected with
    | none => rfl
    | some v => cases accepted
  | delete soft kind =>
    rw [L.effect_delete (kinds kind)] at effect
    obtain ⟨rows, changed, rfl⟩ := within_eq_ok effect
    obtain rfl := congrArg Prod.snd (Except.ok.inj changed)
    refine ⟨_, rfl, Sound.deleted sound soft _, ?_⟩
    cases soft with
    | none =>
      show Shift a m.softDeleted _ _ (versionsAt ((K m.table).filter _))
      rw [versionsAt_remove]
      exact .deleted
    | some t =>
      rw [versionsAt_deleted]
      exact .flagged
  | deleteWhere filters soft keeps =>
    obtain ⟨matched, -, does⟩ := L.effect_deleteWhere d m.table filters a soft
    rw [does] at effect
    obtain ⟨rows, changed, rfl⟩ := within_eq_ok effect
    obtain rfl := congrArg Prod.snd (Except.ok.inj changed)
    refine ⟨_, rfl, Sound.deleted sound soft _, ?_⟩
    cases soft with
    | none =>
      refine .swept (fun k => versionsAt_filter_cases keyed _ k) fun isSoft => ?_
      rw [isSoft] at keeps
      cases keeps
    | some t =>
      rw [versionsAt_deleted]
      exact .swept (fun _ => .inl rfl) fun _ => rfl
  | undeleteWhere filters =>
    obtain ⟨matched, -, does⟩ := L.effect_undeleteWhere d m.table filters a
    rw [does] at effect
    obtain ⟨rows, changed, rfl⟩ := within_eq_ok effect
    obtain rfl := congrArg Prod.snd (Except.ok.inj changed)
    refine ⟨_, rfl, Sound.map (fun r => ?_) sound, ?_⟩
    · split <;> exact ⟨rfl, rfl, rfl⟩
    · rw [versionsAt_revived]
      exact .swept (fun _ => .inl rfl) fun _ => rfl

end Folio
