import Folio.Proofs.Statement.Binding

/-!
# Folio.Proofs.Relational.Writes

What each write statement does to the rows of its table, in terms of rows instead of
conditions and assignments. Both dialects come to the same (`Library.effect_upsert`).
-/

namespace Folio.Relational

open Folio.Sql
open Folio.Statement
open Folio.Time (Timestamp)

/-- Is it the row of this key, at the expected version if one is given? -/
def Record.isAt (k : String × DocumentId) (expected : Option Int64) (r : Record) : Bool :=
  r.key = k && expected.all (r.version = ·)

/-- The row written once more. There is no version beyond 64 bits. -/
def Record.rewritten (data type : String) (now : Timestamp) (revive : Bool) (r : Record) :
    Option Record :=
  if r.version < Int64.maxValue then
    some { r with
      data
      version := r.version + 1
      modified := now
      type
      deleted := if revive then false else r.deleted
      deletedAt := if revive then none else r.deletedAt }
  else none

/-- The row flagged as deleted. -/
def Record.flagged (t : Timestamp) (r : Record) : Record :=
  { r with deleted := true, deletedAt := some t }

/-- The row no longer flagged as deleted. -/
def Record.revived (r : Record) : Record :=
  { r with deleted := false, deletedAt := none }

/-- A change of one table within the contents of all. -/
def within (K : Content) (table : TableName) (c : Changed) : Except Refusal (Nat × Content) :=
  c.map fun (n, rows) => (n, Function.update K table rows)

theorem Record.key_eq_iff {r : Record} {a : String} {id : DocumentId} :
    r.key = (a, id) ↔ r.tenant = a ∧ r.id = id := by
  simp [Record.key]

/-! ### Rewriting -/

theorem rewrite_congr {matched matched' : Record → Bool} {f f' : Record → Option Record}
    {rows : Table} (same : ∀ r ∈ rows, matched r = matched' r)
    (does : ∀ r ∈ rows, matched' r → f r = f' r) :
    rewrite matched f rows = rewrite matched' f' rows := by
  have possible : (∀ r ∈ rows, matched r → (f r).isSome) ↔
      ∀ r ∈ rows, matched' r → (f' r).isSome := by
    refine forall_congr' fun r => forall_congr' fun mem => ?_
    rw [same r mem]
    refine forall_congr' fun m => ?_
    rw [does r mem m]
  have counted : rows.countP (matched ·) = rows.countP (matched' ·) :=
    Multiset.countP_congr rfl fun r mem => by rw [same r mem]
  have mapped : (rows.map fun r => if matched r then (f r).getD r else r) =
      rows.map fun r => if matched' r then (f' r).getD r else r := by
    refine Multiset.map_congr rfl fun r mem => ?_
    rw [same r mem]
    split
    next m => rw [does r mem m]
    next => rfl
  rw [rewrite, rewrite, counted, mapped]
  by_cases h : ∀ r ∈ rows, matched' r → (f' r).isSome
  · rw [if_pos h, if_pos (possible.mpr h)]
  · rw [if_neg h, if_neg (mt possible.mp h)]

namespace Library

variable (L : Library)

/-- What a statement that changes a table does. -/
theorem effect_of_tree {d : Dialect} {s : Statement} {c : Change} {params : Array Value}
    {table : TableName} {K : Content} {after : Changed}
    (tree : s.tree d #[] = (.change c, params)) (concerns : tableOfChange c = table)
    (does : L.change params.toList c (K table) = after) :
    L.effect d s K = within K table after := by
  subst concerns does
  rw [effect, tree]
  rfl

theorem truth_columnIs (env : Env) (name : String) (t : Term) :
    L.truth env (columnIs name t) = L.equal (env.column name) (L.term env t) := rfl

/-- A row's key is compared exactly. -/
theorem all_key {r : Record} {id : DocumentId} {a : String} {params : List Value}
    {i j : Term} {q : List Condition} (kind : r.id.kind = id.kind)
    (hi : L.term (r.env params) i = id.toValue) (hj : L.term (r.env params) j = .text a) :
    L.all (r.env params) ([columnIs idColumn i, columnIs tenantColumn j] ++ q) =
      (decide (r.key = (a, id)) && L.all (r.env params) q) := by
  have own : L.truth (r.env params) (columnIs idColumn i) = some true ↔ r.id = id := by
    rw [truth_columnIs, hi]
    exact L.equal_toValue kind
  have mine : L.truth (r.env params) (columnIs tenantColumn j) = some true ↔ r.tenant = a := by
    rw [truth_columnIs, hj]
    exact L.equal_text
  simp only [all, List.all_append, List.all_cons, List.all_nil, own, mine, Record.key_eq_iff,
    Bool.and_true, Bool.decide_and, Bool.and_comm (decide (r.id = id))]

/-- A row's version is compared exactly. -/
theorem all_version {env : Env} {version slot : Term} {v n : Int64}
    (hv : L.term env version = .int64 v) (hn : L.term env slot = .int64 n) :
    L.all env [.compare version .eq slot] = decide (v = n) := by
  have compared : L.truth env (.compare version .eq slot) = some true ↔ v = n := by
    show L.equal (L.term env version) (L.term env slot) = some true ↔ _
    rw [hv, hn]
    exact L.equal_int64
  simp only [all, List.all_cons, List.all_nil, Bool.and_true, compared]

/-- Conditions of a tenant are true of that tenant's rows only. -/
theorem tenant_of_all {a : String} {conditions : List Condition} {params : List Value} {r : Record}
    (mine : TenantIn a conditions params) (h : L.all (r.env params) conditions) :
    r.tenant = a := by
  obtain ⟨i, mem, bound⟩ := mine
  have own : L.truth (r.env params) (.compare (.column tenantColumn) .eq (.slot (i + 1))) =
      some true := by
    simpa using List.all_eq_true.mp h _ mem
  change L.equal (.text r.tenant) ((params[i + 1 - 1]?).getD .null) = some true at own
  rw [Nat.add_sub_cancel, bound] at own
  exact L.equal_text.mp own

section

variable {L} {d : Dialect} {table : TableName} {K : Content} {id : DocumentId}
  {data type a : String} {now : Timestamp}

/-- The row that is written where there is none. -/
def freshRow (id : DocumentId) (data type a : String) (now : Timestamp) : Record :=
  ⟨id, data, 1, now, type, a, false, none⟩

@[simp] theorem freshRow_key : (freshRow id data type a now).key = (a, id) := rfl

/-- A new row has a key of its own. -/
theorem add_eq {new : Record} {rows : Table} (kinds : ∀ r ∈ rows, r.id.kind = new.id.kind) :
    L.add new rows =
      if rows.filter (·.key = new.key) = 0 then .ok (1, new ::ₘ rows) else .error .duplicate := by
  have same : rows.filter (L.agreeIn keyColumns · new) = rows.filter (·.key = new.key) := by
    refine Multiset.filter_congr fun r mem => ?_
    simp [agreeIn, keyColumns, L.equal_text, L.equal_toValue (kinds r mem), Record.key]
  rw [add, same]

theorem effect_insert (kinds : ∀ r ∈ K table, r.id.kind = id.kind) :
    L.effect d (.insert ⟨table, ⟨id.toValue, data, type, a, now⟩⟩) K =
      within K table (if (K table).filter (·.key = (a, id)) = 0 then
        .ok (1, freshRow id data type a now ::ₘ K table) else .error .duplicate) := by
  have tree : Statement.tree d (.insert ⟨table, ⟨id.toValue, data, type, a, now⟩⟩) #[] =
      (.change (.insert table insertColumns
        [.slot 1, .slot 2, .number 1, .slot 3, .slot 4, .slot 5]),
        #[id.toValue, .text data, .timestamp now, .text type, .text a]) := rfl
  have new : L.newRow (noRow [id.toValue, .text data, .timestamp now, .text type, .text a])
      insertColumns [.slot 1, .slot 2, .number 1, .slot 3, .slot 4, .slot 5] =
        some (freshRow id data type a now) := by
    cases id <;> rfl
  refine L.effect_of_tree tree rfl ?_
  rw [change, new]
  simp only
  rw [add_eq kinds, freshRow_key]

/-- What the assignments of a write come to, whatever names they go by. -/
theorem assigned_write (column : String → Term) (revive : Bool) {env : Env} {r : Record}
    {text version modified kind : Term} (named : ∀ name, columnName (column name) = name) (htext : L.term env text = .text data)
    (hversion : L.term env version = .int64 r.version)
    (hmodified : L.term env modified = .timestamp now) (hkind : L.term env kind = .text type) :
    L.assigned env
        ([⟨column dataColumn, text⟩, ⟨column versionColumn, .next version⟩,
          ⟨column modifiedColumn, modified⟩, ⟨column typeColumn, kind⟩] ++
          if revive then reviving column else []) r =
      r.rewritten data type now revive := by
  have counted : L.term env (.next version) =
      if r.version < Int64.maxValue then .int64 (r.version + 1) else .null := by
    rw [term, hversion]
    rfl
  have flag : L.term env (.number 0) = .int64 0 := rfl
  have moment : L.term env .null = .null := rfl
  -- the last version cannot be counted up, and so the row cannot be rewritten
  by_cases room : r.version < Int64.maxValue
  · cases revive <;>
      simp [assigned, reviving, named, htext, counted, hmodified, hkind, flag, moment,
        Record.rewritten, room]
  · simp [assigned, named, htext, counted, Record.rewritten, room]

theorem effect_update (kinds : ∀ r ∈ K table, r.id.kind = id.kind) (expected : Option Int64) :
    L.effect d (.update ⟨table, ⟨id.toValue, data, type, a, now⟩, expected⟩) K =
      within K table
        (rewrite (·.isAt (a, id) expected) (·.rewritten data type now false) (K table)) := by
  have writes {params : List Value} (r : Record)
      (h1 : L.term (r.env params) (.slot 1) = .text data)
      (h2 : L.term (r.env params) (.slot 2) = .timestamp now)
      (h3 : L.term (r.env params) (.slot 3) = .text type) :
      L.assigned (r.env params)
        [setColumn dataColumn (.slot 1), setColumn versionColumn (.next (.column versionColumn)),
          setColumn modifiedColumn (.slot 2), setColumn typeColumn (.slot 3)] r =
        r.rewritten data type now false :=
    assigned_write .column false (fun _ => rfl) h1 rfl h2 h3
  cases expected with
  | none =>
    have tree : Statement.tree d (.update ⟨table, ⟨id.toValue, data, type, a, now⟩, none⟩) #[] =
      (.change (.update table
        [setColumn dataColumn (.slot 1), setColumn versionColumn (.next (.column versionColumn)),
          setColumn modifiedColumn (.slot 2), setColumn typeColumn (.slot 3)]
        [columnIs idColumn (.slot 4), columnIs tenantColumn (.slot 5)]),
        #[.text data, .timestamp now, .text type, id.toValue, .text a]) := rfl
    refine L.effect_of_tree tree rfl (rewrite_congr (fun r mem => ?_) fun r _ _ => ?_)
    · exact L.all_key (kinds r mem) rfl rfl
    · exact writes r rfl rfl rfl
  | some n =>
    have tree : Statement.tree d (.update ⟨table, ⟨id.toValue, data, type, a, now⟩, some n⟩) #[] =
      (.change (.update table
        [setColumn dataColumn (.slot 1), setColumn versionColumn (.next (.column versionColumn)),
          setColumn modifiedColumn (.slot 2), setColumn typeColumn (.slot 3)]
        ([columnIs idColumn (.slot 4), columnIs tenantColumn (.slot 5)] ++
          [.compare (.column versionColumn) .eq (.slot 6)])),
        #[.text data, .timestamp now, .text type, id.toValue, .text a, .int64 n]) := rfl
    refine L.effect_of_tree tree rfl (rewrite_congr (fun r mem => ?_) fun r _ _ => ?_)
    · rw [L.all_key (kinds r mem) rfl rfl, L.all_version rfl rfl]
      rfl
    · exact writes r rfl rfl rfl

/-- The rows after an insert or an update, whichever it takes. -/
def upserted (k : String × DocumentId) (expected : Option Int64) (new : Record)
    (f : Record → Option Record) (rows : Table) : Changed :=
  if rows.filter (·.key = k) = 0 then .ok (1, new ::ₘ rows) else rewrite (·.isAt k expected) f rows

/-- A merge by the key and the version. -/
theorem merge_eq {params : List Value} {m : Merge} {rows : Table} {expected : Option Int64}
    {revive : Bool} {i j : Term} (kinds : ∀ r ∈ rows, r.id.kind = id.kind)
    (key : m.key = [(i, idColumn), (j, tenantColumn)])
    (hi : L.term (noRow params) i = id.toValue) (hj : L.term (noRow params) j = .text a)
    (new : L.newRow (L.mergeEnv params m fun _ => .null) m.columns m.values =
      some (freshRow id data type a now))
    (matched : ∀ r : Record, L.all (L.mergeEnv params m r.get) m.matched =
      expected.all (r.version = ·))
    (writes : ∀ r : Record, L.assigned (L.mergeEnv params m r.get) m.updates r =
      r.rewritten data type now revive) :
    L.merge params m rows = upserted (a, id) expected (freshRow id data type a now)
      (·.rewritten data type now revive) rows := by
  have given_id : L.given params m idColumn = id.toValue := by
    rw [given, key]
    exact hi
  have given_tenant : L.given params m tenantColumn = .text a := by
    rw [given, key]
    exact hj
  -- the merge finds exactly the row of the key, whichever way its terms are compared
  have own : ∀ r ∈ rows, L.hasKey params m r = decide (r.key = (a, id)) := by
    intro r mem
    simp [hasKey, key, given_id, given_tenant, L.equal_text, L.equal_toValue (kinds r mem),
      Record.key_eq_iff, Bool.and_comm]
  have found : rows.filter (L.hasKey params m ·) = rows.filter (·.key = (a, id)) :=
    Multiset.filter_congr fun r mem => by simp [own r mem]
  rw [merge, upserted, found]
  split
  next absent =>
    rw [new]
    simp only
    rw [add_eq kinds, freshRow_key, if_pos absent]
  next =>
    refine rewrite_congr (fun r mem => ?_) fun r _ _ => writes r
    rw [own r mem, matched r]
    rfl

/-- An insert that becomes an update where there is a row of its key. -/
theorem insertOrUpdate_eq {params : List Value} {i : InsertOrUpdate} {rows : Table}
    {expected : Option Int64} {revive : Bool} (kinds : ∀ r ∈ rows, r.id.kind = id.kind)
    (key : i.key = keyColumns)
    (new : L.newRow (noRow params) i.columns i.values = some (freshRow id data type a now))
    (matched : ∀ r : Record,
      L.all (conflictEnv params (freshRow id data type a now) r) i.matched =
        expected.all (r.version = ·))
    (writes : ∀ r : Record,
      L.assigned (conflictEnv params (freshRow id data type a now) r) i.updates r =
        r.rewritten data type now revive) :
    L.insertOrUpdate params i rows = upserted (a, id) expected (freshRow id data type a now)
      (·.rewritten data type now revive) rows := by
  have own : ∀ r ∈ rows, L.agreeIn i.key r (freshRow id data type a now) =
      decide (r.key = (a, id)) := by
    intro r mem
    have same := L.equal_toValue (kinds r mem)
    simp [agreeIn, key, keyColumns, freshRow, L.equal_text, same, Record.key_eq_iff]
  have found : rows.filter (L.agreeIn i.key · (freshRow id data type a now)) =
      rows.filter (·.key = (a, id)) :=
    Multiset.filter_congr fun r mem => by simp [own r mem]
  rw [insertOrUpdate, new, upserted]
  simp only
  rw [found]
  split
  next absent => rw [add_eq kinds, freshRow_key, if_pos absent]
  next =>
    refine rewrite_congr (fun r mem => ?_) fun r _ _ => writes r
    rw [own r mem, matched r]
    rfl

/-- SQL Server's upsert, by the parameters that it binds. -/
theorem merge_upsert {rows : Table} (kinds : ∀ r ∈ rows, r.id.kind = id.kind)
    (expected : Option Int64) (revive : Bool) :
    let (m, params) := Upsert.toMerge ⟨table, ⟨id.toValue, data, type, a, now⟩, expected, revive⟩ #[]
    L.merge params.toList m rows =
      upserted (a, id) expected (freshRow id data type a now)
        (·.rewritten data type now revive) rows := by
  cases expected with
  | none =>
    refine merge_eq kinds rfl rfl rfl (by cases id <;> rfl) (fun _ => rfl) fun r => ?_
    exact assigned_write (Term.columnOf .target) revive (fun _ => rfl) rfl rfl rfl rfl
  | some n =>
    refine merge_eq kinds rfl rfl rfl (by cases id <;> rfl) (fun r => ?_) fun r => ?_
    · exact L.all_version rfl rfl
    · exact assigned_write (Term.columnOf .target) revive (fun _ => rfl) rfl rfl rfl rfl

/-- SQLite's upsert, by the parameters that it binds. -/
theorem insertOrUpdate_upsert {rows : Table} (kinds : ∀ r ∈ rows, r.id.kind = id.kind)
    (expected : Option Int64) (revive : Bool) :
    let (i, params) :=
      Upsert.toInsertOrUpdate ⟨table, ⟨id.toValue, data, type, a, now⟩, expected, revive⟩ #[]
    L.insertOrUpdate params.toList i rows =
      upserted (a, id) expected (freshRow id data type a now)
        (·.rewritten data type now revive) rows := by
  cases expected with
  | none =>
    refine insertOrUpdate_eq kinds rfl (by cases id <;> rfl) (fun _ => rfl) fun r => ?_
    exact assigned_write .column revive (fun _ => rfl) rfl rfl rfl rfl
  | some n =>
    refine insertOrUpdate_eq kinds rfl (by cases id <;> rfl) (fun r => ?_) fun r => ?_
    · exact L.all_version rfl rfl
    · exact assigned_write .column revive (fun _ => rfl) rfl rfl rfl rfl

theorem effect_upsert (kinds : ∀ r ∈ K table, r.id.kind = id.kind) (expected : Option Int64)
    (revive : Bool) :
    L.effect d (.upsert ⟨table, ⟨id.toValue, data, type, a, now⟩, expected, revive⟩) K =
      within K table
        (upserted (a, id) expected (freshRow id data type a now)
          (·.rewritten data type now revive) (K table)) := by
  cases d with
  | mssql => exact L.effect_of_tree rfl rfl (merge_upsert kinds expected revive)
  | sqlite => exact L.effect_of_tree rfl rfl (insertOrUpdate_upsert kinds expected revive)

/-! ### Deletions -/

/-- Where deletions keep the rows, they flag them; else the rows are gone. -/
def deleted (soft : Option Timestamp) (matched : Record → Bool) (rows : Table) : Nat × Table :=
  (rows.countP (matched ·), match soft with
    | none => rows.filter (!matched ·)
    | some t => rows.map fun r => if matched r then r.flagged t else r)

/-- Assignments that are always possible. -/
theorem rewrite_total {matched : Record → Bool} {f : Record → Option Record}
    {g : Record → Record} (does : ∀ r, f r = some (g r)) (rows : Table) :
    rewrite matched f rows =
      .ok (rows.countP (matched ·), rows.map fun r => if matched r then g r else r) := by
  have possible : ∀ r ∈ rows, matched r → (f r).isSome := fun r _ _ => by simp [does r]
  have mapped : (rows.map fun r => if matched r then (f r).getD r else r) =
      rows.map fun r => if matched r then g r else r :=
    Multiset.map_congr rfl fun r _ => by simp [does r]
  rw [rewrite, if_pos possible, mapped]

/-- Setting the flag of a deletion. -/
theorem change_deletion {params : List Value} {conditions : List Condition} {slot : Term}
    (t : Timestamp) (h : ∀ r : Record, L.term (r.env params) slot = .timestamp t) (rows : Table) :
    L.change params (.update table
        [setColumn deletedColumn (.number 1), setColumn deletedAtColumn slot] conditions) rows =
      .ok (deleted (some t) (fun r => L.all (r.env params) conditions) rows) := by
  rw [change, deleted]
  refine rewrite_total (fun r => ?_) rows
  have flag : L.term (r.env params) (.number 1) = .int64 1 := rfl
  simp [assigned, setColumn, columnName, flag, h r, Record.flagged]

theorem change_revival {params : List Value} {conditions : List Condition} (rows : Table) :
    L.change params (.update table (reviving .column) conditions) rows =
      .ok (rows.countP (fun r => L.all (r.env params) conditions), rows.map fun r =>
        if L.all (r.env params) conditions then r.revived else r) := by
  refine rewrite_total (fun r => ?_) rows
  have flag : L.term (r.env params) (.number 0) = .int64 0 := rfl
  have moment : L.term (r.env params) .null = .null := rfl
  simp [assigned, reviving, columnName, flag, moment, Record.revived]

theorem deleted_congr (soft : Option Timestamp) {matched matched' : Record → Bool} {rows : Table}
    (same : ∀ r ∈ rows, matched r = matched' r) :
    deleted soft matched rows = deleted soft matched' rows := by
  have counted : rows.countP (matched ·) = rows.countP (matched' ·) :=
    Multiset.countP_congr rfl fun r mem => by rw [same r mem]
  cases soft with
  | none =>
    rw [deleted, deleted, counted]
    refine congrArg _ (Multiset.filter_congr fun r mem => ?_)
    rw [same r mem]
  | some t =>
    rw [deleted, deleted, counted]
    refine congrArg _ (Multiset.map_congr rfl fun r mem => ?_)
    rw [same r mem]

theorem effect_delete (kinds : ∀ r ∈ K table, r.id.kind = id.kind) (soft : Option Timestamp) :
    L.effect d (.delete ⟨table, id.toValue, a, soft⟩) K =
      within K table (.ok (deleted soft (·.key = (a, id)) (K table))) := by
  have own (params : List Value) (i j : Term) (r : Record) (mem : r ∈ K table)
      (hi : L.term (r.env params) i = id.toValue) (hj : L.term (r.env params) j = .text a) :
      L.all (r.env params) [columnIs idColumn i, columnIs tenantColumn j] =
        decide (r.key = (a, id)) :=
    (L.all_key (q := []) (kinds r mem) hi hj).trans (Bool.and_true _)
  cases soft with
  | none =>
    refine L.effect_of_tree rfl rfl ?_
    exact congrArg Except.ok (deleted_congr none fun r mem => own _ _ _ r mem rfl rfl)
  | some t =>
    refine L.effect_of_tree rfl rfl ?_
    refine (change_deletion t (fun _ => rfl) (K table)).trans ?_
    exact congrArg Except.ok (deleted_congr (some t) fun r mem => own _ _ _ r mem rfl rfl)

/-- A deletion by filters concerns rows of the tenant only. -/
theorem effect_deleteWhere (d : Dialect) (table : TableName) (filters : List Fragment) (a : String)
    (soft : Option Timestamp) :
    ∃ matched : Record → Bool, (∀ r, matched r → r.tenant = a) ∧ ∀ K : Content,
      L.effect d (.deleteWhere ⟨table, filters, a, soft⟩) K =
        within K table (.ok (deleted soft matched (K table))) := by
  cases soft with
  | none =>
    have mine := tenantIn_whereConditions d filters a .any #[]
    refine ⟨_, fun r => L.tenant_of_all mine, fun K => ?_⟩
    exact L.effect_of_tree rfl rfl rfl
  | some t =>
    have mine := tenantIn_whereConditions d filters a .notDeleted #[.timestamp t]
    refine ⟨_, fun r => L.tenant_of_all mine, fun K => ?_⟩
    refine L.effect_of_tree rfl rfl ?_
    refine change_deletion t (fun r => ?_) (K table)
    -- the time of the deletion is bound first, and what the filters bind comes after it
    have bound := (Grows.whereConditions d filters (some a) .notDeleted).getElem?
      #[.timestamp t] (i := 0) rfl
    exact congrArg (Option.getD · .null) bound

theorem effect_undeleteWhere (d : Dialect) (table : TableName) (filters : List Fragment)
    (a : String) :
    ∃ matched : Record → Bool, (∀ r, matched r → r.tenant = a) ∧ ∀ K : Content,
      L.effect d (.undeleteWhere ⟨table, filters, a⟩) K =
        within K table (.ok ((K table).countP (matched ·), (K table).map fun r =>
          if matched r then r.revived else r)) := by
  have mine := tenantIn_whereConditions d filters a .deleted #[]
  refine ⟨_, fun r => L.tenant_of_all mine, fun K => ?_⟩
  exact L.effect_of_tree rfl rfl (change_revival (K table))

end

end Library

end Folio.Relational
