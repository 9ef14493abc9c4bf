import Folio.Proofs.Database.Run
import Folio.Proofs.Relational.Reads

/-!
# Folio.Proofs.Relational.Frame

The statements of one tenant, and why the rows of all others do not matter to them.

A statement names its tenant where that decides which rows it concerns: in `WHERE`, in the key
of a `MERGE`, in the conflict target of an `INSERT`. So what it does to a table is `Local`: the
rows of others are carried along, and neither counts nor refusals depend on them.

* `Statement.Of`: the statements of a tenant.
* `Library.effect_local`: each of them changes one table, and locally.
* `Library.effect_frame`, `Library.answers_frame`: what that means for the contents of all tables.
-/

namespace Folio

/-- A statement that is about the rows of one tenant. -/
def Statement.Of (a : String) : Statement → Prop
  | .select s => s.tenant = some a
  | .insert x => x.document.tenant = a
  | .update x => x.document.tenant = a
  | .upsert x => x.document.tenant = a
  | .delete x => x.tenant = a
  | .deleteWhere x => x.tenant = a
  | .undeleteWhere x => x.tenant = a
  | .createTable _ => True

namespace Relational

open Folio.Sql
open Folio.Statement
open Folio.Time (Timestamp)

/-- Rows of the tenant only. -/
def Mine (a : String) (rows : Table) : Prop :=
  ∀ r ∈ rows, r.tenant = a

/-- Rows of other tenants only. -/
def Foreign (a : String) (rows : Table) : Prop :=
  ∀ r ∈ rows, r.tenant ≠ a

/-- A change of a table that concerns the rows of one tenant only. -/
structure Local (a : String) (f : Table → Changed) : Prop where
  /-- The rows of others are carried along. -/
  frame : ∀ {rows others : Table}, Foreign a others →
    f (rows + others) = (f rows).map fun (n, after) => (n, after + others)
  /-- It gives no rows to others. -/
  mine : ∀ {rows after : Table} {n : Nat}, Mine a rows → f rows = .ok (n, after) → Mine a after

section

variable {a : String} {rows others : Table}

/-- What is true of the tenant's rows only is not found among those of others. -/
theorem Foreign.not_matched {matched : Record → Bool} (foreign : Foreign a others)
    (mine : ∀ r, matched r → r.tenant = a) {r : Record} (mem : r ∈ others) : matched r = false := by
  cases h : matched r with
  | false => rfl
  | true => exact absurd (mine r h) (foreign r mem)

theorem filter_frame {matched : Record → Bool} (foreign : Foreign a others)
    (mine : ∀ r, matched r → r.tenant = a) :
    (rows + others).filter (matched ·) = rows.filter (matched ·) := by
  have none : others.filter (matched ·) = 0 := by
    rw [Multiset.filter_eq_nil]
    intro r mem
    rw [foreign.not_matched mine mem]
    exact Bool.false_ne_true
  rw [Multiset.filter_add, none, Multiset.add_zero]

theorem countP_frame {matched : Record → Bool} (foreign : Foreign a others)
    (mine : ∀ r, matched r → r.tenant = a) :
    (rows + others).countP (matched ·) = rows.countP (matched ·) := by
  rw [Multiset.countP_eq_card_filter, Multiset.countP_eq_card_filter, filter_frame foreign mine]

/-! ### Changes of a table -/

namespace Local

variable {f g : Table → Changed}

/-- Nothing is changed. -/
theorem keep : Local a fun rows => .ok (0, rows) where
  frame _ := rfl
  mine own done := by
    obtain ⟨-, rfl⟩ := Prod.mk.inj (Except.ok.inj done)
    exact own

/-- Whatever the rows are, the statement is refused. -/
theorem refuse (e : Refusal) : Local a fun _ => .error e where
  frame _ := rfl
  mine _ done := by cases done

/-- Rows are rewritten that stay with their tenant. -/
theorem rewrite {matched : Record → Bool} {f : Record → Option Record}
    (mine : ∀ r, matched r → r.tenant = a) (keeps : ∀ r r', f r = some r' → r'.tenant = r.tenant) :
    Local a (rewrite matched f) where
  frame {rows others} foreign := by
    -- a refusal depends on the rows that match, none of which are of others
    have untouched {r : Record} (mem : r ∈ others) : matched r = false :=
      foreign.not_matched mine mem
    have possible : (∀ r ∈ rows + others, matched r → (f r).isSome) ↔
        ∀ r ∈ rows, matched r → (f r).isSome := by
      constructor
      · intro h r mem
        exact h r (Multiset.mem_add.mpr (.inl mem))
      · intro h r mem m
        rcases Multiset.mem_add.mp mem with mem | mem
        · exact h r mem m
        · rw [untouched mem] at m
          cases m
    have same : (others.map fun r => if matched r then (f r).getD r else r) = others := by
      conv_rhs => rw [← Multiset.map_id' others]
      refine Multiset.map_congr rfl fun r mem => ?_
      rw [untouched mem]
      rfl
    unfold Relational.rewrite
    by_cases h : ∀ r ∈ rows, matched r → (f r).isSome
    · rw [if_pos h, if_pos (possible.mpr h), countP_frame foreign mine, Multiset.map_add, same]
      rfl
    · rw [if_neg h, if_neg (mt possible.mp h)]
      rfl
  mine {rows after n} own done := by
    unfold Relational.rewrite at done
    split at done
    next possible =>
      obtain ⟨-, rfl⟩ := Prod.mk.inj (Except.ok.inj done)
      intro r' mem
      obtain ⟨r, there, rfl⟩ := Multiset.mem_map.mp mem
      by_cases m : matched r
      · obtain ⟨r', written⟩ := Option.isSome_iff_exists.mp (possible r there m)
        rw [if_pos m, written]
        exact (keeps r r' written).trans (own r there)
      · rw [if_neg m]
        exact own r there
    next => cases done

/-- Rows are deleted. -/
theorem delete {matched : Record → Bool} (mine : ∀ r, matched r → r.tenant = a) :
    Local a fun rows => .ok (rows.countP (matched ·), rows.filter (!matched ·)) where
  frame {rows others} foreign := by
    have all : others.filter (!matched ·) = others := by
      rw [Multiset.filter_eq_self]
      intro r mem
      rw [foreign.not_matched mine mem]
      rfl
    rw [countP_frame foreign mine, Multiset.filter_add, all]
    rfl
  mine own done := by
    obtain ⟨-, rfl⟩ := Prod.mk.inj (Except.ok.inj done)
    intro r mem
    exact own r (Multiset.mem_filter.mp mem).1

/-- What depends on whether the tenant has rows of some kind, and is local either way. -/
theorem ite {matched : Record → Bool} (mine : ∀ r, matched r → r.tenant = a)
    (absent : Local a f) (present : Local a g) :
    Local a fun rows => if rows.filter (matched ·) = 0 then f rows else g rows where
  frame {rows others} foreign := by
    rw [filter_frame foreign mine]
    split
    · exact absent.frame foreign
    · exact present.frame foreign
  mine own done := by
    split at done
    · exact absent.mine own done
    · exact present.mine own done

/-- A row is added. -/
theorem insert {new : Record} (own : new.tenant = a) :
    Local a fun rows => .ok (1, new ::ₘ rows) where
  frame {rows others} _ := by
    rw [← Multiset.cons_add]
    rfl
  mine mine done := by
    obtain ⟨-, rfl⟩ := Prod.mk.inj (Except.ok.inj done)
    intro r mem
    rcases Multiset.mem_cons.mp mem with rfl | mem
    · exact own
    · exact mine r mem

end Local

end

/-! ### Tenants of rows -/

/-- A row stays with its tenant, unless that is what is set. -/
theorem Record.tenant_set {r r' : Record} {name : String} {v : Value} (other : name ≠ tenantColumn)
    (set : r.set name v = some r') : r'.tenant = r.tenant := by
  have kept {α : Type} {x : Option α} {f : α → Record} (h : x.map f = some r')
      (same : ∀ y, (f y).tenant = r.tenant) : r'.tenant = r.tenant := by
    obtain ⟨y, -, rfl⟩ := Option.map_eq_some_iff.mp h
    exact same y
  -- one case for each column that can be set, in the order of `Record.set`
  unfold Record.set at set
  split at set
  · exact kept set fun _ => rfl
  split at set
  · exact kept set fun _ => rfl
  split at set
  · exact kept set fun _ => rfl
  split at set
  · exact kept set fun _ => rfl
  split at set
  · exact kept set fun _ => rfl
  split at set
  · exact kept set fun _ => rfl
  split at set
  · split at set
    · obtain rfl := Option.some.inj set
      rfl
    · exact kept set fun _ => rfl
  · cases set

/-- A new row is its tenant's. -/
theorem Record.tenant_ofColumns {columns : List (String × Value)} {new : Record} {a : String}
    (named : columns.lookup tenantColumn = some (.text a))
    (made : Record.ofColumns columns = some new) : new.tenant = a := by
  simp only [Record.ofColumns, named, Option.bind_eq_bind, Option.bind_eq_some_iff] at made
  obtain ⟨_, -, _, -, _, -, _, -, _, -, _, -, _, -, _, -, _, -, _, -, _, same, tenant, text, made⟩ :=
    made
  obtain rfl := Option.some.inj made
  rw [← Option.some.inj same] at text
  exact (Option.some.inj text).symm

/-- Assignments that do not name the tenant. -/
def Keeping (updates : List Assignment) : Prop :=
  ∀ u ∈ updates, columnName u.column ≠ tenantColumn

theorem keeping_write (column : String → Term) (named : ∀ name, columnName (column name) = name)
    (revive : Bool) (text version modified kind : Term) :
    Keeping ([⟨column dataColumn, text⟩, ⟨column versionColumn, version⟩,
      ⟨column modifiedColumn, modified⟩, ⟨column typeColumn, kind⟩] ++
        if revive then reviving column else []) := by
  have others : ∀ name ∈ [dataColumn, versionColumn, modifiedColumn, typeColumn, deletedColumn,
      deletedAtColumn], name ≠ tenantColumn := by
    decide
  simp only [List.forall_mem_cons] at others
  cases revive <;> simp [Keeping, named, reviving, others]

theorem keeping_deletion (t : Term) :
    Keeping [setColumn deletedColumn (.number 1), setColumn deletedAtColumn t] := by
  have others : deletedColumn ≠ tenantColumn ∧ deletedAtColumn ≠ tenantColumn := by decide
  simp [Keeping, setColumn, columnName, others]

theorem keeping_reviving : Keeping (reviving .column) := by
  have others : deletedColumn ≠ tenantColumn ∧ deletedAtColumn ≠ tenantColumn := by decide
  simp [Keeping, reviving, columnName, others]

namespace Library

variable (L : Library) {a : String}

theorem tenant_assigned {env : Env} {updates : List Assignment} {r r' : Record}
    (keeping : Keeping updates) (done : L.assigned env updates r = some r') :
    r'.tenant = r.tenant := by
  unfold assigned at done
  induction updates generalizing r with
  | nil =>
    obtain rfl := Option.some.inj done
    rfl
  | cons u rest ih =>
    rw [List.foldlM_cons, Option.bind_eq_bind, Option.bind_eq_some_iff] at done
    obtain ⟨r₁, first, later⟩ := done
    rw [ih (fun u mem => keeping u (List.mem_cons_of_mem _ mem)) later]
    exact Record.tenant_set (keeping u List.mem_cons_self) first

/-- Rows of one key have one tenant. -/
theorem tenant_of_agreeIn {names : List String} {r r' : Record} (named : tenantColumn ∈ names)
    (same : L.agreeIn names r r') : r.tenant = r'.tenant := by
  have compared := List.all_eq_true.mp same tenantColumn named
  exact L.equal_text.mp (of_decide_eq_true compared)

theorem tenant_of_hasKey {params : List Value} {m : Merge} {r : Record} {t : Term}
    (named : (t, tenantColumn) ∈ m.key) (own : L.given params m tenantColumn = .text a)
    (same : L.hasKey params m r) : r.tenant = a := by
  have compared := of_decide_eq_true (List.all_eq_true.mp same _ named)
  rw [own] at compared
  exact L.equal_text.mp compared

/-! ### Changes -/

/-- A row of the tenant is added. -/
theorem add_local {new : Record} (own : new.tenant = a) : Local a (L.add new) := by
  refine Local.ite (fun r same => ?_) (.insert own) (.refuse .duplicate)
  have named : tenantColumn ∈ keyColumns := List.mem_cons_self
  exact (L.tenant_of_agreeIn named same).trans own

/-- A row of the tenant is added, if it can be made. -/
theorem addNew_local (new : Option Record) : (∀ r, new = some r → r.tenant = a) →
    Local a fun rows => match new with
      | some r => L.add r rows
      | none => .error .constraint := by
  intro own
  cases new with
  | none => exact .refuse .constraint
  | some r => exact L.add_local (own r rfl)

variable {params : List Value} {table : TableName}

theorem insert_local {columns : List String} {values : List Term}
    (named : (columns.zip (values.map (L.term (noRow params)))).lookup tenantColumn =
      some (.text a)) :
    Local a (L.change params (.insert table columns values)) :=
  L.addNew_local _ fun _ => Record.tenant_ofColumns named

theorem update_local {updates : List Assignment} {conditions : List Condition}
    (keeping : Keeping updates) (mine : TenantIn a conditions params) :
    Local a (L.change params (.update table updates conditions)) :=
  .rewrite (fun _ => L.tenant_of_all mine) fun _ _ => L.tenant_assigned keeping

theorem delete_local {conditions : List Condition} (mine : TenantIn a conditions params) :
    Local a (L.change params (.delete table conditions)) :=
  .delete fun _ => L.tenant_of_all mine

theorem merge_local {m : Merge} {t : Term} (key : (t, tenantColumn) ∈ m.key)
    (own : L.given params m tenantColumn = .text a) (keeping : Keeping m.updates)
    (named : (m.columns.zip (m.values.map (L.term (L.mergeEnv params m fun _ => .null)))).lookup
      tenantColumn = some (.text a)) :
    Local a (L.change params (.merge m)) := by
  refine Local.ite (fun r => L.tenant_of_hasKey key own) ?_ ?_
  · exact L.addNew_local _ fun _ => Record.tenant_ofColumns named
  · refine .rewrite (fun r both => ?_) fun _ _ => L.tenant_assigned keeping
    exact L.tenant_of_hasKey key own (Bool.and_eq_true_iff.mp both).1

theorem insertOrUpdate_local {i : InsertOrUpdate} (key : tenantColumn ∈ i.key)
    (keeping : Keeping i.updates)
    (named : (i.columns.zip (i.values.map (L.term (noRow params)))).lookup tenantColumn =
      some (.text a)) :
    Local a (L.change params (.insertOrUpdate i)) := by
  show Local a (L.insertOrUpdate params i)
  unfold insertOrUpdate
  cases made : L.newRow (noRow params) i.columns i.values with
  | none => exact .refuse .constraint
  | some new =>
    have own : new.tenant = a := Record.tenant_ofColumns named made
    refine Local.ite (fun r same => (L.tenant_of_agreeIn key same).trans own) ?_ ?_
    · exact L.add_local own
    · refine .rewrite (fun r both => ?_) fun _ _ => L.tenant_assigned keeping
      exact (L.tenant_of_agreeIn key (Bool.and_eq_true_iff.mp both).1).trans own

/-! ### Statements -/

/-- A statement that changes a table locally. -/
theorem local_of_tree {d : Dialect} {s : Statement} {c : Change} {bound : Array Value}
    (tree : s.tree d #[] = (.change c, bound)) (does : Local a (L.change bound.toList c)) :
    ∃ table f, Local a f ∧ ∀ K, L.effect d s K = within K table (f (K table)) :=
  ⟨_, _, does, fun _ => L.effect_of_tree tree rfl rfl⟩

/-- What a statement of a tenant does is local. -/
theorem effect_local (d : Dialect) {s : Statement} (own : s.Of a) :
    ∃ table f, Local a f ∧ ∀ K, L.effect d s K = within K table (f (K table)) := by
  have second {α : Type} {x y : α} {rest : List α} : y ∈ x :: y :: rest :=
    List.mem_cons_of_mem _ List.mem_cons_self
  -- Each statement is cut into its tree, in which the tenant stands where it restricts the change.
  cases s with
  | select s =>
    -- a query changes nothing, in whichever table
    refine ⟨s.table, _, .keep, fun K => ?_⟩
    show .ok (0, K) = Except.ok (0, Function.update K s.table (K s.table))
    rw [Function.update_eq_self]
  | insert x =>
    obtain ⟨table, id, data, type, tenant, modified⟩ := x
    obtain rfl : tenant = a := own
    exact L.local_of_tree rfl (L.insert_local rfl)
  | update x =>
    obtain ⟨table, ⟨id, data, type, tenant, modified⟩, expected⟩ := x
    obtain rfl : tenant = a := own
    have keeping := keeping_write .column (fun _ => rfl) false
    cases expected <;> exact L.local_of_tree rfl (L.update_local (keeping _ _ _ _) ⟨4, second, rfl⟩)
  | upsert x =>
    obtain ⟨table, ⟨id, data, type, tenant, modified⟩, expected, revive⟩ := x
    obtain rfl : tenant = a := own
    cases d with
    | mssql =>
      -- the tenant is part of the key that the merge matches by
      have keeping := keeping_write (Term.columnOf .target) (fun _ => rfl) revive
      cases expected <;> exact L.local_of_tree rfl (L.merge_local second rfl (keeping _ _ _ _) rfl)
    | sqlite =>
      -- the tenant is part of the key that rows conflict in
      have named : tenantColumn ∈ keyColumns := List.mem_cons_self
      have keeping := keeping_write .column (fun _ => rfl) revive
      cases expected <;> exact L.local_of_tree rfl (L.insertOrUpdate_local named (keeping _ _ _ _) rfl)
  | delete x =>
    obtain ⟨table, id, tenant, soft⟩ := x
    obtain rfl : tenant = a := own
    cases soft with
    | none => exact L.local_of_tree rfl (L.delete_local ⟨1, second, rfl⟩)
    | some t => exact L.local_of_tree rfl (L.update_local (keeping_deletion _) ⟨2, second, rfl⟩)
  | deleteWhere x =>
    -- whatever the filters are, the tenant is asked for beside them
    obtain ⟨table, filters, tenant, soft⟩ := x
    obtain rfl : tenant = a := own
    cases soft with
    | none =>
      have mine := tenantIn_whereConditions d filters tenant .any #[]
      exact L.local_of_tree rfl (L.delete_local mine)
    | some t =>
      have mine := tenantIn_whereConditions d filters tenant .notDeleted #[.timestamp t]
      exact L.local_of_tree rfl (L.update_local (keeping_deletion _) mine)
  | undeleteWhere x =>
    obtain ⟨table, filters, tenant⟩ := x
    obtain rfl : tenant = a := own
    have mine := tenantIn_whereConditions d filters tenant .deleted #[]
    exact L.local_of_tree rfl (L.update_local keeping_reviving mine)
  | createTable x => exact L.local_of_tree rfl .keep

/-! ### Answers -/

/-- What a query answers depends on the rows that it takes only. -/
theorem answer_congr {q : RowQuery} {rows rows' : Table}
    (same : L.selected params q rows = L.selected params q rows') :
    L.rowsOf params q rows = L.rowsOf params q rows' := by
  unfold rowsOf environments
  rw [same]

/-- A selection of the tenant's is answered the same without the rows of others. -/
theorem answer_frame (d : Dialect) {s : Selection} (own : s.tenant = some a)
    {before : Array Value} (grown : (s.toQuery d before).2.toList <+: params) {rows others : Table}
    (foreign : Foreign a others) :
    L.answer params (s.toQuery d before).1 (rows + others) =
      L.answer params (s.toQuery d before).1 rows := by
  obtain ⟨p, bound, query⟩ := toQuery_cases d s before
  rw [bound] at grown
  have mine : TenantIn a (s.toRowQuery d p before).1.conditions params := by
    have mine := tenantIn_whereConditions d s.filters a s.deletion before
    rw [← own] at mine
    exact mine.mono grown
  have same : L.rowsOf params (s.toRowQuery d p before).1 (rows + others) =
      L.rowsOf params (s.toRowQuery d p before).1 rows :=
    L.answer_congr (filter_frame foreign fun _ => L.tenant_of_all mine)
  rcases query with query | query | ⟨c, query⟩ <;> simp only [query, answer, same]

end Library

/-! ### Contents of all tables -/

namespace Content

/-- The tenant's rows. -/
def own (a : String) (K : Content) : Content :=
  fun table => (K table).filter (·.tenant = a)

/-- The rows of all other tenants. -/
def others (a : String) (K : Content) : Content :=
  fun table => (K table).filter (·.tenant ≠ a)

/-- The rows of both. -/
def beside (K O : Content) : Content :=
  fun table => K table + O table

/-- Rows of the tenant only. -/
def Mine (a : String) (K : Content) : Prop :=
  ∀ table, Relational.Mine a (K table)

/-- Rows of other tenants only. -/
def Foreign (a : String) (K : Content) : Prop :=
  ∀ table, Relational.Foreign a (K table)

variable {a : String} {K O : Content}

theorem mine_own : Content.Mine a (own a K) :=
  fun _ _ mem => (Multiset.mem_filter.mp mem).2

theorem foreign_others : Content.Foreign a (others a K) :=
  fun _ _ mem => (Multiset.mem_filter.mp mem).2

theorem own_beside_others : (own a K).beside (others a K) = K := by
  funext table
  exact Multiset.filter_add_not _ _

theorem own_beside (mine : Content.Mine a K) (foreign : Content.Foreign a O) :
    own a (K.beside O) = K := by
  funext table
  have all : (K table).filter (·.tenant = a) = K table := Multiset.filter_eq_self.mpr (mine table)
  have none : (O table).filter (·.tenant = a) = 0 := Multiset.filter_eq_nil.mpr (foreign table)
  unfold own beside
  rw [Multiset.filter_add, all, none, Multiset.add_zero]

theorem others_beside (mine : Content.Mine a K) (foreign : Content.Foreign a O) :
    others a (K.beside O) = O := by
  funext table
  have none : (K table).filter (·.tenant ≠ a) = 0 :=
    Multiset.filter_eq_nil.mpr fun r mem other => other (mine table r mem)
  have all : (O table).filter (·.tenant ≠ a) = O table :=
    Multiset.filter_eq_self.mpr (foreign table)
  unfold others beside
  rw [Multiset.filter_add, all, none, Multiset.zero_add]

end Content

namespace Library

variable (L : Library) {a : String} {K O : Content}

/-- A statement of a tenant does the same whatever rows others have, and leaves those alone. -/
theorem effect_frame (d : Dialect) {s : Statement} (own : s.Of a) (foreign : O.Foreign a) :
    L.effect d s (K.beside O) = (L.effect d s K).map fun (n, K') => (n, K'.beside O) := by
  obtain ⟨table, f, isLocal, does⟩ := L.effect_local d own
  rw [does, does]
  show within (K.beside O) table (f (K table + O table)) = _
  rw [isLocal.frame (foreign table)]
  cases f (K table) with
  | error e => rfl
  | ok p =>
    obtain ⟨n, rows⟩ := p
    refine congrArg (fun K' => Except.ok (n, K')) (funext fun t => ?_)
    -- all other tables keep their rows, and so those of others
    by_cases here : t = table
    · subst here
      simp [Content.beside]
    · simp [Content.beside, here]

/-- A statement of a tenant gives no rows to others. -/
theorem effect_mine {d : Dialect} {s : Statement} (own : s.Of a) {n : Nat} {K' : Content}
    (mine : K.Mine a) (done : L.effect d s K = .ok (n, K')) : K'.Mine a := by
  obtain ⟨table, f, isLocal, does⟩ := L.effect_local d own
  rw [does] at done
  cases changed : f (K table) with
  | error e =>
    rw [changed] at done
    cases done
  | ok p =>
    rw [changed] at done
    obtain ⟨-, rfl⟩ := Prod.mk.inj (Except.ok.inj done)
    intro t
    by_cases here : t = table
    · subst here
      rw [Function.update_self]
      exact isLocal.mine (mine t) changed
    · rw [Function.update_of_ne here]
      exact mine t

/-- What a tenant reads does not depend on the rows of others. -/
theorem answers_frame (d : Dialect) {ss : List Selection} (own : ∀ s ∈ ss, s.tenant = some a)
    (foreign : O.Foreign a) :
    L.answers d (ss.map .select) (K.beside O) = L.answers d (ss.map .select) K := by
  obtain ⟨-, bound⟩ := mapM_tree d ss #[]
  unfold answers
  refine List.map_congr_left fun tree mem => ?_
  obtain ⟨s, asked, before, rfl, grown⟩ := exists_of_forall₂ bound mem
  exact L.answer_frame d (own s asked) grown (foreign _)

end Library

/-- Contents that agree on the tenant's rows, and what all others have in each. -/
structure Shares (a : String) (O₁ O₂ K₁ K₂ : Content) : Prop where
  own : K₁.own a = K₂.own a
  left : K₁.others a = O₁
  right : K₂.others a = O₂

section

variable {a : String} {O₁ O₂ K₁ K₂ : Content}

theorem Shares.split (h : Shares a O₁ O₂ K₁ K₂) :
    O₁.Foreign a ∧ O₂.Foreign a ∧ ∃ K : Content, K.Mine a ∧ K₁ = K.beside O₁ ∧ K₂ = K.beside O₂ := by
  obtain ⟨own, rfl, rfl⟩ := h
  refine ⟨Content.foreign_others, Content.foreign_others, K₁.own a, Content.mine_own, ?_, ?_⟩
  · rw [Content.own_beside_others]
  · rw [own, Content.own_beside_others]

theorem Shares.of_beside {K : Content} (mine : K.Mine a) (left : O₁.Foreign a)
    (right : O₂.Foreign a) : Shares a O₁ O₂ (K.beside O₁) (K.beside O₂) where
  own := by rw [Content.own_beside mine left, Content.own_beside mine right]
  left := Content.others_beside mine left
  right := Content.others_beside mine right

/-- A statement of the tenant does the same to both contents, and leaves the rows of others. -/
theorem Shares.effect (h : Shares a O₁ O₂ K₁ K₂) (L : Library) (d : Dialect) {s : Statement}
    (own : s.Of a) :
    (∃ e, L.effect d s K₁ = .error e ∧ L.effect d s K₂ = .error e) ∨
      ∃ n K₁' K₂', L.effect d s K₁ = .ok (n, K₁') ∧ L.effect d s K₂ = .ok (n, K₂') ∧
        Shares a O₁ O₂ K₁' K₂' := by
  obtain ⟨left, right, K, mine, rfl, rfl⟩ := h.split
  rw [L.effect_frame d own left, L.effect_frame d own right]
  cases done : L.effect d s K with
  | error e => exact .inl ⟨e, rfl, rfl⟩
  | ok p =>
    obtain ⟨n, K'⟩ := p
    exact .inr ⟨n, _, _, rfl, rfl, .of_beside (L.effect_mine own mine done) left right⟩

/-- Selections of the tenant's are answered the same from both. -/
theorem Shares.answers (h : Shares a O₁ O₂ K₁ K₂) (L : Library) (d : Dialect)
    {ss : List Selection} (own : ∀ s ∈ ss, s.tenant = some a) :
    L.answers d (ss.map .select) K₁ = L.answers d (ss.map .select) K₂ := by
  obtain ⟨left, right, K, -, rfl, rfl⟩ := h.split
  rw [L.answers_frame d own left, L.answers_frame d own right]

end

end Relational

end Folio
