import Folio.Proofs.Sql.Tokens

/-!
# Folio.Proofs.Sql.Reading

Conditions read back from their text, by the precedence of SQL: `NOT` binds tighter than
`AND`, and `AND` tighter than `OR`; parentheses hold together what is between them.

The tokens are read from left to right over a stack of `Level`s, one for each parenthesis (or
`CASE`) that is open. A level keeps the disjuncts that are complete, the conjuncts of the one
at hand, and the operand that is being read. `AND` belongs to the operand after `BETWEEN`, and
`NOT` does unless it stands before it. An operand that is one pair of parentheses is what is
between them, unless that is a query; any other operand is one condition.

* `clauses`: the disjuncts of a text, each the list of its conjuncts.
* `readText`: the same as one tree.
* `State.run_within`: tokens that are read by themselves are read so at every place where an
  operand may begin. From this follow the clauses of texts joined by connectives
  (`Clauses.and`, `Clauses.group`, `Clauses.not`).
-/

namespace Folio.Sql

/-- How conditions are connected. -/
inductive Shape (α : Type)
  | one (a : α)
  | and (left right : Shape α)
  | or (left right : Shape α)
  | not (inner : Shape α)

namespace Shape

variable {α β : Type}

/-- All of them, from the left. -/
def all? : List (Shape α) → Option (Shape α)
  | [] => none
  | x :: xs => some (xs.foldl .and x)

/-- Any of them, from the left. -/
def any? : List (Shape α) → Option (Shape α)
  | [] => none
  | x :: xs => some (xs.foldl .or x)

/-- Any of the rows, each of them all that is in it. -/
def ofClauses? (rows : List (List (Shape α))) : Option (Shape α) :=
  (rows.mapM all?).bind any?

/-- Every condition replaced by a tree. -/
def bind (f : α → Shape β) : Shape α → Shape β
  | .one a => f a
  | .and left right => .and (left.bind f) (right.bind f)
  | .or left right => .or (left.bind f) (right.bind f)
  | .not inner => .not (inner.bind f)

/-- The conditions, from left to right. -/
def leaves : Shape α → List α
  | .one a => [a]
  | .and left right | .or left right => left.leaves ++ right.leaves
  | .not inner => inner.leaves

end Shape

variable {α : Type}

/-- A text as it is read: every condition is given by its tokens. -/
abbrev Reading (α : Type) := Shape (List (Token α))

/-- Words that begin a query. -/
def queryWords : List (List Char) :=
  ["select".toList, "values".toList, "with".toList]

/-- Does a query begin here? -/
def Token.beginsQuery : Token α → Bool
  | .word cs => queryWords.contains (cs.map Char.toLower)
  | _ => false

/-! ### One level -/

/-- What was read of one pair of parentheses so far. -/
structure Level (α : Type) where
  disjuncts : List (List (Reading α)) := []
  conjuncts : List (Reading α) := []
  /-- How often `NOT` stands before the operand. -/
  negations : Nat := 0
  operand : List (Token α) := []
  /-- What the operand says, if it is one pair of parentheses. -/
  inner : Option (Reading α) := none
  /-- Is the next `AND` that of a `BETWEEN`? -/
  between : Bool := false
  /-- All tokens of the level. -/
  tokens : List (Token α) := []

namespace Level

/-- The operand's reading, if it is complete. -/
def last? (l : Level α) : Option (Reading α) :=
  if l.operand.isEmpty || l.between then none
  else some (Shape.not^[l.negations] (l.inner.getD (.one l.operand)))

/-- The level's disjuncts, each the list of its conjuncts. -/
def clauses (l : Level α) : Option (List (List (Reading α))) :=
  if l.tokens.head?.any Token.beginsQuery then none
  else l.last?.map fun x => l.disjuncts ++ [l.conjuncts ++ [x]]

/-- The level as one tree. -/
def reading (l : Level α) : Option (Reading α) :=
  l.clauses.bind Shape.ofClauses?

/-- A token that is a part of the operand. -/
def take (l : Level α) (t : Token α) : Level α :=
  { l with operand := l.operand ++ [t], inner := none, tokens := l.tokens ++ [t] }

/-- A token that neither opens a level nor closes one. -/
def next (l : Level α) : Token α → Option (Level α)
  | .and =>
    if l.between then some { l.take .and with between := false }
    else l.last?.map fun x =>
      { disjuncts := l.disjuncts, conjuncts := l.conjuncts ++ [x], tokens := l.tokens ++ [.and] }
  | .or => l.last?.map fun x =>
      { disjuncts := l.disjuncts ++ [l.conjuncts ++ [x]], tokens := l.tokens ++ [.or] }
  | .not =>
    if l.operand.isEmpty then
      some { l with negations := l.negations + 1, tokens := l.tokens ++ [.not] }
    else some (l.take .not)
  | .between => some { l.take .between with between := true }
  | t => some (l.take t)

/-- A level between its two ends as a part of the operand of the one around it. -/
def takeGroup (l : Level α) (opener : Token α) (inner : Level α) (closer : Token α) : Level α :=
  let group := opener :: inner.tokens ++ [closer]
  { l with
    operand := l.operand ++ group
    inner := match opener with
      | .left => if l.operand.isEmpty then inner.reading else none
      | _ => none
    tokens := l.tokens ++ group }

end Level

/-! ### All levels -/

/-- The level at hand and those around it, each with what opened the one within it. -/
structure State (α : Type) where
  level : Level α := {}
  outer : List (Token α × Level α) := []

/-- Does the second token end what the first one opened? -/
def Token.isClosedBy : Token α → Token α → Bool
  | .left, .right | .case, .done => true
  | _, _ => false

namespace State

/-- The next token. -/
def step (s : State α) : Token α → Option (State α)
  | .left => some ⟨{}, (.left, s.level) :: s.outer⟩
  | .case => some ⟨{}, (.case, s.level) :: s.outer⟩
  | .right => close .right
  | .done => close .done
  | t => (s.level.next t).map fun l => { s with level := l }
where
  close (closer : Token α) : Option (State α) :=
    match s.outer with
    | [] => none
    | (opener, l) :: outer =>
      if opener.isClosedBy closer then some ⟨l.takeGroup opener s.level closer, outer⟩ else none

/-- Tokens one after the other. -/
def run (s : State α) (ts : List (Token α)) : Option (State α) :=
  ts.foldlM step s

@[simp] theorem run_nil (s : State α) : s.run [] = some s := rfl

@[simp] theorem run_cons (s : State α) (t : Token α) (ts : List (Token α)) :
    s.run (t :: ts) = (s.step t).bind (·.run ts) := rfl

@[simp] theorem run_append (s : State α) (ts us : List (Token α)) :
    s.run (ts ++ us) = (s.run ts).bind (·.run us) :=
  List.foldlM_append

end State

/-- The disjuncts of a text, each the list of its conjuncts. -/
def clauses (xs : List (Symbol α)) : Option (List (List (Reading α))) := do
  let ts ← tokens xs
  let s ← State.run {} ts
  if s.outer.isEmpty then s.level.clauses else none

/-- The tree that a text is read as. -/
def readText (xs : List (Symbol α)) : Option (Reading α) :=
  (clauses xs).bind Shape.ofClauses?

/-! ### Tokens amid others -/

namespace Level

/-- The level with another one before it, of which the operand at hand is to be read. -/
def following (c l : Level α) : Level α :=
  { l with
    disjuncts := match l.disjuncts with
      | [] => c.disjuncts
      | row :: rows => c.disjuncts ++ (c.conjuncts ++ row) :: rows
    conjuncts := match l.disjuncts with
      | [] => c.conjuncts ++ l.conjuncts
      | _ :: _ => l.conjuncts
    tokens := c.tokens ++ l.tokens }

@[simp] theorem following_empty (l : Level α) : following {} l = l := by
  obtain ⟨_ | ⟨row, rows⟩, _, _, _, _, _, _⟩ := l <;> rfl

@[simp] theorem last?_following (c l : Level α) : (c.following l).last? = l.last? := rfl

theorem take_following (c l : Level α) (t : Token α) :
    (c.following l).take t = c.following (l.take t) := by
  simp [following, take]

theorem next_following (c l : Level α) (t : Token α) :
    (c.following l).next t = (l.next t).map c.following := by
  obtain ⟨disjuncts, conjuncts, negations, operand, inner, between, ts⟩ := l
  cases t with
  | and =>
    cases between with
    | true => simp [next, following, take]
    | false =>
      simp only [next, last?_following]
      cases disjuncts <;> simp [following, Option.map_map, Function.comp_def]
  | or =>
    simp only [next, last?_following]
    cases disjuncts <;> simp [following, Option.map_map, Function.comp_def]
  | not => cases operand <;> simp [next, following, take]
  | between => simp [next, following, take]
  | _ => simp only [next, take_following, Option.map_some]

theorem tokens_next {l l' : Level α} {t : Token α} (h : l.next t = some l') :
    l'.tokens = l.tokens ++ [t] := by
  cases t with
  | and =>
    simp only [next] at h
    split at h
    · obtain rfl := Option.some.inj h
      rfl
    · obtain ⟨x, -, rfl⟩ := Option.map_eq_some_iff.mp h
      rfl
  | or =>
    obtain ⟨x, -, rfl⟩ := Option.map_eq_some_iff.mp h
    rfl
  | not =>
    simp only [next] at h
    split at h
    · obtain rfl := Option.some.inj h
      rfl
    · obtain rfl := Option.some.inj h
      rfl
  | _ =>
    obtain rfl := Option.some.inj h
    rfl

theorem takeGroup_following (c l inner : Level α) (opener closer : Token α) :
    (c.following l).takeGroup opener inner closer =
      c.following (l.takeGroup opener inner closer) := by
  simp [takeGroup, following]

/-- The levels with others around them, the outermost following one of those. -/
def under (c : Level α) (around : List (Token α × Level α)) :
    List (Token α × Level α) → List (Token α × Level α)
  | [] => around
  | [(opener, l)] => (opener, c.following l) :: around
  | x :: y :: rest => x :: under c around (y :: rest)

end Level

namespace State

/-- The state with its outermost level following another one, and levels around that. -/
def within (c : Level α) (around : List (Token α × Level α)) (s : State α) : State α where
  level := if s.outer.isEmpty then c.following s.level else s.level
  outer := c.under around s.outer

/-- A step goes the same way whatever is around. -/
theorem step_within {s s' : State α} {t : Token α} (c : Level α)
    (around : List (Token α × Level α)) (h : s.step t = some s') :
    (s.within c around).step t = some (s'.within c around) := by
  obtain ⟨l, outer⟩ := s
  have opening (opener : Token α) :
      (⟨{}, (opener, l) :: outer⟩ : State α).within c around =
        ⟨{}, (opener, ((⟨l, outer⟩ : State α).within c around).level) :: c.under around outer⟩ := by
    cases outer <;> rfl
  have closing {closer : Token α} (h : step.close ⟨l, outer⟩ closer = some s') :
      step.close ((⟨l, outer⟩ : State α).within c around) closer = some (s'.within c around) := by
    rcases outer with _ | ⟨⟨opener, up⟩, _ | ⟨x, rest⟩⟩
    · cases h
    all_goals
      simp only [step.close, within, Level.under, List.isEmpty_cons, Bool.false_eq_true,
        if_false] at h ⊢
      split at h
      next closed =>
        obtain rfl := Option.some.inj h
        simp [closed, Level.takeGroup_following, Level.under]
      next => cases h
  have staying (h : (l.next t).map (fun l' => (⟨l', outer⟩ : State α)) = some s') :
      (((⟨l, outer⟩ : State α).within c around).level.next t).map
        (fun l' => (⟨l', c.under around outer⟩ : State α)) = some (s'.within c around) := by
    obtain ⟨l', next, rfl⟩ := Option.map_eq_some_iff.mp h
    cases outer with
    | nil => simp [within, Level.next_following, next]
    | cons x rest => simp [within, next]
  cases t with
  | left =>
    obtain rfl := Option.some.inj h
    rw [opening]
    rfl
  | case =>
    obtain rfl := Option.some.inj h
    rw [opening]
    rfl
  | right => exact closing h
  | done => exact closing h
  | _ => exact staying h

theorem run_within {s s' : State α} {ts : List (Token α)} (c : Level α)
    (around : List (Token α × Level α)) (h : s.run ts = some s') :
    (s.within c around).run ts = some (s'.within c around) := by
  induction ts generalizing s with
  | nil =>
    obtain rfl := Option.some.inj h
    rfl
  | cons t ts ih =>
    obtain ⟨s₁, first, rest⟩ := Option.bind_eq_some_iff.mp h
    rw [run_cons, step_within c around first]
    exact ih rest

/-- The tokens read so far. -/
def spelled (s : State α) : List (Token α) :=
  s.outer.foldr (fun x before => before ++ x.2.tokens ++ [x.1]) [] ++ s.level.tokens

theorem spelled_step {s s' : State α} {t : Token α} (h : s.step t = some s') :
    s'.spelled = s.spelled ++ [t] := by
  obtain ⟨l, outer⟩ := s
  have closing {closer : Token α} (h : step.close ⟨l, outer⟩ closer = some s') :
      s'.spelled = spelled ⟨l, outer⟩ ++ [closer] := by
    rcases outer with _ | ⟨⟨opener, up⟩, outer⟩
    · cases h
    · simp only [step.close] at h
      split at h
      · obtain rfl := Option.some.inj h
        simp [spelled, Level.takeGroup]
      · cases h
  have staying (h : (l.next t).map (fun l' => (⟨l', outer⟩ : State α)) = some s') :
      s'.spelled = spelled ⟨l, outer⟩ ++ [t] := by
    obtain ⟨l', next, rfl⟩ := Option.map_eq_some_iff.mp h
    simp [spelled, Level.tokens_next next]
  cases t with
  | left =>
    obtain rfl := Option.some.inj h
    simp [spelled]
  | case =>
    obtain rfl := Option.some.inj h
    simp [spelled]
  | right => exact closing h
  | done => exact closing h
  | _ => exact staying h

theorem spelled_run {s s' : State α} {ts : List (Token α)} (h : s.run ts = some s') :
    s'.spelled = s.spelled ++ ts := by
  induction ts generalizing s with
  | nil =>
    obtain rfl := Option.some.inj h
    exact (List.append_nil _).symm
  | cons t ts ih =>
    obtain ⟨s₁, first, rest⟩ := Option.bind_eq_some_iff.mp h
    rw [ih rest, spelled_step first, List.append_assoc]
    rfl

/-- A level without others around it has all the tokens. -/
theorem tokens_of_run {ts : List (Token α)} {l : Level α} (h : State.run {} ts = some ⟨l, []⟩) :
    l.tokens = ts :=
  spelled_run h

end State

/-! ### Clauses of tokens -/

/-- Rows of conjuncts joined by `AND`: the last row goes on with the first one after. -/
def glue {β : Type} : List (List β) → List (List β) → List (List β)
  | [], rows => rows
  | [row], [] => [row]
  | [row], row' :: rows => (row ++ row') :: rows
  | row :: next :: rest, rows => row :: glue (next :: rest) rows

@[simp] theorem glue_nil {β : Type} (rows : List (List β)) : glue rows [] = rows := by
  induction rows with
  | nil => rfl
  | cons row rest ih =>
    cases rest with
    | nil => rfl
    | cons next rest => rw [glue, ih]

theorem glue_append_singleton {β : Type} (before : List (List β)) (last row : List β)
    (rows : List (List β)) :
    glue (before ++ [last]) (row :: rows) = before ++ (last ++ row) :: rows := by
  induction before with
  | nil => rfl
  | cons first before ih =>
    cases before with
    | nil => rfl
    | cons next before => rw [List.cons_append, List.cons_append, glue, ← List.cons_append, ih]; rfl

/-- The tokens are complete, and these are their clauses. -/
def HasClauses (ts : List (Token α)) (rows : List (List (Reading α))) : Prop :=
  ∃ l, State.run {} ts = some ⟨l, []⟩ ∧ l.clauses = some rows

namespace HasClauses

variable {ts us : List (Token α)} {rows rows' : List (List (Reading α))} {x : Reading α}

/-- What is complete ends with an operand, and is no query. -/
theorem cases {l : Level α} (h : l.clauses = some rows) :
    l.tokens.head?.any Token.beginsQuery = false ∧ l.between = false ∧
      ∃ x, l.last? = some x ∧ rows = l.disjuncts ++ [l.conjuncts ++ [x]] := by
  simp only [Level.clauses] at h
  split at h
  · cases h
  next query =>
    obtain ⟨x, last, rfl⟩ := Option.map_eq_some_iff.mp h
    refine ⟨Bool.eq_false_iff.mpr query, ?_, x, last, rfl⟩
    simp only [Level.last?] at last
    split at last
    · cases last
    next complete => exact (Bool.or_eq_false_iff.mp (Bool.eq_false_iff.mpr complete)).2

theorem ne_nil (h : HasClauses ts rows) : rows ≠ [] := by
  obtain ⟨l, -, closes⟩ := h
  obtain ⟨-, -, x, -, rfl⟩ := cases closes
  simp

/-- After a connective that leaves the level at `c`, tokens are read as they are by themselves. -/
theorem connect {l c : Level α} {t : Token α} (run : State.run {} ts = some ⟨l, []⟩)
    (closes : l.clauses = some rows) (second : HasClauses us rows')
    (step : State.step ⟨l, []⟩ t = some ⟨c.following {}, []⟩) (noted : c.tokens = l.tokens ++ [t])
    (plain : t.beginsQuery = false) :
    HasClauses (ts ++ t :: us) (glue (c.disjuncts ++ [c.conjuncts]) rows') := by
  obtain ⟨noQuery, -⟩ := cases closes
  obtain ⟨l', run', closes'⟩ := second
  obtain ⟨-, -, x, last, rfl⟩ := cases closes'
  refine ⟨c.following l', ?_, ?_⟩
  · rw [State.run_append, run, Option.bind_some, State.run_cons, step, Option.bind_some]
    exact State.run_within c [] run'
  · have same : (c.following l').tokens.head?.any Token.beginsQuery = false := by
      show (c.tokens ++ l'.tokens).head?.any Token.beginsQuery = false
      rw [noted]
      cases head : l.tokens with
      | nil => simpa using plain
      | cons t ts => simpa [head] using noQuery
    rw [Level.clauses, same]
    simp only [Bool.false_eq_true, if_false, Level.last?_following, last, Option.map_some]
    obtain ⟨disjuncts, conjuncts, _⟩ := l'
    cases disjuncts with
    | nil => simp [Level.following, glue_append_singleton]
    | cons row rest => simp [Level.following, glue_append_singleton]

theorem and (first : HasClauses ts rows) (second : HasClauses us rows') :
    HasClauses (ts ++ .and :: us) (glue rows rows') := by
  obtain ⟨l, run, closes⟩ := first
  obtain ⟨-, apart, x, last, rfl⟩ := cases closes
  exact connect (c := ⟨l.disjuncts, l.conjuncts ++ [x], 0, [], none, false, l.tokens ++ [.and]⟩)
    run closes second (by simp [State.step, Level.next, apart, last, Level.following]) rfl rfl

theorem or (first : HasClauses ts rows) (second : HasClauses us rows') :
    HasClauses (ts ++ .or :: us) (rows ++ rows') := by
  obtain ⟨row, rest, rfl⟩ := List.exists_cons_of_ne_nil second.ne_nil
  obtain ⟨l, run, closes⟩ := first
  obtain ⟨-, -, x, last, rfl⟩ := cases closes
  have joined := connect
    (c := ⟨l.disjuncts ++ [l.conjuncts ++ [x]], [], 0, [], none, false, l.tokens ++ [.or]⟩)
    run closes second (by simp [State.step, Level.next, last, Level.following]) rfl rfl
  rwa [glue_append_singleton] at joined

/-- What stands between parentheses, wherever the parentheses are. -/
theorem between (h : HasClauses ts rows) (whole : Shape.ofClauses? rows = some x) (l : Level α)
    (around : List (Token α × Level α)) :
    State.run ⟨l, around⟩ (.left :: ts ++ [.right]) =
      some ⟨{ l with
        operand := l.operand ++ (.left :: ts ++ [.right])
        inner := if l.operand.isEmpty then some x else none
        tokens := l.tokens ++ (.left :: ts ++ [.right]) }, around⟩ := by
  obtain ⟨inner, run, closes⟩ := h
  have reading : inner.reading = some x := by rw [Level.reading, closes, Option.bind_some, whole]
  have inside := State.run_within {} ((.left, l) :: around) run
  simp only [State.within, List.isEmpty_nil, if_true, Level.following_empty, Level.under]
    at inside
  rw [List.cons_append, State.run_cons, State.step, Option.bind_some, State.run_append, inside]
  simp [State.step, State.step.close, Token.isClosedBy, Level.takeGroup, reading,
    State.tokens_of_run run]

theorem group (h : HasClauses ts rows) (whole : Shape.ofClauses? rows = some x) :
    HasClauses (.left :: ts ++ [.right]) [[x]] :=
  ⟨_, h.between whole {} [], by simp [Level.clauses, Level.last?, Token.beginsQuery]⟩

theorem not (h : HasClauses ts rows) (whole : Shape.ofClauses? rows = some x) :
    HasClauses (.not :: .left :: ts ++ [.right]) [[.not x]] :=
  ⟨_, h.between whole { negations := 1, tokens := [.not] } [],
    by simp [Level.clauses, Level.last?, Token.beginsQuery]⟩

end HasClauses

/-! ### Clauses of texts -/

section

variable {xs ys : List (Symbol α)} {ts us : List (Token α)} {rows rows' : List (List (Reading α))}
  {x : Reading α}

theorem clauses_eq_some_iff :
    clauses xs = some rows ↔ ∃ ts, Reads xs ts ∧ HasClauses ts rows := by
  constructor
  · intro h
    obtain ⟨ts, reads, h⟩ := Option.bind_eq_some_iff.mp h
    obtain ⟨⟨l, outer⟩, run, h⟩ := Option.bind_eq_some_iff.mp h
    cases outer with
    | nil => exact ⟨ts, reads, l, run, h⟩
    | cons x rest => cases h
  · intro ⟨ts, reads, l, run, closes⟩
    simp [clauses, show tokens xs = some ts from reads, run, closes]

theorem clauses_and (first : clauses xs = some rows) (second : clauses ys = some rows') :
    clauses (xs ++ symbols " AND " ++ ys) = some (glue rows rows') := by
  obtain ⟨ts, reads, has⟩ := clauses_eq_some_iff.mp first
  obtain ⟨us, reads', has'⟩ := clauses_eq_some_iff.mp second
  refine clauses_eq_some_iff.mpr ⟨_, ?_, has.and has'⟩
  have next : Reads (symbols " AND " ++ ys) ([.and] ++ us) := Reads.after rfl reads'
  rw [List.append_assoc]
  exact reads.append (c := ' ') rfl next

theorem clauses_or (first : clauses xs = some rows) (second : clauses ys = some rows') :
    clauses (xs ++ symbols " OR " ++ ys) = some (rows ++ rows') := by
  obtain ⟨ts, reads, has⟩ := clauses_eq_some_iff.mp first
  obtain ⟨us, reads', has'⟩ := clauses_eq_some_iff.mp second
  refine clauses_eq_some_iff.mpr ⟨_, ?_, has.or has'⟩
  have next : Reads (symbols " OR " ++ ys) ([.or] ++ us) := Reads.after rfl reads'
  rw [List.append_assoc]
  exact reads.append (c := ' ') rfl next

/-- A text between parentheses is read as it is by itself. -/
theorem reads_group {opened : List (Symbol α)} (first : List (Token α))
    (start : scan .nothing opened = some (.nothing, first)) (reads : Reads xs ts) :
    Reads (opened ++ xs ++ symbols ")") (first ++ ts ++ [.right]) := by
  rw [List.append_assoc, List.append_assoc]
  exact Reads.after start (reads.append (c := ')') rfl rfl)

theorem clauses_group (h : readText xs = some x) :
    clauses (symbols "(" ++ xs ++ symbols ")") = some [[x]] := by
  obtain ⟨rows, closes, whole⟩ := Option.bind_eq_some_iff.mp h
  obtain ⟨ts, reads, has⟩ := clauses_eq_some_iff.mp closes
  exact clauses_eq_some_iff.mpr ⟨_, reads_group [.left] rfl reads, has.group whole⟩

theorem clauses_not (h : readText xs = some x) :
    clauses (symbols "NOT (" ++ xs ++ symbols ")") = some [[.not x]] := by
  obtain ⟨rows, closes, whole⟩ := Option.bind_eq_some_iff.mp h
  obtain ⟨ts, reads, has⟩ := clauses_eq_some_iff.mp closes
  exact clauses_eq_some_iff.mpr ⟨_, reads_group [.not, .left] rfl reads, has.not whole⟩

end

end Folio.Sql
