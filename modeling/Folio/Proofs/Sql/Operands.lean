import Folio.Proofs.Sql.Reading
import Folio.Sql.Condition

/-!
# Folio.Proofs.Sql.Operands

The conditions that the library writes are read as one condition each.

Their text has connectives at no place but between parentheses and in `IS NOT NULL` (`Inert`),
so whatever it is made of, it ends up in one operand (`Inert.run`). The names of columns have
to be words for that (`IsName`); everything else is quoted, a number or a word of SQL.
-/

namespace Folio.Sql

variable {α : Type}

/-! ### Tokens without connectives -/

/-- Tokens that all go to one operand. -/
inductive Inert : List (Token α) → Prop
  | nil : Inert []
  | word {ts : List (Token α)} (cs : List Char) : Inert ts → Inert (.word cs :: ts)
  | mark {ts : List (Token α)} (c : Char) : Inert ts → Inert (.mark c :: ts)
  | quoted {ts : List (Token α)} (q : Quote) (cs : List Char) : Inert ts → Inert (.quoted q cs :: ts)
  | whole {ts : List (Token α)} (a : α) : Inert ts → Inert (.whole a :: ts)
  | isNot {ts : List (Token α)} (cs : List Char) : Inert ts → Inert (.word cs :: .not :: ts)
  | group {inner ts : List (Token α)} : Inert inner → Inert ts → Inert (.left :: inner ++ .right :: ts)

/-- Can an operand that is not one pair of parentheses begin here? -/
def Token.beginsOperand : Token α → Bool
  | .word cs => !(Token.word cs : Token α).beginsQuery
  | .mark _ | .quoted .. | .whole _ => true
  | _ => false

/-- The level with the tokens in its operand. -/
def Level.takeAll (l : Level α) (ts : List (Token α)) (inner : Option (Reading α)) : Level α :=
  { l with operand := l.operand ++ ts, inner, tokens := l.tokens ++ ts }

/-- The tokens all go to the operand at hand, which is one pair of parentheses only if it was
or they are. -/
def Joins (l : Level α) (around : List (Token α × Level α)) (ts : List (Token α)) : Prop :=
  ∃ inner, State.run ⟨l, around⟩ ts = some ⟨l.takeAll ts inner, around⟩ ∧
    (l.operand ≠ [] ∧ l.inner = none ∨ ts.head?.any Token.beginsOperand → inner = none)

theorem Joins.cons {l : Level α} {around : List (Token α × Level α)} {t : Token α}
    {ts : List (Token α)} (step : State.step ⟨l, around⟩ t = some ⟨l.take t, around⟩)
    (rest : Joins (l.take t) around ts) : Joins l around (t :: ts) := by
  obtain ⟨inner, run, plain⟩ := rest
  refine ⟨inner, ?_, fun _ => plain (.inl ⟨by simp [Level.take], rfl⟩)⟩
  rw [State.run_cons, step, Option.bind_some, run]
  simp [Level.take, Level.takeAll]

namespace Inert

variable {ts us inner : List (Token α)}

theorem append (first : Inert ts) (second : Inert us) : Inert (ts ++ us) := by
  induction first with
  | nil => exact second
  | word cs _ ih => exact .word cs ih
  | mark c _ ih => exact .mark c ih
  | quoted q cs _ ih => exact .quoted q cs ih
  | whole a _ ih => exact .whole a ih
  | isNot cs _ ih => exact .isNot cs ih
  | group inner _ _ ih =>
    rw [List.append_assoc, List.cons_append]
    exact .group inner ih

theorem joins (h : Inert ts) (l : Level α) (around : List (Token α × Level α)) :
    Joins l around ts := by
  induction h generalizing l around with
  | nil => exact ⟨l.inner, by simp [Level.takeAll], fun h => (h.resolve_right (by simp)).2⟩
  | word _ _ ih | mark _ _ ih | quoted _ _ _ ih | whole _ _ ih => exact .cons rfl (ih _ around)
  | isNot cs _ ih =>
    -- the operand has begun with the word, so `NOT` does not stand before it
    have step : State.step ⟨l.take (.word cs), around⟩ .not =
        some ⟨(l.take (.word cs)).take .not, around⟩ := by
      simp [State.step, Level.next, Level.take]
    exact .cons rfl (.cons step (ih _ around))
  | @group inner ts _ _ between rest =>
    obtain ⟨i, inside, -⟩ := between {} ((.left, l) :: around)
    obtain ⟨j, after, plain⟩ := rest (l.takeGroup .left (Level.takeAll {} inner i) .right) around
    refine ⟨j, ?_, fun h => plain (.inl ?_)⟩
    · rw [List.cons_append, State.run_cons, State.step, Option.bind_some, State.run_append, inside,
        Option.bind_some, State.run_cons, State.step, State.step.close]
      simp only [Token.isClosedBy, if_true, Option.bind_some]
      rw [after]
      simp [Level.takeGroup, Level.takeAll]
    · obtain ⟨begun, -⟩ := h.resolve_right (by simp [Token.beginsOperand])
      simp [Level.takeGroup, begun]

/-- Such tokens are one condition. -/
theorem hasClauses (h : Inert ts) (begins : ts.head?.any Token.beginsOperand) :
    HasClauses ts [[.one ts]] := by
  obtain ⟨inner, run, plain⟩ := h.joins {} []
  obtain rfl := plain (.inr begins)
  refine ⟨_, run, ?_⟩
  cases ts with
  | nil => cases begins
  | cons t ts =>
    have noQuery : t.beginsQuery = false := by
      cases t <;> simp_all [Token.beginsOperand, Token.beginsQuery]
    simp [Level.clauses, Level.takeAll, Level.last?, noQuery]

end Inert

/-! ### Texts of one operand -/

/-- A text without connectives. -/
def IsInert (xs : List (Symbol α)) : Prop :=
  ∃ ts, Reads xs ts ∧ Inert ts

/-- A text that is one operand. -/
def IsOperand (xs : List (Symbol α)) : Prop :=
  ∃ ts, Reads xs ts ∧ Inert ts ∧ ts.head?.any Token.beginsOperand

/-- A text that begins with a break. -/
def Breaks (xs : List (Symbol α)) : Prop :=
  ∃ c ys, xs = .char c :: ys ∧ isBreak c

section

variable {xs ys p : List (Symbol α)} {ps : List (Token α)}

theorem IsOperand.isInert (h : IsOperand xs) : IsInert xs := by
  obtain ⟨ts, reads, inert, -⟩ := h
  exact ⟨ts, reads, inert⟩

/-- An operand is read as one condition. -/
theorem IsOperand.clauses (h : IsOperand xs) :
    ∃ ts, Reads xs ts ∧ Sql.clauses xs = some [[.one ts]] := by
  obtain ⟨ts, reads, inert, begins⟩ := h
  exact ⟨ts, reads, clauses_eq_some_iff.mpr ⟨ts, reads, inert.hasClauses begins⟩⟩

theorem IsInert.append (h : IsInert xs) (rest : IsInert ys) (breaks : Breaks ys) :
    IsInert (xs ++ ys) := by
  obtain ⟨ts, reads, inert⟩ := h
  obtain ⟨us, reads', inert'⟩ := rest
  obtain ⟨c, ys, rfl, break_⟩ := breaks
  exact ⟨_, reads.append break_ reads', inert.append inert'⟩

theorem IsInert.after (h : IsInert xs) (scanned : scan .nothing p = some (.nothing, ps))
    (inert : Inert ps) : IsInert (p ++ xs) := by
  obtain ⟨ts, reads, inert'⟩ := h
  exact ⟨_, Reads.after scanned reads, inert.append inert'⟩

theorem IsOperand.append (h : IsOperand xs) (rest : IsInert ys) (breaks : Breaks ys) :
    IsOperand (xs ++ ys) := by
  obtain ⟨ts, reads, inert, begins⟩ := h
  obtain ⟨us, reads', inert'⟩ := rest
  obtain ⟨c, ys, rfl, break_⟩ := breaks
  refine ⟨_, reads.append break_ reads', inert.append inert', ?_⟩
  cases ts with
  | nil => simp at begins
  | cons t ts => simpa using begins

/-- A function applied to what follows `p` and its first arguments. -/
theorem IsOperand.call {name : List Char} {qs : List (Token α)}
    (scanned : scan .nothing p = some (.nothing, .word name :: .left :: qs))
    (plain : (Token.word name : Token α).beginsOperand) (inert : Inert qs) (h : IsInert xs) :
    IsOperand (p ++ xs ++ symbols ")") := by
  obtain ⟨ts, reads, inert'⟩ := h
  refine ⟨_, reads_group _ scanned reads, ?_, plain⟩
  simpa using Inert.word name (.group (inert.append inert') .nil)

end

/-! ### Words and quoted texts -/

/-- A name that can stand as it is. -/
structure IsName (s : String) : Prop where
  nonempty : s.toList ≠ []
  letters : s.toList.all isWordChar
  noDigit : s.toList.head?.any Char.isDigit = false
  noKeyword : s.toList.map Char.toLower ∉ keywords
  noQuery : s.toList.map Char.toLower ∉ queryWords

theorem beginWith_of_isWordChar {c : Char} (h : isWordChar c) :
    beginWith (α := α) c = some (.word [c], []) := by
  have unquoted : Quote.opened? c = none := by
    unfold Quote.opened?
    split
    all_goals first | rfl | exact absurd h (by decide)
  have noLeft : c ≠ '(' := fun same => absurd (same ▸ h) (by decide)
  have noRight : c ≠ ')' := fun same => absurd (same ▸ h) (by decide)
  simp [beginWith, unquoted, noLeft, noRight, h]

theorem scan_word {cs : List Char} (letters : cs.all isWordChar) (before : List Char) :
    scan (α := α) (.word before) (cs.map .char) = some (.word (before ++ cs), []) := by
  induction cs generalizing before with
  | nil => simp [scan]
  | cons c cs ih =>
    obtain ⟨first, rest⟩ := (Bool.and_eq_true _ _).mp (List.all_cons ▸ letters)
    simp [scan, Pending.next, first, ih rest]

/-- A word is read as the token of that word. -/
theorem reads_word {cs : List Char} {t : Token α} (some_ : cs ≠ []) (letters : cs.all isWordChar)
    (token : Token.ofWord? cs = some t) : Reads (cs.map .char) [t] := by
  cases cs with
  | nil => exact absurd rfl some_
  | cons c cs =>
    obtain ⟨first, rest⟩ := (Bool.and_eq_true _ _).mp (List.all_cons ▸ letters)
    simp [Reads, tokens, scan, Pending.next, beginWith_of_isWordChar first, scan_word rest,
      Pending.flush, token]

theorem lookup_keywords {cs : List Char} (h : cs ∉ keywords) :
    (keywords.zip (keywordTokens : List (Token α))).lookup cs = none := by
  rw [List.lookup_eq_none_iff]
  intro p mem
  simpa using fun same : cs = p.1 => h (same ▸ (List.of_mem_zip mem).1)

theorem IsName.reads {s : String} (h : IsName s) : Reads (symbols s : List (Symbol α)) [.word s.toList] := by
  have token : Token.ofWord? (α := α) s.toList = some (.word s.toList) := by
    rw [Token.ofWord?, h.noDigit, lookup_keywords h.noKeyword]
    simp
  exact reads_word h.nonempty h.letters token

theorem IsName.isOperand {s : String} (h : IsName s) : IsOperand (symbols s : List (Symbol α)) := by
  refine ⟨[.word s.toList], h.reads, .word _ .nil, ?_⟩
  simpa [Token.beginsOperand, Token.beginsQuery] using h.noQuery

/-! ### Numbers and parameters -/

theorem isWordChar_of_isDigit {c : Char} (h : c.isDigit) : isWordChar c := by
  simp [isWordChar, Char.isAlphanum, h]

theorem toLower_of_isDigit {c : Char} (h : c.isDigit) : c.toLower = c := by
  simp only [Char.isDigit, Bool.and_eq_true, decide_eq_true_eq] at h
  rw [Char.toLower, dif_neg]
  exact fun upper => absurd (UInt32.le_trans upper.1 h.2) (by decide)

theorem toString_eq_digits (n : Nat) :
    ∃ c cs, (toString n).toList = c :: cs ∧ (c :: cs).all Char.isDigit := by
  have digits : (toString n).toList.all Char.isDigit := by
    refine List.all_eq_true.mpr fun c mem => ?_
    rw [show (toString n).toList = Nat.toDigits 10 n by simp] at mem
    exact Nat.isDigit_of_mem_toDigits (by decide) (by decide) mem
  obtain ⟨c, cs, same⟩ := List.exists_cons_of_ne_nil (l := (toString n).toList) (by simp)
  exact ⟨c, cs, same, same ▸ digits⟩

/-- Digits are a word. -/
theorem word_of_digits {c : Char} {cs : List Char} (digits : (c :: cs).all Char.isDigit) :
    (c :: cs).all isWordChar ∧ Token.ofWord? (α := α) (c :: cs) = some (.word (c :: cs)) := by
  have digit : ∀ x ∈ c :: cs, x.isDigit := List.all_eq_true.mp digits
  have number : (c :: cs).all isNumberChar :=
    List.all_eq_true.mpr fun x mem => by simp [isNumberChar, digit x mem]
  have first : (c :: cs).head?.any Char.isDigit := digit c List.mem_cons_self
  refine ⟨List.all_eq_true.mpr fun x mem => isWordChar_of_isDigit (digit x mem), ?_⟩
  rw [Token.ofWord?, if_pos first, if_pos number]

theorem isOperand_number (n : Nat) : IsOperand (symbols (toString n) : List (Symbol α)) := by
  obtain ⟨c, cs, same, digits⟩ := toString_eq_digits n
  refine ⟨[.word (c :: cs)], ?_, .word _ .nil, ?_⟩
  · obtain ⟨letters, token⟩ := word_of_digits (α := α) digits
    rw [symbols, same]
    exact reads_word (List.cons_ne_nil c cs) letters token
  · have digit : c.isDigit := List.all_eq_true.mp digits c List.mem_cons_self
    have apart : c ≠ 's' ∧ c ≠ 'v' ∧ c ≠ 'w' := by
      refine ⟨?_, ?_, ?_⟩ <;>
        exact fun letter => absurd (letter ▸ digit) (by decide)
    simp [Token.beginsOperand, Token.beginsQuery, queryWords, toLower_of_isDigit digit, apart]

theorem isOperand_placeholder (d : Dialect) (n : Nat) : IsOperand (symbols (d.placeholder n) : List (Symbol α)) := by
  obtain ⟨c, cs, same, digits⟩ := toString_eq_digits n
  cases d with
  | mssql =>
    have letters : ('@' :: 'P' :: c :: cs).all isWordChar := by
      rw [List.all_cons, List.all_cons, (word_of_digits (α := α) digits).1]
      rfl
    have token : Token.ofWord? (α := α) ('@' :: 'P' :: c :: cs) =
        some (.word ('@' :: 'P' :: c :: cs)) := by
      rw [Token.ofWord?, lookup_keywords (by simp [keywords])]
      rfl
    refine ⟨[.word ('@' :: 'P' :: c :: cs)], ?_, .word _ .nil, ?_⟩
    · rw [symbols, Dialect.placeholder, String.toList_append, same]
      exact reads_word (List.cons_ne_nil _ _) letters token
    · simp [Token.beginsOperand, Token.beginsQuery, queryWords]
  | sqlite =>
    refine ⟨.mark '?' :: [.word (c :: cs)], ?_, .mark _ (.word _ .nil), rfl⟩
    rw [symbols, Dialect.placeholder, String.toList_append, same]
    obtain ⟨letters, token⟩ := word_of_digits (α := α) digits
    obtain ⟨first, rest⟩ := (Bool.and_eq_true _ _).mp (List.all_cons ▸ letters)
    have mark : beginWith (α := α) '?' = some (.mark '?', []) := rfl
    simp [Reads, tokens, scan, Pending.next, mark, isComment, Pending.break, Pending.flush,
      beginWith_of_isWordChar first, scan_word rest, token]

/-! ### Quoted texts -/

theorem scan_doubling (q : Quote) (before cs : List Char) (ys : List (Symbol α)) :
    scan (.quoted q before) ((doubling q.closing cs).map .char ++ .char q.closing :: ys) =
      scan (.quoteEnd q (before ++ cs)) ys := by
  induction cs generalizing before with
  | nil => simp [doubling, scan, Pending.next]
  | cons c cs ih =>
    by_cases same : c = q.closing
    · simp [doubling, scan, Pending.next, same, ih]
    · simp [doubling, scan, Pending.next, same, ih]

theorem isInert_quoteText (s : String) : IsInert (symbols (quoteText s) : List (Symbol α)) := by
  refine ⟨[.quoted .single s.toList], ?_, .quoted _ _ .nil⟩
  have opened : beginWith (α := α) '\'' = some (.quoted .single [], []) := rfl
  have quoted := scan_doubling (α := α) .single [] s.toList []
  rw [Quote.closing, List.nil_append] at quoted
  simp [Reads, tokens, symbols, quoteText, doubled, scan, Pending.next, opened, quoted,
    Pending.flush]

/-! ### Terms -/

/-- The columns that a term names have names that are words. It names none of another row. -/
def Term.IsNamed : Term → Prop
  | .column name => IsName name
  | .columnOf .. => False
  | .cast _ inner | .next inner | .byteLength inner | .trimmed inner => inner.IsNamed
  | .slot _ | .number _ | .null | .emptyText | .json _ | .jsonType _ | .element | .elementType => True

/-- A cast in its words. -/
theorem isOperand_cast (type : String) {s : String} (h : IsOperand (symbols s : List (Symbol α)))
    (typed : IsInert (symbols (" AS " ++ type) : List (Symbol α))) :
    IsOperand (symbols ("CAST(" ++ s ++ " AS " ++ type ++ ")") : List (Symbol α)) := by
  rw [symbols_append] at typed
  have inside : IsInert (symbols s ++ (symbols " AS " ++ symbols type)) :=
    h.isInert.append typed ⟨' ', _, rfl, rfl⟩
  simpa only [symbols_append, List.append_assoc] using
    IsOperand.call (p := symbols "CAST(") rfl rfl .nil inside

theorem Cast.isOperand (d : Dialect) (c : Cast) {s : String}
    (h : IsOperand (symbols s : List (Symbol α))) :
    IsOperand (symbols (c.sql d s) : List (Symbol α)) := by
  have whole := isOperand_cast "INTEGER" h ⟨_, rfl, .word _ (.word _ .nil)⟩
  have real := isOperand_cast "REAL" h ⟨_, rfl, .word _ (.word _ .nil)⟩
  have closed {type : String} (after : String) (same : after = " AS " ++ type ++ ")") :
      "CAST(" ++ s ++ " AS " ++ type ++ ")" = "CAST(" ++ s ++ after := by
    simp only [same, String.append_assoc]
  cases d with
  | mssql =>
    show IsOperand (symbols ("CAST(" ++ s ++ " AS " ++ c.mssqlType ++ ")"))
    refine isOperand_cast _ h ?_
    cases c with
    | decimal =>
      exact ⟨_, rfl, .word _ (.word _ (.group (.word _ (.mark _ (.word _ .nil))) .nil))⟩
    | _ => exact ⟨_, rfl, .word _ (.word _ .nil)⟩
  | sqlite =>
    rw [closed " AS INTEGER)" rfl] at whole
    rw [closed " AS REAL)" rfl] at real
    cases c with
    | int | bigint => exact whole
    | float | decimal => exact real
    | uuid => exact h
    | timestamp =>
      show IsOperand (symbols ("strftime('%Y-%m-%d %H:%M:%f', " ++ s ++ ")"))
      rw [symbols_append, symbols_append]
      exact .call rfl rfl (.quoted _ _ (.mark _ .nil)) h.isInert

/-- A part of the document, by the function that reads it. -/
theorem isOperand_path {f : String} (path : JsonPath) {name : List Char}
    (scanned : scan .nothing (symbols (f ++ dataColumn ++ ", ")) =
      some (.nothing, [(.word name : Token α), .left, .word dataColumn.toList, .mark ',']))
    (plain : (Token.word name : Token α).beginsOperand) :
    IsOperand (symbols (f ++ dataColumn ++ ", " ++ path.sql ++ ")") : List (Symbol α)) := by
  rw [symbols_append _ ")", symbols_append _ path.sql]
  exact .call scanned plain (.word _ (.mark _ .nil)) (isInert_quoteText _)

theorem Term.isOperand (d : Dialect) {t : Term} (h : t.IsNamed) :
    IsOperand (symbols (t.sql d) : List (Symbol α)) := by
  induction t with
  | column name => exact IsName.isOperand h
  | columnOf row name => exact h.elim
  | slot n => exact isOperand_placeholder d n
  | number n => exact isOperand_number n
  | null =>
    show IsOperand (symbols "NULL")
    exact ⟨_, rfl, .word _ .nil, rfl⟩
  | emptyText =>
    show IsOperand (symbols "''")
    exact ⟨_, rfl, .quoted _ _ .nil, rfl⟩
  | json path =>
    cases d with
    | mssql => exact isOperand_path (f := "JSON_VALUE(") path rfl rfl
    | sqlite => exact isOperand_path (f := "json_extract(") path rfl rfl
  | jsonType path => exact isOperand_path (f := "json_type(") path rfl rfl
  | element =>
    cases d with
    | mssql => exact ⟨_, rfl, .word _ (.mark _ (.quoted _ _ .nil)), rfl⟩
    | sqlite => exact ⟨_, rfl, .word _ (.mark _ (.word _ .nil)), rfl⟩
  | elementType =>
    show IsOperand (symbols "j.type")
    exact ⟨_, rfl, .word _ (.mark _ (.word _ .nil)), rfl⟩
  | cast c inner ih => exact c.isOperand d (ih h)
  | next inner ih =>
    show IsOperand (symbols (inner.sql d ++ " + 1"))
    rw [symbols_append]
    exact (ih h).append ⟨_, rfl, .mark _ (.word _ .nil)⟩ ⟨' ', _, rfl, rfl⟩
  | byteLength inner ih =>
    show IsOperand (symbols ("DATALENGTH(" ++ inner.sql d ++ ")"))
    rw [symbols_append, symbols_append]
    exact .call rfl rfl .nil (ih h).isInert
  | trimmed inner ih =>
    cases d with
    | mssql =>
      have within := IsOperand.call (p := symbols "RTRIM(") rfl rfl .nil (ih h).isInert
      have around := IsOperand.call (p := symbols "LTRIM(") rfl rfl .nil within.isInert
      show IsOperand (symbols ("LTRIM(RTRIM(" ++ inner.sql .mssql ++ "))"))
      have opening : (symbols "LTRIM(RTRIM(" : List (Symbol α)) =
        symbols "LTRIM(" ++ symbols "RTRIM(" := rfl
      have closing : (symbols "))" : List (Symbol α)) = symbols ")" ++ symbols ")" := rfl
      rw [symbols_append, symbols_append, opening, closing]
      simpa only [List.append_assoc] using around
    | sqlite =>
      show IsOperand (symbols ("TRIM(" ++ inner.sql .sqlite ++ ")"))
      rw [symbols_append, symbols_append]
      exact .call rfl rfl .nil (ih h).isInert

/-! ### Conditions -/

/-- A condition that connects no others, and whose text is the library's own. -/
def Condition.IsPlain : Condition → Prop
  | .compare left _ right => left.IsNamed ∧ right.IsNamed
  | .isNull t | .isNotNull t => t.IsNamed
  | .and .. | .or .. | .not _ | .template _ => False
  | .literal text => text = "1=1" ∨ text = "1=0"
  | .inList t items => t.IsNamed ∧ ∀ item ∈ items, item.IsNamed
  | .like t other | .equalFolded t other | .anyElement _ t other => t.IsNamed ∧ other.IsNamed

theorem isInert_intercalate {items : List String}
    (h : ∀ s ∈ items, IsInert (symbols s : List (Symbol α))) :
    IsInert (symbols (String.intercalate ", " items) : List (Symbol α)) := by
  induction items with
  | nil => exact ⟨[], rfl, .nil⟩
  | cons s rest ih =>
    cases rest with
    | nil => simpa using h s List.mem_cons_self
    | cons r rest =>
      have later := (ih fun s mem => h s (List.mem_cons_of_mem _ mem)).after (p := symbols ", ") rfl
        (.mark _ .nil)
      rw [String.intercalate_cons_cons, symbols_append, symbols_append, List.append_assoc]
      exact (h s List.mem_cons_self).append later ⟨',', _, rfl, rfl⟩

/-- An operator between two blanks. -/
theorem isInert_operator (op : Operator) {xs : List (Symbol α)} (h : IsInert xs) :
    IsInert (symbols " " ++ symbols op.sql ++ symbols " " ++ xs) := by
  cases op with
  | eq | gt | lt => exact h.after rfl (.mark _ .nil)
  | ne | ge | le => exact h.after rfl (.mark _ (.mark _ .nil))

theorem isOperand_compare {xs ys : List (Symbol α)} (left : IsOperand xs) (op : Operator)
    (right : IsInert ys) :
    IsOperand (xs ++ symbols " " ++ symbols op.sql ++ symbols " " ++ ys) := by
  simpa only [List.append_assoc] using
    left.append (isInert_operator op right) ⟨' ', _, rfl, rfl⟩

/-- A query over the elements of an array is one operand, whatever its condition is. -/
theorem isOperand_exists {f : String} {xs : List (Symbol α)} (path : JsonPath) {name : List Char}
    (scanned : scan .nothing (symbols (f ++ dataColumn ++ ", ")) =
      some (.nothing, [(.word name : Token α), .left, .word dataColumn.toList, .mark ',']))
    (plain : (Token.word name : Token α).beginsOperand) (h : IsInert xs) :
    IsOperand (symbols "EXISTS (SELECT 1 FROM " ++ symbols f ++ symbols dataColumn ++ symbols ", " ++
      symbols path.sql ++ symbols ") AS j WHERE " ++ xs ++ symbols ")") := by
  have condition : IsInert (symbols " AS j WHERE " ++ xs) :=
    h.after rfl (.word _ (.word _ (.word _ .nil)))
  have rows := (isOperand_path path scanned plain).isInert.append condition ⟨' ', _, rfl, rfl⟩
  have query := IsOperand.call (p := symbols "EXISTS (SELECT 1 FROM ") rfl rfl
    (.word _ (.word _ (.word _ .nil))) rows
  have closing : (symbols ") AS j WHERE " : List (Symbol α)) =
    symbols ")" ++ symbols " AS j WHERE " := rfl
  rw [closing]
  simpa only [symbols_append, List.append_assoc] using query

theorem Condition.isOperand (d : Dialect) {c : Condition} (h : c.IsPlain) :
    IsOperand (symbols (c.sql d) : List (Symbol α)) := by
  cases c with
  | compare left op right =>
    show IsOperand (symbols (left.sql d ++ " " ++ op.sql ++ " " ++ right.sql d))
    simp only [symbols_append]
    exact isOperand_compare (left.isOperand d h.1) op (right.isOperand d h.2).isInert
  | isNull t =>
    show IsOperand (symbols (t.sql d ++ " IS NULL"))
    rw [symbols_append]
    exact (t.isOperand d h).append ⟨_, rfl, .word _ (.word _ .nil)⟩ ⟨' ', _, rfl, rfl⟩
  | isNotNull t =>
    show IsOperand (symbols (t.sql d ++ " IS NOT NULL"))
    rw [symbols_append]
    exact (t.isOperand d h).append ⟨_, rfl, .isNot _ (.word _ .nil)⟩ ⟨' ', _, rfl, rfl⟩
  | and _ _ | or _ _ | not _ | template _ => exact h.elim
  | literal text =>
    show IsOperand (symbols text)
    rcases h with rfl | rfl <;> exact ⟨_, rfl, .word _ (.mark _ (.word _ .nil)), rfl⟩
  | inList t items =>
    have among : IsInert (symbols (String.intercalate ", " (items.map (Term.sql d))) : List (Symbol α)) := by
      refine isInert_intercalate fun s mem => ?_
      obtain ⟨item, there, rfl⟩ := List.mem_map.mp mem
      exact (item.isOperand d (h.2 item there)).isInert
    have list := IsOperand.call (p := symbols " IN (") rfl rfl .nil among
    have whole := (t.isOperand d h.1).append list.isInert ⟨' ', _, rfl, rfl⟩
    show IsOperand (symbols (t.sql d ++ " IN (" ++ String.intercalate ", " (items.map (Term.sql d)) ++ ")"))
    simpa only [symbols_append, List.append_assoc] using whole
  | like t pattern =>
    have matched : IsInert (symbols " LIKE " ++ symbols (pattern.sql d) : List (Symbol α)) :=
      (pattern.isOperand d h.2).isInert.after rfl (.word _ .nil)
    have start := (t.isOperand d h.1).append matched ⟨' ', _, rfl, rfl⟩
    rw [← List.append_assoc, ← symbols_append, ← symbols_append] at start
    cases d with
    | mssql =>
      show IsOperand (symbols (t.sql .mssql ++ " LIKE " ++ pattern.sql .mssql ++ ""))
      rwa [String.append_empty]
    | sqlite =>
      show IsOperand (symbols (t.sql .sqlite ++ " LIKE " ++ pattern.sql .sqlite ++ " ESCAPE '\\'"))
      rw [symbols_append]
      exact start.append ⟨_, rfl, .word _ (.quoted _ _ .nil)⟩ ⟨' ', _, rfl, rfl⟩
  | equalFolded t other =>
    have right := (other.isOperand (α := α) d h.2).isInert
    cases d with
    | mssql =>
      have equals := right.after (p := symbols " COLLATE Latin1_General_CI_AS = ") rfl
        (.word _ (.word _ (.mark _ .nil)))
      show IsOperand (symbols (t.sql .mssql ++ " COLLATE Latin1_General_CI_AS = " ++ other.sql .mssql))
      rw [symbols_append, symbols_append, List.append_assoc]
      exact (t.isOperand .mssql h.1).append equals ⟨' ', _, rfl, rfl⟩
    | sqlite =>
      have noCase : IsInert (symbols " COLLATE NOCASE" : List (Symbol α)) :=
        ⟨_, rfl, .word _ (.word _ .nil)⟩
      have folded := right.append noCase ⟨' ', _, rfl, rfl⟩
      have equals := folded.after (p := symbols " = ") rfl (.mark _ .nil)
      show IsOperand (symbols (t.sql .sqlite ++ " = " ++ other.sql .sqlite ++ " COLLATE NOCASE"))
      simp only [symbols_append, List.append_assoc]
      exact (t.isOperand .sqlite h.1).append equals ⟨' ', _, rfl, rfl⟩
  | anyElement path item other =>
    have equals := (other.isOperand (α := α) d h.2).isInert.after (p := symbols " = ") rfl (.mark _ .nil)
    have condition := (item.isOperand (α := α) d h.1).isInert.append equals ⟨' ', _, rfl, rfl⟩
    cases d with
    | mssql =>
      have whole := isOperand_exists (f := "OPENJSON(") path rfl rfl condition
      show IsOperand (symbols ("EXISTS (SELECT 1 FROM " ++ "OPENJSON(" ++ dataColumn ++ ", " ++
        path.sql ++ ") AS j WHERE " ++ item.sql .mssql ++ " = " ++ other.sql .mssql ++ ")"))
      simpa only [symbols_append, List.append_assoc] using whole
    | sqlite =>
      have whole := isOperand_exists (f := "json_each(") path rfl rfl condition
      show IsOperand (symbols ("EXISTS (SELECT 1 FROM " ++ "json_each(" ++ dataColumn ++ ", " ++
        path.sql ++ ") AS j WHERE " ++ item.sql .sqlite ++ " = " ++ other.sql .sqlite ++ ")"))
      simpa only [symbols_append, List.append_assoc] using whole

end Folio.Sql
