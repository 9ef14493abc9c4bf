import Folio.Proofs.Sql.Operands
import Folio.Statement.Command

/-!
# Folio.Proofs.Sql.Quoting

Names and texts are read back from the text of a statement, whatever characters they have.

What is written of a name or a text is read up to its last character and no further: what follows is read as if it
stood by itself (`Sql.IsDelimited`). This goes for names within texts as well. To make a table, SQL Server is told in
one text how to make the schema, and asked in another for the table.

A table is made by two statements in one command, so texts are also read into the statements that they hold
(`Sql.statements`): a semicolon ends a statement, unless it is a part of a text or a name.
-/

namespace Folio

open Statement (Builder Command CreateTable)
open Sql

namespace Sql

variable {α : Type}

/-! ### Texts one after the other -/

theorem Reads.afterText {s r : String} {ts us : List (Token α)}
    (first : scan .nothing (symbols s) = some (.nothing, ts)) (rest : Reads (symbols r) us) :
    Reads (symbols (s ++ r)) (ts ++ us) := by
  rw [symbols_append]
  exact .after first rest

theorem Reads.appendText {s r : String} {ts us : List (Token α)} (first : Reads (symbols s) ts)
    (breaks : r.toList.head?.any isBreak) (rest : Reads (symbols r) us) : Reads (symbols (s ++ r)) (ts ++ us) := by
  obtain ⟨c, begins, break_⟩ := (Option.any_eq_true ..).mp breaks
  obtain ⟨cs, same⟩ := List.head?_eq_some_iff.mp begins
  rw [symbols_append, symbols.eq_def r, same]
  rw [symbols, same] at rest
  exact first.append break_ rest

/-! ### Texts that end by themselves -/

/-- The text is read as these tokens, and what follows it as if that were alone, unless it begins with the
character that ends the text. -/
def IsDelimited (s : String) (ts : List (Token α)) (closing : Char) : Prop :=
  ∀ rest : String, rest.toList.head? ≠ some closing →
    tokens (symbols (s ++ rest)) = (tokens (symbols rest)).map (ts ++ ·)

/-- A quote is complete where a character follows that does not end it. -/
theorem isDelimited_of_scan {s : String} {q : Quote} {cs : List Char} {before : List (Token α)}
    (scanned : scan .nothing (symbols s) = some (.quoteEnd q cs, before)) :
    IsDelimited s (before ++ [.quoted q cs]) q.closing := by
  intro rest apart
  rw [tokens, tokens, symbols_append, scan_append, scanned, symbols]
  cases later : rest.toList with
  | nil => simp [scan, Pending.flush]
  | cons c rest =>
    -- the quote ends before `c`, and `c` is taken as the first character of a text
    have other : c ≠ q.closing := fun same => apart (by rw [later, same]; rfl)
    have alone : Pending.nothing.next (α := α) (.char c) = beginWith c := rfl
    have ended : (Pending.quoteEnd q cs).next (α := α) (.char c) =
        (beginWith c).bind fun b => some (b.1, .quoted q cs :: b.2) := by
      rw [Pending.next, if_neg other]
      rfl
    simp [scan, alone, ended, Option.bind_assoc, Option.map_bind]

theorem IsDelimited.followed {s rest : String} {ts us : List (Token α)} {closing : Char}
    (first : IsDelimited s ts closing) (apart : rest.toList.head? ≠ some closing) (later : Reads (symbols rest) us) :
    Reads (symbols (s ++ rest)) (ts ++ us) := by
  rw [Reads, first rest apart, later, Option.map_some]

theorem IsDelimited.alone {s : String} {ts : List (Token α)} {closing : Char} (first : IsDelimited s ts closing) :
    Reads (symbols s) ts := by
  have empty : Reads (symbols "" : List (Symbol α)) [] := rfl
  simpa using first.followed (by simp) empty

/-! ### Names and texts -/

/-- What the dialect puts names between. -/
def Dialect.nameQuote : Dialect → Quote
  | .mssql => .bracket
  | .sqlite => .double

/-- Where a quote is opened, its text is read up to the character that ends it. -/
theorem scan_quoted {q : Quote} {opening : Char} {p : Pending} {ts : List (Token α)}
    (opened : p.next (.char opening) = some (.quoted q [], ts)) (cs : List Char) :
    scan p ((opening :: doubling q.closing cs ++ [q.closing]).map .char) = some (.quoteEnd q cs, ts) := by
  have closed := scan_doubling (α := α) q [] cs []
  rw [List.nil_append] at closed
  simp [scan, opened, closed]

theorem scan_bracketName {p : Pending} {ts : List (Token α)}
    (opened : p.next (.char '[') = some (.quoted .bracket [], ts)) (s : String) :
    scan p (symbols (bracketName s)) = some (.quoteEnd .bracket s.toList, ts) := by
  simpa [symbols, bracketName, doubled, Quote.closing] using scan_quoted opened s.toList

theorem scan_quoteText {p : Pending} {ts : List (Token α)}
    (opened : p.next (.char '\'') = some (.quoted .single [], ts)) (s : String) :
    scan p (symbols (quoteText s)) = some (.quoteEnd .single s.toList, ts) := by
  simpa [symbols, quoteText, doubled, Quote.closing] using scan_quoted opened s.toList

theorem scan_quoteName (d : Dialect) (s : String) :
    scan .nothing (symbols (d.quoteName s) : List (Symbol α)) = some (.quoteEnd d.nameQuote s.toList, []) := by
  cases d with
  | mssql => exact scan_bracketName rfl s
  | sqlite =>
    have opened : Pending.nothing.next (α := α) (.char '"') = some (.quoted .double [], []) := rfl
    simpa [symbols, Dialect.quoteName, Dialect.nameQuote, doubled, Quote.closing] using scan_quoted opened s.toList

theorem isDelimited_quoteName (d : Dialect) (s : String) :
    IsDelimited (α := α) (d.quoteName s) [.quoted d.nameQuote s.toList] d.nameQuote.closing :=
  isDelimited_of_scan (scan_quoteName d s)

theorem isDelimited_quoteText (s : String) : IsDelimited (α := α) (quoteText s) [.quoted .single s.toList] '\'' :=
  isDelimited_of_scan (scan_quoteText rfl s)

theorem isDelimited_nationalText (s : String) :
    IsDelimited (α := α) (nationalText s) [.word ['N'], .quoted .single s.toList] '\'' := by
  have letter : scan .nothing (symbols "N" : List (Symbol α)) = some (.word ['N'], []) := rfl
  have opened : (Pending.word ['N']).next (α := α) (.char '\'') = some (.quoted .single [], [.word ['N']]) := rfl
  have scanned : scan .nothing (symbols (nationalText s)) =
      some (.quoteEnd .single s.toList, ([.word ['N']] : List (Token α))) := by
    rw [nationalText, symbols_append, scan_append, letter]
    simp [scan_quoteText opened]
  exact isDelimited_of_scan scanned

/-- The tokens of a table's name. SQLite's tables are in no schema. -/
def TableName.tokens (d : Dialect) (t : TableName) : List (Token α) :=
  match d with
  | .mssql => [.quoted .bracket t.schema.toList, .mark '.', .quoted .bracket t.name.toList]
  | .sqlite => [.quoted .double t.name.toList]

theorem TableName.isDelimited_sql (d : Dialect) (t : TableName) :
    IsDelimited (α := α) (t.sql d) (t.tokens d) d.nameQuote.closing := by
  cases d with
  | sqlite => exact isDelimited_quoteName .sqlite t.name
  | mssql =>
    have schema : scan .nothing (symbols (bracketName t.schema)) =
      some (.quoteEnd .bracket t.schema.toList, ([] : List (Token α))) := scan_bracketName rfl _
    have dot (cs : List Char) : scan (.quoteEnd .bracket cs) (symbols ".") =
      some (.mark '.', [(.quoted .bracket cs : Token α)]) := rfl
    have name : scan (.mark '.') (symbols (bracketName t.name)) =
      some (.quoteEnd .bracket t.name.toList, [(.mark '.' : Token α)]) := scan_bracketName rfl _
    have scanned : scan .nothing (symbols (t.sql .mssql)) = some (.quoteEnd .bracket t.name.toList,
        ([.quoted .bracket t.schema.toList, .mark '.'] : List (Token α))) := by
      simp [TableName.sql, scan_append, schema, dot, name]
    exact isDelimited_of_scan scanned

/-! ### Statements of a command -/

/-- Is it a text or a name that goes on? -/
def Pending.isInside : Pending → Bool
  | .quoted .. => true
  | _ => false

/-- Does the symbol end a statement? -/
def endsStatement (p : Pending) : Symbol α → Bool
  | .char c => c == ';' && !p.isInside
  | .whole _ => false

/-- The statements of a text, the tokens of the first being read in part. -/
def statementsFrom (p : Pending) (ts : List (Token α)) : List (Symbol α) → Option (List (List (Token α)))
  | [] => do return [ts ++ (← p.flush)]
  | x :: xs =>
    if endsStatement p x then do return (ts ++ (← p.flush)) :: (← statementsFrom .nothing [] xs)
    else do
      let (p', us) ← p.next x
      statementsFrom p' (ts ++ us) xs

/-- The tokens of each statement of a text. -/
def statements (xs : List (Symbol α)) : Option (List (List (Token α))) :=
  statementsFrom .nothing [] xs

/-- A semicolon is not a part of any token but quoted ones. -/
theorem next_of_endsStatement {p : Pending} {x : Symbol α} (ends : endsStatement p x) : p.next x = none := by
  cases x with
  | whole a => cases ends
  | char c =>
    obtain ⟨rfl, outside⟩ : c = ';' ∧ p.isInside = false := by simpa [endsStatement] using ends
    have refused : beginWith (α := α) ';' = none := rfl
    cases p with
    | nothing => rfl
    | word cs =>
      have apart : isWordChar ';' = false := rfl
      simp [Pending.next, apart, Pending.break, refused]
    | mark c => simp [Pending.next, isComment, Pending.break, refused]
    | quoted q cs => cases outside
    | quoteEnd q cs =>
      have other : ';' ≠ q.closing := by cases q <;> decide
      simp [Pending.next, other, Pending.break, refused]

/-- What has tokens holds no end of a statement. -/
theorem statementsFrom_append {p p' : Pending} {xs : List (Symbol α)} {us : List (Token α)}
    (scanned : scan p xs = some (p', us)) (ts : List (Token α)) (ys : List (Symbol α)) :
    statementsFrom p ts (xs ++ ys) = statementsFrom p' (ts ++ us) ys := by
  induction xs generalizing p ts us with
  | nil =>
    obtain ⟨rfl, rfl⟩ := Prod.mk.inj (Option.some.inj scanned)
    rw [List.nil_append, List.append_nil]
  | cons x xs ih =>
    obtain ⟨⟨p₁, us₁⟩, stepped, rest⟩ := Option.bind_eq_some_iff.mp scanned
    obtain ⟨⟨p₂, us₂⟩, later, same⟩ := Option.bind_eq_some_iff.mp rest
    obtain ⟨rfl, rfl⟩ := Prod.mk.inj (Option.some.inj same)
    -- a step of the reader would have failed where a statement ends
    have goesOn : ¬ endsStatement p x := fun ends => by
      rw [next_of_endsStatement ends] at stepped
      cases stepped
    simp [statementsFrom, goesOn, stepped, ih later]

/-- What has tokens is one statement where a semicolon follows. -/
theorem statements_of_reads {s : String} {ts : List (Token α)} (first : Reads (symbols s) ts) (r : String) :
    statements (symbols (s ++ (";" ++ r))) = (statements (symbols r)).map (ts :: ·) := by
  obtain ⟨⟨p, us⟩, scanned, first⟩ := Option.bind_eq_some_iff.mp first
  obtain ⟨vs, flushed, first⟩ := Option.bind_eq_some_iff.mp first
  obtain rfl := Option.some.inj first
  have ends : endsStatement (α := α) p (.char ';') := by
    cases p with
    | quoted q cs => cases flushed
    | _ => rfl
  have semicolon : (symbols ";" : List (Symbol α)) = [.char ';'] := rfl
  rw [statements, symbols_append, symbols_append, semicolon, statementsFrom_append scanned, List.singleton_append,
    statementsFrom, if_pos ends, flushed, List.nil_append]
  cases later : statementsFrom .nothing [] (symbols r) <;> simp [statements, later]

/-! ### Texts and names within a statement -/

/-- Is it a text or a name between quotes? -/
def Token.isQuoted : Token α → Bool
  | .quoted .. => true
  | _ => false

/-- The texts and names between quotes, each with the tokens from the one before it up to it, the last of them
first. -/
def quotes (before : List (Token α)) : List (Token α) → List (List (Token α) × Quote × String)
  | [] => []
  | .quoted q cs :: ts => (before, q, String.ofList cs) :: quotes [] ts
  | t :: ts => quotes (t :: before) ts

/-- The texts that calls of this name take first. -/
def passedTexts (name : String) (ts : List (Token α)) : List String :=
  (quotes [] ts).filterMap fun
    | (.word n :: .left :: .word f :: _, .single, text) => if n = ['N'] ∧ f = name.toList then some text else none
    | _ => none

/-- The names of constraints. -/
def constraintNames (ts : List (Token α)) : List String :=
  (quotes [] ts).filterMap fun
    | (.word w :: _, .bracket, name) => if w = "CONSTRAINT".toList then some name else none
    | _ => none

theorem quotes_append_of_bare {ts : List (Token α)} (bare : ∀ t ∈ ts, t.isQuoted = false)
    (before us : List (Token α)) : quotes before (ts ++ us) = quotes (ts.reverse ++ before) us := by
  induction ts generalizing before with
  | nil => rfl
  | cons t ts ih =>
    obtain ⟨first, rest⟩ := List.forall_mem_cons.mp bare
    have skipped : quotes before (t :: (ts ++ us)) = quotes (t :: before) (ts ++ us) := by
      cases t with
      | quoted q cs => cases first
      | _ => rfl
    rw [List.cons_append, skipped, ih rest, List.reverse_cons, List.append_assoc, List.singleton_append]

/-- The text has tokens, and none of them is quoted. -/
def IsBare (α : Type) (s : String) : Prop :=
  ∃ ts : List (Token α), Reads (symbols s) ts ∧ ∀ t ∈ ts, t.isQuoted = false

theorem IsBare.append {s r : String} (first : IsBare α s) (rest : IsBare α r)
    (breaks : r.toList.head?.any isBreak) : IsBare α (s ++ r) := by
  obtain ⟨ts, reads, bare⟩ := first
  obtain ⟨us, reads', bare'⟩ := rest
  exact ⟨ts ++ us, reads.appendText breaks reads', fun t mem => (List.mem_append.mp mem).elim (bare t) (bare' t)⟩

theorem isBare_intercalate {items : List String} (bare : ∀ s ∈ items, IsBare α s) :
    IsBare α (String.intercalate ", " items) := by
  induction items with
  | nil => exact ⟨[], rfl, by simp⟩
  | cons s rest ih =>
    obtain ⟨first, others⟩ := List.forall_mem_cons.mp bare
    cases rest with
    | nil => simpa using first
    | cons r rest =>
      have comma : scan .nothing (symbols ", ") = some (.nothing, [(.mark ',' : Token α)]) := rfl
      obtain ⟨us, reads, plain⟩ := ih others
      have later : IsBare α (", " ++ String.intercalate ", " (r :: rest)) :=
        ⟨.mark ',' :: us, .afterText comma reads, List.forall_mem_cons.mpr ⟨rfl, plain⟩⟩
      rw [String.intercalate_cons_cons, String.append_assoc]
      exact first.append later (by simp [isBreak])

theorem IsName.isBare {s : String} (named : IsName s) : IsBare α s :=
  ⟨_, named.reads, by simp [Token.isQuoted]⟩

/-! ### Making a table -/

theorem isBare_type (type : ColumnType) : IsBare α (type.sql .mssql) := by
  have word {s : String} (named : IsName s) : IsBare α s := named.isBare
  have sized {s : String} (size : List Char)
      (reads : Reads (symbols s) [(.word "nvarchar".toList : Token α), .left, .word size, .right]) : IsBare α s :=
    ⟨_, reads, by simp [Token.isQuoted]⟩
  cases type with
  | id kind =>
    cases kind with
    | text => exact sized "256".toList rfl
    | _ => exact word (by constructor <;> decide)
  | document => exact sized "max".toList rfl
  | shortText => exact sized "256".toList rfl
  | _ => exact word (by constructor <;> decide)

theorem isBare_presence (p : Presence) : IsBare α
    (match p with | .required => " NOT NULL" | .zero => " NOT NULL DEFAULT 0" | .null => " NULL") := by
  cases p
  · exact ⟨[.not, .word "NULL".toList], rfl, by simp [Token.isQuoted]⟩
  · exact ⟨[.not, .word "NULL".toList, .word "DEFAULT".toList, .word ['0']], rfl, by simp [Token.isQuoted]⟩
  · exact ⟨[.word "NULL".toList], rfl, by simp [Token.isQuoted]⟩

theorem isBare_column {c : ColumnDefinition} (named : IsName c.name) : IsBare α (c.sql .mssql) := by
  have blank : scan .nothing (symbols " ") = some (.nothing, ([] : List (Token α))) := rfl
  obtain ⟨ts, reads, bare⟩ := isBare_type (α := α) c.type
  have type : IsBare α (" " ++ c.type.sql .mssql) := ⟨ts, .afterText blank reads, bare⟩
  have typed : IsBare α (c.name ++ " " ++ c.type.sql .mssql) := by
    rw [String.append_assoc]
    exact named.isBare.append type (by simp [isBreak])
  refine typed.append (isBare_presence c.presence) ?_
  cases c.presence <;> simp [isBreak]

/-- The statement that makes a schema. -/
def schemaCreation (schema : String) : String :=
  "CREATE SCHEMA " ++ bracketName schema

theorem reads_schemaCreation (schema : String) :
    Reads (α := α) (symbols (schemaCreation schema))
      [.word "CREATE".toList, .word "SCHEMA".toList, .quoted .bracket schema.toList] := by
  have words : scan .nothing (symbols "CREATE SCHEMA ") =
    some (.nothing, [(.word "CREATE".toList : Token α), .word "SCHEMA".toList]) := rfl
  exact .afterText words (isDelimited_quoteName .mssql schema).alone

/-- The text by which the schema is made unless it is there. -/
def ensuringText (schema : String) : String :=
  "IF SCHEMA_ID(" ++ (nationalText schema ++ (") IS NULL EXEC(" ++ (nationalText (schemaCreation schema) ++ ")")))

/-- The tokens by which the schema is made unless it is there. -/
def ensuringTokens (schema : String) : List (Token α) :=
  [.word "IF".toList, .word "SCHEMA_ID".toList, .left, .word ['N'], .quoted .single schema.toList, .right,
    .word "IS".toList, .word "NULL".toList, .word "EXEC".toList, .left, .word ['N'],
    .quoted .single (schemaCreation schema).toList, .right]

theorem reads_ensuring (schema : String) :
    Reads (α := α) (symbols (ensuringText schema)) (ensuringTokens schema) := by
  have test : scan .nothing (symbols "IF SCHEMA_ID(") =
    some (.nothing, [(.word "IF".toList : Token α), .word "SCHEMA_ID".toList, .left]) := rfl
  have call : scan .nothing (symbols ") IS NULL EXEC(") =
    some (.nothing, [(.right : Token α), .word "IS".toList, .word "NULL".toList, .word "EXEC".toList, .left]) := rfl
  have closed : Reads (symbols ")") [(.right : Token α)] := rfl
  exact .afterText test ((isDelimited_nationalText schema).followed (by simp)
    (.afterText call ((isDelimited_nationalText _).followed (by simp) closed)))

/-- The text by which the table is made unless it is there. -/
def makingText (t : TableName) (columns key : String) : String :=
  "\nIF OBJECT_ID(" ++ (nationalText (t.sql .mssql) ++ (", N'U') IS NULL CREATE TABLE " ++
    (t.sql .mssql ++ (" (" ++ (columns ++ (", CONSTRAINT " ++ (bracketName ("pk_" ++ t.name) ++
    (" PRIMARY KEY (" ++ (key ++ "))")))))))))

/-- The tokens by which the table is made unless it is there. -/
def makingTokens (t : TableName) (columns key : List (Token α)) : List (Token α) :=
  .word "IF".toList :: .word "OBJECT_ID".toList :: .left :: .word ['N'] :: .quoted .single (t.sql .mssql).toList ::
    .mark ',' :: .word ['N'] :: .quoted .single ['U'] :: .right :: .word "IS".toList :: .word "NULL".toList ::
    .word "CREATE".toList :: .word "TABLE".toList :: (t.tokens .mssql ++ .left :: (columns ++
      .mark ',' :: .word "CONSTRAINT".toList :: .quoted .bracket ("pk_" ++ t.name).toList ::
      .word "PRIMARY".toList :: .word "KEY".toList :: .left :: (key ++ [.right, .right])))

theorem reads_making (t : TableName) {columns key : String} {cs ks : List (Token α)}
    (reads : Reads (symbols columns) cs) (reads' : Reads (symbols key) ks) :
    Reads (symbols (makingText t columns key)) (makingTokens t cs ks) := by
  have test : scan .nothing (symbols "\nIF OBJECT_ID(") =
    some (.nothing, [(.word "IF".toList : Token α), .word "OBJECT_ID".toList, .left]) := rfl
  have kind : scan .nothing (symbols ", N'U') IS NULL CREATE TABLE ") =
    some (.nothing, [(.mark ',' : Token α), .word ['N'], .quoted .single ['U'], .right, .word "IS".toList,
      .word "NULL".toList, .word "CREATE".toList, .word "TABLE".toList]) := rfl
  have opened : scan .nothing (symbols " (") = some (.nothing, [(.left : Token α)]) := rfl
  have constraint : scan .nothing (symbols ", CONSTRAINT ") =
    some (.nothing, [(.mark ',' : Token α), .word "CONSTRAINT".toList]) := rfl
  have primary : scan .nothing (symbols " PRIMARY KEY (") =
    some (.nothing, [(.word "PRIMARY".toList : Token α), .word "KEY".toList, .left]) := rfl
  have closed : Reads (symbols "))") [(.right : Token α), .right] := rfl
  have named := (isDelimited_quoteName (α := α) .mssql ("pk_" ++ t.name)).followed
    (by simp [Dialect.nameQuote, Quote.closing]) (.afterText primary (reads'.appendText (by simp [isBreak]) closed))
  have table := (t.isDelimited_sql .mssql).followed (by simp [Dialect.nameQuote, Quote.closing])
    (.afterText opened (reads.appendText (by simp [isBreak]) (.afterText constraint named)))
  exact .afterText test ((isDelimited_nationalText _).followed (by simp) (.afterText kind table))

/-- What is quoted by which the table is made. -/
theorem quotes_making (t : TableName) {cs ks : List (Token α)} (bare : ∀ t ∈ cs, t.isQuoted = false)
    (bare' : ∀ t ∈ ks, t.isQuoted = false) :
    quotes [] (makingTokens t cs ks) =
      [([.word ['N'], .left, .word "OBJECT_ID".toList, .word "IF".toList], .single, t.sql .mssql),
        ([.word ['N'], .mark ','], .single, "U"),
        ([.word "TABLE".toList, .word "CREATE".toList, .word "NULL".toList, .word "IS".toList, .right], .bracket,
          t.schema),
        ([.mark '.'], .bracket, t.name),
        (.word "CONSTRAINT".toList :: .mark ',' :: (cs.reverse ++ [.left]), .bracket, "pk_" ++ t.name)] := by
  simp only [makingTokens, TableName.tokens, List.cons_append, List.nil_append, quotes,
    quotes_append_of_bare bare, quotes_append_of_bare bare', String.ofList_toList]

theorem passedTexts_making (name : String) (t : TableName) {cs ks : List (Token α)}
    (bare : ∀ t ∈ cs, t.isQuoted = false) (bare' : ∀ t ∈ ks, t.isQuoted = false) :
    passedTexts name (makingTokens t cs ks) = if "OBJECT_ID" = name then [t.sql .mssql] else [] := by
  rw [passedTexts, quotes_making t bare bare']
  by_cases same : "OBJECT_ID" = name <;>
    simp only [List.filterMap_cons, List.filterMap_nil, String.toList_inj, same, if_true, if_false, and_true, and_false]

theorem constraintNames_making (t : TableName) {cs ks : List (Token α)}
    (bare : ∀ t ∈ cs, t.isQuoted = false) (bare' : ∀ t ∈ ks, t.isQuoted = false) :
    constraintNames (makingTokens t cs ks) = ["pk_" ++ t.name] := by
  rw [constraintNames, quotes_making t bare bare']
  simp only [List.filterMap_cons, List.filterMap_nil, String.toList_inj, String.reduceEq, if_true, if_false]

/-- What is quoted by which the schema is made. -/
theorem quotes_ensuring (schema : String) :
    quotes [] (ensuringTokens schema : List (Token α)) =
      [([.word ['N'], .left, .word "SCHEMA_ID".toList, .word "IF".toList], .single, schema),
        ([.word ['N'], .left, .word "EXEC".toList, .word "NULL".toList, .word "IS".toList, .right], .single,
          schemaCreation schema)] := by
  simp only [ensuringTokens, quotes, String.ofList_toList]

theorem passedTexts_ensuring (name schema : String) :
    passedTexts name (ensuringTokens schema : List (Token α)) =
      (if "SCHEMA_ID" = name then [schema] else []) ++ if "EXEC" = name then [schemaCreation schema] else [] := by
  rw [passedTexts, quotes_ensuring]
  by_cases test : "SCHEMA_ID" = name <;> by_cases call : "EXEC" = name <;>
    simp only [List.filterMap_cons, List.filterMap_nil, String.toList_inj, test, call, if_true, if_false, and_true,
      and_false, List.nil_append, List.append_nil, List.singleton_append]

theorem constraintNames_ensuring (schema : String) :
    constraintNames (ensuringTokens schema : List (Token α)) = [] := by
  rw [constraintNames, quotes_ensuring]
  simp only [List.filterMap_cons, List.filterMap_nil]

theorem TableDefinition.sql_mssql (t : TableDefinition) : t.sql .mssql ++ ";" =
    ensuringText t.table.schema ++ (";" ++ (makingText t.table
      (String.intercalate ", " (t.columns.map (ColumnDefinition.sql .mssql))) (String.intercalate ", " t.key) ++
      (";" ++ ""))) := by
  have ended : ");\n" = ")" ++ (";" ++ "\n") := by decide
  have begun : "\nIF OBJECT_ID(" = "\n" ++ "IF OBJECT_ID(" := by decide
  have key : " PRIMARY KEY (" = " " ++ ("PRIMARY KEY " ++ "(") := by decide
  have closed : "))" = ")" ++ ")" := by decide
  -- the equation of this definition is too long to be proved for `rw`
  delta TableDefinition.sql
  dsimp only
  simp only [ensuringText, makingText, schemaCreation, begun, key, closed, tupleSql, ended, String.append_assoc,
    String.append_empty]

/-- SQL Server makes a table by two statements. -/
theorem TableDefinition.exists_statements {t : TableDefinition} (columns : ∀ c ∈ t.columns, IsName c.name)
    (key : ∀ k ∈ t.key, IsName k) :
    ∃ cs ks : List (Token α), (∀ t ∈ cs, t.isQuoted = false) ∧ (∀ t ∈ ks, t.isQuoted = false) ∧
      statements (symbols (t.sql .mssql ++ ";")) =
        some [ensuringTokens t.table.schema, makingTokens t.table cs ks, []] := by
  obtain ⟨cs, reads, bare⟩ : IsBare α (String.intercalate ", " (t.columns.map (ColumnDefinition.sql .mssql))) := by
    refine isBare_intercalate fun s mem => ?_
    obtain ⟨c, there, rfl⟩ := List.mem_map.mp mem
    exact isBare_column (columns c there)
  obtain ⟨ks, reads', bare'⟩ : IsBare α (String.intercalate ", " t.key) :=
    isBare_intercalate fun k mem => (key k mem).isBare
  have ended : statements (symbols "" : List (Symbol α)) = some [[]] := rfl
  refine ⟨cs, ks, bare, bare', ?_⟩
  rw [t.sql_mssql, statements_of_reads (reads_ensuring _), statements_of_reads (reads_making t.table reads reads'),
    ended]
  rfl

end Sql

namespace Statement.CreateTable

theorem isName_columns (x : CreateTable) : ∀ c ∈ x.definition.columns, IsName c.name := by
  have named : ∀ s ∈ [idColumn, dataColumn, versionColumn, modifiedColumn, typeColumn, tenantColumn, deletedColumn,
      deletedAtColumn], IsName s := by
    simp only [List.forall_mem_cons]
    refine ⟨?_, ?_, ?_, ?_, ?_, ?_, ?_, ?_, by simp⟩ <;> constructor <;> decide
  cases soft : x.softDelete <;> simp_all [definition]

theorem isName_key (x : CreateTable) : ∀ k ∈ x.definition.key, IsName k := by
  simp only [definition, keyColumns, List.forall_mem_cons]
  refine ⟨?_, ?_, by simp⟩ <;> constructor <;> decide

theorem sql_ofStatement (d : Dialect) (x : CreateTable) :
    (Command.ofStatement d (.createTable x)).sql = x.definition.sql d ++ ";" := by
  have first : ({ dialect := d } : Builder).isEmpty := rfl
  change "" ++ (if ({ dialect := d } : Builder).isEmpty then "" else "\n") ++ x.definition.sql d ++ ";" = _
  rw [if_pos first, String.append_empty, String.empty_append]

end Statement.CreateTable

namespace Sql

/-- Names and texts are read back, whatever characters they have, and so are those in the texts by which a table is
made. -/
theorem quoted_reads_back (d : Dialect) (s : String) (x : CreateTable) :
    IsDelimited (α := α) (d.quoteName s) [.quoted d.nameQuote s.toList] d.nameQuote.closing ∧
    IsDelimited (α := α) (quoteText s) [.quoted .single s.toList] '\'' ∧
    IsDelimited (α := α) (nationalText s) [.word ['N'], .quoted .single s.toList] '\'' ∧
    IsDelimited (α := α) (x.table.sql d) (x.table.tokens d) d.nameQuote.closing ∧
    ∃ (ensuring making : List (Token α)) (create qualified : String),
      statements (symbols (Command.ofStatement .mssql (.createTable x)).sql) = some [ensuring, making, []] ∧
      passedTexts "EXEC" ensuring = [create] ∧ passedTexts "EXEC" making = [] ∧
      Reads (α := α) (symbols create)
        [.word "CREATE".toList, .word "SCHEMA".toList, .quoted .bracket x.table.schema.toList] ∧
      passedTexts "OBJECT_ID" ensuring = [] ∧ passedTexts "OBJECT_ID" making = [qualified] ∧
      Reads (α := α) (symbols qualified)
        [.quoted .bracket x.table.schema.toList, .mark '.', .quoted .bracket x.table.name.toList] ∧
      constraintNames ensuring = [] ∧ constraintNames making = ["pk_" ++ x.table.name] := by
  refine ⟨isDelimited_quoteName d s, isDelimited_quoteText s, isDelimited_nationalText s, x.table.isDelimited_sql d,
    ensuringTokens x.table.schema, ?_⟩
  obtain ⟨cs, ks, bare, bare', read⟩ := TableDefinition.exists_statements (α := α) x.isName_columns x.isName_key
  refine ⟨makingTokens x.table cs ks, schemaCreation x.table.schema, x.table.sql .mssql, ?_, ?_, ?_,
    reads_schemaCreation _, ?_, ?_, (x.table.isDelimited_sql .mssql).alone, constraintNames_ensuring _,
    constraintNames_making _ bare bare'⟩
  · rw [x.sql_ofStatement, read]
    rfl
  · simp [passedTexts_ensuring]
  · simp [passedTexts_making _ _ bare bare']
  · simp [passedTexts_ensuring]
  · simp [passedTexts_making _ _ bare bare']

end Sql
end Folio
