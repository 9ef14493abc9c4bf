/-!
# Dialects of SQL

How each dialect writes names, texts and parameters. A name or a text may hold any character: the delimiter that
would end it is written twice.
-/

namespace Folio.Sql

/-- The SQL that a database speaks. -/
inductive Dialect
  | mssql
  | sqlite
  deriving Repr, DecidableEq

/-- The characters with every `delimiter` written twice. -/
def doubling (delimiter : Char) : List Char → List Char
  | [] => []
  | c :: rest => if c = delimiter then c :: c :: doubling delimiter rest else c :: doubling delimiter rest

/-- The text with every `delimiter` written twice. -/
def doubled (delimiter : Char) (s : String) : String :=
  String.ofList (doubling delimiter s.toList)

/-- A text between single quotes. -/
def quoteText (s : String) : String :=
  "'" ++ doubled '\'' s ++ "'"

/-- A name between brackets. -/
def bracketName (s : String) : String :=
  "[" ++ doubled ']' s ++ "]"

/-- A text of the national character set, between single quotes. -/
def nationalText (s : String) : String :=
  "N" ++ quoteText s

namespace Dialect

/-- A name. -/
def quoteName : Dialect → String → String
  | .mssql, s => bracketName s
  | .sqlite, s => "\"" ++ doubled '"' s ++ "\""

/-- The parameter of that number, counted from one. -/
def placeholder : Dialect → Nat → String
  | .mssql, n => "@P" ++ toString n
  | .sqlite, n => "?" ++ toString n

end Dialect

end Folio.Sql
