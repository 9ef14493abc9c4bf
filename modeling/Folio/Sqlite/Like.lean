/-!
# Patterns in SQLite

A percent sign stands for any run of characters and an underscore for any single one. After a backslash a character
stands for itself.
-/

namespace Folio.Sqlite

/-- Does the test hold of the list without some of its first items? -/
def anySuffix (test : List Char → Bool) : List Char → Bool
  | [] => test []
  | c :: rest => test (c :: rest) || anySuffix test rest

/-- Does the text match the pattern? Upper and lower case differ. -/
def likes : List Char → List Char → Bool
  | [], s => s.isEmpty
  | '%' :: p, s => anySuffix (likes p) s
  | '_' :: p, s => !s.isEmpty && likes p s.tail
  | ['\\'], _ => false
  | '\\' :: c :: p, s => s.head? = some c && likes p s.tail
  | c :: p, s => s.head? = some c && likes p s.tail

/-- A text up to its first null character, where patterns and what they are matched with end. -/
def terminated (s : String) : List Char :=
  s.toList.takeWhile (· ≠ '\x00')

end Folio.Sqlite
