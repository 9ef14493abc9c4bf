import Folio.Operator
import Folio.Sql.Term

/-!
# Conditions

What a row is tested for. Connectives are written with parentheses of their own, so a condition can stand
inside any other.
-/

namespace Folio.Sql

/-- A part of a condition in free form. -/
inductive Part
  | text (s : String)
  | term (t : Term)
  deriving Repr, DecidableEq

/-- The part in a statement. -/
def Part.sql (d : Dialect) : Part → String
  | .text s => s
  | .term t => t.sql d

/-- A condition on a row. -/
inductive Condition
  | compare (left : Term) (op : Operator) (right : Term)
  | isNull (t : Term)
  | isNotNull (t : Term)
  | and (left right : Condition)
  | or (left right : Condition)
  | not (inner : Condition)
  /-- Text that is a condition by itself. -/
  | literal (text : String)
  /-- Is the term among these, of which there is at least one? -/
  | inList (t : Term) (items : List Term)
  | like (t pattern : Term)
  /-- Equality of texts without regard to case. -/
  | equalFolded (t other : Term)
  /-- Does the array at the path have an element whose reading `item` equals the other term? -/
  | anyElement (path : JsonPath) (item other : Term)
  /-- A condition in free form. -/
  | template (parts : List Part)
  deriving Repr

/-- The condition in a statement. -/
def Condition.sql (d : Dialect) : Condition → String
  | .compare left op right => left.sql d ++ " " ++ op.sql ++ " " ++ right.sql d
  | .isNull t => t.sql d ++ " IS NULL"
  | .isNotNull t => t.sql d ++ " IS NOT NULL"
  | .and left right => "(" ++ left.sql d ++ " AND " ++ right.sql d ++ ")"
  | .or left right => "(" ++ left.sql d ++ " OR " ++ right.sql d ++ ")"
  | .not inner => "NOT (" ++ inner.sql d ++ ")"
  | .literal text => text
  | .inList t items => t.sql d ++ " IN (" ++ String.intercalate ", " (items.map (Term.sql d)) ++ ")"
  | .like t pattern =>
    t.sql d ++ " LIKE " ++ pattern.sql d ++ (match d with | .mssql => "" | .sqlite => " ESCAPE '\\'")
  | .equalFolded t other =>
    match d with
    | .mssql => t.sql d ++ " COLLATE Latin1_General_CI_AS = " ++ other.sql d
    | .sqlite => t.sql d ++ " = " ++ other.sql d ++ " COLLATE NOCASE"
  | .anyElement path item other =>
    "EXISTS (SELECT 1 FROM " ++ (match d with | .mssql => "OPENJSON(" | .sqlite => "json_each(") ++
      dataColumn ++ ", " ++ path.sql ++ ") AS j WHERE " ++ item.sql d ++ " = " ++ other.sql d ++ ")"
  | .template parts => String.join (parts.map (Part.sql d))

/-- A condition that no row meets. -/
def Condition.never : Condition := .literal "1=0"

/-- A condition that every row meets. -/
def Condition.always : Condition := .literal "1=1"

/-- Conditions that a row must all meet. -/
def conjunctionSql (d : Dialect) (conditions : List Condition) : String :=
  String.intercalate " AND " (conditions.map (Condition.sql d))

/-- The clause for conditions that a row must all meet, empty if there are none. -/
def whereSql (d : Dialect) (conditions : List Condition) : String :=
  if conditions.isEmpty then "" else " WHERE " ++ conjunctionSql d conditions

end Folio.Sql
