import Folio.Sql.Term
import Folio.Value

/-!
# Binding values

Values never stand in the text of a statement. Each is bound to the next parameter, and the term that stands for
it holds the parameter's number only.
-/

namespace Folio.Statement

open Folio.Sql (Term)

/-- A computation that binds values to parameters. The state holds the values bound so far. -/
abbrev Binding := StateM (Array Value)

/-- Binds a value to the next parameter. -/
def bindValue (v : Value) : Binding Term := fun params =>
  (.slot (params.size + 1), params.push v)

end Folio.Statement
