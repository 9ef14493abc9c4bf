import Folio.Failure
import Folio.Text.Casing

/-!
# Options of a store
-/

namespace Folio

/-- How documents hold the constants of an enumeration. -/
inductive EnumStorage
  /-- By discriminant, compared as numbers. -/
  | asInteger
  /-- By name, compared as text. -/
  | asText
  deriving Repr, DecidableEq

/-- What holds for all documents of a store. -/
structure Options where
  /-- The schema of the tables. -/
  schema : String := "dbo"
  /-- What the names of all tables begin with. -/
  tablePrefix : String := "doc_"
  /-- How the names of members are written in documents. -/
  casing : Text.Casing := .camel
  enums : EnumStorage := .asInteger
  /-- The tenants that sessions may be opened for; when empty, any tenant. -/
  tenants : List String := []
  /-- How long the writes of one transaction may take, in nanoseconds. -/
  timeout : Nat := 5000000000
  deriving Repr

/-- The tenant of a session that is opened without one. -/
def defaultTenant : String := "*DEFAULT*"

namespace Options

/-- May a session be opened for the tenant? -/
def admits (o : Options) (tenant : String) : Bool :=
  o.tenants.isEmpty || o.tenants.contains tenant

/-- The tenant of a session that is opened for the given one, or for none in particular. -/
def sessionTenant (o : Options) : Option String → Outcome String
  | none => .ok defaultTenant
  | some tenant => if o.admits tenant then .ok tenant else fail (.unknownTenant tenant)

end Options

end Folio
