import Folio.Database.Driver
import Folio.Url.Reader

/-!
# Addresses of databases

A database is named by a URL: of scheme `sqlite`, whose path is that of a file or the name of a database in memory;
or of scheme `mssql` or `sqlserver`, which names a server and a database there.
-/

namespace Folio.Database

/-- Where a database is. -/
inductive Address
  | memory
  | file (path : String)
  | server (url : String)
  deriving Repr, DecidableEq

namespace Address

/-- The path that stands for a database in memory. -/
def memoryPath : String := ":memory:"

/-- The URL of the database. -/
def url : Address → String
  | .memory => "sqlite:" ++ memoryPath
  | .file path => "sqlite:" ++ path
  | .server url => url

/-- What the database offers. -/
def capability : Address → Capability
  | .memory | .file _ => .sqlite
  | .server _ => .mssql

/-- How many connections are possible. Every connection to memory would have a database of its own. -/
def maxConnections : Address → Option Nat
  | .memory => some 1
  | .file _ | .server _ => none

/-- Fails because the URL names no database. -/
def refuse {α : Type} (fault : ConnectionFault) : Outcome α :=
  fail (.connectionUrl fault)

/-- Reads a URL. -/
def readUrl (url : String) : Outcome Url :=
  match Url.read url with
  | .ok parsed => .ok parsed
  | .error fault => refuse (.notUrl url fault)

/-- The address that a path of a SQLite URL stands for. -/
def ofPath (path : String) : Address :=
  if path = memoryPath then .memory else .file path

/-- The SQLite database of a URL. -/
def sqlite (url : String) : Outcome Address := do
  let parsed ← readUrl url
  if parsed.scheme = "sqlite" then return ofPath parsed.path.toText
  else refuse (.otherScheme "sqlite" url)

/-- Is it a scheme of SQL Server? -/
def isServerScheme (scheme : String) : Bool :=
  scheme = "mssql" || scheme = "sqlserver"

/-- The SQL Server database of a URL. -/
def mssql (url : String) : Outcome Address := do
  let parsed ← readUrl url
  if !isServerScheme parsed.scheme then refuse (.otherScheme "mssql" url)
  if parsed.host = none then refuse (.noHost url)
  if parsed.path.toText.toList.all (· = '/') then refuse (.noDatabase url)
  return .server url

/-- The database of a URL, by its scheme. -/
def ofUrl (url : String) : Outcome Address := do
  let scheme := (← readUrl url).scheme
  if scheme = "sqlite" then sqlite url
  else if isServerScheme scheme then mssql url
  else refuse (.unknownScheme scheme url)

end Address

end Folio.Database
