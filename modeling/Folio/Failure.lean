import Folio.DocumentId
import Folio.Number.Whole
import Folio.Operator
import Folio.Time.Duration
import Folio.Url.Basic

/-!
# Failures

A failure is a chain of causes: first the context added last, and at the end the root of the matter. Its message
joins the messages of the chain by colons.

Four kinds of cause are looked for in the whole chain, because callers act on them however much context was
added: a version conflict, an existing document, a missing one, a duplicate key. The other kinds are told by
the first cause alone.
-/

namespace Folio

open Folio.Number (WholeFault)

/-- Why an expression has no form in SQL. -/
inductive UnsupportedExpression
  | noTranslator (method : String)
  | indexedMember (index : Nat)
  | emptyPath
  | notBoolean
  | constantPredicate (kind : String)
  | needsMemberAndConstant
  | nullOrdering (op : Operator)
  | wholeCollection
  | missingArgument (method : String)
  | needsConstant
  | needsText (method : String)
  | needsMember
  | needsArrayMember
  | other (text : String)
  deriving Repr, DecidableEq

/-- The wording of the reason. -/
def UnsupportedExpression.message : UnsupportedExpression → String
  | .noTranslator method => "no translator is registered for method `" ++ method ++ "`"
  | .indexedMember index => "indexed member access `[" ++ toString index ++ "]`"
  | .emptyPath => "member access with an empty path"
  | .notBoolean => "only boolean members can be used as predicates"
  | .constantPredicate kind => "a " ++ kind ++ " constant is not a predicate"
  | .needsMemberAndConstant => "a comparison needs one member side and one constant side"
  | .nullOrdering op => "`" ++ op.sql ++ "` against null"
  | .wholeCollection => "comparing a whole list or object member"
  | .missingArgument method => "`" ++ method ++ "` is missing an argument"
  | .needsConstant => "expected a constant argument"
  | .needsText method => "`" ++ method ++ "` needs a string argument"
  | .needsMember => "expected a document member argument"
  | .needsArrayMember => "`contains` needs an array member"
  | .other text => text

/-- What a database or a document type does not offer. -/
inductive UnsupportedFeature
  | tooManyParameters (count limit : Nat)
  | distinctOrder
  | notSoftDeleted (type : String)
  | other (text : String)
  deriving Repr, DecidableEq

/-- The wording of the reason. -/
def UnsupportedFeature.message : UnsupportedFeature → String
  | .tooManyParameters count limit =>
    "command binds " ++ toString count ++ " parameters; the database accepts at most " ++ toString limit
  | .distinctOrder => "a distinct projection can only be ordered by the projected member"
  | .notSoftDeleted type => "`" ++ type ++ "` is not soft-deleted"
  | .other text => text

/-- How an answer of the database differs from what was asked for. -/
inductive InvalidResult
  | noCurrentSet
  | countForSets
  | setsForCount
  | negativeCount (count : Int)
  | notPayload (kind : String)
  | blob
  | tooFewParameters (expected supplied : Nat)
  | other (text : String)
  deriving Repr, DecidableEq

/-- The wording of the difference. -/
def InvalidResult.message : InvalidResult → String
  | .noCurrentSet => "no result set is available to read"
  | .countForSets => "expected result sets, got a row count"
  | .setsForCount => "expected a row count, got result sets"
  | .negativeCount count => "negative row count " ++ toString count
  | .notPayload kind => "expected a JSON payload, got " ++ kind
  | .blob => "blob columns are not supported"
  | .tooFewParameters expected supplied =>
    "statement expects " ++ toString expected ++ " parameters, " ++ toString supplied ++ " were supplied"
  | .other text => text

/-- Why a URL names no database. -/
inductive ConnectionFault
  | notUrl (url : String) (fault : Url.Fault)
  | otherScheme (scheme url : String)
  | unknownScheme (scheme url : String)
  | noHost (url : String)
  | noDatabase (url : String)
  | other (text : String)
  deriving Repr, DecidableEq

/-- The wording of the reason. -/
def ConnectionFault.message : ConnectionFault → String
  | .notUrl url fault => url ++ ": " ++ fault.message
  | .otherScheme scheme url => "connection URL does not have a `" ++ scheme ++ "` scheme; url=" ++ url
  | .unknownScheme scheme url => "unsupported database; scheme=" ++ scheme ++ "; url=" ++ url
  | .noHost url => "missing host in connection URL; url=" ++ url
  | .noDatabase url => "no database specified - missing path in connection URL; url=" ++ url
  | .other text => text

/-- One link of a failure. -/
inductive Cause
  /-- A message without further structure. -/
  | message (text : String)
  /-- An error of another library, by its message. -/
  | foreign (text : String)
  | wholeNumber (fault : WholeFault)
  | malformedUuid
  | malformedDate
  | malformedJson
  | conflict (type : String) (id : DocumentId) (expected : Int64)
  | alreadyExists (type : String) (id : DocumentId)
  | notFound (type : String) (id : DocumentId)
  /-- No connection could be had; the message of the error underneath and of its own sources. -/
  | noConnection (error : String) (sources : List String)
  /-- The database failed; the message of its error and of that error's sources. -/
  | database (error : String) (sources : List String)
  /-- The database rejected a second row of the same key. -/
  | duplicateKey (error : String)
  | connectionUrl (fault : ConnectionFault)
  | result (fault : InvalidResult)
  | moreThanOneElement
  | noElements
  | timedOut (nanos : Nat)
  | conversion (value : Value) (target : String)
  | unknownTenant (tenant : String)
  | expression (fault : UnsupportedExpression)
  | feature (fault : UnsupportedFeature)
  deriving Repr

/-- The wording of the cause. -/
def Cause.wording : Cause → String
  | .message text => text
  | .foreign text => text
  | .wholeNumber fault => fault.message
  | .malformedUuid => "invalid identifier"
  | .malformedDate => "invalid date"
  | .malformedJson => "serialization failed"
  | .conflict type id expected =>
    "concurrency conflict: " ++ type ++ " " ++ id.toText ++ " was not at expected version " ++
      toString expected.toInt
  | .alreadyExists type id => "document already exists: " ++ type ++ " " ++ id.toText
  | .notFound type id => "document not found: " ++ type ++ " " ++ id.toText
  | .noConnection error sources => "connection pool: " ++ String.intercalate ": " (error :: sources)
  | .database error sources => String.intercalate ": " (error :: sources)
  | .duplicateKey error => "duplicate key: " ++ error
  | .connectionUrl fault => "invalid connection URL: " ++ fault.message
  | .result fault => "invalid result: " ++ fault.message
  | .moreThanOneElement => "sequence contains more than one element"
  | .noElements => "sequence contains no elements"
  | .timedOut nanos => "transaction timed out after " ++ Time.durationText nanos
  | .conversion value target => "cannot convert " ++ value.shown ++ " to " ++ target
  | .unknownTenant tenant => "unknown tenant `" ++ tenant ++ "`"
  | .expression fault => "unsupported expression: " ++ fault.message
  | .feature fault => "unsupported feature: " ++ fault.message

/-- A chain of causes, the context added last in front. -/
structure Failure where
  head : Cause
  beneath : List Cause := []
  deriving Repr

/-- The result of what may fail. -/
abbrev Outcome := Except Failure

namespace Failure

/-- All causes, the context added last in front. -/
def chain (f : Failure) : List Cause :=
  f.head :: f.beneath

/-- The messages of the chain, joined by colons. -/
def message (f : Failure) : String :=
  String.intercalate ": " (f.chain.map (·.wording))

/-- Puts the first cause of `context` in front of the failure. When somebody else still holds the context, only
its message is copied, and the kind of its cause is lost. -/
def addContext (f context : Failure) (held : Bool) : Failure where
  head := if held then .message context.head.wording else context.head
  beneath := f.chain

/-- The first answer that a cause of the chain gives. -/
def find? {α : Type} (f : Failure) (look : Cause → Option α) : Option α :=
  f.chain.findSome? look

/-- Did a version-checked write find another version? -/
def isConflict (f : Failure) : Bool :=
  f.chain.any fun | .conflict .. => true | _ => false

/-- Did an insert meet an existing document? -/
def isAlreadyExists (f : Failure) : Bool :=
  f.chain.any fun | .alreadyExists .. => true | _ => false

/-- Did a write meet no document? -/
def isNotFound (f : Failure) : Bool :=
  f.chain.any fun | .notFound .. => true | _ => false

/-- Did the database reject a second row of the same key? -/
def isDuplicateKey (f : Failure) : Bool :=
  f.chain.any fun | .duplicateKey .. => true | _ => false

/-- The type of the document that could not be written, if that is what failed. -/
def documentType (f : Failure) : Option String :=
  f.find? fun
    | .conflict type .. | .alreadyExists type _ | .notFound type _ => some type
    | _ => none

/-- The identity of the document that could not be written, if that is what failed. -/
def documentId (f : Failure) : Option DocumentId :=
  f.find? fun
    | .conflict _ id _ | .alreadyExists _ id | .notFound _ id => some id
    | _ => none

/-- The version that a conflicting write expected. -/
def expectedVersion (f : Failure) : Option Int64 :=
  f.find? fun
    | .conflict _ _ version => some version
    | _ => none

/-- A kind of failure that a caller can ask for. -/
inductive Kind
  | conflict
  | alreadyExists
  | notFound
  | duplicateKey
  | noConnection
  | database
  | connectionUrl
  | result
  | moreThanOneElement
  | noElements
  | serialization
  | timedOut
  | conversion
  | unknownTenant
  | expression
  | feature
  deriving Repr, DecidableEq

/-- The kind that a failure has by its first cause alone. -/
def headKind? (f : Failure) : Option Kind :=
  match f.head with
  | .noConnection .. => some .noConnection
  | .database .. => some .database
  | .connectionUrl _ => some .connectionUrl
  | .result _ => some .result
  | .moreThanOneElement => some .moreThanOneElement
  | .noElements => some .noElements
  | .malformedJson => some .serialization
  | .timedOut _ => some .timedOut
  | .conversion .. => some .conversion
  | .unknownTenant _ => some .unknownTenant
  | .expression _ => some .expression
  | .feature _ => some .feature
  | _ => none

/-- All kinds that a failure is of, those that are looked for in the whole chain first. -/
def kinds (f : Failure) : List Kind :=
  (if f.isConflict then [.conflict] else []) ++ (if f.isAlreadyExists then [.alreadyExists] else []) ++
    (if f.isNotFound then [.notFound] else []) ++ (if f.isDuplicateKey then [.duplicateKey] else []) ++
    f.headKind?.toList

/-- Does the first cause wrap an error of another library? -/
def hasSource (f : Failure) : Bool :=
  match f.head with
  | .foreign _ | .wholeNumber _ | .malformedUuid | .malformedDate | .malformedJson | .noConnection ..
  | .database .. | .duplicateKey _ => true
  | _ => false

end Failure

/-- Fails for a single cause. -/
def fail {α : Type} (cause : Cause) : Outcome α :=
  .error ⟨cause, []⟩

/-- Fails because the value has no reading as the target. -/
def cannotConvert {α : Type} (value : Value) (target : String) : Outcome α :=
  fail (.conversion value target)

/-- Fails because the expression has no form in SQL. -/
def unsupported {α : Type} (fault : UnsupportedExpression) : Outcome α :=
  fail (.expression fault)

end Folio
