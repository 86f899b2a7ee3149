import SyncHistory.Uuid

/-!
# Failures

Why an answer about the history of jobs cannot be given. A failure is a cause, with the data that the
cause is about; `HistoryError.message` alone knows the wording. A bad argument and a status that nobody
knows are the caller's mistake (`HistoryError.isInvalidArgument`), everything else is not.
-/

namespace SyncHistory

/-- What can be missing or invalid. -/
inductive Entity where
  | job
  | connection
  | source
  | destination
  | sourceDefinition
  | destinationDefinition
deriving DecidableEq

/-- The entity in words. -/
def Entity.displayName : Entity → String
  | .job => "job"
  | .connection => "connection"
  | .source => "source"
  | .destination => "destination"
  | .sourceDefinition => "source definition"
  | .destinationDefinition => "destination definition"

/-- The entity in one word. -/
def Entity.word : Entity → String
  | .job => "job"
  | .connection => "connection"
  | .source => "source"
  | .destination => "destination"
  | .sourceDefinition => "source_definition"
  | .destinationDefinition => "destination_definition"

/-- What is wrong with a request. -/
inductive BadArgument where
  | noConfigType
  | unknownConfigType (text : String)
  | unknownOrderField (text : String)
  | unknownDirection (text : String)
  | zeroPageSize
  | unevenViews (views jobs : Nat)
  | other (text : String)
deriving DecidableEq

/-- What is wrong, in words. -/
def BadArgument.message : BadArgument → String
  | .noConfigType => "Must include at least one configType."
  | .unknownConfigType text => "unknown config type '" ++ text ++ "'"
  | .unknownOrderField text =>
    "cannot order jobs by '" ++ text ++ "', expected createdAt or updatedAt"
  | .unknownDirection text => "unknown order direction '" ++ text ++ "', expected ASC or DESC"
  | .zeroPageSize => "pageSize must be greater than zero"
  | .unevenViews views jobs =>
    "cannot hydrate " ++ Digits.natText views ++ " job views from " ++ Digits.natText jobs ++ " jobs"
  | .other text => text

/-- Why a database gives no usable answer. -/
inductive DatabaseFault where
  /-- The connection string cannot be read. -/
  | badConnectionString
  /-- The connection string does not say where the database is. -/
  | incompleteConnectionString
  /-- No connection could be made. -/
  | unreachable
  /-- The database refused the statement. -/
  | refused
  /-- One row was asked for and another number of rows came. -/
  | unexpectedRowCount
  /-- The column with this index holds no value of the expected type. -/
  | undecodable (column : Nat)
deriving DecidableEq

/-- The fault in words. -/
def DatabaseFault.message : DatabaseFault → String
  | .badConnectionString => "invalid connection string"
  | .incompleteConnectionString => "invalid configuration"
  | .unreachable => "error connecting to server"
  | .refused => "db error"
  | .unexpectedRowCount => "query returned an unexpected number of rows"
  | .undecodable column => "error deserializing column " ++ Digits.natText column

/-- Why a file that exists cannot be read as text. -/
inductive FileFault where
  | isDirectory
  | notDirectory
  | notText
deriving DecidableEq

/-- The fault in words. -/
def FileFault.message : FileFault → String
  | .isDirectory => "Is a directory (os error 21)"
  | .notDirectory => "Not a directory (os error 20)"
  | .notText => "stream did not contain valid UTF-8"

/-- What is out of order and may work again later. -/
inductive Outage where
  | jobStore
  | database (fault : DatabaseFault)
  | logFile (path : String) (fault : FileFault)
  | lookup (entity : Entity) (reason : String)
  | workflowState (reason : String)
  | other (text : String)
deriving DecidableEq

/-- The outage in words. -/
def Outage.message : Outage → String
  | .jobStore => "job store is unavailable"
  | .database fault => "database query failed: " ++ fault.message
  | .logFile path fault => "failed to read log file " ++ path ++ ": " ++ fault.message
  | .lookup entity reason => entity.displayName ++ " lookup failed: " ++ reason
  | .workflowState reason => "workflow state lookup failed: " ++ reason
  | .other text => text

/-- Why an answer cannot be given. -/
inductive HistoryError where
  | invalidArgument (cause : BadArgument)
  | unrecognizedStatus (token : String)
  | notFound (entity : Entity) (id : String)
  | validation (entity : Entity) (id : String) (reason : String)
  | transient (cause : Outage)
deriving DecidableEq

/-- The failure in words. -/
def HistoryError.message : HistoryError → String
  | .invalidArgument cause => "Invalid argument: " ++ cause.message
  | .unrecognizedStatus token => "Unrecognized job status: " ++ token
  | .notFound entity id => "Not found: " ++ entity.displayName ++ " " ++ id
  | .validation entity id reason =>
    "Validation error for " ++ entity.displayName ++ " " ++ id ++ ": " ++ reason
  | .transient cause => "Storage or collaborator unavailable: " ++ cause.message

/-- Is the failure a mistake in the request? -/
def HistoryError.isInvalidArgument : HistoryError → Bool
  | .invalidArgument _ | .unrecognizedStatus _ => true
  | _ => false

/-- Why a record of a connection or a connector cannot be given. -/
inductive LookupError where
  /-- There is no record of this kind with this identifier. -/
  | notFound (kind id : String)
  /-- The record's configuration breaks its specification. -/
  | invalidConfiguration (id reason : String)
  | unavailable (reason : String)
deriving DecidableEq

/-- The failed look-up in words. -/
def LookupError.message : LookupError → String
  | .notFound kind id => kind ++ " " ++ id ++ " does not exist"
  | .invalidConfiguration id reason => "configuration of " ++ id ++ " is invalid: " ++ reason
  | .unavailable reason => "lookup unavailable: " ++ reason

/-- A failed look-up as a failure of the answer that needed the entity. -/
def LookupError.toHistoryError (entity : Entity) (id : Uuid) : LookupError → HistoryError
  | .notFound _ _ => .notFound entity id.text
  | .invalidConfiguration _ reason => .validation entity id.text reason
  | .unavailable reason => .transient (.lookup entity reason)

end SyncHistory
