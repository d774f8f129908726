import PeerPost.Text.Utf8
import PeerPost.Text.Decimal

/-!
# Errors

Two kinds of failure. A `ValidationError` says why a value was not accepted. A `DomainError` is what
a collaborator reports: a code, a message, and details under names.
-/

namespace PeerPost

/-- The codes of all failures. -/
inductive ErrorCode where
  | validationFailed
  | emptyField
  | outOfRange
  | invalidFormat
  | tooLong
  | contactNotFound
  | messageNotFound
  | storageError
  | internalError
deriving DecidableEq

namespace ErrorCode

def name : ErrorCode → String
  | .validationFailed => "VALIDATION_FAILED"
  | .emptyField => "EMPTY_FIELD"
  | .outOfRange => "OUT_OF_RANGE"
  | .invalidFormat => "INVALID_FORMAT"
  | .tooLong => "TOO_LONG"
  | .contactNotFound => "CONTACT_NOT_FOUND"
  | .messageNotFound => "MESSAGE_NOT_FOUND"
  | .storageError => "STORAGE_ERROR"
  | .internalError => "INTERNAL_ERROR"

def all : List ErrorCode :=
  [.validationFailed, .emptyField, .outOfRange, .invalidFormat, .tooLong, .contactNotFound, .messageNotFound,
   .storageError, .internalError]

def ofName? (text : String) : Option ErrorCode :=
  all.find? fun code => code.name == text

/-- Whether the code says that something does not exist. -/
def isNotFound : ErrorCode → Bool
  | .contactNotFound | .messageNotFound => true
  | _ => false

end ErrorCode

/-- Why a value was not accepted for a field. -/
inductive ValidationError where
  | emptyField (field : String)
  | outOfRange (field : String) (least greatest actual : Int)
  | invalidFormat (field reason : String)
  | tooLong (field : String) (greatest actual : Nat)
deriving DecidableEq

namespace ValidationError

def message : ValidationError → String
  | .emptyField field => "Field '" ++ field ++ "' cannot be empty"
  | .outOfRange field least greatest actual =>
    "Field '" ++ field ++ "' must be between " ++ String.ofList (Decimal.ofInt least) ++ " and " ++
      String.ofList (Decimal.ofInt greatest) ++ ", got " ++ String.ofList (Decimal.ofInt actual)
  | .invalidFormat field reason => "Field '" ++ field ++ "' has invalid format: " ++ reason
  | .tooLong field greatest actual =>
    "Field '" ++ field ++ "' exceeds " ++ String.ofList (Decimal.digits greatest) ++ " bytes (got " ++
      String.ofList (Decimal.digits actual) ++ ")"

def code : ValidationError → ErrorCode
  | .emptyField _ => .emptyField
  | .outOfRange .. => .outOfRange
  | .invalidFormat .. => .invalidFormat
  | .tooLong .. => .tooLong

end ValidationError

/-- A text that must have at least one and at most `greatest` bytes. -/
def checkSize (field : String) (greatest size : Nat) : Except ValidationError Unit :=
  if size = 0 then .error (.emptyField field)
  else if greatest < size then .error (.tooLong field greatest size)
  else .ok ()

/-- A failure that a collaborator reports. The details are in the order of their names, one value for
each name. -/
structure DomainError where
  code : ErrorCode
  message : String
  details : List (String × String)
deriving DecidableEq

namespace DomainError

def plain (code : ErrorCode) (message : String) : DomainError :=
  ⟨code, message, []⟩

/-- Puts a value under a name in a list that is in the order of its names. -/
def putDetail (name value : String) : List (String × String) → List (String × String)
  | [] => [(name, value)]
  | (n, v) :: rest =>
    if name = n then (name, value) :: rest
    else if name < n then (name, value) :: (n, v) :: rest
    else (n, v) :: putDetail name value rest

/-- Adds a detail, in place of an earlier one of the same name. -/
def withDetail (e : DomainError) (name value : String) : DomainError :=
  { e with details := putDetail name value e.details }

/-- An error about the value of a field. -/
def validation (field message : String) : DomainError :=
  (plain .validationFailed message).withDetail "field" field

/-- A validation error keeps its code and text. -/
def ofValidation (e : ValidationError) : DomainError :=
  plain e.code e.message

def display (e : DomainError) : String :=
  "[" ++ e.code.name ++ "] " ++ e.message

end DomainError

end PeerPost
