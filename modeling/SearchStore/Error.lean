import SearchStore.Url.Error

/-! # Errors

Everything that can go wrong, by cause. The wording is in `Error.message`, and
the short label under which metrics count an error is in `Error.label`.
-/

namespace SearchStore

/-- Why an operation failed. -/
inductive Error where
  | notFound (what : String)
  /-- A filter value, in JSON, that is no number. -/
  | conversion (field value : String)
  | unsupportedFunction (name : String)
  | unsupportedOperator (name : String)
  /-- A kind of aggregation result outside the known ones, or a known one
  where another was asked for. -/
  | unsupportedAggregation (kind : String)
  | invalidAggregation (reason : String)
  /-- No answer came back. -/
  | transport (reason : String)
  /-- An answer came back whose status is no success. -/
  | engine (status : Nat) (reason : String)
  | partialBulkFailure (affected failed : Nat)
  | bulkFlush (affected failed : Nat) (reason : String)
  | bulkClosed
  /-- A text is no JSON, or a JSON value has not the shape that is needed. Where
  and why is not told here: the words of the reader of JSON are left out. -/
  | json
  | invalidUrl (cause : Url.Error)
  | io (reason : String)
  | config (reason : String)
deriving DecidableEq, Repr

namespace Error

/-- The text of an error. That of `json` ends where a colon and the words of the
reader of JSON would follow, also as the reason in the text of another error. -/
def message : Error → String
  | .notFound what => "Not found: " ++ what
  | .conversion field value =>
    "Cannot convert value " ++ value ++ " of field '" ++ field ++ "' to a number"
  | .unsupportedFunction name => "Unsupported aggregation function: " ++ name
  | .unsupportedOperator name => "Unsupported operator: " ++ name
  | .unsupportedAggregation kind => "Unsupported aggregation type: " ++ kind
  | .invalidAggregation reason => "Invalid aggregation result: " ++ reason
  | .transport reason => "Transport error: " ++ reason
  | .engine status reason => "Engine error (" ++ toString status ++ "): " ++ reason
  | .partialBulkFailure affected failed =>
    "Bulk operation partially failed: " ++ toString affected ++ " affected, "
      ++ toString failed ++ " failed"
  | .bulkFlush affected failed reason =>
    "Bulk flush failed after " ++ toString affected ++ " affected, " ++ toString failed
      ++ " failed: " ++ reason
  | .bulkClosed => "Bulk indexer is closed"
  | .json => "JSON error"
  | .invalidUrl cause => "Invalid URL: " ++ cause.message
  | .io reason => "IO error: " ++ reason
  | .config reason => "Configuration error: " ++ reason

/-- The label of the kind of error. -/
def label : Error → String
  | .notFound _ => "not_found"
  | .conversion _ _ => "conversion"
  | .unsupportedFunction _ => "unsupported_function"
  | .unsupportedOperator _ => "unsupported_operator"
  | .unsupportedAggregation _ => "unsupported_aggregation_type"
  | .invalidAggregation _ => "invalid_aggregation"
  | .transport _ => "transport"
  | .engine _ _ => "engine"
  | .partialBulkFailure _ _ => "partial_bulk_failure"
  | .bulkFlush _ _ _ => "bulk_flush"
  | .bulkClosed => "bulk_closed"
  | .json => "json"
  | .invalidUrl _ => "invalid_url"
  | .io _ => "io"
  | .config _ => "config"

/-- Whether the error says that the thing asked for does not exist. -/
def isNotFound : Error → Bool
  | .notFound _ => true
  | .engine 404 _ => true
  | _ => false

/-- An aggregation result with a part that cannot be understood. -/
def invalidAggregate (name reason : String) : Error :=
  .invalidAggregation ("Invalid aggregate '" ++ name ++ "': " ++ reason)

end Error

end SearchStore
