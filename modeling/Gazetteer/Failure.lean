/-!
# What can go wrong

Every refusal of the directory by its cause, with the words for it in one place.

* `Invalid`: why an input does not hold.
* `Missing`: what was looked for and is not there.
* `LookupFailure`: why an address could not be resolved.
* `Failure`: why a call failed.
* `message`: the words of each.
-/

set_option autoImplicit false

namespace Gazetteer

/-- Why an input does not hold. -/
inductive Invalid where
  | required (what : String)
  | tooLong (field : String) (most : Nat)
  | outside (field : String) (low high : Int)
  | radius
  | noAddress
  | noDataRow
  | noTitleColumn (key label : String)
  | stated (text : String)
  deriving DecidableEq, Repr

def Invalid.message : Invalid → String
  | .required what => what ++ " is required"
  | .tooLong field most => field ++ " must be at most " ++ toString most ++ " characters"
  | .outside field low high =>
    field ++ " must be between " ++ toString low ++ " and " ++ toString high
  | .radius => "radius must be a non-negative number of kilometers"
  | .noAddress => "merchant address is required for geocoding"
  | .noDataRow => "CSV file must contain at least a header row and one data row"
  | .noTitleColumn key label =>
    "invalid headers: required column '" ++ key ++ "' (" ++ label ++ ") not found"
  | .stated text => text

/-- What was looked for and is not there. -/
inductive Missing where
  | row (what : String) (id : Int)
  | stated (text : String)
  deriving DecidableEq, Repr

def Missing.message : Missing → String
  | .row what id => what ++ " with id " ++ toString id ++ " not found"
  | .stated text => text

/-- Why an address could not be resolved. -/
inductive LookupFailure where
  | emptyAddress
  | missingKey (provider : String)
  /-- The request was not answered. -/
  | transport (reason : String)
  | status (code : Nat)
  | malformed (reason : String)
  | noResults (address : String)
  /-- The provider answered with a failure of its own. -/
  | refused (status : Int) (message : String)
  | noProviders
  /-- Every provider failed; the last one with this failure. -/
  | allFailed (provider : String) (last : LookupFailure)
  deriving DecidableEq, Inhabited, Repr

def LookupFailure.message : LookupFailure → String
  | .emptyAddress => "address cannot be empty"
  | .missingKey provider => provider ++ " API key is required"
  | .transport reason => "failed to make geocoding request: " ++ reason
  | .status code => "geocoding request failed with status: " ++ toString code
  | .malformed reason => "failed to parse geocoding response: " ++ reason
  | .noResults address => "no results found for address: " ++ address
  | .refused code text =>
    "geocoding failed: " ++ text ++ " (status: " ++ toString code ++ ")"
  | .noProviders => "no geocoding providers available"
  | .allFailed provider last =>
    "all geocoding providers failed, last error from " ++ provider ++ ": " ++ last.message

/-- Why a call failed. -/
inductive Failure where
  | validation (cause : Invalid)
  | notFound (what : Missing)
  | accessDenied (what : String)
  | lookup (cause : LookupFailure)
  | storage (reason : String)
  | serialization (reason : String)
  | csv (reason : String)
  /-- A provider stopped without an answer. Nothing is reported of it. -/
  | crash
  deriving DecidableEq, Repr

def Failure.message : Failure → String
  | .validation cause => cause.message
  | .notFound what => what.message
  | .accessDenied what => what ++ " not found or access denied"
  | .lookup cause => cause.message
  | .storage reason => "storage error: " ++ reason
  | .serialization reason => "serialization error: " ++ reason
  | .csv reason => "failed to read CSV file: " ++ reason
  | .crash => "geocoding provider crashed"

/-! ## Checks -/

/-- A condition that an input must meet. -/
def require (holds : Bool) (cause : Invalid) : Except Failure Unit :=
  if holds then .ok () else .error (.validation cause)

/-- A text of at most so many characters. -/
def requireLength (field value : String) (most : Nat) : Except Failure Unit :=
  require (value.length ≤ most) (.tooLong field most)

/-- A whole number in a range. -/
def requireBetween (field : String) (low high n : Int) : Except Failure Unit :=
  require (low ≤ n && n ≤ high) (.outside field low high)

theorem require_eq_ok_iff (holds : Bool) (cause : Invalid) :
    require holds cause = .ok () ↔ holds = true := by
  cases holds <;> simp [require]

end Gazetteer
