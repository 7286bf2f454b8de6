import ChainHistory.Failure

namespace ChainHistory

/-- What a failure means to whoever asked. -/
inductive ResponseClass
  | clientError
  | notFound
  | serviceUnavailable
  | internalError
  deriving DecidableEq

namespace ResponseClass

def all : List ResponseClass := [clientError, notFound, serviceUnavailable, internalError]

def name : ResponseClass → String
  | clientError => "client_error"
  | notFound => "not_found"
  | serviceUnavailable => "service_unavailable"
  | internalError => "internal_error"

def ofName? (s : String) : Option ResponseClass :=
  all.find? (·.name = s)

def statusCode : ResponseClass → Nat
  | clientError => 400
  | notFound => 404
  | serviceUnavailable => 503
  | internalError => 500

end ResponseClass

def FailureKind.responseClass : FailureKind → ResponseClass
  | invalidAddress => .clientError
  | invalidKey => .clientError
  | notFound => .notFound
  | sourceUnavailable => .serviceUnavailable
  | internal => .internalError

/-- A failure as it is answered. The kind is absent if the indexer's side did not give one. -/
structure MappedFailure where
  classification : ResponseClass
  message : String
  kind : Option FailureKind
  deriving DecidableEq

namespace MappedFailure

def statusCode (m : MappedFailure) : Nat := m.classification.statusCode

/-- Only a source that cannot be reached may be there the next time. -/
def retryable (m : MappedFailure) : Bool := m.classification = .serviceUnavailable

def ofKind (kind : FailureKind) : MappedFailure :=
  ⟨kind.responseClass, kind.defaultMessage, some kind⟩

/-- A failure without a kind is internal, but for a coin that is not known. -/
def ofFailure (e : Failure) : MappedFailure :=
  match e.kind?, e with
  | some kind, _ => ⟨kind.responseClass, e.message, some kind⟩
  | none, .unknownCoin _ => ⟨.notFound, e.message, none⟩
  | none, _ => ⟨.internalError, if e.message = "" then e.label else e.message, none⟩

end MappedFailure

/-- What a pair of tables leaves out. -/
inductive CoverageError
  | kindsWithoutClass (kinds : List FailureKind)
  | classesWithoutStatus (classes : List ResponseClass)

def sortedList (names : List String) : String :=
  ", ".intercalate names.mergeSort

def CoverageError.message : CoverageError → String
  | kindsWithoutClass kinds =>
    s!"FailureKind values without a response class: {sortedList (kinds.map (·.name))}"
  | classesWithoutStatus classes =>
    s!"Response classes without a status code: {sortedList (classes.map (·.name))}"

/-- Checks that tables with entries for these kinds and classes leave nothing out. -/
def checkCoverage (kinds : List FailureKind) (classes : List ResponseClass) :
    Except CoverageError Unit :=
  let missingKinds := FailureKind.all.filter (· ∉ kinds)
  let missingClasses := ResponseClass.all.filter (· ∉ classes)
  if missingKinds ≠ [] then .error (.kindsWithoutClass missingKinds)
  else if missingClasses ≠ [] then .error (.classesWithoutStatus missingClasses)
  else .ok ()

end ChainHistory
