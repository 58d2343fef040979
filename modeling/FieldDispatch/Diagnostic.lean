import FieldDispatch.Extension.Basic

/-!
Diagnostics: what a compilation reports about a description, in the order of the report.
-/

namespace FieldDispatch

inductive Severity where
  | error
  | warning
  | info
  deriving DecidableEq, Inhabited

def Severity.text : Severity → String
  | .error => "error"
  | .warning => "warning"
  | .info => "info"

/-- The member that a diagnostic is about. -/
structure Subject where
  typeName : String
  memberName : String
  deriving DecidableEq, Inhabited

structure Diagnostic where
  severity : Severity
  message : String
  subject : Option Subject
  location : Option Location
  suggestion : Option String
  deriving DecidableEq, Inhabited

namespace Diagnostic

def isError (diagnostic : Diagnostic) : Bool := diagnostic.severity = .error

def subjectText (subject : Subject) : String :=
  s!" [{subject.typeName}.{subject.memberName}]"

/-- The report, with the location on a line of its own. -/
def text (diagnostic : Diagnostic) : String :=
  diagnostic.severity.text ++ ": " ++ diagnostic.message ++
    ((diagnostic.subject.map subjectText).getD "") ++
    ((diagnostic.location.map fun location => "\n  --> " ++ location.text).getD "")

def hasErrors (diagnostics : List Diagnostic) : Bool := diagnostics.any isError

def errorCount (diagnostics : List Diagnostic) : Nat := diagnostics.countP isError

end Diagnostic

end FieldDispatch
