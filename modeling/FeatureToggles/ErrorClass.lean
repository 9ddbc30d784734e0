/-!
# Classes of errors

Errors that are not the service's own are told apart by their class, whose name appears in messages.
There is no end of classes, as a caller may bring classes of its own.  Of a class it matters besides its
name whether it is that of type errors or derived from it, since these errors are caught apart.
-/

namespace FeatureToggles

/-- A class of errors that are not the service's own. -/
structure ErrorClass where
  name : String
  /-- Whether the errors of the class are type errors. -/
  isType : Bool
deriving DecidableEq

namespace ErrorClass

/-- A class whose errors are not type errors. -/
def named (name : String) : ErrorClass := ⟨name, false⟩

/-- The class of type errors itself. -/
def type : ErrorClass := ⟨"TypeError", true⟩

def value : ErrorClass := named "ValueError"

def key : ErrorClass := named "KeyError"

def runtime : ErrorClass := named "RuntimeError"

def os : ErrorClass := named "OSError"

def notFound : ErrorClass := named "FileNotFoundError"

def permission : ErrorClass := named "PermissionError"

def isDirectory : ErrorClass := named "IsADirectoryError"

def lookup : ErrorClass := named "LookupError"

def noAttribute : ErrorClass := named "AttributeError"

def text : ErrorClass := named "UnicodeError"

def decoding : ErrorClass := named "UnicodeDecodeError"

def encoding : ErrorClass := named "UnicodeEncodeError"

def jsonDecoding : ErrorClass := named "JSONDecodeError"

/-- The class of the error by which a reader runs out of data. -/
def endOfData : ErrorClass := named "StopIteration"

/-- The class of decimal operations without a result. -/
def invalidOperation : ErrorClass := named "InvalidOperation"

/-- The class of decimal operations whose result is too large. -/
def overflow : ErrorClass := named "Overflow"

/-- The class of conversions of integers that no binary number comes near. -/
def oversized : ErrorClass := named "OverflowError"

end ErrorClass

end FeatureToggles
