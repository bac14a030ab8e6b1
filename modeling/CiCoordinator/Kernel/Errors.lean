import CiCoordinator.Library.Fallible
import CiCoordinator.Library.Text

/- The exceptions that the modelled functions raise. -/

namespace CiCoordinator.Kernel

open Library

/-- The codes of a canonical JSON error. -/
inductive CanonicalJsonCode where
  | jsonMaxDepthExceeded
  | jsonMaxNodesExceeded
  | unsafeInteger
  | nonFiniteNumber
  | invalidUnicodeScalar
  | canonicalJsonMaxBytesExceeded
  | nonCanonicalInput
  | nonStringKey
  | cycle
  deriving DecidableEq

/-- A canonical JSON error names the node it stopped at. -/
structure CanonicalJsonError where
  code : CanonicalJsonCode
  path : Text
  message : Text
  instancePointer : Option Text
  limit : Option Nat
  observed : Option Nat
  deriving DecidableEq

/-- The exceptions of the modelled code. A validation error is the value error of a payload model. -/
inductive PyError where
  | valueError (message : Text)
  | validationError
  | typeError (message : Text)
  | keyError
  | indexError (message : Text)
  | overflowError
  | zeroDivisionError
  | recursionError
  | runtimeError (message : Text)
  | unicodeEncodeError
  | strictJsonError (message : Text)
  | canonicalJsonError (error : CanonicalJsonError)
  deriving DecidableEq

/-- A computation that returns or raises. -/
abbrev Py := Except PyError

/-- A check that raises a value error with a literal message. -/
abbrev valueErrorIf (rejected : Prop) [Decidable rejected] (message : Text) : Py Unit :=
  raiseIf rejected (.valueError message)

end CiCoordinator.Kernel
