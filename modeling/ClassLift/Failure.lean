import ClassLift.Json.Display

/-!
# Failures

Why a class-definition call cannot be converted. Four causes are told to the
user in words. The others are faults in the shape of the given tree, which are
told apart only by what was attempted.
-/

namespace ClassLift

/-- Why a namespace is refused. -/
inductive NamespaceFault where
  | emptySegment
  | notText
  | notLiteral
deriving DecidableEq

def NamespaceFault.message : NamespaceFault → String
  | .emptySegment => "empty namespace segment"
  | .notText => "namespace must be a non-empty string"
  | .notLiteral => "first argument must be a string literal"

/-- What was attempted on a value of the wrong shape. -/
inductive ShapeFault where
  /-- A field was looked up in something that has no fields. -/
  | noFields
  /-- Something was appended to what is not a list. -/
  | notAList
  /-- A field that must be there was not. -/
  | missingField
  /-- Something was selected from a value that has no parts. -/
  | noParts
  /-- Something that has no elements was gone through. -/
  | noElements
  /-- The length of something without one was asked for. -/
  | noLength
  /-- A list or an object was used as a name. -/
  | compoundName
deriving DecidableEq

inductive Failure where
  | missingParameters
  | invalidArity (count : Nat)
  | invalidNamespace (found : Json) (fault : NamespaceFault)
  | invalidMemberTable (position : Int) (found : Json)
  | shape (fault : ShapeFault)
  | constructorOutside
deriving DecidableEq

/-- The words for a failure, where there are any. -/
def Failure.message? : Failure → Option String
  | .missingParameters => some "Class definition call has no parameters"
  | .invalidArity count =>
      some ("Class definition call takes 2 or 3 arguments, got " ++ toString count)
  | .invalidNamespace found fault =>
      some ("Invalid namespace " ++ found.display ++ ": " ++ fault.message)
  | .invalidMemberTable position found =>
      let kind := if found.isTruthy then found.displayBare else "nothing"
      some ("Argument " ++ toString position ++ " must be an object literal, got " ++ kind)
  | .constructorOutside => some "Constructor is not part of the class body"
  | .shape _ => none

end ClassLift
