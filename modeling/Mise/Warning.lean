import Mise.Data

/-!
# Warnings

What may be wrong with a recipe without keeping it from being compiled. A warning is its cause; the
code, the sentence and the place are read off the cause.

## Main definitions

* `Warning`: The causes.
* `Warning.code`, `Warning.message`: Its code and its sentence.
* `Warning.item?`, `Warning.section?`: The item or the section it is about.
-/

namespace Mise

/-- What a timer or a temperature is called in a sentence. -/
inductive Measurement where
  | timer
  | temperature
  deriving DecidableEq

/-- The word for a measurement. -/
def Measurement.word : Measurement → String
  | .timer => "Timer"
  | .temperature => "Temperature"

/-- What may be wrong with a recipe. -/
inductive Warning where
  /-- A share of a preparation that has not been weighed yet. -/
  | preparationNotFound (target item : String)
  /-- A share of an ingredient that the section has not used yet. -/
  | shareUnresolved (target item : String)
  /-- A share of an ingredient that has no mass. -/
  | shareWithoutMass (target item : String)
  /-- A share of itself. -/
  | shareOfItself (item : String)
  /-- A mention of something that has no entry. -/
  | undefinedMention (name : String)
  /-- An ingredient marked as a mention of one that has not been used. -/
  | undefinedIngredient (name : String)
  /-- A preparation that two sections produce. -/
  | preparationRedeclared (name : String) (title : Option String)
  /-- Words in place of a measured value. -/
  | wordsMeasured (kind : Measurement) (text : String)
  /-- A share in place of a measured value. -/
  | shareMeasured (kind : Measurement) (target : String)
  /-- A measured value without a unit. -/
  | unitMissing (kind : Measurement) (name : Option String)
  deriving DecidableEq

namespace Warning

/-- The code of a warning. -/
def code : Warning → String
  | .preparationNotFound .. => "VARIABLE_NOT_FOUND"
  | .shareUnresolved .. => "RELATIVE_QUANTITY_UNRESOLVED"
  | .shareWithoutMass .. => "RELATIVE_NO_MASS"
  | .shareOfItself .. => "CIRCULAR_REFERENCE"
  | .undefinedMention .. => "UNDEFINED_REFERENCE"
  | .undefinedIngredient .. => "UNDEFINED_REFERENCE"
  | .preparationRedeclared .. => "SCOPE_CONFLICT"
  | .wordsMeasured .. => "INVALID_UNIT"
  | .shareMeasured .. => "INVALID_UNIT"
  | .unitMissing .. => "MISSING_UNIT"

/-- A warning as a sentence. -/
def message : Warning → String
  | .preparationNotFound target _ =>
    "Variable '&" ++ target ++ "' is not declared before this point"
  | .shareUnresolved target _ =>
    "Could not resolve relative quantity for '@" ++ target
      ++ "': no earlier occurrence in this section"
  | .shareWithoutMass target _ =>
    "Source '@" ++ target ++ "' has no mass (unitless or unconvertible)"
  | .shareOfItself item => "Circular reference: '" ++ item ++ "' depends on itself"
  | .undefinedMention name => "Reference to undefined ingredient '&" ++ name ++ "'"
  | .undefinedIngredient name => "Reference to undefined ingredient '@&" ++ name ++ "'"
  | .preparationRedeclared name _ => "Intermediate '&" ++ name ++ "' is redeclared"
  | .wordsMeasured kind _ => "Invalid text content in " ++ kind.word
  | .shareMeasured kind _ => kind.word ++ " cannot take a relative quantity"
  | .unitMissing kind _ => kind.word ++ " must have an explicit unit"

/-- The item that a warning is about. -/
def item? : Warning → Option String
  | .preparationNotFound _ item => some item
  | .shareUnresolved _ item => some item
  | .shareWithoutMass _ item => some item
  | .shareOfItself item => some item
  | .undefinedMention name => some name
  | .undefinedIngredient name => some name
  | .preparationRedeclared .. => none
  | .wordsMeasured _ text => some text
  | .shareMeasured _ target => some target
  | .unitMissing kind name => some (name.getD kind.word)

/-- The title of the section that a warning is about. -/
def section? : Warning → Option String
  | .preparationRedeclared _ title => title
  | _ => none

/-- A warning as data. -/
def toData (w : Warning) : Data :=
  .record [("code", .text w.code), ("message", .text w.message),
    ("item", Data.ofOption .text w.item?), ("section", Data.ofOption .text w.section?)]

end Warning

end Mise
