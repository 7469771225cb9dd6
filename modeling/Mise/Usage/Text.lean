import Mise.Usage

/-!
# Usages within a Sentence

The text of a step is put together from its literal texts and its usages. A usage appears as its
name behind a sign that tells its kind, timers and temperatures with their value in braces.
Alternatives are separated by bars, and comments do not appear.

## Main definitions

* `braces`: A value in braces.
* `Usage.text`: A usage within a sentence.
-/

namespace Mise

/-- A value with its unit in braces, and nothing without a value. -/
def braces (figure : Option Figure) (unit : Option String) : String :=
  match figure with
  | some f => "\x7b" ++ f.display ++ unit.getD "" ++ "\x7d"
  | none => ""

mutual

/-- A usage within a sentence. -/
def Usage.text : Usage → String
  | .ingredient u => "@" ++ u.name
  | .cookware u => "#" ++ u.name
  | .mention m => "&" ++ m.name
  | .alternative options => "|".intercalate (Usage.texts options)
  | .timer t =>
    "~" ++ t.name.getD "" ++ braces t.quantity t.unit ++ (if t.background then "&" else "")
  | .temperature t => "!" ++ t.name.getD "" ++ braces t.quantity t.unit
  | .comment _ => ""

/-- The usages of a list within a sentence. -/
def Usage.texts : List Usage → List String
  | [] => []
  | u :: us => u.text :: Usage.texts us

end

end Mise
