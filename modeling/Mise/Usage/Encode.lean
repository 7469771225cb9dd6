import Mise.Document.Encode
import Mise.Usage

/-!
# Usages as Data

A usage is written as a record whose first field is its kind. Absent values are `null`, except that
the fields of a mass are left out together and a flag is left out if it does not hold.

## Main definitions

* `Amount.toData`, `Formula.toData`, `ItemUsage.fields`: The data of the parts.
* `Usage.toData`: The data of a usage.
-/

namespace Mise

open Data (ofNumber ofOption ofTexts flag)

/-- An amount as data. -/
def Amount.toData : Amount → Data
  | .number x => ofNumber x
  | .words s => .text s
  | .figure f => f.toData

/-- A formula as data. -/
def Formula.toData (f : Formula) : Data :=
  .record [("raw", .text f.raw), ("target", .text f.target), ("percent", ofNumber f.percent),
    ("isGhost", .bool f.ghost)]

/-- A parent as data. -/
def ParentRef.toData (p : ParentRef) : Data :=
  .record [("parent", .text p.parent), ("quantity", ofOption Amount.toData p.quantity),
    ("unit", ofOption .text p.unit)]

/-- The fields of the usage of an item. -/
def ItemUsage.fields (u : ItemUsage) : List (String × Data) :=
  [("id", .text u.id), ("name", .text u.name), ("qty", ofOption Amount.toData u.quantity),
    ("unit", ofOption .text u.unit), ("composite", ofOption ParentRef.toData u.parent),
    ("alias", ofOption .text u.nickname), ("preparation", ofOption .text u.preparation),
    ("modifiers", ofTexts (u.modifiers.map Modifier.name))]
    ++ massFields u.mass
    ++ [("fixed", ofOption .bool u.fixed)]
    ++ flag "isCircular" u.circular
    ++ [("dependencies", ofTexts u.dependencies), ("formula", ofOption Formula.toData u.formula)]

/-- The fields of a mention. -/
def MentionUsage.fields (m : MentionUsage) : List (String × Data) :=
  [("id", .text m.id), ("name", .text m.name), ("qty", ofOption Amount.toData m.quantity),
    ("unit", ofOption .text m.unit)]
    ++ massFields m.mass

/-- The fields of a timer. -/
def TimerUsage.fields (t : TimerUsage) : List (String × Data) :=
  [("name", ofOption .text t.name), ("quantity", ofOption Figure.toData t.quantity),
    ("unit", ofOption .text t.unit)]
    ++ flag "isAsync" t.background

/-- The fields of a temperature. -/
def TemperatureUsage.fields (t : TemperatureUsage) : List (String × Data) :=
  [("name", ofOption .text t.name), ("quantity", ofOption Figure.toData t.quantity),
    ("unit", ofOption .text t.unit)]

mutual

/-- A usage as data. -/
def Usage.toData : Usage → Data
  | .ingredient u => .record (("type", .text "ingredient") :: u.fields)
  | .cookware u => .record (("type", .text "cookware") :: u.fields)
  | .mention m => .record (("type", .text "reference") :: m.fields)
  | .alternative options =>
    .record [("type", .text "alternative"), ("id", .text "alternative"),
      ("options", .list (Usage.listToData options))]
  | .timer t => .record (("type", .text "timer") :: t.fields)
  | .temperature t => .record (("type", .text "temperature") :: t.fields)
  | .comment c => .record (("type", .text "comment") :: c.fields)

/-- The data of each usage of a list. -/
def Usage.listToData : List Usage → List Data
  | [] => []
  | u :: us => u.toData :: Usage.listToData us

end

end Mise
