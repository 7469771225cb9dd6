import Mise.Data
import Mise.Document

/-!
# Documents as Data

A document is written as nested records. The record of a block, an item, a quantity or a figure
names its kind in its first field, `type`; the other fields follow in a fixed order, absent ones as
`null`.

## Main definitions

* `Recipe.toData`: The data of a document.
* `Figure.toData`, `Quantity.toData`, `Item.toData`, `Block.toData`: The data of its parts.
-/

namespace Mise

open Data (ofNumber ofOption ofTexts)

/-- A metadata value as data. -/
def MetaValue.toData : MetaValue → Data
  | .text s => .text s
  | .list items => ofTexts items
  | .number x => ofNumber x

/-- Metadata as data. -/
def metaData (info : Meta) : Data :=
  .record (info.entries.map fun e => (e.1, e.2.toData))

/-- The ends of a range as data. -/
def Bounds.toData (b : Bounds) : Data :=
  .record [("min", ofNumber b.min), ("max", ofNumber b.max)]

/-- A figure as data. -/
def Figure.toData : Figure → Data
  | .single value text =>
    .record [("type", .text "single"), ("value", ofNumber value), ("text", ofOption .text text)]
  | .fraction value numerator denominator text =>
    .record [("type", .text "fraction"), ("value", ofNumber value),
      ("numerator", ofOption ofNumber numerator), ("denominator", ofOption ofNumber denominator),
      ("text", ofOption .text text)]
  | .range value bounds text =>
    .record [("type", .text "range"), ("value", ofNumber value),
      ("range", ofOption Bounds.toData bounds), ("text", ofOption .text text)]
  | .words text => .record [("type", .text "text"), ("value", .text text)]

/-- The fields of a measured quantity. -/
def Measured.fields (m : Measured) : List (String × Data) :=
  [("value", ofOption Figure.toData m.figure), ("unit", ofOption .text m.unit),
    ("fixed", .bool m.fixed)]

/-- The name of what a share is taken of. -/
def ShareOf.name : ShareOf → String
  | .preparation => "variable"
  | .ingredient => "ingredient"

/-- A quantity as data. -/
def Quantity.toData : Quantity → Data
  | .measured m => .record (("type", .text "Quantity") :: m.fields)
  | .share s =>
    .record [("type", .text "RelativeQuantity"), ("percent", ofNumber s.percent),
      ("target", .text s.target), ("referenceType", .text s.of.name)]
  | .words text => .record [("type", .text "TextQuantity"), ("value", .text text)]

/-- A parent item as data. -/
def Origin.toData (o : Origin) : Data :=
  .record [("parent", .text o.parent),
    ("quantity", ofOption (fun m => .record m.fields) o.quantity)]

/-- The name of a kind of comment. -/
def CommentKind.name : CommentKind → String
  | .line => "line"
  | .block => "block"

/-- The fields of a comment. -/
def Comment.fields (c : Comment) : List (String × Data) :=
  [("value", .text c.value), ("kind", .text c.kind.name)]

mutual

/-- An item as data. -/
def Item.toData : Item → Data
  | .ingredient i =>
    .record [("type", .text "Ingredient"), ("name", .text i.name),
      ("modifiers", ofTexts i.modifiers), ("quantity", ofOption Quantity.toData i.quantity),
      ("alias", ofOption .text i.nickname), ("preparation", ofOption .text i.preparation),
      ("composite", ofOption Origin.toData i.origin)]
  | .cookware c =>
    .record [("type", .text "Cookware"), ("name", .text c.name),
      ("modifiers", ofTexts c.modifiers), ("alias", ofOption .text c.nickname),
      ("quantity", ofOption Quantity.toData c.quantity),
      ("preparation", ofOption .text c.preparation)]
  | .mention m =>
    .record [("type", .text "Reference"), ("name", .text m.name),
      ("quantity", ofOption Quantity.toData m.quantity)]
  | .alternative options =>
    .record [("type", .text "Alternative"), ("options", .list (Item.listToData options))]
  | .timer t =>
    .record [("type", .text "Timer"), ("name", ofOption .text t.name),
      ("quantity", ofOption Quantity.toData t.quantity), ("isAsync", .bool t.background)]
  | .temperature t =>
    .record [("type", .text "Temperature"), ("name", ofOption .text t.name),
      ("quantity", ofOption Quantity.toData t.quantity)]
  | .text s => .record [("type", .text "Text"), ("value", .text s)]
  | .comment c => .record (("type", .text "Comment") :: c.fields)
  | .declaration name => .record [("type", .text "IntermediateDecl"), ("name", .text name)]

/-- The data of each item of a list. -/
def Item.listToData : List Item → List Data
  | [] => []
  | i :: is => i.toData :: Item.listToData is

end

/-- A declared preparation as data. -/
def declarationData (name : String) : Data :=
  .record [("name", .text name)]

mutual

/-- A block as data. -/
def Block.toData : Block → Data
  | .section header children =>
    .record [("type", .text "Section"), ("title", ofOption .text header.title),
      ("retroPlanning", ofOption .text header.retroPlanning),
      ("intermediateDecl", ofOption declarationData header.produces),
      ("children", .list (Block.listToData children))]
  | .step s =>
    .record [("type", .text "Step"), ("action", ofOption .text s.action),
      ("children", .list (Item.listToData s.items))]
  | .comment c => .record (("type", .text "Comment") :: c.fields)

/-- The data of each block of a list. -/
def Block.listToData : List Block → List Data
  | [] => []
  | b :: bs => b.toData :: Block.listToData bs

end

/-- A document as data. -/
def Recipe.toData (r : Recipe) : Data :=
  .record [("type", .text r.kind), ("meta", metaData r.info),
    ("children", .list (Block.listToData r.children))]

end Mise
