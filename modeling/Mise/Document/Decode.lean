import Mise.Data
import Mise.Document

/-!
# Documents from Data

Decoding is strict about kinds of values: a text field takes only a text, a list field only a list,
a number field any number. Fields that a node does not have are ignored, so that tools may leave
notes in a document. A node that names one of its own fields twice is refused.

A node may also be written as the list of its fields in order, its kind first; a list that ends
early leaves the remaining fields absent. Inside another node the kind may be given by its number.

Both ways of writing a node are brought into one form first: the list of its declared fields, each
present or absent. Every decoder below works on that form.

Nodes contain nodes, and a decoder descends as many levels as it is told to. The depth of the data
is always enough.

## Main definitions

* `fieldValues?`: The declared fields of a node.
* `kindOf?`: The kind of a node, and the node without it.
* `Figure.ofData?`, `Quantity.ofData?`, `Item.ofData?`, `Block.ofData?`: Decoding the parts.
* `Recipe.ofData?`: Decoding a document.
-/

namespace Mise

mutual

/-- The number of levels of data. -/
def Data.depth : Data → Nat
  | .list items => Data.itemsDepth items + 1
  | .record fields => Data.fieldsDepth fields + 1
  | _ => 1

/-- The greatest depth of an item of a list. -/
def Data.itemsDepth : List Data → Nat
  | [] => 0
  | d :: ds => max d.depth (Data.itemsDepth ds)

/-- The greatest depth of a value in a record. -/
def Data.fieldsDepth : List (String × Data) → Nat
  | [] => 0
  | f :: fs => max (Data.fieldDepth f) (Data.fieldsDepth fs)

/-- The depth of the value of a field. -/
def Data.fieldDepth : String × Data → Nat
  | (_, d) => d.depth

end

namespace Decode

/-- The value of a field that is present at most once. -/
def fieldValue? (fields : List (String × Data)) (name : String) : Option (Option Data) :=
  match fields.filter fun f => f.1 == name with
  | [] => some none
  | [f] => some (some f.2)
  | _ => none

/-- The declared fields of a node, in order, each present or absent. -/
def fieldValues? (names : List String) : Data → Option (List (Option Data))
  | .record fields => names.mapM (fieldValue? fields)
  | .list items =>
    if items.length ≤ names.length then
      some (items.map some ++ List.replicate (names.length - items.length) none)
    else none
  | _ => none

/-- The kind that a value names. Inside another node a number will do. -/
def kindNamed? (inside : Bool) (kinds : List String) : Data → Option String
  | .text s => if kinds.contains s then some s else none
  | .int n => if inside ∧ 0 ≤ n then kinds[n.toNat]? else none
  | _ => none

/-- The kind of a node, and the node without it. -/
def kindOf? (inside : Bool) (kinds : List String) : Data → Option (String × Data)
  | .record fields =>
    match fieldValue? fields "type" with
    | some (some d) =>
      (kindNamed? inside kinds d).map fun kind =>
        (kind, .record (fields.filter fun f => f.1 != "type"))
    | _ => none
  | .list (d :: items) => (kindNamed? inside kinds d).map fun kind => (kind, .list items)
  | _ => none

/-- A field that has to be there. -/
def required {α : Type} (decode : Data → Option α) : Option Data → Option α
  | some d => decode d
  | none => none

/-- A field that may be absent or `null`. -/
def optional {α : Type} (decode : Data → Option α) : Option Data → Option (Option α)
  | none => some none
  | some .null => some none
  | some d => (decode d).map some

/-- A field that may be absent, but not `null`. -/
def defaulted {α : Type} (fallback : α) (decode : Data → Option α) : Option Data → Option α
  | none => some fallback
  | some d => decode d

/-- A text. -/
def text? : Data → Option String
  | .text s => some s
  | _ => none

/-- A truth value. -/
def bool? : Data → Option Bool
  | .bool b => some b
  | _ => none

/-- A list, each item of which can be decoded. -/
def list? {α : Type} (decode : Data → Option α) : Data → Option (List α)
  | .list items => items.mapM decode
  | _ => none

/-- One of several words, written alone or as the only field of a record that holds nothing. -/
def word? {α : Type} (words : List (String × α)) : Data → Option α
  | .text s => words.lookup s
  | .record [(name, .null)] => words.lookup name
  | .record [(name, .record [])] => words.lookup name
  | _ => none

end Decode

open Decode

/-- Decode a metadata value. -/
def MetaValue.ofData? : Data → Option MetaValue
  | .text s => some (.text s)
  | .list items => (items.mapM text?).map .list
  | .int n => some (.number (Float.ofInt n))
  | .number x => some (.number x)
  | _ => none

/-- Decode metadata. Of a repeated key the last value counts. -/
def metaOfData? : Data → Option Meta
  | .record fields =>
    (fields.mapM fun f => (MetaValue.ofData? f.2).map fun v => (f.1, v)).map Dictionary.ofList
  | _ => none

/-- Decode the ends of a range. -/
def Bounds.ofData? (d : Data) : Option Bounds :=
  match fieldValues? ["min", "max"] d with
  | some [min, max] => do
    return { min := ← required Data.asNumber? min, max := ← required Data.asNumber? max }
  | _ => none

/-- Decode a figure. -/
def Figure.ofData? (inside : Bool) (d : Data) : Option Figure :=
  match kindOf? inside ["single", "fraction", "range", "text"] d with
  | some ("single", rest) =>
    match fieldValues? ["value", "text"] rest with
    | some [value, text] => do
      return .single (← required Data.asNumber? value) (← optional text? text)
    | _ => none
  | some ("fraction", rest) =>
    match fieldValues? ["value", "numerator", "denominator", "text"] rest with
    | some [value, numerator, denominator, text] => do
      return .fraction (← required Data.asNumber? value) (← optional Data.asNumber? numerator)
        (← optional Data.asNumber? denominator) (← optional text? text)
    | _ => none
  | some ("range", rest) =>
    match fieldValues? ["value", "range", "text"] rest with
    | some [value, bounds, text] => do
      return .range (← required Data.asNumber? value) (← optional Bounds.ofData? bounds)
        (← optional text? text)
    | _ => none
  | some ("text", rest) =>
    match fieldValues? ["value"] rest with
    | some [value] => (required text? value).map .words
    | _ => none
  | _ => none

/-- Decode a measured quantity. -/
def Measured.ofData? (d : Data) : Option Measured :=
  match fieldValues? ["value", "unit", "fixed"] d with
  | some [value, unit, fixed] => do
    return {
      figure := ← optional (Figure.ofData? true) value
      unit := ← optional text? unit
      fixed := ← defaulted false bool? fixed }
  | _ => none

/-- Decode a share of something else. -/
def Share.ofData? (d : Data) : Option Share :=
  match fieldValues? ["percent", "target", "referenceType"] d with
  | some [percent, target, of] => do
    return {
      percent := ← required Data.asNumber? percent
      target := ← required text? target
      of := ← required (word? [("variable", .preparation), ("ingredient", .ingredient)]) of }
  | _ => none

/-- Decode a quantity. -/
def Quantity.ofData? (inside : Bool) (d : Data) : Option Quantity :=
  match kindOf? inside ["Quantity", "RelativeQuantity", "TextQuantity"] d with
  | some ("Quantity", rest) => (Measured.ofData? rest).map .measured
  | some ("RelativeQuantity", rest) => (Share.ofData? rest).map .share
  | some ("TextQuantity", rest) =>
    match fieldValues? ["value"] rest with
    | some [value] => (required text? value).map .words
    | _ => none
  | _ => none

/-- Decode a parent item. -/
def Origin.ofData? (d : Data) : Option Origin :=
  match fieldValues? ["parent", "quantity"] d with
  | some [parent, quantity] => do
    return {
      parent := ← required text? parent
      quantity := ← optional Measured.ofData? quantity }
  | _ => none

/-- Decode an ingredient. -/
def IngredientItem.ofData? (d : Data) : Option IngredientItem :=
  match fieldValues? ["name", "modifiers", "quantity", "alias", "preparation", "composite"] d with
  | some [name, modifiers, quantity, nickname, preparation, origin] => do
    return {
      name := ← required text? name
      modifiers := ← defaulted [] (list? text?) modifiers
      quantity := ← optional (Quantity.ofData? true) quantity
      nickname := ← optional text? nickname
      preparation := ← optional text? preparation
      origin := ← optional Origin.ofData? origin }
  | _ => none

/-- Decode a piece of cookware. -/
def CookwareItem.ofData? (d : Data) : Option CookwareItem :=
  match fieldValues? ["name", "modifiers", "alias", "quantity", "preparation"] d with
  | some [name, modifiers, nickname, quantity, preparation] => do
    return {
      name := ← required text? name
      modifiers := ← defaulted [] (list? text?) modifiers
      nickname := ← optional text? nickname
      quantity := ← optional (Quantity.ofData? true) quantity
      preparation := ← optional text? preparation }
  | _ => none

/-- Decode a mention. -/
def Mention.ofData? (d : Data) : Option Mention :=
  match fieldValues? ["name", "quantity"] d with
  | some [name, quantity] => do
    return {
      name := ← required text? name
      quantity := ← optional (Quantity.ofData? true) quantity }
  | _ => none

/-- Decode a timer. -/
def TimerItem.ofData? (d : Data) : Option TimerItem :=
  match fieldValues? ["name", "quantity", "isAsync"] d with
  | some [name, quantity, background] => do
    return {
      name := ← optional text? name
      quantity := ← optional (Quantity.ofData? true) quantity
      background := ← defaulted false bool? background }
  | _ => none

/-- Decode a temperature. -/
def TemperatureItem.ofData? (d : Data) : Option TemperatureItem :=
  match fieldValues? ["name", "quantity"] d with
  | some [name, quantity] => do
    return {
      name := ← optional text? name
      quantity := ← optional (Quantity.ofData? true) quantity }
  | _ => none

/-- Decode a comment. -/
def Comment.ofData? (d : Data) : Option Comment :=
  match fieldValues? ["value", "kind"] d with
  | some [value, kind] => do
    return {
      value := ← required text? value
      kind := ← defaulted .line (word? [("line", .line), ("block", .block)]) kind }
  | _ => none

/-- Decode the name that is the only field of a node. -/
def declarationOfData? (d : Data) : Option String :=
  match fieldValues? ["name"] d with
  | some [name] => required text? name
  | _ => none

/-- The kinds of items. -/
def itemKinds : List String :=
  ["Ingredient", "Cookware", "Reference", "Alternative", "Timer", "Temperature", "Text", "Comment",
    "IntermediateDecl"]

/-- Decode an item, descending a number of levels. -/
def Item.ofData? : Nat → Data → Option Item
  | 0, _ => none
  | level + 1, d =>
    match kindOf? true itemKinds d with
    | some ("Ingredient", rest) => (IngredientItem.ofData? rest).map .ingredient
    | some ("Cookware", rest) => (CookwareItem.ofData? rest).map .cookware
    | some ("Reference", rest) => (Mention.ofData? rest).map .mention
    | some ("Alternative", rest) =>
      match fieldValues? ["options"] rest with
      | some [options] => (defaulted [] (list? (Item.ofData? level)) options).map .alternative
      | _ => none
    | some ("Timer", rest) => (TimerItem.ofData? rest).map .timer
    | some ("Temperature", rest) => (TemperatureItem.ofData? rest).map .temperature
    | some ("Text", rest) =>
      match fieldValues? ["value"] rest with
      | some [value] => (required text? value).map .text
      | _ => none
    | some ("Comment", rest) => (Comment.ofData? rest).map .comment
    | some ("IntermediateDecl", rest) => (declarationOfData? rest).map .declaration
    | _ => none

/-- The kinds of blocks. -/
def blockKinds : List String :=
  ["Section", "Step", "Comment"]

/-- Decode a block, descending a number of levels. -/
def Block.ofData? (inside : Bool) : Nat → Data → Option Block
  | 0, _ => none
  | level + 1, d =>
    match kindOf? inside blockKinds d with
    | some ("Section", rest) =>
      match fieldValues? ["title", "retroPlanning", "intermediateDecl", "children"] rest with
      | some [title, retroPlanning, produces, children] => do
        let header : SectionHeader := {
          title := ← optional text? title
          retroPlanning := ← optional text? retroPlanning
          produces := ← optional declarationOfData? produces }
        return .section header (← defaulted [] (list? (Block.ofData? true level)) children)
      | _ => none
    | some ("Step", rest) =>
      match fieldValues? ["action", "children"] rest with
      | some [action, items] => do
        return .step {
          action := ← optional text? action
          items := ← defaulted [] (list? (Item.ofData? level)) items }
      | _ => none
    | some ("Comment", rest) => (Comment.ofData? rest).map .comment
    | _ => none

/-- The fields of the root. -/
def recipeFields : List String :=
  ["type", "meta", "children"]

/-- Decode a document. -/
def Recipe.ofData? (d : Data) : Option Recipe :=
  match fieldValues? recipeFields d with
  | some [kind, info, children] => do
    return {
      kind := ← required text? kind
      info := ← defaulted Dictionary.empty metaOfData? info
      children := ← defaulted [] (list? (Block.ofData? false d.depth)) children }
  | _ => none

end Mise
