import Mise.Proofs.Document.Field

/-!
# Notes in a Document

Tools may leave notes in a document: fields that the part they stand in does not have. A note makes
no difference. Wherever it is put, in the root or at any depth, and whatever it holds, the document
is accepted as before, and as the same document, or refused as before.

Where a note may be put, and under which names, depends on what is expected there. A note deep
inside is followed upwards: a part is read alike if the parts in its fields are, and this is shown
for each decoder once.

## Main definitions

* `AddsNote`: A note is put into a part, or into a part within it.

## Theorems

* `optional_agree`, `defaulted_agree`: A field is read alike if the parts that it holds are.
* `Part.alike_of_differs`: A part is read alike if the parts in its fields are.
* `AddsNote.alike`: A part is read alike with a note and without it.
* `Recipe.read_with_note`: A note makes no difference.
-/

namespace Mise

open Decode

/-- An optional part is read alike. -/
theorem optional_agree {α : Type} {decode : Data → Option α} {part : Part}
    {value value' : Option Data} (h : (Held.node part).Agree value value')
    (hdecode : ∀ x x', part.Alike x x' → decode x = decode x') :
    Decode.optional decode value = Decode.optional decode value' := by
  cases h with
  | same => rfl
  | alike alike =>
      cases alike with
      | node hx hx' alike =>
          -- Neither value is the `null` of an absent one.
          rw [Decode.optional, Decode.optional, hdecode _ _ alike]
          · exact hx'
          · exact hx

/-- A list of parts is read alike. -/
theorem defaulted_agree {α : Type} {decode : Data → Option α} {part : Part}
    {value value' : Option Data} (h : (Held.nodes part).Agree value value')
    (hdecode : ∀ x x', part.Alike x x' → decode x = decode x') :
    defaulted [] (list? decode) value = defaulted [] (list? decode) value' := by
  cases h with
  | same => rfl
  | alike alike =>
      cases alike with
      | nodes alike =>
          rw [defaulted, defaulted, list?, list?, List.mapM_append, List.mapM_append,
            List.mapM_cons, List.mapM_cons, hdecode _ _ alike]

theorem optional_quantity_agree {value value' : Option Data}
    (h : (Held.node .quantity).Agree value value') :
    Decode.optional (Quantity.ofData? true) value
      = Decode.optional (Quantity.ofData? true) value' :=
  optional_agree h fun _ _ alike => alike

-- Each of the following takes apart the values of the fields, in their order: those that hold parts
-- are read alike, and the others are equal.

theorem Measured.ofData?_alike {d d' : Data} (h : measuredForm.Alike d d') :
    Measured.ofData? d = Measured.ofData? d' := by
  rw [Measured.ofData?, Measured.ofData?]
  rcases h.values ["value", "unit", "fixed"] rfl with ⟨hd, hd'⟩ | ⟨_, _, hd, hd', agree⟩
  · rw [hd, hd']
  · rcases agree with _ | ⟨value, _ | ⟨unit, _ | ⟨fixed, _ | _⟩⟩⟩
    rw [hd, hd']
    simp only [optional_agree value fun _ _ h => h, unit.eq, fixed.eq]

theorem Comment.ofData?_alike {d d' : Data} (h : commentForm.Alike d d') :
    Comment.ofData? d = Comment.ofData? d' := by
  rw [Comment.ofData?, Comment.ofData?, h.eq_of_plain ["value", "kind"] rfl (by decide)]

theorem declarationOfData?_alike {d d' : Data} (h : declarationForm.Alike d d') :
    declarationOfData? d = declarationOfData? d' := by
  rw [declarationOfData?, declarationOfData?, h.eq_of_plain ["name"] rfl (by decide)]

theorem Origin.ofData?_alike {d d' : Data} (h : originForm.Alike d d') :
    Origin.ofData? d = Origin.ofData? d' := by
  rw [Origin.ofData?, Origin.ofData?]
  rcases h.values ["parent", "quantity"] rfl with ⟨hd, hd'⟩ | ⟨_, _, hd, hd', agree⟩
  · rw [hd, hd']
  · rcases agree with _ | ⟨parent, _ | ⟨quantity, _ | _⟩⟩
    rw [hd, hd']
    simp only [parent.eq, optional_agree quantity fun _ _ h => h]

theorem Bounds.ofData?_alike {d d' : Data} (h : boundsForm.Alike d d') :
    Bounds.ofData? d = Bounds.ofData? d' := by
  rw [Bounds.ofData?, Bounds.ofData?, h.eq_of_plain ["min", "max"] rfl (by decide)]

theorem Recipe.within?_alike {d d' : Data} (h : recipeForm.Alike d d') (level : Nat) :
    Recipe.within? level d = Recipe.within? level d' := by
  rw [Recipe.within?, Recipe.within?]
  rcases h.values recipeFields rfl with ⟨hd, hd'⟩ | ⟨_, _, hd, hd', agree⟩
  · rw [hd, hd']
  · rcases agree with _ | ⟨kind, _ | ⟨info, _ | ⟨children, _ | _⟩⟩⟩
    rw [hd, hd']
    simp only [kind.eq, info.eq, defaulted_agree children fun _ _ h => h level]

theorem Figure.ofData?_differs {d d' : Data} (h : (Part.figure.form d).Differs d d') :
    Figure.ofData? true d = Figure.ofData? true d' := by
  rw [Figure.ofData?, Figure.ofData?]
  rcases kindOf_differs figureForm_nodup h with ⟨hd, hd'⟩ | ⟨kind, rest, rest', hd, hd', alike⟩
  · rw [hd, hd']
  · rw [hd, hd']
    have hkind := kindOf_mem hd
    simp only [List.mem_cons, List.not_mem_nil, or_false] at hkind
    rcases hkind with rfl | rfl | rfl | rfl
    · simp only [alike.eq_of_plain ["value", "text"] rfl (by decide)]
    · simp only [alike.eq_of_plain ["value", "numerator", "denominator", "text"] rfl (by decide)]
    · -- Of all figures only a range has a part in it.
      rcases alike.values ["value", "range", "text"] rfl with ⟨hr, hr'⟩ | ⟨_, _, hr, hr', agree⟩
      · simp only [hr, hr']
      · rcases agree with _ | ⟨value, _ | ⟨bounds, _ | ⟨text, _ | _⟩⟩⟩
        simp only [hr, hr', value.eq, optional_agree bounds fun _ _ h => h, text.eq]
    · simp only [alike.eq_of_plain ["value"] rfl (by decide)]

theorem Quantity.ofData?_differs {d d' : Data} (h : (Part.quantity.form d).Differs d d') :
    Quantity.ofData? true d = Quantity.ofData? true d' := by
  rw [Quantity.ofData?, Quantity.ofData?]
  rcases kindOf_differs quantityForm_nodup h with ⟨hd, hd'⟩ | ⟨kind, rest, rest', hd, hd', alike⟩
  · rw [hd, hd']
  · rw [hd, hd']
    have hkind := kindOf_mem hd
    simp only [List.mem_cons, List.not_mem_nil, or_false] at hkind
    rcases hkind with rfl | rfl | rfl
    · simp only [Measured.ofData?_alike alike]
    · simp only [Share.ofData?, alike.eq_of_plain ["percent", "target", "referenceType"] rfl
        (by decide)]
    · simp only [alike.eq_of_plain ["value"] rfl (by decide)]

theorem IngredientItem.ofData?_alike {d d' : Data} (h : (itemForm "Ingredient").Alike d d') :
    IngredientItem.ofData? d = IngredientItem.ofData? d' := by
  rw [IngredientItem.ofData?, IngredientItem.ofData?]
  rcases h.values ["name", "modifiers", "quantity", "alias", "preparation", "composite"] rfl with
    ⟨hd, hd'⟩ | ⟨_, _, hd, hd', agree⟩
  · rw [hd, hd']
  · rcases agree with _ | ⟨name, _ | ⟨modifiers, _ | ⟨quantity, _ | ⟨nickname, _ | ⟨preparation,
      _ | ⟨origin, _ | _⟩⟩⟩⟩⟩⟩
    rw [hd, hd']
    simp only [name.eq, modifiers.eq, optional_quantity_agree quantity, nickname.eq, preparation.eq,
      optional_agree origin fun _ _ h => h]

theorem CookwareItem.ofData?_alike {d d' : Data} (h : (itemForm "Cookware").Alike d d') :
    CookwareItem.ofData? d = CookwareItem.ofData? d' := by
  rw [CookwareItem.ofData?, CookwareItem.ofData?]
  rcases h.values ["name", "modifiers", "alias", "quantity", "preparation"] rfl with
    ⟨hd, hd'⟩ | ⟨_, _, hd, hd', agree⟩
  · rw [hd, hd']
  · rcases agree with _ | ⟨name, _ | ⟨modifiers, _ | ⟨nickname, _ | ⟨quantity, _ | ⟨preparation,
      _ | _⟩⟩⟩⟩⟩
    rw [hd, hd']
    simp only [name.eq, modifiers.eq, nickname.eq, optional_quantity_agree quantity, preparation.eq]

theorem Mention.ofData?_alike {d d' : Data} (h : (itemForm "Reference").Alike d d') :
    Mention.ofData? d = Mention.ofData? d' := by
  rw [Mention.ofData?, Mention.ofData?]
  rcases h.values ["name", "quantity"] rfl with ⟨hd, hd'⟩ | ⟨_, _, hd, hd', agree⟩
  · rw [hd, hd']
  · rcases agree with _ | ⟨name, _ | ⟨quantity, _ | _⟩⟩
    rw [hd, hd']
    simp only [name.eq, optional_quantity_agree quantity]

theorem TimerItem.ofData?_alike {d d' : Data} (h : (itemForm "Timer").Alike d d') :
    TimerItem.ofData? d = TimerItem.ofData? d' := by
  rw [TimerItem.ofData?, TimerItem.ofData?]
  rcases h.values ["name", "quantity", "isAsync"] rfl with ⟨hd, hd'⟩ | ⟨_, _, hd, hd', agree⟩
  · rw [hd, hd']
  · rcases agree with _ | ⟨name, _ | ⟨quantity, _ | ⟨background, _ | _⟩⟩⟩
    rw [hd, hd']
    simp only [name.eq, optional_quantity_agree quantity, background.eq]

theorem TemperatureItem.ofData?_alike {d d' : Data} (h : (itemForm "Temperature").Alike d d') :
    TemperatureItem.ofData? d = TemperatureItem.ofData? d' := by
  rw [TemperatureItem.ofData?, TemperatureItem.ofData?]
  rcases h.values ["name", "quantity"] rfl with ⟨hd, hd'⟩ | ⟨_, _, hd, hd', agree⟩
  · rw [hd, hd']
  · rcases agree with _ | ⟨name, _ | ⟨quantity, _ | _⟩⟩
    rw [hd, hd']
    simp only [name.eq, optional_quantity_agree quantity]

theorem Item.ofData?_differs {d d' : Data} (h : (Part.item.form d).Differs d d') (level : Nat) :
    Item.ofData? level d = Item.ofData? level d' := by
  cases level with
  | zero => rfl
  | succ level =>
      rw [Item.ofData?, Item.ofData?]
      rcases kindOf_differs itemForm_nodup h with ⟨hd, hd'⟩ | ⟨kind, rest, rest', hd, hd', alike⟩
      · rw [hd, hd']
      · rw [hd, hd']
        have hkind := kindOf_mem hd
        simp only [itemKinds, List.mem_cons, List.not_mem_nil, or_false] at hkind
        rcases hkind with rfl | rfl | rfl | rfl | rfl | rfl | rfl | rfl | rfl
        · simp only [IngredientItem.ofData?_alike alike]
        · simp only [CookwareItem.ofData?_alike alike]
        · simp only [Mention.ofData?_alike alike]
        · -- The options are items themselves, one level further down.
          rcases alike.values ["options"] rfl with ⟨hr, hr'⟩ | ⟨_, _, hr, hr', agree⟩
          · simp only [hr, hr']
          · rcases agree with _ | ⟨options, _ | _⟩
            simp only [hr, hr', defaulted_agree options fun _ _ h => h level]
        · simp only [TimerItem.ofData?_alike alike]
        · simp only [TemperatureItem.ofData?_alike alike]
        · simp only [alike.eq_of_plain ["value"] rfl (by decide)]
        · simp only [Comment.ofData?_alike alike]
        · simp only [declarationOfData?_alike alike]

theorem Block.ofData?_differs {inside : Bool} {d d' : Data}
    (h : ((Part.block inside).form d).Differs d d') (level : Nat) :
    Block.ofData? inside level d = Block.ofData? inside level d' := by
  cases level with
  | zero => rfl
  | succ level =>
      rw [Block.ofData?, Block.ofData?]
      rcases kindOf_differs blockForm_nodup h with ⟨hd, hd'⟩ | ⟨kind, rest, rest', hd, hd', alike⟩
      · rw [hd, hd']
      · rw [hd, hd']
        have hkind := kindOf_mem hd
        simp only [blockKinds, List.mem_cons, List.not_mem_nil, or_false] at hkind
        rcases hkind with rfl | rfl | rfl
        · rcases alike.values ["title", "retroPlanning", "intermediateDecl", "children"] rfl with
            ⟨hr, hr'⟩ | ⟨_, _, hr, hr', agree⟩
          · simp only [hr, hr']
          · rcases agree with _ | ⟨title, _ | ⟨retroPlanning, _ | ⟨produces, _ | ⟨children,
              _ | _⟩⟩⟩⟩
            simp only [hr, hr', title.eq, retroPlanning.eq, optional_agree produces fun _ _ h => h,
              defaulted_agree children fun _ _ h => h level]
        · rcases alike.values ["action", "children"] rfl with ⟨hr, hr'⟩ | ⟨_, _, hr, hr', agree⟩
          · simp only [hr, hr']
          · rcases agree with _ | ⟨action, _ | ⟨items, _ | _⟩⟩
            simp only [hr, hr', action.eq, defaulted_agree items fun _ _ h => h level]
        · simp only [Comment.ofData?_alike alike]

/-- A part is read alike if it differs in a field that it does not have, or in one that is read
    alike. -/
theorem Part.alike_of_differs {part : Part} {d d' : Data} (h : (part.form d).Differs d d') :
    part.Alike d d' := by
  cases part with
  | recipe => exact Recipe.within?_alike (fieldValues_differs (by decide) h)
  | block inside => exact Block.ofData?_differs h
  | item => exact Item.ofData?_differs h
  | declaration => exact declarationOfData?_alike (fieldValues_differs (by decide) h)
  | quantity => exact Quantity.ofData?_differs h
  | measured => exact Measured.ofData?_alike (fieldValues_differs (by decide) h)
  | origin => exact Origin.ofData?_alike (fieldValues_differs (by decide) h)
  | figure => exact Figure.ofData?_differs h
  | bounds => exact Bounds.ofData?_alike (fieldValues_differs (by decide) h)

/-- A note is put into a part: a field with a name that no field of the part has. Or it is put into
    a part that one of the fields holds, alone or in a list. -/
inductive AddsNote : Part → Data → Data → Prop
  | note {part : Part} {name : String} {fields fields' : List (String × Data)}
      (inserted : Inserts name fields fields')
      (foreign : name ∉ (part.form (.record fields)).names) :
      AddsNote part (.record fields) (.record fields')
  | node {part child : Part} {x x' d d' : Data}
      (swapped : Swaps (part.form d) (.node child) x x' d d') (inner : AddsNote child x x') :
      AddsNote part d d'
  | nodes {part child : Part} {x x' d d' : Data} {items more : List Data}
      (swapped : Swaps (part.form d) (.nodes child) (.list (items ++ x :: more))
        (.list (items ++ x' :: more)) d d')
      (inner : AddsNote child x x') : AddsNote part d d'

theorem AddsNote.ne_null {part : Part} {d d' : Data} (h : AddsNote part d d') :
    d ≠ .null ∧ d' ≠ .null := by
  cases h with
  | note inserted foreign => exact ⟨nofun, nofun⟩
  | node swapped inner => cases swapped <;> exact ⟨nofun, nofun⟩
  | nodes swapped inner => cases swapped <;> exact ⟨nofun, nofun⟩

-- The induction is on how deep the note lies: what is read alike within a part is one field of the
-- part, and all the others are as they were.
theorem AddsNote.alike {part : Part} {d d' : Data} (h : AddsNote part d d') : part.Alike d d' := by
  induction h with
  | note inserted foreign => exact Part.alike_of_differs (.note inserted foreign)
  | node swapped inner ih =>
      rcases inner.ne_null with ⟨hx, hx'⟩
      exact Part.alike_of_differs (.swap swapped (.node hx hx' ih))
  | nodes swapped inner ih => exact Part.alike_of_differs (.swap swapped (.nodes ih))

/-- A note makes no difference: whatever data a field is added to, at any depth, they are refused
    as a document as before or accepted as the same document. -/
theorem Recipe.read_with_note {d d' : Data} (h : AddsNote .recipe d d') :
    Recipe.ofData? d' = Recipe.ofData? d := by
  -- The data may be deeper with the note than without it.
  rw [Recipe.ofData?_eq_within (Nat.le_max_left d'.depth d.depth),
    Recipe.ofData?_eq_within (Nat.le_max_right d'.depth d.depth)]
  exact (h.alike _).symm

/-- The ends of a range. -/
def plainBounds : Data :=
  .record [("min", .int 2), ("max", .int 3)]

/-- The ends of a range with a note between them. -/
def notedBounds : Data :=
  .record [("min", .int 2), ("source", .list [.null, .record []]), ("max", .int 3)]

/-- A range with the given ends. -/
def rangeFigure (bounds : Data) : Data :=
  .record [("type", .text "range"), ("value", .number 2.5), ("range", bounds)]

/-- A quantity that is written as a list, with a number for its kind. -/
def spoonfuls (figure : Data) : Data :=
  .list [.int 0, figure, .text "tbsp"]

/-- A document with some oil in its only step. -/
def oilDocument (quantity : Data) : Data :=
  .record [("type", .text "Recipe"), ("children", .list [.record [("type", .text "Step"),
    ("children", .list [
      .record [("name", .text "oil"), ("type", .text "Ingredient"), ("quantity", quantity)],
      .record [("type", .text "Text"), ("value", .text ", warm")]])]])]

theorem oilDocument_addsNote :
    AddsNote .recipe (oilDocument (spoonfuls (rangeFigure plainBounds)))
        (oilDocument (spoonfuls (rangeFigure notedBounds)))
      ∧ (Recipe.ofData? (oilDocument (spoonfuls (rangeFigure plainBounds)))).isSome
      ∧ Recipe.ofData? (oilDocument (spoonfuls (rangeFigure notedBounds)))
        = Recipe.ofData? (oilDocument (spoonfuls (rangeFigure plainBounds))) := by
  have hbounds : AddsNote .bounds plainBounds notedBounds :=
    .note ⟨[_], [_], _, rfl, .inl rfl⟩ (by decide)
  have hfigure : AddsNote .figure (rangeFigure plainBounds) (rangeFigure notedBounds) :=
    .node (@Swaps.named _ _ _ _ "range" [_, _] [] (by decide)) hbounds
  have hquantity : AddsNote .quantity (spoonfuls (rangeFigure plainBounds))
      (spoonfuls (rangeFigure notedBounds)) :=
    .node (@Swaps.placed _ _ _ _ "value" [_] [_] (by decide)) hfigure
  have hdocument : AddsNote .recipe (oilDocument (spoonfuls (rangeFigure plainBounds)))
      (oilDocument (spoonfuls (rangeFigure notedBounds))) := by
    refine @AddsNote.nodes _ (.block false) _ _ _ _ [] []
      (@Swaps.named _ _ _ _ "children" [_] [] (by decide)) ?_
    refine @AddsNote.nodes _ .item _ _ _ _ [] [_]
      (@Swaps.named _ _ _ _ "children" [_] [] (by decide)) ?_
    exact .node (@Swaps.named _ _ _ _ "quantity" [_, _] [] (by decide)) hquantity
  exact ⟨hdocument, rfl, Recipe.read_with_note hdocument⟩

end Mise
