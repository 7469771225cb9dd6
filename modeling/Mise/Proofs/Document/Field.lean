import Mise.Proofs.Document.Level
import Mathlib.Data.List.Nodup

/-!
# The Fields of a Document

The format of documents as a table: the fields that each part has, in order, and what each of them
holds. Some parts come in kinds, with fields of their own, and the kind is a field like the others.

Two pieces of data are compared field by field. They may differ in a field that the part does not
have, and then all its fields have the same values. Or they may differ in what one field holds, be
it named in a record or placed in a list, and then the values of all other fields are the same. The
kind of a part is not affected by either, since it holds no part and is a field of every part that
comes in kinds.

The data may be of different depths, and so the decoders are compared at every number of levels.

## Main definitions

* `Part`, `Held`, `Part.form`: The parts of a document and their fields.
* `Inserts`: A field is put into a record, or over the one of its name.
* `Swaps`: What a field holds is exchanged.
* `Part.Alike`, `Form.Alike`: Data that are not told apart, as a part and as its fields.
* `Form.Differs`: Data that differ in one field.

## Theorems

* `fieldValues_differs`: What a change to one field leaves of the others.
* `kindOf_differs`: The kind of a part stays, and the fields of this kind are as before.
* `Form.Alike.values`, `Form.Alike.eq_of_plain`: The values of the fields, one by one.
-/

namespace Mise

open Decode

/-- What has fields in a document. A block inside another may give its kind by a number. -/
inductive Part where
  | recipe
  | block (inside : Bool)
  | item
  | declaration
  | quantity
  | measured
  | origin
  | figure
  | bounds
  deriving DecidableEq

/-- What a field holds: nothing that has fields, a part, or a list of parts. -/
inductive Held where
  | plain
  | node (part : Part)
  | nodes (part : Part)
  deriving DecidableEq

/-- The fields of a part, in order. -/
abbrev Form :=
  List (String × Held)

/-- The names of the fields. -/
def Form.names (form : Form) : List String :=
  form.map Prod.fst

/-- The fields of a measured quantity. -/
def measuredForm : Form :=
  [("value", .node .figure), ("unit", .plain), ("fixed", .plain)]

/-- The fields of the ends of a range. -/
def boundsForm : Form :=
  [("min", .plain), ("max", .plain)]

/-- The fields of a parent item. -/
def originForm : Form :=
  [("parent", .plain), ("quantity", .node .measured)]

/-- The field of a declared name. -/
def declarationForm : Form :=
  [("name", .plain)]

/-- The fields of a comment. -/
def commentForm : Form :=
  [("value", .plain), ("kind", .plain)]

/-- The fields of a figure, by its kind. -/
def figureForm : String → Form
  | "single" => [("value", .plain), ("text", .plain)]
  | "fraction" =>
    [("value", .plain), ("numerator", .plain), ("denominator", .plain), ("text", .plain)]
  | "range" => [("value", .plain), ("range", .node .bounds), ("text", .plain)]
  | "text" => [("value", .plain)]
  | _ => []

/-- The fields of a quantity, by its kind. -/
def quantityForm : String → Form
  | "Quantity" => measuredForm
  | "RelativeQuantity" => [("percent", .plain), ("target", .plain), ("referenceType", .plain)]
  | "TextQuantity" => [("value", .plain)]
  | _ => []

/-- The fields of an item, by its kind. -/
def itemForm : String → Form
  | "Ingredient" =>
    [("name", .plain), ("modifiers", .plain), ("quantity", .node .quantity), ("alias", .plain),
      ("preparation", .plain), ("composite", .node .origin)]
  | "Cookware" =>
    [("name", .plain), ("modifiers", .plain), ("alias", .plain), ("quantity", .node .quantity),
      ("preparation", .plain)]
  | "Reference" => [("name", .plain), ("quantity", .node .quantity)]
  | "Alternative" => [("options", .nodes .item)]
  | "Timer" => [("name", .plain), ("quantity", .node .quantity), ("isAsync", .plain)]
  | "Temperature" => [("name", .plain), ("quantity", .node .quantity)]
  | "Text" => [("value", .plain)]
  | "Comment" => commentForm
  | "IntermediateDecl" => declarationForm
  | _ => []

/-- The fields of a block, by its kind. -/
def blockForm : String → Form
  | "Section" =>
    [("title", .plain), ("retroPlanning", .plain), ("intermediateDecl", .node .declaration),
      ("children", .nodes (.block true))]
  | "Step" => [("action", .plain), ("children", .nodes .item)]
  | "Comment" => commentForm
  | _ => []

/-- The fields of the root. -/
def recipeForm : Form :=
  [("type", .plain), ("meta", .plain), ("children", .nodes (.block false))]

/-- The kind of a part, and the fields that this kind has. -/
def taggedForm (inside : Bool) (kinds : List String) (forms : String → Form) (d : Data) : Form :=
  ("type", .plain) ::
    match kindOf? inside kinds d with
    | some (kind, _) => forms kind
    | none => []

/-- The fields of a part that is written as the given data. -/
def Part.form : Part → Data → Form
  | .recipe, _ => recipeForm
  | .block inside, d => taggedForm inside blockKinds blockForm d
  | .item, d => taggedForm true itemKinds itemForm d
  | .declaration, _ => declarationForm
  | .quantity, d =>
    taggedForm true ["Quantity", "RelativeQuantity", "TextQuantity"] quantityForm d
  | .measured, _ => measuredForm
  | .origin, _ => originForm
  | .figure, d => taggedForm true ["single", "fraction", "range", "text"] figureForm d
  | .bounds, _ => boundsForm

/-- A field is put into a record somewhere, or in the place of one that has its name. -/
def Inserts (name : String) (fields fields' : List (String × Data)) : Prop :=
  ∃ before after value, fields' = before ++ (name, value) :: after
    ∧ (fields = before ++ after ∨ ∃ old, fields = before ++ (name, old) :: after)

/-- The value of a field that holds a given sort of thing is exchanged for another one, be it in a
    record or in the list of the fields in their order. -/
inductive Swaps (form : Form) (held : Held) (x x' : Data) : Data → Data → Prop
  | named {name : String} {before after : List (String × Data)} (field : (name, held) ∈ form) :
      Swaps form held x x' (.record (before ++ (name, x) :: after))
        (.record (before ++ (name, x') :: after))
  | placed {name : String} {before after : List Data}
      (field : form[before.length]? = some (name, held)) :
      Swaps form held x x' (.list (before ++ x :: after)) (.list (before ++ x' :: after))

/-- Data that the decoder of a part does not tell apart. -/
def Part.Alike : Part → Data → Data → Prop
  | .recipe, d, d' => ∀ level, Recipe.within? level d = Recipe.within? level d'
  | .block inside, d, d' => ∀ level, Block.ofData? inside level d = Block.ofData? inside level d'
  | .item, d, d' => ∀ level, Item.ofData? level d = Item.ofData? level d'
  | .declaration, d, d' => declarationOfData? d = declarationOfData? d'
  | .quantity, d, d' => Quantity.ofData? true d = Quantity.ofData? true d'
  | .measured, d, d' => Measured.ofData? d = Measured.ofData? d'
  | .origin, d, d' => Origin.ofData? d = Origin.ofData? d'
  | .figure, d, d' => Figure.ofData? true d = Figure.ofData? true d'
  | .bounds, d, d' => Bounds.ofData? d = Bounds.ofData? d'

/-- Two values of one field that differ in a part, which is read alike in both. -/
inductive Held.Alike : Held → Data → Data → Prop
  | node {part : Part} {x x' : Data} (hx : x ≠ .null) (hx' : x' ≠ .null)
      (alike : part.Alike x x') : Alike (.node part) x x'
  | nodes {part : Part} {x x' : Data} {items more : List Data} (alike : part.Alike x x') :
      Alike (.nodes part) (.list (items ++ x :: more)) (.list (items ++ x' :: more))

/-- Two values of one field, each present or absent, that are the same or read alike. -/
inductive Held.Agree (held : Held) : Option Data → Option Data → Prop
  | same {value : Option Data} : Agree held value value
  | alike {x x' : Data} (h : held.Alike x x') : Agree held (some x) (some x')

/-- The values of all fields agree. -/
inductive Form.Agree : Form → List (Option Data) → List (Option Data) → Prop
  | nil : Agree [] [] []
  | cons {name : String} {held : Held} {form : Form} {value value' : Option Data}
      {values values' : List (Option Data)} (head : held.Agree value value')
      (tail : Agree form values values') :
      Agree ((name, held) :: form) (value :: values) (value' :: values')

/-- Two ways to write the same fields. -/
def Form.Alike (form : Form) (d d' : Data) : Prop :=
  Option.Rel form.Agree (fieldValues? form.names d) (fieldValues? form.names d')

/-- Data that differ in a field that the form does not have, or in one that is read alike. -/
inductive Form.Differs (form : Form) : Data → Data → Prop
  | note {name : String} {fields fields' : List (String × Data)}
      (inserted : Inserts name fields fields') (foreign : name ∉ form.names) :
      Differs form (.record fields) (.record fields')
  | swap {held : Held} {x x' d d' : Data} (swapped : Swaps form held x x' d d')
      (alike : held.Alike x x') : Differs form d d'

theorem Form.agree_refl {form : Form} {values : List (Option Data)}
    (h : form.length = values.length) : form.Agree values values := by
  induction form generalizing values with
  | nil =>
      cases values with
      | nil => exact .nil
      | cons value values => exact absurd h.symm (Nat.succ_ne_zero _)
  | cons entry form ih =>
      cases values with
      | nil => exact absurd h (Nat.succ_ne_zero _)
      | cons value values => exact .cons .same (ih (Nat.succ.inj h))

theorem Form.agree_placed {form : Form} {before after : List (Option Data)} {x x' : Data}
    {name : String} {held : Held} (hlen : form.length = (before ++ some x :: after).length)
    (field : form[before.length]? = some (name, held)) (alike : held.Alike x x') :
    form.Agree (before ++ some x :: after) (before ++ some x' :: after) := by
  induction before generalizing form with
  | nil =>
      cases form with
      | nil => exact absurd hlen.symm (Nat.succ_ne_zero _)
      | cons entry form =>
          cases field
          exact .cons (.alike alike) (agree_refl (Nat.succ.inj hlen))
  | cons value before ih =>
      cases form with
      | nil => exact absurd hlen.symm (Nat.succ_ne_zero _)
      | cons entry form => exact .cons .same (ih (Nat.succ.inj hlen) field)

/-- Fields that hold no parts are the same if they agree. -/
theorem Form.eq_of_agree {form : Form} {values values' : List (Option Data)}
    (plain : ∀ entry ∈ form, entry.2 = .plain) (h : form.Agree values values') :
    values = values' := by
  induction h with
  | nil => rfl
  | cons head tail ih =>
      rcases List.forall_mem_cons.1 plain with ⟨hheld, hrest⟩
      rw [ih hrest]
      cases head with
      | same => rfl
      | alike alike =>
          cases hheld
          cases alike

theorem Form.mapM_agree {form : Form} {f g : String → Option (Option Data)}
    (h : ∀ entry ∈ form, Option.Rel entry.2.Agree (f entry.1) (g entry.1)) :
    Option.Rel form.Agree (form.names.mapM f) (form.names.mapM g) := by
  induction form with
  | nil => exact .some .nil
  | cons entry form ih =>
      rcases List.forall_mem_cons.1 h with ⟨hentry, hrest⟩
      rw [Form.names, List.map_cons, List.mapM_cons, List.mapM_cons]
      generalize f entry.1 = v at hentry ⊢
      generalize g entry.1 = v' at hentry ⊢
      cases hentry with
      | none => exact .none
      | some hvalue =>
          have hvalues := ih hrest
          rw [Form.names] at hvalues
          generalize (List.map Prod.fst form).mapM f = vs at hvalues ⊢
          generalize (List.map Prod.fst form).mapM g = vs' at hvalues ⊢
          cases hvalues with
          | none => exact .none
          | some hvalues => exact .some (.cons hvalue hvalues)

/-- A test that a field fails does not see it inserted. -/
theorem Inserts.filter_eq {name : String} {fields fields' : List (String × Data)}
    (h : Inserts name fields fields') {p : String × Data → Bool}
    (hp : ∀ value, p (name, value) = false) : fields.filter p = fields'.filter p := by
  have hneg : ∀ value, ¬p (name, value) = true := fun value => Bool.eq_false_iff.1 (hp value)
  rcases h with ⟨before, after, value, rfl, rfl | ⟨old, rfl⟩⟩
  · rw [List.filter_append, List.filter_append, List.filter_cons_of_neg (hneg value)]
  · rw [List.filter_append, List.filter_append, List.filter_cons_of_neg (hneg value),
      List.filter_cons_of_neg (hneg old)]

theorem Inserts.filter {name : String} {fields fields' : List (String × Data)}
    (h : Inserts name fields fields') {p : String × Data → Bool}
    (hp : ∀ value, p (name, value) = true) : Inserts name (fields.filter p) (fields'.filter p) := by
  rcases h with ⟨before, after, value, rfl, hfields⟩
  refine ⟨before.filter p, after.filter p, value, ?_, ?_⟩
  · rw [List.filter_append, List.filter_cons_of_pos (hp value)]
  · rcases hfields with rfl | ⟨old, rfl⟩
    · exact .inl (List.filter_append before after)
    · refine .inr ⟨old, ?_⟩
      rw [List.filter_append, List.filter_cons_of_pos (hp old)]

theorem Inserts.fieldValue_eq {name other : String} {fields fields' : List (String × Data)}
    (h : Inserts name fields fields') (hne : name ≠ other) :
    fieldValue? fields other = fieldValue? fields' other := by
  have hfilter := h.filter_eq (p := fun f => f.1 == other) fun _ => beq_false_of_ne hne
  rw [fieldValue?, fieldValue?, hfilter]

theorem Held.agree_refl {held : Held} (v : Option (Option Data)) : Option.Rel held.Agree v v := by
  cases v with
  | none => exact .none
  | some value => exact .some .same

/-- The field of a name, where the value of a field is exchanged for one that is read alike. -/
theorem fieldValue_swap {name other : String} {before after : List (String × Data)} {x x' : Data}
    {held : Held} (h : name = other → held.Alike x x') :
    Option.Rel held.Agree (fieldValue? (before ++ (name, x) :: after) other)
      (fieldValue? (before ++ (name, x') :: after) other) := by
  rw [fieldValue?, fieldValue?, List.filter_append, List.filter_append]
  by_cases hname : name = other
  · have heq : (name == other) = true := beq_iff_eq.2 hname
    rw [List.filter_cons_of_pos (a := (name, x)) heq, List.filter_cons_of_pos (a := (name, x')) heq]
    -- The value counts only if no other field has the name.
    generalize before.filter (fun f : String × Data => f.1 == other) = earlier
    generalize after.filter (fun f : String × Data => f.1 == other) = later
    rcases earlier with _ | ⟨first, _ | ⟨second, more⟩⟩
    · rcases later with _ | ⟨next, more⟩
      · exact .some (.alike (h hname))
      · exact .none
    · exact .none
    · exact .none
  · have hne : ¬(name == other) = true := fun hbeq => hname (beq_iff_eq.1 hbeq)
    rw [List.filter_cons_of_neg (a := (name, x)) hne, List.filter_cons_of_neg (a := (name, x')) hne]
    exact Held.agree_refl _

/-- A field holds one thing if the form has no name twice. -/
theorem Form.held_eq {form : Form} (hnodup : form.names.Nodup) {name : String} {held held' : Held}
    (h : (name, held) ∈ form) (h' : (name, held') ∈ form) : held = held' :=
  congrArg Prod.snd (List.inj_on_of_nodup_map hnodup h h' rfl)

/-- A change to a field that the form does not have, or to one that is read alike, leaves the same
    fields. -/
theorem fieldValues_differs {form : Form} {d d' : Data} (hnodup : form.names.Nodup)
    (h : form.Differs d d') : form.Alike d d' := by
  cases h with
  | @note name fields fields' inserted foreign =>
      refine Form.mapM_agree fun entry hentry => ?_
      have hne : name ≠ entry.1 := fun heq => foreign (heq ▸ List.mem_map_of_mem hentry)
      rw [inserted.fieldValue_eq hne]
      exact Held.agree_refl _
  | @swap held x x' d d' swapped alike =>
      cases swapped with
      | named field =>
          -- Only the entry of this name looks at the value, and there is one such entry.
          refine Form.mapM_agree fun entry hentry => fieldValue_swap fun hname => ?_
          subst hname
          exact Form.held_eq hnodup field hentry ▸ alike
      | @placed name before after field =>
          have hlen : (before ++ x' :: after).length = (before ++ x :: after).length := by
            rw [List.length_append, List.length_append, List.length_cons, List.length_cons]
          rw [Form.Alike, fieldValues?, fieldValues?, hlen]
          -- A list may end early, and then the fields that remain are absent.
          by_cases hle : (before ++ x :: after).length ≤ form.names.length
          · rw [if_pos hle, if_pos hle, List.map_append, List.map_append, List.map_cons,
              List.map_cons, List.append_assoc, List.append_assoc, List.cons_append,
              List.cons_append]
            have hfield : form[(before.map some).length]? = some (name, held) := by
              rw [List.length_map]
              exact field
            refine .some (Form.agree_placed ?_ hfield alike)
            simp only [Form.names, List.length_map, List.length_append, List.length_cons,
              List.length_replicate] at hle ⊢
            omega
          · rw [if_neg hle, if_neg hle]
            exact .none

theorem taggedForm_some {inside : Bool} {kinds : List String} {forms : String → Form}
    {d rest : Data} {kind : String} (h : kindOf? inside kinds d = some (kind, rest)) :
    taggedForm inside kinds forms d = ("type", .plain) :: forms kind := by
  rw [taggedForm, h]

theorem taggedForm_none {inside : Bool} {kinds : List String} {forms : String → Form} {d : Data}
    (h : kindOf? inside kinds d = none) :
    taggedForm inside kinds forms d = [("type", .plain)] := by
  rw [taggedForm, h]

theorem kindNamed_mem {inside : Bool} {kinds : List String} {d : Data} {kind : String}
    (h : kindNamed? inside kinds d = some kind) : kind ∈ kinds := by
  cases d with
  | text s =>
      rw [kindNamed?] at h
      by_cases hmem : kinds.contains s = true
      · rw [if_pos hmem] at h
        cases h
        exact List.contains_iff_mem.1 hmem
      · rw [if_neg hmem] at h
        cases h
  | int n =>
      rw [kindNamed?] at h
      by_cases hnum : inside = true ∧ 0 ≤ n
      · rw [if_pos hnum] at h
        exact List.mem_of_getElem? h
      · rw [if_neg hnum] at h
        cases h
  | _ => cases h

-- A decoder goes through the kinds one by one, and there is no other.
theorem kindOf_mem {inside : Bool} {kinds : List String} {d rest : Data} {kind : String}
    (h : kindOf? inside kinds d = some (kind, rest)) : kind ∈ kinds := by
  have hnamed : ∃ value, kindNamed? inside kinds value = some kind := by
    unfold kindOf? at h
    split at h
    · split at h
      case h_1 value _ =>
        rcases Option.map_eq_some_iff.1 h with ⟨found, hfound, heq⟩
        cases heq
        exact ⟨value, hfound⟩
      · cases h
    · rcases Option.map_eq_some_iff.1 h with ⟨found, hfound, heq⟩
      cases heq
      exact ⟨_, hfound⟩
    · cases h
  exact hnamed.elim fun _ => kindNamed_mem

/-- Records that name their kind alike are of the same kind or of none. -/
theorem kindOf_record {inside : Bool} {kinds : List String} {fields fields' : List (String × Data)}
    (h : fieldValue? fields "type" = fieldValue? fields' "type") :
    kindOf? inside kinds (.record fields) = none ∧ kindOf? inside kinds (.record fields') = none
      ∨ ∃ kind, kindOf? inside kinds (.record fields)
          = some (kind, .record (fields.filter fun f => f.1 != "type"))
        ∧ kindOf? inside kinds (.record fields')
          = some (kind, .record (fields'.filter fun f => f.1 != "type")) := by
  rw [kindOf?, kindOf?, ← h]
  rcases fieldValue? fields "type" with _ | _ | value
  · exact .inl ⟨rfl, rfl⟩
  · exact .inl ⟨rfl, rfl⟩
  · dsimp only
    cases kindNamed? inside kinds value with
    | none => exact .inl ⟨rfl, rfl⟩
    | some kind => exact .inr ⟨kind, rfl, rfl⟩

/-- The kind of a part is not affected, and the fields that the kind has are the same. -/
theorem kindOf_differs {inside : Bool} {kinds : List String} {forms : String → Form} {d d' : Data}
    (hforms : ∀ kind, ("type" :: (forms kind).names).Nodup)
    (h : (taggedForm inside kinds forms d).Differs d d') :
    kindOf? inside kinds d = none ∧ kindOf? inside kinds d' = none
      ∨ ∃ kind rest rest', kindOf? inside kinds d = some (kind, rest)
        ∧ kindOf? inside kinds d' = some (kind, rest') ∧ (forms kind).Alike rest rest' := by
  have hrest : ∀ {kind rest rest'}, (forms kind).Differs rest rest' →
      (forms kind).Alike rest rest' :=
    fun h => fieldValues_differs (List.nodup_cons.1 (hforms _)).2 h
  cases h with
  | @note name fields fields' inserted foreign =>
      have htype : name ≠ "type" := fun heq => foreign (heq ▸ List.mem_cons_self)
      have hfilter := inserted.filter (p := fun f => f.1 != "type") fun _ => bne_iff_ne.2 htype
      rcases kindOf_record (inserted.fieldValue_eq htype) with hnone | ⟨kind, hkind, hkind'⟩
      · exact .inl hnone
      · rw [taggedForm_some hkind] at foreign
        have hforeign : name ∉ (forms kind).names := fun h => foreign (List.mem_cons_of_mem _ h)
        exact .inr ⟨kind, _, _, hkind, hkind', hrest (.note hfilter hforeign)⟩
  | @swap held x x' d d' swapped alike =>
      -- The kind holds no part, so it is another field that is exchanged.
      have hheld : held ≠ .plain := by
        rintro rfl
        cases alike
      cases swapped with
      | @named name before after field =>
          have hfield : ∃ kind rest, kindOf? inside kinds (.record (before ++ (name, x) :: after))
              = some (kind, rest) ∧ (name, held) ∈ forms kind := by
            cases hkind : kindOf? inside kinds (.record (before ++ (name, x) :: after)) with
            | none =>
                rw [taggedForm_none hkind] at field
                exact absurd (congrArg Prod.snd (List.mem_singleton.1 field)) hheld
            | some found =>
                rw [taggedForm_some hkind] at field
                rcases List.mem_cons.1 field with heq | hmem
                · exact absurd (congrArg Prod.snd heq) hheld
                · exact ⟨_, _, rfl, hmem⟩
          rcases hfield with ⟨kind, rest, hkind, hmem⟩
          -- To look for the kind, the exchange is a field put over another one.
          have htype : name ≠ "type" := fun heq =>
            (List.nodup_cons.1 (hforms kind)).1 (heq ▸ List.mem_map_of_mem hmem)
          have inserted : Inserts name (before ++ (name, x) :: after)
              (before ++ (name, x') :: after) := ⟨before, after, x', rfl, .inr ⟨x, rfl⟩⟩
          rcases kindOf_record (inserted.fieldValue_eq htype) with ⟨hnone, -⟩ | ⟨kind', hk, hk'⟩
          · exact absurd (hnone.symm.trans hkind) (Option.some_ne_none _).symm
          · have hkeep : (name != "type") = true := bne_iff_ne.2 htype
            cases hk.symm.trans hkind
            refine .inr ⟨kind, _, _, hk, hk', hrest ?_⟩
            rw [List.filter_append, List.filter_append,
              List.filter_cons_of_pos (a := (name, x)) hkeep,
              List.filter_cons_of_pos (a := (name, x')) hkeep]
            exact .swap (.named hmem) alike
      | @placed name before after field =>
          cases before with
          | nil =>
              -- The first place is that of the kind.
              cases field
              exact absurd rfl hheld
          | cons first before =>
              rw [taggedForm] at field
              rw [List.cons_append, kindOf?] at field ⊢
              rw [List.cons_append, kindOf?]
              cases hnamed : kindNamed? inside kinds first with
              | none => exact .inl ⟨rfl, rfl⟩
              | some kind =>
                  rw [hnamed] at field
                  exact .inr ⟨kind, _, _, rfl, rfl, hrest (.swap (.placed field) alike)⟩

theorem figureForm_nodup (kind : String) : ("type" :: (figureForm kind).names).Nodup := by
  unfold figureForm
  split <;> decide

theorem quantityForm_nodup (kind : String) : ("type" :: (quantityForm kind).names).Nodup := by
  unfold quantityForm
  split <;> decide

theorem itemForm_nodup (kind : String) : ("type" :: (itemForm kind).names).Nodup := by
  unfold itemForm
  split <;> decide

theorem blockForm_nodup (kind : String) : ("type" :: (blockForm kind).names).Nodup := by
  unfold blockForm
  split <;> decide

theorem Held.Agree.eq {value value' : Option Data} (h : Held.plain.Agree value value') :
    value = value' := by
  cases h with
  | same => rfl
  | alike alike => cases alike

theorem Form.Alike.values {form : Form} {d d' : Data} (h : form.Alike d d') (names : List String)
    (hnames : form.names = names) :
    fieldValues? names d = none ∧ fieldValues? names d' = none
      ∨ ∃ values values', fieldValues? names d = some values
        ∧ fieldValues? names d' = some values' ∧ form.Agree values values' := by
  subst hnames
  rw [Form.Alike] at h
  generalize fieldValues? form.names d = v at h ⊢
  generalize fieldValues? form.names d' = v' at h ⊢
  cases h with
  | none => exact .inl ⟨rfl, rfl⟩
  | some agree => exact .inr ⟨_, _, rfl, rfl, agree⟩

/-- Fields that hold no parts are the same in both ways to write them. -/
theorem Form.Alike.eq_of_plain {form : Form} {d d' : Data} (h : form.Alike d d')
    (names : List String) (hnames : form.names = names)
    (plain : ∀ entry ∈ form, entry.2 = .plain) : fieldValues? names d = fieldValues? names d' := by
  rcases h.values names hnames with ⟨hd, hd'⟩ | ⟨values, values', hd, hd', agree⟩
  · rw [hd, hd']
  · rw [hd, hd', Form.eq_of_agree plain agree]

end Mise
