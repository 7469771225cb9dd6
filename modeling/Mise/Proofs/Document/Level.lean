import Mise.Document.Decode
import Mathlib.Data.List.Basic

/-!
# Levels of Decoding

Nodes contain nodes, and a decoder is told how many levels it may descend. The number is a bound and
nothing else: data are never deeper than they are, so any two numbers that are large enough give the
same result. What is read from a field lies at least one level below its node, and what a node is
without its kind is no deeper than the node.

A document is decoded with the depth of its own data. That makes the result of decoding two
documents hard to compare when one of them is deeper than the other, and so a decoder with a given
number of levels stands beside it here.

## Main definitions

* `Recipe.within?`: Decoding a document, descending a given number of levels.

## Theorems

* `mapM_congr`, `exists_of_mem_mapM`: Reading each element of a list.
* `depth_kindOf`, `depth_fieldValues`: How deep the parts of a node are.
* `Item.ofData?_level`, `Block.ofData?_level`: Enough levels are enough.
* `Recipe.ofData?_eq_within`: A document is decoded alike with any number of levels that is enough.
-/

namespace Mise

/-- Readers that agree on the elements of a list read the list alike. -/
theorem mapM_congr {α β : Type} {f g : α → Option β} {xs : List α} (h : ∀ x ∈ xs, f x = g x) :
    xs.mapM f = xs.mapM g := by
  induction xs with
  | nil => rfl
  | cons x xs ih =>
      rw [List.mapM_cons, List.mapM_cons, h x List.mem_cons_self,
        ih fun y hy => h y (List.mem_cons_of_mem x hy)]

/-- What a list is read as consists of what its elements are read as. -/
theorem exists_of_mem_mapM {α β : Type} {f : α → Option β} {xs : List α} {ys : List β} {y : β}
    (h : xs.mapM f = some ys) (hy : y ∈ ys) : ∃ x ∈ xs, f x = some y := by
  induction xs generalizing ys with
  | nil =>
      cases h
      exact absurd hy List.not_mem_nil
  | cons x xs ih =>
      rw [List.mapM_cons] at h
      rcases Option.bind_eq_some_iff.1 h with ⟨first, hfirst, hrest⟩
      rcases Option.bind_eq_some_iff.1 hrest with ⟨rest, hxs, heq⟩
      cases heq
      rcases List.mem_cons.1 hy with rfl | hmem
      · exact ⟨x, List.mem_cons_self, hfirst⟩
      · rcases ih hxs hmem with ⟨x', hx', hy'⟩
        exact ⟨x', List.mem_cons_of_mem x hx', hy'⟩

namespace Data

theorem depth_le_itemsDepth {d : Data} {items : List Data} (h : d ∈ items) :
    d.depth ≤ itemsDepth items := by
  induction items with
  | nil => exact absurd h List.not_mem_nil
  | cons first rest ih =>
      rw [itemsDepth]
      rcases List.mem_cons.1 h with rfl | hmem
      · exact Nat.le_max_left _ _
      · exact Nat.le_trans (ih hmem) (Nat.le_max_right _ _)

theorem depth_le_fieldsDepth {f : String × Data} {fields : List (String × Data)}
    (h : f ∈ fields) : f.2.depth ≤ fieldsDepth fields := by
  induction fields with
  | nil => exact absurd h List.not_mem_nil
  | cons first rest ih =>
      rw [fieldsDepth, fieldDepth]
      rcases List.mem_cons.1 h with rfl | hmem
      · exact Nat.le_max_left _ _
      · exact Nat.le_trans (ih hmem) (Nat.le_max_right _ _)

theorem fieldsDepth_le_of_forall {fields : List (String × Data)} {level : Nat}
    (h : ∀ f ∈ fields, f.2.depth ≤ level) : fieldsDepth fields ≤ level := by
  induction fields with
  | nil => exact Nat.zero_le level
  | cons first rest ih =>
      rw [fieldsDepth, fieldDepth]
      exact Nat.max_le.2 ⟨h first List.mem_cons_self,
        ih fun f hf => h f (List.mem_cons_of_mem first hf)⟩

theorem depth_lt_of_mem_list {d : Data} {items : List Data} (h : d ∈ items) :
    d.depth < (Data.list items).depth :=
  Nat.lt_succ_of_le (depth_le_itemsDepth h)

theorem depth_lt_of_mem_record {f : String × Data} {fields : List (String × Data)}
    (h : f ∈ fields) : f.2.depth < (Data.record fields).depth :=
  Nat.lt_succ_of_le (depth_le_fieldsDepth h)

/-- What stands in a list at the end of a record is two levels below the record. -/
theorem depth_of_mem_last {d : Data} {items : List Data} {level : Nat}
    (fields : List (String × Data)) (name : String)
    (h : (Data.record (fields ++ [(name, .list items)])).depth ≤ level + 1) (hd : d ∈ items) :
    d.depth ≤ level := by
  have hitem := depth_lt_of_mem_list hd
  have hfield := depth_lt_of_mem_record (List.mem_append_right fields
    (List.mem_singleton_self (name, Data.list items)))
  simp only at hfield
  omega

theorem depth_pos (d : Data) : 0 < d.depth := by
  cases d <;> exact Nat.succ_pos _

end Data

namespace Decode

theorem mem_of_fieldValue {fields : List (String × Data)} {name : String} {d : Data}
    (h : fieldValue? fields name = some (some d)) : (name, d) ∈ fields := by
  rw [fieldValue?] at h
  split at h
  · cases h
  · next f hfilter =>
    cases h
    have hmem : f ∈ fields.filter fun f => f.1 == name := by
      rw [hfilter]
      exact List.mem_singleton_self f
    rcases List.mem_filter.1 hmem with ⟨hf, hname⟩
    rwa [← beq_iff_eq.1 hname]
  · cases h

/-- A node without its kind is no deeper than the node. -/
theorem depth_kindOf {inside : Bool} {kinds : List String} {d rest : Data} {kind : String}
    (h : kindOf? inside kinds d = some (kind, rest)) : rest.depth ≤ d.depth := by
  unfold kindOf? at h
  split at h
  · next fields =>
    split at h
    · rcases Option.map_eq_some_iff.1 h with ⟨_, -, heq⟩
      cases heq
      exact Nat.succ_le_succ (Data.fieldsDepth_le_of_forall fun f hf =>
        Data.depth_le_fieldsDepth (List.mem_of_mem_filter hf))
    · cases h
  · rcases Option.map_eq_some_iff.1 h with ⟨_, -, heq⟩
    cases heq
    exact Nat.succ_le_succ (Nat.le_max_right _ _)
  · cases h

/-- The value of a field is less deep than the node. -/
theorem depth_fieldValues {names : List String} {d value : Data} {values : List (Option Data)}
    (h : fieldValues? names d = some values) (hvalue : some value ∈ values) :
    value.depth < d.depth := by
  unfold fieldValues? at h
  split at h
  · next fields =>
    rcases exists_of_mem_mapM h hvalue with ⟨name, -, hname⟩
    exact Data.depth_lt_of_mem_record (mem_of_fieldValue hname)
  · next items =>
    split at h
    · cases h
      rcases List.mem_append.1 hvalue with hitem | hnone
      · rcases List.mem_map.1 hitem with ⟨item, hitem, heq⟩
        cases heq
        exact Data.depth_lt_of_mem_list hitem
      · exact absurd (List.eq_of_mem_replicate hnone) (Option.some_ne_none value)
    · cases h
  · cases h

/-- What stands in a list in a field is two levels below the node. -/
theorem depth_of_mem_field {names : List String} {d item : Data} {items : List Data}
    {values : List (Option Data)} (h : fieldValues? names d = some values)
    (hvalue : some (.list items) ∈ values) (hitem : item ∈ items) : item.depth + 1 < d.depth :=
  Nat.lt_of_le_of_lt (Data.depth_lt_of_mem_list hitem) (depth_fieldValues h hvalue)

/-- Readers that agree on the elements of a list read the field that holds it alike. -/
theorem defaulted_list_congr {α : Type} {f g : Data → Option α} {value : Option Data}
    (h : ∀ items, value = some (.list items) → ∀ d ∈ items, f d = g d) :
    defaulted [] (list? f) value = defaulted [] (list? g) value := by
  cases value with
  | none => rfl
  | some d =>
      cases d with
      | list items => exact mapM_congr (h items rfl)
      | _ => rfl

end Decode

open Decode

/-- Enough levels for the data of an item are enough. -/
theorem Item.ofData?_level {level level' : Nat} {d : Data} (h : d.depth ≤ level)
    (h' : d.depth ≤ level') : Item.ofData? level d = Item.ofData? level' d := by
  induction level generalizing level' d with
  | zero => exact absurd h (Nat.not_le_of_lt d.depth_pos)
  | succ level ih =>
      cases level' with
      | zero => exact absurd h' (Nat.not_le_of_lt d.depth_pos)
      | succ level' =>
          rw [Item.ofData?, Item.ofData?]
          cases hkind : kindOf? true itemKinds d with
          | none => rfl
          | some kinded =>
              rcases kinded with ⟨kind, rest⟩
              -- Of all kinds, only the options of an alternative are decoded on the level below.
              split
              case h_4 rest' heq =>
                cases heq
                cases hfields : fieldValues? ["options"] rest with
                | none => rfl
                | some values =>
                    rcases values with _ | ⟨options, _ | _⟩
                    case cons.nil =>
                      refine congrArg (Option.map alternative) (defaulted_list_congr ?_)
                      rintro items rfl option hoption
                      have hitem := depth_of_mem_field hfields List.mem_cons_self hoption
                      have hrest := depth_kindOf hkind
                      exact ih (by omega) (by omega)
                    all_goals rfl
              all_goals rfl

/-- Enough levels for the data of a block are enough. -/
theorem Block.ofData?_level {inside : Bool} {level level' : Nat} {d : Data} (h : d.depth ≤ level)
    (h' : d.depth ≤ level') : Block.ofData? inside level d = Block.ofData? inside level' d := by
  induction level generalizing inside level' d with
  | zero => exact absurd h (Nat.not_le_of_lt d.depth_pos)
  | succ level ih =>
      cases level' with
      | zero => exact absurd h' (Nat.not_le_of_lt d.depth_pos)
      | succ level' =>
          rw [Block.ofData?, Block.ofData?]
          cases hkind : kindOf? inside blockKinds d with
          | none => rfl
          | some kinded =>
              rcases kinded with ⟨kind, rest⟩
              have hrest := depth_kindOf hkind
              split
              case h_1 rest' heq =>
                cases heq
                cases hfields : fieldValues? ["title", "retroPlanning", "intermediateDecl",
                    "children"] rest with
                | none => rfl
                | some values =>
                    rcases values with _ | ⟨title, _ | ⟨retro, _ | ⟨produces, _ | ⟨children,
                      _ | _⟩⟩⟩⟩
                    case cons.cons.cons.cons.nil =>
                      have hchildren : defaulted [] (list? (Block.ofData? true level)) children
                          = defaulted [] (list? (Block.ofData? true level')) children := by
                        refine defaulted_list_congr ?_
                        rintro items rfl child hchild
                        have hitem := depth_of_mem_field hfields
                          (List.mem_append_right [title, retro, produces] List.mem_cons_self) hchild
                        exact ih (by omega) (by omega)
                      simp only [hchildren]
                    all_goals rfl
              case h_2 rest' heq =>
                cases heq
                cases hfields : fieldValues? ["action", "children"] rest with
                | none => rfl
                | some values =>
                    rcases values with _ | ⟨action, _ | ⟨items, _ | _⟩⟩
                    case cons.cons.nil =>
                      have hitems : defaulted [] (list? (Item.ofData? level)) items
                          = defaulted [] (list? (Item.ofData? level')) items := by
                        refine defaulted_list_congr ?_
                        rintro items rfl item hmem
                        have hitem := depth_of_mem_field hfields
                          (List.mem_append_right [action] List.mem_cons_self) hmem
                        exact Item.ofData?_level (by omega) (by omega)
                      simp only [hitems]
                    all_goals rfl
              all_goals rfl

/-- Decode a document, descending a number of levels below its root. -/
def Recipe.within? (level : Nat) (d : Data) : Option Recipe :=
  match fieldValues? recipeFields d with
  | some [kind, info, children] => do
    return {
      kind := ← required text? kind
      info := ← defaulted Dictionary.empty metaOfData? info
      children := ← defaulted [] (list? (Block.ofData? false level)) children }
  | _ => none

/-- A document is decoded alike with any number of levels that is enough for its data. -/
theorem Recipe.ofData?_eq_within {level : Nat} {d : Data} (h : d.depth ≤ level) :
    Recipe.ofData? d = Recipe.within? level d := by
  rw [Recipe.ofData?, Recipe.within?]
  cases hfields : fieldValues? recipeFields d with
  | none => rfl
  | some values =>
      rcases values with _ | ⟨kind, _ | ⟨info, _ | ⟨children, _ | _⟩⟩⟩
      case cons.cons.cons.nil =>
        have hchildren : defaulted [] (list? (Block.ofData? false d.depth)) children
            = defaulted [] (list? (Block.ofData? false level)) children := by
          refine defaulted_list_congr ?_
          rintro items rfl child hchild
          have hitem := depth_of_mem_field hfields
            (List.mem_append_right [kind, info] List.mem_cons_self) hchild
          exact Block.ofData?_level (by omega) (by omega)
        simp only [hchildren]
      all_goals rfl

end Mise
