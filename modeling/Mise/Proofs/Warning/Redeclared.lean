import Mathlib.Data.List.Induction
import Mise.Ingredient.Staple
import Mise.Proofs.Preparation.Completion
import Mise.Proofs.Resolution.Append
import Mise.Proofs.Warning.Code

/-!
# Redeclared Preparations

A section that produces a preparation records its total under the identity of the name, and whatever
an earlier section has recorded under that identity is lost. There are warnings about that, but they
go by the name and not by the identity. A name that is written like an earlier one is warned of, and
rightly so. A name that is written in another way and means the same replaces the earlier weight all
the same, and there is no warning.

So no replacement goes unnoticed just where the products of one identity have one name.

## Main definitions

* `Product`: What a section produces.
* `Product.Replaces`: A product takes the place of an earlier one.
* `Product.redeclared?`: The warning about a product.
* `redeclaredFrom`: The warnings about products, given those before them.

## Theorems

* `keptByTurns_knowsProducts`: Each turn keeps the products known.
* `conflictWarnings_compileSections`: The warnings of a document are those about its products.
* `noticed_iff_same_names`: When every product that replaces an earlier one is warned of.
* `replaced_section`: What becomes of the weight that is replaced.
* `conflicts_by_letter`: Conflicts are told by the name, and replacements by the identity.
* `twoCreams_unnoticed`: A cream that replaces another one without a warning.
-/

namespace Mise

/-- A preparation that a section produces, with the title of the section. -/
structure Product where
  name : String
  title : Option String

/-- What the section under a header produces. -/
def SectionHeader.product? (header : SectionHeader) : Option Product :=
  header.produces.map fun name => ⟨name, header.title⟩

/-- What the sections of a document produce, in order. -/
def documentProducts (blocks : List Block) : List Product :=
  (outerSections (sectioned blocks)).filterMap fun part => part.1.product?

namespace Product

/-- A product takes the place of an earlier one of the same identity. -/
def Replaces (p : Product) (before : List Product) : Prop :=
  slugify p.name ∈ before.map fun q => slugify q.name

/-- The warning about a product: an earlier one has the same name, to the letter. -/
def redeclared? (before : List Product) (p : Product) : Option Warning :=
  if p.name ∈ before.map name then some (.preparationRedeclared p.name p.title) else none

end Product

/-- The warnings about products, after those before them. -/
def redeclaredFrom (before : List Product) : List Product → List Warning
  | [] => []
  | p :: products => (p.redeclared? before).toList ++ redeclaredFrom (before ++ [p]) products

/-- The codes of the warnings about conflicts between sections. -/
def conflictCodes : List String :=
  ["SCOPE_CONFLICT"]

/-- The warnings about conflicts between sections. -/
def conflictWarnings (warnings : List Warning) : List Warning :=
  warnings.filter fun w => w.code ∈ conflictCodes

theorem conflictWarnings_append (warnings warnings' : List Warning) :
    conflictWarnings (warnings ++ warnings')
      = conflictWarnings warnings ++ conflictWarnings warnings' :=
  List.filter_append warnings warnings'

theorem redeclaredFrom_concat (before products : List Product) (p : Product) :
    redeclaredFrom before (products ++ [p])
      = redeclaredFrom before products ++ (p.redeclared? (before ++ products)).toList := by
  induction products generalizing before with
  | nil => simp only [List.nil_append, redeclaredFrom, List.append_nil]
  | cons first rest ih =>
      rw [List.cons_append, redeclaredFrom, redeclaredFrom, ih, List.append_assoc,
        List.append_assoc, List.singleton_append]

/-- What comes to be produced at a turn. -/
def Turn.product? : Turn → Option Product
  | .opens header => header.product?
  | .item _ => none

theorem products_turnsOf (sections : List (SectionHeader × List Block)) :
    (turnsOf sections).filterMap Turn.product?
      = sections.filterMap fun part => part.1.product? := by
  induction sections with
  | nil => rfl
  | cons part rest ih =>
      -- The turns of a section are its opening and items, which produce nothing by themselves.
      have hitems : ((sectionItems part.2).map Turn.item).filterMap Turn.product? = [] := by
        rw [List.filterMap_map]
        exact List.filterMap_eq_nil_iff.2 fun _ _ => rfl
      rw [turnsOf, List.flatMap_cons, List.filterMap_append, sectionTurns, List.filterMap_cons,
        hitems, ← turnsOf, ih, List.filterMap_cons, Turn.product?]
      cases part.1.product? <;> rfl

theorem declaredBySections_notes (item : Item) (s : Scope) :
    (item.notes s).declaredBySections = s.declaredBySections := by
  have huse : ∀ name, (s.noteUse name).declaredBySections = s.declaredBySections := by
    intro name
    unfold Scope.noteUse
    split <;> rfl
  cases item with
  | ingredient i =>
      simp only [Item.notes]
      split
      · rfl
      · split
        · exact huse i.name
        · rfl
  | mention m => exact huse m.name
  | _ => rfl

/-- The walk knows the names of what was produced, and it has warned of those that came up again. -/
structure KnowsProducts (done : List Turn) (walk : Walk) : Prop where
  declared : ∀ name, walk.scope.declaredBySections.has name
    ↔ name ∈ (done.filterMap Turn.product?).map Product.name
  warned : conflictWarnings walk.warnings = redeclaredFrom [] (done.filterMap Turn.product?)

theorem knowsProducts_start : KnowsProducts [] .start where
  declared _ := by
    simp only [List.filterMap_nil, List.map_nil, List.not_mem_nil, iff_false]
    exact Bool.false_ne_true
  warned := rfl

-- An item produces nothing, and is not warned of as if it did.
theorem knowsProducts_item {done : List Turn} {walk : Walk} (h : KnowsProducts done walk)
    (item : Item) (listed : Listed) :
    KnowsProducts (done ++ [.item item]) (item.passed listed walk) := by
  have hdone : (done ++ [Turn.item item]).filterMap Turn.product?
      = done.filterMap Turn.product? := by
    rw [List.filterMap_append]
    exact List.append_nil _
  have hquiet : conflictWarnings (item.warnings listed walk) = [] := by
    refine filter_warnings_eq_nil (fun code hcode hconflict => ?_) listed walk
    rw [List.mem_singleton.1 hconflict] at hcode
    exact scopeConflict_notMem_codes item hcode
  refine ⟨fun name => ?_, ?_⟩
  · rw [Item.passed, declaredBySections_notes, hdone]
    exact h.declared name
  · rw [Item.passed, conflictWarnings_append, hquiet, List.append_nil, hdone]
    exact h.warned

theorem knowsProducts_opens {done : List Turn} {walk : Walk} (h : KnowsProducts done walk)
    (header : SectionHeader) :
    KnowsProducts (done ++ [.opens header]) (openSection header walk) := by
  cases hproduces : header.produces with
  | none =>
      have hopen : openSection header walk = walk := by simp only [openSection, hproduces]
      have hnothing : (Turn.opens header).product? = none := by
        rw [Turn.product?, SectionHeader.product?, hproduces, Option.map_none]
      have hdone : (done ++ [Turn.opens header]).filterMap Turn.product?
          = done.filterMap Turn.product? := by
        rw [List.filterMap_append, List.filterMap_cons_none hnothing, List.filterMap_nil,
          List.append_nil]
      rw [hopen]
      exact ⟨fun name => hdone ▸ h.declared name, hdone ▸ h.warned⟩
  | some name =>
      have hproduct : (Turn.opens header).product? = some ⟨name, header.title⟩ := by
        rw [Turn.product?, SectionHeader.product?, hproduces, Option.map_some]
      have hdone : (done ++ [Turn.opens header]).filterMap Turn.product?
          = done.filterMap Turn.product? ++ [⟨name, header.title⟩] := by
        rw [List.filterMap_append, List.filterMap_cons_some hproduct, List.filterMap_nil]
      refine ⟨fun other => ?_, ?_⟩
      · rw [hdone, List.map_append, List.mem_append, ← h.declared other, List.map_singleton,
          List.mem_singleton]
        simp only [openSection, hproduces, Walk.warnIf_eq, Walk.inRegistry, Walk.inScope,
          Scope.define, Scope.declareBySection]
        rw [Names.has_add, or_comm]
      · -- Whether the name is known is asked before it is noted.
        have hwarning : conflictWarnings (if walk.scope.declaredBySections.has name then
              [Warning.preparationRedeclared name header.title] else [])
            = (Product.redeclared? (done.filterMap Turn.product?) ⟨name, header.title⟩).toList := by
          by_cases hknown : name ∈ (done.filterMap Turn.product?).map Product.name
          · rw [if_pos ((h.declared name).2 hknown), Product.redeclared?, if_pos hknown]
            rfl
          · rw [if_neg fun hhas => hknown ((h.declared name).1 hhas), Product.redeclared?,
              if_neg hknown]
            rfl
        rw [hdone, redeclaredFrom_concat, List.nil_append, ← h.warned, ← hwarning,
          ← conflictWarnings_append]
        simp only [openSection, hproduces, Walk.warnIf_eq, Walk.inRegistry, Walk.inScope]

/-- Each turn keeps the products known. -/
theorem keptByTurns_knowsProducts : KeptByTurns KnowsProducts where
  opens _ header _ h := knowsProducts_opens h header
  item _ item listed _ _ h := knowsProducts_item h item listed
  aside _ _ _ hsame h := by
    refine ⟨fun name => ?_, ?_⟩
    · rw [hsame.declaredBySections]
      exact h.declared name
    · rw [hsame.warnings]
      exact h.warned

/-- A document is warned of the products that have the name of an earlier one, in order. -/
theorem conflictWarnings_compileSections (weighing : Weighing) (blocks : List Block) :
    conflictWarnings (compileSections weighing blocks).warnings
      = redeclaredFrom [] (documentProducts blocks) := by
  have hknows := keptByTurns_knowsProducts.compileSectionsFrom weighing (sectioned blocks) []
    .start knowsProducts_start
  have hwarned := hknows.warned
  rw [List.nil_append, products_turnsOf] at hwarned
  exact hwarned

theorem isSome_redeclared (before : List Product) (p : Product) :
    (p.redeclared? before).isSome ↔ p.name ∈ before.map Product.name := by
  rw [Product.redeclared?]
  by_cases h : p.name ∈ before.map Product.name
  · rw [if_pos h]
    exact iff_of_true rfl h
  · rw [if_neg h]
    exact iff_of_false Bool.false_ne_true h

/-- What has the name of an earlier product has its identity, and takes its place. -/
theorem replaces_of_redeclared {before : List Product} {p : Product}
    (h : (p.redeclared? before).isSome) : p.Replaces before := by
  rcases List.mem_map.1 ((isSome_redeclared before p).1 h) with ⟨q, hq, hname⟩
  exact List.mem_map.2 ⟨q, hq, congrArg slugify hname⟩

/-- Every product that replaces another one is warned of just if names of the same identity are the
    same to the letter. -/
theorem noticed_iff_same_names (products : List Product) :
    (∀ (before after : List Product) (p : Product), products = before ++ p :: after →
        p.Replaces before → (p.redeclared? before).isSome)
      ↔ ∀ p ∈ products, ∀ q ∈ products, slugify p.name = slugify q.name → p.name = q.name := by
  constructor
  · intro hnoticed
    induction products using List.reverseRecOn with
    | nil => exact fun p hp => absurd hp List.not_mem_nil
    | append_singleton products last ih =>
        have hsame := ih fun before after p hsplit =>
          hnoticed before (after ++ [last]) p (by rw [hsplit, List.append_assoc, List.cons_append])
        -- The last product is warned of if it replaces one, so it has a name that came up before.
        have hlast : ∀ p ∈ products, slugify p.name = slugify last.name → p.name = last.name := by
          intro p hp hid
          have hwarned := hnoticed products [] last rfl (List.mem_map.2 ⟨p, hp, hid⟩)
          rcases List.mem_map.1 ((isSome_redeclared products last).1 hwarned) with ⟨q, hq, hname⟩
          rw [← hname] at hid ⊢
          exact hsame p hp q hq hid
        intro p hp q hq hid
        rcases List.mem_append.1 hp with hp | hp <;> rcases List.mem_append.1 hq with hq | hq
        · exact hsame p hp q hq hid
        · rw [List.mem_singleton.1 hq] at hid ⊢
          exact hlast p hp hid
        · rw [List.mem_singleton.1 hp] at hid ⊢
          exact (hlast q hq hid.symm).symm
        · rw [List.mem_singleton.1 hp, List.mem_singleton.1 hq]
  · intro hsame before after p hsplit hreplaces
    rcases List.mem_map.1 hreplaces with ⟨q, hq, hid⟩
    have hproducts : before ⊆ products := hsplit ▸ List.subset_append_left _ _
    have hp : p ∈ products := hsplit ▸ List.mem_append_right _ List.mem_cons_self
    have hname := hsame q (hproducts hq) p hp hid
    exact (isSome_redeclared before p).2 (List.mem_map.2 ⟨q, hq, hname⟩)

variable (weighing : Weighing)

-- Whatever was recorded under the identity before is gone.
theorem weight?_compileSection {header : SectionHeader} {name : String}
    (h : header.produces = some name) (children : List Block) (walk : Walk) :
    (compileSection weighing header children walk).2.scope.weight? (slugify name)
      = some (sectionWeight (compileSection weighing header children walk).1.ingredients) := by
  simp only [compileSection, closeSection, h, Walk.inScope, Scope.weight?_setWeight, if_true]

-- The section is among the pairs with what it was compiled to, and is complete at their end.
theorem isSome_weight_of_mem_products {blocks : List Block} {p : Product}
    (h : p ∈ documentProducts blocks) :
    ((finalWalk weighing blocks).scope.weight? (slugify p.name)).isSome := by
  rw [(tracks_compileSections weighing blocks).weights, ← events_documentMoments,
    isSome_latestWeight, List.mem_filterMap]
  rcases List.mem_filterMap.1 h with ⟨part, hpart, hproduct⟩
  rcases Option.map_eq_some_iff.1 hproduct with ⟨name, hproduces, rfl⟩
  have hpairs : (sectionPairs weighing blocks).map Prod.fst = outerSections (sectioned blocks) :=
    List.map_fst_zip (Nat.le_of_eq (length_compileSections weighing blocks).symm)
  rw [← hpairs] at hpart
  rcases List.mem_map.1 hpart with ⟨pair, hpair, rfl⟩
  let moment := Moment.completed pair.1.1.produces.toList (sectionWeight pair.2.ingredients)
  refine ⟨moment, List.mem_flatMap.2 ⟨pair, hpair, ?_⟩, ?_⟩
  · exact List.mem_append_right _ (List.mem_singleton.2 rfl)
  · simp only [moment, Moment.weighs?, hproduces, Option.toList_some, List.getLast?_singleton,
      Option.map_some]

/-- A section whose product replaces an earlier one finds a weight under its identity, and leaves
    the weight of what it lists itself in the place of that. -/
theorem replaced_section {blocks before after : List Block} {header : SectionHeader}
    {children : List Block} {p : Product}
    (hsplit : sectioned blocks = before ++ .section header children :: after)
    (hproduct : header.product? = some p) (hreplaces : p.Replaces (documentProducts before)) :
    ((finalWalk weighing before).scope.weight? (slugify p.name)).isSome
      ∧ ∃ s, (compileSections weighing blocks).sections[(outerSections before).length]? = some s
        ∧ (finalWalk weighing (before ++ [.section header children])).scope.weight?
            (slugify p.name)
          = some (sectionWeight s.ingredients) := by
  rcases Option.map_eq_some_iff.1 hproduct with ⟨name, hproduces, rfl⟩
  have hall : sectioned (before ++ .section header children :: after)
      = before ++ .section header children :: after := by
    rw [← hsplit, sectioned_sectioned]
  have hfront : sectioned blocks = (before ++ [.section header children]) ++ after := by
    rw [hsplit, List.append_assoc, List.singleton_append]
  refine ⟨?_, (compileSection weighing header children (finalWalk weighing before)).1, ?_, ?_⟩
  · -- What is replaced has the same identity, so its weight is the one that is found.
    rcases List.mem_map.1 hreplaces with ⟨q, hq, hid⟩
    rw [← hid]
    exact isSome_weight_of_mem_products weighing hq
  · rw [← compileSections_sectioned, hsplit]
    exact getElem?_sections weighing hall
  · rw [finalWalk_append weighing (sectioned_of_append hall) (sectioned_of_append hfront),
      compileSectionsFrom_section]
    exact weight?_compileSection weighing hproduces children _

/-- A document is warned of the products that have the name of an earlier one, in order, and of no
    others. Each of these replaces an earlier product. But a product replaces the weight of every
    earlier one of its identity, whatever it is called, so all that do so are warned of just if the
    products of one identity have one name. -/
theorem conflicts_by_letter (blocks : List Block) :
    let products := documentProducts blocks
    conflictWarnings (compileSections weighing blocks).warnings = redeclaredFrom [] products
      ∧ (∀ (before after : List Product) (p : Product), products = before ++ p :: after →
          (p.redeclared? before).isSome → p.Replaces before)
      ∧ ((∀ (before after : List Product) (p : Product), products = before ++ p :: after →
            p.Replaces before → (p.redeclared? before).isSome)
          ↔ ∀ p ∈ products, ∀ q ∈ products, slugify p.name = slugify q.name → p.name = q.name)
      ∧ ∀ (before after children : List Block) (header : SectionHeader) (p : Product),
          sectioned blocks = before ++ .section header children :: after →
          header.product? = some p → p.Replaces (documentProducts before) →
          ((finalWalk weighing before).scope.weight? (slugify p.name)).isSome
            ∧ ∃ s, (compileSections weighing blocks).sections[(outerSections before).length]?
                = some s
              ∧ (finalWalk weighing (before ++ [.section header children])).scope.weight?
                  (slugify p.name)
                = some (sectionWeight s.ingredients) := by
  intro products
  exact ⟨conflictWarnings_compileSections weighing blocks,
    fun _ _ _ _ => replaces_of_redeclared, noticed_iff_same_names products,
    fun _ _ _ _ _ => replaced_section weighing⟩

/-- A section that makes something of some grams of an ingredient. -/
def makes (name title ingredient : String) (grams : Float) : Block :=
  .section ⟨some title, none, some name⟩
    [.step ⟨none, [.ingredient ⟨ingredient, [],
      some (.measured ⟨some (.single grams none), some "g", false⟩), none, none, none⟩]⟩]

/-- A cream of milk, and another one of butter that is written with a capital. -/
def twoCreams : List Block :=
  [makes "cream" "Filling" "milk" 200.0, makes "Cream" "Topping" "butter" 50.0]

/-- The second cream takes the place of the first: both are the cream, which in the end weighs what
    the second one does. There is no warning about that. -/
theorem twoCreams_unnoticed :
    let weighing : Weighing := ⟨Dictionary.empty, stapleSource⟩
    let compiled := compileSections weighing twoCreams
    ∃ first second : Product, documentProducts twoCreams = [first, second]
      ∧ second.Replaces [first]
      ∧ (∃ s, compiled.sections[1]? = some s
        ∧ (finalWalk weighing twoCreams).scope.weight? (slugify first.name)
          = some (sectionWeight s.ingredients))
      ∧ conflictWarnings compiled.warnings = [] := by
  intro weighing compiled
  let first : Product := ⟨"cream", some "Filling"⟩
  let second : Product := ⟨"Cream", some "Topping"⟩
  have hid : slugify second.name = slugify first.name := by decide +kernel
  have hreplaces : second.Replaces [first] := List.mem_singleton.2 hid
  refine ⟨first, second, rfl, hreplaces, ?_, ?_⟩
  · have hsplit : sectioned twoCreams
        = [makes "cream" "Filling" "milk" 200.0] ++ makes "Cream" "Topping" "butter" 50.0 :: [] :=
      rfl
    rcases replaced_section weighing hsplit rfl hreplaces with ⟨-, hreplaced⟩
    rw [← hid]
    exact hreplaced
  · exact conflictWarnings_compileSections weighing twoCreams

end Mise
