import Mise.Proofs.Resolution.Single

/-!
# Places

What an item turns into may depend on what comes before it, but not on all of that. It depends on
its section alone, and of a group that is complete it sees only the group. Inside a group it sees
what stands before the group and the options before its own. A `Place` is a single usage with its
item and with the usages that it sees, read off the content of a document after everything has been
compiled.

## Main definitions

* `Place`: A single usage, its item, and the usages before it.
* `Usage.placesOf`: The places in the usages of items.
* `documentPlaces`: The places of a document.

## Theorems

* `placesOf_append`: The places of a step are those of its parts.
* `map_documentPlaces`: Each single item and each single usage of a document has one place.
-/

namespace Mise

/-- A single usage and the item it comes from, with the usages before it that it can see. -/
structure Place where
  before : List Usage
  item : Item
  usage : Usage

/-- The options of an alternative. -/
def Item.options : Item → List Item
  | .alternative options => options
  | _ => []

mutual

/-- The places in the usage of an item. The options of an alternative see what it sees, and those
    before them. -/
def Usage.places : List Usage → Item → Usage → List Place
  | before, item, .alternative us => Usage.placesOf before (item.options.filter Item.isUsed) us
  | before, item, usage => [⟨before, item, usage⟩]

/-- The places in the usages of items. A usage sees the usages before it. -/
def Usage.placesOf : List Usage → List Item → List Usage → List Place
  | before, item :: items, u :: us =>
    Usage.places before item u ++ Usage.placesOf (before ++ [u]) items us
  | _, _, _ => []

end

theorem placesOf_cons (before : List Usage) (item : Item) (items : List Item) (u : Usage)
    (us : List Usage) :
    Usage.placesOf before (item :: items) (u :: us)
      = Usage.places before item u ++ Usage.placesOf (before ++ [u]) items us := by
  rw [Usage.placesOf]

theorem placesOf_nil (before : List Usage) : Usage.placesOf before [] [] = [] :=
  rfl

theorem placesOf_alternative (before : List Usage) (options : List Item) (us : List Usage) :
    Usage.placesOf before [.alternative options] [.alternative us]
      = Usage.placesOf before (options.filter Item.isUsed) us := by
  rw [placesOf_cons, placesOf_nil, List.append_nil, Usage.places, Item.options]

/-- The places of a step are those of its parts. The second part sees the usages of the first. -/
theorem placesOf_append {items : List Item} {us : List Usage} (h : items.length = us.length)
    (before : List Usage) (items' : List Item) (us' : List Usage) :
    Usage.placesOf before (items ++ items') (us ++ us')
      = Usage.placesOf before items us ++ Usage.placesOf (before ++ us) items' us' := by
  induction items generalizing before us with
  | nil =>
      rw [List.eq_nil_of_length_eq_zero h.symm, placesOf_nil, List.nil_append, List.nil_append,
        List.nil_append, List.append_nil]
  | cons item items ih =>
      cases us with
      | nil => exact absurd h (Nat.succ_ne_zero _)
      | cons u us =>
          rw [List.cons_append, List.cons_append, placesOf_cons, placesOf_cons,
            ih (Nat.succ.inj h), List.append_assoc, List.append_assoc, List.singleton_append]

/-- The options of a group see what stands before it and one another, and what comes after the group
    sees the group as a whole. -/
example (a b c d : Mention) (u v w x : MentionUsage) :
    (Usage.placesOf [] [.mention a, .alternative [.mention b, .mention c], .mention d]
        [.mention u, .alternative [.mention v, .mention w], .mention x]).map Place.before
      = [[], [.mention u], [.mention u, .mention v],
          [.mention u, .alternative [.mention v, .mention w]]] := rfl

theorem isUsed_of_yields {item : Item} {u : Usage} (h : item.Yields u) : item.isUsed := by
  cases h <;> rfl

/-- A single item has one place, which is that of its usage. -/
theorem places_single {item : Item} (hsingle : ∀ options, item ≠ .alternative options) {u : Usage}
    (h : item.Yields u) (before : List Usage) :
    Usage.places before item u = [⟨before, item, u⟩] ∧ item.singles = [item] ∧ u.singles = [u] := by
  cases h with
  | alternative _ => exact absurd rfl (hsingle _)
  | _ => exact ⟨rfl, rfl, rfl⟩

/-- Items without a usage have no place, and neither does anything inside them. -/
theorem filter_singlesOf_filter (items : List Item) :
    (Item.singlesOf (items.filter Item.isUsed)).filter Item.isUsed
      = (Item.singlesOf items).filter Item.isUsed := by
  induction items with
  | nil => rfl
  | cons item items ih =>
      rw [Item.singlesOf, List.filter_cons, List.filter_append]
      by_cases hused : item.isUsed
      · rw [if_pos hused, Item.singlesOf, List.filter_append, ih]
      · rw [if_neg hused, ih, filter_singles_of_not_isUsed (Bool.not_eq_true _ ▸ hused),
          List.nil_append]

/-- Places are those of the single items and of the single usages. -/
def OnePlaceEach (items : List Item) (us : List Usage) (places : List Place) : Prop :=
  places.map Place.item = (Item.singlesOf items).filter Item.isUsed
    ∧ places.map Place.usage = Usage.singlesOf us

theorem onePlaceEach_append {items items' : List Item} {us us' : List Usage}
    {places places' : List Place} (h : OnePlaceEach items us places)
    (h' : OnePlaceEach items' us' places') :
    OnePlaceEach (items ++ items') (us ++ us') (places ++ places') := by
  rw [OnePlaceEach, List.map_append, List.map_append, h.1, h.2, h'.1, h'.2, Item.singlesOf_append,
    Usage.singlesOf_append, List.filter_append]
  exact ⟨rfl, rfl⟩

/-- Places are taken item by item. -/
theorem onePlaceEach_placesOf_of_places {items : List Item} {us : List Usage}
    (hplaces : ∀ item ∈ items, ∀ u, item.Yields u → ∀ before,
      OnePlaceEach [item] [u] (Usage.places before item u))
    (h : List.Forall₂ Item.Yields items us) (before : List Usage) :
    OnePlaceEach items us (Usage.placesOf before items us) := by
  induction h generalizing before with
  | nil => exact ⟨rfl, rfl⟩
  | @cons item u items us hyields _ ih =>
      have hfirst := hplaces item List.mem_cons_self u hyields before
      have hrest := ih (fun other hmem => hplaces other (List.mem_cons_of_mem item hmem))
        (before ++ [u])
      rw [placesOf_cons]
      exact onePlaceEach_append hfirst hrest

theorem onePlaceEach_places {item : Item} {u : Usage} (h : item.Yields u) (before : List Usage) :
    OnePlaceEach [item] [u] (Usage.places before item u) := by
  induction item using Item.induction generalizing u before with
  | single item hsingle =>
      rcases places_single hsingle h before with ⟨hplaces, hitem, husage⟩
      have hused := isUsed_of_yields h
      simp only [OnePlaceEach, hplaces, Item.singlesOf, Usage.singlesOf, hitem, husage,
        List.append_nil, List.filter_cons, List.filter_nil, hused, if_true, List.map_cons,
        List.map_nil, and_self]
  | alternative options ih =>
      cases h with
      | @alternative _ us hus =>
          have hoptions := onePlaceEach_placesOf_of_places
            (fun option hmem u hyields => ih option (List.mem_filter.1 hmem).1 hyields) hus before
          rw [OnePlaceEach, filter_singlesOf_filter] at hoptions
          rw [OnePlaceEach, Usage.places, Item.options, Item.singlesOf, Item.singles,
            Usage.singlesOf, Usage.singles, Item.singlesOf, Usage.singlesOf, List.append_nil,
            List.append_nil]
          exact hoptions

/-- Each single item and each single usage has one place. -/
theorem onePlaceEach_placesOf {items : List Item} {us : List Usage}
    (h : List.Forall₂ Item.Yields items us) (before : List Usage) :
    OnePlaceEach items us (Usage.placesOf before items us) :=
  onePlaceEach_placesOf_of_places (fun _ _ _ hyields => onePlaceEach_places hyields) h before

/-- The items of a section that turn into usages. -/
def usedItems (children : List Block) : List Item :=
  (directSteps children).flatMap fun node => node.items.filter Item.isUsed

/-- The places of a section. Its first usage sees nothing. -/
def sectionPlaces (children : List Block) (s : Section) : List Place :=
  Usage.placesOf [] (usedItems children) s.contentUsages

variable (weighing : Weighing)

/-- The places of a document. -/
def documentPlaces (blocks : List Block) : List Place :=
  (sectionPairs weighing blocks).flatMap fun pair => sectionPlaces pair.1.2 pair.2

/-- The single usages in the content of a document, in order. -/
def documentUsages (blocks : List Block) : List Usage :=
  (compileSections weighing blocks).sections.flatMap fun s => Usage.singlesOf s.contentUsages

theorem yields_contentUsages (header : SectionHeader) (children : List Block) (walk : Walk) :
    List.Forall₂ Item.Yields (usedItems children)
      (compileSection weighing header children walk).1.contentUsages :=
  List.rel_flatMap (yields_compileSection weighing header children walk) fun _ _ h => h

theorem filter_singlesOf_usedItems (children : List Block) :
    (Item.singlesOf (usedItems children)).filter Item.isUsed
      = (sectionItems children).filter Item.isUsed := by
  rw [usedItems, sectionItems]
  induction directSteps children with
  | nil => rfl
  | cons node nodes ih =>
      rw [List.flatMap_cons, List.flatMap_cons, Item.singlesOf_append, List.filter_append,
        List.filter_append, filter_singlesOf_filter, ih]

/-- Each single item and each single usage of a document has one place, in the order of the
    document. -/
theorem map_documentPlaces (blocks : List Block) :
    (documentPlaces weighing blocks).map Place.item = (documentItems blocks).filter Item.isUsed
      ∧ (documentPlaces weighing blocks).map Place.usage = documentUsages weighing blocks := by
  have hsections := compileSections_forall₂ weighing
    (fun part s => List.Forall₂ Item.Yields (usedItems part.2) s.contentUsages)
    (yields_contentUsages weighing) blocks
  rw [documentPlaces, documentItems, documentUsages, sectionPairs]
  generalize outerSections (sectioned blocks) = parts at hsections ⊢
  generalize (compileSections weighing blocks).sections = sections at hsections ⊢
  induction hsections with
  | nil => exact ⟨rfl, rfl⟩
  | @cons part s parts sections hyields _ ih =>
      rcases onePlaceEach_placesOf hyields [] with ⟨hitems, husages⟩
      rw [filter_singlesOf_usedItems] at hitems
      rw [List.zip_cons_cons, List.flatMap_cons, List.flatMap_cons, List.flatMap_cons,
        List.map_append, List.map_append, List.filter_append, ih.1, ih.2, sectionPlaces, hitems,
        husages]
      exact ⟨rfl, rfl⟩

end Mise
