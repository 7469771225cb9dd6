import Mise.Proofs.Resolution.Listing
import Mise.Proofs.Resolution.Place
import Mise.Proofs.Warning.Code

/-!
# Visits

The walk through a document resolves each single item once, against the lists and with the scope of
that moment. A `Visit` is a place together with these. The lists differ from one moment to the next
and are copied for the options of an alternative, but the ingredients in them are always those that
the place sees.

All warnings but those about sections are raised on visits. A statement about the warnings of a
document becomes one about a single visit, and so does one about what its items turn into.

## Main definitions

* `possibleSources`: The ingredients among usages that a share can be taken of.
* `Visit`: A place with the lists and the walk that its item is resolved with.
* `Visited`: Places have been visited, and warnings were raised there.

## Theorems

* `holds_resolveItem`: The lists hold what has been passed.
* `visited_resolveItem`: An item is resolved by visiting its places.
* `visited_compileSections`: A document is compiled by visiting its places.
* `forall_documentPlaces`, `map_filter_warnings`, `filter_warnings_compileSections`: Statements
  about places and warnings from those about visits.
-/

namespace Mise

/-- Whether an ingredient is listed: it is, unless it is marked as a mention and has no quantity. -/
def ItemUsage.isListed (u : ItemUsage) : Bool :=
  !(u.hasModifier .reference && u.quantity.isNone)

/-- The ingredients among usages that a share can be taken of: those that are listed by themselves.
    The options of an alternative are not among them. -/
def possibleSources (us : List Usage) : List ItemUsage :=
  (us.filterMap Usage.ingredient?).filter ItemUsage.isListed

/-- The ingredients in a list are those among usages. -/
def Listed.Holds (listed : Listed) (us : List Usage) : Prop :=
  listed.ingredients.filterMap Usage.ingredient? = possibleSources us

theorem holds_empty : Listed.empty.Holds [] := rfl

/-- What the test for listed ingredients selects are, among others, the ingredients it lists by
    themselves. -/
theorem ingredients_selected (pairs : List (Item × Usage)) :
    (selected entersIngredients pairs).filterMap Usage.ingredient?
      = possibleSources (pairs.map Prod.snd) := by
  induction pairs with
  | nil => rfl
  | cons pair pairs ih =>
      rcases pair with ⟨item, usage⟩
      rw [← List.singleton_append, selected_append, List.filterMap_append, ih, List.map_append,
        possibleSources, possibleSources, List.filterMap_append, List.filter_append]
      refine congrArg (· ++ _) ?_
      cases usage with
      | ingredient u =>
          have henters : entersIngredients item (.ingredient u) = u.isListed := by
            cases item <;> rfl
          simp only [selected, List.filter_cons, List.filter_nil, henters, List.map_cons,
            List.map_nil, List.filterMap_cons, List.filterMap_nil, Usage.ingredient?]
          cases u.isListed <;> rfl
      | _ =>
          simp only [selected, List.filter_cons, List.filter_nil, List.map_cons, List.map_nil,
            List.filterMap_cons, List.filterMap_nil, Usage.ingredient?]
          split <;> rfl

/-- The ingredients that a section lists by themselves are those in its content that a share can be
    taken of. -/
theorem ListsContent.holds {children : List Block} {s : Section} (h : ListsContent children s) :
    s.ingredients.filterMap Usage.ingredient? = possibleSources s.contentUsages := by
  rw [h.ingredients, ingredients_selected, h.usages]

variable (weighing : Weighing)

/-- The lists hold what has been passed. -/
theorem holds_resolveItem {listed : Listed} {before : List Usage} (h : listed.Holds before)
    (item : Item) (walk : Walk) :
    (resolveItem weighing item listed walk).2.1.Holds
      (before ++ (resolveItem weighing item listed walk).1.usages) := by
  have hyields := yields_resolveItem weighing item listed walk
  rw [Listed.Holds] at h
  rw [Listed.Holds, (extends_resolveItem weighing item listed walk).ingredients,
    List.filterMap_append, h, ingredients_selected, List.map_snd_zip (Nat.le_of_eq
      hyields.length_eq.symm)]
  simp only [possibleSources, List.filterMap_append, List.filter_append]

/-- A place with the lists and the walk that its item is resolved with. -/
structure Visit where
  place : Place
  listed : Listed
  walk : Walk

namespace Visit

/-- The warnings that are raised on a visit. -/
def warnings (v : Visit) : List Warning :=
  v.place.item.warnings v.listed v.walk

/-- On a visit, the item of a place turns into its usage, and the list holds what the place
    sees. -/
structure Valid (v : Visit) : Prop where
  single : ∀ options, v.place.item ≠ .alternative options
  listed : v.listed.Holds v.place.before
  usage : (resolveItem weighing v.place.item v.listed v.walk).1 = .usage v.place.usage

end Visit

/-- On a visit, an item turns into a usage of its kind and name. -/
theorem yields_of_valid {v : Visit} (h : v.Valid weighing) : v.place.item.Yields v.place.usage := by
  have hyields := yields_resolveItem weighing v.place.item v.listed v.walk
  rw [h.usage, Resolved.usages, YieldsAll, List.filter_cons, List.filter_nil] at hyields
  split at hyields
  · cases hyields with
    | cons hfirst _ => exact hfirst
  · cases hyields

/-- Places have been visited in order, and after the warnings so far, those of the visits were
    raised. -/
def Visited (places : List Place) (before after : List Warning) : Prop :=
  ∃ visits : List Visit, visits.map Visit.place = places ∧ (∀ v ∈ visits, v.Valid weighing)
    ∧ after = before ++ visits.flatMap Visit.warnings

theorem visited_nil (warnings : List Warning) : Visited weighing [] warnings warnings :=
  ⟨[], rfl, fun _ h => absurd h List.not_mem_nil, (List.append_nil warnings).symm⟩

theorem visited_append {places places' : List Place} {first second third : List Warning}
    (h : Visited weighing places first second) (h' : Visited weighing places' second third) :
    Visited weighing (places ++ places') first third := by
  rcases h with ⟨visits, rfl, hvalid, rfl⟩
  rcases h' with ⟨visits', rfl, hvalid', rfl⟩
  refine ⟨visits ++ visits', List.map_append, fun v hv => ?_, ?_⟩
  · exact (List.mem_append.1 hv).elim (hvalid v) (hvalid' v)
  · rw [List.flatMap_append, List.append_assoc]

/-- An item that is used turns into one usage. -/
theorem usage_of_isUsed {item : Item} (hused : item.isUsed) (listed : Listed) (walk : Walk) :
    ∃ u, (resolveItem weighing item listed walk).1 = .usage u ∧ item.Yields u := by
  have hyields := yields_resolveItem weighing item listed walk
  rw [YieldsAll, List.filter_cons, if_pos hused, List.filter_nil] at hyields
  cases hresolved : (resolveItem weighing item listed walk).1 with
  | text s =>
      rw [hresolved] at hyields
      cases hyields
  | nothing =>
      rw [hresolved] at hyields
      cases hyields
  | usage u =>
      rw [hresolved] at hyields
      cases hyields with
      | cons hfirst _ => exact ⟨u, rfl, hfirst⟩

/-- Texts and declarations leave nothing behind, and warn of nothing. -/
theorem nothing_of_not_isUsed {item : Item} (hunused : item.isUsed = false) (listed : Listed)
    (walk : Walk) :
    (resolveItem weighing item listed walk).1.usages = [] ∧ item.warnings listed walk = [] := by
  cases item with
  | text s => exact ⟨rfl, rfl⟩
  | declaration name => exact ⟨rfl, rfl⟩
  | _ => exact absurd hunused.symm Bool.false_ne_true

/-- A single item is visited where it stands, if it is used. -/
theorem visited_single {item : Item} (hsingle : ∀ options, item ≠ .alternative options)
    {listed : Listed} {before : List Usage} (h : listed.Holds before) (walk : Walk) :
    Visited weighing
      (Usage.placesOf before ([item].filter Item.isUsed)
        (resolveItem weighing item listed walk).1.usages)
      walk.warnings (resolveItem weighing item listed walk).2.2.warnings := by
  rw [walk_resolveItem weighing hsingle, Item.passed, List.filter_cons, List.filter_nil]
  by_cases hused : item.isUsed
  · rcases usage_of_isUsed weighing hused listed walk with ⟨u, hresolved, hyields⟩
    rw [if_pos hused, hresolved, Resolved.usages, placesOf_cons, placesOf_nil, List.append_nil,
      (places_single hsingle hyields before).1]
    -- The one visit is made with the lists and the walk of this moment.
    refine ⟨[⟨⟨before, item, u⟩, listed, walk⟩], rfl, fun v hv => ?_, ?_⟩
    · rw [List.mem_singleton.1 hv]
      exact ⟨hsingle, h, hresolved⟩
    · rw [List.flatMap_singleton]
      rfl
  · rcases nothing_of_not_isUsed weighing (Bool.not_eq_true _ ▸ hused) listed walk with
      ⟨hnothing, hquiet⟩
    rw [if_neg hused, hnothing, hquiet, List.append_nil, placesOf_nil]
    exact visited_nil weighing _

/-- Items have been passed, one after another, and turned into usages: the list holds these after
    what was seen before, and their places have been visited. -/
structure Passed (before : List Usage) (start : List Warning) (done : List Item)
    (us : List Usage) (listed : Listed) (warnings : List Warning) : Prop where
  yields : YieldsAll done us
  holds : listed.Holds (before ++ us)
  visited : Visited weighing (Usage.placesOf before (done.filter Item.isUsed) us) start warnings

theorem passed_nil {listed : Listed} {before : List Usage} (h : listed.Holds before)
    (warnings : List Warning) : Passed weighing before warnings [] [] listed warnings where
  yields := .nil
  holds := by rwa [List.append_nil]
  visited := visited_nil weighing warnings

/-- One more item is passed if its places are visited. -/
theorem passed_concat {before : List Usage} {start : List Warning} {done : List Item}
    {us : List Usage} {listed : Listed} {walk : Walk}
    (h : Passed weighing before start done us listed walk.warnings) (item : Item)
    (hitem : Visited weighing
      (Usage.placesOf (before ++ us) ([item].filter Item.isUsed)
        (resolveItem weighing item listed walk).1.usages)
      walk.warnings (resolveItem weighing item listed walk).2.2.warnings) :
    Passed weighing before start (done ++ [item])
      (us ++ (resolveItem weighing item listed walk).1.usages)
      (resolveItem weighing item listed walk).2.1
      (resolveItem weighing item listed walk).2.2.warnings where
  yields := yieldsAll_append h.yields (yields_resolveItem weighing item listed walk)
  holds := by
    rw [← List.append_assoc]
    exact holds_resolveItem weighing h.holds item walk
  visited := by
    rw [List.filter_append, placesOf_append h.yields.length_eq]
    exact visited_append weighing h.visited hitem

/-- An item is resolved by visiting its places. -/
theorem visited_resolveItem (item : Item) {listed : Listed} {before : List Usage}
    (h : listed.Holds before) (walk : Walk) :
    Visited weighing
      (Usage.placesOf before ([item].filter Item.isUsed)
        (resolveItem weighing item listed walk).1.usages)
      walk.warnings (resolveItem weighing item listed walk).2.2.warnings := by
  induction item using Item.induction generalizing listed before walk with
  | single item hsingle => exact visited_single weighing hsingle h walk
  | alternative options ih =>
      have hoptions := resolveOptions_keeps weighing
        (fun done us l w => Passed weighing before walk.warnings done us l w.warnings)
        options
        (fun option hmem _ _ _ w hpassed =>
          passed_concat weighing hpassed option (ih option hmem hpassed.holds w))
        [] [] listed walk (passed_nil weighing h walk.warnings)
      -- The copy of the lists is dropped, but its warnings are kept.
      rcases hoptions with ⟨_, hoptions⟩
      rw [resolveItem_alternative, Resolved.usages]
      have hplaces := placesOf_alternative before options
        (resolveOptions weighing options listed walk).1
      exact hplaces ▸ hoptions.visited

/-- A step passes its items. -/
theorem passed_compileStep {before : List Usage} {start : List Warning} {done : List Item}
    {us : List Usage} {listed : Listed} {walk : Walk}
    (h : Passed weighing before start done us listed walk.warnings) (node : StepNode) :
    Passed weighing before start (done ++ node.items)
      (us ++ (compileStep weighing node listed walk).1.usages)
      (compileStep weighing node listed walk).2.1
      (compileStep weighing node listed walk).2.2.warnings := by
  have hitems := compileItems_keeps weighing
    (fun done' p l w => Passed weighing before start (done ++ done') (us ++ p.usages) l w.warnings)
    (fun done' item p l w hpassed => by
      rw [usages_takeIn, (scope_takeIn _ _ _).2, ← List.append_assoc, ← List.append_assoc]
      exact passed_concat weighing hpassed item
        (visited_resolveItem weighing item hpassed.holds w))
    node.items [] .empty listed (openStep walk)
    (by
      -- The step has no content yet, and opening it warns of nothing.
      rw [List.append_nil]
      exact (List.append_nil us).symm ▸ h)
  exact hitems

/-- Warnings about items are among those of visits. -/
theorem visited_filter {places : List Place} {before after : List Warning}
    (h : Visited weighing places before after) :
    Visited weighing places (before.filter Warning.isOfItem) (after.filter Warning.isOfItem) := by
  rcases h with ⟨visits, hplaces, hvalid, rfl⟩
  have hall : ∀ w ∈ visits.flatMap Visit.warnings, w.isOfItem := by
    intro w hw
    rcases List.mem_flatMap.1 hw with ⟨v, -, hmem⟩
    exact isOfItem_of_mem_warnings hmem
  refine ⟨visits, hplaces, hvalid, ?_⟩
  rw [List.filter_append, List.filter_eq_self.2 hall]

theorem filter_openSection (header : SectionHeader) (walk : Walk) :
    (openSection header walk).warnings.filter Warning.isOfItem
      = walk.warnings.filter Warning.isOfItem := by
  cases hproduces : header.produces with
  | none => simp only [openSection, hproduces]
  | some name =>
      simp only [openSection, hproduces, Walk.warnIf_eq, Walk.inRegistry, Walk.inScope,
        List.filter_append]
      split <;> simp only [List.filter_cons, List.filter_nil, Warning.isOfItem,
        Bool.false_eq_true, if_false, List.append_nil]

theorem warnings_closeSection (header : SectionHeader) (ingredients : List Usage) (walk : Walk) :
    (closeSection header ingredients walk).warnings = walk.warnings := by
  cases hproduces : header.produces with
  | none => simp only [closeSection, hproduces]
  | some name => simp only [closeSection, hproduces, Walk.inScope]

/-- A section is compiled by visiting its places. -/
theorem visited_compileSection (header : SectionHeader) (children : List Block) (walk : Walk) :
    Visited weighing (sectionPlaces children (compileSection weighing header children walk).1)
      (openSection header walk).warnings
      (compileSection weighing header children walk).2.warnings := by
  have hblocks := compileBlocks_keeps weighing
    (fun done l w => Passed weighing [] (openSection header walk).warnings
      ((done.map Prod.fst).flatMap StepNode.items) ((done.map Prod.snd).flatMap Step.usages) l
      w.warnings)
    (fun done node l w hpassed => by
      rw [List.map_append, List.map_append, List.flatMap_append, List.flatMap_append,
        List.map_singleton, List.map_singleton, List.flatMap_singleton, List.flatMap_singleton]
      exact passed_compileStep weighing hpassed node)
    children [] .empty (openSection header walk) (passed_nil weighing holds_empty _)
  have hlength := length_steps_compileBlocks weighing children .empty (openSection header walk)
  rw [List.nil_append, List.map_fst_zip (Nat.le_of_eq hlength.symm),
    List.map_snd_zip (Nat.le_of_eq hlength)] at hblocks
  -- The places of all steps together are those of the section, where nothing comes before.
  have hvisited := hblocks.visited
  rw [List.filter_flatMap] at hvisited
  simp only [compileSection, warnings_closeSection]
  exact hvisited

/-- A document is compiled by visiting its places, and its warnings about items are those of the
    visits. -/
theorem visited_compileSections (blocks : List Block) :
    Visited weighing (documentPlaces weighing blocks) []
      ((compileSections weighing blocks).warnings.filter Warning.isOfItem) := by
  have hsections := compileSections_keeps weighing
    (fun (done : List ((SectionHeader × List Block) × Section)) w =>
      Visited weighing (done.flatMap fun pair => sectionPlaces pair.1.2 pair.2) []
        (w.warnings.filter Warning.isOfItem))
    (visited_nil weighing [])
    (fun done header children w hdone => by
      rw [List.flatMap_append, List.flatMap_singleton]
      have hsection := visited_filter weighing (visited_compileSection weighing header children w)
      rw [filter_openSection] at hsection
      exact visited_append weighing hdone hsection)
    blocks
  exact hsections

/-- What holds on each visit holds at all places. -/
theorem forall_documentPlaces {P : Place → Prop}
    (hvisit : ∀ v : Visit, v.Valid weighing → P v.place) (blocks : List Block) :
    ∀ p ∈ documentPlaces weighing blocks, P p := by
  rcases visited_compileSections weighing blocks with ⟨visits, hplaces, hvalid, -⟩
  intro p hp
  rw [← hplaces] at hp
  rcases List.mem_map.1 hp with ⟨v, hv, rfl⟩
  exact hvisit v (hvalid v hv)

/-- Warnings of one kind about items can be told from the places, if those of a visit can be told
    from its place. -/
theorem map_filter_warnings {β : Type} (test : Warning → Bool) (tell : Warning → β)
    (told : Place → List β)
    (hsection : ∀ name title, test (.preparationRedeclared name title) = false)
    (hvisit : ∀ v : Visit, v.Valid weighing → (v.warnings.filter test).map tell = told v.place)
    (blocks : List Block) :
    ((compileSections weighing blocks).warnings.filter test).map tell
      = (documentPlaces weighing blocks).flatMap told := by
  rcases visited_compileSections weighing blocks with ⟨visits, hplaces, hvalid, hwarnings⟩
  -- A warning that passes the test is about an item, so it was raised on a visit.
  have htest : ∀ w : Warning, test w = (test w && w.isOfItem) := by
    intro w
    cases w with
    | preparationRedeclared name title => rw [hsection, Bool.false_and]
    | _ => exact (Bool.and_true _).symm
  rw [List.filter_congr fun w _ => htest w, ← List.filter_filter, hwarnings, List.nil_append,
    List.filter_flatMap, List.map_flatMap, ← hplaces, List.flatMap_map]
  exact List.flatMap_congr fun v hv => hvisit v (hvalid v hv)

/-- If each place deserves one warning of a kind or none, the warnings of that kind are those that
    the places deserve. -/
theorem filter_warnings_compileSections (test : Warning → Bool) (deserved : Place → Option Warning)
    (hsection : ∀ name title, test (.preparationRedeclared name title) = false)
    (hvisit : ∀ v : Visit, v.Valid weighing →
      v.warnings.filter test = (deserved v.place).toList)
    (blocks : List Block) :
    (compileSections weighing blocks).warnings.filter test
      = (documentPlaces weighing blocks).filterMap deserved := by
  have hwarnings := map_filter_warnings weighing test id (fun p => (deserved p).toList) hsection
    (fun v hvalid => by rw [List.map_id, hvisit v hvalid]) blocks
  rwa [List.map_id, ← List.filterMap_eq_flatMap_toList] at hwarnings

end Mise
