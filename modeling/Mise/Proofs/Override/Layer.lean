import Mise.Proofs.Dictionary.Insertion
import Mise.Proofs.Shopping.Parent
import Mise.Proofs.Usage.Form
import Mise.Proofs.Weighing.Override

/-!
# Layers of Overrides

Overrides come in layers: those of a project, and those of a recipe over them, which themselves are
made of one entry after another. In each of these steps what comes later wins, and it wins for an
identity, whatever the spellings of the name. So the figure of a name can be told without the
steps: it is that of the last entry with the identity of the name, and if no entry has it, that of
the project.

This figure is all that overrides contribute to a compilation. Whatever is weighed, an ingredient, a
mention with a quantity or a parent in the shopping list, is weighed with the figure of its name.

## Main definitions

* `Recipe.overrideTexts`: The texts that a recipe states overrides in.
* `lastStated?`: What texts state of a name last.
* `CompileOptions.figure?`: The figure of a name in a recipe.
* `Usage.WeighedWith`, `ParentEntry.WeighedWith`: A usage and a parent are weighed with figures.

## Theorems

* `ofEntries_eq`: The overrides of some texts as insertions of what they state.
* `of?_ofEntries`: The last statement counts.
* `of?_eq_of?_iff`: Two names have the same override if they have the same identity.
* `weighedWith_compileRecipe`, `parents_weighedWith`: What figures are used for.
* `overrides_layered`: The laws of layers, and the figures that recipes are compiled with.
* `honeyWater_layered`: A recipe with two figures of one ingredient, over a project with a third.
-/

namespace Mise

/-- The texts in which a recipe may state overrides. -/
def Recipe.overrideTexts (r : Recipe) : List String :=
  (r.info.get? "densities").elim [] MetaValue.entries

/-- What texts state of a name last, in any spelling of the name. -/
def lastStated? (texts : List String) (name : String) : Option Float :=
  ((texts.filterMap overrideEntry?).filter
    fun e => slugify e.1 = slugify name).getLast?.map Prod.snd

/-- The figure that a name has in a recipe. -/
def CompileOptions.figure? (o : CompileOptions) (r : Recipe) (name : String) : Option Float :=
  (lastStated? r.overrideTexts name).or (o.overrides.of? name)

/-- Metadata that state overrides in a list of texts. -/
def Meta.stating (info : Meta) (texts : List String) : Meta :=
  info.insert "densities" (.list texts)

section Layers

/-- What a text states, under the identity of the name. -/
def statement? (text : String) : Option (String × Float) :=
  overrideEntry? text |>.map fun e => (slugify e.1, e.2)

theorem filterMap_statement? (texts : List String) :
    texts.filterMap statement?
      = (texts.filterMap overrideEntry?).map fun e => (slugify e.1, e.2) := by
  rw [List.map_filterMap]
  rfl

/-- The overrides of some texts are made of what they state, one after another. -/
theorem ofEntries_eq (texts : List String) :
    Overrides.ofEntries texts = Dictionary.ofList (texts.filterMap statement?) := by
  induction texts using List.reverseRecOn with
  | nil => rfl
  | append_singleton texts text ih =>
      rw [Overrides.ofEntries] at ih
      rw [Overrides.ofEntries, List.foldl_concat, ih, Overrides.putEntry, List.filterMap_append]
      cases hentry : overrideEntry? text with
      | none =>
          have hnone : statement? text = none := by rw [statement?, hentry, Option.map_none]
          rw [List.filterMap_cons_none hnone, List.filterMap_nil, List.append_nil]
      | some e =>
          have hsome : statement? text = some (slugify e.1, e.2) := by
            rw [statement?, hentry, Option.map_some]
          rw [List.filterMap_cons_some hsome, List.filterMap_nil, Dictionary.ofList,
            Dictionary.ofList, List.foldl_concat]
          rfl

/-- The last statement of a name counts. -/
theorem of?_ofEntries (texts : List String) (name : String) :
    (Overrides.ofEntries texts).of? name = lastStated? texts name := by
  rw [ofEntries_eq, Overrides.of?, Dictionary.get?_ofList, filterMap_statement?, lastOf?,
    List.filter_map, List.getLast?_map, Option.map_map]
  rfl

/-- Texts that follow others are laid over them. -/
theorem ofEntries_append (xs ys : List String) :
    Overrides.ofEntries (xs ++ ys) = (Overrides.ofEntries xs).overlay (Overrides.ofEntries ys) := by
  rw [ofEntries_eq, ofEntries_eq, ofEntries_eq, List.filterMap_append, Dictionary.ofList_append]

/-- Texts that state nothing may as well be left out. -/
theorem ofEntries_filter (texts : List String) :
    Overrides.ofEntries (texts.filter fun text => Option.isSome <| overrideEntry? text)
      = Overrides.ofEntries texts := by
  have hkept : ∀ text, (if Option.isSome <| overrideEntry? text then statement? text else none)
      = statement? text := by
    intro text
    rw [statement?]
    cases overrideEntry? text with
    | none => rw [Option.isSome_none, if_neg Bool.false_ne_true, Option.map_none]
    | some e => rw [Option.isSome_some, if_pos rfl]
  rw [ofEntries_eq, ofEntries_eq, List.filterMap_filter]
  exact congrArg Dictionary.ofList (congrArg (fun f => texts.filterMap f) (funext hkept))

theorem ofMeta_stating (info : Meta) (texts : List String) :
    Overrides.ofMeta (info.stating texts) = Overrides.ofEntries texts := by
  rw [Overrides.ofMeta, Overrides.metaKey, Meta.stating, Dictionary.get?_insert, if_pos rfl]
  rfl

theorem of?_overlay (a b : Overrides) (name : String) :
    Overrides.of? (a.overlay b) name = (b.of? name).or (a.of? name) :=
  Dictionary.get?_overlay a b (slugify name)

/-- Two names have the same override, whatever is overridden, if they have the same identity. -/
theorem of?_eq_of?_iff (name other : String) :
    (∀ o : Overrides, o.of? name = o.of? other) ↔ slugify name = slugify other := by
  constructor
  · intro h
    by_contra hne
    have hname := h (Overrides.put Dictionary.empty other 1.0)
    rw [Overrides.of?, Overrides.of?, Overrides.put, Dictionary.get?_insert, if_neg hne,
      Dictionary.get?_insert, if_pos rfl] at hname
    exact absurd hname.symm (Option.some_ne_none _)
  · intro h o
    rw [Overrides.of?, Overrides.of?, h]

/-- The overrides that hold for a recipe give a name its figure. -/
theorem of?_overridesFor (o : CompileOptions) (r : Recipe) (name : String) :
    (o.overridesFor r).of? name = o.figure? r name := by
  have hmeta : (Overrides.ofMeta r.info).of? name = lastStated? r.overrideTexts name := by
    rw [Overrides.ofMeta, Overrides.metaKey, Recipe.overrideTexts]
    cases r.info.get? "densities" with
    | none => rfl
    | some value => exact of?_ofEntries value.entries name
  rw [CompileOptions.overridesFor, of?_overlay, hmeta, CompileOptions.figure?]

end Layers

/-- A mass of a number of units of what has a name, by the figure of the name and what is known of
    it. -/
def massWith (figure : String → Option Float) (source : IngredientSource) (amount : Amount)
    (unit : Option String) (name : String) : Option MassFigure :=
  amount.number?.bind fun x => convert? x (unit.getD "") (figure name) (source.lookup? name)

/-- An ingredient is weighed with the figure of its name, and so is a mention with a quantity. -/
def Usage.WeighedWith (figure : String → Option Float) (source : IngredientSource) : Usage → Prop
  | .ingredient u =>
    u.mass = u.quantity.bind fun amount => massWith figure source amount u.unit u.name
  | .mention u =>
    ∀ amount, u.quantity = some amount → u.mass = massWith figure source amount u.unit u.name
  | _ => True

/-- A parent is weighed with the figure of its name. -/
def ParentEntry.WeighedWith (figure : String → Option Float) (source : IngredientSource)
    (e : ParentEntry) : Prop :=
  e.mass = massWith figure source (.number e.quantity) none e.name

section Figures

variable (w : Weighing)

theorem mass?_eq (x : Float) (unit name : String) :
    w.mass? x unit name = convert? x unit (w.overrides.of? name) (w.source.lookup? name) := by
  rw [Weighing.mass?, Weighing.massOf?, Option.bind_some, Option.bind_some]

/-- A share has grams, which are weighed as such. -/
theorem weighedWith_share (i : IngredientItem) (s : Share) (listed : Listed) (walk : Walk) :
    (Usage.ingredient (resolveShare w i s listed walk).1).WeighedWith w.overrides.of?
      w.source := by
  rcases resolveShare_eq w i s listed walk with ⟨amount, ghost, hshare⟩
  have hname : (writtenIngredient i).name = i.name := rfl
  simp only [Usage.WeighedWith, hshare, hname, mass?_eq, massWith, Option.bind_some,
    Option.getD_some, Amount.number?]

theorem weighedWith_written (i : IngredientItem) :
    (Usage.ingredient (weighedIngredient w i)).WeighedWith w.overrides.of? w.source := by
  have hname : (writtenIngredient i).name = i.name := rfl
  simp only [Usage.WeighedWith, weighedIngredient, hname, mass?_eq, ItemUsage.number?]
  cases (writtenIngredient i).quantity with
  | none => rfl
  | some amount => simp only [Option.bind_some, massWith]

theorem weighedWith_mention (m : Mention) (walk : Walk) :
    (Usage.mention (resolveMention w m walk).1).WeighedWith w.overrides.of? w.source := by
  intro amount hamount
  simp only [resolveMention] at hamount
  simp only [resolveMention, hamount, mass?_eq, massWith]

/-- Whatever an item is resolved to, it is weighed with the override of its name. -/
theorem weighedWith_resolveItem {item : Item} {listed : Listed} {walk : Walk} {usage : Usage}
    (h : (resolveItem w item listed walk).1 = .usage usage) :
    usage.WeighedWith w.overrides.of? w.source := by
  cases item with
  | ingredient i =>
      rcases i.share_or_written with ⟨s, hshare⟩ | hwritten
      · rw [usage_share w hshare, Resolved.usage.injEq] at h
        rw [← h]
        exact weighedWith_share w i s listed _
      · simp only [resolveItem, resolveIngredient_written w hwritten, resolveWritten_eq,
          Resolved.usage.injEq] at h
        rw [← h]
        exact weighedWith_written w i
  | mention m =>
      simp only [resolveItem, Resolved.usage.injEq] at h
      rw [← h]
      exact weighedWith_mention w m walk
  | alternative options =>
      simp only [resolveItem, Resolved.usage.injEq] at h
      rw [← h]
      trivial
  | cookware _ | timer _ | temperature _ | comment _ =>
      simp only [resolveItem, Resolved.usage.injEq] at h
      rw [← h]
      trivial
  | text _ | declaration _ => simp only [resolveItem, reduceCtorEq] at h

variable (o : CompileOptions) (r : Recipe)

/-- In a compiled recipe, what is weighed is weighed with the figure of its name. -/
theorem weighedWith_compileRecipe :
    ∀ usage ∈ (compileRecipe o r).usages, usage.WeighedWith (o.figure? r) o.source := by
  have hfigure : (o.weighingFor r).overrides.of? = o.figure? r := funext (of?_overridesFor o r)
  have hplaces := forall_documentPlaces (o.weighingFor r)
    (P := fun p => p.usage.WeighedWith (o.figure? r) o.source)
    (fun v hvalid => hfigure ▸ weighedWith_resolveItem (o.weighingFor r) hvalid.usage) r.children
  rcases usages_compileRecipe o r with ⟨ids, husages⟩
  intro usage husage
  rw [husages, List.mem_map] at husage
  rcases husage with ⟨unmarked, hmem, rfl⟩
  rw [← (map_documentPlaces (o.weighingFor r) r.children).2, List.mem_map] at hmem
  rcases hmem with ⟨p, hp, rfl⟩
  have hweighed := hplaces p hp
  cases hu : p.usage with
  | ingredient u =>
      rw [hu] at hweighed
      rcases mark_eq ids u with ⟨circular, hmark⟩
      rw [mark_ingredient, hmark]
      exact hweighed
  | mention u =>
      rw [hu] at hweighed
      exact hweighed
  | alternative options =>
      rw [mark_alternative]
      trivial
  | _ => trivial

/-- In a compiled recipe, a parent is weighed with the figure of its name. -/
theorem parents_weighedWith :
    ∀ e ∈ (compileRecipe o r).shopping.filterMap ShoppingItem.parent?,
      e.WeighedWith (o.figure? r) o.source := by
  intro e he
  rcases List.mem_filterMap.1 he with ⟨item, hitem, hparent⟩
  -- Which lines a basket has does not matter: parents are weighed when they are listed.
  have hitems : ∃ basket : Basket, item ∈ basket.items (o.weighingFor r) := ⟨_, hitem⟩
  rcases hitems with ⟨basket, hitem⟩
  rcases List.mem_append.1 hitem with hitem | hitem
  · rcases List.mem_append.1 hitem with hitem | hitem
    · rcases List.mem_map.1 hitem with ⟨line, -, rfl⟩
      cases hparent
    · rcases List.mem_map.1 hitem with ⟨line, -, rfl⟩
      rcases Option.some.inj hparent with rfl
      simp only [ParentEntry.WeighedWith, PartTally.entry, mass?_eq, massWith, Amount.number?,
        Option.bind_some, Option.getD_none, CompileOptions.weighingFor, of?_overridesFor]
  · rcases List.mem_map.1 hitem with ⟨line, -, rfl⟩
    cases hparent

end Figures

/-- The laws of layers, and what they come to. The upper one of two layers wins wherever it says
    something; layers may be put together in any grouping, and an empty one changes nothing.
    The overrides that a recipe states in two lists of texts, one after the other, are those of the
    second list laid over those of the first, and texts that state nothing can be left out. Names
    have the same override just if they have the same identity. So a recipe is compiled with the
    last figure that it states of a name in any spelling, or else with the one of the project: this
    is the figure that every ingredient, every mention with a quantity and every parent in the
    shopping list is weighed with. -/
theorem overrides_layered (a b c : Overrides) (name other : String) (info : Meta)
    (xs ys : List String) (o : CompileOptions) (r : Recipe) :
    Overrides.of? (a.overlay b) name = (b.of? name).or (a.of? name)
      ∧ (a.overlay b).overlay c = a.overlay (b.overlay c)
      ∧ a.overlay .empty = a
      ∧ Dictionary.empty.overlay a = a
      ∧ Overrides.ofMeta (info.stating (xs ++ ys))
        = (Overrides.ofMeta (info.stating xs)).overlay (Overrides.ofMeta (info.stating ys))
      ∧ Overrides.ofMeta (info.stating (xs.filter fun text => Option.isSome <| overrideEntry? text))
        = Overrides.ofMeta (info.stating xs)
      ∧ ((∀ o : Overrides, o.of? name = o.of? other) ↔ slugify name = slugify other)
      ∧ (o.overridesFor r).of? name = o.figure? r name
      ∧ (∀ usage ∈ (compileRecipe o r).usages, usage.WeighedWith (o.figure? r) o.source)
      ∧ ∀ e ∈ (compileRecipe o r).shopping.filterMap ShoppingItem.parent?,
          e.WeighedWith (o.figure? r) o.source := by
  refine ⟨of?_overlay a b name, Dictionary.overlay_assoc a b c, Dictionary.overlay_empty a,
    Dictionary.empty_overlay a, ?_, ?_, of?_eq_of?_iff name other, of?_overridesFor o r name,
    weighedWith_compileRecipe o r, parents_weighedWith o r⟩
  · rw [ofMeta_stating, ofMeta_stating, ofMeta_stating, ofEntries_append]
  · rw [ofMeta_stating, ofMeta_stating, ofEntries_filter]

/-- Ten millilitres of honey. -/
def honey : IngredientItem :=
  ⟨"honey", [], some (.measured ⟨some (.single 10.0 none), some "ml", false⟩), none, none, none⟩

/-- Honey water, with two figures of honey in different spellings and a text that states nothing. -/
def honeyWater : Recipe where
  kind := recipeKind
  info := Meta.stating Dictionary.empty ["Honey: 1.3", "HONEY : 1.4 g/ml", "honey 1.5"]
  children := [.section noHeader [.step ⟨none, [.ingredient honey]⟩]]

/-- Over a project with yet another figure of honey, honey water is compiled with the last figure
    that it states. -/
theorem honeyWater_layered :
    let o : CompileOptions := ⟨Overrides.ofList [("honey", 1.0)], stapleSource⟩
    (o.overridesFor honeyWater).of? "Honey" = some 1.4
      ∧ ∃ u, (compileRecipe o honeyWater).usages = [.ingredient u]
        ∧ u.mass = some ⟨14.0, .explicit, false⟩ := by
  intro o
  rcases overrides_layered o.overrides .empty .empty "Honey" "honey" honeyWater.info [] [] o
    honeyWater with ⟨-, -, -, -, -, -, -, hfigure, husages, -⟩
  rcases usages_compileRecipe o honeyWater with ⟨ids, hcompiled⟩
  rcases mark_eq ids (weighedIngredient (o.weighingFor honeyWater) honey) with ⟨circular, hmark⟩
  have hdocument : documentUsages (o.weighingFor honeyWater) honeyWater.children
      = [.ingredient (weighedIngredient (o.weighingFor honeyWater) honey)] := rfl
  rw [hdocument, List.map_singleton, mark_ingredient, hmark] at hcompiled
  have hquantity : (writtenIngredient honey).quantity = some (.number 10.0) := rfl
  have hunit : (writtenIngredient honey).unit = some "ml" := rfl
  have hname : (writtenIngredient honey).name = "honey" := rfl
  have hmass := husages _ (hcompiled ▸ List.mem_singleton_self _)
  simp only [Usage.WeighedWith, weighedIngredient, hquantity, hunit, hname] at hmass
  exact ⟨hfigure.trans (by decide +kernel), _, hcompiled, hmass.trans (by decide +kernel)⟩

end Mise
