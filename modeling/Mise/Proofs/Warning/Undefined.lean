import Mise.Proofs.Registry.Document
import Mise.Proofs.Resolution.Turn
import Mise.Proofs.Warning.Code

/-!
# Undefined References

Two kinds of items refer back, and each has its own notion of what has come up before. A mention
refers to an identity, and every name that the registry holds will do: that of an ingredient, of a
parent, or of a preparation. An ingredient marked with `&` refers to an ingredient by its display
name, to the letter, and only one that was neither marked nor a share will do.

So the two drift apart. A marked ingredient that is undefined is entered all the same, and a mention
of it is fine from then on; a second one marked like it is as undefined as the first. Which
references are undefined can be told from the turns before them, and the walk warns of exactly
these, in order.

## Main definitions

* `Turn.registers`: The names whose identities can be mentioned after a turn.
* `Turn.usedName?`: The display name that a marked ingredient can refer to after a turn.
* `Turn.undefined?`: The warning that a turn deserves, given those before it.
* `undefinedFrom`: The warnings that turns deserve.
* `KnowsNames`: The walk knows the names that have come up.

## Theorems

* `hasIngredient_entries`, `seen_notes`: What an item adds to the two notions.
* `filter_referenceCodes_warnings`: An item is warned of as its turn deserves.
* `keptByTurns_knowsNames`: Each turn keeps the names known.
* `undefined_references_of_turns`: The references that a document is warned of.
-/

namespace Mise

/-- Whether the quantity of an ingredient is a share of something else. -/
def IngredientItem.isShare (i : IngredientItem) : Bool :=
  match i.quantity with
  | some (.share _) => true
  | _ => false

/-- The symbol in front of an ingredient that was used before. -/
def referenceSymbol : String := "&"

namespace Turn

/-- The names whose identities can be mentioned after a turn: that of an ingredient and of its
    parent, or that of a preparation. -/
def registers : Turn → List String
  | .opens header => header.produces.toList
  | .item single => single.registers

/-- The display name that a marked ingredient can refer to after a turn: that of an ingredient that
    is neither marked nor a share. -/
def usedName? : Turn → Option String
  | .item (.ingredient i) =>
    if referenceSymbol ∈ i.modifiers ∨ i.isShare then none else some i.name
  | _ => none

/-- The warning that a turn deserves, given those before it. A mention deserves one if nothing of
    its identity has come up, and a marked ingredient that is no share if its name has not been
    used. -/
def undefined? (before : List Turn) : Turn → Option Warning
  | .item (.mention m) =>
    if slugify m.name ∈ (before.flatMap registers).map slugify then none
    else some (.undefinedMention m.name)
  | .item (.ingredient i) =>
    if referenceSymbol ∈ i.modifiers ∧ ¬ i.isShare ∧ i.name ∉ before.filterMap usedName? then
      some (.undefinedIngredient i.name)
    else none
  | _ => none

end Turn

/-- The warnings that turns deserve, after those before them. -/
def undefinedFrom (before : List Turn) : List Turn → List Warning
  | [] => []
  | turn :: turns => (turn.undefined? before).toList ++ undefinedFrom (before ++ [turn]) turns

/-- The codes of the warnings about undefined references. -/
def referenceCodes : List String :=
  ["UNDEFINED_REFERENCE"]

/-- The warnings about undefined references. -/
def referenceWarnings (warnings : List Warning) : List Warning :=
  warnings.filter fun w => w.code ∈ referenceCodes

theorem referenceWarnings_append (warnings warnings' : List Warning) :
    referenceWarnings (warnings ++ warnings')
      = referenceWarnings warnings ++ referenceWarnings warnings' :=
  List.filter_append warnings warnings'

theorem undefinedFrom_concat (before turns : List Turn) (turn : Turn) :
    undefinedFrom before (turns ++ [turn])
      = undefinedFrom before turns ++ (turn.undefined? (before ++ turns)).toList := by
  induction turns generalizing before with
  | nil =>
      simp only [List.nil_append, undefinedFrom, List.append_nil]
  | cons first rest ih =>
      rw [List.cons_append, undefinedFrom, undefinedFrom, ih, List.append_assoc, List.append_assoc,
        List.singleton_append]

-- A share is resolved as one, and no other ingredient is.
theorem isShare_iff (i : IngredientItem) : i.isShare ↔ ∃ s, i.quantity = some (.share s) := by
  rw [IngredientItem.isShare]
  cases i.quantity with
  | none => simp only [Bool.false_eq_true, reduceCtorEq, exists_false]
  | some quantity =>
      cases quantity with
      | share s => simp only [Option.some.injEq, Quantity.share.injEq, exists_eq']
      | measured m => simp only [Bool.false_eq_true, Option.some.injEq, reduceCtorEq, exists_false]
      | words text => simp only [Bool.false_eq_true, Option.some.injEq, reduceCtorEq, exists_false]

theorem ofSymbol_eq_reference {symbol : String} :
    Modifier.ofSymbol symbol = .reference ↔ symbol = referenceSymbol := by
  constructor
  · intro h
    rw [Modifier.ofSymbol] at h
    -- Only one of the symbols with a meaning of their own has this one.
    by_cases hreference : symbol = "&"
    · exact hreference
    · rw [if_neg hreference] at h
      split_ifs at h
  · intro h
    rw [h]
    decide

-- An ingredient is resolved as a mention exactly if it carries the symbol for one.
theorem isMention_iff (i : IngredientItem) : i.isMention ↔ referenceSymbol ∈ i.modifiers := by
  have hmodifiers : (writtenIngredient i).modifiers = i.modifiers.map .ofSymbol := rfl
  rw [IngredientItem.isMention, ItemUsage.hasModifier, hmodifiers, List.contains_iff_mem,
    List.mem_map]
  simp only [ofSymbol_eq_reference, exists_eq_right]

theorem hasIngredient_change (r : Registry) (id name : String)
    (f : IngredientEntry → IngredientEntry) (other : String) :
    (r.change id name f).hasIngredient other ↔ r.hasIngredient other ∨ other = id := by
  rw [Registry.hasIngredient, Registry.hasIngredient, Registry.change, Ledger.has, Ledger.has,
    Ledger.get?_alter]
  by_cases h : other = id
  · rw [if_pos h]
    simp only [Option.isSome_some, h, or_true]
  · rw [if_neg h]
    simp only [h, or_false]

/-- An item makes known the identities of the names that it enters. -/
theorem hasIngredient_entries (item : Item) (r : Registry) (id : String) :
    (item.entries r).hasIngredient id
      ↔ r.hasIngredient id ∨ id ∈ item.registers.map slugify := by
  cases item with
  | ingredient i =>
      simp only [Item.entries, Registry.enter, Item.registers]
      cases i.origin with
      | none =>
          simp only [Registry.intern, hasIngredient_change, Option.map_none, Option.toList_none,
            List.map_cons, List.map_nil, List.mem_singleton]
      | some origin =>
          simp only [Registry.intern, Registry.markPart, Registry.markWhole, hasIngredient_change,
            Option.map_some, Option.toList_some, List.map_cons, List.map_nil, List.mem_cons,
            List.not_mem_nil, or_false]
          -- The ingredient is entered twice, for its unit and for its parent.
          rw [or_assoc, or_assoc, ← or_assoc (a := id = slugify i.name), or_self]
  | declaration name =>
      simp only [Item.entries, Registry.markPreparation, hasIngredient_change, Item.registers,
        List.map_cons, List.map_nil, List.mem_singleton]
  | cookware c =>
      simp only [Item.entries, Registry.internCookware, Registry.hasIngredient, Item.registers,
        List.map_nil, List.not_mem_nil, or_false]
  | _ => simp only [Item.entries, Item.registers, List.map_nil, List.not_mem_nil, or_false]

theorem seen_noteUse (s : Scope) (name : String) : (s.noteUse name).seen = s.seen := by
  unfold Scope.noteUse
  split <;> rfl

theorem notes_written {i : IngredientItem} (h : ∀ s, i.quantity ≠ some (.share s)) (s : Scope) :
    (Item.ingredient i).notes s = if i.isMention then s.noteUse i.name else s.see i.name := by
  simp only [Item.notes]

/-- An item makes a display name known if it is an ingredient that can be referred to. -/
theorem seen_notes (item : Item) (s : Scope) (name : String) :
    (item.notes s).seen.has name
      ↔ s.seen.has name ∨ (Turn.item item).usedName? = some name := by
  cases item with
  | ingredient i =>
      rw [Turn.usedName?]
      rcases i.share_or_written with ⟨share, hshare⟩ | hwritten
      · -- A share is resolved by itself, before its name would be noted.
        have hyes : i.isShare := (isShare_iff i).2 ⟨share, hshare⟩
        rw [if_pos (Or.inr hyes)]
        simp only [Item.notes, hshare, reduceCtorEq, or_false]
      · have hno : ¬ i.isShare := fun h => ((isShare_iff i).1 h).elim hwritten
        rw [notes_written hwritten]
        -- What carries the mark is noted as a use, and only the rest as seen.
        by_cases hmarked : referenceSymbol ∈ i.modifiers
        · rw [if_pos (Or.inl hmarked), if_pos ((isMention_iff i).2 hmarked), seen_noteUse]
          simp only [reduceCtorEq, or_false]
        · rw [if_neg (not_or.2 ⟨hmarked, hno⟩),
            if_neg fun h => hmarked ((isMention_iff i).1 h), Scope.see, Names.has_add,
            Option.some.injEq, or_comm, eq_comm (a := name)]
  | mention m =>
      rw [Item.notes, seen_noteUse]
      simp only [Turn.usedName?, reduceCtorEq, or_false]
  | _ => simp only [Item.notes, Scope.define, Turn.usedName?, reduceCtorEq, or_false]

/-- The walk knows the names that have come up: identities by the registry, and display names by the
    scope. It has warned of what was undefined when it came up. -/
structure KnowsNames (done : List Turn) (walk : Walk) : Prop where
  registered : ∀ id,
    walk.registry.hasIngredient id ↔ id ∈ (done.flatMap Turn.registers).map slugify
  seen : ∀ name, walk.scope.seen.has name ↔ name ∈ done.filterMap Turn.usedName?
  warned : referenceWarnings walk.warnings = undefinedFrom [] done

theorem knowsNames_start : KnowsNames [] .start where
  registered _ := by
    simp only [List.flatMap_nil, List.map_nil, List.not_mem_nil, iff_false]
    exact Bool.false_ne_true
  seen _ := by
    simp only [List.filterMap_nil, List.not_mem_nil, iff_false]
    exact Bool.false_ne_true
  warned := rfl

/-- An item is warned of as its turn deserves. -/
theorem filter_referenceCodes_warnings {done : List Turn} {walk : Walk} (h : KnowsNames done walk)
    (item : Item) (listed : Listed) :
    referenceWarnings (item.warnings listed walk)
      = ((Turn.item item).undefined? done).toList := by
  cases item with
  | ingredient i =>
      rcases i.share_or_written with ⟨share, hshare⟩ | hwritten
      · -- A share has its own warnings, whether it is marked or not.
        have hyes : i.isShare := (isShare_iff i).2 ⟨share, hshare⟩
        rw [Turn.undefined?, if_neg fun hall => hall.2.1 hyes]
        exact filter_warnings_eq_nil (codes_share hshare ▸ by decide) listed walk
      · have hno : ¬ i.isShare := fun hyes => ((isShare_iff i).1 hyes).elim hwritten
        simp only [Item.warnings]
        by_cases hmarked : referenceSymbol ∈ i.modifiers
        · rw [if_pos ((isMention_iff i).2 hmarked)]
          -- The name is looked up before this turn adds anything to what was seen.
          by_cases hused : i.name ∈ done.filterMap Turn.usedName?
          · have hseen : walk.scope.seen.has i.name = true := (h.seen i.name).2 hused
            have hturn : (Turn.item (.ingredient i)).undefined? done = none := by
              rw [Turn.undefined?, if_neg fun hall => hall.2.2 hused]
            rw [hseen, hturn]
            rfl
          · have hseen : walk.scope.seen.has i.name = false :=
              Bool.eq_false_iff.2 fun hyes => hused ((h.seen i.name).1 hyes)
            have hturn : (Turn.item (.ingredient i)).undefined? done
                = some (.undefinedIngredient i.name) := by
              rw [Turn.undefined?, if_pos ⟨hmarked, hno, hused⟩]
            rw [hseen, hturn]
            rfl
        · have hturn : (Turn.item (.ingredient i)).undefined? done = none := by
            rw [Turn.undefined?, if_neg fun hall => hmarked hall.1]
          rw [if_neg fun hyes => hmarked ((isMention_iff i).1 hyes), hturn]
          rfl
  | mention m =>
      -- A mention looks into the registry, which knows identities and no display names.
      simp only [Turn.undefined?, Item.warnings]
      by_cases hknown : slugify m.name ∈ (done.flatMap Turn.registers).map slugify
      · have hregistered : walk.registry.hasIngredient (slugify m.name) = true :=
          (h.registered _).2 hknown
        rw [if_pos hknown, hregistered]
        rfl
      · have hregistered : walk.registry.hasIngredient (slugify m.name) = false :=
          Bool.eq_false_iff.2 fun hyes => hknown ((h.registered _).1 hyes)
        rw [if_neg hknown, hregistered]
        rfl
  | _ => exact filter_warnings_eq_nil (by simp only [Item.codes]; decide) listed walk

theorem knowsNames_item {done : List Turn} {walk : Walk} (h : KnowsNames done walk) (item : Item)
    (listed : Listed) : KnowsNames (done ++ [.item item]) (item.passed listed walk) where
  registered id := by
    rw [Item.passed, hasIngredient_entries, h.registered, List.flatMap_append, List.map_append,
      List.mem_append, List.flatMap_singleton, Turn.registers]
  seen name := by
    rw [Item.passed, seen_notes, h.seen, List.filterMap_append, List.mem_append]
    simp only [List.mem_filterMap, List.mem_singleton, exists_eq_left]
  warned := by
    rw [Item.passed, referenceWarnings_append, h.warned, filter_referenceCodes_warnings h,
      undefinedFrom_concat, List.nil_append]

theorem knowsNames_opens {done : List Turn} {walk : Walk} (h : KnowsNames done walk)
    (header : SectionHeader) : KnowsNames (done ++ [.opens header]) (openSection header walk) := by
  cases hproduces : header.produces with
  | none =>
      -- Nothing comes up.
      have hopen : openSection header walk = walk := by simp only [openSection, hproduces]
      rw [hopen]
      refine ⟨fun id => ?_, fun name => ?_, ?_⟩
      · rw [h.registered, List.flatMap_append, List.flatMap_singleton, Turn.registers, hproduces,
          Option.toList_none, List.append_nil]
      · rw [h.seen, List.filterMap_append]
        exact Iff.of_eq (congrArg (name ∈ ·) (List.append_nil _).symm)
      · rw [h.warned, undefinedFrom_concat]
        exact (List.append_nil _).symm
  | some name =>
      have hopen : openSection header walk
          = ((walk.warnIf (walk.scope.declaredBySections.has name)
                (.preparationRedeclared name header.title)).inRegistry
              (·.markPreparation (slugify name) name)).inScope
              fun scope => (scope.declareBySection name).define name := by
        simp only [openSection, hproduces]
      rw [hopen, Walk.warnIf_eq]
      refine ⟨fun id => ?_, fun other => ?_, ?_⟩
      · simp only [Walk.inRegistry, Walk.inScope, Registry.markPreparation, hasIngredient_change,
          h.registered, List.flatMap_append, List.map_append, List.mem_append,
          List.flatMap_singleton, Turn.registers, hproduces, Option.toList_some, List.map_cons,
          List.map_nil, List.mem_singleton]
      · rw [List.filterMap_append]
        exact (h.seen other).trans (Iff.of_eq (congrArg (other ∈ ·) (List.append_nil _).symm))
      · -- That a preparation is produced twice is a warning of another code.
        have hconflict : referenceWarnings
            (if walk.scope.declaredBySections.has name then
              [Warning.preparationRedeclared name header.title] else []) = [] := by
          split <;> rfl
        simp only [Walk.inRegistry, Walk.inScope]
        rw [referenceWarnings_append, hconflict, h.warned, undefinedFrom_concat]
        rfl

/-- Each turn keeps the names known. -/
theorem keptByTurns_knowsNames : KeptByTurns KnowsNames where
  opens _ header _ h := knowsNames_opens h header
  item _ item listed _ _ h := knowsNames_item h item listed
  aside _ _ _ hsame h := by
    refine ⟨fun id => ?_, fun name => ?_, ?_⟩
    · rw [hsame.registry]
      exact h.registered id
    · rw [hsame.seen]
      exact h.seen name
    · rw [hsame.warnings]
      exact h.warned

/-- A document is warned of the references that its turns deserve to be warned of, in order, and of
    no others. A marked ingredient that is undefined stays so until its name is used without the
    mark, so that it is warned of each time. But it has been entered, and whatever it is called, a
    mention of that identity is not undefined after it. -/
theorem undefined_references_of_turns (weighing : Weighing) (blocks : List Block) :
    referenceWarnings (compileSections weighing blocks).warnings
        = undefinedFrom [] (documentTurns blocks)
      ∧ (∀ (before between : List Turn) (i j : IngredientItem),
          ((Turn.item (.ingredient i)).undefined? before).isSome →
          j.name = i.name → referenceSymbol ∈ j.modifiers → ¬ j.isShare →
          (∀ turn ∈ between, turn.usedName? ≠ some i.name) →
          (Turn.item (.ingredient j)).undefined? (before ++ .item (.ingredient i) :: between)
            = some (.undefinedIngredient j.name))
      ∧ ∀ (before between : List Turn) (i : IngredientItem) (m : Mention),
          slugify m.name = slugify i.name →
          (Turn.item (.mention m)).undefined? (before ++ .item (.ingredient i) :: between)
            = none := by
  refine ⟨?_, ?_, ?_⟩
  · have hknows := keptByTurns_knowsNames.compileSectionsFrom weighing (sectioned blocks) []
      .start knowsNames_start
    exact hknows.warned
  · intro before between i j hundefined hname hmarked hshare hbetween
    -- The first one is marked itself, so its own turn does not make the name used.
    have hfirst : referenceSymbol ∈ i.modifiers ∧ ¬ i.isShare
        ∧ i.name ∉ before.filterMap Turn.usedName? := by
      by_contra hnot
      rw [Turn.undefined?, if_neg hnot] at hundefined
      exact absurd hundefined Bool.false_ne_true
    have hown : (Turn.item (.ingredient i)).usedName? = none := by
      rw [Turn.usedName?, if_pos (Or.inl hfirst.1)]
    have hunused : j.name
        ∉ (before ++ .item (.ingredient i) :: between).filterMap Turn.usedName? := by
      rw [hname, List.filterMap_append, List.filterMap_cons_none hown, List.mem_append]
      rintro (hbefore | hlater)
      · exact hfirst.2.2 hbefore
      · rcases List.mem_filterMap.1 hlater with ⟨turn, hmem, hused⟩
        exact hbetween turn hmem hused
    rw [Turn.undefined?, if_pos ⟨hmarked, hshare, hunused⟩]
  · intro before between i m hid
    have hknown : slugify m.name
        ∈ ((before ++ .item (.ingredient i) :: between).flatMap Turn.registers).map slugify := by
      rw [hid]
      refine List.mem_map_of_mem (List.mem_flatMap.2 ⟨.item (.ingredient i), ?_, ?_⟩)
      · exact List.mem_append_right _ List.mem_cons_self
      · exact List.mem_cons_self
    rw [Turn.undefined?, if_pos hknown]

end Mise
