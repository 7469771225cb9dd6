import Mise.Proofs.Resolution.Item

/-!
# Kinds of Warnings

Each kind of item has its own kinds of warnings, and their codes tell them apart. A warning of some
code can only come from an item of the kind that the code is for, and a warning about sections from
none.

## Main definitions

* `baseCodes`, `circleCodes`, `unitCodes`: Codes that belong together.
* `Item.codes`: The codes of the warnings that an item may add.
* `Warning.isOfItem`: Whether a warning is about an item.

## Theorems

* `code_mem_of_mem_warnings`: An item adds warnings of its codes only.
* `filter_warnings_eq_nil`: An item adds no warnings of other codes.
* `filter_share_warnings`, `filter_circleCodes_share`: What a share without a base is warned of, and
  what a share of itself is.
-/

namespace Mise

/-- A share that cannot be taken of anything is warned of by its target and its item. -/
theorem error_shareBase {s : Share} {item : String} {listed : Listed} {scope : Scope} {w : Warning}
    (h : shareBase s item listed scope = .error w) :
    w = .preparationNotFound s.target item ∨ w = .shareUnresolved s.target item
      ∨ w = .shareWithoutMass s.target item := by
  rw [shareBase] at h
  cases hof : s.of with
  | preparation =>
      simp only [hof] at h
      split at h
      · cases h
      · cases h
        exact Or.inl rfl
  | ingredient =>
      simp only [hof] at h
      split at h
      · cases h
        exact Or.inr (Or.inl rfl)
      · split at h
        · cases h
          exact Or.inr (Or.inr rfl)
        · cases h

/-- The codes of the warnings about a share without a base. -/
def baseCodes : List String :=
  ["VARIABLE_NOT_FOUND", "RELATIVE_QUANTITY_UNRESOLVED", "RELATIVE_NO_MASS"]

/-- The codes of the warnings about shares of themselves. -/
def circleCodes : List String :=
  ["CIRCULAR_REFERENCE"]

/-- The codes of the warnings about what timers and temperatures are measured by. -/
def unitCodes : List String :=
  ["MISSING_UNIT", "INVALID_UNIT"]

/-- The codes of the warnings that an item may add. -/
def Item.codes : Item → List String
  | .ingredient i =>
    match i.quantity with
    | some (.share _) => baseCodes ++ circleCodes
    | _ => ["UNDEFINED_REFERENCE"]
  | .mention _ => ["UNDEFINED_REFERENCE"]
  | .timer _ => unitCodes
  | .temperature _ => unitCodes
  | _ => []

theorem code_mem_of_mem_measurement {kind : Measurement} {name : Option String}
    {quantity : Option Quantity} {w : Warning} (h : w ∈ kind.warnings name quantity) :
    w.code ∈ unitCodes := by
  cases quantity with
  | none => exact absurd h List.not_mem_nil
  | some quantity =>
      cases quantity with
      | measured m =>
          rw [Measurement.warnings] at h
          split at h
          · rw [List.mem_singleton.1 h]
            exact List.mem_cons_self
          · exact absurd h List.not_mem_nil
      | words text =>
          rw [List.mem_singleton.1 h]
          exact List.mem_cons_of_mem _ List.mem_cons_self
      | share s =>
          rw [List.mem_singleton.1 h]
          exact List.mem_cons_of_mem _ List.mem_cons_self

theorem code_mem_of_error {s : Share} {item : String} {listed : Listed} {scope : Scope}
    {w : Warning} (h : shareBase s item listed scope = .error w) : w.code ∈ baseCodes := by
  rcases error_shareBase h with rfl | rfl | rfl <;> (rw [Warning.code]; decide)

theorem code_mem_of_mem_share {s : Share} {i : IngredientItem} {listed : Listed} {scope : Scope}
    {w : Warning} (h : w ∈ s.warnings i listed scope) : w.code ∈ baseCodes ++ circleCodes := by
  rcases List.mem_append.1 h with hbase | hself
  · cases hresult : shareBase s i.name listed scope with
    | ok grams =>
        rw [hresult] at hbase
        exact absurd hbase List.not_mem_nil
    | error raised =>
        rw [hresult] at hbase
        rw [List.mem_singleton.1 hbase]
        exact List.mem_append_left _ (code_mem_of_error hresult)
  · split at hself
    · rw [List.mem_singleton.1 hself, Warning.code]
      decide
    · exact absurd hself List.not_mem_nil

theorem codes_share {i : IngredientItem} {s : Share} (h : i.quantity = some (.share s)) :
    (Item.ingredient i).codes = baseCodes ++ circleCodes := by
  simp only [Item.codes, h]

theorem codes_written {i : IngredientItem} (h : ∀ s, i.quantity ≠ some (.share s)) :
    (Item.ingredient i).codes = ["UNDEFINED_REFERENCE"] := by
  simp only [Item.codes]

theorem warnings_share {i : IngredientItem} {s : Share} (h : i.quantity = some (.share s))
    (listed : Listed) (walk : Walk) :
    (Item.ingredient i).warnings listed walk = s.warnings i listed walk.scope := by
  simp only [Item.warnings, h]

theorem warnings_written {i : IngredientItem} (h : ∀ s, i.quantity ≠ some (.share s))
    (listed : Listed) (walk : Walk) :
    (Item.ingredient i).warnings listed walk = []
      ∨ (Item.ingredient i).warnings listed walk = [.undefinedIngredient i.name] := by
  simp only [Item.warnings]
  split
  · split
    · exact Or.inr rfl
    · exact Or.inl rfl
  · exact Or.inl rfl

/-- An item warns of what may be wrong with items of its kind. -/
theorem code_mem_of_mem_warnings {item : Item} {listed : Listed} {walk : Walk} {w : Warning}
    (h : w ∈ item.warnings listed walk) : w.code ∈ item.codes := by
  cases item with
  | timer t => exact code_mem_of_mem_measurement h
  | temperature t => exact code_mem_of_mem_measurement h
  | ingredient i =>
      rcases i.share_or_written with ⟨s, hshare⟩ | hwritten
      · rw [codes_share hshare]
        rw [warnings_share hshare] at h
        exact code_mem_of_mem_share h
      · rw [codes_written hwritten]
        rcases warnings_written hwritten listed walk with hquiet | hwarning
        · rw [hquiet] at h
          exact absurd h List.not_mem_nil
        · rw [hwarning] at h
          rw [List.mem_singleton.1 h]
          exact List.mem_cons_self
  | mention m =>
      simp only [Item.warnings] at h
      split at h
      · rw [List.mem_singleton.1 h]
        exact List.mem_cons_self
      · exact absurd h List.not_mem_nil
  | _ => exact absurd h List.not_mem_nil

/-- An item does not warn of what is only wrong with others. -/
theorem filter_warnings_eq_nil {item : Item} {codes : List String}
    (h : ∀ code ∈ item.codes, code ∉ codes) (listed : Listed) (walk : Walk) :
    ((item.warnings listed walk).filter fun w => w.code ∈ codes) = [] := by
  refine List.filter_eq_nil_iff.2 fun w hw hcode => ?_
  exact h w.code (code_mem_of_mem_warnings hw) (of_decide_eq_true hcode)

/-- A share of itself is warned of as that, whether or not it has a base. -/
theorem filter_circleCodes_share (s : Share) (i : IngredientItem) (listed : Listed)
    (scope : Scope) :
    ((s.warnings i listed scope).filter fun w => w.code ∈ circleCodes)
      = if slugify s.target == slugify i.name then [.shareOfItself i.name] else [] := by
  have hself : (if slugify s.target == slugify i.name then [Warning.shareOfItself i.name]
        else []).filter (fun w => w.code ∈ circleCodes)
      = if slugify s.target == slugify i.name then [.shareOfItself i.name] else [] := by
    split <;> rfl
  rw [Share.warnings, List.filter_append, hself]
  refine List.append_left_eq_self.2 (List.filter_eq_nil_iff.2 fun w hw hcode => ?_)
  cases hresult : shareBase s i.name listed scope with
  | ok grams =>
      rw [hresult] at hw
      exact List.not_mem_nil hw
  | error raised =>
      rw [hresult] at hw
      rw [List.mem_singleton.1 hw] at hcode
      have hother : ∀ code ∈ baseCodes, code ∉ circleCodes := by decide
      exact hother _ (code_mem_of_error hresult) (of_decide_eq_true hcode)

/-- Whether a warning is about an item. Only that two sections produce the same preparation is found
    out beside the items. -/
def Warning.isOfItem : Warning → Bool
  | .preparationRedeclared .. => false
  | _ => true

theorem scopeConflict_notMem_codes (item : Item) : "SCOPE_CONFLICT" ∉ item.codes := by
  cases item with
  | ingredient i =>
      rcases i.share_or_written with ⟨s, hshare⟩ | hwritten
      · rw [codes_share hshare]
        decide
      · rw [codes_written hwritten]
        decide
  | _ =>
      simp only [Item.codes]
      decide

/-- The warnings that an item adds are about items. -/
theorem isOfItem_of_mem_warnings {item : Item} {listed : Listed} {walk : Walk} {w : Warning}
    (h : w ∈ item.warnings listed walk) : w.isOfItem := by
  have hcode := code_mem_of_mem_warnings h
  cases w with
  | preparationRedeclared name title => exact absurd hcode (scopeConflict_notMem_codes item)
  | _ => rfl

end Mise
