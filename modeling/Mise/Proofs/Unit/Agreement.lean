import Mise.Proofs.Unit.Spelling

/-!
# Agreement on Units

There are three ways to ask what a unit measures: for its class, for the grams per unit, and for the
millilitres per unit. The class is found by going through the tables in turn, the words for pieces
first, and a factor by looking into its own table alone. The answers agree, since no spelling is in
two tables, and all three are given on the canonical spelling.

The tables are also closed. The short name that a synonym stands for is in one of them, and a
synonym is spelled as the table of synonyms has it. So a unit that is written as a synonym, in
whatever case and with whatever white space, is never unknown.

## Main definitions

* `IsListed`: A spelling that is in one of the tables.
* `CountsPieces`: No unit at all, or a word for one piece.

## Theorems

* `massFactor?_eq_some_iff`, `volumeFactor?_eq_some_iff`: The factors are those of the class.
* `classify_eq_count_iff`, `classify_eq_other_iff`: What counts pieces, and what is not known.
* `isListed_of_synonym`: Synonyms are known.
* `classifiers_agree`: The three answers on a unit.
-/

namespace Mise

namespace Unit

/-- A spelling that is in one of the tables. -/
inductive IsListed (s : String) : Prop
  | mass {factor : Float} (h : (s, factor) ∈ massFactors)
  | volume {factor : Float} (h : (s, factor) ∈ volumeFactors)
  | piece (h : s ∈ countWords)

theorem isListed_iff (s : String) : IsListed s ↔ s ∈ massFactors.map Prod.fst
    ∨ s ∈ volumeFactors.map Prod.fst ∨ s ∈ countWords := by
  simp only [List.mem_map, Prod.exists, exists_and_right, exists_eq_right]
  constructor
  · rintro (⟨h⟩ | ⟨h⟩ | h)
    · exact Or.inl ⟨_, h⟩
    · exact Or.inr (Or.inl ⟨_, h⟩)
    · exact Or.inr (Or.inr h)
  · rintro (⟨_, h⟩ | ⟨_, h⟩ | h)
    · exact .mass h
    · exact .volume h
    · exact .piece h

instance (s : String) : Decidable (IsListed s) :=
  decidable_of_iff' _ (isListed_iff s)

/-- No unit at all, or a word for one piece. -/
def CountsPieces (unit : String) : Prop :=
  canonical unit = "" ∨ canonical unit ∈ countWords

section Factors

/-- The grams per unit are those of its class. -/
theorem massFactor?_eq_some_iff (unit : String) (factor : Float) :
    massFactor? unit = some factor ↔ classify unit = .mass factor := by
  rw [classify_eq_mass_iff, massFactor?, lookup_eq_some_iff_mem massFactors_nodup]

/-- The millilitres per unit are those of its class. -/
theorem volumeFactor?_eq_some_iff (unit : String) (factor : Float) :
    volumeFactor? unit = some factor ↔ classify unit = .volume factor := by
  rw [classify_eq_volume_iff, volumeFactor?, lookup_eq_some_iff_mem volumeFactors_nodup]

/-- A unit has no grams per unit if its class is not that of a mass. -/
theorem massFactor?_eq_none {unit : String} (h : ∀ factor, classify unit ≠ .mass factor) :
    massFactor? unit = none :=
  Option.eq_none_iff_forall_ne_some.2 fun factor hfactor =>
    h factor ((massFactor?_eq_some_iff unit factor).1 hfactor)

/-- A unit has no millilitres per unit if its class is not that of a volume. -/
theorem volumeFactor?_eq_none {unit : String} (h : ∀ factor, classify unit ≠ .volume factor) :
    volumeFactor? unit = none :=
  Option.eq_none_iff_forall_ne_some.2 fun factor hfactor =>
    h factor ((volumeFactor?_eq_some_iff unit factor).1 hfactor)

/-- No unit has both factors. -/
theorem massFactor?_or_volumeFactor?_eq_none (unit : String) :
    massFactor? unit = none ∨ volumeFactor? unit = none := by
  cases hclass : classify unit with
  | mass factor => exact Or.inr (volumeFactor?_eq_none fun _ h => nomatch hclass.symm.trans h)
  | _ => exact Or.inl (massFactor?_eq_none fun _ h => nomatch hclass.symm.trans h)

end Factors

section Classes

/-- The units that count pieces are found first. -/
theorem classify_eq_count_iff (unit : String) : classify unit = .count ↔ CountsPieces unit := by
  unfold classify CountsPieces
  constructor
  · intro h
    by_contra hpieces
    -- Past the words for pieces, the tables of factors decide, and neither gives this class.
    rw [if_neg hpieces] at h
    split at h
    · cases h
    · split at h <;> cases h
  · exact fun h => if_pos h

/-- What is not known is there, but in none of the tables. -/
theorem classify_eq_other_iff (unit : String) :
    classify unit = .other ↔ canonical unit ≠ "" ∧ ¬ IsListed (canonical unit) := by
  constructor
  · intro h
    have hcount : ¬ CountsPieces unit := fun hpieces =>
      nomatch h.symm.trans ((classify_eq_count_iff unit).2 hpieces)
    refine ⟨fun hempty => hcount (Or.inl hempty), ?_⟩
    rintro (hmass | hvolume | hword)
    · exact nomatch h.symm.trans ((classify_eq_mass_iff unit _).2 hmass)
    · exact nomatch h.symm.trans ((classify_eq_volume_iff unit _).2 hvolume)
    · exact hcount (Or.inr hword)
  · rintro ⟨hempty, hlisted⟩
    -- Each other class has a table from which the spelling would be known.
    cases hclass : classify unit with
    | mass factor =>
        have hmem := (classify_eq_mass_iff unit factor).1 hclass
        exact absurd (.mass hmem) hlisted
    | volume factor =>
        have hmem := (classify_eq_volume_iff unit factor).1 hclass
        exact absurd (.volume hmem) hlisted
    | count =>
        rcases (classify_eq_count_iff unit).1 hclass with hnone | hword
        · exact absurd hnone hempty
        · exact absurd (.piece hword) hlisted
    | other => rfl

/-- White space is no unit. -/
theorem canonical_of_blank {unit : String} (h : Text.isBlankText unit) : canonical unit = "" := by
  have htrim : Text.trim unit.toList = [] :=
    (Text.trim_eq_nil_iff unit.toList).2 (List.all_eq_true.1 h)
  have hspelling : spelling unit = "" := by
    rw [spelling, htrim]
    rfl
  rw [canonical, hspelling]
  rfl

end Classes

section Synonyms

theorem synonyms_listed : ∀ e ∈ synonyms, IsListed e.2 := by
  decide +kernel

theorem synonyms_tidy : ∀ e ∈ synonyms, Text.collapse e.1.toList = e.1.toList
    ∧ e.1.toList.all fun c => ('a' ≤ c ∧ c ≤ 'z') ∨ Text.isSeparator c := by
  decide +kernel

theorem synonyms_nodup : (synonyms.map Prod.fst).Nodup := by
  decide +kernel

/-- A synonym is spelled as the table has it: it is tidy and in lower case, and no point ends it. -/
theorem spelling_synonym {s name : String} (h : (s, name) ∈ synonyms) : spelling s = s := by
  rcases synonyms_tidy (s, name) h with ⟨hcollapse, hletters⟩
  have htidy : Text.IsTidy s.toList := hcollapse ▸ Text.isTidy_collapse s.toList
  have hlower : ∀ c ∈ s.toList, Text.IsLower c := by
    intro c hc
    rcases of_decide_eq_true (List.all_eq_true.1 hletters c hc) with hletter | hseparator
    · exact (Text.isLower_of_letter hletter).1
    · exact Text.isLower_of_isSeparator hseparator
  rw [← String.toList_inj, spelling_of_tidy htidy hlower,
    stripEnd_eq_self (last_of_synonym h) htidy.finish]

/-- A synonym is brought to the short name that is listed with it. -/
theorem canonical_synonym {s name : String} (h : (s, name) ∈ synonyms) : canonical s = name := by
  rw [canonical, spelling_synonym h, (lookup_eq_some_iff_mem synonyms_nodup s name).2 h,
    Option.getD_some]

/-- However a synonym is written, the unit is in one of the tables. -/
theorem isListed_of_synonym {unit : String} (h : spelling unit ∈ synonyms.map Prod.fst) :
    IsListed (canonical unit) := by
  rcases List.mem_map.1 h with ⟨e, hmem, hs⟩
  have hlookup := (lookup_eq_some_iff_mem synonyms_nodup e.1 e.2).2 hmem
  rw [canonical, ← hs, hlookup, Option.getD_some]
  exact synonyms_listed e hmem

end Synonyms

/-- The three answers on a unit agree. A unit is of mass or of volume exactly if it has that factor,
    and no unit has both. It counts pieces if it is blank or a word for one piece, and then it has
    neither factor. It is unknown if it is there and in none of the tables. Each synonym is spelled
    as it stands and brought to a short name that is in one of the tables, so no unit that is
    written as a synonym is unknown. -/
theorem classifiers_agree (unit : String) :
    (∀ factor, classify unit = .mass factor ↔ massFactor? unit = some factor)
      ∧ (∀ factor, classify unit = .volume factor ↔ volumeFactor? unit = some factor)
      ∧ (massFactor? unit = none ∨ volumeFactor? unit = none)
      ∧ (classify unit = .count ↔ CountsPieces unit)
      ∧ (Text.isBlankText unit → CountsPieces unit)
      ∧ (CountsPieces unit → massFactor? unit = none ∧ volumeFactor? unit = none)
      ∧ (classify unit = .other ↔ canonical unit ≠ "" ∧ ¬ IsListed (canonical unit))
      ∧ (∀ e ∈ synonyms, spelling e.1 = e.1 ∧ canonical e.1 = e.2 ∧ IsListed e.2)
      ∧ (spelling unit ∈ synonyms.map Prod.fst → classify unit ≠ .other) := by
  refine ⟨fun factor => (massFactor?_eq_some_iff unit factor).symm,
    fun factor => (volumeFactor?_eq_some_iff unit factor).symm,
    massFactor?_or_volumeFactor?_eq_none unit, classify_eq_count_iff unit,
    fun hblank => Or.inl (canonical_of_blank hblank), fun hpieces => ?_, classify_eq_other_iff unit,
    fun e he => ⟨spelling_synonym he, canonical_synonym he, synonyms_listed e he⟩,
    fun hsynonym hother => ?_⟩
  · have hcount := (classify_eq_count_iff unit).2 hpieces
    exact ⟨massFactor?_eq_none fun _ h => (nomatch hcount.symm.trans h),
      volumeFactor?_eq_none fun _ h => (nomatch hcount.symm.trans h)⟩
  · exact ((classify_eq_other_iff unit).1 hother).2 (isListed_of_synonym hsynonym)

/-- Pieces, written with a capital, a point and white space, and white space alone. -/
theorem pieces_agree :
    (CountsPieces " Pieces. " ∧ massFactor? " Pieces. " = none ∧ volumeFactor? " Pieces. " = none)
      ∧ (spelling " Pieces. " ∈ synonyms.map Prod.fst ∧ classify " Pieces. " ≠ .other)
      ∧ (("pieces", "piece") ∈ synonyms ∧ canonical "pieces" = "piece" ∧ IsListed "piece")
      ∧ Text.isBlankText " \t" ∧ CountsPieces " \t" := by
  rcases classifiers_agree " Pieces. " with ⟨-, -, -, -, -, hfactors, -, hlisted, hknown⟩
  rcases classifiers_agree " \t" with ⟨-, -, -, -, hblank, -⟩
  have hpieces : CountsPieces " Pieces. " := Or.inr (by decide +kernel)
  have hspelling : spelling " Pieces. " ∈ synonyms.map Prod.fst := by decide +kernel
  have hsynonym : ("pieces", "piece") ∈ synonyms := by decide +kernel
  have hwhite : Text.isBlankText " \t" := by decide
  exact ⟨⟨hpieces, hfactors hpieces⟩, ⟨hspelling, hknown hspelling⟩,
    ⟨hsynonym, (hlisted _ hsynonym).2⟩, hwhite, hblank hwhite⟩

end Unit

end Mise
