import Mise.Proofs.Text.Lowercase
import Mise.Proofs.Text.Spacing
import Mise.Proofs.Unit.Class

/-!
# Canonical Spellings

The canonical spelling of a unit is meant to be the one that all spellings of the unit have in
common. It is in lower case, has one blank between each two words, and a short name is never a
synonym of another one. So it stays as it is when it is spelled once more, unless there are points
at its end.

Points are cut off the end of a unit, and then the white space in front of them. This is done once,
and another point may come to light: `g . .` turns into `g .`, which is not known, and only that
turns into `g`. The units to which this happens are those that end with points which white space
parts, and it happens to no others.

## Main definitions

* `HasPointsApart`: A unit ends with points that white space parts.
* `stripEnd`: A text without the points at its end.

## Theorems

* `getLast?_spelling_eq_point_iff`: The spellings that end with a point.
* `canonical_canonical_iff`: The canonical spellings that stay as they are.
* `canonical_settled_iff`: Canonical spellings are tidy, and settled unless points are apart.
-/

namespace Mise

namespace Unit

/-- White space with nothing but points behind it. -/
structure IsGap (gap points : List Char) : Prop where
  ne_nil : gap ≠ []
  blank : ∀ c ∈ gap, Text.isBlank c
  points_ne_nil : points ≠ []
  points : ∀ c ∈ points, c = '.'

/-- A unit ends with points that white space parts, white space at its end not counted. -/
def HasPointsApart (unit : String) : Prop :=
  ∃ front gap points rest, IsGap gap points
    ∧ unit.toList = front ++ ('.' :: gap ++ points) ++ rest ∧ ∀ c ∈ rest, Text.isBlank c

/-- A text without the points at its end, and without the white space in front of them. -/
def stripEnd (cs : List Char) : List Char :=
  Text.trimEnd (Text.dropEndWhile (· == '.') cs)

theorem toList_spelling (unit : String) :
    (spelling unit).toList = Text.collapse (stripEnd (Text.lower (Text.trim unit.toList))) :=
  String.toList_ofList

theorem getLast?_stripEnd (cs : List Char) :
    ∀ c ∈ (stripEnd cs).getLast?, Text.isBlank c = false := by
  rcases Text.dropEndWhile_eq_iff.1 (rfl : stripEnd cs = stripEnd cs) with ⟨-, -, -, hlast⟩
  exact hlast

theorem isPrefix_stripEnd (cs : List Char) : stripEnd cs <+: cs :=
  (List.rdropWhile_prefix _ _).trans (List.rdropWhile_prefix _ _)

theorem isTidy_spelling (unit : String) : Text.IsTidy (spelling unit).toList := by
  rw [toList_spelling]
  exact Text.isTidy_collapse _

theorem isLower_spelling (unit : String) : ∀ c ∈ (spelling unit).toList, Text.IsLower c := by
  intro c hc
  rw [toList_spelling] at hc
  rcases Text.mem_collapse hc with rfl | hmem
  · exact Text.isLower_of_isSeparator rfl
  · have hfront := (isPrefix_stripEnd (Text.lower (Text.trim unit.toList)))
    exact Text.isLower_of_mem_lowerAfter (hfront.subset hmem)

/-- What is tidy and in lower case only loses the points at its end, and the white space in front of
    them. -/
theorem spelling_of_tidy {unit : String} (htidy : Text.IsTidy unit.toList)
    (hlower : ∀ c ∈ unit.toList, Text.IsLower c) :
    (spelling unit).toList = stripEnd unit.toList := by
  rw [toList_spelling, Text.trim_eq_self htidy.start htidy.finish, Text.lower,
    Text.lowerAfter_eq_self hlower]
  exact Text.collapse_eq_self
    (htidy.of_prefix (isPrefix_stripEnd unit.toList) (getLast?_stripEnd unit.toList))

theorem getLast?_append_gap {gap points : List Char} (h : IsGap gap points) (front : List Char) :
    ∃ c, (front ++ gap).getLast? = some c ∧ Text.isBlank c := by
  refine ⟨gap.getLast h.ne_nil, ?_, h.blank _ (List.getLast_mem h.ne_nil)⟩
  rw [List.getLast?_append_of_ne_nil _ h.ne_nil, List.getLast?_eq_some_getLast]

/-- Without the points at its end, a text ends with a point if there was a gap behind one. -/
theorem getLast?_stripEnd_eq_point_iff {cs : List Char}
    (hfinish : ∀ c ∈ cs.getLast?, Text.isBlank c = false) :
    (stripEnd cs).getLast? = some '.'
      ↔ ∃ gap points, IsGap gap points ∧ '.' :: gap ++ points <:+ cs := by
  constructor
  · intro hlast
    rcases List.getLast?_eq_some_iff.1 hlast with ⟨front, hfront⟩
    rcases Text.dropEndWhile_eq_iff.1 hfront with ⟨gap, hgap, hblank, -⟩
    rcases Text.dropEndWhile_eq_iff.1 hgap with ⟨points, rfl, hall, hnone⟩
    have hne : gap ≠ [] := by
      rintro rfl
      rw [List.append_nil, List.getLast?_concat] at hnone
      exact absurd (hnone '.' rfl) (by decide)
    refine ⟨gap, points, ⟨hne, hblank, ?_, fun c hc => eq_of_beq (hall c hc)⟩, front, ?_⟩
    · -- White space does not come last.
      rintro rfl
      rw [List.append_nil, List.getLast?_append_of_ne_nil _ hne] at hfinish
      have hlast := List.getLast_mem_getLast? hne
      exact Bool.false_ne_true ((hfinish _ hlast).symm.trans (hblank _ (List.getLast_mem hne)))
    · simp only [List.append_assoc, List.cons_append, List.nil_append]
  · rintro ⟨gap, points, hgap, front, rfl⟩
    have hpoints : Text.dropEndWhile (· == '.') (front ++ ('.' :: gap ++ points))
        = front ++ ['.'] ++ gap := by
      refine Text.dropEndWhile_eq_iff.2 ⟨points, ?_, fun c hc => beq_iff_eq.2 (hgap.points c hc),
        fun c hc => ?_⟩
      · simp only [List.append_assoc, List.cons_append, List.nil_append]
      · -- White space is in front of the points.
        rcases getLast?_append_gap hgap (front ++ ['.']) with ⟨d, hd, hblank⟩
        obtain rfl : d = c := Option.some.inj (hd.symm.trans hc)
        rw [beq_eq_false_iff_ne]
        rintro rfl
        exact absurd hblank (by decide)
    have hblank : stripEnd (front ++ ('.' :: gap ++ points)) = front ++ ['.'] := by
      rw [stripEnd, hpoints]
      refine Text.dropEndWhile_eq_iff.2 ⟨gap, rfl, hgap.blank, ?_⟩
      intro c hc
      rw [List.getLast?_concat, Option.mem_some_iff] at hc
      rw [← hc]
      decide
    rw [hblank, List.getLast?_concat]

/-- White space at the end of a text in lower case would have been there before. -/
theorem getLast?_lower_trim (cs : List Char) :
    ∀ c ∈ (Text.lower (Text.trim cs)).getLast?, Text.isBlank c = false := by
  intro c hc
  by_contra hblank
  rw [Bool.not_eq_false] at hblank
  have hsuffix : [c] <:+ Text.lower (Text.trim cs) :=
    (List.getLast?_eq_some_iff.1 hc).imp fun _ h => h.symm
  rw [Text.suffix_lower_iff fun d hd =>
    Text.isSeparator_of_isBlank (List.mem_singleton.1 hd ▸ hblank)] at hsuffix
  rcases hsuffix with ⟨front, hfront⟩
  have hlast := (Text.trimsTo_trim cs).finish c (by rw [← hfront, List.getLast?_concat]; rfl)
  exact Bool.false_ne_true (hlast.symm.trans hblank)

/-- A gap behind a point is at the end of a unit in lower case if the unit ends with it. -/
theorem gap_suffix_iff {gap points : List Char} (h : IsGap gap points) (cs : List Char) :
    '.' :: gap ++ points <:+ Text.lower (Text.trim cs)
      ↔ ∃ front rest, cs = front ++ ('.' :: gap ++ points) ++ rest
        ∧ ∀ c ∈ rest, Text.isBlank c := by
  have hpoint : Text.isBlank '.' = false := by decide
  rw [Text.suffix_lower_iff, Text.suffix_trim_iff]
  · exact List.cons_ne_nil _ _
  · exact fun c hc => Option.some.inj hc ▸ hpoint
  · rw [List.getLast?_append_of_ne_nil _ h.points_ne_nil]
    exact fun c hc => h.points c (List.mem_of_mem_getLast? hc) ▸ hpoint
  · intro c hc
    rcases List.mem_append.1 hc with hfront | hmem
    · rcases List.mem_cons.1 hfront with rfl | hmem
      · rfl
      · exact Text.isSeparator_of_isBlank (h.blank c hmem)
    · rw [h.points c hmem]
      rfl

/-- The spelling of a unit ends with a point if the unit has points apart. -/
theorem getLast?_spelling_eq_point_iff (unit : String) :
    (spelling unit).toList.getLast? = some '.' ↔ HasPointsApart unit := by
  rw [toList_spelling, Text.getLast?_collapse (getLast?_stripEnd _),
    getLast?_stripEnd_eq_point_iff (getLast?_lower_trim _)]
  constructor
  · rintro ⟨gap, points, hgap, hsuffix⟩
    rcases (gap_suffix_iff hgap _).1 hsuffix with ⟨front, rest, hunit, hrest⟩
    exact ⟨front, gap, points, rest, hgap, hunit, hrest⟩
  · rintro ⟨front, gap, points, rest, hgap, hunit, hrest⟩
    exact ⟨gap, points, hgap, (gap_suffix_iff hgap _).2 ⟨front, rest, hunit, hrest⟩⟩

theorem synonyms_of_letters : ∀ e ∈ synonyms,
    e.1.toList.getLast? ≠ some '.' ∧ e.2.toList.all fun c => 'a' ≤ c ∧ c ≤ 'z' := by
  decide +kernel

theorem synonyms_apart : ∀ e ∈ synonyms, e.2 ∉ synonyms.map Prod.fst := by
  decide +kernel

section Synonyms

variable {s name : String} (h : (s, name) ∈ synonyms)

include h

-- The short names are words of small letters, and no synonym ends with a point or is a short name.
theorem last_of_synonym : s.toList.getLast? ≠ some '.' :=
  (synonyms_of_letters (s, name) h).1

theorem letters_of_shortName {c : Char} (hc : c ∈ name.toList) : 'a' ≤ c ∧ c ≤ 'z' :=
  of_decide_eq_true (List.all_eq_true.1 (synonyms_of_letters (s, name) h).2 c hc)

theorem last_of_shortName : name.toList.getLast? ≠ some '.' := by
  intro hpoint
  exact absurd (letters_of_shortName h (List.mem_of_mem_getLast? hpoint)) (by decide)

theorem lookup_shortName : synonyms.lookup name = none :=
  lookup_eq_none_of_apart (synonyms_apart (s, name) h)

end Synonyms

theorem canonical_of_lookup_none {unit : String} (h : synonyms.lookup (spelling unit) = none) :
    canonical unit = spelling unit := by
  rw [canonical, h, Option.getD_none]

/-- The canonical spelling of a unit is the short name for its spelling, or that spelling itself. -/
theorem canonical_or (unit : String) :
    (∃ s, (s, canonical unit) ∈ synonyms ∧ spelling unit = s)
      ∨ canonical unit = spelling unit ∧ synonyms.lookup (spelling unit) = none := by
  cases hlookup : synonyms.lookup (spelling unit) with
  | none => exact Or.inr ⟨canonical_of_lookup_none hlookup, rfl⟩
  | some name =>
      rcases List.lookup_eq_some_iff.1 hlookup with ⟨before, after, hsplit, -⟩
      refine Or.inl ⟨_, ?_, rfl⟩
      rw [canonical, hlookup, hsplit]
      exact List.mem_append_right _ List.mem_cons_self

/-- A canonical spelling is tidy and in lower case. -/
theorem isTidy_canonical (unit : String) :
    Text.IsTidy (canonical unit).toList ∧ ∀ c ∈ (canonical unit).toList, Text.IsLower c := by
  rcases canonical_or unit with ⟨s, hmem, -⟩ | ⟨hself, -⟩
  · have hletters := fun c hc => Text.isLower_of_letter (letters_of_shortName hmem (c := c) hc)
    exact ⟨Text.isTidy_word fun c hc => (hletters c hc).2, fun c hc => (hletters c hc).1⟩
  · rw [hself]
    exact ⟨isTidy_spelling unit, isLower_spelling unit⟩

/-- A canonical spelling ends with a point if the unit has points apart. -/
theorem getLast?_canonical_eq_point_iff (unit : String) :
    (canonical unit).toList.getLast? = some '.' ↔ HasPointsApart unit := by
  rw [← getLast?_spelling_eq_point_iff]
  rcases canonical_or unit with ⟨s, hmem, hs⟩ | ⟨hself, -⟩
  · rw [hs]
    exact iff_of_false (last_of_shortName hmem) (last_of_synonym hmem)
  · rw [hself]

/-- A canonical spelling only loses the points at its end when it is spelled again. -/
theorem toList_spelling_canonical (unit : String) :
    (spelling (canonical unit)).toList = stripEnd (canonical unit).toList :=
  spelling_of_tidy (isTidy_canonical unit).1 (isTidy_canonical unit).2

/-- A text that ends with a point is longer than what is left of it. -/
theorem stripEnd_ne_self {cs : List Char} (h : cs.getLast? = some '.') : stripEnd cs ≠ cs := by
  intro hself
  have hfront : cs <+: Text.dropEndWhile (· == '.') cs := by
    calc
      cs = stripEnd cs := hself.symm
      _ <+: Text.dropEndWhile (· == '.') cs := List.rdropWhile_prefix _ _
  have hpoints := (List.rdropWhile_prefix _ cs).eq_of_length_le hfront.length_le
  rcases Text.dropEndWhile_eq_iff.1 hpoints with ⟨-, -, -, hlast⟩
  exact absurd (hlast '.' h) (by decide)

theorem stripEnd_eq_self {cs : List Char} (hpoint : cs.getLast? ≠ some '.')
    (hblank : ∀ c ∈ cs.getLast?, Text.isBlank c = false) : stripEnd cs = cs := by
  have hpoints : Text.dropEndWhile (· == '.') cs = cs :=
    Text.dropEndWhile_eq_self fun c hc => beq_eq_false_iff_ne.2 fun h => hpoint (h ▸ hc)
  rw [stripEnd, hpoints]
  exact Text.dropEndWhile_eq_self hblank

/-- A canonical spelling is its own if it does not end with a point. -/
theorem canonical_canonical_iff (unit : String) :
    canonical (canonical unit) = canonical unit ↔ ¬ HasPointsApart unit := by
  rw [← getLast?_canonical_eq_point_iff]
  have hspelling := toList_spelling_canonical unit
  constructor
  · intro hself hpoint
    rcases canonical_or (canonical unit) with ⟨s, hmem, -⟩ | ⟨hcanonical, -⟩
    · -- It would be a short name, and these are without points.
      rw [hself] at hmem
      exact last_of_shortName hmem hpoint
    · rw [← hcanonical, hself] at hspelling
      exact stripEnd_ne_self hpoint hspelling.symm
  · intro hpoint
    rw [stripEnd_eq_self hpoint (isTidy_canonical unit).1.finish, String.toList_inj] at hspelling
    have hnone : synonyms.lookup (spelling (canonical unit)) = none := by
      rw [hspelling]
      rcases canonical_or unit with ⟨s, hmem, -⟩ | ⟨hself, hnone⟩
      · exact lookup_shortName hmem
      · rwa [hself]
    rw [canonical_of_lookup_none hnone, hspelling]

/-- The canonical spelling of a unit is tidy: white space neither starts nor ends it, and no two
    characters of white space stand next to each other in it. It is its own canonical spelling, and
    does not end with a point, exactly if the unit does not have points apart. Then what a unit
    measures can be told from its canonical spelling as well. -/
theorem canonical_settled_iff (unit : String) :
    Text.IsTidy (canonical unit).toList
      ∧ ((canonical unit).toList.getLast? ≠ some '.' ↔ ¬ HasPointsApart unit)
      ∧ (canonical (canonical unit) = canonical unit ↔ ¬ HasPointsApart unit)
      ∧ (¬ HasPointsApart unit → classify (canonical unit) = classify unit
        ∧ massFactor? (canonical unit) = massFactor? unit
        ∧ volumeFactor? (canonical unit) = volumeFactor? unit) := by
  refine ⟨(isTidy_canonical unit).1, not_congr (getLast?_canonical_eq_point_iff unit),
    canonical_canonical_iff unit, fun h => ?_⟩
  have hself := (canonical_canonical_iff unit).2 h
  refine ⟨?_, ?_, ?_⟩
  · rw [classify, classify, hself]
  · rw [massFactor?, massFactor?, hself]
  · rw [volumeFactor?, volumeFactor?, hself]

/-- The canonical spelling of fluid ounces, written with points and white space, is settled. -/
theorem fluidOunces_settled :
    ¬ HasPointsApart " Fl.  Oz. " ∧ canonical (canonical " Fl.  Oz. ") = canonical " Fl.  Oz. "
      ∧ classify (canonical " Fl.  Oz. ") = classify " Fl.  Oz. " := by
  have hunit := canonical_settled_iff " Fl.  Oz. "
  have hpoints : ¬ HasPointsApart " Fl.  Oz. " := hunit.2.1.1 (by decide +kernel)
  exact ⟨hpoints, hunit.2.2.1.2 hpoints, (hunit.2.2.2 hpoints).1⟩

/-- A unit of mass with two points and white space in between is not known, but its canonical
    spelling is. -/
theorem gramWithPoints_unsettled :
    canonical "g . ." = "g ." ∧ canonical (canonical "g . .") = "g"
      ∧ classify "g . ." = .other ∧ classify (canonical "g . .") = .mass 1.0 := by
  decide +kernel

end Unit

end Mise
