import Mathlib.Data.List.Basic
import Mise.Path
import Mise.Proofs.Text.Part

/-!
# Names in Paths

A name is a text that can stand between slashes and that says neither here nor up. A name that is
added to a path becomes its last part, and no other part changes. That holds however the path is
spelled: with a slash at its end or without one, and also for the empty path.

A name falls into a stem and an extension. Another extension can be put after the stem, and the name
that results has this stem again. So a stem is told from the name that is made of it.

## Main definitions

* `IsFileName`: The names that a file or a folder can have.

## Theorems

* `segments_join`: A name that is added to a path is its last segment.
* `parts_eq`: The parts of a path are its start and what its segments stand for.
* `parts_join`: A name that is added to a path is its last part.
* `getLast?_of_fileName?`: The name that a path ends in comes from its segments.
* `isFileName_of_mem_segments`: A segment that stands for a name is one that a file can have.
* `isFileName_of_fileName?`: What a path ends in is a name.
* `splitExtension_append`: An extension can be told from the stem in front of it.
* `stem_ne_empty`: The stem of a name with an extension is not empty.
* `mem_of_mem_stem`: A stem has none but characters of the name.
-/

namespace Mise

/-- A name that a file or a folder can have. -/
structure IsFileName (s : String) : Prop where
  part : PathPart.ofSegment? s = some (.name s)
  noSlash : '/' ∉ s.toList

instance (s : String) : Decidable (IsFileName s) :=
  decidable_of_iff (PathPart.ofSegment? s = some (.name s) ∧ '/' ∉ s.toList)
    ⟨fun h => ⟨h.1, h.2⟩, fun h => ⟨h.part, h.noSlash⟩⟩

/-- A segment that stands for a name is that name. -/
theorem eq_of_ofSegment? {segment name : String}
    (h : PathPart.ofSegment? segment = some (.name name)) : segment = name := by
  unfold PathPart.ofSegment? at h
  split at h
  · exact absurd h (by simp only [reduceCtorEq, not_false_eq_true])
  · split at h
    · exact absurd h (by simp only [Option.some.injEq, reduceCtorEq, not_false_eq_true])
    · exact PathPart.name.inj (Option.some.inj h)

namespace IsFileName

variable {name : String} (h : IsFileName name)
include h

theorem ne_empty : name ≠ "" := by
  intro hname
  exact absurd (hname ▸ h.part) (by decide)

theorem ne_here : name ≠ "." := by
  intro hname
  exact absurd (hname ▸ h.part) (by decide)

theorem isAbsolute : (Path.mk name).isAbsolute = false := by
  have hhead : name.toList.head? ≠ some '/' := fun hhead => h.noSlash (List.mem_of_head? hhead)
  exact beq_eq_false_iff_ne.2 hhead

theorem partsAt_eq : Text.partsAt (· == '/') name.toList = [name.toList] := by
  refine Text.partsAt_of_forall_not fun c hc hslash => h.noSlash ?_
  rw [beq_iff_eq] at hslash
  exact hslash ▸ hc

theorem segments_eq : (Path.mk name).segments = [name] := by
  rw [Path.segments, partsAt_eq h, List.map_singleton, String.ofList_toList]

end IsFileName

namespace Path

theorem join_of_empty {folder p : Path} (h : folder.text = "") : folder.join p = p := by
  have hempty : folder.text.isEmpty = true := String.isEmpty_iff.2 h
  unfold join
  by_cases hp : p.isAbsolute
  · rw [if_pos hp]
  · simp only [hp, Bool.false_eq_true, if_false, hempty, Bool.true_or, if_true]
    rw [h, String.empty_append]

section Name

variable {name : String} (hname : IsFileName name)
include hname

/-- A name that is added to a path is its last segment. The slash that the path may end with leaves
    an empty segment, and the name takes its place. -/
theorem segments_join {folder : Path} (hfolder : folder.text ≠ "") :
    ∃ segments, (folder.segments = segments ∨ folder.segments = segments ++ [""])
      ∧ segments ≠ [] ∧ (folder.join ⟨name⟩).segments = segments ++ [name] := by
  have hempty : folder.text.isEmpty = false := by
    rw [← Bool.not_eq_true, String.isEmpty_iff]
    exact hfolder
  -- In either case there is a text without the slash, whose segments are those in front.
  have hmap : ∀ cs : List Char, (Text.partsAt (· == '/') cs).map String.ofList ≠ [] := by
    intro cs hnil
    exact Text.partsAt_ne_nil _ cs (List.map_eq_nil_iff.1 hnil)
  by_cases hlast : folder.text.toList.getLast? = some '/'
  · rcases List.getLast?_eq_some_iff.1 hlast with ⟨front, hfront⟩
    refine ⟨(Text.partsAt (· == '/') front).map String.ofList, Or.inr ?_, hmap front, ?_⟩
    · rw [segments, hfront, Text.partsAt_append rfl, List.map_append]
      rfl
    · have hjoin : folder.join ⟨name⟩ = ⟨folder.text ++ name⟩ := by
        simp only [join, hname.isAbsolute, Bool.false_eq_true, if_false, hlast, BEq.rfl,
          Bool.or_true, if_true]
      have htext : (folder.text ++ name).toList = front ++ '/' :: name.toList := by
        rw [String.toList_append, hfront, List.append_assoc, List.singleton_append]
      rw [hjoin, segments, htext, Text.partsAt_append rfl, hname.partsAt_eq, List.map_append,
        List.map_singleton, String.ofList_toList]
  · refine ⟨folder.segments, Or.inl rfl, hmap _, ?_⟩
    have hjoin : folder.join ⟨name⟩ = ⟨folder.text ++ "/" ++ name⟩ := by
      simp only [join, hname.isAbsolute, Bool.false_eq_true, if_false, hempty, Bool.false_or,
        beq_iff_eq, hlast]
    have htext :
        (folder.text ++ "/" ++ name).toList = folder.text.toList ++ '/' :: name.toList := by
      rw [String.toList_append, String.toList_append, List.append_assoc]
      rfl
    rw [hjoin, segments, htext, Text.partsAt_append rfl, hname.partsAt_eq, List.map_append,
      List.map_singleton, String.ofList_toList, ← segments]

theorem isAbsolute_join {folder : Path} (hfolder : folder.text ≠ "") :
    (folder.join ⟨name⟩).isAbsolute = folder.isAbsolute := by
  have hnil : folder.text.toList ≠ [] := by
    intro hnil
    exact hfolder (String.toList_eq_nil_iff.1 hnil)
  have hhead : ∀ text : String, (folder.text ++ text).toList.head? = folder.text.toList.head? := by
    intro text
    rw [String.toList_append, List.head?_append_of_ne_nil _ hnil]
  simp only [join, hname.isAbsolute, Bool.false_eq_true, if_false]
  split
  · simp only [isAbsolute, hhead]
  · simp only [isAbsolute, String.append_assoc, hhead]

end Name

/-- What a path starts with: the root if it is absolute, and else perhaps a dot. -/
theorem start_eq (p : Path) :
    p.start.1 = if p.isAbsolute then some .root
      else if p.segments.head? = some "." then some .here else none := by
  cases htext : p.text.toList with
  | nil => simp only [start, segments, isAbsolute, htext, Text.partsAt]; rfl
  | cons c cs =>
      cases hparts : Text.partsAt (· == '/') cs with
      | nil => exact absurd hparts (Text.partsAt_ne_nil _ cs)
      | cons part parts =>
          by_cases hc : c = '/'
          · subst hc
            simp only [start, segments, isAbsolute, htext, Text.partsAt, BEq.rfl, if_true, hparts,
              List.map_cons, List.head?_cons]
          · have hslash : (c == '/') = false := beq_eq_false_iff_ne.2 hc
            have hfirst : String.ofList (c :: part) ≠ "" := by
              intro hfirst
              exact absurd (String.ofList_eq_empty_iff.1 hfirst) (List.cons_ne_nil c part)
            have hhead : (some c == some '/') = false := by
              rw [beq_eq_false_iff_ne, ne_eq, Option.some.injEq]
              exact hc
            simp only [start, segments, isAbsolute, htext, Text.partsAt, hslash, hparts,
              Bool.false_eq_true, if_false, List.map_cons, List.head?_cons, hhead,
              Option.some.injEq]
            split
            · next heq => exact absurd (List.cons.inj heq).1 hfirst
            · next heq => rw [if_pos (List.cons.inj heq).1]
            · next hhere =>
              have hdot : String.ofList (c :: part) ≠ "." := by
                intro heq
                exact hhere (parts.map String.ofList) (heq ▸ rfl)
              rw [if_neg hdot]

/-- The parts of a path are its start and what its segments stand for. -/
theorem parts_eq (p : Path) :
    p.parts = p.start.1.toList ++ p.segments.filterMap PathPart.ofSegment? := by
  have hidle : PathPart.ofSegment? "" = none ∧ PathPart.ofSegment? "." = none := by decide
  unfold parts
  congr 1
  unfold start
  split
  · next heq => simp only [heq, List.filterMap_cons, hidle.1]
  · next heq => simp only [heq, List.filterMap_cons, hidle.2]
  · rfl

/-- A name that is added to a path is its last part. -/
theorem parts_join {name : String} (hname : IsFileName name) (folder : Path) :
    (folder.join ⟨name⟩).parts = folder.parts ++ [.name name] := by
  by_cases hfolder : folder.text = ""
  · rw [join_of_empty hfolder, parts_eq, start_eq, hname.segments_eq, hname.isAbsolute]
    have hempty : folder = ⟨""⟩ := by rw [← hfolder]
    have hparts : folder.parts = [] := by rw [hempty]; decide
    simp only [hparts, Bool.false_eq_true, if_false, List.head?_cons, Option.some.injEq,
      hname.ne_here, Option.toList_none, List.filterMap_cons, hname.part, List.filterMap_nil]
  · rcases segments_join hname hfolder with ⟨segs, hfront, hnil, hjoin⟩
    have hhead : ∀ s, (segs ++ [s]).head? = segs.head? := by
      intro s
      rw [List.head?_append_of_ne_nil _ hnil]
    have hname' : [name].filterMap PathPart.ofSegment? = [.name name] := by
      rw [List.filterMap_cons, hname.part, List.filterMap_nil]
    have hempty : [""].filterMap PathPart.ofSegment? = [] := by decide
    rw [parts_eq, parts_eq, start_eq, start_eq, isAbsolute_join hname hfolder, hjoin,
      List.filterMap_append, hname', hhead]
    rcases hfront with hsame | hslash
    · rw [hsame, List.append_assoc]
    · rw [hslash, hhead, List.filterMap_append, hempty, List.append_nil, List.append_assoc]

/-- The name that a path ends in is what its last segment with a meaning stands for: a path does
    not start with a name. -/
theorem getLast?_of_fileName? {p : Path} {name : String} (h : p.fileName? = some name) :
    (p.segments.filterMap PathPart.ofSegment?).getLast? = some (.name name) := by
  unfold fileName? at h
  rw [parts_eq, List.getLast?_append] at h
  cases hlast : (p.segments.filterMap PathPart.ofSegment?).getLast? with
  | none =>
      rw [hlast, Option.none_or, start_eq] at h
      by_cases hroot : p.isAbsolute
      · rw [if_pos hroot] at h
        exact absurd h (Option.some_ne_none name).symm
      · rw [if_neg hroot] at h
        by_cases hhere : p.segments.head? = some "."
        · rw [if_pos hhere] at h
          exact absurd h (Option.some_ne_none name).symm
        · rw [if_neg hhere] at h
          exact absurd h (Option.some_ne_none name).symm
  | some part =>
      rw [hlast, Option.some_or] at h
      cases part with
      | name s => rw [Option.some.inj h]
      | root => exact absurd h (Option.some_ne_none name).symm
      | here => exact absurd h (Option.some_ne_none name).symm
      | up => exact absurd h (Option.some_ne_none name).symm

/-- A segment that stands for a name is one that a file can have. -/
theorem isFileName_of_mem_segments {p : Path} {segment name : String} (h : segment ∈ p.segments)
    (hpart : PathPart.ofSegment? segment = some (.name name)) : IsFileName segment := by
  have hsame := eq_of_ofSegment? hpart
  rcases List.mem_map.1 h with ⟨cs, hcs, rfl⟩
  refine ⟨hsame ▸ hpart, fun hslash => ?_⟩
  rw [String.toList_ofList] at hslash
  exact Text.forall_not_of_mem_partsAt hcs '/' hslash BEq.rfl

/-- What a path ends in is a name. -/
theorem isFileName_of_fileName? {p : Path} {name : String} (h : p.fileName? = some name) :
    IsFileName name := by
  rcases List.mem_filterMap.1 (List.mem_of_getLast? (getLast?_of_fileName? h)) with ⟨s, hs, hpart⟩
  exact eq_of_ofSegment? hpart ▸ isFileName_of_mem_segments hs hpart

end Path

/-- An extension can be told from the stem in front of it. -/
theorem splitExtension_append {stem extension : String} (hstem : stem ≠ "")
    (hextension : '.' ∉ extension.toList) :
    splitExtension (stem ++ "." ++ extension) = (stem, some extension) := by
  have hreverse : (stem ++ "." ++ extension).toList.reverse
      = extension.toList.reverse ++ '.' :: stem.toList.reverse := by
    rw [String.toList_append, String.toList_append, List.reverse_append, List.reverse_append]
    rfl
  have hbefore : ∀ c ∈ extension.toList.reverse, (c != '.') = true := by
    intro c hc
    rw [bne_iff_ne]
    intro hdot
    exact hextension (hdot ▸ List.mem_reverse.1 hc)
  have htake : (extension.toList.reverse ++ '.' :: stem.toList.reverse).takeWhile (· != '.')
      = extension.toList.reverse := by
    rw [List.takeWhile_append_of_pos hbefore]
    simp only [List.takeWhile_cons, bne_self_eq_false, Bool.false_eq_true, if_false,
      List.append_nil]
  have hdrop : (extension.toList.reverse ++ '.' :: stem.toList.reverse).dropWhile (· != '.')
      = '.' :: stem.toList.reverse := by
    rw [List.dropWhile_append_of_pos hbefore]
    simp only [List.dropWhile_cons, bne_self_eq_false, Bool.false_eq_true, if_false]
  unfold splitExtension
  simp only [hreverse, htake, hdrop]
  -- A dot that comes first would not part the name.
  cases hrest : stem.toList.reverse with
  | nil =>
      rw [List.reverse_eq_nil_iff, String.toList_eq_nil_iff] at hrest
      exact absurd hrest hstem
  | cons c cs =>
      simp only []
      rw [← hrest, List.reverse_reverse, List.reverse_reverse, String.ofList_toList,
        String.ofList_toList]

/-- The stem of a name with an extension is not empty. -/
theorem stem_ne_empty {name extension : String} (h : (splitExtension name).2 = some extension) :
    (splitExtension name).1 ≠ "" := by
  unfold splitExtension at h ⊢
  simp only [] at h ⊢
  split at h
  · exact absurd h (by simp only [reduceCtorEq, not_false_eq_true])
  · exact absurd h (by simp only [reduceCtorEq, not_false_eq_true])
  · next d stem hnot hdrop =>
    intro hempty
    exact hnot (List.reverse_eq_nil_iff.1 (String.ofList_eq_empty_iff.1 hempty))

/-- A stem has none but characters of the name. -/
theorem mem_of_mem_stem {name : String} {c : Char} (h : c ∈ (splitExtension name).1.toList) :
    c ∈ name.toList := by
  unfold splitExtension at h
  simp only [] at h
  split at h
  · exact h
  · exact h
  · next d stem hnot hdrop =>
    rw [String.toList_ofList, List.mem_reverse] at h
    have hmem : c ∈ name.toList.reverse.dropWhile (· != '.') := by
      rw [hdrop]
      exact List.mem_cons_of_mem d h
    exact List.mem_reverse.1 ((List.dropWhile_suffix _).subset hmem)

end Mise
