import Mise.Proofs.FileTree.Change

/-!
# The Place of a Path

Where a path leads is told by its parts and the working folder. A tree only decides whether the path
can be followed: there may be no folder where one has to be passed. So a path has a place before
anything is there, two spellings with the same parts have the same place, and a path that goes on
from another one by names has its place below that of the other.

Making folders is asking for a folder at a place. If there is one already, and the path can be
followed to it, then nothing is made.

## Main definitions

* `FileTree.stepPart`: Where a part of a path leads.
* `FileTree.placeOf`: The place of a path.
* `Path.IsWrittenFrom`: A path goes on from another one by names.

## Theorems

* `eq_placeOf_of_base?`: A path that can be followed leads to its place.
* `placeOf_of_parts`: The place of a path that goes on from another one.
* `createFolders?_of_base?`: A folder that is there is not made again.
-/

namespace Mise

/-- A path goes on from a folder by names, as both are written. -/
def Path.IsWrittenFrom (p folder : Path) : Prop :=
  ∃ names : Location, p.parts = folder.parts ++ names.map PathPart.name

namespace FileTree

/-- Where a part of a path leads from a location. -/
def stepPart (l : Location) : PathPart → Location
  | .root => []
  | .here => l
  | .up => l.dropLast
  | .name s => l ++ [s]

/-- The place of a path: where it leads if it can be followed. -/
def placeOf (t : FileTree) (p : Path) : Location :=
  p.parts.foldl stepPart t.workingFolder

theorem placeOf_congr {t u : FileTree} (h : u.workingFolder = t.workingFolder) (p : Path) :
    u.placeOf p = t.placeOf p := by
  rw [placeOf, placeOf, h]

theorem foldl_stepFrom (segments : List String) (l : Location) :
    segments.foldl stepFrom l = (segments.filterMap PathPart.ofSegment?).foldl stepPart l := by
  have hstep : ∀ l s, stepFrom l s = (PathPart.ofSegment? s).toList.foldl stepPart l := by
    intro l s
    unfold stepFrom PathPart.ofSegment?
    split_ifs <;> rfl
  induction segments generalizing l with
  | nil => rfl
  | cons s segments ih =>
      rw [List.foldl_cons, ih, hstep, List.filterMap_cons]
      cases PathPart.ofSegment? s <;> rfl

variable {t : FileTree}

/-- A path that can be followed leads to its place. -/
theorem eq_placeOf_of_locate? {p : Path} {l : Location} (h : t.locate? p = some l) :
    l = t.placeOf p := by
  rw [locate?, text_ne_empty_of_locate? h, if_neg Bool.false_ne_true] at h
  rw [eq_foldl_of_follow? h, foldl_stepFrom, placeOf, Path.parts_eq, List.foldl_append,
    Path.start_eq, startOf]
  -- A slash leads to the root, and a dot leads nowhere else than no start at all.
  by_cases habsolute : p.isAbsolute
  · rw [if_pos habsolute, if_pos habsolute]
    rfl
  · rw [if_neg habsolute, if_neg habsolute]
    split_ifs <;> rfl

theorem eq_placeOf_of_base? {p : Path} {l : Location} (h : t.base? p = some l) :
    l = t.placeOf p := by
  unfold base? at h
  by_cases hp : p.text.isEmpty
  · rw [if_pos hp, Option.some.injEq] at h
    have hempty : p = ⟨""⟩ := by rw [← String.isEmpty_iff.1 hp]
    have hparts : p.parts = [] := by
      rw [hempty]
      decide
    rw [placeOf, hparts, List.foldl_nil, h]
  · rw [if_neg hp] at h
    exact eq_placeOf_of_locate? h

theorem foldl_stepPart_names (names l : Location) :
    (names.map PathPart.name).foldl stepPart l = l ++ names := by
  induction names generalizing l with
  | nil => exact (List.append_nil l).symm
  | cons name names ih =>
      rw [List.map_cons, List.foldl_cons, ih, stepPart, List.append_assoc, List.singleton_append]

/-- A path that goes on by names has its place below. -/
theorem placeOf_of_parts {p folder : Path} {names : Location}
    (h : p.parts = folder.parts ++ names.map .name) : t.placeOf p = t.placeOf folder ++ names := by
  rw [placeOf, h, List.foldl_append, foldl_stepPart_names, placeOf]

/-! ## Folders that are there -/

theorem isFolder_of_follow? {segments : List String} {l top : Location}
    (hfollow : t.follow? l segments = some top) (htop : t.isFolder top) : t.isFolder l := by
  cases segments with
  | nil => exact Option.some.inj hfollow ▸ htop
  | cons s segments =>
      rw [follow?] at hfollow
      by_cases hl : t.isFolder l
      · exact hl
      · rw [if_neg hl] at hfollow
        exact absurd hfollow (by simp only [reduceCtorEq, not_false_eq_true])

theorem addWay?_of_follow? {segments : List String} {l top : Location}
    (hfollow : t.follow? l segments = some top) (htop : t.isFolder top) :
    t.addWay? l segments = some t := by
  induction segments generalizing l with
  | nil => rfl
  | cons s segments ih =>
      have hl := isFolder_of_follow? hfollow htop
      rw [follow?, if_pos hl] at hfollow
      rw [addWay?, addFolder?, if_pos (isFolder_of_follow? hfollow htop)]
      exact ih hfollow

/-- A folder that is there is not made again. -/
theorem createFolders?_of_base? {p : Path} {top : Location} (h : t.base? p = some top)
    (htop : t.isFolder top) : t.createFolders? p = some t := by
  unfold base? at h
  by_cases hp : p.text.isEmpty
  · rw [createFolders?, if_pos hp]
  · rw [if_neg hp] at h
    have hkind : t.kind? p = some .folder := by
      rw [kind?, h, Option.bind_some, kindAt?, if_pos htop]
    have hdot : (endsInDot p && t.kind? p != some .folder) = false := by
      rw [hkind, bne_self_eq_false, Bool.and_false]
    rw [locate?, if_neg hp] at h
    rw [createFolders?, if_neg hp, hdot, if_neg Bool.false_ne_true]
    exact addWay?_of_follow? h htop

end FileTree

end Mise
