import Mathlib.Data.List.Induction
import Mise.FileTree
import Mise.Proofs.Path.Name

/-!
# Following Paths

A path is followed segment by segment, and where it leads depends on the folders alone. A path to
which a name was added leads to that name in the folder that the path leads to. The empty path leads
nowhere, but a name that is added to it is looked for in the working folder; `base?` is where the
names that are added to a path are looked for.

A tree that has all folders of another one leads every path of the other one to the same place.

## Main definitions

* `FileTree.base?`: Where the names that are added to a path are looked for.

## Theorems

* `follow?_append`: Segments are followed in two goes.
* `locate?_join`: Where a path leads to which a name was added.
* `getLast?_of_locate?`: A path that ends in a name leads to something of this name.
* `locate?_mono`: More folders do not change where a path leads.
* `locate?_congr`: Where a path leads depends on the folders alone.
-/

namespace Mise

namespace FileTree

variable (t : FileTree)

/-- Segments are followed in two goes. -/
theorem follow?_append (l : Location) (front back : List String) :
    t.follow? l (front ++ back) = (t.follow? l front).bind fun l => t.follow? l back := by
  induction front generalizing l with
  | nil => simp only [List.nil_append, follow?, Option.bind_some]
  | cons s front ih =>
      simp only [List.cons_append, follow?]
      by_cases hl : t.isFolder l
      · simp only [hl, if_true, ih]
      · simp only [hl, Bool.false_eq_true, if_false, Option.bind_none]

theorem stepFrom_name {name : String} (hname : IsFileName name) (l : Location) :
    stepFrom l name = l ++ [name] := by
  simp only [stepFrom, hname.part]

/-- Where the names that are added to a path are looked for: where the path leads, and in the
    working folder if the path is empty. -/
def base? (p : Path) : Option Location :=
  if p.text.isEmpty then some t.workingFolder else t.locate? p

variable {t}

theorem text_ne_empty_of_locate? {p : Path} {l : Location} (h : t.locate? p = some l) :
    p.text.isEmpty = false := by
  cases hempty : p.text.isEmpty with
  | false => rfl
  | true =>
      rw [locate?, hempty, if_pos rfl] at h
      exact absurd h (by simp only [reduceCtorEq, not_false_eq_true])

theorem base?_of_locate? {p : Path} {l : Location} (h : t.locate? p = some l) :
    t.base? p = some l := by
  rw [base?, text_ne_empty_of_locate? h, if_neg Bool.false_ne_true, h]

variable (t)

/-- A path to which a name was added leads to the name in the folder that the path leads to. -/
theorem locate?_join {name : String} (hname : IsFileName name) (p : Path) :
    t.locate? (p.join ⟨name⟩)
      = (t.base? p).bind fun l => if t.isFolder l then some (l ++ [name]) else none := by
  have hfollow : ∀ l, t.follow? l [name] = if t.isFolder l then some (l ++ [name]) else none := by
    intro l
    simp only [follow?, stepFrom_name hname]
  by_cases hp : p.text = ""
  · have hempty : name.isEmpty = false := by
      rw [← Bool.not_eq_true, String.isEmpty_iff]
      exact hname.ne_empty
    rw [Path.join_of_empty hp]
    simp only [locate?, hempty, Bool.false_eq_true, if_false, startOf, hname.isAbsolute,
      hname.segments_eq, hfollow, base?, String.isEmpty_iff, hp, if_true, Option.bind_some]
  · rcases Path.segments_join hname hp with ⟨segments, hfront, -, hjoin⟩
    have hstart : t.startOf (p.join ⟨name⟩) = t.startOf p := by
      simp only [startOf, Path.isAbsolute_join hname hp]
    have hempty : (p.join ⟨name⟩).text.isEmpty = false := by
      rw [← Bool.not_eq_true, String.isEmpty_iff]
      intro htext
      have hsegments : (p.join ⟨name⟩).segments = [""] := by
        rw [Path.segments, htext]
        decide
      have hlast := congrArg List.getLast? (hjoin.symm.trans hsegments)
      rw [List.getLast?_append, List.getLast?_singleton, Option.some_or] at hlast
      exact hname.ne_empty (Option.some.inj hlast)
    simp only [locate?, base?, hempty, String.isEmpty_iff, hp, Bool.false_eq_true, if_false, hstart,
      hjoin, follow?_append, hfollow]
    rcases hfront with hsame | hslash
    · rw [hsame]
    · -- The empty segment asks for a folder, and so does the name in its place.
      have hidle : ∀ l, t.follow? l [""] = if t.isFolder l then some l else none := by
        intro l
        have hstep : stepFrom l "" = l := by
          have hnone : PathPart.ofSegment? "" = none := by decide
          simp only [stepFrom, hnone]
        simp only [follow?, hstep]
      rw [hslash, follow?_append, Option.bind_assoc]
      congr 1
      funext l
      rw [hidle]
      by_cases hl : t.isFolder l
      · simp only [hl, if_true, Option.bind_some]
      · simp only [hl, Bool.false_eq_true, if_false, Option.bind_none]

variable {t}

theorem eq_foldl_of_follow? {segments : List String} {l l' : Location}
    (h : t.follow? l segments = some l') : l' = segments.foldl stepFrom l := by
  induction segments generalizing l with
  | nil => exact (Option.some.inj h).symm
  | cons s segments ih =>
      rw [follow?] at h
      by_cases hl : t.isFolder l
      · rw [if_pos hl] at h
        exact ih h
      · rw [if_neg hl] at h
        exact absurd h (by simp only [reduceCtorEq, not_false_eq_true])

-- The segments at the end that stand for nothing do not lead on.
theorem getLast?_foldl_stepFrom {segments : List String} {name : String} (l : Location)
    (h : (segments.filterMap PathPart.ofSegment?).getLast? = some (.name name)) :
    (segments.foldl stepFrom l).getLast? = some name := by
  induction segments using List.reverseRecOn with
  | nil => exact absurd h (by simp only [List.filterMap_nil, List.getLast?_nil, reduceCtorEq,
      not_false_eq_true])
  | append_singleton front s ih =>
      rw [List.foldl_append, List.foldl_cons, List.foldl_nil]
      rw [List.filterMap_append, List.filterMap_cons] at h
      cases hs : PathPart.ofSegment? s with
      | none =>
          rw [hs] at h
          simp only [List.filterMap_nil, List.append_nil] at h
          rw [stepFrom, hs]
          exact ih h
      | some part =>
          rw [hs] at h
          simp only [List.filterMap_nil, List.getLast?_append, List.getLast?_singleton,
            Option.some_or, Option.some.injEq] at h
          rw [stepFrom, hs, h]
          have hsame := eq_of_ofSegment? (h ▸ hs)
          simp only [List.getLast?_append, List.getLast?_singleton, Option.some_or]

/-- A path that ends in a name leads to something of this name. -/
theorem getLast?_of_locate? {p : Path} {l : Location} {name : String}
    (hlocate : t.locate? p = some l) (hname : p.fileName? = some name) :
    l.getLast? = some name := by
  rw [locate?, text_ne_empty_of_locate? hlocate, if_neg Bool.false_ne_true] at hlocate
  rw [eq_foldl_of_follow? hlocate]
  exact getLast?_foldl_stepFrom _ (Path.getLast?_of_fileName? hname)

variable {u : FileTree}

theorem follow?_mono (h : ∀ l, t.isFolder l → u.isFolder l) {segments : List String}
    {l l' : Location} (hfollow : t.follow? l segments = some l') :
    u.follow? l segments = some l' := by
  induction segments generalizing l with
  | nil => exact hfollow
  | cons s segments ih =>
      rw [follow?] at hfollow ⊢
      by_cases hl : t.isFolder l
      · rw [if_pos hl] at hfollow
        rw [if_pos (h l hl)]
        exact ih hfollow
      · rw [if_neg hl] at hfollow
        exact absurd hfollow (by simp only [reduceCtorEq, not_false_eq_true])

/-- More folders do not change where a path leads. -/
theorem locate?_mono (h : ∀ l, t.isFolder l → u.isFolder l)
    (hworking : u.workingFolder = t.workingFolder) {p : Path} {l : Location}
    (hlocate : t.locate? p = some l) : u.locate? p = some l := by
  have hempty := text_ne_empty_of_locate? hlocate
  rw [locate?, hempty, if_neg Bool.false_ne_true] at hlocate ⊢
  have hstart : u.startOf p = t.startOf p := by rw [startOf, startOf, hworking]
  rw [hstart]
  exact follow?_mono h hlocate

/-- Where a path leads depends on the folders alone. -/
theorem locate?_congr (h : ∀ l, u.isFolder l = t.isFolder l)
    (hworking : u.workingFolder = t.workingFolder) (p : Path) : u.locate? p = t.locate? p := by
  cases hlocate : t.locate? p with
  | some l => exact locate?_mono (fun l hl => (h l).trans hl) hworking hlocate
  | none =>
      cases hother : u.locate? p with
      | none => rfl
      | some l =>
          rw [locate?_mono (fun l hl => (h l).symm.trans hl) hworking.symm hother] at hlocate
          exact absurd hlocate (by simp only [reduceCtorEq, not_false_eq_true])

theorem base?_congr (h : ∀ l, u.isFolder l = t.isFolder l)
    (hworking : u.workingFolder = t.workingFolder) (p : Path) : u.base? p = t.base? p := by
  rw [base?, base?, hworking, locate?_congr h hworking]

end FileTree

end Mise
