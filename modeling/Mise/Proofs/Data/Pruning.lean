import Mathlib.Data.List.Forall2
import Mise.Compilation

/-!
# What Pruning Leaves

Pruning works from the inside out: a list may become empty only because all that was in it has
disappeared, and then it disappears as well. So one pass has to do what would otherwise take as many
passes as the data are deep. Here what is left is described without a pass: by a test that says
which data disappear, and by a relation between data and their pruned form in which the items and
fields that do not disappear stand in their order, each with its own pruned form.

Data are dense if no part of them is `null` or an empty list, however deep it lies. Pruned data are
dense, and pruning leaves dense data as they are. Pruning twice is therefore pruning once.

## Main definitions

* `Data.saysNothing`: Whether data disappear.
* `Data.PrunesTo`: Data and their pruned form.
* `Data.Part`, `Data.Dense`: What is inside data at any depth, and data without empty parts.

## Theorems

* `forall₂_filter_iff`: Selecting elements and replacing each of them, in one go or in two.
* `saysNothing_iff`: What says nothing is `null`, or a list of such data.
* `prune_eq_none_iff`: Pruning makes disappear what says nothing.
* `prune_eq_some_iff`: Pruning finds the pruned form.
* `dense_of_prune`, `prune_of_dense`: Dense data are what pruning leaves, and left as they are.
* `pruned_once_and_for_all`: What disappears, what is left, and that nothing in it can be pruned.
-/

namespace Mise

/-- Elements are selected by a test and each is related to one other, just if they are mapped to
    these others and all that fail the test are mapped to nothing. -/
theorem forall₂_filter_iff {α β : Type} {R : α → β → Prop} {p : α → Bool} {f : α → Option β}
    {xs : List α} {ys : List β} (hrelated : ∀ x ∈ xs, ∀ y, f x = some y ↔ R x y)
    (hselected : ∀ x ∈ xs, p x = (f x).isSome) :
    List.Forall₂ R (xs.filter p) ys ↔ xs.filterMap f = ys := by
  induction xs generalizing ys with
  | nil =>
      rw [List.filter_nil, List.filterMap_nil, List.forall₂_nil_left_iff, eq_comm]
  | cons x xs ih =>
      have hrest : ∀ ys, List.Forall₂ R (xs.filter p) ys ↔ xs.filterMap f = ys := fun ys =>
        ih (fun y hy => hrelated y (List.mem_cons_of_mem x hy))
          fun y hy => hselected y (List.mem_cons_of_mem x hy)
      have hx := hselected x List.mem_cons_self
      cases hfx : f x with
      | none =>
          rw [hfx] at hx
          rw [List.filter_cons_of_neg (by rw [hx]; exact Bool.false_ne_true),
            List.filterMap_cons_none hfx, hrest]
      | some z =>
          rw [hfx] at hx
          rw [List.filter_cons_of_pos hx, List.filterMap_cons_some hfx, List.forall₂_cons_left_iff]
          constructor
          · rintro ⟨y, ys', hy, hys, rfl⟩
            have hfy := (hrelated x List.mem_cons_self y).2 hy
            rw [(hrest ys').1 hys, Option.some.inj (hfx.symm.trans hfy)]
          · rintro rfl
            exact ⟨z, _, (hrelated x List.mem_cons_self z).1 hfx, (hrest _).2 rfl, rfl⟩

/-- Fields are related one by one if their names agree and their values are related. -/
theorem forall₂_fields_iff {α β : Type} {R : α → β → Prop} {fs : List (String × α)}
    {gs : List (String × β)} :
    List.Forall₂ (fun f g => f.1 = g.1 ∧ R f.2 g.2) fs gs
      ↔ fs.map Prod.fst = gs.map Prod.fst ∧ List.Forall₂ R (fs.map Prod.snd) (gs.map Prod.snd) := by
  induction fs generalizing gs with
  | nil =>
      simp only [List.forall₂_nil_left_iff, List.map_nil, List.map_eq_nil_iff, eq_comm (a := []),
        and_self]
  | cons f fs ih =>
      cases gs with
      | nil =>
          simp only [List.map_cons, List.map_nil, reduceCtorEq, false_and,
            List.forall₂_nil_right_iff]
      | cons g gs =>
          simp only [List.forall₂_cons, List.map_cons, List.cons.injEq, ih]
          tauto

namespace Data

/-- Induction on data: what holds of a list if it holds of its items, of a record if it holds of the
    values in it, and of everything else anyway, holds of all data. -/
@[elab_as_elim]
theorem induction {P : Data → Prop} (null : P .null) (bool : ∀ b, P (.bool b))
    (int : ∀ n, P (.int n)) (number : ∀ x, P (.number x)) (text : ∀ s, P (.text s))
    (list : ∀ items, (∀ item ∈ items, P item) → P (.list items))
    (record : ∀ fields, (∀ f ∈ fields, P f.2) → P (.record fields)) (d : Data) : P d := by
  refine @Data.rec P (fun items => ∀ item ∈ items, P item) (fun fields => ∀ f ∈ fields, P f.2)
    (fun f => P f.2) null bool int number text list record ?_ ?_ ?_ ?_ (fun _ _ h => h) d
  · exact fun d h => absurd h List.not_mem_nil
  · exact fun first rest hfirst hrest => List.forall_mem_cons.2 ⟨hfirst, hrest⟩
  · exact fun f h => absurd h List.not_mem_nil
  · exact fun first rest hfirst hrest => List.forall_mem_cons.2 ⟨hfirst, hrest⟩

mutual

/-- Whether data say nothing: `null` says nothing, and neither does a list of which no item says
    anything. -/
def saysNothing : Data → Bool
  | .null => true
  | .list items => allSayNothing items
  | _ => false

/-- Whether no item of a list says anything. -/
def allSayNothing : List Data → Bool
  | [] => true
  | d :: ds => saysNothing d && allSayNothing ds

end

/-- Data and their pruned form. The items of a list and the fields of a record that say something
    are left, in their order and each in its pruned form, and of a list there is something left. -/
inductive PrunesTo : Data → Data → Prop
  | bool (b : Bool) : PrunesTo (.bool b) (.bool b)
  | int (n : Int) : PrunesTo (.int n) (.int n)
  | number (x : Float) : PrunesTo (.number x) (.number x)
  | text (s : String) : PrunesTo (.text s) (.text s)
  | list {items kept : List Data}
      (hkept : List.Forall₂ PrunesTo (items.filter fun d => !d.saysNothing) kept)
      (hne : kept ≠ []) : PrunesTo (.list items) (.list kept)
  | record {fields kept : List (String × Data)}
      (hnames : (fields.filter fun f => !f.2.saysNothing).map Prod.fst = kept.map Prod.fst)
      (hvalues : List.Forall₂ PrunesTo ((fields.filter fun f => !f.2.saysNothing).map Prod.snd)
        (kept.map Prod.snd)) : PrunesTo (.record fields) (.record kept)

/-- What is inside data: they themselves, and what is inside an item or the value of a field. -/
inductive Part (e : Data) : Data → Prop
  | whole : Part e e
  | item {d : Data} {items : List Data} (hmem : d ∈ items) (hpart : Part e d) :
      Part e (.list items)
  | value {f : String × Data} {fields : List (String × Data)} (hmem : f ∈ fields)
      (hpart : Part e f.2) : Part e (.record fields)

/-- No part is `null` or an empty list. -/
def Dense (d : Data) : Prop :=
  ∀ e, Part e d → e ≠ .null ∧ e ≠ .list []

section Passes

theorem pruneItems_eq (items : List Data) : pruneItems items = items.filterMap prune := by
  induction items with
  | nil => rfl
  | cons d ds ih =>
      rw [pruneItems, List.filterMap_cons, ih]
      cases d.prune <;> rfl

theorem pruneFields_eq (fields : List (String × Data)) :
    pruneFields fields = fields.filterMap pruneField := by
  induction fields with
  | nil => rfl
  | cons f fs ih =>
      rw [pruneFields, List.filterMap_cons, ih]
      cases pruneField f <;> rfl

theorem pruneField_eq (f : String × Data) : pruneField f = f.2.prune.map fun d => (f.1, d) := by
  rcases f with ⟨name, d⟩
  rw [pruneField]
  cases d.prune <;> rfl

theorem allSayNothing_iff (items : List Data) :
    allSayNothing items ↔ ∀ d ∈ items, d.saysNothing := by
  induction items with
  | nil => simp only [allSayNothing, List.not_mem_nil, false_implies, implies_true]
  | cons d ds ih => rw [allSayNothing, Bool.and_eq_true, ih, List.forall_mem_cons]

theorem prune_list_eq_none_iff (items : List Data) :
    (list items).prune = none ↔ items.filterMap prune = [] := by
  rw [prune, pruneItems_eq]
  cases items.filterMap prune <;> simp only [reduceCtorEq]

theorem prune_list_eq_some_iff (items : List Data) (w : Data) :
    (list items).prune = some w
      ↔ ∃ kept, items.filterMap prune = kept ∧ kept ≠ [] ∧ w = .list kept := by
  rw [prune, pruneItems_eq]
  cases items.filterMap prune with
  | nil => simp only [reduceCtorEq, exists_eq_left', ne_eq, not_true_eq_false, false_and]
  | cons first rest =>
      simp only [Option.some.injEq, exists_eq_left', ne_eq, reduceCtorEq, not_false_eq_true,
        true_and, eq_comm (b := w)]

end Passes

/-- What says nothing is `null`, or a list of data that say nothing. -/
theorem saysNothing_iff (d : Data) :
    d.saysNothing ↔ d = .null ∨ ∃ items, d = .list items ∧ ∀ item ∈ items, item.saysNothing := by
  cases d with
  | list items =>
      rw [saysNothing, allSayNothing_iff]
      simp only [reduceCtorEq, Data.list.injEq, exists_eq_left', false_or]
  | _ => simp only [saysNothing, reduceCtorEq, false_and, exists_false, or_self, or_false,
      Bool.false_eq_true]

/-- Pruning makes disappear what says nothing, and nothing else. -/
theorem prune_eq_none_iff (d : Data) : d.prune = none ↔ d.saysNothing := by
  induction d using Data.induction with
  | list items ih =>
      rw [prune_list_eq_none_iff, List.filterMap_eq_nil_iff, saysNothing, allSayNothing_iff]
      exact forall₂_congr ih
  | _ => simp only [prune, saysNothing, reduceCtorEq, Bool.false_eq_true]

theorem not_saysNothing_eq (d : Data) : (!d.saysNothing) = d.prune.isSome := by
  rw [Bool.eq_iff_iff, Option.isSome_iff_ne_none, ne_eq, prune_eq_none_iff, Bool.not_eq_true',
    Bool.not_eq_true]

/-- Pruning finds the pruned form, and there is no other. -/
theorem prune_eq_some_iff (d w : Data) : d.prune = some w ↔ PrunesTo d w := by
  induction d using Data.induction generalizing w with
  | null =>
      simp only [prune, reduceCtorEq, false_iff]
      exact fun h => nomatch h
  | list items ih =>
      have hitems (kept : List Data) :
          List.Forall₂ PrunesTo (items.filter fun d => !d.saysNothing) kept
            ↔ items.filterMap prune = kept :=
        forall₂_filter_iff ih fun d _ => not_saysNothing_eq d
      rw [prune_list_eq_some_iff]
      constructor
      · rintro ⟨kept, hkept, hne, rfl⟩
        exact .list ((hitems kept).2 hkept) hne
      · rintro ⟨⟩
        next hne hkept => exact ⟨_, (hitems _).1 hkept, hne, rfl⟩
  | record fields ih =>
      have hfields (kept : List (String × Data)) :
          List.Forall₂ (fun f g : String × Data => f.1 = g.1 ∧ PrunesTo f.2 g.2)
              (fields.filter fun f => !f.2.saysNothing) kept
            ↔ fields.filterMap pruneField = kept := by
        refine forall₂_filter_iff (fun f hf g => ?_) fun f _ => ?_
        · rcases g with ⟨name, d⟩
          rw [pruneField_eq, Option.map_eq_some_iff]
          simp only [ih f hf, Prod.mk.injEq]
          constructor
          · rintro ⟨_, hd, hname, rfl⟩
            exact ⟨hname, hd⟩
          · exact fun h => ⟨d, h.2, h.1, rfl⟩
        · rw [pruneField_eq, Option.isSome_map]
          exact not_saysNothing_eq f.2
      rw [prune, pruneFields_eq, Option.some.injEq]
      constructor
      · rintro rfl
        rcases forall₂_fields_iff.1 ((hfields _).2 rfl) with ⟨hnames, hvalues⟩
        exact .record hnames hvalues
      · rintro ⟨⟩
        next hnames hvalues => rw [(hfields _).1 (forall₂_fields_iff.2 ⟨hnames, hvalues⟩)]
  | _ =>
      simp only [prune, Option.some.injEq]
      constructor
      · rintro rfl
        constructor
      · rintro ⟨⟩
        rfl

theorem dense_list_iff (items : List Data) :
    (list items).Dense ↔ items ≠ [] ∧ ∀ d ∈ items, d.Dense := by
  constructor
  · intro h
    refine ⟨fun hnil => (h _ .whole).2 (congrArg list hnil), fun d hd e he => h e (.item hd he)⟩
  · rintro ⟨hne, hitems⟩ e (_ | ⟨hmem, hpart⟩ | _)
    · exact ⟨nofun, fun h => hne (Data.list.inj h)⟩
    · exact hitems _ hmem e hpart

theorem dense_record_iff (fields : List (String × Data)) :
    (record fields).Dense ↔ ∀ f ∈ fields, f.2.Dense := by
  constructor
  · exact fun h f hf e he => h e (.value hf he)
  · rintro hfields e (_ | _ | ⟨hmem, hpart⟩)
    · exact ⟨nofun, nofun⟩
    · exact hfields _ hmem e hpart

/-- What is left of data has no empty parts. -/
theorem dense_of_prune {d w : Data} (h : d.prune = some w) : w.Dense := by
  induction d using Data.induction generalizing w with
  | null => cases h
  | list items ih =>
      rcases (prune_list_eq_some_iff items w).1 h with ⟨kept, rfl, hne, rfl⟩
      refine (dense_list_iff _).2 ⟨hne, fun e he => ?_⟩
      rcases List.mem_filterMap.1 he with ⟨d, hd, hprune⟩
      exact ih d hd hprune
  | record fields ih =>
      rw [prune, pruneFields_eq, Option.some.injEq] at h
      rw [← h, dense_record_iff]
      intro g hg
      rcases List.mem_filterMap.1 hg with ⟨f, hf, hprune⟩
      rw [pruneField_eq] at hprune
      rcases Option.map_eq_some_iff.1 hprune with ⟨d, hd, rfl⟩
      exact ih f hf hd
  | _ =>
      -- What has no parts but itself is neither absent nor a list.
      simp only [prune, Option.some.injEq] at h
      rw [← h]
      rintro e ⟨⟩
      exact ⟨nofun, nofun⟩

/-- Data without empty parts are left as they are. -/
theorem prune_of_dense {d : Data} (h : d.Dense) : d.prune = some d := by
  induction d using Data.induction with
  | null => exact absurd rfl (h _ .whole).1
  | list items ih =>
      rcases (dense_list_iff items).1 h with ⟨hne, hitems⟩
      have hkept : items.filterMap prune = items := by
        rw [List.filterMap_congr fun d hd => ih d hd (hitems d hd), List.filterMap_some]
      exact (prune_list_eq_some_iff items _).2 ⟨items, hkept, hne, rfl⟩
  | record fields ih =>
      have hfields := (dense_record_iff fields).1 h
      have hkept : fields.filterMap pruneField = fields := by
        rw [List.filterMap_congr fun f hf => by
          rw [pruneField_eq, ih f hf (hfields f hf), Option.map_some], List.filterMap_some]
      rw [prune, pruneFields_eq, hkept]
  | _ => simp only [prune]

end Data

/-- A compilation is written as a record without empty parts. -/
theorem Compilation.data_eq_record (c : Compilation) :
    ∃ fields, c.data = .record fields ∧ (Data.record fields).Dense := by
  have hprune : (Data.record c.fields).prune = some (.record (Data.pruneFields c.fields)) := by
    rw [Data.prune]
  refine ⟨Data.pruneFields c.fields, ?_, Data.dense_of_prune hprune⟩
  rw [data, hprune, Option.getD_some]

/-- Pruning makes disappear what says nothing: `null`, and lists of data that say nothing. Of all
    other data it leaves the pruned form, in which no part is `null` or an empty list, and which
    pruning leaves as it is. A compilation is written as a record of that kind. -/
theorem pruned_once_and_for_all :
    (∀ d : Data, (d.prune = none ↔ d.saysNothing)
      ∧ (d.saysNothing
        ↔ d = .null ∨ ∃ items, d = .list items ∧ ∀ item ∈ items, item.saysNothing))
    ∧ (∀ d w : Data, d.prune = some w ↔ d.PrunesTo w)
    ∧ (∀ d w : Data, d.prune = some w → w.Dense ∧ w.prune = some w)
    ∧ ∀ c : Compilation, ∃ fields, c.data = .record fields ∧ (Data.record fields).Dense := by
  refine ⟨fun d => ⟨d.prune_eq_none_iff, d.saysNothing_iff⟩, Data.prune_eq_some_iff,
    fun d w h => ?_, Compilation.data_eq_record⟩
  have hdense := Data.dense_of_prune h
  exact ⟨hdense, Data.prune_of_dense hdense⟩

end Mise
