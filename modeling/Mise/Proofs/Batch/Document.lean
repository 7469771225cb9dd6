import Mathlib.Data.List.Nodup
import Mise.Proofs.Batch.Loading
import Mise.Proofs.FileTree.Change

/-!
# Documents in a Folder

What is compiled from a folder are the files below it, in the order of their ways from the folder,
as far as they are taken for documents and are not passed over as output. Each is named by the path
that is made of the folder and the way, and this path leads to the file.

What lies in the output folder is passed over, as far as the output folder is met on the way from
the folder. A file that is passed over is therefore covered by the output folder, while a file that
is not passed over and looks like a document is found, and found once.

## Main definitions

* `FileTree.documents`: The documents that are found in a folder.
* `FileTree.Covers`: A location is what a path leads to, or below it.

## Theorems

* `isUpTo_trans`, `isUpTo_total`, `isUpTo_antisymm`: Ways are in order.
* `documents_in_order`: Documents are in the order of their ways.
* `locate?_below`: The path of a file below a folder leads to it.
* `fileName?_of_file`: A path that leads to a file ends in its name.
* `file_of_mem_documents`: Documents are files, and their names have a stem.
* `nodup_documents`: No document is found twice.
* `meets_iff`: What is passed over.
* `covers_of_meets`: A file that is passed over is covered by the output folder.
* `countP_documents`: A file is found once, or it is passed over.
-/

namespace Mise

/-! ## The order of ways -/

namespace Location

/-- What comes before something that comes before a way comes before that way. -/
theorem isUpTo_trans (a b c : Location) (hab : isUpTo a b) (hbc : isUpTo b c) : isUpTo a c := by
  induction a generalizing b c with
  | nil => rfl
  | cons x xs ih =>
      cases b with
      | nil => exact absurd hab Bool.false_ne_true
      | cons y ys =>
          cases c with
          | nil => exact absurd hbc Bool.false_ne_true
          | cons z zs =>
              simp only [isUpTo] at hab hbc ⊢
              by_cases hxy : x = y
              · subst hxy
                rw [if_pos rfl] at hab
                by_cases hxz : x = z
                · rw [if_pos hxz] at hbc ⊢
                  exact ih ys zs hab hbc
                · rw [if_neg hxz] at hbc ⊢
                  exact hbc
              · rw [if_neg hxy, decide_eq_true_iff] at hab
                by_cases hyz : y = z
                · subst hyz
                  rw [if_neg hxy, decide_eq_true_iff]
                  exact hab
                · rw [if_neg hyz, decide_eq_true_iff] at hbc
                  have hlt := String.lt_trans hab hbc
                  rw [if_neg (String.ne_of_lt hlt), decide_eq_true_iff]
                  exact hlt

/-- Of two ways, one comes before the other. -/
theorem isUpTo_total (a b : Location) : isUpTo a b || isUpTo b a := by
  induction a generalizing b with
  | nil => rfl
  | cons x xs ih =>
      cases b with
      | nil => rfl
      | cons y ys =>
          simp only [isUpTo]
          by_cases hxy : x = y
          · rw [if_pos hxy, if_pos hxy.symm]
            exact ih ys
          · rw [if_neg hxy, if_neg (Ne.symm hxy), Bool.or_eq_true, decide_eq_true_iff,
              decide_eq_true_iff]
            by_cases hlt : x < y
            · exact Or.inl hlt
            · refine Or.inr (Decidable.byContradiction fun hge => hxy ?_)
              exact String.le_antisymm (String.not_lt.1 hge) (String.not_lt.1 hlt)

/-- Two ways that come before one another are the same. -/
theorem isUpTo_antisymm (a b : Location) (hab : isUpTo a b) (hba : isUpTo b a) : a = b := by
  induction a generalizing b with
  | nil =>
      cases b with
      | nil => rfl
      | cons y ys => exact absurd hba Bool.false_ne_true
  | cons x xs ih =>
      cases b with
      | nil => exact absurd hab Bool.false_ne_true
      | cons y ys =>
          simp only [isUpTo] at hab hba
          by_cases hxy : x = y
          · rw [if_pos hxy] at hab
            rw [if_pos hxy.symm] at hba
            rw [hxy, ih ys hab hba]
          · rw [if_neg hxy, decide_eq_true_iff] at hab
            rw [if_neg (Ne.symm hxy), decide_eq_true_iff] at hba
            exact absurd (String.lt_trans hab hba) (String.lt_irrefl x)

end Location

namespace FileTree

/-- The ways from a folder to the files below it, in order. -/
def waysBelow (t : FileTree) (folder : Path) : List Location :=
  (t.filesBelow folder).mergeSort Location.isUpTo

/-- The documents that are found in a folder. -/
def documents (t : FileTree) (folder output : Path) : List Path :=
  ((t.waysBelow folder).map folder.below).filter fun file =>
    file.isDocument && !folder.meets file output

theorem findDocuments_run (t : FileTree) (folder output : Path) :
    (findDocuments system folder output).run t = (t.documents folder output, t) := rfl

theorem documents_of_sorted {t : FileTree} {folder : Path}
    (h : (t.filesBelow folder).Pairwise fun a b => a.isUpTo b) (output : Path) :
    t.documents folder output = ((t.filesBelow folder).map folder.below).filter fun file =>
      file.isDocument && !folder.meets file output := by
  rw [documents, waysBelow, List.mergeSort_of_pairwise h]

/-- Documents are in the order of their ways. -/
theorem documents_in_order (t : FileTree) (folder output : Path) :
    ∃ ways : List Location, ways.Pairwise (fun a b => a.isUpTo b)
      ∧ t.documents folder output = ways.map folder.below := by
  have hsorted := List.pairwise_mergeSort Location.isUpTo_trans Location.isUpTo_total
    (t.filesBelow folder)
  rw [documents, List.filter_map]
  exact ⟨_, hsorted.filter _, rfl⟩

/-! ## Files below a folder -/

theorem wayBelow?_eq_some_iff {top l way : Location} :
    wayBelow? top l = some way ↔ l = top ++ way := by
  unfold wayBelow?
  constructor
  · intro h
    by_cases hpre : top.isPrefixOf l
    · rw [if_pos hpre, Option.some.injEq] at h
      rcases List.isPrefixOf_iff_prefix.1 hpre with ⟨rest, rfl⟩
      rw [← h, List.drop_left]
    · rw [if_neg hpre] at h
      exact absurd h (by simp only [reduceCtorEq, not_false_eq_true])
  · intro h
    have hpre : top.isPrefixOf l := List.isPrefixOf_iff_prefix.2 ⟨way, h.symm⟩
    rw [if_pos hpre, h, List.drop_left]

variable {t : FileTree} {folder output : Path} {top way : Location}

theorem mem_filesBelow_iff (htop : t.locate? folder = some top) :
    way ∈ t.filesBelow folder ↔ top ++ way ∈ t.files.keys := by
  simp only [filesBelow, htop, List.mem_filterMap, wayBelow?_eq_some_iff, exists_eq_right]

theorem nodup_filesBelow (hwf : t.WellFormed) (folder : Path) : (t.filesBelow folder).Nodup := by
  unfold filesBelow
  cases t.locate? folder with
  | none => exact List.nodup_nil
  | some top =>
      refine hwf.once.filterMap fun l l' way hl hl' => ?_
      exact (wayBelow?_eq_some_iff.1 hl).trans (wayBelow?_eq_some_iff.1 hl').symm

theorem mem_waysBelow_iff (htop : t.locate? folder = some top) :
    way ∈ t.waysBelow folder ↔ top ++ way ∈ t.files.keys :=
  (List.mergeSort_perm _ _).mem_iff.trans (mem_filesBelow_iff htop)

/-- A way below a folder leads to a file. -/
theorem file_of_mem_waysBelow (h : way ∈ t.waysBelow folder) :
    ∃ top, t.locate? folder = some top ∧ top ++ way ∈ t.files.keys := by
  cases htop : t.locate? folder with
  | none =>
      have hmem := (List.mergeSort_perm _ _).mem_iff.1 h
      rw [filesBelow, htop] at hmem
      exact absurd hmem List.not_mem_nil
  | some top => exact ⟨top, rfl, (mem_waysBelow_iff htop).1 h⟩

-- The names of the way are added to the path one by one, each in a folder.
theorem locate?_below_of_folders {p : Path} {start rest : Location}
    (hstart : t.locate? p = some start) (hnames : ∀ s ∈ rest, IsFileName s)
    (hfolders : ∀ front s, front ++ [s] <+: rest → t.isFolder (start ++ front)) :
    t.locate? (p.below rest) = some (start ++ rest) := by
  induction rest generalizing p start with
  | nil => rw [List.append_nil]; exact hstart
  | cons s rest ih =>
      have hfolder : t.isFolder start := by
        have hfirst := hfolders [] s ⟨rest, rfl⟩
        rwa [List.append_nil] at hfirst
      have hjoin : t.locate? (p.join ⟨s⟩) = some (start ++ [s]) := by
        rw [locate?_join t (hnames s List.mem_cons_self), base?_of_locate? hstart, Option.bind_some,
          if_pos hfolder]
      have hrest := ih hjoin (fun x hx => hnames x (List.mem_cons_of_mem s hx)) fun front x hx => by
        rw [List.append_assoc]
        exact hfolders (s :: front) x (List.cons_prefix_cons.2 ⟨rfl, hx⟩)
      rw [List.append_assoc, List.singleton_append] at hrest
      exact hrest

/-- The path of a file below a folder leads to it, and so do the paths of the folders on the way. -/
theorem locate?_below (hwf : t.WellFormed) (htop : t.locate? folder = some top)
    (hfile : top ++ way ∈ t.files.keys) {front : Location} (hfront : front <+: way) :
    t.locate? (folder.below front) = some (top ++ front) := by
  have hmem : top ++ way ∈ t.locations := List.mem_append_right _ hfile
  refine locate?_below_of_folders htop (fun s hs => ?_) fun first s hfirst => ?_
  · exact (hwf.placed _ hmem).named s (List.mem_append_right _ (hfront.subset hs))
  · have hpre : top ++ (first ++ [s]) <+: top ++ way :=
      (List.prefix_append_right_inj top).2 (hfirst.trans hfront)
    rw [← List.append_assoc] at hpre
    refine isFolder_of_isPrefix hwf hmem ((List.prefix_append _ [s]).trans hpre) fun hsame => ?_
    -- The folder is shorter than the way to the file.
    have hlength := hpre.length_le
    rw [← hsame, List.length_append, List.length_singleton] at hlength
    omega

/-- A path that leads to a file ends in its name. -/
theorem fileName?_of_file (hwf : t.WellFormed) {p : Path} {l : Location}
    (hlocate : t.locate? p = some l) (hfile : t.isFolder l = false) :
    p.fileName? = l.getLast? := by
  rw [locate?, text_ne_empty_of_locate? hlocate, if_neg Bool.false_ne_true] at hlocate
  rcases List.eq_nil_or_concat p.segments with hnil | ⟨front, s, hsegments⟩
  · -- Without a segment the path would lead to where it starts.
    rw [hnil, follow?, Option.some.injEq] at hlocate
    rw [← hlocate, isFolder_startOf hwf] at hfile
    exact absurd hfile.symm Bool.false_ne_true
  · rw [hsegments, List.concat_eq_append, follow?_append, Option.bind_eq_some_iff] at hlocate
    rcases hlocate with ⟨l', -, hlast⟩
    rw [follow?] at hlast
    by_cases hfolder : t.isFolder l'
    · rw [if_pos hfolder, follow?, Option.some.injEq] at hlast
      cases hpart : PathPart.ofSegment? s with
      | none =>
          rw [stepFrom, hpart] at hlast
          rw [← hlast, hfolder] at hfile
          exact absurd hfile.symm Bool.false_ne_true
      | some part =>
          cases part with
          | name name =>
              rw [stepFrom, hpart] at hlast
              have hparts : p.parts.getLast? = some (.name name) := by
                rw [Path.parts_eq, hsegments, List.concat_eq_append, List.filterMap_append,
                  List.filterMap_cons, hpart, List.filterMap_nil, ← List.append_assoc,
                  List.getLast?_append, List.getLast?_singleton, Option.some_or]
              rw [Path.fileName?, hparts, ← hlast, List.getLast?_append, List.getLast?_singleton,
                Option.some_or]
          | up =>
              rw [stepFrom, hpart] at hlast
              rw [← hlast, isFolder_dropLast hwf hfolder] at hfile
              exact absurd hfile.symm Bool.false_ne_true
          | root =>
              rw [stepFrom, hpart] at hlast
              rw [← hlast, hfolder] at hfile
              exact absurd hfile.symm Bool.false_ne_true
          | here =>
              rw [stepFrom, hpart] at hlast
              rw [← hlast, hfolder] at hfile
              exact absurd hfile.symm Bool.false_ne_true
    · rw [if_neg hfolder] at hlast
      exact absurd hlast (by simp only [reduceCtorEq, not_false_eq_true])

theorem mem_documents_iff {d : Path} :
    d ∈ t.documents folder output
      ↔ ∃ way ∈ t.waysBelow folder, folder.below way = d
        ∧ d.isDocument && !folder.meets d output := by
  rw [documents, List.mem_filter, List.mem_map]
  constructor
  · intro ⟨⟨way, hway, hd⟩, hfound⟩
    exact ⟨way, hway, hd, hfound⟩
  · intro ⟨way, hway, hd, hfound⟩
    exact ⟨⟨way, hway, hd⟩, hfound⟩

/-- Documents are files, and their names have a stem. -/
theorem file_of_mem_documents (hwf : t.WellFormed) {d : Path} (hd : d ∈ t.documents folder output) :
    ∃ l ∈ t.files.keys, t.locate? d = some l ∧ ∃ stem, d.stem? = some stem ∧ stem ≠ "" := by
  rcases mem_documents_iff.1 hd with ⟨way, hway, rfl, hfound⟩
  rcases file_of_mem_waysBelow hway with ⟨top, htop, hfile⟩
  refine ⟨top ++ way, hfile, locate?_below hwf htop hfile (List.prefix_refl way), ?_⟩
  rw [Bool.and_eq_true, Path.isDocument, Bool.and_eq_true, Path.extension?] at hfound
  -- What is taken for a document has an extension, and a name with one has a stem.
  cases hname : (folder.below way).fileName? with
  | none =>
      rw [hname, Option.bind_none] at hfound
      exact absurd hfound.1.1 Bool.false_ne_true
  | some name =>
      rw [hname, Option.bind_some] at hfound
      cases hextension : (splitExtension name).2 with
      | none =>
          rw [hextension] at hfound
          exact absurd hfound.1.1 Bool.false_ne_true
      | some extension =>
          refine ⟨(splitExtension name).1, ?_, stem_ne_empty hextension⟩
          rw [Path.stem?, hname, Option.map_some]

/-- No document is found twice. -/
theorem nodup_documents (hwf : t.WellFormed) (folder output : Path) :
    (t.documents folder output).Nodup := by
  have hways : (t.waysBelow folder).Nodup :=
    (List.mergeSort_perm _ _).nodup_iff.2 (nodup_filesBelow hwf folder)
  refine (hways.map_on fun way hway other hother hsame => ?_).filter _
  rcases file_of_mem_waysBelow hway with ⟨top, htop, hfile⟩
  have hlocate := locate?_below hwf htop hfile (List.prefix_refl way)
  have hlocate' := locate?_below hwf htop ((mem_waysBelow_iff htop).1 hother)
    (List.prefix_refl other)
  rw [hsame, hlocate', Option.some.injEq, List.append_cancel_left_eq] at hlocate
  exact hlocate.symm

/-! ## What is passed over -/

/-- A location is what a path leads to, or below it. Other spellings of the path count as well: one
    with a slash at its end leads nowhere if there is a file. -/
def Covers (t : FileTree) (p : Path) (l : Location) : Prop :=
  ∃ q top, q.parts = p.parts ∧ t.locate? q = some top ∧ top <+: l

theorem parts_below (hnames : ∀ s ∈ way, IsFileName s) (p : Path) :
    (p.below way).parts = p.parts ++ way.map PathPart.name := by
  induction way generalizing p with
  | nil => exact (List.append_nil _).symm
  | cons s way ih =>
      have hrest := ih (fun x hx => hnames x (List.mem_cons_of_mem s hx)) (p.join ⟨s⟩)
      rw [Path.parts_join (hnames s List.mem_cons_self), List.append_assoc] at hrest
      exact hrest

/-- The way from a folder meets a path if the path is made of the folder and names on the way. -/
theorem meets_iff (hnames : ∀ s ∈ way, IsFileName s) :
    folder.meets (folder.below way) output
      ↔ ∃ front : Location, output.parts = folder.parts ++ front.map .name ∧ front <+: way := by
  rw [Path.meets, Bool.and_eq_true, decide_eq_true_iff, List.isPrefixOf_iff_prefix,
    parts_below hnames]
  constructor
  · rintro ⟨hlength, hpre⟩
    -- The output path goes on from the folder, along the names of the way.
    rcases List.prefix_of_prefix_length_le (List.prefix_append _ _) hpre hlength with ⟨rest, hrest⟩
    rw [← hrest, List.prefix_append_right_inj] at hpre
    rcases hpre with ⟨rest', hway⟩
    rcases List.map_eq_append_iff.1 hway.symm with ⟨front, back, rfl, hfront, -⟩
    exact ⟨front, by rw [hfront, hrest], List.prefix_append front back⟩
  · rintro ⟨front, hparts, back, rfl⟩
    rw [hparts, List.length_append, List.map_append, List.prefix_append_right_inj]
    exact ⟨Nat.le_add_right _ _, List.prefix_append _ _⟩

theorem isFileName_of_file (hwf : t.WellFormed) (hfile : top ++ way ∈ t.files.keys) :
    ∀ s ∈ way, IsFileName s := fun s hs =>
  (hwf.placed _ (List.mem_append_right _ hfile)).named s (List.mem_append_right _ hs)

/-- A file that is passed over is covered by the output folder. -/
theorem covers_of_meets (hwf : t.WellFormed) (htop : t.locate? folder = some top)
    (hfile : top ++ way ∈ t.files.keys) (hmeets : folder.meets (folder.below way) output) :
    t.Covers output (top ++ way) := by
  have hnames := isFileName_of_file hwf hfile
  rcases (meets_iff hnames).1 hmeets with ⟨front, hparts, hfront⟩
  refine ⟨folder.below front, top ++ front, ?_, locate?_below hwf htop hfile hfront, ?_⟩
  · rw [parts_below fun s hs => hnames s (hfront.subset hs), hparts]
  · exact (List.prefix_append_right_inj top).2 hfront

/-- What is covered by a path that ends in a name has this name on its way. -/
theorem mem_of_covers {p : Path} {l : Location} {name : String} (h : t.Covers p l)
    (hname : p.fileName? = some name) : name ∈ l := by
  rcases h with ⟨q, top, hparts, hlocate, hpre⟩
  have hlast : q.fileName? = some name := by
    rw [Path.fileName?, hparts]
    exact hname
  exact hpre.subset (List.mem_of_getLast? (getLast?_of_locate? hlocate hlast))

/-- A file below a folder is found once, or it is passed over. -/
theorem countP_documents (hwf : t.WellFormed) (htop : t.locate? folder = some top)
    (hfile : top ++ way ∈ t.files.keys) (output : Path) :
    (t.documents folder output).countP (fun d => t.locate? d == some (top ++ way))
      = if (folder.below way).isDocument && !folder.meets (folder.below way) output then 1
        else 0 := by
  have hmem := (mem_waysBelow_iff htop).2 hfile
  have hnodup : (t.waysBelow folder).Nodup :=
    (List.mergeSort_perm _ _).nodup_iff.2 (nodup_filesBelow hwf folder)
  -- Of the ways from the folder, this one alone leads to the file.
  have hone : ∀ other ∈ t.waysBelow folder,
      (t.locate? (folder.below other) == some (top ++ way)) = (other == way) := by
    intro other hother
    rw [locate?_below hwf htop ((mem_waysBelow_iff htop).1 hother) List.prefix_rfl, Bool.eq_iff_iff,
      beq_iff_eq, beq_iff_eq, Option.some.injEq, List.append_cancel_left_eq]
  rw [documents, List.countP_filter, List.countP_map]
  by_cases hfound : ((folder.below way).isDocument && !folder.meets (folder.below way) output)
  · rw [if_pos hfound]
    have hcount := hnodup.count (a := way)
    rw [if_pos hmem] at hcount
    rw [← hcount, List.count]
    refine List.countP_congr fun other hother => ?_
    rw [Function.comp_apply, hone other hother, Bool.and_eq_true, and_iff_left_iff_imp, beq_iff_eq]
    intro hsame
    rw [hsame]
    exact hfound
  · rw [if_neg hfound, List.countP_eq_zero]
    intro other hother
    rw [Function.comp_apply, hone other hother, Bool.and_eq_true, beq_iff_eq]
    intro ⟨hsame, hother⟩
    rw [hsame] at hother
    exact hfound hother

end FileTree

end Mise
