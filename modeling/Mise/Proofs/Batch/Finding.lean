import Mise.Proofs.Batch.Document

/-!
# Finding What Can Be Loaded

Whether a file is taken for a document is told by its extension as it is written. A file can be
loaded, though, whatever the case of its extension. So all that can be loaded is found if the
extensions are in lower case, each file once, and a file with an extension in any other case is
never found.

## Main definitions

* `FileTree.kitchen`: A folder with recipes.

## Theorems

* `isSome_ofText?_iff`: The extensions of the documents that can be loaded.
* `extension?_of_load`: A file that is not refused for its format has one of these.
* `found_if_lower_case`: Which of the files that can be loaded are found.
* `bread_found`: A file that is found.
* `loudSoup_passed_over`: A file that can be loaded and is not found.
-/

namespace Mise

namespace FileTree

variable {t : FileTree} {folder output : Path} {top way : Location}

/-- The extensions of the documents that can be loaded. -/
theorem isSome_ofText?_iff (extension text : String) :
    (Recipe.ofText? extension text).isSome ↔ extension ∈ documentExtensions := by
  simp only [Recipe.ofText?, documentExtensions, List.mem_cons, List.not_mem_nil, or_false]
  by_cases hjson : extension = "json"
  · simp only [hjson, if_true, Option.isSome_some, true_or]
  · by_cases hyaml : extension = "yaml" ∨ extension = "yml"
    · simp only [hjson, hyaml, if_false, if_true, Option.isSome_some, false_or]
    · simp only [hjson, hyaml, if_false, Option.isSome_none, Bool.false_eq_true, false_or]

theorem lowered_of_mem_documentExtensions {extension : String}
    (h : extension ∈ documentExtensions) : Text.lowered extension = extension := by
  have hall : ∀ e ∈ documentExtensions, Text.lowered e = e := by decide +kernel
  exact hall extension h

theorem read?_of_file (hwf : t.WellFormed) {p : Path} {l : Location}
    (hlocate : t.locate? p = some l) (hfile : l ∈ t.files.keys) :
    ∃ text, t.read? p = some text := by
  rw [Ledger.mem_keys_iff, Ledger.has, Option.isSome_iff_exists] at hfile
  rcases hfile with ⟨text, htext⟩
  have hkey : l ∈ t.files.keys := by
    rw [Ledger.mem_keys_iff, Ledger.has, htext, Option.isSome_some]
  refine ⟨text, ?_⟩
  rw [read?, hlocate, Option.bind_some, textAt?, hwf.apart l hkey, if_neg Bool.false_ne_true, htext]

-- A file without an extension has a format that is unknown, as has one with any other extension.
theorem extension?_of_load (hwf : t.WellFormed) {p : Path} {l : Location}
    (hlocate : t.locate? p = some l) (hfile : l ∈ t.files.keys)
    (hload : ∀ e q, ((Recipe.load system p).run t).1 ≠ .error (.unknownFormat e q)) :
    ∃ extension, p.extension? = some extension
      ∧ Text.lowered extension ∈ documentExtensions := by
  rcases read?_of_file hwf hlocate hfile with ⟨text, htext⟩
  have hformat : Text.lowered (p.extension?.getD "") ∈ documentExtensions := by
    rw [← isSome_ofText?_iff _ text, ← Bool.not_eq_false, Option.isSome_eq_false_iff,
      Option.isNone_iff_eq_none]
    intro hnone
    refine hload (Text.lowered (p.extension?.getD "")) p ?_
    rw [recipe_load_run, htext, Recipe.ofFile]
    simp only [hnone, Option.getD_none]
  cases hextension : p.extension? with
  | none =>
      rw [hextension, Option.getD_none] at hformat
      exact absurd hformat (by decide +kernel)
  | some extension =>
      rw [hextension, Option.getD_some] at hformat
      exact ⟨extension, rfl, hformat⟩

/-- Of the files below a folder that can be loaded and are neither settings nor output, those with
    an extension in lower case are found once, and the others are not found. -/
theorem found_if_lower_case (hwf : t.WellFormed) (htop : t.locate? folder = some top)
    (hfile : top ++ way ∈ t.files.keys) {name : String} (hlast : (top ++ way).getLast? = some name)
    (hname : name ≠ Settings.fileName)
    (hload : ∀ e q, ((Recipe.load system (folder.below way)).run t).1 ≠ .error (.unknownFormat e q))
    (hout : ¬ t.Covers output (top ++ way)) :
    ((findDocuments system folder output).run t).1.countP
        (fun d => t.locate? d == some (top ++ way))
      = if (splitExtension name).2.map Text.lowered = (splitExtension name).2 then 1 else 0 := by
  have hlocate := locate?_below hwf htop hfile (List.prefix_refl way)
  have hfileName : (folder.below way).fileName? = some name :=
    (fileName?_of_file hwf hlocate (hwf.apart _ hfile)).trans hlast
  have hsplit : (folder.below way).extension? = (splitExtension name).2 := by
    rw [Path.extension?, hfileName, Option.bind_some]
  rcases extension?_of_load hwf hlocate hfile hload with ⟨extension, hextension, hformat⟩
  have hmeets : folder.meets (folder.below way) output = false := by
    rw [← Bool.not_eq_true]
    intro hmeets
    exact hout (covers_of_meets hwf htop hfile hmeets)
  have hnotSettings : (some name != some Settings.fileName) = true := by
    rw [bne_iff_ne, ne_eq, Option.some.injEq]
    exact hname
  -- A format that is known is written in lower case, and so is the extension if it is the same.
  have hcase : documentExtensions.contains extension = true
      ↔ some (Text.lowered extension) = some extension := by
    rw [List.contains_iff_mem, Option.some.injEq]
    constructor
    · exact lowered_of_mem_documentExtensions
    · intro hsame
      exact hsame ▸ hformat
  rw [findDocuments_run, countP_documents hwf htop hfile output, hmeets, Bool.not_false,
    Bool.and_true, Path.isDocument, hfileName, hnotSettings, Bool.and_true, ← hsplit, hextension,
    Option.any_some, Option.map_some]
  by_cases hlower : some (Text.lowered extension) = some extension
  · rw [if_pos (hcase.2 hlower), if_pos hlower]
  · rw [if_neg fun hmem => hlower (hcase.1 hmem), if_neg hlower]

/-- A folder `recipes` with files of the given names and texts, seen from the folder it is in. -/
def kitchen (recipes : List (String × String)) : FileTree where
  folders := [["kitchen"], ["kitchen", "recipes"]]
  files := recipes.map fun r => (["kitchen", "recipes", r.1], r.2)
  workingFolder := ["kitchen"]

theorem ne_unknownFormat_of_isSome {loaded : Except Failure Recipe} (h : loaded.toOption.isSome)
    (e : String) (q : Path) : loaded ≠ .error (.unknownFormat e q) := by
  intro herror
  rw [herror] at h
  exact absurd h Bool.false_ne_true

/-- A file that is found. -/
theorem bread_found :
    ((findDocuments system ⟨"recipes"⟩ ⟨"build"⟩).run
        (kitchen [("bread.yml", "type: Recipe\n")])).1.countP
      (fun d => (kitchen [("bread.yml", "type: Recipe\n")]).locate? d
        == some ["kitchen", "recipes", "bread.yml"]) = 1 := by
  have hload : (((Recipe.load system ⟨"recipes/bread.yml"⟩).run
      (kitchen [("bread.yml", "type: Recipe\n")])).1).toOption.isSome := by decide +kernel
  have hout : ¬ (kitchen [("bread.yml", "type: Recipe\n")]).Covers ⟨"build"⟩
      ["kitchen", "recipes", "bread.yml"] := by
    intro hcovers
    have hbuild : Path.fileName? ⟨"build"⟩ = some "build" := by decide
    exact absurd (mem_of_covers hcovers hbuild) (by decide)
  have hwf : (kitchen [("bread.yml", "type: Recipe\n")]).WellFormed := by decide +kernel
  have htop : (kitchen [("bread.yml", "type: Recipe\n")]).locate? ⟨"recipes"⟩
      = some ["kitchen", "recipes"] := by decide +kernel
  have hfile : ["kitchen", "recipes"] ++ ["bread.yml"]
      ∈ (kitchen [("bread.yml", "type: Recipe\n")]).files.keys := by decide +kernel
  have hcount := found_if_lower_case hwf htop hfile rfl (by decide)
    (ne_unknownFormat_of_isSome hload) hout
  rw [if_pos (by decide +kernel)] at hcount
  exact hcount

/-- A file that can be loaded and is not found. -/
theorem loudSoup_passed_over :
    let t := kitchen [("SOUP.YAML", "type: Recipe\n")]
    t.WellFormed ∧ t.locate? ⟨"recipes"⟩ = some ["kitchen", "recipes"]
      ∧ ["kitchen", "recipes", "SOUP.YAML"] ∈ t.files.keys ∧ "SOUP.YAML" ≠ Settings.fileName
      ∧ (((Recipe.load system ⟨"recipes/SOUP.YAML"⟩).run t).1).toOption.isSome
      ∧ ¬ t.Covers ⟨"build"⟩ ["kitchen", "recipes", "SOUP.YAML"]
      ∧ ∀ d ∈ ((findDocuments system ⟨"recipes"⟩ ⟨"build"⟩).run t).1,
        t.locate? d ≠ some ["kitchen", "recipes", "SOUP.YAML"] := by
  intro t
  have hwf : t.WellFormed := by decide +kernel
  have htop : t.locate? ⟨"recipes"⟩ = some ["kitchen", "recipes"] := by decide +kernel
  have hfile : ["kitchen", "recipes"] ++ ["SOUP.YAML"] ∈ t.files.keys := by decide +kernel
  refine ⟨hwf, htop, hfile, by decide, by decide +kernel, fun hcovers => ?_, fun d hd hlocate => ?_⟩
  · have hbuild : Path.fileName? ⟨"build"⟩ = some "build" := by decide
    exact absurd (mem_of_covers hcovers hbuild) (by decide)
  · -- What is told from the extension as it is written is that this is no document.
    have hcount := countP_documents hwf htop hfile ⟨"build"⟩
    rw [if_neg (by decide +kernel), List.countP_eq_zero] at hcount
    exact hcount d hd (beq_iff_eq.2 hlocate)

end FileTree

end Mise
