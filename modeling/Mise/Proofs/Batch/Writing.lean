import Mise.Proofs.Batch.Document

/-!
# Compiling Documents

Documents are compiled one after another, each of them in the tree that those before it left. A
document that fails changes nothing. Any other is compiled to one file, which is named by the stem
of the document alone. The folders stay as they are meanwhile, and so do all files but those that
documents are compiled to.

As long as no output takes the place of a document, each document is compiled as it was at the
start. What is left in the end are then the texts that the documents are compiled to, put at their
places one after the other, so that of several texts at one place the last one counts.

## Main definitions

* `Path.outputName`: The name of the file that a document is compiled to.
* `FileTree.SameFolders`: Two trees differ in their files at most.
* `FileTree.putAll`: Texts are put at locations one after the other.
* `FileTree.writings`: What is written for documents.
* `FileTree.outputFolder`: Where the documents in a folder are compiled to.
* `FileTree.compileInto`: What comes of compiling documents.

## Theorems

* `locate?_outputFile`: Where the output of a document is.
* `compileAll_cons_run`: What becomes of the first of several documents.
* `sameFolders_compileAll`: Compiling documents makes no folders.
* `textAt?_compileAll`: Files that no document is compiled to stay as they are.
* `textAt?_putAll`: Of several texts at a location, the last one counts.
* `compileAll_run`: What compiling documents comes to.
* `compileFolder_run`: A folder is compiled by compiling the documents in it.
* `compileInto_of_apart`: What comes of documents where nothing stands in the way.
-/

namespace Mise

/-! ## Output -/

/-- The name of the file that a document is compiled to. -/
def Path.outputName (document : Path) : String :=
  document.stem?.getD "recipe" ++ ".json"

theorem isFileName_json {stem : String} (h : '/' ∉ stem.toList) : IsFileName (stem ++ ".json") := by
  have hlast : (stem ++ ".json").toList.getLast? = some 'n' := by
    rw [String.toList_append, List.getLast?_append]
    rfl
  -- What says here or up ends in a dot, and what says nothing does not end.
  have hne : ∀ s : String, s.toList.getLast? ≠ some 'n' → stem ++ ".json" ≠ s := by
    intro s hs hsame
    exact hs (hsame ▸ hlast)
  refine ⟨?_, ?_⟩
  · rw [PathPart.ofSegment?, if_neg, if_neg (hne ".." (by decide))]
    rintro (hempty | hhere)
    · exact hne "" (by decide) hempty
    · exact hne "." (by decide) hhere
  · rw [String.toList_append, List.mem_append]
    rintro (hslash | hslash)
    · exact h hslash
    · exact absurd hslash (by decide)

theorem isFileName_outputName (d : Path) : IsFileName d.outputName := by
  refine isFileName_json fun hslash => ?_
  rw [Path.stem?] at hslash
  cases hname : d.fileName? with
  | none =>
      rw [hname] at hslash
      exact absurd hslash (by decide)
  | some name =>
      rw [hname, Option.map_some, Option.getD_some] at hslash
      exact (Path.isFileName_of_fileName? hname).noSlash (mem_of_mem_stem hslash)

namespace FileTree

/-- Where the output of a document is. -/
theorem locate?_outputFile {t : FileTree} {output : Path} {top : Location}
    (htop : t.base? output = some top) (hfolder : t.isFolder top) (d : Path) :
    t.locate? (outputFile output d) = some (top ++ [d.outputName]) := by
  rw [outputFile, ← Path.outputName, locate?_join t (isFileName_outputName d), htop,
    Option.bind_some, if_pos hfolder]

/-! ## One document after another -/

/-- Two trees differ in their files at most. -/
structure SameFolders (t u : FileTree) : Prop where
  isFolder : ∀ l, u.isFolder l = t.isFolder l
  workingFolder : u.workingFolder = t.workingFolder

theorem sameFolders_put (t : FileTree) (l : Location) (text : String) :
    SameFolders t (t.put l text) :=
  ⟨fun _ => rfl, rfl⟩

theorem SameFolders.trans {t u v : FileTree} (h : SameFolders t u) (h' : SameFolders u v) :
    SameFolders t v :=
  ⟨fun l => (h'.isFolder l).trans (h.isFolder l), h'.workingFolder.trans h.workingFolder⟩

variable {t after : FileTree} {o : CompileOptions} {pretty : Bool} {output : Path} {top : Location}

theorem rendering?_congr {u : FileTree} {d : Path} (h : u.read? d = t.read? d)
    (o : CompileOptions) (pretty : Bool) : u.rendering? o pretty d = t.rendering? o pretty d := by
  rw [rendering?, rendering?, compilation_congr h]

/-- A document is compiled as before if something else is written. -/
theorem rendering?_put {l : Location} (hl : t.isFolder l = false) (text : String) {d : Path}
    (hd : t.locate? d ≠ some l) :
    (t.put l text).rendering? o pretty d = t.rendering? o pretty d :=
  rendering?_congr (read?_put hl text hd) o pretty

/-- What becomes of the first of several documents: it fails and the others are compiled, its
    output is written and the others are compiled, or its output cannot be written. -/
theorem compileAll_cons_run (htop : t.base? output = some top) (hfolder : t.isFolder top) (d : Path)
    (rest : List Path) :
    (compileAll system o pretty output (d :: rest)).run t
      = match t.rendering? o pretty d with
        | none =>
          let others := (compileAll system o pretty output rest).run t
          (others.1.map (d :: ·), others.2)
        | some text =>
          if t.isFolder (top ++ [d.outputName]) then (.error (outputFile output d), t)
          else
            (compileAll system o pretty output rest).run (t.put (top ++ [d.outputName]) text) := by
  have hlocate := locate?_outputFile htop hfolder d
  rw [compileAll, rendering?, bind_run (load_run t o d)]
  cases hcompiled : t.compilation o d with
  | error e => rfl
  | ok c =>
      have hwrite : (system.write (outputFile output d) (c.text pretty ++ "\n")).run t
          = if t.isFolder (top ++ [d.outputName]) then (false, t)
            else (true, t.put (top ++ [d.outputName]) (c.text pretty ++ "\n")) := by
        have hwritten : t.write? (outputFile output d) (c.text pretty ++ "\n")
            = if t.isFolder (top ++ [d.outputName]) then none
              else some (t.put (top ++ [d.outputName]) (c.text pretty ++ "\n")) := by
          simp only [write?, hlocate]
          rfl
        simp only [system, attempt, StateT.run, hwritten]
        by_cases htarget : t.isFolder (top ++ [d.outputName])
        · simp only [htarget, if_true]
        · simp only [htarget, Bool.false_eq_true, if_false]
      by_cases htarget : t.isFolder (top ++ [d.outputName])
      · rw [if_pos htarget] at hwrite
        simp only [bind_run hwrite, if_pos htarget, Bool.false_eq_true, if_false]
        rfl
      · rw [if_neg htarget] at hwrite
        simp only [bind_run hwrite, if_neg htarget, if_true]

-- What every output that is written does to the tree is done by all of them together.
theorem compileAll_related {R : FileTree → FileTree → Prop} (hrefl : ∀ u, R u u)
    (htrans : ∀ u v w, R u v → R v w → R u w) {documents : List Path}
    (hput : ∀ u, ∀ d ∈ documents, ∀ text, u.isFolder (top ++ [d.outputName]) = false →
      R u (u.put (top ++ [d.outputName]) text))
    (htop : t.base? output = some top) (hfolder : t.isFolder top) :
    R t ((compileAll system o pretty output documents).run t).2 := by
  induction documents generalizing t with
  | nil => exact hrefl t
  | cons d rest ih =>
      have hrest := fun u e (he : e ∈ rest) => hput u e (List.mem_cons_of_mem d he)
      rw [compileAll_cons_run htop hfolder]
      cases t.rendering? o pretty d with
      | none => exact ih hrest htop hfolder
      | some text =>
          simp only []
          by_cases htarget : t.isFolder (top ++ [d.outputName])
          · rw [if_pos htarget]
            exact hrefl t
          · rw [if_neg htarget]
            have hfirst := hput t d List.mem_cons_self text (Bool.eq_false_iff.2 htarget)
            refine htrans _ _ _ hfirst (ih hrest ?_ hfolder)
            rw [base?_put]
            exact htop

/-- Compiling documents makes no folders. -/
theorem sameFolders_compileAll (o : CompileOptions) (pretty : Bool)
    (htop : t.base? output = some top) (hfolder : t.isFolder top) (documents : List Path) :
    SameFolders t ((compileAll system o pretty output documents).run t).2 := by
  refine compileAll_related (R := SameFolders) (fun _ => ⟨fun _ => rfl, rfl⟩)
    (fun _ _ _ => SameFolders.trans) (fun u d _ text _ => ?_) htop hfolder
  exact sameFolders_put u (top ++ [d.outputName]) text

/-- Files that no document is compiled to stay as they are. -/
theorem textAt?_compileAll (o : CompileOptions) (pretty : Bool)
    (htop : t.base? output = some top) (hfolder : t.isFolder top)
    {documents : List Path} {l : Location} (hl : ∀ d ∈ documents, l ≠ top ++ [d.outputName]) :
    ((compileAll system o pretty output documents).run t).2.textAt? l = t.textAt? l := by
  refine compileAll_related (R := fun u v => v.textAt? l = u.textAt? l) (fun _ => rfl)
    (fun _ _ _ huv hvw => hvw.trans huv) (fun u d hd text htarget => ?_) htop hfolder
  rw [textAt?_put htarget, if_neg (hl d hd)]

/-! ## All outputs -/

/-- The tree with texts at locations, one put after the other. -/
def putAll (t : FileTree) (writings : List (Location × String)) : FileTree :=
  writings.foldl (fun u w => u.put w.1 w.2) t

/-- What is written for documents, each compiled as it is in a tree. -/
def writings (t : FileTree) (o : CompileOptions) (pretty : Bool) (top : Location)
    (documents : List Path) : List (Location × String) :=
  documents.filterMap fun d =>
    (t.rendering? o pretty d).map fun text => (top ++ [d.outputName], text)

theorem sameFolders_putAll (t : FileTree) (ws : List (Location × String)) :
    SameFolders t (t.putAll ws) := by
  induction ws generalizing t with
  | nil => exact ⟨fun _ => rfl, rfl⟩
  | cons w ws ih => exact (sameFolders_put t w.1 w.2).trans (ih (t.put w.1 w.2))

/-- Of several texts that are put at a location, the last one counts. -/
theorem textAt?_putAll {ws : List (Location × String)}
    (hws : ∀ w ∈ ws, t.isFolder w.1 = false) (l : Location) :
    (t.putAll ws).textAt? l
      = ((ws.filter fun w => w.1 = l).getLast?.map Prod.snd).or (t.textAt? l) := by
  induction ws using List.reverseRecOn with
  | nil => rfl
  | append_singleton ws w ih =>
      have hput : t.putAll (ws ++ [w]) = (t.putAll ws).put w.1 w.2 := by
        rw [putAll, List.foldl_append, List.foldl_cons, List.foldl_nil, ← putAll]
      have hw : (t.putAll ws).isFolder w.1 = false := by
        rw [(sameFolders_putAll t ws).isFolder]
        exact hws w (List.mem_append_right ws List.mem_cons_self)
      have hrest := ih fun w' hw' => hws w' (List.mem_append_left [w] hw')
      rw [hput, textAt?_put hw, List.filter_append, List.filter_cons, List.filter_nil]
      by_cases hl : l = w.1
      · rw [if_pos hl, if_pos (decide_eq_true hl.symm), List.getLast?_append,
          List.getLast?_singleton, Option.some_or, Option.map_some, Option.some_or]
      · have hother : ¬ decide (w.1 = l) = true := by
          rw [decide_eq_true_iff]
          exact Ne.symm hl
        rw [if_neg hl, if_neg hother, List.append_nil]
        exact hrest

/-- What compiling documents comes to, if outputs can be written and none of them takes the place of
    a document that is still to be compiled. -/
theorem compileAll_run (htop : t.base? output = some top) (hfolder : t.isFolder top)
    {documents : List Path}
    (hapart : documents.Pairwise fun d e => t.locate? e ≠ some (top ++ [d.outputName]))
    (hwritable : ∀ d ∈ documents, (t.rendering? o pretty d).isSome →
      t.isFolder (top ++ [d.outputName]) = false) :
    (compileAll system o pretty output documents).run t
      = (.ok (documents.filter fun d => (t.rendering? o pretty d).isNone),
          t.putAll (t.writings o pretty top documents)) := by
  induction documents generalizing t with
  | nil => rfl
  | cons d rest ih =>
      rcases List.pairwise_cons.1 hapart with ⟨hfirst, hrest⟩
      have hwritableRest := fun e (he : e ∈ rest) => hwritable e (List.mem_cons_of_mem d he)
      rw [compileAll_cons_run htop hfolder]
      cases hrendering : t.rendering? o pretty d with
      | none =>
          simp only [ih htop hfolder hrest hwritableRest, writings, List.filterMap_cons,
            List.filter_cons, hrendering, Option.isNone_none, if_true, Option.map_none, Except.map]
      | some text =>
          have htarget := hwritable d List.mem_cons_self (by rw [hrendering, Option.isSome_some])
          -- The others are compiled as they would be without this output.
          have hsame : ∀ e ∈ rest,
              (t.put (top ++ [d.outputName]) text).rendering? o pretty e
                = t.rendering? o pretty e :=
            fun e he => rendering?_put htarget text (hfirst e he)
          have hothers := ih (t := t.put (top ++ [d.outputName]) text)
            (by rw [base?_put]; exact htop) hfolder
            (hrest.imp fun he => by rw [locate?_put]; exact he)
            (fun e he hcompiled => hwritableRest e he (hsame e he ▸ hcompiled))
          have hfailed : rest.filter
                (fun e => ((t.put (top ++ [d.outputName]) text).rendering? o pretty e).isNone)
              = rest.filter fun e => (t.rendering? o pretty e).isNone :=
            List.filter_congr fun e he => by rw [hsame e he]
          have hwritings : (t.put (top ++ [d.outputName]) text).writings o pretty top rest
              = t.writings o pretty top rest :=
            List.filterMap_congr fun e he => by rw [hsame e he]
          simp only [htarget, Bool.false_eq_true, if_false]
          rw [hothers, hfailed, hwritings]
          simp only [writings, List.filterMap_cons, List.filter_cons, hrendering,
            Option.isNone_some, Bool.false_eq_true, if_false, Option.map_some, putAll,
            List.foldl_cons]

/-! ## A folder -/

/-- The folder that is named for the output, or the one of this name in the folder itself. -/
def outputFolder (folder : Path) (output : Option Path) : Path :=
  output.getD (folder.join ⟨"compiled"⟩)

/-- What comes of compiling given documents of a folder. -/
def compileInto (t : FileTree) (s : Settings) (o : CompileOptions) (folder output : Path)
    (documents : List Path) : Report × FileTree :=
  if documents.isEmpty then (.failed (.noDocuments folder), t)
  else
    match t.createFolders? output with
    | none => (.failed (.folderRefused output), t)
    | some made =>
      match (compileAll system o s.pretty output documents).run made with
      | (.error target, after) => (.failed (.fileRefused target), after)
      | (.ok [], after) =>
        (.lines ["Compiled " ++ toString documents.length ++ " documents into " ++ output.text],
          after)
      | (.ok failed, after) => (.failed (.documents failed), after)

/-- A folder is compiled by compiling the documents in it, once the project is loaded. -/
theorem compileFolder_run (t : FileTree) (named : Option Path) (folder : Path)
    (output : Option Path) :
    (compileFolder system named folder output).run t
      = match t.project named with
        | .error e => (.failed e, t)
        | .ok (s, o) =>
          t.compileInto s o folder (outputFolder folder output)
            (t.documents folder (outputFolder folder output)) := by
  rw [compileFolder, withProject_run]
  cases t.project named with
  | error e => rfl
  | ok project =>
      rcases project with ⟨s, o⟩
      unfold outputFolder
      generalize output.getD (folder.join ⟨"compiled"⟩) = out
      simp only [bind_run (findDocuments_run t folder out), compileInto]
      by_cases hnone : (t.documents folder out).isEmpty
      · simp only [hnone, if_true]
        rfl
      · simp only [hnone, Bool.false_eq_true, if_false]
        cases hmade : t.createFolders? out with
        | none =>
            have hrun : (system.createFolders out).run t = (false, t) := by
              simp only [system, attempt, StateT.run, hmade]
            rw [bind_run hrun]
            rfl
        | some made =>
            have hrun : (system.createFolders out).run t = (true, made) := by
              simp only [system, attempt, StateT.run, hmade]
            rw [bind_run hrun]
            simp only [Bool.not_true, Bool.false_eq_true, if_false]
            generalize hresult :
              (compileAll system o s.pretty out (t.documents folder out)).run made = result
            rcases result with ⟨outcome, after⟩
            rw [bind_run hresult]
            cases outcome with
            | error target => rfl
            | ok failed =>
                cases failed with
                | nil => rfl
                | cons first others => rfl

/-- The same for the program. -/
theorem batch_answer_run {named : Option Path} (output : Option Path) {folder : Path}
    {s : Settings} {documents : List Path} (hproject : t.project named = .ok (s, o))
    (hdocuments : t.documents folder (outputFolder folder output) = documents) :
    ((Request.run named (.batch folder output)).answer system).run t
      = ((t.compileInto s o folder (outputFolder folder output) documents).1.answer,
          (t.compileInto s o folder (outputFolder folder output) documents).2) := by
  have hrun := compileFolder_run t named folder output
  simp only [hproject, hdocuments] at hrun
  rw [← hrun]
  rfl

/-- Where nothing stands in the way, the outputs of all documents that can be compiled are written,
    and the command succeeds if these are all documents. -/
theorem compileInto_of_apart (s : Settings) (folder : Path) {made : FileTree}
    {documents : List Path} (hdocuments : documents ≠ [])
    (hmade : t.createFolders? output = some made) (htop : made.base? output = some top)
    (hfolder : made.isFolder top)
    (hapart : documents.Pairwise fun d e => made.locate? e ≠ some (top ++ [d.outputName]))
    (hwritable : ∀ d ∈ documents, (made.rendering? o s.pretty d).isSome →
      made.isFolder (top ++ [d.outputName]) = false) :
    ∃ report, t.compileInto s o folder output documents
        = (report, made.putAll (made.writings o s.pretty top documents))
      ∧ (report.failure = none ↔ ∀ d ∈ documents, (made.rendering? o s.pretty d).isSome) := by
  have hnone : documents.isEmpty = false := by
    rw [← Bool.not_eq_true, List.isEmpty_iff]
    exact hdocuments
  unfold compileInto
  simp only [hnone, Bool.false_eq_true, if_false, hmade,
    compileAll_run htop hfolder hapart hwritable]
  -- What the report says depends on whether any document failed.
  cases hfailed : documents.filter fun d => (made.rendering? o s.pretty d).isNone with
  | nil =>
      refine ⟨_, rfl, iff_of_true rfl fun d hd => ?_⟩
      have hcompiled := List.filter_eq_nil_iff.1 hfailed d hd
      rw [Bool.not_eq_true, Option.isNone_eq_false_iff] at hcompiled
      exact hcompiled
  | cons d rest =>
      refine ⟨_, rfl, iff_of_false (Option.some_ne_none _) fun hcompiled => ?_⟩
      have hd := List.mem_filter.1 (hfailed ▸ List.mem_cons_self)
      rw [← Option.not_isSome, hcompiled d hd.1] at hd
      exact absurd hd.2 Bool.false_ne_true

end FileTree

end Mise
