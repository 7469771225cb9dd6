import Mise.Proofs.Batch.Stem

/-!
# Compiling One and Compiling All

A document can be compiled by itself, to any file, or with all others of its folder. Both come to
the same text. As long as the output folder holds none of the documents, a document that fails
makes the command fail and changes nothing else, and what is left for a stem is the text of the
last document with this stem that could be compiled. If there is none, the file with this name
stays as it was, as do all other files.

A document that fails by itself changes no tree at all, and neither does a project that cannot be
loaded.

## Theorems

* `writeOutput_run`: Writing an output that can be written.
* `compileFile_run_of_error`: A document that fails changes nothing.
* `compileFile_run_of_ok`: A document that is compiled is written to the file that is named.
* `map_filter_writings`: What is written for a stem.
* `textAt?_writings`: What is left of the documents in a folder.
* `folder_as_single_documents`: A folder is compiled as its documents are by themselves.
* `note_left_out`: A folder with a document that fails.
-/

namespace Mise

namespace FileTree

variable {t after made : FileTree} {s : Settings} {o : CompileOptions} {pretty : Bool}
  {named : Option Path} {folder out file target : Path} {top : Location}

/-! ## One document -/

/-- A command on a compilation goes on from it, and ends where there is none. -/
theorem withCompilation_run (t : FileTree) (o : CompileOptions) (file : Path)
    (command : Compilation → StateM FileTree Report) :
    (withCompilation system o file command).run t
      = match t.compilation o file with
        | .error e => (.failed (.document file e), t)
        | .ok c => (command c).run t := by
  rw [withCompilation, bind_run (load_run t o file)]
  cases t.compilation o file with
  | error e => rfl
  | ok c => rfl

/-- Writing an output that can be written. -/
theorem writeOutput_run {text : String}
    (hfolders : t.createFolders? (target.parent?.getD ⟨""⟩) = some made)
    (hwrite : made.write? target (text ++ "\n") = some after) :
    (writeOutput system target text).run t = (.lines [], after) := by
  have hmake : (system.createFolders (target.parent?.getD ⟨""⟩)).run t = (true, made) := by
    simp only [system, attempt, StateT.run, hfolders]
  have hput : (system.write target (text ++ "\n")).run made = (true, after) := by
    simp only [system, attempt, StateT.run, hwrite]
  rw [writeOutput, bind_run hmake]
  simp only [Bool.not_true, Bool.false_eq_true, if_false]
  rw [bind_run hput]
  rfl

theorem read?_of_write? {text : String} (h : made.write? target text = some after) :
    after.read? target = some text := by
  rcases write?_eq_some_iff.1 h with ⟨l, hlocate, hl, rfl⟩
  rw [read?, locate?_put, hlocate, Option.bind_some, textAt?_put hl, if_pos rfl]

/-- A document that fails changes nothing, and neither does a project that cannot be loaded. -/
theorem compileFile_run_of_error (output : Option Path) (compact : Bool)
    (h : ∀ s o, t.project named = .ok (s, o) → ∃ e, t.compilation o file = .error e) :
    ∃ cause, (compileFile system named file output compact).run t = (.failed cause, t) := by
  rw [compileFile, withProject_run]
  cases hproject : t.project named with
  | error e => exact ⟨e, rfl⟩
  | ok project =>
      rcases project with ⟨s, o⟩
      rcases h s o hproject with ⟨e, hfailed⟩
      refine ⟨.document file e, ?_⟩
      simp only [withCompilation_run, hfailed]

/-- A document that is compiled is written to the file that is named. -/
theorem compileFile_run_of_ok {text : String} (hproject : t.project named = .ok (s, o))
    (hcompiled : t.rendering? o s.pretty file = some text)
    (hfolders : t.createFolders? (target.parent?.getD ⟨""⟩) = some made)
    (hwrite : made.write? target text = some after) :
    (compileFile system named file (some target) false).run t = (.lines [], after) := by
  rcases rendering?_eq_some_iff.1 hcompiled with ⟨c, hc, rfl⟩
  rw [compileFile, withProject_run, hproject]
  simp only [withCompilation_run, hc, Bool.not_false, Bool.and_true]
  exact writeOutput_run hfolders hwrite

/-! ## All documents -/

/-- What is written for a stem are the texts of the documents with this stem. -/
theorem map_filter_writings {documents : List Path}
    (hstems : ∀ d ∈ documents, ∃ stem, d.stem? = some stem) (top : Location) (stem : String) :
    ((t.writings o pretty top documents).filter fun w => w.1 = top ++ [stem ++ ".json"]).map
        Prod.snd
      = (documents.filter fun d => d.stem? = some stem).filterMap (t.rendering? o pretty) := by
  induction documents with
  | nil => rfl
  | cons d rest ih =>
      have hrest := ih fun e he => hstems e (List.mem_cons_of_mem d he)
      rcases hstems d List.mem_cons_self with ⟨stem', hstem'⟩
      have hplace : top ++ [d.outputName] = top ++ [stem ++ ".json"] ↔ d.stem? = some stem := by
        rw [outputName_of_stem? hstem', hstem', List.append_cancel_left_eq, List.cons.injEq,
          and_iff_left rfl, String.append_left_inj, Option.some.injEq]
      rw [writings, List.filterMap_cons, List.filter_cons, ← writings]
      cases hrendering : t.rendering? o pretty d with
      | none =>
          by_cases hstem : d.stem? = some stem
          · rw [if_pos (decide_eq_true hstem), List.filterMap_cons, hrendering]
            exact hrest
          · rw [if_neg (by rwa [decide_eq_true_iff])]
            exact hrest
      | some text =>
          simp only [Option.map_some, List.filter_cons]
          by_cases hstem : d.stem? = some stem
          · rw [if_pos (decide_eq_true (hplace.2 hstem)), if_pos (decide_eq_true hstem),
              List.map_cons, List.filterMap_cons, hrendering, hrest]
          · rw [if_neg (by rwa [decide_eq_true_iff, hplace]), if_neg (by rwa [decide_eq_true_iff])]
            exact hrest

/-- If no document is in the place of an output and the outputs can be written, each document is
    compiled as it was at the start. -/
theorem compileInto_of_no_output (hwf : t.WellFormed) (hfound : t.documents folder out ≠ [])
    (hmade : t.createFolders? out = some made)
    (hwritable : ∀ d ∈ t.documents folder out, ∀ text, t.rendering? o s.pretty d = some text →
      made.write? (outputFile out d) text ≠ none)
    (hno : ∀ d ∈ t.documents folder out, ∀ e ∈ t.documents folder out, ∀ l top,
      t.locate? e = some l → made.base? out = some top → top ++ [d.outputName] ≠ l) :
    ∃ top report, made.base? out = some top
      ∧ (∀ w ∈ t.writings o s.pretty top (t.documents folder out), made.isFolder w.1 = false)
      ∧ t.compileInto s o folder out (t.documents folder out)
        = (report, made.putAll (t.writings o s.pretty top (t.documents folder out)))
      ∧ (report.failure = none
        ↔ ∀ d ∈ t.documents folder out, (t.rendering? o s.pretty d).isSome) := by
  have hgains := gainsFolders_createFolders? hmade
  rcases base?_of_createFolders? hwf hmade with ⟨top, htop, hfolder⟩
  have hsame : ∀ d ∈ t.documents folder out,
      made.rendering? o s.pretty d = t.rendering? o s.pretty d := by
    intro d hd
    rcases file_of_mem_documents hwf hd with ⟨l, -, hl, -⟩
    exact rendering?_congr (hgains.read? hl) o s.pretty
  have hfile : ∀ d ∈ t.documents folder out, ∀ text, t.rendering? o s.pretty d = some text →
      made.isFolder (top ++ [d.outputName]) = false := by
    intro d hd text hrendering
    cases hwritten : made.write? (outputFile out d) text with
    | none => exact absurd hwritten (hwritable d hd text hrendering)
    | some u =>
        rcases write?_eq_some_iff.1 hwritten with ⟨l, hl, hnot, -⟩
        rw [locate?_outputFile htop hfolder, Option.some.injEq] at hl
        exact hl ▸ hnot
  have hapart : (t.documents folder out).Pairwise
      fun d e => made.locate? e ≠ some (top ++ [d.outputName]) := by
    refine List.pairwise_of_forall_mem_list fun d hd e he hlocate => ?_
    rcases file_of_mem_documents hwf he with ⟨l, -, hl, -⟩
    rw [hgains.locate? hl, Option.some.injEq] at hlocate
    exact hno d hd e he l top hl htop hlocate.symm
  have hwritings : made.writings o s.pretty top (t.documents folder out)
      = t.writings o s.pretty top (t.documents folder out) :=
    List.filterMap_congr fun d hd => by rw [hsame d hd]
  rcases compileInto_of_apart s folder hfound hmade htop hfolder hapart
    (fun d hd hcompiled => by
      rw [hsame d hd] at hcompiled
      rcases Option.isSome_iff_exists.1 hcompiled with ⟨text, htext⟩
      exact hfile d hd text htext) with ⟨report, hrun, hfailure⟩
  refine ⟨top, report, htop, fun w hw => ?_, hwritings ▸ hrun, hfailure.trans ?_⟩
  · rcases List.mem_filterMap.1 hw with ⟨d, hd, hwriting⟩
    rcases Option.map_eq_some_iff.1 hwriting with ⟨text, htext, rfl⟩
    exact hfile d hd text htext
  · exact forall₂_congr fun d hd => by rw [hsame d hd]

/-- What is left of documents whose outputs are put into a tree: for each stem the last text, and
    nothing else. -/
theorem textAt?_writings {documents : List Path}
    (hstems : ∀ d ∈ documents, ∃ stem, d.stem? = some stem)
    (hfiles : ∀ w ∈ t.writings o pretty top documents, made.isFolder w.1 = false) :
    (∀ stem, (made.putAll (t.writings o pretty top documents)).textAt? (top ++ [stem ++ ".json"])
        = ((documents.filter fun d => d.stem? = some stem).filterMap
            (t.rendering? o pretty)).getLast?.or (made.textAt? (top ++ [stem ++ ".json"])))
      ∧ ∀ l, (∀ stem, l ≠ top ++ [stem ++ ".json"]) →
        (made.putAll (t.writings o pretty top documents)).textAt? l = made.textAt? l := by
  refine ⟨fun stem => ?_, fun l hl => ?_⟩
  · rw [textAt?_putAll hfiles, ← List.getLast?_map, map_filter_writings hstems]
  · have hnone : (t.writings o pretty top documents).filter (fun w => w.1 = l) = [] := by
      rw [List.filter_eq_nil_iff]
      intro w hw
      rcases List.mem_filterMap.1 hw with ⟨d, hd, hwriting⟩
      rcases Option.map_eq_some_iff.1 hwriting with ⟨text, -, rfl⟩
      rcases hstems d hd with ⟨stem, hstem⟩
      rw [decide_eq_true_iff, outputName_of_stem? hstem]
      exact fun hplace => hl stem hplace.symm
    rw [textAt?_putAll hfiles, hnone, List.getLast?_nil, Option.map_none, Option.none_or]

theorem stems_of_documents (hwf : t.WellFormed) :
    ∀ d ∈ t.documents folder out, ∃ stem, d.stem? = some stem := by
  intro d hd
  rcases file_of_mem_documents hwf hd with ⟨-, -, -, stem, hstem, -⟩
  exact ⟨stem, hstem⟩

/-- What comes of compiling a folder is what comes of its documents one by one. If the output folder
    holds none of the documents and the outputs can be written, the command fails just if a document
    fails, and for each stem the text of the last document in order is left, or else what was there;
    no other file changes. A document that is compiled by itself is compiled to the same text, and
    one that fails leaves any tree as it is, for whatever reason it fails. -/
theorem folder_as_single_documents (hwf : t.WellFormed) {output : Option Path} {answer : Answer}
    (hproject : t.project named = .ok (s, o)) (hout : outputFolder folder output = out)
    (hfound : t.documents folder out ≠ []) (hmade : t.createFolders? out = some made)
    (hwritable : ∀ d ∈ t.documents folder out, ∀ text, t.rendering? o s.pretty d = some text →
      made.write? (outputFile out d) text ≠ none)
    (houtside : ∀ d ∈ t.documents folder out, ∀ l top, t.locate? d = some l →
      made.base? out = some top → ¬ top <+: l)
    (hrun : ((Request.run named (.batch folder output)).answer system).run t = (answer, after)) :
    (answer.exitCode ≠ 0 ↔ ∃ d ∈ t.documents folder out, ∃ e, t.compilation o d = .error e)
      ∧ (∃ ways : List Location, ways.Pairwise (fun a b => a.isUpTo b)
        ∧ t.documents folder out = ways.map folder.below)
      ∧ (∃ top, after.base? out = some top
        ∧ (∀ stem, after.textAt? (top ++ [stem ++ ".json"])
            = (((t.documents folder out).filter fun d => d.stem? = some stem).filterMap
                (t.rendering? o s.pretty)).getLast?.or (t.textAt? (top ++ [stem ++ ".json"])))
        ∧ ∀ l, (∀ stem, l ≠ top ++ [stem ++ ".json"]) → after.textAt? l = t.textAt? l)
      ∧ (∀ d ∈ t.documents folder out, ∀ text, t.rendering? o s.pretty d = some text →
        ∀ target u v, t.createFolders? (target.parent?.getD ⟨""⟩) = some u →
          u.write? target text = some v →
          ((Request.run named (.compile d (some target) false)).answer system).run t
              = (⟨"", "", 0⟩, v)
            ∧ v.read? target = some text)
      ∧ ∀ (u : FileTree) (named : Option Path) (file : Path) (output : Option Path)
          (compact : Bool),
        (∀ s o, u.project named = .ok (s, o) → ∃ e, u.compilation o file = .error e) →
        ∃ answer, ((Request.run named (.compile file output compact)).answer system).run u
            = (answer, u)
          ∧ answer.exitCode ≠ 0 := by
  subst hout
  rcases compileInto_of_no_output hwf hfound hmade hwritable (fun d _ e he l top hl htop hplace =>
      houtside e he l top hl htop (hplace ▸ List.prefix_append top _)) with
    ⟨top, report, htop, hfiles, hcompiled, hfailure⟩
  rw [batch_answer_run output hproject rfl, hcompiled, Prod.mk.injEq] at hrun
  rcases hrun with ⟨rfl, rfl⟩
  have hgains := gainsFolders_createFolders? hmade
  refine ⟨?_, documents_in_order t folder _, ⟨top, ?_, ?_, ?_⟩, ?_, ?_⟩
  · -- The report names a failure unless all documents are compiled.
    rw [ne_eq, exitCode_eq_zero_iff, hfailure, not_forall₂]
    simp only [exists_prop]
    refine exists_congr fun d => and_congr_right fun _ => ?_
    rw [Bool.not_eq_true, Option.isSome_eq_false_iff, Option.isNone_iff_eq_none,
      rendering?_eq_none_iff]
  · have hsame := sameFolders_putAll made
      (t.writings o s.pretty top (t.documents folder (outputFolder folder output)))
    rw [base?_congr hsame.isFolder hsame.workingFolder]
    exact htop
  · intro stem
    rw [(textAt?_writings (stems_of_documents hwf) hfiles).1 stem, hgains.textAt?]
  · intro l hl
    rw [(textAt?_writings (stems_of_documents hwf) hfiles).2 l hl, hgains.textAt?]
  · intro d _ text hrendering target u v hfolders hwrite
    have hone := compileFile_run_of_ok hproject hrendering hfolders hwrite
    refine ⟨?_, read?_of_write? hwrite⟩
    exact congrArg (fun r : Report × FileTree => (r.1.answer, r.2)) hone
  · intro u named file output compact hfailed
    rcases compileFile_run_of_error output compact hfailed with
      ⟨cause, hone⟩
    refine ⟨(Report.failed cause).answer, ?_, Nat.one_ne_zero⟩
    exact congrArg (fun r : Report × FileTree => (r.1.answer, r.2)) hone

/-- A kitchen with a recipe and a document that is none. -/
def breadAndNote : FileTree :=
  kitchen [("bread.yml", "type: Recipe\n"), ("note.yml", "type: Note\n")]

/-- The same kitchen with a folder for the output. -/
def builtBreadAndNote : FileTree :=
  { breadAndNote with folders := breadAndNote.folders ++ [["kitchen", "build"]] }

/-- A folder with a document that fails. -/
theorem note_left_out :
    let run := ((Request.run none (.batch ⟨"recipes"⟩ (some ⟨"build"⟩))).answer system).run
      breadAndNote
    run.1.exitCode ≠ 0 ∧ (run.2.textAt? ["kitchen", "build", "bread.json"]).isSome
      ∧ run.2.textAt? ["kitchen", "build", "note.json"] = none := by
  intro run
  have hdocuments : breadAndNote.documents ⟨"recipes"⟩ ⟨"build"⟩
      = [⟨"recipes/bread.yml"⟩, ⟨"recipes/note.yml"⟩] := by
    rw [documents_of_sorted (by decide +kernel)]
    decide +kernel
  have hproject : breadAndNote.project none
      = .ok (Settings.default, ⟨Settings.default.overrides, stapleSource⟩) := rfl
  have hwritable : ∀ d ∈ breadAndNote.documents ⟨"recipes"⟩ ⟨"build"⟩, ∀ text : String,
      breadAndNote.rendering? ⟨Settings.default.overrides, stapleSource⟩ Settings.default.pretty d
        = some text →
      builtBreadAndNote.write? (outputFile ⟨"build"⟩ d) text ≠ none := by
    have hfile : ∀ d ∈ [(⟨"recipes/bread.yml"⟩ : Path), ⟨"recipes/note.yml"⟩],
        builtBreadAndNote.locate? (outputFile ⟨"build"⟩ d)
            = some (["kitchen", "build"] ++ [d.outputName])
          ∧ builtBreadAndNote.isFolder (["kitchen", "build"] ++ [d.outputName]) = false := by
      decide +kernel
    intro d hd text _
    rw [hdocuments] at hd
    exact write?_ne_none (hfile d hd).1 (hfile d hd).2 text
  have houtside : ∀ d ∈ breadAndNote.documents ⟨"recipes"⟩ ⟨"build"⟩, ∀ l top,
      breadAndNote.locate? d = some l → builtBreadAndNote.base? ⟨"build"⟩ = some top →
      ¬ top <+: l := by
    have hbase : builtBreadAndNote.base? ⟨"build"⟩ = some ["kitchen", "build"] := by decide +kernel
    have hapart : ∀ d ∈ [(⟨"recipes/bread.yml"⟩ : Path), ⟨"recipes/note.yml"⟩],
        ∀ l ∈ breadAndNote.locate? d, ¬ ["kitchen", "build"] <+: l := by decide +kernel
    intro d hd l top hl htop
    rw [hdocuments] at hd
    rw [hbase, Option.some.injEq] at htop
    exact htop ▸ hapart d hd l hl
  have hout : outputFolder ⟨"recipes"⟩ (some ⟨"build"⟩) = ⟨"build"⟩ := rfl
  have hmade : breadAndNote.createFolders? ⟨"build"⟩ = some builtBreadAndNote := rfl
  rcases folder_as_single_documents (t := breadAndNote) (by decide +kernel) hproject hout
    (by rw [hdocuments]; exact List.cons_ne_nil _ _) hmade hwritable houtside (Prod.eta run).symm
    with ⟨hexit, -, ⟨top, htop, hstem, -⟩, -⟩
  have hbase : run.2.base? ⟨"build"⟩ = some ["kitchen", "build"] := by
    rw [show run = _ from batch_answer_run (some ⟨"build"⟩) hproject hdocuments]
    decide +kernel
  rw [hbase, Option.some.injEq] at htop
  subst htop
  rw [hdocuments] at hexit hstem
  have hfailed : breadAndNote.rendering? ⟨Settings.default.overrides, stapleSource⟩
      Settings.default.pretty ⟨"recipes/note.yml"⟩ = none := by decide +kernel
  refine ⟨hexit.2 ⟨⟨"recipes/note.yml"⟩, by decide, rendering?_eq_none_iff.1 hfailed⟩, ?_, ?_⟩
  · rw [show ["kitchen", "build", "bread.json"] = ["kitchen", "build"] ++ ["bread" ++ ".json"]
      by decide, hstem "bread"]
    decide +kernel
  · rw [show ["kitchen", "build", "note.json"] = ["kitchen", "build"] ++ ["note" ++ ".json"]
      by decide, hstem "note"]
    decide +kernel

end FileTree

end Mise
