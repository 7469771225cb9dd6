import Mise.Proofs.Batch.Finding
import Mise.Proofs.Batch.Writing

/-!
# Outputs and Stems

Outputs are named by the stems of documents. A document that shares its stem with no other has an
output of its own, and nothing that is written before or after it interferes: what is written for
others is neither this document nor its output. Two documents of one stem are compiled to the same
file, though, and the first of the two outputs is lost without a word about it.

## Theorems

* `textAt?_of_own_output`: A document that has an output of its own is found in it.
* `stem?_of_output`: A document in the place of an output has its stem.
* `outputs_apart_iff_stems_apart`: Outputs are as many as documents if the stems are.
* `breadAndSoup_apart`: Two documents with an output each.
* `twoSoups_one_output`: Two documents with one output.
-/

namespace Mise

namespace FileTree

variable {t after : FileTree} {o : CompileOptions} {pretty : Bool} {folder output : Path}
  {top : Location} {d e : Path}

/-- If no document fails, the first one is compiled and its output is written. -/
theorem compileAll_cons_of_ok (htop : t.base? output = some top) (hfolder : t.isFolder top)
    {d : Path} {rest : List Path}
    (hrun : (compileAll system o pretty output (d :: rest)).run t = (.ok [], after)) :
    ∃ text, t.rendering? o pretty d = some text ∧ t.isFolder (top ++ [d.outputName]) = false
      ∧ (compileAll system o pretty output rest).run (t.put (top ++ [d.outputName]) text)
        = (.ok [], after) := by
  rw [compileAll_cons_run htop hfolder] at hrun
  cases hrendering : t.rendering? o pretty d with
  | none =>
      simp only [hrendering] at hrun
      have hresult := congrArg Prod.fst hrun
      cases hothers : ((compileAll system o pretty output rest).run t).1 with
      | error target =>
          rw [hothers] at hresult
          exact absurd hresult (by simp only [Except.map, reduceCtorEq, not_false_eq_true])
      | ok failed =>
          rw [hothers] at hresult
          exact absurd (Except.ok.inj hresult) (List.cons_ne_nil d failed)
  | some text =>
      simp only [hrendering] at hrun
      by_cases htarget : t.isFolder (top ++ [d.outputName])
      · rw [if_pos htarget] at hrun
        exact absurd (congrArg Prod.fst hrun) (by simp only [reduceCtorEq, not_false_eq_true])
      · rw [if_neg htarget] at hrun
        exact ⟨text, rfl, Bool.eq_false_iff.2 htarget, hrun⟩

/-- A document that has an output of its own is found in it, if all documents are compiled. -/
theorem textAt?_of_own_output (htop : t.base? output = some top) (hfolder : t.isFolder top)
    {documents : List Path} (hnodup : documents.Nodup)
    (hrun : (compileAll system o pretty output documents).run t = (.ok [], after)) {d : Path}
    (hd : d ∈ documents) (hown : ∀ e ∈ documents, e ≠ d → e.outputName ≠ d.outputName)
    (hapart : ∀ e ∈ documents, e ≠ d → t.locate? d ≠ some (top ++ [e.outputName])) :
    ∃ text, t.rendering? o pretty d = some text
      ∧ after.textAt? (top ++ [d.outputName]) = some text := by
  induction documents generalizing t with
  | nil => exact absurd hd List.not_mem_nil
  | cons e rest ih =>
      rcases List.nodup_cons.1 hnodup with ⟨hnew, hrestNodup⟩
      rcases compileAll_cons_of_ok htop hfolder hrun with ⟨text, hrendering, htarget, hothers⟩
      have htop' : (t.put (top ++ [e.outputName]) text).base? output = some top := by
        rw [base?_put]
        exact htop
      by_cases hsame : e = d
      · -- What was written for the document is left alone by all others.
        subst hsame
        have hleft : ∀ e' ∈ rest, top ++ [e.outputName] ≠ top ++ [e'.outputName] := by
          intro e' he' hlocation
          rw [List.append_cancel_left_eq, List.cons.injEq] at hlocation
          refine hown e' (List.mem_cons_of_mem e he') ?_ hlocation.1.symm
          intro hagain
          exact hnew (hagain ▸ he')
        have hframe := textAt?_compileAll o pretty htop' hfolder hleft
        rw [hothers, textAt?_put htarget, if_pos rfl] at hframe
        exact ⟨text, hrendering, hframe⟩
      · have hrest := ih htop' hfolder hrestNodup hothers
          ((List.mem_cons.1 hd).resolve_left (Ne.symm hsame))
          (fun e' he' => hown e' (List.mem_cons_of_mem e he'))
          (fun e' he' => by
            rw [locate?_put]
            exact hapart e' (List.mem_cons_of_mem e he'))
        rwa [rendering?_put htarget text (hapart e List.mem_cons_self hsame)] at hrest

/-! ## Stems decide -/

theorem outputName_of_stem? {stem : String} (h : d.stem? = some stem) :
    d.outputName = stem ++ ".json" := by
  rw [Path.outputName, h, Option.getD_some]

theorem outputName_eq_iff (hwf : t.WellFormed) (hd : d ∈ t.documents folder output)
    (he : e ∈ t.documents folder output) : d.outputName = e.outputName ↔ d.stem? = e.stem? := by
  rcases file_of_mem_documents hwf hd with ⟨-, -, -, stem, hstem, -⟩
  rcases file_of_mem_documents hwf he with ⟨-, -, -, stem', hstem', -⟩
  rw [outputName_of_stem? hstem, outputName_of_stem? hstem', hstem, hstem', String.append_left_inj,
    Option.some.injEq]

/-- A document in the place of an output has the stem that the output is named by. -/
theorem stem?_of_output (hwf : t.WellFormed) (hd : d ∈ t.documents folder output)
    (he : e ∈ t.documents folder output) (hlocate : t.locate? d = some (top ++ [e.outputName])) :
    d.stem? = e.stem? := by
  rcases file_of_mem_documents hwf hd with ⟨l, hfile, hl, -⟩
  rcases file_of_mem_documents hwf he with ⟨-, -, -, stem, hstem, hne⟩
  have hname := fileName?_of_file hwf hl (hwf.apart l hfile)
  rw [hlocate, Option.some.injEq] at hl
  rw [← hl, List.getLast?_append, List.getLast?_singleton, Option.some_or,
    outputName_of_stem? hstem] at hname
  have hdot : '.' ∉ "json".toList := by decide
  have hsplit := splitExtension_append hne hdot
  rw [String.append_assoc] at hsplit
  rw [Path.stem?, hname, Option.map_some, hstem, Option.some.injEq]
  exact congrArg Prod.fst hsplit

/-! ## Successful runs -/

theorem exitCode_eq_zero_iff (r : Report) : r.answer.exitCode = 0 ↔ r.failure = none := by
  unfold Report.answer
  cases r.failure with
  | none => exact iff_of_true rfl rfl
  | some cause => exact iff_of_false Nat.one_ne_zero (Option.some_ne_none cause)

/-- Documents are compiled successfully only if there are any, their folder can be made and all of
    them are compiled; the report tells how many. -/
theorem compileInto_of_success {s : Settings} {documents : List Path} {report : Report}
    (hrun : t.compileInto s o folder output documents = (report, after))
    (hsuccess : report.failure = none) :
    documents ≠ [] ∧ (∃ made, t.createFolders? output = some made
        ∧ (compileAll system o s.pretty output documents).run made = (.ok [], after))
      ∧ report = .lines
        ["Compiled " ++ toString documents.length ++ " documents into " ++ output.text] := by
  have hfailed : ∀ cause u, (Report.failed cause, u) ≠ (report, after) := by
    intro cause u hsame
    rw [← (Prod.mk.inj hsame).1] at hsuccess
    exact absurd hsuccess (Option.some_ne_none cause)
  unfold compileInto at hrun
  split at hrun
  · exact absurd hrun (hfailed _ _)
  · next hnone =>
    cases hmade : t.createFolders? output with
    | none =>
        simp only [hmade] at hrun
        exact absurd hrun (hfailed _ _)
    | some made =>
        simp only [hmade] at hrun
        split at hrun
        · exact absurd hrun (hfailed _ _)
        · next hresult =>
          cases hrun
          exact ⟨fun hnil => hnone (List.isEmpty_iff.2 hnil), ⟨made, rfl, hresult⟩, rfl⟩
        · exact absurd hrun (hfailed _ _)

/-- A folder is compiled successfully only if all documents in it are compiled. -/
theorem compileAll_of_success {named : Option Path} {output : Option Path}
    (hfailure : ((compileFolder system named folder output).run t).1.failure = none) :
    ∃ s o made, t.project named = .ok (s, o)
      ∧ t.createFolders? (outputFolder folder output) = some made
      ∧ (compileAll system o s.pretty (outputFolder folder output)
          (t.documents folder (outputFolder folder output))).run made
        = (.ok [], ((compileFolder system named folder output).run t).2) := by
  rw [compileFolder_run] at hfailure ⊢
  cases hproject : t.project named with
  | error e =>
      rw [hproject] at hfailure
      exact absurd hfailure (Option.some_ne_none e)
  | ok project =>
      rcases project with ⟨s, o⟩
      simp only [hproject] at hfailure ⊢
      rcases compileInto_of_success rfl hfailure with ⟨-, ⟨made, hmade, hall⟩, -⟩
      exact ⟨s, o, made, rfl, hmade, hall⟩

/-- If a folder is compiled successfully, its documents have as many outputs as there are documents
    just if no two of them share a stem, and a document that shares its stem with no other is found
    in its output as it was compiled. -/
theorem outputs_apart_iff_stems_apart (hwf : t.WellFormed) {named output : Option Path}
    {answer : Answer}
    (hrun : ((Request.run named (.batch folder output)).answer system).run t = (answer, after))
    (hexit : answer.exitCode = 0) :
    ∃ s o, t.project named = .ok (s, o)
      ∧ (((t.documents folder (outputFolder folder output)).map fun d =>
            after.locate? (outputFile (outputFolder folder output) d)).Nodup
          ↔ ((t.documents folder (outputFolder folder output)).map Path.stem?).Nodup)
      ∧ ∀ d ∈ t.documents folder (outputFolder folder output),
          (∀ e ∈ t.documents folder (outputFolder folder output), e.stem? = d.stem? → e = d) →
          ∃ c, t.compilation o d = .ok c
            ∧ after.read? (outputFile (outputFolder folder output) d)
              = some (c.text s.pretty ++ "\n") := by
  have hanswer : ((compileFolder system named folder output).run t).1.answer = answer :=
    congrArg Prod.fst hrun
  have hafter : ((compileFolder system named folder output).run t).2 = after :=
    congrArg Prod.snd hrun
  have hsuccess := (exitCode_eq_zero_iff _).1 (hanswer ▸ hexit)
  rcases compileAll_of_success hsuccess with ⟨s, o, made, hproject, hmade, hall⟩
  rw [hafter] at hall
  generalize outputFolder folder output = out at *
  have hgains := gainsFolders_createFolders? hmade
  rcases base?_of_createFolders? hwf hmade with ⟨top, htop, hfolder⟩
  have hsame := sameFolders_compileAll o s.pretty htop hfolder
    (t.documents folder out)
  rw [hall] at hsame
  have htop' : after.base? out = some top := by
    rw [base?_congr hsame.isFolder hsame.workingFolder]
    exact htop
  have hfolder' : after.isFolder top := (hsame.isFolder top).trans hfolder
  have hnodup := nodup_documents hwf folder out
  refine ⟨s, o, hproject, ?_, fun d hd hown => ?_⟩
  · rw [List.nodup_map_iff_inj_on hnodup, List.nodup_map_iff_inj_on hnodup]
    refine forall₄_congr fun d hd e he => ?_
    rw [locate?_outputFile htop' hfolder', locate?_outputFile htop' hfolder', Option.some.injEq,
      List.append_cancel_left_eq, List.cons.injEq, and_iff_left rfl, outputName_eq_iff hwf hd he]
  · rcases file_of_mem_documents hwf hd with ⟨l, -, hl, -⟩
    have hfound := textAt?_of_own_output htop hfolder hnodup hall hd
      (fun e he hne hname => hne (hown e he ((outputName_eq_iff hwf he hd).1 hname)))
      (fun e he hne hlocate => by
        rw [hgains.locate? hl, ← hl] at hlocate
        exact hne (hown e he (stem?_of_output hwf hd he hlocate).symm))
    rcases hfound with ⟨text, hrendering, htext⟩
    rw [rendering?_congr (hgains.read? hl), rendering?_eq_some_iff] at hrendering
    rcases hrendering with ⟨c, hcompiled, rfl⟩
    refine ⟨c, hcompiled, ?_⟩
    rw [read?, locate?_outputFile htop' hfolder', Option.bind_some, htext]

/-- A kitchen with a document for each of two recipes. -/
def breadAndSoup : FileTree :=
  kitchen [("bread.yml", "type: Recipe\n"), ("soup.yml", "type: Recipe\n")]

/-- Two documents with an output each. -/
theorem breadAndSoup_apart :
    let run := ((Request.run none (.batch ⟨"recipes"⟩ (some ⟨"build"⟩))).answer system).run
      breadAndSoup
    run.1.exitCode = 0
      ∧ ((breadAndSoup.documents ⟨"recipes"⟩ ⟨"build"⟩).map fun d =>
          run.2.locate? (outputFile ⟨"build"⟩ d)).Nodup
      ∧ (run.2.read? ⟨"build/soup.json"⟩).isSome := by
  intro run
  have hdocuments : breadAndSoup.documents ⟨"recipes"⟩ ⟨"build"⟩
      = [⟨"recipes/bread.yml"⟩, ⟨"recipes/soup.yml"⟩] := by
    rw [documents_of_sorted (by decide +kernel)]
    decide +kernel
  have hproject : breadAndSoup.project none
      = .ok (Settings.default, ⟨Settings.default.overrides, stapleSource⟩) := rfl
  have hrun := batch_answer_run (some ⟨"build"⟩) hproject hdocuments
  have hexit : run.1.exitCode = 0 := by
    rw [show run = _ from hrun]
    decide +kernel
  rcases outputs_apart_iff_stems_apart (t := breadAndSoup) (by decide +kernel)
    (Prod.eta run).symm hexit with ⟨s, o, -, hdistinct, hown⟩
  simp only [outputFolder, Option.getD_some, hdocuments] at hdistinct hown
  rw [hdocuments]
  refine ⟨hexit, hdistinct.2 (by decide +kernel), ?_⟩
  rcases hown ⟨"recipes/soup.yml"⟩ (by decide) (by decide +kernel) with ⟨c, -, htext⟩
  rw [show (⟨"build/soup.json"⟩ : Path) = outputFile ⟨"build"⟩ ⟨"recipes/soup.yml"⟩ by decide,
    htext, Option.isSome_some]

/-- A kitchen with two documents of one stem, of which only the second one has a title. -/
def twoSoups : FileTree :=
  kitchen [("soup.json", "\x7b\"type\": \"Recipe\"\x7d"),
    ("soup.yaml", "type: Recipe\nmeta:\n  title: Soup\n")]

/-- Two documents with one output. -/
theorem twoSoups_one_output :
    let run := ((Request.run none (.batch ⟨"recipes"⟩ (some ⟨"build"⟩))).answer system).run twoSoups
    twoSoups.WellFormed ∧ run.1.exitCode = 0
      ∧ (twoSoups.documents ⟨"recipes"⟩ ⟨"build"⟩).length = 2
      ∧ (run.2.filesBelow ⟨"build"⟩).length = 1 := by
  intro run
  have hdocuments : twoSoups.documents ⟨"recipes"⟩ ⟨"build"⟩
      = [⟨"recipes/soup.json"⟩, ⟨"recipes/soup.yaml"⟩] := by
    rw [documents_of_sorted (by decide +kernel)]
    decide +kernel
  have hproject : twoSoups.project none
      = .ok (Settings.default, ⟨Settings.default.overrides, stapleSource⟩) := rfl
  have hrun := batch_answer_run (some ⟨"build"⟩) hproject hdocuments
  rw [show run = _ from hrun, hdocuments]
  exact ⟨by decide +kernel, by decide +kernel, rfl, by decide +kernel⟩

end FileTree

end Mise
