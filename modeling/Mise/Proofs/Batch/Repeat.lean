import Mise.Proofs.Batch.Agreement
import Mise.Proofs.FileTree.Place

/-!
# Compiling a Folder Again

What is written for a folder should not be taken for what is to be compiled when the folder is
compiled again. The output folder is passed over for this reason, but it is only met on a way that
is spelled like it. If the output folder is written as a path from the folder itself, then spelling
and place agree, and nothing in it is ever found. This is so for the folder that is taken if none is
named. Any other spelling is never met: documents are found in the output folder just as anywhere
else, if the folder leads to them.

Outputs are found by a second run only where the folder leads to them, so not where the output
folder is passed over, or is not below the folder at all. There the second run finds the documents
of the first. They are what they were, as is the project unless an output has taken the place of its
settings or its table. So the second run writes what the first one did, to the same files.

## Main definitions

* `FileTree.LiesIn`: A file lies in an output folder.
* `FileTree.KeepsClear`: No output is found from a folder.
* `FileTree.Settled`: A folder has been compiled.

## Theorems

* `liesIn_iff_meets`: What lies in an output folder that is written from the folder is passed over.
* `none_liesIn_iff`: When no document lies in the output folder.
* `wellFormed_compileAll`, `keys_compileAll`: What compiling documents leaves behind.
* `not_finds_output`: Outputs are not found where the output folder keeps clear.
* `documents_compileAll`: The documents that are found afterwards.
* `settled_of_success`: A run that succeeds leaves a folder that has been compiled.
* `compileInto_of_settled`: Compiling what has been compiled changes nothing.
* `output_is_no_input`: No document lies in the output folder, and a run can be repeated.
* `breadAgain_unchanged`: A folder that is compiled twice.
* `buildHere_found`: An output folder in which documents are found.
-/

namespace Mise

namespace FileTree

variable {t u after made : FileTree} {o : CompileOptions} {pretty : Bool} {folder out : Path}
  {start top way : Location}

/-! ## What lies in the output folder -/

/-- A file lies in the place of an output folder, or below it. -/
def LiesIn (t : FileTree) (p out : Path) : Prop :=
  ∃ l, t.locate? p = some l ∧ t.placeOf out <+: l

theorem liesIn_iff {p : Path} {l : Location} (h : t.locate? p = some l) :
    t.LiesIn p out ↔ t.placeOf out <+: l := by
  rw [LiesIn, h]
  simp only [Option.some.injEq, exists_eq_left']

/-- What lies in an output folder that is written as a path from the folder is passed over. -/
theorem liesIn_iff_meets (hwf : t.WellFormed) (hstart : t.locate? folder = some start)
    (hfile : start ++ way ∈ t.files.keys) (hwritten : out.IsWrittenFrom folder) :
    t.LiesIn (folder.below way) out ↔ folder.meets (folder.below way) out := by
  rcases hwritten with ⟨names, hparts⟩
  have hlocate := locate?_below hwf hstart hfile (List.prefix_refl way)
  rw [liesIn_iff hlocate, placeOf_of_parts hparts, ← eq_placeOf_of_locate? hstart,
    List.prefix_append_right_inj, meets_iff (isFileName_of_file hwf hfile)]
  constructor
  · intro hpre
    exact ⟨names, hparts, hpre⟩
  · rintro ⟨front, hfront, hpre⟩
    rw [hparts, List.append_cancel_left_eq] at hfront
    have hnames := List.map_injective_iff.2 (fun _ _ => PathPart.name.inj) hfront
    exact hnames ▸ hpre

/-- No document lies in the output folder if it is written as a path from the folder, or else if no
    file lies there at all that looks like a document and is below the folder. -/
theorem none_liesIn_iff (hwf : t.WellFormed) (folder out : Path) :
    (∀ d ∈ t.documents folder out, ¬ t.LiesIn d out)
      ↔ out.IsWrittenFrom folder
        ∨ ∀ way ∈ t.waysBelow folder, (folder.below way).isDocument →
          ¬ t.LiesIn (folder.below way) out := by
  constructor
  · intro hnone
    by_cases hwritten : out.IsWrittenFrom folder
    · exact Or.inl hwritten
    · refine Or.inr fun way hway hdocument => hnone _ ?_
      rcases file_of_mem_waysBelow hway with ⟨start, -, hfile⟩
      -- An output folder in another spelling is never met.
      have hnames := isFileName_of_file hwf hfile
      have hmeets : ¬ folder.meets (folder.below way) out := by
        intro hmeets
        rcases (meets_iff hnames).1 hmeets with ⟨front, hparts, -⟩
        exact hwritten ⟨front, hparts⟩
      refine mem_documents_iff.2 ⟨way, hway, rfl, ?_⟩
      rw [Bool.and_eq_true, Bool.not_eq_true', ← Bool.not_eq_true]
      exact ⟨hdocument, hmeets⟩
  · intro h d hd hlies
    rcases mem_documents_iff.1 hd with ⟨way, hway, rfl, hfound⟩
    rw [Bool.and_eq_true, Bool.not_eq_true', ← Bool.not_eq_true] at hfound
    rcases h with hwritten | hclear
    · rcases file_of_mem_waysBelow hway with ⟨start, hstart, hfile⟩
      exact hfound.2 ((liesIn_iff_meets hwf hstart hfile hwritten).1 hlies)
    · exact hclear way hway hfound.1 hlies

/-- The folder that is taken if none is named is written as a path from the folder. -/
theorem isWrittenFrom_default (folder : Path) :
    (outputFolder folder none).IsWrittenFrom folder := by
  have hname : IsFileName "compiled" := ⟨by decide, by decide⟩
  refine ⟨["compiled"], ?_⟩
  rw [outputFolder, Option.getD_none, Path.parts_join hname, List.map_singleton]

/-- An output folder keeps clear of a folder if it is written as a path from it, or if it is not
    below it. A single document that is named in place of a folder must not be in it, either. -/
def KeepsClear (t : FileTree) (folder out : Path) : Prop :=
  out.IsWrittenFrom folder
    ∨ (¬ t.placeOf folder <+: t.placeOf out
      ∧ (t.isFolder (t.placeOf folder) ∨ ¬ t.placeOf out <+: t.placeOf folder))

theorem keepsClear_mono (hworking : u.workingFolder = t.workingFolder)
    (hfolders : ∀ l, t.isFolder l → u.isFolder l) (h : t.KeepsClear folder out) :
    u.KeepsClear folder out := by
  rw [KeepsClear, placeOf_congr hworking, placeOf_congr hworking]
  exact h.imp_right (And.imp_right (Or.imp_left (hfolders _)))

/-! ## What a run leaves behind -/

/-- Compiling documents keeps a tree well-formed. -/
theorem wellFormed_compileAll (o : CompileOptions) (pretty : Bool) (hwf : t.WellFormed)
    (htop : t.base? out = some top) (hfolder : t.isFolder top) (documents : List Path) :
    ((compileAll system o pretty out documents).run t).2.WellFormed := by
  refine (compileAll_related
    (R := fun u v => u.WellFormed ∧ u.isFolder top → v.WellFormed ∧ v.isFolder top)
    (fun _ h => h) (fun _ _ _ huv hvw h => hvw (huv h)) (fun u d _ text hnot h => ?_) htop hfolder
    ⟨hwf, hfolder⟩).1
  have hhold : u.CanHold (top ++ [d.outputName]) := by
    refine ⟨fun s hs => ?_, ?_⟩
    · rcases List.mem_append.1 hs with hmem | hlast
      · exact (canHold_of_isFolder h.1 h.2).named s hmem
      · exact List.mem_singleton.1 hlast ▸ isFileName_outputName d
    · rw [List.dropLast_concat]
      exact h.2
  exact ⟨wellFormed_put h.1 hhold hnot text, h.2⟩

/-- The files after documents were compiled are those before and outputs. -/
theorem keys_compileAll (o : CompileOptions) (pretty : Bool) (htop : t.base? out = some top)
    (hfolder : t.isFolder top) (documents : List Path) :
    ∃ new, ((compileAll system o pretty out documents).run t).2.files.keys = t.files.keys ++ new
      ∧ ∀ l ∈ new, ∃ d ∈ documents, l = top ++ [d.outputName] := by
  refine compileAll_related
    (R := fun u v => ∃ new, v.files.keys = u.files.keys ++ new
      ∧ ∀ l ∈ new, ∃ d ∈ documents, l = top ++ [d.outputName])
    (fun u => ⟨[], (List.append_nil _).symm, nofun⟩) ?_ (fun u d hd text _ => ?_) htop hfolder
  · rintro u v w ⟨new, huv, hnew⟩ ⟨new', hvw, hnew'⟩
    refine ⟨new ++ new', by rw [hvw, huv, List.append_assoc], fun l hl => ?_⟩
    exact (List.mem_append.1 hl).elim (hnew l) (hnew' l)
  · rcases keys_put u (top ++ [d.outputName]) text with hsame | ⟨-, hadded⟩
    · exact ⟨[], hsame.trans (List.append_nil _).symm, nofun⟩
    · exact ⟨[top ++ [d.outputName]], hadded, fun l hl => ⟨d, hd, List.mem_singleton.1 hl⟩⟩

/-- If no document fails, there is no folder in the place of an output. -/
theorem not_isFolder_of_ok (htop : t.base? out = some top) (hfolder : t.isFolder top)
    {documents : List Path}
    (hrun : (compileAll system o pretty out documents).run t = (.ok [], after)) :
    ∀ d ∈ documents, t.isFolder (top ++ [d.outputName]) = false := by
  induction documents generalizing t with
  | nil => exact nofun
  | cons d rest ih =>
      rcases compileAll_cons_of_ok htop hfolder hrun with ⟨text, -, htarget, hothers⟩
      have hrest := ih (t := t.put (top ++ [d.outputName]) text) (by rw [base?_put]; exact htop)
        hfolder hothers
      exact List.forall_mem_cons.2 ⟨htarget, hrest⟩

/-! ## What is found again -/

/-- Whether the file on a way from a folder is found. -/
def finds (folder out : Path) (way : Location) : Bool :=
  (folder.below way).isDocument && !folder.meets (folder.below way) out

/-- The same documents are found in trees with the same ways to find. -/
theorem documents_congr
    (h : (u.filesBelow folder).filter (finds folder out)
      = (t.filesBelow folder).filter (finds folder out)) :
    u.documents folder out = t.documents folder out := by
  have hways : ∀ v : FileTree, v.documents folder out
      = ((v.waysBelow folder).filter (finds folder out)).map folder.below :=
    fun v => List.filter_map
  have hperm : ∀ v : FileTree, ((v.waysBelow folder).filter (finds folder out)).Perm
      ((v.filesBelow folder).filter (finds folder out)) :=
    fun v => (List.mergeSort_perm _ _).filter _
  have hsorted : ∀ v : FileTree, ((v.waysBelow folder).filter (finds folder out)).Pairwise
      fun a b => a.isUpTo b := fun v =>
    (List.pairwise_mergeSort Location.isUpTo_trans Location.isUpTo_total _).filter _
  -- Two lists of the same ways are the same if both are in order.
  have hsame := List.Perm.eq_of_pairwise (fun a b _ _ => Location.isUpTo_antisymm a b) (hsorted u)
    (hsorted t) ((hperm u).trans (h ▸ (hperm t).symm))
  rw [hways, hways, hsame]

/-- Where the output folder keeps clear, no output is found on a way from the folder. -/
theorem not_finds_output (hwf : t.WellFormed) (hstart : t.locate? folder = some start)
    (htop : t.base? out = some top) (hfolder : t.isFolder top) (hclear : t.KeepsClear folder out)
    {d : Path} (hnot : t.isFolder (top ++ [d.outputName]) = false)
    (hway : top ++ [d.outputName] = start ++ way) : finds folder out way = false := by
  rw [KeepsClear, ← eq_placeOf_of_locate? hstart, ← eq_placeOf_of_base? htop] at hclear
  rcases hclear with ⟨names, hparts⟩ | ⟨hbelow, hsingle⟩
  · -- The way leads through the output folder.
    have hplace := eq_placeOf_of_base? htop
    rw [placeOf_of_parts hparts, ← eq_placeOf_of_locate? hstart] at hplace
    rw [hplace, List.append_assoc, List.append_cancel_left_eq] at hway
    have hnames : ∀ s ∈ way, IsFileName s := by
      intro s hs
      rw [← hway] at hs
      rcases List.mem_append.1 hs with hmem | hlast
      · have hhold := canHold_of_isFolder hwf hfolder
        exact hhold.named s (hplace ▸ List.mem_append_right start hmem)
      · exact List.mem_singleton.1 hlast ▸ isFileName_outputName d
    have hmeets := (meets_iff hnames).2 ⟨names, hparts, hway ▸ List.prefix_append _ _⟩
    rw [finds, hmeets, Bool.not_true, Bool.and_false]
  · -- The output folder would be below the folder, or the folder would be the output itself.
    have hpre : start <+: top ++ [d.outputName] := hway ▸ List.prefix_append start way
    rcases List.prefix_concat_iff.1 hpre with rfl | hpre
    · rcases hsingle with hstart | habove
      · exact absurd hstart (Bool.eq_false_iff.1 hnot)
      · exact absurd (List.prefix_append top _) habove
    · exact absurd hpre hbelow

section Again

variable (hwf : t.WellFormed) (hclear : t.KeepsClear folder out)
  (hmade : t.createFolders? out = some made) (htop : made.base? out = some top)
include hwf hclear hmade htop

/-- Where the output folder keeps clear, no document is in the place of an output. -/
theorem ne_output_of_mem_documents {d e : Path} (he : e ∈ t.documents folder out) {l : Location}
    (hl : t.locate? e = some l) : top ++ [d.outputName] ≠ l := by
  intro hplace
  rcases base?_of_createFolders? hwf hmade with ⟨top', htop', hfolder⟩
  rw [htop, Option.some.injEq] at htop'
  subst htop'
  rcases mem_documents_iff.1 he with ⟨way, hway, rfl, hfound⟩
  rcases file_of_mem_waysBelow hway with ⟨start, hstart, hfile⟩
  rw [locate?_below hwf hstart hfile (List.prefix_refl way), Option.some.injEq] at hl
  subst hl
  have hgains := gainsFolders_createFolders? hmade
  have hwf' := wellFormed_createFolders? hwf hmade
  have hfinds := not_finds_output hwf' (hgains.locate? hstart) htop hfolder
    (keepsClear_mono hgains.workingFolder hgains.isFolder hclear)
    (hwf'.apart _ (by rw [hgains.files, hplace]; exact hfile)) hplace
  rw [finds, hfound] at hfinds
  exact absurd hfinds (Bool.false_ne_true ∘ Eq.symm)

variable (hfolder : made.isFolder top)
include hfolder

/-- If there are documents, those that are found afterwards are those that were found before. -/
theorem documents_compileAll (o : CompileOptions) (pretty : Bool)
    (hfound : t.documents folder out ≠ []) (documents : List Path) :
    ((compileAll system o pretty out documents).run made).2.documents folder out
      = t.documents folder out := by
  rcases List.exists_mem_of_ne_nil _ hfound with ⟨first, hfirst⟩
  rcases mem_documents_iff.1 hfirst with ⟨way, hway, -⟩
  rcases file_of_mem_waysBelow hway with ⟨start, hstart, -⟩
  have hgains := gainsFolders_createFolders? hmade
  have hwf' := wellFormed_createFolders? hwf hmade
  have hsame := sameFolders_compileAll o pretty htop hfolder documents
  have hafter := wellFormed_compileAll o pretty hwf' htop hfolder documents
  have hstartMade := hgains.locate? hstart
  rcases keys_compileAll o pretty htop hfolder documents with ⟨new, hkeys, hnew⟩
  refine documents_congr ?_
  rw [filesBelow, filesBelow, hstart, locate?_congr hsame.isFolder hsame.workingFolder, hstartMade]
  -- The outputs are listed at the end, and none of them is found.
  have hnone : (new.filterMap (wayBelow? start)).filter (finds folder out) = [] := by
    rw [List.filter_eq_nil_iff]
    intro way hway
    rcases List.mem_filterMap.1 hway with ⟨l, hl, hbelow⟩
    have hnot := hafter.apart l (hkeys ▸ List.mem_append_right _ hl)
    rw [hsame.isFolder] at hnot
    rcases hnew l hl with ⟨d, -, rfl⟩
    rw [Bool.not_eq_true]
    exact not_finds_output hwf' hstartMade htop hfolder
      (keepsClear_mono hgains.workingFolder hgains.isFolder hclear) hnot
      (wayBelow?_eq_some_iff.1 hbelow)
  simp only [hkeys, hgains.files, List.filterMap_append, List.filter_append, hnone, List.append_nil]

/-- The documents are afterwards compiled to what they were compiled to before. -/
theorem rendering?_compileAll (o : CompileOptions) (pretty : Bool) {d : Path}
    (hd : d ∈ t.documents folder out) :
    ((compileAll system o pretty out (t.documents folder out)).run made).2.rendering? o pretty d
      = t.rendering? o pretty d := by
  have hgains := gainsFolders_createFolders? hmade
  have hsame := sameFolders_compileAll o pretty htop hfolder (t.documents folder out)
  rcases file_of_mem_documents hwf hd with ⟨l, -, hl, -⟩
  refine rendering?_congr ?_ o pretty
  rw [read?, read?, locate?_congr hsame.isFolder hsame.workingFolder, hgains.locate? hl, hl,
    Option.bind_some, Option.bind_some, textAt?_compileAll o pretty htop hfolder, hgains.textAt?]
  exact fun e _ hplace => ne_output_of_mem_documents hwf hclear hmade htop hd hl hplace.symm

end Again

/-- The documents of a folder have been compiled into an output folder: it keeps clear of the
    folder, all documents can be compiled, and what is written for them is there already. -/
structure Settled (t : FileTree) (s : Settings) (o : CompileOptions) (folder out : Path) :
    Prop where
  wellFormed : t.WellFormed
  clear : t.KeepsClear folder out
  found : t.documents folder out ≠ []
  base : t.base? out = some (t.placeOf out)
  isFolder : t.isFolder (t.placeOf out)
  free : ∀ d ∈ t.documents folder out, t.isFolder (t.placeOf out ++ [d.outputName]) = false
  compiled : ∀ d ∈ t.documents folder out, (t.rendering? o s.pretty d).isSome
  written : ∀ l,
    (((t.writings o s.pretty (t.placeOf out) (t.documents folder out)).filter
      fun w => w.1 = l).getLast?.map Prod.snd).or (t.textAt? l) = t.textAt? l

/-- The last text that is put in a place is the one that is found there. -/
theorem or_textAt?_putAll {ws : List (Location × String)}
    (hfiles : ∀ w ∈ ws, t.isFolder w.1 = false) (l : Location) :
    (((ws.filter fun w => w.1 = l).getLast?.map Prod.snd).or ((t.putAll ws).textAt? l))
      = (t.putAll ws).textAt? l := by
  rw [textAt?_putAll hfiles, ← Option.or_assoc, Option.or_self]

/-- The report of a successful run. -/
def successReport (out : Path) (documents : List Path) : Report :=
  .lines ["Compiled " ++ toString documents.length ++ " documents into " ++ out.text]

/-- Compiling what has been compiled changes nothing. -/
theorem compileInto_of_settled {s : Settings} (h : t.Settled s o folder out) :
    ∃ again, t.compileInto s o folder out (t.documents folder out)
        = (successReport out (t.documents folder out), again)
      ∧ ∀ l, again.isFolder l = t.isFolder l ∧ again.textAt? l = t.textAt? l := by
  have hmade := createFolders?_of_base? h.base h.isFolder
  rcases compileInto_of_no_output (s := s) (o := o) h.wellFormed h.found hmade
    (fun d hd text _ => write?_ne_none (locate?_outputFile h.base h.isFolder d) (h.free d hd) text)
    (fun _ _ e he _ _ hl htop => ne_output_of_mem_documents h.wellFormed h.clear hmade htop he hl)
    with ⟨top, report, htop, hfiles, hrun, hsuccess⟩
  have hreport := (compileInto_of_success hrun (hsuccess.2 h.compiled)).2.2
  rw [h.base, Option.some.injEq] at htop
  subst htop
  refine ⟨_, hreport ▸ hrun, fun l => ⟨(sameFolders_putAll t _).isFolder l, ?_⟩⟩
  rw [textAt?_putAll hfiles, h.written]

/-- Where the output folder keeps clear, a run that succeeds finds its documents again, and what it
    has written is there. -/
theorem settled_of_success {s : Settings} {report : Report} (hwf : t.WellFormed)
    (hclear : t.KeepsClear folder out)
    (hrun : t.compileInto s o folder out (t.documents folder out) = (report, after))
    (hsuccess : report.failure = none) :
    after.Settled s o folder out ∧ after.documents folder out = t.documents folder out := by
  rcases compileInto_of_success hrun hsuccess with ⟨hfound, ⟨made, hmade, hall⟩, -⟩
  rcases base?_of_createFolders? hwf hmade with ⟨top, htop, hfolder⟩
  have hnot := not_isFolder_of_ok htop hfolder hall
  -- The first run has put its outputs into the tree with the output folder.
  rcases compileInto_of_no_output (s := s) (o := o) hwf hfound hmade
    (fun d hd text _ => write?_ne_none (locate?_outputFile htop hfolder d) (hnot d hd) text)
    (fun _ _ e he _ _ hl htop => ne_output_of_mem_documents hwf hclear hmade htop he hl)
    with ⟨top', report', htop', hfiles, hput, hcompiled⟩
  rw [htop, Option.some.injEq] at htop'
  subst htop'
  rw [hrun, Prod.mk.injEq] at hput
  rcases hput with ⟨rfl, hafter⟩
  have hsame := sameFolders_compileAll o s.pretty htop hfolder (t.documents folder out)
  have hwf' := wellFormed_compileAll o s.pretty (wellFormed_createFolders? hwf hmade) htop hfolder
    (t.documents folder out)
  have hrendering := fun d hd => rendering?_compileAll hwf hclear hmade htop hfolder o s.pretty hd
    (d := d)
  have hdocuments := documents_compileAll hwf hclear hmade htop hfolder o s.pretty hfound
    (t.documents folder out)
  simp only [hall] at hsame hwf' hrendering hdocuments
  have hbase : after.base? out = some top := by
    rw [base?_congr hsame.isFolder hsame.workingFolder]
    exact htop
  have hplace := eq_placeOf_of_base? hbase
  have hwritings : after.writings o s.pretty top (t.documents folder out)
      = t.writings o s.pretty top (t.documents folder out) :=
    List.filterMap_congr fun d hd => by rw [hrendering d hd]
  refine ⟨⟨hwf', ?clear, ?found, ?base, ?isFolder, ?free, ?compiled, ?written⟩, hdocuments⟩
  case clear =>
    have hgains := gainsFolders_createFolders? hmade
    refine keepsClear_mono (hsame.workingFolder.trans hgains.workingFolder) (fun l hl => ?_) hclear
    rw [hsame.isFolder]
    exact hgains.isFolder l hl
  case found =>
    rw [hdocuments]
    exact hfound
  case base =>
    rw [← hplace]
    exact hbase
  case isFolder =>
    rw [← hplace]
    exact (hsame.isFolder top).trans hfolder
  case free =>
    rw [hdocuments, ← hplace]
    exact fun d hd => (hsame.isFolder _).trans (hnot d hd)
  case compiled =>
    rw [hdocuments]
    intro d hd
    rw [hrendering d hd]
    exact hcompiled.1 hsuccess d hd
  case written =>
    intro l
    rw [hdocuments, ← hplace, hwritings, hafter]
    exact or_textAt?_putAll hfiles l

/-- A successful run of the program has loaded a project and compiled the documents it found. -/
theorem compileInto_of_exit {named output : Option Path} {answer : Answer}
    (hrun : ((Request.run named (.batch folder output)).answer system).run t = (answer, after))
    (hexit : answer.exitCode = 0) :
    ∃ s o report, t.project named = .ok (s, o) ∧ report.failure = none ∧ report.answer = answer
      ∧ t.compileInto s o folder (outputFolder folder output)
          (t.documents folder (outputFolder folder output)) = (report, after) := by
  have hsuccess : ((compileFolder system named folder output).run t).1.failure = none :=
    (exitCode_eq_zero_iff _).1 ((congrArg (fun result => result.1.exitCode) hrun).trans hexit)
  rcases compileAll_of_success hsuccess with ⟨s, o, -, hproject, -, -⟩
  have hanswer := batch_answer_run (t := t) output hproject
    (rfl : t.documents folder (outputFolder folder output) = _)
  rw [hrun, Prod.mk.injEq] at hanswer
  simp only [compileFolder_run, hproject] at hsuccess
  exact ⟨s, o, _, hproject, hsuccess, hanswer.1.symm, Prod.ext rfl hanswer.2.symm⟩

/-- The output folder has its place after a successful run. -/
theorem base?_of_success {s : Settings} {documents : List Path} {report : Report}
    (hwf : t.WellFormed) (hrun : t.compileInto s o folder out documents = (report, after))
    (hsuccess : report.failure = none) : after.base? out = some (t.placeOf out) := by
  rcases compileInto_of_success hrun hsuccess with ⟨-, ⟨made, hmade, hall⟩, -⟩
  rcases base?_of_createFolders? hwf hmade with ⟨top, htop, hfolder⟩
  have hsame := sameFolders_compileAll o s.pretty htop hfolder documents
  rw [hall] at hsame
  rw [base?_congr hsame.isFolder hsame.workingFolder, htop, eq_placeOf_of_base? htop,
    placeOf_congr (gainsFolders_createFolders? hmade).workingFolder]

/-- No document that is compiled lies in the output folder if that is written as a path from the
    folder, as it is if none is named; in any other spelling it is so only if no file lies there
    that looks like a document and is below the folder. Where the output folder keeps clear, a run
    that succeeds can be repeated, provided that it left the settings and the table as they were:
    the same documents are found, the command succeeds with the same report, and every folder and
    file is left as it is. -/
theorem output_is_no_input (hwf : t.WellFormed) (named output : Option Path) (folder : Path) :
    let out := outputFolder folder output
    ((∀ d ∈ t.documents folder out, ¬ t.LiesIn d out)
        ↔ out.IsWrittenFrom folder
          ∨ ∀ way ∈ t.waysBelow folder, (folder.below way).isDocument →
            ¬ t.LiesIn (folder.below way) out)
      ∧ (output = none → out.IsWrittenFrom folder)
      ∧ ∀ answer after,
        ((Request.run named (.batch folder output)).answer system).run t = (answer, after) →
        answer.exitCode = 0 →
        after.base? out = some (t.placeOf out)
          ∧ (t.KeepsClear folder out →
            (∀ p ∈ t.projectPaths named, after.kind? p = t.kind? p ∧ after.read? p = t.read? p) →
            after.documents folder out = t.documents folder out
              ∧ ∃ again,
                ((Request.run named (.batch folder output)).answer system).run after
                    = (answer, again)
                  ∧ ∀ l, again.isFolder l = after.isFolder l
                    ∧ again.textAt? l = after.textAt? l) := by
  intro out
  refine ⟨none_liesIn_iff hwf folder out, ?_, fun answer after hrun hexit => ?_⟩
  · intro hnone
    subst hnone
    exact isWrittenFrom_default folder
  rcases compileInto_of_exit hrun hexit with ⟨s, o, report, hproject, hsuccess, hanswer, hinto⟩
  refine ⟨base?_of_success hwf hinto hsuccess, fun hclear hleft => ?_⟩
  rcases settled_of_success hwf hclear hinto hsuccess with ⟨hsettled, hdocuments⟩
  rcases compileInto_of_settled hsettled with ⟨again, hagain, hsame⟩
  refine ⟨hdocuments, again, ?_, hsame⟩
  -- The project is loaded as before, and the report names the same documents.
  have hreport := (compileInto_of_success hinto hsuccess).2.2
  rw [batch_answer_run output ((project_congr hleft).trans hproject) rfl, hagain, hdocuments,
    ← hanswer, hreport, successReport]

/-- A kitchen with one document. -/
def breadAlone : FileTree := kitchen [("bread.yml", "type: Recipe\n")]

/-- A folder that is compiled twice. -/
theorem breadAgain_unchanged :
    let run := ((Request.run none (.batch ⟨"recipes"⟩ none)).answer system).run
    let first := run breadAlone
    breadAlone.WellFormed ∧ first.1.exitCode = 0 ∧ (run first.2).1 = first.1
      ∧ (first.2.textAt? ["kitchen", "recipes", "compiled", "bread.json"]).isSome
      ∧ ∀ l, (run first.2).2.textAt? l = first.2.textAt? l := by
  intro run first
  have hwf : breadAlone.WellFormed := by decide +kernel
  have hdocuments : breadAlone.documents ⟨"recipes"⟩ (outputFolder ⟨"recipes"⟩ none)
      = [⟨"recipes/bread.yml"⟩] := by
    rw [documents_of_sorted (by decide +kernel)]
    decide +kernel
  have hproject : breadAlone.project none
      = .ok (Settings.default, ⟨Settings.default.overrides, stapleSource⟩) := rfl
  have hrun := batch_answer_run none hproject hdocuments
  have hexit : first.1.exitCode = 0 := by
    rw [show first = _ from hrun]
    decide +kernel
  have hleft : ∀ p ∈ breadAlone.projectPaths none,
      first.2.kind? p = breadAlone.kind? p ∧ first.2.read? p = breadAlone.read? p := by
    rw [show first = _ from hrun]
    decide +kernel
  have hwritten : (first.2.textAt? ["kitchen", "recipes", "compiled", "bread.json"]).isSome := by
    rw [show first = _ from hrun]
    decide +kernel
  rcases output_is_no_input hwf none none ⟨"recipes"⟩ with ⟨-, hdefault, hagain⟩
  rcases (hagain _ _ (Prod.eta first).symm hexit).2 (Or.inl (hdefault rfl)) hleft with
    ⟨-, again, hsecond, hsame⟩
  refine ⟨hwf, hexit, ?_, hwritten, fun l => ?_⟩
  · rw [show run first.2 = _ from hsecond]
  · rw [show run first.2 = _ from hsecond]
    exact (hsame l).2

/-- A kitchen in which an output folder is there already, with a document in it. -/
def builtKitchen : FileTree where
  folders := [["kitchen"], ["kitchen", "build"]]
  files := [(["kitchen", "build", "old.yml"], "type: Recipe\n"),
    (["kitchen", "soup.yml"], "type: Recipe\n")]
  workingFolder := ["kitchen"]

/-- An output folder in which documents are found, and outputs as well when the folder is compiled
    again. -/
theorem buildHere_found :
    let run := ((Request.run none (.batch ⟨"."⟩ (some ⟨"build"⟩))).answer system).run builtKitchen
    builtKitchen.WellFormed ∧ run.1.exitCode = 0
      ∧ (∃ d ∈ builtKitchen.documents ⟨"."⟩ ⟨"build"⟩, builtKitchen.LiesIn d ⟨"build"⟩)
      ∧ ∃ d ∈ run.2.documents ⟨"."⟩ ⟨"build"⟩, d ∉ builtKitchen.documents ⟨"."⟩ ⟨"build"⟩ := by
  intro run
  have hdocuments : builtKitchen.documents ⟨"."⟩ ⟨"build"⟩
      = [⟨"./build/old.yml"⟩, ⟨"./soup.yml"⟩] := by
    rw [documents_of_sorted (by decide +kernel)]
    decide +kernel
  have hproject : builtKitchen.project none
      = .ok (Settings.default, ⟨Settings.default.overrides, stapleSource⟩) := rfl
  have hrun := batch_answer_run (some ⟨"build"⟩) hproject hdocuments
  have hlocate : builtKitchen.locate? ⟨"./build/old.yml"⟩
      = some ["kitchen", "build", "old.yml"] := by decide +kernel
  refine ⟨by decide +kernel, ?_, ⟨⟨"./build/old.yml"⟩, ?_, ?_⟩, ⟨⟨"./build/soup.json"⟩, ?_, ?_⟩⟩
  · rw [show run = _ from hrun]
    decide +kernel
  · rw [hdocuments]
    exact List.mem_cons_self
  · rw [liesIn_iff hlocate]
    decide +kernel
  · have hstart : run.2.locate? ⟨"."⟩ = some ["kitchen"] := by
      rw [show run = _ from hrun]
      decide +kernel
    have hfile : ["kitchen"] ++ ["build", "soup.json"] ∈ run.2.files.keys := by
      rw [show run = _ from hrun]
      decide +kernel
    exact mem_documents_iff.2
      ⟨["build", "soup.json"], (mem_waysBelow_iff hstart).2 hfile, by decide, by decide⟩
  · rw [hdocuments]
    decide

end FileTree

end Mise
