import Mise.CommandLine
import Mise.FileTree

/-!
# Loading from Trees

Settings, tables and documents are loaded by actions that look at files and change none. What they
load is therefore a value of the tree: the project with its settings and what its recipes are
compiled with, and for each document either its compilation or a failure. A command that needs the
project, or the compilation of a file, goes on from this value in the same tree.

The project depends on nothing of the tree but what the paths lead to that it is loaded from, and
the compilation of a document on nothing but the text of this document.

## Main definitions

* `FileTree.OnlyLooks`: An action leaves every tree as it is.
* `Compilation.ofFile`: What the text of a document is compiled to.
* `FileTree.project`: The settings of a project, and what its recipes are compiled with.
* `FileTree.projectPaths`: The paths that a project is loaded from.
* `FileTree.compilation`: The compilation of a document in a tree.
* `FileTree.rendering?`: The text that a document in a tree is compiled to, with a line end.

## Theorems

* `onlyLooks_bind`: Actions that only look can be done one after the other.
* `load_run`: The compilation of a file is that of its text.
* `withProject_run`: A command on a project goes on from what is loaded.
* `project_congr`: A project depends on its settings and its table alone.
* `compilation_congr`: The compilation of a document depends on its text alone.
-/

namespace Mise

namespace FileTree

/-- An action leaves every tree as it is. -/
def OnlyLooks {α : Type} (action : StateM FileTree α) : Prop :=
  ∀ t, (action.run t).2 = t

section OnlyLooks

variable {α β : Type}

theorem onlyLooks_pure (x : α) : OnlyLooks (pure x) := fun _ => rfl

/-- Actions that only look can be done one after the other. -/
theorem onlyLooks_bind {action : StateM FileTree α} {next : α → StateM FileTree β}
    (h : OnlyLooks action) (hnext : ∀ x, OnlyLooks (next x)) : OnlyLooks (action >>= next) := by
  intro t
  have hfirst := h t
  have hsecond := hnext (action.run t).1 (action.run t).2
  exact hsecond.trans hfirst

theorem run_of_onlyLooks {action : StateM FileTree α} (h : OnlyLooks action) (t : FileTree) :
    action.run t = ((action.run t).1, t) :=
  Prod.ext rfl (h t)

/-- What is done after an action goes on from its result, in the tree that it leaves. -/
theorem bind_run {action : StateM FileTree α} {t u : FileTree} {x : α} (h : action.run t = (x, u))
    (next : α → StateM FileTree β) : (action >>= next).run t = (next x).run u := by
  rw [StateT.run_bind, h]
  rfl

theorem onlyLooks_kind? (p : Path) : OnlyLooks (system.kind? p) := fun _ => rfl

theorem onlyLooks_read? (p : Path) : OnlyLooks (system.read? p) := fun _ => rfl

end OnlyLooks

theorem onlyLooks_settings (p : Path) : OnlyLooks (Settings.load system p) := by
  unfold Settings.load
  refine onlyLooks_bind (onlyLooks_kind? p) fun kind => onlyLooks_bind (onlyLooks_kind? _) ?_
  intro kind
  cases kind with
  | none => exact onlyLooks_pure _
  | some kind =>
      refine onlyLooks_bind (onlyLooks_read? _) fun text => ?_
      cases text with
      | none => exact onlyLooks_pure _
      | some text => exact onlyLooks_pure _

theorem onlyLooks_settingsOrDefault (p : Path) : OnlyLooks (Settings.loadOrDefault system p) := by
  unfold Settings.loadOrDefault
  refine onlyLooks_bind (onlyLooks_settings p) fun loaded => ?_
  split
  · exact onlyLooks_pure _
  · exact onlyLooks_pure _

theorem onlyLooks_table (p : Path) : OnlyLooks (IngredientTable.load system p) := by
  unfold IngredientTable.load
  refine onlyLooks_bind (onlyLooks_read? p) fun text => ?_
  cases text with
  | none => exact onlyLooks_pure _
  | some text => exact onlyLooks_pure _

theorem onlyLooks_options (s : Settings) : OnlyLooks (CompileOptions.load system s) := by
  unfold CompileOptions.load
  cases s.tablePath? with
  | none => exact onlyLooks_pure _
  | some p =>
      refine onlyLooks_bind (onlyLooks_table p) fun loaded => ?_
      cases loaded with
      | error e => exact onlyLooks_pure _
      | ok table => exact onlyLooks_pure _

/-! ## The project -/

/-- The settings that are named, or those in the working folder. -/
def loadedSettings (t : FileTree) (named : Option Path) : Except Failure Settings :=
  match named with
  | some p => ((Settings.load system p).run t).1
  | none => ((Settings.loadOrDefault system ⟨"."⟩).run t).1

/-- The project that comes with settings, if they could be loaded. -/
def projectWith (t : FileTree) (loaded : Except Failure Settings) :
    Except CommandFailure (Settings × CompileOptions) :=
  match loaded with
  | .error e => .error (.settings e)
  | .ok s =>
    match ((CompileOptions.load system s).run t).1 with
    | .error e => .error (.table e)
    | .ok o => .ok (s, o)

/-- The settings of a project, and what its recipes are compiled with. -/
def project (t : FileTree) (named : Option Path) :
    Except CommandFailure (Settings × CompileOptions) :=
  t.projectWith (t.loadedSettings named)

/-- A command on a project goes on from what is loaded, and ends where nothing is. -/
theorem withProject_run (t : FileTree) (named : Option Path)
    (command : Settings → CompileOptions → StateM FileTree Report) :
    (withProject system named command).run t
      = match t.project named with
        | .error e => (.failed e, t)
        | .ok (s, o) => (command s o).run t := by
  -- Wherever the settings are, what follows once they are loaded is the same.
  have hrest : ∀ loaded : Except Failure Settings,
      (match loaded with
        | .error e => pure (.failed (.settings e))
        | .ok s => do
          match ← CompileOptions.load system s with
          | .error e => return .failed (.table e)
          | .ok o => command s o : StateM FileTree Report).run t
        = match t.projectWith loaded with
          | .error e => (.failed e, t)
          | .ok (s, o) => (command s o).run t := by
    intro loaded
    cases loaded with
    | error e => rfl
    | ok s =>
        rw [projectWith, bind_run (run_of_onlyLooks (onlyLooks_options s) t)]
        cases ((CompileOptions.load system s).run t).1 with
        | error e => rfl
        | ok o => rfl
  unfold withProject project loadedSettings
  cases named with
  | none =>
      exact (bind_run (run_of_onlyLooks (onlyLooks_settingsOrDefault _) t) _).trans (hrest _)
  | some p =>
      exact (bind_run (run_of_onlyLooks (onlyLooks_settings p) t) _).trans (hrest _)

/-- Where settings are looked for: in the file that is named, or in the file of settings of the
    folder that is. -/
def settingsPath (t : FileTree) (p : Path) : Path :=
  if t.kind? p == some .folder then p.join ⟨Settings.fileName⟩ else p

/-- The paths that a project is loaded from: those of its settings and that of its table. -/
def projectPaths (t : FileTree) (named : Option Path) : List Path :=
  [named.getD ⟨"."⟩, t.settingsPath (named.getD ⟨"."⟩)]
    ++ match t.loadedSettings named with
      | .ok s => s.tablePath?.toList
      | .error _ => []

variable {t u : FileTree}

/-- Actions that only look and see the same in two trees can be done one after the other. -/
theorem sees_bind {α β : Type} {action : StateM FileTree α} {next : α → StateM FileTree β}
    (hlooks : OnlyLooks action) (h : (action.run u).1 = (action.run t).1)
    (hnext : ((next (action.run t).1).run u).1 = ((next (action.run t).1).run t).1) :
    ((action >>= next).run u).1 = ((action >>= next).run t).1 := by
  rw [bind_run (run_of_onlyLooks hlooks t), bind_run (run_of_onlyLooks hlooks u), h]
  exact hnext

theorem settings_congr {p : Path} (hkind : u.kind? p = t.kind? p)
    (hfile : u.kind? (t.settingsPath p) = t.kind? (t.settingsPath p)
      ∧ u.read? (t.settingsPath p) = t.read? (t.settingsPath p)) :
    ((Settings.load system p).run u).1 = ((Settings.load system p).run t).1 := by
  unfold Settings.load
  refine sees_bind (onlyLooks_kind? p) hkind (sees_bind (onlyLooks_kind? _) hfile.1 ?_)
  split
  · rfl
  · refine sees_bind (onlyLooks_read? _) hfile.2 ?_
    split <;> rfl

theorem options_congr {s : Settings} (h : ∀ p, s.tablePath? = some p → u.read? p = t.read? p) :
    ((CompileOptions.load system s).run u).1 = ((CompileOptions.load system s).run t).1 := by
  unfold CompileOptions.load
  cases hpath : s.tablePath? with
  | none => rfl
  | some p =>
      have htable : ((IngredientTable.load system p).run u).1
          = ((IngredientTable.load system p).run t).1 := by
        refine sees_bind (onlyLooks_read? p) (h p hpath) ?_
        split <;> rfl
      refine sees_bind (onlyLooks_table p) htable ?_
      split <;> rfl

/-- A project is the same in any tree in which the paths that it is loaded from lead to the same. -/
theorem project_congr {named : Option Path}
    (h : ∀ p ∈ t.projectPaths named, u.kind? p = t.kind? p ∧ u.read? p = t.read? p) :
    u.project named = t.project named := by
  have hload : ((Settings.load system (named.getD ⟨"."⟩)).run u).1
      = ((Settings.load system (named.getD ⟨"."⟩)).run t).1 :=
    settings_congr (h _ List.mem_cons_self).1 (h _ (List.mem_cons_of_mem _ List.mem_cons_self))
  have hsettings : u.loadedSettings named = t.loadedSettings named := by
    cases named with
    | some p => exact hload
    | none =>
        refine sees_bind (onlyLooks_settings _) hload ?_
        split <;> rfl
  rw [project, project, hsettings]
  cases hloaded : t.loadedSettings named with
  | error e => rfl
  | ok s =>
      rw [projectWith, projectWith, options_congr fun p hpath => (h p ?_).2]
      refine List.mem_append_right _ ?_
      rw [hloaded]
      exact Option.mem_toList.2 hpath

end FileTree

/-! ## Documents -/

/-- The document that the text of a file is. -/
def Recipe.ofFile (p : Path) (text? : Option String) : Except Failure Recipe :=
  match text? with
  | none => .error .inaccessible
  | some text =>
    let extension := Text.lowered (p.extension?.getD "")
    (Recipe.ofText? extension text).getD (.error (.unknownFormat extension p))

/-- What the text of a document is compiled to. -/
def Compilation.ofFile (o : CompileOptions) (p : Path) (text? : Option String) :
    Except Failure Compilation :=
  match Recipe.ofFile p text? with
  | .error e => .error e
  | .ok r => (compile? o r).elim (.error (.notRecipe r.kind)) .ok

namespace FileTree

/-- The compilation of a document in a tree. -/
def compilation (t : FileTree) (o : CompileOptions) (document : Path) :
    Except Failure Compilation :=
  Compilation.ofFile o document (t.read? document)

/-- The text that a document in a tree is compiled to, with a line end. -/
def rendering? (t : FileTree) (o : CompileOptions) (pretty : Bool) (document : Path) :
    Option String :=
  match t.compilation o document with
  | .error _ => none
  | .ok c => some (c.text pretty ++ "\n")

theorem recipe_load_run (t : FileTree) (p : Path) :
    (Recipe.load system p).run t = (Recipe.ofFile p (t.read? p), t) := by
  have hread : (system.read? p).run t = (t.read? p, t) := rfl
  rw [Recipe.load, bind_run hread]
  cases t.read? p with
  | none => rfl
  | some text => rfl

/-- The compilation of a file is that of its text. -/
theorem load_run (t : FileTree) (o : CompileOptions) (p : Path) :
    (Compilation.load system o p).run t = (t.compilation o p, t) := by
  rw [Compilation.load, bind_run (recipe_load_run t p), compilation, Compilation.ofFile]
  cases Recipe.ofFile p (t.read? p) with
  | error e => rfl
  | ok r => rfl

/-- The compilation of a document depends on its text alone. -/
theorem compilation_congr {t u : FileTree} {p : Path} (h : u.read? p = t.read? p)
    (o : CompileOptions) : u.compilation o p = t.compilation o p := by
  rw [compilation, compilation, h]

theorem rendering?_eq_some_iff {t : FileTree} {o : CompileOptions} {pretty : Bool} {d : Path}
    {text : String} :
    t.rendering? o pretty d = some text
      ↔ ∃ c, t.compilation o d = .ok c ∧ text = c.text pretty ++ "\n" := by
  unfold rendering?
  cases t.compilation o d with
  | error e => simp only [reduceCtorEq, false_and, exists_false]
  | ok c => simp only [Option.some.injEq, Except.ok.injEq, exists_eq_left', eq_comm]

theorem rendering?_eq_none_iff {t : FileTree} {o : CompileOptions} {pretty : Bool} {d : Path} :
    t.rendering? o pretty d = none ↔ ∃ e, t.compilation o d = .error e := by
  unfold rendering?
  cases t.compilation o d with
  | error e => simp only [Except.error.injEq, exists_eq']
  | ok c => simp only [reduceCtorEq, exists_false]

end FileTree

end Mise
