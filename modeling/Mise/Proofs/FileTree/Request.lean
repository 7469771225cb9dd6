import Mise.Proofs.Batch.Loading
import Mise.Proofs.FileTree.Change

/-!
# Requests on Trees

Whatever is asked of the program, it leaves a well-formed tree if it finds one. All that it does is
to look at files, to make folders and to write files, and each of these keeps a tree well-formed;
so do actions that are made of such actions. The tree with nothing but a working folder is
well-formed to begin with, so that every tree is which requests lead to.

## Main definitions

* `FileTree.Keeps`: An action keeps trees well-formed.

## Theorems

* `wellFormed_empty`: The tree with nothing but a working folder is well-formed.
* `keeps_bind`: Actions that keep trees well-formed can be done one after the other.
* `keeps_compileAll`: Compiling documents keeps trees well-formed.
* `keeps_run`: Every command does.
* `wellFormed_answers`: Requests keep trees well-formed, however many there are.
-/

namespace Mise

namespace FileTree

/-- The tree with nothing but a working folder is well-formed. -/
theorem wellFormed_empty {l : Location} (h : ∀ s ∈ l, IsFileName s) : (empty l).WellFormed := by
  have hfolder : ∀ n, n ≤ l.length → (empty l).isFolder (l.take n) := by
    intro n hn
    rw [isFolder_iff]
    cases n with
    | zero => exact Or.inl List.take_zero
    | succ n => exact Or.inr (List.mem_map.2 ⟨n, List.mem_range.2 hn, rfl⟩)
  refine ⟨fun l' hl' => ?_, fun l' hl' => absurd hl' List.not_mem_nil, List.nodup_nil, ?_⟩
  · rcases List.mem_append.1 hl' with hmem | hmem
    · rcases List.mem_map.1 hmem with ⟨n, hn, rfl⟩
      rw [List.mem_range] at hn
      have hlength : (l.take (n + 1)).length - 1 = n := by
        rw [List.length_take]
        omega
      refine ⟨fun s hs => h s (List.mem_of_mem_take hs), ?_⟩
      -- Without its last name, the location is that of the folder made before.
      rw [List.dropLast_eq_take, hlength, List.take_take, Nat.min_eq_left (Nat.le_succ n)]
      exact hfolder n (Nat.le_of_lt hn)
    · exact absurd hmem List.not_mem_nil
  · have hall := hfolder l.length (Nat.le_refl _)
    rw [List.take_length] at hall
    exact hall

/-- An action keeps trees well-formed. -/
def Keeps {α : Type} (action : StateM FileTree α) : Prop :=
  ∀ t, t.WellFormed → (action.run t).2.WellFormed

section Keeps

variable {α β : Type}

theorem keeps_of_onlyLooks {action : StateM FileTree α} (h : OnlyLooks action) : Keeps action := by
  intro t ht
  rw [h t]
  exact ht

theorem keeps_pure (x : α) : Keeps (pure x) := fun _ ht => ht

/-- Actions that keep trees well-formed can be done one after the other. -/
theorem keeps_bind {action : StateM FileTree α} {next : α → StateM FileTree β} (h : Keeps action)
    (hnext : ∀ x, Keeps (next x)) : Keeps (action >>= next) := by
  intro t ht
  have hfirst := h t ht
  exact hnext (action.run t).1 (action.run t).2 hfirst

theorem keeps_attempt {change : FileTree → Option FileTree}
    (h : ∀ t u, t.WellFormed → change t = some u → u.WellFormed) : Keeps (attempt change) := by
  intro t ht
  simp only [attempt, StateT.run]
  cases hchange : change t with
  | none => exact ht
  | some u => exact h t u ht hchange

theorem keeps_createFolders (p : Path) : Keeps (system.createFolders p) :=
  keeps_attempt fun _ _ ht hmade => wellFormed_createFolders? ht hmade

theorem keeps_write (p : Path) (text : String) : Keeps (system.write p text) :=
  keeps_attempt fun _ _ ht hwritten => wellFormed_write? ht hwritten

end Keeps

theorem onlyLooks_load (o : CompileOptions) (p : Path) : OnlyLooks (Compilation.load system o p) :=
  fun t => congrArg Prod.snd (load_run t o p)

theorem keeps_withProject {named : Option Path}
    {command : Settings → CompileOptions → StateM FileTree Report}
    (h : ∀ s o, Keeps (command s o)) : Keeps (withProject system named command) := by
  intro t ht
  rw [withProject_run]
  cases t.project named with
  | error e => exact ht
  | ok project => exact h project.1 project.2 t ht

theorem keeps_withCompilation (o : CompileOptions) (file : Path)
    {command : Compilation → StateM FileTree Report} (h : ∀ c, Keeps (command c)) :
    Keeps (withCompilation system o file command) := by
  unfold withCompilation
  refine keeps_bind (keeps_of_onlyLooks (onlyLooks_load o file)) fun loaded => ?_
  cases loaded with
  | error e => exact keeps_pure _
  | ok c => exact h c

theorem keeps_writeOutput (file : Path) (text : String) : Keeps (writeOutput system file text) := by
  unfold writeOutput
  refine keeps_bind (keeps_createFolders _) fun made => ?_
  cases made with
  | false => exact keeps_pure _
  | true =>
      refine keeps_bind (keeps_write file _) fun written => ?_
      cases written with
      | false => exact keeps_pure _
      | true => exact keeps_pure _

/-- Compiling documents keeps trees well-formed, wherever it ends. -/
theorem keeps_compileAll (o : CompileOptions) (pretty : Bool) (output : Path)
    (documents : List Path) : Keeps (compileAll system o pretty output documents) := by
  induction documents with
  | nil => exact keeps_pure _
  | cons d rest ih =>
      unfold compileAll
      refine keeps_bind (keeps_of_onlyLooks (onlyLooks_load o d)) fun loaded => ?_
      cases loaded with
      | error e => exact keeps_bind ih fun _ => keeps_pure _
      | ok c =>
          refine keeps_bind (keeps_write _ _) fun written => ?_
          cases written with
          | false => exact keeps_pure _
          | true => exact ih

/-- Every command keeps trees well-formed. -/
theorem keeps_run (named : Option Path) (command : Command) :
    Keeps (command.run system named) := by
  cases command with
  | compile file output compact =>
      refine keeps_withProject fun s o => keeps_withCompilation o file fun c => ?_
      cases output with
      | none => exact keeps_pure _
      | some target => exact keeps_writeOutput target _
  | check file strict =>
      refine keeps_withProject fun s o => keeps_withCompilation o file fun c => ?_
      by_cases hclean : c.warnings.isEmpty
      · rw [if_pos hclean]
        exact keeps_pure _
      · rw [if_neg hclean]
        by_cases hstrict : strict
        · rw [if_pos hstrict]
          exact keeps_pure _
        · rw [if_neg hstrict]
          exact keeps_pure _
  | shopping file =>
      exact keeps_withProject fun s o => keeps_withCompilation o file fun c => keeps_pure _
  | batch folder output =>
      refine keeps_withProject fun s o => ?_
      refine keeps_bind (keeps_of_onlyLooks fun _ => rfl) fun documents => ?_
      by_cases hnone : documents.isEmpty
      · rw [if_pos hnone]
        exact keeps_pure _
      · rw [if_neg hnone]
        refine keeps_bind (keeps_createFolders _) fun made => ?_
        cases made with
        | false => exact keeps_pure _
        | true =>
            refine keeps_bind (keeps_compileAll _ _ _ _) fun result => ?_
            split
            · exact keeps_pure _
            · exact keeps_pure _
            · exact keeps_pure _

theorem keeps_answer (request : Request) : Keeps (request.answer system) := by
  cases request with
  | run named command => exact keeps_bind (keeps_run named command) fun _ => keeps_pure _
  | help => exact keeps_pure _
  | version => exact keeps_pure _
  | misuse => exact keeps_pure _

/-- Requests keep trees well-formed, however many there are. -/
theorem wellFormed_answers {t : FileTree} (h : t.WellFormed) (requests : List Request) :
    (requests.foldl (fun u request => ((request.answer system).run u).2) t).WellFormed := by
  induction requests generalizing t with
  | nil => exact h
  | cons request rest ih => exact ih (keeps_answer request t h)

end FileTree

end Mise
