import Mise.Proofs.FileTree.Following
import Mise.Proofs.Ledger.Group

/-!
# Changing Trees

A tree is well-formed if everything in it has a name and is in a folder, if no file is in the place
of a folder, and if the working folder is there. There are two ways of changing a tree, and both of
them keep it well-formed.

Making folders changes no file and takes no folder away, and afterwards there is a folder where the
path leads. Writing a file changes the text at one location; the folders stay as they are, so that
every path leads where it led before.

## Main definitions

* `FileTree.CanHold`: There may be something at a location.
* `FileTree.WellFormed`: What holds of every tree that can come up.
* `FileTree.GainsFolders`: A tree has more folders than another one, and is the same otherwise.
* `FileTree.put`: A tree with a text at a location.

## Theorems

* `isFolder_of_isPrefix`: What is on the way to something is a folder.
* `gainsFolders_createFolders?`: Making folders changes nothing else.
* `base?_of_createFolders?`: The folder that was made is there.
* `write?_eq_some_iff`: A file is written where the path leads, unless there is a folder.
* `textAt?_put`: A text is put at its location and at no other.
* `wellFormed_createFolders?`, `wellFormed_put`, `wellFormed_write?`: Trees stay well-formed.
-/

namespace Mise

namespace FileTree

/-- The locations of all folders and files. -/
def locations (t : FileTree) : List Location :=
  t.folders ++ t.files.keys

/-- There may be something at a location: its names are names, and it is in a folder. -/
structure CanHold (t : FileTree) (l : Location) : Prop where
  named : ∀ s ∈ l, IsFileName s
  inFolder : t.isFolder l.dropLast

/-- What holds of every tree that can come up: everything is in its place, no file is in the place
    of a folder, a file is listed once, and the working folder is there. -/
structure WellFormed (t : FileTree) : Prop where
  placed : ∀ l ∈ t.locations, t.CanHold l
  apart : ∀ l ∈ t.files.keys, t.isFolder l = false
  once : t.files.keys.Nodup
  atWork : t.isFolder t.workingFolder

instance (t : FileTree) (l : Location) : Decidable (t.CanHold l) :=
  decidable_of_iff ((∀ s ∈ l, IsFileName s) ∧ t.isFolder l.dropLast)
    ⟨fun h => ⟨h.1, h.2⟩, fun h => ⟨h.named, h.inFolder⟩⟩

instance (t : FileTree) : Decidable t.WellFormed :=
  decidable_of_iff
    ((∀ l ∈ t.locations, t.CanHold l) ∧ (∀ l ∈ t.files.keys, t.isFolder l = false)
      ∧ t.files.keys.Nodup ∧ t.isFolder t.workingFolder)
    ⟨fun h => ⟨h.1, h.2.1, h.2.2.1, h.2.2.2⟩, fun h => ⟨h.placed, h.apart, h.once, h.atWork⟩⟩

variable {t u v : FileTree}

theorem isFolder_iff {l : Location} : t.isFolder l ↔ l = [] ∨ l ∈ t.folders := by
  rw [isFolder, Bool.or_eq_true, List.isEmpty_iff, List.contains_iff_mem]

theorem isFolder_dropLast (h : t.WellFormed) {l : Location} (hl : t.isFolder l) :
    t.isFolder l.dropLast := by
  rcases isFolder_iff.1 hl with rfl | hmem
  · exact hl
  · exact (h.placed l (List.mem_append_left _ hmem)).inFolder

/-- What is on the way to something is a folder. -/
theorem isFolder_of_isPrefix (h : t.WellFormed) {l l' : Location} (hl' : l' ∈ t.locations)
    (hpre : l <+: l') (hne : l ≠ l') : t.isFolder l := by
  -- The rest of the way is shortened from its end, and a folder is left every time.
  have hfolder : ∀ (rest : Location), t.isFolder (l ++ rest) → t.isFolder l := by
    intro rest
    induction rest using List.reverseRecOn with
    | nil =>
        intro hl
        rw [List.append_nil] at hl
        exact hl
    | append_singleton rest s ih =>
        intro hl
        have hshort := isFolder_dropLast h hl
        rw [← List.append_assoc, List.dropLast_concat] at hshort
        exact ih hshort
  rcases hpre with ⟨rest, rfl⟩
  rcases List.eq_nil_or_concat rest with rfl | ⟨front, s, rfl⟩
  · exact absurd (List.append_nil l).symm hne
  · have hdrop := (h.placed _ hl').inFolder
    rw [List.concat_eq_append, ← List.append_assoc, List.dropLast_concat] at hdrop
    exact hfolder front hdrop

/-- A tree has more folders than another one, and is the same otherwise. -/
structure GainsFolders (t u : FileTree) : Prop where
  files : u.files = t.files
  workingFolder : u.workingFolder = t.workingFolder
  isFolder : ∀ l, t.isFolder l → u.isFolder l
  textAt? : ∀ l, u.textAt? l = t.textAt? l

theorem gainsFolders_refl (t : FileTree) : GainsFolders t t :=
  ⟨rfl, rfl, fun _ hl => hl, fun _ => rfl⟩

theorem GainsFolders.trans (h : GainsFolders t u) (h' : GainsFolders u v) : GainsFolders t v :=
  ⟨h'.files.trans h.files, h'.workingFolder.trans h.workingFolder,
    fun l hl => h'.isFolder l (h.isFolder l hl), fun l => (h'.textAt? l).trans (h.textAt? l)⟩

theorem GainsFolders.locate? (h : GainsFolders t u) {p : Path} {l : Location}
    (hl : t.locate? p = some l) : u.locate? p = some l :=
  locate?_mono h.isFolder h.workingFolder hl

/-- A file that is found is the same where there are more folders. -/
theorem GainsFolders.read? (h : GainsFolders t u) {p : Path} {l : Location}
    (hl : t.locate? p = some l) : u.read? p = t.read? p := by
  rw [FileTree.read?, FileTree.read?, hl, h.locate? hl, Option.bind_some, Option.bind_some,
    h.textAt?]

/-- A folder is made only if there is none, and never in the place of a file. -/
theorem addFolder?_cases {l : Location} (h : t.addFolder? l = some u) :
    (t.isFolder l ∧ u = t)
      ∨ (t.isFolder l = false ∧ t.files.has l = false
        ∧ u = { t with folders := t.folders ++ [l] }) := by
  unfold addFolder? at h
  cases hl : t.isFolder l with
  | true =>
      rw [hl, if_pos rfl] at h
      exact Or.inl ⟨rfl, (Option.some.inj h).symm⟩
  | false =>
      rw [hl, if_neg Bool.false_ne_true] at h
      cases hfile : t.files.has l with
      | true =>
          rw [hfile, if_pos rfl] at h
          exact absurd h (by simp only [reduceCtorEq, not_false_eq_true])
      | false =>
          rw [hfile, if_neg Bool.false_ne_true] at h
          exact Or.inr ⟨rfl, rfl, (Option.some.inj h).symm⟩

theorem isFolder_withFolder (t : FileTree) (l l' : Location) :
    isFolder { t with folders := t.folders ++ [l] } l' ↔ t.isFolder l' ∨ l' = l := by
  rw [isFolder_iff, isFolder_iff, List.mem_append, List.mem_singleton, or_assoc]

theorem isFolder_addFolder? {l : Location} (h : t.addFolder? l = some u) : u.isFolder l := by
  rcases addFolder?_cases h with ⟨hl, rfl⟩ | ⟨-, -, rfl⟩
  · exact hl
  · exact (isFolder_withFolder t l l).2 (Or.inr rfl)

theorem gainsFolders_addFolder? {l : Location} (h : t.addFolder? l = some u) :
    GainsFolders t u := by
  rcases addFolder?_cases h with ⟨-, rfl⟩ | ⟨hl, hfile, rfl⟩
  · exact gainsFolders_refl u
  · refine ⟨rfl, rfl, fun l' hl' => (isFolder_withFolder t l l').2 (Or.inl hl'), fun l' => ?_⟩
    unfold textAt?
    by_cases hsame : l' = l
    · -- There was nothing where the folder is now.
      have hnew := (isFolder_withFolder t l l').2 (Or.inr hsame)
      have hnone : t.files.get? l = none := by
        rw [Ledger.has, Option.isSome_eq_false_iff, Option.isNone_iff_eq_none] at hfile
        exact hfile
      rw [if_pos hnew, hsame, hl, if_neg Bool.false_ne_true, hnone]
    · have hiff := isFolder_withFolder t l l'
      by_cases hold : t.isFolder l'
      · rw [if_pos (hiff.2 (Or.inl hold)), if_pos hold]
      · have hnew : ¬ isFolder { t with folders := t.folders ++ [l] } l' := by
          intro hnew
          rcases hiff.1 hnew with hl' | hl'
          · exact hold hl'
          · exact hsame hl'
        rw [if_neg hnew, if_neg hold]

theorem addWay?_cons {l : Location} {s : String} {segments : List String}
    (h : t.addWay? l (s :: segments) = some u) :
    ∃ next, t.addFolder? (stepFrom l s) = some next
      ∧ next.addWay? (stepFrom l s) segments = some u := by
  rw [addWay?] at h
  cases hnext : t.addFolder? (stepFrom l s) with
  | none =>
      rw [hnext] at h
      exact absurd h (by simp only [reduceCtorEq, not_false_eq_true])
  | some next =>
      rw [hnext] at h
      exact ⟨next, rfl, h⟩

theorem gainsFolders_addWay? {segments : List String} {l : Location}
    (h : t.addWay? l segments = some u) : GainsFolders t u := by
  induction segments generalizing t l with
  | nil =>
      rw [addWay?, Option.some.injEq] at h
      exact h ▸ gainsFolders_refl t
  | cons s segments ih =>
      rcases addWay?_cons h with ⟨next, hnext, hrest⟩
      exact (gainsFolders_addFolder? hnext).trans (ih hrest)

-- What is made on the way are the folders that are passed when it is followed.
theorem follow?_of_addWay? {segments : List String} {l : Location} (hl : t.isFolder l)
    (h : t.addWay? l segments = some u) :
    ∃ top, u.follow? l segments = some top ∧ u.isFolder top := by
  induction segments generalizing t l with
  | nil =>
      rw [addWay?, Option.some.injEq] at h
      exact ⟨l, rfl, h ▸ hl⟩
  | cons s segments ih =>
      have hgains := gainsFolders_addWay? h
      rcases addWay?_cons h with ⟨next, hnext, hrest⟩
      rcases ih (isFolder_addFolder? hnext) hrest with ⟨top, hfollow, htop⟩
      refine ⟨top, ?_, htop⟩
      rw [follow?, if_pos (hgains.isFolder l hl), hfollow]

theorem createFolders?_cases {p : Path} (h : t.createFolders? p = some u) :
    (p.text.isEmpty ∧ u = t)
      ∨ (p.text.isEmpty = false ∧ t.addWay? (t.startOf p) p.segments = some u) := by
  unfold createFolders? at h
  cases hp : p.text.isEmpty with
  | true =>
      rw [hp, if_pos rfl] at h
      exact Or.inl ⟨rfl, (Option.some.inj h).symm⟩
  | false =>
      rw [hp, if_neg Bool.false_ne_true] at h
      split at h
      · exact absurd h (by simp only [reduceCtorEq, not_false_eq_true])
      · exact Or.inr ⟨rfl, h⟩

/-- Making folders changes nothing else. -/
theorem gainsFolders_createFolders? {p : Path} (h : t.createFolders? p = some u) :
    GainsFolders t u := by
  rcases createFolders?_cases h with ⟨-, rfl⟩ | ⟨-, hway⟩
  · exact gainsFolders_refl u
  · exact gainsFolders_addWay? hway

theorem isFolder_startOf (h : t.WellFormed) (p : Path) : t.isFolder (t.startOf p) := by
  unfold startOf
  by_cases hp : p.isAbsolute
  · rw [if_pos hp]
    exact isFolder_iff.2 (Or.inl rfl)
  · rw [if_neg hp]
    exact h.atWork

/-- The folder that was made is there. -/
theorem base?_of_createFolders? (hwf : t.WellFormed) {p : Path}
    (h : t.createFolders? p = some u) : ∃ top, u.base? p = some top ∧ u.isFolder top := by
  rcases createFolders?_cases h with ⟨hp, rfl⟩ | ⟨hp, hway⟩
  · refine ⟨u.workingFolder, ?_, hwf.atWork⟩
    rw [base?, if_pos hp]
  · rcases follow?_of_addWay? (isFolder_startOf hwf p) hway with ⟨top, hfollow, htop⟩
    refine ⟨top, ?_, htop⟩
    have hstart : u.startOf p = t.startOf p := by
      rw [startOf, startOf, (gainsFolders_addWay? hway).workingFolder]
    rw [base?, locate?, hp, if_neg Bool.false_ne_true, if_neg Bool.false_ne_true, hstart, hfollow]

/-- The tree with a text at a location. -/
def put (t : FileTree) (l : Location) (text : String) : FileTree :=
  { t with files := t.files.set l text }

/-- A file is written where the path leads, unless there is a folder. -/
theorem write?_eq_some_iff {p : Path} {text : String} :
    t.write? p text = some u
      ↔ ∃ l, t.locate? p = some l ∧ t.isFolder l = false ∧ u = t.put l text := by
  constructor
  · intro h
    unfold write? at h
    cases hlocate : t.locate? p with
    | none =>
        rw [hlocate] at h
        exact absurd h (by simp only [reduceCtorEq, not_false_eq_true])
    | some l =>
        simp only [hlocate] at h
        cases hl : t.isFolder l with
        | true =>
            rw [hl, if_pos rfl] at h
            exact absurd h (by simp only [reduceCtorEq, not_false_eq_true])
        | false =>
            rw [hl, if_neg Bool.false_ne_true] at h
            exact ⟨l, rfl, hl, (Option.some.inj h).symm⟩
  · intro ⟨l, hlocate, hl, hu⟩
    simp only [write?, hlocate, hl, Bool.false_eq_true, if_false, hu, put]

theorem write?_ne_none {p : Path} {l : Location} (hlocate : t.locate? p = some l)
    (hl : t.isFolder l = false) (text : String) : t.write? p text ≠ none := by
  rw [write?_eq_some_iff.2 ⟨l, hlocate, hl, rfl⟩]
  exact Option.some_ne_none _

@[simp] theorem isFolder_put (t : FileTree) (l l' : Location) (text : String) :
    (t.put l text).isFolder l' = t.isFolder l' := rfl

@[simp] theorem locate?_put (t : FileTree) (l : Location) (text : String) (p : Path) :
    (t.put l text).locate? p = t.locate? p :=
  locate?_congr (isFolder_put t l · text) rfl p

@[simp] theorem base?_put (t : FileTree) (l : Location) (text : String) (p : Path) :
    (t.put l text).base? p = t.base? p :=
  base?_congr (isFolder_put t l · text) rfl p

/-- A text is put at its location and at no other. -/
theorem textAt?_put {l : Location} (hl : t.isFolder l = false) (l' : Location) (text : String) :
    (t.put l text).textAt? l' = if l' = l then some text else t.textAt? l' := by
  have hfiles : (t.put l text).files.get? l'
      = if l' = l then some text else t.files.get? l' := by
    rw [put, Ledger.set, Ledger.get?_alter]
  unfold textAt?
  by_cases hfolder : t.isFolder l'
  · have hne : l' ≠ l := by
      intro hsame
      rw [hsame, hl] at hfolder
      exact Bool.false_ne_true hfolder
    rw [if_pos (show (t.put l text).isFolder l' from hfolder), if_neg hne, if_pos hfolder]
  · rw [if_neg (show ¬ (t.put l text).isFolder l' from hfolder), hfiles, if_neg hfolder]

/-- The location of a text is listed already, or it is added to the list of files. -/
theorem keys_put (t : FileTree) (l : Location) (text : String) :
    (t.put l text).files.keys = t.files.keys
      ∨ l ∉ t.files.keys ∧ (t.put l text).files.keys = t.files.keys ++ [l] := by
  have halter := Ledger.keys_alter t.files l text fun _ => text
  by_cases hold : l ∈ t.files.keys
  · rw [if_pos hold] at halter
    exact Or.inl halter
  · rw [if_neg hold] at halter
    exact Or.inr ⟨hold, halter⟩

theorem read?_put {l : Location} (hl : t.isFolder l = false) (text : String) {p : Path}
    (hp : t.locate? p ≠ some l) : (t.put l text).read? p = t.read? p := by
  rw [read?, read?, locate?_put]
  cases hlocate : t.locate? p with
  | none => rfl
  | some l' =>
      have hne : l' ≠ l := fun hsame => hp (hsame ▸ hlocate)
      rw [Option.bind_some, Option.bind_some, textAt?_put hl, if_neg hne]

/-! ## Trees stay well-formed -/

theorem canHold_of_isFolder (h : t.WellFormed) {l : Location} (hl : t.isFolder l) :
    t.CanHold l := by
  rcases isFolder_iff.1 hl with rfl | hmem
  · exact ⟨fun s hs => absurd hs List.not_mem_nil, hl⟩
  · exact h.placed l (List.mem_append_left _ hmem)

-- A name leads into the folder, and all other segments lead to a folder.
theorem canHold_stepFrom (h : t.WellFormed) {l : Location} (hl : t.isFolder l) {s : String}
    (hs : ∀ name, PathPart.ofSegment? s = some (.name name) → IsFileName s) :
    t.CanHold (stepFrom l s) := by
  have hhold := canHold_of_isFolder h hl
  cases hpart : PathPart.ofSegment? s with
  | none =>
      rw [stepFrom, hpart]
      exact hhold
  | some part =>
      cases part with
      | name name =>
          have hname := hs name hpart
          rw [stepFrom_name hname]
          refine ⟨fun x hx => ?_, ?_⟩
          · rcases List.mem_append.1 hx with hx | hx
            · exact hhold.named x hx
            · exact List.mem_singleton.1 hx ▸ hname
          · rw [List.dropLast_concat]
            exact hl
      | up =>
          rw [stepFrom, hpart]
          exact canHold_of_isFolder h (isFolder_dropLast h hl)
      | root =>
          rw [stepFrom, hpart]
          exact hhold
      | here =>
          rw [stepFrom, hpart]
          exact hhold

theorem canHold_follow? (h : t.WellFormed) {segments : List String} {l l' : Location}
    (hl : t.CanHold l) (hsegments : ∀ s ∈ segments, ∀ name,
      PathPart.ofSegment? s = some (.name name) → IsFileName s)
    (hfollow : t.follow? l segments = some l') : t.CanHold l' := by
  induction segments generalizing l with
  | nil => exact Option.some.inj hfollow ▸ hl
  | cons s segments ih =>
      rw [follow?] at hfollow
      by_cases hfolder : t.isFolder l
      · rw [if_pos hfolder] at hfollow
        have hstep := canHold_stepFrom h hfolder (hsegments s List.mem_cons_self)
        exact ih hstep (fun x hx => hsegments x (List.mem_cons_of_mem s hx)) hfollow
      · rw [if_neg hfolder] at hfollow
        exact absurd hfollow (by simp only [reduceCtorEq, not_false_eq_true])

theorem wellFormed_addFolder? (h : t.WellFormed) {l : Location} (hl : t.CanHold l)
    (hadd : t.addFolder? l = some u) : u.WellFormed := by
  rcases addFolder?_cases hadd with ⟨-, rfl⟩ | ⟨-, hfile, rfl⟩
  · exact h
  · have hold : ∀ l', t.isFolder l' → isFolder { t with folders := t.folders ++ [l] } l' :=
      fun l' hl' => (isFolder_withFolder t l l').2 (Or.inl hl')
    refine ⟨fun l' hl' => ?_, fun l' hl' => ?_, h.once, hold _ h.atWork⟩
    · rcases List.mem_append.1 hl' with hfolder | hkey
      · rcases List.mem_append.1 hfolder with hmem | hnew
        · have hplaced := h.placed l' (List.mem_append_left _ hmem)
          exact ⟨hplaced.named, hold _ hplaced.inFolder⟩
        · rw [List.mem_singleton.1 hnew]
          exact ⟨hl.named, hold _ hl.inFolder⟩
      · have hplaced := h.placed l' (List.mem_append_right _ hkey)
        exact ⟨hplaced.named, hold _ hplaced.inFolder⟩
    · -- There is no file where the folder is made.
      rw [← Bool.not_eq_true, isFolder_withFolder, h.apart l' hl']
      intro hnew
      rcases hnew with hfalse | rfl
      · exact Bool.false_ne_true hfalse
      · rw [(Ledger.mem_keys_iff t.files l').1 hl'] at hfile
        exact Bool.false_ne_true hfile.symm

theorem wellFormed_addWay? {segments : List String} {l : Location} (h : t.WellFormed)
    (hl : t.isFolder l) (hsegments : ∀ s ∈ segments, ∀ name,
      PathPart.ofSegment? s = some (.name name) → IsFileName s)
    (hway : t.addWay? l segments = some u) : u.WellFormed := by
  induction segments generalizing t l with
  | nil =>
      rw [addWay?, Option.some.injEq] at hway
      exact hway ▸ h
  | cons s segments ih =>
      rcases addWay?_cons hway with ⟨next, hnext, hrest⟩
      have hstep := canHold_stepFrom h hl (hsegments s List.mem_cons_self)
      exact ih (wellFormed_addFolder? h hstep hnext) (isFolder_addFolder? hnext)
        (fun x hx => hsegments x (List.mem_cons_of_mem s hx)) hrest

/-- Making folders keeps a tree well-formed. -/
theorem wellFormed_createFolders? (h : t.WellFormed) {p : Path}
    (hmade : t.createFolders? p = some u) : u.WellFormed := by
  rcases createFolders?_cases hmade with ⟨-, rfl⟩ | ⟨-, hway⟩
  · exact h
  · exact wellFormed_addWay? h (isFolder_startOf h p)
      (fun s hs name => Path.isFileName_of_mem_segments hs) hway

/-- A text can be put wherever there may be something and there is no folder. -/
theorem wellFormed_put (h : t.WellFormed) {l : Location} (hhold : t.CanHold l)
    (hl : t.isFolder l = false) (text : String) : (t.put l text).WellFormed := by
  -- The location is listed already, or it is added to the list.
  have hkeys := keys_put t l text
  have hmem : ∀ l' ∈ (t.put l text).files.keys, l' ∈ t.files.keys ∨ l' = l := by
    intro l' hl'
    rcases hkeys with hsame | ⟨-, hadded⟩
    · exact Or.inl (hsame ▸ hl')
    · rw [hadded, List.mem_append, List.mem_singleton] at hl'
      exact hl'
  refine ⟨fun l' hl' => ?_, fun l' hl' => ?_, ?_, h.atWork⟩
  · have hplaced : t.CanHold l' := by
      rcases List.mem_append.1 hl' with hfolder | hkey
      · exact h.placed l' (List.mem_append_left _ hfolder)
      · rcases hmem l' hkey with hold | rfl
        · exact h.placed l' (List.mem_append_right _ hold)
        · exact hhold
    exact ⟨hplaced.named, hplaced.inFolder⟩
  · rw [isFolder_put]
    rcases hmem l' hl' with hold | rfl
    · exact h.apart l' hold
    · exact hl
  · rcases hkeys with hsame | ⟨hnew, hadded⟩
    · rw [hsame]
      exact h.once
    · rw [hadded, List.nodup_append]
      refine ⟨h.once, List.nodup_singleton l, fun a ha b hb hab => hnew ?_⟩
      rw [List.mem_singleton] at hb
      exact hb ▸ hab ▸ ha

/-- Writing a file keeps a tree well-formed. -/
theorem wellFormed_write? (h : t.WellFormed) {p : Path} {text : String}
    (hwritten : t.write? p text = some u) : u.WellFormed := by
  rcases write?_eq_some_iff.1 hwritten with ⟨l, hlocate, hl, rfl⟩
  rw [locate?, text_ne_empty_of_locate? hlocate, if_neg Bool.false_ne_true] at hlocate
  have hhold := canHold_follow? h (canHold_of_isFolder h (isFolder_startOf h p))
    (fun s hs name => Path.isFileName_of_mem_segments hs) hlocate
  exact wellFormed_put h hhold hl text

end FileTree

end Mise
