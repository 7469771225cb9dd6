import Mathlib.Data.List.Forall2
import Mathlib.Data.List.Induction
import Mathlib.Data.List.Nodup
import Mise.Dictionary

/-!
# Ledgers and Groups

Ledgers are filled by one change after another, and the changes of different keys may come in any
order. The keys then stand in the order of their first changes, and the entry of a key is what its
own changes make of it, taken in order and without the others. A ledger is therefore put together
from the ledgers of its groups, where a group is formed by the changes of one key.

The changes are data here: a list of events, with a key for each event, the entry it makes if there
is none, and what it does to an entry.

## Main definitions

* `Ledger.collect`: The ledger that events fill.
* `Ledger.total`: The entry that the events of one key make.

## Theorems

* `keys_alter`: A change adds its key at the end, unless it is there.
* `keys_collect`: The keys are the first occurrences of those of the events.
* `get?_collect`: The entry of a key is made by the events of that key alone.
* `forall_collect`: What every change keeps holds of all entries.
* `forall₂_collect`: The entries in order, each with what its events make.
* `collect_eq_flatMap`: A ledger is put together from those of its groups.
* `perm_groups`: Groups are made of the same events, each of them once.
-/

namespace Mise

section FirstOccurrences

variable {κ : Type} [DecidableEq κ]

/-- The first occurrences among keys, after one more key. -/
theorem eraseDups_concat (keys : List κ) (key : κ) :
    (keys ++ [key]).eraseDups
      = if key ∈ keys then keys.eraseDups else keys.eraseDups ++ [key] := by
  rw [List.eraseDups_append]
  by_cases h : key ∈ keys
  · have hcontains : keys.elem key = true := List.elem_eq_true_of_mem h
    simp only [List.removeAll, List.filter_cons, List.filter_nil, hcontains, Bool.not_true,
      Bool.false_eq_true, if_false, if_pos h, List.eraseDups_nil, List.append_nil]
  · have hcontains : keys.elem key = false := by
      rw [← Bool.not_eq_true, List.elem_iff]
      exact h
    simp only [List.removeAll, List.filter_cons, List.filter_nil, hcontains, Bool.not_false,
      if_true, if_neg h, List.eraseDups_cons, List.eraseDups_nil]

theorem nodup_eraseDups (keys : List κ) : keys.eraseDups.Nodup := by
  induction keys using List.reverseRecOn with
  | nil => exact List.nodup_nil
  | append_singleton keys key ih =>
      rw [eraseDups_concat]
      by_cases h : key ∈ keys
      · rw [if_pos h]
        exact ih
      · rw [if_neg h]
        refine List.nodup_append.2 ⟨ih, List.nodup_singleton key, fun other hother last hlast => ?_⟩
        -- A key that is new is none of those before it.
        rw [List.mem_singleton.1 hlast]
        rintro rfl
        exact h (List.mem_eraseDups.1 hother)

end FirstOccurrences

section Groups

variable {κ ε : Type} [DecidableEq κ]

/-- Two tests that never agree select together what one or the other selects. -/
theorem perm_filter_or {p q : ε → Bool} (h : ∀ e, p e → q e = false) (events : List ε) :
    (events.filter p ++ events.filter q).Perm (events.filter fun e => p e || q e) := by
  have hfirst : (events.filter fun e => p e || q e).filter p = events.filter p := by
    rw [List.filter_filter]
    refine List.filter_congr fun e _ => ?_
    cases p e <;> simp only [Bool.true_or, Bool.and_self, Bool.false_and]
  have hsecond : (events.filter fun e => p e || q e).filter (fun e => !p e) = events.filter q := by
    rw [List.filter_filter]
    refine List.filter_congr fun e _ => ?_
    cases hp : p e with
    | false => simp only [Bool.not_false, Bool.false_or, Bool.true_and]
    | true => simp only [h e hp, Bool.not_true, Bool.false_and]
  have hsplit := List.filter_append_perm p (events.filter fun e => p e || q e)
  rwa [hfirst, hsecond] at hsplit

theorem perm_groups_of_nodup (key? : ε → Option κ) {keys : List κ} (h : keys.Nodup)
    (events : List ε) :
    (keys.flatMap fun k => events.filter fun e => key? e = some k).Perm
      (events.filter fun e => (key? e).any fun k => k ∈ keys) := by
  induction keys with
  | nil =>
      have hnone : (events.filter fun e => (key? e).any fun k => k ∈ ([] : List κ)) = [] := by
        refine List.filter_eq_nil_iff.2 fun e _ => ?_
        cases key? e <;> simp only [Option.any_none, Option.any_some, List.not_mem_nil,
          decide_false, Bool.false_eq_true, not_false_eq_true]
      rw [hnone]
      exact .nil
  | cons key keys ih =>
      rcases List.nodup_cons.1 h with ⟨hnew, hkeys⟩
      -- The group of the new key is apart from those of all other keys.
      have hapart : ∀ e, decide (key? e = some key) = true →
          ((key? e).any fun k => decide (k ∈ keys)) = false := by
        intro e he
        rw [of_decide_eq_true he, Option.any_some, decide_eq_false hnew]
      have hboth := perm_filter_or hapart events
      have htest : (events.filter fun e => (key? e).any fun k => k ∈ key :: keys)
          = events.filter fun e =>
              decide (key? e = some key) || (key? e).any fun k => k ∈ keys := by
        refine List.filter_congr fun e _ => ?_
        cases key? e with
        | none => rfl
        | some k => simp only [Option.any_some, List.mem_cons, Bool.decide_or, Option.some.injEq]
      rw [List.flatMap_cons, htest]
      exact ((ih hkeys).append_left _).trans hboth

/-- Groups are made of the same events as all of them together, each of them once. Events without
    a key are in no group. -/
theorem perm_groups (key? : ε → Option κ) (events : List ε) :
    ((events.filterMap key?).eraseDups.flatMap fun k =>
        events.filter fun e => key? e = some k).Perm
      (events.filter fun e => (key? e).isSome) := by
  have hall : (events.filter fun e => (key? e).isSome)
      = events.filter fun e => (key? e).any fun k => k ∈ (events.filterMap key?).eraseDups := by
    refine List.filter_congr fun e he => ?_
    cases hkey : key? e with
    | none => rfl
    | some k =>
        have hmem : k ∈ (events.filterMap key?).eraseDups :=
          List.mem_eraseDups.2 (List.mem_filterMap.2 ⟨e, he, hkey⟩)
        rw [Option.isSome_some, Option.any_some, decide_eq_true hmem]
  rw [hall]
  exact perm_groups_of_nodup key? (nodup_eraseDups _) events

end Groups

namespace Ledger

@[simp] theorem keys_cons {κ α : Type} (head : κ × α) (tail : Ledger κ α) :
    keys (head :: tail) = head.1 :: keys tail := rfl

variable {κ α ε : Type} [DecidableEq κ]

/-- A change adds its key at the end, unless it is there. -/
theorem keys_alter (l : Ledger κ α) (key : κ) (fresh : α) (change : α → α) :
    (l.alter key fresh change).keys = if key ∈ l.keys then l.keys else l.keys ++ [key] := by
  induction l with
  | nil => rfl
  | cons head tail ih =>
      rw [alter, keys_cons]
      by_cases h : head.1 = key
      · rw [if_pos h, keys_cons, h, if_pos List.mem_cons_self]
      · rw [if_neg h, keys_cons, ih]
        have hmem : key ∈ head.1 :: keys tail ↔ key ∈ keys tail := by
          rw [List.mem_cons, or_iff_right (Ne.symm h)]
        by_cases htail : key ∈ keys tail
        · rw [if_pos htail, if_pos (hmem.2 htail)]
        · rw [if_neg htail, if_neg (hmem.not.2 htail), List.cons_append]

/-- Two changes of one entry in a row are one change. -/
theorem alter_alter (l : Ledger κ α) (key : κ) (fresh fresh' : α) (first second : α → α) :
    (l.alter key fresh first).alter key fresh' second
      = l.alter key fresh fun a => second (first a) := by
  induction l with
  | nil => simp only [alter, if_true]
  | cons head tail ih =>
      simp only [alter]
      by_cases h : head.1 = key
      · simp only [if_pos h, alter, if_true]
      · simp only [if_neg h, alter, ih]

/-- A ledger without repeated keys is told by its keys and by what it has for each. -/
theorem eq_flatMap_get? {l : Ledger κ α} (h : l.keys.Nodup) :
    l = l.keys.flatMap fun key => ((l.get? key).map fun value => (key, value)).toList := by
  induction l with
  | nil => rfl
  | cons head tail ih =>
      rcases List.nodup_cons.1 h with ⟨hnew, htail⟩
      rw [keys_cons, List.flatMap_cons, get?, lookup_cons_ite, if_pos rfl, Option.map_some,
        Option.toList_some, List.singleton_append]
      refine congrArg (head :: ·) ((ih htail).trans (List.flatMap_congr fun key hkey => ?_))
      -- The head has another key than all that come after it.
      have hne : key ≠ head.1 := fun heq => hnew (heq ▸ hkey)
      rw [get?, get?, lookup_cons_ite, if_neg hne]

/-- What is in a ledger without repeated keys is found under its key. -/
theorem get?_of_mem {l : Ledger κ α} (h : l.keys.Nodup) {key : κ} {value : α}
    (hmem : (key, value) ∈ l) : l.get? key = some value := by
  induction l with
  | nil => exact absurd hmem List.not_mem_nil
  | cons head tail ih =>
      rcases List.nodup_cons.1 h with ⟨hnew, htail⟩
      rw [get?, lookup_cons_ite]
      rcases List.mem_cons.1 hmem with rfl | hrest
      · rw [if_pos rfl]
      · have hne : key ≠ head.1 := fun heq => hnew (heq ▸ List.mem_map_of_mem hrest)
        rw [if_neg hne]
        exact ih htail hrest

variable (key : ε → κ) (fresh : ε → α) (change : ε → α → α)

/-- The ledger that events fill, each by a change of the entry of its key. -/
def collect (events : List ε) : Ledger κ α :=
  events.foldl (fun l e => l.alter (key e) (fresh e) (change e)) []

/-- The entry that the events of one key make: the first of them makes it, and all change it in
    order. -/
def total : List ε → Option α
  | [] => none
  | first :: rest => some ((first :: rest).foldl (fun a e => change e a) (fresh first))

theorem collect_concat (events : List ε) (e : ε) :
    collect key fresh change (events ++ [e])
      = (collect key fresh change events).alter (key e) (fresh e) (change e) :=
  List.foldl_concat _ _ _ _

theorem mem_alter {l : Ledger κ α} {k : κ} {new : α} {f : α → α} {entry : κ × α}
    (h : entry ∈ l.alter k new f) :
    entry ∈ l ∨ entry.2 = f new ∨ ∃ old ∈ l, entry.2 = f old.2 := by
  induction l with
  | nil =>
      rw [alter] at h
      exact Or.inr (Or.inl (congrArg Prod.snd (List.mem_singleton.1 h)))
  | cons head tail ih =>
      rw [alter] at h
      by_cases hkey : head.1 = k
      · rw [if_pos hkey] at h
        rcases List.mem_cons.1 h with rfl | htail
        · exact Or.inr (Or.inr ⟨head, List.mem_cons_self, rfl⟩)
        · exact Or.inl (List.mem_cons_of_mem head htail)
      · rw [if_neg hkey] at h
        rcases List.mem_cons.1 h with rfl | htail
        · exact Or.inl List.mem_cons_self
        · rcases ih htail with hold | hnew | ⟨old, hold, heq⟩
          · exact Or.inl (List.mem_cons_of_mem head hold)
          · exact Or.inr (Or.inl hnew)
          · exact Or.inr (Or.inr ⟨old, List.mem_cons_of_mem head hold, heq⟩)

/-- What holds of fresh entries and is kept by every change holds of all entries. -/
theorem forall_collect {P : α → Prop} {events : List ε} (hfresh : ∀ e ∈ events, P (fresh e))
    (hchange : ∀ e a, P a → P (change e a)) :
    ∀ entry ∈ collect key fresh change events, P entry.2 := by
  induction events using List.reverseRecOn with
  | nil => exact fun entry h => absurd h List.not_mem_nil
  | append_singleton events e ih =>
      have hbefore := ih fun other hmem => hfresh other (List.mem_append_left _ hmem)
      have hnew := hfresh e (List.mem_append_right _ (List.mem_singleton_self e))
      intro entry hentry
      rw [collect_concat] at hentry
      rcases mem_alter hentry with hold | hmade | ⟨old, hold, hmade⟩
      · exact hbefore entry hold
      · rw [hmade]
        exact hchange e _ hnew
      · rw [hmade]
        exact hchange e _ (hbefore old hold)

theorem total_concat (events : List ε) (e : ε) :
    total fresh change (events ++ [e])
      = some (change e ((total fresh change events).getD (fresh e))) := by
  cases events with
  | nil => rfl
  | cons first rest =>
      rw [List.cons_append, total, total, Option.getD_some, ← List.cons_append, List.foldl_concat]

/-- The keys are the first occurrences of those of the events. -/
theorem keys_collect (events : List ε) :
    (collect key fresh change events).keys = (events.map key).eraseDups := by
  induction events using List.reverseRecOn with
  | nil => rfl
  | append_singleton events e ih =>
      rw [collect_concat, keys_alter, ih, List.map_append, List.map_singleton, eraseDups_concat]
      simp only [List.mem_eraseDups]

/-- The entry of a key is made by the events of that key alone. -/
theorem get?_collect (events : List ε) (k : κ) :
    (collect key fresh change events).get? k
      = total fresh change (events.filter fun e => key e = k) := by
  induction events using List.reverseRecOn with
  | nil => rfl
  | append_singleton events e ih =>
      rw [collect_concat, get?_alter, List.filter_append]
      by_cases h : k = key e
      · have hsame : [e].filter (fun e => key e = k) = [e] := by
          rw [List.filter_singleton, decide_eq_true h.symm]
          rfl
        rw [if_pos h, hsame, total_concat, ← ih, h]
      · have hother : [e].filter (fun e => key e = k) = [] := by
          rw [List.filter_singleton, decide_eq_false (Ne.symm h)]
          rfl
        rw [if_neg h, hother, List.append_nil, ih]

theorem nodup_keys_collect (events : List ε) : (collect key fresh change events).keys.Nodup := by
  rw [keys_collect]
  exact nodup_eraseDups _

/-- There is one entry for each key, in the order in which the keys first came up, and it is made by
    the events of that key. -/
theorem forall₂_collect (events : List ε) :
    List.Forall₂ (fun k entry => entry.1 = k
        ∧ total fresh change (events.filter fun e => key e = k) = some entry.2)
      (events.map key).eraseDups (collect key fresh change events) := by
  rw [← keys_collect key fresh change, keys, List.forall₂_map_left_iff, List.forall₂_same]
  intro entry hentry
  refine ⟨rfl, ?_⟩
  rw [← get?_collect]
  exact get?_of_mem (nodup_keys_collect key fresh change events) hentry

/-- Where all entries start alike, the entry of a key is a pass over its events. -/
theorem collect_eq_map (start : α) (events : List ε) :
    collect key (fun _ => start) change events
      = (events.map key).eraseDups.map fun k =>
          (k, (events.filter fun e => key e = k).foldl (fun a e => change e a) start) := by
  have hentries : List.Forall₂ (· = ·)
      ((events.map key).eraseDups.map fun k =>
        (k, (events.filter fun e => key e = k).foldl (fun a e => change e a) start))
      (collect key (fun _ => start) change events) := by
    rw [List.forall₂_map_left_iff]
    refine (forall₂_collect key (fun _ => start) change events).imp fun k entry h => ?_
    rcases h with ⟨hkey, htotal⟩
    cases hgroup : events.filter fun e => key e = k with
    | nil =>
        rw [hgroup] at htotal
        cases htotal
    | cons first rest =>
        rw [hgroup] at htotal
        exact Prod.ext hkey.symm (Option.some.inj htotal)
  rw [List.forall₂_eq_eq_eq] at hentries
  exact hentries.symm

/-- The events of one key fill a single entry. -/
theorem collect_of_same {events : List ε} {k : κ} (h : ∀ e ∈ events, key e = k) :
    collect key fresh change events
      = ((total fresh change events).map fun value => (k, value)).toList := by
  induction events using List.reverseRecOn with
  | nil => rfl
  | append_singleton events e ih =>
      have hbefore := ih fun other hother => h other (List.mem_append_left _ hother)
      have hkey : key e = k := h e (List.mem_append_right _ (List.mem_singleton_self e))
      rw [collect_concat, hbefore, total_concat, hkey]
      cases total fresh change events with
      | none => rfl
      | some value =>
          simp only [Option.map_some, Option.toList_some, alter, if_true, Option.getD_some]

/-- A ledger is put together from those of its groups, in the order in which the keys first came
    up. -/
theorem collect_eq_flatMap (events : List ε) :
    collect key fresh change events
      = (events.map key).eraseDups.flatMap fun k =>
          collect key fresh change (events.filter fun e => key e = k) := by
  rw [eq_flatMap_get? (nodup_keys_collect key fresh change events), keys_collect]
  refine List.flatMap_congr fun k _ => ?_
  have hgroup : ∀ e ∈ events.filter (fun e => key e = k), key e = k := fun e he =>
    of_decide_eq_true (List.mem_filter.1 he).2
  rw [collect_of_same key fresh change hgroup, get?_collect]

end Ledger

end Mise
