import Mise.Dictionary
import Mise.Proofs.Ledger.Group

/-!
# Insertions

A dictionary that is made of a list of entries says of a key what the last entry with it says. So
only that entry matters, and nothing that is said of other keys. From this follows how dictionaries
are laid over one another: it does not matter whether the entries are inserted in one go or whether
two dictionaries are made of them and laid over each other, and not in which order several of them
are laid over.

## Main definitions

* `lastOf?`: The value that a list of entries gives a key last.

## Theorems

* `get?_ofList`: The last entry of a key counts.
* `mem_keys_ofList`, `size_ofList`: A dictionary has the keys of its entries, each once.
* `overlay_assoc`, `overlay_empty`, `empty_overlay`: The laws of laying over.
* `ofList_append`: Entries that follow others are laid over them.
-/

namespace Mise

/-- The value that a list of entries gives a key last. -/
def lastOf? {α : Type} (es : List (String × α)) (key : String) : Option α :=
  (es.filter fun e => e.1 = key).getLast?.map Prod.snd

section Last

variable {α : Type} (key : String)

theorem lastOf?_concat (es : List (String × α)) (e : String × α) :
    lastOf? (es ++ [e]) key = if key = e.1 then some e.2 else lastOf? es key := by
  rw [lastOf?, List.filter_append, List.filter_singleton]
  by_cases h : key = e.1
  · rw [if_pos h, decide_eq_true h.symm, cond_true, List.getLast?_concat, Option.map_some]
  · rw [if_neg h, decide_eq_false (Ne.symm h), cond_false, List.append_nil, lastOf?]

theorem lastOf?_append (es fs : List (String × α)) :
    lastOf? (es ++ fs) key = (lastOf? fs key).or (lastOf? es key) := by
  rw [lastOf?, List.filter_append, List.getLast?_append, Option.map_or, lastOf?, lastOf?]

/-- A list gives a key something exactly if it has an entry with the key. -/
theorem isSome_lastOf? (es : List (String × α)) :
    (lastOf? es key).isSome ↔ key ∈ es.map Prod.fst := by
  rw [lastOf?, Option.isSome_map, List.getLast?_isSome, Ne, List.filter_eq_nil_iff, List.mem_map]
  simp only [decide_eq_true_eq, not_forall, not_not, exists_prop]

theorem mem_of_lastOf? {es : List (String × α)} {key : String} {x : α}
    (h : lastOf? es key = some x) : (key, x) ∈ es := by
  rcases Option.map_eq_some_iff.1 h with ⟨e, he, rfl⟩
  rcases List.mem_filter.1 (List.mem_of_getLast? he) with ⟨hmem, hkey⟩
  exact of_decide_eq_true hkey ▸ hmem

end Last

namespace Dictionary

variable {α : Type}

/-- The last entry of a key counts. -/
theorem get?_ofList (es : List (String × α)) (key : String) :
    (ofList es).get? key = lastOf? es key := by
  induction es using List.reverseRecOn with
  | nil => rfl
  | append_singleton es e ih =>
      rw [ofList, List.foldl_concat, get?_insert, lastOf?_concat]
      exact congrArg (fun value => if key = e.1 then some e.2 else value) ih

theorem mem_keys_iff (d : Dictionary α) (key : String) : key ∈ d.keys ↔ (d.get? key).isSome :=
  Ledger.mem_keys_iff d.entries key

theorem nodup_keys (d : Dictionary α) : d.keys.Nodup := by
  rw [keys, List.Nodup, List.pairwise_map]
  exact d.ordered.imp fun h => String.ne_of_lt h

/-- A dictionary has the keys of the entries it is made of. -/
theorem mem_keys_ofList (es : List (String × α)) (key : String) :
    key ∈ (ofList es).keys ↔ key ∈ es.map Prod.fst := by
  rw [mem_keys_iff, get?_ofList, isSome_lastOf?]

/-- A dictionary has as many entries as there are different keys. -/
theorem size_ofList (es : List (String × α)) :
    (ofList es).size = (es.map Prod.fst).eraseDups.length := by
  have hperm : (ofList es).keys.Perm (es.map Prod.fst).eraseDups := by
    refine (List.perm_ext_iff_of_nodup (nodup_keys _) (nodup_eraseDups _)).2 fun key => ?_
    rw [mem_keys_ofList, List.mem_eraseDups]
  rw [← hperm.length_eq, keys, List.length_map, size]

/-- Laying over is associative. -/
theorem overlay_assoc (a b c : Dictionary α) :
    (a.overlay b).overlay c = a.overlay (b.overlay c) := by
  refine ext_get? fun key => ?_
  rw [get?_overlay, get?_overlay, get?_overlay, get?_overlay, Option.or_assoc]

@[simp] theorem overlay_empty (d : Dictionary α) : d.overlay empty = d := rfl

@[simp] theorem empty_overlay (d : Dictionary α) : (empty : Dictionary α).overlay d = d := by
  refine ext_get? fun key => ?_
  rw [get?_overlay, get?_empty, Option.or_none]

/-- Entries that follow others are laid over them. -/
theorem ofList_append (es fs : List (String × α)) :
    ofList (es ++ fs) = (ofList es).overlay (ofList fs) := by
  refine ext_get? fun key => ?_
  rw [get?_ofList, get?_overlay, get?_ofList, get?_ofList, lastOf?_append]

end Dictionary

end Mise
