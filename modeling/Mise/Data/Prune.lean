import Mise.Data

/-!
# Pruning

Results are published without the parts that say nothing: nulls and empty lists disappear at every
depth, and a list that has lost all its items disappears with them. A record stays even when it is
empty, and so do zeros, `false` and empty texts.

## Main definitions

* `Data.prune`: The pruned form of data, or nothing if the data disappear.
-/

namespace Mise

namespace Data

mutual

/-- The pruned form of data, or nothing if the data disappear. -/
def prune : Data → Option Data
  | .null => none
  | .list items =>
    match pruneItems items with
    | [] => none
    | kept => some (.list kept)
  | .record fields => some (.record (pruneFields fields))
  | d => some d

/-- The items of a list that do not disappear, pruned. -/
def pruneItems : List Data → List Data
  | [] => []
  | d :: ds =>
    match prune d with
    | none => pruneItems ds
    | some kept => kept :: pruneItems ds

/-- The fields of a record whose values do not disappear, pruned. -/
def pruneFields : List (String × Data) → List (String × Data)
  | [] => []
  | f :: fs =>
    match pruneField f with
    | none => pruneFields fs
    | some kept => kept :: pruneFields fs

/-- A field with its value pruned, unless the value disappears. -/
def pruneField : String × Data → Option (String × Data)
  | (name, d) =>
    match prune d with
    | none => none
    | some kept => some (name, kept)

end

end Data

end Mise
