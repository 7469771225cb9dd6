/-!
# Runs of Spellings

A transliteration table lists, for stretches of neighbouring code points, the ASCII spelling of
each. A stretch is a `Run`: its first code point and the spellings from there on. Looking a
character up asks each run in turn whether it reaches that far.

## Main definitions

* `Run`: A first code point and the spellings that follow.
* `Run.spelling?`: The spelling a run gives a code point.
* `spellingIn?`: The first run of a table that covers a code point answers.
-/

namespace Mise

namespace Transliteration

/-- A first code point and the spellings of it and its successors. -/
abbrev Run := Nat × List String

/-- The spelling a run gives a code point, if the run covers it. -/
def Run.spelling? (run : Run) (n : Nat) : Option String :=
  if run.1 ≤ n then run.2[n - run.1]? else none

/-- The spelling of a code point in the first run of a table that covers it. -/
def spellingIn? (table : List Run) (n : Nat) : Option String :=
  table.findSome? (Run.spelling? · n)

end Transliteration

end Mise
