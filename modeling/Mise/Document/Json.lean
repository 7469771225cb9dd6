import Mise.Document.Decode
import Mise.Json.Reader

/-!
# Documents as JSON Texts

A document may be given as a JSON text. Members of the root that are no fields of a document are
passed over without reading what they say.

## Main definitions

* `Recipe.ofJson?`: The document that a JSON text is.
-/

namespace Mise

/-- The document that a JSON text is. -/
def Recipe.ofJson? (text : String) : Option Recipe :=
  (Json.readMembers? recipeFields text).bind Recipe.ofData?

end Mise
