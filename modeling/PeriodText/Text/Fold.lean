import PeriodText.Text.Blank
import PeriodText.Text.Canonical
import PeriodText.Text.LowerCase

/-!
# Folded names

Month names are compared by their folded form: composed, without the white space at the ends, and
in lower case, in that order. The steps do not commute, so the folded form of a folded name may
differ from it: lower case can leave a text that composes further.
-/

set_option autoImplicit false

namespace PeriodText.Text

/-- The form under which two spellings of a name are the same. -/
def fold (word : List Char) : List Char := lower (strip (compose word))

end PeriodText.Text
