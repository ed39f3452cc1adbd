/-!
# Letter case

Names are compared without regard to case, which only the letters of ASCII have
here.
-/

namespace Hotplug.Text

/-- The characters of a text, with the letters of ASCII in lower case. -/
def lowered (text : String) : List Char := text.toList.map Char.toLower

end Hotplug.Text
