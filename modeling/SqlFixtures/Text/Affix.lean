/-!
# Beginnings and endings

A text begins or ends with another if it is that other text with something after or before it,
possibly nothing.
-/

namespace SqlFixtures.Text

def beginsWith (beginning text : String) : Bool := beginning.toList.isPrefixOf text.toList

def endsWith (ending text : String) : Bool := ending.toList.isSuffixOf text.toList

end SqlFixtures.Text
