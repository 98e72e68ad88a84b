/-!
# Elements

An element has a tag, attributes in order, the text in front of its first child, and its children.
-/

namespace SqlFixtures.Xml

structure Element where
  tag : String
  attributes : List (String × String)
  text : String
  children : List Element
  deriving Inhabited

end SqlFixtures.Xml
