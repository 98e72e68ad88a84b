/-!
# Opaque elements

A node is an XML element that this library hands on without reading it: its tag, its attributes
and child nodes in document order, and the text in front of the first child.  Nodes may be nested
to any depth; a limit that an interpreter sets to recursion is left out.
-/

namespace SqlFixtures.Record

structure Node where
  tag : String
  attributes : List (String × String)
  text : Option String
  children : List Node
  deriving Inhabited

namespace Node

def find? (node : Node) (tag : String) : Option Node := node.children.find? fun c => c.tag = tag

def findAll (node : Node) (tag : String) : List Node :=
  node.children.filter fun c => c.tag = tag

end Node

end SqlFixtures.Record
