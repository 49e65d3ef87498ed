import ForgottenEngine.NodeTrees

/-!
# The events of an XML reader

The registries are read with an XML library that is not part of the engine.  It turns the bytes of
a document into events: tags with their attributes, text, and the rest.  A parser of the engine is
a loop over these events, up to the end of the input or the first fault the reader reports.
-/

namespace ForgottenEngine

/-- An attribute: its value as it stands in the document, and with the references resolved. -/
structure XmlAttribute where
  key : String
  value : List UInt8
  normalizedValue : Except String String

/-- The attributes of a tag, each of which may turn out to be malformed when it is reached. -/
abbrev XmlAttributes := List (Except String XmlAttribute)

inductive XmlEvent where
  | start (name : String)
  | empty (name : String) (attributes : XmlAttributes)
  | stop (name : String)
  | text
  | comment
  | declaration
  | processingInstruction
  | docType
  /-- Character data sections and general references. -/
  | other

/-- A reader: the events of a document in front of its end, or the text of a fault. -/
abbrev XmlReader := List UInt8 → List (Except String XmlEvent)

end ForgottenEngine
