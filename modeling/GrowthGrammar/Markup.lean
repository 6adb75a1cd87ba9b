/-!
# Markup

A document is one element.  An element has a tag, attributes in order and either
children or nothing at all, which is written differently from having no
children: `<a/>` and `<a></a>`.

The value of an attribute stands in double quotes, or in single quotes if it
holds double quotes and no single ones.  What could end the value or be taken
for markup is escaped, and so are line breaks and tabs, which a reader would
turn into spaces.
-/

namespace GrowthGrammar

/-- An element of a document. -/
inductive Element
  /-- An element without content. -/
  | leaf (tag : String) (attributes : List (String × String))
  /-- An element around some elements. -/
  | node (tag : String) (attributes : List (String × String)) (children : List Element)

namespace Element

/-! ## Values of attributes -/

/-- A character of a value between some quotes. -/
def escape (quote c : Char) : List Char :=
  if c == '&' then "&amp;".toList
  else if c == '<' then "&lt;".toList
  else if c == '>' then "&gt;".toList
  else if c == '\n' then "&#10;".toList
  else if c == '\r' then "&#13;".toList
  else if c == '\t' then "&#9;".toList
  else if c == quote then "&quot;".toList
  else [c]

/-- The quotes around a value. -/
def quoteOf (value : List Char) : Char :=
  if value.contains '"' && !value.contains '\'' then '\'' else '"'

/-- A value in quotes. -/
def quoteValue (value : List Char) : List Char :=
  let quote := quoteOf value
  quote :: value.flatMap (escape quote) ++ [quote]

/-- The attributes of an element, each after a space. -/
def writeAttributes : List (String × String) → List Char
  | [] => []
  | (name, value) :: rest =>
    ' ' :: name.toList ++ '=' :: quoteValue value.toList ++ writeAttributes rest

/-! ## Elements -/

mutual

/-- The text of an element. -/
def write : Element → List Char
  | .leaf tag attributes => '<' :: tag.toList ++ writeAttributes attributes ++ ['/', '>']
  | .node tag attributes children =>
    '<' :: tag.toList ++ writeAttributes attributes ++ '>' :: writeAll children
      ++ '<' :: '/' :: tag.toList ++ ['>']

/-- The text of some elements, one after the other. -/
def writeAll : List Element → List Char
  | [] => []
  | e :: rest => write e ++ writeAll rest

end

/-- The text of a document. -/
def document (e : Element) : String := String.ofList (write e)

end Element

end GrowthGrammar
