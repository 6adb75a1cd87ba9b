import GrowthGrammar.Decimal.Reader
import GrowthGrammar.Markup
import GrowthGrammar.Text.Halves

/-!
# Reading markup

A reader of documents that are one element, with elements and no text inside.  It takes less than
XML allows: names are ASCII, one space stands before an attribute and no other space stands in a
tag, and no value goes over the end of a line.  What it takes is a well-formed document, and it
finds in it what XML finds.  A value ends at the next quote of its kind and has no `<` inside.  Each
`&` begins a reference, to one of the five characters that have a name or to a character by its
number.  No two attributes of an element have one name, and an end tag closes the element that was
opened last.

A document is first cut into tags, and then the tags are put together to elements.
-/

namespace GrowthGrammar.Markup

/-! ## Characters and names -/

/-- The character may stand in a document. -/
def isLegal (c : Char) : Bool :=
  let n := c.toNat
  n == 0x9 || n == 0xa || n == 0xd || (0x20 ≤ n && n ≤ 0xfffd) || 0x10000 ≤ n

/-- The character may begin a name. -/
def isNameStart (c : Char) : Bool := c.isAlpha || c == '_' || c == ':'

/-- The character may stand in a name. -/
def isNameChar (c : Char) : Bool := isNameStart c || c.isDigit || c == '-' || c == '.'

/-- The text is a name. -/
def isName (name : List Char) : Bool := name.head?.any isNameStart && name.all isNameChar

/-- A name in front of a text, and the rest of the text. -/
def readName (cs : List Char) : Option (String × List Char) :=
  let name := cs.takeWhile isNameChar
  if isName name then some (String.ofList name, cs.dropWhile isNameChar) else none

/-! ## Values -/

/-- The character that a reference stands for. -/
def referent : List Char → Option Char
  | ['a', 'm', 'p'] => some '&'
  | ['l', 't'] => some '<'
  | ['g', 't'] => some '>'
  | ['q', 'u', 'o', 't'] => some '"'
  | ['a', 'p', 'o', 's'] => some '\''
  | '#' :: digits =>
    let n := Decimal.natOfDigits digits
    if !digits.isEmpty && digits.all Char.isDigit && decide n.isValidChar
        && isLegal (Char.ofNat n) then some (Char.ofNat n) else none
  | _ => none

/-- The character may stand in a value for itself. -/
def standsForItself (c : Char) : Bool :=
  isLegal c && c != '<' && c != '&' && c != '\t' && c != '\n' && c != '\r'

/-- The value that a text stands for, behind the characters of an unfinished reference, nearest
first. -/
def expandFrom : Option (List Char) → List Char → Option (List Char)
  | none, [] => some []
  | some _, [] => none
  | none, c :: cs =>
    if c == '&' then expandFrom (some []) cs
    else if standsForItself c then (expandFrom none cs).map (c :: ·)
    else none
  | some reference, c :: cs =>
    if c == ';' then
      match referent reference.reverse with
      | some d => (expandFrom none cs).map (d :: ·)
      | none => none
    else expandFrom (some (c :: reference)) cs

/-- The value that a text between quotes stands for. -/
def expand (cs : List Char) : Option (List Char) := expandFrom none cs

/-- A value in quotes in front of a text, and the rest of the text. -/
def readValue : List Char → Option (String × List Char)
  | [] => none
  | quote :: cs =>
    if quote == '"' || quote == '\'' then
      match expand (cs.takeWhile (· != quote)), cs.dropWhile (· != quote) with
      | some value, _ :: rest => some (String.ofList value, rest)
      | _, _ => none
    else none

/-! ## Tags -/

/-- As much as can be read of a text, piece by piece, and the rest of the text. -/
def readMany {α : Type} (read : List Char → Option (α × List Char)) (cs : List Char) :
    List α × List Char :=
  match read cs with
  | none => ([], cs)
  | some (a, rest) =>
    if rest.length < cs.length then
      let (more, left) := readMany read rest
      (a :: more, left)
    else ([], cs)
termination_by cs.length

/-- An attribute behind a space in front of a text, and the rest of the text. -/
def readAttribute : List Char → Option ((String × String) × List Char)
  | ' ' :: cs =>
    match readName cs with
    | some (name, '=' :: rest) => (readValue rest).map fun (value, left) => ((name, value), left)
    | _ => none
  | _ => none

/-- A tag of a document. -/
inductive Tag
  /-- An element without content. -/
  | empty (name : String) (attributes : List (String × String))
  /-- The start of an element. -/
  | start (name : String) (attributes : List (String × String))
  /-- The end of an element. -/
  | stop (name : String)

/-- The rest of an end tag in front of a text, and the rest of the text. -/
def readStop (cs : List Char) : Option (Tag × List Char) :=
  match readName cs with
  | some (name, '>' :: rest) => some (.stop name, rest)
  | _ => none

/-- The rest of any other tag in front of a text, and the rest of the text. -/
def readStart (cs : List Char) : Option (Tag × List Char) :=
  match readName cs with
  | none => none
  | some (name, rest) =>
    let (attributes, left) := readMany readAttribute rest
    if (attributes.map Prod.fst).Nodup then
      match left with
      | '/' :: '>' :: left => some (.empty name attributes, left)
      | '>' :: left => some (.start name attributes, left)
      | _ => none
    else none

/-- A tag in front of a text, and the rest of the text. -/
def readTag : List Char → Option (Tag × List Char)
  | '<' :: '/' :: cs => readStop cs
  | '<' :: cs => readStart cs
  | _ => none

/-! ## Elements -/

/-- An element whose end has not been read. -/
structure Opened where
  /-- The tag of the element. -/
  tag : String
  /-- Its attributes. -/
  attributes : List (String × String)
  /-- The elements beside it that were read before, last one first. -/
  before : List Element

/-- The elements that have been read. -/
structure Progress where
  /-- The elements in the innermost open element, last one first. -/
  done : List Element
  /-- The open elements, innermost first. -/
  opened : List Opened

/-- Read one more tag. -/
def Progress.take (p : Progress) : Tag → Option Progress
  | .empty name attributes => some ⟨.leaf name attributes :: p.done, p.opened⟩
  | .start name attributes => some ⟨[], ⟨name, attributes, p.done⟩ :: p.opened⟩
  | .stop name =>
    match p.opened with
    | [] => none
    | o :: rest =>
      if o.tag == name then some ⟨.node name o.attributes p.done.reverse :: o.before, rest⟩
      else none

/-- The element that some tags make up. -/
def build (tags : List Tag) : Option Element :=
  match tags.foldlM Progress.take ⟨[], []⟩ with
  | some ⟨[e], []⟩ => some e
  | _ => none

/-- The element that a document is, provided that its characters are whole. -/
def read (document : String) : Option Element :=
  if Text.hasHalf document.toList then none
  else
    match readMany readTag document.toList with
    | (tags, []) => build tags
    | _ => none

end GrowthGrammar.Markup
