import GrowthGrammar.Name

/-!
# Rules as text

A written rule is a head, an arrow and a body, each made of tokens:

* head: `name`, or `names < name`, or `name > names`, or `names < name > names`;
* body: an optional weight, and any number of names.

The text is cut at its first arrow.  `Head.ofTokens` and `Body.ofTokens` read
the two halves without looking into the names, and `WrittenRule.ofText` puts
them together and checks every name: those of the head from left to right, then
those of the body.  Nothing here knows the codes of names.
-/

namespace GrowthGrammar

/-- Why a text is no rule, its names apart. -/
inductive RuleFault
  /-- There is no text. -/
  | noText
  /-- There is no arrow. -/
  | noArrow (text : String)
  /-- Nothing stands before the arrow. -/
  | noHead
  /-- A context mark occurs twice. -/
  | repeatedMark (head : String)
  /-- The left mark has nothing before it. -/
  | emptyLeft (head : String)
  /-- The right mark has nothing after it. -/
  | emptyRight (head : String)
  /-- The right mark stands before the left one. -/
  | marksReversed (head : String)
  /-- The part between the contexts is not one name. -/
  | predecessorCount (head : String) (found : Nat)
  /-- The weight is a number that is not finite. -/
  | weightNotFinite (term : String)
  deriving DecidableEq, Repr

/-- The wording of a fault. -/
def RuleFault.message : RuleFault → String
  | .noText => "production text is empty"
  | .noArrow text => "not a production (missing '->'): " ++ Text.quoted text
  | .noHead => "production has no head"
  | .repeatedMark head =>
    "head " ++ Text.quoted head ++ " has more than one context marker on a side"
  | .emptyLeft head => "head " ++ Text.quoted head ++ " has an empty left context"
  | .emptyRight head => "head " ++ Text.quoted head ++ " has an empty right context"
  | .marksReversed head => "head " ++ Text.quoted head ++ " has '>' before '<'"
  | .predecessorCount head found =>
    "head " ++ Text.quoted head ++ " should name exactly one predecessor, found " ++ toString found
  | .weightNotFinite term => "weight " ++ Text.quoted term ++ " is not a finite number"

/-- Why a text is no word or no rule. -/
inductive WrittenFault
  /-- One of its names is none. -/
  | name (fault : NameFault)
  /-- It has not the shape of a rule. -/
  | rule (fault : RuleFault)
  deriving DecidableEq, Repr

/-- The wording of a fault. -/
def WrittenFault.message : WrittenFault → String
  | .name fault => fault.message
  | .rule fault => fault.message

/-- The tokens of a text. -/
def tokensOf (text : List Char) : List String :=
  (Text.tokens text).map String.ofList

/-- Check that some tokens are names. -/
def checkNames (names : List String) : Except WrittenFault Unit :=
  (Name.checkAll names).mapError .name

/-! ## Heads -/

/-- The names of a head.  A context without names is absent. -/
structure Head where
  /-- The left context. -/
  left : List String
  /-- The predecessor. -/
  predecessor : String
  /-- The right context. -/
  right : List String
  deriving DecidableEq, Repr

namespace Head

/-- The names of a head, from left to right. -/
def names (head : Head) : List String :=
  head.left ++ head.predecessor :: head.right

/-- The tokens before the first occurrence of a mark and those after it. -/
def cutAt (mark : String) : List String → Option (List String × List String)
  | [] => none
  | t :: ts =>
    if t == mark then some ([], ts)
    else (cutAt mark ts).map fun (before, after) => (t :: before, after)

/-- Cut off the left context. -/
def cutLeft (shown : String) (tokens : List String) :
    Except RuleFault (List String × List String) :=
  match cutAt Name.leftMark tokens with
  | none => .ok ([], tokens)
  | some ([], _) => .error (.emptyLeft shown)
  | some (left, rest) => .ok (left, rest)

/-- Cut off the right context. -/
def cutRight (shown : String) (tokens : List String) :
    Except RuleFault (List String × List String) :=
  match cutAt Name.rightMark tokens with
  | none => .ok (tokens, [])
  | some (_, []) => .error (.emptyRight shown)
  | some (middle, right) => .ok (middle, right)

/-- The head that some tokens write.  `shown` is the text that messages show. -/
def ofTokens (shown : String) (tokens : List String) : Except RuleFault Head :=
  if tokens.isEmpty then .error .noHead
  else if 1 < tokens.count Name.leftMark || 1 < tokens.count Name.rightMark then
    .error (.repeatedMark shown)
  else do
    let (left, rest) ← cutLeft shown tokens
    let (middle, right) ← cutRight shown rest
    if left.contains Name.rightMark then .error (.marksReversed shown)
    else
      match middle with
      | [predecessor] => .ok ⟨left, predecessor, right⟩
      | _ => .error (.predecessorCount shown middle.length)

/-- The head that a text writes, its names not checked. -/
def split (text : List Char) : Except WrittenFault Head :=
  (ofTokens (String.ofList (Text.trim text)) (tokensOf text)).mapError .rule

/-- The head that a text writes. -/
def ofText (text : List Char) : Except WrittenFault Head := do
  let head ← split text
  checkNames head.names
  return head

end Head

/-! ## Bodies -/

/-- The weight and the names of a body. -/
structure Body where
  /-- The weight, one if none is written. -/
  weight : Float
  /-- The names of the successor. -/
  successor : List String

namespace Body

/-- The body that some tokens write.  A first token that reads as a number is
the weight. -/
def ofTokens (tokens : List String) : Except RuleFault Body :=
  match tokens with
  | [] => .ok ⟨1.0, []⟩
  | term :: rest =>
    match Decimal.readReal term.toList with
    | none => .ok ⟨1.0, tokens⟩
    | some weight =>
      if weight.isFinite then .ok ⟨weight, rest⟩ else .error (.weightNotFinite term)

/-- The body that a text writes, its names not checked. -/
def split (text : List Char) : Except WrittenFault Body :=
  (ofTokens (tokensOf text)).mapError .rule

/-- The body that a text writes. -/
def ofText (text : List Char) : Except WrittenFault Body := do
  let body ← split text
  checkNames body.successor
  return body

end Body

/-! ## Rules -/

/-- A rule as names. -/
structure WrittenRule where
  /-- What stands before the arrow. -/
  head : Head
  /-- What stands after it. -/
  body : Body

namespace WrittenRule

/-- The rule that a text writes. -/
def ofText (text : List Char) : Except WrittenFault WrittenRule :=
  let text := Text.trim text
  if text.isEmpty then .error (.rule .noText)
  else
    match Name.splitArrow text with
    | none => .error (.rule (.noArrow (String.ofList text)))
    | some (before, after) => do
      let head ← Head.split before
      let body ← Body.split after
      checkNames (head.names ++ body.successor)
      return ⟨head, body⟩

end WrittenRule

end GrowthGrammar
