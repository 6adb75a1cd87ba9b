import GrowthGrammar.Vocabulary

/-!
# Rules

A rule replaces its predecessor by its successor where its left context ends
what stands before and its right context begins what stands after.  An absent
context is an empty one.  The weight is its share when several rules apply.

A rule is built from parts that may be anything (`Rule.ofParts`): each part is
looked at in order, predecessor, successor, left context, right context, weight,
and the first wrong one is reported.  `Rule.read` builds one from text.
-/

namespace GrowthGrammar

/-- A weighted rule with contexts. -/
structure Rule where
  /-- The symbol that is replaced. -/
  predecessor : Symbol
  /-- What it becomes. -/
  successor : Word
  /-- What has to stand before it. -/
  left : Word
  /-- What has to stand after it. -/
  right : Word
  /-- Its share among several rules. -/
  weight : Float

namespace Rule

/-! ## Views of a rule -/

/-- The length of the contexts together. -/
def specificity (r : Rule) : Nat := r.left.length + r.right.length

/-- The rule asks for no context. -/
def ignoresContext (r : Rule) : Bool := r.specificity == 0

/-- Every symbol of the rule: predecessor, contexts, successor. -/
def symbols (r : Rule) : Word := r.predecessor :: (r.left ++ r.right ++ r.successor)

/-- The two rules have the same codes and the same weight. -/
def same (r s : Rule) : Bool :=
  r.predecessor.same s.predecessor && Word.same r.successor s.successor
    && Word.same r.left s.left && Word.same r.right s.right && r.weight == s.weight

/-! ## Where a rule applies -/

/-- The contexts fit between two words. -/
def fits (r : Rule) (before after : Word) : Bool :=
  Word.isEndOf r.left before && Word.isStartOf r.right after

/-- The rule applies to the symbol at a position of a word. -/
def appliesAt (r : Rule) (w : Word) (position : Int) : Bool :=
  if position < 0 then false
  else
    match w[position.toNat]? with
    | none => false
    | some s =>
      s.same r.predecessor && r.fits (w.take position.toNat) (w.drop (position.toNat + 1))

/-! ## Text -/

/-- The tokens before the arrow. -/
def headTokens (r : Rule) : List String :=
  (if r.left.isEmpty then [] else Word.names r.left ++ [Name.leftMark])
    ++ r.predecessor.name
    :: (if r.right.isEmpty then [] else Name.rightMark :: Word.names r.right)

/-- The tokens after the arrow.  A weight of one is not written. -/
def bodyTokens (r : Rule) : List String :=
  (if r.weight != 1.0 then [Decimal.exact r.weight] else []) ++ Word.names r.successor

/-- The text of a rule. -/
def text (r : Rule) : String :=
  " ".intercalate (r.headTokens ++ "->" :: r.bodyTokens)

/-! ## Building rules -/

/-- A weight has to be finite and not negative. -/
def checkWeight (weight : Float) : Except Error Float :=
  if !weight.isFinite || weight < 0 then .error (.settings (.weightRange weight))
  else .ok weight

/-- The weight that a datum gives: a number, a truth value or a text that writes
a number. -/
def weightOfDatum : Datum → Except Error Float
  | .bool b => .ok (if b then 1 else 0)
  | .int n =>
    match Decimal.Binary64.ofInt? n with
    | some x => .ok x
    | none => .error .overflow
  | .real x => .ok x
  | .text s =>
    match Decimal.readReal s.toList with
    | some x => .ok x
    | none => .error (.settings (.weightKind (Datum.text s).shown))
  | d => .error (d.refused fun shown => .settings (.weightKind shown))

/-- A rule with a weight that is checked. -/
def make (predecessor : Symbol) (successor left right : Word) (weight : Float) :
    Except Error Rule := do
  let weight ← checkWeight weight
  return ⟨predecessor, successor, left, right, weight⟩

/-- What may stand where symbols should. -/
inductive Parts
  /-- A draft. -/
  | list (draft : Draft)
  /-- A datum, whose characters or field names are the parts. -/
  | datum (d : Datum)

/-- The parts one after the other, if there are such. -/
def Parts.members : Parts → Except Error Draft
  | .list draft => .ok draft
  | .datum (.list items) => .ok (items.map .datum)
  | .datum (.text s) => .ok ((Text.places s).map fun t => .datum (.text t))
  | .datum (.record fields) => .ok (fields.map fun f => .datum (.text f.1))
  | .datum _ => .error .wrongType

/-- The symbols of some parts.  `role` is the word for them in a message. -/
def symbolsOfParts (role : String) : Draft → Except Error Word
  | [] => .ok []
  | .symbol s :: rest => (symbolsOfParts role rest).map (s :: ·)
  | .datum d :: _ => .error (d.refused fun shown => .parse (.memberKind role shown))

/-- The symbols of a part of a rule. -/
def wordOfParts (role : String) (parts : Parts) : Except Error Word := do
  symbolsOfParts role (← parts.members)

/-- The symbols of a context, which may be absent. -/
def contextOfParts (role : String) : Parts → Except Error Word
  | .datum .null => .ok []
  | parts => wordOfParts role parts

/-- A rule from parts that may be anything. -/
def ofParts (predecessor : Part) (successor left right : Parts) (weight : Datum) :
    Except Error Rule := do
  let predecessor ←
    match predecessor with
    | .symbol s => pure s
    | .datum d => .error (d.refused fun shown => .parse (.predecessorKind shown))
  let successor ← wordOfParts "successor" successor
  let left ← contextOfParts "left context" left
  let right ← contextOfParts "right context" right
  let weight ← weightOfDatum weight
  make predecessor successor left right weight

/-! ## Reading rules -/

/-- The rule that some names write.  The names are entered in the order
predecessor, successor, left context, right context. -/
def ofWritten (written : WrittenRule) : Step NameTable Rule := do
  let predecessor ← NameTable.enter written.head.predecessor
  let successor ← NameTable.enterAll written.body.successor
  let left ← NameTable.enterAll written.head.left
  let right ← NameTable.enterAll written.head.right
  ExceptT.mk (pure (make predecessor successor left right written.body.weight))

/-- The rule that a text writes. -/
def read (text : String) : Step NameTable Rule := do
  ofWritten (← NameTable.ofWritten (WrittenRule.ofText text.toList))

/-- The left context, predecessor and right context that a text writes. -/
def readHead (text : String) : Step NameTable (Word × Symbol × Word) := do
  let head ← NameTable.ofWritten (Head.ofText text.toList)
  let left ← NameTable.enterAll head.left
  let predecessor ← NameTable.enter head.predecessor
  let right ← NameTable.enterAll head.right
  return (left, predecessor, right)

/-- The weight and the successor that a text writes. -/
def readBody (text : String) : Step NameTable (Float × Word) := do
  let body ← NameTable.ofWritten (Body.ofText text.toList)
  let successor ← NameTable.enterAll body.successor
  return (body.weight, successor)

end Rule

end GrowthGrammar
