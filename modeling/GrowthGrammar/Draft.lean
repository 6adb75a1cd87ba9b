import GrowthGrammar.Datum.Sameness
import GrowthGrammar.Error

/-!
# Drafts

Where a symbol is expected anything may be given.  A *part* is a symbol or a datum
in the place of one, and a *draft* is a sequence of parts.  Every word is a draft
(`Draft.ofWord`), and a draft without data is a word (`Draft.word`).

A datum is never the same as a symbol, so no rule replaces it and no context
reaches past it.  A draft is therefore a word followed by data, each with the word
after it (`Draft.segments`), and each of these words stands alone.
-/

namespace GrowthGrammar

/-- What may stand where a symbol should. -/
inductive Part
  /-- A symbol. -/
  | symbol (s : Symbol)
  /-- Anything else. -/
  | datum (d : Datum)

namespace Part

/-- The symbol that a part is. -/
def asSymbol : Part → Except Error Symbol
  | .symbol s => .ok s
  | .datum _ => .error .notRecord

/-- A part as it is written alone. -/
def text : Part → Except Error String
  | .symbol s => .ok s.name
  | .datum d => d.written

/-- The two parts are the same.  Symbols are compared by their codes. -/
def same : Part → Part → Bool
  | .symbol s, .symbol t => s.same t
  | .datum a, .datum b => a.same b
  | _, _ => false

end Part

/-- A sequence of parts. -/
abbrev Draft := List Part

namespace Draft

/-- A word as a draft. -/
def ofWord (w : Word) : Draft := w.map .symbol

/-- The word before the first datum, and every datum with the word after it. -/
def segments (d : Draft) : Word × List (Datum × Word) :=
  d.foldr
    (fun part (w, rest) =>
      match part with
      | .symbol s => (s :: w, rest)
      | .datum x => ([], (x, w) :: rest))
    ([], [])

/-- The symbols before the first datum. -/
def leading (d : Draft) : Word := d.segments.1

/-- The symbols after the last datum. -/
def trailing (d : Draft) : Word :=
  (d.segments.2.getLast?.map Prod.snd).getD d.segments.1

/-- The word that a draft is. -/
def word (d : Draft) : Except Error Word :=
  match d.segments with
  | (w, []) => .ok w
  | (_, _ :: _) => .error .notRecord

/-- The two drafts agree part by part. -/
def same : Draft → Draft → Bool
  | [], [] => true
  | p :: ps, q :: qs => p.same q && same ps qs
  | _, _ => false

/-! ## Tests -/

example : (segments [.symbol ⟨0, "X"⟩, .datum .null, .symbol ⟨1, "Y"⟩]) =
    ([⟨0, "X"⟩], [(.null, [⟨1, "Y"⟩])]) := rfl

end Draft

end GrowthGrammar
