import GrowthGrammar.CommandLine.Program
import GrowthGrammar.Drawing.Axes
import GrowthGrammar.Fingerprint
import GrowthGrammar.Main
import GrowthGrammar.Proofs.CommandLine.Derive
import GrowthGrammar.Proofs.Derivation.Branches
import GrowthGrammar.Proofs.Derivation.Chance
import GrowthGrammar.Proofs.Derivation.Draws
import GrowthGrammar.Proofs.Derivation.Order
import GrowthGrammar.Proofs.Derivation.Outcome
import GrowthGrammar.Proofs.Derivation.Substitution
import GrowthGrammar.Proofs.Family
import GrowthGrammar.Proofs.NameTable.Interleaving
import GrowthGrammar.Proofs.Plant.Acceptance
import GrowthGrammar.Proofs.Plant.History
import GrowthGrammar.Proofs.Plant.Rearranged
import GrowthGrammar.Proofs.Rule.Grammar
import GrowthGrammar.Proofs.Rule.Refusal
import GrowthGrammar.Proofs.RuleStore.Answers
import GrowthGrammar.Proofs.System.Renaming
import GrowthGrammar.Proofs.Word
import GrowthGrammar.Proofs.Workspace.Locks
import GrowthGrammar.Proofs.Workspace.Siblings
import GrowthGrammar.Session
import GrowthGrammar.Slice
import GrowthGrammar.Turtle.Track
import GrowthGrammar.Proofs.Decimal.Words
import GrowthGrammar.Proofs.Drawing.Graph.Keys
import GrowthGrammar.Proofs.Datum.Json
import GrowthGrammar.Proofs.Decimal.Arithmetic
import GrowthGrammar.Proofs.Decimal.Order
import GrowthGrammar.Proofs.Drawing.Coordinate
import GrowthGrammar.Proofs.Drawing.Fit
import GrowthGrammar.Proofs.Drawing.Graph.BySource
import GrowthGrammar.Proofs.Drawing.Graph.Document
import GrowthGrammar.Proofs.Drawing.Graph.Reachable
import GrowthGrammar.Proofs.Drawing.Printed
import GrowthGrammar.Proofs.Turtle.Heading
import GrowthGrammar.Proofs.Turtle.Outcome
import GrowthGrammar.Proofs.Turtle.Transparency
import GrowthGrammar.Proofs.Drawing.Lines
import GrowthGrammar.Proofs.Choice.Exact
import GrowthGrammar.Proofs.Derivation.Addition
import GrowthGrammar.Proofs.Drawing.Tight
import GrowthGrammar.Proofs.Drawing.WellFormed
import GrowthGrammar.Proofs.Plane.Turns
import GrowthGrammar.Proofs.Turtle.Images
import GrowthGrammar.Proofs.Turtle.Overrides
import GrowthGrammar.Proofs.Turtle.Pace
