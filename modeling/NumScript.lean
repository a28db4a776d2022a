import NumScript.Automaton.Alphabet
import NumScript.Automaton.Build
import NumScript.Automaton.Config
import NumScript.Automaton.Run
import NumScript.Automaton.Transition
import NumScript.Automaton.Weight
import NumScript.Command
import NumScript.Command.Arguments
import NumScript.Command.Report
import NumScript.Compile
import NumScript.File.Error
import NumScript.File.Path
import NumScript.File.Tree
import NumScript.Lowering
import NumScript.Lowering.Emitter
import NumScript.Lowering.Error
import NumScript.Main
import NumScript.Number.Binary64
import NumScript.Number.Shortest
import NumScript.Number.Style
import NumScript.Operator
import NumScript.Parse
import NumScript.Program
import NumScript.Program.Equality
import NumScript.Proofs.Automaton.Faults
import NumScript.Proofs.Automaton.Handle
import NumScript.Proofs.Automaton.Lookahead
import NumScript.Proofs.Automaton.Path
import NumScript.Proofs.Automaton.Preamble
import NumScript.Proofs.Automaton.Reachable
import NumScript.Proofs.Automaton.Shape
import NumScript.Proofs.Automaton.Termination
import NumScript.Proofs.Command.DefaultNames
import NumScript.Proofs.Command.Effects
import NumScript.Proofs.File.Names
import NumScript.Proofs.File.Writing
import NumScript.Proofs.Grammar.Complete
import NumScript.Proofs.Grammar.Exact
import NumScript.Proofs.Grammar.Rules
import NumScript.Proofs.Grammar.SourceShape
import NumScript.Proofs.Grammar.Truncation
import NumScript.Proofs.Grammar.Writing
import NumScript.Proofs.Lowering.Emission
import NumScript.Proofs.Lowering.ExitBlock
import NumScript.Proofs.Lowering.Independence
import NumScript.Proofs.Lowering.Inversion
import NumScript.Proofs.Lowering.Parsed
import NumScript.Proofs.Lowering.Preservation
import NumScript.Proofs.Lowering.Runs
import NumScript.Proofs.Lowering.Size
import NumScript.Proofs.Lowering.Slots
import NumScript.Proofs.Lowering.Stateless
import NumScript.Proofs.Lowering.Validity
import NumScript.Proofs.Lowering.WellFormed
import NumScript.Proofs.Semantics.Evaluation
import NumScript.Proofs.Semantics.Machine
import NumScript.Proofs.Semantics.Value
import NumScript.Proofs.Token.Arrangement
import NumScript.Proofs.Token.Concatenation
import NumScript.Proofs.Token.Factorization
import NumScript.Proofs.Token.Spacing
import NumScript.Proofs.Token.Tokenizer
import NumScript.Proofs.Wat.Faithful
import NumScript.Proofs.Wat.Reading
import NumScript.Proofs.Wat.Sexp
import NumScript.Proofs.Wat.Typing
import NumScript.Text.Blank
import NumScript.Text.Combining
import NumScript.Text.Data
import NumScript.Text.Layout
import NumScript.Text.Quoted
import NumScript.Text.Unprintable
import NumScript.Token
import NumScript.Token.Scan
import NumScript.Wat.Equality
import NumScript.Wat.Module
import NumScript.Wat.Printer
