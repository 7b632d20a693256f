import FieldRules.Grammar
import FieldRules.Main
import FieldRules.Proofs.Arguments.Trimming
import FieldRules.Proofs.Engine.Acyclic
import FieldRules.Proofs.Engine.Builtins
import FieldRules.Proofs.Engine.Conjunction
import FieldRules.Proofs.Engine.Frozen
import FieldRules.Proofs.Engine.Optional
import FieldRules.Proofs.Engine.Ordering
import FieldRules.Proofs.Engine.Path
import FieldRules.Proofs.Invocation.Quotes
import FieldRules.Proofs.Record.Describing
import FieldRules.Proofs.Rule.RoundTrip
import FieldRules.Session
import FieldRules.Proofs.Constants.Sound
import FieldRules.Proofs.Engine.Loading
import FieldRules.Proofs.Number.Spelling
import FieldRules.Proofs.Validator.Numbers
import FieldRules.Proofs.CommandLine.Numerals
import FieldRules.Proofs.Engine.BreakingOff
import FieldRules.Proofs.Engine.Escaping
import FieldRules.Proofs.Engine.Demands
import FieldRules.Proofs.Engine.Attempts
import FieldRules.Proofs.Engine.Calls
import FieldRules.Proofs.Engine.Replay
import FieldRules.Proofs.Engine.Handing
import FieldRules.Proofs.Rule.Rendering
import FieldRules.Proofs.CommandLine.Markup
import FieldRules.Proofs.CommandLine.Screen
import FieldRules.Proofs.CommandLine.Agreement
import FieldRules.Proofs.Arguments.Viability
import FieldRules.Proofs.Invocation.Faults
import FieldRules.Proofs.Session.Isolation
import FieldRules.Proofs.CommandLine.Loading
import FieldRules.Proofs.Engine.Resolving
import FieldRules.Proofs.Engine.Problems
import FieldRules.Proofs.Engine.Inlining
import FieldRules.Proofs.Engine.Wrapping
import FieldRules.Proofs.Validator.Combinators
import FieldRules.Proofs.Engine.Naming
import FieldRules.Proofs.Constants.Shape
import FieldRules.Proofs.Arguments.Resuming
import FieldRules.Proofs.Engine.Overlaying
import FieldRules.Proofs.Invocation.Pattern
