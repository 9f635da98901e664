import Tilde.Main
import Tilde.Proofs.Command.Delivery
import Tilde.Proofs.Command.Interpolation
import Tilde.Proofs.Command.Quote
import Tilde.Proofs.Echo
import Tilde.Proofs.Exec.Jumps
import Tilde.Proofs.Expansion.Exact
import Tilde.Proofs.Expansion.Meaning
import Tilde.Proofs.Expansion.Restored
import Tilde.Proofs.Grammar.Blocks
import Tilde.Proofs.Grammar.Stars
import Tilde.Proofs.Helpers.Reach
import Tilde.Proofs.Lexer.LineEnds
import Tilde.Proofs.Parser.Bounds
import Tilde.Proofs.Parser.Located
import Tilde.Proofs.Prefix.Statement
import Tilde.Proofs.Printed.Program
import Tilde.Proofs.Session.Whole
import Tilde.Proofs.Steps.Halting
import Tilde.Proofs.Target.Loop
import Tilde.Proofs.Target.Unpacking
import Tilde.Proofs.Template.Spec
import Tilde.Proofs.Traps.Run
import Tilde.Proofs.Value.Separator
import Tilde.Proofs.Value.Sequence
import Tilde.Proofs.Written.Run
