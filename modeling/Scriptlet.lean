import Scriptlet.Main
import Scriptlet.Proofs.Grammar.Basic
import Scriptlet.Proofs.Grammar.Completeness
import Scriptlet.Proofs.Grammar.Unambiguous
import Scriptlet.Proofs.Token.Lexeme
import Scriptlet.Proofs.Token.Tokenize
import Scriptlet.Proofs.Token.Longest
import Scriptlet.Proofs.Token.Failure
import Scriptlet.Proofs.Grammar.Exact
import Scriptlet.Proofs.Grammar.Leaves
import Scriptlet.Proofs.Number.Literal
import Scriptlet.Proofs.Parser.Boundary
import Scriptlet.Proofs.Parser.Lookahead
import Scriptlet.Proofs.Parser.Maximal
import Scriptlet.Proofs.Parser.Procedure
import Scriptlet.Proofs.Parser.Settling
import Scriptlet.Proofs.Parser.Viable
import Scriptlet.Proofs.Parser.Recognition
import Scriptlet.Proofs.Program.Alike
import Scriptlet.Proofs.Program.Append
import Scriptlet.Proofs.Program.Chain
import Scriptlet.Proofs.Program.Denotation
import Scriptlet.Proofs.Program.Kinds
import Scriptlet.Proofs.Program.Layout
import Scriptlet.Proofs.Program.Outline
import Scriptlet.Proofs.Program.Regular
import Scriptlet.Proofs.Program.Rename
import Scriptlet.Proofs.Program.Ungroup
import Scriptlet.Proofs.Program.WellFormed
import Scriptlet.Proofs.Program.Written
import Scriptlet.Proofs.Session.Calls
import Scriptlet.Proofs.Session.Faults
import Scriptlet.Proofs.Session.Frame
import Scriptlet.Proofs.Session.Invariant
import Scriptlet.Proofs.Session.Journal
import Scriptlet.Proofs.Session.Loop
import Scriptlet.Proofs.Session.Output
import Scriptlet.Proofs.Session.Performs
import Scriptlet.Proofs.Session.Rename
import Scriptlet.Proofs.Session.Repeat
import Scriptlet.Proofs.Session.Resolution
import Scriptlet.Proofs.Session.Rounds
import Scriptlet.Proofs.Session.Transcript
import Scriptlet.Proofs.Shell.Conversation
import Scriptlet.Proofs.Shell.Status
import Scriptlet.Proofs.Text.Lines
import Scriptlet.Proofs.Text.Place
import Scriptlet.Proofs.Value.Text
