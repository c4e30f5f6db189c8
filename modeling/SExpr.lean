import SExpr.Binary64.Text
import SExpr.Change.Basic
import SExpr.CommandLine.Command
import SExpr.Datum.Accessor
import SExpr.Datum.Equality
import SExpr.Datum.Printer
import SExpr.Error
import SExpr.Form
import SExpr.Highlight.Bracket
import SExpr.Highlight.Line
import SExpr.LetElimination
import SExpr.Main
import SExpr.Proofs.Change.Solutions
import SExpr.Proofs.LetElimination.Confluence
import SExpr.Proofs.LetElimination.FirstFault
import SExpr.Proofs.LetElimination.Meaning
import SExpr.Proofs.LetElimination.Renaming
import SExpr.Proofs.Reader.Grammar
import SExpr.Proofs.Reader.Layout
import SExpr.Proofs.Reader.Reprinting
import SExpr.Proofs.Session.SourceFile
import SExpr.Proofs.Session.Splitting
import SExpr.Proofs.Source.Replay
import SExpr.Reader.Program
import SExpr.Sequence
import SExpr.Session.Run
import SExpr.Unicode.GraphemeExtend
import SExpr.Unicode.Numeric
import SExpr.Unicode.Unprintable
import SExpr.Unicode.WhiteSpace
import SExpr.Unicode.WordCharacter
import SExpr.Proofs.LetElimination.Growth
import SExpr.Proofs.Change.Reordering
import SExpr.Proofs.Reader.Quotation
import SExpr.Proofs.Datum.Gap
import SExpr.Proofs.Reader.Replacement
import SExpr.Proofs.Reader.IntegerLiteral
import SExpr.Proofs.Reader.Truncation
import SExpr.Proofs.Reader.Comment
import SExpr.Proofs.Reader.SymbolText
import SExpr.Proofs.Highlight.Matching
import SExpr.Proofs.Highlight.Pieces
import SExpr.Proofs.Text.Slice
import SExpr.Proofs.Highlight.Colours
import SExpr.Proofs.Highlight.Locality
import SExpr.Proofs.Highlight.Numbers
import SExpr.Proofs.Highlight.Words
import SExpr.Proofs.Change.Consistency
import SExpr.Proofs.Reader.Progress
