import Lexis.Character.Digit
import Lexis.Character.GraphemeExtend
import Lexis.Character.Identifier
import Lexis.Character.IdentifierPart
import Lexis.Character.IdentifierStart
import Lexis.Character.Ranges
import Lexis.Character.Unprintable
import Lexis.Character.WhiteSpace
import Lexis.Decimal.Binary64
import Lexis.Decimal.Notation
import Lexis.Decimal.Shortest
import Lexis.Diagnostic.Basic
import Lexis.Diagnostic.Collection
import Lexis.Diagnostic.Rendering
import Lexis.Fault
import Lexis.Lexeme.Basic
import Lexis.Lexeme.Escape
import Lexis.Lexeme.Numeral
import Lexis.Lexeme.Quotation
import Lexis.Lexeme.Scan
import Lexis.Lexer.Basic
import Lexis.Lexer.Session
import Lexis.Proofs.Character.Classes
import Lexis.Proofs.Character.Digit
import Lexis.Proofs.Decimal.Binary64
import Lexis.Proofs.Decimal.Canonical
import Lexis.Proofs.Decimal.Nearest
import Lexis.Proofs.Decimal.Notation
import Lexis.Proofs.Decimal.Rounding
import Lexis.Proofs.Decimal.Shortest
import Lexis.Proofs.Decimal.Value
import Lexis.Proofs.Diagnostic.Carets
import Lexis.Proofs.Diagnostic.Rendering
import Lexis.Proofs.Fault
import Lexis.Proofs.Lexeme.Escape
import Lexis.Proofs.Lexeme.Escape.Extent
import Lexis.Proofs.Lexeme.Fault
import Lexis.Proofs.Lexeme.Grammar
import Lexis.Proofs.Lexeme.LineBreak
import Lexis.Proofs.Lexeme.Lookahead
import Lexis.Proofs.Lexeme.Lookahead.Basic
import Lexis.Proofs.Lexeme.Lookahead.Numeral
import Lexis.Proofs.Lexeme.Lookahead.Quotation
import Lexis.Proofs.Lexeme.Numeral
import Lexis.Proofs.Lexeme.Numeral.Extent
import Lexis.Proofs.Lexeme.Numeral.Faults
import Lexis.Proofs.Lexeme.Quotation
import Lexis.Proofs.Lexeme.Quotation.Character
import Lexis.Proofs.Lexeme.Quotation.Extent
import Lexis.Proofs.Lexeme.Returns
import Lexis.Proofs.Lexeme.Scan
import Lexis.Proofs.Lexer.Carets
import Lexis.Proofs.Lexer.Escapes
import Lexis.Proofs.Lexer.Floats
import Lexis.Proofs.Lexer.LineEndings
import Lexis.Proofs.Lexer.Lines
import Lexis.Proofs.Lexer.Lookahead
import Lexis.Proofs.Lexer.MaximalMunch
import Lexis.Proofs.Lexer.Numerals
import Lexis.Proofs.Lexer.Occurrence
import Lexis.Proofs.Lexer.Progress
import Lexis.Proofs.Lexer.Quotations
import Lexis.Proofs.Lexer.Relocation
import Lexis.Proofs.Lexer.Report
import Lexis.Proofs.Lexer.Respacing
import Lexis.Proofs.Lexer.Restart
import Lexis.Proofs.Lexer.Session
import Lexis.Proofs.Lexer.Step
import Lexis.Proofs.Lexer.Stream
import Lexis.Proofs.Lexer.Strings
import Lexis.Proofs.Lexer.Symbols
import Lexis.Proofs.Lexer.Tiling
import Lexis.Proofs.Lexer.Trivia
import Lexis.Proofs.Lexer.Views
import Lexis.Proofs.Lexer.WellFormed
import Lexis.Proofs.Run
import Lexis.Proofs.Stack
import Lexis.Proofs.Symbol
import Lexis.Proofs.Text.Cursor
import Lexis.Proofs.Text.IndexedCursor
import Lexis.Proofs.Text.Lines
import Lexis.Proofs.Text.Position
import Lexis.Proofs.Text.Returns
import Lexis.Proofs.Text.Rows
import Lexis.Proofs.Text.Runs
import Lexis.Proofs.Text.Slice
import Lexis.Proofs.Text.SourceFile
import Lexis.Proofs.Trivia
import Lexis.Proofs.Word
import Lexis.Reading
import Lexis.Run
import Lexis.Stack
import Lexis.Symbol
import Lexis.Text.Cursor
import Lexis.Text.IndexedCursor
import Lexis.Text.Position
import Lexis.Text.Quoted
import Lexis.Text.Slice
import Lexis.Text.SourceFile
import Lexis.Text.Span
import Lexis.Token
import Lexis.Trivia
import Lexis.Word
