import MlogHighlight.Highlight.Highlighter
import MlogHighlight.Main
import MlogHighlight.Proofs.Pattern
import MlogHighlight.Proofs.Run
import MlogHighlight.Proofs.Word
import MlogHighlight.Proofs.Comment
import MlogHighlight.Proofs.Label
import MlogHighlight.Proofs.Matcher
import MlogHighlight.Proofs.Claiming
import MlogHighlight.Proofs.Board
import MlogHighlight.Proofs.Overlap
import MlogHighlight.Proofs.Description
import MlogHighlight.Proofs.TokenKind
import MlogHighlight.Proofs.Tiling
import MlogHighlight.Proofs.Vocabulary.Layout
import MlogHighlight.Proofs.Vocabulary.Element
import MlogHighlight.Proofs.Vocabulary.Reading
import MlogHighlight.Proofs.Vocabulary.Parsing
import MlogHighlight.Proofs.Locality
import MlogHighlight.Proofs.Slicing
import MlogHighlight.Proofs.Agreement
import MlogHighlight.Proofs.Vocabulary.Acceptance
import MlogHighlight.Proofs.TabStops
import MlogHighlight.Proofs.Vocabulary.Escape
import MlogHighlight.Proofs.Vocabulary.Rendering
import MlogHighlight.Proofs.Vocabulary.Source
import MlogHighlight.Proofs.CommandLine.Ending
import MlogHighlight.Proofs.Indentation
import MlogHighlight.Proofs.Inertness
import MlogHighlight.Proofs.Quoted
import MlogHighlight.Proofs.Listing
import MlogHighlight.Proofs.LineEnd
import MlogHighlight.Proofs.Vocabulary.Joining
import MlogHighlight.Proofs.Vocabulary.Fault
import MlogHighlight.Proofs.ContentName
import MlogHighlight.Proofs.Spelling
import MlogHighlight.Proofs.Lowercase
import MlogHighlight.Proofs.SourceForm
import MlogHighlight.Proofs.Member
import MlogHighlight.Proofs.Emission
import MlogHighlight.Proofs.CommandLine.Files
import MlogHighlight.Proofs.Prompt
import MlogHighlight.Proofs.Recognition
import MlogHighlight.Proofs.ByteOrderMark
import MlogHighlight.Proofs.Files.Tree
import MlogHighlight.Proofs.Files.Search
import MlogHighlight.Proofs.WholeWord
import MlogHighlight.Proofs.LabelName
import MlogHighlight.Proofs.MaximalPiece
import MlogHighlight.Proofs.Page
