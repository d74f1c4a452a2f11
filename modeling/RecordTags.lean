import RecordTags.Field.Call
import RecordTags.Field.Slot
import RecordTags.Main
import RecordTags.Token.Cursor
import RecordTags.Proofs.Token.Sequence
import RecordTags.Proofs.Tree.Machine
import RecordTags.Proofs.Tree.WellFormed
import RecordTags.Proofs.Tree.Lossless
import RecordTags.Proofs.Number.Extent
import RecordTags.Proofs.Number.Numeral
import RecordTags.Proofs.Token.Whole
import RecordTags.Proofs.Tree.FirstFailure
import RecordTags.Proofs.Tree.Image
import RecordTags.Proofs.Bind.Meaning
import RecordTags.Proofs.Field.Assignment
import RecordTags.Proofs.Field.Correspondence
import RecordTags.Proofs.Field.Conforming
import RecordTags.Proofs.Resolved.Split
import RecordTags.Proofs.Bind.OldContents
import RecordTags.Proofs.Tag.Fill
import RecordTags.Proofs.Tag.Prevailing
import RecordTags.Proofs.Record.Correspondence
import RecordTags.Proofs.Number.Decimal
import RecordTags.Proofs.Field.Literal
import RecordTags.Proofs.Tag.ReadBack
import RecordTags.Proofs.Text.Source
import RecordTags.Proofs.Token.Tiling
import RecordTags.Proofs.Tree.Node
import RecordTags.Proofs.Tree.Positions
import RecordTags.Proofs.Token.Extension
import RecordTags.Proofs.Tree.Shift
import RecordTags.Proofs.Tag.ErrorSpan
import RecordTags.Proofs.Tree.Concatenation
import RecordTags.Proofs.Number.Magnitude
import RecordTags.Proofs.Field.Directed
import RecordTags.Proofs.Cli.Binding
import RecordTags.Proofs.Cli.Progression
import RecordTags.Proofs.Number.Finite
import RecordTags.Proofs.Json.Lexemes
import RecordTags.Proofs.Json.Text
import RecordTags.Proofs.Json.Structure
import RecordTags.Proofs.Tree.Codec
import RecordTags.Proofs.Number.Integral
import RecordTags.Proofs.Number.Fractional
import RecordTags.Proofs.Number.Literal
import RecordTags.Proofs.Number.Classification
import RecordTags.Proofs.Resolved.Rejoining
import RecordTags.Proofs.Escape.Pieces
import RecordTags.Proofs.Escape.Decoding
import RecordTags.Proofs.Number.Consistency
import RecordTags.Proofs.Number.Rounding
import RecordTags.Proofs.Number.Hexadecimal
import RecordTags.Proofs.Number.Exactness
import RecordTags.Proofs.Number.ExponentLimit
import RecordTags.Proofs.Text.SmallForm
import RecordTags.Proofs.Name.Words
import RecordTags.Proofs.Name.Canonical
import RecordTags.Proofs.Name.Spelling
import RecordTags.Proofs.Name.Interchange
import RecordTags.Proofs.Bind.Ignoring
import RecordTags.Proofs.Field.TypeSpelling
import RecordTags.Proofs.Schema.Addressing
import RecordTags.Proofs.Checked.Scanner
import RecordTags.Proofs.Checked.Escape
import RecordTags.Proofs.Checked.Bytes
import RecordTags.Proofs.Checked.Number
import RecordTags.Proofs.Checked.Reader
import RecordTags.Proofs.Checked.Rules
