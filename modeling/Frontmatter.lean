import Frontmatter.Document.Pass
import Frontmatter.Decimal.FloatValue
import Frontmatter.Decimal.Reading
import Frontmatter.Document.Config
import Frontmatter.Document.Pipeline
import Frontmatter.Text.Replace
import Frontmatter.Proofs.Esm.Lexeme
import Frontmatter.Proofs.Decimal.Shortest
import Frontmatter.Proofs.Decimal.Rounding
import Frontmatter.Proofs.Decimal.Digits
import Frontmatter.Proofs.Esm.Magnitude
import Frontmatter.Proofs.Esm.Numeral
import Frontmatter.Proofs.Esm.Operand
import Frontmatter.Proofs.Esm.Constant
import Frontmatter.Proofs.Esm.Literal
import Frontmatter.Proofs.Esm.Export
import Frontmatter.Proofs.Esm.Arrow
import Frontmatter.Proofs.Document.Pass
import Frontmatter.Proofs.Document.ExportSource
import Frontmatter.Proofs.Document.Renderer
import Frontmatter.Proofs.Document.Retry
import Frontmatter.Proofs.Document.Faithful
import Frontmatter.Proofs.Document.Stages
import Frontmatter.Proofs.Document.StandsFor
import Frontmatter.Proofs.Document.Numbers
import Frontmatter.Proofs.Data.Fields
import Frontmatter.Proofs.Document.Objects
import Frontmatter.Proofs.Decimal.ReadBack
import Frontmatter.Proofs.Yaml.Compose
import Frontmatter.Proofs.Yaml.Decode
import Frontmatter.Proofs.Document.Decoding
import Frontmatter.Proofs.Toml.Forward
import Frontmatter.Proofs.Toml.Structure
import Frontmatter.Proofs.Document.Leftover
import Frontmatter.Proofs.Document.Registrations
import Frontmatter.Proofs.Document.Spans
import Frontmatter.Proofs.Document.Records
import Frontmatter.Proofs.Document.Refused
import Frontmatter.Proofs.Document.Pipeline
import Frontmatter.Proofs.Data.Literal
import Frontmatter.Proofs.Json.Text
import Frontmatter.Proofs.Json.Skip
import Frontmatter.Proofs.Document.Config
import Frontmatter.Proofs.Document.Carried
import Frontmatter.Proofs.Text.Order
import Frontmatter.Proofs.Text.Display
import Frontmatter.Proofs.Yaml.Lines
import Frontmatter.Proofs.Yaml.Marks
import Frontmatter.Proofs.Yaml.Located
import Frontmatter.Proofs.Document.CompileErrors
import Frontmatter.Proofs.Document.YamlErrors
