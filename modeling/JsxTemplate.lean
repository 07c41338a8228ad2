import JsxTemplate.Options.Reader
import JsxTemplate.Syntax.Outermost
import JsxTemplate.Transform
import JsxTemplate.Proofs.Emit
import JsxTemplate.Proofs.Traversal
import JsxTemplate.Proofs.Settings
import JsxTemplate.Proofs.Exchange
import JsxTemplate.Proofs.Signs
import JsxTemplate.Proofs.Positions
import JsxTemplate.Proofs.LineTable
import JsxTemplate.Proofs.Layout
import JsxTemplate.Proofs.Placed
import JsxTemplate.Proofs.Tokens
import JsxTemplate.Proofs.Readers
import JsxTemplate.Proofs.Components
import JsxTemplate.Proofs.Contents
import JsxTemplate.Proofs.Sound
import JsxTemplate.Proofs.Reading
import JsxTemplate.Proofs.ReadTypes
import JsxTemplate.Proofs.ReadExpressions
import JsxTemplate.Proofs.ReadMarkup
import JsxTemplate.Proofs.ReadStatements
import JsxTemplate.Proofs.ReadModules
import JsxTemplate.Proofs.TagNames
import JsxTemplate.Proofs.Parsed
import JsxTemplate.Proofs.Placement
import JsxTemplate.Proofs.Rendering
import JsxTemplate.Proofs.Preservation
import JsxTemplate.Proofs.Commas
import JsxTemplate.Proofs.Getters
import JsxTemplate.Proofs.FreeName
import JsxTemplate.Proofs.Freshness
import JsxTemplate.Proofs.Declarations
import JsxTemplate.Proofs.Templates
import JsxTemplate.Proofs.AttributeKinds
import JsxTemplate.Proofs.Inlining
import JsxTemplate.Proofs.Document
import JsxTemplate.Proofs.ReadBack
import JsxTemplate.Proofs.Words
import JsxTemplate.Proofs.Copies
import JsxTemplate.Proofs.SourceMaps
import JsxTemplate.Proofs.References
import JsxTemplate.Proofs.CodeSigns
import JsxTemplate.Proofs.Imports
import JsxTemplate.Proofs.Boundaries
import JsxTemplate.Proofs.Literals
import JsxTemplate.Proofs.FixedPoints
import JsxTemplate.Proofs.Warnings
import JsxTemplate.Proofs.Soundness
import JsxTemplate.Proofs.Outlines
import JsxTemplate.Proofs.Frames
import JsxTemplate.Proofs.Orders
import JsxTemplate.Proofs.Children
import JsxTemplate.Proofs.Alike
import JsxTemplate.Proofs.Congruence
import JsxTemplate.Proofs.Fragments
import JsxTemplate.Proofs.Braces
import JsxTemplate.Proofs.Properties
import JsxTemplate.Proofs.Decoding
import JsxTemplate.Proofs.Quoting
import JsxTemplate.Proofs.AttributeText
import JsxTemplate.Proofs.Reaching
import JsxTemplate.Proofs.Segments
import JsxTemplate.Proofs.Concatenation
import JsxTemplate.Proofs.Assembly
import JsxTemplate.Proofs.Parentheses
import JsxTemplate.Proofs.ComponentNames
