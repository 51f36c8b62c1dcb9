import ExprMarkup.Capture.Assembled
import ExprMarkup.Config.Session
import ExprMarkup.Log
import ExprMarkup.Tree.Document
import ExprMarkup.Typesetter
import ExprMarkup.Proofs.Walk
import ExprMarkup.Proofs.Walk.Address
import ExprMarkup.Proofs.Walk.Visit
import ExprMarkup.Proofs.Walk.Collection
import ExprMarkup.Proofs.Fragment
import ExprMarkup.Proofs.Scope
import ExprMarkup.Proofs.Session
import ExprMarkup.Proofs.Evaluation
import ExprMarkup.Proofs.Rendering.Coverage
import ExprMarkup.Proofs.Rendering.Schedule
import ExprMarkup.Proofs.Rendering.Failure
import ExprMarkup.Proofs.Rendering.Order
import ExprMarkup.Proofs.Rendering.Depth
import ExprMarkup.Proofs.Rendering.Fallback
import ExprMarkup.Proofs.Rendering.Composition
import ExprMarkup.Proofs.Rendering.Relevance
import ExprMarkup.Proofs.Rendering.Parallel
import ExprMarkup.Proofs.Rendering.Placement
import ExprMarkup.Proofs.Rendering.Spreading
import ExprMarkup.Proofs.Markup.Reader
import ExprMarkup.Proofs.Markup.ReadBack
import ExprMarkup.Proofs.Markup.Spelling
import ExprMarkup.Proofs.Markup.AttributeNames
import ExprMarkup.Proofs.Markup.AttributeList
import ExprMarkup.Proofs.Registration
import ExprMarkup.Proofs.Markup.CustomElement
import ExprMarkup.Proofs.Construction
import ExprMarkup.Proofs.Construction.Checks
import ExprMarkup.Proofs.Construction.Sound
import ExprMarkup.Proofs.Captured
import ExprMarkup.Proofs.Folding
import ExprMarkup.Proofs.Source.Yields
import ExprMarkup.Proofs.Source.Complete
import ExprMarkup.Proofs.Capture.Acceptance
import ExprMarkup.Proofs.Capture.Desugaring
import ExprMarkup.Proofs.Construction.Build
import ExprMarkup.Proofs.Capture.Refusal
import ExprMarkup.Proofs.Capture.Margin
import ExprMarkup.Proofs.Grammar.Reader
import ExprMarkup.Proofs.Grammar.Productions
import ExprMarkup.Proofs.Grammar.ReadBack
import ExprMarkup.Proofs.Grammar.Groups
import ExprMarkup.Proofs.Grammar.Parentheses
import ExprMarkup.Proofs.Typeset.Lexeme
import ExprMarkup.Proofs.Typeset.Formula
import ExprMarkup.Proofs.Typeset.Scan
import ExprMarkup.Proofs.Typeset.Balance
import ExprMarkup.Proofs.Typeset.Group
import ExprMarkup.Proofs.Typeset.Scripts
import ExprMarkup.Proofs.Escape
import ExprMarkup.Proofs.Typeset.Escaping
import ExprMarkup.Proofs.Markup.CharacterReference
import ExprMarkup.Proofs.Json.Scalar
import ExprMarkup.Proofs.Json.ReadBack
import ExprMarkup.Proofs.Document
import ExprMarkup.Proofs.Document.Parts
import ExprMarkup.Proofs.Document.Outcome
import ExprMarkup.Proofs.Document.Place
import ExprMarkup.Proofs.Operator
import ExprMarkup.Proofs.Taxonomy
