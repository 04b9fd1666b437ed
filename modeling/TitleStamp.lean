import TitleStamp.Main
import TitleStamp.Session
import TitleStamp.Proofs.Regex.Capture
import TitleStamp.Proofs.Stamp.Shape
import TitleStamp.Proofs.Stamp.ShapeLanguage
import TitleStamp.Proofs.Template.Rendering
import TitleStamp.Proofs.Template.Placeholders
import TitleStamp.Proofs.Template.Calls
import TitleStamp.Proofs.Stamp.Rewriting
import TitleStamp.Proofs.Stamp.PlainPattern
import TitleStamp.Proofs.Duration.Format
import TitleStamp.Proofs.Stamp.RoundTrip
import TitleStamp.Proofs.Duration.Sign
import TitleStamp.Proofs.Stamp.StandardPattern
import TitleStamp.Proofs.Retitle.Stability
import TitleStamp.Proofs.Session.Stamps
import TitleStamp.Proofs.Template.Trace
import TitleStamp.Proofs.Template.Lines
import TitleStamp.Proofs.Template.Dependence
import TitleStamp.Proofs.Regex.Rewritten
import TitleStamp.Proofs.Stamp.NestedCalls
import TitleStamp.Proofs.Stamp.Extraction
import TitleStamp.Proofs.Stamp.Group
import TitleStamp.Proofs.Stamp.Fallback
import TitleStamp.Proofs.Stamp.LonePlaceholder
import TitleStamp.Proofs.CommandLine.Outcome
import TitleStamp.Proofs.CommandLine.Records
import TitleStamp.Proofs.Number.Whole
import TitleStamp.Proofs.Duration.RoundTrip
import TitleStamp.Proofs.Duration.MixedRadix
import TitleStamp.Proofs.Duration.PatternPieces
import TitleStamp.Proofs.Duration.Absence
import TitleStamp.Proofs.Duration.DigitGroups
import TitleStamp.Proofs.Duration.LetterCase
import TitleStamp.Proofs.Duration.PlainTerms
import TitleStamp.Proofs.Duration.Surroundings
import TitleStamp.Proofs.Duration.Terms
import TitleStamp.Proofs.Retitle.Total
import TitleStamp.Proofs.PullRequest.Envelope
import TitleStamp.Proofs.PullRequest.Payload
import TitleStamp.Proofs.Template.MergedLiterals
import TitleStamp.Proofs.Text.Lowercase
import TitleStamp.Proofs.Text.CaseMapping
import TitleStamp.Proofs.Template.Headline
import TitleStamp.Proofs.Template.Idempotence
import TitleStamp.Proofs.Text.Idempotence
import TitleStamp.Proofs.CommandLine.Reading
import TitleStamp.Proofs.CommandLine.Rendering
