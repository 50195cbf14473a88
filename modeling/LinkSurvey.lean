import LinkSurvey.Main
import LinkSurvey.Survey.Entry
import LinkSurvey.Proofs.DomainName
import LinkSurvey.Proofs.Fetch.Budget
import LinkSurvey.Proofs.Window
import LinkSurvey.Proofs.Gate
import LinkSurvey.Proofs.Survey
import LinkSurvey.Proofs.UrlSet.History
import LinkSurvey.Proofs.Survey.Report
import LinkSurvey.Proofs.Survey.Isolation
import LinkSurvey.Proofs.Survey.Pages
import LinkSurvey.Proofs.Fetch.Course
import LinkSurvey.Proofs.Script.Literals
import LinkSurvey.Proofs.Targets
import LinkSurvey.Proofs.Markup
import LinkSurvey.Proofs.Gate.Soundness
import LinkSurvey.Proofs.Session
import LinkSurvey.Proofs.Survey.Calls
import LinkSurvey.Proofs.Inline.Addresses
import LinkSurvey.Proofs.Inline.References
import LinkSurvey.Proofs.Inline.StyleSheet
import LinkSurvey.Proofs.Gate.Script
import LinkSurvey.Proofs.Targets.Scheme
import LinkSurvey.Proofs.Session.Files
import LinkSurvey.Proofs.Html.Builder.Step
import LinkSurvey.Proofs.Html.Order
import LinkSurvey.Proofs.Html.Builder.Moves
import LinkSurvey.Proofs.Html.Builder.Orderly
import LinkSurvey.Proofs.Html.Builder.Rules
import LinkSurvey.Proofs.Html.Builder.Taking
import LinkSurvey.Proofs.Html.Lexer.Feeding
import LinkSurvey.Proofs.Markup.Order
import LinkSurvey.Proofs.Survey.Asked
import LinkSurvey.Proofs.Script.Calls
import LinkSurvey.Proofs.Fetch.Retry
import LinkSurvey.Proofs.Markup.Links
import LinkSurvey.Proofs.Targets.Layout
import LinkSurvey.Proofs.Survey.Inline
import LinkSurvey.Proofs.Fetch.Budget.Monotone
