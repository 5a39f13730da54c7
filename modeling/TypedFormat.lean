import TypedFormat.Arity.Request
import TypedFormat.Session
import TypedFormat.Source.SpecCall
import TypedFormat.Proofs.Discharge.Denotation
import TypedFormat.Proofs.Discharge.Routes
import TypedFormat.Proofs.Spec.Grouping
import TypedFormat.Proofs.Template.Comb
import TypedFormat.Proofs.Template.RoundTrip
import TypedFormat.Proofs.Discharge.Callback
import TypedFormat.Proofs.Template.Concatenation
import TypedFormat.Proofs.Arity.Typing
import TypedFormat.Proofs.Discharge.Nesting
import TypedFormat.Proofs.Discharge.Workbench
import TypedFormat.Proofs.Template.Refusal
import TypedFormat.Proofs.Template.Extension
import TypedFormat.Proofs.Template.Renderers
import TypedFormat.Proofs.Arity.Requests
import TypedFormat.Proofs.Source.Arguments
import TypedFormat.Proofs.Template.Progress
