import Census.Dashboard.Template
import Census.Inquiry.Cached
/-! The dashboard of some filters: a template and the answers to three inquiries. Nothing is asked
before the template is there. -/
namespace Census.Dashboard

variable {σ : Type}

/-- Failures of templates; others pass as they are. -/
def templateFailure (wrap : Failure → Failure) (f : Failure) : Failure :=
  if f.isA .template then wrap f else f

def serve [RandomSource σ] (settings : Settings) (templates : Templates) (db : Store.Database)
    (clock : Float) (f : Filters) : Serving σ (List Char) := do
  let template ← Serving.ofExcept
    ((templates.load settings.uiTemplate).mapError (templateFailure .template))
  let summary ← Inquiry.resolve settings db clock ⟨.summary, f⟩
  let unfiltered ← Inquiry.resolve settings db clock ⟨.summary, .empty⟩
  let page ← Inquiry.resolve settings db clock ⟨.page, f⟩
  let view ← Serving.ofExcept (View.make f summary unfiltered page)
  Serving.ofExcept ((template.render view).mapError (templateFailure .rendering))

end Census.Dashboard
