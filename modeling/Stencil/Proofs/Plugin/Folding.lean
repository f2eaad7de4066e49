import Stencil.Plugin.Handler

namespace Stencil.Script

variable {η ω : Type}

/-- Whether two commands do the same and the second reports as its value what the first reports
otherwise. `out` and `out'` are what they have emitted so far. Where the first one fails, the second
one either fails as well, or it has emitted nothing and ends with the wording of the failure. -/
inductive Folds : Text → Text → Command η ω (η × Except PluginError Text) →
    Command η ω (η × Except PluginError Text) → Prop
  | succeeds {out out' value value' : Text} (plugin : η)
      (hsame : value ++ out = value' ++ out') :
      Folds out out' (done (plugin, .ok value)) (done (plugin, .ok value'))
  | fails {out out' : Text} (plugin : η) (cause : PluginError) :
      Folds out out' (done (plugin, .error cause)) (done (plugin, .error cause))
  | words {out : Text} (plugin : η) (cause : PluginError) :
      Folds out [] (done (plugin, .error cause)) (done (plugin, .ok cause.message))
  | emits {out out' output : Text} {next script' : Command η ω (η × Except PluginError Text)}
      (hnext : Folds (out ++ output) out' next script') : Folds out out' (emit output next) script'
  | emits' {out out' output : Text} {script next' : Command η ω (η × Except PluginError Text)}
      (hnext : Folds out (out' ++ output) script next') : Folds out out' script (emit output next')
  | render {out out' : Text} (text : Text)
      {next next' : Except RenderError Text → Command η ω (η × Except PluginError Text)}
      (hnext : ∀ result, Folds out out' (next result) (next' result)) :
      Folds out out' (render text next) (render text next')
  | load {out out' : Text} (name : Text)
      {next next' : Except RenderError Unit → Command η ω (η × Except PluginError Text)}
      (hnext : ∀ result, Folds out out' (next result) (next' result)) :
      Folds out out' (load name next) (load name next')
  | register {out out' : Text} (name : Text) (plugin : η)
      {next next' : Except RenderError Bool → Command η ω (η × Except PluginError Text)}
      (hnext : ∀ result, Folds out out' (next result) (next' result)) :
      Folds out out' (register name plugin next) (register name plugin next')
  | settle {out out' : Text}
      {next next' : Except RenderError Unit → Command η ω (η × Except PluginError Text)}
      (hnext : ∀ result, Folds out out' (next result) (next' result)) :
      Folds out out' (settle next) (settle next')
  | setBase {out out' : Text} (dir : Text)
      {next next' : Command η ω (η × Except PluginError Text)} (hnext : Folds out out' next next') :
      Folds out out' (setBase dir next) (setBase dir next')
  | read {out out' : Text} (path : Text)
      {next next' : Except ReadError Text → Command η ω (η × Except PluginError Text)}
      (hnext : ∀ result, Folds out out' (next result) (next' result)) :
      Folds out out' (read path next) (read path next')
  | observe {out out' : Text}
      {next next' : View ω → Command η ω (η × Except PluginError Text)}
      (hnext : ∀ view, Folds out out' (next view) (next' view)) :
      Folds out out' (observe next) (observe next')
  | update {out out' : Text} (change : ω → ω)
      {next next' : Command η ω (η × Except PluginError Text)} (hnext : Folds out out' next next') :
      Folds out out' (update change next) (update change next')

/-- The command that emits nothing and never fails, but does the same otherwise and ends with all
that is reported of it. `out` is what has been emitted so far. -/
def folded (out : Text) : Command η ω (η × Except PluginError Text) →
    Command η ω (η × Except PluginError Text)
  | done (plugin, .ok value) => done (plugin, .ok (value ++ out))
  | done (plugin, .error cause) => done (plugin, .ok cause.message)
  | emit output next => next.folded (out ++ output)
  | render text next => render text fun result => (next result).folded out
  | load name next => load name fun result => (next result).folded out
  | register name plugin next => register name plugin fun result => (next result).folded out
  | settle next => settle fun result => (next result).folded out
  | setBase dir next => setBase dir (next.folded out)
  | read path next => read path fun result => (next result).folded out
  | observe next => observe fun view => (next view).folded out
  | update change next => update change (next.folded out)

theorem folds_folded (out : Text) (script : Command η ω (η × Except PluginError Text)) :
    Folds out [] script (script.folded out) := by
  induction script generalizing out with
  | done ended =>
    obtain ⟨plugin, cause | value⟩ := ended
    · exact .words plugin cause
    · exact .succeeds plugin (List.append_nil _).symm
  | emit output next ih => exact .emits (ih _)
  | render text next ih => exact .render text fun result => ih result out
  | load name next ih => exact .load name fun result => ih result out
  | register name plugin next ih => exact .register name plugin fun result => ih result out
  | settle next ih => exact .settle fun result => ih result out
  | setBase dir next ih => exact .setBase dir (ih out)
  | read path next ih => exact .read path fun result => ih result out
  | observe next ih => exact .observe fun view => ih view out
  | update change next ih => exact .update change (ih out)

end Stencil.Script
