import Storyboard.App.Facade
import Storyboard.Proofs.App.Protection
import Storyboard.Proofs.App.Supported

/-!
# Reading the current screen

Reading the current screen moves the active screen along a redirect, and the guard looks at the
new one when it is read again. All redirects of a document lead to one screen, so a second
redirect can only lead to where the first one led: what is seen stays, and so does all the rest.
-/
namespace Storyboard

namespace Definition

/-- What resolving an id can come to. -/
inductive Resolves (d : Definition) (id : Option String) (session : Option Session) :
    ResolvedScreen → Prop
  /-- The view of the id itself. -/
  | shown : Resolves d id session ⟨d.view id, none⟩
  /-- Nothing, where a protected screen has no redirect. -/
  | barred : Resolves d id session ⟨.unresolved id .authUnavailable, none⟩
  /-- The view of the redirect screen. -/
  | redirected (auth : Authentication) (configured : d.authentication = some auth)
      (origin : String) : Resolves d id session ⟨d.view (some auth.authRedirectScreen), some origin⟩

theorem resolves (d : Definition) (id : Option String) (session : Option Session) :
    d.Resolves id session (d.resolve id session).1 := by
  unfold resolve
  split
  · rename_i asked screen hview
    split
    · exact hview ▸ .shown
    · split
      · exact view_screen hview ▸ .barred
      · rename_i auth hauth
        exact .redirected auth hauth asked
  · exact .shown

/-- Asked for the redirect screen itself, the guard shows it or redirects to it. It does not bar
it, since there is a redirect. -/
theorem view_resolve_redirect {d : Definition} {auth : Authentication}
    (configured : d.authentication = some auth) (session : Option Session) :
    (d.resolve (some auth.authRedirectScreen) session).1.view =
      d.view (some auth.authRedirectScreen) := by
  unfold resolve
  split
  · rename_i asked screen hview
    split
    · exact hview.symm
    · rw [configured]
  · rfl

end Definition

namespace App

/-- A reading leaves an app alone, or goes to the redirect screen, which is then what is seen. -/
theorem currentScreen_cases (app : App) :
    app.currentScreen.2.1 = app ∨
      ∃ auth, app.definition.authentication = some auth ∧
        app.currentScreen.1.view = app.definition.view (some auth.authRedirectScreen) ∧
        app.currentScreen.2.1 =
          { app with context := app.context.navigate auth.authRedirectScreen } := by
  have h := app.definition.resolves (some app.context.screen) app.context.session
  simp only [currentScreen, resolve]
  generalize
    (app.definition.resolve (some app.context.screen) app.context.session).1 = resolved at h
  cases h with
  | shown => exact .inl rfl
  | barred => exact .inl rfl
  | redirected auth configured origin =>
    dsimp only
    rw [Definition.view_id]
    dsimp only
    split
    · exact .inl rfl
    · exact .inr ⟨auth, configured, rfl, rfl⟩

/-- A second reading sees what the first one saw and leaves the app alone. -/
theorem currentScreen_twice (app : App) :
    app.currentScreen.2.1.currentScreen.1.view = app.currentScreen.1.view ∧
      app.currentScreen.2.1.currentScreen.2.1 = app.currentScreen.2.1 := by
  obtain hsame | ⟨auth, hauth, hview, hnext⟩ := app.currentScreen_cases
  · rw [hsame]
    exact ⟨rfl, hsame⟩
  · rw [hview, hnext]
    refine ⟨Definition.view_resolve_redirect hauth _, ?_⟩
    obtain hkept | ⟨other, hother, -, hmoved⟩ := currentScreen_cases
      { app with context := app.context.navigate auth.authRedirectScreen }
    · exact hkept
    · have heq : other = auth := Option.some.inj (hother.symm.trans hauth)
      rw [hmoved, heq]
      rfl

end App

/-- Whatever a facade holds, a second reading of the current screen sees what the first one saw:
the same view with its id, its screen or form, or the reason why there is none. It changes
nothing any more, least of all the active screen. -/
theorem current_screen_settles (f : Facade) :
    let (first, after, _) := f.currentScreen
    let (second, later, _) := after.currentScreen
    second.view = first.view ∧ later = after := by
  obtain ⟨hview, hkept⟩ := App.currentScreen_twice { f.app with definition := f.definition }
  refine ⟨hview, ?_⟩
  exact congrArg (fun seen => { f with app := { f.app with context := seen.context } }) hkept

end Storyboard
