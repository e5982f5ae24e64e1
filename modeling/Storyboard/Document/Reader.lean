import Storyboard.Action.Reader
import Storyboard.Document.Basic

/-!
# Reading documents

Every part is read field by field in declared order, and all issues are
collected.
-/
namespace Storyboard

namespace Keys

def column : List Key := [.plain "type", .plain "description", .plain "default", .plain "required"]

def table : List Key := [.plain "fields", .plain "description"]

def userTable : Key := ⟨"userTable", "user_table"⟩
def emailField : Key := ⟨"emailField", "email_field"⟩
def passwordField : Key := ⟨"passwordField", "password_field"⟩
def postLoginScreen : Key := ⟨"postLoginScreen", "post_login_screen"⟩
def authRedirectScreen : Key := ⟨"authRedirectScreen", "auth_redirect_screen"⟩

def authentication : List Key :=
  [.plain "enabled", userTable, emailField, passwordField, postLoginScreen, authRedirectScreen]

def primaryColor : Key := ⟨"primaryColor", "primary_color"⟩
def secondaryColor : Key := ⟨"secondaryColor", "secondary_color"⟩
def backgroundColor : Key := ⟨"backgroundColor", "background_color"⟩
def textColor : Key := ⟨"textColor", "text_color"⟩
def fontFamily : Key := ⟨"fontFamily", "font_family"⟩

def theme : List Key := [primaryColor, secondaryColor, backgroundColor, textColor, fontFamily]

def orderBy : Key := ⟨"orderBy", "order_by"⟩

def dataSourceFields : List Key := [.plain "table", .plain "filters", orderBy]

def dataSource : Key := ⟨"dataSource", "data_source"⟩
def showIf : Key := ⟨"showIf", "show_if"⟩

def component : List Key :=
  [type, .plain "id", .plain "content", .plain "placeholder", .plain "action", dataSource,
   .plain "template", showIf, .plain "style", .plain "children", .plain "components"]

def requiresAuth : Key := ⟨"requiresAuth", "requires_auth"⟩

def screen : List Key :=
  [.plain "id", .plain "title", requiresAuth, .plain "components", .plain "layout"]

def designTokens : Key := ⟨"designTokens", "design_tokens"⟩
def databaseSchema : Key := ⟨"databaseSchema", "database_schema"⟩

def metadata : List Key :=
  [.plain "name", .plain "theme", designTokens, databaseSchema, .plain "authentication"]

def initialScreen : Key := ⟨"initialScreen", "initial_screen"⟩

def definition : List Key := [.plain "version", .plain "app", .plain "screens", initialScreen]

end Keys

namespace Read

/-- The members a value of a token may belong to, with the issues of each reading. -/
def tokenValue (v : Json) : Check TokenValue :=
  match v with
  | .str s => .ok (.text s)
  | .int n => .ok (.whole n)
  | .float x => .ok (.real x)
  | .bool b => .ok (.flag b)
  | _ => .bad [⟨["str"], .notText⟩, ⟨["int"], .notWhole⟩, ⟨["float"], .notNumber⟩,
      ⟨["bool"], .notFlag⟩]

def column : Json → Check Column :=
  record "DatabaseField" fun o =>
    (fun type description default required =>
      ⟨type, description, default, required, extraFields Keys.column o⟩)
      <$> required o (.plain "type") (choice ColumnType.all ColumnType.name)
      <*> slot o (.plain "description") text
      <*> optional o (.plain "default") anything
      <*> slot o (.plain "required") flag

def databaseTable : Json → Check Table :=
  record "DatabaseTable" fun o =>
    (fun fields description => ⟨fields, description, extraFields Keys.table o⟩)
      <$> required o (.plain "fields") (table column)
      <*> slot o (.plain "description") text

def authentication : Json → Check Authentication :=
  record "AuthenticationConfig" fun o =>
    (fun enabled user email password login redirect =>
      ⟨enabled, user, email, password, login, redirect, extraFields Keys.authentication o⟩)
      <$> required o (.plain "enabled") flag
      <*> required o Keys.userTable text
      <*> required o Keys.emailField text
      <*> required o Keys.passwordField text
      <*> required o Keys.postLoginScreen text
      <*> required o Keys.authRedirectScreen text

def theme : Json → Check Theme :=
  record "Theme" fun o =>
    (fun primary secondary background text font =>
      ⟨primary, secondary, background, text, font, extraFields Keys.theme o⟩)
      <$> slot o Keys.primaryColor text
      <*> slot o Keys.secondaryColor text
      <*> slot o Keys.backgroundColor text
      <*> slot o Keys.textColor text
      <*> slot o Keys.fontFamily text

def dataSource : Json → Check DataSource :=
  record "DataSource" fun o =>
    (fun source filters order => ⟨source, filters, order, extraFields Keys.dataSourceFields o⟩)
      <$> required o (.plain "table") text
      <*> slot o (.plain "filters") (table anything)
      <*> slot o Keys.orderBy text

/-- Reads a component with a number of levels left; each component uses one. -/
def component : Nat → Json → Check Component
  | 0, _ => .fail .tooDeep
  | levels + 1, v =>
    record "Component" (fun o =>
      (fun type id content placeholder action source template showIf style children components =>
        ⟨type, id, content, placeholder, action, source, template, showIf, style, children,
          components, extraFields Keys.component o⟩)
        <$> required o Keys.type (choice ComponentType.all ComponentType.name)
        <*> slot o (.plain "id") text
        <*> slot o (.plain "content") text
        <*> slot o (.plain "placeholder") text
        <*> slot o (.plain "action") (Action.read levels .component)
        <*> slot o Keys.dataSource dataSource
        <*> optional o (.plain "template") anything
        <*> slot o Keys.showIf (choice ShowIf.all ShowIf.name)
        <*> slot o (.plain "style") (table anything)
        <*> slot o (.plain "children") (list (component levels))
        <*> slot o (.plain "components") (list (component levels))) v

/-- Reads a screen. Its components use one level before their own. -/
def screen : Json → Check Screen :=
  record "Screen" fun o =>
    (fun id title requiresAuth components layout =>
      ⟨id, title, requiresAuth, components, layout, extraFields Keys.screen o⟩)
      <$> slot o (.plain "id") text
      <*> slot o (.plain "title") text
      <*> optional o Keys.requiresAuth flag
      <*> slot o (.plain "components") (list (component (nestingLimit - 1)))
      <*> optional o (.plain "layout") anything

def metadata : Json → Check Metadata :=
  record "AppMetadata" fun o =>
    (fun name theme tokens schema auth =>
      ⟨name, theme, tokens, schema, auth, extraFields Keys.metadata o⟩)
      <$> required o (.plain "name") text
      <*> slot o (.plain "theme") theme
      <*> slot o Keys.designTokens (table tokenValue)
      <*> slot o Keys.databaseSchema (table databaseTable)
      <*> slot o (.plain "authentication") authentication

def definition : Json → Check Definition :=
  record "ApplicationDefinition" fun o =>
    (fun version app screens initial =>
      ⟨version, app, screens, initial, extraFields Keys.definition o⟩)
      <$> required o (.plain "version") text
      <*> required o (.plain "app") metadata
      <*> required o (.plain "screens") (table screen)
      <*> required o Keys.initialScreen text

end Read

end Storyboard
