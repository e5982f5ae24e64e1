import Storyboard.Form

/-!
# Bindings

What placeholders are resolved against: the fields of a record, further
bindings over them, and over both the session.
-/
namespace Storyboard

/-- The bindings of a record, further ones over them, and the session, which is `null`
when nobody is logged in. -/
def bindings (session : Option (Assoc Json)) (record extra : Assoc Json) : Assoc Json :=
  Assoc.put (Assoc.putAll record extra) "session" ((session.map Json.obj).getD .null)

/-- Why there is nothing to resolve against. -/
inductive BindingsFault where
  /-- A further binding has the name of a part. -/
  | repeated (name : String)
  | table (fault : Form.PatchFault)
  deriving DecidableEq, Repr

def BindingsFault.message : BindingsFault → String
  | .repeated name => "build_binding_context() got multiple values for argument '" ++ name ++ "'"
  | .table fault => fault.message

/-- The bindings that values from outside describe. A record that is falsy has no fields;
a further binding cannot have the name of a part. -/
def bindings? (session record : Json) (extra : Assoc Json) : Except BindingsFault (Assoc Json) := do
  if let some (name, _) := extra.find? fun p => p.1 == "session" || p.1 == "record" then
    throw (.repeated name)
  let fields ← if record.truthy then (Form.table? record).mapError .table else .ok []
  let session ← match session with
    | .null => Except.ok none
    | v => ((Form.table? v).mapError .table).map some
  return bindings (session.map Form.toFields) fields.toFields extra

end Storyboard
