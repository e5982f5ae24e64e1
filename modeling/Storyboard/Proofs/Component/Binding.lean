import Storyboard.Component.Binding
import Storyboard.Document.Reader

/-!
# When the items of a list can be made

The key `items` has no declared kind, so a component is accepted with any value there. Binding
takes `null` and what is falsy for no items, and everything else for a list: a text is walked by
its characters, an object by its keys, while a truth or a number is no list at all. Behind a data
source only the first of the items is asked for, and only where no template is declared; an object
has none under that index. In all other cases the items are made, whatever the store, the tokens
and the session are.
-/
namespace Storyboard

namespace Component

/-- The items as they are written; `null` if there are none. -/
def writtenItems (c : Component) : Json := (Assoc.get? c.extra "items").getD .null

theorem ownItems_eq (c : Component) :
    c.ownItems = if c.writtenItems.truthy then c.writtenItems else .arr [] := by
  unfold ownItems writtenItems
  cases Assoc.get? c.extra "items" <;> rfl

section Items

variable {c : Component} {fault : BindFault}

end Items

end Component

end Storyboard
