import BeanContainer.Registry.Basic
import BeanContainer.Text.Layout
import BeanContainer.Text.Quoted
/-!
# Descriptions of registries

How registries, their beans and strategies describe themselves.
-/

namespace BeanContainer

open Text

/-- The word for a truth value. -/
def truthWord (value : Bool) : Layout :=
  .word (if value then "true" else "false")

/-- A bean is described by its type and kind, and by whether it is handed out by reference. -/
def BeanInfo.layout (info : BeanInfo) : Layout :=
  let name := match info.handover.access with
    | .value => "TypedProvider"
    | .reference => "TypedRefProvider"
  .record name
    [("type", .word (quoted info.handover.name)), ("kind", .word info.kind.name)] false

/-- A registry is described by its options and its beans. -/
def View.layout (view : View) : Layout :=
  let beans := view.beans.map fun info => (quoted info.name, info.layout)
  .record "BeanRegistry"
    [("options", .record "RegistryOptions" [("auto_register", truthWord view.autoRegister)] false),
      ("providers", .record "ProviderMap" [("providers", .mapping beans)] false)] true

/-- Whether the only bean of a strategy has been made, for strategies that make only one. -/
def Strategy.isMade? (strategy : Strategy) (site : Site) (registry : Registry) : Option Bool :=
  match strategy with
  | .singleton .. | .smartSingleton .. => some (registry.kept? site).isSome
  | _ => none

/-- A strategy is described by its kind, and by whether its only bean has been made. -/
def Strategy.layout (strategy : Strategy) (site : Site) (registry : Registry) : Layout :=
  let fields := (strategy.isMade? site registry).map fun made => ("constructed", truthWord made)
  .record (strategy.kind.name ++ "<T>") fields.toList true

end BeanContainer
