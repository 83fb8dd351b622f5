import BeanContainer.Context.Basic
import BeanContainer.Registry.Description
/-!
# Descriptions of contexts

How configurations, waiting or built, and the context that holds them describe themselves.
-/

namespace BeanContainer

open Text

/-- A declared bean is described by its name and kind. -/
def BeanDeclaration.layout (bean : BeanDeclaration) : Layout :=
  .record "BeanDecl" [("name", .word (quoted bean.name)), ("kind", .word bean.kind.name)] false

/-- A list of declared beans. -/
def BeanDeclaration.listLayout (beans : List BeanDeclaration) : Layout :=
  .list (beans.map layout)

/-- A waiting configuration is described by what it waits for and what it declares. -/
def Queued.layout {σ : Type} (queued : Queued σ) : Layout :=
  .record "ConfigurationWrapper"
    [("name", .word (quoted queued.configuration.name)),
      ("waiting", .list (queued.missing.map fun name => .word (quoted name))),
      ("beans", BeanDeclaration.listLayout queued.configuration.beans)] true

/-- A built configuration is described by what it declares. -/
def Active.layout {σ : Type} (active : Active σ) : Layout :=
  .record "ConfigurationUnit"
    [("name", .word (quoted active.configuration.name)),
      ("beans", BeanDeclaration.listLayout active.configuration.beans)] true

/-- A context is described by its registry and its configurations. -/
def Context.layout {σ : Type} (context : Context σ) : Layout :=
  .record "Context"
    [("registry", (context.registry.view 0).layout),
      ("waiting", .list (context.waiting.map (·.layout))),
      ("active", .list (context.active.map (·.layout)))] true

end BeanContainer
