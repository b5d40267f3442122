import Stencil.World

/-! Formatting met inside formatting: a binding may hold templates, which are formatted with their own
binding when they are written or when their accessors are called. -/

namespace Stencil

/-- How the templates in the store are formatted and rendered with their default bindings. -/
structure Reentry where
  format : Address → Run Text
  render : Address → Run Rendering

end Stencil
