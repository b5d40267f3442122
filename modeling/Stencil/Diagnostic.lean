import Stencil.Failure

/-! What formatting reports beside its text. -/

namespace Stencil

structure Diagnostic where
  expression : Text
  kind : Kind
  message : Text
deriving DecidableEq

def Diagnostic.of (expression : Text) (kind : Kind) : Diagnostic :=
  ⟨expression, kind, Failure.nonScalarMessage expression kind.word⟩

structure Rendering where
  text : Text
  diagnostics : List Diagnostic
deriving DecidableEq

def Rendering.clean (rendering : Rendering) : Bool :=
  rendering.diagnostics.isEmpty

end Stencil
