import Stencil.Text

/-! What the routines of closed types do when they are called without arguments. -/

namespace Stencil

inductive StreamOperation where
  | close
  | detach
  | number
  | flush
  | whole
  | isTerminal
  | read
  | readLine
  | readLines
  | isReady
  | position
  | truncate
deriving DecidableEq

inductive SettingsOperation where
  | toMapping
  | toJson
  | copy
  | standard
  | rebuild
deriving DecidableEq

inductive Operation where
  | lineage
  | copySet
  | clearSet
  | keepSet
  | takeFromSet
  | endGenerator
  | stream (operation : StreamOperation)
  | settings (operation : SettingsOperation)
  | refuse (message : Text)
deriving DecidableEq

inductive Routines where
  | needsArguments
  | runs (operation : Operation)
deriving DecidableEq

end Stencil
