import Conform.Validator

/-!
# Validator factories

A factory holds the rules and the settings that validators of many schemas share.
-/

namespace Conform

/-- What validators are made with. -/
structure Factory where
  /-- The rules. -/
  registry : Registry
  /-- Do the validators report failures? -/
  throwing : Bool
  /-- How many nodes of a schema may be nested. -/
  maxDepth : Int

namespace Factory

/-- The factory with rules of the caller's own; the depth has to be positive. -/
def build (overrides : Overrides) (throwing : Bool) (maxDepth : Int) : Except Fault Factory :=
  if maxDepth < 1 then .error (.argument s!"max_depth must be positive, got {maxDepth}")
  else (Registry.build overrides).map fun r => ⟨r, throwing, maxDepth⟩

/-- The validator of a schema. -/
def bind {ι : Type} (f : Factory) (s : Schema ι) : Validator ι :=
  ⟨s, f.registry, f.throwing, f.maxDepth⟩

/-- The validator of a schema document. -/
def load (f : Factory) (document : Value) : Except Schema.DocumentFault (Validator Schema.Tree) :=
  (Schema.load document).map fun t => f.bind (.ofTree t)

end Factory

end Conform
