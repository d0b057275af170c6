/-!
# Named values

Types with finitely many values, each known by a name in data and configuration files.
-/

namespace SessionNet

/-- Finitely many values with names. -/
class Keyed (α : Type) where
  /-- All values. -/
  all : List α
  /-- The name of a value. -/
  key : α → String

namespace Keyed

def ofKey? {α : Type} [Keyed α] (name : String) : Option α := (all (α := α)).find? (key · == name)

end Keyed

end SessionNet
