import Chip8.Settings.Toml.Document

namespace Chip8.Settings.Toml

variable {limit room depth : Nat}

/-- An empty list that stands in so many lists. -/
def nested : Nat → Value
  | 0 => .list []
  | depth + 1 => .list [nested depth]

end Chip8.Settings.Toml
