import Chip8.Display

/-! Pixels as text, one line for each row. -/
namespace Chip8.Display

def pictureLine (on off : String) (row : List Bool) : String :=
  String.join (row.map fun lit => if lit then on else off)

def picture (on off : String) (rows : List (List Bool)) : String :=
  "\n".intercalate (rows.map (pictureLine on off))

end Chip8.Display
