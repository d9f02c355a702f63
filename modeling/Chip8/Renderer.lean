/-! What a run needs of the terminal that it is shown in: a box around pictures of so many columns,
with a title that the terminal may be unable to read, and the lines of a text. -/
namespace Chip8

structure Renderer where
  box (columns : Nat) (title : String) : Except String (List String → List String)
  line (text : String) : List String

end Chip8
