/-! Texts as lists of characters, so that an offset counts characters and recursion follows the text. -/

namespace Stencil

abbrev Text := List Char

namespace Text

def slice (text : Text) (start stop : Nat) : Text :=
  (text.drop start).take (stop - start)

def startsWith (text : Text) (first : Char) : Bool :=
  text.head? == some first

end Text
end Stencil
