import Recode.Picture.Draw
import Recode.Picture.InPlace

/-!
The drawing of a picture as it is carried out in a buffer. The buffer begins with zeros, and row by
row every pixel of the output takes the four bytes of the pixel under its upper left corner. Every
place is reckoned while the drawing runs. One beyond the edge from which it is counted back, or
outside its buffer, would end it.
-/

namespace Recode.Picture
open Recode.Media

end Recode.Picture
