/-! The version under which the library is released. -/

namespace Recode

def version : String := "0.1.0"

end Recode
