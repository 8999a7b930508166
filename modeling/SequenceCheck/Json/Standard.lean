import SequenceCheck.Json.Format
import SequenceCheck.Json.Printer
import SequenceCheck.Json.Reader

/-!
# The standard format

The format in which programs are run: values are written without blanks, and numerals are rounded
once, to the nearest number.
-/

set_option autoImplicit false

namespace SequenceCheck.Json

instance standardFormat : Format where
  read? := ofTextWithin? (some nestingLimit)
  write := compact

end SequenceCheck.Json
