import ModelClasses.Json.Format
import ModelClasses.Json.Number
import ModelClasses.Json.Reader
import ModelClasses.Json.Writer

/-! # The format of the program

The program writes its documents spread over lines, and reads them in any layout. -/

namespace ModelClasses.Json

open Decimal

instance Format.standard : Format where
  read? := Json.read?
  write := prettyText
  long? := Json.long?
  ofLong i := ofInt i.toInt
  binary?
    | .single => single?
    | .double => double?
  ofBinary := Json.ofBinary

end ModelClasses.Json
