import ModelClasses.Decimal.Binary
import ModelClasses.Json.Basic

/-! # Formats of documents

A format stands between documents and their texts: it reads and writes texts of documents, and the words
and numbers in them. Records are read from documents and written to documents, and have to do with texts
through a format only. -/

namespace ModelClasses.Json

open Decimal

class Format where
  /-- The document that a text holds, if it is one. -/
  read? : String → Option Json
  write : Json → String
  /-- The signed integer of 64 bits that a document is. -/
  long? : Json → Option Int64
  ofLong : Int64 → Json
  /-- The number of a binary format that a document is. -/
  binary? : (w : Width) → Json → Option (Binary w)
  ofBinary : {w : Width} → Binary w → Json

end ModelClasses.Json
