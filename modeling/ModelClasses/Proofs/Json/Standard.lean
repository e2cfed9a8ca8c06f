import ModelClasses.Json.Standard
import ModelClasses.Proofs.Json.Format
import ModelClasses.Proofs.Json.RoundTrip

/-! # The program reads what it writes

In the format of the program, documents and integers are read as they were written, whatever they are. Its
numbers are read in rounded steps, and so this is said only of those numbers that come back from their own
text. -/

namespace ModelClasses.Json

open Decimal

theorem integerText?_intText (i : ℤ) : integerText? (Layout.intText i) = some i := by
  have other : Layout.intText i ≠ ['-', '0'] := by
    intro same
    have read := readInteger?_intText i
    rw [same] at read
    obtain rfl : 0 = i := Option.some.inj read
    cases same
  rw [integerText?, if_neg other, readInteger?_intText]

theorem long?_ofInt (i : Int64) : long? (ofInt i.toInt) = some i := by
  rw [ofInt, long?, integerText?_intText, Option.bind_some, Word.long?_toInt]

theorem writable_of_plain {j : Json} (plain : Format.standard.Plain j) : Writable j := by
  induction plain with
  | bool b => exact .bool b
  | text s => exact .text s
  | integer i => exact .number (isNumber_intText i.toInt)
  | number finite =>
    have text : Format.standard.ofBinary _ = .number (Layout.document.render _) := if_pos finite
    rw [text]
    exact .number (isNumber_render Layout.document finite)
  | array _ ih => exact .array ih
  | record _ ih => exact .object (List.forall_mem_map.2 fun _ _ => rfl) (List.forall_mem_map.2 ih)

/-- All that is left to say of the format is which numbers come back. -/
theorem isInverse_standard_iff {numbers : List Number} :
    Format.standard.IsInverse numbers ↔
      ∀ x ∈ numbers, x.2.isFinite → Format.standard.binary? x.1 (Format.standard.ofBinary x.2) = some x.2 :=
  ⟨fun inverse _ => inverse.number, fun numbers =>
    ⟨fun plain _ => read?_prettyText (writable_of_plain plain), long?_ofInt, numbers _⟩⟩

end ModelClasses.Json
