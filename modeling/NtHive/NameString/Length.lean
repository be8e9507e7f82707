import NtHive.NameString.Display

namespace NtHive

namespace NtHiveNameString

/-- `NtHiveNameString::len`: the length in bytes, not in characters. -/
def len : NtHiveNameString → Nat
  | .latin1 bytes => bytes.length
  | .utf16LE bytes => bytes.length

/-- `NtHiveNameString::is_empty`. -/
def isEmpty (self : NtHiveNameString) : Bool := self.len == 0

theorem utf16leIter_append_single {bytes : List UInt8} (h : bytes.length % 2 = 0) (b : UInt8) :
    utf16leIter (bytes ++ [b]) = utf16leIter bytes := by
  rw [utf16leIter, leU16s_append _ h, leU16s_single, List.append_nil, utf16leIter]

/-- A UTF-16LE name of an odd number of bytes is, to every comparison, conversion and `Display`,
the name without its last byte: `utf16le_iter` reads whole pairs only. Only `len` and
`is_empty` see the byte, so a one-byte name is not empty, yet it displays as the empty string
and compares equal to it. -/
theorem utf16LE_odd_byte_ignored {bytes : List UInt8} (h : bytes.length % 2 = 0) (b : UInt8) :
    (∀ other, (utf16LE (bytes ++ [b])).cmp other = (utf16LE bytes).cmp other ∧
      other.cmp (utf16LE (bytes ++ [b])) = other.cmp (utf16LE bytes)) ∧
    (∀ s, cmpSelfAndStr (utf16LE (bytes ++ [b])) s = cmpSelfAndStr (utf16LE bytes) s ∧
      cmpStrAndSelf s (utf16LE (bytes ++ [b])) = cmpStrAndSelf s (utf16LE bytes)) ∧
    (utf16LE (bytes ++ [b])).toStringChecked = (utf16LE bytes).toStringChecked ∧
    (utf16LE (bytes ++ [b])).toStringLossy = (utf16LE bytes).toStringLossy ∧
    (∀ f, (utf16LE (bytes ++ [b])).fmt f = (utf16LE bytes).fmt f) ∧
    (utf16LE (bytes ++ [b])).len = (utf16LE bytes).len + 1 ∧
    (utf16LE (bytes ++ [b])).isEmpty = false := by
  have hu := utf16leIter_append_single h b
  refine ⟨fun other => ?_, fun s => ?_, by simp only [toStringChecked, hu],
    by simp only [toStringLossy, hu], fun f => by simp only [fmt, hu], by simp [len],
    by simp [isEmpty, len]⟩
  · simp only [cmp_eq_foldedCompare, foldedCompare, Operand.units_utf16LE, hu, and_self]
  · simp only [cmpSelfAndStr_eq_foldedCompare, cmpStrAndSelf_eq_foldedCompare, foldedCompare,
      Operand.units_utf16LE, hu, and_self]

theorem utf16LE_odd_byte_ignored_on_one_byte :
    ([] : List UInt8).length % 2 = 0 ∧ (utf16LE ([] ++ [0x41])).isEmpty = false ∧
      (utf16LE ([] ++ [0x41])).toStringLossy = (utf16LE []).toStringLossy :=
  have h : ([] : List UInt8).length % 2 = 0 := rfl
  ⟨h, (utf16LE_odd_byte_ignored h 0x41).2.2.2.2.2.2, (utf16LE_odd_byte_ignored h 0x41).2.2.2.1⟩

end NtHiveNameString

end NtHive
