import NtHive.Utf16
import NtHive.UppercaseTable

namespace NtHive

theorem compare_uint16 (a b : UInt16) : compare a b = compare a.toNat b.toNat := by
  have hlt : a < b ↔ a.toNat < b.toNat := BitVec.lt_def
  have heq : a = b ↔ a.toNat = b.toNat := ⟨congrArg _, UInt16.toNat.inj⟩
  simp only [compare, compareOfLessAndEq, hlt, heq]

/-- `utf16_code_unit_to_uppercase`: the table's uppercase for a unit it lists, found by binary
search, and the unit itself otherwise. The found index is in bounds (`binarySearchBy_ok`),
so the default of `getD` stands for no panic. -/
def utf16CodeUnitToUppercase (unit : UInt16) : UInt16 :=
  match binarySearchBy bmpUppercaseTable (fun p => compare p.1 unit) with
  | .ok index => (bmpUppercaseTable.getD index default).2
  | .error _ => unit

/-- The uppercase of a unit as the table states it: the second component of the entry whose
first component is the unit, or the unit itself when there is none. -/
def tableUppercase (unit : UInt16) : UInt16 := (bmpUppercaseTable.lookup unit).getD unit

section Lookup

variable {l : List (UInt16 × UInt16)}

theorem lookup_getElem (hs : l.Pairwise (fun a b => a.1.toNat < b.1.toNat)) {i : Nat}
    (hi : i < l.length) : l.lookup l[i].1 = some l[i].2 := by
  induction l generalizing i with
  | nil => cases hi
  | cons p ps ih =>
      obtain ⟨k, v⟩ := p
      rw [List.pairwise_cons] at hs
      cases i with
      | zero => simp
      | succ j =>
          have hj : j < ps.length := by simpa using hi
          have hne : ps[j].1 ≠ k := fun h => by simpa [h] using hs.1 ps[j] (List.getElem_mem hj)
          have hb : (ps[j].1 == k) = false := beq_eq_false_iff_ne.mpr hne
          simp only [List.getElem_cons_succ, List.lookup_cons, hb, ih hs.2 hj]

end Lookup

/-- The binary search of `utf16_code_unit_to_uppercase` finds what a plain lookup in the
table finds, for every code unit. -/
theorem utf16CodeUnitToUppercase_eq (unit : UInt16) :
    utf16CodeUnitToUppercase unit = tableUppercase unit := by
  have hf : (fun p : UInt16 × UInt16 => compare p.1 unit) =
      fun p => compare p.1.toNat unit.toNat := funext fun p => compare_uint16 _ _
  unfold utf16CodeUnitToUppercase tableUppercase
  rw [hf]
  split
  · next i h =>
      obtain ⟨hi, hk⟩ := @binarySearchBy_ok _ _ _ (fun p : UInt16 × UInt16 => p.1.toNat) _
        bmpUppercaseTable_sorted _ h
      have hk : bmpUppercaseTable[i].1 = unit := UInt16.toNat.inj hk
      rw [List.getD_eq_getElem?_getD, List.getElem?_eq_getElem hi, Option.getD_some, ← hk,
        lookup_getElem bmpUppercaseTable_sorted hi, Option.getD_some]
  · next i h =>
      have hnone := @binarySearchBy_error _ _ _ (fun p : UInt16 × UInt16 => p.1.toNat) _
        bmpUppercaseTable_sorted _ h
      rw [List.lookup_eq_none_iff.mpr fun p hp =>
        bne_iff_ne.mpr fun e => hnone p hp (congrArg UInt16.toNat e.symm), Option.getD_none]

/-- A key or value name: Latin1 bytes, or UTF-16LE bytes (`NtHiveNameString`). -/
inductive NtHiveNameString
  | latin1 (bytes : List UInt8)
  | utf16LE (bytes : List UInt8)
  deriving DecidableEq, Repr

/-- `latin1_iter`, on the bytes of a `Latin1` name: each byte zero-extended. Its `panic!` arm
for a `Utf16LE` name is never reached, as every caller matches on the variant first. -/
def latin1Iter (bytes : List UInt8) : List UInt16 := bytes.map UInt8.toUInt16

/-- `utf16le_iter`, on the bytes of a `Utf16LE` name: the little-endian pairs. Its `panic!`
arm for a `Latin1` name is never reached either. -/
def utf16leIter (bytes : List UInt8) : List UInt16 := leU16s bytes

/-- `NtHiveNameString::cmp_iter`: walk both unit sequences in lock-step, fold each unit to
uppercase, and stop at the first difference or at the end of either. -/
def cmpIter : List UInt16 → List UInt16 → Ordering
  | thisCodeUnit :: thisIter, otherCodeUnit :: otherIter =>
    let thisUpper := utf16CodeUnitToUppercase thisCodeUnit
    let otherUpper := utf16CodeUnitToUppercase otherCodeUnit
    if thisUpper ≠ otherUpper then compare thisUpper otherUpper else cmpIter thisIter otherIter
  | _ :: _, [] => .gt
  | [], _ :: _ => .lt
  | [], [] => .eq

namespace NtHiveNameString

/-- `cmp_self_and_str`. -/
def cmpSelfAndStr (lhs : NtHiveNameString) (rhs : String) : Ordering :=
  match lhs with
  | .latin1 bytes => cmpIter (latin1Iter bytes) (encodeUtf16 rhs)
  | .utf16LE bytes => cmpIter (utf16leIter bytes) (encodeUtf16 rhs)

/-- `cmp_str_and_self`. -/
def cmpStrAndSelf (lhs : String) (rhs : NtHiveNameString) : Ordering :=
  match rhs with
  | .latin1 bytes => cmpIter (encodeUtf16 lhs) (latin1Iter bytes)
  | .utf16LE bytes => cmpIter (encodeUtf16 lhs) (utf16leIter bytes)

/-- `Ord::cmp`. -/
def cmp : NtHiveNameString → NtHiveNameString → Ordering
  | .latin1 a, .latin1 b => cmpIter (latin1Iter a) (latin1Iter b)
  | .latin1 a, .utf16LE b => cmpIter (latin1Iter a) (utf16leIter b)
  | .utf16LE a, .latin1 b => cmpIter (utf16leIter a) (latin1Iter b)
  | .utf16LE a, .utf16LE b => cmpIter (utf16leIter a) (utf16leIter b)

/-- `PartialEq::eq`. -/
def eq (self other : NtHiveNameString) : Bool := self.cmp other == .eq

/-- `PartialOrd::partial_cmp`. -/
def partialCmp (self other : NtHiveNameString) : Option Ordering := some (self.cmp other)

/-- `PartialEq<str> for NtHiveNameString`. -/
def eqStr (self : NtHiveNameString) (other : String) : Bool := cmpSelfAndStr self other == .eq

/-- `PartialEq<&str> for NtHiveNameString`, the body of the `str` impl. -/
def eqRefStr (self : NtHiveNameString) (other : String) : Bool := eqStr self other

/-- `PartialEq<NtHiveNameString> for str`. -/
def strEq (self : String) (other : NtHiveNameString) : Bool := cmpStrAndSelf self other == .eq

/-- `PartialEq<NtHiveNameString> for &str`, the body of the `str` impl. -/
def refStrEq (self : String) (other : NtHiveNameString) : Bool := strEq self other

/-- `PartialOrd<str> for NtHiveNameString`. -/
def partialCmpStr (self : NtHiveNameString) (other : String) : Option Ordering :=
  some (cmpSelfAndStr self other)

/-- `PartialOrd<&str> for NtHiveNameString`, the body of the `str` impl. -/
def partialCmpRefStr (self : NtHiveNameString) (other : String) : Option Ordering :=
  partialCmpStr self other

/-- `PartialOrd<NtHiveNameString> for str`. -/
def strPartialCmp (self : String) (other : NtHiveNameString) : Option Ordering :=
  some (cmpStrAndSelf self other)

/-- `PartialOrd<NtHiveNameString> for &str`, the body of the `str` impl. -/
def refStrPartialCmp (self : String) (other : NtHiveNameString) : Option Ordering :=
  strPartialCmp self other

end NtHiveNameString

/-- An operand of the comparator: a name in either encoding, or a host string. -/
inductive Operand
  | name (n : NtHiveNameString)
  | str (s : String)

/-- The code units a comparison reads from an operand: each Latin1 byte widened, the `i`-th
little-endian byte pair of a UTF-16LE name for each whole pair (a trailing odd byte has none), a
host string encoded. -/
def Operand.units : Operand → List UInt16
  | .name (.latin1 bytes) => bytes.map fun b => UInt16.ofNat b.toNat
  | .name (.utf16LE bytes) => (List.range (bytes.length / 2)).map fun i =>
      UInt16.ofNat ((bytes.getD (2 * i) 0).toNat + 256 * (bytes.getD (2 * i + 1) 0).toNat)
  | .str s => encodeUtf16 s

theorem toUInt16_eq_ofNat_toNat (b : UInt8) : b.toUInt16 = UInt16.ofNat b.toNat :=
  UInt16.toNat.inj (by
    have := b.toNat_lt_size
    rw [UInt16.toNat_ofNat_of_lt (by simp only [UInt8.size, UInt16.size] at *; omega)]
    rfl)

namespace Operand

theorem units_latin1 (bytes : List UInt8) : (name (.latin1 bytes)).units = latin1Iter bytes :=
  List.map_congr_left fun b _ => (toUInt16_eq_ofNat_toNat b).symm

theorem units_utf16LE (bytes : List UInt8) : (name (.utf16LE bytes)).units = utf16leIter bytes := by
  rw [utf16leIter]
  induction bytes using leU16s.induct with
  | case1 b0 b1 rest ih =>
      have hl : (rest.length + 1 + 1) / 2 = rest.length / 2 + 1 := by omega
      rw [leU16s_cons_cons, ← ih, units, units, List.length_cons, List.length_cons, hl,
        List.range_succ_eq_map, List.map_cons, List.map_map]
      simp [u16FromLeBytes, Function.comp_def, Nat.mul_add]
  | case2 bytes h =>
      match bytes, h with
      | [], _ => rfl
      | [_], _ => simp [units]
      | _ :: _ :: _, h => exact (h _ _ _ rfl).elim

theorem units_str (s : String) : (str s).units = encodeUtf16 s := rfl

end Operand

/-- Lexicographic comparison of unit sequences by value, a proper prefix comparing less. -/
def lexCompare : List UInt16 → List UInt16 → Ordering
  | [], [] => .eq
  | [], _ :: _ => .lt
  | _ :: _, [] => .gt
  | a :: as, b :: bs => (compare a.toNat b.toNat).then (lexCompare as bs)

/-- What the comparator computes: the lexicographic comparison of both operands' units, each
folded to uppercase by the table. -/
def foldedCompare (x y : Operand) : Ordering :=
  lexCompare (x.units.map tableUppercase) (y.units.map tableUppercase)

section Order

theorem then_eq_lt {o p : Ordering} : o.then p = .lt ↔ o = .lt ∨ o = .eq ∧ p = .lt := by
  cases o <;> simp [Ordering.then]

theorem then_eq_eq {o p : Ordering} : o.then p = .eq ↔ o = .eq ∧ p = .eq := by
  cases o <;> simp [Ordering.then]

theorem swap_then (o p : Ordering) : (o.then p).swap = o.swap.then p.swap := by
  cases o <;> rfl

theorem lexCompare_eq_iff {xs ys : List UInt16} : lexCompare xs ys = .eq ↔ xs = ys := by
  induction xs generalizing ys with
  | nil => cases ys <;> simp [lexCompare]
  | cons a as ih =>
      cases ys with
      | nil => simp [lexCompare]
      | cons b bs =>
          simp only [lexCompare, then_eq_eq, Nat.compare_eq_eq, ih, List.cons.injEq]
          exact and_congr_left' ⟨UInt16.toNat.inj, congrArg _⟩

theorem lexCompare_swap (xs ys : List UInt16) : lexCompare ys xs = (lexCompare xs ys).swap := by
  induction xs generalizing ys with
  | nil => cases ys <;> rfl
  | cons a as ih =>
      cases ys with
      | nil => rfl
      | cons b bs => rw [lexCompare, lexCompare, swap_then, ← Nat.compare_swap, ih]

theorem lexCompare_lt_trans {xs ys zs : List UInt16} (h1 : lexCompare xs ys = .lt)
    (h2 : lexCompare ys zs = .lt) : lexCompare xs zs = .lt := by
  induction xs generalizing ys zs with
  | nil => cases zs <;> cases ys <;> simp_all [lexCompare]
  | cons a as ih =>
      cases ys with
      | nil => simp [lexCompare] at h1
      | cons b bs =>
          cases zs with
          | nil => simp [lexCompare] at h2
          | cons c cs =>
              simp only [lexCompare, then_eq_lt, Nat.compare_eq_lt, Nat.compare_eq_eq] at h1 h2 ⊢
              rcases h1 with h1 | ⟨h1, h1'⟩ <;> rcases h2 with h2 | ⟨h2, h2'⟩
              · exact .inl (by omega)
              · exact .inl (by omega)
              · exact .inl (by omega)
              · exact .inr ⟨by omega, ih h1' h2'⟩

theorem lexCompare_trans {xs ys zs : List UInt16} {o : Ordering} (h1 : lexCompare xs ys = o)
    (h2 : lexCompare ys zs = o) : lexCompare xs zs = o := by
  cases o with
  | lt => exact lexCompare_lt_trans h1 h2
  | eq => rw [lexCompare_eq_iff] at h1 h2 ⊢; exact h1.trans h2
  | gt =>
      have h1' : lexCompare ys xs = .lt := by rw [lexCompare_swap, h1]; rfl
      have h2' : lexCompare zs ys = .lt := by rw [lexCompare_swap, h2]; rfl
      rw [lexCompare_swap, lexCompare_lt_trans h2' h1']
      rfl

end Order

theorem then_of_ne_eq {o : Ordering} (h : o ≠ .eq) (p : Ordering) : o.then p = o := by
  cases o <;> simp_all [Ordering.then]

/-- `cmp_iter` refines the folded lexicographic comparison, on every pair of unit sequences. -/
theorem cmpIter_eq (xs ys : List UInt16) :
    cmpIter xs ys = lexCompare (xs.map tableUppercase) (ys.map tableUppercase) := by
  induction xs generalizing ys with
  | nil => cases ys <;> rfl
  | cons a as ih =>
      cases ys with
      | nil => rfl
      | cons b bs =>
          simp only [cmpIter, utf16CodeUnitToUppercase_eq, List.map_cons, lexCompare]
          by_cases h : tableUppercase a = tableUppercase b
          · rw [if_neg (not_not.mpr h), ih, h, Nat.compare_eq_eq.mpr rfl]
            rfl
          · have hne : compare (tableUppercase a).toNat (tableUppercase b).toNat ≠ .eq :=
              fun e => h (UInt16.toNat.inj (Nat.compare_eq_eq.mp e))
            rw [if_pos h, compare_uint16, then_of_ne_eq hne]

namespace NtHiveNameString

theorem cmp_eq_foldedCompare (a b : NtHiveNameString) :
    a.cmp b = foldedCompare (.name a) (.name b) := by
  cases a <;> cases b <;>
    simp only [cmp, foldedCompare, Operand.units_latin1, Operand.units_utf16LE, cmpIter_eq]

theorem cmpSelfAndStr_eq_foldedCompare (a : NtHiveNameString) (s : String) :
    cmpSelfAndStr a s = foldedCompare (.name a) (.str s) := by
  cases a <;> simp only [cmpSelfAndStr, foldedCompare, Operand.units_latin1, Operand.units_utf16LE,
    Operand.units_str, cmpIter_eq]

theorem cmpStrAndSelf_eq_foldedCompare (s : String) (a : NtHiveNameString) :
    cmpStrAndSelf s a = foldedCompare (.str s) (.name a) := by
  cases a <;> simp only [cmpStrAndSelf, foldedCompare, Operand.units_latin1, Operand.units_utf16LE,
    Operand.units_str, cmpIter_eq]

/-- Every comparison entry point of `NtHiveNameString` computes the folded lexicographic
comparison of its operands, whatever their encodings; so the comparison is reflexive,
antisymmetric and transitive over any mix of Latin1 names, UTF-16LE names and host strings. -/
theorem comparison_entry_points_fold_lexicographically :
    (∀ a b : NtHiveNameString,
      a.cmp b = foldedCompare (.name a) (.name b) ∧
      a.partialCmp b = some (foldedCompare (.name a) (.name b)) ∧
      a.eq b = (foldedCompare (.name a) (.name b) == .eq)) ∧
    (∀ (a : NtHiveNameString) (s : String),
      a.partialCmpStr s = some (foldedCompare (.name a) (.str s)) ∧
      a.partialCmpRefStr s = some (foldedCompare (.name a) (.str s)) ∧
      a.eqStr s = (foldedCompare (.name a) (.str s) == .eq) ∧
      a.eqRefStr s = (foldedCompare (.name a) (.str s) == .eq) ∧
      strPartialCmp s a = some (foldedCompare (.str s) (.name a)) ∧
      refStrPartialCmp s a = some (foldedCompare (.str s) (.name a)) ∧
      strEq s a = (foldedCompare (.str s) (.name a) == .eq) ∧
      refStrEq s a = (foldedCompare (.str s) (.name a) == .eq)) ∧
    (∀ x : Operand, foldedCompare x x = .eq) ∧
    (∀ x y : Operand, foldedCompare y x = (foldedCompare x y).swap) ∧
    (∀ (x y z : Operand) (o : Ordering),
      foldedCompare x y = o → foldedCompare y z = o → foldedCompare x z = o) := by
  refine ⟨fun a b => ?_, fun a s => ?_, fun x => lexCompare_eq_iff.mpr rfl,
    fun x y => lexCompare_swap _ _, fun x y z o => lexCompare_trans⟩
  · simp only [partialCmp, eq, cmp_eq_foldedCompare, and_self]
  · simp only [partialCmpStr, partialCmpRefStr, eqStr, eqRefStr, strPartialCmp,
      refStrPartialCmp, strEq, refStrEq, cmpSelfAndStr_eq_foldedCompare,
      cmpStrAndSelf_eq_foldedCompare, and_self]

end NtHiveNameString

end NtHive
