import NtHive.KeyValue.Strings

namespace NtHive

open RegMultiSZStrings (makeCharIter)

namespace RegMultiSZStrings

/-- `RegMultiSZStrings::small`. -/
def small (data : List UInt8) : RegMultiSZStrings := ⟨some (makeCharIter data), none⟩

/-- `RegMultiSZStrings::big`. -/
def big (iter : BigDataSlices) : RegMultiSZStrings := ⟨none, some iter⟩

/-- What `next` returns once `'outer_loop` is left by `break`: the string, unless it is empty. -/
def finish (string : String) : Option (Result String) :=
  if string.isEmpty then none else some (.ok string)

/-- `'outer_loop` of `next` once `char_iter` is `None`: take the next Big Data slice, and
return its error, or push its characters up to a NUL, going on to the next slice past its end;
after the last slice, `break`. -/
def nextFromBig (string : String) :
    List (Result (List UInt8)) → Option (Result String) × RegMultiSZStrings
  | [] => (finish string, ⟨none, some ⟨[]⟩⟩)
  | .error e :: items => (some (.error e), ⟨none, some ⟨items⟩⟩)
  | .ok sliceData :: items =>
    match pushUntilNul (makeCharIter sliceData) string with
    | (string, some chars) => (finish string, ⟨some chars, some ⟨items⟩⟩)
    | (string, none) => nextFromBig string items

/-- `RegMultiSZStrings::next`: the item, and the iterator after the call. A NUL leaves the rest
of the current slice in `char_iter` for the next call. -/
def next (self : RegMultiSZStrings) : Option (Result String) × RegMultiSZStrings :=
  let (string, charIter) := match self.charIter with
    | some chars => pushUntilNul chars ""
    | none => ("", none)
  match charIter with
  | some chars => (finish string, { self with charIter := some chars })
  | none =>
    match self.bigIter with
    | none => (finish string, ⟨none, none⟩)
    | some iter => nextFromBig string iter.items

/-- The items of `n` successive calls of `next`. -/
def nexts : Nat → RegMultiSZStrings → List (Option (Result String))
  | 0, _ => []
  | n + 1, self => self.next.1 :: nexts n self.next.2

end RegMultiSZStrings

/-- `KeyValue::multi_string_data`. -/
def KeyValue.multiStringData (kv : KeyValue) : Option (Result RegMultiSZStrings) := do
  match ← kv.dataType with
  | .error e => return .error e
  | .ok .regMultiSZ =>
    match ← kv.data with
    | .error e => return .error e
    | .ok (.small data) => return .ok (.small data)
    | .ok (.big iter) => return .ok (.big iter)
  | .ok dataType => return .error (.invalidKeyValueDataType [.regMultiSZ] dataType)

open RegMultiSZStrings (finish)

/-- What a slice holds for the string readers, in reading order: its characters, or its error. -/
def sliceTokens : Result (List UInt8) → List (Result Char)
  | .ok sliceData => (makeCharIter sliceData).map .ok
  | .error e => [.error e]

/-- One read of a stream of characters and errors, the string readers' loops with the slices
flattened away: push characters up to the first NUL, which ends the read, or up to the end; an
error met first is returned in place of the string. -/
def readString (string : String) : List (Result Char) → Option (Result String) × List (Result Char)
  | [] => (finish string, [])
  | .error e :: rest => (some (.error e), rest)
  | .ok c :: rest => if c = '\x00' then (finish string, rest) else readString (string.push c) rest

/-- The items of `n` successive reads. -/
def readStrings : Nat → List (Result Char) → List (Option (Result String))
  | 0, _ => []
  | n + 1, tokens => (readString "" tokens).1 :: readStrings n (readString "" tokens).2

theorem readString_chars (chars : List Char) (string : String) (rest : List (Result Char)) :
    readString string (chars.map .ok ++ rest) = match pushUntilNul chars string with
      | (string, some chars) => (finish string, chars.map .ok ++ rest)
      | (string, none) => readString string rest := by
  induction chars generalizing string with
  | nil => rfl
  | cons c chars ih =>
      by_cases hc : c = '\x00'
      · simp [readString, pushUntilNul, hc]
      · rw [List.map_cons, List.cons_append, readString, if_neg hc, ih, pushUntilNul, if_neg hc]

namespace RegMultiSZStrings

/-- The Big Data slices the iterator has still to read. -/
def slicesLeft (self : RegMultiSZStrings) : List (Result (List UInt8)) :=
  (self.bigIter.map BigDataSlices.items).getD []

/-- What the iterator has left to read: the characters of the current slice, then the tokens of
each slice to come. -/
def tokens (self : RegMultiSZStrings) : List (Result Char) :=
  (self.charIter.getD []).map .ok ++ self.slicesLeft.flatMap sliceTokens

theorem nextFromBig_simulates (string : String) (items : List (Result (List UInt8))) :
    (nextFromBig string items).1 = (readString string (items.flatMap sliceTokens)).1 ∧
      (nextFromBig string items).2.tokens = (readString string (items.flatMap sliceTokens)).2 := by
  induction items generalizing string with
  | nil => exact ⟨rfl, rfl⟩
  | cons item items ih =>
      cases item with
      | error e => exact ⟨rfl, List.nil_append _⟩
      | ok sliceData =>
          rw [List.flatMap_cons, sliceTokens, readString_chars, nextFromBig]
          rcases pushUntilNul (makeCharIter sliceData) string with ⟨string, _ | chars⟩
          · exact ih string
          · exact ⟨rfl, by simp [tokens, slicesLeft]⟩

/-- One call of `next` is one read of what the iterator has left, whatever the slices hold. -/
theorem next_simulates (self : RegMultiSZStrings) :
    self.next.1 = (readString "" self.tokens).1 ∧
      self.next.2.tokens = (readString "" self.tokens).2 := by
  obtain ⟨charIter, bigIter⟩ := self
  cases charIter with
  | none =>
      cases bigIter with
      | none => exact ⟨rfl, rfl⟩
      | some iter => simpa [next, tokens, slicesLeft] using nextFromBig_simulates "" iter.items
  | some chars =>
      simp only [next, tokens, Option.getD_some, readString_chars]
      rcases pushUntilNul chars "" with ⟨string, _ | chars⟩
      · cases bigIter with
        | none => exact ⟨rfl, rfl⟩
        | some iter => exact nextFromBig_simulates string iter.items
      · exact ⟨rfl, rfl⟩

/-- Over any number of calls, the iterator reads what it has left as one stream. -/
theorem nexts_eq_readStrings (n : Nat) (self : RegMultiSZStrings) :
    self.nexts n = readStrings n self.tokens := by
  induction n generalizing self with
  | zero => rfl
  | succ n ih =>
      obtain ⟨h1, h2⟩ := next_simulates self
      rw [nexts, readStrings, ih, h1, h2]

/- A failing slice after `A` drops it: the call returns the error, and the next one reads on. -/
example : (big ⟨[.ok [0x41, 0], .error (.invalidDataSize 0 0 0), .ok [0x42, 0, 0, 0]]⟩).nexts 3 =
    [some (.error (.invalidDataSize 0 0 0)), some (.ok "B"), none] := rfl

theorem tokens_small (data : List UInt8) :
    (small data).tokens = [Except.ok data].flatMap sliceTokens := by
  simp [small, tokens, slicesLeft, sliceTokens]

theorem tokens_big (iter : BigDataSlices) : (big iter).tokens = iter.items.flatMap sliceTokens := by
  simp [big, tokens, slicesLeft]

theorem isEmpty_mk (chars : List Char) : (String.mk chars).isEmpty = true ↔ chars = [] := by
  cases chars with
  | nil => exact ⟨fun _ => rfl, fun _ => rfl⟩
  | cons c cs =>
      have := c.utf8Size_pos
      simp [String.isEmpty, String.endPos, String.utf8ByteSize, String.utf8ByteSize.go]
      exact fun h => absurd (congrArg String.Pos.byteIdx h) (by simp; omega)

theorem finish_mk (chars : List Char) :
    finish ⟨chars⟩ = if chars = [] then none else some (.ok ⟨chars⟩) := by
  by_cases h : chars = []
  · subst h
    rfl
  · simp [finish, h, isEmpty_mk]

theorem getD_finish (string : String) : (finish string).getD (.ok "") = .ok string := by
  obtain ⟨chars⟩ := string
  rw [finish_mk]
  split_ifs with h
  · rw [h]
    rfl
  · rfl

end RegMultiSZStrings

open RegMultiSZStrings (getD_finish)

theorem utf16leToStringLossyLoop_eq_readString (items : List (Result (List UInt8)))
    (string : String) :
    utf16leToStringLossyLoop items string =
      (readString string (items.flatMap sliceTokens)).1.getD (.ok "") := by
  induction items generalizing string with
  | nil => exact (getD_finish string).symm
  | cons item items ih =>
      cases item with
      | error e => rfl
      | ok sliceData =>
          rw [utf16leToStringLossyLoop, List.flatMap_cons, sliceTokens, readString_chars]
          rcases pushUntilNul (makeCharIter sliceData) string with ⟨string, _ | chars⟩
          · exact ih string
          · exact (getD_finish string).symm

/-- `utf16le_to_string_lossy`, which `string_data` applies to a value's data, returns what the
first call of the iterator `multi_string_data` builds on the same data returns: the same string
(the empty one where the iterator returns `None`), or the same error. -/
theorem utf16leToStringLossy_eq_next (d : KeyValueData) :
    utf16leToStringLossy d.slices = (match d with
      | .small data => (RegMultiSZStrings.small data).next.1
      | .big iter => (RegMultiSZStrings.big iter).next.1).getD (.ok "") := by
  rw [utf16leToStringLossy, utf16leToStringLossyLoop_eq_readString]
  cases d with
  | small data =>
      dsimp only
      rw [(RegMultiSZStrings.next_simulates _).1, RegMultiSZStrings.tokens_small]
      rfl
  | big iter =>
      dsimp only
      rw [(RegMultiSZStrings.next_simulates _).1, RegMultiSZStrings.tokens_big]
      rfl

namespace KeyValue

variable {kv : KeyValue} {d : KeyValueData}

theorem multiStringData_tokens (ht : kv.dataType = some (.ok .regMultiSZ))
    (hd : kv.data = some (.ok d)) :
    ∃ iter, kv.multiStringData = some (.ok iter) ∧ iter.tokens = d.slices.flatMap sliceTokens := by
  cases d with
  | small data =>
      exact ⟨.small data, by simp [multiStringData, ht, hd], RegMultiSZStrings.tokens_small data⟩
  | big iter =>
      exact ⟨.big iter, by simp [multiStringData, ht, hd], RegMultiSZStrings.tokens_big iter⟩

/-- Every call of the iterator `multi_string_data` builds, whatever its slices hold: the `i`-th
call is the `i`-th read of the data's stream of characters and slice errors. A read returns the
characters up to the next NUL (`None` if there are none); a failing Big Data slice met first is
returned as the error, the characters of the string before it are dropped, and the next call
goes on after it. -/
theorem multiStringData_nexts_readStrings (ht : kv.dataType = some (.ok .regMultiSZ))
    (hd : kv.data = some (.ok d)) :
    ∃ iter, kv.multiStringData = some (.ok iter) ∧
      ∀ n, iter.nexts n = readStrings n (d.slices.flatMap sliceTokens) := by
  obtain ⟨iter, hm, ht⟩ := multiStringData_tokens ht hd
  exact ⟨iter, hm, fun n => ht ▸ RegMultiSZStrings.nexts_eq_readStrings n iter⟩

end KeyValue

def failingSliceItems : List (Result (List UInt8)) :=
  [.ok [0x41, 0], .error (.invalidDataSize 0 bigDataSegmentSize 0), .ok [0x42, 0, 0, 0]]

theorem multiStringData_nexts_readStrings_on_failing_slice :
    (bigDataValue 7 failingSliceItems).dataType = some (.ok .regMultiSZ) ∧
      (bigDataValue 7 failingSliceItems).data = some (.ok (.big ⟨failingSliceItems⟩)) ∧
      ∃ iter, (bigDataValue 7 failingSliceItems).multiStringData = some (.ok iter) ∧ ∀ n,
        iter.nexts n = readStrings n ((KeyValueData.big ⟨failingSliceItems⟩).slices.flatMap sliceTokens) :=
  ⟨rfl, rfl, KeyValue.multiStringData_nexts_readStrings rfl rfl⟩

namespace KeyValue

variable {kv : KeyValue}

theorem multiStringData_isSome (ht : kv.dataType.isSome) (hd : kv.data.isSome) :
    kv.multiStringData.isSome := by
  obtain ⟨t, ht⟩ := Option.isSome_iff_exists.mp ht
  obtain ⟨r, hd⟩ := Option.isSome_iff_exists.mp hd
  rcases t with e | t
  · simp [multiStringData, ht]
  · rcases r with e | (data | iter) <;> cases t <;> simp [multiStringData, ht, hd]

/-- Every accessor of the Key Value returns, with a value or an error: none of them panics. -/
def AccessorsReturn (kv : KeyValue) : Prop :=
  kv.header.isSome ∧ kv.data.isSome ∧ kv.dataSize.isSome ∧ kv.dataType.isSome ∧ kv.name.isSome ∧
    kv.dwordData.isSome ∧ kv.qwordData.isSome ∧ kv.stringData.isSome ∧ kv.multiStringData.isSome

theorem WellFormed.accessorsReturn (hc : kv.hive.CellRangesInBlob) (hw : kv.WellFormed) :
    kv.AccessorsReturn := by
  have hh := hw.header_isSome
  have hd := data_isSome hc hw
  have ht : kv.dataType.isSome := by simpa [dataType] using hh
  have hne : ∀ {α : Type} {o : Option α}, (o = none ↔ kv.data = none) → o.isSome := by
    intro α o h
    simpa [Option.isSome_iff_ne_none, h] using hd
  exact ⟨hh, hd, by simpa [dataSize] using hh, ht, name_isSome hw, hne integerData_eq_none,
    hne integerData_eq_none, stringData_isSome ht hd, multiStringData_isSome ht hd⟩

end KeyValue

/-- Given the contract of `cell_range_from_data_offset`, `KeyValue::new` on a cell inside the
blob and every accessor of the Key Value it builds return without panicking, whatever the
header holds; the UTF-16 chunk conversions cannot panic either. The iterator's `next` and
`into_vec` are total functions of the model. -/
theorem new_and_accessors_never_panic {hive : Hive} (hc : hive.CellRangesInBlob)
    {cellRange : Range} (hr : cellRange.end ≤ hive.data.length) :
    (KeyValue.new hive cellRange).isSome ∧
      (∀ kv, KeyValue.new hive cellRange = some (.ok kv) → kv.AccessorsReturn) ∧
      ∀ bytes, (chunksExact 2 bytes).mapM (fun twoBytes => (tryInto 2 twoBytes).map u16FromLeBytes) =
        some (leU16s bytes) := by
  refine ⟨KeyValue.new_isSome hr, fun kv h => ?_, chunksExact_two_mapM_tryInto⟩
  obtain ⟨rfl, -⟩ := KeyValue.new_eq_ok h
  exact (KeyValue.new_wellFormed hr h).accessorsReturn hc

theorem new_and_accessors_never_panic_on_inline_value : emptyThenAHive.CellRangesInBlob ∧
    (⟨0, 20⟩ : Range).end ≤ emptyThenAHive.data.length ∧
    ((KeyValue.new emptyThenAHive ⟨0, 20⟩).isSome ∧
      (∀ kv, KeyValue.new emptyThenAHive ⟨0, 20⟩ = some (.ok kv) → kv.AccessorsReturn) ∧
      ∀ bytes, (chunksExact 2 bytes).mapM (fun twoBytes => (tryInto 2 twoBytes).map u16FromLeBytes) =
        some (leU16s bytes)) :=
  ⟨emptyThenAHive_cellRangesInBlob, le_refl _,
    new_and_accessors_never_panic emptyThenAHive_cellRangesInBlob (le_refl _)⟩

end NtHive
