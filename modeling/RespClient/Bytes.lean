/-!
# Byte strings

Everything that crosses the wire is a list of bytes. Text enters and leaves it
as UTF-8: `toText?` accepts exactly the bytes that `ofText` writes.
-/

namespace RespClient

abbrev Bytes := List UInt8

namespace Bytes

def carriageReturn : UInt8 := 13

def lineFeed : UInt8 := 10

def crlf : Bytes := [carriageReturn, lineFeed]

/-- The bytes in front of the first line feed, or all of them if there is none. -/
def firstLine (bytes : Bytes) : Bytes :=
  bytes.takeWhile (· != lineFeed)

theorem lineFeed_not_mem_firstLine (bytes : Bytes) : lineFeed ∉ bytes.firstLine := by
  intro member
  have differs := List.all_takeWhile (p := (· != lineFeed)) (l := bytes)
  exact bne_iff_ne.1 (List.all_eq_true.1 differs lineFeed member) rfl

theorem firstLine_eq {bytes : Bytes} (open_ended : bytes.length ≤ bytes.firstLine.length) :
    bytes.firstLine = bytes :=
  (List.takeWhile_prefix _).eq_of_length_le open_ended

/-- A first line that ends before the bytes do is followed by a line feed. -/
theorem eq_firstLine_append {bytes : Bytes} (ends : bytes.firstLine.length < bytes.length) :
    bytes = bytes.firstLine ++ lineFeed :: bytes.drop (bytes.firstLine.length + 1) := by
  induction bytes with
  | nil => cases ends
  | cons first rest ih =>
      by_cases feed : first = lineFeed
      · simp [firstLine, feed]
      · have kept : (first != lineFeed) = true := bne_iff_ne.2 feed
        simp only [firstLine, List.takeWhile_cons, kept, if_true, List.length_cons] at ends ⊢
        exact congrArg (first :: ·) (ih (Nat.lt_of_succ_lt_succ ends))

/-- Without a line feed all is the first line. -/
theorem firstLine_of_free {bytes : Bytes} (free : lineFeed ∉ bytes) : bytes.firstLine = bytes := by
  apply firstLine_eq
  apply Nat.le_of_not_lt
  intro ends
  rw [eq_firstLine_append ends] at free
  exact free (List.mem_append_right _ List.mem_cons_self)

theorem firstLine_append {before : Bytes} (rest : Bytes) (free : lineFeed ∉ before) :
    (before ++ lineFeed :: rest).firstLine = before := by
  unfold firstLine
  rw [List.takeWhile_append_of_pos]
  · simp
  · intro byte member
    exact bne_iff_ne.2 fun same => free (same ▸ member)

/-- Where two texts agree that are cut at their first line feed, they are cut at the same place. -/
theorem firstLine_inj {before other rest tail : Bytes} (free : lineFeed ∉ before)
    (absent : lineFeed ∉ other) (same : before ++ lineFeed :: rest = other ++ lineFeed :: tail) :
    before = other ∧ rest = tail := by
  have cut := congrArg firstLine same
  rw [firstLine_append rest free, firstLine_append tail absent] at cut
  subst cut
  exact ⟨rfl, (List.cons.inj (List.append_cancel_left same)).2⟩

/-- A line end begins with the return, which is no line feed. -/
theorem append_crlf (line more : Bytes) :
    line ++ crlf ++ more = (line ++ [carriageReturn]) ++ lineFeed :: more := by
  simp [crlf]

theorem free_return {line : Bytes} (free : lineFeed ∉ line) :
    lineFeed ∉ line ++ [carriageReturn] := by
  simpa [free] using (by decide : lineFeed ≠ carriageReturn)

/-- A line that is ended by a return and a line feed can be told from what comes after it. -/
theorem crlf_inj {line other rest tail : Bytes} (free : lineFeed ∉ line) (absent : lineFeed ∉ other)
    (same : line ++ crlf ++ rest = other ++ crlf ++ tail) : line = other ∧ rest = tail := by
  rw [append_crlf, append_crlf] at same
  obtain ⟨lines, tails⟩ := firstLine_inj (free_return free) (free_return absent) same
  exact ⟨List.append_cancel_right lines, tails⟩

/-- What has no line feed in it lies in front of the first one. -/
theorem append_of_free {bytes more before rest : Bytes} (free : lineFeed ∉ bytes)
    (same : bytes ++ more = before ++ lineFeed :: rest) :
    ∃ tail, before = bytes ++ tail ∧ more = tail ++ lineFeed :: rest := by
  rcases List.append_eq_append_iff.1 same with ⟨tail, longer, left⟩ | ⟨tail, shorter, left⟩
  · exact ⟨tail, longer, left⟩
  · cases tail with
    | nil => exact ⟨[], by simpa using shorter.symm, by simpa using left.symm⟩
    | cons first tail =>
        obtain ⟨rfl, -⟩ := List.cons.inj left
        exact absurd (shorter ▸ List.mem_append_right _ List.mem_cons_self) free

def ofText (text : String) : Bytes :=
  text.toByteArray.data.toList

def toText? (bytes : Bytes) : Option String :=
  String.fromUTF8? ⟨bytes.toArray⟩

theorem toText?_ofText (text : String) : toText? (ofText text) = some text := by
  have valid : ByteArray.IsValidUTF8 ⟨(ofText text).toArray⟩ := by
    simpa [ofText] using text.isValidUTF8
  simp only [toText?, String.fromUTF8?, valid, dite_true]
  congr 1

theorem ofText_of_toText? {bytes : Bytes} {text : String}
    (decoded : toText? bytes = some text) : ofText text = bytes := by
  unfold toText? String.fromUTF8? at decoded
  split at decoded
  · cases decoded
    simp [ofText, String.fromUTF8]
  · cases decoded

theorem toText?_eq_some_iff {bytes : Bytes} {text : String} :
    toText? bytes = some text ↔ bytes = ofText text :=
  ⟨fun decoded => (ofText_of_toText? decoded).symm, fun same => same ▸ toText?_ofText text⟩

/-- A character of ASCII is one byte. -/
theorem ofText_ascii {chars : List Char} (ascii : ∀ char ∈ chars, char.toNat < 128) :
    ofText (String.ofList chars) = chars.map Char.toUInt8 := by
  have single : ∀ char ∈ chars, String.utf8EncodeChar char = [char.toUInt8] := by
    intro char member
    apply String.utf8EncodeChar_eq_singleton
    exact Char.utf8Size_eq_one_iff.2
      (UInt32.le_iff_toNat_le.2 (Nat.le_of_lt_succ (ascii char member)))
  rw [ofText, String.toByteArray_ofList, List.utf8Encode, List.toList_data_toByteArray,
    List.map_eq_flatMap, List.flatMap_def, List.flatMap_def, List.map_congr_left single]

end Bytes

end RespClient
