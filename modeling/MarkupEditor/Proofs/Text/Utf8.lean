import Mathlib.Order.Monotone.Defs
import Mathlib.Order.Nat
import MarkupEditor.Proofs.Text.Span

/-!
# Spans of bytes and spans of characters

The widths that a span is reckoned with are those of the encoding of the text in UTF-8. So a byte to
which an offset leads is one where a character starts, or the end of the encoding. A slice has the
bytes between two such places, and a splice keeps the bytes on either side of them. Both clamp their
offsets in the same way, so putting a slice back where it was taken from changes nothing.
-/

namespace MarkupEditor.Text

/-! ### The encoding -/

theorem size_utf8Encode (text : Text) : text.utf8Encode.size = text.byteLength := by
  induction text with
  | nil => rfl
  | cons c rest ih =>
      rw [List.utf8Encode_cons, ByteArray.size_append, ih, List.utf8Encode_singleton,
        List.size_toByteArray, String.length_utf8EncodeChar, byteLength_cons]

theorem utf8ByteSize_ofList (text : Text) :
    (String.ofList text).utf8ByteSize = text.byteLength := by
  rw [← String.size_toByteArray, String.toByteArray_ofList, size_utf8Encode]

/-- The bytes of a part stand behind those of the part in front of it. -/
theorem extract_utf8Encode (front middle behind : Text) :
    (front ++ middle ++ behind).utf8Encode.extract front.byteLength (front ++ middle).byteLength =
      middle.utf8Encode := by
  calc (front ++ middle ++ behind).utf8Encode.extract front.byteLength (front ++ middle).byteLength
      = (front.utf8Encode ++ (middle ++ behind).utf8Encode).extract
          (front.utf8Encode.size + 0) (front.utf8Encode.size + middle.utf8Encode.size) := by
        rw [List.append_assoc, List.utf8Encode_append, size_utf8Encode, size_utf8Encode,
          byteLength_append, Nat.add_zero]
    _ = (middle.utf8Encode ++ behind.utf8Encode).extract 0 middle.utf8Encode.size := by
        rw [ByteArray.extract_append_size_add, List.utf8Encode_append]
    _ = middle.utf8Encode := ByteArray.extract_append_eq_left rfl

/-- The place to which an offset leads is between two characters, or at an end of the text. -/
theorem isValid_byteIndex (text : Text) (offset : Nat) :
    String.Pos.Raw.IsValid (String.ofList text) ⟨text.byteIndex offset⟩ := by
  rw [String.Pos.Raw.isValid_iff_exists_append]
  refine ⟨String.ofList (text.take offset), String.ofList (text.drop offset), ?_, ?_⟩
  · rw [← String.ofList_append, List.take_append_drop]
  · rw [byteIndex_eq, ← utf8ByteSize_ofList]
    rfl

/-! ### Slices and splices -/

section Parts

variable (text : Text) (start stop : Nat)

theorem take_append_slice :
    text.take start ++ text.slice start stop = text.take (max start stop) := by
  have hsum : max start stop = start + (stop - start) := by omega
  rw [slice_eq, hsum, List.take_add]

/-- What a splice keeps is what is left when the slice is taken out. -/
theorem take_append_slice_append_drop :
    text.take start ++ text.slice start stop ++ text.drop (max start stop) = text := by
  rw [take_append_slice, List.take_append_drop]

theorem slice_eq_drop_take : text.slice start stop = (text.take (max start stop)).drop start := by
  have hsub : max start stop - start = stop - start := by omega
  rw [slice_eq, List.drop_take, hsub]

theorem utf8Encode_slice :
    (text.slice start stop).utf8Encode =
      text.utf8Encode.extract (text.byteSpan start stop).1 (text.byteSpan start stop).2 := by
  have hparts := extract_utf8Encode (text.take start) (text.slice start stop)
    (text.drop (max start stop))
  rw [take_append_slice_append_drop, take_append_slice] at hparts
  rw [byteSpan_eq, byteIndex_eq, byteIndex_eq, hparts]

theorem utf8Encode_splice (value : Text) :
    (text.splice start stop value).utf8Encode =
      text.utf8Encode.extract 0 (text.byteSpan start stop).1 ++ value.utf8Encode ++
        text.utf8Encode.extract (text.byteSpan start stop).2 text.byteLength := by
  have hfront := extract_utf8Encode [] (text.take start) (text.drop start)
  rw [List.nil_append, List.take_append_drop, byteLength_nil] at hfront
  have hbehind := extract_utf8Encode (text.take (max start stop)) (text.drop (max start stop)) []
  rw [List.append_nil, List.take_append_drop] at hbehind
  rw [splice_eq, List.utf8Encode_append, List.utf8Encode_append, byteSpan_eq, byteIndex_eq,
    byteIndex_eq, hfront, hbehind]

theorem splice_slice : text.splice start stop (text.slice start stop) = text := by
  rw [splice_eq, take_append_slice_append_drop]

theorem length_splice (value : Text) :
    (text.splice start stop value).length + (text.slice start stop).length =
      text.length + value.length := by
  have htext := congrArg List.length (take_append_slice_append_drop text start stop)
  simp only [List.length_append] at htext
  rw [splice_eq, List.length_append, List.length_append]
  omega

end Parts

/-- **Spans of bytes are spans of characters.** An offset leads to the byte behind as many
characters, or to the end if there are fewer. That byte is one where a character starts or the end,
and a larger offset leads no further to the front. A slice holds the characters from the first
offset up to the second, none if that is smaller, and its bytes are those between the two places. A
splice puts the value where the slice was, and so keeps the text if the value is the slice. -/
theorem byte_spans_are_character_spans (text : Text) (start stop : Nat) (value : Text) :
    (text.byteIndex start = (String.ofList (text.take (min start text.length))).utf8ByteSize ∧
      String.Pos.Raw.IsValid (String.ofList text) ⟨text.byteIndex start⟩ ∧
      text.byteIndex start ≤ (String.ofList text).utf8ByteSize ∧
      Monotone text.byteIndex) ∧
    (text.slice start stop = (text.take (max start stop)).drop start ∧
      (text.slice start stop).utf8Encode =
        text.utf8Encode.extract (text.byteIndex start)
          (max (text.byteIndex stop) (text.byteIndex start))) ∧
    (text.splice start stop value =
        text.take start ++ value ++ text.drop (max start stop) ∧
      (text.splice start stop value).utf8Encode =
        text.utf8Encode.extract 0 (text.byteIndex start) ++ value.utf8Encode ++
          text.utf8Encode.extract (max (text.byteIndex stop) (text.byteIndex start))
            (String.ofList text).utf8ByteSize) ∧
    text.splice start stop (text.slice start stop) = text ∧
    (text.splice start stop value).length + (text.slice start stop).length =
      text.length + value.length := by
  rw [utf8ByteSize_ofList, utf8ByteSize_ofList]
  have hclamped : text.take (min start text.length) = text.take start := by
    rw [← List.take_eq_take_min]
  refine ⟨⟨?_, isValid_byteIndex text start, byteIndex_le_byteLength text start, ?_⟩,
    ⟨slice_eq_drop_take text start stop, utf8Encode_slice text start stop⟩,
    ⟨splice_eq text start stop value, utf8Encode_splice text start stop value⟩,
    splice_slice text start stop, length_splice text start stop value⟩
  · rw [hclamped, byteIndex_eq]
  · intro first second hle
    exact byteIndex_le_byteIndex text hle

/-- Widths differ, and offsets go past the end or against the order. -/
example :
    slice "naïve".toList 2 5 = "ïve".toList ∧ slice "abc".toList 5 10 = [] ∧
      splice "héllo".toList 1 3 "**é l**".toList = "h**é l**lo".toList ∧
      splice "abc".toList 2 1 "!".toList = "ab!c".toList := by
  decide

end MarkupEditor.Text
