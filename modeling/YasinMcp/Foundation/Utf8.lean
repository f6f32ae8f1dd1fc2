import YasinMcp.Foundation.Uri

/-!
# Texts as bytes

A text is written in bytes and read back.  What was read back was written from
the text it gives, and a part of a text is written as a part of its bytes.
-/

namespace YasinMcp
namespace Foundation

def encodeUtf8 (s : String) : List UInt8 :=
  Uri.utf8 s.toList

def decodeUtf8? (bytes : List UInt8) : Option String :=
  String.fromUTF8? bytes.toByteArray

namespace Utf8

theorem toByteArray_encodeUtf8 (s : String) : (encodeUtf8 s).toByteArray = s.toByteArray := by
  have h : (String.ofList s.toList).toByteArray = s.toList.utf8Encode := rfl
  rw [String.ofList_toList] at h
  rw [h]
  rfl

theorem decode_encode (s : String) : decodeUtf8? (encodeUtf8 s) = some s := by
  rw [decodeUtf8?, toByteArray_encodeUtf8, String.fromUTF8?, dif_pos s.isValidUTF8]
  rfl

theorem toByteArray_injective {bytes bytes' : List UInt8}
    (h : bytes.toByteArray = bytes'.toByteArray) : bytes = bytes' := by
  have hlist := congrArg (fun array => array.data.toList) h
  simpa using hlist

theorem encode_of_decode {bytes : List UInt8} {s : String} (h : decodeUtf8? bytes = some s) :
    bytes = encodeUtf8 s := by
  rw [decodeUtf8?, String.fromUTF8?] at h
  split at h
  · cases h
    refine toByteArray_injective ?_
    rw [toByteArray_encodeUtf8]
    rfl
  · cases h

theorem length_encodeUtf8 (s : String) : (encodeUtf8 s).length = s.utf8ByteSize := by
  rw [← String.size_toByteArray, ← toByteArray_encodeUtf8, List.size_toByteArray]

theorem encodeUtf8_append (s t : String) : encodeUtf8 (s ++ t) = encodeUtf8 s ++ encodeUtf8 t := by
  rw [encodeUtf8, String.toList_append, Uri.utf8, List.flatMap_append]
  rfl

/-- What bytes of a character come first shows the character. -/
theorem utf8EncodeChar_append_injective {c d : Char} {rest rest' : List UInt8}
    (h : String.utf8EncodeChar c ++ rest = String.utf8EncodeChar d ++ rest') : c = d := by
  have hbytes := congrArg List.toByteArray h
  rw [List.toByteArray_append, List.toByteArray_append] at hbytes
  have hc := ByteArray.utf8DecodeChar?_utf8EncodeChar_append (b := rest.toByteArray) (c := c)
  rw [hbytes, ByteArray.utf8DecodeChar?_utf8EncodeChar_append] at hc
  exact (Option.some.inj hc).symm

theorem exists_of_utf8_append {cs ds : List Char} {rest : List UInt8}
    (h : Uri.utf8 cs ++ rest = Uri.utf8 ds) : exists es, ds = cs ++ es ∧ rest = Uri.utf8 es := by
  induction cs generalizing ds with
  | nil => exact ⟨ds, rfl, h⟩
  | cons c cs ih =>
      cases ds with
      | nil =>
          have hlength := congrArg List.length h
          rw [Uri.utf8_cons, List.length_append, List.length_append,
            String.length_utf8EncodeChar] at hlength
          have hpositive := Char.utf8Size_pos c
          change _ = 0 at hlength
          omega
      | cons d ds =>
          rw [Uri.utf8_cons, Uri.utf8_cons, List.append_assoc] at h
          have hc := utf8EncodeChar_append_injective h
          subst hc
          rcases ih (List.append_cancel_left h) with ⟨es, hds, hrest⟩
          exact ⟨es, congrArg (c :: ·) hds, hrest⟩

theorem exists_of_decode_front {bytes rest : List UInt8} {s t : String}
    (hall : bytes ++ rest = encodeUtf8 t) (hfront : decodeUtf8? bytes = some s) :
    exists u, t.toList = s.toList ++ u ∧ rest = Uri.utf8 u := by
  rw [encode_of_decode hfront] at hall
  exact exists_of_utf8_append hall

end Utf8

end Foundation
end YasinMcp
