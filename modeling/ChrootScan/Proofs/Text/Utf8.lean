import ChrootScan.Proofs.Text.Fields
import ChrootScan.Text.Utf8

/-!
# Characters among bytes

In UTF-8 the first byte of a character is told apart from the later ones, so the bytes of a character
occur among those of a text only where the character itself does (`infix_encodeChars_iff`). For the
same reason a newline byte is a newline, and the lines of the bytes are those of the text
(`fields_encodeChars`, `byteLines_encode`).
-/

namespace ChrootScan.Text

/-! ## Bytes -/

/-- The bytes of an array are listed in order, behind those that were listed before. -/
theorem toList_loop_eq (bytes : ByteArray) (i : Nat) (before : List UInt8) :
    ByteArray.toList.loop bytes i before = before.reverse ++ bytes.data.toList.drop i := by
  -- along the loop, `before` holds the bytes in front of `i`, the last one first
  induction i, before using ByteArray.toList.loop.induct bytes with
  | case1 i before hlt ih =>
    have hi : i < bytes.data.toList.length := by simpa using hlt
    have hget : bytes.get! i = bytes.data.toList[i] := by
      rw [Array.getElem_toList]
      exact getElem!_pos bytes.data i (by simpa using hlt)
    rw [ByteArray.toList.loop, if_pos hlt, ih, List.drop_eq_getElem_cons hi, hget, List.reverse_cons,
      List.append_assoc, List.singleton_append]
  | case2 i before hge =>
    have hdrop : bytes.data.toList.length ≤ i := by simpa using hge
    rw [ByteArray.toList.loop, if_neg hge, List.drop_eq_nil_of_le hdrop, List.append_nil]

theorem toList_bytes (bytes : ByteArray) : bytes.toList = bytes.data.toList :=
  toList_loop_eq bytes 0 []

theorem toList_extract (bytes : ByteArray) (n : Nat) :
    (bytes.extract 0 n).toList = bytes.toList.take n := by
  rw [toList_bytes, toList_bytes, ByteArray.data_extract, Array.toList_extract]
  simp

/-- The bytes of characters. -/
def encodeChars (s : List Char) : List UInt8 :=
  s.flatMap String.utf8EncodeChar

@[simp] theorem encodeChars_cons (c : Char) (s : List Char) :
    encodeChars (c :: s) = String.utf8EncodeChar c ++ encodeChars s :=
  List.flatMap_cons

theorem encodeChars_append (s t : List Char) :
    encodeChars (s ++ t) = encodeChars s ++ encodeChars t :=
  List.flatMap_append

/-- Bytes that are read as a text are those of its characters. -/
theorem toList_of_decode? {bytes : ByteArray} {text : String} (h : decode? bytes = some text) :
    bytes.toList = encodeChars text.toList := by
  unfold decode? String.fromUTF8? at h
  split at h
  · next hvalid =>
    have hbytes : text.toByteArray = bytes := by
      rw [← Option.some.inj h]
      rfl
    rw [toList_bytes, ← hbytes, ← String.utf8Encode_toList]
    exact List.toList_data_toByteArray
  · cases h

theorem decode?_isSome {bytes : ByteArray} : (decode? bytes).isSome = true ↔ bytes.IsValidUTF8 := by
  unfold decode? String.fromUTF8?
  split
  · next h => exact iff_of_true rfl h
  · next h => exact iff_of_false Bool.false_ne_true h

/-! ## Where a character begins -/

/-- A character is known from the bytes that begin with its own. -/
theorem utf8EncodeChar_append_inj {c d : Char} {rest rest' : List UInt8}
    (h : String.utf8EncodeChar c ++ rest = String.utf8EncodeChar d ++ rest') : c = d := by
  have hdecode (e : Char) (more : List UInt8) :
      (String.utf8EncodeChar e ++ more).toByteArray.utf8DecodeChar? 0 = some e := by
    rw [List.toByteArray_append]
    exact ByteArray.utf8DecodeChar?_utf8EncodeChar_append
  have hc := hdecode c rest
  rw [h, hdecode] at hc
  exact (Option.some.inj hc).symm

/-- What begins with the first byte of a character and ends another one is that character. -/
theorem eq_nil_of_utf8EncodeChar_eq_append {c d : Char} {before rest behind more : List UInt8}
    (hd : String.utf8EncodeChar d = before ++ rest) (hrest : rest ≠ [])
    (hc : rest ++ more = String.utf8EncodeChar c ++ behind) : before = [] := by
  obtain ⟨first, rest, rfl⟩ := List.exists_cons_of_ne_nil hrest
  -- the byte behind `before` begins a character, and only one of those of `d` does
  have hfirst : first.IsUTF8FirstByte := by
    obtain ⟨b, bs, hbytes⟩ := List.exists_cons_of_ne_nil (String.utf8EncodeChar_ne_nil (c := c))
    have hb := UInt8.isUTF8FirstByte_getElem_zero_utf8EncodeChar (c := c)
    rw [hbytes] at hc
    obtain ⟨rfl, -⟩ := List.cons_eq_cons.1 hc
    simpa only [hbytes, List.getElem_cons_zero] using hb
  have hlt : before.length < (String.utf8EncodeChar d).length := by
    rw [hd, List.length_append, List.length_cons]
    omega
  have hget : (String.utf8EncodeChar d)[before.length] = first := by
    simp [hd]
  rw [← hget, UInt8.isUTF8FirstByte_getElem_utf8EncodeChar] at hfirst
  exact List.length_eq_zero_iff.1 hfirst

/-- The bytes of a character occur among those of a text exactly if the character is in it. -/
theorem infix_encodeChars_iff {c : Char} {s : List Char} :
    String.utf8EncodeChar c <:+: encodeChars s ↔ c ∈ s := by
  constructor
  · intro h
    induction s with
    | nil => exact absurd (List.infix_nil.1 h) String.utf8EncodeChar_ne_nil
    | cons d s ih =>
      obtain ⟨before, behind, h⟩ := h
      rw [encodeChars_cons, List.append_assoc] at h
      -- the bytes of `c` begin among those of `d`, or behind them
      obtain ⟨rest, hd, hc⟩ | ⟨rest, -, hs⟩ := List.append_eq_append_iff.1 h
      · by_cases hrest : rest = []
        · subst hrest
          exact List.mem_cons_of_mem d (ih ⟨[], behind, hc⟩)
        · -- the character cannot begin within the bytes of another one
          obtain rfl := eq_nil_of_utf8EncodeChar_eq_append hd hrest hc.symm
          rw [List.nil_append] at hd
          rw [← hd] at hc
          rw [utf8EncodeChar_append_inj hc]
          exact List.mem_cons_self
      · exact List.mem_cons_of_mem d (ih ⟨rest, behind, by rw [hs, List.append_assoc]⟩)
  · intro h
    obtain ⟨before, behind, rfl⟩ := List.append_of_mem h
    rw [encodeChars_append, encodeChars_cons]
    exact ⟨encodeChars before, encodeChars behind, by rw [List.append_assoc]⟩

/-! ## Lines -/

/-- The byte of a character that has only one is in no other character. -/
theorem mem_utf8EncodeChar_iff {c d : Char} {b : UInt8} (hd : String.utf8EncodeChar d = [b]) :
    b ∈ String.utf8EncodeChar c ↔ c = d := by
  constructor
  · intro h
    obtain ⟨before, rest, hc⟩ := List.append_of_mem h
    have hbegins : b :: rest ++ [] = String.utf8EncodeChar d ++ rest := by
      rw [hd, List.append_nil, List.singleton_append]
    obtain rfl := eq_nil_of_utf8EncodeChar_eq_append hc (List.cons_ne_nil _ _) hbegins
    rw [List.nil_append, ← List.append_nil (b :: rest), hbegins] at hc
    exact utf8EncodeChar_append_inj ((List.append_nil _).trans hc)
  · rintro rfl
    rw [hd]
    exact List.mem_singleton_self _

/-- Only a newline has a newline byte. -/
theorem newline_mem_utf8EncodeChar_iff {c : Char} :
    (10 : UInt8) ∈ String.utf8EncodeChar c ↔ c = '\n' :=
  mem_utf8EncodeChar_iff (by decide)

/-- A text ends with a character that has only one byte exactly if its bytes end with that. -/
theorem getLast?_encodeChars_eq_iff {d : Char} {b : UInt8} (hd : String.utf8EncodeChar d = [b])
    (s : List Char) : (encodeChars s).getLast? = some b ↔ s.getLast? = some d := by
  obtain rfl | ⟨front, c, rfl⟩ := List.eq_nil_or_concat s
  · simp [encodeChars]
  · have hlast : (String.utf8EncodeChar c).getLast? = some b ↔ c = d := by
      constructor
      · intro h
        exact (mem_utf8EncodeChar_iff hd).1 (List.mem_of_getLast? h)
      · rintro rfl
        rw [hd]
        rfl
    have hbytes : encodeChars (front ++ [c]) = encodeChars front ++ String.utf8EncodeChar c := by
      rw [encodeChars_append, encodeChars_cons]
      exact congrArg _ (List.append_nil _)
    rw [List.concat_eq_append, hbytes, List.getLast?_append_of_ne_nil _ String.utf8EncodeChar_ne_nil,
      hlast, List.getLast?_concat, Option.some_inj]

/-- The fields between newline bytes are those of the text. -/
theorem fields_encodeChars (s : List Char) :
    fields 10 (encodeChars s) = (fields '\n' s).map encodeChars := by
  induction s with
  | nil => rfl
  | cons c s ih =>
    rw [encodeChars_cons]
    by_cases hc : c = '\n'
    · subst hc
      have hnewline : String.utf8EncodeChar '\n' ++ encodeChars s = 10 :: encodeChars s := rfl
      rw [hnewline, fields, fields, if_pos rfl, if_pos rfl, ih]
      rfl
    · -- the bytes of `c` hold no newline, so they only make the first field longer
      obtain ⟨piece, pieces, hpieces, hfields⟩ :=
        fields_append_of_not_mem (mt newline_mem_utf8EncodeChar_iff.1 hc) (encodeChars s)
      rw [ih] at hpieces
      rw [hfields, fields, if_neg hc]
      cases hs : fields '\n' s with
      | nil => exact absurd hs (fields_ne_nil '\n' s)
      | cons first rest =>
        rw [hs] at hpieces
        obtain ⟨rfl, rfl⟩ := List.cons_eq_cons.1 hpieces
        rfl

/-- The carriage return at the end of a line is one among the bytes, too. -/
theorem dropEnd_encodeChars (line : List Char) :
    dropEnd 13 (encodeChars line) = encodeChars (dropReturn line) := by
  have hreturn : String.utf8EncodeChar '\r' = [13] := by decide
  unfold dropReturn dropEnd
  by_cases hlast : line.getLast? = some '\r'
  · rw [if_pos hlast, if_pos ((getLast?_encodeChars_eq_iff hreturn line).2 hlast)]
    obtain ⟨front, rfl⟩ := List.getLast?_eq_some_iff.1 hlast
    have hbytes : encodeChars (front ++ ['\r']) = encodeChars front ++ [13] := by
      rw [encodeChars_append]
      rfl
    rw [hbytes, List.dropLast_concat, List.dropLast_concat]
  · rw [if_neg hlast, if_neg (mt (getLast?_encodeChars_eq_iff hreturn line).1 hlast)]

/-- Bytes of a text are cut into lines where its characters are. -/
theorem linesOfFields_encodeChars (pieces : List (List Char)) :
    linesOfFields (dropEnd 13) (pieces.map encodeChars) =
      (linesOfFields dropReturn pieces).map encodeChars := by
  induction pieces with
  | nil => rfl
  | cons piece pieces ih =>
    cases pieces with
    | nil =>
      cases piece with
      | nil => rfl
      | cons c rest => simp [linesOfFields]
    | cons next pieces =>
      show dropEnd 13 (encodeChars piece) :: linesOfFields (dropEnd 13) ((next :: pieces).map _) = _
      rw [dropEnd_encodeChars, ih]
      rfl

/-! ## Texts -/

theorem decode?_encode (s : String) : decode? (encode s) = some s :=
  dif_pos s.isValidUTF8

theorem toList_encode (s : String) : (encode s).toList = encodeChars s.toList :=
  toList_of_decode? (decode?_encode s)

/-- The bytes of characters make up the bytes of their text. -/
theorem mk_encodeChars (s : List Char) :
    (⟨(encodeChars s).toArray⟩ : ByteArray) = encode (String.ofList s) := by
  have hbytes := toList_encode (String.ofList s)
  rw [toList_bytes, String.toList_ofList] at hbytes
  apply ByteArray.ext
  rw [← hbytes]

/-- The lines of the bytes of a text are those of the text. -/
theorem byteLines_encode (s : String) :
    byteLines (encode s) = (linesChars s.toList).map fun line => encode (String.ofList line) := by
  rw [byteLines, toList_encode, fields_encodeChars, linesOfFields_encodeChars, List.map_map]
  apply List.map_congr_left
  intro line _
  exact mk_encodeChars line

end ChrootScan.Text
