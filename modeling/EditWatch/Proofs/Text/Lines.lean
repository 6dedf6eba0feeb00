import EditWatch.Text.Lines

/-!
# EditWatch.Proofs.Text.Lines -- lines of encoded text

In UTF-8 a byte below 0x80 stands for itself and occurs in the code of no other character. So line
feeds and carriage returns can be told in the bytes of a text, and text without line feeds that is
written on a line of its own comes back as one line.
-/

namespace EditWatch.Text

/-! ## Encoding -/

theorem encode_eq_flatMap (s : String) : encode s = s.toList.flatMap String.utf8EncodeChar := by
  conv => lhs; rw [← String.ofList_toList (s := s)]
  rw [encode, String.toByteArray_ofList, List.utf8Encode, List.data_toByteArray,
    List.toList_toArray]

theorem encode_append (s t : String) : encode (s ++ t) = encode s ++ encode t := by
  rw [encode_eq_flatMap, String.toList_append, List.flatMap_append, ← encode_eq_flatMap,
    ← encode_eq_flatMap]

/-- What was encoded is decoded again. -/
theorem decode?_encode (s : String) : decode? (encode s) = some s := by
  rw [decode?, encode, Array.toArray_toList]
  exact dif_pos s.isValidUTF8

theorem decode?_eq_some_iff {bytes : List UInt8} {s : String} :
    decode? bytes = some s ↔ bytes = encode s := by
  constructor
  · intro h
    rw [decode?, String.fromUTF8?] at h
    split at h
    · cases h
      rfl
    · exact nomatch h
  · rintro rfl
    exact decode?_encode s

theorem le_toNat_ofNat {n : Nat} (hlow : 0x80 ≤ n) (hhigh : n < 256) :
    0x80 ≤ (UInt8.ofNat n).toNat := by
  rwa [UInt8.toNat_ofNat', Nat.mod_eq_of_lt hhigh]

/-- A byte in the code of a character is the character or beyond ASCII. -/
theorem le_or_eq_of_mem_utf8EncodeChar {b : UInt8} {c : Char} (h : b ∈ String.utf8EncodeChar c) :
    0x80 ≤ b.toNat ∨ b.toNat = c.toNat := by
  simp only [String.utf8EncodeChar] at h
  split at h
  · rename_i hascii
    rw [List.mem_singleton.mp h, UInt8.toNat_ofNat', Nat.mod_eq_of_lt (by omega)]
    exact .inr rfl
  -- A character beyond ASCII takes two, three or four bytes.
  · left
    split at h
    · simp only [List.mem_cons, List.not_mem_nil, or_false] at h
      rcases h with rfl | rfl <;> exact le_toNat_ofNat (by omega) (by omega)
    · split at h
      · simp only [List.mem_cons, List.not_mem_nil, or_false] at h
        rcases h with rfl | rfl | rfl <;> exact le_toNat_ofNat (by omega) (by omega)
      · simp only [List.mem_cons, List.not_mem_nil, or_false] at h
        rcases h with rfl | rfl | rfl | rfl <;> exact le_toNat_ofNat (by omega) (by omega)

theorem eq_of_mem_utf8EncodeChar {c d : Char} (hascii : d.toNat < 0x80)
    (h : UInt8.ofNat d.toNat ∈ String.utf8EncodeChar c) : c = d := by
  have hbyte : (UInt8.ofNat d.toNat).toNat = d.toNat := by
    rw [UInt8.toNat_ofNat', Nat.mod_eq_of_lt (by omega)]
  rcases le_or_eq_of_mem_utf8EncodeChar h with hle | heq
  · omega
  · exact Char.toNat_inj.mp (heq.symm.trans hbyte)

/-- The byte of a character of ASCII occurs only where the character does. -/
theorem mem_of_mem_encode {d : Char} {s : String} (hascii : d.toNat < 0x80)
    (h : UInt8.ofNat d.toNat ∈ encode s) : d ∈ s.toList := by
  rw [encode_eq_flatMap] at h
  obtain ⟨c, hc, hb⟩ := List.mem_flatMap.mp h
  rwa [← eq_of_mem_utf8EncodeChar hascii hb]

/-! ## Lines -/

theorem linesFrom_line (seen : List UInt8) {line : List UInt8} (h : 10 ∉ line) (rest : List UInt8) :
    linesFrom seen (line ++ 10 :: rest) = closeLine (line.reverse ++ seen) :: linesFrom [] rest := by
  induction line generalizing seen with
  | nil => rfl
  | cons b line ih =>
      obtain ⟨hb, hline⟩ := List.ne_and_not_mem_of_not_mem_cons h
      rw [List.cons_append, linesFrom, if_neg (Ne.symm hb), ih _ hline, List.reverse_cons,
        List.append_assoc, List.singleton_append]

theorem lines_line {line : List UInt8} (h : 10 ∉ line) (rest : List UInt8) :
    lines (line ++ 10 :: rest) = closeLine line.reverse :: lines rest := by
  rw [lines, linesFrom_line [] h, List.append_nil, lines]

/-- A carriage return in front of the line feed belongs to the line end. -/
theorem closeLine_reverse_append (line : List UInt8) : closeLine (line ++ [13]).reverse = line := by
  rw [List.reverse_append, List.reverse_singleton, List.singleton_append, closeLine,
    List.reverse_reverse]

/-- A line that does not end in a carriage return stays as it is. -/
theorem closeLine_reverse {line : List UInt8} (h : line.getLast? ≠ some 13) :
    closeLine line.reverse = line := by
  rw [closeLine]
  · exact List.reverse_reverse line
  · intro seen heq
    rw [List.getLast?_eq_head?_reverse, heq] at h
    exact h rfl

/-! ## Whole lines -/

/-- Every line of the input has its line feed. -/
def Ended (bytes : List UInt8) : Prop := bytes = [] ∨ bytes.getLast? = some 10

theorem Ended.exists_append {bytes : List UInt8} (h : Ended bytes) :
    bytes = [] ∨ ∃ whole, bytes = whole ++ [10] := by
  refine h.imp id fun hlast => ?_
  obtain ⟨whole, hwhole⟩ := List.getLast?_eq_some_iff.mp hlast
  exact ⟨whole, hwhole⟩

theorem linesFrom_append (seen whole rest : List UInt8) :
    linesFrom seen (whole ++ 10 :: rest) = linesFrom seen (whole ++ [10]) ++ linesFrom [] rest := by
  induction whole generalizing seen with
  | nil => rfl
  | cons b whole ih =>
      rw [List.cons_append, List.cons_append, linesFrom, linesFrom]
      split
      · rw [ih, List.cons_append]
      · exact ih _

/-- Behind whole lines a new line begins. -/
theorem lines_append {bytes : List UInt8} (h : Ended bytes) (rest : List UInt8) :
    lines (bytes ++ rest) = lines bytes ++ lines rest := by
  rcases h.exists_append with rfl | ⟨whole, rfl⟩
  · rfl
  · rw [List.append_assoc, List.singleton_append]
    exact linesFrom_append [] whole rest

theorem length_linesFrom (seen whole : List UInt8) :
    (linesFrom seen (whole ++ [10])).length = (whole ++ [10]).count 10 := by
  induction whole generalizing seen with
  | nil => rfl
  | cons b whole ih =>
      rw [List.cons_append, linesFrom]
      split
      · rename_i hfeed
        rw [hfeed, List.length_cons, ih, List.count_cons_self]
      · rename_i hother
        rw [ih, List.count_cons_of_ne hother]

/-- Whole lines are as many as there are line feeds. -/
theorem length_lines {bytes : List UInt8} (h : Ended bytes) :
    (lines bytes).length = bytes.count 10 := by
  rcases h.exists_append with rfl | ⟨whole, rfl⟩
  · rfl
  · exact length_linesFrom [] whole

theorem linesFrom_rest (seen : List UInt8) {last : List UInt8} (h : 10 ∉ last)
    (hsome : last ≠ [] ∨ seen ≠ []) : linesFrom seen last = [(last.reverse ++ seen).reverse] := by
  induction last generalizing seen with
  | nil =>
      have hseen : seen ≠ [] := hsome.resolve_left fun hnil => hnil rfl
      rw [linesFrom, if_neg (by simpa using hseen)]
      rfl
  | cons b last ih =>
      obtain ⟨hb, hlast⟩ := List.ne_and_not_mem_of_not_mem_cons h
      rw [linesFrom, if_neg (Ne.symm hb), ih (b :: seen) hlast (.inr (List.cons_ne_nil _ _)),
        List.reverse_cons, List.append_assoc, List.singleton_append]

/-- What has no line feed is a line of its own. -/
theorem lines_rest {last : List UInt8} (h : 10 ∉ last) (hsome : last ≠ []) :
    lines last = [last] := by
  rw [lines, linesFrom_rest [] h (.inl hsome), List.append_nil, List.reverse_reverse]

/-- An input is made of whole lines, and of a last line without a line feed unless there is none. -/
theorem exists_ended_append (bytes : List UInt8) :
    ∃ whole last, bytes = whole ++ last ∧ Ended whole ∧ 10 ∉ last := by
  by_cases hfeed : 10 ∈ bytes
  · obtain ⟨back, front, hreverse, hback⟩ :=
      List.eq_append_cons_of_mem (List.mem_reverse.mpr hfeed)
    refine ⟨front.reverse ++ [10], back.reverse, ?_, .inr List.getLast?_concat,
      fun hmem => hback (List.mem_reverse.mp hmem)⟩
    rw [← List.reverse_reverse bytes, hreverse, List.reverse_append, List.reverse_cons]
  · exact ⟨[], bytes, rfl, .inl rfl, hfeed⟩

/-! ## Text on lines -/

/-- How a line ends. -/
inductive LineEnd where
  | feed
  | returnFeed
  deriving DecidableEq

def LineEnd.text : LineEnd → String
  | .feed => "\n"
  | .returnFeed => "\r\n"

/-- The last byte of a text is a carriage return only if the last character is one. -/
theorem exists_of_getLast?_encode {t : String} (h : (encode t).getLast? = some 13) :
    ∃ u, t = u ++ "\r" := by
  rcases List.eq_nil_or_concat t.toList with hnil | ⟨cs, c, hconcat⟩
  · rw [encode_eq_flatMap, hnil] at h
    exact nomatch h
  · rw [List.concat_eq_append] at hconcat
    have hlast : 13 ∈ String.utf8EncodeChar c := by
      rw [encode_eq_flatMap, hconcat, List.flatMap_append, List.flatMap_singleton,
        List.getLast?_append, List.getLast?_eq_some_getLast String.utf8EncodeChar_ne_nil,
        Option.some_or] at h
      exact Option.some.inj h ▸ List.getLast_mem _
    have hc : c = '\r' := eq_of_mem_utf8EncodeChar (by decide) hlast
    subst hc
    refine ⟨String.ofList cs, ?_⟩
    rw [← String.ofList_toList (s := t), hconcat, String.ofList_append]

/-- A carriage return behind bytes is one behind the text that they encode. -/
theorem decode?_append_return (line : List UInt8) :
    decode? (line ++ [13]) = (decode? line).map (· ++ "\r") := by
  ext t
  rw [Option.map_eq_some_iff]
  simp only [decode?_eq_some_iff]
  constructor
  · intro h
    have hlast : (encode t).getLast? = some 13 := h ▸ List.getLast?_concat
    obtain ⟨u, rfl⟩ := exists_of_getLast?_encode hlast
    rw [encode_append] at h
    exact ⟨u, List.append_cancel_right h, rfl⟩
  · rintro ⟨u, rfl, rfl⟩
    exact (encode_append u "\r").symm

/-- Text without line feeds that is written on a line of its own is read as this line, but for a
carriage return at its end. -/
theorem exists_lines_encode {t : String} (h : '\n' ∉ t.toList) (e : LineEnd) (rest : List UInt8) :
    ∃ u, (u = t ∨ t = u ++ "\r") ∧ lines (encode (t ++ e.text) ++ rest) = encode u :: lines rest := by
  have hfeed : 10 ∉ encode t := fun hmem => h (mem_of_mem_encode (by decide) hmem)
  cases e with
  | feed =>
      have hsplit : encode (t ++ LineEnd.feed.text) ++ rest = encode t ++ 10 :: rest := by
        rw [encode_append, List.append_assoc]
        rfl
      rw [hsplit, lines_line hfeed]
      by_cases hlast : (encode t).getLast? = some 13
      · obtain ⟨u, rfl⟩ := exists_of_getLast?_encode hlast
        refine ⟨u, .inr rfl, ?_⟩
        rw [encode_append]
        exact congrArg (· :: lines rest) (closeLine_reverse_append (encode u))
      · exact ⟨t, .inl rfl, by rw [closeLine_reverse hlast]⟩
  | returnFeed =>
      have hsplit : encode (t ++ LineEnd.returnFeed.text) ++ rest =
          (encode t ++ [13]) ++ 10 :: rest := by
        rw [encode_append, List.append_assoc, List.append_assoc]
        rfl
      have hreturn : 10 ∉ encode t ++ [13] := by
        rw [List.mem_append, List.mem_singleton]
        exact not_or.mpr ⟨hfeed, by decide⟩
      refine ⟨t, .inl rfl, ?_⟩
      rw [hsplit, lines_line hreturn, closeLine_reverse_append]

end EditWatch.Text
