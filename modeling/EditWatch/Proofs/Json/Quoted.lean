import EditWatch.Json.Text

/-!
# EditWatch.Proofs.Json.Quoted -- strings in quotes are read back

Each character is written as itself, as a backslash and a letter, or as a `\u` escape with four
digits. Whichever it is, the reader takes as much as was written for it, and the pieces it finds are
joined to the characters again. No control character is left in what is written, so a string in
quotes stands on one line.
-/

namespace EditWatch.Json

open EditWatch.Text

/-! ## One character -/

theorem readPieces_plain {c : Char} (hquote : c ≠ '"') (hslash : c ≠ '\\')
    (hcontrol : ¬ c.toNat < 0x20) (rest : List Char) :
    readPieces (c :: rest) = (readPieces rest).map fun p => (.char c :: p.1, p.2) := by
  rw [readPieces]
  · rw [if_neg (not_or.mpr ⟨hcontrol, hslash⟩)]
  · exact hquote
  · exact fun _ _ _ _ _ h _ => hslash h
  · exact fun _ _ h _ => hslash h

theorem readHex?_low {n : Nat} (h : n < 256) :
    readHex? ['0', '0', hexDigit (n / 16), hexDigit (n % 16)] = some n := by
  have hzero : hexValue? '0' = some 0 := by decide
  have hhigh := hexValue?_hexDigit (n / 16) (by omega)
  have hlow := hexValue?_hexDigit (n % 16) (by omega)
  simp only [readHex?, List.foldl_cons, List.foldl_nil, hzero, hhigh, hlow]
  congr 1
  omega

theorem joinPieces_unit {n : Nat} (h : n < 0xD800) (ps : List Piece) :
    joinPieces (.unit n :: ps) = (joinPieces ps).map (Char.ofNat n :: ·) := by
  have hleft : ¬ (0xD800 ≤ n ∧ n < 0xDC00) := by omega
  have hright : ¬ (0xDC00 ≤ n ∧ n < 0xE000) := by omega
  have hhalf : ¬ (0xD800 ≤ n ∧ n < 0xE000) := by omega
  rcases ps with _ | ⟨_ | m, ps⟩
  · simp only [joinPieces, if_neg hhalf]
  · simp only [joinPieces, if_neg hhalf]
  · simp only [joinPieces, if_neg hleft, if_neg hright]

/-- The escape of a character is read as one piece, from which the character is got again. -/
theorem exists_piece (c : Char) : ∃ piece,
    (∀ rest, readPieces (escape c ++ rest) =
      (readPieces rest).map fun p => (piece :: p.1, p.2)) ∧
    ∀ ps, joinPieces (piece :: ps) = (joinPieces ps).map (c :: ·) := by
  unfold escape
  split
  case h_8 _ hquote hslash _ _ _ _ _ =>
    by_cases hcontrol : c.toNat < 0x20
    · rw [if_pos hcontrol]
      refine ⟨.unit c.toNat, fun rest => ?_, fun ps => ?_⟩
      · show readPieces ('\\' :: 'u' :: '0' :: '0' :: hexDigit (c.toNat / 16) ::
          hexDigit (c.toNat % 16) :: rest) = _
        rw [readPieces, readHex?_low (by omega)]
      · rw [joinPieces_unit (by omega), Char.ofNat_toNat]
    · rw [if_neg hcontrol]
      exact ⟨.char c, readPieces_plain hquote hslash hcontrol, fun _ => rfl⟩
  all_goals exact ⟨_, fun _ => rfl, fun _ => rfl⟩

/-! ## Strings -/

theorem exists_pieces (cs rest : List Char) : ∃ pieces,
    readPieces (escapeAll cs ++ '"' :: rest) = some (pieces, rest) ∧
      joinPieces pieces = some cs := by
  induction cs with
  | nil => exact ⟨[], rfl, rfl⟩
  | cons c cs ih =>
      obtain ⟨pieces, hread, hjoin⟩ := ih
      obtain ⟨piece, hfirst, hchar⟩ := exists_piece c
      refine ⟨piece :: pieces, ?_, ?_⟩
      · rw [escapeAll, List.append_assoc, hfirst, hread, Option.map_some]
      · rw [hchar, hjoin, Option.map_some]

/-- Behind the opening quote the reader finds the string that was written. -/
theorem readString?_quote (s : String) (rest : List Char) :
    readString? (escapeAll s.toList ++ '"' :: rest) = some (some s, rest) := by
  obtain ⟨pieces, hread, hjoin⟩ := exists_pieces s.toList rest
  rw [readString?, hread, Option.map_some, hjoin, Option.map_some, String.ofList_toList]

/-! ## No control characters -/

theorem toNat_hexDigit : ∀ n, n < 16 → 0x20 ≤ (hexDigit n).toNat := by decide

theorem le_toNat_of_mem_escape {c d : Char} (h : d ∈ escape c) : 0x20 ≤ d.toNat := by
  unfold escape at h
  split at h
  case h_8 =>
    split at h
    · have hhigh := toNat_hexDigit (c.toNat / 16) (by omega)
      have hlow := toNat_hexDigit (c.toNat % 16) (by omega)
      simp only [List.mem_cons, List.not_mem_nil, or_false] at h
      rcases h with rfl | rfl | rfl | rfl | rfl | rfl
      · decide
      · decide
      · decide
      · decide
      · exact hhigh
      · exact hlow
    · rw [List.mem_singleton] at h
      subst h
      omega
  all_goals
    simp only [List.mem_cons, List.not_mem_nil, or_false] at h
    rcases h with rfl | rfl <;> decide

theorem le_toNat_of_mem_quote {s : String} {d : Char} (h : d ∈ quote s) : 0x20 ≤ d.toNat := by
  have hescaped : ∀ cs : List Char, ∀ d ∈ escapeAll cs, 0x20 ≤ d.toNat := by
    intro cs
    induction cs with
    | nil => exact List.forall_mem_nil _
    | cons c cs ih =>
        intro d hd
        rcases List.mem_append.mp hd with hd | hd
        · exact le_toNat_of_mem_escape hd
        · exact ih d hd
  rcases List.mem_cons.mp h with rfl | h
  · decide
  · rcases List.mem_append.mp h with h | h
    · exact hescaped _ _ h
    · rw [List.mem_singleton.mp h]
      decide

end EditWatch.Json
