import LtiLaunch.Form

/-!
# Forms read back

`decode_encodePairs` says that what is read from an encoded form are the pairs that were written,
whatever characters are in them. The separators never occur inside an encoded name or value.
-/

namespace LtiLaunch

namespace Text

theorem utf8_append (cs ds : List Char) : utf8 (cs ++ ds) = utf8 cs ++ utf8 ds :=
  List.flatMap_append

theorem percentDecode_cons_of_ne {b : UInt8} (h : b ≠ 0x25) (rest : List UInt8) :
    percentDecode (b :: rest) = b :: percentDecode rest := by
  match rest with
  | [] | [_] => rfl
  | _ :: _ :: _ => rw [percentDecode, if_neg h]

/-- A hexadecimal digit is one byte, which has the digit's value and is no separator. -/
theorem upperHexDigit_spec : ∀ n < 16, ∃ b, utf8Char (upperHexDigit n) = [b] ∧
    hexByte? b = some n ∧ b ≠ 0x26 ∧ b ≠ 0x2B ∧ b ≠ 0x3D := by
  intro n hn
  refine ⟨UInt8.ofNat (upperHexDigit n).toNat, ?_⟩
  revert n
  decide

end Text

namespace Form

open Text

def spaced (bytes : List UInt8) : List UInt8 := bytes.map fun b => if b = 0x2B then 0x20 else b

theorem decodeBytes_eq (bytes : List UInt8) :
    decodeBytes bytes = String.ofList (ofUtf8Lossy (percentDecode (spaced bytes))) := rfl

theorem spaced_append (bs cs : List UInt8) : spaced (bs ++ cs) = spaced bs ++ spaced cs :=
  List.map_append

/-- A byte that stands for itself is ASCII, and is none of those with a meaning of their own. -/
theorem isPlain_spec {b : UInt8} (h : isPlain b = true) :
    utf8Char (Char.ofNat b.toNat) = [b] ∧ b ≠ 0x25 ∧ b ≠ 0x26 ∧ b ≠ 0x2B ∧ b ≠ 0x3D := by
  have all : ∀ n < 256, isPlain (UInt8.ofNat n) = true →
      utf8Char (Char.ofNat (UInt8.ofNat n).toNat) = [UInt8.ofNat n] ∧ UInt8.ofNat n ≠ 0x25 ∧
        UInt8.ofNat n ≠ 0x26 ∧ UInt8.ofNat n ≠ 0x2B ∧ UInt8.ofNat n ≠ 0x3D := by
    decide +kernel
  have := all b.toNat b.toNat_lt
  rw [UInt8.ofNat_toNat] at this
  exact this h

/-! ### Names and values -/

/-- An encoded byte is one byte for itself, or `%` and the two digits of its value. -/
theorem encodeByte_spec (b : UInt8) :
    (spaced (utf8 (encodeByte b)) = [b] ∧ b ≠ 0x25) ∨
      ∃ h l, spaced (utf8 (encodeByte b)) = [0x25, h, l] ∧ hexByte? h = some (b.toNat / 16) ∧
        hexByte? l = some (b.toNat % 16) := by
  unfold encodeByte
  split
  · next space =>
    rw [space]
    exact .inl ⟨by decide, by decide⟩
  split
  · next plain =>
    obtain ⟨one, percent, -, plus, -⟩ := isPlain_spec plain
    refine .inl ⟨?_, percent⟩
    rw [utf8, List.flatMap_singleton, one]
    simp [spaced, plus]
  · have small := b.toNat_lt
    obtain ⟨h, high, value, -, plus, -⟩ := upperHexDigit_spec (b.toNat / 16) (by omega)
    obtain ⟨l, low, value', -, plus', -⟩ := upperHexDigit_spec (b.toNat % 16) (by omega)
    refine .inr ⟨h, l, ?_, value, value'⟩
    have percent : utf8Char '%' = [0x25] := by decide
    simp [utf8, percentByte, percent, high, low, spaced, plus, plus']

theorem percentDecode_encodeByte (b : UInt8) (rest : List UInt8) :
    percentDecode (spaced (utf8 (encodeByte b)) ++ rest) = b :: percentDecode rest := by
  rcases encodeByte_spec b with ⟨one, percent⟩ | ⟨h, l, three, high, low⟩
  · rw [one, List.singleton_append, percentDecode_cons_of_ne percent]
  · rw [three, List.cons_append, List.cons_append, List.singleton_append, percentDecode, if_pos rfl,
      high, low]
    show UInt8.ofNat (16 * (b.toNat / 16) + b.toNat % 16) :: _ = _
    rw [Nat.div_add_mod, UInt8.ofNat_toNat]

theorem percentDecode_encodeBytes (bytes : List UInt8) :
    percentDecode (spaced (utf8 (bytes.flatMap encodeByte))) = bytes := by
  induction bytes with
  | nil => rfl
  | cons b bytes ih =>
    rw [List.flatMap_cons, utf8_append, spaced_append, percentDecode_encodeByte, ih]

/-- An encoded text is read back as it was, whatever characters are in it. -/
theorem decodeBytes_encodeChars (s : String) : decodeBytes (utf8 (encodeChars s.toList)) = s := by
  rw [decodeBytes_eq, encodeChars, percentDecode_encodeBytes, ofUtf8Lossy_utf8, String.ofList_toList]

theorem encodeByte_ne {b x : UInt8} (mem : x ∈ utf8 (encodeByte b)) : x ≠ 0x26 ∧ x ≠ 0x3D := by
  unfold encodeByte at mem
  split at mem
  · have plus : utf8 ['+'] = [0x2B] := by decide
    rw [plus] at mem
    obtain rfl := List.mem_singleton.mp mem
    decide
  split at mem
  · next plain =>
    obtain ⟨one, -, amp, -, eq⟩ := isPlain_spec plain
    rw [utf8, List.flatMap_singleton, one] at mem
    obtain rfl := List.mem_singleton.mp mem
    exact ⟨amp, eq⟩
  · have small := b.toNat_lt
    obtain ⟨h, high, -, amp, -, eq⟩ := upperHexDigit_spec (b.toNat / 16) (by omega)
    obtain ⟨l, low, -, amp', -, eq'⟩ := upperHexDigit_spec (b.toNat % 16) (by omega)
    have percent : utf8Char '%' = [0x25] := by decide
    simp only [utf8, percentByte, List.flatMap_cons, List.flatMap_nil, percent, high, low,
      List.append_nil, List.singleton_append, List.mem_cons, List.not_mem_nil, or_false] at mem
    rcases mem with rfl | rfl | rfl
    · decide
    · exact ⟨amp, eq⟩
    · exact ⟨amp', eq'⟩

theorem encodeChars_ne {cs : List Char} {x : UInt8} (mem : x ∈ utf8 (encodeChars cs)) :
    x ≠ 0x26 ∧ x ≠ 0x3D := by
  unfold encodeChars at mem
  generalize utf8 cs = bytes at mem
  induction bytes with
  | nil => cases mem
  | cons b bytes ih =>
    rw [List.flatMap_cons, utf8_append] at mem
    rcases List.mem_append.mp mem with mem | mem
    · exact encodeByte_ne mem
    · exact ih mem

/-! ### Pairs -/

theorem splitOn_of_not_mem {sep : UInt8} {piece : List UInt8} (absent : sep ∉ piece) :
    splitOn sep piece = [piece] := by
  induction piece with
  | nil => rfl
  | cons b piece ih =>
    obtain ⟨other, absent⟩ := not_or.mp (mt List.mem_cons.mpr absent)
    rw [splitOn, if_neg (Ne.symm other), ih absent]

theorem splitOn_ne_nil (sep : UInt8) (bytes : List UInt8) : splitOn sep bytes ≠ [] := by
  induction bytes with
  | nil => simp [splitOn]
  | cons b bytes ih =>
    rw [splitOn]
    split
    · exact List.cons_ne_nil _ _
    · split <;> exact List.cons_ne_nil _ _

theorem splitOn_append_cons (sep : UInt8) (before rest : List UInt8) :
    splitOn sep (before ++ sep :: rest) = splitOn sep before ++ splitOn sep rest := by
  induction before with
  | nil => simp [splitOn]
  | cons b before ih =>
    rw [List.cons_append, splitOn, splitOn]
    split
    · rw [ih, List.cons_append]
    · rw [ih]
      cases pieces : splitOn sep before with
      | nil => exact absurd pieces (splitOn_ne_nil sep before)
      | cons piece pieces => rfl

theorem splitOn_append {sep : UInt8} {piece : List UInt8} (absent : sep ∉ piece)
    (rest : List UInt8) : splitOn sep (piece ++ sep :: rest) = piece :: splitOn sep rest := by
  rw [splitOn_append_cons, splitOn_of_not_mem absent]
  rfl

theorem splitPair_append {name : List UInt8} (absent : 0x3D ∉ name) (value : List UInt8) :
    splitPair (name ++ 0x3D :: value) = (name, value) := by
  induction name with
  | nil => rw [List.nil_append, splitPair, if_pos rfl]
  | cons b name ih =>
    obtain ⟨other, absent⟩ := not_or.mp (mt List.mem_cons.mpr absent)
    rw [List.cons_append, splitPair, if_neg (Ne.symm other), ih absent]

def pairBytes (p : String × String) : List UInt8 :=
  utf8 (encodeChars p.1.toList) ++ 0x3D :: utf8 (encodeChars p.2.toList)

theorem utf8_encodePair (p : String × String) : utf8 (encodePair p) = pairBytes p := by
  rw [encodePair, utf8_append]
  rfl

theorem splitPair_pairBytes (p : String × String) :
    splitPair (pairBytes p) = (utf8 (encodeChars p.1.toList), utf8 (encodeChars p.2.toList)) :=
  splitPair_append (fun mem => (encodeChars_ne mem).2 rfl) _

theorem not_mem_pairBytes (p : String × String) : 0x26 ∉ pairBytes p := by
  intro mem
  rcases List.mem_append.mp mem with mem | mem
  · exact (encodeChars_ne mem).1 rfl
  · rcases List.mem_cons.mp mem with same | mem
    · exact absurd same (by decide)
    · exact (encodeChars_ne mem).1 rfl

theorem splitOn_encodePairs (p : String × String) (ps : List (String × String)) :
    splitOn 0x26 (utf8 (encodePairs (p :: ps))) = (p :: ps).map pairBytes := by
  induction ps generalizing p with
  | nil => rw [encodePairs, utf8_encodePair, splitOn_of_not_mem (not_mem_pairBytes p)]; rfl
  | cons q ps ih =>
    have amp : utf8 ('&' :: encodePairs (q :: ps)) = 0x26 :: utf8 (encodePairs (q :: ps)) := rfl
    rw [encodePairs, utf8_append, utf8_encodePair, amp, splitOn_append (not_mem_pairBytes p), ih]
    · rfl
    · intro same
      cases same

theorem decode_encodePairs (ps : List (String × String)) : decode (utf8 (encodePairs ps)) = ps := by
  cases ps with
  | nil => rfl
  | cons p ps =>
    have kept : ((p :: ps).map pairBytes).filter (fun piece => !piece.isEmpty) =
        (p :: ps).map pairBytes := by
      refine List.filter_eq_self.mpr fun piece mem => ?_
      obtain ⟨q, -, rfl⟩ := List.mem_map.mp mem
      simp [pairBytes]
    unfold decode
    rw [splitOn_encodePairs, kept, List.map_map]
    refine (List.map_congr_left fun q _ => ?_).trans (List.map_id _)
    show (decodeBytes (splitPair (pairBytes q)).1, decodeBytes (splitPair (pairBytes q)).2) = q
    rw [splitPair_pairBytes, decodeBytes_encodeChars, decodeBytes_encodeChars]

end Form

end LtiLaunch
