import Drafting.Json.Quoted

/-!
# Quoted strings read back

Every character has one way of being quoted, and reading it gives one piece.
The pieces of a quoted string join to the string again: the numbers of escapes
are those of control characters, which are never halves of a surrogate pair.
-/

namespace Drafting
namespace Json

def pieceOf (c : Char) : Piece :=
  if c.toNat < 32 ∧ c ≠ '\n' ∧ c ≠ '\r' ∧ c ≠ '\t' ∧ c.toNat ≠ 8 ∧ c.toNat ≠ 12 then
    .unit c.toNat
  else .char c

theorem hexValue?_hexDigit {n : Nat} (h : n < 16) : hexValue? (hexDigit n) = some n := by
  have hall : forall n, n < 16 -> hexValue? (hexDigit n) = some n := by
    decide
  exact hall n h

theorem hex4?_hexDigits {n : Nat} (h : n < 32) :
    hex4? '0' '0' (hexDigit (n / 16)) (hexDigit (n % 16)) = some n := by
  have hzero : hexValue? '0' = some 0 := rfl
  simp only [hex4?, hzero, hexValue?_hexDigit (show n / 16 < 16 by omega),
    hexValue?_hexDigit (show n % 16 < 16 by omega), Option.some.injEq]
  omega

theorem takePieces_escape {c d : Char} {rest after : List Char} {pieces : List Piece}
    (hd : escaped? c = some d) (hrest : takePieces rest = some (pieces, after)) :
    takePieces ('\\' :: c :: rest) = some (.char d :: pieces, after) := by
  rw [takePieces]
  · simp [hd, hrest]
  · intro a b c' d' rest' hu
    cases hu
    cases hd

theorem takePieces_unit {a b c d : Char} {n : Nat} {rest after : List Char}
    {pieces : List Piece} (hn : hex4? a b c d = some n)
    (hrest : takePieces rest = some (pieces, after)) :
    takePieces ('\\' :: 'u' :: a :: b :: c :: d :: rest) = some (.unit n :: pieces, after) := by
  simp [takePieces, hn, hrest]

theorem takePieces_plain {c : Char} {rest after : List Char} {pieces : List Piece}
    (hquote : c ≠ '"') (hback : c ≠ '\\') (hcontrol : ¬ c.toNat < 32)
    (hrest : takePieces rest = some (pieces, after)) :
    takePieces (c :: rest) = some (.char c :: pieces, after) := by
  rw [takePieces]
  · simp [hcontrol, hrest]
  · exact hquote
  · intro a b c' d rest' heq
    exact absurd heq hback
  · intro c' rest' heq
    exact absurd heq hback

theorem takePieces_escapeChar (c : Char) {rest after : List Char} {pieces : List Piece}
    (hrest : takePieces rest = some (pieces, after)) :
    takePieces (escapeChar c ++ rest) = some (pieceOf c :: pieces, after) := by
  unfold escapeChar
  split
  · next h =>
      subst h
      exact takePieces_escape rfl hrest
  split
  · next h =>
      subst h
      exact takePieces_escape rfl hrest
  split
  · next h =>
      subst h
      exact takePieces_escape rfl hrest
  split
  · next h =>
      subst h
      exact takePieces_escape rfl hrest
  split
  · next h =>
      subst h
      exact takePieces_escape rfl hrest
  -- Backspace and form feed have short escapes as well, but are known by their numbers.
  next hquote hback hfeed hreturn htab =>
  split
  · next h =>
      have hc : c = Char.ofNat 8 := by rw [← h, Char.ofNat_toNat]
      subst hc
      exact takePieces_escape rfl hrest
  split
  · next h =>
      have hc : c = Char.ofNat 12 := by rw [← h, Char.ofNat_toNat]
      subst hc
      exact takePieces_escape rfl hrest
  next hback8 hfeed12 =>
  split
  · next h =>
      have hpiece : pieceOf c = .unit c.toNat := if_pos ⟨h, hfeed, hreturn, htab, hback8, hfeed12⟩
      rw [hpiece]
      exact takePieces_unit (hex4?_hexDigits h) hrest
  · next h =>
      have hpiece : pieceOf c = .char c := if_neg fun hc => h hc.1
      rw [hpiece]
      exact takePieces_plain hquote hback h hrest

theorem joinPieces_unit {n : Nat} (h : n < 32) (rest : List Piece) :
    joinPieces (.unit n :: rest) = (joinPieces rest).map (Char.ofNat n :: ·) := by
  have hhigh : isHighSurrogate n = false := by
    simp only [isHighSurrogate, Bool.and_eq_false_iff, decide_eq_false_iff_not]
    omega
  have hlow : isLowSurrogate n = false := by
    simp only [isLowSurrogate, Bool.and_eq_false_iff, decide_eq_false_iff_not]
    omega
  cases rest with
  | nil => simp [joinPieces, hhigh, hlow]
  | cons piece rest => cases piece <;> simp [joinPieces, hhigh, hlow]

theorem joinPieces_pieceOf (c : Char) (rest : List Piece) :
    joinPieces (pieceOf c :: rest) = (joinPieces rest).map (c :: ·) := by
  unfold pieceOf
  split
  · next h => rw [joinPieces_unit h.1, Char.ofNat_toNat]
  · rw [joinPieces]

theorem takePieces_flatMap (cs after : List Char) :
    takePieces (cs.flatMap escapeChar ++ '"' :: after) = some (cs.map pieceOf, after) := by
  induction cs with
  | nil => simp [takePieces]
  | cons c cs ih =>
      rw [List.flatMap_cons, List.append_assoc]
      exact takePieces_escapeChar c ih

theorem joinPieces_map (cs : List Char) : joinPieces (cs.map pieceOf) = some cs := by
  induction cs with
  | nil => rfl
  | cons c cs ih => rw [List.map_cons, joinPieces_pieceOf, ih, Option.map_some]

theorem takeString_quoted (s : String) (after : List Char) :
    takeString (s.toList.flatMap escapeChar ++ '"' :: after) = some (some s, after) := by
  simp [takeString, takePieces_flatMap, joinPieces_map]

end Json
end Drafting
