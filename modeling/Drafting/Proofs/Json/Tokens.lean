import Drafting.Json.Written
import Drafting.Proofs.Json.Numerals
import Drafting.Proofs.Json.Strings

/-!
# The tokens of a written value

Both written forms of a value have the same tokens: they differ in spaces alone.
The tokens are stated here apart from the texts, so that what is built from them
has to be looked at only once.  Those behind the first item of an array, or the
first member of an object, are functions of their own, as they are in the text.
-/

namespace Drafting
namespace Json

open Decimal

inductive Standard : Json -> Prop where
  | null : Standard .null
  | bool (b : Bool) : Standard (.bool b)
  | number {n : Numeral} : n.Standard -> Standard (.number n)
  | string (s : String) : Standard (.string s)
  | array {items : List Json} : (forall j, j ∈ items -> Standard j) -> Standard (.array items)
  | object {members : List (String × Json)} :
      (forall m, m ∈ members -> Standard m.2) -> Standard (.object members)

mutual

def tokenList : Json -> List Token
  | .null => [.null]
  | .bool b => [.bool b]
  | .number n => [.number n]
  | .string s => [.string (some s)]
  | .array [] => [.openArray, .closeArray]
  | .array (j :: rest) => .openArray :: (tokenList j ++ itemTokens rest)
  | .object [] => [.openObject, .closeObject]
  | .object ((name, j) :: rest) =>
      .openObject :: .string (some name) :: .colon :: (tokenList j ++ memberTokens rest)

def itemTokens : List Json -> List Token
  | [] => [.closeArray]
  | j :: rest => .comma :: (tokenList j ++ itemTokens rest)

def memberTokens : List (String × Json) -> List Token
  | [] => [.closeObject]
  | (name, j) :: rest =>
      .comma :: .string (some name) :: .colon :: (tokenList j ++ memberTokens rest)

end

/-!
## One token at a time

Spaces are skipped, marks are tokens by themselves, and all others are told
apart by the character that they begin with.  No character that begins a number
begins anything else.
-/

theorem tokens_space {c : Char} (rest : List Char) (h : isSpace c = true) :
    tokens (c :: rest) = tokens rest := by
  rw [tokens, if_pos h]

theorem tokens_punctuation {c : Char} {t : Token} (rest : List Char)
    (hspace : isSpace c = false) (h : punctuation? c = some t) :
    tokens (c :: rest) = t :: tokens rest := by
  rw [tokens, if_neg (by simp [hspace]), h]

theorem tokens_takeToken {c : Char} {t : Token} {rest after : List Char}
    (hspace : isSpace c = false) (hmark : punctuation? c = none)
    (h : takeToken (c :: rest) = some (t, after)) :
    tokens (c :: rest) = t :: tokens after := by
  rw [tokens, if_neg (by simp [hspace]), hmark]
  simp only
  split
  · next heq =>
      rw [h] at heq
      cases heq
      rfl
  · next heq =>
      rw [h] at heq
      cases heq

theorem tokens_quote (s : String) (rest : List Char) :
    tokens (quote s ++ rest) = .string (some s) :: tokens rest := by
  have htake : takeToken ('"' :: (s.toList.flatMap escapeChar ++ '"' :: rest)) =
      some (.string (some s), rest) := by
    simp [takeToken, takeString_quoted]
  have htext : quote s ++ rest = '"' :: (s.toList.flatMap escapeChar ++ '"' :: rest) := by
    simp [quote]
  rw [htext]
  exact tokens_takeToken rfl rfl htake

theorem ne_of_number {c : Char} (d : Char) (h : c = '-' ∨ c.isDigit = true)
    (hd : d ≠ '-' ∧ d.isDigit = false) : c ≠ d := by
  rintro rfl
  rcases h with hminus | hdigit
  · exact hd.1 hminus
  · rw [hd.2] at hdigit
    cases hdigit

theorem takeToken_of_number {c : Char} (cs : List Char) (h : c = '-' ∨ c.isDigit = true) :
    takeToken (c :: cs) = (takeNumber (c :: cs)).map fun (n, after) => (.number n, after) := by
  rw [takeToken]
  · intro rest heq
    cases heq
    exact ne_of_number '"' h (by decide) rfl
  · intro rest heq
    cases heq
    exact ne_of_number 'n' h (by decide) rfl
  · intro rest heq
    cases heq
    exact ne_of_number 't' h (by decide) rfl
  · intro rest heq
    cases heq
    exact ne_of_number 'f' h (by decide) rfl

theorem isSpace_of_number {c : Char} (h : c = '-' ∨ c.isDigit = true) : isSpace c = false := by
  simp [isSpace, ne_of_number ' ' h (by decide), ne_of_number '\t' h (by decide),
    ne_of_number '\n' h (by decide), ne_of_number '\r' h (by decide)]

theorem punctuation?_of_number {c : Char} (h : c = '-' ∨ c.isDigit = true) :
    punctuation? c = none := by
  simp [punctuation?, ne_of_number '[' h (by decide), ne_of_number ']' h (by decide),
    ne_of_number '{' h (by decide), ne_of_number '}' h (by decide),
    ne_of_number ':' h (by decide), ne_of_number ',' h (by decide)]

theorem tokens_number {n : Numeral} {rest : List Char} (h : n.Standard)
    (hrest : EndsNumber rest) : tokens (n.text ++ rest) = .number n :: tokens rest := by
  rcases head_text h with ⟨c, cs, htext, hc⟩
  have htake := takeNumber_text h hrest
  rw [htext, List.cons_append] at htake ⊢
  apply tokens_takeToken (isSpace_of_number hc) (punctuation?_of_number hc)
  rw [takeToken_of_number _ hc, htake, Option.map_some]

/-!
## Containers, whatever their layout

The two forms write a container in the same way up to the spaces in three
places.  A layout holds these spaces, and the tokens of a container do not
depend on it.
-/

def AllSpaces (cs : List Char) : Prop :=
  forall c, c ∈ cs -> isSpace c = true

/-- The spaces before an item or a member, before the closing mark, and after a colon. -/
structure Spacing where
  gap : List Char
  closing : List Char
  afterColon : List Char
  gap_spaces : AllSpaces gap
  closing_spaces : AllSpaces closing
  afterColon_spaces : AllSpaces afterColon

namespace Spacing

def items (s : Spacing) (write : Json -> List Char) : List Json -> List Char
  | [] => s.closing ++ [']']
  | j :: rest => ',' :: (s.gap ++ write j ++ s.items write rest)

def array (s : Spacing) (write : Json -> List Char) : List Json -> List Char
  | [] => ['[', ']']
  | j :: rest => '[' :: (s.gap ++ write j ++ s.items write rest)

def members (s : Spacing) (write : Json -> List Char) : List (String × Json) -> List Char
  | [] => s.closing ++ ['}']
  | (name, j) :: rest =>
      ',' :: (s.gap ++ quote name ++ ':' :: (s.afterColon ++ write j ++ s.members write rest))

def object (s : Spacing) (write : Json -> List Char) : List (String × Json) -> List Char
  | [] => ['{', '}']
  | (name, j) :: rest =>
      '{' :: (s.gap ++ quote name ++ ':' :: (s.afterColon ++ write j ++ s.members write rest))

end Spacing

theorem tokens_spaces {cs : List Char} (h : AllSpaces cs) (rest : List Char) :
    tokens (cs ++ rest) = tokens rest := by
  induction cs with
  | nil => rfl
  | cons c cs ih =>
      rw [List.cons_append, tokens_space _ (h c List.mem_cons_self)]
      exact ih fun d hd => h d (List.mem_cons_of_mem _ hd)

theorem endsNumber_cons {c : Char} (rest : List Char)
    (h : c.isDigit = false ∧ c ≠ '.' ∧ c ≠ 'e' ∧ c ≠ 'E') : EndsNumber (c :: rest) := by
  intro d hd
  cases hd
  exact h

theorem endsNumber_spaces {cs rest : List Char} (h : AllSpaces cs) (hrest : EndsNumber rest) :
    EndsNumber (cs ++ rest) := by
  cases cs with
  | nil => exact hrest
  | cons c cs =>
      apply endsNumber_cons
      have hc := h c List.mem_cons_self
      simp only [isSpace, Bool.or_eq_true, decide_eq_true_eq] at hc
      rcases hc with ((rfl | rfl) | rfl) | rfl <;> decide

/-- The text is a way to write the value, wherever no number can go on after it. -/
def Tokenized (j : Json) (text : List Char) : Prop :=
  forall rest, EndsNumber rest -> tokens (text ++ rest) = tokenList j ++ tokens rest

theorem endsNumber_items (s : Spacing) (write : Json -> List Char) (items : List Json)
    (rest : List Char) : EndsNumber (s.items write items ++ rest) := by
  cases items with
  | nil =>
      rw [Spacing.items, List.append_assoc]
      exact endsNumber_spaces s.closing_spaces (endsNumber_cons _ (by decide))
  | cons j items => exact endsNumber_cons _ (by decide)

theorem endsNumber_members (s : Spacing) (write : Json -> List Char)
    (members : List (String × Json)) (rest : List Char) :
    EndsNumber (s.members write members ++ rest) := by
  cases members with
  | nil =>
      rw [Spacing.members, List.append_assoc]
      exact endsNumber_spaces s.closing_spaces (endsNumber_cons _ (by decide))
  | cons m members => exact endsNumber_cons _ (by decide)

theorem tokens_item (s : Spacing) {c : Char} {t : Token} (hspace : isSpace c = false)
    (hmark : punctuation? c = some t) {j : Json} {text : List Char} (h : Tokenized j text)
    {rest : List Char} (hrest : EndsNumber rest) :
    tokens (c :: (s.gap ++ (text ++ rest))) = t :: (tokenList j ++ tokens rest) := by
  rw [tokens_punctuation _ hspace hmark, tokens_spaces s.gap_spaces, h rest hrest]

theorem tokens_member (s : Spacing) {c : Char} {t : Token} (hspace : isSpace c = false)
    (hmark : punctuation? c = some t) (name : String) {j : Json} {text : List Char}
    (h : Tokenized j text) {rest : List Char} (hrest : EndsNumber rest) :
    tokens (c :: (s.gap ++ (quote name ++ ':' :: (s.afterColon ++ (text ++ rest))))) =
      t :: .string (some name) :: .colon :: (tokenList j ++ tokens rest) := by
  rw [tokens_punctuation _ hspace hmark, tokens_spaces s.gap_spaces, tokens_quote,
    tokens_punctuation _ rfl rfl, tokens_spaces s.afterColon_spaces, h rest hrest]

theorem tokens_items (s : Spacing) {write : Json -> List Char} {items : List Json}
    (h : forall j, j ∈ items -> Tokenized j (write j)) (rest : List Char) :
    tokens (s.items write items ++ rest) = itemTokens items ++ tokens rest := by
  induction items with
  | nil =>
      rw [Spacing.items, List.append_assoc, tokens_spaces s.closing_spaces]
      exact tokens_punctuation rest rfl rfl
  | cons j items ih =>
      have hothers := ih fun other hother => h other (List.mem_cons_of_mem _ hother)
      calc
        tokens (s.items write (j :: items) ++ rest) =
            tokens (',' :: (s.gap ++ (write j ++ (s.items write items ++ rest)))) := by
          simp [Spacing.items]
        _ = .comma :: (tokenList j ++ tokens (s.items write items ++ rest)) :=
          tokens_item s rfl rfl (h j List.mem_cons_self) (endsNumber_items s write items rest)
        _ = itemTokens (j :: items) ++ tokens rest := by
          rw [hothers]
          simp [itemTokens]

theorem tokens_members (s : Spacing) {write : Json -> List Char}
    {members : List (String × Json)}
    (h : forall m, m ∈ members -> Tokenized m.2 (write m.2)) (rest : List Char) :
    tokens (s.members write members ++ rest) = memberTokens members ++ tokens rest := by
  induction members with
  | nil =>
      rw [Spacing.members, List.append_assoc, tokens_spaces s.closing_spaces]
      exact tokens_punctuation rest rfl rfl
  | cons m members ih =>
      rcases m with ⟨name, j⟩
      have hothers := ih fun other hother => h other (List.mem_cons_of_mem _ hother)
      calc
        tokens (s.members write ((name, j) :: members) ++ rest) =
            tokens (',' :: (s.gap ++ (quote name ++
              ':' :: (s.afterColon ++ (write j ++ (s.members write members ++ rest)))))) := by
          simp [Spacing.members]
        _ = .comma :: .string (some name) :: .colon ::
              (tokenList j ++ tokens (s.members write members ++ rest)) :=
          tokens_member s rfl rfl name (h (name, j) List.mem_cons_self)
            (endsNumber_members s write members rest)
        _ = memberTokens ((name, j) :: members) ++ tokens rest := by
          rw [hothers]
          simp [memberTokens]

theorem tokenized_array (s : Spacing) {write : Json -> List Char} {items : List Json}
    (h : forall j, j ∈ items -> Tokenized j (write j)) :
    Tokenized (.array items) (s.array write items) := by
  intro rest _
  cases items with
  | nil =>
      show tokens ('[' :: ']' :: rest) = _
      rw [tokens_punctuation _ rfl rfl, tokens_punctuation _ rfl rfl]
      rfl
  | cons j items =>
      have hothers := tokens_items s
        (fun other hother => h other (List.mem_cons_of_mem _ hother)) rest
      calc
        tokens (s.array write (j :: items) ++ rest) =
            tokens ('[' :: (s.gap ++ (write j ++ (s.items write items ++ rest)))) := by
          simp [Spacing.array]
        _ = .openArray :: (tokenList j ++ tokens (s.items write items ++ rest)) :=
          tokens_item s rfl rfl (h j List.mem_cons_self) (endsNumber_items s write items rest)
        _ = tokenList (.array (j :: items)) ++ tokens rest := by
          rw [hothers]
          simp [tokenList]

theorem tokenized_object (s : Spacing) {write : Json -> List Char}
    {members : List (String × Json)}
    (h : forall m, m ∈ members -> Tokenized m.2 (write m.2)) :
    Tokenized (.object members) (s.object write members) := by
  intro rest _
  cases members with
  | nil =>
      show tokens ('{' :: '}' :: rest) = _
      rw [tokens_punctuation _ rfl rfl, tokens_punctuation _ rfl rfl]
      rfl
  | cons m members =>
      rcases m with ⟨name, j⟩
      have hothers := tokens_members s
        (fun other hother => h other (List.mem_cons_of_mem _ hother)) rest
      calc
        tokens (s.object write ((name, j) :: members) ++ rest) =
            tokens ('{' :: (s.gap ++ (quote name ++
              ':' :: (s.afterColon ++ (write j ++ (s.members write members ++ rest)))))) := by
          simp [Spacing.object]
        _ = .openObject :: .string (some name) :: .colon ::
              (tokenList j ++ tokens (s.members write members ++ rest)) :=
          tokens_member s rfl rfl name (h (name, j) List.mem_cons_self)
            (endsNumber_members s write members rest)
        _ = tokenList (.object ((name, j) :: members)) ++ tokens rest := by
          rw [hothers]
          simp [tokenList]

/-!
## The two forms

Both forms are containers with a spacing, the second one with a deeper one in
every container.  By induction on the value, either text of it has its tokens.
-/

theorem allSpaces_nil : AllSpaces [] := by
  intro c hc
  cases hc

theorem allSpaces_newLine (depth : Nat) : AllSpaces (newLine depth) := by
  intro c hc
  rcases List.mem_cons.mp hc with rfl | hc
  · rfl
  · rw [List.eq_of_mem_replicate hc]
    rfl

theorem allSpaces_blank : AllSpaces [' '] := by
  intro c hc
  rw [List.mem_singleton.mp hc]
  rfl

namespace Spacing

def none : Spacing :=
  { gap := [], closing := [], afterColon := []
    gap_spaces := allSpaces_nil
    closing_spaces := allSpaces_nil
    afterColon_spaces := allSpaces_nil }

def lines (depth : Nat) : Spacing :=
  { gap := newLine (depth + 1), closing := newLine depth, afterColon := [' ']
    gap_spaces := allSpaces_newLine (depth + 1)
    closing_spaces := allSpaces_newLine depth
    afterColon_spaces := allSpaces_blank }

theorem gap_none : none.gap = [] := rfl

theorem afterColon_none : none.afterColon = [] := rfl

theorem gap_lines (depth : Nat) : (lines depth).gap = newLine (depth + 1) := rfl

theorem afterColon_lines (depth : Nat) : (lines depth).afterColon = [' '] := rfl

theorem items_none (items : List Json) : none.items compact items = compactItems items := by
  induction items with
  | nil => rfl
  | cons j items ih =>
      rw [Spacing.items, compactItems, ih]
      rfl

theorem members_none (members : List (String × Json)) :
    none.members compact members = compactMembers members := by
  induction members with
  | nil => rfl
  | cons m members ih =>
      rcases m with ⟨name, j⟩
      rw [Spacing.members, compactMembers, ih]
      simp [gap_none, afterColon_none]

theorem items_lines (depth : Nat) (items : List Json) :
    (lines depth).items (spread (depth + 1)) items = spreadItems depth items := by
  induction items with
  | nil => rfl
  | cons j items ih =>
      rw [Spacing.items, spreadItems, ih]
      rfl

theorem members_lines (depth : Nat) (members : List (String × Json)) :
    (lines depth).members (spread (depth + 1)) members = spreadMembers depth members := by
  induction members with
  | nil => rfl
  | cons m members ih =>
      rcases m with ⟨name, j⟩
      rw [Spacing.members, spreadMembers, ih]
      simp [gap_lines, afterColon_lines]

theorem array_none (items : List Json) : none.array compact items = compact (.array items) := by
  cases items with
  | nil => rfl
  | cons j items => simp [Spacing.array, compact, items_none, gap_none]

theorem object_none (members : List (String × Json)) :
    none.object compact members = compact (.object members) := by
  cases members with
  | nil => rfl
  | cons m members =>
      rcases m with ⟨name, j⟩
      simp [Spacing.object, compact, members_none, gap_none, afterColon_none]

theorem array_lines (depth : Nat) (items : List Json) :
    (lines depth).array (spread (depth + 1)) items = spread depth (.array items) := by
  cases items with
  | nil => rfl
  | cons j items => simp [Spacing.array, spread, items_lines, gap_lines]

theorem object_lines (depth : Nat) (members : List (String × Json)) :
    (lines depth).object (spread (depth + 1)) members = spread depth (.object members) := by
  cases members with
  | nil => rfl
  | cons m members =>
      rcases m with ⟨name, j⟩
      simp [Spacing.object, spread, members_lines, gap_lines, afterColon_lines]

end Spacing

theorem tokenized_null : Tokenized .null ['n', 'u', 'l', 'l'] := by
  intro rest _
  exact tokens_takeToken rfl rfl rfl

theorem tokenized_true : Tokenized (.bool true) ['t', 'r', 'u', 'e'] := by
  intro rest _
  exact tokens_takeToken rfl rfl rfl

theorem tokenized_false : Tokenized (.bool false) ['f', 'a', 'l', 's', 'e'] := by
  intro rest _
  exact tokens_takeToken rfl rfl rfl

theorem tokenized_compact {j : Json} (h : j.Standard) : Tokenized j (compact j) := by
  induction h with
  | null => exact tokenized_null
  | bool b =>
      cases b
      · exact tokenized_false
      · exact tokenized_true
  | number hn =>
      intro rest hrest
      exact tokens_number hn hrest
  | string s =>
      intro rest _
      exact tokens_quote s rest
  | @array items _ ih =>
      rw [← Spacing.array_none]
      exact tokenized_array Spacing.none ih
  | @object members _ ih =>
      rw [← Spacing.object_none]
      exact tokenized_object Spacing.none ih

theorem tokenized_spread {j : Json} (h : j.Standard) (depth : Nat) :
    Tokenized j (spread depth j) := by
  induction h generalizing depth with
  | null => exact tokenized_null
  | bool b =>
      cases b
      · exact tokenized_false
      · exact tokenized_true
  | number hn =>
      intro rest hrest
      exact tokens_number hn hrest
  | string s =>
      intro rest _
      exact tokens_quote s rest
  | @array items _ ih =>
      rw [← Spacing.array_lines]
      exact tokenized_array (Spacing.lines depth) fun j hj => ih j hj (depth + 1)
  | @object members _ ih =>
      rw [← Spacing.object_lines]
      exact tokenized_object (Spacing.lines depth) fun m hm => ih m hm (depth + 1)

theorem tokens_written (form : Form) {j : Json} (h : j.Standard) :
    tokens (written form j).toList = tokenList j := by
  have hend : EndsNumber [] := by
    intro c hc
    cases hc
  cases form with
  | compact =>
      have htokens := tokenized_compact h [] hend
      rw [List.append_nil] at htokens
      rw [written, String.toList_ofList, htokens, tokens, List.append_nil]
  | spread =>
      have htokens := tokenized_spread h 0 [] hend
      rw [List.append_nil] at htokens
      rw [written, String.toList_ofList, htokens, tokens, List.append_nil]

end Json
end Drafting
