import ApprovalDesk.Json.Reader
import ApprovalDesk.Json.Writer
import ApprovalDesk.Proofs.Text.Hex

/-!
# A value is read back from its text

The writer and the reader of JSON meet at the lexemes. What the writer puts down for a value is cut
into the lexemes of that value, each string being one of them whatever characters it has, and the
lexemes are put together into the same value. So the text of a value without numbers determines the
value: nothing in a string can end it, or open a member that was not there.
-/

set_option autoImplicit false

namespace ApprovalDesk.Json

open ApprovalDesk.Text

/-! ## A string and its lexeme -/

/-- How a character stands inside a string: as a letter after a backslash, by its number, or as
itself. -/
inductive Escaped (c : Char) : List Char → Prop where
  | letter (e : Char) (meaning : escapeMeaning? e = some c) : Escaped c ['\\', e]
  | code (control : c.toNat < 0x20) :
    Escaped c ['\\', 'u', '0', '0', Hex.digit (c.toNat / 16), Hex.digit (c.toNat % 16)]
  | plain (quote : c ≠ '"') (backslash : c ≠ '\\') (visible : ¬ c.toNat < 0x20) : Escaped c [c]

theorem escaped_escapeChar (c : Char) : Escaped c (escapeChar c) := by
  unfold escapeChar
  split
  case h_8 quote backslash _ _ _ _ _ =>
    split
    case isTrue control =>
      rw [Hex.padded_four control]
      exact .code control
    case isFalse visible => exact .plain quote backslash visible
  all_goals exact .letter _ rfl

/-- The character of a piece, as long as it is no half of a pair. -/
inductive Piece.Means (c : Char) : Piece → Prop where
  | char : Means c (.char c)
  | unit (control : c.toNat < 0x20) : Means c (.unit c.toNat)

theorem joinPieces_of_means {c : Char} {p : Piece} (means : p.Means c) (ps : List Piece) :
    joinPieces (p :: ps) = (joinPieces ps).map (c :: ·) := by
  cases means with
  | char => rfl
  | unit control =>
    have high : isHighSurrogate c.toNat = false := by
      rw [isHighSurrogate, decide_eq_false (by omega), Bool.false_and]
    have low : isLowSurrogate c.toNat = false := by
      rw [isLowSurrogate, decide_eq_false (by omega), Bool.false_and]
    rcases ps with _ | ⟨p, ps⟩
    · simp [joinPieces, high, low]
    · cases p <;> simp [joinPieces, high, low]

/-- What an escaped character is cut into. -/
theorem pieces_of_escaped {c : Char} {text : List Char} (escaped : Escaped c text) :
    ∃ p : Piece, p.Means c ∧ ∀ us, pieces (text.map some ++ us) = (pieces us).map (p :: ·) := by
  cases escaped with
  | letter e meaning =>
    refine ⟨.char c, .char, fun us => ?_⟩
    unfold escapeMeaning? at meaning
    split at meaning <;> cases meaning <;> simp [pieces, escapeMeaning?] <;> cases pieces us <;> rfl
  | code control =>
    refine ⟨.unit c.toNat, .unit control, fun us => ?_⟩
    simp only [List.map_cons, List.map_nil, List.cons_append, List.nil_append, pieces,
      Hex.number?_digits (show c.toNat < 256 by omega)]
    cases pieces us <;> rfl
  | plain quote backslash visible =>
    refine ⟨.char c, .char, fun us => ?_⟩
    simp only [List.map_cons, List.map_nil, List.cons_append, List.nil_append]
    rw [pieces.eq_def]
    split <;> simp_all

/-- The pieces of an escaped string join to its characters. -/
theorem stringLexeme_escaped (cs : List Char) :
    stringLexeme ((cs.flatMap escapeChar).map some) = .str (some (String.ofList cs)) := by
  have joined : ∃ ps, pieces ((cs.flatMap escapeChar).map some) = some ps ∧ joinPieces ps = some cs := by
    induction cs with
    | nil => exact ⟨[], rfl, rfl⟩
    | cons c cs ih =>
      obtain ⟨ps, cut, join⟩ := ih
      obtain ⟨p, means, step⟩ := pieces_of_escaped (escaped_escapeChar c)
      refine ⟨p :: ps, ?_, ?_⟩
      · rw [List.flatMap_cons, List.map_append, step, cut, Option.map_some]
      · rw [joinPieces_of_means means, join, Option.map_some]
  obtain ⟨ps, cut, join⟩ := joined
  rw [stringLexeme, cut]
  dsimp only
  rw [join, Option.map_some]

/-- No escaped character ends the string it stands in. -/
theorem lexemesFrom_escaped {c : Char} {text : List Char} (escaped : Escaped c text)
    (read us : List (Option Char)) :
    lexemesFrom (.inString read) (text.map some ++ us) =
      lexemesFrom (.inString ((text.map some).reverse ++ read)) us := by
  have visible_digit : ∀ d < 16, ¬ (Hex.digit d).toNat < 0x20 ∧ Hex.digit d ≠ '"' ∧ Hex.digit d ≠ '\\' := by
    decide
  cases escaped with
  | letter e meaning => simp [lexemesFrom, cutStep]
  | code control =>
    have high := visible_digit (c.toNat / 16) (by omega)
    have low := visible_digit (c.toNat % 16) (by omega)
    simp [lexemesFrom, cutStep, high, low]
  | plain quote backslash visible => simp [lexemesFrom, cutStep, visible]

theorem lexemesFrom_inside (cs : List Char) (read us : List (Option Char)) :
    lexemesFrom (.inString read) ((cs.flatMap escapeChar).map some ++ us) =
      lexemesFrom (.inString (((cs.flatMap escapeChar).map some).reverse ++ read)) us := by
  induction cs generalizing read with
  | nil => rfl
  | cons c cs ih =>
    rw [List.flatMap_cons, List.map_append, List.append_assoc,
      lexemesFrom_escaped (escaped_escapeChar c), ih, List.reverse_append, List.append_assoc]

/-- A string is one lexeme. -/
theorem lexemesFrom_writeString (s : String) (us : List (Option Char)) :
    lexemesFrom .between ((writeString s).map some ++ us) = .str (some s) :: lexemesFrom .between us := by
  have opened : lexemesFrom .between ((writeString s).map some ++ us) =
      lexemesFrom (.inString []) ((s.toList.flatMap escapeChar).map some ++ (some '"' :: us)) := by
    simp [writeString, lexemesFrom, cutStep, startLexeme]
  have closed (read : List (Option Char)) : lexemesFrom (.inString read) (some '"' :: us) =
      stringLexeme read.reverse :: lexemesFrom .between us := rfl
  rw [opened, lexemesFrom_inside, closed, List.append_nil, List.reverse_reverse, stringLexeme_escaped,
    String.ofList_toList]

/-! ## A value and its lexemes -/

mutual

/-- The lexemes of a value. -/
def tokens : Json → List Lexeme
  | .null => [.null]
  | .bool b => [.bool b]
  | .num n => [.num (some n)]
  | .str s => [.str (some s)]
  | .arr items => .openBracket :: itemTokens items
  | .obj members => .openBrace :: memberTokens members

/-- The lexemes of the items of an array with the closing bracket. -/
def itemTokens : List Json → List Lexeme
  | [] => [.closeBracket]
  | [v] => tokens v ++ [.closeBracket]
  | v :: w :: rest => tokens v ++ .comma :: itemTokens (w :: rest)

/-- The lexemes of the members of an object with the closing brace. -/
def memberTokens : List (String × Json) → List Lexeme
  | [] => [.closeBrace]
  | [(n, v)] => .str (some n) :: .colon :: tokens v ++ [.closeBrace]
  | (n, v) :: m :: rest => .str (some n) :: .colon :: tokens v ++ .comma :: memberTokens (m :: rest)

end

mutual

/-- No number stands in the value. -/
def numberless : Json → Bool
  | .num _ => false
  | .arr items => numberlessItems items
  | .obj members => numberlessMembers members
  | .null | .bool _ | .str _ => true

def numberlessItems : List Json → Bool
  | [] => true
  | v :: rest => numberless v && numberlessItems rest

def numberlessMembers : List (String × Json) → Bool
  | [] => true
  | (_, v) :: rest => numberless v && numberlessMembers rest

end

/-- What may follow a value: nothing that could belong to its last word. -/
def EndsWord : List Char → Prop
  | [] => True
  | c :: _ => c ∈ [',', ']', '}']

theorem lexemesFrom_word (read : List Char) {us : List Char} (after : EndsWord us) :
    lexemesFrom (.inWord read) (us.map some) =
      wordLexeme read.reverse :: lexemesFrom .between (us.map some) := by
  cases us with
  | nil => rfl
  | cons c us =>
    have delimiter : c = ',' ∨ c = ']' ∨ c = '}' := by simpa [EndsWord] using after
    rcases delimiter with rfl | rfl | rfl <;> rfl

theorem lexemesFrom_comma (us : List (Option Char)) :
    lexemesFrom .between (some ',' :: us) = .comma :: lexemesFrom .between us := rfl

theorem lexemesFrom_name (n : String) (cs : List Char) :
    lexemesFrom .between ((writeString n ++ ':' :: cs).map some) =
      .str (some n) :: .colon :: lexemesFrom .between (cs.map some) := by
  rw [List.map_append, lexemesFrom_writeString]
  rfl

mutual

/-- The text of a value is cut into its lexemes. -/
theorem lexemesFrom_writeChars : ∀ (v : Json) (us : List Char), numberless v = true → EndsWord us →
    lexemesFrom .between ((writeChars v ++ us).map some) =
      tokens v ++ lexemesFrom .between (us.map some)
  | .null, us, _, after => lexemesFrom_word ['l', 'l', 'u', 'n'] after
  | .bool true, us, _, after => lexemesFrom_word ['e', 'u', 'r', 't'] after
  | .bool false, us, _, after => lexemesFrom_word ['e', 's', 'l', 'a', 'f'] after
  | .str s, us, _, _ => by
    rw [writeChars, List.map_append, lexemesFrom_writeString]
    rfl
  | .arr items, us, plain, _ => by
    have rest := lexemesFrom_writeItems items us (by simpa [numberless] using plain)
    simpa [writeChars, tokens, lexemesFrom, cutStep, startLexeme] using rest
  | .obj members, us, plain, _ => by
    have rest := lexemesFrom_writeMembers members us (by simpa [numberless] using plain)
    simpa [writeChars, tokens, lexemesFrom, cutStep, startLexeme] using rest

theorem lexemesFrom_writeItems : ∀ (items : List Json) (us : List Char), numberlessItems items = true →
    lexemesFrom .between ((writeItems items ++ us).map some) =
      itemTokens items ++ lexemesFrom .between (us.map some)
  | [], us, _ => rfl
  | [v], us, plain => by
    have whole := lexemesFrom_writeChars v (']' :: us) (by simpa [numberlessItems] using plain)
      (by simp [EndsWord])
    rw [writeItems, itemTokens, List.append_assoc, List.singleton_append, whole, List.append_assoc]
    rfl
  | v :: w :: rest, us, plain => by
    simp only [numberlessItems, Bool.and_eq_true] at plain
    have first := lexemesFrom_writeChars v (',' :: (writeItems (w :: rest) ++ us)) plain.1
      (by simp [EndsWord])
    have others := lexemesFrom_writeItems (w :: rest) us (by simpa [numberlessItems] using plain.2)
    rw [writeItems, itemTokens, List.append_assoc, List.cons_append, first, List.map_cons,
      lexemesFrom_comma, others, List.append_assoc, List.cons_append]

theorem lexemesFrom_writeMembers : ∀ (members : List (String × Json)) (us : List Char),
    numberlessMembers members = true →
    lexemesFrom .between ((writeMembers members ++ us).map some) =
      memberTokens members ++ lexemesFrom .between (us.map some)
  | [], us, _ => rfl
  | [(n, v)], us, plain => by
    have value := lexemesFrom_writeChars v ('}' :: us) (by simpa [numberlessMembers] using plain)
      (by simp [EndsWord])
    rw [writeMembers, memberTokens, List.append_assoc, List.append_assoc, List.cons_append,
      lexemesFrom_name, List.singleton_append, value, List.cons_append, List.cons_append,
      List.append_assoc]
    rfl
  | (n, v) :: m :: rest, us, plain => by
    simp only [numberlessMembers, Bool.and_eq_true] at plain
    have value := lexemesFrom_writeChars v (',' :: (writeMembers (m :: rest) ++ us)) plain.1
      (by simp [EndsWord])
    have others := lexemesFrom_writeMembers (m :: rest) us
      (by simpa [numberlessMembers] using plain.2)
    rw [writeMembers, memberTokens, List.append_assoc, List.cons_append, List.append_assoc,
      List.cons_append, lexemesFrom_name, value, List.map_cons, lexemesFrom_comma, others]
    simp only [List.cons_append, List.append_assoc]

end

/-! ## A value from its lexemes -/

mutual

/-- The value as it is put together, all of it legible. -/
def node : Json → Node
  | .arr items => .arr (itemNodes items)
  | .obj members => .obj (memberNodes members)
  | .null => .leaf (some .null)
  | .bool b => .leaf (some (.bool b))
  | .num n => .leaf (some (.num n))
  | .str s => .leaf (some (.str s))

def itemNodes : List Json → List Node
  | [] => []
  | v :: rest => node v :: itemNodes rest

def memberNodes : List (String × Json) → List (Option String × Node)
  | [] => []
  | (n, v) :: rest => (some n, node v) :: memberNodes rest

end

mutual

theorem value?_node : ∀ v : Json, (node v).value? = some v
  | .arr items => by rw [node, Node.value?, values?_itemNodes items, Option.map_some]
  | .obj members => by rw [node, Node.value?, members?_memberNodes members, Option.map_some]
  | .null | .bool _ | .num _ | .str _ => rfl

theorem values?_itemNodes : ∀ items : List Json, Node.values? (itemNodes items) = some items
  | [] => rfl
  | v :: rest => by rw [itemNodes, Node.values?, value?_node v, values?_itemNodes rest]

theorem members?_memberNodes : ∀ members : List (String × Json),
    Node.members? (memberNodes members) = some members
  | [] => rfl
  | (n, v) :: rest => by
    have value := value?_node v
    have others := members?_memberNodes rest
    simp only [memberNodes, Node.members?, value, others]

end

mutual

/-- The lexemes of a value put it where it is due. -/
theorem build_tokens : ∀ (v : Json) (frames : List Frame) (due : Due) (xs : List Lexeme),
    due = .value ∨ due = .valueOrClose →
    build (.openFrames frames due) (tokens v ++ xs) = build (place (node v) frames) xs
  | .null, frames, _, xs, start => by rcases start with rfl | rfl <;> rfl
  | .bool b, frames, _, xs, start => by rcases start with rfl | rfl <;> rfl
  | .num n, frames, _, xs, start => by rcases start with rfl | rfl <;> rfl
  | .str s, frames, _, xs, start => by rcases start with rfl | rfl <;> rfl
  | .arr items, frames, _, xs, start => by
    have rest := build_itemTokens items [] frames .valueOrClose xs (by simp)
    rw [node]
    rcases start with rfl | rfl <;> exact rest
  | .obj members, frames, _, xs, start => by
    have rest := build_memberTokens members [] frames .nameOrClose xs (by simp)
    rw [node]
    rcases start with rfl | rfl <;> exact rest

/-- The lexemes of items close the array that holds the earlier ones. -/
theorem build_itemTokens : ∀ (items : List Json) (earlier : List Node) (frames : List Frame) (due : Due)
    (xs : List Lexeme), due = .valueOrClose ∨ due = .value ∧ items ≠ [] →
    build (.openFrames (.arr earlier :: frames) due) (itemTokens items ++ xs) =
      build (place (.arr (earlier.reverse ++ itemNodes items)) frames) xs
  | [], earlier, frames, _, xs, start => by
    obtain rfl : _ = Due.valueOrClose := by simpa using start
    rw [itemNodes, List.append_nil]
    rfl
  | [v], earlier, frames, due, xs, start => by
    have item := build_tokens v (.arr earlier :: frames) due (.closeBracket :: xs)
      (start.symm.imp And.left id)
    rw [itemTokens, List.append_assoc, List.singleton_append, item, itemNodes, itemNodes,
      ← List.reverse_cons]
    rfl
  | v :: w :: rest, earlier, frames, due, xs, start => by
    have item := build_tokens v (.arr earlier :: frames) due
      (.comma :: (itemTokens (w :: rest) ++ xs)) (start.symm.imp And.left id)
    have others := build_itemTokens (w :: rest) (node v :: earlier) frames .value xs
      (.inr ⟨rfl, List.cons_ne_nil _ _⟩)
    rw [List.reverse_cons, List.append_assoc, List.singleton_append] at others
    rw [itemTokens, List.append_assoc, List.cons_append, item, itemNodes]
    exact others

theorem build_memberTokens : ∀ (members : List (String × Json)) (earlier : List (Option String × Node))
    (frames : List Frame) (due : Due) (xs : List Lexeme),
    due = .nameOrClose ∨ due = .name ∧ members ≠ [] →
    build (.openFrames (.obj earlier none :: frames) due) (memberTokens members ++ xs) =
      build (place (.obj (earlier.reverse ++ memberNodes members)) frames) xs
  | [], earlier, frames, _, xs, start => by
    obtain rfl : _ = Due.nameOrClose := by simpa using start
    rw [memberNodes, List.append_nil]
    rfl
  | [(n, v)], earlier, frames, due, xs, start => by
    have value := build_tokens v (.obj earlier (some n) :: frames) .value (.closeBrace :: xs) (.inl rfl)
    have named : build (.openFrames (.obj earlier none :: frames) due) (memberTokens [(n, v)] ++ xs) =
        build (.openFrames (.obj earlier (some n) :: frames) .value) (tokens v ++ .closeBrace :: xs) := by
      rw [memberTokens, List.append_assoc]
      rcases start with rfl | ⟨rfl, -⟩ <;> rfl
    rw [named, value, memberNodes, memberNodes, ← List.reverse_cons]
    rfl
  | (n, v) :: m :: rest, earlier, frames, due, xs, start => by
    have value := build_tokens v (.obj earlier (some n) :: frames) .value
      (.comma :: (memberTokens (m :: rest) ++ xs)) (.inl rfl)
    have others := build_memberTokens (m :: rest) ((some n, node v) :: earlier) frames .name xs
      (.inr ⟨rfl, List.cons_ne_nil _ _⟩)
    have named : build (.openFrames (.obj earlier none :: frames) due)
          (memberTokens ((n, v) :: m :: rest) ++ xs) =
        build (.openFrames (.obj earlier (some n) :: frames) .value)
          (tokens v ++ .comma :: (memberTokens (m :: rest) ++ xs)) := by
      rw [memberTokens, List.append_assoc]
      rcases start with rfl | ⟨rfl, -⟩ <;> rfl
    rw [List.reverse_cons, List.append_assoc, List.singleton_append] at others
    rw [named, value, memberNodes]
    exact others

end

/-- **The text of a value is read back**, whatever the strings and the names in it are. -/
theorem parse?_write {v : Json} (plain : numberless v = true) : parse? v.write = some v := by
  have cut := lexemesFrom_writeChars v [] plain trivial
  have built := build_tokens v [] .value [] (.inl rfl)
  have nothing : lexemesFrom .between (([] : List Char).map some) = [] := rfl
  rw [nothing, List.append_nil, List.append_nil] at cut
  rw [List.append_nil] at built
  rw [parse?, write, String.toList_ofList, lexemes, cut, built]
  exact value?_node v

end ApprovalDesk.Json
